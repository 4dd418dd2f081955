import FindFriendBot.Model.Session
import FindFriendBot.Registry.Ownership
import FindFriendBot.Storage.Pool

/-!
# FindFriendBot — SQL failures and what they leave behind

The cleanup of an operation assumes more than the driver promises: that
`allocate` obtained a connection, and that the pointers its `catch` block deletes
have a value. `Containable` names the driver calls that have to succeed for
that; a failure of any other call is contained. `Idle` is the state between
operations from which each operation starts.

* `executeUpdate_spec`, `findFriend_spec` — one operation from an idle session.
* `contained_iff` — every sequence of operations, with any failures.
* `run_refines`   — what the operations return is what `MemberModel` computes.
-/

namespace FindFriendBot

namespace Session

open DBConn (Settled Lent Obtains)

variable {σ : Type} (D : Driver σ)

/-- What an operation leaves of the objects it used: a free lock, the connection it took
in the pool or destroyed, once, and of its own objects none deleted twice. -/
structure Tidy (s : Session σ) (faults : ConnFaults) (s' : Session σ) : Prop where
  unlocked : s'.pool.locked = false
  connection : ∃ conn pool, s.pool.allocate faults = some (.ok (some conn, pool)) ∧
    s'.pool.freeList.count (some conn) + s'.pool.heap.deleted.count conn = 1
  deletes : ∃ created, s'.objects.deleted = created ++ s.objects.deleted ∧ created.Nodup ∧
    ∀ a ∈ created, s.objects.next ≤ a ∧ a < s'.objects.next

/-- The operation returns to its caller, and tidies up. That it does not call a method on
a null connection is part of its having defined behaviour. -/
def Contained (s : Session σ) (i : Operation × ConnFaults) (s' : Session σ) (out : Returned) :
    Prop :=
  out ≠ .exception ∧ Tidy s i.2 s'

/-- `setString` and `executeQuery` of `find_friend` succeed. -/
def Queries (pk : Bytes) (db : σ) : Prop :=
  (D.call db).1 = true ∧
    (D.executeQuery .selectMember [.string (cStr pk)] (D.call db).2).1.isSome = true

/-- A connection is obtained, `prepareStatement` succeeds, and in `find_friend` so do the
calls up to `executeQuery`. -/
def Containable (s : Session σ) (i : Operation × ConnFaults) : Prop :=
  Obtains s.pool i.2 ∧ (D.call s.db).1 = true ∧
    match i.1 with
    | .findFriend pk => Queries D pk (D.call s.db).2
    | _ => True

/-- The session between operations. One operation at a time runs, so one connection is
enough. -/
structure Idle (s : Session σ) : Prop where
  pool : s.pool.Settled
  single : s.pool.freeList.length ≤ 1
  members : s.memberMgr.Owned
  objects : ∀ a, ¬ s.objects.Live a

theorem idle_init (maxConn : Nat) (db : σ) : Idle (init maxConn db) where
  pool := DBConn.settled_init maxConn
  single := Nat.zero_le 1
  members := MemberMgr.owned_init
  objects := fun _ => Std.ExtTreeMap.not_mem_empty

-- ---------------------------------------------------------------------------
-- Before and after the driver calls
-- ---------------------------------------------------------------------------

/-- **`prepare`** has a statement on a lent connection, or the operation fails. -/
theorem prepare_spec {s : Session σ} (h : Idle s) (faults : ConnFaults) :
    (Obtains s.pool faults ∧ (D.call s.db).1 = true ∧ ∃ conn pool,
        s.pool.allocate faults = some (.ok (some conn, pool)) ∧ Lent pool conn ∧
        pool.freeList = [] ∧
        prepare D faults s = some (.ok ((some conn, s.objects.next),
          { s with pool := pool, objects := (s.objects.new ()).2, db := (D.call s.db).2 }))) ∨
      (¬ (Obtains s.pool faults ∧ (D.call s.db).1 = true) ∧
        (prepare D faults s = none ∨ ∃ s', prepare D faults s = some (.error s'))) := by
  unfold prepare
  rcases DBConn.allocate_spec h.pool faults with
    ⟨hobtains, conn, pool, halloc, hlent, hlist, -⟩ | ⟨hno, ⟨pool, halloc⟩ | ⟨pool, halloc, -⟩⟩
  -- the only connection of the pool is on loan
  · have hempty : pool.freeList = [] := by
      have hsingle := h.single
      rw [hlist, List.eq_nil_iff_length_eq_zero, List.length_dropLast]
      omega
    simp only [halloc, if_pos hlent.live]
    cases hcall : D.call s.db with
    | mk ok db =>
      cases ok with
      -- prepareStatement throws before pstmt has a value
      | false => exact Or.inr ⟨fun hboth => Bool.noConfusion hboth.2, Or.inl rfl⟩
      | true => exact Or.inl ⟨hobtains, rfl, conn, pool, rfl, hlent, hempty, rfl⟩
  -- allocate gave a null pointer
  · rw [halloc]
    exact Or.inr ⟨fun hboth => hno hboth.1, Or.inl rfl⟩
  -- isClosed throws, and that is outside of the try block
  · rw [halloc]
    exact Or.inr ⟨fun hboth => hno hboth.1, Or.inr ⟨_, rfl⟩⟩

theorem deleteObjects_spec (s : Session σ) {as : List Nat} (hnodup : as.Nodup)
    (hlive : ∀ a ∈ as, s.objects.Live a) :
    ∃ objects, deleteObjects as s = some { s with objects := objects } ∧
      objects.next = s.objects.next ∧ objects.deleted = as.reverse ++ s.objects.deleted ∧
      ∀ a, objects.Live a ↔ a ∉ as ∧ s.objects.Live a := by
  induction as generalizing s with
  -- induction on the objects, which are distinct and alive
  | nil => exact ⟨s.objects, rfl, rfl, rfl, fun a => by simp⟩
  | cons b as ih =>
    obtain ⟨hb, hnodup⟩ := List.nodup_cons.mp hnodup
    have hbl : s.objects.Live b := hlive b (List.mem_cons_self ..)
    obtain ⟨objects, hdelete, hdeleted, -, hlives⟩ := ObjectHeap.delete_of_live hbl
    have hnext : objects.next = s.objects.next := ObjectHeap.delete_next hdelete
    have hrest : ∀ a ∈ as, objects.Live a := fun a ha =>
      (hlives a).mpr ⟨fun heq => hb (heq ▸ ha), hlive a (List.mem_cons_of_mem _ ha)⟩
    obtain ⟨objects', hrun, hnext', hdeleted', hlives'⟩ :=
      ih { s with objects := objects } hnodup hrest
    refine ⟨objects', ?_, hnext'.trans hnext, ?_, ?_⟩
    · simp only [deleteObjects, hdelete]
      exact hrun
    · rw [hdeleted', List.reverse_cons, List.append_assoc]
      show as.reverse ++ objects.deleted = _
      rw [hdeleted]
      rfl
    · intro a
      rw [hlives']
      show a ∉ as ∧ objects.Live a ↔ _
      rw [hlives, List.mem_cons, not_or]
      tauto

/-- The objects `as`, and no others, are created after `objects` and live in `objects'`. -/
structure Created (objects : ObjectHeap Unit) (as : List Nat) (objects' : ObjectHeap Unit) :
    Prop where
  nodup : as.Nodup
  between : ∀ a ∈ as, objects.next ≤ a ∧ a < objects'.next
  deleted : objects'.deleted = objects.deleted
  live : ∀ a, objects'.Live a ↔ a ∈ as ∨ objects.Live a

theorem created_one (objects : ObjectHeap Unit) :
    Created objects [objects.next] (objects.new ()).2 where
  nodup := List.nodup_singleton _
  between := fun a ha => by
    obtain rfl := List.mem_singleton.mp ha
    exact ⟨Nat.le_refl _, Nat.lt_succ_self _⟩
  deleted := rfl
  live := fun a => by rw [ObjectHeap.live_new_iff, List.mem_singleton]

theorem created_two (objects : ObjectHeap Unit) :
    Created objects [objects.next, objects.next + 1] ((objects.new ()).2.new ()).2 where
  nodup := by simp
  between := fun a ha => by
    have hnext : ((objects.new ()).2.new ()).2.next = objects.next + 2 := rfl
    rw [List.mem_cons, List.mem_singleton] at ha
    omega
  deleted := rfl
  live := fun a => by
    have hnext : (objects.new ()).2.next = objects.next + 1 := rfl
    rw [ObjectHeap.live_new_iff, ObjectHeap.live_new_iff, hnext, List.mem_cons,
      List.mem_singleton]
    tauto

/-- **`finish`** tidies up after the operation, and the session is idle again. -/
theorem finish_spec {s : Session σ} (mid : Session σ) (h : Idle s) {faults : ConnFaults}
    {conn : Nat} (halloc : s.pool.allocate faults = some (.ok (some conn, mid.pool)))
    (hlent : Lent mid.pool conn) (hempty : mid.pool.freeList = []) {as : List Nat}
    (hcreated : Created s.objects as mid.objects) (hmembers : mid.memberMgr.Owned) :
    ∃ s', finish as (some conn) faults mid = some s' ∧ Tidy s faults s' ∧ Idle s' ∧
      s'.memberMgr = mid.memberMgr ∧ s'.db = mid.db := by
  -- the objects are deleted, and the connection goes back
  obtain ⟨objects, hdelete, hnext, hdeleted, hlives⟩ := deleteObjects_spec mid hcreated.nodup
    fun a ha => (hcreated.live a).mpr (Or.inl ha)
  have hroom : mid.pool.freeList.length ≤ mid.pool.maxConn := by
    rw [hempty]
    exact Nat.zero_le _
  obtain ⟨pool, hrelease, hsettled, -, hlist, -⟩ := DBConn.release_spec hlent hroom faults
  rw [hempty, List.nil_append] at hlist
  -- the pool has one element at most, so it is not past its limit
  have hkept : conn ∉ pool.heap.deleted := by
    intro hin
    obtain ⟨a, ha, hlive⟩ := (hsettled.mem_iff (some conn)).mp (by rw [hlist]; simp)
    obtain rfl := Option.some.inj ha
    exact pool.heap.deleted_dead _ hin hlive
  refine ⟨{ mid with pool := pool, objects := objects }, ?_, ?_, ?_, rfl, rfl⟩
  · simp only [finish, hdelete, hrelease]
  · refine ⟨hsettled.unlocked, ⟨conn, mid.pool, halloc, ?_⟩, as.reverse, ?_,
      List.nodup_reverse.mpr hcreated.nodup, ?_⟩
    · rw [hlist, List.count_singleton_self, List.count_eq_zero_of_not_mem hkept]
    · rw [← hcreated.deleted]
      exact hdeleted
    · intro a ha
      rw [show objects.next = mid.objects.next from hnext]
      exact hcreated.between a (List.mem_reverse.mp ha)
  · refine ⟨hsettled, ?_, hmembers, ?_⟩
    · show pool.freeList.length ≤ 1
      rw [hlist]
      exact Nat.le_refl 1
    -- what is alive now was alive before the operation
    · intro a hal
      obtain ⟨hout, hal⟩ := (hlives a).mp hal
      exact h.objects a (((hcreated.live a).mp hal).resolve_left hout)

-- ---------------------------------------------------------------------------
-- The operations
-- ---------------------------------------------------------------------------

theorem memberModel_executeUpdate {db : σ} (hcall : (D.call db).1 = true) (stmt : Statement)
    (params : List Param) :
    MemberModel.executeUpdate D stmt params db =
      MemberModel.runUpdate D stmt params (D.call db).2 := by
  unfold MemberModel.executeUpdate
  cases hpair : D.call db with
  | mk ok db' =>
    rw [hpair] at hcall
    obtain rfl : ok = true := hcall
    rfl

/-- **A writing operation** from an idle session. -/
theorem executeUpdate_spec {s : Session σ} (h : Idle s) (stmt : Statement)
    (params : List Param) (faults : ConnFaults) :
    (Obtains s.pool faults ∧ (D.call s.db).1 = true ∧ ∃ ret s',
        executeUpdate D stmt params faults s = some (.ok (ret, s')) ∧ Tidy s faults s' ∧
        Idle s' ∧ s'.memberMgr = s.memberMgr ∧
        MemberModel.executeUpdate D stmt params s.db = (ret, s'.db)) ∨
      (¬ (Obtains s.pool faults ∧ (D.call s.db).1 = true) ∧
        (executeUpdate D stmt params faults s = none ∨
          ∃ s', executeUpdate D stmt params faults s = some (.error s'))) := by
  unfold executeUpdate
  rcases prepare_spec D h faults with
    ⟨hobtains, hcall, conn, lent, halloc, hlent, hempty, hprepare⟩ |
    ⟨hno, hprepare | ⟨s', hprepare⟩⟩
  -- the try block is run, and its objects deleted behind it
  · refine Or.inl ⟨hobtains, hcall, ?_⟩
    rw [hprepare, memberModel_executeUpdate D hcall]
    cases hrun : MemberModel.runUpdate D stmt params (D.call s.db).2 with
    | mk ret db =>
      obtain ⟨s', hfinish, htidy, hidle, hmgr, hdb⟩ := finish_spec
        { s with pool := lent, objects := (s.objects.new ()).2, db := db } h halloc
        hlent hempty (created_one s.objects) h.members
      simp only [hrun, hfinish]
      exact ⟨ret, s', rfl, htidy, hidle, hmgr, by rw [hdb]⟩
  · rw [hprepare]
    exact Or.inr ⟨hno, Or.inl rfl⟩
  · rw [hprepare]
    exact Or.inr ⟨hno, Or.inr ⟨s', rfl⟩⟩

/-- From `res->next()` on nothing is undefined. -/
theorem readMember_spec {mgr : MemberMgr} (h : mgr.Owned) (res : Option ResultRow) (db : σ) :
    ∃ member mgr' db', MemberModel.readMember D res mgr db = some (member, mgr', db') ∧
      mgr'.Owned := by
  unfold MemberModel.readMember
  cases hnext : D.call db with
  | mk ok db =>
    cases ok with
    -- next() throws, and is caught
    | false => exact ⟨none, mgr, db, rfl, h⟩
    | true =>
      cases res with
      -- the query found no row
      | none => exact ⟨none, mgr, (D.call db).2, rfl, h⟩
      | some row =>
        -- the row is copied into a fresh member
        obtain ⟨a, mgr₁, halloc, hread, hupdate⟩ := MemberMgr.allocate_fill h
        cases hfill : MemberModel.fillMember D (MemberModel.columnSetters row) Member.new db with
        | mk filled db' =>
          obtain ⟨mgr', hupd, howned, -⟩ := hupdate filled
          refine ⟨some a, mgr', db', ?_, howned⟩
          simp only [halloc, ObjectHeap.deref_some, hread, hfill, hupd]

theorem memberModel_findFriend {pk : Bytes} {mgr : MemberMgr} {db : σ}
    (hcall : (D.call db).1 = true) (hset : (D.call (D.call db).2).1 = true)
    {res : Option ResultRow} {db' : σ}
    (hquery : D.executeQuery .selectMember [.string (cStr pk)] (D.call (D.call db).2).2 =
      (some res, db')) :
    MemberModel.findFriend D pk mgr db = MemberModel.readMember D res mgr db' := by
  unfold MemberModel.findFriend MemberModel.selectRow MemberModel.bindParams MemberModel.bindParams
    MemberModel.readMember
  cases hprepare : D.call db with
  | mk ok db₁ =>
    rw [hprepare] at hcall hset hquery
    obtain rfl : ok = true := hcall
    cases hbind : D.call db₁ with
    | mk ok db₂ =>
      rw [hbind] at hset hquery
      obtain rfl : ok = true := hset
      simp only [hbind, hquery]
      cases D.call db' with
      | mk ok db₃ =>
        cases ok with
        | false => rfl
        | true =>
          cases res with
          | none => rfl
          | some row => rfl

/-- **`find_friend`** from an idle session. -/
theorem findFriend_spec {s : Session σ} (h : Idle s) (pk : Bytes) (faults : ConnFaults) :
    ((Obtains s.pool faults ∧ (D.call s.db).1 = true ∧ Queries D pk (D.call s.db).2) ∧
        ∃ member s', findFriend D pk faults s = some (.ok (member, s')) ∧ Tidy s faults s' ∧
        Idle s' ∧
        MemberModel.findFriend D pk s.memberMgr s.db = some (member, s'.memberMgr, s'.db)) ∨
      (¬ (Obtains s.pool faults ∧ (D.call s.db).1 = true ∧ Queries D pk (D.call s.db).2) ∧
        (findFriend D pk faults s = none ∨
          ∃ s', findFriend D pk faults s = some (.error s'))) := by
  unfold findFriend
  rcases prepare_spec D h faults with
    ⟨hobtains, hcall, conn, lent, halloc, hlent, hempty, hprepare⟩ |
    ⟨hno, hprepare | ⟨s', hprepare⟩⟩
  · rw [hprepare]
    unfold MemberModel.bindParams MemberModel.bindParams Queries
    cases hbind : D.call (D.call s.db).2 with
    | mk ok db₁ =>
      cases ok with
      | false =>
        -- setString throws before res has a value
        simp only [hbind]
        exact Or.inr ⟨fun hall => Bool.noConfusion hall.2.2.1, Or.inl trivial⟩
      | true =>
        cases hquery : D.executeQuery .selectMember [.string (cStr pk)] db₁ with
        | mk row db₂ =>
          cases row with
          | none =>
            -- and so does executeQuery
            simp only [hbind, hquery]
            exact Or.inr ⟨fun hall => Bool.noConfusion hall.2.2.2, Or.inl trivial⟩
          | some row =>
            -- from here on every throw is caught, and both objects are deleted
            refine Or.inl ⟨⟨hobtains, hcall, rfl, by simp only [Option.isSome_some]⟩, ?_⟩
            have hset : (D.call (D.call s.db).2).1 = true := by rw [hbind]
            have hrow : D.executeQuery .selectMember [.string (cStr pk)]
                (D.call (D.call s.db).2).2 = (some row, db₂) := by
              rw [hbind]
              exact hquery
            obtain ⟨member, mgr, db, hread, howned⟩ := readMember_spec D h.members row db₂
            obtain ⟨s', hfinish, htidy, hidle, hmgr, hdb⟩ := finish_spec
              ⟨lent, ((s.objects.new ()).2.new ()).2, mgr, db⟩ h halloc hlent hempty
              (created_two s.objects) howned
            have hnew : ((s.objects.new ()).2.new ()).1 = s.objects.next + 1 := rfl
            simp only [hbind, hquery, hread, hnew, hfinish]
            refine ⟨member, s', rfl, htidy, hidle, ?_⟩
            rw [memberModel_findFriend D hcall hset hrow, hread, hmgr, hdb]
  · rw [hprepare]
    exact Or.inr ⟨fun hall => hno ⟨hall.1, hall.2.1⟩, Or.inl rfl⟩
  · rw [hprepare]
    exact Or.inr ⟨fun hall => hno ⟨hall.1, hall.2.1⟩, Or.inr ⟨s', rfl⟩⟩

-- ---------------------------------------------------------------------------
-- Runs
-- ---------------------------------------------------------------------------

/-- The operation as `MemberModel` alone computes it. -/
def Operation.compute (op : Operation) (mgr : MemberMgr) (db : σ) :
    Option (Returned × MemberMgr × σ) :=
  match op with
  | .addFriend tokId pk nickName bio createTime updateTime =>
    match MemberModel.addFriend D tokId pk nickName bio createTime updateTime db with
    | (ret, db) => some (.count ret, mgr, db)
  | .delFriend pk =>
    match MemberModel.delFriend D pk db with
    | (ret, db) => some (.count ret, mgr, db)
  | .updateFriendSignature pk signature updateTime =>
    match MemberModel.updateFriendSignature D pk signature updateTime db with
    | (ret, db) => some (.count ret, mgr, db)
  | .updateFriendBio pk bio updateTime =>
    match MemberModel.updateFriendBio D pk bio updateTime db with
    | (ret, db) => some (.count ret, mgr, db)
  | .updateFriendName pk name updateTime =>
    match MemberModel.updateFriendName D pk name updateTime db with
    | (ret, db) => some (.count ret, mgr, db)
  | .findFriend pk =>
    (MemberModel.findFriend D pk mgr db).map fun r => (.member r.1, r.2)

/-- The operations without their resources. -/
def computeMachine : StepMachine (MemberMgr × σ) Operation Returned where
  step := fun s op => (op.compute D s.1 s.2).map fun r => ((r.2.1, r.2.2), r.1)

/-- **Step lemma.** From an idle session a containable operation is contained and leaves
an idle one; any other has no defined behaviour or lets the exception out. -/
theorem step_spec {s : Session σ} (h : Idle s) (i : Operation × ConnFaults) :
    (Containable D s i ∧ ∃ s' out, step D s i = some (s', out) ∧ Contained s i s' out ∧
        Idle s' ∧ i.1.compute D s.memberMgr s.db = some (out, s'.memberMgr, s'.db)) ∨
      (¬ Containable D s i ∧
        (step D s i = none ∨ ∃ s', step D s i = some (s', .exception))) := by
  obtain ⟨op, faults⟩ := i
  -- the five writing operations differ in the statement and its parameters only
  have hwrite : ∀ stmt params,
      ((Obtains s.pool faults ∧ (D.call s.db).1 = true ∧ True) ∧ ∃ s' out,
        (executeUpdate D stmt params faults s).map (Outcome.returned .count) = some (s', out) ∧
        (out ≠ .exception ∧ Tidy s faults s') ∧ Idle s' ∧
        (match MemberModel.executeUpdate D stmt params s.db with
          | (ret, db) => some (Returned.count ret, s.memberMgr, db)) =
            some (out, s'.memberMgr, s'.db)) ∨
      (¬ (Obtains s.pool faults ∧ (D.call s.db).1 = true ∧ True) ∧
        ((executeUpdate D stmt params faults s).map (Outcome.returned .count) = none ∨
          ∃ s', (executeUpdate D stmt params faults s).map (Outcome.returned .count) =
            some (s', .exception))) := by
    intro stmt params
    rcases executeUpdate_spec D h stmt params faults with
      ⟨hobtains, hcall, ret, s', hexec, htidy, hidle, hmgr, hcompute⟩ |
      ⟨hno, hexec | ⟨s', hexec⟩⟩
    · rw [hexec, hcompute, hmgr.symm]
      exact Or.inl ⟨⟨hobtains, hcall, trivial⟩, s', .count ret, rfl,
        ⟨fun hne => Returned.noConfusion hne, htidy⟩, hidle, rfl⟩
    · rw [hexec]
      exact Or.inr ⟨fun hall => hno ⟨hall.1, hall.2.1⟩, Or.inl rfl⟩
    · rw [hexec]
      exact Or.inr ⟨fun hall => hno ⟨hall.1, hall.2.1⟩, Or.inr ⟨s', rfl⟩⟩
  cases op with
  -- each with its own statement
  | addFriend tokId pk nickName bio createTime updateTime => exact hwrite _ _
  | delFriend pk => exact hwrite _ _
  | updateFriendSignature pk signature updateTime => exact hwrite _ _
  | updateFriendBio pk bio updateTime => exact hwrite _ _
  | updateFriendName pk name updateTime => exact hwrite _ _
  | findFriend pk =>
    unfold step Containable Operation.compute
    rcases findFriend_spec D h pk faults with
      ⟨hall, member, s', hfind, htidy, hidle, hcompute⟩ | ⟨hno, hfind | ⟨s', hfind⟩⟩
    · simp only [hfind, hcompute]
      exact Or.inl ⟨hall, s', .member member, rfl,
        ⟨fun hne => Returned.noConfusion hne, htidy⟩, hidle, rfl⟩
    · simp only [hfind]
      exact Or.inr ⟨hno, Or.inl rfl⟩
    · simp only [hfind]
      exact Or.inr ⟨hno, Or.inr ⟨s', rfl⟩⟩

/-- An operation that returns was contained. -/
theorem contained_of_step {s s' : Session σ} (h : Idle s) {i : Operation × ConnFaults}
    {out : Returned} (hstep : step D s i = some (s', out)) (hout : out ≠ .exception) :
    Containable D s i ∧ Contained s i s' out ∧ Idle s' ∧
      i.1.compute D s.memberMgr s.db = some (out, s'.memberMgr, s'.db) := by
  rcases step_spec D h i with
    ⟨hyes, s₁, out₁, hstep', hc, hidle, hcompute⟩ | ⟨-, hstep' | ⟨s₁, hstep'⟩⟩
  · obtain ⟨rfl, rfl⟩ := Prod.mk.inj (Option.some.inj (hstep'.symm.trans hstep))
    exact ⟨hyes, hc, hidle, hcompute⟩
  · exact absurd (hstep'.symm.trans hstep) (by simp)
  · obtain ⟨-, rfl⟩ := Prod.mk.inj (Option.some.inj (hstep'.symm.trans hstep))
    exact absurd rfl hout

/-- **Containment.** In every sequence of operations, with any failures, each operation is
contained exactly if each is containable where it runs. -/
theorem contained_iff (maxConn : Nat) (db : σ) (is : List (Operation × ConnFaults)) :
    (machine D).EachStep Contained (init maxConn db) is ↔
      (machine D).Along (Containable D) (init maxConn db) is := by
  refine StepMachine.eachStep_iff_along Idle (fun s i h => ⟨?_, fun hyes => ?_⟩)
    (fun s i s' out h hstep hc => (contained_of_step D h hstep hc.1).2.2.1)
    is (init maxConn db) (idle_init maxConn db)
  · rintro ⟨s', out, hstep, hc⟩
    -- the property rules out both undefined behaviour and an exception
    exact (contained_of_step D h hstep hc.1).1
  · rcases step_spec D h i with ⟨-, s', out, hstep, hc, -⟩ | ⟨hno, -⟩
    · exact ⟨s', out, hstep, hc⟩
    · exact absurd hyes hno

/-- The server refuses the first connect: `find_friend` calls a method on a null pointer. -/
theorem refused_connect : ¬ (machine MySql.driver).EachStep Contained
    (init 8 ⟨⟨∅, 1⟩, none⟩)
    [(.findFriend [65], ⟨some false, .connectThrows, true⟩)] := by
  rintro ⟨s', out, hstep, -⟩
  have hnone : (machine MySql.driver).step (init 8 ⟨⟨∅, 1⟩, none⟩)
      (.findFriend [65], ⟨some false, .connectThrows, true⟩) = none := rfl
  rw [hnone] at hstep
  exact absurd hstep (by simp)

/-- `isClosed` throws on a pooled connection: the exception leaves the operation, the lock
stays held, and the next operation waits for it for ever. -/
example : ((machine MySql.driver).run (init 8 ⟨⟨∅, 1⟩, some 1⟩)
      [(.delFriend [65], ⟨some false, .ok, true⟩), (.delFriend [65], ⟨none, .ok, true⟩)]).map
    (fun r => (r.1.pool.locked, r.2)) = some (true, [.count 0, .exception]) := by
  rfl

/-- **Refinement.** In a run without an escaping exception the operations return, and do
to the registry and the database, what `MemberModel` computes. -/
theorem run_refines {is : List (Operation × ConnFaults)} {s t : Session σ} {os : List Returned}
    (h : Idle s) (hrun : (machine D).run s is = some (t, os)) (hos : Returned.exception ∉ os) :
    (computeMachine D).run (s.memberMgr, s.db) (is.map Prod.fst) =
      some ((t.memberMgr, t.db), os) := by
  -- induction on the operations; the session is idle between them
  induction is generalizing s os with
  | nil =>
    obtain ⟨rfl, rfl⟩ := Prod.mk.inj (Option.some.inj hrun)
    rfl
  | cons i is ih =>
    obtain ⟨s', out, os', hstep, hrest, rfl⟩ := StepMachine.run_cons_iff.mp hrun
    obtain ⟨hout, hos'⟩ := not_or.mp (List.mem_cons.not.mp hos)
    obtain ⟨-, -, hidle, hcompute⟩ := contained_of_step D h hstep (Ne.symm hout)
    have hfirst : (computeMachine D).step (s.memberMgr, s.db) i.1 =
        some ((s'.memberMgr, s'.db), out) := by
      simp only [computeMachine, hcompute, Option.map_some]
    exact StepMachine.run_cons_iff.mpr ⟨_, out, os', hfirst, ih hidle hrest hos', rfl⟩

end Session

end FindFriendBot
