import FindFriendBot.Model.Lending
import FindFriendBot.Storage.Containment

/-!
# FindFriendBot — every connection comes back

One operation at a time runs, so between operations the pool holds the only
connection there is, or none. Where the connect succeeds and `isClosed` answers,
each operation takes that connection, a new one, or the replacement of a closed
one, and gives it back once, whatever any other driver call does.

* `allocate_borrows`      — what `allocate` hands out, and what it deletes first.
* `tryBlock_spec`         — a `try` block, left by an exception or not, computes what
  `MemberModel` says.
* `connections_conserved` — every sequence of operations.
-/

namespace FindFriendBot

namespace DBConn

/-- At most one connection exists. -/
def Single (heap : ObjectHeap Unit) : Prop := ∀ a b, heap.Live a → heap.Live b → a = b

/-- What `allocate` does where it obtains `conn`: it creates the first connection, hands out
the pooled one, or deletes a closed one and then creates its replacement. -/
inductive Borrows (pool : DBConn) (faults : ConnFaults) (conn : Nat) (pool' : DBConn) : Prop
  | created (empty : pool.freeList = [])
      (heaps : allocateHeaps pool faults = [pool'.heap])
      (heap : pool'.heap = (pool.heap.new ()).2)
  | reused (pooled : pool.freeList = [some conn]) (open_ : faults.isClosed = some false)
      (heaps : allocateHeaps pool faults = [])
      (heap : pool'.heap = pool.heap)
  | replaced (old : Nat) (pooled : pool.freeList = [some old])
      (closed : faults.isClosed = some true) (emptied : ObjectHeap Unit)
      (deletes : pool.heap.delete old = some emptied)
      (heaps : allocateHeaps pool faults = [emptied, pool'.heap])
      (heap : pool'.heap = (emptied.new ()).2)

theorem Settled.single {pool : DBConn} (h : pool.Settled) (hlen : pool.freeList.length ≤ 1) :
    Single pool.heap := by
  intro a b ha hb
  have hina : some a ∈ pool.freeList := (h.mem_iff _).mpr ⟨a, rfl, ha⟩
  have hinb : some b ∈ pool.freeList := (h.mem_iff _).mpr ⟨b, rfl, hb⟩
  -- two live connections would both be in a list of one
  cases hlist : pool.freeList with
  | nil =>
    rw [hlist] at hina
    exact absurd hina List.not_mem_nil
  | cons p rest =>
    have hrest : rest = [] := by
      rw [hlist, List.length_cons] at hlen
      exact List.eq_nil_iff_length_eq_zero.mpr (by omega)
    rw [hlist, hrest, List.mem_singleton] at hina hinb
    exact Option.some.inj (hina.trans hinb.symm)

/-- A connection created where there was none is the only one. -/
theorem single_new {heap : ObjectHeap Unit} (hnone : ∀ a, ¬ heap.Live a) :
    Single (heap.new ()).2 := by
  intro a b ha hb
  rcases ObjectHeap.live_new_iff.mp ha with rfl | ha
  · rcases ObjectHeap.live_new_iff.mp hb with rfl | hb
    · rfl
    · exact absurd hb (hnone b)
  · exact absurd ha (hnone a)

theorem single_of_empty {heap : ObjectHeap Unit} (hnone : ∀ a, ¬ heap.Live a) : Single heap :=
  fun a _ ha _ => absurd ha (hnone a)

/-- **`allocate`** where the connect succeeds and `isClosed` answers. -/
theorem allocate_borrows {pool : DBConn} (h : pool.Settled) (hlen : pool.freeList.length ≤ 1)
    {faults : ConnFaults} (hconnect : faults.connect = .ok) (hanswers : faults.isClosed ≠ none) :
    ∃ conn pool', pool.allocate faults = some (.ok (some conn, pool')) ∧
      Borrows pool faults conn pool' := by
  unfold allocate
  rw [acquireLock_of_unlocked h.unlocked]
  cases hlist : pool.freeList with
  -- the pool is empty
  | nil =>
    simp only [hconnect, createConnection, List.getLast?_nil]
    refine ⟨_, _, rfl, Borrows.created hlist ?_ rfl⟩
    simp only [allocateHeaps, hlist, List.getLast?_nil, hconnect, createHeaps, releaseLock]
  -- the one connection of the pool
  | cons p rest =>
    obtain rfl : rest = [] := by
      rw [hlist, List.length_cons] at hlen
      exact List.eq_nil_iff_length_eq_zero.mpr (by omega)
    have hin : p ∈ pool.freeList := by
      rw [hlist]
      exact List.mem_singleton_self p
    obtain ⟨old, rfl, hlive⟩ := (h.mem_iff p).mp hin
    simp only [List.getLast?_singleton, if_pos hlive]
    cases hclosed : faults.isClosed with
    | none => exact absurd hclosed hanswers
    | some closed =>
      cases closed with
      | false =>
        refine ⟨old, _, rfl, Borrows.reused hlist hclosed ?_ rfl⟩
        simp only [allocateHeaps, hlist, List.getLast?_singleton, hclosed]
      | true =>
        obtain ⟨emptied, hdelete, -, -, -⟩ := ObjectHeap.delete_of_live hlive
        simp only [deleteConn, hdelete, hconnect, createConnection]
        refine ⟨_, _, rfl, Borrows.replaced old hlist hclosed emptied hdelete ?_ rfl⟩
        simp only [allocateHeaps, hlist, List.getLast?_singleton, hclosed, hdelete, hconnect,
          createHeaps, releaseLock]

/-- At no time during `allocate` are there two connections. -/
theorem Borrows.single {pool pool' : DBConn} {faults : ConnFaults} {conn : Nat}
    (hborrows : Borrows pool faults conn pool') (h : pool.Settled) :
    ∀ heap ∈ allocateHeaps pool faults, Single heap := by
  intro heap hheap
  cases hborrows with
  | created empty heaps hnew =>
    rw [heaps, List.mem_singleton] at hheap
    rw [hheap, hnew]
    -- nothing was alive in an empty pool
    refine single_new fun a hlive => ?_
    have hin : some a ∈ pool.freeList := (h.mem_iff _).mpr ⟨a, rfl, hlive⟩
    rw [empty] at hin
    exact absurd hin List.not_mem_nil
  | reused pooled open_ heaps hsame =>
    rw [heaps] at hheap
    exact absurd hheap List.not_mem_nil
  | replaced old pooled closed emptied deletes heaps hnew =>
    -- the old connection was the only one
    have hnone : ∀ a, ¬ emptied.Live a := by
      have hold : pool.heap.Live old := by
        obtain ⟨a, ha, hlive⟩ := (h.mem_iff (some old)).mp (by rw [pooled]; simp)
        exact Option.some.inj ha ▸ hlive
      obtain ⟨heap', hdelete, -, -, hlives⟩ := ObjectHeap.delete_of_live hold
      obtain rfl := Option.some.inj (hdelete.symm.trans deletes)
      intro a hlive
      obtain ⟨hne, hlive⟩ := (hlives a).mp hlive
      have hin : some a ∈ pool.freeList := (h.mem_iff _).mpr ⟨a, rfl, hlive⟩
      rw [pooled, List.mem_singleton] at hin
      exact hne (Option.some.inj hin)
    rw [heaps, List.mem_cons, List.mem_singleton] at hheap
    rcases hheap with rfl | rfl
    · exact single_of_empty hnone
    · rw [hnew]
      exact single_new hnone

/-- The connection `allocate` hands out is on loan, and the pool is empty. -/
theorem lent_of_allocate {pool pool' : DBConn} (h : pool.Settled)
    (hlen : pool.freeList.length ≤ 1) {faults : ConnFaults} {conn : Nat}
    (halloc : pool.allocate faults = some (.ok (some conn, pool'))) :
    Lent pool' conn ∧ pool'.freeList = [] := by
  rcases allocate_spec h faults with
    ⟨-, conn₁, pool₁, halloc₁, hlent, hlist, -⟩ | ⟨-, ⟨pool₁, halloc₁⟩ | ⟨pool₁, halloc₁, -⟩⟩
  -- a connection was lent, the one of allocate_spec
  · rw [halloc₁] at halloc
    simp only [Option.some.injEq, Except.ok.injEq, Prod.mk.injEq] at halloc
    obtain ⟨rfl, rfl⟩ := halloc
    refine ⟨hlent, ?_⟩
    rw [hlist, List.eq_nil_iff_length_eq_zero, List.length_dropLast]
    omega
  · rw [halloc₁] at halloc
    simp at halloc
  · rw [halloc₁] at halloc
    simp at halloc

theorem release_heap {pool pool' : DBConn} {conn : Ptr} {faults : ConnFaults}
    (hroom : pool.freeList.length ≤ pool.maxConn) (hunlocked : pool.locked = false)
    (hrelease : pool.release conn faults = some pool') : pool'.heap = pool.heap := by
  unfold release at hrelease
  rw [if_neg (by omega), acquireLock_of_unlocked hunlocked] at hrelease
  rw [← Option.some.inj hrelease]
  rfl

end DBConn

namespace MemberModel

variable {σ : Type} (D : Driver σ)

-- ---------------------------------------------------------------------------
-- The `try` blocks
-- ---------------------------------------------------------------------------

theorem tryUpdate_spec (stmt : Statement) (params : List Param) (db : σ) :
    (tryUpdate D stmt params db).2 = executeUpdate D stmt params db := by
  unfold tryUpdate executeUpdate
  cases D.call db with
  | mk ok db =>
    cases ok with
    | false => rfl
    | true =>
      cases hbind : bindParams D params db with
      | mk ok db =>
        cases ok with
        | false => simp only [hbind]
        | true =>
          simp only [hbind]
          cases D.executeUpdate stmt params db with
          | mk ret db => cases ret <;> rfl

theorem tryFill_spec (setters : List (Member → Member)) (m : Member) (db : σ) :
    ∃ ended filled db', tryFill D setters m db = (ended, filled, db') ∧
      fillMember D setters m db = (filled, if ended then (D.call db').2 else db') := by
  -- induction on the setters
  induction setters generalizing m db with
  | nil => exact ⟨true, m, db, rfl, rfl⟩
  | cons set rest ih =>
    unfold tryFill fillMember
    cases D.call db with
    | mk ok db =>
      cases ok with
      | false => exact ⟨false, m, db, rfl, rfl⟩
      | true => exact ih (set m) db

theorem tryFind_spec (pk : Bytes) (mgr : MemberMgr) (db : σ) :
    (tryFind D pk mgr db).map Prod.snd = findFriend D pk mgr db := by
  -- call by call, the block and the operation make the same calls
  unfold tryFind findFriend selectRow
  cases D.call db with
  | mk ok db =>
    cases ok with
    | false => rfl
    | true =>
      cases hbind : bindParams D [.string (cStr pk)] db with
      | mk ok db =>
        cases ok with
        | false => simp only [hbind, Option.map_some]
        | true =>
          cases hquery : D.executeQuery .selectMember [.string (cStr pk)] db with
          | mk res db =>
            cases res with
            | none => simp only [hbind, hquery, Option.map_some]
            | some res =>
              simp only [hbind, hquery]
              cases D.call db with
              | mk ok db =>
                cases ok with
                | false => rfl
                | true =>
                  cases res with
                  | none => rfl
                  | some row =>
                    simp only
                    cases mgr.allocate with
                    | none => rfl
                    | some p =>
                      obtain ⟨member, mgr⟩ := p
                      simp only
                      cases mgr.heap.deref member with
                      | none => rfl
                      | some m =>
                        obtain ⟨ended, filled, db', htry, hfill⟩ :=
                          tryFill_spec D (columnSetters row) m db
                        simp only [htry, hfill]
                        cases ended <;> cases hupd : mgr.update member (fun _ => filled) <;>
                          simp [hupd]

/-- `find_friend` is defined on an owned registry, whatever the driver does. -/
theorem findFriend_total {mgr : MemberMgr} (h : mgr.Owned) (pk : Bytes) (db : σ) :
    ∃ member mgr' db', findFriend D pk mgr db = some (member, mgr', db') ∧ mgr'.Owned := by
  unfold findFriend
  -- whatever the driver's calls do, the result is defined
  cases selectRow D pk db with
  | mk row db =>
    cases row with
    | none => exact ⟨none, mgr, db, rfl, h⟩
    | some row =>
      obtain ⟨a, mgr₁, halloc, hread, hupdate⟩ := MemberMgr.allocate_fill h
      cases hfill : fillMember D (columnSetters row) Member.new db with
      | mk filled db' =>
        obtain ⟨mgr', hupd, howned, -⟩ := hupdate filled
        refine ⟨some a, mgr', db', ?_, howned⟩
        simp only [halloc, ObjectHeap.deref_some, hread, hfill, hupd]

end MemberModel

namespace Lending

open DBConn (Single Borrows allocateHeaps)

variable {σ : Type} (D : Driver σ)

/-- **A `try` block** that is left early has computed no less than the operation returns. -/
theorem tryBlock_spec (op : Session.Operation) {mgr : MemberMgr} (h : mgr.Owned) (db : σ) :
    ∃ ended returned mgr' db', tryBlock D op mgr db = some (ended, returned, mgr', db') ∧
      op.compute D mgr db = some (returned, mgr', db') ∧ returned ≠ .exception ∧
      mgr'.Owned := by
  -- the five writing operations differ in the statement and its parameters only
  have hwrite : ∀ stmt params,
      ∃ ended returned mgr' db',
        some ((MemberModel.tryUpdate D stmt params db).1,
          Session.Returned.count (MemberModel.tryUpdate D stmt params db).2.1, mgr,
          (MemberModel.tryUpdate D stmt params db).2.2) = some (ended, returned, mgr', db') ∧
        some (Session.Returned.count (MemberModel.executeUpdate D stmt params db).1, mgr,
          (MemberModel.executeUpdate D stmt params db).2) = some (returned, mgr', db') ∧
        returned ≠ .exception ∧ mgr'.Owned := by
    intro stmt params
    rw [← MemberModel.tryUpdate_spec D stmt params db]
    exact ⟨_, _, _, _, rfl, rfl, Session.Returned.noConfusion, h⟩
  cases op with
  | addFriend tokId pk nickName bio createTime updateTime => exact hwrite _ _
  | delFriend pk => exact hwrite _ _
  | updateFriendSignature pk signature updateTime => exact hwrite _ _
  | updateFriendBio pk bio updateTime => exact hwrite _ _
  | updateFriendName pk name updateTime => exact hwrite _ _
  | findFriend pk =>
    obtain ⟨member, mgr', db', hfind, howned⟩ := MemberModel.findFriend_total D h pk db
    have hspec := MemberModel.tryFind_spec D pk mgr db
    rw [hfind, Option.map_eq_some_iff] at hspec
    obtain ⟨⟨ended, result⟩, htry, hresult⟩ := hspec
    obtain rfl : result = (member, mgr', db') := hresult
    refine ⟨ended, .member member, mgr', db', ?_, ?_, Session.Returned.noConfusion, howned⟩
    · simp only [tryBlock, htry]
    · simp only [Session.Operation.compute, hfind, Option.map_some]

-- ---------------------------------------------------------------------------
-- Runs
-- ---------------------------------------------------------------------------

/-- What an operation does to the connections: it returns what `MemberModel` computes, gives
back what it took, once, and leaves the pool settled with that one connection in it; it
deletes a closed connection, once and before it creates the replacement, and no other; and
there are never two connections. -/
structure Conserves (s : Lending σ) (i : Session.Operation × ConnFaults) (s' : Lending σ)
    (use : Use) : Prop where
  computes : i.1.compute D s.memberMgr s.db = some (use.returned, s'.memberMgr, s'.db)
  returns : use.returned ≠ .exception
  givesBack : ∃ conn, use.taken = some conn ∧ use.released = [some conn] ∧
    s'.pool.freeList = [some conn]
  settled : s'.pool.Settled
  replaces : ∀ old, s.pool.freeList.getLast? = some (some old) → i.2.isClosed = some true →
    ∃ emptied, s.pool.heap.delete old = some emptied ∧
      allocateHeaps s.pool i.2 = [emptied, s'.pool.heap] ∧
      s'.pool.heap.deleted = old :: s.pool.heap.deleted
  keeps : s.pool.freeList = [] ∨ i.2.isClosed = some false →
    s'.pool.heap.deleted = s.pool.heap.deleted
  single : ∀ heap ∈ s.pool.heap :: allocateHeaps s.pool i.2 ++ [s'.pool.heap], Single heap

/-- The process between operations. -/
structure Resting (s : Lending σ) : Prop where
  pool : s.pool.Settled
  short : s.pool.freeList.length ≤ 1
  members : s.memberMgr.Owned

/-- The connect succeeds and `isClosed` answers. -/
def Answered (faults : ConnFaults) : Prop := faults.connect = .ok ∧ faults.isClosed ≠ none

theorem resting_init (maxConn : Nat) (db : σ) : Resting (init maxConn db) where
  pool := DBConn.settled_init maxConn
  short := Nat.zero_le 1
  members := MemberMgr.owned_init

/-- **Step lemma.** -/
theorem step_spec {s : Lending σ} (h : Resting s) (i : Session.Operation × ConnFaults)
    (hi : Answered i.2) :
    ∃ s' use, step D s i = some (s', use) ∧ Conserves D s i s' use ∧ Resting s' := by
  -- the connection is lent, the operation runs, and it goes back
  obtain ⟨conn, pool, halloc, hborrows⟩ := DBConn.allocate_borrows h.pool h.short hi.1 hi.2
  obtain ⟨hlent, hempty⟩ := DBConn.lent_of_allocate h.pool h.short halloc
  have hroom : pool.freeList.length ≤ pool.maxConn := by
    rw [hempty]
    exact Nat.zero_le _
  obtain ⟨pool', hrelease, hsettled, -, hlist, -⟩ := DBConn.release_spec hlent hroom i.2
  rw [hempty, List.nil_append] at hlist
  have hheap := DBConn.release_heap hroom hlent.unlocked hrelease
  obtain ⟨ended, returned, mgr, db, htry, hcompute, hreturned, howned⟩ :=
    tryBlock_spec D i.1 h.members s.db
  have hshort : pool'.freeList.length ≤ 1 := by
    rw [hlist]
    exact Nat.le_refl 1
  refine ⟨⟨pool', mgr, db⟩, ⟨returned, some conn, [some conn]⟩, ?_, ⟨hcompute, hreturned,
    ⟨conn, rfl, rfl, hlist⟩, hsettled, ?_, ?_, ?_⟩, ⟨hsettled, hshort, howned⟩⟩
  · -- the two releases are in the two branches of one match
    cases ended <;>
      simp only [step, halloc, if_pos hlent.live, htry, release, hrelease, List.nil_append]
  -- the connection that was closed is deleted, and nothing else
  · intro old hlast hclosed
    cases hborrows with
    | created empty =>
      rw [empty] at hlast
      exact absurd hlast (by simp)
    | reused pooled open_ =>
      rw [hclosed] at open_
      exact absurd open_ (by simp)
    | replaced old' pooled closed emptied deletes heaps heap =>
      rw [pooled, List.getLast?_singleton] at hlast
      obtain rfl := Option.some.inj (Option.some.inj hlast)
      have hdeleted : emptied.deleted = old' :: s.pool.heap.deleted :=
        ObjectHeap.delete_deleted deletes
      refine ⟨emptied, deletes, ?_, ?_⟩
      · rw [heaps, hheap]
      · show pool'.heap.deleted = _
        rw [hheap, heap]
        exact hdeleted
  -- otherwise nothing is deleted
  · intro hkept
    show pool'.heap.deleted = _
    rw [hheap]
    cases hborrows with
    | created empty heaps heap =>
      rw [heap]
      rfl
    | reused pooled open_ heaps heap => rw [heap]
    | replaced old pooled closed =>
      rw [pooled, closed] at hkept
      exact absurd hkept (by simp)
  -- never two connections, on none of the heaps in between
  · intro heap hmem
    rw [List.mem_append, List.mem_cons, List.mem_singleton] at hmem
    rcases hmem with (rfl | hmem) | rfl
    · exact h.pool.single h.short
    · exact hborrows.single h.pool heap hmem
    · exact hsettled.single hshort

/-- **Conservation.** In every sequence of operations whose connects succeed, each operation
conserves the connections. -/
theorem connections_conserved (maxConn : Nat) (db : σ)
    (is : List (Session.Operation × ConnFaults)) (his : ∀ i ∈ is, Answered i.2) :
    (machine D).EachStep (Conserves D) (init maxConn db) is :=
  StepMachine.eachStep_of_along Resting (fun _ i h hi => step_spec D h i hi) is
    (init maxConn db) (resting_init maxConn db) (StepMachine.along_of_forall his _)

/-- The connection the first operation created is closed when the second comes. -/
theorem connections_conserved_two :
    (machine MySql.driver).EachStep (Conserves MySql.driver) (init 0 ⟨⟨∅, 1⟩, some 2⟩)
      [(.findFriend [65], ⟨some false, .ok, true⟩), (.delFriend [65], ⟨some true, .ok, true⟩)] :=
  connections_conserved MySql.driver 0 ⟨⟨∅, 1⟩, some 2⟩ _ (by simp [Answered])

end Lending

end FindFriendBot
