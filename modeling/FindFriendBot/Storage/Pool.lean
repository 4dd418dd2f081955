import FindFriendBot.Model.DBConn

/-!
# FindFriendBot — connections on loan

Between operations every connection is in `free_list_`, once, and nothing else
is (`Settled`). `allocate` lends one connection out, or gives none: when the
connect fails it returns a null pointer, and when `isClosed` throws it keeps the
lock and loses the connection it had taken from the list. `release` settles the
pool again.

* `allocate_took` — what `allocate` takes from the list and what it leaves.
* `allocate_spec` — what is lent, and exactly when.
* `release_spec`  — what is given back.
-/

namespace FindFriendBot

namespace DBConn

/-- The pool between operations. -/
structure Settled (pool : DBConn) : Prop where
  unlocked : pool.locked = false
  nodup : pool.freeList.Nodup
  mem_iff : ∀ p, p ∈ pool.freeList ↔ ∃ a, p = some a ∧ pool.heap.Live a

/-- The pool while `conn` is on loan. -/
structure Lent (pool : DBConn) (conn : Nat) : Prop where
  live : pool.heap.Live conn
  unlocked : pool.locked = false
  nodup : pool.freeList.Nodup
  mem_iff : ∀ p, p ∈ pool.freeList ↔ ∃ a, p = some a ∧ a ≠ conn ∧ pool.heap.Live a

/-- When `allocate` obtains a connection: one is pooled, `isClosed` answers, and where a
new one is needed the connect succeeds. -/
def Obtains (pool : DBConn) (faults : ConnFaults) : Prop :=
  if pool.freeList = [] then faults.connect = .ok
  else faults.isClosed = some false ∨ faults.isClosed = some true ∧ faults.connect = .ok

theorem settled_init (maxConn : Nat) : (init maxConn).Settled where
  unlocked := rfl
  nodup := List.nodup_nil
  mem_iff := fun p => by
    refine iff_of_false List.not_mem_nil ?_
    rintro ⟨a, -, hlive⟩
    exact absurd hlive Std.ExtTreeMap.not_mem_empty

theorem acquireLock_of_unlocked {pool : DBConn} (h : pool.locked = false) :
    pool.acquireLock = some { pool with locked := true } := by
  unfold acquireLock
  rw [h]
  rfl

-- ---------------------------------------------------------------------------
-- Creating and deleting
-- ---------------------------------------------------------------------------

/-- Apart from the heap the pool stays as it is. -/
structure SameList (pool pool' : DBConn) : Prop where
  freeList : pool'.freeList = pool.freeList
  maxConn : pool'.maxConn = pool.maxConn
  locked : pool'.locked = pool.locked

theorem deleteConn_spec (pool : DBConn) {conn : Nat} (h : pool.heap.Live conn) :
    ∃ pool', pool.deleteConn conn = some pool' ∧ SameList pool pool' ∧
      pool'.heap.deleted = conn :: pool.heap.deleted ∧
      ∀ a, pool'.heap.Live a ↔ a ≠ conn ∧ pool.heap.Live a := by
  obtain ⟨heap, hdelete, hdeleted, -, hlive⟩ := ObjectHeap.delete_of_live h
  refine ⟨{ pool with heap := heap }, ?_, ⟨rfl, rfl, rfl⟩, hdeleted, hlive⟩
  unfold deleteConn
  rw [hdelete]

/-- A connect succeeds with one more connection, or leaves the connections as they were
and returns a null pointer. -/
theorem createConnection_spec (pool : DBConn) (outcome : ConnectOutcome) :
    (outcome = .ok ∧ ∃ conn pool', pool.createConnection outcome = some (some conn, pool') ∧
        SameList pool pool' ∧ ¬ pool.heap.Live conn ∧
        ∀ a, pool'.heap.Live a ↔ a = conn ∨ pool.heap.Live a) ∨
      (outcome ≠ .ok ∧ ∃ pool', pool.createConnection outcome = some (none, pool') ∧
        SameList pool pool' ∧ ∀ a, pool'.heap.Live a ↔ pool.heap.Live a) := by
  cases outcome with
  | ok =>
    exact Or.inl ⟨rfl, pool.heap.next, { pool with heap := (pool.heap.new ()).2 }, rfl,
      ⟨rfl, rfl, rfl⟩, pool.heap.next_not_live, fun a => ObjectHeap.live_new_iff⟩
  | connectThrows => exact Or.inr ⟨by decide, pool, rfl, ⟨rfl, rfl, rfl⟩, fun _ => Iff.rfl⟩
  | setupThrows =>
    -- the connection is deleted again
    have hlive : (pool.heap.new ()).2.Live (pool.heap.new ()).1 :=
      ObjectHeap.live_new_iff.mpr (Or.inl rfl)
    obtain ⟨pool', hdelete, hsame, -, hlives⟩ :=
      deleteConn_spec { pool with heap := (pool.heap.new ()).2 } hlive
    refine Or.inr ⟨by decide, pool', ?_, ⟨hsame.freeList, hsame.maxConn, hsame.locked⟩, ?_⟩
    · simp only [createConnection, hdelete]
    · intro a
      rw [hlives, ObjectHeap.live_new_iff]
      constructor
      · rintro ⟨hne, hor⟩
        exact hor.resolve_left hne
      · intro ha
        refine ⟨?_, Or.inr ha⟩
        rintro rfl
        exact pool.heap.next_not_live ha

-- ---------------------------------------------------------------------------
-- allocate
-- ---------------------------------------------------------------------------

/-- A connection that is not at the back of the list. -/
def Remains (pool : DBConn) (a : Nat) : Prop :=
  pool.heap.Live a ∧ pool.freeList.getLast? ≠ some (some a)

/-- The back of the list is gone, and no other connection. -/
structure Took (pool pool' : DBConn) : Prop where
  freeList : pool'.freeList = pool.freeList.dropLast
  maxConn : pool'.maxConn = pool.maxConn
  live : ∀ a, pool.heap.Live a → pool.freeList.getLast? ≠ some (some a) → pool'.heap.Live a

/-- A connection is created once the back of the list is gone, or there was none. -/
theorem create_took {pool pool₁ : DBConn} (hlist : pool₁.freeList = pool.freeList.dropLast)
    (hmax : pool₁.maxConn = pool.maxConn) (hremains : ∀ a, pool₁.heap.Live a ↔ pool.Remains a)
    (outcome : ConnectOutcome) :
    (outcome = .ok ∧ ∃ conn pool', pool₁.createConnection outcome = some (some conn, pool') ∧
        Took pool pool'.releaseLock ∧ ¬ pool.Remains conn ∧
        ∀ a, pool'.heap.Live a ↔ a = conn ∨ pool.Remains a) ∨
      (outcome ≠ .ok ∧ ∃ pool', pool₁.createConnection outcome = some (none, pool') ∧
        Took pool pool'.releaseLock) := by
  rcases createConnection_spec pool₁ outcome with
    ⟨hok, conn, pool', hcreate, hsame, hfresh, hlives⟩ | ⟨hno, pool', hcreate, hsame, hlives⟩
  -- what was in the pool remains, and the new connection comes to it
  · have hlives' : ∀ a, pool'.heap.Live a ↔ a = conn ∨ pool.Remains a := by
      intro a
      rw [hlives, hremains]
    refine Or.inl ⟨hok, conn, pool', hcreate, ?_, fun h => hfresh ((hremains conn).mpr h), hlives'⟩
    exact ⟨hsame.freeList.trans hlist, hsame.maxConn.trans hmax,
      fun a ha hback => (hlives' a).mpr (Or.inr ⟨ha, hback⟩)⟩
  · refine Or.inr ⟨hno, pool', hcreate, hsame.freeList.trans hlist, hsame.maxConn.trans hmax, ?_⟩
    intro a ha hback
    exact (hlives a).mpr ((hremains a).mpr ⟨ha, hback⟩)

/-- **`allocate`** takes the back of the list. It hands out that connection or a new one exactly
if it obtains one; else it returns a null pointer, or throws. -/
theorem allocate_took {pool : DBConn} (hlock : pool.locked = false)
    (hback : ∀ p, pool.freeList.getLast? = some p → ∃ a, p = some a ∧ pool.heap.Live a)
    (faults : ConnFaults) :
    (Obtains pool faults ∧ ∃ conn pool', pool.allocate faults = some (.ok (some conn, pool')) ∧
        Took pool pool' ∧ pool'.locked = false ∧ ¬ pool.Remains conn ∧
        ∀ a, pool'.heap.Live a ↔ a = conn ∨ pool.Remains a) ∨
      (¬ Obtains pool faults ∧
        ((∃ pool', pool.allocate faults = some (.ok (none, pool')) ∧ Took pool pool' ∧
            pool'.locked = false) ∨
          ∃ pool', pool.allocate faults = some (.error pool') ∧ Took pool pool' ∧
            pool'.locked = true)) := by
  unfold Obtains allocate
  rw [acquireLock_of_unlocked hlock]
  -- the list is empty or has a back
  cases hlast : pool.freeList.getLast? with
  | none =>
    have hempty : pool.freeList = [] := List.getLast?_eq_none_iff.mp hlast
    rw [if_pos hempty]
    simp only [hlast]
    -- nothing is taken from an empty list
    have hremains : ∀ a, pool.heap.Live a ↔ pool.Remains a := by
      intro a
      rw [Remains, hlast]
      simp
    have hlist : freeList { pool with locked := true } = pool.freeList.dropLast := by
      show pool.freeList = pool.freeList.dropLast
      rw [hempty]
      rfl
    rcases create_took hlist rfl hremains faults.connect with
      ⟨hok, conn, pool', hcreate, htook, hfresh, hlives⟩ | ⟨hno, pool', hcreate, htook⟩
    -- created or not, the lock is free again
    · rw [hcreate]
      exact Or.inl ⟨hok, conn, pool'.releaseLock, rfl, htook, rfl, hfresh, hlives⟩
    · rw [hcreate]
      exact Or.inr ⟨hno, Or.inl ⟨pool'.releaseLock, rfl, htook, rfl⟩⟩
  | some p =>
    have hne : pool.freeList ≠ [] := by
      intro hempty
      rw [hempty] at hlast
      exact absurd hlast (by simp)
    obtain ⟨old, rfl, hlive⟩ := hback p hlast
    -- the back is taken, and the others remain
    have hremains : ∀ a, pool.Remains a ↔ a ≠ old ∧ pool.heap.Live a := by
      intro a
      rw [Remains, hlast, Ne, Option.some.injEq, Option.some.injEq, and_comm, ne_comm]
    rw [if_neg hne]
    simp only [hlast, if_pos hlive]
    -- isClosed throws while the lock is taken
    cases hclosed : faults.isClosed with
    | none => exact Or.inr ⟨by simp, Or.inr ⟨_, rfl, ⟨rfl, rfl, fun a ha _ => ha⟩, rfl⟩⟩
    | some closed =>
      cases closed with
      | false =>
        -- the old connection is still open
        refine Or.inl ⟨Or.inl rfl, old, _, rfl, ⟨rfl, rfl, fun a ha _ => ha⟩, rfl, ?_, ?_⟩
        · exact fun h => ((hremains old).mp h).1 rfl
        · intro a
          show pool.heap.Live a ↔ a = old ∨ pool.Remains a
          rw [hremains]
          constructor
          · exact fun ha => (em (a = old)).imp_right fun hold => ⟨hold, ha⟩
          · rintro (rfl | ⟨-, ha⟩)
            · exact hlive
            · exact ha
      | true =>
        -- it is closed: deleted and replaced
        obtain ⟨pool₁, hdelete, hsame, -, hlives₁⟩ := deleteConn_spec
          { pool with freeList := pool.freeList.dropLast, locked := true } hlive
        simp only [hdelete]
        rcases create_took hsame.freeList hsame.maxConn
            (fun a => (hlives₁ a).trans (hremains a).symm) faults.connect with
          ⟨hok, conn, pool', hcreate, htook, hfresh, hlives⟩ | ⟨hno, pool', hcreate, htook⟩
        · rw [hcreate]
          exact Or.inl ⟨Or.inr ⟨trivial, hok⟩, conn, pool'.releaseLock, rfl, htook, rfl, hfresh,
            hlives⟩
        · rw [hcreate]
          exact Or.inr ⟨by simp [hno], Or.inl ⟨pool'.releaseLock, rfl, htook, rfl⟩⟩

-- ---------------------------------------------------------------------------
-- Lending
-- ---------------------------------------------------------------------------

/-- The list without its back. -/
theorem mem_dropLast_iff {l : List Ptr} (hnodup : l.Nodup) (p : Ptr) :
    p ∈ l.dropLast ↔ p ∈ l ∧ l.getLast? ≠ some p := by
  cases hlast : l.getLast? with
  | none =>
    obtain rfl := List.getLast?_eq_none_iff.mp hlast
    simp
  | some q =>
    -- the back of a list without repetitions is in it once
    have hsplit : l.dropLast ++ [q] = l := List.dropLast_append_getLast? _ hlast
    rw [← hsplit, ← List.concat_eq_append, List.nodup_concat] at hnodup
    rw [Ne, Option.some.injEq]
    constructor
    · exact fun hp => ⟨List.mem_of_mem_dropLast hp, fun heq => hnodup.1 (heq ▸ hp)⟩
    · rintro ⟨hp, hne⟩
      rw [← hsplit, List.mem_append, List.mem_singleton] at hp
      exact hp.resolve_right (Ne.symm hne)

/-- Of a settled pool the list without its back has the connections that remain. -/
theorem Settled.mem_dropLast_iff {pool : DBConn} (h : pool.Settled) (p : Ptr) :
    p ∈ pool.freeList.dropLast ↔ ∃ a, p = some a ∧ pool.Remains a := by
  rw [DBConn.mem_dropLast_iff h.nodup, h.mem_iff]
  constructor
  · rintro ⟨⟨a, rfl, hlive⟩, hback⟩
    exact ⟨a, rfl, hlive, hback⟩
  · rintro ⟨a, rfl, hlive, hback⟩
    exact ⟨⟨a, rfl, hlive⟩, hback⟩

/-- **`allocate`** on a settled pool lends a connection exactly if it obtains one. -/
theorem allocate_spec {pool : DBConn} (h : pool.Settled) (faults : ConnFaults) :
    (Obtains pool faults ∧ ∃ conn pool', pool.allocate faults = some (.ok (some conn, pool')) ∧
        Lent pool' conn ∧ pool'.freeList = pool.freeList.dropLast ∧
        pool'.maxConn = pool.maxConn) ∨
      (¬ Obtains pool faults ∧
        ((∃ pool', pool.allocate faults = some (.ok (none, pool'))) ∨
          ∃ pool', pool.allocate faults = some (.error pool') ∧ pool'.locked = true)) := by
  have hback : ∀ p, pool.freeList.getLast? = some p → ∃ a, p = some a ∧ pool.heap.Live a :=
    fun p hlast => (h.mem_iff p).mp (List.mem_of_getLast? hlast)
  rcases allocate_took h.unlocked hback faults with
    ⟨hobtains, conn, pool', halloc, htook, hlock, hfresh, hlives⟩ |
      ⟨hno, ⟨pool', halloc, -⟩ | ⟨pool', halloc, -, hlock⟩⟩
  · refine Or.inl ⟨hobtains, conn, pool', halloc, ?_, htook.freeList, htook.maxConn⟩
    refine ⟨(hlives conn).mpr (Or.inl rfl), hlock, ?_, ?_⟩
    · rw [htook.freeList]
      exact h.nodup.sublist (List.dropLast_sublist _)
    -- in the list is what is alive and not on loan
    · intro p
      rw [htook.freeList, h.mem_dropLast_iff]
      refine exists_congr fun a => and_congr_right fun _ => ?_
      rw [hlives]
      constructor
      · exact fun hremains => ⟨fun heq => hfresh (heq ▸ hremains), Or.inr hremains⟩
      · rintro ⟨hne, hor⟩
        exact hor.resolve_left hne
  · exact Or.inr ⟨hno, Or.inl ⟨pool', halloc⟩⟩
  · exact Or.inr ⟨hno, Or.inr ⟨pool', halloc, hlock⟩⟩

/-- **`release`** settles the pool again, as long as the list is not too long. -/
theorem release_spec {pool : DBConn} {conn : Nat} (h : Lent pool conn)
    (hroom : pool.freeList.length ≤ pool.maxConn) (faults : ConnFaults) :
    ∃ pool', pool.release (some conn) faults = some pool' ∧ pool'.Settled ∧
      pool'.heap.deleted = pool.heap.deleted ∧
      pool'.freeList = pool.freeList ++ [some conn] ∧ pool'.maxConn = pool.maxConn := by
  -- a lent connection is not in the list
  have hout : some conn ∉ pool.freeList := by
    intro hin
    obtain ⟨a, ha, hne, -⟩ := (h.mem_iff _).mp hin
    exact hne (Option.some.inj ha).symm
  unfold release
  rw [if_neg (by omega), acquireLock_of_unlocked h.unlocked]
  refine ⟨_, rfl, ⟨rfl, ?_, ?_⟩, rfl, rfl, rfl⟩
  · show (pool.freeList ++ [some conn]).Nodup
    rw [← List.concat_eq_append, List.nodup_concat]
    exact ⟨hout, h.nodup⟩
  · intro p
    show p ∈ pool.freeList ++ [some conn] ↔ ∃ a, p = some a ∧ pool.heap.Live a
    rw [List.mem_append, List.mem_singleton, h.mem_iff]
    constructor
    · rintro (⟨a, rfl, -, hlive⟩ | rfl)
      · exact ⟨a, rfl, hlive⟩
      · exact ⟨conn, rfl, h.live⟩
    · rintro ⟨a, rfl, hlive⟩
      by_cases heq : a = conn
      · exact Or.inr (congrArg some heq)
      · exact Or.inl ⟨a, rfl, heq, hlive⟩

end DBConn

end FindFriendBot
