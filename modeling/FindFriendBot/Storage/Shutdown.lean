import FindFriendBot.Storage.Idle

/-!
# FindFriendBot — what becomes of each connection

`~DBConn` closes the idle connections and deletes those whose `close` does not throw.
A connection that `isClosed` or `close` threw on is in no list any more, and nobody
deletes it. All others are idle, or on loan, or were deleted, so that in the end only
those are left that are on loan or were lost in this way.

* `allocate_conserves` — the objects after `allocate`.
* `conserved_release`  — the objects after `release`.
* `destroyLoop_spec`   — `~DBConn`.
* `connections_closed` — every sequence of calls, and then `~DBConn`.
-/

namespace FindFriendBot

namespace DBConn

-- ---------------------------------------------------------------------------
-- allocate
-- ---------------------------------------------------------------------------

theorem createConnection_complete {pool pool' : DBConn} {conn : Ptr} {outcome : ConnectOutcome}
    (hc : pool.heap.Complete) (h : pool.createConnection outcome = some (conn, pool')) :
    pool'.heap.Complete := by
  cases outcome with
  | ok =>
    obtain ⟨-, rfl⟩ := Prod.mk.inj (Option.some.inj h)
    exact hc.new ()
  | connectThrows =>
    obtain ⟨-, rfl⟩ := Prod.mk.inj (Option.some.inj h)
    exact hc
  | setupThrows =>
    -- the connection is deleted again
    simp only [createConnection, deleteConn] at h
    cases hdelete : (pool.heap.new ()).2.delete (pool.heap.new ()).1 with
    | none => simp [hdelete] at h
    | some heap =>
      simp only [hdelete] at h
      obtain ⟨-, rfl⟩ := Prod.mk.inj (Option.some.inj h)
      exact (hc.new ()).delete hdelete

/-- The objects after `allocate` returned a pointer: it points to none that was there besides
the back of the list, and that one is gone. -/
structure Conserves (pool : DBConn) (conn : Ptr) (pool' : DBConn) : Prop where
  freeList : pool'.freeList = pool.freeList.dropLast
  fresh : ∀ a, conn = some a → ¬ pool.Remains a
  live : ∀ a, pool'.heap.Live a ↔ conn = some a ∨ pool.Remains a
  complete : pool'.heap.Complete

theorem conserves_create {pool pool₁ pool₂ : DBConn} {conn : Ptr} {outcome : ConnectOutcome}
    (hlist : pool₁.freeList = pool.freeList.dropLast) (hc : pool₁.heap.Complete)
    (hremains : ∀ a, pool₁.heap.Live a ↔ pool.Remains a)
    (h : pool₁.createConnection outcome = some (conn, pool₂)) :
    Conserves pool conn pool₂.releaseLock := by
  have hcomplete := createConnection_complete hc h
  rcases createConnection_spec pool₁ outcome with
    ⟨-, a, pool', hcreate, hsame, hfresh, hlives⟩ | ⟨-, pool', hcreate, hsame, hlives⟩
  -- a new connection, which was not there before
  · obtain ⟨rfl, rfl⟩ := Prod.mk.inj (Option.some.inj (h.symm.trans hcreate))
    refine ⟨hsame.freeList.trans hlist, fun b hb hold => ?_, fun b => ?_, hcomplete⟩
    · obtain rfl := Option.some.inj hb
      exact hfresh ((hremains _).mpr hold)
    · rw [Option.some.injEq, eq_comm, ← hremains]
      exact hlives b
  -- none: the heap is as it was
  · obtain ⟨rfl, rfl⟩ := Prod.mk.inj (Option.some.inj (h.symm.trans hcreate))
    refine ⟨hsame.freeList.trans hlist, fun b hb => absurd hb (by simp), fun b => ?_, hcomplete⟩
    rw [← hremains, or_iff_right (by simp)]
    exact hlives b

/-- **The objects after `allocate`**; where it throws, it lost the back of the list. -/
theorem allocate_conserves {pool : DBConn} (hc : pool.heap.Complete)
    (hback : ∀ p, pool.freeList.getLast? = some p → ∃ a, p = some a ∧ pool.heap.Live a)
    (faults : ConnFaults) {r : Except DBConn (Ptr × DBConn)}
    (h : pool.allocate faults = some r) :
    (∃ conn pool', r = .ok (conn, pool') ∧ Conserves pool conn pool' ∧
        (pool.freeList = [] ∨ faults.isClosed ≠ none)) ∨
      ∃ pool' old, r = .error pool' ∧ pool'.heap = pool.heap ∧
        pool'.freeList = pool.freeList.dropLast ∧ faults.isClosed = none ∧
        pool.freeList.getLast? = some (some old) := by
  have hlock : pool.locked = false := by
    -- otherwise the call would not return
    cases hl : pool.locked with
    | false => rfl
    | true => simp [allocate, acquireLock, hl] at h
  unfold allocate at h
  rw [acquireLock_of_unlocked hlock] at h
  cases hlast : pool.freeList.getLast? with
  -- an empty list: a connection is made
  | none =>
    have hempty : pool.freeList = [] := List.getLast?_eq_none_iff.mp hlast
    have hremains : ∀ a, pool.heap.Live a ↔ pool.Remains a := by
      intro a
      rw [Remains, hlast]
      simp
    simp only [hlast] at h
    split at h
    · exact absurd h (by simp)
    · next conn pool₂ hcreate =>
      obtain rfl := Option.some.inj h
      have hlist : freeList { pool with locked := true } = pool.freeList.dropLast := by
        show pool.freeList = pool.freeList.dropLast
        rw [hempty]
        rfl
      exact Or.inl ⟨conn, _, rfl, conserves_create hlist hc hremains hcreate, Or.inl hempty⟩
  -- the last of the list is taken
  | some p =>
    obtain ⟨old, rfl, hlive⟩ := hback p hlast
    have hremains : ∀ a, pool.Remains a ↔ a ≠ old ∧ pool.heap.Live a := by
      intro a
      rw [Remains, hlast, Ne, Option.some.injEq, Option.some.injEq, and_comm, ne_comm]
    simp only [hlast, if_pos hlive] at h
    cases hclosed : faults.isClosed with
    | none =>
      simp only [hclosed] at h
      obtain rfl := Option.some.inj h
      -- isClosed throws, and nobody has the connection any more
      exact Or.inr ⟨_, old, rfl, rfl, rfl, rfl, rfl⟩
    | some closed =>
      cases closed with
      | false =>
        simp only [hclosed] at h
        obtain rfl := Option.some.inj h
        -- it is open and handed out
        refine Or.inl ⟨some old, _, rfl, ⟨rfl, fun a ha hold => ?_, fun a => ?_, hc⟩,
          Or.inr (by simp)⟩
        · exact ((hremains a).mp hold).1 (Option.some.inj ha).symm
        · show pool.heap.Live a ↔ some old = some a ∨ pool.Remains a
          rw [hremains, Option.some.injEq]
          constructor
          · exact fun ha => (em (old = a)).imp_right fun hne => ⟨Ne.symm hne, ha⟩
          · rintro (rfl | ⟨-, ha⟩)
            · exact hlive
            · exact ha
      | true =>
        -- it is closed: it is deleted and another one made
        obtain ⟨heap, hdelete, -, -, hlives⟩ := ObjectHeap.delete_of_live hlive
        simp only [hclosed, deleteConn, hdelete] at h
        split at h
        · exact absurd h (by simp)
        · next conn pool₂ hcreate =>
          obtain rfl := Option.some.inj h
          refine Or.inl ⟨conn, _, rfl, conserves_create rfl ?_ ?_ hcreate, Or.inr (by simp)⟩
          · exact hc.delete hdelete
          · exact fun a => (hlives a).trans (hremains a).symm

-- ---------------------------------------------------------------------------
-- release and ~DBConn
-- ---------------------------------------------------------------------------

/-- **`_destroy`** deletes the connection, unless `close` throws. -/
theorem destroy_conserves {pool : DBConn} (hc : pool.heap.Complete) {conn : Nat}
    (hlive : pool.heap.Live conn) (faults : ConnFaults) :
    ∃ pool', pool.destroy (some conn) faults = some pool' ∧ SameList pool pool' ∧
      (∀ a, pool'.heap.Live a ↔ pool.heap.Live a ∧ ¬ (a = conn ∧ faults.close = true)) ∧
      pool'.heap.Complete ∧ pool'.heap.next = pool.heap.next := by
  unfold destroy
  simp only [if_pos hlive]
  cases hclose : faults.close with
  | false =>
    -- close throws, and the connection stays open
    rw [if_neg Bool.false_ne_true]
    exact ⟨pool, rfl, ⟨rfl, rfl, rfl⟩, fun a => by simp, hc, rfl⟩
  | true =>
    obtain ⟨heap, hdelete, -, -, hlives⟩ := ObjectHeap.delete_of_live hlive
    rw [if_pos rfl, deleteConn, hdelete]
    refine ⟨{ pool with heap := heap }, rfl, ⟨rfl, rfl, rfl⟩, fun a => ?_, hc.delete hdelete,
      ObjectHeap.delete_next hdelete⟩
    rw [and_iff_left rfl, and_comm]
    exact hlives a

/-- **The loop of `~DBConn`** over distinct live connections. -/
theorem destroyLoop_spec (faults : Nat → ConnFaults) :
    ∀ (list : List Ptr) (pool : DBConn), list.Nodup →
      (∀ p ∈ list, ∃ a, p = some a ∧ pool.heap.Live a) → pool.heap.Complete →
      ∃ pool', destroyLoop faults list pool = some pool' ∧
        (∀ a, pool'.heap.Live a ↔
          pool.heap.Live a ∧ ¬ (some a ∈ list ∧ (faults a).close = true)) ∧
        pool'.heap.Complete ∧ pool'.heap.next = pool.heap.next := by
  intro list
  -- induction on the list, whose connections are distinct and alive
  induction list with
  | nil => exact fun pool _ _ hc => ⟨pool, rfl, fun a => by simp, hc, rfl⟩
  | cons p rest ih =>
    intro pool hnodup hlive hc
    obtain ⟨hnot, hrest⟩ := List.nodup_cons.mp hnodup
    obtain ⟨conn, rfl, hconn⟩ := hlive p (List.mem_cons_self ..)
    obtain ⟨pool₁, hdestroy, -, hlives₁, hc₁, hnext₁⟩ := destroy_conserves hc hconn (faults conn)
    -- the rest of the list survives the delete
    have hlive₁ : ∀ q ∈ rest, ∃ a, q = some a ∧ pool₁.heap.Live a := by
      intro q hq
      obtain ⟨a, rfl, ha⟩ := hlive q (List.mem_cons_of_mem _ hq)
      refine ⟨a, rfl, (hlives₁ a).mpr ⟨ha, fun hboth => hnot ?_⟩⟩
      exact hboth.1 ▸ hq
    obtain ⟨pool', hloop, hlives, hc', hnext⟩ := ih pool₁ hrest hlive₁ hc₁
    refine ⟨pool', ?_, fun a => ?_, hc', hnext.trans hnext₁⟩
    · rw [destroyLoop, hdestroy]
      exact hloop
    · rw [hlives, hlives₁, List.mem_cons, Option.some.injEq]
      by_cases ha : a = conn
      · subst ha
        tauto
      · tauto

end DBConn

namespace Borrowers

-- ---------------------------------------------------------------------------
-- One call
-- ---------------------------------------------------------------------------

/-- The connections that a call threw on, and those of the calls before. -/
def lose (lost : List Nat) (s : Borrowers) (c : Call) (_ : Borrowers) (_ : Ptr) : List Nat :=
  match c with
  | .allocate faults =>
    if faults.isClosed = none then s.pool.freeList.getLast?.join.toList ++ lost else lost
  | .release conn faults =>
    if s.pool.maxConn < s.pool.freeList.length ∧ faults.close = false then conn :: lost else lost

/-- The connections there are: idle, on loan, or lost, and in one of these places only. -/
structure Conserved (mutex : Bool) (maxConn : Nat) (s : Borrowers) (lost : List Nat) : Prop where
  accounted : Accounted mutex maxConn s
  live_iff : ∀ a, s.pool.heap.Live a ↔ some a ∈ s.connections ∨ a ∈ lost
  lost_out : ∀ a ∈ lost, some a ∉ s.connections
  complete : s.pool.heap.Complete

variable {mutex : Bool} {maxConn : Nat} {s : Borrowers} {lost : List Nat}

theorem conserved_init (mutex : Bool) (maxConn : Nat) :
    Conserved mutex maxConn (init maxConn) [] where
  accounted := accounted_init mutex maxConn
  live_iff := fun a => iff_of_false Std.ExtTreeMap.not_mem_empty (by simp [init, connections,
    DBConn.init])
  lost_out := fun _ ha => absurd ha List.not_mem_nil
  complete := ObjectHeap.complete_empty

/-- What is not at the back of the list stays idle, on loan, or lost. -/
theorem Conserved.remains_iff (h : Conserved mutex maxConn s lost) (a : Nat) :
    s.pool.Remains a ↔
      some a ∈ s.pool.freeList.dropLast ++ s.outstanding.map some ∨ a ∈ lost := by
  -- what remains in the list is all of it but the back
  have hback : some a ∈ s.pool.freeList.dropLast ++ s.outstanding.map some ↔
      some a ∈ s.connections ∧ s.pool.freeList.getLast? ≠ some (some a) := by
    refine ⟨mem_rest h.accounted.nodup, ?_⟩
    rintro ⟨hin, hne⟩
    rcases List.mem_append.mp hin with hfree | hout
    · have hnodup : s.pool.freeList.Nodup := (List.nodup_append.mp h.accounted.nodup).1
      exact List.mem_append_left _ ((DBConn.mem_dropLast_iff hnodup _).mpr ⟨hfree, hne⟩)
    · exact List.mem_append_right _ hout
  rw [DBConn.Remains, h.live_iff, hback, or_and_right]
  refine or_congr_right (and_iff_left_of_imp fun hlost hlast => ?_)
  exact h.lost_out a hlost (List.mem_append_left _ (List.mem_of_getLast? hlast))

/-- The list and the loans after a pointer was returned. -/
theorem Conserved.lend (h : Conserved mutex maxConn s lost) {conn : Ptr} {pool : DBConn}
    (hcon : DBConn.Conserves s.pool conn pool) {out : List Nat}
    (hout : ∀ a, a ∈ out ↔ conn = some a ∨ a ∈ s.outstanding)
    (hacc : Accounted mutex maxConn ⟨pool, out⟩) : Conserved mutex maxConn ⟨pool, out⟩ lost := by
  -- the new loan besides the old ones
  have hin : ∀ a, some a ∈ connections ⟨pool, out⟩ ↔
      conn = some a ∨ some a ∈ s.pool.freeList.dropLast ++ s.outstanding.map some := by
    intro a
    simp only [connections, hcon.freeList, List.mem_append, List.mem_map, Option.some.injEq,
      exists_eq_right, hout]
    exact or_left_comm
  refine ⟨hacc, fun a => ?_, fun a ha hall => ?_, hcon.complete⟩
  · show pool.heap.Live a ↔ _
    rw [hcon.live, hin, h.remains_iff, or_assoc]
  · have hremains := (h.remains_iff a).mpr (Or.inr ha)
    -- neither a new connection nor an old one is a lost one
    rcases (hin a).mp hall with hconn | hold
    · exact hcon.fresh a hconn hremains
    · exact h.lost_out a ha (mem_rest h.accounted.nodup hold).1

/-- One connection is in no list any more. -/
theorem Conserved.parts (h : Conserved mutex maxConn s lost) {conn : Nat} {conns : List Ptr}
    (hperm : s.connections.Perm (some conn :: conns)) :
    some conn ∉ conns ∧ ∀ a, some a ∈ s.connections ↔ a = conn ∨ some a ∈ conns := by
  refine ⟨(List.nodup_cons.mp (hperm.nodup_iff.mp h.accounted.nodup)).1, fun a => ?_⟩
  rw [hperm.mem_iff, List.mem_cons, Option.some.injEq]

/-- It is lost, if it still lives. -/
theorem Conserved.forget (h : Conserved mutex maxConn s lost) {s' : Borrowers} {conn : Nat}
    (hperm : s.connections.Perm (some conn :: s'.connections))
    (hlive : ∀ a, s'.pool.heap.Live a ↔ s.pool.heap.Live a) (hc : s'.pool.heap.Complete)
    (hacc : Accounted mutex maxConn s') : Conserved mutex maxConn s' (conn :: lost) := by
  obtain ⟨hout, hin⟩ := h.parts hperm
  refine ⟨hacc, fun a => ?_, fun a ha => ?_, hc⟩
  · rw [hlive, h.live_iff, hin, List.mem_cons, or_assoc, or_left_comm]
  · rcases List.mem_cons.mp ha with rfl | hold
    · exact hout
    · exact fun hall => h.lost_out a hold ((hin a).mpr (Or.inr hall))

/-- It was deleted, if it lives no more. -/
theorem Conserved.dispose (h : Conserved mutex maxConn s lost) {s' : Borrowers} {conn : Nat}
    (hperm : s.connections.Perm (some conn :: s'.connections))
    (hlive : ∀ a, s'.pool.heap.Live a ↔ s.pool.heap.Live a ∧ a ≠ conn)
    (hc : s'.pool.heap.Complete) (hacc : Accounted mutex maxConn s') :
    Conserved mutex maxConn s' lost := by
  obtain ⟨hout, hin⟩ := h.parts hperm
  refine ⟨hacc, fun a => ?_, fun a ha hall => h.lost_out a ha ((hin a).mpr (Or.inr hall)), hc⟩
  rw [hlive, h.live_iff, hin]
  by_cases heq : a = conn
  · subst heq
    -- what was lost is not in the list, so it is not deleted here
    have hgone : a ∉ lost := fun hlost => h.lost_out a hlost ((hin a).mpr (Or.inl rfl))
    simp [hout, hgone]
  · simp [heq]

/-- **A call of `allocate`.** -/
theorem conserved_allocate (h : Conserved mutex maxConn s lost) (faults : ConnFaults)
    {s' : Borrowers} {ret : Ptr} (hcall : call mutex s (.allocate faults) = some (s', ret))
    (hacc : Accounted mutex maxConn s') :
    Conserved mutex maxConn s' (lose lost s (.allocate faults) s' ret) := by
  have hback : ∀ p, s.pool.freeList.getLast? = some p → ∃ a, p = some a ∧ s.pool.heap.Live a :=
    fun p hlast => h.accounted.live p (List.mem_append_left _ (List.mem_of_getLast? hlast))
  unfold call at hcall
  cases halloc : s.pool.allocate faults with
  | none => simp [halloc] at hcall
  | some r =>
    rcases DBConn.allocate_conserves h.complete hback faults halloc with
      ⟨conn, pool, rfl, hcon, hnone⟩ | ⟨pool, old, rfl, hheap, hlist, hthrow, hlast⟩
    -- nothing is lost unless isClosed throws
    · have hlost : lose lost s (.allocate faults) s' ret = lost := by
        unfold lose
        rcases hnone with hempty | hanswers
        · simp [hempty]
        · exact if_neg hanswers
      rw [hlost]
      cases conn with
      | none =>
        simp only [halloc] at hcall
        obtain ⟨rfl, -⟩ := Prod.mk.inj (Option.some.inj hcall)
        exact h.lend hcon (fun a => by simp) hacc
      | some conn =>
        simp only [halloc] at hcall
        obtain ⟨rfl, -⟩ := Prod.mk.inj (Option.some.inj hcall)
        exact h.lend hcon (fun a => by simp [eq_comm]) hacc
    · simp only [halloc] at hcall
      obtain ⟨rfl, -⟩ := Prod.mk.inj (Option.some.inj hcall)
      have hheap' : (afterThrow mutex pool).heap = s.pool.heap := by
        unfold afterThrow
        split <;> exact hheap
      have hlist' : (afterThrow mutex pool).freeList = s.pool.freeList.dropLast := by
        unfold afterThrow
        split <;> exact hlist
      have hlost : ∀ s', lose lost s (.allocate faults) s' ret = old :: lost := by
        simp [lose, hthrow, hlast]
      -- the back of the list is lost, and the rest is where it was
      have hperm : s.connections.Perm (some old :: connections { s with
          pool := afterThrow mutex pool }) := by
        have hsplit : s.pool.freeList.dropLast ++ [some old] = s.pool.freeList :=
          List.dropLast_append_getLast? _ hlast
        rw [connections, connections, hlist', ← hsplit, List.append_assoc, List.dropLast_concat]
        exact List.perm_middle
      rw [hlost]
      exact h.forget hperm (fun a => by rw [hheap']) (hheap' ▸ h.complete) hacc

/-- **A call of `release`.** -/
theorem conserved_release (h : Conserved mutex maxConn s lost) {conn : Nat} (faults : ConnFaults)
    (hconn : conn ∈ s.outstanding) {s' : Borrowers} {ret : Ptr}
    (hcall : call mutex s (.release conn faults) = some (s', ret))
    (hacc : Accounted mutex maxConn s') :
    Conserved mutex maxConn s' (lose lost s (.release conn faults) s' ret) := by
  have hmem : some conn ∈ s.connections := List.mem_append_right _ (List.mem_map_of_mem hconn)
  obtain ⟨_, hsome, hlive⟩ := h.accounted.live _ hmem
  obtain rfl := Option.some.inj hsome
  -- the connection, and all the others
  have hperm : s.connections.Perm
      (some conn :: (s.pool.freeList ++ (s.outstanding.erase conn).map some)) := by
    refine (List.Perm.append_left _ ((List.perm_cons_erase hconn).map some)).trans ?_
    rw [List.map_cons]
    exact List.perm_middle
  unfold call at hcall
  -- past the limit it is destroyed: lost if close throws, gone otherwise
  by_cases hfull : s.pool.maxConn < s.pool.freeList.length
  · obtain ⟨pool, hdestroy, hsame, hlives, hcomplete, -⟩ :=
      DBConn.destroy_conserves h.complete hlive faults
    simp only [DBConn.release, if_pos hfull, hdestroy] at hcall
    obtain ⟨rfl, -⟩ := Prod.mk.inj (Option.some.inj hcall)
    rw [← hsame.freeList] at hperm
    cases hclose : faults.close with
    | false =>
      have hlost : ∀ s', lose lost s (.release conn faults) s' ret = conn :: lost :=
        fun _ => if_pos ⟨hfull, hclose⟩
      rw [hlost]
      exact h.forget hperm (fun a => (hlives a).trans (by simp [hclose])) hcomplete hacc
    | true =>
      have hlost : ∀ s', lose lost s (.release conn faults) s' ret = lost :=
        fun _ => if_neg fun hboth => absurd (hclose.symm.trans hboth.2) (by decide)
      rw [hlost]
      exact h.dispose hperm (fun a => (hlives a).trans (by simp [hclose])) hcomplete hacc
  · simp only [DBConn.release, if_neg hfull, DBConn.acquireLock] at hcall
    split at hcall
    · exact absurd hcall (by simp)
    · next pool hpushed =>
      split at hpushed
      · exact absurd hpushed (by simp)
      · next hlocked =>
        split at hlocked
        · exact absurd hlocked (by simp)
        · obtain rfl := Option.some.inj hlocked
          obtain rfl := Option.some.inj hpushed
          obtain ⟨rfl, -⟩ := Prod.mk.inj (Option.some.inj hcall)
          have hlost : ∀ s', lose lost s (.release conn faults) s' ret = lost :=
            fun _ => if_neg fun hboth => hfull hboth.1
          rw [hlost]
          -- it goes back to the list: every connection is where it was, or moved there
          have hin : ∀ a, some a ∈ s.pool.freeList ++ [some conn] ++
              (s.outstanding.erase conn).map some ↔ some a ∈ s.connections := by
            intro a
            rw [(h.parts hperm).2, List.append_assoc, List.singleton_append, List.mem_append,
              List.mem_cons, Option.some.injEq, or_left_comm, ← List.mem_append]
          refine ⟨hacc, fun a => ?_, fun a ha hall => ?_, h.complete⟩
          · exact (h.live_iff a).trans (or_congr_left (hin a).symm)
          · exact h.lost_out a ha ((hin a).mp hall)

-- ---------------------------------------------------------------------------
-- Every sequence of calls
-- ---------------------------------------------------------------------------

/-- **Every connection is closed.** After any sequence of calls, with or without a mutex, that
gives back outstanding connections, `~DBConn` is defined. Then the connections there still are
those on loan and those that `isClosed` or `close` threw on; each of the others that was ever
created has been deleted, once. -/
theorem connections_closed (mutex : Bool) (maxConn : Nat) {calls : List Call}
    (hlawful : (machine mutex).Along (Lawful mutex) (init maxConn) calls)
    (faults : Nat → ConnFaults) :
    ∃ s lost rets pool, ((machine mutex).withGhost lose).run (init maxConn, []) calls =
        some ((s, lost), rets) ∧ s.pool.tearDown faults = some pool ∧
      ∀ a < pool.heap.next,
        (pool.heap.Live a ↔ a ∈ s.outstanding ∨ a ∈ lost ∨
          some a ∈ s.pool.freeList ∧ (faults a).close = false) ∧
        (¬ pool.heap.Live a → pool.heap.deleted.count a = 1) := by
  have hkeeps : ∀ (sg : Borrowers × List Nat) c, Conserved mutex maxConn sg.1 sg.2 →
      Lawful mutex sg.1 c → ∃ sg' ret, ((machine mutex).withGhost lose).step sg c =
        some (sg', ret) ∧ Conserved mutex maxConn sg'.1 sg'.2 := by
    rintro ⟨s, lost⟩ c h hc
    -- one call keeps the invariant, with the ghost list of the lost
    obtain ⟨s', ret, hstep, hacc, -⟩ := call_spec h.accounted c hc
    refine ⟨(s', lose lost s c s' ret), ret, StepMachine.withGhost_step_iff.mpr ⟨hstep, rfl⟩, ?_⟩
    cases c with
    | allocate faults => exact conserved_allocate h faults hstep hacc
    | release conn faults =>
      exact conserved_release h faults (hc.1 conn faults rfl) hstep hacc
  obtain ⟨⟨s, lost⟩, rets, hrun, h⟩ := StepMachine.run_invariant _ _ hkeeps calls
    (init maxConn, []) (conserved_init mutex maxConn)
    ((StepMachine.along_withGhost_iff lose (Lawful mutex) calls _ []).mpr hlawful)
  -- what is in the list is alive, so the loop of ~DBConn is defined
  have hlive : ∀ p ∈ s.pool.freeList, ∃ a, p = some a ∧ s.pool.heap.Live a :=
    fun p hp => h.accounted.live p (List.mem_append_left _ hp)
  obtain ⟨hnodup, -, hdisjoint⟩ := List.nodup_append.mp h.accounted.nodup
  obtain ⟨pool, hloop, hlives, hcomplete, -⟩ :=
    DBConn.destroyLoop_spec faults s.pool.freeList s.pool hnodup hlive h.complete
  refine ⟨s, lost, rets, pool, hrun, hloop, fun a ha => ⟨?_, hcomplete.count_deleted ha⟩⟩
  -- a connection is on loan, lost or in the list, and in one of them only
  have hout : a ∈ s.outstanding → some a ∉ s.pool.freeList :=
    fun ha hfree => hdisjoint _ hfree _ (List.mem_map_of_mem ha) rfl
  have hlost : a ∈ lost → some a ∉ s.pool.freeList :=
    fun ha hfree => h.lost_out a ha (List.mem_append_left _ hfree)
  have hin : some a ∈ s.connections ↔ some a ∈ s.pool.freeList ∨ a ∈ s.outstanding := by
    simp [connections]
  rw [hlives, h.live_iff, hin]
  cases (faults a).close <;> tauto

/-- One connection is created and given back. -/
def oneLoan : List Call :=
  [.allocate ⟨some false, .ok, true⟩, .release 0 ⟨some false, .ok, true⟩]

theorem oneLoan_lawful : (machine false).Along (Lawful false) (init 1) oneLoan := by
  refine ⟨⟨fun _ _ hc => Call.noConfusion hc, by simp⟩, ?_⟩
  intro s ret hcall
  obtain ⟨rfl, -⟩ := Prod.mk.inj (Option.some.inj hcall)
  refine ⟨⟨fun conn faults hc => ?_, by simp⟩, fun _ _ _ => trivial⟩
  obtain ⟨rfl, -⟩ := Call.release.inj hc
  exact List.mem_singleton_self _

/-- It is closed at the end. -/
theorem connections_closed_one :
    ∃ s lost rets pool, ((machine false).withGhost lose).run (init 1, []) oneLoan =
        some ((s, lost), rets) ∧ s.pool.tearDown (fun _ => ⟨some false, .ok, true⟩) = some pool ∧
      ∀ a < pool.heap.next,
        (pool.heap.Live a ↔ a ∈ s.outstanding ∨ a ∈ lost ∨
          some a ∈ s.pool.freeList ∧ true = false) ∧
        (¬ pool.heap.Live a → pool.heap.deleted.count a = 1) :=
  connections_closed false 1 oneLoan_lawful fun _ => ⟨some false, .ok, true⟩

end Borrowers

end FindFriendBot
