import FindFriendBot.Lib.BoundedPool
import FindFriendBot.Model.Borrowers
import FindFriendBot.Storage.Pool

/-!
# FindFriendBot — idle connections

`DBConn::release` compares the length of `free_list_` with `max_conn_` before it
pushes, and destroys the connection only if the list is already past the bound.
So a list of `max_conn_` connections takes one more, and with `max_conn_` zero
there is an idle connection as soon as one is given back.

* `release_gives`   — where a connection goes that is given back.
* `idle_limit`      — every sequence of calls, with any connections outstanding.
* `idle_within_one` — what holds of every sequence of calls.
-/

namespace FindFriendBot

namespace DBConn

-- ---------------------------------------------------------------------------
-- release
-- ---------------------------------------------------------------------------

/-- **`release`** pools the connection unless the list is past the bound; then it is deleted, or
lost if it cannot be closed. -/
theorem release_gives {pool : DBConn} {conn : Nat} (hlive : pool.heap.Live conn)
    (hwaits : pool.locked = true → pool.maxConn < pool.freeList.length) (faults : ConnFaults) :
    ∃ pool', pool.release (some conn) faults = some pool' ∧ pool'.maxConn = pool.maxConn ∧
      (pool.locked = false → pool'.locked = false) ∧
      (∀ a, pool.heap.Live a → a ≠ conn → pool'.heap.Live a) ∧
      ((pool.freeList.length ≤ pool.maxConn ∧ pool'.freeList = pool.freeList ++ [some conn] ∧
          pool'.heap.Live conn) ∨
        (pool.maxConn < pool.freeList.length ∧ pool'.freeList = pool.freeList)) := by
  unfold release
  by_cases hfull : pool.maxConn < pool.freeList.length
  -- past the limit: destroyed, whether or not close throws
  · rw [if_pos hfull]
    simp only [destroy, if_pos hlive]
    cases hclose : faults.close with
    | true =>
      obtain ⟨pool', hdelete, hsame, -, hlives⟩ := deleteConn_spec pool hlive
      rw [if_pos rfl, hdelete]
      refine ⟨pool', rfl, hsame.maxConn, fun hlock => hsame.locked.trans hlock, ?_,
        Or.inr ⟨hfull, hsame.freeList⟩⟩
      exact fun a ha hne => (hlives a).mpr ⟨hne, ha⟩
    | false =>
      rw [if_neg (by simp)]
      exact ⟨pool, rfl, rfl, fun hlock => hlock, fun a ha _ => ha, Or.inr ⟨hfull, rfl⟩⟩
  -- within the limit: queued under the lock
  · have hlock : pool.locked = false := by
      cases hl : pool.locked with
      | false => rfl
      | true => exact absurd (hwaits hl) hfull
    rw [if_neg hfull, acquireLock_of_unlocked hlock]
    exact ⟨_, rfl, rfl, fun _ => rfl, fun a ha _ => ha,
      Or.inl ⟨Nat.le_of_not_lt hfull, rfl, hlive⟩⟩

end DBConn

namespace Borrowers

-- ---------------------------------------------------------------------------
-- Every connection is in one place
-- ---------------------------------------------------------------------------

/-- The idle connections and the outstanding ones. -/
def connections (s : Borrowers) : List Ptr := s.pool.freeList ++ s.outstanding.map some

/-- No connection is in two places, and none was deleted. -/
structure Accounted (mutex : Bool) (maxConn : Nat) (s : Borrowers) : Prop where
  nodup : s.connections.Nodup
  live : ∀ p ∈ s.connections, ∃ a, p = some a ∧ s.pool.heap.Live a
  maxConn_eq : s.pool.maxConn = maxConn
  unlocked : mutex = false → s.pool.locked = false

variable {mutex : Bool} {maxConn : Nat} {s : Borrowers}

theorem accounted_init (mutex : Bool) (maxConn : Nat) :
    Accounted mutex maxConn (init maxConn) where
  nodup := List.nodup_nil
  live := fun _ hp => absurd hp List.not_mem_nil
  maxConn_eq := rfl
  unlocked := fun _ => rfl

/-- Without the back of the list. -/
theorem mem_rest {l : List Ptr} {out : List Ptr} (hnodup : (l ++ out).Nodup) {p : Ptr}
    (hp : p ∈ l.dropLast ++ out) : p ∈ l ++ out ∧ l.getLast? ≠ some p := by
  constructor
  · exact ((List.dropLast_sublist l).append_right out).subset hp
  · intro hlast
    have hsplit : l.dropLast ++ p :: out = l ++ out := by
      rw [← List.dropLast_append_getLast? p hlast, List.append_assoc]
      simp
    rw [← hsplit, List.nodup_middle] at hnodup
    exact (List.nodup_cons.mp hnodup).1 hp

/-- After the back of the list is gone. -/
theorem Accounted.took (h : Accounted mutex maxConn s) {pool : DBConn}
    (htook : DBConn.Took s.pool pool) (hlock : mutex = false → pool.locked = false) :
    Accounted mutex maxConn { s with pool := pool } where
  nodup := by
    show (pool.freeList ++ s.outstanding.map some).Nodup
    rw [htook.freeList]
    exact h.nodup.sublist ((List.dropLast_sublist _).append_right _)
  live := by
    intro p hp
    replace hp : p ∈ pool.freeList ++ s.outstanding.map some := hp
    rw [htook.freeList] at hp
    -- the back of the list is the one that was taken
    obtain ⟨hin, hback⟩ := mem_rest h.nodup hp
    obtain ⟨a, rfl, ha⟩ := h.live p hin
    exact ⟨a, rfl, htook.live a ha hback⟩
  maxConn_eq := htook.maxConn.trans h.maxConn_eq
  unlocked := hlock

/-- After `allocate` handed a connection out. -/
theorem Accounted.lend (h : Accounted mutex maxConn s) {pool : DBConn} {conn : Nat}
    (htook : DBConn.Took s.pool pool) (hlock : pool.locked = false) (hlive : pool.heap.Live conn)
    (hfresh : ¬ s.pool.Remains conn) :
    Accounted mutex maxConn { pool := pool, outstanding := conn :: s.outstanding } := by
  have hrest := h.took htook fun _ => hlock
  -- the connection on loan is in neither part
  have hout : some conn ∉ s.pool.freeList.dropLast ++ s.outstanding.map some := by
    intro hin
    obtain ⟨hin, hback⟩ := mem_rest h.nodup hin
    obtain ⟨a, ha, halive⟩ := h.live _ hin
    exact hfresh ⟨Option.some.inj ha ▸ halive, hback⟩
  refine ⟨?_, ?_, hrest.maxConn_eq, hrest.unlocked⟩
  · show (pool.freeList ++ some conn :: s.outstanding.map some).Nodup
    have hnodup : (pool.freeList ++ s.outstanding.map some).Nodup := hrest.nodup
    rw [List.nodup_middle, List.nodup_cons, htook.freeList]
    exact ⟨hout, htook.freeList ▸ hnodup⟩
  · intro p hp
    replace hp : p ∈ pool.freeList ++ some conn :: s.outstanding.map some := hp
    rw [List.mem_append, List.mem_cons, or_left_comm, ← List.mem_append] at hp
    rcases hp with rfl | hp
    · exact ⟨conn, rfl, hlive⟩
    · exact hrest.live p hp

/-- After `release` took a connection back. -/
theorem Accounted.give (h : Accounted mutex maxConn s) {pool : DBConn} {conn : Nat}
    (hconn : conn ∈ s.outstanding) (hmax : pool.maxConn = s.pool.maxConn)
    (hlock : s.pool.locked = false → pool.locked = false)
    (hlives : ∀ a, s.pool.heap.Live a → a ≠ conn → pool.heap.Live a)
    (hlist : pool.freeList = s.pool.freeList ++ [some conn] ∧ pool.heap.Live conn ∨
      pool.freeList = s.pool.freeList) :
    Accounted mutex maxConn { pool := pool, outstanding := s.outstanding.erase conn } := by
  -- the connection, and all the others
  have hperm : s.connections.Perm
      (some conn :: (s.pool.freeList ++ (s.outstanding.erase conn).map some)) := by
    refine (List.Perm.append_left _ ((List.perm_cons_erase hconn).map some)).trans ?_
    rw [List.map_cons]
    exact List.perm_middle
  obtain ⟨hout, hothers⟩ := List.nodup_cons.mp (hperm.nodup_iff.mp h.nodup)
  have hlive : ∀ p ∈ s.pool.freeList ++ (s.outstanding.erase conn).map some,
      ∃ a, p = some a ∧ pool.heap.Live a := by
    intro p hp
    obtain ⟨a, rfl, ha⟩ := h.live p (hperm.mem_iff.mpr (List.mem_cons_of_mem _ hp))
    refine ⟨a, rfl, hlives a ha ?_⟩
    rintro rfl
    exact hout hp
  refine ⟨?_, ?_, hmax.trans h.maxConn_eq, fun hm => hlock (h.unlocked hm)⟩
  · show (pool.freeList ++ (s.outstanding.erase conn).map some).Nodup
    rcases hlist with ⟨hpushed, -⟩ | hsame
    -- given back to the list
    · rw [hpushed, List.append_assoc, List.singleton_append, List.nodup_middle, List.nodup_cons]
      exact ⟨hout, hothers⟩
    -- destroyed: the list is as it was
    · rw [hsame]
      exact hothers
  · intro p hp
    replace hp : p ∈ pool.freeList ++ (s.outstanding.erase conn).map some := hp
    rcases hlist with ⟨hpushed, hconnLive⟩ | hsame
    · rw [hpushed, List.append_assoc, List.singleton_append, List.mem_append, List.mem_cons,
        or_left_comm, ← List.mem_append] at hp
      rcases hp with rfl | hp
      · exact ⟨conn, rfl, hconnLive⟩
      · exact hlive p hp
    · rw [hsame] at hp
      exact hlive p hp

-- ---------------------------------------------------------------------------
-- Every sequence of calls
-- ---------------------------------------------------------------------------

/-- A connection is given back. -/
def Call.Releases (c : Call) : Prop := ∃ conn faults, c = .release conn faults

/-- A connection is given back, and does not go into the list. -/
def Destroys (c : Call) (s' : Borrowers) : Prop :=
  ∃ conn faults, c = .release conn faults ∧ some conn ∉ s'.pool.freeList

/-- What a call should do: the list holds at most `max_conn_` connections, and one that is
given back is destroyed only if it holds that many. -/
structure KeepsLimit (maxConn : Nat) (s : Borrowers) (c : Call) (s' : Borrowers) : Prop where
  length_le : s'.pool.freeList.length ≤ maxConn
  destroys : Destroys c s' → maxConn ≤ s.pool.freeList.length

theorem keepsLimit_iff {c : Call} {s' : Borrowers} :
    KeepsLimit maxConn s c s' ↔ BoundedPool.WithinBound maxConn s.pool.freeList.length
      s'.pool.freeList.length (Destroys c s') :=
  ⟨fun h => ⟨h.length_le, h.destroys⟩, fun h => ⟨h.length_le, h.full_of_drops⟩⟩

/-- An `allocate` releases nothing. -/
theorem unreleased_of_took {pool : DBConn} (htook : DBConn.Took s.pool pool)
    (faults : ConnFaults) (out : List Nat) :
    BoundedPool.Unreleased s.pool.freeList.length pool.freeList.length
      (Destroys (.allocate faults) ⟨pool, out⟩) where
  length_le := by
    rw [htook.freeList, List.length_dropLast]
    omega
  keeps := by
    rintro ⟨conn, faults', hc, -⟩
    exact Call.noConfusion hc

/-- **A call of `allocate`.** -/
theorem allocate_step (h : Accounted mutex maxConn s) (hlock : s.pool.locked = false)
    (faults : ConnFaults) :
    ∃ s' ret, (machine mutex).step s (.allocate faults) = some (s', ret) ∧
      Accounted mutex maxConn s' ∧
      BoundedPool.Unreleased s.pool.freeList.length s'.pool.freeList.length
        (Destroys (.allocate faults) s') := by
  have hback : ∀ p, s.pool.freeList.getLast? = some p →
      ∃ a, p = some a ∧ s.pool.heap.Live a := by
    intro p hlast
    exact h.live p (List.mem_append_left _ (List.mem_of_getLast? hlast))
  rcases DBConn.allocate_took hlock hback faults with
    ⟨-, conn, pool, halloc, htook, hfree, hfresh, hlives⟩ |
      ⟨-, ⟨pool, halloc, htook, hfree⟩ | ⟨pool, halloc, htook, -⟩⟩
  -- a connection is handed out
  · have hlive := (hlives conn).mpr (Or.inl rfl)
    refine ⟨⟨pool, conn :: s.outstanding⟩, some conn, ?_, h.lend htook hfree hlive hfresh,
      unreleased_of_took htook faults _⟩
    simp only [machine, call, halloc]
  -- there is none
  · refine ⟨⟨pool, s.outstanding⟩, none, ?_, h.took htook fun _ => hfree,
      unreleased_of_took htook faults _⟩
    simp only [machine, call, halloc]
  -- isClosed throws, and the lock stays taken if it is a mutex
  · have hthrown : DBConn.Took s.pool (afterThrow mutex pool) := by
      unfold afterThrow
      split
      · exact htook
      · exact ⟨htook.freeList, htook.maxConn, htook.live⟩
    have hfree : mutex = false → (afterThrow mutex pool).locked = false := by
      rintro rfl
      rfl
    refine ⟨⟨afterThrow mutex pool, s.outstanding⟩, none, ?_, h.took hthrown hfree,
      unreleased_of_took hthrown faults _⟩
    simp only [machine, call, halloc]

/-- **A call of `release`.** -/
theorem release_step (h : Accounted mutex maxConn s) {conn : Nat} (hconn : conn ∈ s.outstanding)
    (hroom : s.pool.locked = true → s.pool.maxConn < s.pool.freeList.length)
    (faults : ConnFaults) :
    ∃ s' ret, (machine mutex).step s (.release conn faults) = some (s', ret) ∧
      Accounted mutex maxConn s' ∧
      BoundedPool.Released maxConn s.pool.freeList.length s'.pool.freeList.length
        (Destroys (.release conn faults) s') := by
  obtain ⟨a, ha, hlive⟩ := h.live (some conn)
    (List.mem_append_right _ (List.mem_map_of_mem hconn))
  obtain rfl := Option.some.inj ha
  obtain ⟨pool, hrelease, hmax, hlock, hlives, hgives⟩ :=
    DBConn.release_gives hlive hroom faults
  refine ⟨⟨pool, s.outstanding.erase conn⟩, none, ?_,
    h.give hconn hmax hlock hlives (hgives.imp (fun hp => hp.2) fun hp => hp.2), ?_⟩
  · simp only [machine, call, hrelease]
  · rw [h.maxConn_eq] at hgives
    rcases hgives with ⟨hle, hpushed, -⟩ | ⟨hfull, hsame⟩
    · refine Or.inl ⟨hle, ?_, ?_⟩
      · show pool.freeList.length = _
        rw [hpushed, List.length_append, List.length_singleton]
      -- the connection is in the list, so it was not destroyed
      · rintro ⟨conn', faults', hc, hnot⟩
        obtain ⟨rfl, -⟩ := Call.release.inj hc
        refine hnot ?_
        show some conn ∈ pool.freeList
        rw [hpushed]
        exact List.mem_append_right _ (List.mem_singleton_self _)
    · exact Or.inr ⟨hfull, congrArg List.length hsame⟩

/-- **One call.** -/
theorem call_spec (h : Accounted mutex maxConn s) (c : Call) (hlawful : Lawful mutex s c) :
    ∃ s' ret, (machine mutex).step s c = some (s', ret) ∧ Accounted mutex maxConn s' ∧
      (c.Releases → BoundedPool.Released maxConn s.pool.freeList.length
        s'.pool.freeList.length (Destroys c s')) ∧
      (¬ c.Releases → BoundedPool.Unreleased s.pool.freeList.length s'.pool.freeList.length
        (Destroys c s')) := by
  obtain ⟨hout, hwaits⟩ := hlawful
  -- a lock that is taken is a mutex
  have hmutex : s.pool.locked = true → mutex = true := by
    intro hlocked
    cases mutex with
    | true => rfl
    | false => exact absurd (h.unlocked rfl) (by simp [hlocked])
  cases c with
  | allocate faults =>
    -- an allocation gives nothing back
    have hno : ¬ (Call.allocate faults).Releases := by
      rintro ⟨conn, faults', hc⟩
      exact Call.noConfusion hc
    -- a call that would block for ever is not lawful
    have hlock : s.pool.locked = false := by
      cases hl : s.pool.locked with
      | false => rfl
      | true => exact absurd hl (hwaits (hmutex hl))
    obtain ⟨s', ret, hstep, hacc, hunreleased⟩ := allocate_step h hlock faults
    exact ⟨s', ret, hstep, hacc, fun hc => absurd hc hno, fun _ => hunreleased⟩
  | release conn faults =>
    have hyes : (Call.release conn faults).Releases := ⟨conn, faults, rfl⟩
    have hroom : s.pool.locked = true → s.pool.maxConn < s.pool.freeList.length := by
      intro hl
      exact Nat.lt_of_not_le fun hle => hwaits (hmutex hl) ⟨hl, hle⟩
    obtain ⟨s', ret, hstep, hacc, hreleased⟩ :=
      release_step h (hout conn faults rfl) hroom faults
    exact ⟨s', ret, hstep, hacc, fun _ => hreleased, fun hno => absurd hyes hno⟩

/-- **Idle connections.** Any sequence of calls, with or without a mutex, that gives back
outstanding connections keeps the list within `max_conn_`, and destroys only with the list
at `max_conn_`, exactly if none is given back while the list holds `max_conn_`. -/
theorem idle_limit (mutex : Bool) (maxConn : Nat) (calls : List Call)
    (hlawful : (machine mutex).Along (Lawful mutex) (init maxConn) calls) :
    (machine mutex).EachStep (fun s c s' _ => KeepsLimit maxConn s c s') (init maxConn) calls ↔
      (machine mutex).Along (fun s c => c.Releases → s.pool.freeList.length ≠ maxConn)
        (init maxConn) calls := by
  simp only [keepsLimit_iff]
  exact BoundedPool.withinBound_iff_along maxConn (fun s => s.pool.freeList.length)
    (fun _ c s' => Destroys c s') (Accounted mutex maxConn) (Lawful mutex)
    (fun _ c => c.Releases) (fun _ c h hc => call_spec h c hc) calls (init maxConn)
    (accounted_init mutex maxConn) (Nat.zero_le _) hlawful

/-- A connection is created and given back, where one may be idle. -/
theorem idle_limit_one :
    (machine false).EachStep (fun s c s' _ => KeepsLimit 1 s c s') (init 1)
      [.allocate ⟨some false, .ok, true⟩, .release 0 ⟨some false, .ok, true⟩] := by
  refine (idle_limit false 1 _ ?_).mpr ?_
  · refine ⟨⟨fun _ _ hc => Call.noConfusion hc, by simp⟩, ?_⟩
    intro s ret hcall
    obtain ⟨rfl, -⟩ := Prod.mk.inj (Option.some.inj hcall)
    refine ⟨⟨?_, by simp⟩, fun _ _ _ => trivial⟩
    intro conn faults hc
    obtain ⟨rfl, -⟩ := Call.release.inj hc
    exact List.mem_singleton_self _
  · refine ⟨fun _ => by decide, ?_⟩
    intro s ret hcall
    obtain ⟨rfl, -⟩ := Prod.mk.inj (Option.some.inj hcall)
    exact ⟨fun _ => by decide, fun _ _ _ => trivial⟩

/-- With `max_conn_` zero a connection that is given back stays idle. -/
theorem idle_past_limit :
    ∃ s rets, (machine false).run (init 0)
        [.allocate ⟨some false, .ok, true⟩, .release 0 ⟨some false, .ok, true⟩] =
          some (s, rets) ∧
      ¬ s.pool.freeList.length ≤ 0 :=
  ⟨_, _, rfl, by decide⟩

/-- In every sequence of calls the list stays within one of `max_conn_`, and a connection is
destroyed only with the list full. -/
theorem idle_within_one (mutex : Bool) (maxConn : Nat) (calls : List Call)
    (hlawful : (machine mutex).Along (Lawful mutex) (init maxConn) calls) :
    (machine mutex).EachStep (fun s c s' _ => s'.pool.freeList.length ≤ maxConn + 1 ∧
      (Destroys c s' → maxConn ≤ s.pool.freeList.length)) (init maxConn) calls :=
  BoundedPool.within_one_of_along maxConn (fun s => s.pool.freeList.length)
    (fun _ c s' => Destroys c s') (Accounted mutex maxConn) (Lawful mutex)
    (fun _ c => c.Releases) (fun _ c h hc => call_spec h c hc) calls (init maxConn)
    (accounted_init mutex maxConn) (Nat.zero_le _) hlawful

end Borrowers

end FindFriendBot
