import FindFriendBot.Registry.Simulation

/-!
# FindFriendBot — ownership over runs, and teardown

Every state the bot reaches is owned, whatever the driver answers, and from an
owned state `~MemberMgr` followed by `~lock_queue` is defined: its loop empties
the map, and the objects it deletes are those the map or the pool held, each
once.

* `destroyLoop_spec` — the loop, over the entries the iterator has left.
* `clear_spec`       — `~lock_queue` over a pool of distinct live objects.
* `ownership`        — the invariant and the teardown in every reachable state.
-/

namespace FindFriendBot

-- ---------------------------------------------------------------------------
-- ~lock_queue
-- ---------------------------------------------------------------------------

/-- Clearing a pool of distinct live objects deletes exactly these objects. -/
theorem LockQueue.clear_spec {α : Type*} [Recyclable α] :
    ∀ (pool : List Ptr) (heap : ObjectHeap α), pool.Nodup →
      (∀ p ∈ pool, ∃ a, p = some a ∧ heap.Live a) →
      ∃ heap' log, LockQueue.clear heap pool = some heap' ∧
        heap'.deleted = log ++ heap.deleted ∧ ∀ a, a ∈ log ↔ some a ∈ pool := by
  intro pool
  -- induction on the pool, which holds distinct live objects
  induction pool with
  | nil => exact fun heap _ _ => ⟨heap, [], rfl, rfl, fun a => by simp⟩
  | cons p rest ih =>
    intro heap hnodup hlive
    obtain ⟨a, rfl, ha⟩ := hlive p (List.mem_cons_self ..)
    obtain ⟨hnot, hrest⟩ := List.nodup_cons.mp hnodup
    have ha' : (heap.modify a Recyclable.clear).Live a := ObjectHeap.live_modify_iff.mpr ha
    obtain ⟨heap₁, hdel, hlog₁, -, hlive₁⟩ := ObjectHeap.delete_of_live ha'
    -- the rest of the pool survives the delete
    have hlive' : ∀ q ∈ rest, ∃ b, q = some b ∧ heap₁.Live b := by
      intro q hq
      obtain ⟨b, rfl, hb⟩ := hlive q (List.mem_cons_of_mem _ hq)
      have hne : b ≠ a := fun he => hnot (he ▸ hq)
      exact ⟨b, rfl, (hlive₁ b).mpr ⟨hne, ObjectHeap.live_modify_iff.mpr hb⟩⟩
    obtain ⟨heap', log, hclear, hlog, hmem⟩ := ih heap₁ hrest hlive'
    refine ⟨heap', log ++ [a], ?_, ?_, ?_⟩
    · simp only [LockQueue.clear, ObjectHeap.update_of_live ha, hdel, hclear]
    · rw [hlog, hlog₁, List.append_assoc]
      rfl
    · intro b
      rw [List.mem_append, hmem, List.mem_singleton, List.mem_cons, Option.some.injEq, or_comm]

namespace MemberMgr

/-- The map or the pool points to `a`. -/
def Held (mgr : MemberMgr) (a : Nat) : Prop :=
  (∃ k : Bytes, mgr.onlineMember[k]? = some (some a)) ∨ some a ∈ mgr.freeList

theorem Owned.live_of_held {mgr : MemberMgr} (h : mgr.Owned) {a : Nat} (ha : mgr.Held a) :
    mgr.heap.Live a := by
  rcases ha with ⟨k, hk⟩ | hpool
  · obtain ⟨b, m, hb, hread, -⟩ := h.map_read k _ hk
    rw [Option.some.inj hb]
    exact ObjectHeap.live_of_read hread
  · obtain ⟨b, hb, hlive⟩ := h.pool_live _ hpool
    rw [Option.some.inj hb]
    exact hlive

-- ---------------------------------------------------------------------------
-- ~MemberMgr
-- ---------------------------------------------------------------------------

/-- `deallcate` moves the object to the pool, or deletes it. -/
theorem deallcate_cases {mgr mgr' : MemberMgr} {a : Nat} (ha : mgr.heap.Live a)
    (hd : mgr.deallcate (some a) = some mgr') :
    mgr'.onlineMember = mgr.onlineMember ∧
      ((mgr'.heap.deleted = mgr.heap.deleted ∧ mgr'.freeList = mgr.freeList ++ [some a]) ∨
        (mgr'.heap.deleted = a :: mgr.heap.deleted ∧ mgr'.freeList = mgr.freeList)) := by
  by_cases hfull : Recyclable.maxPoolSize Member < mgr.freeList.length
  -- a full pool: the member is deleted, and stays out of it
  · obtain ⟨heap, hdel, hlog, -⟩ := ObjectHeap.delete_of_live ha
    simp only [deallcate, LockQueue.deallcate, hfull, if_true, hdel, Option.map_some,
      Option.some.injEq] at hd
    rw [← hd]
    exact ⟨rfl, Or.inr ⟨hlog, rfl⟩⟩
  · simp only [deallcate, LockQueue.deallcate, hfull, if_false, Option.some.injEq] at hd
    rw [← hd]
    exact ⟨rfl, Or.inl ⟨rfl, rfl⟩⟩

/-- The destructor's loop. The iterator's entries are the map's; each turn
takes one of them out of both. -/
theorem destroyLoop_spec :
    ∀ (it : List (Bytes × Ptr)) {mgr : MemberMgr}, mgr.Owned → (it.map Prod.fst).Nodup →
      (∀ k p, (k, p) ∈ it ↔ mgr.onlineMember[k]? = some p) →
      ∃ mgr' log, mgr.destroyLoop it = some mgr' ∧ mgr'.Owned ∧ mgr'.onlineMember = ∅ ∧
        mgr'.heap.deleted = log ++ mgr.heap.deleted ∧
        ∀ a, mgr.Held a ↔ a ∈ log ∨ some a ∈ mgr'.freeList := by
  intro it
  -- induction on what is left of the iteration: exactly the entries still in the map
  induction it with
  | nil =>
    intro mgr h _ hit
    have hnone : ∀ k : Bytes, mgr.onlineMember[k]? = none := by
      intro k
      cases hk : mgr.onlineMember[k]? with
      | none => rfl
      | some p => exact absurd ((hit k p).mpr hk) List.not_mem_nil
    refine ⟨mgr, [], rfl, h, ?_, rfl, ?_⟩
    · apply Std.ExtTreeMap.ext_getElem?
      intro k
      rw [hnone, Std.ExtTreeMap.getElem?_empty]
    · intro a
      simp [Held, hnone]
  | cons kp it ih =>
    intro mgr h hnodup hit
    obtain ⟨k, p⟩ := kp
    have hk : mgr.onlineMember[k]? = some p := (hit k p).mp (List.mem_cons_self ..)
    obtain ⟨a, m, rfl, hread, -⟩ := h.map_read k p hk
    obtain ⟨hfresh, hnodup'⟩ := List.nodup_cons.mp hnodup
    obtain ⟨mgr₁, mgr₂, hdeall, rfl, howned, -, -⟩ := deallcate_erase_spec h hk
    obtain ⟨hmap, hmoved⟩ := deallcate_cases (ObjectHeap.live_of_read hread) hdeall
    have hit' : ∀ k' p', (k', p') ∈ it ↔ (mgr₁.onlineMember.erase k)[k']? = some p' := by
      rw [hmap]
      exact OrderedMap.mem_tail_iff_erase hfresh hit
    obtain ⟨mgr', log, hloop, howned', hempty, hlog, hheld⟩ := ih howned hnodup' hit'
    -- an entry of the old map is the head's or one of the smaller map's
    have hsplit : ∀ b, (∃ k' : Bytes, mgr.onlineMember[k']? = some (some b)) ↔
        b = a ∨ ∃ k' : Bytes, (mgr₁.onlineMember.erase k)[k']? = some (some b) := by
      intro b
      rw [OrderedMap.exists_get_iff_erase hk, Option.some.injEq, hmap]
    have hrun : mgr.destroyLoop ((k, some a) :: it) = some mgr' := by
      rw [destroyLoop, hdeall]
      exact hloop
    rcases hmoved with ⟨hdel, hfree⟩ | ⟨hdel, hfree⟩
    · -- pooled: the loop leaves it to ~lock_queue
      refine ⟨mgr', log, hrun, howned', hempty, ?_, ?_⟩
      · rw [hlog, hdel]
      · intro b
        rw [← hheld b, Held, Held, hsplit b, hfree, List.mem_append, List.mem_singleton,
          Option.some.injEq]
        tauto
    -- deleted: it is in the log at once
    · refine ⟨mgr', log ++ [a], hrun, howned', hempty, ?_, ?_⟩
      · rw [hlog, hdel, List.append_assoc]
        rfl
      · intro b
        rw [List.mem_append, List.mem_singleton, or_right_comm, ← hheld b, Held, Held, hsplit b,
          hfree]
        tauto

/-- **Teardown.** `~MemberMgr` and `~lock_queue` delete the held objects, each
once, and leave the map and the pool empty. -/
theorem destroy_spec {mgr : MemberMgr} (h : mgr.Owned) :
    ∃ mgr' log, mgr.destroy = some mgr' ∧ mgr'.onlineMember = ∅ ∧ mgr'.freeList = [] ∧
      mgr'.heap.deleted = log ++ mgr.heap.deleted ∧ log.Nodup ∧ ∀ a, a ∈ log ↔ mgr.Held a := by
  -- the iteration meets every key once
  have hkeys : (mgr.onlineMember.toList.map Prod.fst).Nodup := by
    rw [Std.ExtTreeMap.map_fst_toList_eq_keys]
    exact Std.ExtTreeMap.nodup_keys
  obtain ⟨mgr₁, log₁, hloop, howned, hempty, hlog₁, hheld⟩ :=
    destroyLoop_spec mgr.onlineMember.toList h hkeys
      fun k p => Std.ExtTreeMap.mem_toList_iff_getElem?_eq_some
  obtain ⟨heap, log₂, hclear, hlog₂, hmem⟩ :=
    LockQueue.clear_spec mgr₁.freeList mgr₁.heap howned.pool_nodup howned.pool_live
  -- first the members of the map, then those of the pool
  have hlog : heap.deleted = (log₂ ++ log₁) ++ mgr.heap.deleted := by
    rw [hlog₂, hlog₁, List.append_assoc]
  refine ⟨{ mgr₁ with heap := heap, freeList := [] }, log₂ ++ log₁, ?_, hempty, rfl, hlog, ?_, ?_⟩
  · rw [destroy, hloop]
    simp only [hclear]
  -- nothing is deleted twice, as the heap would not allow it
  · have hnodup : ((log₂ ++ log₁) ++ mgr.heap.deleted).Nodup := hlog ▸ heap.deleted_nodup
    exact (List.nodup_append.mp hnodup).1
  · intro a
    rw [List.mem_append, hmem, hheld, or_comm]

end MemberMgr

-- ---------------------------------------------------------------------------
-- Runs
-- ---------------------------------------------------------------------------

variable {σ : Type} (D : Driver σ) (env : Env)

/-- **Ownership.** After any events and any driver answers, the pointers of the
map and of the pool are non-null, distinct, disjoint and live, each key is its
object's `pk()`, and teardown deletes every held object exactly once. -/
theorem ownership (db : σ) (tox : Tox) (is : List Input) :
    ∃ s os, (Bot.machine D env).run (Bot.init db tox) is = some (s, os) ∧
      (∀ (k : Bytes) p, s.memberMgr.onlineMember[k]? = some p →
        ∃ a m, p = some a ∧ s.memberMgr.heap.read a = some m ∧ m.pk = k) ∧
      (∀ (k k' : Bytes) p, s.memberMgr.onlineMember[k]? = some p →
        s.memberMgr.onlineMember[k']? = some p → k = k') ∧
      s.memberMgr.freeList.Nodup ∧
      (∀ p ∈ s.memberMgr.freeList, p ≠ none) ∧
      (∀ (k : Bytes) p, s.memberMgr.onlineMember[k]? = some p → p ∉ s.memberMgr.freeList) ∧
      (∀ a, s.memberMgr.Held a → s.memberMgr.heap.Live a ∧ a ∉ s.memberMgr.heap.deleted) ∧
      ∃ mgr' log, s.memberMgr.destroy = some mgr' ∧ mgr'.onlineMember = ∅ ∧
        mgr'.freeList = [] ∧ mgr'.heap.deleted = log ++ s.memberMgr.heap.deleted ∧ log.Nodup ∧
        ∀ a, a ∈ log ↔ s.memberMgr.Held a := by
  obtain ⟨s, r, os, hrun, -, href⟩ := run_sim D env is (refines_init db tox)
  have h := href.owned
  refine ⟨s, os, hrun, h.map_read, fun k k' p => h.map_inj, h.pool_nodup, ?_,
    h.disjoint, ?_, MemberMgr.destroy_spec h⟩
  · intro p hp
    obtain ⟨a, rfl, -⟩ := h.pool_live p hp
    exact Option.some_ne_none a
  · intro a ha
    have hlive := h.live_of_held ha
    exact ⟨hlive, fun hdel => s.memberMgr.heap.deleted_dead a hdel hlive⟩

end FindFriendBot
