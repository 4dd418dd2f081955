import FindFriendBot.Lib.BoundedPool
import FindFriendBot.Registry.Keys
import FindFriendBot.Registry.Simulation

/-!
# FindFriendBot — the capacity of the recycling pool

`lock_queue::deallcate` compares `MAX_POOL_SIZE` with the length of `free_list_`
before it pushes, and deletes only if the length is past the bound. So a pool that
holds exactly `MAX_POOL_SIZE` objects takes one more. Nothing but the release of
an object lengthens the pool or deletes, in the bot as in any other user of the
template.

* `capacity_iff`    — any machine whose steps release or do not: the exact guard.
* `pool_capacity`   — calls of `lock_queue`, and events of the bot.
* `pool_within_one` — what holds of every run of the bot.
-/

namespace FindFriendBot

namespace LockQueue

/-- The part of the process that `lock_queue` works on. -/
structure Pool (α : Type*) where
  heap : ObjectHeap α
  freeList : List Ptr

variable {α : Type*}

/-- Nothing was released: the pool is not longer and no object was deleted. -/
structure Unfreed (p p' : Pool α) : Prop where
  length_le : p'.freeList.length ≤ p.freeList.length
  deleted : ∀ a ∈ p'.heap.deleted, a ∈ p.heap.deleted

theorem Unfreed.refl (p : Pool α) : Unfreed p p where
  length_le := Nat.le_refl _
  deleted := fun _ ha => ha

theorem Unfreed.trans {p q r : Pool α} (h : Unfreed p q) (h' : Unfreed q r) : Unfreed p r where
  length_le := Nat.le_trans h'.length_le h.length_le
  deleted := fun a ha => h.deleted a (h'.deleted a ha)

/-- Some object is deleted. -/
def Deletes (p p' : Pool α) : Prop := ∃ a ∈ p'.heap.deleted, a ∉ p.heap.deleted

theorem Unfreed.unreleased {p p' : Pool α} (h : Unfreed p p') :
    BoundedPool.Unreleased p.freeList.length p'.freeList.length (Deletes p p') where
  length_le := h.length_le
  keeps := by
    rintro ⟨a, ha, hnot⟩
    exact hnot (h.deleted a ha)

variable [Recyclable α]

/-- An object was released: to the pool, or to the heap by a pool past its bound. -/
def Freed (p p' : Pool α) : Prop :=
  (p.freeList.length ≤ Recyclable.maxPoolSize α ∧
      p'.freeList.length = p.freeList.length + 1 ∧ p'.heap.deleted = p.heap.deleted) ∨
    (Recyclable.maxPoolSize α < p.freeList.length ∧
      p'.freeList.length = p.freeList.length ∧ ∃ a, p'.heap.deleted = a :: p.heap.deleted)

/-- An object is deleted only if the pool holds `MAX_POOL_SIZE`. -/
def DeletesOnlyFull (p p' : Pool α) : Prop :=
  ∀ a ∈ p'.heap.deleted, a ∉ p.heap.deleted → Recyclable.maxPoolSize α ≤ p.freeList.length

/-- What a step should do to a pool with a bound. -/
structure KeepsCapacity (p p' : Pool α) : Prop where
  length_le : p'.freeList.length ≤ Recyclable.maxPoolSize α
  deletes : DeletesOnlyFull p p'

theorem deletesOnlyFull_iff {p p' : Pool α} :
    DeletesOnlyFull p p' ↔ (Deletes p p' → Recyclable.maxPoolSize α ≤ p.freeList.length) := by
  constructor
  · rintro h ⟨a, ha, hnot⟩
    exact h a ha hnot
  · exact fun h a ha hnot => h ⟨a, ha, hnot⟩

theorem keepsCapacity_iff {p p' : Pool α} :
    KeepsCapacity p p' ↔ BoundedPool.WithinBound (Recyclable.maxPoolSize α) p.freeList.length
      p'.freeList.length (Deletes p p') := by
  constructor
  · exact fun h => ⟨h.length_le, deletesOnlyFull_iff.mp h.deletes⟩
  · exact fun h => ⟨h.length_le, deletesOnlyFull_iff.mpr h.full_of_drops⟩

theorem Freed.released {p p' : Pool α} (h : Freed p p') :
    BoundedPool.Released (Recyclable.maxPoolSize α) p.freeList.length p'.freeList.length
      (Deletes p p') := by
  rcases h with ⟨hroom, hpushed, hdeleted⟩ | ⟨hfull, hsame, -⟩
  · refine Or.inl ⟨hroom, hpushed, ?_⟩
    rintro ⟨a, ha, hnot⟩
    exact hnot (hdeleted ▸ ha)
  · exact Or.inr ⟨hfull, hsame⟩

-- ---------------------------------------------------------------------------
-- Any machine that releases objects
-- ---------------------------------------------------------------------------

section

variable {S E O : Type*} {M : StepMachine S E O} (pool : S → Pool α) (Inv : S → Prop)
  (A Frees : S → E → Prop)

/-- The steps of such a machine, as those of a pool with a bound. -/
theorem released_of_freed
    (hstep : ∀ s e, Inv s → A s e → ∃ s' o, M.step s e = some (s', o) ∧ Inv s' ∧
      (Frees s e → Freed (pool s) (pool s')) ∧ (¬ Frees s e → Unfreed (pool s) (pool s')))
    (s : S) (e : E) (hs : Inv s) (hA : A s e) :
    ∃ s' o, M.step s e = some (s', o) ∧ Inv s' ∧
      (Frees s e → BoundedPool.Released (Recyclable.maxPoolSize α) (pool s).freeList.length
        (pool s').freeList.length (Deletes (pool s) (pool s'))) ∧
      (¬ Frees s e → BoundedPool.Unreleased (pool s).freeList.length (pool s').freeList.length
        (Deletes (pool s) (pool s'))) := by
  obtain ⟨s', o, hse, hs', hfreed, hunfreed⟩ := hstep s e hs hA
  exact ⟨s', o, hse, hs', fun hf => (hfreed hf).released, fun hf => (hunfreed hf).unreleased⟩

/-- **Capacity.** In a machine whose admissible steps release an object exactly if they are among
`Frees`, a run keeps the bound exactly if none releases one to a pool of
`MAX_POOL_SIZE`. -/
theorem capacity_iff
    (hstep : ∀ s e, Inv s → A s e → ∃ s' o, M.step s e = some (s', o) ∧ Inv s' ∧
      (Frees s e → Freed (pool s) (pool s')) ∧ (¬ Frees s e → Unfreed (pool s) (pool s')))
    (es : List E) (s : S) (hs : Inv s) (hempty : (pool s).freeList = []) (hA : M.Along A s es) :
    M.EachStep (fun s _ s' _ => KeepsCapacity (pool s) (pool s')) s es ↔
      M.Along (fun s e => Frees s e →
        (pool s).freeList.length ≠ Recyclable.maxPoolSize α) s es := by
  simp only [keepsCapacity_iff]
  exact BoundedPool.withinBound_iff_along (Recyclable.maxPoolSize α)
    (fun s => (pool s).freeList.length) (fun s _ s' => Deletes (pool s) (pool s')) Inv A Frees
    (released_of_freed pool Inv A Frees hstep) es s hs (by simp [hempty]) hA

/-- In any case the pool stays within one of its bound, and an object is deleted only if the
pool is full. -/
theorem capacity_of_steps
    (hstep : ∀ s e, Inv s → A s e → ∃ s' o, M.step s e = some (s', o) ∧ Inv s' ∧
      (Frees s e → Freed (pool s) (pool s')) ∧ (¬ Frees s e → Unfreed (pool s) (pool s')))
    (es : List E) (s : S) (hs : Inv s) (hempty : (pool s).freeList = []) (hA : M.Along A s es) :
    M.EachStep (fun s _ s' _ => (pool s').freeList.length ≤ Recyclable.maxPoolSize α + 1 ∧
      DeletesOnlyFull (pool s) (pool s')) s es := by
  simp only [deletesOnlyFull_iff]
  exact BoundedPool.within_one_of_along (Recyclable.maxPoolSize α)
    (fun s => (pool s).freeList.length) (fun s _ s' => Deletes (pool s) (pool s')) Inv A Frees
    (released_of_freed pool Inv A Frees hstep) es s hs (by simp [hempty]) hA

end

-- ---------------------------------------------------------------------------
-- Calls of lock_queue
-- ---------------------------------------------------------------------------

/-- A call by a user of the template. -/
inductive Call
  | allocate
  | deallcate (val : Ptr)

/-- One call; `allocate` answers with the pointer. -/
def call (p : Pool α) : Call → Option (Pool α × Ptr)
  | .allocate =>
    let (ret, heap, freeList) := allocate p.heap p.freeList
    some (⟨heap, freeList⟩, ret)
  | .deallcate val =>
    match deallcate p.heap p.freeList val with
    | none => none
    | some (heap, freeList) => some (⟨heap, freeList⟩, none)

variable (α) in
/-- Any sequence of calls. -/
def machine : StepMachine (Pool α) Call Ptr where
  step := call

/-- What is deallocated was allocated, lives and is not pooled. -/
def Lawful (p : Pool α) : Call → Prop
  | .allocate => True
  | .deallcate val => ∀ a, val = some a → p.heap.Live a ∧ val ∉ p.freeList

/-- The call gives an object back. -/
def Call.Frees (c : Call) : Prop := ∃ a, c = .deallcate (some a)

variable (α) in
/-- A queue that nothing was allocated from. -/
def Pool.empty : Pool α where
  heap := ObjectHeap.empty
  freeList := []

theorem allocate_unfreed {heap heap' : ObjectHeap α} {freeList freeList' : List Ptr} {ret : Ptr}
    (h : allocate heap freeList = (ret, heap', freeList')) :
    Unfreed (α := α) ⟨heap, freeList⟩ ⟨heap', freeList'⟩ := by
  unfold allocate at h
  split at h
  · -- the heap's next object
    obtain ⟨-, rfl, rfl⟩ := h
    exact ⟨Nat.le_refl _, fun _ ha => ha⟩
  -- a pooled one
  · obtain ⟨-, rfl, rfl⟩ := h
    refine ⟨?_, fun _ ha => ha⟩
    show freeList.dropLast.length ≤ freeList.length
    rw [List.length_dropLast]
    omega

theorem deallcate_freed {heap : ObjectHeap α} {a : Nat} (ha : heap.Live a) (freeList : List Ptr) :
    ∃ heap' freeList', deallcate heap freeList (some a) = some (heap', freeList') ∧
      Freed (α := α) ⟨heap, freeList⟩ ⟨heap', freeList'⟩ := by
  by_cases hfull : Recyclable.maxPoolSize α < freeList.length
  · obtain ⟨heap', hdelete, hlog, -⟩ := ObjectHeap.delete_of_live ha
    refine ⟨heap', freeList, by simp [deallcate, hfull, hdelete], Or.inr ⟨hfull, rfl, a, hlog⟩⟩
  · refine ⟨heap, freeList ++ [some a], by simp [deallcate, hfull], Or.inl ⟨?_, ?_, rfl⟩⟩
    · exact Nat.le_of_not_lt hfull
    · show (freeList ++ [some a]).length = freeList.length + 1
      rw [List.length_append, List.length_singleton]

/-- **One call.** -/
theorem call_step (p : Pool α) (c : Call) (hlawful : Lawful p c) :
    ∃ p' ret, (machine α).step p c = some (p', ret) ∧
      (c.Frees → Freed p p') ∧ (¬ c.Frees → Unfreed p p') := by
  cases c with
  | allocate =>
    refine ⟨_, _, rfl, ?_, fun _ => allocate_unfreed rfl⟩
    rintro ⟨a, hc⟩
    exact absurd hc (by simp)
  | deallcate val =>
    cases val with
    | none =>
      -- a null pointer is not queued
      refine ⟨p, none, rfl, ?_, fun _ => Unfreed.refl p⟩
      rintro ⟨a, hc⟩
      exact absurd hc (by simp)
    | some a =>
      obtain ⟨heap', freeList', hcall, hfreed⟩ := deallcate_freed (hlawful a rfl).1 p.freeList
      refine ⟨⟨heap', freeList'⟩, none, ?_, fun _ => hfreed, fun hno => absurd ⟨a, rfl⟩ hno⟩
      simp only [machine, call, hcall]

end LockQueue

-- ---------------------------------------------------------------------------
-- The bot
-- ---------------------------------------------------------------------------

namespace MemberMgr

/-- The pool of the registry. -/
def pool (mgr : MemberMgr) : LockQueue.Pool Member := ⟨mgr.heap, mgr.freeList⟩

open LockQueue (Freed Unfreed)

theorem update_unfreed {mgr mgr' : MemberMgr} {member : Ptr} {set : Member → Member}
    (h : mgr.update member set = some mgr') : Unfreed mgr.pool mgr'.pool := by
  unfold update at h
  -- the member is dangling
  split at h
  · exact absurd h (by simp)
  · next heap hheap =>
    obtain rfl := Option.some.inj h
    cases member with
    | none => exact absurd hheap (by simp [ObjectHeap.update])
    | some a =>
      simp only [ObjectHeap.update] at hheap
      split at hheap
      · obtain rfl := Option.some.inj hheap
        exact ⟨Nat.le_refl _, fun _ ha => ha⟩
      · exact absurd hheap (by simp)

theorem addMember_unfreed {mgr mgr' : MemberMgr} {member : Ptr}
    (h : mgr.addMember member = some mgr') : Unfreed mgr.pool mgr'.pool := by
  unfold addMember at h
  split at h
  · exact absurd h (by simp)
  · obtain rfl := Option.some.inj h
    exact ⟨Nat.le_refl _, fun _ ha => ha⟩

theorem allocate_unfreed {mgr mgr' : MemberMgr} {member : Ptr}
    (h : mgr.allocate = some (member, mgr')) : Unfreed mgr.pool mgr'.pool := by
  unfold allocate at h
  cases hqueue : LockQueue.allocate mgr.heap mgr.freeList with
  | mk ret rest =>
    obtain ⟨heap, freeList⟩ := rest
    have htaken := LockQueue.allocate_unfreed hqueue
    simp only [hqueue] at h
    cases ret with
    | none =>
      -- the allocation failed, so there is nothing to reset
      obtain ⟨-, rfl⟩ := Prod.mk.inj (Option.some.inj h)
      exact htaken
    | some a =>
      cases hreset : heap.update (some a) Member.clear with
      | none => simp [hreset] at h
      | some heap' =>
        simp only [hreset, Option.some.injEq, Prod.mk.injEq] at h
        obtain ⟨-, rfl⟩ := h
        have hupdate : ({ mgr with heap := heap, freeList := freeList } : MemberMgr).update
            (some a) Member.clear =
              some { mgr with heap := heap', freeList := freeList } := by
          simp only [update, hreset]
        exact htaken.trans (update_unfreed hupdate)

/-- `del_member` releases the object of a registered key, and does nothing else. -/
theorem delMember_pool {mgr mgr' : MemberMgr} (howned : mgr.Owned) {k : Bytes}
    (h : mgr.delMember k = some mgr') :
    (k ∈ mgr.onlineMember → Freed mgr.pool mgr'.pool) ∧
      (k ∉ mgr.onlineMember → Unfreed mgr.pool mgr'.pool) := by
  rcases howned.find k with ⟨hk, -, -⟩ | ⟨a, m, hk, -, hread, -, -⟩
  -- the friend has no entry, so there is nothing to give back
  · have hout : k ∉ mgr.onlineMember := OrderedMap.not_mem_of_get hk
    simp only [delMember, hk, Option.some.injEq] at h
    exact ⟨fun hin => absurd hin hout, fun _ => h ▸ Unfreed.refl _⟩
  · have hin : k ∈ mgr.onlineMember := OrderedMap.mem_of_get hk
    -- the member goes back to the pool, or is deleted if it is full
    obtain ⟨heap', freeList', hqueue, hfreed⟩ :=
      LockQueue.deallcate_freed (ObjectHeap.live_of_read hread) mgr.freeList
    simp only [delMember, hk, deallcate, hqueue, Option.some.injEq] at h
    obtain rfl := h
    exact ⟨fun _ => hfreed, fun hout => absurd hin hout⟩

end MemberMgr

open LockQueue (Freed Unfreed KeepsCapacity DeletesOnlyFull)

variable {σ : Type} (D : Driver σ) (env : Env)

theorem findFriend_unfreed {pk : Bytes} {mgr mgr' : MemberMgr} {db db' : σ} {member : Ptr}
    (h : MemberModel.findFriend D pk mgr db = some (member, mgr', db')) :
    Unfreed mgr.pool mgr'.pool := by
  unfold MemberModel.findFriend at h
  split at h
  -- the query threw, or found no row
  · obtain ⟨-, rfl, -⟩ := h
    exact Unfreed.refl _
  · split at h
    · exact absurd h (by simp)
    -- a row was found: the member that takes it is allocated and filled
    · next halloc =>
      split at h
      · exact absurd h (by simp)
      · dsimp only at h
        split at h
        · exact absurd h (by simp)
        · next hupdate =>
          obtain ⟨-, rfl, -⟩ := h
          exact (MemberMgr.allocate_unfreed halloc).trans (MemberMgr.update_unfreed hupdate)

theorem updateCache_unfreed {mgr mgr' : MemberMgr} {pk : Bytes} {set : Member → Member}
    (h : Assisant.updateCache mgr pk set = some mgr') : Unfreed mgr.pool mgr'.pool := by
  unfold Assisant.updateCache at h
  split at h
  · obtain rfl := Option.some.inj h
    exact Unfreed.refl _
  · exact MemberMgr.update_unfreed h

/-- `/start` takes an object out of the pool, or creates one. -/
theorem cmdStart_unfreed {s s' : State σ} {pk : Pk} {ans : Answers} {tokId msgRes : Bytes}
    {r : Bytes × Bool} (h : Assisant.cmdStart D env s pk ans tokId msgRes = some (s', r)) :
    Unfreed s.memberMgr.pool s'.memberMgr.pool := by
  unfold Assisant.cmdStart at h
  split at h
  -- no token
  · obtain ⟨rfl, -⟩ := Prod.mk.inj (Option.some.inj h)
    exact Unfreed.refl _
  · split at h
    · dsimp only at h
      split at h
      · exact absurd h (by simp)
      · exact absurd h (by simp)
      -- allocated, filled and filed
      · next halloc =>
        split at h
        · exact absurd h (by simp)
        · next hupdate =>
          split at h
          · exact absurd h (by simp)
          · next hadd =>
            obtain ⟨rfl, -⟩ := Prod.mk.inj (Option.some.inj h)
            exact ((MemberMgr.allocate_unfreed halloc).trans
              (MemberMgr.update_unfreed hupdate)).trans (MemberMgr.addMember_unfreed hadd)
    -- a query failed
    · obtain ⟨rfl, -⟩ := Prod.mk.inj (Option.some.inj h)
      exact Unfreed.refl _

theorem cmdGet_state {s s' : State σ} {pk : Pk} {ans : Answers} {r : Bytes × Bool}
    (h : Assisant.cmdGet env s pk ans = some (s', r)) : s' = s := by
  unfold Assisant.cmdGet at h
  split at h
  · exact (Prod.mk.inj (Option.some.inj h)).1.symm
  · split at h
    · exact absurd h (by simp)
    · split at h
      · exact absurd h (by simp)
      · exact (Prod.mk.inj (Option.some.inj h)).1.symm

theorem cmdInfo_state {s s' : State σ} {pk : Pk} {ans : Answers} {msgRes : Bytes}
    {r : Bytes × Bool} (h : Assisant.cmdInfo env s pk ans msgRes = some (s', r)) : s' = s := by
  unfold Assisant.cmdInfo at h
  split at h
  -- registered: the entry is printed
  · split at h
    · exact absurd h (by simp)
    · split at h
      · exact absurd h (by simp)
      · exact (Prod.mk.inj (Option.some.inj h)).1.symm
  · split at h
    -- not registered: what the queries returned is printed
    · split at h
      · exact absurd h (by simp)
      · exact (Prod.mk.inj (Option.some.inj h)).1.symm
    · exact (Prod.mk.inj (Option.some.inj h)).1.symm

/-- No command but `/stop` releases an object. -/
theorem runCmd_unfreed {s s' : State σ} {pk : Pk} {ans : Answers} {cmd : Command} {param : Bytes}
    {r : Bytes × Bool} (hcmd : cmd ≠ .stop)
    (h : Assisant.runCmd D env s pk ans cmd param = some (s', r)) :
    Unfreed s.memberMgr.pool s'.memberMgr.pool := by
  cases cmd with
  | start => exact cmdStart_unfreed D env h
  | stop => exact absurd rfl hcmd
  | set =>
    replace h : Assisant.cmdSet D env s pk ans param = some (s', r) := h
    unfold Assisant.cmdSet at h
    split at h
    · obtain ⟨rfl, -⟩ := Prod.mk.inj (Option.some.inj h)
      exact Unfreed.refl _
    · split at h
      · exact absurd h (by simp)
      · next hcache =>
        obtain ⟨rfl, -⟩ := Prod.mk.inj (Option.some.inj h)
        exact updateCache_unfreed hcache
  | get => exact cmdGet_state env h ▸ Unfreed.refl _
  | info => exact cmdInfo_state env h ▸ Unfreed.refl _
  | help => exact (Prod.mk.inj (Option.some.inj h)).1 ▸ Unfreed.refl _
  | readme => exact (Prod.mk.inj (Option.some.inj h)).1 ▸ Unfreed.refl _
  | unknown => exact (Prod.mk.inj (Option.some.inj h)).1 ▸ Unfreed.refl _

/-- The event takes a registered friend out of the registry. -/
def Bot.Frees (s : State σ) (i : Input) : Prop :=
  match i.1 with
  | .connectionStatus pk .none => pk.hex ∈ s.memberMgr.onlineMember
  | .message pk msg => (∃ param, msg.dispatch = some (.stop, param)) ∧
      pk.hex ∈ s.memberMgr.onlineMember
  | _ => False

/-- A friend who comes online takes an object out of the pool, if anything. -/
theorem friendConnectionStatusCb_unfreed {s s' : State σ} {pk : Pk} {status : ToxConnection}
    (hst : status ≠ .none) (h : Assisant.friendConnectionStatusCb D s pk status = some s') :
    Unfreed s.memberMgr.pool s'.memberMgr.pool := by
  unfold Assisant.friendConnectionStatusCb at h
  rw [if_pos hst] at h
  split at h
  · exact absurd h (by simp)
  · next hfind =>
    obtain rfl := Option.some.inj h
    exact findFriend_unfreed D hfind
  · next hfind =>
    split at h
    · exact absurd h (by simp)
    · next hadd =>
      obtain rfl := Option.some.inj h
      exact (findFriend_unfreed D hfind).trans (MemberMgr.addMember_unfreed hadd)

/-- A friend who goes offline is taken out of the registry. -/
theorem friendConnectionStatusCb_pool {s s' : State σ} (howned : s.memberMgr.Owned) {pk : Pk}
    (h : Assisant.friendConnectionStatusCb D s pk .none = some s') :
    (pk.hex ∈ s.memberMgr.onlineMember → Freed s.memberMgr.pool s'.memberMgr.pool) ∧
      (pk.hex ∉ s.memberMgr.onlineMember → Unfreed s.memberMgr.pool s'.memberMgr.pool) := by
  unfold Assisant.friendConnectionStatusCb at h
  rw [if_neg (by simp)] at h
  split at h
  · exact absurd h (by simp)
  · next hdel =>
    obtain rfl := Option.some.inj h
    exact MemberMgr.delMember_pool howned hdel

theorem cmdStop_pool {s s' : State σ} (howned : s.memberMgr.Owned) {pk : Pk}
    {r : Bytes × Bool} (h : Assisant.cmdStop D env s pk = some (s', r)) :
    (pk.hex ∈ s.memberMgr.onlineMember → Freed s.memberMgr.pool s'.memberMgr.pool) ∧
      (pk.hex ∉ s.memberMgr.onlineMember → Unfreed s.memberMgr.pool s'.memberMgr.pool) := by
  unfold Assisant.cmdStop at h
  split at h
  · exact absurd h (by simp)
  · next hdel =>
    obtain ⟨rfl, -⟩ := Prod.mk.inj (Option.some.inj h)
    exact MemberMgr.delMember_pool howned hdel

/-- **One callback** releases an object exactly if it takes a friend out of the registry. -/
theorem handle_pool {s s' : State σ} (howned : s.memberMgr.Owned) {e : Event} {ans : Answers}
    {reply : Option Bytes} (h : Bot.handle D env s e ans = some (s', reply)) :
    (Bot.Frees s (e, ans) → Freed s.memberMgr.pool s'.memberMgr.pool) ∧
      (¬ Bot.Frees s (e, ans) → Unfreed s.memberMgr.pool s'.memberMgr.pool) := by
  cases e with
  | connectionStatus pk status =>
    obtain ⟨s₁, hcallback, hs₁⟩ := Option.map_eq_some_iff.mp h
    obtain ⟨rfl, -⟩ := Prod.mk.inj hs₁
    cases status with
    | none => exact friendConnectionStatusCb_pool D howned hcallback
    -- whatever else the status is, the friend is connected
    | tcp =>
      exact ⟨False.elim, fun _ => friendConnectionStatusCb_unfreed D (by simp) hcallback⟩
    | udp =>
      exact ⟨False.elim, fun _ => friendConnectionStatusCb_unfreed D (by simp) hcallback⟩
  | message pk msg =>
    obtain ⟨cmd, param, hdisp⟩ := msg.dispatch_isSome
    simp only [Bot.handle, Assisant.friendMessageCb, hdisp] at h
    split at h
    · exact absurd h (by simp)
    · next hrun =>
      obtain ⟨rfl, -⟩ := Prod.mk.inj (Option.some.inj h)
      by_cases hcmd : cmd = .stop
      -- /stop gives the entry's member back
      · subst hcmd
        obtain ⟨hfreed, hunfreed⟩ := cmdStop_pool D env howned hrun
        exact ⟨fun hfrees => hfreed hfrees.2, fun hno => hunfreed fun hin => hno ⟨⟨_, hdisp⟩, hin⟩⟩
      -- no other command does
      · refine ⟨?_, fun _ => runCmd_unfreed D env hcmd hrun⟩
        rintro ⟨⟨param', hstop⟩, -⟩
        rw [hdisp, Option.some.injEq, Prod.mk.injEq] at hstop
        exact absurd hstop.1 hcmd
  | name pk name =>
    obtain ⟨s₁, hcallback, hs₁⟩ := Option.map_eq_some_iff.mp h
    obtain ⟨rfl, -⟩ := Prod.mk.inj hs₁
    simp only [Assisant.friendNameCb] at hcallback
    split at hcallback
    · exact absurd hcallback (by simp)
    · next hcache =>
      obtain rfl := Option.some.inj hcallback
      exact ⟨False.elim, fun _ => updateCache_unfreed hcache⟩
  | statusMessage pk message =>
    obtain ⟨s₁, hcallback, hs₁⟩ := Option.map_eq_some_iff.mp h
    obtain ⟨rfl, -⟩ := Prod.mk.inj hs₁
    simp only [Assisant.friendStatusMessageCb] at hcallback
    split at hcallback
    · exact absurd hcallback (by simp)
    · next hcache =>
      obtain rfl := Option.some.inj hcallback
      exact ⟨False.elim, fun _ => updateCache_unfreed hcache⟩
  | restart =>
    obtain ⟨rfl, -⟩ := Prod.mk.inj (Option.some.inj h)
    -- a new process has an empty pool
    refine ⟨False.elim, fun _ => ⟨Nat.zero_le _, ?_⟩⟩
    intro a ha
    exact absurd ha List.not_mem_nil

/-- **One event.** -/
theorem step_pool {s : State σ} {r : Reference.State σ} (h : Refines s r) (i : Input) :
    ∃ s' o, Bot.step D env s i = some (s', o) ∧ Refines s' (Reference.step D env r i).1 ∧
      (Bot.Frees s i → Freed s.memberMgr.pool s'.memberMgr.pool) ∧
      (¬ Bot.Frees s i → Unfreed s.memberMgr.pool s'.memberMgr.pool) := by
  obtain ⟨s', hstep, href, -⟩ := step_sim D env h i
  refine ⟨s', _, hstep, href, ?_⟩
  unfold Bot.step at hstep
  split at hstep
  · exact absurd hstep (by simp)
  · next hhandle =>
    obtain ⟨rfl, -⟩ := Prod.mk.inj (Option.some.inj hstep)
    have hpool := handle_pool D env (s := { s with db := D.begin i.2.sql s.db }) h.owned hhandle
    exact hpool

/-- The bot releases objects exactly where it `Frees`. -/
theorem bot_releases (s : State σ) (i : Input) (hs : ∃ r, Refines s r) (_ : True) :
    ∃ s' o, (Bot.machine D env).step s i = some (s', o) ∧ (∃ r, Refines s' r) ∧
      (Bot.Frees s i → Freed s.memberMgr.pool s'.memberMgr.pool) ∧
      (¬ Bot.Frees s i → Unfreed s.memberMgr.pool s'.memberMgr.pool) := by
  obtain ⟨r, href⟩ := hs
  obtain ⟨s', o, hstep, href', hpool⟩ := step_pool D env href i
  exact ⟨s', o, hstep, ⟨_, href'⟩, hpool⟩

-- ---------------------------------------------------------------------------
-- Every run
-- ---------------------------------------------------------------------------

/-- **Pool capacity.** A run of the bot, over any driver, keeps the bound of its pool and
deletes only with the pool at its bound, exactly if no friend is taken out of the
registry while the pool holds `MAX_POOL_SIZE` members. The same is true of calls of
`lock_queue`, if what they deallocate was allocated and is not pooled. -/
theorem pool_capacity :
    (∀ (db : σ) (tox : Tox) (is : List Input),
      (Bot.machine D env).EachStep
          (fun s _ s' _ => KeepsCapacity s.memberMgr.pool s'.memberMgr.pool)
          (Bot.init db tox) is ↔
        (Bot.machine D env).Along
          (fun s i => Bot.Frees s i →
            s.memberMgr.pool.freeList.length ≠ Recyclable.maxPoolSize Member)
          (Bot.init db tox) is) ∧
      ∀ calls : List LockQueue.Call,
        (LockQueue.machine Member).Along LockQueue.Lawful (LockQueue.Pool.empty Member) calls →
        ((LockQueue.machine Member).EachStep (fun p _ p' _ => KeepsCapacity p p')
            (LockQueue.Pool.empty Member) calls ↔
          (LockQueue.machine Member).Along
            (fun p c => c.Frees → p.freeList.length ≠ Recyclable.maxPoolSize Member)
            (LockQueue.Pool.empty Member) calls) := by
  constructor
  -- the bot: the pool starts empty, and only a connection lost and /stop give back
  · intro db tox is
    exact LockQueue.capacity_iff (fun s : State σ => s.memberMgr.pool)
      (fun s => ∃ r, Refines s r) (fun _ _ => True) Bot.Frees (bot_releases D env) is
      (Bot.init db tox) ⟨_, refines_init db tox⟩ rfl
      (StepMachine.along_of_forall (fun _ _ => trivial) _)
  -- the queue by itself
  · intro calls hlawful
    refine LockQueue.capacity_iff id (fun _ => True) LockQueue.Lawful
      (fun _ c => c.Frees) ?_ calls (LockQueue.Pool.empty Member) trivial rfl hlawful
    intro p c _ hc
    obtain ⟨p', ret, hcall, hpool⟩ := LockQueue.call_step p c hc
    exact ⟨p', ret, hcall, trivial, hpool⟩

/-- A friend starts and goes offline; an object is allocated and given back. -/
theorem pool_capacity_one :
    (Bot.machine MySql.driver Env.sample).EachStep
        (fun s _ s' _ => KeepsCapacity s.memberMgr.pool s'.memberMgr.pool)
        (Bot.init (MySql.holding Table.empty) Tox.blank)
        [(.message Pk.first ⟨bytes "/start A1", by decide⟩, Answers.plain),
          (.connectionStatus Pk.first .none, Answers.plain)] ∧
      (LockQueue.machine Member).EachStep (fun p _ p' _ => KeepsCapacity p p')
        (LockQueue.Pool.empty Member) [.allocate, .deallcate (some 0)] := by
  obtain ⟨hbot, hqueue⟩ := pool_capacity MySql.driver Env.sample
  constructor
  · refine (hbot _ _ _).mpr ⟨fun _ => by decide, ?_⟩
    intro s o hstep
    obtain ⟨rfl, -⟩ := Prod.mk.inj (Option.some.inj hstep)
    exact ⟨fun _ => by decide, fun _ _ _ => trivial⟩
  · refine (hqueue [.allocate, .deallcate (some 0)] ⟨trivial, ?_⟩).mpr ⟨fun _ => by decide, ?_⟩
    · intro p ret hcall
      obtain ⟨rfl, -⟩ := Prod.mk.inj (Option.some.inj hcall)
      refine ⟨?_, fun _ _ _ => trivial⟩
      intro a ha
      obtain rfl := Option.some.inj ha
      exact ⟨by decide, List.not_mem_nil⟩
    · intro p ret hcall
      obtain ⟨rfl, -⟩ := Prod.mk.inj (Option.some.inj hcall)
      exact ⟨fun _ => by decide, fun _ _ _ => trivial⟩

/-- In every run the pool stays within one of its bound, and a member is deleted only if
the pool is full. -/
theorem pool_within_one (db : σ) (tox : Tox) (is : List Input) :
    (Bot.machine D env).EachStep
      (fun s _ s' _ => s'.memberMgr.freeList.length ≤ Recyclable.maxPoolSize Member + 1 ∧
        DeletesOnlyFull s.memberMgr.pool s'.memberMgr.pool) (Bot.init db tox) is :=
  LockQueue.capacity_of_steps (fun s : State σ => s.memberMgr.pool)
    (fun s => ∃ r, Refines s r) (fun _ _ => True) Bot.Frees (bot_releases D env) is
    (Bot.init db tox) ⟨_, refines_init db tox⟩ rfl
    (StepMachine.along_of_forall (fun _ _ => trivial) _)

-- ---------------------------------------------------------------------------
-- A full house
-- ---------------------------------------------------------------------------

/-- A friend sends `/start`. -/
def Bot.starts (pk : Pk) : Input := (.message pk ⟨bytes "/start A1", by decide⟩, Answers.plain)

/-- A friend goes offline. -/
def Bot.leaves (pk : Pk) : Input := (.connectionStatus pk .none, Answers.plain)

theorem mem_registry_starts (r : Reference.State MySql) (pk : Pk) (k : Bytes) :
    k ∈ (Reference.step MySql.driver env r (Bot.starts pk)).1.registry ↔
      k = pk.hex ∨ k ∈ r.registry := by
  show k ∈ r.registry.insertIfNew pk.hex _ ↔ _
  rw [Std.ExtTreeMap.mem_insertIfNew, Std.LawfulEqCmp.compare_eq_iff_eq, eq_comm]

theorem mem_registry_leaves (r : Reference.State MySql) (pk : Pk) (k : Bytes) :
    k ∈ (Reference.step MySql.driver env r (Bot.leaves pk)).1.registry ↔
      k ≠ pk.hex ∧ k ∈ r.registry := by
  show k ∈ r.registry.erase pk.hex ↔ _
  rw [Std.ExtTreeMap.mem_erase, ne_eq, Std.LawfulEqCmp.compare_eq_iff_eq, eq_comm]

/-- Friends who start while the pool is empty are all registered, and it stays empty. -/
theorem starts_run :
    ∀ (pks : List Pk) {s : State MySql} {r : Reference.State MySql}, Refines s r →
      s.memberMgr.freeList = [] →
      ∃ s' r' os, (Bot.machine MySql.driver env).run s (pks.map Bot.starts) = some (s', os) ∧
        Refines s' r' ∧ s'.memberMgr.freeList = [] ∧
        ∀ k, k ∈ r'.registry ↔ k ∈ pks.map Pk.hex ∨ k ∈ r.registry := by
  intro pks
  -- induction on the crowd: a connection takes, so the pool stays empty
  induction pks with
  | nil => exact fun h hempty => ⟨_, _, [], rfl, h, hempty, fun k => by simp⟩
  | cons pk pks ih =>
    intro s r h hempty
    obtain ⟨s₁, o, hstep, href, -, hunfreed⟩ := step_pool MySql.driver env h (Bot.starts pk)
    -- a /start gives nothing back
    have hkept := hunfreed fun hfrees => by
      obtain ⟨⟨param, hdisp⟩, -⟩ := hfrees
      have hcmd : some Command.start = some Command.stop :=
        congrArg (Option.map Prod.fst) hdisp
      exact absurd hcmd (by decide)
    have hempty₁ : s₁.memberMgr.freeList = [] := by
      have hlen : s₁.memberMgr.freeList.length ≤ s.memberMgr.freeList.length := hkept.length_le
      rw [hempty] at hlen
      exact List.eq_nil_of_length_eq_zero (Nat.le_zero.mp hlen)
    obtain ⟨s', r', os, hrun, href', hempty', hkeys⟩ := ih href hempty₁
    refine ⟨s', r', o :: os, StepMachine.run_cons_iff.mpr ⟨s₁, o, os, hstep, hrun, rfl⟩, href',
      hempty', ?_⟩
    intro k
    rw [hkeys, mem_registry_starts, List.map_cons, List.mem_cons, or_left_comm, or_assoc]

/-- Registered friends who go offline fill the pool one by one, past its bound too. -/
theorem leaves_run :
    ∀ (pks : List Pk) {s : State MySql} {r : Reference.State MySql}, Refines s r → pks.Nodup →
      (∀ pk ∈ pks, pk.hex ∈ r.registry) →
      s.memberMgr.freeList.length + pks.length ≤ Recyclable.maxPoolSize Member + 1 →
      ∃ s' os, (Bot.machine MySql.driver env).run s (pks.map Bot.leaves) = some (s', os) ∧
        s'.memberMgr.freeList.length = s.memberMgr.freeList.length + pks.length := by
  intro pks
  -- induction on the crowd: each of them has an entry of their own, which goes to the pool
  induction pks with
  | nil => exact fun _ _ _ _ => ⟨_, [], rfl, rfl⟩
  | cons pk pks ih =>
    intro s r h hnodup hin hroom
    obtain ⟨hpk, hnodup⟩ := List.nodup_cons.mp hnodup
    rw [List.length_cons] at hroom
    obtain ⟨s₁, o, hstep, href, hfreed, -⟩ := step_pool MySql.driver env h (Bot.leaves pk)
    have hlen : s₁.memberMgr.freeList.length = s.memberMgr.freeList.length + 1 := by
      rcases hfreed ((h.mem_iff _).mpr (hin pk (List.mem_cons_self ..))) with
        ⟨-, hpushed, -⟩ | ⟨hfull, -, -⟩
      · exact hpushed
      -- the pool has room until one more than the bound
      · have hfull : Recyclable.maxPoolSize Member < s.memberMgr.freeList.length := hfull
        omega
    have hin' : ∀ q ∈ pks, q.hex ∈
        (Reference.step MySql.driver env r (Bot.leaves pk)).1.registry := by
      intro q hq
      rw [mem_registry_leaves]
      refine ⟨?_, hin q (List.mem_cons_of_mem _ hq)⟩
      intro heq
      exact hpk (Pk.hex_inj.mp heq ▸ hq)
    -- the next ones are still registered
    obtain ⟨s', os, hrun, hlen'⟩ := ih href hnodup hin' (by omega)
    refine ⟨s', o :: os, StepMachine.run_cons_iff.mpr ⟨s₁, o, os, hstep, hrun, rfl⟩, ?_⟩
    rw [hlen', hlen, List.length_cons]
    omega

/-- The `n`-th of 65536 keys. -/
def PublicKey.numbered (n : Nat) : PublicKey where
  bin := UInt8.ofNat (n / 256) :: UInt8.ofNat n :: List.replicate 30 0
  length_eq := rfl

theorem PublicKey.numbered_inj {n m : Nat} (hn : n < 65536) (hm : m < 65536)
    (h : numbered n = numbered m) : n = m := by
  have hbin := congrArg PublicKey.bin h
  simp only [numbered, List.cons.injEq, and_true] at hbin
  obtain ⟨hhigh, hlow⟩ := hbin
  have hhigh := congrArg UInt8.toNat hhigh
  have hlow := congrArg UInt8.toNat hlow
  simp only [UInt8.toNat_ofNat'] at hhigh hlow
  omega

/-- So many friends. -/
def Pk.crowd (n : Nat) : List Pk := (List.range n).map fun i => (PublicKey.numbered i).pk

theorem Pk.crowd_nodup {n : Nat} (hn : n ≤ 65536) : (Pk.crowd n).Nodup := by
  refine List.Nodup.map_on ?_ List.nodup_range
  intro i hi j hj heq
  rw [List.mem_range] at hi hj
  exact PublicKey.numbered_inj (by omega) (by omega) (PublicKey.pk_inj heq)

/-- Of 1025 friends who start and go offline again, the last one is pooled like the
others. -/
theorem pool_overfull :
    ∃ s os, (Bot.machine MySql.driver Env.sample).run
        (Bot.init (MySql.holding Table.empty) Tox.blank)
        ((Pk.crowd 1025).map Bot.starts ++ (Pk.crowd 1025).map Bot.leaves) = some (s, os) ∧
      ¬ s.memberMgr.freeList.length ≤ Recyclable.maxPoolSize Member := by
  obtain ⟨s₁, r₁, os₁, hstarts, href, hempty, hkeys⟩ :=
    starts_run Env.sample (Pk.crowd 1025) (refines_init (MySql.holding Table.empty) Tox.blank) rfl
  -- all 1025 are registered, and their members are distinct
  have hin : ∀ pk ∈ Pk.crowd 1025, pk.hex ∈ r₁.registry := by
    intro pk hpk
    exact (hkeys _).mpr (Or.inl (List.mem_map_of_mem hpk))
  have hlen : (Pk.crowd 1025).length = 1025 := by
    rw [Pk.crowd, List.length_map, List.length_range]
  have hmax : Recyclable.maxPoolSize Member = 1024 := rfl
  obtain ⟨s, os, hleaves, hpool⟩ := leaves_run Env.sample (Pk.crowd 1025) href
    (Pk.crowd_nodup (by decide)) hin (by rw [hempty, hlen, hmax]; decide)
  refine ⟨s, os₁ ++ os, StepMachine.run_append hstarts hleaves, ?_⟩
  rw [hpool, hempty, hlen, hmax]
  decide

end FindFriendBot
