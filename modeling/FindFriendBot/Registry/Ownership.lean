import Mathlib.Data.Set.Insert
import FindFriendBot.Lib.OrderedMap
import FindFriendBot.Model.MemberMgr

/-!
# FindFriendBot — who owns a `Member`

The ownership invariant of the registry and one specification lemma for each
operation of `MemberMgr`. `Owned` says that the map and the pool hold live
objects, each held once, and that an entry is filed under its object's `pk()`.
Under it the pointers disappear: `contents` is the map from keys to values, and
each operation acts on it as on a plain map.

* `allocate_spec`  — the object handed out is blank and held by nobody.
* `addMember_spec` — an unheld object is filed unless its key is taken.
* `delMember_spec` — the key's object goes to the pool, or is deleted.
* `update_held`, `update_unheld` — a setter changes one entry, or none.

`lost` collects the live objects that nobody holds; the lemmas say how it moves.
-/

namespace FindFriendBot

namespace MemberMgr

/-- The object a key leads to, read through `find_member`. -/
def memberAt (mgr : MemberMgr) (k : Bytes) : Option Member :=
  mgr.heap.deref (mgr.findMember k)

/-- The registry as a map of values. -/
def contents (mgr : MemberMgr) : Std.ExtTreeMap Bytes Member :=
  mgr.onlineMember.map fun _ p => (mgr.heap.deref p).getD Member.new

/-- No entry and no pool slot points to `a`. -/
def Unheld (mgr : MemberMgr) (a : Nat) : Prop :=
  (∀ k : Bytes, mgr.onlineMember[k]? ≠ some (some a)) ∧ some a ∉ mgr.freeList

/-- The live objects that neither the map nor the pool holds. -/
def lost (mgr : MemberMgr) : Set Nat := {a | mgr.heap.Live a ∧ mgr.Unheld a}

/-- The ownership invariant. -/
structure Owned (mgr : MemberMgr) : Prop where
  map_read : ∀ (k : Bytes) p, mgr.onlineMember[k]? = some p →
    ∃ a m, p = some a ∧ mgr.heap.read a = some m ∧ m.pk = k
  pool_live : ∀ p ∈ mgr.freeList, ∃ a, p = some a ∧ mgr.heap.Live a
  pool_nodup : mgr.freeList.Nodup
  disjoint : ∀ (k : Bytes) p, mgr.onlineMember[k]? = some p → p ∉ mgr.freeList

-- ---------------------------------------------------------------------------
-- Reading the registry
-- ---------------------------------------------------------------------------

theorem owned_init : Owned init where
  map_read := fun k p h => by simp [init] at h
  pool_live := fun p h => by simp [init] at h
  pool_nodup := List.nodup_nil
  disjoint := fun k p h => by simp [init] at h

theorem lost_init : init.lost = ∅ := by
  ext a
  simp [lost, init, ObjectHeap.Live, ObjectHeap.empty]

theorem contents_init : init.contents = ∅ := by
  apply Std.ExtTreeMap.ext_getElem?
  intro k
  simp [contents, init]

theorem getElem?_contents (mgr : MemberMgr) (k : Bytes) :
    mgr.contents[k]? =
      (mgr.onlineMember[k]?).map fun p => (mgr.heap.deref p).getD Member.new := by
  rw [contents, Std.ExtTreeMap.getElem?_map]

theorem mem_contents_iff {mgr : MemberMgr} {k : Bytes} :
    k ∈ mgr.contents ↔ k ∈ mgr.onlineMember := by
  rw [contents, Std.ExtTreeMap.mem_map]

theorem size_contents (mgr : MemberMgr) : mgr.contents.size = mgr.onlineMember.size := by
  rw [contents, Std.ExtTreeMap.size_map]

/-- A key of an owned registry leads to a live object with that `pk()`. -/
theorem Owned.find {mgr : MemberMgr} (h : Owned mgr) (k : Bytes) :
    (mgr.onlineMember[k]? = none ∧ mgr.findMember k = none ∧ mgr.contents[k]? = none) ∨
    ∃ a m, mgr.onlineMember[k]? = some (some a) ∧ mgr.findMember k = some a ∧
      mgr.heap.read a = some m ∧ m.pk = k ∧ mgr.contents[k]? = some m := by
  cases hk : mgr.onlineMember[k]? with
  -- nobody under the key
  | none =>
    refine Or.inl ⟨rfl, ?_, ?_⟩
    · simp [findMember, hk]
    · simp [getElem?_contents, hk]
  | some p =>
    obtain ⟨a, m, rfl, hread, hpk⟩ := h.map_read k p hk
    refine Or.inr ⟨a, m, rfl, ?_, hread, hpk, ?_⟩
    · simp [findMember, hk]
    · simp [getElem?_contents, hk, hread]

theorem Owned.memberAt_eq {mgr : MemberMgr} (h : Owned mgr) (k : Bytes) :
    mgr.memberAt k = mgr.contents[k]? := by
  rcases h.find k with ⟨-, hf, hc⟩ | ⟨a, m, -, hf, hr, -, hc⟩
  · rw [memberAt, hf, hc, ObjectHeap.deref_none]
  · rw [memberAt, hf, hc, ObjectHeap.deref_some, hr]

/-- Two keys never share an object. -/
theorem Owned.map_inj {mgr : MemberMgr} (h : Owned mgr) {k k' : Bytes} {p : Ptr}
    (hk : mgr.onlineMember[k]? = some p) (hk' : mgr.onlineMember[k']? = some p) : k = k' := by
  obtain ⟨a, m, rfl, hread, hpk⟩ := h.map_read k p hk
  obtain ⟨a', m', ha, hread', hpk'⟩ := h.map_read k' _ hk'
  obtain rfl := Option.some.inj ha
  rw [hread] at hread'
  rw [← hpk, ← hpk', Option.some.inj hread']

/-- Equal maps over heaps that agree on the held objects have equal contents. -/
theorem contents_congr (mgr mgr' : MemberMgr) (hmap : mgr'.onlineMember = mgr.onlineMember)
    (hread : ∀ (k : Bytes) a, mgr.onlineMember[k]? = some (some a) →
      mgr'.heap.read a = mgr.heap.read a) :
    mgr'.contents = mgr.contents := by
  apply Std.ExtTreeMap.ext_getElem?
  intro k
  rw [getElem?_contents, getElem?_contents, hmap]
  cases hk : mgr.onlineMember[k]? with
  | none => rfl
  | some p =>
    cases p with
    | none => simp
    | some a => simp [hread k a hk]

-- ---------------------------------------------------------------------------
-- Setters
-- ---------------------------------------------------------------------------

/-- Writing through any live pointer keeps the ownership, as long as an entry's
object keeps its `pk()`. -/
private theorem owned_modify {mgr : MemberMgr} (h : Owned mgr) {a : Nat} {f : Member → Member}
    (hpk : ∀ (k : Bytes) m, mgr.onlineMember[k]? = some (some a) → mgr.heap.read a = some m →
      (f m).pk = m.pk) :
    Owned { mgr with heap := mgr.heap.modify a f } where
  map_read := fun k p hk => by
    obtain ⟨b, m, rfl, hread, hm⟩ := h.map_read k p hk
    -- only the member itself is written to, and its key stays
    by_cases hab : a = b
    · subst hab
      refine ⟨a, f m, rfl, ?_, ?_⟩
      · simp [ObjectHeap.read_modify, hread]
      · rw [hpk k m hk hread, hm]
    · exact ⟨b, m, rfl, by simp [ObjectHeap.read_modify, hab, hread], hm⟩
  pool_live := fun p hp => by
    obtain ⟨b, rfl, hl⟩ := h.pool_live p hp
    exact ⟨b, rfl, ObjectHeap.live_modify_iff.mpr hl⟩
  pool_nodup := h.pool_nodup
  disjoint := h.disjoint

private theorem lost_modify (mgr : MemberMgr) (a : Nat) (f : Member → Member) :
    ({ mgr with heap := mgr.heap.modify a f } : MemberMgr).lost = mgr.lost := by
  ext b
  simp [lost, Unheld, ObjectHeap.live_modify_iff]

/-- A setter on an object nobody holds leaves the registry as it was. -/
theorem update_unheld {mgr : MemberMgr} (h : Owned mgr) {a : Nat} (ha : a ∈ mgr.lost)
    (f : Member → Member) :
    ∃ mgr', mgr.update (some a) f = some mgr' ∧ Owned mgr' ∧
      mgr'.onlineMember = mgr.onlineMember ∧ mgr'.contents = mgr.contents ∧
      mgr'.lost = mgr.lost ∧ mgr'.heap.read a = (mgr.heap.read a).map f := by
  obtain ⟨hlive, hmap, -⟩ := ha
  refine ⟨{ mgr with heap := mgr.heap.modify a f }, ?_, ?_, rfl, ?_, lost_modify mgr a f, ?_⟩
  · simp [update, ObjectHeap.update_of_live hlive]
  · exact owned_modify h fun k m hk _ => absurd hk (hmap k)
  · refine contents_congr mgr _ rfl ?_
    -- no entry points to the member, so none of them shows the write
    intro k b hk
    have hab : a ≠ b := fun he => hmap k (he ▸ hk)
    simp [ObjectHeap.read_modify, hab]
  · simp [ObjectHeap.read_modify]

/-- A setter on a registered object changes that entry only. -/
theorem update_held {mgr : MemberMgr} (h : Owned mgr) {k : Bytes} {a : Nat}
    (hk : mgr.onlineMember[k]? = some (some a)) {f : Member → Member}
    (hpk : ∀ m, (f m).pk = m.pk) :
    ∃ mgr', mgr.update (some a) f = some mgr' ∧ Owned mgr' ∧
      mgr'.contents = mgr.contents.modify k f ∧ mgr'.lost = mgr.lost := by
  obtain ⟨a', m, ha, hread, -⟩ := h.map_read k _ hk
  obtain rfl := Option.some.inj ha
  refine ⟨{ mgr with heap := mgr.heap.modify a f }, ?_, ?_, ?_, lost_modify mgr a f⟩
  · simp [update, ObjectHeap.update_of_live (ObjectHeap.live_of_read hread)]
  · exact owned_modify h fun _ m _ _ => hpk m
  · apply Std.ExtTreeMap.ext_getElem?
    intro k'
    simp only [Std.ExtTreeMap.getElem?_modify, getElem?_contents]
    by_cases hkk : k = k'
    · subst hkk
      simp [hk, hread, ObjectHeap.read_modify]
    · rw [if_neg (by simpa using hkk)]
      -- another key points to another member
      cases hk' : mgr.onlineMember[k']? with
      | none => rfl
      | some p =>
        obtain ⟨b, m', rfl, hread', -⟩ := h.map_read k' p hk'
        have hab : a ≠ b := fun he => hkk (h.map_inj hk (he ▸ hk'))
        simp [ObjectHeap.read_modify, hab]

-- ---------------------------------------------------------------------------
-- allocate
-- ---------------------------------------------------------------------------

/-- `lock_queue::allocate` takes an object out of the pool, or makes a new one:
either way nobody holds it any more. -/
private theorem lockQueue_allocate_spec {mgr : MemberMgr} (h : Owned mgr) :
    ∃ a heap freeList, LockQueue.allocate mgr.heap mgr.freeList = (some a, heap, freeList) ∧
      Owned { mgr with heap := heap, freeList := freeList } ∧
      ({ mgr with heap := heap, freeList := freeList } : MemberMgr).contents = mgr.contents ∧
      ({ mgr with heap := heap, freeList := freeList } : MemberMgr).lost = insert a mgr.lost ∧
      a ∉ mgr.lost := by
  cases hlast : mgr.freeList.getLast? with
  | none =>
    -- an empty pool: a new object
    have hnil : mgr.freeList = [] := List.getLast?_eq_none_iff.mp hlast
    have hold : ∀ (k : Bytes) b, mgr.onlineMember[k]? = some (some b) → mgr.heap.Live b := by
      intro k b hk
      obtain ⟨b', m, hb, hread, -⟩ := h.map_read k _ hk
      obtain rfl := Option.some.inj hb
      exact ObjectHeap.live_of_read hread
    refine ⟨mgr.heap.next, (mgr.heap.new Recyclable.new).2, mgr.freeList,
      by simp [LockQueue.allocate, hlast], ?_, ?_, ?_, ?_⟩
    · refine ⟨?_, ?_, h.pool_nodup, h.disjoint⟩
      · intro k p hk
        obtain ⟨b, m, rfl, hread, hm⟩ := h.map_read k p hk
        exact ⟨b, m, rfl, by rw [ObjectHeap.read_new_of_live (hold k b hk), hread], hm⟩
      · intro p hp
        obtain ⟨b, rfl, hl⟩ := h.pool_live p hp
        exact ⟨b, rfl, ObjectHeap.live_new_iff.mpr (Or.inr hl)⟩
    · exact contents_congr mgr _ rfl fun k b hk => ObjectHeap.read_new_of_live (hold k b hk) _
    · ext b
      simp only [lost, Unheld, Set.mem_ofPred_eq, Set.mem_insert_iff, ObjectHeap.live_new_iff]
      constructor
      · rintro ⟨rfl | hl, hu⟩
        · exact Or.inl rfl
        · exact Or.inr ⟨hl, hu⟩
      · rintro (rfl | ⟨hl, hu⟩)
        -- the heap's next address was nobody's
        · refine ⟨Or.inl rfl, fun k hk => mgr.heap.next_not_live (hold k _ hk), ?_⟩
          simp [hnil]
        · exact ⟨Or.inr hl, hu⟩
    · exact fun hin => mgr.heap.next_not_live hin.1
  | some p =>
    -- a pooled object: the queue gives out its last one
    obtain ⟨rest, hrest⟩ := List.getLast?_eq_some_iff.mp hlast
    have hp : p ∈ mgr.freeList := by simp [hrest]
    obtain ⟨a, rfl, hlive⟩ := h.pool_live p hp
    have hnodup : (rest ++ [some a]).Nodup := hrest ▸ h.pool_nodup
    have hnot : some a ∉ rest := by
      -- it was there once only
      intro hin
      exact (List.nodup_append.mp hnodup).2.2 _ hin _ (List.mem_singleton.mpr rfl) rfl
    have hdrop : mgr.freeList.dropLast = rest := by simp [hrest]
    refine ⟨a, mgr.heap, rest, by simp [LockQueue.allocate, hlast, hdrop], ?_, ?_, ?_, ?_⟩
    · refine ⟨h.map_read, ?_, (List.nodup_append.mp hnodup).1, ?_⟩
      · intro p hp
        exact h.pool_live p (by simp [hrest, hp])
      · intro k p hk hin
        exact h.disjoint k p hk (by simp [hrest, hin])
    · exact contents_congr mgr _ rfl fun k b _ => rfl
    · ext b
      simp only [lost, Unheld, Set.mem_ofPred_eq, Set.mem_insert_iff, hrest, List.mem_append,
        List.mem_singleton, Option.some.injEq, not_or]
      constructor
      · rintro ⟨hl, hmap, hb⟩
        -- what the pool has lost is the object taken
        by_cases hba : b = a
        · exact Or.inl hba
        · exact Or.inr ⟨hl, hmap, hb, hba⟩
      · rintro (rfl | ⟨hl, hmap, hb, -⟩)
        · exact ⟨hlive, fun k hk => h.disjoint k _ hk hp, hnot⟩
        · exact ⟨hl, hmap, hb⟩
    · exact fun hin => hin.2.2 hp

/-- **`allocate`** hands out a blank object nobody holds and leaves the registry
as it was. -/
theorem allocate_spec {mgr : MemberMgr} (h : Owned mgr) :
    ∃ a mgr', mgr.allocate = some (some a, mgr') ∧ Owned mgr' ∧
      mgr'.contents = mgr.contents ∧ mgr'.lost = insert a mgr.lost ∧ a ∉ mgr.lost ∧
      mgr'.heap.read a = some Member.new := by
  obtain ⟨a, heap, freeList, halloc, howned, hcontents, hlost, hfresh⟩ := lockQueue_allocate_spec h
  have ha : a ∈ ({ mgr with heap := heap, freeList := freeList } : MemberMgr).lost := by
    rw [hlost]
    exact Set.mem_insert a _
  obtain ⟨mgr', hupd, howned', -, hcontents', hlost', hread⟩ := update_unheld howned ha Member.clear
  obtain ⟨m, hm⟩ := ObjectHeap.live_iff.mp ha.1
  refine ⟨a, mgr', ?_, howned', hcontents'.trans hcontents, hlost'.trans hlost, hfresh, ?_⟩
  · unfold update at hupd
    simp only [allocate, halloc]
    cases hheap : heap.update (some a) Member.clear with
    | none => simp [hheap] at hupd
    | some heap' =>
      simp only [hheap, Option.some.injEq] at hupd
      rw [← hupd]
  · rw [hread, hm]
    rfl

/-- The object handed out may be filled with anything. -/
theorem allocate_fill {mgr : MemberMgr} (h : Owned mgr) :
    ∃ a mgr₁, mgr.allocate = some (some a, mgr₁) ∧ mgr₁.heap.read a = some Member.new ∧
      ∀ m, ∃ mgr', mgr₁.update (some a) (fun _ => m) = some mgr' ∧ Owned mgr' ∧
        mgr'.heap.read a = some m := by
  obtain ⟨a, mgr₁, halloc, howned, -, hlost, -, hread⟩ := allocate_spec h
  -- a fresh member belongs to nobody yet
  have ha : a ∈ mgr₁.lost := by
    rw [hlost]
    exact Set.mem_insert a _
  refine ⟨a, mgr₁, halloc, hread, fun m => ?_⟩
  obtain ⟨mgr', hupd, howned', -, -, -, hfilled⟩ := update_unheld howned ha fun _ => m
  refine ⟨mgr', hupd, howned', ?_⟩
  rw [hfilled, hread, Option.map_some]

-- ---------------------------------------------------------------------------
-- add_member
-- ---------------------------------------------------------------------------

/-- Filing an unheld object under its own, free `pk()`. -/
private theorem owned_insert {mgr : MemberMgr} (h : Owned mgr) {a : Nat} (ha : a ∈ mgr.lost)
    {m : Member} (hread : mgr.heap.read a = some m) :
    Owned { mgr with onlineMember := mgr.onlineMember.insertIfNew m.pk (some a) } := by
  -- either the new entry or an old one: insert does not replace
  have hcases : ∀ (k : Bytes) p,
      (mgr.onlineMember.insertIfNew m.pk (some a))[k]? = some p →
      (m.pk = k ∧ p = some a) ∨ mgr.onlineMember[k]? = some p := by
    intro k p hk
    rw [OrderedMap.get_insertIfNew] at hk
    split at hk
    · next heq =>
      cases hold : mgr.onlineMember[k]? with
      | none =>
        rw [hold, Option.some.injEq] at hk
        exact Or.inl ⟨heq, hk.symm⟩
      | some q =>
        rw [hold, Option.some.injEq] at hk
        exact Or.inr (congrArg some hk)
    · exact Or.inr hk
  refine ⟨?_, h.pool_live, h.pool_nodup, ?_⟩
  · intro k p hk
    rcases hcases k p hk with ⟨hpk, rfl⟩ | hold
    · exact ⟨a, m, rfl, hread, hpk⟩
    · exact h.map_read k p hold
  · intro k p hk
    rcases hcases k p hk with ⟨-, rfl⟩ | hold
    · exact ha.2.2
    · exact h.disjoint k p hold

private theorem lost_insert {mgr : MemberMgr} {a : Nat} {pk : Bytes}
    (hfree : pk ∉ mgr.onlineMember) :
    ({ mgr with onlineMember := mgr.onlineMember.insertIfNew pk (some a) } : MemberMgr).lost =
      mgr.lost \ {a} := by
  have hnone : mgr.onlineMember[pk]? = none := Std.ExtTreeMap.getElem?_eq_none hfree
  ext b
  simp only [lost, Unheld, Set.mem_ofPred_eq, Set.mem_sdiff, Set.mem_singleton_iff,
    OrderedMap.get_insertIfNew]
  constructor
  · rintro ⟨hl, hmap, hpool⟩
    refine ⟨⟨hl, fun k hk => hmap k ?_, hpool⟩, ?_⟩
    -- the key was free, so no entry is in the way
    · have hne : pk ≠ k := by
        rintro rfl
        rw [hnone] at hk
        exact absurd hk (by simp)
      rw [if_neg hne, hk]
    · rintro rfl
      exact hmap pk (by simp [hnone])
  · rintro ⟨⟨hl, hmap, hpool⟩, hne⟩
    refine ⟨hl, ?_, hpool⟩
    intro k hk
    split at hk
    · next heq =>
      subst heq
      rw [hnone, Option.some.injEq] at hk
      exact hne (Option.some.inj hk).symm
    · exact hmap k hk

/-- **`add_member`** files an unheld object under its `pk()` if that key is free;
otherwise the object stays with nobody. -/
theorem addMember_spec {mgr : MemberMgr} (h : Owned mgr) {a : Nat} (ha : a ∈ mgr.lost)
    {m : Member} (hread : mgr.heap.read a = some m) :
    ∃ mgr', mgr.addMember (some a) = some mgr' ∧ Owned mgr' ∧
      mgr'.contents = mgr.contents.insertIfNew m.pk m ∧
      (m.pk ∉ mgr.onlineMember → mgr'.lost = mgr.lost \ {a}) ∧
      (m.pk ∈ mgr.onlineMember → mgr'.lost = mgr.lost) := by
  refine ⟨_, by rw [addMember, ObjectHeap.deref_some, hread], owned_insert h ha hread, ?_,
    lost_insert, ?_⟩
  · show Std.ExtTreeMap.map _ (mgr.onlineMember.insertIfNew m.pk (some a)) = _
    rw [OrderedMap.map_insertIfNew]
    simp [contents, hread]
  · intro hin
    rw [OrderedMap.insertIfNew_of_mem hin]

-- ---------------------------------------------------------------------------
-- del_member
-- ---------------------------------------------------------------------------

/-- Taking an entry out of the map leaves its object with nobody. -/
private theorem erase_spec {mgr : MemberMgr} (h : Owned mgr) {k : Bytes} {a : Nat}
    (hk : mgr.onlineMember[k]? = some (some a)) :
    Owned { mgr with onlineMember := mgr.onlineMember.erase k } ∧
      ({ mgr with onlineMember := mgr.onlineMember.erase k } : MemberMgr).contents =
        mgr.contents.erase k ∧
      ({ mgr with onlineMember := mgr.onlineMember.erase k } : MemberMgr).lost =
        insert a mgr.lost := by
  -- erase only takes entries away
  have hold : ∀ (k' : Bytes) p, (mgr.onlineMember.erase k)[k']? = some p →
      k ≠ k' ∧ mgr.onlineMember[k']? = some p := by
    intro k' p hp
    rw [OrderedMap.get_erase] at hp
    split at hp
    · exact absurd hp (by simp)
    · next hne => exact ⟨hne, hp⟩
  refine ⟨⟨fun k' p hp => h.map_read k' p (hold k' p hp).2, h.pool_live, h.pool_nodup,
    fun k' p hp => h.disjoint k' p (hold k' p hp).2⟩, OrderedMap.map_erase _ _ _, ?_⟩
  obtain ⟨a', m, ha, hread, -⟩ := h.map_read k _ hk
  obtain rfl := Option.some.inj ha
  ext b
  simp only [lost, Unheld, Set.mem_ofPred_eq, Set.mem_insert_iff]
  constructor
  · rintro ⟨hl, hmap, hpool⟩
    -- what nobody holds now is what nobody held before, and the member of the entry
    by_cases hba : b = a
    · exact Or.inl hba
    · refine Or.inr ⟨hl, ?_, hpool⟩
      intro k' hk'
      have hne : k ≠ k' := by
        rintro rfl
        rw [hk, Option.some.injEq, Option.some.injEq] at hk'
        exact hba hk'.symm
      exact hmap k' (by rw [OrderedMap.get_erase, if_neg hne, hk'])
  · rintro (rfl | ⟨hl, hmap, hpool⟩)
    · refine ⟨ObjectHeap.live_of_read hread, ?_, h.disjoint k _ hk⟩
      intro k' hk'
      obtain ⟨hne, hk'⟩ := hold k' _ hk'
      -- it was the only entry of that member
      exact hne (h.map_inj hk hk')
    · exact ⟨hl, fun k' hk' => hmap k' (hold k' _ hk').2, hpool⟩

/-- **`deallcate`** of an unheld object pools it, or deletes it when the pool is
past its bound: either way it is lost no more and the registry is as it was. -/
theorem deallcate_spec {mgr : MemberMgr} (h : Owned mgr) {a : Nat} (ha : a ∈ mgr.lost) :
    ∃ mgr', mgr.deallcate (some a) = some mgr' ∧ mgr'.onlineMember = mgr.onlineMember ∧
      Owned mgr' ∧ mgr'.contents = mgr.contents ∧ mgr'.lost = mgr.lost \ {a} := by
  obtain ⟨hlive, hmap, hpool⟩ := ha
  -- nobody holds the member that is given back
  have hother : ∀ (k : Bytes) b, mgr.onlineMember[k]? = some (some b) → b ≠ a := by
    rintro k b hk rfl
    exact hmap k hk
  by_cases hfull : Recyclable.maxPoolSize Member < mgr.freeList.length
  -- a full pool: the member is deleted
  · obtain ⟨heap, hdel, -, hread, hliveb⟩ := ObjectHeap.delete_of_live hlive
    refine ⟨{ mgr with heap := heap }, by simp [deallcate, LockQueue.deallcate, hfull, hdel],
      rfl, ⟨?_, ?_, h.pool_nodup, h.disjoint⟩, ?_, ?_⟩
    · intro k p hk
      obtain ⟨b, m, rfl, hb, hm⟩ := h.map_read k p hk
      exact ⟨b, m, rfl, by rw [hread b (hother k b hk), hb], hm⟩
    · intro p hp
      obtain ⟨b, rfl, hb⟩ := h.pool_live p hp
      refine ⟨b, rfl, (hliveb b).mpr ⟨?_, hb⟩⟩
      rintro rfl
      exact hpool hp
    · exact contents_congr mgr _ rfl fun k b hk => hread b (hother k b hk)
    · ext b
      simp only [lost, Unheld, Set.mem_ofPred_eq, Set.mem_sdiff, Set.mem_singleton_iff, hliveb]
      tauto
  -- otherwise it is queued
  · refine ⟨{ mgr with freeList := mgr.freeList ++ [some a] },
      by simp [deallcate, LockQueue.deallcate, hfull], rfl,
      ⟨h.map_read, ?_, ?_, ?_⟩, rfl, ?_⟩
    · intro p hp
      rcases List.mem_append.mp hp with hp | hp
      · exact h.pool_live p hp
      · exact ⟨a, List.mem_singleton.mp hp, hlive⟩
    · rw [← List.concat_eq_append, List.nodup_concat]
      exact ⟨hpool, h.pool_nodup⟩
    · intro k p hk hin
      rcases List.mem_append.mp hin with hin | hin
      · exact h.disjoint k p hk hin
      · exact hmap k (List.mem_singleton.mp hin ▸ hk)
    · ext b
      simp only [lost, Unheld, Set.mem_ofPred_eq, Set.mem_sdiff, Set.mem_singleton_iff,
        List.mem_append, List.mem_singleton, Option.some.injEq, not_or]
      tauto

/-- `deallcate` reads and writes the pool and the heap only. -/
theorem deallcate_onlineMember (mgr : MemberMgr) (map : Std.ExtTreeMap Bytes Ptr) (p : Ptr) :
    ({ mgr with onlineMember := map } : MemberMgr).deallcate p =
      (mgr.deallcate p).map fun mgr' => { mgr' with onlineMember := map } := by
  unfold deallcate
  dsimp only
  cases LockQueue.deallcate mgr.heap mgr.freeList p with
  | none => rfl
  | some pool => rfl

/-- Pooling the object of an entry and erasing the entry, in the order of
`del_member` and of `~MemberMgr`. -/
theorem deallcate_erase_spec {mgr : MemberMgr} (h : Owned mgr) {k : Bytes} {a : Nat}
    (hk : mgr.onlineMember[k]? = some (some a)) :
    ∃ mgr' mgr'', mgr.deallcate (some a) = some mgr' ∧
      mgr'' = { mgr' with onlineMember := mgr'.onlineMember.erase k } ∧ Owned mgr'' ∧
      mgr''.contents = mgr.contents.erase k ∧ mgr''.lost = mgr.lost := by
  have hnot : a ∉ mgr.lost := fun hin => hin.2.1 k hk
  obtain ⟨howned, hcontents, hlost⟩ := erase_spec h hk
  obtain ⟨mgr'', hdeall, hmap, howned'', hcontents'', hlost''⟩ :=
    deallcate_spec howned (hlost ▸ Set.mem_insert a mgr.lost)
  rw [deallcate_onlineMember, Option.map_eq_some_iff] at hdeall
  obtain ⟨mgr', hdeall', hmgr⟩ := hdeall
  -- the map is not touched by the queue
  have hmap' : mgr'.onlineMember = mgr.onlineMember := by
    unfold deallcate at hdeall'
    split at hdeall'
    · exact absurd hdeall' (by simp)
    · rw [← Option.some.inj hdeall']
  refine ⟨mgr', mgr'', hdeall', by rw [hmap', hmgr], howned'', hcontents''.trans hcontents, ?_⟩
  rw [hlost'', hlost]
  exact Set.insert_sdiff_self_of_notMem hnot

/-- **`del_member`** removes the entry of its key and no other. -/
theorem delMember_spec {mgr : MemberMgr} (h : Owned mgr) (k : Bytes) :
    ∃ mgr', mgr.delMember k = some mgr' ∧ Owned mgr' ∧
      mgr'.contents = mgr.contents.erase k ∧ mgr'.lost = mgr.lost := by
  rcases h.find k with ⟨hk, -, hc⟩ | ⟨a, m, hk, -, -, -, -⟩
  · refine ⟨mgr, by simp [delMember, hk], h, ?_, rfl⟩
    rw [OrderedMap.erase_of_not_mem (OrderedMap.not_mem_of_get hc)]
  · obtain ⟨mgr', mgr'', hdeall, hmgr, howned, hcontents, hlost⟩ := deallcate_erase_spec h hk
    refine ⟨mgr'', ?_, howned, hcontents, hlost⟩
    simp only [delMember, hk, hdeall, hmgr]

-- ---------------------------------------------------------------------------
-- random_member
-- ---------------------------------------------------------------------------

/-- **`random_member`** answers with the entry at position `rand() % size` of the
map without the requester, in key order, and with null only if that map is
empty. -/
theorem randomMember_cases {mgr : MemberMgr} (h : Owned mgr) (pk : Bytes) (rand : Nat) :
    (mgr.onlineMember.erase pk = ∅ ∧ mgr.randomMember pk rand = none) ∨
    ∃ k a m, (mgr.onlineMember.erase pk).toList[rand % (mgr.onlineMember.erase pk).size]? =
        some (k, some a) ∧ mgr.randomMember pk rand = some a ∧
      k ≠ pk ∧ mgr.onlineMember[k]? = some (some a) ∧ mgr.heap.read a = some m ∧ m.pk = k := by
  by_cases hempty : (mgr.onlineMember.erase pk).isEmpty = true
  -- nobody but the requester
  · refine Or.inl ⟨Std.ExtTreeMap.isEmpty_iff.mp hempty, ?_⟩
    simp only [randomMember, hempty, if_true]
  · have hlen : (mgr.onlineMember.erase pk).toList.length = (mgr.onlineMember.erase pk).size :=
      -- the index is below the number of the others
      Std.ExtTreeMap.length_toList
    have hpos : 0 < (mgr.onlineMember.erase pk).size := by
      rw [Nat.pos_iff_ne_zero]
      intro hzero
      rw [Std.ExtTreeMap.isEmpty_eq_size_beq_zero, hzero] at hempty
      exact hempty rfl
    have hidx : rand % (mgr.onlineMember.erase pk).size <
        (mgr.onlineMember.erase pk).toList.length := by
      rw [hlen]
      exact Nat.mod_lt _ hpos
    obtain ⟨⟨k, p⟩, hget⟩ : ∃ kp, (mgr.onlineMember.erase pk).toList[
        rand % (mgr.onlineMember.erase pk).size]? = some kp :=
      ⟨_, List.getElem?_eq_getElem hidx⟩
    have hmem : (k, p) ∈ (mgr.onlineMember.erase pk).toList := List.mem_of_getElem? hget
    rw [Std.ExtTreeMap.mem_toList_iff_getElem?_eq_some, OrderedMap.get_erase] at hmem
    split at hmem
    · exact absurd hmem (by simp)
    · next hne =>
      -- and what stands there is another friend's member
      obtain ⟨a, m, rfl, hread, hpk⟩ := h.map_read k p hmem
      refine Or.inr ⟨k, a, m, hget, ?_, Ne.symm hne, hmem, hread, hpk⟩
      simp only [randomMember, hempty, hget]
      rfl

end MemberMgr

end FindFriendBot
