import Mathlib.Data.Finset.Card

/-!
# A heap of objects

Objects of one type live at addresses handed out by a counter. `new` takes the
next address, `delete` ends an object's life, and reading or writing through a
pointer is defined only while the object lives, so `none` marks the undefined
behaviour of a null or dangling pointer. The heap logs the addresses it
deleted; its fields make it impossible to build a heap that reuses an address
or deletes one twice.
-/

/-- A possibly null pointer; `none` is the null pointer. -/
abbrev Ptr := Option Nat

/-- Live objects by address, the next free address, and the log of deletes. -/
structure ObjectHeap (α : Type*) where
  cells : Std.ExtTreeMap Nat α
  next : Nat
  deleted : List Nat
  lt_next : ∀ a ∈ cells, a < next
  deleted_lt : ∀ a ∈ deleted, a < next
  deleted_dead : ∀ a ∈ deleted, a ∉ cells
  deleted_nodup : deleted.Nodup

namespace ObjectHeap

variable {α : Type*}

/-- The heap of a process that has created nothing yet. -/
def empty : ObjectHeap α where
  cells := ∅
  next := 0
  deleted := []
  lt_next := fun _ h => absurd h Std.ExtTreeMap.not_mem_empty
  deleted_lt := fun _ h => absurd h List.not_mem_nil
  deleted_dead := fun _ h => absurd h List.not_mem_nil
  deleted_nodup := List.nodup_nil

/-- The object at an address, if it is alive. -/
def read (h : ObjectHeap α) (a : Nat) : Option α := h.cells[a]?

/-- An address is alive from its `new` to its `delete`. -/
def Live (h : ObjectHeap α) (a : Nat) : Prop := a ∈ h.cells

instance (h : ObjectHeap α) (a : Nat) : Decidable (h.Live a) :=
  inferInstanceAs (Decidable (a ∈ h.cells))

/-- Read through a pointer. -/
def deref (h : ObjectHeap α) (p : Ptr) : Option α := p.bind h.read

/-- The next address is neither alive nor deleted. -/
theorem next_not_live (h : ObjectHeap α) : ¬ h.Live h.next :=
  fun hl => Nat.lt_irrefl _ (h.lt_next _ hl)

/-- Create an object. -/
def new (h : ObjectHeap α) (v : α) : Nat × ObjectHeap α :=
  (h.next, {
    cells := h.cells.insert h.next v
    next := h.next + 1
    deleted := h.deleted
    lt_next := fun a ha => by
      rw [Std.ExtTreeMap.mem_insert, Std.LawfulEqCmp.compare_eq_iff_eq] at ha
      rcases ha with rfl | ha
      · exact Nat.lt_succ_self _
      · exact Nat.lt_succ_of_lt (h.lt_next a ha)
    deleted_lt := fun a ha => Nat.lt_succ_of_lt (h.deleted_lt a ha)
    deleted_dead := fun a ha hin => by
      rw [Std.ExtTreeMap.mem_insert, Std.LawfulEqCmp.compare_eq_iff_eq] at hin
      rcases hin with rfl | hin
      · exact Nat.lt_irrefl _ (h.deleted_lt _ ha)
      · exact h.deleted_dead a ha hin
    deleted_nodup := h.deleted_nodup })

/-- Change the live object at an address. -/
def modify (h : ObjectHeap α) (a : Nat) (f : α → α) : ObjectHeap α where
  cells := h.cells.modify a f
  next := h.next
  deleted := h.deleted
  lt_next := fun b hb => h.lt_next b (Std.ExtTreeMap.mem_modify.mp hb)
  deleted_lt := h.deleted_lt
  deleted_dead := fun b hb hin => h.deleted_dead b hb (Std.ExtTreeMap.mem_modify.mp hin)
  deleted_nodup := h.deleted_nodup

/-- Write through a pointer; defined on live objects only. -/
def update (h : ObjectHeap α) (p : Ptr) (f : α → α) : Option (ObjectHeap α) :=
  match p with
  | none => none
  | some a => if h.Live a then some (h.modify a f) else none

/-- Delete the object at an address; defined on live objects only. -/
def delete (h : ObjectHeap α) (a : Nat) : Option (ObjectHeap α) :=
  if hl : h.Live a then
    some {
      cells := h.cells.erase a
      next := h.next
      deleted := a :: h.deleted
      lt_next := fun b hb => h.lt_next b (Std.ExtTreeMap.mem_of_mem_erase hb)
      deleted_lt := fun b hb => by
        rcases List.mem_cons.mp hb with rfl | hb
        · exact h.lt_next _ hl
        · exact h.deleted_lt b hb
      deleted_dead := fun b hb hin => by
        rw [Std.ExtTreeMap.mem_erase] at hin
        rcases List.mem_cons.mp hb with rfl | hb
        · exact hin.1 (Std.LawfulEqCmp.compare_eq_iff_eq.mpr rfl)
        · exact h.deleted_dead b hb hin.2
      deleted_nodup := List.nodup_cons.mpr ⟨fun hd => h.deleted_dead a hd hl, h.deleted_nodup⟩ }
  else none

-- ---------------------------------------------------------------------------
-- What each operation leaves at an address
-- ---------------------------------------------------------------------------

@[simp] theorem deref_none (h : ObjectHeap α) : h.deref none = none := rfl

@[simp] theorem deref_some (h : ObjectHeap α) (a : Nat) : h.deref (some a) = h.read a := rfl

theorem live_iff {h : ObjectHeap α} {a : Nat} : h.Live a ↔ ∃ v, h.read a = some v := by
  rw [Live, read, Std.ExtTreeMap.mem_iff_isSome_getElem?, Option.isSome_iff_exists]

theorem live_of_read {h : ObjectHeap α} {a : Nat} {v : α} (hr : h.read a = some v) : h.Live a :=
  live_iff.mpr ⟨v, hr⟩

theorem read_new_of_live {h : ObjectHeap α} {a : Nat} (hl : h.Live a) (v : α) :
    (h.new v).2.read a = h.read a := by
  have hne : h.next ≠ a := fun he => h.next_not_live (he ▸ hl)
  simp [read, new, Std.ExtTreeMap.getElem?_insert, hne]

theorem read_new_next (h : ObjectHeap α) (v : α) : (h.new v).2.read h.next = some v := by
  simp [read, new]

theorem live_new_iff {h : ObjectHeap α} {a : Nat} {v : α} :
    (h.new v).2.Live a ↔ a = h.next ∨ h.Live a := by
  rw [Live, new, Std.ExtTreeMap.mem_insert, Std.LawfulEqCmp.compare_eq_iff_eq, eq_comm]
  exact Iff.rfl

theorem read_modify (h : ObjectHeap α) (a b : Nat) (f : α → α) :
    (h.modify a f).read b = if a = b then (h.read b).map f else h.read b := by
  rw [read, modify, Std.ExtTreeMap.getElem?_modify]
  by_cases hab : a = b
  · subst hab
    simp [read]
  · simp [hab, read]

theorem live_modify_iff {h : ObjectHeap α} {a b : Nat} {f : α → α} :
    (h.modify a f).Live b ↔ h.Live b :=
  Std.ExtTreeMap.mem_modify

theorem update_of_live {h : ObjectHeap α} {a : Nat} (hl : h.Live a) (f : α → α) :
    h.update (some a) f = some (h.modify a f) := by
  simp [update, hl]

theorem delete_deleted {h h' : ObjectHeap α} {a : Nat} (hdelete : h.delete a = some h') :
    h'.deleted = a :: h.deleted := by
  unfold delete at hdelete
  split at hdelete
  · rw [← Option.some.inj hdelete]
  · exact absurd hdelete (by simp)

theorem delete_next {h h' : ObjectHeap α} {a : Nat} (hdelete : h.delete a = some h') :
    h'.next = h.next := by
  unfold delete at hdelete
  split at hdelete
  · rw [← Option.some.inj hdelete]
  · exact absurd hdelete (by simp)

/-- Deleting a live object succeeds, logs its address, ends its life and leaves
every other object as it was. -/
theorem delete_of_live {h : ObjectHeap α} {a : Nat} (hl : h.Live a) :
    ∃ h', h.delete a = some h' ∧ h'.deleted = a :: h.deleted ∧
      (∀ b, b ≠ a → h'.read b = h.read b) ∧ ∀ b, h'.Live b ↔ b ≠ a ∧ h.Live b := by
  rw [delete, dif_pos hl]
  refine ⟨_, rfl, rfl, ?_, ?_⟩
  · intro b hb
    simp [read, Std.ExtTreeMap.getElem?_erase, Ne.symm hb]
  · intro b
    rw [Live, Std.ExtTreeMap.mem_erase, ne_eq, Std.LawfulEqCmp.compare_eq_iff_eq, ne_comm]
    exact Iff.rfl

-- ---------------------------------------------------------------------------
-- Every object ever created
-- ---------------------------------------------------------------------------

/-- Every address that was handed out is alive or in the log of deletes. -/
def Complete (h : ObjectHeap α) : Prop := ∀ a < h.next, h.Live a ∨ a ∈ h.deleted

theorem complete_empty : (empty : ObjectHeap α).Complete :=
  fun _ ha => absurd ha (Nat.not_lt_zero _)

theorem Complete.new {h : ObjectHeap α} (hc : h.Complete) (v : α) : (h.new v).2.Complete := by
  intro a ha
  rw [live_new_iff]
  rcases Nat.lt_succ_iff_lt_or_eq.mp ha with hlt | rfl
  · exact (hc a hlt).imp_left Or.inr
  · exact Or.inl (Or.inl rfl)

theorem Complete.modify {h : ObjectHeap α} (hc : h.Complete) (a : Nat) (f : α → α) :
    (h.modify a f).Complete :=
  fun b hb => (hc b hb).imp_left live_modify_iff.mpr

theorem Complete.delete {h h' : ObjectHeap α} (hc : h.Complete) {a : Nat}
    (hdelete : h.delete a = some h') : h'.Complete := by
  intro b hb
  rw [delete_next hdelete] at hb
  rw [delete_deleted hdelete, List.mem_cons]
  by_cases hl : h.Live a
  · obtain ⟨h₁, hdelete₁, -, -, hlives⟩ := delete_of_live hl
    obtain rfl := Option.some.inj (hdelete.symm.trans hdelete₁)
    by_cases hba : b = a
    · exact Or.inr (Or.inl hba)
    · exact (hc b hb).imp (fun hlive => (hlives b).mpr ⟨hba, hlive⟩) Or.inr
  · rw [ObjectHeap.delete, dif_neg hl] at hdelete
    exact absurd hdelete (by simp)

/-- What is not alive was deleted, once. -/
theorem Complete.count_deleted {h : ObjectHeap α} (hc : h.Complete) {a : Nat} (ha : a < h.next)
    (hdead : ¬ h.Live a) : h.deleted.count a = 1 :=
  List.count_eq_one_of_mem h.deleted_nodup ((hc a ha).resolve_left hdead)

end ObjectHeap
