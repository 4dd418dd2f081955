import Mathlib.Data.Finset.Card

/-!
# Ordered maps with lawful keys

Lookup after each update of a `Std.ExtTreeMap` whose comparison decides
equality, stated with `=` on keys, and how the updates commute with mapping the
values.
-/

namespace OrderedMap

variable {κ α β : Type*} [Ord κ] [Std.LawfulEqOrd κ] [DecidableEq κ]

/-- The condition of an updated lookup, as an equation between keys. -/
private theorem ite_compare (k k' : κ) (x y : Option α) :
    (if compare k k' = Ordering.eq then x else y) = if k = k' then x else y := by
  by_cases h : k = k' <;> simp [h]

variable [Std.TransOrd κ]

omit [Std.LawfulEqOrd κ] [DecidableEq κ] in
theorem mem_of_get {m : Std.ExtTreeMap κ α} {k : κ} {v : α} (h : m[k]? = some v) : k ∈ m := by
  rw [Std.ExtTreeMap.mem_iff_isSome_getElem?, h]
  rfl

omit [Std.LawfulEqOrd κ] [DecidableEq κ] in
theorem not_mem_of_get {m : Std.ExtTreeMap κ α} {k : κ} (h : m[k]? = none) : k ∉ m := by
  rw [Std.ExtTreeMap.mem_iff_isSome_getElem?, h]
  simp

omit [Std.LawfulEqOrd κ] [DecidableEq κ] in
/-- Maps that agree on a key both have it or both do not. -/
theorem mem_congr {m m' : Std.ExtTreeMap κ α} {k : κ} (h : m'[k]? = m[k]?) : k ∈ m' ↔ k ∈ m := by
  rw [Std.ExtTreeMap.mem_iff_isSome_getElem?, h, ← Std.ExtTreeMap.mem_iff_isSome_getElem?]

theorem get_insert (m : Std.ExtTreeMap κ α) (k k' : κ) (v : α) :
    (m.insert k v)[k']? = if k = k' then some v else m[k']? := by
  rw [Std.ExtTreeMap.getElem?_insert, ite_compare]

theorem get_erase (m : Std.ExtTreeMap κ α) (k k' : κ) :
    (m.erase k)[k']? = if k = k' then none else m[k']? := by
  rw [Std.ExtTreeMap.getElem?_erase, ite_compare]

/-- Insertion keeps the value of a key that is there. -/
theorem get_insertIfNew (m : Std.ExtTreeMap κ α) (k k' : κ) (v : α) :
    (m.insertIfNew k v)[k']? = if k = k' then some ((m[k']?).getD v) else m[k']? := by
  rw [Std.ExtTreeMap.getElem?_insertIfNew]
  by_cases h : k = k'
  · subst h
    by_cases hin : k ∈ m
    · simp [hin]
    · simp [hin]
  · simp [h]

theorem get_modify (m : Std.ExtTreeMap κ α) (k k' : κ) (f : α → α) :
    (m.modify k f)[k']? = if k = k' then (m[k']?).map f else m[k']? := by
  rw [Std.ExtTreeMap.getElem?_modify, ite_compare]
  by_cases h : k = k' <;> simp [h]

theorem map_erase (m : Std.ExtTreeMap κ α) (f : κ → α → β) (k : κ) :
    (m.erase k).map f = (m.map f).erase k := by
  apply Std.ExtTreeMap.ext_getElem?
  intro k'
  rw [Std.ExtTreeMap.getElem?_map, get_erase, get_erase, Std.ExtTreeMap.getElem?_map]
  split <;> rfl

theorem map_insertIfNew (m : Std.ExtTreeMap κ α) (f : κ → α → β) (k : κ) (v : α) :
    (m.insertIfNew k v).map f = (m.map f).insertIfNew k (f k v) := by
  apply Std.ExtTreeMap.ext_getElem?
  intro k'
  rw [Std.ExtTreeMap.getElem?_map, get_insertIfNew, get_insertIfNew, Std.ExtTreeMap.getElem?_map]
  split
  · next h =>
    subst h
    cases m[k]? <;> rfl
  · rfl

theorem insertIfNew_of_mem {m : Std.ExtTreeMap κ α} {k : κ} (h : k ∈ m) (v : α) :
    m.insertIfNew k v = m := by
  apply Std.ExtTreeMap.ext_getElem?
  intro k'
  rw [get_insertIfNew]
  split
  · next heq =>
    subst heq
    rw [Std.ExtTreeMap.getElem?_eq_some_getElem h]
    rfl
  · rfl

theorem erase_of_not_mem {m : Std.ExtTreeMap κ α} {k : κ} (h : k ∉ m) : m.erase k = m := by
  apply Std.ExtTreeMap.ext_getElem?
  intro k'
  rw [get_erase]
  split
  · next heq =>
    subst heq
    exact (Std.ExtTreeMap.getElem?_eq_none h).symm
  · rfl

/-- A value other than that of an erased key is still there. -/
theorem exists_get_iff_erase {m : Std.ExtTreeMap κ α} {k : κ} {v : α} (hk : m[k]? = some v)
    (w : α) :
    (∃ k' : κ, m[k']? = some w) ↔ w = v ∨ ∃ k' : κ, (m.erase k)[k']? = some w := by
  constructor
  · rintro ⟨k', hk'⟩
    by_cases hkk : k = k'
    · subst hkk
      rw [hk, Option.some.injEq] at hk'
      exact Or.inl hk'.symm
    · exact Or.inr ⟨k', by rw [get_erase, if_neg hkk, hk']⟩
  · rintro (rfl | ⟨k', hk'⟩)
    · exact ⟨k, hk⟩
    · rw [get_erase] at hk'
      split at hk'
      · exact absurd hk' (by simp)
      · exact ⟨k', hk'⟩

/-- The rest of a map's entries is what the map has without the first one's key. -/
theorem mem_tail_iff_erase {m : Std.ExtTreeMap κ α} {k : κ} {v : α} {entries : List (κ × α)}
    (hnodup : k ∉ entries.map Prod.fst)
    (hentries : ∀ k' w, (k', w) ∈ (k, v) :: entries ↔ m[k']? = some w) (k' : κ) (w : α) :
    (k', w) ∈ entries ↔ (m.erase k)[k']? = some w := by
  rw [get_erase]
  by_cases hkk : k = k'
  · subst hkk
    rw [if_pos rfl]
    refine iff_of_false (fun hin => hnodup (List.mem_map_of_mem hin)) ?_
    simp
  · rw [if_neg hkk, ← hentries k' w, List.mem_cons]
    refine ⟨Or.inr, fun hor => hor.resolve_left fun he => hkk ?_⟩
    exact (Prod.mk.inj he).1.symm

/-- A map whose keys are the image of a finite set has as many entries as the set. -/
theorem size_eq_card {ι : Type*} {m : Std.ExtTreeMap κ α} {S : Finset ι} {f : ι → κ}
    (hf : Function.Injective f) (h : ∀ k, k ∈ m ↔ ∃ i ∈ S, f i = k) : m.size = S.card := by
  have hkeys : m.keys.toFinset = S.image f := by
    ext k
    rw [List.mem_toFinset, Std.ExtTreeMap.mem_keys, h, Finset.mem_image]
  calc m.size = m.keys.length := Std.ExtTreeMap.length_keys.symm
    _ = m.keys.toFinset.card := (List.toFinset_card_of_nodup Std.ExtTreeMap.nodup_keys).symm
    _ = (S.image f).card := by rw [hkeys]
    _ = S.card := Finset.card_image_of_injective S hf

end OrderedMap
