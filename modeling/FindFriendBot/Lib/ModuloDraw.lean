import Mathlib.Data.Int.CardIntervalMod
import Mathlib.Data.List.Nodup

/-!
# Drawing from a list by a remainder

`draw l n` is the element at the position `n % l.length`. Of a list without
duplicates every element is drawn, and from a range of numbers all of them
almost equally often: the counts differ by one at most.
-/

namespace ModuloDraw

variable {α : Type*} {l : List α} {x : α}

def draw (l : List α) (n : Nat) : Option α := l[n % l.length]?

theorem draw_eq_none_iff (n : Nat) : draw l n = none ↔ l = [] := by
  rw [draw, List.getElem?_eq_none_iff]
  constructor
  · intro hle
    by_contra hne
    have hlt := Nat.mod_lt n (List.length_pos_iff.mpr hne)
    omega
  · rintro rfl
    exact Nat.zero_le _

theorem mem_of_draw {n : Nat} (h : draw l n = some x) : x ∈ l := List.mem_of_getElem? h

theorem exists_draw (h : x ∈ l) : ∃ n < l.length, draw l n = some x := by
  obtain ⟨i, hi⟩ := List.getElem?_of_mem h
  have hlt := (List.getElem?_eq_some_iff.mp hi).1
  exact ⟨i, hlt, by rw [draw, Nat.mod_eq_of_lt hlt, hi]⟩

/-- The element at a position is drawn by the numbers that leave it as their remainder. -/
theorem draw_eq_some_iff (hnodup : l.Nodup) {i : Nat} (hi : l[i]? = some x) (n : Nat) :
    draw l n = some x ↔ n ≡ i [MOD l.length] := by
  have hlt := (List.getElem?_eq_some_iff.mp hi).1
  have hmod : n % l.length < l.length := Nat.mod_lt n (by omega)
  rw [draw, ← hi, List.getElem?_inj hmod hnodup, Nat.ModEq, Nat.mod_eq_of_lt hlt]

/-- **Fairness.** Of `N` numbers `N / l.length` or one more draw an element. -/
theorem count_draw [DecidableEq α] (hnodup : l.Nodup) (h : x ∈ l) (N : Nat) :
    N.count (fun n => draw l n = some x) = N / l.length ∨
      N.count (fun n => draw l n = some x) = N / l.length + 1 := by
  obtain ⟨i, hi⟩ := List.getElem?_of_mem h
  have hpos : 0 < l.length := List.length_pos_of_mem h
  have hcount : N.count (fun n => draw l n = some x) = N.count (· ≡ i [MOD l.length]) := by
    rw [Nat.count_eq_card_filter_range, Nat.count_eq_card_filter_range]
    exact congrArg Finset.card (Finset.filter_congr fun n _ => draw_eq_some_iff hnodup hi n)
  rw [hcount, Nat.count_modEq_card N hpos]
  split
  · exact Or.inr rfl
  · exact Or.inl rfl

end ModuloDraw
