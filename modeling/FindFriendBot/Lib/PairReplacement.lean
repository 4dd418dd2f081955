import Mathlib.Data.List.Basic
import Mathlib.Data.List.Infix

/-!
# Replacing a pair of symbols

`replace x y r` turns every occurrence of `x y` in a word into `r`, from the
left. A word may be put together from fixed segments, whose occurrences are
meant, and foreign ones, which should come through unchanged. Replacing in the
whole word and replacing in the fixed segments only give the same result
exactly when no occurrence lies in a foreign segment or across a border
(`Intact`); both the words and the number of `r`s in them tell the difference.

* `replace_flat_iff` — the words.
* `count_flat_iff`   — the number of `r`s.
-/

namespace PairReplacement

variable {α : Type*}

/-- A part of a word: fixed, or put in from outside. -/
inductive Segment (α : Type*)
  | fixed (s : List α)
  | foreign (s : List α)

namespace Segment

def text : Segment α → List α
  | fixed s => s
  | foreign s => s

/-- The whole word. -/
def flat (gs : List (Segment α)) : List α := gs.flatMap text

@[simp] theorem flat_nil : flat ([] : List (Segment α)) = [] := rfl

@[simp] theorem flat_cons (g : Segment α) (gs : List (Segment α)) :
    flat (g :: gs) = g.text ++ flat gs := rfl

@[simp] theorem flat_append (gs hs : List (Segment α)) : flat (gs ++ hs) = flat gs ++ flat hs :=
  List.flatMap_append

end Segment

/-- An occurrence of `x y` begins at the end of `a` and ends at the start of `b`. -/
def Straddles (x y : α) (a b : List α) : Prop := a.getLast? = some x ∧ b.head? = some y

theorem straddles_append {x y : α} {a b c : List α} :
    Straddles x y (a ++ b) c ↔ Straddles x y b c ∨ b = [] ∧ Straddles x y a c := by
  unfold Straddles
  cases b using List.reverseRecOn with
  | nil => simp
  | append_singleton b e => simp [← List.append_assoc]

variable [DecidableEq α]

instance (x y : α) (a b : List α) : Decidable (Straddles x y a b) :=
  inferInstanceAs (Decidable (_ ∧ _))

/-- Replace every `x y` by `r`. -/
def replace (x y r : α) : List α → List α
  | [] => []
  | [c] => [c]
  | c :: d :: rest =>
    if c = x ∧ d = y then r :: replace x y r rest else c :: replace x y r (d :: rest)

/-- The number of occurrences of `x y`. -/
def occurrences (x y : α) : List α → Nat
  | [] => 0
  | [_] => 0
  | c :: d :: rest => (if c = x ∧ d = y then 1 else 0) + occurrences x y (d :: rest)

-- ---------------------------------------------------------------------------
-- Occurrences
-- ---------------------------------------------------------------------------

theorem occurrences_cons_of_ne {x y c : α} (h : c ≠ x) (b : List α) :
    occurrences x y (c :: b) = occurrences x y b := by
  cases b with
  | nil => rfl
  | cons d rest => simp [occurrences, h]

theorem occurrences_cons (x y c : α) (b : List α) :
    occurrences x y (c :: b) = (if Straddles x y [c] b then 1 else 0) + occurrences x y b := by
  cases b with
  | nil => simp [occurrences, Straddles]
  | cons d rest => simp [occurrences, Straddles]

/-- After an occurrence the next one cannot begin at its `y`. -/
theorem occurrences_pair {x y c d : α} (hxy : x ≠ y) (h : c = x ∧ d = y) (rest : List α) :
    occurrences x y (c :: d :: rest) = 1 + occurrences x y rest := by
  have hd : d ≠ x := fun heq => hxy (heq.symm.trans h.2)
  rw [occurrences, if_pos h, occurrences_cons_of_ne hd]

theorem occurrences_append (x y : α) (a b : List α) :
    occurrences x y (a ++ b) =
      occurrences x y a + (if Straddles x y a b then 1 else 0) + occurrences x y b := by
  induction a with
  | nil => simp [occurrences, Straddles]
  | cons c a ih =>
    cases a with
    | nil =>
      show occurrences x y (c :: b) = _
      rw [occurrences_cons]
      simp [occurrences]
    | cons d a =>
      have hlast : Straddles x y (c :: d :: a) b ↔ Straddles x y (d :: a) b := by
        simp [Straddles, List.getLast?_cons_cons]
      have hhead : occurrences x y (c :: d :: a ++ b) =
          (if c = x ∧ d = y then 1 else 0) + occurrences x y (d :: a ++ b) := rfl
      rw [hhead, ih]
      simp only [hlast, occurrences]
      omega

theorem occurrences_eq_zero_iff (x y : α) (b : List α) :
    occurrences x y b = 0 ↔ ¬ [x, y] <:+: b := by
  induction b with
  | nil => simp [occurrences]
  | cons c b ih =>
    rw [occurrences_cons, List.infix_cons_iff, not_or, ← ih]
    have hhead : [x, y] <+: c :: b ↔ Straddles x y [c] b := by
      cases b with
      | nil => simp [Straddles]
      | cons d rest => simp [Straddles, List.cons_prefix_cons, eq_comm]
    rw [hhead]
    split
    · next h => simp [h]
    · next h => simp [h]

-- ---------------------------------------------------------------------------
-- Replacement
-- ---------------------------------------------------------------------------

/-- Each occurrence costs one symbol. -/
theorem length_replace {x y : α} (hxy : x ≠ y) (r : α) (b : List α) :
    (replace x y r b).length + occurrences x y b = b.length := by
  induction b using replace.induct x y with
  | case1 => rfl
  | case2 c => rfl
  | case3 c d rest h ih =>
    rw [replace, if_pos h, occurrences_pair hxy h, List.length_cons, List.length_cons,
      List.length_cons]
    omega
  | case4 c d rest h ih =>
    simp only [replace, occurrences, h, if_false, List.length_cons] at ih ⊢
    omega

/-- And brings one `r`. -/
theorem count_replace {x y r : α} (hxy : x ≠ y) (hx : x ≠ r) (hy : y ≠ r) (b : List α) :
    (replace x y r b).count r = b.count r + occurrences x y b := by
  induction b using replace.induct x y with
  | case1 => rfl
  | case2 c => rfl
  | case3 c d rest h ih =>
    rw [replace, if_pos h, List.count_cons_self, ih, occurrences_pair hxy h]
    obtain ⟨rfl, rfl⟩ := h
    rw [List.count_cons_of_ne hx, List.count_cons_of_ne hy]
    omega
  | case4 c d rest h ih =>
    simp only [replace, h, if_false, occurrences, List.count_cons] at ih ⊢
    omega

theorem replace_of_occurrences_eq_zero {x y : α} (r : α) {b : List α}
    (h : occurrences x y b = 0) : replace x y r b = b := by
  induction b using replace.induct x y with
  | case1 => rfl
  | case2 c => rfl
  | case3 c d rest hcd ih =>
    simp only [occurrences, hcd, and_self, if_true] at h
    omega
  | case4 c d rest hcd ih =>
    simp only [occurrences, hcd, if_false] at h
    rw [replace, if_neg hcd, ih (by omega)]

theorem replace_append {x y : α} (r : α) {a b : List α} (h : ¬ Straddles x y a b) :
    replace x y r (a ++ b) = replace x y r a ++ replace x y r b := by
  induction a using replace.induct x y with
  | case1 => rfl
  | case2 c =>
    -- a single last element of a: only the border could complete the pair
    cases b with
    | nil => rfl
    | cons d rest =>
      have hcd : ¬ (c = x ∧ d = y) := by simpa [Straddles] using h
      show replace x y r (c :: d :: rest) = c :: replace x y r (d :: rest)
      rw [replace, if_neg hcd]
  | case3 c d rest hcd ih =>
    show replace x y r (c :: d :: (rest ++ b)) = _
    rw [replace, if_pos hcd, ih, replace, if_pos hcd]
    · rfl
    -- the pair is behind, so the border of the rest is the border of the whole
    · intro hs
      refine h ⟨?_, hs.2⟩
      cases rest with
      | nil => exact absurd hs.1 (by simp)
      | cons e rest => simpa [List.getLast?_cons_cons] using hs.1
  | case4 c d rest hcd ih =>
    have hrest : ¬ Straddles x y (d :: rest) b := by
      simpa [Straddles, List.getLast?_cons_cons] using h
    show replace x y r (c :: d :: (rest ++ b)) = _
    rw [replace, if_neg hcd, replace, if_neg hcd]
    exact congrArg (c :: ·) (ih hrest)

-- ---------------------------------------------------------------------------
-- Segments
-- ---------------------------------------------------------------------------

namespace Segment

/-- The replacement that leaves foreign text alone. -/
def replaced (x y r : α) : Segment α → List α
  | fixed s => replace x y r s
  | foreign s => s

/-- The occurrences that should not be replaced. -/
def unmeant (x y : α) : Segment α → Nat
  | fixed _ => 0
  | foreign s => occurrences x y s

theorem replaced_of_unmeant {x y : α} (r : α) {g : Segment α} (h : g.unmeant x y = 0) :
    g.replaced x y r = replace x y r g.text := by
  cases g with
  | fixed s => rfl
  | foreign s => exact (replace_of_occurrences_eq_zero r h).symm

end Segment

open Segment

/-- No occurrence lies in a foreign segment or across a border of segments. -/
structure Intact (x y : α) (gs : List (Segment α)) : Prop where
  foreign : ∀ s, Segment.foreign s ∈ gs → ¬ [x, y] <:+: s
  border : ∀ before after, gs = before ++ after → ¬ Straddles x y (flat before) (flat after)

/-- How many occurrences lie there. -/
def unmeant (x y : α) : List (Segment α) → Nat
  | [] => 0
  | g :: gs => g.unmeant x y + (if Straddles x y g.text (flat gs) then 1 else 0) + unmeant x y gs

theorem unmeant_eq_zero_iff (x y : α) (gs : List (Segment α)) :
    unmeant x y gs = 0 ↔ Intact x y gs := by
  induction gs with
  | nil =>
    refine iff_of_true rfl ⟨fun s hs => absurd hs (by simp), ?_⟩
    intro before after heq
    obtain ⟨rfl, rfl⟩ := List.append_eq_nil_iff.mp heq.symm
    simp [Straddles]
  | cons g gs ih =>
    have hown : g.unmeant x y = 0 ↔ ∀ s, g = Segment.foreign s → ¬ [x, y] <:+: s := by
      cases g with
      | fixed s => simp [Segment.unmeant]
      | foreign s => simp [Segment.unmeant, occurrences_eq_zero_iff]
    have hsum : unmeant x y (g :: gs) = 0 ↔
        g.unmeant x y = 0 ∧ ¬ Straddles x y g.text (flat gs) ∧ unmeant x y gs = 0 := by
      -- a sum of naturals is zero when each of them is
      rw [unmeant]
      split
      · next h => simp [h]
      · next h => simp [h]
    rw [hsum, hown, ih]
    constructor
    · rintro ⟨hg, hstraddle, hgs⟩
      constructor
      · intro s hs
        rcases List.mem_cons.mp hs with rfl | hs
        · exact hg s rfl
        · exact hgs.foreign s hs
      · intro before after heq
        -- the border may lie in the first segment or later
        cases before with
        | nil => simp [Straddles]
        | cons g' before =>
          obtain ⟨rfl, hrest⟩ := List.cons.inj heq
          rw [flat_cons, straddles_append, not_or]
          refine ⟨hgs.border before after hrest, fun h => hstraddle ?_⟩
          -- nothing but empty segments in between
          have hflat : flat gs = flat after := by
            rw [hrest, List.append_eq, flat_append, h.1, List.nil_append]
          rw [hflat]
          exact h.2
    · intro h
      refine ⟨fun s hs => h.foreign s (hs ▸ List.mem_cons_self ..), ?_, ?_⟩
      · have hborder := h.border [g] gs rfl
        simpa using hborder
      · refine ⟨fun s hs => h.foreign s (List.mem_cons_of_mem _ hs), ?_⟩
        intro before after heq
        have hborder := h.border (g :: before) after (by rw [heq]; rfl)
        rw [flat_cons, straddles_append, not_or] at hborder
        exact hborder.1

/-- The whole word has the occurrences of its fixed segments and the unmeant ones. -/
theorem length_replaced {x y : α} (hxy : x ≠ y) (r : α) (gs : List (Segment α)) :
    (replace x y r (flat gs)).length + unmeant x y gs =
      (gs.flatMap (Segment.replaced x y r)).length := by
  have hflat := fun gs : List (Segment α) => length_replace hxy r (flat gs)
  induction gs with
  | nil => rfl
  | cons g gs ih =>
    have hword := hflat (g :: gs)
    have hrest := hflat gs
    have hg : (g.replaced x y r).length + occurrences x y g.text =
        g.text.length + g.unmeant x y := by
      cases g with
      | fixed s => exact length_replace hxy r s
      | foreign s => rfl
    rw [flat_cons, occurrences_append, List.length_append] at hword
    rw [flat_cons, List.flatMap_cons, List.length_append, unmeant]
    omega

theorem count_replaced {x y r : α} (hxy : x ≠ y) (hx : x ≠ r) (hy : y ≠ r)
    (gs : List (Segment α)) :
    (replace x y r (flat gs)).count r =
      (gs.flatMap (Segment.replaced x y r)).count r + unmeant x y gs := by
  have hflat := fun gs : List (Segment α) => count_replace hxy hx hy (flat gs)
  induction gs with
  | nil => rfl
  | cons g gs ih =>
    have hword := hflat (g :: gs)
    have hrest := hflat gs
    have hg : (g.replaced x y r).count r + g.unmeant x y =
        g.text.count r + occurrences x y g.text := by
      cases g with
      | fixed s => exact count_replace hxy hx hy s
      | foreign s => rfl
    rw [flat_cons, occurrences_append, List.count_append] at hword
    rw [flat_cons, List.flatMap_cons, List.count_append, unmeant]
    omega

theorem replace_flat_of_unmeant {x y : α} (r : α) {gs : List (Segment α)}
    (h : unmeant x y gs = 0) :
    replace x y r (flat gs) = gs.flatMap (Segment.replaced x y r) := by
  induction gs with
  | nil => rfl
  | cons g gs ih =>
    rw [unmeant] at h
    have hstraddle : ¬ Straddles x y g.text (flat gs) := by
      intro hs
      rw [if_pos hs] at h
      omega
    rw [flat_cons, replace_append r hstraddle, ih (by omega), List.flatMap_cons,
      Segment.replaced_of_unmeant r (by omega)]

/-- **Replacing after** the foreign segments went in gives what replacing before gives
exactly when the segments are intact. -/
theorem replace_flat_iff {x y : α} (hxy : x ≠ y) (r : α) (gs : List (Segment α)) :
    replace x y r (flat gs) = gs.flatMap (Segment.replaced x y r) ↔ Intact x y gs := by
  rw [← unmeant_eq_zero_iff]
  refine ⟨?_, replace_flat_of_unmeant r⟩
  intro h
  have hlength := length_replaced hxy r gs
  rw [h] at hlength
  omega

/-- And it adds an `r` exactly when they are not. -/
theorem count_flat_iff {x y r : α} (hxy : x ≠ y) (hx : x ≠ r) (hy : y ≠ r)
    (gs : List (Segment α)) :
    (replace x y r (flat gs)).count r ≤ (gs.flatMap (Segment.replaced x y r)).count r ↔
      Intact x y gs := by
  have hcount := count_replaced hxy hx hy gs
  rw [← unmeant_eq_zero_iff]
  omega

end PairReplacement
