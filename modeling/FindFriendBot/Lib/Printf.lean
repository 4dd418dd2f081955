import Mathlib.Algebra.Group.Nat.Defs
import Mathlib.Data.List.Basic
import Mathlib.Tactic.Common

/-!
# Formatted text

What `printf` makes of a format of literal text, `%d` and `%s`, and what `sprintf`
does with a buffer of a given size. A format is a list of pieces with their
arguments; texts are lists of ASCII codes.

* `length_decimal_le`  — the width of a number.
* `sprintf_isSome_iff` — when the text and its NUL fit into the buffer.
-/

namespace Printf

/-- The digits of a number. -/
def digits (n : Nat) : List UInt8 := (Nat.toDigits 10 n).map fun c => c.toNat.toUInt8

/-- A number as `%d` prints it. -/
def decimal : Int → List UInt8
  | .ofNat n => digits n
  | .negSucc n => 45 :: digits (n + 1)

/-- Literal text, or a directive with its argument. -/
inductive Piece
  | lit (text : List UInt8)
  | d (n : Int)
  | s (text : List UInt8)

/-- What the piece is in the format. -/
def Piece.spell : Piece → List UInt8
  | .lit text => text
  | .d _ => [37, 100]
  | .s _ => [37, 115]

/-- What is printed for the piece. -/
def Piece.print : Piece → List UInt8
  | .lit text => text
  | .d n => decimal n
  | .s text => text

/-- The format. -/
def spell (pieces : List Piece) : List UInt8 := pieces.flatMap Piece.spell

/-- The text. -/
def render (pieces : List Piece) : List UInt8 := pieces.flatMap Piece.print

/-- `sprintf` into a buffer of `size` bytes; `none` is a write past its end. -/
def sprintf (size : Nat) (pieces : List Piece) : Option (List UInt8) :=
  if (render pieces).length + 1 ≤ size then some (render pieces) else none

@[simp] theorem length_render_nil : (render []).length = 0 := rfl

@[simp] theorem length_render_cons (p : Piece) (pieces : List Piece) :
    (render (p :: pieces)).length = p.print.length + (render pieces).length := by
  rw [render, List.flatMap_cons, List.length_append]
  rfl

theorem sprintf_isSome_iff {size : Nat} {pieces : List Piece} :
    (sprintf size pieces).isSome ↔ (render pieces).length + 1 ≤ size := by
  unfold sprintf
  split
  · next hfits => exact iff_of_true rfl hfits
  · next hlong => exact iff_of_false (by simp) hlong

-- ---------------------------------------------------------------------------
-- Numbers
-- ---------------------------------------------------------------------------

theorem length_digits_le_iff {n k : Nat} (hk : 0 < k) : (digits n).length ≤ k ↔ n < 10 ^ k := by
  rw [digits, List.length_map]
  exact Nat.length_toDigits_le_iff (by decide) hk

/-- A sign and `k` digits hold every number of at most `k` digits. -/
theorem length_decimal_le {n : Int} {k : Nat} (hk : 0 < k) (hn : n.natAbs < 10 ^ k) :
    (decimal n).length ≤ k + 1 := by
  cases n with
  | ofNat n =>
    have hdigits : (digits n).length ≤ k := (length_digits_le_iff hk).mpr hn
    exact Nat.le_succ_of_le hdigits
  | negSucc n =>
    have hdigits : (digits (n + 1)).length ≤ k := (length_digits_le_iff hk).mpr hn
    exact Nat.succ_le_succ hdigits

end Printf
