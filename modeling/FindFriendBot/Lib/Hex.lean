import Mathlib.Data.List.TakeWhile
import Mathlib.Tactic.Common

/-!
# Hexadecimal text

Bytes as two digits each, the high half first. `encode` writes lower-case
digits and `decode` reads both cases, two at a time; texts are lists of ASCII
codes.

* `decode_encode` — the round trip.
* `decode_map`    — a change of the digits that keeps their values, such as a
  change of case, is not noticed.
* `encode_inj`    — different bytes have different texts, in either case.
-/

namespace Hex

/-- The lower-case digit of a number below sixteen. -/
def digit (n : Nat) : UInt8 := UInt8.ofNat (if n < 10 then 48 + n else 87 + n)

/-- The value of a digit of either case. -/
def value (c : UInt8) : Option Nat :=
  if 48 ≤ c ∧ c ≤ 57 then some (c.toNat - 48)
  else if 65 ≤ c ∧ c ≤ 70 then some (c.toNat - 55)
  else if 97 ≤ c ∧ c ≤ 102 then some (c.toNat - 87)
  else none

/-- The two digits of a byte. -/
def byteDigits (b : UInt8) : List UInt8 := [digit (b.toNat / 16), digit (b.toNat % 16)]

def encode (bs : List UInt8) : List UInt8 := bs.flatMap byteDigits

def decode : List UInt8 → Option (List UInt8)
  | [] => some []
  | [_] => none
  | c :: d :: rest =>
    match value c, value d with
    | some high, some low => (decode rest).map fun bs => UInt8.ofNat (16 * high + low) :: bs
    | _, _ => none

-- ---------------------------------------------------------------------------
-- One byte
-- ---------------------------------------------------------------------------

theorem value_digit {n : Nat} (h : n < 16) : value (digit n) = some n := by
  have hall : ∀ n < 16, value (digit n) = some n := by decide
  exact hall n h

theorem byte_halves (b : UInt8) : UInt8.ofNat (16 * (b.toNat / 16) + b.toNat % 16) = b := by
  rw [Nat.div_add_mod]
  exact UInt8.ofNat_toNat

theorem high_lt (b : UInt8) : b.toNat / 16 < 16 := by
  have hb := b.toNat_lt
  omega

theorem low_lt (b : UInt8) : b.toNat % 16 < 16 := Nat.mod_lt _ (by decide)

-- ---------------------------------------------------------------------------
-- Texts
-- ---------------------------------------------------------------------------

theorem encode_cons (b : UInt8) (bs : List UInt8) :
    encode (b :: bs) = digit (b.toNat / 16) :: digit (b.toNat % 16) :: encode bs := rfl

theorem length_encode (bs : List UInt8) : (encode bs).length = 2 * bs.length := by
  induction bs with
  | nil => rfl
  | cons b bs ih =>
    rw [encode_cons, List.length_cons, List.length_cons, List.length_cons, ih]
    omega

/-- A text consists of digits. -/
theorem mem_encode {bs : List UInt8} {c : UInt8} (h : c ∈ encode bs) :
    ∃ n, n < 16 ∧ c = digit n := by
  obtain ⟨b, -, hc⟩ := List.mem_flatMap.mp h
  rcases List.mem_cons.mp hc with rfl | hc
  · exact ⟨_, high_lt b, rfl⟩
  · exact ⟨_, low_lt b, List.mem_singleton.mp hc⟩

/-- **Round trip.** -/
theorem decode_encode (bs : List UInt8) : decode (encode bs) = some bs := by
  induction bs with
  | nil => rfl
  | cons b bs ih =>
    rw [encode_cons, decode, value_digit (high_lt b), value_digit (low_lt b)]
    simp only [ih, Option.map_some, byte_halves]

/-- What can be read has two digits for each byte. -/
theorem length_of_decode {text bs : List UInt8} (h : decode text = some bs) :
    text.length = 2 * bs.length ∧ ∀ c ∈ text, (value c).isSome := by
  induction text using decode.induct generalizing bs with
  | case1 =>
    obtain rfl := Option.some.inj h
    exact ⟨rfl, fun c hc => absurd hc List.not_mem_nil⟩
  | case2 c => exact absurd h (by simp [decode])
  -- two digits a byte
  | case3 c d rest high low hd hc ih =>
    rw [decode, hc, hd] at h
    obtain ⟨rest', hrest, rfl⟩ := Option.map_eq_some_iff.mp h
    obtain ⟨hlength, hdigits⟩ := ih hrest
    constructor
    · simp only [List.length_cons, hlength]
      omega
    · intro x hx
      simp only [List.mem_cons] at hx
      rcases hx with rfl | rfl | hx
      · simp [hc]
      · simp [hd]
      · exact hdigits x hx
  | case4 c d rest hno =>
    exact absurd h (by simp [decode])

/-- Reading looks at the values of the digits only. -/
theorem decode_map {f : UInt8 → UInt8} (hf : ∀ c, value (f c) = value c) :
    ∀ text, decode (text.map f) = decode text
  | [] => rfl
  | [_] => rfl
  | c :: d :: rest => by
    rw [List.map_cons, List.map_cons, decode, decode, hf, hf, decode_map hf rest]

/-- Bytes read back from their text in any spelling of its digits. -/
theorem decode_map_encode {f : UInt8 → UInt8} (hf : ∀ c, value (f c) = value c)
    (bs : List UInt8) : decode ((encode bs).map f) = some bs := by
  rw [decode_map hf, decode_encode]

/-- Different bytes have different texts, in any spelling of the digits. -/
theorem encode_inj {f : UInt8 → UInt8} (hf : ∀ c, value (f c) = value c) {bs bs' : List UInt8}
    (h : (encode bs).map f = (encode bs').map f) : bs = bs' := by
  have hdecode := congrArg decode h
  rw [decode_map_encode hf, decode_map_encode hf] at hdecode
  exact Option.some.inj hdecode

end Hex
