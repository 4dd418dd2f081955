import Mathlib.Algebra.Group.Nat.Defs
import Mathlib.Data.List.TakeWhile

/-!
# FindFriendBot — byte strings

`std::string` is a list of bytes. The operations here are the ones the bot
uses: the character searches and `substr` of `parse_msg`, the case mappings and
`replace_all` of boost (in the "C" locale, the only one the process ever sets),
and the conversion to a C string that every `c_str()` and `(char*)` makes.
`std::string` and `std::map` compare bytes as unsigned numbers, which is the
order `compare` gives on lists of `UInt8`.
-/

namespace FindFriendBot

abbrev Bytes := List UInt8

/-- The bytes of an ASCII literal of the source. -/
def bytes (s : String) : Bytes := s.toList.map fun c => c.toNat.toUInt8

/-- A `std::string` built from a `char*`: everything before the first NUL. -/
def cStr (b : Bytes) : Bytes := b.takeWhile (· ≠ 0)

/-- `std::string::find` of one character; `none` is `npos`. -/
def find (b : Bytes) (c : UInt8) : Option Nat := b.findIdx? (· == c)

/-- `std::string::substr`; `none` is the `std::out_of_range` exception. -/
def substr (b : Bytes) (pos n : Nat) : Option Bytes :=
  if pos ≤ b.length then some ((b.drop pos).take n) else none

/-- `a - b` on `size_t`. -/
def sub64 (a b : Nat) : Nat := (a + (2 ^ 64 - b)) % 2 ^ 64

def toLowerByte (c : UInt8) : UInt8 := if 65 ≤ c ∧ c ≤ 90 then c + 32 else c

def toUpperByte (c : UInt8) : UInt8 := if 97 ≤ c ∧ c ≤ 122 then c - 32 else c

/-- `boost::to_lower`. -/
def toLower (b : Bytes) : Bytes := b.map toLowerByte

/-- `boost::to_upper`. -/
def toUpper (b : Bytes) : Bytes := b.map toUpperByte

/-- `boost::replace_all` of the two-byte pattern `x y` by the byte `r`. -/
def replaceAll (x y r : UInt8) : Bytes → Bytes
  | [] => []
  | [c] => [c]
  | c :: d :: rest =>
    if c = x ∧ d = y then r :: replaceAll x y r rest else c :: replaceAll x y r (d :: rest)

/-- `boost::replace_all(msg_res, "\\n", "\n")`: the escape becomes a newline. -/
def expandNewlines : Bytes → Bytes := replaceAll 92 110 10

-- ---------------------------------------------------------------------------
-- C strings
-- ---------------------------------------------------------------------------

theorem cStr_eq_self_iff {b : Bytes} : cStr b = b ↔ (0 : UInt8) ∉ b := by
  rw [cStr, List.takeWhile_eq_self_iff]
  simp only [decide_eq_true_eq]
  exact ⟨fun h h0 => h 0 h0 rfl, fun h x hx h0 => h (h0 ▸ hx)⟩

theorem zero_not_mem_cStr (b : Bytes) : (0 : UInt8) ∉ cStr b := by
  intro h
  simpa using List.mem_takeWhile_imp h

/-- A C string read back through `c_str()` is itself. -/
@[simp] theorem cStr_cStr (b : Bytes) : cStr (cStr b) = cStr b :=
  cStr_eq_self_iff.mpr (zero_not_mem_cStr b)

-- ---------------------------------------------------------------------------
-- Searches
-- ---------------------------------------------------------------------------

theorem find_lt {b : Bytes} {c : UInt8} {i : Nat} (h : find b c = some i) : i < b.length :=
  (List.findIdx?_eq_some_iff_findIdx_eq.mp h).1

theorem substr_of_le {b : Bytes} {pos : Nat} (h : pos ≤ b.length) (n : Nat) :
    substr b pos n = some ((b.drop pos).take n) := by
  simp [substr, h]

end FindFriendBot
