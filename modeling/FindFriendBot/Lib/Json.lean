import Mathlib.Algebra.Group.Int.Defs
import Mathlib.Data.List.Basic

/-!
# JSON values

Values as a parser leaves them, and access by type. An accessor answers only on
a value of its type, so `none` marks its use on any other. Texts are byte
strings; an object may have a name twice, and then the first member counts.
-/

namespace Json

/-- A JSON value. `int` is a number without fraction and exponent, `double` any other. -/
inductive Value
  | null
  | bool (b : Bool)
  | int (n : Int)
  | double
  | string (text : List UInt8)
  | array (elements : List Value)
  | object (members : List (List UInt8 × Value))

namespace Value

/-- The member of an object. -/
def member? (name : List UInt8) : Value → Option Value
  | object members => members.lookup name
  | _ => none

/-- The elements of an array. -/
def elements? : Value → Option (List Value)
  | array elements => some elements
  | _ => none

/-- The text of a string. -/
def string? : Value → Option (List UInt8)
  | string text => some text
  | _ => none

/-- A number that is a 32-bit integer. -/
def int32? : Value → Option Int
  | int n => if -2 ^ 31 ≤ n ∧ n < 2 ^ 31 then some n else none
  | _ => none

theorem eq_object_of_member? {name : List UInt8} {v w : Value} (h : v.member? name = some w) :
    ∃ members, v = object members := by
  cases v with
  | object members => exact ⟨members, rfl⟩
  | _ => exact absurd h (by simp [member?])

theorem int32?_eq_some_iff {v : Value} {n : Int} :
    v.int32? = some n ↔ v = int n ∧ -2 ^ 31 ≤ n ∧ n < 2 ^ 31 := by
  cases v with
  | int m =>
    simp only [int32?, int.injEq]
    constructor
    · intro h
      split at h
      · next hrange =>
        obtain rfl := Option.some.inj h
        exact ⟨rfl, hrange⟩
      · exact absurd h (by simp)
    · rintro ⟨rfl, hrange⟩
      exact if_pos hrange
  | _ => simp [int32?]

end Value

end Json
