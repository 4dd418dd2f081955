import Mathlib.Data.Finset.Card
import FindFriendBot.Model.Bytes

/-!
# FindFriendBot — what toxcore and the system answer

A friend is identified by the string `Util::get_pk_by_id` returns for its
friend number: 64 upper-case hexadecimal characters (`Pk`). `Tox` holds the
part of toxcore's state the bot queries, and `Answers` what the calls a handler
makes outside the repository return while it runs: the clock, `rand()`, the
friend queries, and at which driver call the SQL statement throws, if any.
-/

namespace FindFriendBot

/-- A character of `from_pk_hex` after `boost::to_upper`. -/
def IsUpperHex (c : UInt8) : Prop := (48 ≤ c ∧ c ≤ 57) ∨ (65 ≤ c ∧ c ≤ 70)

instance (c : UInt8) : Decidable (IsUpperHex c) := inferInstanceAs (Decidable (_ ∨ _))

/-- A friend's public key as `Util::get_pk_by_id` spells it. -/
structure Pk where
  hex : Bytes
  length_eq : hex.length = 64
  upper_hex : ∀ c ∈ hex, IsUpperHex c
  deriving DecidableEq

@[ext] theorem Pk.ext {p q : Pk} (h : p.hex = q.hex) : p = q := by
  cases p
  cases q
  cases h
  rfl

theorem Pk.hex_inj {p q : Pk} : p.hex = q.hex ↔ p = q := ⟨Pk.ext, congrArg Pk.hex⟩

theorem Pk.hex_ne_nil (p : Pk) : p.hex ≠ [] := by
  intro h
  simpa [h] using p.length_eq

/-- `pk.c_str()` loses nothing. -/
@[simp] theorem Pk.cStr_hex (p : Pk) : cStr p.hex = p.hex :=
  cStr_eq_self_iff.mpr fun h => absurd (p.upper_hex 0 h) (by decide)

/-- The key of one digit repeated. -/
def Pk.repeat (c : UInt8) (h : IsUpperHex c) : Pk where
  hex := List.replicate 64 c
  length_eq := List.length_replicate
  upper_hex := fun _ hx => List.eq_of_mem_replicate hx ▸ h

/-- A message text. A `size_t` length leaves room for the arithmetic of
`parse_msg`: no object reaches `2 ^ 63` bytes. -/
structure Message where
  text : Bytes
  length_lt : text.length < 2 ^ 63

/-- `TOX_CONNECTION`. -/
inductive ToxConnection
  | none
  | tcp
  | udp
  deriving DecidableEq

/-- How a `tox_friend_get_*_size` call and the `tox_friend_get_*` call after it
end. -/
inductive FriendQuery
  | ok
  | sizeFails
  | getFails
  deriving DecidableEq

/-- toxcore's view of the friends: who is connected, and each friend's profile. -/
structure Tox where
  connected : Finset Pk
  name : Pk → Bytes
  statusMessage : Pk → Bytes

/-- What the calls made during one event answer. `sql` counts the calls of the
event's SQL operation from 0 and names the one that throws. -/
structure Answers where
  time : Nat
  rand : Nat
  nameQuery : FriendQuery
  statusMessageQuery : FriendQuery
  sql : Option Nat

/-- The buffer of `get_name` and `get_status_message`: zero-filled, one byte
longer than the value; `none` is `nullptr`. -/
def queryBuffer (q : FriendQuery) (value : Bytes) : Option Bytes :=
  match q with
  | .sizeFails => none
  | .getFails => some (List.replicate (value.length + 1) 0)
  | .ok => some (value ++ List.replicate 1 0)

/-- `Assisant::get_name`. -/
def getName (tox : Tox) (pk : Pk) (ans : Answers) : Option Bytes :=
  queryBuffer ans.nameQuery (tox.name pk)

/-- `Assisant::get_status_message`. -/
def getStatusMessage (tox : Tox) (pk : Pk) (ans : Answers) : Option Bytes :=
  queryBuffer ans.statusMessageQuery (tox.statusMessage pk)

end FindFriendBot
