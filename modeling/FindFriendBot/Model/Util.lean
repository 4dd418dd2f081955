import FindFriendBot.Lib.Hex
import FindFriendBot.Model.Tox

/-!
# FindFriendBot — `Util`

The two functions that go between friend numbers and the strings the bot files
its friends under. libsodium is a parameter with its documentation as a
hypothesis; toxcore's friend list is the list of public keys by friend number.
Both functions work on a local array that the call before may have left as it
was, so its old contents are an argument.
-/

namespace FindFriendBot

/-- `TOX_PUBLIC_KEY_SIZE`. -/
def toxPublicKeySize : Nat := 32

/-- The bytes of a public key. -/
structure PublicKey where
  bin : Bytes
  length_eq : bin.length = toxPublicKeySize
  deriving DecidableEq

/-- The array after a call that wrote these bytes to its front. -/
def PublicKey.overwrite (key : PublicKey) (written : Bytes) : PublicKey where
  bin := (written ++ key.bin.drop written.length).take toxPublicKeySize
  length_eq := by
    have hlen := key.length_eq
    rw [List.length_take, List.length_append, List.length_drop]
    omega

/-- The two functions of libsodium: the text of some bytes, and the bytes that are
written, at most `bin_maxlen` of them, for a text. -/
structure Sodium where
  bin2hex : Bytes → Bytes
  hex2bin : Nat → Bytes → Bytes

/-- What their documentation says of bytes that fit and of texts of digits. -/
structure Sodium.Documented (sodium : Sodium) : Prop where
  bin2hex_eq : ∀ bin, sodium.bin2hex bin = Hex.encode bin
  hex2bin_eq : ∀ maxlen hex bin, Hex.decode hex = some bin → bin.length ≤ maxlen →
    sodium.hex2bin maxlen hex = bin

/-- toxcore's friend list: the key of each friend number, `none` for a friend who was
deleted. -/
structure FriendList where
  keys : List (Option PublicKey)
  distinct : ∀ (i j : Nat) key, keys[i]? = some (some key) → keys[j]? = some (some key) → i = j

namespace FriendList

/-- `tox_friend_get_public_key`. -/
def publicKey (friends : FriendList) (friendNumber : Nat) : Option PublicKey :=
  friends.keys[friendNumber]?.join

/-- `tox_friend_by_public_key`. -/
def byPublicKey (friends : FriendList) (key : PublicKey) : Option Nat :=
  friends.keys.findIdx? (· == some key)

end FriendList

namespace Util

variable (sodium : Sodium) (friends : FriendList)

/-- `Util::get_pk_by_id`. -/
def getPkById (fromPk : PublicKey) (friendId : Nat) : Bytes :=
  let fromPk := (friends.publicKey friendId).getD fromPk
  let fromPkHex := sodium.bin2hex fromPk.bin
  toUpper (fromPkHex.take (toxPublicKeySize * 2))

/-- `Util::get_id_by_pk`; the `uint32_t` becomes an `int`. -/
def getIdByPk (bin : PublicKey) (pk : Bytes) : Int :=
  let bin := bin.overwrite (sodium.hex2bin toxPublicKeySize pk)
  match friends.byPublicKey bin with
  | none => -1
  | some id => Int.bmod id (2 ^ 32)

end Util

end FindFriendBot
