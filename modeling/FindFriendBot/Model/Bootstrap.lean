import FindFriendBot.Lib.Json
import FindFriendBot.Model.Avatar
import FindFriendBot.Model.Util

/-!
# FindFriendBot — `Bot::bootstrap`

`bootstrap` reads the nodes file, parses it and calls `tox_bootstrap` for every
entry of the array "nodes". The parser of rapidjson is a parameter. `none` is
undefined behaviour: an accessor used on a missing value or on one of another
type, or a byte read that nothing was written to or that lies behind the buffer.
What `tox_bootstrap` returns is logged only, so its calls are all there is to see.
-/

namespace FindFriendBot

/-- rapidjson: the value of a text, or none if the text is not JSON. -/
structure RapidJson where
  parse : Bytes → Option Json.Value

/-- What follows an object in a text is blank, or the text is not JSON. -/
structure RapidJson.Documented (json : RapidJson) : Prop where
  after_object : ∀ text more members value, json.parse text = some (.object members) →
    json.parse (text ++ more) = some value → value = .object members

/-- `Document::Parse`; the document of a text that is not JSON is null. -/
def RapidJson.document (json : RapidJson) (text : Bytes) : Json.Value :=
  (json.parse text).getD .null

/-- `tox_bootstrap`. -/
structure ToxBootstrap where
  host : Bytes
  port : Nat
  publicKey : PublicKey
  deriving DecidableEq

/-- `key_bin` after `memset`. -/
def PublicKey.zero : PublicKey where
  bin := List.replicate toxPublicKeySize 0
  length_eq := List.length_replicate

namespace Bot

/-- One turn of the loop. -/
def bootstrapNode (sodium : Sodium) (toxNode : Json.Value) : Option ToxBootstrap :=
  match (toxNode.member? (bytes "ipv4")).bind Json.Value.string? with
  | none => none
  | some ipv4 =>
    match (toxNode.member? (bytes "public_key")).bind Json.Value.string? with
    | none => none
    | some publicKey =>
      match (toxNode.member? (bytes "port")).bind Json.Value.int32? with
      | none => none
      | some n =>
        -- the strings are built from a char*, and the port is a uint32_t
        let publicKey := cStr publicKey
        let port := (n % 2 ^ 32).toNat
        -- the result of sodium_hex2bin is not looked at
        let keyBin := PublicKey.zero.overwrite (sodium.hex2bin toxPublicKeySize publicKey)
        some { host := cStr ipv4, port := port % 2 ^ 16, publicKey := keyBin }

/-- The loop over the entries. -/
def bootstrapNodes (sodium : Sodium) : List Json.Value → Option (List ToxBootstrap)
  | [] => some []
  | toxNode :: rest =>
    match bootstrapNode sodium toxNode with
    | none => none
    | some call => (bootstrapNodes sodium rest).map (call :: ·)

/-- `Bot::bootstrap`: the calls of `tox_bootstrap` in their order. -/
def bootstrap (json : RapidJson) (sodium : Sodium) (io : FileIo) : Option (List ToxBootstrap) :=
  match Assisant.getData io 0 with
  | (none, _) => some []
  | (some buffer, bufSize) =>
    match jsonBuf buffer bufSize with
    | none => none
    | some jsonBuf =>
      match ((json.document jsonBuf).member? (bytes "nodes")).bind Json.Value.elements? with
      | none => none
      | some toxNodes => bootstrapNodes sodium toxNodes

end Bot

end FindFriendBot
