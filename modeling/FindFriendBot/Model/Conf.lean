import FindFriendBot.Model.Bytes

/-!
# FindFriendBot — configured texts

`Conf` holds the reply texts of the `desc_*` keys that the command handlers
read. `Env` adds `boost::format`, which is not part of the repository: it stays
a function of the template and its arguments, and an `Env` can only be built
from templates it accepts with the number of arguments the handlers feed it
(four in `cmd_get`, three in `cmd_info`), since boost decides acceptance on the
template alone.
-/

namespace FindFriendBot

/-- The reply texts of `Conf`. -/
structure Conf where
  descStart : Bytes
  descStartNonTok : Bytes
  descStop : Bytes
  descReadme : Bytes
  descHelp : Bytes
  descSet : Bytes
  descSetNonTok : Bytes
  descGet : Bytes
  descInfo : Bytes
  descUnknownCmd : Bytes
  descGetNone : Bytes

/-- The configuration together with `boost::format(template) % args`, whose
`none` is a `boost::io::format_error`. -/
structure Env where
  conf : Conf
  format : Bytes → List Bytes → Option Bytes
  get_accepted : ∀ a b c d, (format conf.descGet [a, b, c, d]).isSome
  info_accepted : ∀ a b c, (format conf.descInfo [a, b, c]).isSome

/-- `boost::format` on templates whose directives are `%1%` to `%9%` and `%%`,
the only ones the shipped configuration uses. -/
def positionalFormat : Bytes → List Bytes → Option Bytes
  | [], _ => some []
  | 37 :: 37 :: rest, args => (positionalFormat rest args).map (37 :: ·)
  | 37 :: d :: 37 :: rest, args =>
    if 49 ≤ d ∧ d ≤ 57 then
      match args[d.toNat - 49]?, positionalFormat rest args with
      | some arg, some tail => some (arg ++ tail)
      | _, _ => none
    else none
  | c :: rest, args => if c = 37 then none else (positionalFormat rest args).map (c :: ·)

example : positionalFormat (bytes "a%2%%%%1%") [bytes "x", bytes "yz"] = some (bytes "ayz%x") := by
  decide

/-- A configuration after the shipped `config.ini`. -/
def Env.sample : Env where
  conf :=
    { descStart := bytes "FindFriendBot service has been turned on"
      descStartNonTok := bytes "Pls reply /start and your ToxID"
      descStop := bytes "Recommendation has been turned off."
      descReadme := bytes "FindFriendBot is open source!"
      descHelp := bytes "/help: Get a list of commands"
      descSet := bytes "Done! Type or click /get to find some friends."
      descSetNonTok := bytes "Pls reply /set and interested in"
      descGet := bytes "Nickname: %1%Bio: %2%Interested in: %3%TokID: %4%"
      descInfo := bytes "Nickname: %1%Bio: %2%What r u interested in: %3%"
      descUnknownCmd := bytes "Invalid command."
      descGetNone := bytes "No one wants to be added now,please try again later!" }
  format := positionalFormat
  get_accepted := fun _ _ _ _ => rfl
  info_accepted := fun _ _ _ => rfl

/-- `desc_get` of the shipped `config.ini`. -/
def Conf.shippedGet : Bytes :=
  bytes "Nickname: %1%\\nBio: %2%\\nInterested in: %3%.\\nTokID: %4%\\nClick Tok ID to add this " ++
    bytes "friend.\\n/get One more"

/-- `desc_info` of the shipped `config.ini`. -/
def Conf.shippedInfo : Bytes :=
  bytes "Nickname: %1%\\nBio: %2%\\nWhat r u interested in: %3%"

/-- The texts that `cmd_get` and `cmd_info` reply with are the shipped ones. -/
structure Conf.Shipped (conf : Conf) : Prop where
  get : conf.descGet = Conf.shippedGet
  info : conf.descInfo = Conf.shippedInfo
  getNone : conf.descGetNone = bytes "No one wants to be added now,please try again later!"
  unknownCmd : conf.descUnknownCmd =
    bytes "Invalid command. Click or type /help for a list of commands"

end FindFriendBot
