import FindFriendBot.Model.Command
import FindFriendBot.Model.Conf
import FindFriendBot.Model.MemberModel

/-!
# FindFriendBot — the toxcore callbacks of `Assisant`

The callbacks that work on the registry and the table, and the command handlers
behind `friend_message_cb`. A handler returns the new state, `msg_res` and the
`bool` that decides whether `process_cmd` sends it; `none` is undefined
behaviour or an exception that leaves the callback. Log lines are left out,
with what they do to a null `name` in `cmd_start`, and so is the avatar transfer
of the connection callback and the file written by `update_savedata_file`:
neither reads or writes the state below.
-/

namespace FindFriendBot

/-- The state the callbacks share: the global `member_mgr`, the database and
toxcore. -/
structure State (σ : Type) where
  memberMgr : MemberMgr
  db : σ
  tox : Tox

namespace Assisant

variable {σ : Type} (D : Driver σ) (env : Env)

/-- `Assisant::tox_friend_connection_status_callback`. -/
def friendConnectionStatusCb (s : State σ) (pk : Pk) (status : ToxConnection) :
    Option (State σ) :=
  if status ≠ .none then
    match MemberModel.findFriend D pk.hex s.memberMgr s.db with
    | none => none
    | some (none, mgr, db) => some { s with memberMgr := mgr, db := db }
    | some (some a, mgr, db) =>
      match mgr.addMember (some a) with
      | none => none
      | some mgr => some { s with memberMgr := mgr, db := db }
  else
    match s.memberMgr.delMember pk.hex with
    | none => none
    | some mgr => some { s with memberMgr := mgr }

/-- `find_member`, and the setter if it found one. -/
def updateCache (mgr : MemberMgr) (pk : Bytes) (set : Member → Member) : Option MemberMgr :=
  match mgr.findMember pk with
  | none => some mgr
  | some a => mgr.update (some a) set

/-- `Assisant::friend_name_cb`; toxcore terminates the name with a NUL. -/
def friendNameCb (s : State σ) (pk : Pk) (name : Bytes) (ans : Answers) : Option (State σ) :=
  let tmp := cStr name
  let (_, db) := MemberModel.updateFriendName D pk.hex tmp ans.time s.db
  match updateCache s.memberMgr pk.hex (Member.setNickName tmp) with
  | none => none
  | some mgr => some { s with memberMgr := mgr, db := db }

/-- `Assisant::friend_status_message_cb`. -/
def friendStatusMessageCb (s : State σ) (pk : Pk) (message : Bytes) (ans : Answers) :
    Option (State σ) :=
  let statusMessage := cStr message
  let (_, db) := MemberModel.updateFriendBio D pk.hex statusMessage ans.time s.db
  match updateCache s.memberMgr pk.hex (Member.setBio statusMessage) with
  | none => none
  | some mgr => some { s with memberMgr := mgr, db := db }

/-- The setters of `cmd_start`, in its order. -/
def startSetters (pk : Pk) (tokId name statusMessage : Bytes) (m : Member) : Member :=
  (((m.setPk pk.hex).setTokId tokId).setNickName (cStr name)).setBio (cStr statusMessage)

/-- `Assisant::cmd_start`. -/
def cmdStart (s : State σ) (pk : Pk) (ans : Answers) (tokId msgRes : Bytes) :
    Option (State σ × Bytes × Bool) :=
  if tokId = [] then some (s, env.conf.descStartNonTok, true)
  else
    match getName s.tox pk ans, getStatusMessage s.tox pk ans with
    | some name, some statusMessage =>
      let (_, db) := MemberModel.addFriend D tokId pk.hex (cStr name) (cStr statusMessage)
        ans.time ans.time s.db
      match s.memberMgr.allocate with
      | none => none
      | some (none, _) => none
      | some (some a, mgr) =>
        match mgr.update (some a) (startSetters pk tokId name statusMessage) with
        | none => none
        | some mgr =>
          match mgr.addMember (some a) with
          | none => none
          | some mgr => some ({ s with memberMgr := mgr, db := db }, env.conf.descStart, true)
    | _, _ => some (s, msgRes, false)

/-- `Assisant::cmd_stop`. -/
def cmdStop (s : State σ) (pk : Pk) : Option (State σ × Bytes × Bool) :=
  match s.memberMgr.delMember pk.hex with
  | none => none
  | some mgr =>
    let (ret, db) := MemberModel.delFriend D pk.hex s.db
    some ({ s with memberMgr := mgr, db := db }, env.conf.descStop, ret != 0)

/-- `Assisant::cmd_set`. -/
def cmdSet (s : State σ) (pk : Pk) (ans : Answers) (signature : Bytes) :
    Option (State σ × Bytes × Bool) :=
  if signature = [] then some (s, env.conf.descSetNonTok, true)
  else
    match updateCache s.memberMgr pk.hex (Member.setSignature signature) with
    | none => none
    | some mgr =>
      let (ret, db) := MemberModel.updateFriendSignature D pk.hex signature ans.time s.db
      some ({ s with memberMgr := mgr, db := db }, env.conf.descSet, ret != 0)

/-- `Assisant::cmd_get`. -/
def cmdGet (s : State σ) (pk : Pk) (ans : Answers) : Option (State σ × Bytes × Bool) :=
  match s.memberMgr.randomMember pk.hex ans.rand with
  | none => some (s, env.conf.descGetNone, true)
  | some a =>
    match s.memberMgr.heap.deref (some a) with
    | none => none
    | some m =>
      match env.format env.conf.descGet [m.nickName, m.bio, m.signature, m.tokId] with
      | none => none
      | some text => some (s, text, true)

/-- `Assisant::cmd_info`. -/
def cmdInfo (s : State σ) (pk : Pk) (ans : Answers) (msgRes : Bytes) :
    Option (State σ × Bytes × Bool) :=
  match s.memberMgr.findMember pk.hex with
  | some a =>
    match s.memberMgr.heap.deref (some a) with
    | none => none
    | some m =>
      match env.format env.conf.descInfo [m.nickName, m.bio, m.signature] with
      | none => none
      | some text => some (s, text, true)
  | none =>
    match getName s.tox pk ans, getStatusMessage s.tox pk ans with
    | some name, some statusMessage =>
      match env.format env.conf.descInfo [cStr name, cStr statusMessage, []] with
      | none => none
      | some text => some (s, text, true)
    | _, _ => some (s, msgRes, true)

/-- The branch of `process_cmd` for one command. -/
def runCmd (s : State σ) (pk : Pk) (ans : Answers) (cmd : Command) (param : Bytes) :
    Option (State σ × Bytes × Bool) :=
  let msgRes := env.conf.descUnknownCmd
  match cmd with
  | .start => cmdStart D env s pk ans param msgRes
  | .stop => cmdStop D env s pk
  | .set => cmdSet D env s pk ans param
  | .get => cmdGet env s pk ans
  | .info => cmdInfo env s pk ans msgRes
  | .help => some (s, env.conf.descHelp, true)
  | .readme => some (s, env.conf.descReadme, true)
  | .unknown => some (s, msgRes, true)

/-- `Assisant::friend_message_cb` with `process_cmd`: the new state and the text
handed to `send_friend_message_req`, if it is called. -/
def friendMessageCb (s : State σ) (pk : Pk) (msg : Message) (ans : Answers) :
    Option (State σ × Option Bytes) :=
  match msg.dispatch with
  | none => none
  | some (cmd, param) =>
    match runCmd D env s pk ans cmd param with
    | none => none
    | some (s, msgRes, ret) => some (s, if ret then some (expandNewlines msgRes) else none)

end Assisant

end FindFriendBot
