import FindFriendBot.Model.Bot

/-!
# FindFriendBot — the reference bot

What the bot is meant to keep: a map from public keys to profile values, with
no pointers, no pool and no object that outlives its entry. `add_member` keeps
an existing entry, `del_member` erases it and the setters replace a field of
the stored value. The SQL side and the texts are the bot's own; a reference
step is always defined. `Registry/Simulation.lean` shows that the bot refines it.
-/

namespace FindFriendBot

/-- The text of an accepted `desc_get` template. -/
def Env.getText (env : Env) (m : Member) : Bytes :=
  (env.format env.conf.descGet [m.nickName, m.bio, m.signature, m.tokId]).get
    (env.get_accepted _ _ _ _)

/-- The text of an accepted `desc_info` template. -/
def Env.infoText (env : Env) (nickName bio signature : Bytes) : Bytes :=
  (env.format env.conf.descInfo [nickName, bio, signature]).get (env.info_accepted _ _ _)

theorem Env.format_get (env : Env) (m : Member) :
    env.format env.conf.descGet [m.nickName, m.bio, m.signature, m.tokId] =
      some (env.getText m) :=
  (Option.some_get _).symm

theorem Env.format_info (env : Env) (nickName bio signature : Bytes) :
    env.format env.conf.descInfo [nickName, bio, signature] =
      some (env.infoText nickName bio signature) :=
  (Option.some_get _).symm

namespace Reference

/-- The reference state: profile values by public key. -/
structure State (σ : Type) where
  registry : Std.ExtTreeMap Bytes Member
  db : σ
  tox : Tox

/-- `random_member` on values. -/
def randomMember (registry : Std.ExtTreeMap Bytes Member) (pk : Bytes) (rand : Nat) :
    Option Member :=
  ((registry.erase pk).toList[rand % (registry.erase pk).size]?).map Prod.snd

variable {σ : Type} (D : Driver σ) (env : Env)

/-- `find_friend` on values. -/
def findFriend (pk : Bytes) (db : σ) : Option Member × σ :=
  match MemberModel.selectRow D pk db with
  | (none, db) => (none, db)
  | (some row, db) =>
    let (m, db) := MemberModel.fillMember D (MemberModel.columnSetters row) Member.new db
    (some m, db)

/-- The value `cmd_start` registers. -/
def startMember (pk : Pk) (tokId name statusMessage : Bytes) : Member :=
  Assisant.startSetters pk tokId name statusMessage Member.new

/-- `add_member` of the member an event built, if it built one. -/
def register (registry : Std.ExtTreeMap Bytes Member) : Option Member →
    Std.ExtTreeMap Bytes Member
  | none => registry
  | some m => registry.insertIfNew m.pk m

def friendConnectionStatusCb (s : State σ) (pk : Pk) (status : ToxConnection) : State σ :=
  if status ≠ .none then
    let (m, db) := findFriend D pk.hex s.db
    { s with registry := register s.registry m, db := db }
  else { s with registry := s.registry.erase pk.hex }

def friendNameCb (s : State σ) (pk : Pk) (name : Bytes) (ans : Answers) : State σ :=
  { s with
    registry := s.registry.modify pk.hex (Member.setNickName (cStr name))
    db := (MemberModel.updateFriendName D pk.hex (cStr name) ans.time s.db).2 }

def friendStatusMessageCb (s : State σ) (pk : Pk) (message : Bytes) (ans : Answers) : State σ :=
  { s with
    registry := s.registry.modify pk.hex (Member.setBio (cStr message))
    db := (MemberModel.updateFriendBio D pk.hex (cStr message) ans.time s.db).2 }

def cmdStart (s : State σ) (pk : Pk) (ans : Answers) (tokId msgRes : Bytes) :
    State σ × Bytes × Bool :=
  if tokId = [] then (s, env.conf.descStartNonTok, true)
  else
    match getName s.tox pk ans, getStatusMessage s.tox pk ans with
    | some name, some statusMessage =>
      ({ s with
          registry := register s.registry (some (startMember pk tokId name statusMessage))
          db := (MemberModel.addFriend D tokId pk.hex (cStr name) (cStr statusMessage)
            ans.time ans.time s.db).2 },
        -- add_friend's return value is not looked at
        env.conf.descStart, true)
    | _, _ => (s, msgRes, false)

def cmdStop (s : State σ) (pk : Pk) : State σ × Bytes × Bool :=
  let (ret, db) := MemberModel.delFriend D pk.hex s.db
  ({ s with registry := s.registry.erase pk.hex, db := db }, env.conf.descStop, ret != 0)

def cmdSet (s : State σ) (pk : Pk) (ans : Answers) (signature : Bytes) :
    State σ × Bytes × Bool :=
  if signature = [] then (s, env.conf.descSetNonTok, true)
  else
    let (ret, db) := MemberModel.updateFriendSignature D pk.hex signature ans.time s.db
    ({ s with registry := s.registry.modify pk.hex (Member.setSignature signature), db := db },
      env.conf.descSet, ret != 0)

def cmdGet (s : State σ) (pk : Pk) (ans : Answers) : State σ × Bytes × Bool :=
  match randomMember s.registry pk.hex ans.rand with
  | none => (s, env.conf.descGetNone, true)
  | some m => (s, env.getText m, true)

def cmdInfo (s : State σ) (pk : Pk) (ans : Answers) (msgRes : Bytes) : State σ × Bytes × Bool :=
  match s.registry[pk.hex]? with
  | some m => (s, env.infoText m.nickName m.bio m.signature, true)
  | none =>
    match getName s.tox pk ans, getStatusMessage s.tox pk ans with
    | some name, some statusMessage =>
      (s, env.infoText (cStr name) (cStr statusMessage) [], true)
    | _, _ => (s, msgRes, true)

def runCmd (s : State σ) (pk : Pk) (ans : Answers) (cmd : Command) (param : Bytes) :
    State σ × Bytes × Bool :=
  let msgRes := env.conf.descUnknownCmd
  match cmd with
  | .start => cmdStart D env s pk ans param msgRes
  | .stop => cmdStop D env s pk
  | .set => cmdSet D env s pk ans param
  | .get => cmdGet env s pk ans
  | .info => cmdInfo env s pk ans msgRes
  | .help => (s, env.conf.descHelp, true)
  | .readme => (s, env.conf.descReadme, true)
  | .unknown => (s, msgRes, true)

def friendMessageCb (s : State σ) (pk : Pk) (msg : Message) (ans : Answers) :
    State σ × Option Bytes :=
  match msg.dispatch with
  | none => (s, none)
  | some (cmd, param) =>
    let (s, msgRes, ret) := runCmd D env s pk ans cmd param
    (s, if ret then some (expandNewlines msgRes) else none)

def handle (s : State σ) (e : Event) (ans : Answers) : State σ × Option Bytes :=
  match e with
  | .connectionStatus pk status => (friendConnectionStatusCb D s pk status, none)
  | .message pk msg => friendMessageCb D env s pk msg ans
  | .name pk name => (friendNameCb D s pk name ans, none)
  | .statusMessage pk message => (friendStatusMessageCb D s pk message ans, none)
  | .restart => ({ s with registry := ∅ }, none)

/-- One event of the reference bot. -/
def step (s : State σ) (i : Input) : State σ × Output :=
  let (s', reply) := handle D env { s with db := D.begin i.2.sql s.db } i.1 i.2
  ({ s' with tox := s'.tox.apply i.1 },
    { reply := reply, onlineMemberNum := s'.registry.size % 2 ^ 32 })

/-- The reference bot over the driver `D`. -/
def machine : StepMachine (State σ) Input Output where
  step := fun s i => some (step D env s i)

/-- Only `/start`, `/stop` and `/set` change anything. -/
theorem runCmd_state (s : State σ) (pk : Pk) (ans : Answers) {cmd : Command} (param : Bytes)
    (hcmd : cmd ∉ [Command.start, Command.stop, Command.set]) :
    (runCmd D env s pk ans cmd param).1 = s := by
  cases cmd with
  | start => exact absurd hcmd (by decide)
  | stop => exact absurd hcmd (by decide)
  | set => exact absurd hcmd (by decide)
  | get =>
    show (cmdGet env s pk ans).1 = _
    unfold cmdGet
    split <;> rfl
  | info =>
    show (cmdInfo env s pk ans env.conf.descUnknownCmd).1 = _
    unfold cmdInfo
    split
    · rfl
    · split <;> rfl
  | help => rfl
  | readme => rfl
  | unknown => rfl

theorem runCmd_tox (s : State σ) (pk : Pk) (ans : Answers) (cmd : Command) (param : Bytes) :
    (runCmd D env s pk ans cmd param).1.tox = s.tox := by
  by_cases hcmd : cmd ∉ [Command.start, Command.stop, Command.set]
  · rw [runCmd_state D env s pk ans param hcmd]
  · simp only [List.mem_cons, List.not_mem_nil, or_false, not_not] at hcmd
    rcases hcmd with rfl | rfl | rfl
    · show (cmdStart D env s pk ans param env.conf.descUnknownCmd).1.tox = _
      unfold cmdStart
      split
      · rfl
      · split <;> rfl
    · rfl
    · show (cmdSet D env s pk ans param).1.tox = _
      unfold cmdSet
      split <;> rfl

theorem handle_tox (s : State σ) (e : Event) (ans : Answers) :
    (handle D env s e ans).1.tox = s.tox := by
  cases e with
  | connectionStatus pk status =>
    show (friendConnectionStatusCb D s pk status).tox = _
    unfold friendConnectionStatusCb
    split <;> rfl
  | message pk msg =>
    obtain ⟨cmd, param, hdisp⟩ := msg.dispatch_isSome
    simp only [handle, friendMessageCb, hdisp]
    exact runCmd_tox D env s pk ans cmd param
  | name pk name => rfl
  | statusMessage pk message => rfl
  | restart => rfl

/-- Only the event itself changes what toxcore knows. -/
theorem step_tox (s : State σ) (i : Input) :
    (step D env s i).1.tox = s.tox.apply i.1 := by
  show Tox.apply (handle D env _ i.1 i.2).1.tox i.1 = _
  rw [handle_tox]

/-- A fresh reference bot over the database `db`. -/
def init (db : σ) (tox : Tox) : State σ where
  registry := ∅
  db := db
  tox := tox

end Reference

end FindFriendBot
