import FindFriendBot.Model.Avatar
import FindFriendBot.Model.Bot
import FindFriendBot.Model.Savedata
import FindFriendBot.Model.Session
import FindFriendBot.Model.Welcome
import FindFriendBot.Registry.Keys

/-!
# FindFriendBot — one process

`main` registers eight callbacks and hands the control to `tox_iterate`. This is all
of what they share, from the first callback to the last: the connections and the
registry of `Session`, the avatar, the welcome timers, the savedata file and
toxcore's friend list. toxcore names a friend by a number, and the callbacks look
the key up. Each of them is written here with everything it does; what a part of it
computes is in the module of that part. `none` is undefined behaviour, a lock that
is never obtained, or an exception that leaves the callback. `malloc` may fail where
a file or a chunk is allocated; the buffers of a retry, of the queries and of the
savedata, and what `new` makes, are taken to be there. The two callbacks for
incoming files only log, and are left out as log lines are.
-/

namespace FindFriendBot

-- ---------------------------------------------------------------------------
-- toxcore
-- ---------------------------------------------------------------------------

namespace FriendList

/-- Nobody is a friend yet. -/
def empty : FriendList where
  keys := []
  distinct := fun _ _ _ h => absurd h (by simp)

/-- Nobody has this key. -/
def Unknown (friends : FriendList) (key : PublicKey) : Prop := some key ∉ friends.keys

instance (friends : FriendList) (key : PublicKey) : Decidable (friends.Unknown key) :=
  inferInstanceAs (Decidable (_ ∉ _))

/-- A new friend fills the first gap in the friend numbers, or gets the next one. -/
def insertKey (keys : List (Option PublicKey)) (key : PublicKey) : List (Option PublicKey) :=
  match keys with
  | [] => [some key]
  | none :: rest => some key :: rest
  | some old :: rest => some old :: insertKey rest key

theorem get_insertKey (keys : List (Option PublicKey)) (key : PublicKey) :
    ∃ i : Nat, (insertKey keys key)[i]? = some (some key) ∧ (∀ old, keys[i]? ≠ some (some old)) ∧
      ∀ j old, j ≠ i → ((insertKey keys key)[j]? = some (some old) ↔
        keys[j]? = some (some old)) := by
  induction keys with
  | nil =>
    refine ⟨0, rfl, fun old => by simp, fun j old hj => ?_⟩
    obtain ⟨j, rfl⟩ := Nat.exists_eq_succ_of_ne_zero hj
    simp [insertKey]
  | cons head rest ih =>
    cases head with
    | none =>
      refine ⟨0, rfl, fun old => by simp, fun j old hj => ?_⟩
      obtain ⟨j, rfl⟩ := Nat.exists_eq_succ_of_ne_zero hj
      simp [insertKey]
    | some old =>
      obtain ⟨i, hi, hgap, hothers⟩ := ih
      refine ⟨i + 1, by simpa [insertKey] using hi, by simpa using hgap, fun j old' hj => ?_⟩
      cases j with
      | zero => simp [insertKey]
      | succ j => simpa [insertKey] using hothers j old' (by omega)

/-- `tox_friend_add_norequest`: a friend is not added again, and adding may fail. -/
def addNorequest (friends : FriendList) (key : PublicKey) (added : Bool) : FriendList :=
  if h : added = true ∧ friends.Unknown key then
    { keys := insertKey friends.keys key
      distinct := by
        obtain ⟨i, hi, -, hothers⟩ := get_insertKey friends.keys key
        have hnew : ∀ j, j ≠ i → (insertKey friends.keys key)[j]? ≠ some (some key) :=
          fun j hj hget => h.2 (List.mem_of_getElem? ((hothers j key hj).mp hget))
        intro j k old hj hk
        by_cases hji : j = i
        · obtain rfl : old = key := by
            rw [hji, hi] at hj
            exact (Option.some.inj (Option.some.inj hj)).symm
          by_contra hne
          exact hnew k (fun hki => hne (hji.trans hki.symm)) hk
        · by_cases hki : k = i
          · obtain rfl : old = key := by
              rw [hki, hi] at hk
              exact (Option.some.inj (Option.some.inj hk)).symm
            exact absurd hj (hnew j hji)
          · exact friends.distinct j k old ((hothers j old hji).mp hj)
              ((hothers k old hki).mp hk) }
  else friends

/-- The key in the array of `get_pk_by_id`, which held `fromPk` before, as the bot spells it. -/
def pkById (friends : FriendList) (fromPk : PublicKey) (friendNumber : Nat) : Pk :=
  ((friends.publicKey friendNumber).getD fromPk).pk

/-- `get_pk_by_id` returns it. -/
theorem getPkById_eq {sodium : Sodium} (h : sodium.Documented) (friends : FriendList)
    (fromPk : PublicKey) (friendNumber : Nat) :
    Util.getPkById sodium friends fromPk friendNumber =
      (friends.pkById fromPk friendNumber).hex := by
  have hlen : ∀ key : PublicKey,
      (sodium.bin2hex key.bin).take (toxPublicKeySize * 2) = Hex.encode key.bin := by
    intro key
    rw [h.bin2hex_eq, List.take_of_length_le]
    rw [Hex.length_encode, key.length_eq, Nat.mul_comm]
  exact congrArg toUpper (hlen _)

end FriendList

-- ---------------------------------------------------------------------------
-- The process
-- ---------------------------------------------------------------------------

/-- What the callbacks share. -/
structure Process (σ : Type) where
  session : Session σ
  avatar : Avatar
  welcome : Welcome.State
  friends : FriendList
  tox : Tox
  files : FileSystem

namespace Process

/-- What is configured. -/
structure Config where
  env : Env
  paths : SavePaths
  maxConn : Nat

/-- What the calls made during one callback answer: those of `Answers`, those on database
connections, `tox_friend_add_norequest`, `tox_get_savedata` and the calls that save it,
`tox_friend_send_message` for the welcome, and those of `get_data` and of a chunk;
`fromPk` is what the array of `get_pk_by_id` held. -/
structure Outcomes where
  answers : Answers
  conn : ConnFaults
  added : Bool
  savedata : Bytes
  save : SaveFaults
  sent : Bool
  io : FileIo
  malloc : Bool
  fromPk : PublicKey

/-- A callback about a friend whose key it looks up. -/
inductive FriendEvent
  | connectionStatus (status : ToxConnection)
  | message (msg : Message)
  | name (name : Bytes)
  | statusMessage (message : Bytes)

/-- The event of the bot. -/
def FriendEvent.toEvent (pk : Pk) : FriendEvent → FindFriendBot.Event
  | .connectionStatus status => .connectionStatus pk status
  | .message msg => .message pk msg
  | .name nick => .name pk nick
  | .statusMessage text => .statusMessage pk text

/-- A callback. -/
inductive Event
  | friend (friendNumber : Nat) (e : FriendEvent)
  | friendRequest (publicKey : PublicKey)
  | fileChunkRequest (friendNumber fileNumber : Nat) (position length : UInt64)
  | timeout (position : Nat)

/-- What a callback shows: the bot's output, what was sent of the avatar, the sends of the
welcome, and the file system after each call of an update of the savedata. -/
structure Output where
  bot : Option FindFriendBot.Output
  avatar : Option Avatar.Sent
  welcome : List Attempt
  saves : List FileSystem

variable {σ : Type} (D : Driver σ)

-- ---------------------------------------------------------------------------
-- The handlers, with their resources
-- ---------------------------------------------------------------------------

/-- An exception that leaves an operation leaves the callback, too. -/
def unlessThrown {α : Type} : Option (Session.Outcome σ α) → Option (α × Session σ)
  | some (.ok r) => some r
  | some (.error _) => none
  | none => none

/-- `Assisant::tox_friend_connection_status_callback` but for the avatar. -/
def friendConnectionStatusCb (s : Session σ) (pk : Pk) (status : ToxConnection)
    (faults : ConnFaults) : Option (Session σ) :=
  if status ≠ .none then
    match unlessThrown (Session.findFriend D pk.hex faults s) with
    | none => none
    | some (none, s) => some s
    | some (some a, s) =>
      match s.memberMgr.addMember (some a) with
      | none => none
      | some mgr => some { s with memberMgr := mgr }
  else
    match s.memberMgr.delMember pk.hex with
    | none => none
    | some mgr => some { s with memberMgr := mgr }

/-- `Assisant::friend_name_cb` but for the savedata. -/
def friendNameCb (s : Session σ) (pk : Pk) (name : Bytes) (ans : Answers) (faults : ConnFaults) :
    Option (Session σ) :=
  let tmp := cStr name
  match unlessThrown (Session.updateFriendName D pk.hex tmp ans.time faults s) with
  | none => none
  | some (_, s) =>
    match Assisant.updateCache s.memberMgr pk.hex (Member.setNickName tmp) with
    | none => none
    | some mgr => some { s with memberMgr := mgr }

/-- `Assisant::friend_status_message_cb` but for the savedata. -/
def friendStatusMessageCb (s : Session σ) (pk : Pk) (message : Bytes) (ans : Answers)
    (faults : ConnFaults) : Option (Session σ) :=
  let statusMessage := cStr message
  match unlessThrown (Session.updateFriendBio D pk.hex statusMessage ans.time faults s) with
  | none => none
  | some (_, s) =>
    match Assisant.updateCache s.memberMgr pk.hex (Member.setBio statusMessage) with
    | none => none
    | some mgr => some { s with memberMgr := mgr }

variable (env : Env)

/-- `Assisant::cmd_start`. -/
def cmdStart (s : Session σ) (tox : Tox) (pk : Pk) (ans : Answers) (faults : ConnFaults)
    (tokId msgRes : Bytes) : Option (Session σ × Bytes × Bool) :=
  if tokId = [] then some (s, env.conf.descStartNonTok, true)
  else
    match getName tox pk ans, getStatusMessage tox pk ans with
    | some name, some statusMessage =>
      match unlessThrown (Session.addFriend D tokId pk.hex (cStr name) (cStr statusMessage)
          ans.time ans.time faults s) with
      | none => none
      | some (_, s) =>
        match s.memberMgr.allocate with
        | none => none
        | some (none, _) => none
        | some (some a, mgr) =>
          match mgr.update (some a) (Assisant.startSetters pk tokId name statusMessage) with
          | none => none
          | some mgr =>
            match mgr.addMember (some a) with
            | none => none
            | some mgr => some ({ s with memberMgr := mgr }, env.conf.descStart, true)
    | _, _ => some (s, msgRes, false)

/-- `Assisant::cmd_stop`. -/
def cmdStop (s : Session σ) (pk : Pk) (faults : ConnFaults) :
    Option (Session σ × Bytes × Bool) :=
  match s.memberMgr.delMember pk.hex with
  | none => none
  | some mgr =>
    match unlessThrown (Session.delFriend D pk.hex faults { s with memberMgr := mgr }) with
    | none => none
    | some (ret, s) => some (s, env.conf.descStop, ret != 0)

/-- `Assisant::cmd_set`. -/
def cmdSet (s : Session σ) (pk : Pk) (ans : Answers) (faults : ConnFaults) (signature : Bytes) :
    Option (Session σ × Bytes × Bool) :=
  if signature = [] then some (s, env.conf.descSetNonTok, true)
  else
    match Assisant.updateCache s.memberMgr pk.hex (Member.setSignature signature) with
    | none => none
    | some mgr =>
      match unlessThrown (Session.updateFriendSignature D pk.hex signature ans.time faults
          { s with memberMgr := mgr }) with
      | none => none
      | some (ret, s) => some (s, env.conf.descSet, ret != 0)

/-- The branch of `process_cmd` for one command; the others use no resources. -/
def runCmd (s : Session σ) (tox : Tox) (pk : Pk) (ans : Answers) (faults : ConnFaults)
    (cmd : Command) (param : Bytes) : Option (Session σ × Bytes × Bool) :=
  let msgRes := env.conf.descUnknownCmd
  let state : State σ := { memberMgr := s.memberMgr, db := s.db, tox := tox }
  match cmd with
  | .start => cmdStart D env s tox pk ans faults param msgRes
  | .stop => cmdStop D env s pk faults
  | .set => cmdSet D env s pk ans faults param
  | .get => (Assisant.cmdGet env state pk ans).map fun r => (s, r.2)
  | .info => (Assisant.cmdInfo env state pk ans msgRes).map fun r => (s, r.2)
  | .help => some (s, env.conf.descHelp, true)
  | .readme => some (s, env.conf.descReadme, true)
  | .unknown => some (s, msgRes, true)

/-- `Assisant::friend_message_cb` with `process_cmd`. -/
def friendMessageCb (s : Session σ) (tox : Tox) (pk : Pk) (msg : Message) (ans : Answers)
    (faults : ConnFaults) : Option (Session σ × Option Bytes) :=
  match msg.dispatch with
  | none => none
  | some (cmd, param) =>
    match runCmd D env s tox pk ans faults cmd param with
    | none => none
    | some (s, msgRes, ret) => some (s, if ret then some (expandNewlines msgRes) else none)

/-- What a callback about a friend does to the registry and the table, and its reply. -/
def handle (s : Session σ) (tox : Tox) (pk : Pk) (e : FriendEvent) (ans : Answers)
    (faults : ConnFaults) : Option (Session σ × Option Bytes) :=
  match e with
  | .connectionStatus status =>
    (friendConnectionStatusCb D s pk status faults).map fun s => (s, none)
  | .message msg => friendMessageCb D env s tox pk msg ans faults
  | .name name => (friendNameCb D s pk name ans faults).map fun s => (s, none)
  | .statusMessage message =>
    (friendStatusMessageCb D s pk message ans faults).map fun s => (s, none)

-- ---------------------------------------------------------------------------
-- The callbacks
-- ---------------------------------------------------------------------------

/-- What the callback does to the avatar. -/
def updateAvatar (a : Avatar) (friendNumber : Nat) (e : FriendEvent) (io : FileIo) :
    Avatar × Option AvatarOffer :=
  match e with
  | .connectionStatus status => Assisant.updateBotAvatar a friendNumber status io
  | _ => (a, none)

/-- The callback ends with `update_savedata_file`. -/
def FriendEvent.saves : FriendEvent → Bool
  | .name _ => true
  | .statusMessage _ => true
  | _ => false

variable (cfg : Config)

/-- `Assisant::update_savedata_file`: the files after it, and after each of its calls. -/
def updateSavedataFile (files : FileSystem) (out : Outcomes) :
    Option (FileSystem × List FileSystem) :=
  match Assisant.updateSavedataFile cfg.paths out.savedata out.save files with
  | none => none
  | some saves => some (saves.getLastD files, saves)

/-- A callback about a friend. -/
def friendCb (s : Process σ) (friendNumber : Nat) (e : FriendEvent) (out : Outcomes) :
    Option (Process σ × Output) :=
  let pk := s.friends.pkById out.fromPk friendNumber
  match handle D cfg.env { s.session with db := D.begin out.answers.sql s.session.db } s.tox pk e
      out.answers out.conn with
  | none => none
  | some (session, reply) =>
    let (avatar, offer) := updateAvatar s.avatar friendNumber e out.io
    match if e.saves then updateSavedataFile cfg s.files out else some (s.files, []) with
    | none => none
    | some (files, saves) =>
      some
        ({ s with
            session := session
            avatar := avatar
            files := files
            tox := s.tox.apply (e.toEvent pk) },
          { bot := some { reply := reply, onlineMemberNum := session.memberMgr.onlineMemberNum }
            avatar := offer.map .offer, welcome := [], saves := saves })

/-- What `tox_friend_by_public_key` returns for a key that is not in the list. -/
def uint32Max : Nat := 2 ^ 32 - 1

/-- `Assisant::friend_request_cb`. -/
def friendRequestCb (s : Process σ) (publicKey : PublicKey) (out : Outcomes) :
    Option (Process σ × Output) :=
  let friends := s.friends.addNorequest publicKey out.added
  match updateSavedataFile cfg s.files out with
  | none => none
  | some (files, saves) =>
    let friendNumber := (friends.byPublicKey publicKey).getD uint32Max
    let (welcome, attempt) := Welcome.friendRequestCb cfg.env.conf s.welcome friendNumber out.sent
    some ({ s with friends := friends, files := files, welcome := welcome },
      { bot := none, avatar := none, welcome := [attempt], saves := saves })

/-- `Assisant::file_chunk_request_cb`. -/
def fileChunkRequestCb (s : Process σ) (friendNumber fileNumber : Nat) (position length : UInt64)
    (out : Outcomes) : Option (Process σ × Output) :=
  match Assisant.fileChunkRequestCb s.avatar friendNumber fileNumber position length out.io
      out.malloc with
  | none => none
  | some (avatar, chunk) =>
    if ∀ c ∈ chunk, c.position.toNat + c.length.toNat ≤ avatar.size then
      some ({ s with avatar := avatar },
        { bot := none, avatar := chunk.map .chunk, welcome := [], saves := [] })
    else none -- memcpy reads past the buffer

/-- `Assisant::event_timeout_cb`, for the timer at a position of the list. -/
def timeoutCb (s : Process σ) (position : Nat) (out : Outcomes) :
    Option (Process σ × Output) :=
  match Welcome.step cfg.env.conf s.welcome (.timeout position, out.sent) with
  | none => none
  | some (welcome, attempts) =>
    some ({ s with welcome := welcome },
      { bot := none, avatar := none, welcome := attempts, saves := [] })

def step (s : Process σ) (i : Event × Outcomes) : Option (Process σ × Output) :=
  match i.1 with
  | .friend friendNumber e => friendCb D cfg s friendNumber e i.2
  | .friendRequest publicKey => friendRequestCb cfg s publicKey i.2
  | .fileChunkRequest friendNumber fileNumber position length =>
    fileChunkRequestCb s friendNumber fileNumber position length i.2
  | .timeout position => timeoutCb cfg s position i.2

/-- The callbacks of one process, in any order. -/
def machine : StepMachine (Process σ) (Event × Outcomes) Output where
  step := step D cfg

/-- The process when `main` gets to `tox_iterate`, with the friends that `tox_new` restored
and the file that `main` itself saved. -/
def init (db : σ) (friends : FriendList) (tox : Tox) (files : FileSystem) : Process σ where
  session := Session.init cfg.maxConn db
  avatar := Avatar.init
  welcome := Welcome.init
  friends := friends
  tox := tox
  files := files

end Process

end FindFriendBot
