import FindFriendBot.Model.Bot

/-!
# FindFriendBot — the buffers of the friend queries

`get_name` and `get_status_message` return a buffer that comes from `malloc`, and
`cmd_start` and `cmd_info` read it as a C string and free it. The two commands again,
with these buffers on a heap. `none` is undefined behaviour: a null or dangling
pointer, or a byte behind the end of a buffer. `cmd_start` also streams both into
records at level debug, before it looks whether they are null; the other log lines
read no buffer and are left out. `malloc` is taken to succeed.
-/

namespace FindFriendBot

/-- What `malloc` returned. -/
abbrev Buffers := ObjectHeap Bytes

namespace Buffers

/-- `malloc(size)`, and `memset` to zero. -/
def zeroed (size : Nat) (heap : Buffers) : Nat × Buffers := heap.new (List.replicate size 0)

/-- toxcore writes a value to the front of a buffer. -/
def write (p : Ptr) (value : Bytes) (heap : Buffers) : Option Buffers :=
  match heap.deref p with
  | none => none
  | some buffer =>
    if value.length ≤ buffer.length then
      heap.update p fun buffer => value ++ buffer.drop value.length
    else none

/-- What is read through a `char*`. -/
def cString (p : Ptr) (heap : Buffers) : Option Bytes :=
  match heap.deref p with
  | none => none
  | some buffer => if 0 ∈ buffer then some (cStr buffer) else none

/-- `GLOBAL_LOGGER(debug) << (char*)p`: what is streamed is read if the filter of the log lets
the record pass. -/
def logDebug (debug : Bool) (p : Ptr) (heap : Buffers) : Option Unit :=
  if debug then (cString p heap).map fun _ => () else some ()

/-- `free`. -/
def free (p : Ptr) (heap : Buffers) : Option Buffers :=
  match p with
  | none => some heap
  | some a => heap.delete a

/-- `get_name` and `get_status_message`, given what the two queries of each answer. -/
def query (q : FriendQuery) (value : Bytes) (heap : Buffers) : Option (Ptr × Buffers) :=
  match q with
  | .sizeFails => some (none, heap)
  | .getFails =>
    let (name, heap) := zeroed (value.length + 1) heap
    some (some name, heap)
  | .ok =>
    let (name, heap) := zeroed (value.length + 1) heap
    match write (some name) value heap with
    | none => none
    | some heap => some (some name, heap)

/-- `Assisant::get_name`. -/
def getName (tox : Tox) (pk : Pk) (ans : Answers) (heap : Buffers) : Option (Ptr × Buffers) :=
  query ans.nameQuery (tox.name pk) heap

/-- `Assisant::get_status_message`. -/
def getStatusMessage (tox : Tox) (pk : Pk) (ans : Answers) (heap : Buffers) :
    Option (Ptr × Buffers) :=
  query ans.statusMessageQuery (tox.statusMessage pk) heap

/-- The two frees at the end of a command. -/
def freeBoth (name statusMessage : Ptr) (heap : Buffers) : Option Buffers :=
  match free name heap with
  | none => none
  | some heap => free statusMessage heap

variable {σ : Type} (D : Driver σ) (env : Env) (debug : Bool)

/-- `Assisant::cmd_start`. -/
def cmdStart (s : State σ) (pk : Pk) (ans : Answers) (tokId msgRes : Bytes) (heap : Buffers) :
    Option (State σ × Buffers × Bytes × Bool) :=
  if tokId = [] then some (s, heap, env.conf.descStartNonTok, true)
  else
    match getName s.tox pk ans heap with
    | none => none
    | some (name, heap) =>
      match logDebug debug name heap with
      | none => none
      | some _ =>
        match getStatusMessage s.tox pk ans heap with
        | none => none
        | some (statusMessage, heap) =>
          match logDebug debug statusMessage heap with
          | none => none
          | some _ =>
            if name = none ∨ statusMessage = none then some (s, heap, msgRes, false)
            else
              match cString name heap, cString statusMessage heap with
              | some nick, some bio =>
                let (_, db) := MemberModel.addFriend D tokId pk.hex nick bio ans.time ans.time s.db
                match s.memberMgr.allocate with
                | none => none
                | some (none, _) => none
                | some (some a, mgr) =>
                  match mgr.update (some a) fun m =>
                      (((m.setPk pk.hex).setTokId tokId).setNickName nick).setBio bio with
                  | none => none
                  | some mgr =>
                    match mgr.addMember (some a) with
                    | none => none
                    | some mgr =>
                      match freeBoth name statusMessage heap with
                      | none => none
                      | some heap =>
                        some ({ s with memberMgr := mgr, db := db }, heap, env.conf.descStart,
                          true)
              | _, _ => none

/-- `Assisant::cmd_info`. -/
def cmdInfo (s : State σ) (pk : Pk) (ans : Answers) (msgRes : Bytes) (heap : Buffers) :
    Option (State σ × Buffers × Bytes × Bool) :=
  match s.memberMgr.findMember pk.hex with
  | some a =>
    match s.memberMgr.heap.deref (some a) with
    | none => none
    | some m =>
      match env.format env.conf.descInfo [m.nickName, m.bio, m.signature] with
      | none => none
      | some text => some (s, heap, text, true)
  | none =>
    match getName s.tox pk ans heap with
    | none => none
    | some (name, heap) =>
      match getStatusMessage s.tox pk ans heap with
      | none => none
      | some (statusMessage, heap) =>
        if name = none ∨ statusMessage = none then some (s, heap, msgRes, true)
        else
          match cString name heap, cString statusMessage heap with
          | some nick, some bio =>
            match env.format env.conf.descInfo [nick, bio, []] with
            | none => none
            | some text =>
              match freeBoth name statusMessage heap with
              | none => none
              | some heap => some (s, heap, text, true)
          | _, _ => none

/-- The branch of `process_cmd` for one command; the others make no query. -/
def runCmd (s : State σ) (pk : Pk) (ans : Answers) (cmd : Command) (param : Bytes)
    (heap : Buffers) : Option (State σ × Buffers × Bytes × Bool) :=
  let msgRes := env.conf.descUnknownCmd
  match cmd with
  | .start => cmdStart D env debug s pk ans param msgRes heap
  | .info => cmdInfo env s pk ans msgRes heap
  | _ => (Assisant.runCmd D env s pk ans cmd param).map fun r => (r.1, heap, r.2)

/-- `Assisant::friend_message_cb` with `process_cmd`. -/
def friendMessageCb (s : State σ) (pk : Pk) (msg : Message) (ans : Answers) (heap : Buffers) :
    Option (State σ × Buffers × Option Bytes) :=
  match msg.dispatch with
  | none => none
  | some (cmd, param) =>
    match runCmd D env debug s pk ans cmd param heap with
    | none => none
    | some (s, heap, msgRes, ret) =>
      some (s, heap, if ret then some (expandNewlines msgRes) else none)

/-- The callback an event runs; a new process has nothing on its heap. -/
def handle (s : State σ) (e : Event) (ans : Answers) (heap : Buffers) :
    Option (State σ × Buffers × Option Bytes) :=
  match e with
  | .message pk msg => friendMessageCb D env debug s pk msg ans heap
  | .restart => (Bot.handle D env s .restart ans).map fun r => (r.1, ObjectHeap.empty, r.2)
  | e => (Bot.handle D env s e ans).map fun r => (r.1, heap, r.2)

/-- One event, as `Bot.step` has it. -/
def step (s : State σ × Buffers) (i : Input) : Option ((State σ × Buffers) × Output) :=
  match handle D env debug { s.1 with db := D.begin i.2.sql s.1.db } i.1 i.2 s.2 with
  | none => none
  | some (s', heap, reply) =>
    some (({ s' with tox := s'.tox.apply i.1 }, heap),
      { reply := reply, onlineMemberNum := s'.memberMgr.onlineMemberNum })

/-- The bot with its buffers. -/
def machine : StepMachine (State σ × Buffers) Input Output where
  step := step D env debug

end Buffers

end FindFriendBot
