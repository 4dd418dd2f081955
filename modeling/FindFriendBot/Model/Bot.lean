import FindFriendBot.Lib.StepMachine
import FindFriendBot.Model.Assisant

/-!
# FindFriendBot — the bot as a machine

One event is one callback of toxcore's loop, or a restart of the process, which
loses the registry and every connection and keeps the table. An event comes
with the `Answers` given to the calls made while it is handled; its output is
the reply, if one is sent, and `online_member_num()` afterwards.
-/

namespace FindFriendBot

/-- The events of the bot's loop. -/
inductive Event
  | connectionStatus (pk : Pk) (status : ToxConnection)
  | message (pk : Pk) (msg : Message)
  | name (pk : Pk) (name : Bytes)
  | statusMessage (pk : Pk) (message : Bytes)
  | restart

/-- The friend an event is about. -/
def Event.pk? : Event → Option Pk
  | .connectionStatus pk _ => some pk
  | .message pk _ => some pk
  | .name pk _ => some pk
  | .statusMessage pk _ => some pk
  | .restart => none

theorem Event.eq_restart {e : Event} (h : e.pk? = none) : e = .restart := by
  cases e with
  | restart => rfl
  | _ => exact absurd h (by simp [Event.pk?])

/-- An event and what the calls made for it answer. -/
abbrev Input := Event × Answers

/-- What an event shows to the outside: the reply and the logged member count. -/
structure Output where
  reply : Option Bytes
  onlineMemberNum : Nat
  deriving DecidableEq

/-- What the event itself does to toxcore's state; a profile callback runs
before toxcore stores the announced value. -/
def Tox.apply (tox : Tox) : Event → Tox
  | .connectionStatus pk status =>
    if status ≠ .none then { tox with connected := insert pk tox.connected }
    else { tox with connected := tox.connected.erase pk }
  | .message _ _ => tox
  | .name pk name => { tox with name := Function.update tox.name pk name }
  | .statusMessage pk message =>
    { tox with statusMessage := Function.update tox.statusMessage pk message }
  | .restart => { tox with connected := ∅ }

namespace Bot

variable {σ : Type} (D : Driver σ) (env : Env)

/-- The callback an event runs. -/
def handle (s : State σ) (e : Event) (ans : Answers) : Option (State σ × Option Bytes) :=
  match e with
  | .connectionStatus pk status =>
    (Assisant.friendConnectionStatusCb D s pk status).map fun s => (s, none)
  | .message pk msg => Assisant.friendMessageCb D env s pk msg ans
  | .name pk name => (Assisant.friendNameCb D s pk name ans).map fun s => (s, none)
  | .statusMessage pk message =>
    (Assisant.friendStatusMessageCb D s pk message ans).map fun s => (s, none)
  | .restart => some ({ s with memberMgr := MemberMgr.init }, none)

/-- One event: the callback under the event's answers, then toxcore's update. -/
def step (s : State σ) (i : Input) : Option (State σ × Output) :=
  match handle D env { s with db := D.begin i.2.sql s.db } i.1 i.2 with
  | none => none
  | some (s', reply) =>
    some ({ s' with tox := s'.tox.apply i.1 },
      { reply := reply, onlineMemberNum := s'.memberMgr.onlineMemberNum })

/-- The bot over the driver `D`. -/
def machine : StepMachine (State σ) Input Output where
  step := step D env

/-- A fresh process over the database `db`, with nobody registered. -/
def init (db : σ) (tox : Tox) : State σ where
  memberMgr := MemberMgr.init
  db := db
  tox := tox

end Bot

-- ---------------------------------------------------------------------------
-- Concrete inputs
-- ---------------------------------------------------------------------------

def Pk.first : Pk := Pk.repeat 65 (by decide)

def Pk.second : Pk := Pk.repeat 66 (by decide)

/-- Nobody is connected and nobody has a profile. -/
def Tox.blank : Tox where
  connected := ∅
  name := fun _ => []
  statusMessage := fun _ => []

/-- Every call succeeds. -/
def Answers.plain : Answers where
  time := 0
  rand := 0
  nameQuery := .ok
  statusMessageQuery := .ok
  sql := none

/-- The table with one row, for `pk`. -/
def Table.single (pk : Pk) (tokId nickName bio signature : Bytes) : Table where
  rows := (∅ : Std.ExtTreeMap Bytes Row).insert pk.hex
    { id := 1, tokId := tokId, nickName := nickName, bio := bio, signature := signature,
      createTime := 0, updateTime := 0 }
  autoIncrement := 2

def Table.empty : Table where
  rows := ∅
  autoIncrement := 1

/-- A database that will not throw. -/
def MySql.holding (t : Table) : MySql := ⟨t, none⟩

end FindFriendBot
