import FindFriendBot.Model.Tox

/-!
# FindFriendBot — message parsing and dispatch

`parse_msg` splits a message at its first slash and its first space, wherever
they are; `process_cmd` compares the lower-cased command word with the seven
commands. `Message.dispatch` is the command and the parameter a handler is
called with.
-/

namespace FindFriendBot

/-- `Assisant::parse_msg` on empty `cmd` and `param`; `none` is the
`std::out_of_range` exception of `substr`. -/
def parseMsg (msg : Bytes) : Option (Bytes × Bytes) :=
  match find msg 47 with
  | none => some ([], [])
  | some start =>
    -- a message without a blank ends its command at size()
    let stop := (find msg 32).getD msg.length
    match substr msg (start + 1) (sub64 (sub64 stop start) 1) with
    | none => none
    | some cmd =>
      match substr msg stop (sub64 msg.length stop) with
      | none => none
      | some param => some (cmd, param)

/-- The branches of `process_cmd`. -/
inductive Command
  | start
  | stop
  | set
  | get
  | info
  | help
  | readme
  | unknown
  deriving DecidableEq

/-- The comparisons of `process_cmd`, after `boost::to_lower(cmd)`. -/
def Command.ofWord (cmd : Bytes) : Command :=
  let cmd := toLower cmd
  if cmd = bytes "start" then .start
  else if cmd = bytes "stop" then .stop
  else if cmd = bytes "set" then .set
  else if cmd = bytes "get" then .get
  else if cmd = bytes "info" then .info
  else if cmd = bytes "help" then .help
  else if cmd = bytes "readme" then .readme
  else .unknown

/-- The command of a message and the parameter its handler gets: only `/start`
upper-cases it. -/
def Message.dispatch (msg : Message) : Option (Command × Bytes) :=
  match parseMsg msg.text with
  | none => none
  | some (cmd, param) =>
    match Command.ofWord cmd with
    | .start => some (.start, toUpper param)
    | c => some (c, param)

-- ---------------------------------------------------------------------------
-- Parsing never throws
-- ---------------------------------------------------------------------------

/-- Both `substr` calls of `parse_msg` start inside the message. -/
theorem parseMsg_isSome (msg : Bytes) : ∃ r, parseMsg msg = some r := by
  unfold parseMsg
  cases hstart : find msg 47 with
  | none => exact ⟨_, rfl⟩
  | some start =>
    have hlt : start < msg.length := find_lt hstart
    have hstop : (find msg 32).getD msg.length ≤ msg.length := by
      cases hspace : find msg 32 with
      | none => exact Nat.le_refl _
      | some i => exact Nat.le_of_lt (find_lt hspace)
    simp only [substr_of_le (Nat.succ_le_of_lt hlt), substr_of_le hstop]
    exact ⟨_, rfl⟩

/-- Every message reaches a branch of `process_cmd`. -/
theorem Message.dispatch_isSome (msg : Message) : ∃ c param, msg.dispatch = some (c, param) := by
  obtain ⟨⟨cmd, param⟩, hparse⟩ := parseMsg_isSome msg.text
  simp only [Message.dispatch, hparse]
  split
  · exact ⟨_, _, rfl⟩
  · exact ⟨_, _, rfl⟩

end FindFriendBot
