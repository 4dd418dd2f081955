import FindFriendBot.Lib.Printf
import FindFriendBot.Model.Bytes

/-!
# FindFriendBot — `Bot::print_debug_log`

The callback that toxcore hands its own log lines to. The line is formatted into
a buffer on the stack before it goes to the logger. A `uint32_t` that is printed
with `%d` is read as an `int`. `none` is a write past the end of the buffer.
-/

namespace FindFriendBot

/-- A `const char *` up to its NUL. -/
structure CString where
  chars : Bytes
  nul_free : (0 : UInt8) ∉ chars

/-- `TOX_LOG_LEVEL`; `other` is a value that is not one of the enumerators. -/
inductive ToxLogLevel
  | trace
  | debug
  | info
  | warning
  | error
  | other
  deriving DecidableEq

/-- `strrchr`: the last position of a character. -/
def strrchr (c : UInt8) : Bytes → Option Nat
  | [] => none
  | b :: rest =>
    match strrchr c rest with
    | some i => some (i + 1)
    | none => if b = c then some 0 else none

namespace Bot

/-- `Bot::tox_log_level_name`. -/
def toxLogLevelName : ToxLogLevel → Bytes
  | .trace => bytes "TRACE"
  | .debug => bytes "DEBUG"
  | .info => bytes "INFO"
  | .warning => bytes "WARNING"
  | .error => bytes "ERROR"
  | .other => bytes "<unknown>"

/-- `buf_size`. -/
def bufSize : Nat := 512

/-- `index`, as `%d` reads it. -/
def logIndex (userData : Option UInt32) : Int :=
  match userData with
  | none => 0
  | some index => Int.bmod index.toNat (2 ^ 32)

/-- `line`, as `%d` reads it. -/
def logLineNumber (line : UInt32) : Int := Int.bmod line.toNat (2 ^ 32)

/-- `file`: the path from its last slash on. -/
def logFile (path : CString) : Bytes :=
  match strrchr 47 path.chars with
  | none => path.chars
  | some i => path.chars.drop (i + 1)

/-- `"[#%d] %s %s:%d\t%s:\t%s\n"` with its arguments. -/
def logFormat (level : ToxLogLevel) (path : CString) (line : UInt32) (func message : CString)
    (userData : Option UInt32) : List Printf.Piece :=
  [.lit (bytes "[#"), .d (logIndex userData), .lit (bytes "] "), .s (toxLogLevelName level),
    .lit (bytes " "), .s (logFile path), .lit (bytes ":"), .d (logLineNumber line),
    .lit (bytes "\t"), .s func.chars, .lit (bytes ":\t"), .s message.chars, .lit (bytes "\n")]

example (level : ToxLogLevel) (path func message : CString) (line : UInt32)
    (userData : Option UInt32) :
    Printf.spell (logFormat level path line func message userData) =
      bytes "[#%d] %s %s:%d\t%s:\t%s\n" := rfl

/-- `Bot::print_debug_log`: what goes to the logger, if anything. -/
def printDebugLog (level : ToxLogLevel) (path : CString) (line : UInt32) (func message : CString)
    (userData : Option UInt32) : Option (Option Bytes) :=
  if level = .trace then some none
  else
    match Printf.sprintf bufSize (logFormat level path line func message userData) with
    | none => none
    | some buf => some (some buf)

end Bot

end FindFriendBot
