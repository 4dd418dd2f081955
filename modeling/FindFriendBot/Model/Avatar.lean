import Mathlib.Algebra.Group.Int.Defs
import FindFriendBot.Lib.StepMachine
import FindFriendBot.Model.Tox

/-!
# FindFriendBot — files, and the avatar sent to friends

`get_data` reads a whole file into memory, for `bootstrap` and for the avatar. The
avatar is kept in two static variables: the connection callback fills them, if
they are empty, and offers the file to the friend; `file_chunk_request_cb` fills
them, if they are still empty, and sends what toxcore asks for. Log lines are
left out, and so is the destructor, which runs after the last callback.
-/

namespace FindFriendBot

/-- Bytes of memory; `none` is one that nothing was written to, or that lies outside of
what was allocated. -/
abbrev Memory := List (Option UInt8)

/-- How the calls of one `get_data` end: the file's content, whether `fopen` returns a
stream, what `ftell` returns at the end, whether `malloc` returns a buffer and how many
bytes `fread` delivers at most. -/
structure FileIo where
  content : Bytes
  fopen : Bool
  ftell : Int
  malloc : Bool
  fread : Nat

namespace FileIo

/-- `size`: the `long` as a `uint32_t`. -/
def size (io : FileIo) : Nat := (io.ftell % 2 ^ 32).toNat

/-- What `fread` delivers. -/
def read (io : FileIo) : Bytes := io.content.take (min io.fread io.size)

/-- `buffer` after `fread`. -/
def buffer (io : FileIo) : Memory :=
  io.read.map some ++ List.replicate (io.size - io.read.length) none

end FileIo

/-- `Assisant::get_data`: the buffer, or null, and `file_size`. -/
def Assisant.getData (io : FileIo) (fileSize : Nat) : Option Memory × Nat :=
  if io.fopen = false then (none, fileSize)
  else if io.malloc = false then (none, fileSize)
  -- a short read is logged
  else (some io.buffer, io.size)

/-- The string at a `char*`; `none` if a byte before the NUL may not be read. -/
def Memory.cString : Memory → Option Bytes
  | [] => none
  | none :: _ => none
  | some b :: mem => if b = 0 then some [] else (cString mem).map (b :: ·)

/-- `json_buf` of `Bot::bootstrap`: `append` takes a string, so the buffer is first read up
to a NUL, which `get_data` puts none behind. -/
def Bot.jsonBuf (buffer : Memory) (bufSize : Nat) : Option Bytes :=
  buffer.cString.map fun text => text.take bufSize

-- ---------------------------------------------------------------------------
-- The avatar
-- ---------------------------------------------------------------------------

theorem FileIo.length_read_le (io : FileIo) : io.read.length ≤ io.size := by
  rw [read, List.length_take]
  omega

theorem FileIo.length_buffer (io : FileIo) : io.buffer.length = io.size := by
  have hle := io.length_read_le
  rw [buffer, List.length_append, List.length_map, List.length_replicate]
  omega

/-- `avatar_data` and `avatar_data_size`. -/
structure Avatar where
  data : Option Memory
  size : Nat
  length_eq : ∀ mem, data = some mem → mem.length = size
  size_of_none : data = none → size = 0
  size_lt : size < 2 ^ 32

namespace Avatar

/-- The static variables of a fresh process. -/
def init : Avatar where
  data := none
  size := 0
  length_eq := fun _ h => absurd h (by simp)
  size_of_none := fun _ => rfl
  size_lt := by decide

/-- `nullptr == avatar_data || 0 == avatar_data_size`. -/
def Unloaded (a : Avatar) : Prop := a.data = none ∨ a.size = 0

instance (a : Avatar) : Decidable a.Unloaded := inferInstanceAs (Decidable (_ ∨ _))

theorem Unloaded.size_eq {a : Avatar} (h : a.Unloaded) : a.size = 0 := h.elim a.size_of_none id

/-- `avatar_data = get_data(file_name, avatar_data_size)` if there is none. -/
def load (io : FileIo) (a : Avatar) : Avatar :=
  if h : a.Unloaded then
    { data := (Assisant.getData io a.size).1
      size := (Assisant.getData io a.size).2
      length_eq := by
        intro mem hmem
        unfold Assisant.getData at hmem ⊢
        split at hmem
        · exact absurd hmem (by simp)
        · split at hmem
          · exact absurd hmem (by simp)
          · next hopen halloc =>
            rw [if_neg hopen, if_neg halloc, ← Option.some.inj hmem]
            exact io.length_buffer
      size_of_none := by
        intro hnone
        unfold Assisant.getData at hnone ⊢
        split at hnone
        · next hopen =>
          rw [if_pos hopen]
          exact h.size_eq
        · next hopen =>
          split at hnone
          · next halloc =>
            rw [if_neg hopen, if_pos halloc]
            exact h.size_eq
          · exact absurd hnone (by simp)
      size_lt := by
        unfold Assisant.getData
        split
        · exact a.size_lt
        · split
          · exact a.size_lt
          · show (io.ftell % 2 ^ 32).toNat < 2 ^ 32
            omega }
  else a

/-- What `memcpy` reads from `avatar_data + position`. -/
def copy (a : Avatar) (position length : Nat) : Memory :=
  (List.range length).map fun i => ((a.data.getD [])[position + i]?).join

end Avatar

/-- `tox_file_send` of the avatar, with the bytes that `tox_hash` reads. -/
structure AvatarOffer where
  friendNumber : Nat
  fileSize : Nat
  hashed : Memory
  deriving DecidableEq

/-- `tox_file_send_chunk`. -/
structure FileChunk where
  friendNumber : Nat
  fileNumber : Nat
  position : UInt64
  data : Memory
  length : UInt64
  deriving DecidableEq

/-- The avatar part of `Assisant::tox_friend_connection_status_callback`. -/
def Assisant.updateBotAvatar (a : Avatar) (friendNumber : Nat) (connectionStatus : ToxConnection)
    (io : FileIo) : Avatar × Option AvatarOffer :=
  if connectionStatus ≠ .none then
    let a := a.load io
    (a, a.data.map fun data =>
      { friendNumber := friendNumber, fileSize := a.size, hashed := data })
  else (a, none)

/-- `Assisant::file_chunk_request_cb`; `none` is the undefined behaviour of `memset` where
`malloc` returns null. -/
def Assisant.fileChunkRequestCb (a : Avatar) (friendNumber fileNumber : Nat)
    (position length : UInt64) (io : FileIo) (malloc : Bool) :
    Option (Avatar × Option FileChunk) :=
  if length = 0 then some (a, none)
  else
    let a := a.load io
    -- uint64_t: the sum wraps
    if a.size < (position + length).toNat then some (a, none)
    else if malloc = false then none
    else
      some (a, some
        { friendNumber := friendNumber, fileNumber := fileNumber, position := position
          data := a.copy position.toNat length.toNat, length := length })

namespace Avatar

/-- A change of a friend's connection, or a chunk that toxcore asks for, with the outcomes
of the calls made for it. -/
inductive Event
  | connectionStatus (friendNumber : Nat) (status : ToxConnection) (io : FileIo)
  | fileChunkRequest (friendNumber fileNumber : Nat) (position length : UInt64) (io : FileIo)
      (malloc : Bool)

/-- What a callback hands to toxcore. -/
inductive Sent
  | offer (offer : AvatarOffer)
  | chunk (chunk : FileChunk)
  deriving DecidableEq

/-- One callback. -/
def step (a : Avatar) : Event → Option (Avatar × Option Sent)
  | .connectionStatus friendNumber status io =>
    let (a, offer) := Assisant.updateBotAvatar a friendNumber status io
    some (a, offer.map .offer)
  | .fileChunkRequest friendNumber fileNumber position length io malloc =>
    match Assisant.fileChunkRequestCb a friendNumber fileNumber position length io malloc with
    | none => none
    | some (a, chunk) => some (a, chunk.map .chunk)

/-- Any interleaving of connections and transfers. -/
def machine : StepMachine Avatar Event (Option Sent) where
  step := step

end Avatar

end FindFriendBot
