import FindFriendBot.Avatar.Loading
import FindFriendBot.Lib.Reassembly

/-!
# FindFriendBot — the chunks of the avatar

The guard of `file_chunk_request_cb` adds two 64-bit numbers from outside and
compares the wrapped sum with the 32-bit size. Where the sum does not wrap the
guard is right, and then the buffer that the first callback filled serves every
later request of every friend: what a friend is sent, put together, is the file
that was offered.

* `chunk_bounds_iff` — when a chunk is sent only from inside of the avatar.
* `step_spec`        — one callback, while the buffer holds the file or nothing.
* `avatar_transfer`  — every run of requests inside of the file.
-/

namespace FindFriendBot

namespace Avatar

-- ---------------------------------------------------------------------------
-- Bounds
-- ---------------------------------------------------------------------------

/-- Every byte from `position` to `position + length`, without a wrap, lies below `size`. -/
def InBounds (size : Nat) (position length : UInt64) : Prop :=
  ∀ i, position.toNat ≤ i → i < position.toNat + length.toNat → i < size

variable {a : Avatar} {friendNumber fileNumber : Nat} {position length : UInt64} {io : FileIo}
  {malloc : Bool}

/-- What a call that sends a chunk went through. -/
theorem fileChunkRequestCb_some_iff {a' : Avatar} {chunk : FileChunk} :
    Assisant.fileChunkRequestCb a friendNumber fileNumber position length io malloc =
        some (a', some chunk) ↔
      length ≠ 0 ∧ (position + length).toNat ≤ (a.load io).size ∧ malloc = true ∧
        a' = a.load io ∧ chunk =
          { friendNumber := friendNumber, fileNumber := fileNumber, position := position
            data := (a.load io).copy position.toNat length.toNat, length := length } := by
  unfold Assisant.fileChunkRequestCb
  by_cases hlen : length = 0
  · simp [hlen]
  -- the guard adds in 64 bits
  · rw [if_neg hlen]
    dsimp only
    by_cases hguard : (a.load io).size < (position + length).toNat
    · rw [if_pos hguard]
      refine iff_of_false (by simp) ?_
      rintro ⟨-, hle, -⟩
      exact absurd hle (Nat.not_le_of_lt hguard)
    · rw [if_neg hguard]
      have hle := Nat.le_of_not_lt hguard
      cases malloc with
      | false => simp
      | true =>
        rw [if_neg (by simp), Option.some.injEq, Prod.mk.injEq, Option.some.injEq]
        constructor
        · rintro ⟨rfl, rfl⟩
          exact ⟨hlen, hle, rfl, rfl, rfl⟩
        · rintro ⟨-, -, -, rfl, rfl⟩
          exact ⟨rfl, rfl⟩

/-- **Chunk bounds.** A call copies and sends only bytes of the avatar exactly if it sends
nothing, because the length is zero or no buffer is to be had, or the sum of position and
length does not wrap, or the wrapped sum is past the size. -/
theorem chunk_bounds_iff (a : Avatar) (friendNumber fileNumber : Nat) (position length : UInt64)
    (io : FileIo) (malloc : Bool) :
    (∀ a' chunk,
        Assisant.fileChunkRequestCb a friendNumber fileNumber position length io malloc =
          some (a', some chunk) → InBounds a'.size position length) ↔
      length = 0 ∨ malloc = false ∨ position.toNat + length.toNat < 2 ^ 64 ∨
        (a.load io).size + 2 ^ 64 < position.toNat + length.toNat := by
  have hsize := (a.load io).size_lt
  have hp := position.toNat_lt
  have hl := length.toNat_lt
  constructor
  · intro hbounds
    by_contra hcond
    simp only [not_or, Bool.not_eq_false, Nat.not_lt] at hcond
    -- past the conditions: a chunk is sent and its last byte lies behind the buffer
    obtain ⟨hlen, halloc, hwraps, hpasses⟩ := hcond
    have hsum : (position + length).toNat ≤ (a.load io).size := by
      rw [UInt64.toNat_add]
      omega
    have hin := hbounds _ _ (fileChunkRequestCb_some_iff.mpr ⟨hlen, hsum, halloc, rfl, rfl⟩)
    -- the last byte asked for
    have hpos : 0 < length.toNat := by
      rw [Nat.pos_iff_ne_zero]
      intro hzero
      exact hlen (UInt64.toNat_inj.mp hzero)
    have hlast := hin (position.toNat + length.toNat - 1) (by omega) (by omega)
    omega
  · intro hcond a' chunk hcall i _ hto
    obtain ⟨hlen, hsum, halloc, rfl, -⟩ := fileChunkRequestCb_some_iff.mp hcall
    rw [UInt64.toNat_add] at hsum
    rcases hcond with hzero | hnull | hnowrap | hpast
    · exact absurd hzero hlen
    · exact absurd (halloc.symm.trans hnull) (by decide)
    -- nothing wrapped, so the guard is the bound
    · omega
    -- wrapped once, and the sum is still past the size
    · omega

/-- One byte at the last position there is: the sum wraps to zero. -/
theorem chunk_before_avatar :
    ∃ a' chunk, Assisant.fileChunkRequestCb init 0 0 18446744073709551615 1
        (FileIo.reading (bytes "ab")) true = some (a', some chunk) ∧
      ¬ InBounds a'.size 18446744073709551615 1 := by
  refine ⟨_, _, fileChunkRequestCb_some_iff.mpr ⟨by decide, by decide, rfl, rfl, rfl⟩, ?_⟩
  intro hbounds
  have hlast := hbounds 18446744073709551615 (by decide) (by decide)
  exact absurd hlast (by decide)

-- ---------------------------------------------------------------------------
-- Transfers
-- ---------------------------------------------------------------------------

/-- The buffer is the file, or `get_data` is still to be called. -/
def Holds (content : Bytes) (a : Avatar) : Prop :=
  a.Unloaded ∨ (a.data = some (content.map some) ∧ a.size = content.length)

/-- Where the callback calls `get_data`, it reads the file without an error. -/
def LoadsFrom (content : Bytes) (a : Avatar) : Event → Prop
  | .connectionStatus _ status io => status ≠ .none → a.Unloaded → io.Reads content
  | .fileChunkRequest _ _ _ length io _ => length ≠ 0 → a.Unloaded → io.Reads content

/-- The chunk asked for lies inside of `n` bytes. -/
def Event.Within (n : Nat) : Event → Prop
  | .connectionStatus _ _ _ => True
  | .fileChunkRequest _ _ position length _ _ => position.toNat + length.toNat ≤ n

/-- `malloc` finds room for the chunk. -/
def Event.Allocates : Event → Prop
  | .connectionStatus _ _ _ => True
  | .fileChunkRequest _ _ _ _ _ malloc => malloc = true

instance (n : Nat) : (e : Event) → Decidable (e.Within n)
  | .connectionStatus _ _ _ => isTrue trivial
  | .fileChunkRequest _ _ position length _ _ =>
    inferInstanceAs (Decidable (position.toNat + length.toNat ≤ n))

instance : (e : Event) → Decidable e.Allocates
  | .connectionStatus _ _ _ => isTrue trivial
  | .fileChunkRequest _ _ _ _ _ malloc => inferInstanceAs (Decidable (malloc = true))

/-- The offer of a file to a friend who comes online. -/
def offerOf (content : Bytes) (friendNumber : Nat) (status : ToxConnection) : Option AvatarOffer :=
  if status ≠ .none then
    some { friendNumber := friendNumber, fileSize := content.length, hashed := content.map some }
  else none

/-- The bytes of a file that were asked for, if any were. -/
def chunkOf (content : Bytes) (friendNumber fileNumber : Nat) (position length : UInt64) :
    Option FileChunk :=
  if length = 0 then none
  else
    some
      { friendNumber := friendNumber, fileNumber := fileNumber, position := position
        data := Reassembly.slice (content.map some) position.toNat length.toNat, length := length }

/-- What a callback sends of a file. -/
def answer (content : Bytes) : Event → Option Sent
  | .connectionStatus friendNumber status _ => (offerOf content friendNumber status).map .offer
  | .fileChunkRequest friendNumber fileNumber position length _ _ =>
    (chunkOf content friendNumber fileNumber position length).map .chunk

theorem load_spec {content : Bytes} (hlt : content.length < 2 ^ 32) (h : Holds content a)
    (hio : a.Unloaded → io.Reads content) :
    (a.load io).data = some (content.map some) ∧ (a.load io).size = content.length := by
  unfold load
  by_cases hunloaded : a.Unloaded
  · rw [dif_pos hunloaded]
    have hdata := (hio hunloaded).getData hlt a.size
    exact ⟨congrArg Prod.fst hdata, congrArg Prod.snd hdata⟩
  · rw [dif_neg hunloaded]
    exact h.resolve_left hunloaded

/-- What `memcpy` reads inside of the buffer. -/
theorem copy_eq {content : Bytes} (hdata : a.data = some (content.map some))
    {from_ len : Nat} (hin : from_ + len ≤ content.length) :
    a.copy from_ len = Reassembly.slice (content.map some) from_ len := by
  apply List.ext_getElem?
  intro i
  unfold copy Reassembly.slice
  rw [hdata, Option.getD_some, List.getElem?_map]
  by_cases hi : i < len
  · have hlt : from_ + i < content.length := by omega
    rw [List.getElem?_range hi, Option.map_some, List.getElem?_take_of_lt hi, List.getElem?_drop,
      List.getElem?_map, List.getElem?_eq_getElem hlt]
    rfl
  · have hle := Nat.le_of_not_lt hi
    rw [List.getElem?_eq_none (by simpa using hle), Option.map_none,
      List.getElem?_eq_none (by rw [List.length_take]; omega)]

/-- A friend's connection changes. -/
theorem updateBotAvatar_spec {content : Bytes} (hlt : content.length < 2 ^ 32)
    (h : Holds content a) (friendNumber : Nat) {status : ToxConnection}
    (hio : status ≠ .none → a.Unloaded → io.Reads content) :
    ∃ a', Assisant.updateBotAvatar a friendNumber status io =
        (a', offerOf content friendNumber status) ∧ Holds content a' := by
  unfold Assisant.updateBotAvatar offerOf
  by_cases hst : status ≠ .none
  · obtain ⟨hdata, hsize⟩ := load_spec hlt h (hio hst)
    rw [if_pos hst, if_pos hst]
    dsimp only
    rw [hdata, hsize]
    exact ⟨a.load io, rfl, Or.inr ⟨hdata, hsize⟩⟩
  · rw [if_neg hst, if_neg hst]
    exact ⟨a, rfl, h⟩

/-- A request inside of the file. -/
theorem fileChunkRequestCb_spec {content : Bytes} (hlt : content.length < 2 ^ 32)
    (h : Holds content a) (friendNumber fileNumber : Nat)
    (hwithin : position.toNat + length.toNat ≤ content.length)
    (hio : length ≠ 0 → a.Unloaded → io.Reads content) (malloc : Bool) :
    ∃ a', Holds content a' ∧
      Assisant.fileChunkRequestCb a friendNumber fileNumber position length io malloc =
        if length ≠ 0 ∧ malloc = false then none
        else some (a', chunkOf content friendNumber fileNumber position length) := by
  unfold Assisant.fileChunkRequestCb chunkOf
  by_cases hlen : length = 0
  · rw [if_pos hlen, if_pos hlen]
    refine ⟨a, h, ?_⟩
    rw [if_neg fun hboth => hboth.1 hlen]
  · obtain ⟨hdata, hsize⟩ := load_spec hlt h (hio hlen)
    have hguard : ¬ (a.load io).size < (position + length).toNat := by
      rw [hsize, UInt64.toNat_add]
      omega
    refine ⟨a.load io, Or.inr ⟨hdata, hsize⟩, ?_⟩
    rw [if_neg hlen, if_neg hlen]
    dsimp only
    rw [if_neg hguard, copy_eq hdata hwithin]
    cases malloc with
    | false => rw [if_pos rfl, if_pos ⟨hlen, rfl⟩]
    | true => rw [if_neg (by decide), if_neg (fun hboth => absurd hboth.2 (by decide))]

/-- **One callback**, if it is defined, sends what the file says and keeps the buffer. -/
theorem step_spec {content : Bytes} (hlt : content.length < 2 ^ 32) (h : Holds content a)
    {e : Event} (hloads : LoadsFrom content a e) (hwithin : e.Within content.length) :
    (∀ a' o, step a e = some (a', o) → o = answer content e ∧ Holds content a') ∧
      (e.Allocates → (step a e).isSome) := by
  cases e with
  | connectionStatus friendNumber status io =>
    obtain ⟨a₁, hcall, h₁⟩ := updateBotAvatar_spec hlt h friendNumber hloads
    -- an online friend is offered the whole file
    simp only [step, hcall, answer]
    refine ⟨?_, fun _ => rfl⟩
    intro a' o hstep
    obtain ⟨rfl, rfl⟩ := Prod.mk.inj (Option.some.inj hstep)
    exact ⟨rfl, h₁⟩
  | fileChunkRequest friendNumber fileNumber position length io malloc =>
    obtain ⟨a₁, h₁, hcall⟩ :=
      fileChunkRequestCb_spec hlt h friendNumber fileNumber hwithin hloads malloc
    simp only [step, hcall, answer]
    -- malloc failed and memcpy writes to null
    by_cases hnull : length ≠ 0 ∧ malloc = false
    · rw [if_pos hnull]
      refine ⟨fun a' o hstep => absurd hstep (by simp), ?_⟩
      intro halloc
      exact absurd (hnull.2.symm.trans halloc) (by decide)
    · rw [if_neg hnull]
      refine ⟨?_, fun _ => rfl⟩
      intro a' o hstep
      obtain ⟨rfl, rfl⟩ := Prod.mk.inj (Option.some.inj hstep)
      exact ⟨rfl, h₁⟩

/-- **A run** of requests inside of the file, if it is defined, sends what the file says, one
callback at a time. -/
theorem run_spec {content : Bytes} (hlt : content.length < 2 ^ 32) :
    ∀ (is : List Event) {a : Avatar}, Holds content a → machine.Along (LoadsFrom content) a is →
      (∀ e ∈ is, e.Within content.length) →
      (∀ a' outs, machine.run a is = some (a', outs) → outs = is.map (answer content)) ∧
        ((∀ e ∈ is, e.Allocates) → (machine.run a is).isSome) := by
  intro is
  induction is with
  | nil =>
    intro a _ _ _
    refine ⟨?_, fun _ => rfl⟩
    intro a' outs hrun
    exact (Prod.mk.inj (Option.some.inj hrun)).2.symm
  | cons e is ih =>
    intro a h hloads hwithin
    obtain ⟨hsends, hdefined⟩ := step_spec hlt h hloads.1 (hwithin e (List.mem_cons_self ..))
    have hwithin' : ∀ e ∈ is, e.Within content.length :=
      fun e he => hwithin e (List.mem_cons_of_mem _ he)
    constructor
    · intro a' outs hrun
      -- the buffer stays the file's, so the rest of the run answers as the first step
      obtain ⟨a₁, o, outs', hstep, hrest, rfl⟩ := StepMachine.run_cons_iff.mp hrun
      obtain ⟨rfl, h₁⟩ := hsends a₁ o hstep
      rw [(ih h₁ (hloads.2 a₁ _ hstep) hwithin').1 a' outs' hrest, List.map_cons]
    · intro halloc
      obtain ⟨⟨a₁, o⟩, hstep⟩ :=
        Option.isSome_iff_exists.mp (hdefined (halloc e (List.mem_cons_self ..)))
      obtain ⟨-, h₁⟩ := hsends a₁ o hstep
      obtain ⟨⟨a', outs⟩, hrest⟩ := Option.isSome_iff_exists.mp
        ((ih h₁ (hloads.2 a₁ o hstep) hwithin').2 fun e he => halloc e (List.mem_cons_of_mem _ he))
      exact Option.isSome_iff_exists.mpr
        ⟨_, StepMachine.run_cons_iff.mpr ⟨a₁, o, outs, hstep, hrest, rfl⟩⟩

/-- A filled buffer is never replaced. -/
theorem step_loaded (hloaded : ¬ a.Unloaded) {e : Event} {a' : Avatar} {o : Option Sent}
    (hstep : step a e = some (a', o)) : a' = a := by
  have hload : ∀ io, a.load io = a := fun io => dif_neg hloaded
  cases e with
  | connectionStatus friendNumber status io =>
    simp only [step, Assisant.updateBotAvatar, hload] at hstep
    split at hstep <;> exact (Prod.mk.inj (Option.some.inj hstep)).1.symm
  | fileChunkRequest friendNumber fileNumber position length io malloc =>
    simp only [step, Assisant.fileChunkRequestCb, hload] at hstep
    split at hstep
    · exact absurd hstep (by simp)
    · next hcall =>
      obtain ⟨rfl, -⟩ := Prod.mk.inj (Option.some.inj hstep)
      split at hcall
      · exact (Prod.mk.inj (Option.some.inj hcall)).1.symm
      · split at hcall
        · exact (Prod.mk.inj (Option.some.inj hcall)).1.symm
        · split at hcall
          · exact absurd hcall (by simp)
          · exact (Prod.mk.inj (Option.some.inj hcall)).1.symm

/-- With a filled buffer `get_data` is not called again, whatever became of the file. -/
theorem along_of_loaded (content : Bytes) (is : List Event) (hloaded : ¬ a.Unloaded) :
    machine.Along (LoadsFrom content) a is := by
  induction is with
  | nil => trivial
  | cons e is ih =>
    constructor
    · cases e with
      | connectionStatus _ _ _ => exact fun _ hunloaded => absurd hunloaded hloaded
      | fileChunkRequest _ _ _ _ _ _ => exact fun _ hunloaded => absurd hunloaded hloaded
    · intro a' o hstep
      exact step_loaded hloaded hstep ▸ ih

-- ---------------------------------------------------------------------------
-- What the friend puts together
-- ---------------------------------------------------------------------------

/-- The chunk, if one was sent and in this transfer. -/
def ofTransfer (friendNumber fileNumber : Nat) : Option Sent → Option (Nat × Memory)
  | some (.chunk c) =>
    if c.friendNumber = friendNumber ∧ c.fileNumber = fileNumber then
      some (c.position.toNat, c.data)
    else none
  | some (.offer _) => none
  | none => none

/-- The chunks of one transfer, in the order in which they were sent. -/
def received (friendNumber fileNumber : Nat) (outs : List (Option Sent)) : List (Nat × Memory) :=
  outs.filterMap (ofTransfer friendNumber fileNumber)

/-- The request is for this byte of this transfer. -/
def Event.AsksFor (friendNumber fileNumber i : Nat) : Event → Prop
  | .connectionStatus _ _ _ => False
  | .fileChunkRequest friendNumber' fileNumber' position length _ _ =>
    friendNumber' = friendNumber ∧ fileNumber' = fileNumber ∧ position.toNat ≤ i ∧
      i < position.toNat + length.toNat

instance (friendNumber fileNumber i : Nat) :
    (e : Event) → Decidable (e.AsksFor friendNumber fileNumber i)
  | .connectionStatus _ _ _ => isFalse id
  | .fileChunkRequest _ _ _ _ _ _ => inferInstanceAs (Decidable (_ ∧ _ ∧ _ ∧ _))

/-- What was sent in a transfer are slices of the file. -/
theorem isSlice_ofTransfer {content : Bytes} {e : Event} (hwithin : e.Within content.length)
    {friendNumber fileNumber : Nat} {c : Nat × Memory}
    (h : ofTransfer friendNumber fileNumber (answer content e) = some c) :
    Reassembly.IsSlice (content.map some) c := by
  cases e with
  | connectionStatus friendNumber' status io =>
    simp only [answer, offerOf] at h
    split at h <;> simp [ofTransfer] at h
  | fileChunkRequest friendNumber' fileNumber' position length io malloc =>
    simp only [answer, chunkOf] at h
    split at h
    · exact absurd h (by simp [ofTransfer])
    · simp only [Option.map_some, ofTransfer] at h
      split at h
      · obtain rfl := Option.some.inj h
        refine ⟨length.toNat, ?_, rfl⟩
        rw [List.length_map]
        exact hwithin
      · exact absurd h (by simp)

/-- A byte that was asked for was sent. -/
theorem ofTransfer_asksFor {content : Bytes} {e : Event} (hwithin : e.Within content.length)
    {friendNumber fileNumber i : Nat} (hasks : e.AsksFor friendNumber fileNumber i) :
    ∃ c, ofTransfer friendNumber fileNumber (answer content e) = some c ∧ c.1 ≤ i ∧
      i < c.1 + c.2.length := by
  cases e with
  | connectionStatus friendNumber' status io => exact hasks.elim
  | fileChunkRequest friendNumber' fileNumber' position length io malloc =>
    obtain ⟨rfl, rfl, hfrom, hto⟩ := hasks
    have hlen : length ≠ 0 := by
      rintro rfl
      have hzero : (0 : UInt64).toNat = 0 := rfl
      omega
    have hin : position.toNat + length.toNat ≤ (content.map some).length := by
      rw [List.length_map]
      exact hwithin
    refine ⟨(position.toNat, Reassembly.slice (content.map some) position.toNat length.toNat),
      ?_, hfrom, ?_⟩
    · simp [answer, chunkOf, hlen, ofTransfer]
    · rw [Reassembly.length_slice hin]
      exact hto

/-- **Avatar transfer.** If the file has less than 2^32 bytes and is read without an error
where it is read, and all requests lie inside of it, then in any interleaving of the
callbacks for any friends every defined run offers exactly this file to each friend who
comes online and answers each request with exactly the bytes asked for, an empty request
with nothing; and as soon as the requests of a transfer cover the file, the chunks sent in
it, written at their positions into a file that is not longer, make this file. The run is
defined if `malloc` finds room for every chunk. -/
theorem avatar_transfer {content : Bytes} (hlt : content.length < 2 ^ 32) {is : List Event}
    (hloads : machine.Along (LoadsFrom content) init is)
    (hwithin : ∀ e ∈ is, e.Within content.length) :
    (∀ a outs, machine.run init is = some (a, outs) →
      outs = is.map (answer content) ∧
        ∀ friendNumber fileNumber,
          (∀ i < content.length, ∃ e ∈ is, e.AsksFor friendNumber fileNumber i) →
          ∀ pad (file : Memory), file.length ≤ content.length →
            Reassembly.reassemble pad file (received friendNumber fileNumber outs) =
              content.map some) ∧
      ((∀ e ∈ is, e.Allocates) → (machine.run init is).isSome) := by
  obtain ⟨hsends, hdefined⟩ := run_spec hlt is (Or.inl (Or.inl rfl)) hloads hwithin
  refine ⟨?_, hdefined⟩
  intro a outs hrun
  obtain rfl := hsends a outs hrun
  refine ⟨rfl, ?_⟩
  intro friendNumber fileNumber hcover pad file hfile
  refine Reassembly.reassemble_eq pad ?_ ?_ ?_
  -- what is received is slices of the content, which together reach every byte
  · rw [List.length_map]
    exact hfile
  · intro c hc
    obtain ⟨o, ho, hsent⟩ := List.mem_filterMap.mp hc
    obtain ⟨e, he, rfl⟩ := List.mem_map.mp ho
    exact isSlice_ofTransfer (hwithin e he) hsent
  · intro i hi
    rw [List.length_map] at hi
    obtain ⟨e, he, hasks⟩ := hcover i hi
    obtain ⟨c, hsent, hreach⟩ := ofTransfer_asksFor (hwithin e he) hasks
    exact ⟨c, List.mem_filterMap.mpr ⟨_, List.mem_map_of_mem he, hsent⟩, hreach⟩

/-- Two friends come online, and the second finds the buffer filled. One asks for the file
at once, the other byte by byte, from the end. -/
def twoTransfers : List Event :=
  [.connectionStatus 7 .udp (FileIo.reading (bytes "ab")),
    .fileChunkRequest 7 0 1 1 FileIo.short true,
    .connectionStatus 8 .tcp FileIo.short,
    .fileChunkRequest 8 0 0 2 FileIo.short true,
    .fileChunkRequest 7 0 0 1 FileIo.short true,
    .fileChunkRequest 7 0 2 0 FileIo.short true]

theorem twoTransfers_loads : machine.Along (LoadsFrom (bytes "ab")) init twoTransfers := by
  refine ⟨fun _ _ => FileIo.reading_reads _, ?_⟩
  intro a o hstep
  obtain ⟨rfl, -⟩ := Prod.mk.inj (Option.some.inj hstep)
  exact along_of_loaded _ _ (by decide)

/-- Both friends end up with the file. -/
theorem avatar_transfer_two :
    ∃ a outs, machine.run init twoTransfers = some (a, outs) ∧
      Reassembly.reassemble (some 0) [] (received 7 0 outs) = [some 97, some 98] ∧
      Reassembly.reassemble (some 0) [] (received 8 0 outs) = [some 97, some 98] := by
  obtain ⟨hsends, hdefined⟩ := avatar_transfer (by decide) twoTransfers_loads (by decide)
  obtain ⟨⟨a, outs⟩, hrun⟩ := Option.isSome_iff_exists.mp (hdefined (by decide))
  obtain ⟨-, hmakes⟩ := hsends a outs hrun
  exact ⟨a, outs, hrun, hmakes 7 0 (by decide) (some 0) [] (by decide),
    hmakes 8 0 (by decide) (some 0) [] (by decide)⟩

end Avatar

end FindFriendBot
