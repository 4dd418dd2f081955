import FindFriendBot.Avatar.Chunks
import FindFriendBot.Lib.Projection

/-!
# FindFriendBot — one version of the avatar

The avatar is read in one callback and sent in many others, to many friends at once.
Meanwhile the file may be replaced, or a read may fail or come out short. None of
this mixes two versions in a transfer: the first buffer that is not empty serves the
whole process, in the offers with their hashes as in the chunks.

* `step_cutFrom`       — one callback.
* `avatar_one_version` — every run whose requests for chunks do not wrap, whatever the calls
  for the file answer.
-/

namespace FindFriendBot

namespace Avatar

/-- The sum of position and length does not wrap; toxcore asks for no byte behind the size that
it was told. -/
def Event.Unwrapped : Event → Prop
  | .connectionStatus _ _ _ => True
  | .fileChunkRequest _ _ position length _ _ => position.toNat + length.toNat < 2 ^ 64

instance : (e : Event) → Decidable e.Unwrapped
  | .connectionStatus _ _ _ => isTrue trivial
  | .fileChunkRequest _ _ position length _ _ =>
    inferInstanceAs (Decidable (position.toNat + length.toNat < 2 ^ 64))

/-- What is sent is of this buffer: an offer announces its size and hashes it, or announces an
empty file; a chunk is what the buffer has at its position. -/
def CutFrom (mem : Memory) : Sent → Prop
  | .offer x => x.fileSize = x.hashed.length ∧ (x.hashed = [] ∨ x.hashed = mem)
  | .chunk c => Reassembly.IsSlice mem (c.position.toNat, c.data) ∧ c.data.length = c.length.toNat

/-- The bytes of the buffer. -/
def bytesOf (a : Avatar) : Memory := a.data.getD []

theorem length_bytesOf (a : Avatar) : a.bytesOf.length = a.size := by
  unfold bytesOf
  cases hdata : a.data with
  | none => exact (a.size_of_none hdata).symm
  | some mem => exact a.length_eq mem hdata

theorem not_unloaded_of_size {a : Avatar} (h : 0 < a.size) : ¬ a.Unloaded := by
  intro hunloaded
  have hzero := hunloaded.size_eq
  omega

variable {a : Avatar}

/-- What `memcpy` reads below the size. -/
theorem copy_eq_slice {from_ len : Nat} (hin : from_ + len ≤ a.size) :
    a.copy from_ len = Reassembly.slice a.bytesOf from_ len := by
  have hlen : a.bytesOf.length = a.size := a.length_bytesOf
  apply List.ext_getElem?
  intro i
  unfold copy Reassembly.slice
  rw [List.getElem?_map]
  by_cases hi : i < len
  · have hlt : from_ + i < a.bytesOf.length := by omega
    rw [List.getElem?_range hi, Option.map_some, List.getElem?_take_of_lt hi, List.getElem?_drop]
    show some (a.bytesOf[from_ + i]?).join = _
    rw [List.getElem?_eq_getElem hlt, Option.join_some]
  · have hle := Nat.le_of_not_lt hi
    rw [List.getElem?_eq_none (by simpa using hle), Option.map_none,
      List.getElem?_eq_none (by rw [List.length_take]; omega)]

/-- **One callback** sends of the buffer that it leaves behind; as long as that is empty, it
sends nothing but empty offers. -/
theorem step_cutFrom {e : Event} (hunwrapped : e.Unwrapped) {a' : Avatar} {o : Option Sent}
    (h : step a e = some (a', o)) :
    ∀ sent ∈ o, CutFrom a'.bytesOf sent ∧ (a'.Unloaded → ∀ mem, CutFrom mem sent) := by
  cases e with
  | connectionStatus friendNumber status io =>
    simp only [step, Assisant.updateBotAvatar] at h
    split at h
    · obtain ⟨rfl, rfl⟩ := Prod.mk.inj (Option.some.inj h)
      -- update_bot_avatar announces the size of the buffer it has just loaded or had
      intro sent hsent
      rw [Option.map_map, Option.mem_def, Option.map_eq_some_iff] at hsent
      obtain ⟨mem, hmem, rfl⟩ := hsent
      have hsize := (a.load io).length_eq mem hmem
      have hbytes : (a.load io).bytesOf = mem := by rw [bytesOf, hmem, Option.getD_some]
      refine ⟨⟨hsize.symm, Or.inr hbytes.symm⟩, fun hempty _ => ⟨hsize.symm, Or.inl ?_⟩⟩
      exact List.eq_nil_of_length_eq_zero (hsize.trans hempty.size_eq)
    · obtain ⟨rfl, rfl⟩ := Prod.mk.inj (Option.some.inj h)
      exact fun sent hsent => absurd hsent (by simp)
  | fileChunkRequest friendNumber fileNumber position length io malloc =>
    simp only [step] at h
    split at h
    · exact absurd h (by simp)
    · next a₁ chunk hcall =>
      obtain ⟨rfl, rfl⟩ := Prod.mk.inj (Option.some.inj h)
      intro sent hsent
      obtain ⟨c, rfl, rfl⟩ := Option.map_eq_some_iff.mp hsent
      -- a chunk that is sent passed the guard
      obtain ⟨hlen, hsum, -, rfl, rfl⟩ := fileChunkRequestCb_some_iff.mp hcall
      have hnowrap : position.toNat + length.toNat < 2 ^ 64 := hunwrapped
      have hin : position.toNat + length.toNat ≤ (a.load io).size := by
        rw [UInt64.toNat_add] at hsum
        omega
      have hpos : 0 < length.toNat :=
        Nat.pos_of_ne_zero fun hzero => hlen (UInt64.toNat_inj.mp hzero)
      have hin' : position.toNat + length.toNat ≤ (a.load io).bytesOf.length := by
        rw [length_bytesOf]
        exact hin
      refine ⟨⟨⟨length.toNat, hin', copy_eq_slice hin⟩, ?_⟩, fun hempty => ?_⟩
      · rw [copy_eq_slice hin]
        exact Reassembly.length_slice hin'
      · -- an empty buffer has no byte to send
        exact absurd hempty (not_unloaded_of_size (by omega))

/-- A run from a filled buffer leaves it. -/
theorem run_loaded (hloaded : ¬ a.Unloaded) {is : List Event} {a' : Avatar}
    {outs : List (Option Sent)} (hrun : machine.run a is = some (a', outs)) : a' = a :=
  StepMachine.run_keeps (fun b => b = a)
    (fun _ _ _ _ hb _ hstep => (step_loaded (hb ▸ hloaded) hstep).trans hb)
    (StepMachine.along_of_forall (fun _ _ => trivial) a) rfl hrun

/-- **A run** sends of the buffer that it leaves behind. -/
theorem run_cutFrom {is : List Event} (hunwrapped : ∀ e ∈ is, e.Unwrapped) {a' : Avatar}
    {outs : List (Option Sent)} (hrun : machine.run a is = some (a', outs)) :
    ∀ o ∈ outs, ∀ sent ∈ o, CutFrom a'.bytesOf sent := by
  induction is generalizing a outs with
  | nil =>
    obtain ⟨-, rfl⟩ := Prod.mk.inj (Option.some.inj hrun)
    exact fun o ho => absurd ho List.not_mem_nil
  | cons e is ih =>
    obtain ⟨a₁, o, outs', hstep, hrest, rfl⟩ := StepMachine.run_cons_iff.mp hrun
    have hfirst := step_cutFrom (hunwrapped e (List.mem_cons_self ..)) hstep
    rw [List.forall_mem_cons]
    refine ⟨fun sent hsent => ?_, ih (fun x hx => hunwrapped x (List.mem_cons_of_mem _ hx)) hrest⟩
    by_cases hempty : a₁.Unloaded
    · exact (hfirst sent hsent).2 hempty _
    · exact run_loaded hempty hrest ▸ (hfirst sent hsent).1

/-- The chunks of a transfer are among what is sent. -/
theorem mem_received {friendNumber fileNumber : Nat} {outs : List (Option Sent)}
    {c : Nat × Memory} (h : c ∈ received friendNumber fileNumber outs) :
    ∃ x : FileChunk, some (.chunk x) ∈ outs ∧ c = (x.position.toNat, x.data) := by
  obtain ⟨o, ho, hc⟩ := List.mem_filterMap.mp h
  unfold ofTransfer at hc
  split at hc
  · next x =>
    split at hc
    · exact ⟨x, ho, (Option.some.inj hc).symm⟩
    · exact absurd hc (by simp)
  · exact absurd hc (by simp)
  · exact absurd hc (by simp)

/-- **One version.** In every run whose requests for chunks do not wrap, whatever becomes of the
file and whatever the calls that read it answer, there is one buffer such that all offers that
are not empty announce its size and hash it, to all friends, and every chunk is what it has at
its position; and where the chunks of a transfer cover it, written in any order into a file
that is not longer, they make it. -/
theorem avatar_one_version {is : List Event} (hunwrapped : ∀ e ∈ is, e.Unwrapped) {a : Avatar}
    {outs : List (Option Sent)} (hrun : machine.run init is = some (a, outs)) :
    ∃ mem, (∀ o ∈ outs, ∀ sent ∈ o, CutFrom mem sent) ∧
      ∀ friendNumber fileNumber,
        Reassembly.Cover mem (received friendNumber fileNumber outs) →
        ∀ pad (file : Memory), file.length ≤ mem.length →
          Reassembly.reassemble pad file (received friendNumber fileNumber outs) = mem := by
  have hcut := run_cutFrom hunwrapped hrun
  refine ⟨a.bytesOf, hcut, fun friendNumber fileNumber hcover pad file hfile => ?_⟩
  refine Reassembly.reassemble_eq pad hfile (fun c hc => ?_) hcover
  obtain ⟨x, hx, rfl⟩ := mem_received hc
  exact (hcut _ hx (.chunk x) rfl).1

/-- The file is replaced before the second friend comes online. -/
def replacedFile : List Event :=
  [.connectionStatus 7 .udp (FileIo.reading (bytes "ab")),
    .connectionStatus 8 .tcp (FileIo.reading (bytes "new")),
    .fileChunkRequest 8 0 0 2 (FileIo.reading (bytes "new")) true]

/-- The second friend is offered the old one, and that is what the chunks make. -/
theorem avatar_one_version_replaced :
    ∃ a outs, machine.run init replacedFile = some (a, outs) ∧
      Reassembly.reassemble none [] (received 8 0 outs) = (bytes "ab").map some := by
  obtain ⟨a, outs, hrun, hoffer, hreceived⟩ : ∃ a outs,
      machine.run init replacedFile = some (a, outs) ∧
        some (.offer ⟨8, 2, (bytes "ab").map some⟩) ∈ outs ∧
        received 8 0 outs = [(0, (bytes "ab").map some)] :=
    ⟨_, _, rfl, by decide, by decide⟩
  have hunwrapped : ∀ e ∈ replacedFile, e.Unwrapped := by decide
  obtain ⟨mem, hcut, hmade⟩ := avatar_one_version hunwrapped hrun
  -- the offer is not empty, so it names the one buffer
  obtain hnil | rfl := (hcut _ hoffer _ rfl).2
  · exact absurd hnil (by decide)
  · refine ⟨a, outs, hrun, hmade 8 0 ?_ none [] (Nat.zero_le _)⟩
    rw [hreceived]
    intro i hi
    exact ⟨_, List.mem_singleton_self _, Nat.zero_le i, by simpa using hi⟩

end Avatar

end FindFriendBot
