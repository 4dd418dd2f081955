import FindFriendBot.Model.Avatar

/-!
# FindFriendBot — what `get_data` returns

`get_data` narrows the length of the file to 32 bits, logs a short read without
acting on it, and publishes the size in either case. Both callers then trust the
buffer: the connection callback offers it to friends, `bootstrap` parses it.

* `getData_exact_iff`  — when the buffer is the file.
* `get_data_sound_iff` — when `get_data` is exact or fails, for it and its callers.
-/

namespace FindFriendBot

/-- These are bytes of the file, from its start on, and nothing else. -/
def FileBytes (content : Bytes) (mem : Memory) : Prop := mem <+: content.map some

instance (content : Bytes) (mem : Memory) : Decidable (FileBytes content mem) :=
  inferInstanceAs (Decidable (mem <+: content.map some))

/-- What the callers of `get_data` rely on: the buffer is the file and `file_size` its
length, or there is no buffer and `file_size` is as before; the avatar that both
callbacks send from and the text that `bootstrap` parses, whatever lies behind the buffer,
are bytes of the file. -/
structure GetDataSound (io : FileIo) (fileSize : Nat) : Prop where
  exactOrFails :
    Assisant.getData io fileSize = (some (io.content.map some), io.content.length) ∨
      Assisant.getData io fileSize = (none, fileSize)
  avatar : ∀ a : Avatar, a.Unloaded → ∀ mem, (a.load io).data = some mem →
    FileBytes io.content mem
  nodes : ∀ buffer bufSize, Assisant.getData io 0 = (some buffer, bufSize) →
    ∀ beyond text, Bot.jsonBuf (buffer ++ beyond) bufSize = some text →
      FileBytes io.content (text.map some)

namespace FileIo

variable {io : FileIo}

/-- A buffer that `fread` did not fill ends in bytes that nothing was written to. -/
theorem none_mem_buffer (h : io.read.length < io.size) : none ∈ io.buffer := by
  refine List.mem_append_right _ (List.mem_replicate.mpr ⟨?_, rfl⟩)
  omega

/-- **The buffer is the file** exactly if its length survives the narrowing and `fread`
delivers all of it. -/
theorem buffer_eq_iff :
    (io.buffer = io.content.map some ∧ io.size = io.content.length) ↔
      io.size = io.content.length ∧ io.content.length ≤ io.fread := by
  constructor
  · rintro ⟨hbuffer, hsize⟩
    refine ⟨hsize, ?_⟩
    by_contra hshort
    have hread : io.read.length < io.size := by
      rw [read, List.length_take]
      omega
    have hnone : none ∈ io.content.map some := hbuffer ▸ none_mem_buffer hread
    simp at hnone
  · rintro ⟨hsize, hfread⟩
    have hread : io.read = io.content := by
      rw [read, hsize, Nat.min_eq_right hfread, List.take_length]
    refine ⟨?_, hsize⟩
    rw [buffer, hread, hsize, Nat.sub_self, List.replicate_zero, List.append_nil]

end FileIo

/-- **`get_data`** is exact or fails. -/
theorem getData_exact_iff (io : FileIo) (fileSize : Nat) :
    (Assisant.getData io fileSize = (some (io.content.map some), io.content.length) ∨
        Assisant.getData io fileSize = (none, fileSize)) ↔
      io.fopen = false ∨ io.malloc = false ∨
        io.size = io.content.length ∧ io.content.length ≤ io.fread := by
  unfold Assisant.getData
  by_cases hopen : io.fopen = false
  · simp [hopen]
  · by_cases halloc : io.malloc = false
    · simp [halloc]
    · rw [if_neg hopen, if_neg halloc, ← FileIo.buffer_eq_iff]
      simp [hopen, halloc]

/-- What a load leaves is what `get_data` returned. -/
theorem Avatar.load_data {a : Avatar} (h : a.Unloaded) (io : FileIo) :
    (a.load io).data = (Assisant.getData io a.size).1 := by
  rw [load, dif_pos h]

/-- A string is what the memory at its `char*` begins with. -/
theorem Memory.begins_of_cString {mem : Memory} {text : Bytes} (h : mem.cString = some text) :
    text.map some <+: mem := by
  induction mem generalizing text with
  | nil => exact absurd h (by simp [cString])
  | cons b mem ih =>
    cases b with
    | none => exact absurd h (by simp [cString])
    | some b =>
      rw [cString] at h
      split at h
      · obtain rfl := Option.some.inj h
        exact List.nil_prefix
      · obtain ⟨rest, hrest, rfl⟩ := Option.map_eq_some_iff.mp h
        rw [List.map_cons]
        exact (List.prefix_cons_inj _).mpr (ih hrest)

/-- The text that `bootstrap` parses is the beginning of the buffer, whatever lies behind
it. -/
theorem begins_of_jsonBuf {buffer beyond : Memory} {text : Bytes}
    (h : Bot.jsonBuf (buffer ++ beyond) buffer.length = some text) :
    text.map some <+: buffer := by
  obtain ⟨whole, hwhole, rfl⟩ := Option.map_eq_some_iff.mp h
  -- both are beginnings of the memory, and the text is not longer
  refine List.prefix_of_prefix_length_le ?_ (List.prefix_append buffer beyond) ?_
  · rw [List.map_take]
    exact (List.take_prefix _ _).trans (Memory.begins_of_cString hwhole)
  · rw [List.length_map, List.length_take]
    exact Nat.min_le_left _ _

/-- **`get_data` is exact or fails**, and its callers see bytes of the file only, exactly if
`fopen` or `malloc` fails, or the length of the file survives its narrowing to 32 bits
and `fread` delivers all of it. -/
theorem get_data_sound_iff (io : FileIo) (fileSize : Nat) :
    GetDataSound io fileSize ↔
      io.fopen = false ∨ io.malloc = false ∨
        io.size = io.content.length ∧ io.content.length ≤ io.fread := by
  constructor
  · exact fun h => (getData_exact_iff io fileSize).mp h.exactOrFails
  · intro hcond
    have hbytes : ∀ size mem size', Assisant.getData io size = (some mem, size') →
        FileBytes io.content mem := by
      intro size mem size' hdata
      rcases (getData_exact_iff io size).mpr hcond with hexact | hfails
      -- the buffer is the file's, exactly
      · have hmem := congrArg Prod.fst (hdata.symm.trans hexact)
        rw [Option.some.inj hmem]
        exact List.prefix_rfl
      · have hmem := congrArg Prod.fst (hdata.symm.trans hfails)
        exact absurd hmem (by simp)
    refine ⟨(getData_exact_iff io fileSize).mpr hcond, ?_, ?_⟩
    · intro a hunloaded mem hmem
      -- an avatar that was loaded is not read again
      rw [Avatar.load_data hunloaded] at hmem
      exact hbytes a.size mem _ (Prod.ext hmem rfl)
    · intro buffer bufSize hdata beyond text htext
      -- bufSize is what get_data allocated
      have hsize : bufSize = buffer.length := by
        unfold Assisant.getData at hdata
        split at hdata
        · exact absurd (congrArg Prod.fst hdata) (by simp)
        · split at hdata
          · exact absurd (congrArg Prod.fst hdata) (by simp)
          · obtain ⟨hbuffer, rfl⟩ := Prod.mk.inj hdata
            rw [← Option.some.inj hbuffer, io.length_buffer]
      subst hsize
      exact (begins_of_jsonBuf htext).trans (hbytes 0 buffer _ hdata)

/-- The file is read without an error. -/
structure FileIo.Reads (io : FileIo) (content : Bytes) : Prop where
  content_eq : io.content = content
  fopen : io.fopen = true
  ftell : io.ftell = content.length
  malloc : io.malloc = true
  fread : content.length ≤ io.fread

theorem FileIo.Reads.size_eq {io : FileIo} {content : Bytes} (h : io.Reads content)
    (hlt : content.length < 2 ^ 32) : io.size = content.length := by
  rw [FileIo.size, h.ftell]
  omega

/-- Without an error a file below 4 GiB is read exactly. -/
theorem FileIo.Reads.getData {io : FileIo} {content : Bytes} (h : io.Reads content)
    (hlt : content.length < 2 ^ 32) (fileSize : Nat) :
    Assisant.getData io fileSize = (some (content.map some), content.length) := by
  have hsize := h.size_eq hlt
  obtain ⟨hbuffer, -⟩ := FileIo.buffer_eq_iff.mpr
    ⟨h.content_eq.symm ▸ hsize, h.content_eq.symm ▸ h.fread⟩
  rw [Assisant.getData, if_neg (by simp [h.fopen]), if_neg (by simp [h.malloc]), hbuffer, hsize,
    h.content_eq]

/-- All calls succeed. -/
def FileIo.reading (content : Bytes) : FileIo where
  content := content
  fopen := true
  ftell := content.length
  malloc := true
  fread := content.length

theorem FileIo.reading_reads (content : Bytes) : (FileIo.reading content).Reads content :=
  ⟨rfl, rfl, rfl, rfl, Nat.le_refl _⟩

/-- Two bytes, of which `fread` delivers one. -/
def FileIo.short : FileIo where
  content := bytes "ab"
  fopen := true
  ftell := 2
  malloc := true
  fread := 1

/-- After a short read the avatar has a byte that is not in the file. -/
theorem short_read_kept :
    Assisant.getData FileIo.short 0 = (some [some 97, none], 2) ∧
      ¬ GetDataSound FileIo.short 0 := by
  refine ⟨by decide, ?_⟩
  intro h
  have hprefix := h.avatar Avatar.init (by decide) [some 97, none] (by decide)
  exact absurd hprefix (by decide)

end FindFriendBot
