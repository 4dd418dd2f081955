import FindFriendBot.Model.Savedata

/-!
# FindFriendBot — the saved identity

Writing to a second file and renaming it protects the savedata only if the
rename is skipped when the second file is not complete. `update_savedata_file`
renames whatever is there: after a short `fwrite` or a failed `fclose` the
identity is gone. With one name for both files `fopen` has truncated it before
that.

* `identity_survives_iff` — for every pattern of failures.
-/

namespace FindFriendBot

/-- `save_data_file` holds one of the two images, and so does what `create_tox` reads. -/
structure HoldsImage (paths : SavePaths) (prev savedata : Bytes) (fs : FileSystem) : Prop where
  file : fs[paths.saveDataFile]? = some prev ∨ fs[paths.saveDataFile]? = some savedata
  restart : ∀ fopen b, Bot.createTox paths fopen fs = some b → b = prev ∨ b = savedata

/-- The update has no undefined behaviour, and before it and after each of its calls
the file holds one of the images. -/
def IdentitySurvives (paths : SavePaths) (prev savedata : Bytes) (faults : SaveFaults)
    (fs : FileSystem) : Prop :=
  ∃ states, Assisant.updateSavedataFile paths savedata faults fs = some states ∧
    ∀ fs' ∈ fs :: states, HoldsImage paths prev savedata fs'

/-- The stream opens, and what is renamed, if it is, is one of the images; if the two
names are the same, so is everything the file holds in between. -/
def SaveFaults.Harmless (faults : SaveFaults) (paths : SavePaths) (prev savedata : Bytes) :
    Prop :=
  faults.fopen ∧
    if paths.saveDataTmpFile = paths.saveDataFile then
      ∀ content ∈ [[], faults.written savedata, faults.closed savedata],
        content = prev ∨ content = savedata
    else faults.rename → faults.closed savedata = prev ∨ faults.closed savedata = savedata

-- ---------------------------------------------------------------------------
-- The file system
-- ---------------------------------------------------------------------------

theorem FileSystem.get_insert (fs : FileSystem) (name content name' : Bytes) :
    (fs.insert name content)[name']? = if name = name' then some content else fs[name']? :=
  OrderedMap.get_insert ..

/-- After the rename of a file that is there. -/
theorem FileSystem.get_rename {fs : FileSystem} {old content : Bytes}
    (h : fs[old]? = some content) (new : Bytes) :
    (FileSystem.rename fs old new)[new]? = some content := by
  unfold FileSystem.rename
  rw [h]
  show (if old = new then fs else (fs.erase old).insert new content)[new]? = _
  split
  · next heq => rw [← heq, h]
  · rw [FileSystem.get_insert, if_pos rfl]

/-- `create_tox` hands on the whole file. -/
theorem Bot.createTox_eq (paths : SavePaths) (fs : FileSystem) :
    Bot.createTox paths true fs = fs[paths.saveDataFile]? := by
  unfold Bot.createTox
  cases fs[paths.saveDataFile]? with
  | none => rfl
  | some content => simp

theorem holdsImage_iff (paths : SavePaths) (prev savedata : Bytes) (fs : FileSystem) :
    HoldsImage paths prev savedata fs ↔
      ∃ content, fs[paths.saveDataFile]? = some content ∧
        (content = prev ∨ content = savedata) := by
  constructor
  · rintro ⟨hprev | hnew, -⟩
    · exact ⟨prev, hprev, Or.inl rfl⟩
    · exact ⟨savedata, hnew, Or.inr rfl⟩
  · rintro ⟨content, hcontent, himage⟩
    constructor
    · rw [hcontent, Option.some.injEq, Option.some.injEq]
      exact himage
    · intro fopen b hb
      -- a start reads the file that was there
      cases fopen with
      | false => exact absurd hb (by simp [Bot.createTox])
      | true =>
        rw [Bot.createTox_eq, hcontent, Option.some.injEq] at hb
        exact hb ▸ himage

theorem holdsImage_insert_iff (paths : SavePaths) (prev savedata : Bytes) (fs : FileSystem)
    (content : Bytes) :
    HoldsImage paths prev savedata (fs.insert paths.saveDataFile content) ↔
      content = prev ∨ content = savedata := by
  rw [holdsImage_iff, FileSystem.get_insert, if_pos rfl]
  constructor
  · rintro ⟨b, hb, himage⟩
    exact Option.some.inj hb ▸ himage
  · intro himage
    exact ⟨content, rfl, himage⟩

/-- Another file does not matter. -/
theorem holdsImage_insert_of_ne {paths : SavePaths} {name : Bytes} (hne : name ≠ paths.saveDataFile)
    (prev savedata : Bytes) (fs : FileSystem) (content : Bytes) :
    HoldsImage paths prev savedata (fs.insert name content) ↔
      HoldsImage paths prev savedata fs := by
  rw [holdsImage_iff, holdsImage_iff, FileSystem.get_insert, if_neg hne]

theorem FileSystem.rename_self (fs : FileSystem) (name : Bytes) :
    FileSystem.rename fs name name = fs := by
  unfold FileSystem.rename
  split
  · rfl
  · exact if_pos rfl

-- ---------------------------------------------------------------------------
-- One update
-- ---------------------------------------------------------------------------

/-- The steps of an update through a second file: only the rename matters. -/
theorem survives_tmp_iff {paths : SavePaths} (hne : paths.saveDataTmpFile ≠ paths.saveDataFile)
    {prev savedata : Bytes} {faults : SaveFaults} {fs : FileSystem}
    (hprev : fs[paths.saveDataFile]? = some prev) (hopen : faults.fopen = true) :
    IdentitySurvives paths prev savedata faults fs ↔
      (faults.rename = true →
        faults.closed savedata = prev ∨ faults.closed savedata = savedata) := by
  have hfs : HoldsImage paths prev savedata fs :=
    (holdsImage_iff ..).mpr ⟨prev, hprev, Or.inl rfl⟩
  -- the temporary file can be written to as it likes
  have htmp : ∀ (fs : FileSystem) content, HoldsImage paths prev savedata fs →
      HoldsImage paths prev savedata (fs.insert paths.saveDataTmpFile content) :=
    fun fs content h => (holdsImage_insert_of_ne hne prev savedata fs content).mpr h
  have hopened := htmp fs [] hfs
  have hwritten := htmp _ (faults.written savedata) hopened
  have hclosed := htmp _ (faults.closed savedata) hwritten
  unfold IdentitySurvives Assisant.updateSavedataFile
  simp only [hopen, if_true, Option.some.injEq, exists_eq_left', List.forall_mem_cons, hfs,
    hopened, hwritten, hclosed, true_and, List.not_mem_nil, false_implies, implies_true, and_true]
  -- all hangs on the rename, if it happens
  split
  · next hrename =>
    have hcontent : (((fs.insert paths.saveDataTmpFile []).insert paths.saveDataTmpFile
        (faults.written savedata)).insert paths.saveDataTmpFile
          (faults.closed savedata))[paths.saveDataTmpFile]? = some (faults.closed savedata) := by
      rw [FileSystem.get_insert, if_pos rfl]
    rw [holdsImage_iff, FileSystem.get_rename hcontent paths.saveDataFile]
    constructor
    · rintro ⟨b, hb, himage⟩ -
      exact Option.some.inj hb ▸ himage
    · intro himage
      exact ⟨_, rfl, himage hrename⟩
  · next hno => exact iff_of_true hclosed fun hrename => absurd hrename hno

/-- With one name for both files every step shows. -/
theorem survives_same_iff {paths : SavePaths} (heq : paths.saveDataTmpFile = paths.saveDataFile)
    {prev savedata : Bytes} {faults : SaveFaults} {fs : FileSystem}
    (hprev : fs[paths.saveDataFile]? = some prev) (hopen : faults.fopen = true) :
    IdentitySurvives paths prev savedata faults fs ↔
      ∀ content ∈ [[], faults.written savedata, faults.closed savedata],
        content = prev ∨ content = savedata := by
  have hfs : HoldsImage paths prev savedata fs :=
    (holdsImage_iff ..).mpr ⟨prev, hprev, Or.inl rfl⟩
  unfold IdentitySurvives Assisant.updateSavedataFile
  -- with one name for both, every write hits the file itself
  simp only [hopen, if_true, heq, FileSystem.rename_self, ite_self, Option.some.injEq,
    exists_eq_left', List.forall_mem_cons, hfs, holdsImage_insert_iff, true_and, List.not_mem_nil,
    false_implies, implies_true, and_true]
  exact ⟨fun h => ⟨h.1, h.2.1, h.2.2.1⟩, fun h => ⟨h.1, h.2.1, h.2.2, h.2.2⟩⟩

/-- **The saved identity survives** an update exactly if its failures are harmless: for
every savedata, every pattern of failures, every pair of file names, and
wherever the process stops. -/
theorem identity_survives_iff (paths : SavePaths) (savedata : Bytes) (faults : SaveFaults)
    {prev : Bytes} {fs : FileSystem} (hprev : fs[paths.saveDataFile]? = some prev) :
    IdentitySurvives paths prev savedata faults fs ↔ faults.Harmless paths prev savedata := by
  unfold SaveFaults.Harmless
  cases hopen : faults.fopen with
  | false =>
    -- fwrite gets a null stream
    refine iff_of_false ?_ fun h => absurd h.1 Bool.false_ne_true
    intro h
    obtain ⟨states, hrun, -⟩ := h
    exact absurd hrun (by simp [Assisant.updateSavedataFile, hopen])
  | true =>
    simp only [true_and]
    by_cases heq : paths.saveDataTmpFile = paths.saveDataFile
    · rw [if_pos heq]
      exact survives_same_iff heq hprev hopen
    · rw [if_neg heq]
      exact survives_tmp_iff heq hprev hopen

/-- The names of the shipped configuration. -/
def SavePaths.sample : SavePaths where
  saveDataFile := bytes "/data/res/group.tox"
  saveDataTmpFile := bytes "/data/res/group.tox.tmp"

/-- The disk with the previous image on it. -/
def FileSystem.sample : FileSystem :=
  (∅ : Std.ExtTreeMap Bytes Bytes).insert SavePaths.sample.saveDataFile (bytes "old")

/-- A failed rename leaves the previous image, and a complete `fwrite` makes the new one. -/
theorem identity_survives_iff_rename :
    IdentitySurvives SavePaths.sample (bytes "old") (bytes "new")
        { fopen := true, fwrite := 1, fclose := none, rename := false } FileSystem.sample ∧
      IdentitySurvives SavePaths.sample (bytes "old") (bytes "new")
        { fopen := true, fwrite := 3, fclose := none, rename := true } FileSystem.sample := by
  have hne : SavePaths.sample.saveDataTmpFile ≠ SavePaths.sample.saveDataFile := by decide
  constructor
  · refine (identity_survives_iff SavePaths.sample (bytes "new") _ rfl).mpr ⟨rfl, ?_⟩
    rw [if_neg hne]
    exact fun hrename => absurd hrename Bool.false_ne_true
  · refine (identity_survives_iff SavePaths.sample (bytes "new") _ rfl).mpr ⟨rfl, ?_⟩
    rw [if_neg hne]
    exact fun _ => Or.inr (by decide)

/-- A short `fwrite` and a successful rename: one byte of the new image is all that
`create_tox` finds. -/
theorem short_write_destroys :
    FileSystem.sample[SavePaths.sample.saveDataFile]? = some (bytes "old") ∧
      ¬ IdentitySurvives SavePaths.sample (bytes "old") (bytes "new")
        { fopen := true, fwrite := 1, fclose := none, rename := true } FileSystem.sample := by
  refine ⟨rfl, ?_⟩
  intro h
  obtain ⟨states, hrun, hall⟩ := h
  obtain rfl := Option.some.inj hrun
  have hlast := hall _ (List.mem_cons_of_mem _ (List.mem_cons_of_mem _ (List.mem_cons_of_mem _
    (List.mem_cons_of_mem _ (List.mem_cons_self ..)))))
  have hread := hlast.restart true (bytes "n") rfl
  exact absurd hread (by decide)

end FindFriendBot
