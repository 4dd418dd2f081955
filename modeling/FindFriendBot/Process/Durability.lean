import FindFriendBot.Process.Refinement
import FindFriendBot.Storage.Identity

/-!
# FindFriendBot — no friend is lost

The bot accepts a friend for good: toxcore forgets its friend list with the process,
and the next one has what `save_data_file` restores. The callbacks that change
something worth saving end with `update_savedata_file`, so the file is as good as
the last of these updates, and while one is under way as good as the last or the
next. What a file restores is a function of its bytes that stays abstract.

* `savedata_step`    — what a callback does to the files and the friends.
* `friends_durable`  — exactly when no friend is lost, wherever the process stops.
-/

namespace FindFriendBot

namespace Process

variable {σ : Type} (D : Driver σ) (cfg : Config) (restored : Bytes → List PublicKey)

/-- The friends that `tox_new` restores from these bytes are those of the list. -/
def Restores (b : Bytes) (friends : FriendList) : Prop :=
  ∀ key, key ∈ restored b ↔ some key ∈ friends.keys

/-- The next process has these friends. -/
def Keeps (fs : FileSystem) (friends : FriendList) : Prop :=
  ∃ b, Bot.createTox cfg.paths true fs = some b ∧ Restores restored b friends

/-- The callback ends with `update_savedata_file`. -/
def Event.saves : Event → Bool
  | .friend _ e => e.saves
  | .friendRequest _ => true
  | _ => false

/-- toxcore's friends after the callback. -/
def nextFriends (s : Process σ) (i : Event × Outcomes) : FriendList :=
  match i.1 with
  | .friendRequest publicKey => s.friends.addNorequest publicKey i.2.added
  | _ => s.friends

/-- No friend is lost by the callback: wherever the process stops in it, the next one has the
friends of before or of after, and at its end those of after. -/
structure Durable (s : Process σ) (s' : Process σ) (o : Output) : Prop where
  within : ∀ fs ∈ o.saves,
    Keeps cfg restored fs s.friends ∨ Keeps cfg restored fs s'.friends
  afterwards : Keeps cfg restored s'.files s'.friends

/-- What is renamed restores the friends; if nothing is, there are no new ones. -/
def SavesFriends (s : Process σ) (i : Event × Outcomes) : Prop :=
  i.1.saves = true →
    if i.2.save.rename then Restores restored (i.2.save.closed i.2.savedata) (nextFriends s i)
    else ∀ key, some key ∈ s.friends.keys ↔ some key ∈ (nextFriends s i).keys

variable {D cfg restored}

-- ---------------------------------------------------------------------------
-- One update
-- ---------------------------------------------------------------------------

/-- Only the savedata file counts. -/
theorem keeps_iff (fs : FileSystem) (friends : FriendList) :
    Keeps cfg restored fs friends ↔
      ∃ b, fs[cfg.paths.saveDataFile]? = some b ∧ Restores restored b friends := by
  unfold Keeps
  rw [Bot.createTox_eq]

theorem keeps_congr {fs fs' : FileSystem}
    (h : fs[cfg.paths.saveDataFile]? = fs'[cfg.paths.saveDataFile]?) (friends : FriendList) :
    Keeps cfg restored fs friends ↔ Keeps cfg restored fs' friends := by
  rw [keeps_iff, keeps_iff, h]

/-- **One update**, through a second file: up to the rename the savedata file is as it was. -/
theorem updateSavedataFile_spec (hne : cfg.paths.saveDataTmpFile ≠ cfg.paths.saveDataFile)
    {files files' : FileSystem} {out : Outcomes} {saves : List FileSystem}
    (h : updateSavedataFile cfg files out = some (files', saves)) :
    (∀ fs ∈ saves, fs[cfg.paths.saveDataFile]? = files[cfg.paths.saveDataFile]? ∨ fs = files') ∧
      files'[cfg.paths.saveDataFile]? =
        if out.save.rename then some (out.save.closed out.savedata)
        else files[cfg.paths.saveDataFile]? := by
  have hkeep : ∀ (fs : FileSystem) content,
      (fs.insert cfg.paths.saveDataTmpFile content)[cfg.paths.saveDataFile]? =
        fs[cfg.paths.saveDataFile]? := by
    intro fs content
    rw [FileSystem.get_insert, if_neg hne]
  unfold updateSavedataFile Assisant.updateSavedataFile at h
  cases hopen : out.save.fopen with
  | false => simp [hopen] at h
  | true =>
    simp only [hopen, if_true, Option.some.injEq, Prod.mk.injEq] at h
    obtain ⟨hlast, rfl⟩ := h
    rw [List.getLastD_eq_getLast?] at hlast
    simp only [List.getLast?_cons_cons, List.getLast?_singleton, Option.getD_some] at hlast
    refine ⟨?_, ?_⟩
    · simp only [List.forall_mem_cons, hkeep, true_or, true_and, List.not_mem_nil,
        false_implies, implies_true, and_true]
      exact Or.inr hlast
    · rw [← hlast]
      split
      · refine FileSystem.get_rename ?_ _
        rw [FileSystem.get_insert, if_pos rfl]
      · rw [hkeep, hkeep, hkeep]

/-- **One callback**: its update, if it makes one, and the friends afterwards. -/
theorem savedata_step {s s' : Process σ} {i : Event × Outcomes} {o : Output}
    (h : step D cfg s i = some (s', o)) :
    s'.friends = nextFriends s i ∧
      (if i.1.saves then updateSavedataFile cfg s.files i.2 = some (s'.files, o.saves)
        else s'.files = s.files ∧ o.saves = [] ∧ s'.friends = s.friends) := by
  obtain ⟨e, out⟩ := i
  cases e with
  | friend friendNumber e =>
    simp only [step, friendCb] at h
    -- a handler that does not return leaves nothing to save
    split at h
    · exact absurd h (by simp)
    · split at h
      · exact absurd h (by simp)
      · next files saves hsaves =>
        obtain ⟨rfl, rfl⟩ := Prod.mk.inj (Option.some.inj h)
        refine ⟨rfl, ?_⟩
        simp only [Event.saves]
        split at hsaves
        · next hyes => rw [if_pos hyes, hsaves]
        -- an event about a friend that saves nothing
        · next hno =>
          obtain ⟨rfl, rfl⟩ := Prod.mk.inj (Option.some.inj hsaves)
          rw [if_neg hno]
          exact ⟨rfl, rfl, trivial⟩
  | friendRequest publicKey =>
    simp only [step, friendRequestCb] at h
    split at h
    · exact absurd h (by simp)
    · next files saves hsaves =>
      obtain ⟨rfl, rfl⟩ := Prod.mk.inj (Option.some.inj h)
      exact ⟨rfl, hsaves⟩
  | fileChunkRequest friendNumber fileNumber position length =>
    simp only [step, fileChunkRequestCb] at h
    split at h
    · exact absurd h (by simp)
    · split at h
      · obtain ⟨rfl, rfl⟩ := Prod.mk.inj (Option.some.inj h)
        exact ⟨rfl, rfl, rfl, rfl⟩
      · exact absurd h (by simp)
  | timeout position =>
    simp only [step, timeoutCb] at h
    split at h
    · exact absurd h (by simp)
    · obtain ⟨rfl, rfl⟩ := Prod.mk.inj (Option.some.inj h)
      exact ⟨rfl, rfl, rfl, rfl⟩

/-- **One callback** loses no friend exactly if it saves them. -/
theorem durable_iff (hne : cfg.paths.saveDataTmpFile ≠ cfg.paths.saveDataFile)
    {s s' : Process σ} {i : Event × Outcomes} {o : Output}
    (h : step D cfg s i = some (s', o)) (hkeeps : Keeps cfg restored s.files s.friends) :
    Durable cfg restored s s' o ↔ SavesFriends restored s i := by
  obtain ⟨hfriends, hsaves⟩ := savedata_step h
  unfold SavesFriends
  cases hyes : i.1.saves with
  -- no save: files and list stay
  | false =>
    rw [if_neg (by rw [hyes]; exact Bool.false_ne_true)] at hsaves
    obtain ⟨hfiles, hnone, hsame⟩ := hsaves
    refine iff_of_true ⟨?_, ?_⟩ fun hno => absurd hno Bool.false_ne_true
    · rw [hnone]
      exact fun _ hfs => absurd hfs List.not_mem_nil
    · rw [hfiles, hsame]
      exact hkeeps
  | true =>
    rw [if_pos hyes] at hsaves
    obtain ⟨hwithin, hfile⟩ := updateSavedataFile_spec hne hsaves
    have hafter : Durable cfg restored s s' o ↔ Keeps cfg restored s'.files s'.friends := by
      refine ⟨Durable.afterwards, fun hafter => ⟨fun fs hfs => ?_, hafter⟩⟩
      -- every file system a reader can see during the save has the old file or the new one
      rcases hwithin fs hfs with hold | rfl
      · exact Or.inl ((keeps_congr hold s.friends).mpr hkeeps)
      · exact Or.inr hafter
    rw [hafter, keeps_iff, hfile, hfriends]
    simp only [forall_const]
    split
    · simp only [Option.some.injEq, exists_eq_left']
    · -- the old file, which restores the old friends
      obtain ⟨b, hb, hrestores⟩ := (keeps_iff s.files s.friends).mp hkeeps
      rw [hb]
      simp only [Option.some.injEq, exists_eq_left']
      exact forall_congr' fun key => by rw [hrestores key]

-- ---------------------------------------------------------------------------
-- Runs
-- ---------------------------------------------------------------------------

variable (D cfg restored)

/-- **No friend is lost.** With two names for the two files, and a file that restores the friends
the process starts with: throughout a run, and wherever it stops, the next process has the
friends of before or of after the callback that was running, exactly if every callback
survives and saves its friends. -/
theorem friends_durable (hne : cfg.paths.saveDataTmpFile ≠ cfg.paths.saveDataFile) (db : σ)
    (tox : Tox) {friends : FriendList} {files : FileSystem}
    (hkeeps : Keeps cfg restored files friends) (is : List (Event × Outcomes)) :
    (machine D cfg).EachStep (fun s _ s' o => Durable cfg restored s s' o)
        (init cfg db friends tox files) is ↔
      (machine D cfg).Along (fun s i => Survives D s i ∧ SavesFriends restored s i)
        (init cfg db friends tox files) is := by
  refine StepMachine.eachStep_iff_along
    (fun s => Steady cfg s ∧ Keeps cfg restored s.files s.friends) ?_ ?_ is _
    ⟨steady_init cfg db friends tox files, hkeeps⟩
  · rintro s i ⟨hsteady, hs⟩
    constructor
    · rintro ⟨s', o, hstep, hdurable⟩
      have hsome : ((machine D cfg).step s i).isSome := by
        rw [hstep]
        rfl
      exact ⟨(step_isSome_iff hsteady i).mp hsome, (durable_iff hne hstep hs).mp hdurable⟩
    · rintro ⟨hsurvives, hsaves⟩
      obtain ⟨⟨s', o⟩, hstep⟩ :=
        Option.isSome_iff_exists.mp ((step_isSome_iff (D := D) hsteady i).mpr hsurvives)
      exact ⟨s', o, hstep, (durable_iff hne hstep hs).mpr hsaves⟩
  · rintro s i s' o ⟨hsteady, -⟩ hstep hdurable
    exact ⟨(passesOn_of_step hsteady hstep).1, hdurable.afterwards⟩

/-- What `tox_new` makes of the sample's images: the friend is in the saved one. -/
def sampleRestored (b : Bytes) : List PublicKey := if b = bytes "saved" then [sampleKey] else []

/-- A new friend is saved in full, and then the name of that friend. -/
theorem friends_durable_request :
    (machine MySql.driver Config.sample).EachStep
      (fun s _ s' o => Durable Config.sample sampleRestored s s' o)
      (init Config.sample (MySql.holding Table.empty) FriendList.empty Tox.blank
        ((∅ : Std.ExtTreeMap Bytes Bytes).insert (bytes "group.tox") []))
      [(.friendRequest sampleKey, Outcomes.sample),
        (.friend 0 (.name (bytes "y")), Outcomes.sample)] := by
  have hone : ∀ key, key ∈ [sampleKey] ↔ some key ∈ [some sampleKey] := by simp
  refine (friends_durable MySql.driver Config.sample _ (by decide) _ _
    ⟨[], rfl, fun key => iff_of_false (by simp [sampleRestored, bytes]) List.not_mem_nil⟩ _).mpr ?_
  refine ⟨⟨rfl, fun _ => ?_⟩, ?_⟩
  · exact fun key => hone key
  · intro s o hstep
    obtain ⟨rfl, -⟩ := Prod.mk.inj (Option.some.inj hstep)
    refine ⟨⟨⟨?_, fun _ => rfl⟩, fun _ key => hone key⟩, fun _ _ _ => trivial⟩
    exact (supplied_some MySql.driver).mpr ⟨rfl, rfl, trivial⟩

end Process

end FindFriendBot
