import FindFriendBot.Process.Durability
import FindFriendBot.Process.FriendNumbers

/-!
# FindFriendBot — one process after the other

A process reads the savedata file, saves it again and then handles callbacks until it
is stopped, between two of them or in the middle of an update of the file. The next
process has nothing but the table and the files. If each process can open the file
that is there, and what is saved always restores the friends there are, then a friend
once accepted is a friend of all later processes, wherever each of them stops.

* `update_holds`       — one update of the savedata file.
* `live_grows`         — one process.
* `friends_accumulate` — any number of them.
-/

namespace FindFriendBot

namespace Process

/-- What a process leaves behind. -/
structure Disk (σ : Type) where
  db : σ
  files : FileSystem

/-- How far a process gets: it stops in the update that `main` makes, between callbacks, or in
the update at the end of one more callback; `calls` are those of the update that returned
before the last one did. -/
inductive Course
  | starting (calls : Nat)
  | between (is : List (Event × Outcomes))
  | updating (is : List (Event × Outcomes)) (i : Event × Outcomes) (calls : Nat)

/-- A process: whether `create_tox` can open the savedata file, what else `main` gets from the
calls it makes, the profiles that toxcore has, and how far the process gets. -/
structure Life where
  fopen : Bool
  out : Outcomes
  tox : Tox
  course : Course

variable {σ : Type} (D : Driver σ) (cfg : Config) (toxNew : Option Bytes → FriendList)

/-- The friends that a process starts with; `tox_new` has them from the savedata. -/
def friendsOf (fopen : Bool) (files : FileSystem) : FriendList :=
  toxNew (Bot.createTox cfg.paths fopen files)

/-- `main` up to its loop. -/
def start (disk : Disk σ) (l : Life) : Option (Process σ × List FileSystem) :=
  match updateSavedataFile cfg disk.files l.out with
  | none => none
  | some (files, saves) =>
    some (init cfg disk.db (friendsOf cfg toxNew l.fopen disk.files) l.tox files, saves)

/-- A process, from its start to where it stops: what it leaves behind, and the friends that it
had when it last was between callbacks. -/
def live (disk : Disk σ) (l : Life) : Option (Disk σ × FriendList) :=
  match start cfg toxNew disk l with
  | none => none
  | some (s, saves) =>
    match l.course with
    | .starting calls =>
      match saves[calls]? with
      | none => none
      | some files => some (⟨disk.db, files⟩, s.friends)
    | .between is =>
      match (machine D cfg).run s is with
      | none => none
      | some (t, _) => some (⟨t.session.db, t.files⟩, t.friends)
    | .updating is i calls =>
      match (machine D cfg).run s is with
      | none => none
      | some (t, _) =>
        match step D cfg t i with
        | none => none
        | some (t', o) =>
          match o.saves[calls]? with
          | none => none
          | some files => some (⟨t'.session.db, files⟩, t.friends)

/-- Processes, one after the other. -/
def lives : StepMachine (Disk σ) Life FriendList where
  step := live D cfg toxNew

/-- The friends that these bytes restore. -/
def restoredBy (b : Bytes) : List PublicKey := (toxNew (some b)).keys.filterMap id

/-- The callbacks of a process. -/
def Course.callbacks : Course → List (Event × Outcomes)
  | .starting _ => []
  | .between is => is
  | .updating is i _ => is ++ [i]

/-- A process that can open the savedata file, if there is one, and whose updates save the
friends it has. -/
def Careful (disk : Disk σ) (l : Life) : Prop :=
  l.fopen = true ∧
    (l.out.save.rename = true → Restores (restoredBy toxNew) (l.out.save.closed l.out.savedata)
      (friendsOf cfg toxNew true disk.files)) ∧
    ∀ s saves, start cfg toxNew disk l = some (s, saves) →
      (machine D cfg).Along (fun s i => SavesFriends (restoredBy toxNew) s i) s l.course.callbacks

/-- All friends of the one list are in the other. -/
def Includes (friends friends' : FriendList) : Prop :=
  ∀ key, some key ∈ friends.keys → some key ∈ friends'.keys

/-- The next process has these friends. -/
def Holds (files : FileSystem) (friends : FriendList) : Prop :=
  ∀ key, some key ∈ (friendsOf cfg toxNew true files).keys ↔ some key ∈ friends.keys

variable {D cfg toxNew}

theorem Includes.trans {friends friends' friends'' : FriendList} (h : Includes friends friends')
    (h' : Includes friends' friends'') : Includes friends friends'' :=
  fun key hkey => h' key (h key hkey)

theorem Holds.includes {files : FileSystem} {friends : FriendList}
    (h : Holds cfg toxNew files friends) : Includes friends (friendsOf cfg toxNew true files) :=
  fun key hkey => (h key).mpr hkey

-- ---------------------------------------------------------------------------
-- One update
-- ---------------------------------------------------------------------------

theorem friendsOf_congr {files files' : FileSystem}
    (h : files'[cfg.paths.saveDataFile]? = files[cfg.paths.saveDataFile]?) :
    friendsOf cfg toxNew true files' = friendsOf cfg toxNew true files := by
  unfold friendsOf
  rw [Bot.createTox_eq, Bot.createTox_eq, h]

/-- **One update** restores the friends of before up to the rename, and after it those that
were saved. -/
theorem update_holds (hne : cfg.paths.saveDataTmpFile ≠ cfg.paths.saveDataFile)
    {files files' : FileSystem} {out : Outcomes} {saves : List FileSystem}
    (h : updateSavedataFile cfg files out = some (files', saves)) {friends friends' : FriendList}
    (hholds : Holds cfg toxNew files friends)
    (hsaved : if out.save.rename then
        Restores (restoredBy toxNew) (out.save.closed out.savedata) friends'
      else ∀ key, some key ∈ friends.keys ↔ some key ∈ friends'.keys) :
    Holds cfg toxNew files' friends' ∧
      ∀ fs ∈ saves, Holds cfg toxNew fs friends ∨ Holds cfg toxNew fs friends' := by
  obtain ⟨hwithin, hfile⟩ := updateSavedataFile_spec hne h
  have hafter : Holds cfg toxNew files' friends' := by
    intro key
    cases hrename : out.save.rename with
    | true =>
      rw [hrename, if_pos rfl] at hfile hsaved
      have hcreate : friendsOf cfg toxNew true files' =
          toxNew (some (out.save.closed out.savedata)) := by
        unfold friendsOf
        rw [Bot.createTox_eq, hfile]
      rw [hcreate, ← hsaved key, restoredBy, List.mem_filterMap]
      exact ⟨fun hkey => ⟨some key, hkey, rfl⟩, fun ⟨_, hold, heq⟩ => heq ▸ hold⟩
    | false =>
      rw [hrename, if_neg Bool.false_ne_true] at hfile hsaved
      rw [friendsOf_congr hfile, hholds key, hsaved key]
  refine ⟨hafter, fun fs hfs => ?_⟩
  rcases hwithin fs hfs with hold | rfl
  · refine Or.inl fun key => ?_
    rw [friendsOf_congr hold]
    exact hholds key
  · exact Or.inr hafter

-- ---------------------------------------------------------------------------
-- One callback
-- ---------------------------------------------------------------------------

/-- No callback takes a friend away. -/
theorem includes_nextFriends (s : Process σ) (i : Event × Outcomes) :
    Includes s.friends (nextFriends s i) := by
  obtain ⟨e, out⟩ := i
  cases e with
  | friendRequest publicKey =>
    intro key hkey
    obtain ⟨n, hn⟩ := List.getElem?_of_mem hkey
    have hkept := FriendList.publicKey_addNorequest
      (FriendList.publicKey_eq_some_iff.mpr hn) publicKey out.added
    exact List.mem_of_getElem? (FriendList.publicKey_eq_some_iff.mp hkept)
  | friend _ _ => exact fun _ hkey => hkey
  | fileChunkRequest _ _ _ _ => exact fun _ hkey => hkey
  | timeout _ => exact fun _ hkey => hkey

/-- **One callback** that saves its friends: the next process has those of before or of after. -/
theorem holds_step (hne : cfg.paths.saveDataTmpFile ≠ cfg.paths.saveDataFile) {s s' : Process σ}
    {i : Event × Outcomes} {o : Output} (h : step D cfg s i = some (s', o))
    (hholds : Holds cfg toxNew s.files s.friends)
    (hsaves : SavesFriends (restoredBy toxNew) s i) :
    Includes s.friends s'.friends ∧ Holds cfg toxNew s'.files s'.friends ∧
      ∀ fs ∈ o.saves, Includes s.friends (friendsOf cfg toxNew true fs) := by
  obtain ⟨hfriends, hupdate⟩ := savedata_step h
  have hgrows : Includes s.friends s'.friends := hfriends ▸ includes_nextFriends s i
  cases hyes : i.1.saves with
  | false =>
    rw [if_neg (by rw [hyes]; exact Bool.false_ne_true)] at hupdate
    obtain ⟨hfiles, hnone, hsame⟩ := hupdate
    refine ⟨hgrows, ?_, ?_⟩
    · rw [hfiles, hsame]
      exact hholds
    · rw [hnone]
      exact fun _ hfs => absurd hfs List.not_mem_nil
  | true =>
    rw [if_pos hyes] at hupdate
    obtain ⟨hafter, hwithin⟩ := update_holds hne hupdate hholds (hsaves hyes)
    rw [← hfriends] at hafter hwithin
    refine ⟨hgrows, hafter, fun fs hfs => ?_⟩
    rcases hwithin fs hfs with hold | hnew
    · exact hold.includes
    · exact hgrows.trans hnew.includes

/-- Callbacks that save their friends. -/
theorem holds_run (hne : cfg.paths.saveDataTmpFile ≠ cfg.paths.saveDataFile) {s t : Process σ}
    {is : List (Event × Outcomes)} {os : List Output}
    (halong : (machine D cfg).Along (fun s i => SavesFriends (restoredBy toxNew) s i) s is)
    (hholds : Holds cfg toxNew s.files s.friends)
    (hrun : (machine D cfg).run s is = some (t, os)) :
    Includes s.friends t.friends ∧ Holds cfg toxNew t.files t.friends := by
  refine StepMachine.run_keeps
    (fun t => Includes s.friends t.friends ∧ Holds cfg toxNew t.files t.friends) ?_ halong
    ⟨fun _ hkey => hkey, hholds⟩ hrun
  rintro t i t' o ⟨hgrows, hholds⟩ hsaves hstep
  obtain ⟨hgrows', hholds', -⟩ := holds_step hne hstep hholds hsaves
  exact ⟨hgrows.trans hgrows', hholds'⟩

-- ---------------------------------------------------------------------------
-- Processes
-- ---------------------------------------------------------------------------

/-- **`main`** saves the friends that it restored. -/
theorem start_holds (hne : cfg.paths.saveDataTmpFile ≠ cfg.paths.saveDataFile) {disk : Disk σ}
    {l : Life} {s : Process σ} {saves : List FileSystem} (hopen : l.fopen = true)
    (hsaved : l.out.save.rename = true → Restores (restoredBy toxNew)
      (l.out.save.closed l.out.savedata) (friendsOf cfg toxNew true disk.files))
    (h : start cfg toxNew disk l = some (s, saves)) :
    s.friends = friendsOf cfg toxNew true disk.files ∧ Holds cfg toxNew s.files s.friends ∧
      ∀ fs ∈ saves, Holds cfg toxNew fs s.friends := by
  unfold start at h
  split at h
  · exact absurd h (by simp)
  · next files saves' hupdate =>
    obtain ⟨rfl, rfl⟩ := Prod.mk.inj (Option.some.inj h)
    rw [hopen]
    have hkept : if l.out.save.rename then
        Restores (restoredBy toxNew) (l.out.save.closed l.out.savedata)
          (friendsOf cfg toxNew true disk.files)
        else ∀ key, some key ∈ (friendsOf cfg toxNew true disk.files).keys ↔
          some key ∈ (friendsOf cfg toxNew true disk.files).keys := by
      split
      · next hrename => exact hsaved hrename
      · exact fun _ => Iff.rfl
    obtain ⟨hafter, hwithin⟩ := update_holds hne hupdate (fun _ => Iff.rfl) hkept
    exact ⟨rfl, hafter, fun fs hfs => (hwithin fs hfs).elim id id⟩

/-- **One process** starts with the friends that the file restores, and the next one has all
friends that it had. -/
theorem live_grows (hne : cfg.paths.saveDataTmpFile ≠ cfg.paths.saveDataFile)
    {disk disk' : Disk σ} {l : Life} {friends : FriendList}
    (hcareful : Careful D cfg toxNew disk l)
    (h : live D cfg toxNew disk l = some (disk', friends)) :
    Includes (friendsOf cfg toxNew true disk.files) friends ∧
      Includes friends (friendsOf cfg toxNew true disk'.files) := by
  obtain ⟨hopen, hsaved, halong⟩ := hcareful
  unfold live at h
  cases hstart : start cfg toxNew disk l with
  | none => simp [hstart] at h
  | some r =>
    obtain ⟨s, saves⟩ := r
    -- the friends at the start are those that the disk restores
    obtain ⟨hfriends, hholds, hwithin⟩ := start_holds hne hopen hsaved hstart
    replace halong := halong s saves hstart
    simp only [hstart] at h
    rw [← hfriends]
    cases hcourse : l.course with
    -- stopped while the start saves: some prefix of the file calls was made
    | starting calls =>
      simp only [hcourse] at h
      split at h
      · exact absurd h (by simp)
      · next files hfiles =>
        obtain ⟨rfl, rfl⟩ := Prod.mk.inj (Option.some.inj h)
        exact ⟨fun _ hkey => hkey, (hwithin files (List.mem_of_getElem? hfiles)).includes⟩
    -- stopped between two callbacks
    | between is =>
      simp only [hcourse] at h
      rw [hcourse] at halong
      split at h
      · exact absurd h (by simp)
      · next t os hrun =>
        obtain ⟨rfl, rfl⟩ := Prod.mk.inj (Option.some.inj h)
        obtain ⟨hgrows, hholds'⟩ := holds_run hne halong hholds hrun
        exact ⟨hgrows, hholds'.includes⟩
    -- stopped inside a save, after some of its file calls
    | updating is i calls =>
      simp only [hcourse] at h
      rw [hcourse] at halong
      split at h
      · exact absurd h (by simp)
      · next t os hrun =>
        obtain ⟨hfirst, hlast, -⟩ := StepMachine.along_append halong hrun
        obtain ⟨hgrows, hholds'⟩ := holds_run hne hfirst hholds hrun
        split at h
        · exact absurd h (by simp)
        · next t' o hstep =>
          split at h
          · exact absurd h (by simp)
          · next files hfiles =>
            obtain ⟨rfl, rfl⟩ := Prod.mk.inj (Option.some.inj h)
            obtain ⟨-, -, hsaves⟩ := holds_step hne hstep hholds' hlast
            exact ⟨hgrows, hsaves files (List.mem_of_getElem? hfiles)⟩

variable (D cfg toxNew)

/-- **No friend is forgotten.** With two names for the two files, over any number of processes
that are careful, each stopped between callbacks or within an update of the savedata file:
all friends that the file restored at first, and those of each process, are friends of every
later process, and are restored in the end. -/
theorem friends_accumulate (hne : cfg.paths.saveDataTmpFile ≠ cfg.paths.saveDataFile)
    {ls : List Life} {disk disk' : Disk σ} {fs : List FriendList}
    (hcareful : (lives D cfg toxNew).Along (Careful D cfg toxNew) disk ls)
    (hrun : (lives D cfg toxNew).run disk ls = some (disk', fs)) :
    (friendsOf cfg toxNew true disk.files ::
      (fs ++ [friendsOf cfg toxNew true disk'.files])).Pairwise Includes := by
  induction ls generalizing disk fs with
  | nil =>
    obtain ⟨rfl, rfl⟩ := Prod.mk.inj (Option.some.inj hrun)
    refine List.pairwise_pair.mpr fun _ hkey => hkey
  | cons l ls ih =>
    obtain ⟨disk₁, friends, fs', hlive, hrest, rfl⟩ := StepMachine.run_cons_iff.mp hrun
    obtain ⟨hstarts, hleaves⟩ := live_grows hne hcareful.1 hlive
    obtain ⟨hnext, hlater⟩ := List.pairwise_cons.mp (ih (hcareful.2 disk₁ friends hlive) hrest)
    have hfriends : ∀ friends' ∈ fs' ++ [friendsOf cfg toxNew true disk'.files],
        Includes friends friends' :=
      fun friends' hin => hleaves.trans (hnext friends' hin)
    refine List.pairwise_cons.mpr ⟨?_, List.pairwise_cons.mpr ⟨hfriends, hlater⟩⟩
    intro friends' hin
    rcases List.mem_cons.mp hin with rfl | hin
    · exact hstarts
    · exact hstarts.trans (hfriends friends' hin)

/-- A toxcore whose savedata is one of two images. -/
def sampleToxNew (savedata : Option Bytes) : FriendList :=
  if savedata = some (bytes "saved") then
    FriendList.empty.addNorequest sampleKey true
  else FriendList.empty

/-- The first process finds no file and makes a friend; the second is stopped as soon as its
first update has written something. -/
def sampleLives : List Life :=
  [{ fopen := true, out := { Outcomes.sample with savedata := bytes "fresh" }, tox := Tox.blank
     course := .between [(.friendRequest sampleKey, Outcomes.sample)] },
    { fopen := true, out := Outcomes.sample, tox := Tox.blank, course := .starting 1 }]

theorem sampleLives_careful :
    (lives MySql.driver Config.sample sampleToxNew).Along
      (Careful MySql.driver Config.sample sampleToxNew)
      ⟨MySql.holding Table.empty, ∅⟩ sampleLives := by
  have hone : ∀ key, key ∈ [sampleKey] ↔ some key ∈ [some sampleKey] := by simp
  refine ⟨⟨rfl, fun _ key => ?_, fun s saves hstart => ?_⟩, fun disk friends hlive => ?_⟩
  · exact iff_of_false List.not_mem_nil List.not_mem_nil
  · obtain ⟨rfl, -⟩ := Prod.mk.inj (Option.some.inj hstart)
    exact ⟨fun _ key => hone key, fun _ _ _ => trivial⟩
  · obtain ⟨rfl, -⟩ := Prod.mk.inj (Option.some.inj hlive)
    exact ⟨⟨rfl, fun _ key => hone key, fun _ _ _ => trivial⟩, fun _ _ _ => trivial⟩

theorem friends_accumulate_two :
    ∃ disk fs, (lives MySql.driver Config.sample sampleToxNew).run
        ⟨MySql.holding Table.empty, ∅⟩ sampleLives = some (disk, fs) ∧
      (friendsOf Config.sample sampleToxNew true ∅ ::
        (fs ++ [friendsOf Config.sample sampleToxNew true disk.files])).Pairwise Includes :=
  ⟨_, _, rfl, friends_accumulate MySql.driver Config.sample sampleToxNew (by decide)
    sampleLives_careful rfl⟩

end Process

end FindFriendBot
