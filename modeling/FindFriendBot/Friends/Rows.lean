import FindFriendBot.Friends.Share

/-!
# FindFriendBot — rows over time

The schema gives every row an id of its own, a time of its first `/start` and a time
of its last update. Nothing checks the times: they are what the clock said when the
statements were bound. With a clock that does not go back they are in order, and an
id stays with the one `/start` that made its row, in whatever order statements succeed
and fail.

* `next_table`     — what one event writes.
* `written_keeps`  — what a write does to ids and times.
* `rows_over_time` — every run, and any two points of it.
-/

namespace FindFriendBot

namespace Table

/-- The ids are distinct and were all given out, and the times are in order, up to `now`. -/
structure Dated (t : Table) (now : Nat) : Prop where
  id_lt : ∀ (k : Bytes) row, t.rows[k]? = some row → row.id < t.autoIncrement
  id_inj : ∀ (k k' : Bytes) row row', t.rows[k]? = some row → t.rows[k']? = some row' →
    row.id = row'.id → k = k'
  created_le : ∀ (k : Bytes) row, t.rows[k]? = some row → row.createTime ≤ row.updateTime
  updated_le : ∀ (k : Bytes) row, t.rows[k]? = some row → row.updateTime ≤ now

/-- From `t` on to `t'` no id is used again: a row with an id that was given out before is the
row it was, with its friend and its time of creation, and not updated before. -/
structure Continues (t t' : Table) : Prop where
  autoIncrement_le : t.autoIncrement ≤ t'.autoIncrement
  row : ∀ (k : Bytes) row', t'.rows[k]? = some row' → row'.id < t.autoIncrement →
    ∃ row, t.rows[k]? = some row ∧ row.id = row'.id ∧ row.createTime = row'.createTime ∧
      row.updateTime ≤ row'.updateTime

/-- What a statement bound at this time makes of a table. -/
def Written (t : Table) (time : Nat) (t' : Table) : Prop :=
  (∃ tokId pk nickName bio, t' = (t.replaceMember tokId pk nickName bio time time).2) ∨
    (∃ pk, t' = (t.deleteMember pk).2) ∨
    ∃ set pk, t' = (t.updateMember set pk).2 ∧
      ∀ row, (set row).id = row.id ∧ (set row).createTime = row.createTime ∧
        (set row).updateTime = time

variable {t t' t'' : Table} {now time : Nat}

theorem Dated.mono (h : t.Dated now) (hle : now ≤ time) : t.Dated time :=
  ⟨h.id_lt, h.id_inj, h.created_le, fun k row hrow => (h.updated_le k row hrow).trans hle⟩

theorem Continues.refl (t : Table) : Continues t t :=
  ⟨Nat.le_refl _, fun _ row hrow _ => ⟨row, hrow, rfl, rfl, Nat.le_refl _⟩⟩

theorem Continues.trans (h : Continues t t') (h' : Continues t' t'') : Continues t t'' := by
  refine ⟨h.autoIncrement_le.trans h'.autoIncrement_le, fun k row'' hrow'' hid => ?_⟩
  obtain ⟨row', hrow', hid', hcreate', hle'⟩ :=
    h'.row k row'' hrow'' (hid.trans_le h.autoIncrement_le)
  obtain ⟨row, hrow, hid₁, hcreate, hle⟩ := h.row k row' hrow' (hid'.symm ▸ hid)
  exact ⟨row, hrow, hid₁.trans hid', hcreate.trans hcreate', hle.trans hle'⟩

-- ---------------------------------------------------------------------------
-- One statement
-- ---------------------------------------------------------------------------

theorem get_deleteMember (t : Table) (pk k : Bytes) :
    (t.deleteMember pk).2.rows[k]? = if pk = k then none else t.rows[k]? :=
  OrderedMap.get_erase t.rows pk k

theorem autoIncrement_updateMember (t : Table) (set : Row → Row) (pk : Bytes) :
    (t.updateMember set pk).2.autoIncrement = t.autoIncrement := by
  unfold updateMember
  split <;> rfl

/-- Every row of the new table is the new row, or was there and may have been updated. -/
theorem Written.row_cases (h : Written t time t') {k : Bytes} {row' : Row}
    (hrow' : t'.rows[k]? = some row') :
    (row'.id = t.autoIncrement ∧ t'.autoIncrement = t.autoIncrement + 1 ∧
        row'.createTime = time ∧ row'.updateTime = time ∧
        ∀ k' row, k' ≠ k → t'.rows[k']? = some row → t.rows[k']? = some row) ∨
      ∃ row, t.rows[k]? = some row ∧ row'.id = row.id ∧ row'.createTime = row.createTime ∧
        (row'.updateTime = row.updateTime ∨ row'.updateTime = time) := by
  rcases h with ⟨tokId, pk, nickName, bio, rfl⟩ | ⟨pk, rfl⟩ | ⟨set, pk, rfl, hset⟩
  · rw [get_replaceMember] at hrow'
    split at hrow'
    · next hk =>
      obtain rfl := Option.some.inj hrow'
      refine Or.inl ⟨rfl, rfl, rfl, rfl, fun k' row hne hrow => ?_⟩
      rw [get_replaceMember, if_neg (hk ▸ hne.symm)] at hrow
      exact hrow
    · exact Or.inr ⟨row', hrow', rfl, rfl, Or.inl rfl⟩
  · rw [get_deleteMember] at hrow'
    split at hrow'
    · exact absurd hrow' (by simp)
    · exact Or.inr ⟨row', hrow', rfl, rfl, Or.inl rfl⟩
  · rw [get_updateMember] at hrow'
    split at hrow'
    · obtain ⟨row, hrow, rfl⟩ := Option.map_eq_some_iff.mp hrow'
      obtain ⟨hid, hcreate, hupdate⟩ := hset row
      exact Or.inr ⟨row, hrow, hid, hcreate, Or.inr hupdate⟩
    · exact Or.inr ⟨row', hrow', rfl, rfl, Or.inl rfl⟩

theorem Written.autoIncrement_le (h : Written t time t') : t.autoIncrement ≤ t'.autoIncrement := by
  rcases h with ⟨tokId, pk, nickName, bio, rfl⟩ | ⟨pk, rfl⟩ | ⟨set, pk, rfl, -⟩
  · exact Nat.le_succ _
  · exact Nat.le_refl _
  · exact (autoIncrement_updateMember t set pk).ge

/-- An update of one column, if its statement runs. -/
theorem written_updateMember {set : Row → Row} {pk : Bytes} {c : Prop} [Decidable c]
    (hset : ∀ row, (set row).id = row.id ∧ (set row).createTime = row.createTime ∧
      (set row).updateTime = time)
    (h : t' = if c then (t.updateMember set pk).2 else t) : t' = t ∨ Written t time t' := by
  split at h
  · exact Or.inr (Or.inr (Or.inr ⟨set, pk, h, hset⟩))
  · exact Or.inl h

/-- **A write** keeps ids and times in order, and continues the table. -/
theorem written_keeps (h : t.Dated now) (hle : now ≤ time) (hw : Written t time t') :
    t'.Dated time ∧ Continues t t' := by
  -- in each part the row is new, or it continues a row of the table before
  have hinc := hw.autoIncrement_le
  refine ⟨⟨?_, ?_, ?_, ?_⟩, hinc, ?_⟩
  · intro k row' hrow'
    rcases hw.row_cases hrow' with ⟨hid, hnext, -⟩ | ⟨row, hrow, hid, -⟩
    · omega
    · have hlt := h.id_lt k row hrow
      omega
  · intro k k' row₁ row₂ h₁ h₂ hid
    by_contra hne
    rcases hw.row_cases h₁ with ⟨hid₁, -, -, -, hothers⟩ | ⟨old₁, hold₁, hid₁, -⟩
    · -- the new row has an id that no other row has
      have hlt := h.id_lt k' row₂ (hothers k' row₂ (Ne.symm hne) h₂)
      omega
    · rcases hw.row_cases h₂ with ⟨hid₂, -, -, -, hothers⟩ | ⟨old₂, hold₂, hid₂, -⟩
      · have hlt := h.id_lt k row₁ (hothers k row₁ hne h₁)
        omega
      · exact hne (h.id_inj k k' old₁ old₂ hold₁ hold₂ (hid₁.symm.trans (hid.trans hid₂)))
  · intro k row' hrow'
    rcases hw.row_cases hrow' with ⟨-, -, hcreate, hupdate, -⟩ | ⟨row, hrow, -, hcreate, hupdate⟩
    · omega
    · have hcreated := h.created_le k row hrow
      have hupdated := h.updated_le k row hrow
      omega
  · intro k row' hrow'
    rcases hw.row_cases hrow' with ⟨-, -, -, hupdate, -⟩ | ⟨row, hrow, -, -, hupdate⟩
    · omega
    · have hupdated := h.updated_le k row hrow
      omega
  -- an id given out before is not the new row's
  · intro k row' hrow' hlt
    rcases hw.row_cases hrow' with ⟨hid, -⟩ | ⟨row, hrow, hid, hcreate, hupdate⟩
    · omega
    · have hupdated := h.updated_le k row hrow
      exact ⟨row, hrow, hid.symm, hcreate.symm, by omega⟩

end Table

-- ---------------------------------------------------------------------------
-- One event
-- ---------------------------------------------------------------------------

namespace Reference

/-- **One event** leaves the table, or writes to it at its own time. -/
theorem next_table (env : Env) (r : State MySql) (i : Input) :
    (next env r i).db.table = r.db.table ∨
      Table.Written r.db.table i.2.time (next env r i).db.table := by
  obtain ⟨e, ans⟩ := i
  -- what the driver is to throw is set before the event, and the table with it untouched
  have htable : (MySql.driver.begin ans.sql r.db).table = r.db.table := rfl
  cases e with
  | connectionStatus pk status =>
    simp only [next, step, handle, friendConnectionStatusCb]
    split
    · exact Or.inl (findFriend_spec pk _).2
    · exact Or.inl rfl
  | message pk msg =>
    obtain ⟨cmd, param, hdisp⟩ := msg.dispatch_isSome
    simp only [next, step, handle, friendMessageCb, hdisp]
    cases cmd with
    | start =>
      simp only [runCmd, cmdStart_eq]
      split
      · exact Or.inl rfl
      -- a null name or status message ends the command before the database
      · split
        · exact Or.inl rfl
        · next name bio _ =>
          rw [MemberModel.addFriend_table, htable]
          split
          · exact Or.inr (Or.inl ⟨_, _, _, _, rfl⟩)
          · exact Or.inl rfl
    | stop =>
      simp only [runCmd, cmdStop]
      rw [MemberModel.delFriend_table, htable]
      split
      · exact Or.inr (Or.inr (Or.inl ⟨pk.hex, rfl⟩))
      · exact Or.inl rfl
    | set =>
      simp only [runCmd, cmdSet]
      split
      · exact Or.inl rfl
      · refine Table.written_updateMember (fun row => ?_)
          (MemberModel.updateFriendSignature_table pk param ans.time _)
        exact ⟨rfl, rfl, rfl⟩
    -- the other commands only read
    | get =>
      simp only [runCmd, cmdGet]
      split <;> exact Or.inl rfl
    | info =>
      simp only [runCmd, cmdInfo]
      split
      · exact Or.inl rfl
      · split <;> exact Or.inl rfl
    | help => exact Or.inl rfl
    | readme => exact Or.inl rfl
    | unknown => exact Or.inl rfl
  | name pk name =>
    refine Table.written_updateMember (fun row => ?_)
      (MemberModel.updateFriendName_table pk (cStr name) ans.time _)
    exact ⟨rfl, rfl, rfl⟩
  | statusMessage pk message =>
    refine Table.written_updateMember (fun row => ?_)
      (MemberModel.updateFriendBio_table pk (cStr message) ans.time _)
    exact ⟨rfl, rfl, rfl⟩
  | restart => exact Or.inl rfl

end Reference

-- ---------------------------------------------------------------------------
-- Runs
-- ---------------------------------------------------------------------------

/-- A run from a dated table, with a clock that does not go back. -/
theorem dated_run (env : Env) {is : List Input} {s : State MySql} {r : Reference.State MySql}
    {now : Nat} (href : Refines s r) (h : r.db.table.Dated now)
    (hclock : (now :: is.map fun i => i.2.time).Pairwise (· ≤ ·)) :
    ∃ s' os r' last, (Bot.machine MySql.driver env).run s is = some (s', os) ∧ Refines s' r' ∧
      r.db.table.Continues r'.db.table ∧ r'.db.table.Dated last ∧
      last ∈ now :: is.map fun i => i.2.time := by
  induction is generalizing s r now with
  | nil => exact ⟨s, [], r, now, rfl, href, Table.Continues.refl _, h, List.mem_singleton_self _⟩
  | cons i is ih =>
    rw [List.map_cons, List.pairwise_cons] at hclock
    obtain ⟨hnow, hrest⟩ := hclock
    have hle : now ≤ i.2.time := hnow _ (List.mem_cons_self ..)
    obtain ⟨s₁, hstep, href₁⟩ := href.step env i
    obtain ⟨hdated, hcontinues⟩ : (Reference.next env r i).db.table.Dated i.2.time ∧
        r.db.table.Continues (Reference.next env r i).db.table := by
      rcases Reference.next_table env r i with hsame | hwritten
      · rw [hsame]
        exact ⟨h.mono hle, Table.Continues.refl _⟩
      · exact Table.written_keeps h hle hwritten
    obtain ⟨s', os, r', last, hrun, href', hcontinues', hdated', hlast⟩ :=
      ih href₁ hdated hrest
    exact ⟨s', _ :: os, r', last, StepMachine.run_cons_iff.mpr ⟨s₁, _, os, hstep, hrun, rfl⟩,
      href', hcontinues.trans hcontinues', hdated', List.mem_cons_of_mem _ hlast⟩

/-- **Rows over time.** With a clock that does not go back, and whatever the driver's calls do,
after every run the ids are distinct and every row was created no later than it was last
updated, and that no later than the last event. Between any two points of a run no id is used
again: a row of the later one with an id that was given out before is the same friend's row of
the earlier one, created when that was and not updated before. -/
theorem rows_over_time (env : Env) (db : MySql) (tox : Tox) {now : Nat}
    (hdated : db.table.Dated now) {is js : List Input}
    (hclock : (now :: (is ++ js).map fun i => i.2.time).Pairwise (· ≤ ·)) :
    ∃ s os u os', (Bot.machine MySql.driver env).run (Bot.init db tox) is = some (s, os) ∧
      (Bot.machine MySql.driver env).run s js = some (u, os') ∧
      (∀ time, (∀ earlier ∈ now :: (is ++ js).map fun i => i.2.time, earlier ≤ time) →
        u.db.table.Dated time) ∧
      s.db.table.Continues u.db.table := by
  rw [List.map_append, ← List.cons_append, List.pairwise_append] at hclock
  obtain ⟨hfirst, hsecond, hbetween⟩ := hclock
  obtain ⟨s, os, r, last, hrun, href, -, hdated₁, hlast⟩ :=
    dated_run env (refines_init db tox) hdated hfirst
  have hclock' : (last :: js.map fun i => i.2.time).Pairwise (· ≤ ·) :=
    List.pairwise_cons.mpr ⟨hbetween last hlast, hsecond⟩
  obtain ⟨u, os', r', last', hrun', href', hcontinues, hdated₂, hlast'⟩ :=
    dated_run env href hdated₁ hclock'
  refine ⟨s, os, u, os', hrun, hrun', fun time htime => ?_, ?_⟩
  · rw [href'.db]
    refine hdated₂.mono (htime last' ?_)
    rw [List.map_append, ← List.cons_append, List.mem_append]
    rcases List.mem_cons.mp hlast' with rfl | hin
    · exact Or.inl hlast
    · exact Or.inr hin
  · rw [href.db, href'.db]
    exact hcontinues

theorem dated_empty (now : Nat) : Table.empty.Dated now where
  id_lt := fun k row hrow => absurd hrow (by simp [Table.empty])
  id_inj := fun k k' row row' hrow => absurd hrow (by simp [Table.empty])
  created_le := fun k row hrow => absurd hrow (by simp [Table.empty])
  updated_le := fun k row hrow => absurd hrow (by simp [Table.empty])

/-- A friend starts, stops and starts again. -/
def startsAgain : List Input :=
  [(.message Pk.first ⟨bytes "/start R1", by decide⟩, { Answers.plain with time := 5 }),
    (.message Pk.first ⟨bytes "/stop", by decide⟩, { Answers.plain with time := 6 }),
    (.message Pk.first ⟨bytes "/start R1", by decide⟩, { Answers.plain with time := 8 })]

/-- The row is a new one. -/
theorem rows_over_time_again :
    ∃ s os u os', (Bot.machine MySql.driver Env.sample).run
        (Bot.init (MySql.holding Table.empty) Tox.blank) (startsAgain.take 1) = some (s, os) ∧
      (Bot.machine MySql.driver Env.sample).run s (startsAgain.drop 1) = some (u, os') ∧
      (∀ time, (∀ earlier ∈ 0 :: (startsAgain.take 1 ++ startsAgain.drop 1).map fun i => i.2.time,
        earlier ≤ time) → u.db.table.Dated time) ∧
      s.db.table.Continues u.db.table :=
  rows_over_time Env.sample _ Tox.blank (dated_empty 0) (by decide)

end FindFriendBot
