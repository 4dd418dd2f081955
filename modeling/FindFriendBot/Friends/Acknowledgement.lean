import FindFriendBot.Friends.Share

/-!
# FindFriendBot — acknowledged and stored

`/stop` and `/set` are answered only when their statement counted a row, so
their answer can be relied on, up to a NUL that `c_str()` cuts. `/start` is
answered whatever `add_friend` returns: after a throw the row is as old as it
was, and the column of the token drops the blanks it ends in. `AckKeepable` is
the exact condition under which an answer with `desc_start`, `desc_set` or
`desc_stop` speaks of what the table gives back.

* `reply_start`, `reply_stop`, `reply_set` — when these commands are answered.
* `step_charDriver`                        — a message does not notice the `char` column.
* `ackKept_iff`                            — one message, in every reachable state.
-/

namespace FindFriendBot

-- ---------------------------------------------------------------------------
-- Replies
-- ---------------------------------------------------------------------------

namespace Reference

variable (env : Env) (r : State MySql) (pk : Pk)

/-- The reply to a message. -/
def reply (msg : Message) (ans : Answers) : Option Bytes :=
  (step MySql.driver env r (.message pk msg, ans)).2.reply

theorem reply_eq {msg : Message} {cmd : Command} {param : Bytes}
    (hdisp : msg.dispatch = some (cmd, param)) (ans : Answers) :
    reply env r pk msg ans =
      if (runCmd MySql.driver env { r with db := MySql.driver.begin ans.sql r.db } pk ans cmd
          param).2.2 then
        some (expandNewlines (runCmd MySql.driver env
          { r with db := MySql.driver.begin ans.sql r.db } pk ans cmd param).2.1)
      else none := by
  simp only [reply, step, handle, friendMessageCb, hdisp]

/-- `/start` is answered whatever the database did. -/
theorem reply_start {msg : Message} {tokId : Bytes}
    (hdisp : msg.dispatch = some (.start, tokId)) (htok : tokId ≠ []) (ans : Answers) :
    reply env r pk msg ans =
      ((r.tox.profile pk).queries ans).map fun _ => expandNewlines env.conf.descStart := by
  rw [reply_eq env r pk hdisp]
  simp only [runCmd, cmdStart_eq, if_neg htok]
  cases (r.tox.profile pk).queries ans with
  | none => rfl
  | some nb => rfl

/-- `/stop` is answered when it deleted a row. -/
theorem reply_stop {msg : Message} {param : Bytes} (hdisp : msg.dispatch = some (.stop, param))
    (ans : Answers) :
    reply env r pk msg ans =
      if Executes ans.sql 1 ∧ pk.hex ∈ r.db.table.rows then
        some (expandNewlines env.conf.descStop)
      else none := by
  have hret := MemberModel.delFriend_ret pk (MySql.driver.begin ans.sql r.db)
  rw [reply_eq env r pk hdisp]
  simp only [runCmd, cmdStop, hret]
  show (if ((if Executes ans.sql 1 then if pk.hex ∈ r.db.table.rows then (1 : Int) else 0
    else 0) != 0) = true then _ else _) = _
  by_cases hex : Executes ans.sql 1 <;> by_cases hin : pk.hex ∈ r.db.table.rows <;>
    simp [hex, hin]

theorem executes_of_reply_stop {msg : Message} {param text : Bytes} {ans : Answers}
    (hdisp : msg.dispatch = some (.stop, param)) (hreply : reply env r pk msg ans = some text) :
    Executes ans.sql 1 ∧ pk.hex ∈ r.db.table.rows := by
  rw [reply_stop env r pk hdisp] at hreply
  by_contra hno
  rw [if_neg hno] at hreply
  exact absurd hreply (by simp)

/-- The `UPDATE` of `/set` finds the row and changes it. -/
def SetChanges (signature : Bytes) (ans : Answers) : Prop :=
  Executes ans.sql 3 ∧ ∃ row, r.db.table.rows[pk.hex]? = some row ∧
    MemberModel.setSignature (cStr signature) ans.time row ≠ row

/-- `/set` is answered when it changed the row. -/
theorem reply_set {msg : Message} {signature : Bytes}
    (hdisp : msg.dispatch = some (.set, signature)) (hsig : signature ≠ []) (ans : Answers) :
    (reply env r pk msg ans = some (expandNewlines env.conf.descSet) ∧
        SetChanges r pk signature ans) ∨
      (reply env r pk msg ans = none ∧ ¬ SetChanges r pk signature ans) := by
  have hret := MemberModel.updateFriendSignature_ret pk signature ans.time
    (MySql.driver.begin ans.sql r.db)
  have hsql : (MySql.driver.begin ans.sql r.db).throwAt = ans.sql := rfl
  have htable : (MySql.driver.begin ans.sql r.db).table = r.db.table := rfl
  rw [hsql, htable] at hret
  rw [reply_eq env r pk hdisp]
  simp only [runCmd, cmdSet, hsig, if_false, hret, SetChanges, Table.updateMember]
  by_cases hex : Executes ans.sql 3
  · cases hrow : r.db.table.rows[pk.hex]? with
    | none => simp [hex]
    | some row =>
      by_cases hsame : MemberModel.setSignature (cStr signature) ans.time row = row
      · simp [hex, hsame]
      · simp [hex, hsame]
  · simp [hex]

end Reference

-- ---------------------------------------------------------------------------
-- The columns as they are declared
-- ---------------------------------------------------------------------------

/-- A token comes back if it has no NUL and does not end in a blank. -/
theorem charColumn_cStr_eq_iff {tokId : Bytes} :
    charColumn (cStr tokId) = tokId ↔ 0 ∉ tokId ∧ tokId.getLast? ≠ some 32 := by
  have hlast : charColumn tokId = tokId ↔ tokId.getLast? ≠ some 32 := by
    rw [charColumn, List.rdropWhile_eq_self_iff]
    constructor
    · intro h hblank
      have hne : tokId ≠ [] := fun hnil => absurd (hnil ▸ hblank) (by simp)
      rw [List.getLast?_eq_some_getLast hne] at hblank
      exact h hne (beq_iff_eq.mpr (Option.some.inj hblank))
    · intro h hne hblank
      rw [List.getLast?_eq_some_getLast hne] at h
      exact h (congrArg some (beq_iff_eq.mp hblank))
  constructor
  · intro h
    -- what comes back is a beginning of the C string, and that of the token
    have hle : tokId.length ≤ (cStr tokId).length := by
      rw [← congrArg List.length h]
      exact (List.rdropWhile_prefix _ _).length_le
    have hcstr : cStr tokId = tokId := (List.takeWhile_prefix _).eq_of_length_le hle
    rw [hcstr] at h
    exact ⟨cStr_eq_self_iff.mp hcstr, hlast.mp h⟩
  · rintro ⟨hnul, hblank⟩
    rw [cStr_eq_self_iff.mpr hnul]
    exact hlast.mpr hblank

theorem MemberModel.bindParams_charDriver (params : List Param) (db : MySql) :
    bindParams MySql.charDriver params db = bindParams MySql.driver params db := by
  induction params generalizing db with
  | nil => rfl
  | cons p rest ih =>
    rw [bindParams, bindParams]
    simp only [ih]
    rfl

/-- A writing operation reads no column. -/
theorem MemberModel.executeUpdate_charDriver (stmt : Statement) (params : List Param)
    (db : MySql) :
    executeUpdate MySql.charDriver stmt params db = executeUpdate MySql.driver stmt params db := by
  unfold executeUpdate
  simp only [bindParams_charDriver]
  rfl

/-- **A message** makes no query, so it is handled as by the connector that gives everything
back. -/
theorem Reference.step_charDriver (env : Env) (r : State MySql) (pk : Pk) (msg : Message)
    (ans : Answers) :
    step MySql.charDriver env r (.message pk msg, ans) =
      step MySql.driver env r (.message pk msg, ans) := by
  have hcmd : ∀ (r : State MySql) cmd param, runCmd MySql.charDriver env r pk ans cmd param =
      runCmd MySql.driver env r pk ans cmd param := by
    intro r cmd param
    cases cmd with
    | start =>
      simp only [runCmd, cmdStart, MemberModel.addFriend, MemberModel.executeUpdate_charDriver]
    | stop =>
      simp only [runCmd, cmdStop, MemberModel.delFriend, MemberModel.executeUpdate_charDriver]
    | set =>
      simp only [runCmd, cmdSet, MemberModel.updateFriendSignature,
        MemberModel.executeUpdate_charDriver]
    | _ => rfl
  simp only [step, handle, friendMessageCb, hcmd]
  rfl

-- ---------------------------------------------------------------------------
-- What an answer promises
-- ---------------------------------------------------------------------------

/-- The row of a key, for a property that does not look at the id. -/
theorem exists_row_iff (r : Reference.State MySql) (k : Bytes) {P : Row → Prop}
    (hP : ∀ row : Row, P row.dropId ↔ P row) :
    (∃ row, r.db.table.rows[k]? = some row ∧ P row) ↔
      ∃ row, (r.share k).row = some row ∧ P row := by
  cases hrow : r.db.table.rows[k]? with
  | none => simp [Reference.State.share, hrow]
  | some row => simp [Reference.State.share, hrow, hP]

/-- The row of `pk` gives back the token and the friend's current name and status. -/
def HoldsProfile (t : Table) (tox : Tox) (pk : Pk) (tokId : Bytes) : Prop :=
  ∃ row, t.rows[pk.hex]? = some row ∧ charColumn row.tokId = tokId ∧
    row.nickName = tox.name pk ∧ row.bio = tox.statusMessage pk

/-- From `s` to `s'` a message of `pk` was answered with `o`: if the answer is one of
`desc_start`, `desc_set` and `desc_stop`, the table is as it says. -/
def AckKept (env : Env) (s s' : State MySql) (pk : Pk) (msg : Message) (o : Output) : Prop :=
  match msg.dispatch with
  | some (.start, tokId) => tokId ≠ [] →
      o.reply = some (expandNewlines env.conf.descStart) →
      HoldsProfile s'.db.table s.tox pk tokId
  | some (.set, signature) => signature ≠ [] →
      o.reply = some (expandNewlines env.conf.descSet) →
      ∃ row, s'.db.table.rows[pk.hex]? = some row ∧ row.signature = signature
  | some (.stop, _) => o.reply = some (expandNewlines env.conf.descStop) →
      pk.hex ∉ s'.db.table.rows
  | _ => True

/-- When the answer will be true: the `INSERT` of `/start` runs on strings without a
NUL and a token that does not end in a blank, or throws where the old row already
holds them; the signature of a `/set` that changes the row has no NUL. -/
def AckKeepable (s : State MySql) (pk : Pk) (msg : Message) (ans : Answers) : Prop :=
  match msg.dispatch with
  | some (.start, tokId) => tokId ≠ [] →
      ∀ name bio, (s.tox.profile pk).queries ans = some (name, bio) →
        if Executes ans.sql 6 then
          (0 ∉ tokId ∧ tokId.getLast? ≠ some 32) ∧ name = s.tox.name pk ∧
            bio = s.tox.statusMessage pk
        else HoldsProfile s.db.table s.tox pk tokId
  | some (.set, signature) =>
      (Executes ans.sql 3 ∧ ∃ row, s.db.table.rows[pk.hex]? = some row ∧
        MemberModel.setSignature (cStr signature) ans.time row ≠ row) → 0 ∉ signature
  | _ => True

section

variable {env : Env} {s s' : State MySql} {r : Reference.State MySql} {pk : Pk} {msg : Message}
  {ans : Answers}

/-- The row a command leaves its sender. -/
theorem share_row_message (env : Env) (r : Reference.State MySql) (pk : Pk) (ans : Answers)
    {cmd : Command} {param : Bytes} (hdisp : msg.dispatch = some (cmd, param)) :
    ((Reference.next env r (.message pk msg, ans)).share pk.hex).row =
      ((r.share pk.hex).runCmd pk (r.tox.profile pk) ans cmd param).row := by
  have hpk : (Event.message pk msg).pk? = some pk := rfl
  rw [(Reference.next_actsOn env r ans hpk).own]
  simp only [Share.step, hdisp]

theorem start_kept_iff (h : Refines s r)
    (h' : Refines s' (Reference.next env r (.message pk msg, ans))) {tokId : Bytes}
    (hdisp : msg.dispatch = some (.start, tokId)) {o : Output}
    (ho : o.reply = Reference.reply env r pk msg ans) :
    AckKept env s s' pk msg o ↔ AckKeepable s pk msg ans := by
  simp only [AckKept, AckKeepable, hdisp, ho]
  refine imp_congr_right ?_
  intro htok
  rw [Reference.reply_start env r pk hdisp htok, h.tox]
  cases hq : (r.tox.profile pk).queries ans with
  | none => simp
  | some nb =>
    obtain ⟨name, bio⟩ := nb
    have hrow := share_row_message env r pk ans hdisp
    simp only [Share.runCmd, hq, if_neg htok, Share.start] at hrow
    simp only [Option.map_some, forall_const, Option.some.injEq, Prod.mk.injEq, HoldsProfile,
      h'.db, h.db]
    rw [exists_row_iff _ _ fun _ => Iff.rfl, exists_row_iff _ _ fun _ => Iff.rfl, hrow]
    by_cases hex : Executes ans.sql 6
    · simp only [hex, if_true, Option.some.injEq, exists_eq_left', charColumn_cStr_eq_iff]
      exact ⟨fun hk _ _ heq => heq.1 ▸ heq.2 ▸ hk, fun hall => hall name bio ⟨rfl, rfl⟩⟩
    · simp only [hex, if_false]
      exact ⟨fun hk _ _ _ => hk, fun hall => hall name bio ⟨rfl, rfl⟩⟩

theorem set_kept_iff (h : Refines s r)
    (h' : Refines s' (Reference.next env r (.message pk msg, ans))) {signature : Bytes}
    (hdisp : msg.dispatch = some (.set, signature)) {o : Output}
    (ho : o.reply = Reference.reply env r pk msg ans) :
    AckKept env s s' pk msg o ↔ AckKeepable s pk msg ans := by
  simp only [AckKept, AckKeepable, hdisp, ho]
  by_cases hsig : signature = []
  · simp [hsig]
  · rcases Reference.reply_set env r pk hdisp hsig ans with ⟨hreply, hchanges⟩ | ⟨hreply, hno⟩
    · have hchanges' := hchanges
      obtain ⟨hex, row, hold, -⟩ := hchanges'
      have hrow := share_row_message env r pk ans hdisp
      simp only [Share.runCmd, if_neg hsig, Share.update, hex, if_true] at hrow
      have hchanges : Executes ans.sql 3 ∧ ∃ row, s.db.table.rows[pk.hex]? = some row ∧
          MemberModel.setSignature (cStr signature) ans.time row ≠ row := by
        rw [h.db]
        exact hchanges
      simp only [hreply, hsig, ne_eq, not_false_eq_true, forall_const, h'.db, hchanges]
      rw [exists_row_iff _ _ fun _ => Iff.rfl, hrow, Reference.State.share, hold]
      simp [MemberModel.setSignature, cStr_eq_self_iff]
    · have hno : ¬ (Executes ans.sql 3 ∧ ∃ row, s.db.table.rows[pk.hex]? = some row ∧
          MemberModel.setSignature (cStr signature) ans.time row ≠ row) := by
        rw [h.db]
        exact hno
      simp [hreply, hno]

theorem stop_kept (h' : Refines s' (Reference.next env r (.message pk msg, ans))) {param : Bytes}
    (hdisp : msg.dispatch = some (.stop, param)) {o : Output}
    (ho : o.reply = Reference.reply env r pk msg ans) : AckKept env s s' pk msg o := by
  simp only [AckKept, hdisp, ho]
  intro hreply
  have hdone := Reference.executes_of_reply_stop env r pk hdisp hreply
  have hrow := share_row_message env r pk ans hdisp
  simp only [Share.runCmd, Share.stop, hdone.1, if_true] at hrow
  rw [Std.ExtTreeMap.mem_iff_isSome_getElem?, h'.db, ← Option.isSome_map]
  have hgone : ((Reference.next env r (.message pk msg, ans)).db.table.rows[pk.hex]?).map
      Row.dropId = none := hrow
  rw [hgone]
  simp

end

/-- **Acknowledged means stored**, exactly where it does: in every reachable state and
for every message and outcome of its SQL calls, the table is as the answer says
if and only if `AckKeepable` holds before. -/
theorem ackKept_iff (env : Env) (db : MySql) (tox : Tox) (is : List Input) :
    ∃ s os, (Bot.machine MySql.charDriver env).run (Bot.init db tox) is = some (s, os) ∧
      ∀ pk msg ans, ∃ s' o,
        Bot.step MySql.charDriver env s (.message pk msg, ans) = some (s', o) ∧
          (AckKept env s s' pk msg o ↔ AckKeepable s pk msg ans) := by
  obtain ⟨s, r, os, hrun, -, href⟩ := run_sim MySql.charDriver env is (refines_init db tox)
  refine ⟨s, os, hrun, ?_⟩
  intro pk msg ans
  obtain ⟨s', hstep, href', -⟩ := step_sim MySql.charDriver env href (.message pk msg, ans)
  rw [Reference.step_charDriver] at hstep href'
  refine ⟨s', _, hstep, ?_⟩
  obtain ⟨cmd, param, hdisp⟩ := msg.dispatch_isSome
  cases cmd with
  | start => exact start_kept_iff href href' hdisp rfl
  | set => exact set_kept_iff href href' hdisp rfl
  | stop =>
    have hkeepable : AckKeepable s pk msg ans := by simp [AckKeepable, hdisp]
    exact iff_of_true (stop_kept href' hdisp rfl) hkeepable
  | _ => simp [AckKept, AckKeepable, hdisp]

/-- The `INSERT` of a first `/start` throws, and `/start` is answered all the same; and where it
does not throw, a token that ends in a blank is answered but does not come back. -/
theorem failed_start_acknowledged :
    (∃ s' o, Bot.step MySql.charDriver Env.sample (Bot.init (MySql.holding Table.empty) Tox.blank)
        (.message Pk.first ⟨bytes "/start A1", by decide⟩,
          { Answers.plain with sql := some 7 }) = some (s', o) ∧
      ¬ AckKept Env.sample (Bot.init (MySql.holding Table.empty) Tox.blank) s' Pk.first
        ⟨bytes "/start A1", by decide⟩ o) ∧
    ∃ s' o, Bot.step MySql.charDriver Env.sample (Bot.init (MySql.holding Table.empty) Tox.blank)
        (.message Pk.first ⟨bytes "/start A1 ", by decide⟩, Answers.plain) = some (s', o) ∧
      ¬ AckKept Env.sample (Bot.init (MySql.holding Table.empty) Tox.blank) s' Pk.first
        ⟨bytes "/start A1 ", by decide⟩ o := by
  constructor
  · refine ⟨_, _, rfl, ?_⟩
    intro hkept
    obtain ⟨row, hrow, -⟩ := hkept (show bytes " A1" ≠ [] by decide) rfl
    exact Option.some_ne_none row hrow.symm
  · refine ⟨_, _, rfl, ?_⟩
    intro hkept
    obtain ⟨row, hrow, htok, -⟩ := hkept (show bytes " A1 " ≠ [] by decide) rfl
    obtain rfl := Option.some.inj hrow
    exact absurd htok (by decide)

end FindFriendBot
