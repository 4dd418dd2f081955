import FindFriendBot.Friends.Share

/-!
# FindFriendBot — the statements that reach MySQL

Whatever a friend sends, the bot speaks to its database in six sentences. Which of
them an event says, and with which parameters, is settled by the event and the
sender's profile: at most one, about the row of the sender alone, and with nothing
but strings that C can hold. To see it, a driver writes down what it is given; the bot
cannot tell such a driver from the one inside.

* `Driver.recording` — the driver that keeps a record.
* `handle_recorded`  — what one event says, and that the record makes no difference.
* `statements_sent`  — every run, over every driver.
-/

namespace FindFriendBot

/-- A statement with its bound parameters. -/
abbrev Query := Statement × List Param

/-- The driver `D`, and a record of what it was given to execute. -/
def Driver.recording {σ : Type} (D : Driver σ) : Driver (σ × List Query) where
  begin := fun throwAt db => (D.begin throwAt db.1, db.2)
  call := fun db => ((D.call db.1).1, (D.call db.1).2, db.2)
  executeUpdate := fun stmt params db =>
    ((D.executeUpdate stmt params db.1).1, (D.executeUpdate stmt params db.1).2,
      db.2 ++ [(stmt, params)])
  executeQuery := fun stmt params db =>
    ((D.executeQuery stmt params db.1).1, (D.executeQuery stmt params db.1).2,
      db.2 ++ [(stmt, params)])

/-- The statement that a command says. -/
def commandQuery? (tox : Tox) (pk : Pk) (ans : Answers) (cmd : Command) (param : Bytes) :
    Option Query :=
  match cmd with
  | .start =>
    if param = [] then none
    else
      match getName tox pk ans, getStatusMessage tox pk ans with
      | some name, some bio =>
        some (.replaceMember, [.string (cStr param), .string pk.hex, .string (cStr name),
          .string (cStr bio), .int64 ans.time, .int64 ans.time])
      | _, _ => none
  | .stop => some (.deleteMember, [.string pk.hex])
  | .set =>
    if param = [] then none
    else some (.updateSignature, [.string (cStr param), .int64 ans.time, .string pk.hex])
  | _ => none

/-- The statement that an event says. -/
def Event.query? (tox : Tox) (ans : Answers) : Event → Option Query
  | .connectionStatus pk status =>
    if status ≠ .none then some (.selectMember, [.string pk.hex]) else none
  | .message pk msg =>
    match msg.dispatch with
    | some (cmd, param) => commandQuery? tox pk ans cmd param
    | none => none
  | .name pk nick => some (.updateName, [.string (cStr nick), .int64 ans.time, .string pk.hex])
  | .statusMessage pk text =>
    some (.updateBio, [.string (cStr text), .int64 ans.time, .string pk.hex])
  | .restart => none

/-- The statement has the parameters that its text asks for, and names the row of `pk`. -/
def IsAbout (pk : Pk) : Query → Prop
  | (.replaceMember, [.string _, .string k, .string _, .string _, .int64 _, .int64 _]) =>
    k = pk.hex
  | (.deleteMember, [.string k]) => k = pk.hex
  | (.updateSignature, [.string _, .int64 _, .string k]) => k = pk.hex
  | (.updateBio, [.string _, .int64 _, .string k]) => k = pk.hex
  | (.updateName, [.string _, .int64 _, .string k]) => k = pk.hex
  | (.selectMember, [.string k]) => k = pk.hex
  | _ => False

/-- No string parameter has a NUL. -/
def HasNoNul (q : Query) : Prop := ∀ s, .string s ∈ q.2 → 0 ∉ s

-- ---------------------------------------------------------------------------
-- What an event says is about its friend
-- ---------------------------------------------------------------------------

theorem query?_isAbout {tox : Tox} {ans : Answers} {e : Event} {q : Query}
    (h : e.query? tox ans = some q) : ∃ pk, e.pk? = some pk ∧ IsAbout pk q ∧ HasNoNul q := by
  -- the hex key has no NUL, and c_str() ends every string at its first
  have hpk : ∀ pk : Pk, 0 ∉ pk.hex := fun pk => cStr_eq_self_iff.mp pk.cStr_hex
  have hcStr : ∀ s : Bytes, 0 ∉ cStr s := fun s => cStr_eq_self_iff.mp (cStr_cStr s)
  cases e with
  | connectionStatus pk status =>
    simp only [Event.query?] at h
    split at h
    · obtain rfl := Option.some.inj h
      refine ⟨pk, rfl, rfl, ?_⟩
      simp [HasNoNul, hpk]
    · exact absurd h (by simp)
  | message pk msg =>
    obtain ⟨cmd, param, hdisp⟩ := msg.dispatch_isSome
    simp only [Event.query?, hdisp] at h
    cases cmd with
    | start =>
      simp only [commandQuery?] at h
      split at h
      · exact absurd h (by simp)
      · split at h
        · obtain rfl := Option.some.inj h
          refine ⟨pk, rfl, rfl, ?_⟩
          simp [HasNoNul, hpk, hcStr]
        · exact absurd h (by simp)
    | stop =>
      obtain rfl := Option.some.inj h
      refine ⟨pk, rfl, rfl, ?_⟩
      simp [HasNoNul, hpk]
    | set =>
      simp only [commandQuery?] at h
      split at h
      · exact absurd h (by simp)
      · obtain rfl := Option.some.inj h
        refine ⟨pk, rfl, rfl, ?_⟩
        simp [HasNoNul, hpk, hcStr]
    | _ => exact absurd h (by simp [commandQuery?])
  | name pk name =>
    obtain rfl := Option.some.inj h
    refine ⟨pk, rfl, rfl, ?_⟩
    simp [HasNoNul, hpk, hcStr]
  | statusMessage pk message =>
    obtain rfl := Option.some.inj h
    refine ⟨pk, rfl, rfl, ?_⟩
    simp [HasNoNul, hpk, hcStr]
  | restart => exact absurd h (by simp [Event.query?])

-- ---------------------------------------------------------------------------
-- The record makes no difference
-- ---------------------------------------------------------------------------

variable {σ : Type} (D : Driver σ) (env : Env)

namespace MemberModel

theorem bindParams_recording (params : List Param) (db : σ × List Query) :
    bindParams D.recording params db =
      ((bindParams D params db.1).1, (bindParams D params db.1).2, db.2) := by
  induction params generalizing db with
  | nil => rfl
  | cons p params ih =>
    cases hcall : D.call db.1 with
    | mk b db₁ =>
      have hcall' : D.recording.call db = (b, db₁, db.2) := by
        simp only [Driver.recording, hcall]
      rw [bindParams, bindParams, hcall, hcall']
      cases b with
      | false => rfl
      | true => exact ih (db₁, db.2)

/-- **A writing operation** does the same with a record, and sends its statement at most once. -/
theorem executeUpdate_recording (stmt : Statement) (params : List Param)
    (db : σ × List Query) :
    ∃ sent, executeUpdate D.recording stmt params db =
        ((executeUpdate D stmt params db.1).1, (executeUpdate D stmt params db.1).2,
          db.2 ++ sent) ∧ (sent = [] ∨ sent = [(stmt, params)]) := by
  unfold executeUpdate
  rw [show D.recording.call db = ((D.call db.1).1, (D.call db.1).2, db.2) from rfl]
  cases hcall : D.call db.1 with
  | mk b db₁ =>
    cases b with
    | false => exact ⟨[], by rw [List.append_nil], Or.inl rfl⟩
    | true =>
      dsimp only
      rw [bindParams_recording]
      cases hbind : bindParams D params db₁ with
      | mk b db₂ =>
        cases b with
        | false => exact ⟨[], by rw [List.append_nil], Or.inl rfl⟩
        | true =>
          refine ⟨[(stmt, params)], ?_, Or.inr rfl⟩
          dsimp only [Driver.recording]
          cases D.executeUpdate stmt params db₂ with
          | mk ret db₃ => cases ret <;> rfl

/-- **`find_friend`** up to `next()`. -/
theorem selectRow_recording (pk : Bytes) (db : σ × List Query) :
    ∃ sent, selectRow D.recording pk db =
        ((selectRow D pk db.1).1, (selectRow D pk db.1).2, db.2 ++ sent) ∧
      (sent = [] ∨ sent = [(.selectMember, [.string (cStr pk)])]) := by
  unfold selectRow
  -- the recording driver answers as the driver does and keeps the statement
  rw [show D.recording.call db = ((D.call db.1).1, (D.call db.1).2, db.2) from rfl]
  cases hcall : D.call db.1 with
  | mk b db₁ =>
    cases b with
    -- a throw before executeQuery sends nothing
    | false => exact ⟨[], by rw [List.append_nil], Or.inl rfl⟩
    | true =>
      dsimp only
      rw [bindParams_recording]
      cases hbind : bindParams D [.string (cStr pk)] db₁ with
      | mk b db₂ =>
        cases b with
        | false => exact ⟨[], by rw [List.append_nil], Or.inl rfl⟩
        | true =>
          refine ⟨[(.selectMember, [.string (cStr pk)])], ?_, Or.inr rfl⟩
          dsimp only [Driver.recording]
          cases D.executeQuery .selectMember [.string (cStr pk)] db₂ with
          | mk res db₃ =>
            cases res with
            | none => rfl
            | some res =>
              -- what follows executeQuery sends no further statement
              dsimp only
              cases D.call db₃ with
              | mk b db₄ =>
                cases b with
                | false => rfl
                | true => cases res <;> rfl

theorem fillMember_recording (setters : List (Member → Member)) (m : Member)
    (db : σ × List Query) :
    fillMember D.recording setters m db =
      ((fillMember D setters m db.1).1, (fillMember D setters m db.1).2, db.2) := by
  induction setters generalizing m db with
  | nil => rfl
  | cons set setters ih =>
    cases hcall : D.call db.1 with
    | mk b db₁ =>
      have hcall' : D.recording.call db = (b, db₁, db.2) := by
        simp only [Driver.recording, hcall]
      rw [fillMember, fillMember, hcall, hcall']
      cases b with
      | false => rfl
      | true => exact ih (set m) (db₁, db.2)

end MemberModel

namespace Reference

theorem findFriend_recording (pk : Bytes) (db : σ × List Query) :
    ∃ sent, findFriend D.recording pk db =
        ((findFriend D pk db.1).1, (findFriend D pk db.1).2, db.2 ++ sent) ∧
      (sent = [] ∨ sent = [(.selectMember, [.string (cStr pk)])]) := by
  obtain ⟨sent, hselect, hsent⟩ := MemberModel.selectRow_recording D pk db
  refine ⟨sent, ?_, hsent⟩
  unfold findFriend
  rw [hselect]
  cases hrow : MemberModel.selectRow D pk db.1 with
  | mk row db₁ =>
    cases row with
    | none => rfl
    | some row =>
      dsimp only
      rw [MemberModel.fillMember_recording]

/-- The state over the driver that keeps a record. -/
def State.record (r : State σ) (log : List Query) : State (σ × List Query) where
  registry := r.registry
  db := (r.db, log)
  tox := r.tox

/-- Nothing was said, or the statement that is expected. -/
def SaysAtMost (q? : Option Query) (sent : List Query) : Prop :=
  sent = [] ∨ ∃ q, q? = some q ∧ sent = [q]

theorem saysAtMost_nil (q? : Option Query) : SaysAtMost q? [] := Or.inl rfl

/-- A command, with and without the record. -/
theorem runCmd_recorded (r : State σ) (log : List Query) (pk : Pk) (ans : Answers)
    (cmd : Command) (param : Bytes) :
    ∃ sent, runCmd D.recording env (r.record log) pk ans cmd param =
        ((runCmd D env r pk ans cmd param).1.record (log ++ sent),
          (runCmd D env r pk ans cmd param).2) ∧
      SaysAtMost (commandQuery? r.tox pk ans cmd param) sent := by
  cases cmd with
  | start =>
    simp only [runCmd, cmdStart, commandQuery?]
    by_cases hparam : param = []
    · exact ⟨[], by simp [hparam], saysAtMost_nil _⟩
    · simp only [if_neg hparam]
      cases hname : getName r.tox pk ans with
      | none =>
        -- no name, so no statement
        refine ⟨[], ?_, saysAtMost_nil _⟩
        simp [State.record, hname]
      | some name =>
        cases hbio : getStatusMessage r.tox pk ans with
        | none =>
          refine ⟨[], ?_, saysAtMost_nil _⟩
          simp [State.record, hname, hbio]
        | some bio =>
          obtain ⟨sent, hexec, hsent⟩ := MemberModel.executeUpdate_recording D .replaceMember
            [.string (cStr param), .string (cStr pk.hex), .string (cStr (cStr name)),
              .string (cStr (cStr bio)), .int64 ans.time, .int64 ans.time] (r.db, log)
          rw [Pk.cStr_hex, cStr_cStr, cStr_cStr] at hsent
          refine ⟨sent, ?_, hsent.imp_right fun hq => ⟨_, rfl, hq⟩⟩
          simp only [State.record, hname, hbio, MemberModel.addFriend, hexec]
  | stop =>
    obtain ⟨sent, hexec, hsent⟩ := MemberModel.executeUpdate_recording D .deleteMember
      [.string (cStr pk.hex)] (r.db, log)
    rw [Pk.cStr_hex] at hsent
    refine ⟨sent, ?_, hsent.imp_right fun hq => ⟨_, rfl, hq⟩⟩
    simp only [runCmd, cmdStop, State.record, MemberModel.delFriend, hexec]
  | set =>
    simp only [runCmd, cmdSet, commandQuery?]
    by_cases hparam : param = []
    · exact ⟨[], by simp [hparam], saysAtMost_nil _⟩
    · simp only [if_neg hparam]
      obtain ⟨sent, hexec, hsent⟩ := MemberModel.executeUpdate_recording D .updateSignature
        [.string (cStr param), .int64 ans.time, .string (cStr pk.hex)] (r.db, log)
      rw [Pk.cStr_hex] at hsent
      refine ⟨sent, ?_, hsent.imp_right fun hq => ⟨_, rfl, hq⟩⟩
      simp only [State.record, MemberModel.updateFriendSignature, hexec]
  -- /get and /info read the cache only
  | get =>
    refine ⟨[], ?_, saysAtMost_nil _⟩
    simp only [runCmd, cmdGet, State.record, List.append_nil]
    cases randomMember r.registry pk.hex ans.rand <;> rfl
  | info =>
    refine ⟨[], ?_, saysAtMost_nil _⟩
    simp only [runCmd, cmdInfo, State.record, List.append_nil]
    cases r.registry[pk.hex]? with
    | some m => rfl
    | none => cases getName r.tox pk ans <;> cases getStatusMessage r.tox pk ans <;> rfl
  | help => exact ⟨[], by simp [runCmd], saysAtMost_nil _⟩
  | readme => exact ⟨[], by simp [runCmd], saysAtMost_nil _⟩
  | unknown => exact ⟨[], by simp [runCmd], saysAtMost_nil _⟩

/-- **One event** does the same with a record, and says at most its statement. -/
theorem handle_recorded (r : State σ) (log : List Query) (e : Event) (ans : Answers) :
    ∃ sent, handle D.recording env (r.record log) e ans =
        ((handle D env r e ans).1.record (log ++ sent), (handle D env r e ans).2) ∧
      SaysAtMost (e.query? r.tox ans) sent := by
  cases e with
  | connectionStatus pk status =>
    simp only [handle, friendConnectionStatusCb, Event.query?]
    by_cases hst : status ≠ .none
    · simp only [if_pos hst]
      obtain ⟨sent, hfind, hsent⟩ := findFriend_recording D pk.hex (r.db, log)
      rw [Pk.cStr_hex] at hsent
      refine ⟨sent, ?_, hsent.imp_right fun hq => ⟨_, rfl, hq⟩⟩
      simp only [State.record, hfind]
    · exact ⟨[], by simp [hst, State.record], saysAtMost_nil _⟩
  | message pk msg =>
    obtain ⟨cmd, param, hdisp⟩ := msg.dispatch_isSome
    obtain ⟨sent, hcmd, hsent⟩ := runCmd_recorded D env r log pk ans cmd param
    simp only [handle, friendMessageCb, Event.query?, hdisp]
    exact ⟨sent, by rw [hcmd], hsent⟩
  | name pk nick =>
    obtain ⟨sent, hexec, hsent⟩ := MemberModel.executeUpdate_recording D .updateName
      [.string (cStr (cStr nick)), .int64 ans.time, .string (cStr pk.hex)] (r.db, log)
    rw [Pk.cStr_hex, cStr_cStr] at hsent
    refine ⟨sent, ?_, hsent.imp_right fun hq => ⟨_, rfl, hq⟩⟩
    simp only [handle, friendNameCb, State.record, MemberModel.updateFriendName, hexec]
  | statusMessage pk text =>
    obtain ⟨sent, hexec, hsent⟩ := MemberModel.executeUpdate_recording D .updateBio
      [.string (cStr (cStr text)), .int64 ans.time, .string (cStr pk.hex)] (r.db, log)
    rw [Pk.cStr_hex, cStr_cStr] at hsent
    refine ⟨sent, ?_, hsent.imp_right fun hq => ⟨_, rfl, hq⟩⟩
    simp only [handle, friendStatusMessageCb, State.record, MemberModel.updateFriendBio, hexec]
  | restart => exact ⟨[], by simp [handle, State.record], saysAtMost_nil _⟩

/-- **One event**, toxcore's update included. -/
theorem step_recorded (r : State σ) (log : List Query) (i : Input) :
    ∃ sent, step D.recording env (r.record log) i =
        ((step D env r i).1.record (log ++ sent), (step D env r i).2) ∧
      SaysAtMost (i.1.query? r.tox i.2) sent := by
  obtain ⟨sent, hhandle, hsent⟩ :=
    handle_recorded D env { r with db := D.begin i.2.sql r.db } log i.1 i.2
  refine ⟨sent, ?_, hsent⟩
  unfold step
  rw [show { r.record log with db := D.recording.begin i.2.sql (r.record log).db } =
    State.record { r with db := D.begin i.2.sql r.db } log from rfl, hhandle]
  rfl

end Reference

-- ---------------------------------------------------------------------------
-- Runs
-- ---------------------------------------------------------------------------

/-- The bots over `D` and over its record are in the same state. -/
def Recorded (s : State σ) (s' : State (σ × List Query)) : Prop :=
  ∃ r, Refines s r ∧ Refines s' (r.record s'.db.2)

/-- What the event added to the record: nothing, or its statement, which is about the row of its
friend and has no NUL. -/
def Says (s : State (σ × List Query)) (i : Input) (s' : State (σ × List Query)) : Prop :=
  s'.db.2 = s.db.2 ∨ ∃ q pk, s'.db.2 = s.db.2 ++ [q] ∧ i.1.query? s.tox i.2 = some q ∧
    i.1.pk? = some pk ∧ IsAbout pk q ∧ HasNoNul q

variable {D} in
theorem recorded_step {s : State σ} {s' : State (σ × List Query)} (h : Recorded s s')
    (i : Input) :
    ∃ t t' o, (Bot.machine D env).step s i = some (t, o) ∧
      (Bot.machine D.recording env).step s' i = some (t', o) ∧ Recorded t t' ∧ Says s' i t' := by
  obtain ⟨r, href, href'⟩ := h
  obtain ⟨sent, hstep, hsent⟩ := Reference.step_recorded D env r s'.db.2 i
  obtain ⟨t, hrun, ht, -⟩ := step_sim D env href i
  obtain ⟨t', hrun', ht', -⟩ := step_sim D.recording env href' i
  rw [hstep] at hrun' ht'
  have hlog : t'.db.2 = s'.db.2 ++ sent := congrArg Prod.snd ht'.db
  have htox : s'.tox = r.tox := href'.tox
  refine ⟨t, t', _, hrun, hrun', ⟨_, ht, hlog ▸ ht'⟩, ?_⟩
  rcases hsent with rfl | ⟨q, hq, rfl⟩
  · exact Or.inl (hlog.trans (List.append_nil _))
  · obtain ⟨pk, hpk, habout, hnul⟩ := query?_isAbout hq
    exact Or.inr ⟨q, pk, hlog, htox ▸ hq, hpk, habout, hnul⟩

/-- **The statements of a run.** Over every driver, whatever it answers, a driver that keeps a
record makes no difference to outputs, registry and database; and each event adds to the
record nothing, or the one statement that it and the sender's profile settle, with the
parameters its text asks for, about the row of the sender, and no NUL in a string. -/
theorem statements_sent (db : σ) (tox : Tox) (is : List Input) :
    ∃ s s' os, (Bot.machine D env).run (Bot.init db tox) is = some (s, os) ∧
      (Bot.machine D.recording env).run (Bot.init (db, []) tox) is = some (s', os) ∧
      s'.db.1 = s.db ∧ s'.memberMgr.contents = s.memberMgr.contents ∧
      (Bot.machine D.recording env).EachStep (fun s i s' _ => Says s i s')
        (Bot.init (db, []) tox) is := by
  have hinit : Recorded (Bot.init db tox) (Bot.init (db, ([] : List Query)) tox) :=
    ⟨_, refines_init db tox, refines_init (db, []) tox⟩
  obtain ⟨s, s', os, hrun, hrun', r, href, href'⟩ := StepMachine.run_simulation
    (M := Bot.machine D env) (N := Bot.machine D.recording env) (R := Recorded)
    (fun s s' i h => by
      obtain ⟨t, t', o, hstep, hstep', h', -⟩ := recorded_step env h i
      exact ⟨t, t', o, hstep, hstep', h'⟩) is _ _ hinit
  refine ⟨s, s', os, hrun, hrun', ?_, ?_, ?_⟩
  · rw [href'.db, href.db]
    rfl
  · rw [href'.contents, href.contents]
    rfl
  · refine StepMachine.eachStep_of_along (fun s' => ∃ s : State σ, Recorded s s') ?_ is _
      ⟨_, hinit⟩ (StepMachine.along_of_forall (fun _ _ => trivial) _)
    rintro s' i ⟨s, h⟩ -
    obtain ⟨t, t', o, -, hstep', h', hsays⟩ := recorded_step (D := D) env h i
    exact ⟨t', o, hstep', hsays, t, h'⟩

end FindFriendBot
