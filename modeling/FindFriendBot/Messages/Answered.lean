import FindFriendBot.Friends.Acknowledgement

/-!
# FindFriendBot — which messages are answered

`process_cmd` sends `msg_res` if the handler returned `true`. Only two handlers
derive that `bool` from a row count: `/stop` of a friend without a row, and a
`/set` that leaves the row as it was, are not answered. With working queries and
a working database every other message is.

* `answered_iff` — one message, in every reachable state.
-/

namespace FindFriendBot

/-- The statement of the message counts no row. -/
def Uncounted (s : State MySql) (pk : Pk) (msg : Message) (time : Nat) : Prop :=
  match msg.dispatch with
  | some (.stop, _) => pk.hex ∉ s.db.table.rows
  | some (.set, signature) => signature ≠ [] ∧
      ∀ row, s.db.table.rows[pk.hex]? = some row →
        row.signature = cStr signature ∧ row.updateTime = time
  | _ => False

namespace Reference

variable (env : Env) (r : State MySql) (pk : Pk)

/-- The other commands fix their `bool`. -/
theorem runCmd_answers (ans : Answers) {cmd : Command} (param : Bytes)
    (hcmd : cmd ∉ [Command.start, Command.stop, Command.set]) :
    (runCmd MySql.driver env r pk ans cmd param).2.2 = true := by
  cases cmd with
  | start => exact absurd hcmd (by decide)
  | stop => exact absurd hcmd (by decide)
  | set => exact absurd hcmd (by decide)
  | get =>
    show (cmdGet env r pk ans).2.2 = true
    unfold cmdGet
    split <;> rfl
  | info =>
    show (cmdInfo env r pk ans env.conf.descUnknownCmd).2.2 = true
    unfold cmdInfo
    split
    · rfl
    · split <;> rfl
  | help => rfl
  | readme => rfl
  | unknown => rfl

/-- An empty parameter is answered with the usage text. -/
theorem reply_empty {msg : Message} {cmd : Command} (hdisp : msg.dispatch = some (cmd, []))
    (hcmd : cmd = .start ∨ cmd = .set) (ans : Answers) :
    (reply env r pk msg ans).isSome := by
  rw [reply_eq env r pk hdisp]
  rcases hcmd with rfl | rfl <;> rfl

theorem setChanges_none (signature : Bytes) {ans : Answers} (hsql : ans.sql = none) :
    SetChanges r pk signature ans ↔ ∃ row, r.db.table.rows[pk.hex]? = some row ∧
      ¬ (row.signature = cStr signature ∧ row.updateTime = ans.time) := by
  have hrow : ∀ row, MemberModel.setSignature (cStr signature) ans.time row ≠ row ↔
      ¬ (row.signature = cStr signature ∧ row.updateTime = ans.time) := by
    intro row
    obtain ⟨id, tokId, nickName, bio, sig, createTime, updateTime⟩ := row
    simp [MemberModel.setSignature, eq_comm]
  simp only [SetChanges, hsql, executes_none, true_and, hrow]

end Reference

/-- **Every message is answered** exactly when its statement, if it has one, counts a
row: in every reachable state, for every friend and every text, with working
queries and a working database. -/
theorem answered_iff (env : Env) (db : MySql) (tox : Tox) (is : List Input) {s : State MySql}
    {os : List Output}
    (hrun : (Bot.machine MySql.driver env).run (Bot.init db tox) is = some (s, os))
    (pk : Pk) (msg : Message) {ans : Answers} (hname : ans.nameQuery = .ok)
    (hstatus : ans.statusMessageQuery = .ok) (hsql : ans.sql = none) :
    ∃ s' o, Bot.step MySql.driver env s (.message pk msg, ans) = some (s', o) ∧
      (o.reply.isSome ↔ ¬ Uncounted s pk msg ans.time) := by
  obtain ⟨r, -, href⟩ := reachable_refines MySql.driver env hrun
  obtain ⟨s', hstep, -⟩ := href.step env (.message pk msg, ans)
  refine ⟨s', _, hstep, ?_⟩
  show (Reference.reply env r pk msg ans).isSome ↔ _
  obtain ⟨cmd, param, hdisp⟩ := msg.dispatch_isSome
  simp only [Uncounted, hdisp, href.db]
  cases cmd with
  -- /start is answered with or without a token
  | start =>
    refine iff_of_true ?_ not_false
    by_cases hparam : param = []
    · exact Reference.reply_empty env r pk (hparam ▸ hdisp) (Or.inl rfl) ans
    · rw [Reference.reply_start env r pk hdisp hparam]
      simp [Profile.queries, queryBuffer, hname, hstatus]
  | stop =>
    rw [Reference.reply_stop env r pk hdisp, hsql]
    -- /stop is answered if it deletes a row
    by_cases hin : pk.hex ∈ r.db.table.rows <;> simp [hin]
  | set =>
    by_cases hparam : param = []
    · refine iff_of_true ?_ fun h => h.1 hparam
      exact Reference.reply_empty env r pk (hparam ▸ hdisp) (Or.inr rfl) ans
    · rcases Reference.reply_set env r pk hdisp hparam ans with ⟨hreply, hch⟩ | ⟨hreply, hno⟩
      · obtain ⟨row, hrow, hne⟩ := (Reference.setChanges_none r pk param hsql).mp hch
        -- the UPDATE changed the row
        rw [hreply]
        exact iff_of_true rfl fun h => hne (h.2 row hrow)
      · rw [Reference.setChanges_none r pk param hsql] at hno
        rw [hreply]
        -- there is no row, or it has that signature already
        refine iff_of_false (by simp) (not_not_intro ⟨hparam, ?_⟩)
        intro row hrow
        exact by_contra fun hne => hno ⟨row, hrow, hne⟩
  -- the other commands always have a text
  | _ =>
    refine iff_of_true ?_ not_false
    rw [Reference.reply_eq env r pk hdisp,
      if_pos (Reference.runCmd_answers env _ pk ans param (by decide))]
    rfl

/-- One friend has started. Their `/stop` is answered, and that of another friend is not. -/
theorem answered_iff_stop :
    ∃ s os, (Bot.machine MySql.driver Env.sample).run
        (Bot.init (MySql.holding Table.empty) Tox.blank)
        [(.message Pk.first ⟨bytes "/start A1", by decide⟩, Answers.plain)] = some (s, os) ∧
      (∃ s' o, Bot.step MySql.driver Env.sample s
          (.message Pk.first ⟨bytes "/stop", by decide⟩, Answers.plain) = some (s', o) ∧
        o.reply.isSome) ∧
      ∃ s' o, Bot.step MySql.driver Env.sample s
          (.message Pk.second ⟨bytes "/stop", by decide⟩, Answers.plain) = some (s', o) ∧
        ¬ o.reply.isSome := by
  obtain ⟨s, os, hrun, hfirst, hsecond⟩ : ∃ s os, (Bot.machine MySql.driver Env.sample).run
        (Bot.init (MySql.holding Table.empty) Tox.blank)
        [(.message Pk.first ⟨bytes "/start A1", by decide⟩, Answers.plain)] = some (s, os) ∧
      Pk.first.hex ∈ s.db.table.rows ∧ Pk.second.hex ∉ s.db.table.rows := by
    -- the first friend has a row, the second has none
    refine ⟨_, _, rfl, ?_, ?_⟩
    · exact OrderedMap.mem_of_get rfl
    · exact OrderedMap.not_mem_of_get rfl
  have hstop : Message.dispatch ⟨bytes "/stop", by decide⟩ = some (.stop, []) := by decide
  have hanswered : ∀ pk : Pk, ∃ s' o, Bot.step MySql.driver Env.sample s
      (.message pk ⟨bytes "/stop", by decide⟩, Answers.plain) = some (s', o) ∧
        (o.reply.isSome ↔ pk.hex ∈ s.db.table.rows) := by
    intro pk
    have hname : Answers.plain.nameQuery = .ok := rfl
    have hstatus : Answers.plain.statusMessageQuery = .ok := rfl
    have hsql : Answers.plain.sql = none := rfl
    obtain ⟨s', o, hstep, hiff⟩ := answered_iff Env.sample _ _ _ hrun pk
      ⟨bytes "/stop", by decide⟩ hname hstatus hsql
    simp only [Uncounted, hstop, not_not] at hiff
    exact ⟨s', o, hstep, hiff⟩
  refine ⟨s, os, hrun, ?_, ?_⟩
  · obtain ⟨s', o, hstep, hiff⟩ := hanswered Pk.first
    exact ⟨s', o, hstep, hiff.mpr hfirst⟩
  · obtain ⟨s', o, hstep, hiff⟩ := hanswered Pk.second
    exact ⟨s', o, hstep, fun hreply => hsecond (hiff.mp hreply)⟩

/-- A stranger's `/stop` gets no answer. -/
theorem stop_unanswered :
    ∃ s' o, Bot.step MySql.driver Env.sample
        (Bot.init (MySql.holding Table.empty) Tox.blank)
        (.message Pk.first ⟨bytes "/stop", by decide⟩, Answers.plain) = some (s', o) ∧
      o.reply = none :=
  ⟨_, _, rfl, rfl⟩

end FindFriendBot
