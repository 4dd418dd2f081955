import FindFriendBot.Friends.Acknowledgement
import FindFriendBot.Messages.Parsing

/-!
# FindFriendBot — the blank and the slash

Two consequences of how `parse_msg` cuts a message. The blank that ends the
command is part of the parameter, so a parameter after a blank is never empty
and never what follows the blank. And the search for the blank is not anchored
after the slash, so a blank in the text before the slash moves the cut.

* `param_keeps_blank`   — the parameter of `/command text`.
* `prefixIgnored_iff`   — when the text before the slash makes no difference.
-/

namespace FindFriendBot

-- ---------------------------------------------------------------------------
-- The parameter
-- ---------------------------------------------------------------------------

/-- `parse_msg` hands on the command word and the text after the blank. -/
def ParamExact (c p : Bytes) : Prop := parseMsg (47 :: (c ++ 32 :: p)) = some (c, p)

/-- **The blank stays with the parameter.** No message with a blank after its command
is cut at the blank, and the handlers always get a parameter that starts with
it: the checks for an empty one never see the text after a blank. -/
theorem param_keeps_blank (c p : Bytes) (hc : 32 ∉ c) {msg : Message}
    (htext : msg.text = 47 :: (c ++ 32 :: p)) :
    parseMsg msg.text = some (c, 32 :: p) ∧ ¬ ParamExact c p ∧
      ∀ cmd param, msg.dispatch = some (cmd, param) → ∃ rest, param = 32 :: rest := by
  have hlen := msg.length_lt
  rw [htext] at hlen
  have hparse : parseMsg (47 :: (c ++ 32 :: p)) = some (c, 32 :: p) :=
    parseMsg_slash_first List.not_mem_nil List.not_mem_nil hc (Or.inr ⟨p, rfl⟩) hlen
  refine ⟨htext ▸ hparse, ?_, ?_⟩
  -- the parameter is one byte longer than p
  · intro hexact
    have heq : (c, (32 : UInt8) :: p) = (c, p) := Option.some.inj (hparse.symm.trans hexact)
    have hlength := congrArg (fun r => r.2.length) heq
    simp only [List.length_cons] at hlength
    omega
  · intro cmd param hdisp
    rw [Message.dispatch_of_parse (htext ▸ hparse), Option.some.injEq, Prod.mk.injEq] at hdisp
    obtain ⟨rfl, rfl⟩ := hdisp
    -- upper case or not, the blank stays in front
    unfold Command.argument
    split
    · exact ⟨toUpper p, rfl⟩
    · exact ⟨p, rfl⟩

theorem param_keeps_blank_start :
    parseMsg (bytes "/start A1") = some (bytes "start", bytes " A1") ∧
      ¬ ParamExact (bytes "start") (bytes "A1") ∧
      ∀ cmd param, Message.dispatch ⟨bytes "/start A1", by decide⟩ = some (cmd, param) →
        ∃ rest, param = 32 :: rest := by
  have htext : Message.text ⟨bytes "/start A1", by decide⟩ =
      47 :: (bytes "start" ++ 32 :: bytes "A1") := by decide
  exact param_keeps_blank (bytes "start") (bytes "A1") (by decide) htext

/-- A `/start` with nothing after its blank is accepted, and the blank is stored. -/
theorem blank_start_registers :
    ¬ ParamExact (bytes "start") [] ∧
      ∃ s' o row, Bot.step MySql.driver Env.sample
          (Bot.init (MySql.holding Table.empty) Tox.blank)
          (.message Pk.first ⟨bytes "/start ", by decide⟩, Answers.plain) = some (s', o) ∧
        o.reply = some (expandNewlines Env.sample.conf.descStart) ∧
        s'.db.table.rows[Pk.first.hex]? = some row ∧ row.tokId = bytes " " := by
  refine ⟨?_, _, _, _, rfl, rfl, rfl, rfl⟩
  intro hexact
  have hparse : parseMsg (bytes "/start ") = some (bytes "start", []) := hexact
  exact absurd hparse (by decide)

-- ---------------------------------------------------------------------------
-- The text before the slash
-- ---------------------------------------------------------------------------

/-- The two messages leave the same table and the same registry, and get the same
reply. -/
def SameHandling (env : Env) (s : State MySql) (pk : Pk) (ans : Answers) (m₁ m₂ : Message) :
    Prop :=
  ∃ s₁ o₁ s₂ o₂, Bot.step MySql.driver env s (.message pk m₁, ans) = some (s₁, o₁) ∧
    Bot.step MySql.driver env s (.message pk m₂, ans) = some (s₂, o₂) ∧
    s₁.db.table = s₂.db.table ∧
    (∀ k, s₁.memberMgr.memberAt k = s₂.memberMgr.memberAt k) ∧ o₁.reply = o₂.reply

/-- The two messages are handled the same in every reachable state. -/
def HandledAlike (m₁ m₂ : Message) : Prop :=
  ∀ (env : Env) (db : MySql) (tox : Tox) (is : List Input) (s : State MySql) (os : List Output),
    (Bot.machine MySql.driver env).run (Bot.init db tox) is = some (s, os) →
    ∀ pk ans, SameHandling env s pk ans m₁ m₂

/-- Only `/start` and `/set` look at the parameter. -/
theorem runCmd_param {σ : Type} (D : Driver σ) (env : Env) (s : State σ) (pk : Pk) (ans : Answers)
    {cmd : Command} (hstart : cmd ≠ .start) (hset : cmd ≠ .set) (a b : Bytes) :
    Assisant.runCmd D env s pk ans cmd a = Assisant.runCmd D env s pk ans cmd b := by
  cases cmd with
  | start => exact absurd rfl hstart
  | set => exact absurd rfl hset
  | _ => rfl

theorem HandledAlike.of_dispatch {m₁ m₂ : Message} {cmd : Command} {a b : Bytes}
    (h₁ : m₁.dispatch = some (cmd, a)) (h₂ : m₂.dispatch = some (cmd, b))
    (hparam : a = b ∨ cmd ≠ .start ∧ cmd ≠ .set) : HandledAlike m₁ m₂ := by
  intro env db tox is s os hrun pk ans
  obtain ⟨r, -, href⟩ := reachable_refines MySql.driver env hrun
  obtain ⟨s', hstep, -⟩ := href.step env (.message pk m₁, ans)
  -- the two messages run the same command, with parameters that make no difference
  have hsame : Bot.step MySql.driver env s (.message pk m₂, ans) =
      Bot.step MySql.driver env s (.message pk m₁, ans) := by
    have hcmd : ∀ s : State MySql, Assisant.runCmd MySql.driver env s pk ans cmd b =
        Assisant.runCmd MySql.driver env s pk ans cmd a := by
      intro s
      rcases hparam with rfl | ⟨hstart, hset⟩
      · rfl
      · exact runCmd_param MySql.driver env s pk ans hstart hset b a
    simp only [Bot.step, Bot.handle, Assisant.friendMessageCb, h₁, h₂, hcmd]
    rfl
  exact ⟨s', _, s', _, hstep, hsame.trans hstep, rfl, fun _ => rfl, rfl⟩

/-- A bot with nobody registered and nobody in the table. -/
def freshBot : Reference.State MySql := Reference.init (MySql.holding Table.empty) Tox.blank

/-- Its reply. -/
def firstReply (msg : Message) : Option Bytes :=
  Reference.reply Env.sample freshBot Pk.first msg Answers.plain

theorem HandledAlike.firstReply_eq {m₁ m₂ : Message} (h : HandledAlike m₁ m₂) :
    firstReply m₁ = firstReply m₂ := by
  have hrun : (Bot.machine MySql.driver Env.sample).run
      (Bot.init (MySql.holding Table.empty) Tox.blank) [] = some (_, []) := rfl
  obtain ⟨s₁, o₁, s₂, o₂, hstep₁, hstep₂, -, -, hreply⟩ :=
    h Env.sample (MySql.holding Table.empty) Tox.blank [] _ _ hrun Pk.first Answers.plain
  have href := refines_init (MySql.holding Table.empty) Tox.blank
  rw [(href.of_step hstep₁).2, (href.of_step hstep₂).2] at hreply
  exact hreply

theorem firstReply_start {msg : Message} {param : Bytes}
    (hdisp : msg.dispatch = some (.start, param)) (hparam : param ≠ []) :
    firstReply msg = some (expandNewlines Env.sample.conf.descStart) := by
  unfold firstReply
  rw [Reference.reply_start _ _ _ hdisp hparam]
  rfl

theorem firstReply_set {msg : Message} {param : Bytes}
    (hdisp : msg.dispatch = some (.set, param)) (hparam : param ≠ []) : firstReply msg = none := by
  rcases Reference.reply_set Env.sample freshBot Pk.first hdisp hparam Answers.plain with
    ⟨-, -, row, hrow, -⟩ | ⟨hnone, -⟩
  · exact absurd hrow (by simp [freshBot, Reference.init, MySql.holding, Table.empty])
  · exact hnone

theorem firstReply_fixed {msg : Message} {cmd : Command} {param : Bytes}
    (hdisp : msg.dispatch = some (cmd, param)) (text : Bytes)
    (htext : (Reference.runCmd MySql.driver Env.sample freshBot Pk.first Answers.plain cmd
      param).2 = (text, true)) :
    firstReply msg = some (expandNewlines text) := by
  have hbegin : { freshBot with db := MySql.driver.begin Answers.plain.sql freshBot.db } =
      freshBot := rfl
  unfold firstReply
  rw [Reference.reply_eq _ _ _ hdisp, hbegin, htext]
  rfl

/-- A fresh bot tells the seven commands from an unknown one. -/
theorem firstReply_ne_unknown {msg msg' : Message} {cmd : Command} {param param' : Bytes}
    (hdisp : msg.dispatch = some (cmd, param)) (hparam : param ≠ [])
    (hunknown : msg'.dispatch = some (.unknown, param')) (hcmd : cmd ≠ .unknown) :
    firstReply msg ≠ firstReply msg' := by
  -- an unknown command is answered with its own text
  have hother : firstReply msg' = some (expandNewlines Env.sample.conf.descUnknownCmd) :=
    firstReply_fixed hunknown _ rfl
  rw [hother]
  -- every known command answers something else, or nothing, in a new bot
  cases cmd with
  | start =>
    rw [firstReply_start hdisp hparam]
    decide
  | stop =>
    unfold firstReply
    rw [Reference.reply_stop _ _ _ hdisp]
    simp [freshBot, Reference.init, MySql.holding, Table.empty]
  | set =>
    rw [firstReply_set hdisp hparam]
    exact (Option.some_ne_none _).symm
  | get =>
    rw [firstReply_fixed hdisp Env.sample.conf.descGetNone rfl]
    decide
  | info =>
    rw [firstReply_fixed hdisp (Env.sample.infoText [] [] []) rfl]
    decide
  | help =>
    rw [firstReply_fixed hdisp Env.sample.conf.descHelp rfl]
    decide
  | readme =>
    rw [firstReply_fixed hdisp Env.sample.conf.descReadme rfl]
    decide
  | unknown => exact absurd rfl hcmd

/-- And an empty parameter from any other. -/
theorem firstReply_ne_empty {msg msg' : Message} {cmd : Command} {param : Bytes}
    (hdisp : msg.dispatch = some (cmd, param)) (hparam : param ≠ [])
    (hempty : msg'.dispatch = some (cmd, [])) (hcmd : cmd = .start ∨ cmd = .set) :
    firstReply msg ≠ firstReply msg' := by
  rcases hcmd with rfl | rfl
  · rw [firstReply_start hdisp hparam,
      firstReply_fixed hempty Env.sample.conf.descStartNonTok rfl]
    decide
  · rw [firstReply_set hdisp hparam,
      firstReply_fixed hempty Env.sample.conf.descSetNonTok rfl]
    exact (Option.some_ne_none _).symm

-- ---------------------------------------------------------------------------
-- A blank before the slash
-- ---------------------------------------------------------------------------

/-- Without one the text before the slash is dropped. -/
theorem dispatch_slash_first {msg : Message} {q c rest : Bytes}
    (htext : msg.text = q ++ 47 :: (c ++ rest)) (hq : 47 ∉ q) (hqb : 32 ∉ q) (hc : 32 ∉ c)
    (hrest : BlankOrEnd rest) :
    msg.dispatch = some (Command.ofWord c, (Command.ofWord c).argument rest) := by
  have hlen := msg.length_lt
  rw [htext] at hlen
  apply Message.dispatch_of_parse
  rw [htext]
  exact parseMsg_slash_first hq hqb hc hrest hlen

/-- With one the command is everything after the slash. -/
theorem dispatch_blank_first {msg : Message} {q after : Bytes}
    (htext : msg.text = q ++ 47 :: after) (hq : 47 ∉ q) (hqb : 32 ∈ q) :
    ∃ param, param ≠ [] ∧
      msg.dispatch = some (Command.ofWord after, (Command.ofWord after).argument param) := by
  -- the first blank of the prefix
  obtain ⟨a, b, rfl, ha⟩ := List.eq_append_cons_of_mem hqb
  have hassoc : a ++ 32 :: b ++ 47 :: after = a ++ 32 :: (b ++ 47 :: after) := by simp
  have ha47 : 47 ∉ a := fun hin => hq (List.mem_append_left _ hin)
  have hb47 : 47 ∉ b := fun hin => hq (List.mem_append_right _ (List.mem_cons_of_mem _ hin))
  have hlen := msg.length_lt
  rw [htext, hassoc] at hlen
  refine ⟨32 :: (b ++ 47 :: after), List.cons_ne_nil _ _, Message.dispatch_of_parse ?_⟩
  rw [htext, hassoc]
  exact parseMsg_blank_first ha47 ha hb47 hlen

/-- **Text before the slash** is irrelevant exactly when it has no blank, or the
command ignores what the blank changes: with text after the command the word
itself is lost, without it the parameter is no longer empty. -/
theorem prefixIgnored_iff (q c p : Bytes) (hq : 47 ∉ q) (hc : 32 ∉ c)
    {long short longBare shortBare : Message}
    (hlong : long.text = q ++ 47 :: (c ++ 32 :: p)) (hshort : short.text = 47 :: (c ++ 32 :: p))
    (hlongBare : longBare.text = q ++ 47 :: c) (hshortBare : shortBare.text = 47 :: c) :
    (HandledAlike long short ↔ 32 ∉ q ∨ Command.ofWord c = .unknown) ∧
      (HandledAlike longBare shortBare ↔
        32 ∉ q ∨ Command.ofWord c ≠ .start ∧ Command.ofWord c ≠ .set) := by
  have hblank : BlankOrEnd (32 :: p) := Or.inr ⟨p, rfl⟩
  have hend : BlankOrEnd [] := Or.inl rfl
  have happ : c = c ++ [] := (List.append_nil c).symm
  have hs := dispatch_slash_first hshort List.not_mem_nil List.not_mem_nil hc hblank
  have hsBare := dispatch_slash_first (happ ▸ hshortBare) List.not_mem_nil List.not_mem_nil hc hend
  -- a blank in the prefix: the command is what follows the slash, blank and all
  by_cases hqb : 32 ∈ q
  · obtain ⟨param, hne, hl⟩ := dispatch_blank_first hlong hq hqb
    obtain ⟨paramBare, hneBare, hlBare⟩ := dispatch_blank_first hlongBare hq hqb
    rw [Command.ofWord_of_blank (by simp : 32 ∈ c ++ 32 :: p)] at hl
    refine ⟨⟨?_, ?_⟩, ⟨?_, ?_⟩⟩
    · intro halike
      refine Or.inr (by_contra ?_)
      intro hknown
      -- what should be a known command is not known any more
      have hargument := Command.argument_ne_nil (Command.ofWord c) (List.cons_ne_nil 32 p)
      exact firstReply_ne_unknown hs hargument hl hknown halike.firstReply_eq.symm
    · intro hor
      have hunknown : Command.ofWord c = .unknown := hor.resolve_left fun h => h hqb
      rw [hunknown] at hs
      exact HandledAlike.of_dispatch hl hs (Or.inr ⟨by decide, by decide⟩)
    · intro halike
      refine Or.inr (not_or.mp ?_)
      -- a bare /start or /set gets a parameter out of nowhere
      intro hparam
      have hargument := Command.argument_ne_nil (Command.ofWord c) hneBare
      have hempty : (Command.ofWord c).argument [] = [] := by
        unfold Command.argument
        split <;> rfl
      rw [hempty] at hsBare
      exact firstReply_ne_empty hlBare hargument hsBare hparam halike.firstReply_eq
    · intro hor
      exact HandledAlike.of_dispatch hlBare hsBare (Or.inr (hor.resolve_left fun h => h hqb))
  -- no blank: prefix and slash are both skipped
  · have hl := dispatch_slash_first hlong hq hqb hc hblank
    have hlBare := dispatch_slash_first (happ ▸ hlongBare) hq hqb hc hend
    exact ⟨iff_of_true (HandledAlike.of_dispatch hl hs (Or.inl rfl)) (Or.inl hqb),
      iff_of_true (HandledAlike.of_dispatch hlBare hsBare (Or.inl rfl)) (Or.inl hqb)⟩

/-- A greeting without a blank does no harm, and one with a blank none to `/stop`; but `/start`
is no longer without a parameter. -/
theorem prefixIgnored_iff_greeting :
    HandledAlike ⟨bytes "hi/start A1", by decide⟩ ⟨bytes "/start A1", by decide⟩ ∧
      HandledAlike ⟨bytes "hi /stop", by decide⟩ ⟨bytes "/stop", by decide⟩ ∧
      ¬ HandledAlike ⟨bytes "hi /start", by decide⟩ ⟨bytes "/start", by decide⟩ := by
  have hjoined := prefixIgnored_iff (bytes "hi") (bytes "start") (bytes "A1") (by decide)
    (by decide)
    (show Message.text ⟨bytes "hi/start A1", by decide⟩ = _ from rfl)
    (show Message.text ⟨bytes "/start A1", by decide⟩ = _ from rfl)
    (show Message.text ⟨bytes "hi/start", by decide⟩ = _ from rfl)
    (show Message.text ⟨bytes "/start", by decide⟩ = _ from rfl)
  have hstop := prefixIgnored_iff (bytes "hi ") (bytes "stop") (bytes "now") (by decide) (by decide)
    (show Message.text ⟨bytes "hi /stop now", by decide⟩ = _ from rfl)
    (show Message.text ⟨bytes "/stop now", by decide⟩ = _ from rfl)
    (show Message.text ⟨bytes "hi /stop", by decide⟩ = _ from rfl)
    (show Message.text ⟨bytes "/stop", by decide⟩ = _ from rfl)
  have hstart := prefixIgnored_iff (bytes "hi ") (bytes "start") (bytes "A1") (by decide)
    (by decide)
    (show Message.text ⟨bytes "hi /start A1", by decide⟩ = _ from rfl)
    (show Message.text ⟨bytes "/start A1", by decide⟩ = _ from rfl)
    (show Message.text ⟨bytes "hi /start", by decide⟩ = _ from rfl)
    (show Message.text ⟨bytes "/start", by decide⟩ = _ from rfl)
  refine ⟨hjoined.1.mpr (Or.inl (by decide)), hstop.2.mpr (Or.inr (by decide)), ?_⟩
  intro halike
  exact absurd (hstart.2.mp halike) (by decide)

/-- The greeting turns `/start A1` into an unknown command. -/
theorem greeting_changes_start :
    ¬ HandledAlike ⟨bytes "hi /start A1", by decide⟩ ⟨bytes "/start A1", by decide⟩ := by
  intro halike
  have hstart : Message.dispatch ⟨bytes "/start A1", by decide⟩ =
      some (.start, bytes " A1") := by decide
  have hunknown : Message.dispatch ⟨bytes "hi /start A1", by decide⟩ =
      some (.unknown, bytes " /start A1") := by decide
  exact firstReply_ne_unknown hstart (by decide) hunknown (by decide) halike.firstReply_eq.symm

end FindFriendBot
