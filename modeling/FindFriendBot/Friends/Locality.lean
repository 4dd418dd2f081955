import FindFriendBot.Friends.Share

/-!
# FindFriendBot — friends do not touch each other

Friends share one map, one pool and one table, but an event of one leaves every
other friend's row and entry alone, and what it does to its own depends on
nothing else. So events of different friends commute, up to the ids the table
hands out.

* `Share.step_congr` — the answer of `rand()` is not used.
* `next_comm`        — two events of different friends, in either order.
* `locality`         — all of it, in every reachable state of the bot.
-/

namespace FindFriendBot

/-- The same time, friend queries and SQL outcome. -/
structure Answers.Agree (a b : Answers) : Prop where
  time : a.time = b.time
  nameQuery : a.nameQuery = b.nameQuery
  statusMessageQuery : a.statusMessageQuery = b.statusMessageQuery
  sql : a.sql = b.sql

theorem Share.step_congr {a b : Answers} (h : a.Agree b) (p : Profile) (e : Event) (sh : Share) :
    sh.step p e a = sh.step p e b := by
  obtain ⟨time, rand, nameQuery, statusMessageQuery, sql⟩ := a
  obtain ⟨time', rand', nameQuery', statusMessageQuery', sql'⟩ := b
  obtain ⟨rfl, rfl, rfl, rfl⟩ := h
  cases e <;> rfl

namespace Reference

variable (env : Env)

/-- A friend's share after their event and someone else's, in this order. -/
theorem share_own_then_other (r : State MySql) {e f : Event} {A B : Pk} (he : e.pk? = some A)
    (hf : f.pk? = some B) (hne : A ≠ B) (a b : Answers) :
    (next env (next env r (e, a)) (f, b)).share A.hex =
      (r.share A.hex).step (r.tox.profile A) e a := by
  rw [(next_actsOn env (next env r (e, a)) b hf).share_friend hne]
  exact (next_actsOn env r a he).own

/-- And in the other order. -/
theorem share_other_then_own (r : State MySql) {e f : Event} {A B : Pk} (he : e.pk? = some A)
    (hf : f.pk? = some B) (hne : A ≠ B) (a b : Answers) :
    (next env (next env r (f, b)) (e, a)).share A.hex =
      (r.share A.hex).step (r.tox.profile A) e a := by
  have hown := (next_actsOn env (next env r (f, b)) a he).own
  have hprofile : (next env r (f, b)).tox.profile A = r.tox.profile A :=
    next_profile env r b hf hne
  have hshare : (next env r (f, b)).share A.hex = r.share A.hex :=
    (next_actsOn env r b hf).share_friend hne
  rw [hown, hprofile, hshare]

/-- **Events of different friends commute** on every share. -/
theorem next_comm (r : State MySql) {e f : Event} {A B : Pk} (he : e.pk? = some A)
    (hf : f.pk? = some B) (hne : A ≠ B) (a b : Answers) (k : Bytes) :
    (next env (next env r (e, a)) (f, b)).share k =
      (next env (next env r (f, b)) (e, a)).share k := by
  have hA := next_actsOn env r a he
  have hB := next_actsOn env r b hf
  have hAB := next_actsOn env (next env r (e, a)) b hf
  have hBA := next_actsOn env (next env r (f, b)) a he
  by_cases hkA : k = A.hex
  · rw [hkA, share_own_then_other env r he hf hne, share_other_then_own env r he hf hne]
  · by_cases hkB : k = B.hex
    · rw [hkB, share_own_then_other env r hf he (Ne.symm hne),
        share_other_then_own env r hf he (Ne.symm hne)]
    · by_cases hnil : k = []
      · -- both may file the blank member under "": whoever comes first
        subst hnil
        have hflagA : Share.filesBlank e a ((next env r (f, b)).share A.hex) =
            Share.filesBlank e a (r.share A.hex) := congrArg _ (hB.share_friend hne)
        have hflagB : Share.filesBlank f b ((next env r (e, a)).share B.hex) =
            Share.filesBlank f b (r.share B.hex) := congrArg _ (hA.share_friend (Ne.symm hne))
        have hrows : (next env (next env r (e, a)) (f, b)).db.table.rows[([] : Bytes)]? =
            (next env (next env r (f, b)) (e, a)).db.table.rows[([] : Bytes)]? := by
          rw [hAB.rows [] hkB, hA.rows [] hkA, hBA.rows [] hkA, hB.rows [] hkB]
        have hentry : (next env (next env r (e, a)) (f, b)).registry[([] : Bytes)]? =
            (next env (next env r (f, b)) (e, a)).registry[([] : Bytes)]? := by
          rw [hAB.nil, hflagB, hA.nil, hBA.nil, hflagA, hB.nil]
          cases Share.filesBlank e a (r.share A.hex) <;>
            cases Share.filesBlank f b (r.share B.hex) <;> rfl
        rw [State.share, State.share, hrows, hentry]
      · rw [hAB.share_other hkB hnil, hA.share_other hkA hnil, hBA.share_other hkA hnil,
          hB.share_other hkB hnil]

end Reference

/-- A message whose command is none of `/start`, `/stop` and `/set`. -/
def Event.Inert : Event → Prop
  | .message _ msg => ∀ cmd param, msg.dispatch = some (cmd, param) →
      cmd ∉ [Command.start, Command.stop, Command.set]
  | _ => False

theorem Reference.next_inert (env : Env) (r : State MySql) {e : Event} (he : e.Inert)
    (ans : Answers) :
    (next env r (e, ans)).registry = r.registry ∧ (next env r (e, ans)).db.table = r.db.table := by
  cases e with
  | message pk msg =>
    obtain ⟨cmd, param, hdisp⟩ := msg.dispatch_isSome
    have hsame := runCmd_state MySql.driver env { r with db := MySql.driver.begin ans.sql r.db }
      pk ans param (he cmd param hdisp)
    simp only [next, step, handle, friendMessageCb, hdisp, hsame, true_and]
    rfl
  | connectionStatus pk status => exact he.elim
  | name pk name => exact he.elim
  | statusMessage pk message => exact he.elim
  | restart => exact he.elim

/-- **Locality.** In a reachable state `s₁`, an event of `A` with any answers leaves the
row and the entry of `B` as they were; what it leaves `A` depends on `A`'s own
row, entry and profile alone, whatever else differs in another reachable state
`s₂`; it commutes with any event of `B`; and if it is a message with another
command than `/start`, `/stop` and `/set` it changes nothing. -/
theorem locality (env : Env) {db₁ db₂ : MySql} {tox₁ tox₂ : Tox} {is₁ is₂ : List Input}
    {s₁ s₂ : State MySql} {os₁ os₂ : List Output}
    (h₁ : (Bot.machine MySql.driver env).run (Bot.init db₁ tox₁) is₁ = some (s₁, os₁))
    (h₂ : (Bot.machine MySql.driver env).run (Bot.init db₂ tox₂) is₂ = some (s₂, os₂))
    {A B : Pk} (hne : A ≠ B) {e f : Event} (he : e.pk? = some A) (hf : f.pk? = some B)
    (a b : Answers) :
    ∃ s o, Bot.step MySql.driver env s₁ (e, a) = some (s, o) ∧
      (s.db.table.rows[B.hex]? = s₁.db.table.rows[B.hex]? ∧
        s.memberMgr.memberAt B.hex = s₁.memberMgr.memberAt B.hex) ∧
      (∀ a' : Answers, a.Agree a' → s₁.share A.hex = s₂.share A.hex →
        s₁.tox.profile A = s₂.tox.profile A →
        ∃ s' o', Bot.step MySql.driver env s₂ (e, a') = some (s', o') ∧
          s.share A.hex = s'.share A.hex) ∧
      (∃ sef oef sfe ofe,
        (Bot.machine MySql.driver env).run s₁ [(e, a), (f, b)] = some (sef, oef) ∧
        (Bot.machine MySql.driver env).run s₁ [(f, b), (e, a)] = some (sfe, ofe) ∧
        ∀ k, sef.share k = sfe.share k) ∧
      (e.Inert → s.db.table = s₁.db.table ∧
        ∀ k, s.memberMgr.memberAt k = s₁.memberMgr.memberAt k) := by
  obtain ⟨r₁, -, href₁⟩ := reachable_refines MySql.driver env h₁
  obtain ⟨r₂, -, href₂⟩ := reachable_refines MySql.driver env h₂
  obtain ⟨s, hstep, href⟩ := href₁.step env (e, a)
  have hacts := Reference.next_actsOn env r₁ a he
  -- a friend's event writes the row and the entry of its own key only
  have hB : B.hex ≠ A.hex := fun heq => hne (Pk.hex_inj.mp heq).symm
  refine ⟨s, _, hstep, ⟨?_, ?_⟩, ?_, ?_, ?_⟩
  · rw [href.db, href₁.db]
    exact hacts.rows B.hex hB
  · rw [href.memberAt, href₁.memberAt]
    exact hacts.registry B.hex hB B.hex_ne_nil
  -- the other run has the same friend's share and profile, so the same step on it
  · intro a' hagree hshare hprofile
    obtain ⟨s', hstep', href'⟩ := href₂.step env (e, a')
    refine ⟨s', _, hstep', ?_⟩
    rw [href₁.share, href₂.share] at hshare
    rw [href₁.tox, href₂.tox] at hprofile
    rw [href.share, href'.share, hacts.own, (Reference.next_actsOn env r₂ a' he).own, hshare,
      hprofile, Share.step_congr hagree]
  -- in either order each share is that of the reference, where the two events commute
  · obtain ⟨sf, hstepf, hreff⟩ := href₁.step env (f, b)
    obtain ⟨sef, hstepef, hrefef⟩ := href.step env (f, b)
    obtain ⟨sfe, hstepfe, hreffe⟩ := hreff.step env (e, a)
    refine ⟨sef, _, sfe, _, StepMachine.run_cons_iff.mpr ⟨s, _, _, hstep,
      StepMachine.run_cons_iff.mpr ⟨sef, _, _, hstepef, rfl, rfl⟩, rfl⟩,
      StepMachine.run_cons_iff.mpr ⟨sf, _, _, hstepf,
        StepMachine.run_cons_iff.mpr ⟨sfe, _, _, hstepfe, rfl, rfl⟩, rfl⟩, ?_⟩
    intro k
    rw [hrefef.share, hreffe.share]
    exact Reference.next_comm env r₁ he hf hne a b k
  -- a message of a command that writes nothing
  · intro hinert
    obtain ⟨hregistry, htable⟩ := Reference.next_inert env r₁ hinert a
    constructor
    · rw [href.db, href₁.db]
      exact htable
    · intro k
      rw [href.memberAt, href₁.memberAt]
      exact congrArg (fun m : Std.ExtTreeMap Bytes Member => m[k]?) hregistry

/-- The signature in the row and in the entry. -/
def Share.signatures (sh : Share) : Option Bytes × Option Bytes :=
  (sh.row.map Row.signature, sh.entry.map Member.signature)

/-- Two friends start. -/
def twoStarts : List Input :=
  [(.message Pk.first ⟨bytes "/start 1", by decide⟩, Answers.plain),
    (.message Pk.second ⟨bytes "/start 2", by decide⟩, Answers.plain)]

/-- Both have a row and an entry, and the first has the share of a friend who is alone. -/
theorem twoStarts_run :
    ∃ s₁ os₁ s₂ os₂, (Bot.machine MySql.driver Env.sample).run
        (Bot.init (MySql.holding Table.empty) Tox.blank) twoStarts = some (s₁, os₁) ∧
      (Bot.machine MySql.driver Env.sample).run (Bot.init (MySql.holding Table.empty) Tox.blank)
        (twoStarts.take 1) = some (s₂, os₂) ∧
      (s₁.share Pk.first.hex).signatures = (some [], some []) ∧
      (s₁.share Pk.second.hex).signatures = (some [], some []) ∧
      (Bot.step MySql.driver Env.sample s₁
          (.message Pk.first ⟨bytes "/set x", by decide⟩, Answers.plain)).map
        (fun p => (p.1.share Pk.first.hex).signatures) =
          some (some (bytes " x"), some (bytes " x")) ∧
      s₁.share Pk.first.hex = s₂.share Pk.first.hex ∧
      s₁.tox.profile Pk.first = s₂.tox.profile Pk.first :=
  ⟨_, _, _, _, rfl, rfl, rfl, rfl, rfl, rfl, rfl⟩

/-- Both have a row and an entry. The first sets a signature, which changes the row and the entry
of the first, just as if the second had never been there; the second changes the name, before
or after; and the first asks for `/info`. -/
theorem locality_two_friends :
    ∃ s₁ os₁ s₂ os₂, (Bot.machine MySql.driver Env.sample).run
        (Bot.init (MySql.holding Table.empty) Tox.blank) twoStarts = some (s₁, os₁) ∧
      (Bot.machine MySql.driver Env.sample).run (Bot.init (MySql.holding Table.empty) Tox.blank)
        (twoStarts.take 1) = some (s₂, os₂) ∧
      (∃ s o, Bot.step MySql.driver Env.sample s₁
          (.message Pk.first ⟨bytes "/set x", by decide⟩, Answers.plain) = some (s, o) ∧
        (s₁.share Pk.first.hex).signatures = (some [], some []) ∧
        (s.share Pk.first.hex).signatures = (some (bytes " x"), some (bytes " x")) ∧
        (s₁.share Pk.second.hex).signatures = (some [], some []) ∧
        s.db.table.rows[Pk.second.hex]? = s₁.db.table.rows[Pk.second.hex]? ∧
        s.memberMgr.memberAt Pk.second.hex = s₁.memberMgr.memberAt Pk.second.hex ∧
        (∃ s' o', Bot.step MySql.driver Env.sample s₂
            (.message Pk.first ⟨bytes "/set x", by decide⟩, Answers.plain) = some (s', o') ∧
          s.share Pk.first.hex = s'.share Pk.first.hex) ∧
        ∃ sef oef sfe ofe,
          (Bot.machine MySql.driver Env.sample).run s₁
            [(.message Pk.first ⟨bytes "/set x", by decide⟩, Answers.plain),
              (.name Pk.second (bytes "y"), Answers.plain)] = some (sef, oef) ∧
          (Bot.machine MySql.driver Env.sample).run s₁
            [(.name Pk.second (bytes "y"), Answers.plain),
              (.message Pk.first ⟨bytes "/set x", by decide⟩, Answers.plain)] = some (sfe, ofe) ∧
          ∀ k, sef.share k = sfe.share k) ∧
      ∃ s o, Bot.step MySql.driver Env.sample s₁
          (.message Pk.first ⟨bytes "/info", by decide⟩, Answers.plain) = some (s, o) ∧
        s.db.table = s₁.db.table ∧ ∀ k, s.memberMgr.memberAt k = s₁.memberMgr.memberAt k := by
  have hset : (Event.message Pk.first ⟨bytes "/set x", by decide⟩).pk? = some Pk.first := rfl
  have hinfo : (Event.message Pk.first ⟨bytes "/info", by decide⟩).pk? = some Pk.first := rfl
  have hname : (Event.name Pk.second (bytes "y")).pk? = some Pk.second := rfl
  have hne : Pk.first ≠ Pk.second := by decide
  obtain ⟨s₁, os₁, s₂, os₂, hrun₁, hrun₂, hfirst, hsecond, hafter, hshare, hprofile⟩ :=
    twoStarts_run
  -- /set x changes the first friend's row and entry, and not the second's
  refine ⟨s₁, os₁, s₂, os₂, hrun₁, hrun₂, ?_, ?_⟩
  · obtain ⟨s, o, hstep, ⟨hrow, hentry⟩, hown, hcomm, -⟩ :=
      locality Env.sample hrun₁ hrun₂ hne hset hname Answers.plain Answers.plain
    rw [hstep] at hafter
    exact ⟨s, o, hstep, hfirst, Option.some.inj hafter, hsecond, hrow, hentry,
      hown Answers.plain ⟨rfl, rfl, rfl, rfl⟩ hshare hprofile, hcomm⟩
  -- /info changes nothing at all
  · obtain ⟨s, o, hstep, -, -, -, hinert⟩ :=
      locality Env.sample hrun₁ hrun₂ hne hinfo hname Answers.plain Answers.plain
    refine ⟨s, o, hstep, hinert ?_⟩
    intro cmd param hdisp
    have hcmd : Message.dispatch ⟨bytes "/info", by decide⟩ = some (.info, []) := by decide
    obtain ⟨rfl, -⟩ := Prod.mk.inj (Option.some.inj (hcmd.symm.trans hdisp))
    decide

end FindFriendBot
