import FindFriendBot.Friends.Acknowledgement
import FindFriendBot.Lib.Noninterference

/-!
# FindFriendBot — what friends learn of each other

`/get` is the only command that is meant to tell a friend about others. All other
answers a friend gets, and their own row and entry, depend on their own events
and the restarts alone: whatever the other friends send, how often, in which
order and with which SQL failures, it does not show.

* `reply_congr`     — one reply, from the sender's share and profile.
* `unwinds`         — one event, seen or hidden.
* `noninterference` — every run.
-/

namespace FindFriendBot

/-- The friend's own events, and the restarts. -/
def Event.concerns (pk : Pk) (i : Input) : Bool :=
  i.1.pk? = some pk ∨ i.1.pk? = none

/-- What a friend is answered, except to `/get`. -/
def ownAnswer (i : Input) (o : Output) : Option Bytes :=
  match i.1 with
  | .message _ msg =>
    match msg.dispatch with
    | some (.get, _) => none
    | _ => o.reply
  | _ => o.reply

namespace Reference

-- ---------------------------------------------------------------------------
-- One reply
-- ---------------------------------------------------------------------------

/-- The friend has the same row, apart from its id, the same entry and the same profile. -/
structure SameFor (pk : Pk) (r r' : State MySql) : Prop where
  share : r.share pk.hex = r'.share pk.hex
  profile : r.tox.profile pk = r'.tox.profile pk

variable {pk : Pk} {r r' : State MySql}

theorem SameFor.entry (h : SameFor pk r r') : r.registry[pk.hex]? = r'.registry[pk.hex]? :=
  congrArg Share.entry h.share

/-- A property of the row that does not look at the id. -/
theorem SameFor.row_iff (h : SameFor pk r r') {P : Row → Prop}
    (hP : ∀ row : Row, P row.dropId ↔ P row) :
    (∃ row, r.db.table.rows[pk.hex]? = some row ∧ P row) ↔
      ∃ row, r'.db.table.rows[pk.hex]? = some row ∧ P row := by
  rw [exists_row_iff r _ hP, exists_row_iff r' _ hP, h.share]

theorem SameFor.mem_rows_iff (h : SameFor pk r r') :
    pk.hex ∈ r.db.table.rows ↔ pk.hex ∈ r'.db.table.rows := by
  have hrow := h.row_iff (P := fun _ => True) fun _ => Iff.rfl
  simp only [and_true, ← Option.isSome_iff_exists] at hrow
  rw [Std.ExtTreeMap.mem_iff_isSome_getElem?, Std.ExtTreeMap.mem_iff_isSome_getElem?, hrow]

/-- The `UPDATE` of `/set` does not look at the id. -/
theorem setChanges_congr (h : SameFor pk r r') (signature : Bytes) (ans : Answers) :
    SetChanges r pk signature ans ↔ SetChanges r' pk signature ans := by
  refine and_congr_right fun _ => h.row_iff ?_
  rintro ⟨id, tokId, nickName, bio, signature', createTime, updateTime⟩
  simp [Row.dropId, MemberModel.setSignature]

theorem cmdInfo_congr (env : Env) (h : SameFor pk r r') (ans : Answers) (msgRes : Bytes) :
    (cmdInfo env r pk ans msgRes).2 = (cmdInfo env r' pk ans msgRes).2 := by
  have hname : getName r.tox pk ans = getName r'.tox pk ans :=
    congrArg (fun p : Profile => queryBuffer ans.nameQuery p.name) h.profile
  have hstatus : getStatusMessage r.tox pk ans = getStatusMessage r'.tox pk ans :=
    congrArg (fun p : Profile => queryBuffer ans.statusMessageQuery p.statusMessage) h.profile
  unfold cmdInfo
  rw [h.entry, hname, hstatus]
  split
  · rfl
  · split <;> rfl

/-- **One reply** to another command than `/get` depends on the sender's share and profile. -/
theorem reply_congr (env : Env) (h : SameFor pk r r') {msg : Message} {cmd : Command}
    {param : Bytes} (hdisp : msg.dispatch = some (cmd, param)) (hcmd : cmd ≠ .get)
    (ans : Answers) : reply env r pk msg ans = reply env r' pk msg ans := by
  cases cmd with
  | start =>
    by_cases hparam : param = []
    · subst hparam
      rw [reply_eq env r pk hdisp, reply_eq env r' pk hdisp]
      rfl
    · rw [reply_start env r pk hdisp hparam, reply_start env r' pk hdisp hparam, h.profile]
  | stop =>
    rw [reply_stop env r pk hdisp, reply_stop env r' pk hdisp]
    -- of the table /stop reads only whether the friend has a row
    simp only [h.mem_rows_iff]
  | set =>
    by_cases hparam : param = []
    · subst hparam
      rw [reply_eq env r pk hdisp, reply_eq env r' pk hdisp]
      rfl
    -- /set answers by whether the UPDATE changes the friend's row, which both states share
    · have hchanges := setChanges_congr h param ans
      rcases reply_set env r pk hdisp hparam ans with ⟨hr, hyes⟩ | ⟨hr, hno⟩ <;>
        rcases reply_set env r' pk hdisp hparam ans with ⟨hr', hyes'⟩ | ⟨hr', hno'⟩
      · rw [hr, hr']
      · exact absurd (hchanges.mp hyes) hno'
      · exact absurd (hchanges.mpr hyes') hno
      · rw [hr, hr']
  | get => exact absurd rfl hcmd
  | info =>
    have hinfo := cmdInfo_congr env
      (show SameFor pk { r with db := MySql.driver.begin ans.sql r.db }
        { r' with db := MySql.driver.begin ans.sql r'.db } from ⟨h.share, h.profile⟩) ans
      env.conf.descUnknownCmd
    rw [reply_eq env r pk hdisp, reply_eq env r' pk hdisp]
    simp only [runCmd, hinfo]
    rfl
  | _ =>
    rw [reply_eq env r pk hdisp, reply_eq env r' pk hdisp]
    rfl

-- ---------------------------------------------------------------------------
-- One event
-- ---------------------------------------------------------------------------

/-- An event of someone else. -/
theorem SameFor.hidden (env : Env) (h : SameFor pk r r') {i : Input}
    (hi : Event.concerns pk i = false) : SameFor pk (next env r i) r' := by
  obtain ⟨e, ans⟩ := i
  simp only [Event.concerns, decide_eq_false_iff_not, not_or] at hi
  obtain ⟨A, hA⟩ := Option.ne_none_iff_exists'.mp hi.2
  have hne : pk ≠ A := fun heq => hi.1 (heq ▸ hA)
  constructor
  · rw [(next_actsOn env r ans hA).share_friend hne, h.share]
  · rw [next_profile env r ans hA hne, h.profile]

/-- An event that concerns the friend. -/
theorem SameFor.seen (env : Env) (h : SameFor pk r r') {i : Input}
    (hi : Event.concerns pk i = true) : SameFor pk (next env r i) (next env r' i) := by
  obtain ⟨e, ans⟩ := i
  simp only [Event.concerns, decide_eq_true_eq] at hi
  rcases hi with hpk | hpk
  · constructor
    · rw [(next_actsOn env r ans hpk).own, (next_actsOn env r' ans hpk).own, h.profile, h.share]
    · rw [next_tox, next_tox]
      have hprofile := h.profile
      simp only [Tox.profile, Profile.mk.injEq] at hprofile ⊢
      cases e with
      | connectionStatus p status =>
        by_cases hst : status = .none <;> simpa [Tox.apply, hst] using hprofile
      | message p msg => exact hprofile
      | name p name =>
        obtain rfl := Option.some.inj hpk
        simpa [Tox.apply] using hprofile.2
      | statusMessage p message =>
        obtain rfl := Option.some.inj hpk
        simpa [Tox.apply] using hprofile.1
      | restart => exact hprofile
  · obtain rfl := Event.eq_restart hpk
    constructor
    · have hrow : (r.share pk.hex).row = (r'.share pk.hex).row := congrArg Share.row h.share
      simp only [State.share, (next_restart env r ans).1, (next_restart env r ans).2,
        (next_restart env r' ans).1, (next_restart env r' ans).2, Share.mk.injEq, and_true]
      exact hrow
    · rw [next_tox, next_tox]
      exact h.profile

/-- The answer to an event that concerns the friend. -/
theorem SameFor.ownAnswer (env : Env) (h : SameFor pk r r') {i : Input}
    (hi : Event.concerns pk i = true) :
    FindFriendBot.ownAnswer i (step MySql.driver env r i).2 =
      FindFriendBot.ownAnswer i (step MySql.driver env r' i).2 := by
  obtain ⟨e, ans⟩ := i
  simp only [Event.concerns, decide_eq_true_eq] at hi
  cases e with
  | message p msg =>
    obtain rfl : p = pk := by simpa [Event.pk?] using hi
    obtain ⟨cmd, param, hdisp⟩ := msg.dispatch_isSome
    simp only [FindFriendBot.ownAnswer, hdisp]
    by_cases hcmd : cmd = .get
    · subst hcmd
      rfl
    · have hreply : (step MySql.driver env r (.message p msg, ans)).2.reply =
          (step MySql.driver env r' (.message p msg, ans)).2.reply :=
        reply_congr env h hdisp hcmd ans
      cases cmd with
      | get => exact absurd rfl hcmd
      | _ => exact hreply
  | _ => rfl

end Reference

-- ---------------------------------------------------------------------------
-- Runs
-- ---------------------------------------------------------------------------

/-- The two states look the same to the friend. -/
def Alike (pk : Pk) (s t : State MySql) : Prop :=
  ∃ r r', Refines s r ∧ Refines t r' ∧ Reference.SameFor pk r r'

/-- **One event**: another friend's is not noticed, one's own shows the same. -/
theorem unwinds (env : Env) (pk : Pk) :
    (Bot.machine MySql.driver env).Unwinds (Event.concerns pk) ownAnswer (Alike pk) where
  hidden := by
    rintro s t i ⟨r, r', hs, ht, hsame⟩ hi
    obtain ⟨s', hstep, href⟩ := hs.step env i
    exact ⟨s', _, hstep, _, r', href, ht, hsame.hidden env hi⟩
  seen := by
    rintro s t i ⟨r, r', hs, ht, hsame⟩ hi
    obtain ⟨s', hstep, href⟩ := hs.step env i
    obtain ⟨t', hstep', href'⟩ := ht.step env i
    exact ⟨s', _, t', _, hstep, hstep', hsame.ownAnswer env hi, _, _, href, href',
      hsame.seen env hi⟩

/-- **Noninterference.** From tables that agree on the row of `pk`, and with the same profile of
`pk`, two runs with the same events of `pk` and the same restarts give `pk` the same answers,
those to `/get` apart, and end with the same row and entry of `pk`. -/
theorem noninterference (env : Env) (pk : Pk) {db₁ db₂ : MySql} {tox₁ tox₂ : Tox}
    (hrow : (db₁.table.rows[pk.hex]?).map Row.dropId = (db₂.table.rows[pk.hex]?).map Row.dropId)
    (hprofile : tox₁.profile pk = tox₂.profile pk) {is js : List Input}
    (hsame : is.filter (Event.concerns pk) = js.filter (Event.concerns pk)) :
    ∃ s os t os', (Bot.machine MySql.driver env).run (Bot.init db₁ tox₁) is = some (s, os) ∧
      (Bot.machine MySql.driver env).run (Bot.init db₂ tox₂) js = some (t, os') ∧
      StepMachine.observed (Event.concerns pk) ownAnswer is os =
        StepMachine.observed (Event.concerns pk) ownAnswer js os' ∧
      s.share pk.hex = t.share pk.hex := by
  have href₁ := refines_init db₁ tox₁
  have href₂ := refines_init db₂ tox₂
  have hstart : Alike pk (Bot.init db₁ tox₁) (Bot.init db₂ tox₂) := by
    refine ⟨_, _, href₁, href₂, ?_, hprofile⟩
    simp only [Reference.State.share, Reference.init, hrow]
  have hself : Alike pk (Bot.init db₂ tox₂) (Bot.init db₂ tox₂) :=
    ⟨_, _, href₂, href₂, rfl, rfl⟩
  obtain ⟨s, os, t, os', u, hrun, hrun', hobs, ⟨r₁, r₂, hs, hu, hsu⟩, ⟨r₃, r₄, ht, hu', htu⟩⟩ :=
    (unwinds env pk).observed hstart hself hsame
  refine ⟨s, os, t, os', hrun, hrun', hobs, ?_⟩
  rw [hs.share, ht.share, hsu.share, htu.share, ← hu.share, ← hu'.share]

/-- Another friend registers in between. -/
theorem noninterference_two :
    ∃ s os t os', (Bot.machine MySql.driver Env.sample).run
        (Bot.init (MySql.holding Table.empty) Tox.blank)
        [(.message Pk.first ⟨bytes "/start A1", by decide⟩, Answers.plain),
          (.message Pk.second ⟨bytes "/start A2", by decide⟩, Answers.plain),
          (.message Pk.first ⟨bytes "/info", by decide⟩, Answers.plain)] = some (s, os) ∧
      (Bot.machine MySql.driver Env.sample).run
        (Bot.init (MySql.holding Table.empty) Tox.blank)
        [(.message Pk.first ⟨bytes "/start A1", by decide⟩, Answers.plain),
          (.message Pk.first ⟨bytes "/info", by decide⟩, Answers.plain)] = some (t, os') ∧
      StepMachine.observed (Event.concerns Pk.first) ownAnswer
          [(.message Pk.first ⟨bytes "/start A1", by decide⟩, Answers.plain),
            (.message Pk.second ⟨bytes "/start A2", by decide⟩, Answers.plain),
            (.message Pk.first ⟨bytes "/info", by decide⟩, Answers.plain)] os =
        StepMachine.observed (Event.concerns Pk.first) ownAnswer
          [(.message Pk.first ⟨bytes "/start A1", by decide⟩, Answers.plain),
            (.message Pk.first ⟨bytes "/info", by decide⟩, Answers.plain)] os' ∧
      s.share Pk.first.hex = t.share Pk.first.hex :=
  noninterference Env.sample Pk.first rfl rfl rfl

end FindFriendBot
