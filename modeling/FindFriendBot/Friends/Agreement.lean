import FindFriendBot.Friends.Share

/-!
# FindFriendBot — cache and table

Every handler writes a profile twice, into `t_tokme_member` and into the
registry entry. With a database that works the two copies agree after each of
these writes but two. A `/start` of a registered friend replaces the row and
keeps the entry, and the strings of `/start` and `/set` reach the table through
`c_str()`, which cuts them at the first NUL. `KeepsAgreement` says that neither
happens; cache and table agree throughout a run exactly if it holds along it.

* `agrees_step_iff`       — one event, on the share of its friend.
* `cacheAgrees_step_iff`  — one event, on all entries.
* `cacheAgrees_throughout_iff` — every run.
-/

namespace FindFriendBot

/-- The cached profile is the row's. -/
structure Member.Matches (m : Member) (row : Row) : Prop where
  tokId : m.tokId = row.tokId
  nickName : m.nickName = row.nickName
  bio : m.bio = row.bio
  signature : m.signature = row.signature

/-- Every registered member matches the row of its key. -/
def CacheAgrees (s : State MySql) : Prop :=
  ∀ k m, s.memberMgr.memberAt k = some m → ∃ row, s.db.table.rows[k]? = some row ∧ m.Matches row

/-- What an accepted `/start` must find in the registry: nobody, and then a token
without a NUL, or the very profile that the new row will hold. -/
def Share.StartAgrees (sh : Share) (tokId name bio : Bytes) : Prop :=
  match sh.entry with
  | none => 0 ∉ tokId
  | some m => m.tokId = cStr tokId ∧ m.nickName = name ∧ m.bio = bio ∧ m.signature = []

/-- The command writes the same profile to the table and to the cache. -/
def Share.CommandAgrees (p : Profile) (ans : Answers) (cmd : Command) (param : Bytes)
    (sh : Share) : Prop :=
  match cmd with
  | .start =>
    match p.queries ans with
    | some (name, bio) => param = [] ∨ sh.StartAgrees param name bio
    | none => True
  | .set => sh.entry.isSome → 0 ∉ param
  | _ => True

/-- The event writes the same profile to the table and to the cache. -/
def KeepsAgreement (s : State MySql) (i : Input) : Prop :=
  match i.1 with
  | .message pk msg =>
    match msg.dispatch with
    | some (cmd, param) => (s.share pk.hex).CommandAgrees (s.tox.profile pk) i.2 cmd param
    | none => True
  | _ => True

-- ---------------------------------------------------------------------------
-- One share
-- ---------------------------------------------------------------------------

namespace Share

/-- The entry, if there is one, matches the row. -/
def Agrees (sh : Share) : Prop :=
  ∀ m, sh.entry = some m → ∃ row, sh.row = some row ∧ m.Matches row

theorem agrees_leave (sh : Share) : sh.leave.Agrees := fun m hm => absurd hm (by simp [leave])

theorem agrees_connect {sh : Share} (h : sh.Agrees) (pk : Pk) {ans : Answers}
    (hsql : ans.sql = none) : (sh.connect pk ans).Agrees := by
  cases hrow : sh.row with
  | none => simpa [connect, hrow] using h
  | some row =>
    intro m hm
    simp only [connect, hrow, hsql, delivers_none, ne_eq, reduceCtorEq, not_false_eq_true,
      and_self, if_true] at hm ⊢
    cases hentry : sh.entry with
    | none =>
      -- find_friend copied the row
      rw [hentry, Option.getD_none, MemberModel.fetched_none, Option.some.injEq] at hm
      exact ⟨row, rfl, hm ▸ ⟨rfl, rfl, rfl, rfl⟩⟩
    | some old =>
      rw [hentry, Option.getD_some, Option.some.injEq] at hm
      rw [← hrow]
      exact h m (hm ▸ hentry)

/-- An update keeps the agreement exactly if it writes the same value twice. -/
theorem agrees_update_iff {sh : Share} (h : sh.Agrees) {setRow : Row → Row}
    {set : Member → Member} {same : Prop}
    (hset : ∀ m row, m.Matches row → ((set m).Matches (setRow row) ↔ same))
    {ans : Answers} (hsql : ans.sql = none) :
    (sh.update setRow set ans).Agrees ↔ (sh.entry.isSome → same) := by
  cases hentry : sh.entry with
  | none => simp [Agrees, update, hentry]
  | some m =>
    obtain ⟨row, hrow, hm⟩ := h m hentry
    simp only [Agrees, update, hentry, hrow, hsql, executes_none, if_true, Option.map_some,
      Option.some.injEq, Option.isSome_some, forall_const]
    constructor
    · intro hall
      obtain ⟨row', rfl, hm'⟩ := hall (set m) rfl
      exact (hset m row hm).mp hm'
    · intro hsame m' hm'
      exact ⟨setRow row, rfl, hm' ▸ (hset m row hm).mpr hsame⟩

theorem agrees_start_iff (sh : Share) (pk : Pk) (tokId name bio : Bytes) {ans : Answers}
    (hsql : ans.sql = none) :
    (sh.start pk tokId name bio ans).Agrees ↔ sh.StartAgrees tokId name bio := by
  have hagrees : (sh.start pk tokId name bio ans).Agrees ↔
      (sh.entry.getD
        { pk := pk.hex, tokId := tokId, nickName := name, bio := bio, signature := [],
          recommandTimes := 0 }).Matches
        { id := 0, tokId := cStr tokId, nickName := name, bio := bio, signature := [],
          createTime := ans.time, updateTime := ans.time } := by
    simp [Agrees, start, hsql]
  rw [hagrees]
  unfold StartAgrees
  cases sh.entry with
  | none =>
    rw [← cStr_eq_self_iff]
    exact ⟨fun hm => hm.tokId.symm, fun heq => ⟨heq.symm, rfl, rfl, rfl⟩⟩
  | some m =>
    exact ⟨fun hm => ⟨hm.tokId, hm.nickName, hm.bio, hm.signature⟩,
      fun heq => ⟨heq.1, heq.2.1, heq.2.2.1, heq.2.2.2⟩⟩

theorem agrees_runCmd_iff {sh : Share} (h : sh.Agrees) (pk : Pk) (p : Profile) {ans : Answers}
    (hsql : ans.sql = none) (cmd : Command) (param : Bytes) :
    (sh.runCmd pk p ans cmd param).Agrees ↔ sh.CommandAgrees p ans cmd param := by
  cases cmd with
  | start =>
    unfold runCmd CommandAgrees
    cases hq : p.queries ans with
    | none => simp [h]
    | some nb =>
      obtain ⟨name, bio⟩ := nb
      by_cases hparam : param = []
      · simp [hparam, h]
      · simp only [hparam, if_false, agrees_start_iff sh pk param name bio hsql, false_or]
  | stop =>
    have hstop : (sh.stop ans).Agrees := fun m hm => absurd hm (by simp [stop])
    simp [runCmd, CommandAgrees, hstop]
  | set =>
    unfold runCmd CommandAgrees
    by_cases hparam : param = []
    · simp [hparam, h]
    · simp only [hparam, if_false]
      refine agrees_update_iff h ?_ hsql
      intro m row hm
      rw [← cStr_eq_self_iff]
      exact ⟨fun hm' => hm'.signature.symm,
        fun heq => ⟨hm.tokId, hm.nickName, hm.bio, heq.symm⟩⟩
  | _ => simp [runCmd, CommandAgrees, h]

end Share

/-- The guard of an event, on the share of its friend. -/
theorem Share.agrees_step_iff {s : State MySql} {e : Event} {pk : Pk} (hpk : e.pk? = some pk)
    (h : (s.share pk.hex).Agrees) {ans : Answers} (hsql : ans.sql = none) :
    ((s.share pk.hex).step (s.tox.profile pk) e ans).Agrees ↔ KeepsAgreement s (e, ans) := by
  cases e with
  | connectionStatus q status =>
    -- find_friend fills the member from the row, removal leaves no entry to compare
    obtain rfl := Option.some.inj hpk
    have hagrees : ((s.share q.hex).step (s.tox.profile q) (.connectionStatus q status)
        ans).Agrees := by
      by_cases hst : status = .none
      · simpa [Share.step, hst] using agrees_leave _
      · simpa [Share.step, hst] using agrees_connect h q hsql
    simp [KeepsAgreement, hagrees]
  | message q msg =>
    obtain rfl := Option.some.inj hpk
    obtain ⟨cmd, param, hdisp⟩ := msg.dispatch_isSome
    simp only [Share.step, KeepsAgreement, hdisp, agrees_runCmd_iff h q _ hsql]
  | name q name =>
    obtain rfl := Option.some.inj hpk
    have hset : ∀ m row, Member.Matches m row →
        ((m.setNickName (cStr name)).Matches
          (MemberModel.setNickName (cStr name) ans.time row) ↔ True) :=
      fun m row hm => iff_true_intro ⟨hm.tokId, rfl, hm.bio, hm.signature⟩
    -- SET nick_name and setNickName store the same C string
    exact iff_of_true ((agrees_update_iff h hset hsql).mpr fun _ => trivial) trivial
  | statusMessage q message =>
    obtain rfl := Option.some.inj hpk
    have hset : ∀ m row, Member.Matches m row →
        ((m.setBio (cStr message)).Matches
          (MemberModel.setBio (cStr message) ans.time row) ↔ True) :=
      fun m row hm => iff_true_intro ⟨hm.tokId, hm.nickName, rfl, hm.signature⟩
    exact iff_of_true ((agrees_update_iff h hset hsql).mpr fun _ => trivial) trivial
  | restart => exact absurd hpk (by simp [Event.pk?])

-- ---------------------------------------------------------------------------
-- All entries
-- ---------------------------------------------------------------------------

/-- The id of a row is no part of the profile. -/
theorem cacheAgrees_iff (s : State MySql) : CacheAgrees s ↔ ∀ k, (s.share k).Agrees := by
  unfold CacheAgrees Share.Agrees State.share
  refine forall_congr' fun k => forall_congr' fun m => imp_congr_right fun _ => ?_
  constructor
  · intro hex
    obtain ⟨row, hrow, hm⟩ := hex
    refine ⟨row.dropId, ?_, ⟨hm.tokId, hm.nickName, hm.bio, hm.signature⟩⟩
    rw [hrow, Option.map_some]
  · intro hex
    obtain ⟨row', hrow', hm⟩ := hex
    obtain ⟨row, hrow, rfl⟩ := Option.map_eq_some_iff.mp hrow'
    exact ⟨row, hrow, ⟨hm.tokId, hm.nickName, hm.bio, hm.signature⟩⟩

theorem cacheAgrees_step_iff (env : Env) {s s' : State MySql} {r : Reference.State MySql}
    (h : Refines s r) (hagrees : CacheAgrees s) {i : Input} {o : Output} (hsql : i.2.sql = none)
    (hstep : Bot.step MySql.driver env s i = some (s', o)) :
    CacheAgrees s' ↔ KeepsAgreement s i := by
  obtain ⟨e, ans⟩ := i
  obtain ⟨href, -⟩ := h.of_step hstep
  rw [cacheAgrees_iff] at hagrees ⊢
  cases hpk : e.pk? with
  | none =>
    obtain rfl := Event.eq_restart hpk
    -- a new process starts with an empty map
    have hempty : ∀ k, (s'.share k).Agrees := by
      intro k m hm
      rw [href.share, Reference.State.share, (Reference.next_restart env r ans).1] at hm
      exact absurd hm (by simp)
    exact iff_of_true hempty trivial
  | some pk =>
    have hacts := Reference.next_actsOn_quiet env r hpk hsql
    -- every other share is as before, so the friend's own decides
    have hother : ∀ k, k ≠ pk.hex → s'.share k = s.share k := by
      intro k hk
      rw [href.share, h.share, hacts.share_of_ne hk]
    have hown : s'.share pk.hex = (s.share pk.hex).step (s.tox.profile pk) e ans := by
      rw [href.share, hacts.own, h.share, h.tox]
    rw [← Share.agrees_step_iff hpk (hagrees pk.hex) hsql, ← hown]
    refine ⟨fun hall => hall pk.hex, ?_⟩
    intro hpkAgrees k
    by_cases hk : k = pk.hex
    · rw [hk]
      exact hpkAgrees
    · rw [hother k hk]
      exact hagrees k

theorem cacheAgrees_init (db : MySql) (tox : Tox) : CacheAgrees (Bot.init db tox) := by
  intro k m hm
  have href := refines_init db tox
  rw [href.memberAt] at hm
  exact absurd hm (by simp [Reference.init])

/-- **Cache and table agree** throughout a run with a working database exactly if
every event of it writes the same profile to both. -/
theorem cacheAgrees_throughout_iff (env : Env) (t : Table) (tox : Tox) {is : List Input}
    (hsql : ∀ i ∈ is, i.2.sql = none) :
    (Bot.machine MySql.driver env).Throughout CacheAgrees (Bot.init (MySql.holding t) tox) is ↔
      (Bot.machine MySql.driver env).Along KeepsAgreement (Bot.init (MySql.holding t) tox) is := by
  refine Refines.throughout_iff_along env (fun i => i.2.sql = none) ?_
    (cacheAgrees_init _ _) hsql
  intro s r i s' o href hagrees hi hstep
  exact cacheAgrees_step_iff env href hagrees hi hstep

/-- A new friend starts. -/
theorem cacheAgrees_throughout_start :
    (Bot.machine MySql.driver Env.sample).Throughout CacheAgrees
      (Bot.init (MySql.holding Table.empty) Tox.blank)
      [(.message Pk.first ⟨bytes "/start A1", by decide⟩, Answers.plain)] :=
  (cacheAgrees_throughout_iff Env.sample Table.empty Tox.blank (by decide)).mpr
    ⟨Or.inr (show (0 : UInt8) ∉ bytes " A1" by decide), fun _ _ _ => trivial⟩

/-- A friend starts, sets a signature and starts again: the row loses the signature,
the entry keeps it. -/
theorem second_start_loses_signature :
    ∃ s os, (Bot.machine MySql.driver Env.sample).run
        (Bot.init (MySql.holding Table.empty) Tox.blank)
        [(.message Pk.first ⟨bytes "/start A1", by decide⟩, Answers.plain),
          (.message Pk.first ⟨bytes "/set x", by decide⟩, Answers.plain),
          (.message Pk.first ⟨bytes "/start A1", by decide⟩, Answers.plain)] = some (s, os) ∧
      ¬ CacheAgrees s := by
  refine ⟨_, _, rfl, ?_⟩
  intro hagrees
  obtain ⟨row, hrow, hm⟩ := hagrees Pk.first.hex _ rfl
  have hrow' := Option.some.inj hrow
  subst hrow'
  exact absurd hm.signature (by decide)

end FindFriendBot
