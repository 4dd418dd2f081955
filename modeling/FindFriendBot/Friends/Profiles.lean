import FindFriendBot.Friends.Share

/-!
# FindFriendBot — profiles are never stale

A friend's name and status message reach the row and the registry entry by four
routes: the queries of `/start`, the two profile callbacks, and `find_friend` on
a reconnect, which copies the row. With a working database, and queries that
deliver what they announced, each of them leaves both copies at the friend's
latest profile, cut at its first NUL: a repeated `/start` keeps the old entry,
but that entry was as fresh as the queries.

* `shows_step`      — one event, on the share of its friend.
* `profiles_fresh`  — every run from an empty table, and what `/info` prints.
-/

namespace FindFriendBot

/-- The C strings of a profile. -/
structure Profile.ShownAs (p : Profile) (nickName bio : Bytes) : Prop where
  nickName : nickName = cStr p.name
  bio : bio = cStr p.statusMessage

/-- Every row and every registered member shows its friend's latest profile. -/
structure ProfilesFresh (s : State MySql) : Prop where
  row : ∀ (pk : Pk) (row : Row), s.db.table.rows[pk.hex]? = some row →
    (s.tox.profile pk).ShownAs row.nickName row.bio
  entry : ∀ (pk : Pk) (m : Member), s.memberMgr.memberAt pk.hex = some m →
    (s.tox.profile pk).ShownAs m.nickName m.bio

/-- The database works, and a query that gave a size also gives the value. -/
structure Answers.Faithful (ans : Answers) : Prop where
  sql : ans.sql = none
  name : ans.nameQuery ≠ .getFails
  statusMessage : ans.statusMessageQuery ≠ .getFails

-- ---------------------------------------------------------------------------
-- Queries
-- ---------------------------------------------------------------------------

/-- The zero-filled last byte of the buffer ends the string. -/
theorem cStr_queryBuffer {q : FriendQuery} (hq : q ≠ .getFails) {value buffer : Bytes}
    (h : queryBuffer q value = some buffer) : cStr buffer = cStr value := by
  cases q with
  | ok =>
    obtain rfl := Option.some.inj h
    show cStr (value ++ [0]) = cStr value
    induction value with
    | nil => rfl
    | cons c value ih =>
      have ih := ih rfl
      unfold cStr at ih ⊢
      rw [List.cons_append, List.takeWhile_cons, List.takeWhile_cons, ih]
  | sizeFails => exact absurd h (by simp [queryBuffer])
  | getFails => exact absurd rfl hq

theorem Answers.Faithful.shown {ans : Answers} (h : ans.Faithful) {tox : Tox} {pk : Pk}
    {name statusMessage : Bytes} (hname : getName tox pk ans = some name)
    (hstatus : getStatusMessage tox pk ans = some statusMessage) :
    (tox.profile pk).ShownAs (cStr name) (cStr statusMessage) :=
  ⟨cStr_queryBuffer h.name hname, cStr_queryBuffer h.statusMessage hstatus⟩

theorem Profile.shownAs_queries {p : Profile} {ans : Answers} (h : ans.Faithful)
    {name bio : Bytes} (hq : p.queries ans = some (name, bio)) : p.ShownAs name bio := by
  unfold queries at hq
  split at hq
  · next hname hstatus =>
    rw [Option.some.injEq, Prod.mk.injEq] at hq
    obtain ⟨rfl, rfl⟩ := hq
    exact ⟨cStr_queryBuffer h.name hname, cStr_queryBuffer h.statusMessage hstatus⟩
  · exact absurd hq (by simp)

-- ---------------------------------------------------------------------------
-- One share
-- ---------------------------------------------------------------------------

namespace Share

/-- The row and the entry show the profile. -/
structure Shows (sh : Share) (p : Profile) : Prop where
  row : ∀ row, sh.row = some row → p.ShownAs row.nickName row.bio
  entry : ∀ m, sh.entry = some m → p.ShownAs m.nickName m.bio

variable {sh : Share} {p : Profile} {ans : Answers}

theorem Shows.leave (h : sh.Shows p) : sh.leave.Shows p where
  row := h.row
  entry := fun m hm => absurd hm (by simp [Share.leave])

/-- A reconnect copies the row. -/
theorem Shows.connect (h : sh.Shows p) (pk : Pk) (hsql : ans.sql = none) :
    (sh.connect pk ans).Shows p := by
  cases hrow : sh.row with
  | none => simpa [Share.connect, hrow] using h
  | some row =>
    have hconnect : sh.connect pk ans =
        { sh with entry := some (sh.entry.getD (MemberModel.fetched pk.hex row none)) } := by
      simp [Share.connect, hrow, hsql]
    rw [hconnect]
    refine ⟨h.row, ?_⟩
    intro m hm
    obtain rfl := Option.some.inj hm
    cases hentry : sh.entry with
    | none => exact h.row row hrow
    | some old => exact h.entry old hentry

/-- `/start` writes what the queries answer; an entry it keeps shows the same. -/
theorem Shows.start (h : sh.Shows p) (pk : Pk) (tokId : Bytes) {name bio : Bytes}
    (hq : p.ShownAs name bio) : (sh.start pk tokId name bio ans).Shows p := by
  constructor
  · intro row hrow
    simp only [Share.start] at hrow
    split at hrow
    · obtain rfl := Option.some.inj hrow
      exact hq
    · exact h.row row hrow
  · intro m hm
    obtain rfl := Option.some.inj hm
    cases hentry : sh.entry with
    | none => exact hq
    | some old => exact h.entry old hentry

theorem Shows.stop (h : sh.Shows p) : (sh.stop ans).Shows p := by
  refine ⟨?_, fun m hm => absurd hm (by simp [Share.stop])⟩
  intro row hrow
  simp only [Share.stop] at hrow
  split at hrow
  · exact absurd hrow (by simp)
  · exact h.row row hrow

/-- An update that turns one profile into the next on the row and on the entry. -/
theorem Shows.update (h : sh.Shows p) {p' : Profile} {setRow : Row → Row}
    {set : Member → Member} (hsql : ans.sql = none)
    (hrow : ∀ row : Row, p.ShownAs row.nickName row.bio →
      p'.ShownAs (setRow row).nickName (setRow row).bio)
    (hset : ∀ m : Member, p.ShownAs m.nickName m.bio → p'.ShownAs (set m).nickName (set m).bio) :
    (sh.update setRow set ans).Shows p' := by
  constructor
  · intro row hr
    simp only [Share.update, hsql, executes_none, if_true, Option.map_eq_some_iff] at hr
    obtain ⟨old, hold, rfl⟩ := hr
    exact hrow old (h.row old hold)
  · intro m hm
    simp only [Share.update, Option.map_eq_some_iff] at hm
    obtain ⟨old, hold, rfl⟩ := hm
    exact hset old (h.entry old hold)

theorem Shows.runCmd (h : sh.Shows p) (pk : Pk) (hans : ans.Faithful) (cmd : Command)
    (param : Bytes) : (sh.runCmd pk p ans cmd param).Shows p := by
  unfold Share.runCmd
  cases cmd with
  | start =>
    cases hq : p.queries ans with
    | none => exact h
    | some nb =>
      obtain ⟨name, bio⟩ := nb
      show (if param = [] then sh else sh.start pk param name bio ans).Shows p
      split
      · exact h
      · exact h.start pk param (Profile.shownAs_queries hans hq)
  | stop => exact h.stop
  | set =>
    show (if param = [] then sh else sh.update _ _ ans).Shows p
    split
    · exact h
    · exact h.update hans.sql (fun _ hrow => hrow) fun _ hm => hm
  | _ => exact h

end Share

/-- **One event** keeps its friend's share at the latest profile. -/
theorem shows_step {sh : Share} (tox : Tox) {e : Event} {pk : Pk} {ans : Answers}
    (hpk : e.pk? = some pk) (h : sh.Shows (tox.profile pk)) (hans : ans.Faithful) :
    (Share.step (tox.profile pk) e ans sh).Shows ((tox.apply e).profile pk) := by
  cases e with
  | connectionStatus p status =>
    obtain rfl := Option.some.inj hpk
    -- the connection does not change what the library says of name and status
    have hprofile : (tox.apply (.connectionStatus p status)).profile p = tox.profile p := by
      by_cases hst : status = .none <;> simp [Tox.apply, Tox.profile, hst]
    rw [hprofile]
    show (if status ≠ .none then sh.connect p ans else sh.leave).Shows (tox.profile p)
    split
    · exact h.connect p hans.sql
    · exact h.leave
  | message p msg =>
    obtain rfl := Option.some.inj hpk
    obtain ⟨cmd, param, hdisp⟩ := msg.dispatch_isSome
    simp only [Share.step, hdisp]
    exact h.runCmd p hans cmd param
  | name p name =>
    obtain rfl := Option.some.inj hpk
    -- the library and the row take the new name in the same event
    have hprofile : (tox.apply (.name p name)).profile p = ⟨name, tox.statusMessage p⟩ := by
      simp [Tox.apply, Tox.profile]
    rw [hprofile]
    exact h.update hans.sql (fun _ hrow => ⟨rfl, hrow.bio⟩) fun _ hm => ⟨rfl, hm.bio⟩
  | statusMessage p message =>
    obtain rfl := Option.some.inj hpk
    have hprofile : (tox.apply (.statusMessage p message)).profile p = ⟨tox.name p, message⟩ := by
      simp [Tox.apply, Tox.profile]
    rw [hprofile]
    exact h.update hans.sql (fun _ hrow => ⟨hrow.nickName, rfl⟩) fun _ hm => ⟨hm.nickName, rfl⟩
  | restart => exact absurd hpk (by simp [Event.pk?])

-- ---------------------------------------------------------------------------
-- All friends
-- ---------------------------------------------------------------------------

/-- Every friend's share shows their latest profile. -/
def Reference.State.Fresh (r : Reference.State MySql) : Prop :=
  ∀ pk : Pk, (r.share pk.hex).Shows (r.tox.profile pk)

theorem Reference.fresh_next (env : Env) {r : Reference.State MySql} (h : r.Fresh) {i : Input}
    (hans : i.2.Faithful) : (Reference.next env r i).Fresh := by
  obtain ⟨e, ans⟩ := i
  intro pk
  by_cases hpk : e.pk? = some pk
  · rw [(Reference.next_actsOn env r ans hpk).own, Reference.next_tox]
    exact shows_step r.tox hpk (h pk) hans
  · have hprofile : (Reference.next env r (e, ans)).tox.profile pk = r.tox.profile pk := by
      cases hA : e.pk? with
      | none =>
        obtain rfl := Event.eq_restart hA
        rw [Reference.next_tox]
        rfl
      | some A => exact Reference.next_profile env r ans hA fun heq => hpk (heq ▸ hA)
    rw [hprofile]
    have hother : (e, ans).1.pk? ≠ some pk := hpk
    rcases Reference.next_share_other env r hother with hsame | hleave
    · exact hsame ▸ h pk
    · exact hleave ▸ (h pk).leave

theorem Refines.profilesFresh {s : State MySql} {r : Reference.State MySql} (h : Refines s r)
    (hfresh : r.Fresh) : ProfilesFresh s := by
  constructor
  · intro pk row hrow
    have hshare : (r.share pk.hex).row = some row.dropId := by
      rw [← h.share, State.share, hrow, Option.map_some]
    rw [h.tox]
    exact (hfresh pk).row row.dropId hshare
  · intro pk m hm
    have hshare : (r.share pk.hex).entry = some m := by
      rw [← h.share, State.share, hm]
    rw [h.tox]
    exact (hfresh pk).entry m hshare

/-- Both branches of `/info` on a registered friend whose queries succeed: the cached
one, and the one taken if nobody were registered. -/
theorem cmdInfo_branches (env : Env) {s : State MySql} {r : Reference.State MySql}
    (href : Refines s r) (hfresh : ProfilesFresh s) (pk : Pk) {m : Member}
    (hm : s.memberMgr.memberAt pk.hex = some m) {ans : Answers} (hname : ans.nameQuery = .ok)
    (hstatus : ans.statusMessageQuery = .ok) (msgRes : Bytes) :
    ∃ nickName bio,
      Assisant.cmdInfo env s pk ans msgRes =
        some (s, env.infoText nickName bio m.signature, true) ∧
      Assisant.cmdInfo env { s with memberMgr := MemberMgr.init } pk ans msgRes =
        some ({ s with memberMgr := MemberMgr.init }, env.infoText nickName bio [], true) := by
  have hshown := hfresh.entry pk m hm
  refine ⟨m.nickName, m.bio, ?_, ?_⟩
  · rw [href.memberAt] at hm
    rw [(cmdInfo_sim env href pk ans msgRes).1, Reference.cmdInfo]
    simp only [hm]
  · have hbuffer : ∀ value : Bytes, queryBuffer .ok value = some (value ++ List.replicate 1 0) :=
      fun _ => rfl
    have hfind : MemberMgr.init.findMember pk.hex = none := by
      simp [MemberMgr.findMember, MemberMgr.init]
    have hcut : ∀ value : Bytes, cStr (value ++ List.replicate 1 0) = cStr value := fun value =>
      cStr_queryBuffer FriendQuery.noConfusion (hbuffer value)
    simp only [Assisant.cmdInfo, hfind, getName, getStatusMessage, hname, hstatus, hbuffer, hcut,
      Env.format_info, hshown.nickName, hshown.bio, Tox.profile]

/-- **Profiles are never stale.** After every run from an empty registry and an empty
table, rows and registered members show the latest profiles, and `/info` of a
registered friend prints what it would print from the queries. -/
theorem profiles_fresh (env : Env) (tox : Tox) {is : List Input}
    (hans : ∀ i ∈ is, i.2.Faithful) :
    ∃ s os, (Bot.machine MySql.driver env).run (Bot.init (MySql.holding Table.empty) tox) is =
        some (s, os) ∧
      ProfilesFresh s ∧
      ∀ (pk : Pk) (m : Member) (ans : Answers) (msgRes : Bytes),
        s.memberMgr.memberAt pk.hex = some m → ans.nameQuery = .ok →
        ans.statusMessageQuery = .ok →
        ∃ nickName bio,
          Assisant.cmdInfo env s pk ans msgRes =
            some (s, env.infoText nickName bio m.signature, true) ∧
          Assisant.cmdInfo env { s with memberMgr := MemberMgr.init } pk ans msgRes =
            some ({ s with memberMgr := MemberMgr.init }, env.infoText nickName bio [], true) := by
  have hinit : (Reference.init (MySql.holding Table.empty) tox).Fresh := by
    intro pk
    refine ⟨fun row hrow => absurd hrow ?_, fun m hm => absurd hm ?_⟩
    · simp [Reference.State.share, Reference.init, MySql.holding, Table.empty]
    · simp [Reference.State.share, Reference.init]
  obtain ⟨s, os, r, hrun, href, hfresh⟩ := Refines.run_invariant env Reference.State.Fresh
    (fun _ i => i.2.Faithful) (fun _ _ _ _ h hi => Reference.fresh_next env h hi) is
    (refines_init (MySql.holding Table.empty) tox) hinit (StepMachine.along_of_forall hans _)
  have hshown := href.profilesFresh hfresh
  exact ⟨s, os, hrun, hshown, fun pk m ans msgRes hm hname hstatus =>
    cmdInfo_branches env href hshown pk hm hname hstatus msgRes⟩

theorem Answers.plain_faithful : Answers.plain.Faithful :=
  ⟨rfl, FriendQuery.noConfusion, FriendQuery.noConfusion⟩

/-- A `/start` between two name changes. -/
theorem profiles_fresh_renamed :
    ∃ s os, (Bot.machine MySql.driver Env.sample).run
        (Bot.init (MySql.holding Table.empty) Tox.blank)
        [(.name Pk.first (bytes "Al"), Answers.plain),
          (.message Pk.first ⟨bytes "/start A1", by decide⟩, Answers.plain),
          (.name Pk.first (bytes "Bo"), Answers.plain)] = some (s, os) ∧
      ProfilesFresh s ∧
      ∀ (pk : Pk) (m : Member) (ans : Answers) (msgRes : Bytes),
        s.memberMgr.memberAt pk.hex = some m → ans.nameQuery = .ok →
        ans.statusMessageQuery = .ok →
        ∃ nickName bio,
          Assisant.cmdInfo Env.sample s pk ans msgRes =
            some (s, Env.sample.infoText nickName bio m.signature, true) ∧
          Assisant.cmdInfo Env.sample { s with memberMgr := MemberMgr.init } pk ans msgRes =
            some ({ s with memberMgr := MemberMgr.init },
              Env.sample.infoText nickName bio [], true) := by
  refine profiles_fresh Env.sample Tox.blank ?_
  intro i hi
  simp only [List.mem_cons, List.not_mem_nil, or_false] at hi
  rcases hi with rfl | rfl | rfl <;> exact Answers.plain_faithful

end FindFriendBot
