import FindFriendBot.Friends.Share

/-!
# FindFriendBot — a write that throws

No handler looks at the outcome of its statement before it changes the cache:
`MemberModel` swallows the exception, and the entry is added, erased or updated
as if the statement had run. A throw therefore leaves the table as it was and
the registry as the same event leaves it on a working database. `Untouched` is
the condition on the sender's entry under which that is no change.

* `writes_cases`    — the events that write.
* `entry_throw`     — the entry does not depend on the throw.
* `untouched_iff`   — when an event leaves its friend's entry.
* `failedWrite`     — both, in every reachable state.
-/

namespace FindFriendBot

/-- The number of parameters of the statement an event writes with, if it does. -/
def Event.writes (p : Profile) (ans : Answers) : Event → Option Nat
  | .message _ msg =>
    match msg.dispatch with
    | some (.start, tokId) => if tokId ≠ [] ∧ (p.queries ans).isSome then some 6 else none
    | some (.stop, _) => some 1
    | some (.set, signature) => if signature ≠ [] then some 3 else none
    | _ => none
  | .name _ _ => some 3
  | .statusMessage _ _ => some 3
  | _ => none

/-- What a recommendation shows of a member. -/
def Member.profile (m : Member) : Bytes × Bytes × Bytes × Bytes :=
  (m.tokId, m.nickName, m.bio, m.signature)

/-- The same keys, and for every key the same profile. -/
def SameCache (s s' : State MySql) : Prop :=
  ∀ k, (s'.memberMgr.memberAt k).map Member.profile = (s.memberMgr.memberAt k).map Member.profile

/-- What the event writes to the cache is there already. -/
def Untouched (e : Event) (entry : Option Member) : Prop :=
  match e with
  | .message _ msg =>
    match msg.dispatch with
    | some (.start, _) => entry ≠ none
    | some (.stop, _) => entry = none
    | some (.set, signature) => ∀ m, entry = some m → m.signature = signature
    | _ => True
  | .name _ name => ∀ m, entry = some m → m.nickName = cStr name
  | .statusMessage _ message => ∀ m, entry = some m → m.bio = cStr message
  | _ => True

/-- The five kinds of writing events. -/
theorem Event.writes_cases {p : Profile} {ans : Answers} {e : Event} {n : Nat}
    (h : e.writes p ans = some n) :
    (∃ q msg tokId name bio, e = .message q msg ∧ msg.dispatch = some (.start, tokId) ∧
      tokId ≠ [] ∧ p.queries ans = some (name, bio) ∧ n = 6) ∨
    (∃ q msg param, e = .message q msg ∧ msg.dispatch = some (.stop, param) ∧ n = 1) ∨
    (∃ q msg signature, e = .message q msg ∧ msg.dispatch = some (.set, signature) ∧
      signature ≠ [] ∧ n = 3) ∨
    (∃ q name, e = .name q name ∧ n = 3) ∨
    ∃ q message, e = .statusMessage q message ∧ n = 3 := by
  cases e with
  | connectionStatus q status => exact absurd h (by simp [writes])
  | message q msg =>
    obtain ⟨cmd, param, hdisp⟩ := msg.dispatch_isSome
    simp only [writes, hdisp] at h
    cases cmd with
    -- /start: six parameters are bound before executeUpdate
    | start =>
      obtain ⟨⟨hparam, hq⟩, hn⟩ := Option.ite_none_right_eq_some.mp h
      obtain ⟨⟨name, bio⟩, hnb⟩ := Option.isSome_iff_exists.mp hq
      exact Or.inl ⟨q, msg, param, name, bio, rfl, hdisp, hparam, hnb,
        (Option.some.inj hn).symm⟩
    | stop => exact Or.inr (Or.inl ⟨q, msg, param, rfl, hdisp, (Option.some.inj h).symm⟩)
    | set =>
      obtain ⟨hparam, hn⟩ := Option.ite_none_right_eq_some.mp h
      exact Or.inr (Or.inr (Or.inl ⟨q, msg, param, rfl, hdisp, hparam,
        (Option.some.inj hn).symm⟩))
    -- the other commands write nothing
    | _ => exact absurd h (by simp)
  | name q name =>
    exact Or.inr (Or.inr (Or.inr (Or.inl ⟨q, name, rfl, (Option.some.inj h).symm⟩)))
  | statusMessage q message =>
    exact Or.inr (Or.inr (Or.inr (Or.inr ⟨q, message, rfl, (Option.some.inj h).symm⟩)))
  | restart => exact absurd h (by simp [writes])

-- ---------------------------------------------------------------------------
-- One share
-- ---------------------------------------------------------------------------

namespace Share

/-- A writing event changes the entry in the same way whether or not it throws. -/
theorem entry_throw {p : Profile} {e : Event} {ans : Answers} {n : Nat}
    (hwrites : e.writes p ans = some n) (sql : Option Nat) (sh : Share) :
    (sh.step p e { ans with sql := sql }).entry = (sh.step p e ans).entry := by
  rcases Event.writes_cases hwrites with
    ⟨q, msg, tokId, name, bio, rfl, hdisp, htok, hq, -⟩ | ⟨q, msg, param, rfl, hdisp, -⟩ |
    ⟨q, msg, signature, rfl, hdisp, hsig, -⟩ | ⟨q, name, rfl, -⟩ | ⟨q, message, rfl, -⟩
  · have hq' : p.queries { ans with sql := sql } = some (name, bio) := hq
    simp only [step, hdisp, runCmd, hq, hq', htok, if_false, start]
  · simp only [step, hdisp, runCmd, stop]
  · simp only [step, hdisp, runCmd, hsig, if_false, update]
  · rfl
  · rfl

theorem map_profile_eq_iff {entry : Option Member} {set : Member → Member} {P : Member → Prop}
    (hset : ∀ m, (set m).profile = m.profile ↔ P m) :
    (entry.map set).map Member.profile = entry.map Member.profile ↔ ∀ m, entry = some m → P m := by
  cases entry with
  | none => simp
  | some m => simp [hset]

/-- A writing event leaves the profile of its friend's entry exactly if it writes what
is there. -/
theorem untouched_iff {p : Profile} {e : Event} {ans : Answers} {n : Nat}
    (hwrites : e.writes p ans = some n) (sh : Share) :
    (sh.step p e ans).entry.map Member.profile = sh.entry.map Member.profile ↔
      Untouched e sh.entry := by
  rcases Event.writes_cases hwrites with
    ⟨q, msg, tokId, name, bio, rfl, hdisp, htok, hq, -⟩ | ⟨q, msg, param, rfl, hdisp, -⟩ |
    ⟨q, msg, signature, rfl, hdisp, hsig, -⟩ | ⟨q, name, rfl, -⟩ | ⟨q, message, rfl, -⟩
  · -- /start adds an entry where there is none
    simp only [step, Untouched, hdisp, runCmd, hq, htok, if_false, start]
    cases sh.entry with
    | none => simp
    | some m => simp
  · simp only [step, Untouched, hdisp, runCmd, stop]
    cases sh.entry with
    | none => simp
    | some m => simp
  · simp only [step, Untouched, hdisp, runCmd, hsig, if_false, update]
    refine map_profile_eq_iff ?_
    intro m
    simp [Member.profile, Member.setSignature, eq_comm]
  · refine map_profile_eq_iff ?_
    intro m
    simp [Member.profile, Member.setNickName, eq_comm]
  · refine map_profile_eq_iff ?_
    intro m
    simp [Member.profile, Member.setBio, eq_comm]

end Share

-- ---------------------------------------------------------------------------
-- Table and registry
-- ---------------------------------------------------------------------------

namespace Reference

/-- A statement that throws leaves the table. -/
theorem next_table_of_throw (env : Env) (r : State MySql) {e : Event} {pk : Pk} {ans : Answers}
    {n : Nat} (hpk : e.pk? = some pk) (hwrites : e.writes (r.tox.profile pk) ans = some n)
    (hthrow : ¬ Executes ans.sql n) : (next env r (e, ans)).db.table = r.db.table := by
  have hsql : (MySql.driver.begin ans.sql r.db).throwAt = ans.sql := rfl
  have htable : (MySql.driver.begin ans.sql r.db).table = r.db.table := rfl
  rcases Event.writes_cases hwrites with
    ⟨q, msg, tokId, name, bio, rfl, hdisp, htok, hq, rfl⟩ | ⟨q, msg, param, rfl, hdisp, rfl⟩ |
    ⟨q, msg, signature, rfl, hdisp, hsig, rfl⟩ | ⟨q, name, rfl, rfl⟩ | ⟨q, message, rfl, rfl⟩
  · obtain rfl := Option.some.inj hpk
    simp only [next, step, handle, friendMessageCb, hdisp, runCmd, cmdStart_eq, htok, if_false, hq]
    show (MemberModel.addFriend MySql.driver tokId q.hex name bio ans.time ans.time
      (MySql.driver.begin ans.sql r.db)).2.table = _
    rw [MemberModel.addFriend_table, hsql, if_neg hthrow, htable]
  · simp only [next, step, handle, friendMessageCb, hdisp, runCmd, cmdStop]
    rw [MemberModel.delFriend_table, hsql, if_neg hthrow, htable]
  · simp only [next, step, handle, friendMessageCb, hdisp, runCmd, cmdSet, hsig, if_false]
    rw [MemberModel.updateFriendSignature_table, hsql, if_neg hthrow, htable]
  · simp only [next, step, handle, friendNameCb]
    rw [MemberModel.updateFriendName_table, hsql, if_neg hthrow, htable]
  · simp only [next, step, handle, friendStatusMessageCb]
    rw [MemberModel.updateFriendBio_table, hsql, if_neg hthrow, htable]

/-- A writing event changes one entry of the registry. -/
theorem next_registry_of_writes (env : Env) (r : State MySql) {e : Event} {pk : Pk}
    {ans : Answers} {n : Nat} (hpk : e.pk? = some pk)
    (hwrites : e.writes (r.tox.profile pk) ans = some n) (sql : Option Nat) (k : Bytes) :
    (next env r (e, { ans with sql := sql })).registry[k]? =
      if k = pk.hex then ((r.share pk.hex).step (r.tox.profile pk) e ans).entry
      else r.registry[k]? := by
  have hacts := next_actsOn env r { ans with sql := sql } hpk
  have hblank : ∀ sh, Share.filesBlank e { ans with sql := sql } sh = false := by
    cases e with
    | connectionStatus q status => exact absurd hwrites (by simp [Event.writes])
    | _ => exact fun _ => rfl
  rw [hblank] at hacts
  by_cases hk : k = pk.hex
  · rw [if_pos hk, hk]
    exact (congrArg Share.entry hacts.own).trans (Share.entry_throw hwrites sql _)
  · rw [if_neg hk]
    exact congrArg Share.entry (hacts.share_of_ne hk)

end Reference

/-- **A write that throws.** In every reachable state, an event whose statement throws
leaves the table as it was and every other entry too, and leaves the registry
as the same event does when no call throws. So the registry is as it was
exactly if what the event writes to the sender's entry is there already. -/
theorem failedWrite (env : Env) (db : MySql) (tox : Tox) (is : List Input) :
    ∃ s os, (Bot.machine MySql.driver env).run (Bot.init db tox) is = some (s, os) ∧
      ∀ e pk ans n, e.pk? = some pk → e.writes (s.tox.profile pk) ans = some n →
        ¬ Executes ans.sql n →
        ∃ s' o s'' o'', Bot.step MySql.driver env s (e, ans) = some (s', o) ∧
          Bot.step MySql.driver env s (e, { ans with sql := none }) = some (s'', o'') ∧
          s'.db.table = s.db.table ∧
          (∀ k, k ≠ pk.hex → s'.memberMgr.memberAt k = s.memberMgr.memberAt k) ∧
          (∀ k, s'.memberMgr.memberAt k = s''.memberMgr.memberAt k) ∧
          (SameCache s s' ↔ Untouched e (s.memberMgr.memberAt pk.hex)) := by
  obtain ⟨s, r, os, hrun, -, href⟩ := run_sim MySql.driver env is (refines_init db tox)
  refine ⟨s, os, hrun, ?_⟩
  intro e pk ans n hpk hwrites hthrow
  rw [href.tox] at hwrites
  obtain ⟨s', hstep', href'⟩ := href.step env (e, ans)
  obtain ⟨s'', hstep'', href''⟩ := href.step env (e, { ans with sql := none })
  -- the cache is updated whatever the SQL did
  have hentry : ∀ k, s'.memberMgr.memberAt k =
      if k = pk.hex then ((r.share pk.hex).step (r.tox.profile pk) e ans).entry
      else s.memberMgr.memberAt k := by
    intro k
    rw [href'.memberAt, href.memberAt]
    exact Reference.next_registry_of_writes env r hpk hwrites ans.sql k
  refine ⟨s', _, s'', _, hstep', hstep'', ?_, ?_, ?_, ?_⟩
  · rw [href'.db, href.db]
    exact Reference.next_table_of_throw env r hpk hwrites hthrow
  · intro k hk
    rw [hentry, if_neg hk]
  · intro k
    rw [hentry, href''.memberAt, href.memberAt]
    exact (Reference.next_registry_of_writes env r hpk hwrites none k).symm
  -- only the friend's own entry can have changed
  · have hown : (r.share pk.hex).entry = s.memberMgr.memberAt pk.hex := (href.memberAt _).symm
    rw [← hown, ← Share.untouched_iff hwrites]
    constructor
    · intro hsame
      have hpkSame := hsame pk.hex
      rw [hentry, if_pos rfl, ← hown] at hpkSame
      exact hpkSame
    · intro hsame k
      rw [hentry]
      by_cases hk : k = pk.hex
      · rw [if_pos hk, hk, ← hown]
        exact hsame
      · rw [if_neg hk]

/-- The `INSERT` of a first `/start` throws: no row, but an entry. -/
theorem failed_start_registers :
    ∃ s' o, Bot.step MySql.driver Env.sample (Bot.init (MySql.holding Table.empty) Tox.blank)
        (.message Pk.first ⟨bytes "/start A1", by decide⟩,
          { Answers.plain with sql := some 7 }) = some (s', o) ∧
      s'.db.table = Table.empty ∧
      ¬ SameCache (Bot.init (MySql.holding Table.empty) Tox.blank) s' := by
  refine ⟨_, _, rfl, rfl, ?_⟩
  intro hsame
  exact Option.some_ne_none _ (hsame Pk.first.hex)

end FindFriendBot
