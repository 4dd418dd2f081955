import FindFriendBot.Friends.Fetching
import FindFriendBot.Friends.Recommended

/-!
# FindFriendBot — after a restart

The registry dies with the process; `t_tokme_member` and the friend list do not.
As long as cache and table agree, an entry is nothing but the row of its friend,
so a new process has the old registry back as soon as its friends are connected
again, in whatever order and however often they come and go meanwhile.

* `Mirrors.memberAt` — the entry of a friend, as a function of the table and of who is
  connected.
* `reconnects_run`   — what restarts and reconnects leave alone.
* `recovery`         — every run, restarted.
-/

namespace FindFriendBot

/-- The entry of a friend: their row, if they are connected. -/
def view (t : Table) (connected : Finset Pk) (pk : Pk) : Option Member :=
  if pk ∈ connected then (t.rows[pk.hex]?).map (Row.member pk.hex) else none

-- ---------------------------------------------------------------------------
-- recommand_times_
-- ---------------------------------------------------------------------------

namespace Member

theorem setNickName_recommandTimes (m : Member) (b : Bytes) :
    (m.setNickName b).recommandTimes = m.recommandTimes := rfl

theorem setBio_recommandTimes (m : Member) (b : Bytes) :
    (m.setBio b).recommandTimes = m.recommandTimes := rfl

theorem setSignature_recommandTimes (m : Member) (b : Bytes) :
    (m.setSignature b).recommandTimes = m.recommandTimes := rfl

end Member

namespace Share

/-- Nobody counts recommendations. -/
def Uncounted (sh : Share) : Prop := ∀ m, sh.entry = some m → m.recommandTimes = 0

theorem uncounted_start {sh : Share} (h : sh.Uncounted) (pk : Pk) (tokId name bio : Bytes)
    (ans : Answers) : (sh.start pk tokId name bio ans).Uncounted := by
  intro m hm
  cases hentry : sh.entry with
  | none =>
    rw [start, hentry, Option.getD_none, Option.some.injEq] at hm
    rw [← hm]
  | some old =>
    rw [start, hentry, Option.getD_some, Option.some.injEq] at hm
    exact hm ▸ h old hentry

theorem uncounted_update {sh : Share} (h : sh.Uncounted) (setRow : Row → Row)
    {set : Member → Member} (hset : ∀ m, (set m).recommandTimes = m.recommandTimes)
    (ans : Answers) : (sh.update setRow set ans).Uncounted := by
  intro m hm
  obtain ⟨old, hentry, rfl⟩ := Option.map_eq_some_iff.mp hm
  rw [hset]
  exact h old hentry

theorem uncounted_connect {sh : Share} (h : sh.Uncounted) (pk : Pk) {ans : Answers}
    (hsql : ans.sql = none) : (sh.connect pk ans).Uncounted := by
  cases hrow : sh.row with
  | none => simpa [connect, hrow] using h
  | some row =>
    intro m hm
    simp only [connect, hrow, hsql, delivers_none, ne_eq, reduceCtorEq, not_false_eq_true,
      and_self, if_true, Option.some.injEq] at hm
    cases hentry : sh.entry with
    | none =>
      rw [hentry, Option.getD_none, MemberModel.fetched_none] at hm
      rw [← hm]
    | some old =>
      rw [hentry, Option.getD_some] at hm
      exact hm ▸ h old hentry

theorem uncounted_runCmd {sh : Share} (h : sh.Uncounted) (pk : Pk) (p : Profile)
    (ans : Answers) (cmd : Command) (param : Bytes) :
    (sh.runCmd pk p ans cmd param).Uncounted := by
  cases cmd with
  | start =>
    unfold runCmd
    cases p.queries ans with
    | none => exact h
    | some nb =>
      by_cases hparam : param = []
      · simpa [hparam] using h
      · simpa [hparam] using uncounted_start h pk param nb.1 nb.2 ans
  | stop => exact fun m hm => absurd hm (by simp [runCmd, stop])
  | set =>
    unfold runCmd
    by_cases hparam : param = []
    · simpa [hparam] using h
    · simp only [hparam, if_false]
      exact uncounted_update h _ (Member.setSignature_recommandTimes · param) ans
  | _ => exact h

theorem uncounted_step {sh : Share} (h : sh.Uncounted) (p : Profile) (e : Event) {ans : Answers}
    (hsql : ans.sql = none) : (sh.step p e ans).Uncounted := by
  have hleave : sh.leave.Uncounted := fun m hm => absurd hm (by simp [leave])
  cases e with
  | connectionStatus pk status =>
    by_cases hst : status = .none
    · simpa [step, hst] using hleave
    · simpa [step, hst] using uncounted_connect h pk hsql
  | message pk msg =>
    obtain ⟨cmd, param, hdisp⟩ := msg.dispatch_isSome
    simp only [step, hdisp]
    exact uncounted_runCmd h pk p ans cmd param
  | name pk name => exact uncounted_update h _ (Member.setNickName_recommandTimes · _) ans
  | statusMessage pk message => exact uncounted_update h _ (Member.setBio_recommandTimes · _) ans
  | restart => exact hleave

end Share

-- ---------------------------------------------------------------------------
-- The registry as a view
-- ---------------------------------------------------------------------------

/-- What the run so far has kept. -/
structure Mirrors (s : State MySql) (r : Reference.State MySql) : Prop where
  refines : Refines s r
  members : r.Members
  agrees : CacheAgrees s
  uncounted : ∀ pk : Pk, (r.share pk.hex).Uncounted

theorem mirrors_init (t : Table) (name statusMessage : Pk → Bytes) :
    Mirrors (Bot.init (MySql.holding t) ⟨∅, name, statusMessage⟩)
      (Reference.init (MySql.holding t) ⟨∅, name, statusMessage⟩) where
  refines := refines_init _ _
  members := Reference.members_init t name statusMessage
  agrees := cacheAgrees_init _ _
  uncounted := fun pk m hm => absurd hm (by simp [Reference.State.share, Reference.init])

/-- **One event.** -/
theorem mirrors_step (env : Env) {s : State MySql} {r : Reference.State MySql} (h : Mirrors s r)
    {i : Input} (hi : Agreeable s i) :
    ∃ s' o, Bot.step MySql.driver env s i = some (s', o) ∧
      Mirrors s' (Reference.next env r i) := by
  obtain ⟨e, ans⟩ := i
  obtain ⟨hsql, hdel, hkeeps⟩ := hi
  obtain ⟨s', hstep, href⟩ := h.refines.step env (e, ans)
  refine ⟨s', _, hstep, href, ?_, ?_, ?_⟩
  · exact Reference.members_step env h.members hsql (h.refines.tox ▸ hdel)
  · exact (cacheAgrees_step_iff env h.refines h.agrees hsql hstep).mpr hkeeps
  · intro pk
    by_cases hpk : e.pk? = some pk
    · rw [(Reference.next_actsOn_quiet env r hpk hsql).own]
      exact Share.uncounted_step (h.uncounted pk) _ e hsql
    · rcases Reference.next_share_other env r (i := (e, ans)) hpk with heq | heq
      · exact heq ▸ h.uncounted pk
      · exact heq ▸ fun m hm => absurd hm (by simp [Share.leave])

/-- **Every entry is its view.** -/
theorem Mirrors.memberAt {s : State MySql} {r : Reference.State MySql} (h : Mirrors s r)
    (pk : Pk) : s.memberMgr.memberAt pk.hex = view s.db.table s.tox.connected pk := by
  have hpresent := h.members.present pk
  have hentry : (r.share pk.hex).entry = s.memberMgr.memberAt pk.hex :=
    (h.refines.memberAt pk.hex).symm
  have hrow : (r.share pk.hex).row = (s.db.table.rows[pk.hex]?).map Row.dropId := by
    rw [h.refines.db]
    rfl
  rw [Share.Present, hentry, hrow, Option.isSome_map, ← h.refines.tox] at hpresent
  cases hm : s.memberMgr.memberAt pk.hex with
  | none =>
    -- without an entry, the friend is offline or has no row, and the view has nothing either
    rw [hm, Option.isSome_none, Bool.false_eq_true, false_iff] at hpresent
    unfold view
    split
    · next hconn =>
      cases hr : s.db.table.rows[pk.hex]? with
      | none => rfl
      | some row => exact absurd ⟨hconn, hr ▸ rfl⟩ hpresent
    · rfl
  | some m =>
    obtain ⟨row, hr, hmatches⟩ := h.agrees pk.hex m hm
    have hconn : pk ∈ s.tox.connected := (hpresent.mp (hm ▸ rfl)).1
    have htimes : m.recommandTimes = 0 := h.uncounted pk m (hentry.trans hm)
    have hkey : m.pk = pk.hex := by
      rcases h.refines.owned.find pk.hex with ⟨-, -, hc⟩ | ⟨a, m', -, -, -, hpk, hc⟩
      · rw [h.refines.owned.memberAt_eq, hc] at hm
        exact absurd hm (by simp)
      · rw [h.refines.owned.memberAt_eq, hc, Option.some.injEq] at hm
        exact hm ▸ hpk
    -- with one, the entry is the row's member: key, columns and a count of zero
    rw [view, if_pos hconn, hr, Option.map_some, Option.some.injEq]
    cases m
    simp only at htimes hkey
    rw [Row.member, htimes, hkey, ← hmatches.tokId, ← hmatches.nickName, ← hmatches.bio,
      ← hmatches.signature]

/-- Every agreeable run. -/
theorem mirrors_run (env : Env) {t : Table} {name statusMessage : Pk → Bytes} {is : List Input}
    (hgood : (Bot.machine MySql.driver env).Along Agreeable
      (Bot.init (MySql.holding t) ⟨∅, name, statusMessage⟩) is) :
    ∃ s os, (Bot.machine MySql.driver env).run
        (Bot.init (MySql.holding t) ⟨∅, name, statusMessage⟩) is = some (s, os) ∧
      ∃ r, Mirrors s r := by
  refine StepMachine.run_invariant (fun s => ∃ r, Mirrors s r) Agreeable ?_ is _
    ⟨_, mirrors_init t name statusMessage⟩ hgood
  rintro s i ⟨r, h⟩ hi
  obtain ⟨s', o, hstep, h'⟩ := mirrors_step env h hi
  exact ⟨s', o, hstep, _, h'⟩

/-- No key but a friend's is registered. -/
theorem Mirrors.memberAt_none {s : State MySql} {r : Reference.State MySql} (h : Mirrors s r)
    {k : Bytes} (hk : ∀ pk : Pk, pk.hex ≠ k) : s.memberMgr.memberAt k = none := by
  rw [h.refines.memberAt]
  cases hm : r.registry[k]? with
  | none => rfl
  | some m =>
    obtain ⟨pk, hpk⟩ := h.members.keys k (OrderedMap.mem_of_get hm)
    exact absurd hpk (hk pk)

-- ---------------------------------------------------------------------------
-- Restarts
-- ---------------------------------------------------------------------------

/-- A restart of the process, or a friend who comes or goes. -/
def Reconnects (i : Input) : Prop :=
  i.2.sql = none ∧
    match i.1 with
    | .restart => True
    | .connectionStatus _ _ => True
    | _ => False

theorem Reconnects.agreeable {i : Input} (h : Reconnects i) (s : State MySql) :
    Agreeable s i := by
  obtain ⟨e, ans⟩ := i
  cases e with
  | connectionStatus pk status => exact ⟨h.1, trivial, trivial⟩
  | restart => exact ⟨h.1, trivial, trivial⟩
  | message pk msg => exact h.2.elim
  | name pk name => exact h.2.elim
  | statusMessage pk message => exact h.2.elim

/-- Nothing is written to the table. -/
theorem Reference.next_reconnects (env : Env) (r : Reference.State MySql) {i : Input}
    (h : Reconnects i) : (next env r i).db.table = r.db.table := by
  obtain ⟨e, ans⟩ := i
  cases e with
  | connectionStatus pk status =>
    simp only [next, step, handle, friendConnectionStatusCb]
    split
    · exact (findFriend_spec pk _).2
    · rfl
  | restart => rfl
  | message pk msg => exact h.2.elim
  | name pk name => exact h.2.elim
  | statusMessage pk message => exact h.2.elim

/-- A run of restarts and comings and goings. -/
theorem reconnects_run (env : Env) {s : State MySql} {r : Reference.State MySql}
    (h : Mirrors s r) {js : List Input} (hjs : ∀ i ∈ js, Reconnects i) :
    ∃ u os, (Bot.machine MySql.driver env).run s js = some (u, os) ∧ (∃ r', Mirrors u r') ∧
      u.db.table = s.db.table := by
  refine StepMachine.run_invariant (fun u => (∃ r', Mirrors u r') ∧ u.db.table = s.db.table)
    (fun _ i => Reconnects i) ?_ js s ⟨⟨r, h⟩, rfl⟩ (StepMachine.along_of_forall hjs s)
  rintro u i ⟨⟨r', hu⟩, htable⟩ hi
  obtain ⟨u', o, hstep, hu'⟩ := mirrors_step env hu (hi.agreeable u)
  refine ⟨u', o, hstep, ⟨_, hu'⟩, ?_⟩
  rw [hu'.refines.db, Reference.next_reconnects env r' hi, ← hu.refines.db, htable]

/-- **Recovery.** After any agreeable run, let the process be restarted and friends come and go,
as often as they like: the table is as it was, who is connected as before has the entry they had
before, and once the same friends are connected the registry is the one before. -/
theorem recovery (env : Env) (t : Table) (name statusMessage : Pk → Bytes) {is js : List Input}
    (hgood : (Bot.machine MySql.driver env).Along Agreeable
      (Bot.init (MySql.holding t) ⟨∅, name, statusMessage⟩) is)
    (hjs : ∀ i ∈ js, Reconnects i) :
    ∃ s os u os', (Bot.machine MySql.driver env).run
        (Bot.init (MySql.holding t) ⟨∅, name, statusMessage⟩) is = some (s, os) ∧
      (Bot.machine MySql.driver env).run s js = some (u, os') ∧
      u.db.table = s.db.table ∧
      (∀ pk, (pk ∈ u.tox.connected ↔ pk ∈ s.tox.connected) →
        u.memberMgr.memberAt pk.hex = s.memberMgr.memberAt pk.hex) ∧
      (u.tox.connected = s.tox.connected →
        ∀ k, u.memberMgr.memberAt k = s.memberMgr.memberAt k) := by
  obtain ⟨s, os, hrun, r, hs⟩ := mirrors_run env hgood
  obtain ⟨u, os', hrun', ⟨r', hu⟩, htable⟩ := reconnects_run env hs hjs
  have hsame : ∀ pk, (pk ∈ u.tox.connected ↔ pk ∈ s.tox.connected) →
      u.memberMgr.memberAt pk.hex = s.memberMgr.memberAt pk.hex := by
    intro pk hpk
    simp only [hu.memberAt, hs.memberAt, view, htable, hpk]
  refine ⟨s, os, u, os', hrun, hrun', htable, hsame, ?_⟩
  intro hconn k
  by_cases hk : ∃ pk : Pk, pk.hex = k
  · obtain ⟨pk, rfl⟩ := hk
    exact hsame pk (hconn ▸ Iff.rfl)
  · rw [not_exists] at hk
    rw [hu.memberAt_none hk, hs.memberAt_none hk]

/-- A friend with a row is online, the process dies, and the friend connects to the next one. -/
theorem recovery_one :
    ∃ s os u os', (Bot.machine MySql.driver Env.sample).run
        (Bot.init (MySql.holding (Table.single Pk.first [] [] [] []))
          ⟨∅, fun _ => [], fun _ => []⟩)
        [(.connectionStatus Pk.first .tcp, Answers.plain)] = some (s, os) ∧
      (Bot.machine MySql.driver Env.sample).run s
        [(.restart, Answers.plain),
          (.connectionStatus Pk.second .tcp, Answers.plain),
          (.connectionStatus Pk.second .none, Answers.plain),
          (.connectionStatus Pk.first .udp, Answers.plain)] = some (u, os') ∧
      u.db.table = s.db.table ∧
      (∀ pk, (pk ∈ u.tox.connected ↔ pk ∈ s.tox.connected) →
        u.memberMgr.memberAt pk.hex = s.memberMgr.memberAt pk.hex) ∧
      (u.tox.connected = s.tox.connected →
        ∀ k, u.memberMgr.memberAt k = s.memberMgr.memberAt k) := by
  refine recovery Env.sample _ _ _ ⟨⟨rfl, trivial, trivial⟩, fun _ _ _ => trivial⟩ ?_
  simp [Reconnects, Answers.plain]

end FindFriendBot
