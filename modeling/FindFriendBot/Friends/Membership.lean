import FindFriendBot.Friends.Share

/-!
# FindFriendBot — who is registered

With a database that works and a toxcore that keeps its promises, the registry
holds exactly the friends who are connected and have a row. Connecting, `/start`,
`/stop` and going offline each change one side of the equation or both, and the
lemmas below follow a friend's share through each of them.

* `present_step`  — one event, on the share of its friend.
* `members_step`  — one event, on all friends.
* `membership`    — every run of admissible inputs.
-/

namespace FindFriendBot

/-- toxcore delivers messages and profile changes from connected friends only. -/
def Delivered (tox : Tox) : Event → Prop
  | .connectionStatus _ _ => True
  | .message pk _ => pk ∈ tox.connected
  | .name pk _ => pk ∈ tox.connected
  | .statusMessage pk _ => pk ∈ tox.connected
  | .restart => True

/-- Every event is delivered as promised and every SQL statement succeeds. -/
def Admissible : Tox → List Input → Prop
  | _, [] => True
  | tox, (e, ans) :: rest => ans.sql = none ∧ Delivered tox e ∧ Admissible (tox.apply e) rest

instance (tox : Tox) : (e : Event) → Decidable (Delivered tox e)
  | .connectionStatus _ _ => isTrue trivial
  | .message pk _ => inferInstanceAs (Decidable (pk ∈ tox.connected))
  | .name pk _ => inferInstanceAs (Decidable (pk ∈ tox.connected))
  | .statusMessage pk _ => inferInstanceAs (Decidable (pk ∈ tox.connected))
  | .restart => isTrue trivial

instance decidableAdmissible : (tox : Tox) → (is : List Input) → Decidable (Admissible tox is)
  | _, [] => isTrue trivial
  | tox, (e, _) :: rest =>
    have := decidableAdmissible (tox.apply e) rest
    inferInstanceAs (Decidable (_ ∧ _ ∧ _))

/-- An event changes who is connected for its own friend only. -/
theorem Tox.mem_connected_apply (tox : Tox) {e : Event} {pk pk' : Pk} (hpk : e.pk? = some pk)
    (hne : pk' ≠ pk) : pk' ∈ (tox.apply e).connected ↔ pk' ∈ tox.connected := by
  cases e with
  | connectionStatus p status =>
    obtain rfl := Option.some.inj hpk
    by_cases hst : status = .none <;> simp [Tox.apply, hst, hne]
  | message p msg => exact Iff.rfl
  | name p name => exact Iff.rfl
  | statusMessage p message => exact Iff.rfl
  | restart => exact absurd hpk (by simp [Event.pk?])

-- ---------------------------------------------------------------------------
-- One share
-- ---------------------------------------------------------------------------

/-- The friend is registered exactly if connected and in the table. -/
def Share.Present (sh : Share) (connected : Prop) : Prop :=
  sh.entry.isSome ↔ connected ∧ sh.row.isSome

namespace Share

theorem present_connect {sh : Share} {connected : Prop} (h : sh.Present connected) (pk : Pk)
    {ans : Answers} (hsql : ans.sql = none) : (sh.connect pk ans).Present True := by
  cases hrow : sh.row with
  | none =>
    have hentry : ¬ sh.entry.isSome = true := fun hs => by simpa [hrow] using (h.mp hs).2
    simp [connect, hrow, Present, hentry]
  | some row => simp [connect, hrow, Present, hsql]

theorem present_update {sh : Share} {connected : Prop} (h : sh.Present connected)
    (setRow : Row → Row) (set : Member → Member) {ans : Answers} (hsql : ans.sql = none) :
    (sh.update setRow set ans).Present connected := by
  simpa [Present, update, hsql] using h

theorem present_runCmd {sh : Share} {connected : Prop} (h : sh.Present connected)
    (hconn : connected) (pk : Pk) (p : Profile) {ans : Answers} (hsql : ans.sql = none)
    (cmd : Command) (param : Bytes) : (sh.runCmd pk p ans cmd param).Present connected := by
  cases cmd with
  | start =>
    unfold runCmd
    cases p.queries ans with
    | none => exact h
    | some nb =>
      by_cases hparam : param = []
      · simpa [hparam] using h
      · simp [hparam, start, Present, hsql, hconn]
  | stop => simp [runCmd, stop, Present, hsql]
  | set =>
    unfold runCmd
    by_cases hparam : param = []
    · simpa [hparam] using h
    · simp only [hparam, if_false]
      exact present_update h _ _ hsql
  | _ => exact h

/-- An event of a friend keeps them registered exactly if connected with a row. -/
theorem present_step {sh : Share} {tox : Tox} {pk : Pk} (h : sh.Present (pk ∈ tox.connected))
    {e : Event} (hpk : e.pk? = some pk) (hdel : Delivered tox e) (p : Profile) {ans : Answers}
    (hsql : ans.sql = none) : (sh.step p e ans).Present (pk ∈ (tox.apply e).connected) := by
  cases e with
  | connectionStatus q status =>
    obtain rfl := Option.some.inj hpk
    by_cases hst : status = .none
    · simp [step, hst, leave, Present, Tox.apply]
    · have hin : (q ∈ (tox.apply (.connectionStatus q status)).connected) = True := by
        simp [Tox.apply, hst]
      rw [hin, step, if_pos hst]
      exact present_connect h q hsql
  | message q msg =>
    obtain rfl := Option.some.inj hpk
    obtain ⟨cmd, param, hdisp⟩ := msg.dispatch_isSome
    simp only [step, hdisp]
    exact present_runCmd h hdel q p hsql cmd param
  | name q name => exact present_update h _ _ hsql
  | statusMessage q message => exact present_update h _ _ hsql
  | restart => exact absurd hpk (by simp [Event.pk?])

end Share

-- ---------------------------------------------------------------------------
-- All friends
-- ---------------------------------------------------------------------------

namespace Reference

/-- The registered keys are those of the connected friends with a row. -/
structure State.Members (r : State MySql) : Prop where
  present : ∀ pk : Pk, (r.share pk.hex).Present (pk ∈ r.tox.connected)
  keys : ∀ k ∈ r.registry, ∃ pk : Pk, pk.hex = k

theorem members_step (env : Env) {r : State MySql} (h : r.Members) {e : Event} {ans : Answers}
    (hsql : ans.sql = none) (hdel : Delivered r.tox e) : (next env r (e, ans)).Members := by
  cases hpk : e.pk? with
  | none =>
    obtain rfl := Event.eq_restart hpk
    constructor
    · intro pk
      rw [next_tox]
      simp [Share.Present, State.share, (next_restart env r ans).1, Tox.apply]
    · intro k hk
      rw [(next_restart env r ans).1] at hk
      exact absurd hk Std.ExtTreeMap.not_mem_empty
  | some A =>
    have hacts := next_actsOn_quiet env r hpk hsql
    constructor
    · intro pk
      rw [next_tox]
      by_cases hpkA : pk = A
      · subst hpkA
        rw [hacts.own]
        exact Share.present_step (h.present pk) hpk hdel _ hsql
      · rw [hacts.share_friend hpkA, Share.Present, Tox.mem_connected_apply r.tox hpk hpkA]
        exact h.present pk
    · intro k hk
      by_cases hkA : k = A.hex
      · exact ⟨A, hkA.symm⟩
      · exact h.keys k ((hacts.mem_registry_of_ne hkA).mp hk)

theorem members_init (t : Table) (name statusMessage : Pk → Bytes) :
    (init (MySql.holding t) ⟨∅, name, statusMessage⟩).Members where
  present := fun pk => by simp [Share.Present, State.share, init]
  keys := fun k hk => absurd hk Std.ExtTreeMap.not_mem_empty

/-- Who is registered, key by key. -/
theorem State.Members.mem_iff {r : State MySql} (h : r.Members) (k : Bytes) :
    k ∈ r.registry ↔ ∃ pk ∈ r.tox.connected, pk.hex = k ∧ k ∈ r.db.table.rows := by
  have hentry : ∀ pk : Pk, (r.share pk.hex).entry.isSome ↔ pk.hex ∈ r.registry := by
    intro pk
    rw [Std.ExtTreeMap.mem_iff_isSome_getElem?, State.share]
  have hrow : ∀ pk : Pk, (r.share pk.hex).row.isSome ↔ pk.hex ∈ r.db.table.rows := by
    intro pk
    rw [Std.ExtTreeMap.mem_iff_isSome_getElem?, State.share, Option.isSome_map]
  constructor
  · intro hk
    obtain ⟨pk, rfl⟩ := h.keys k hk
    obtain ⟨hconn, hin⟩ := (h.present pk).mp ((hentry pk).mpr hk)
    exact ⟨pk, hconn, rfl, (hrow pk).mp hin⟩
  · intro hex
    obtain ⟨pk, hconn, rfl, hin⟩ := hex
    exact (hentry pk).mp ((h.present pk).mpr ⟨hconn, (hrow pk).mpr hin⟩)

end Reference

-- ---------------------------------------------------------------------------
-- Runs
-- ---------------------------------------------------------------------------

/-- Along an admissible run every event is delivered as promised. -/
theorem admissible_along (env : Env) :
    ∀ (is : List Input) {s : State MySql} {r : Reference.State MySql}, Refines s r →
      Admissible s.tox is →
      (Bot.machine MySql.driver env).Along
        (fun s i => i.2.sql = none ∧ Delivered s.tox i.1) s is := by
  intro is
  induction is with
  | nil => exact fun _ _ => trivial
  | cons i is ih =>
    intro s r h hadm
    obtain ⟨e, ans⟩ := i
    obtain ⟨hsql, hdel, hrest⟩ := hadm
    refine ⟨⟨hsql, hdel⟩, ?_⟩
    intro s' o hstep
    obtain ⟨href, -⟩ := h.of_step hstep
    have htox : s'.tox = s.tox.apply e := by
      rw [href.tox, Reference.next_tox, h.tox]
    exact ih href (htox ▸ hrest)

/-- **Membership.** From an empty registry, nobody connected and any table, in every
state that admissible inputs lead to, the registered keys are exactly those of
the connected friends with a row, and `online_member_num()` counts them (its
`uint32_t` is wide enough as long as the friend numbers are). -/
theorem membership (env : Env) (t : Table) (name statusMessage : Pk → Bytes) {is : List Input}
    (hadm : Admissible ⟨∅, name, statusMessage⟩ is) :
    ∃ s os, (Bot.machine MySql.driver env).run
        (Bot.init (MySql.holding t) ⟨∅, name, statusMessage⟩) is = some (s, os) ∧
      (∀ k, k ∈ s.memberMgr.onlineMember ↔
        ∃ pk ∈ s.tox.connected, pk.hex = k ∧ k ∈ s.db.table.rows) ∧
      s.memberMgr.onlineMember.size =
        (s.tox.connected.filter fun pk => pk.hex ∈ s.db.table.rows).card ∧
      (s.tox.connected.card < 2 ^ 32 → s.memberMgr.onlineMemberNum =
        (s.tox.connected.filter fun pk => pk.hex ∈ s.db.table.rows).card) := by
  have hkeep : ∀ (s : State MySql) (r : Reference.State MySql) (i : Input), Refines s r →
      r.Members → i.2.sql = none ∧ Delivered s.tox i.1 → (Reference.next env r i).Members := by
    intro s r i href hmembers hi
    rw [href.tox] at hi
    exact Reference.members_step env hmembers hi.1 hi.2
  have hguard := admissible_along env is (refines_init (MySql.holding t) _) hadm
  obtain ⟨s, os, r, hrun, href, hmembers⟩ :=
    Refines.run_invariant env Reference.State.Members _ hkeep is (refines_init _ _)
      (Reference.members_init t name statusMessage) hguard
  -- the entries are those of the reference, which the invariant describes
  have hmem : ∀ k, k ∈ s.memberMgr.onlineMember ↔
      ∃ pk ∈ s.tox.connected, pk.hex = k ∧ k ∈ s.db.table.rows := by
    intro k
    rw [href.mem_iff, hmembers.mem_iff, href.tox, href.db]
  -- distinct keys have distinct hex, so counting friends counts entries
  have hsize : s.memberMgr.onlineMember.size =
      (s.tox.connected.filter fun pk => pk.hex ∈ s.db.table.rows).card := by
    refine OrderedMap.size_eq_card (fun p q => Pk.hex_inj.mp) ?_
    intro k
    rw [hmem]
    constructor
    · intro hex
      obtain ⟨pk, hconn, rfl, hin⟩ := hex
      exact ⟨pk, Finset.mem_filter.mpr ⟨hconn, hin⟩, rfl⟩
    · intro hex
      obtain ⟨pk, hpk, rfl⟩ := hex
      obtain ⟨hconn, hin⟩ := Finset.mem_filter.mp hpk
      exact ⟨pk, hconn, rfl, hin⟩
  refine ⟨s, os, hrun, hmem, hsize, ?_⟩
  intro hcard
  -- onlineMemberNum is a uint32_t
  have hle := Finset.card_filter_le s.tox.connected fun pk => pk.hex ∈ s.db.table.rows
  have hlt : s.memberMgr.onlineMember.size < 2 ^ 32 := by omega
  rw [MemberMgr.onlineMemberNum, Nat.mod_eq_of_lt hlt, hsize]

/-- A friend with a row comes online, stops the bot and restarts it. -/
theorem membership_stop_start :
    ∃ s os, (Bot.machine MySql.driver Env.sample).run
        (Bot.init (MySql.holding (Table.single Pk.first [] [] [] []))
          ⟨∅, fun _ => [], fun _ => []⟩)
        [(.connectionStatus Pk.first .tcp, Answers.plain),
          (.message Pk.first ⟨bytes "/stop", by decide⟩, Answers.plain),
          (.message Pk.first ⟨bytes "/start A1", by decide⟩, Answers.plain)] = some (s, os) ∧
      (∀ k, k ∈ s.memberMgr.onlineMember ↔
        ∃ pk ∈ s.tox.connected, pk.hex = k ∧ k ∈ s.db.table.rows) ∧
      s.memberMgr.onlineMember.size =
        (s.tox.connected.filter fun pk => pk.hex ∈ s.db.table.rows).card ∧
      (s.tox.connected.card < 2 ^ 32 → s.memberMgr.onlineMemberNum =
        (s.tox.connected.filter fun pk => pk.hex ∈ s.db.table.rows).card) :=
  membership Env.sample (Table.single Pk.first [] [] [] []) (fun _ => []) (fun _ => [])
    (by decide)

end FindFriendBot
