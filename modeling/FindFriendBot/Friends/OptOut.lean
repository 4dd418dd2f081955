import FindFriendBot.Friends.Acknowledgement
import FindFriendBot.Registry.Recommendation

/-!
# FindFriendBot — an acknowledged `/stop` lasts

Once `/stop` is answered the friend has neither a row nor an entry, and only a
`/start` of their own brings either back: a reconnect finds no row, a profile
change updates nothing, and no other friend's event touches their key. So
nobody is recommended to them until they ask for it, whatever the SQL calls of
the events in between do.

* `absent_next` — one event.
* `opt_out`     — every run after the answer.
-/

namespace FindFriendBot

/-- A message of `pk` that reaches `cmd_start` with a parameter. -/
def Event.Starts (pk : Pk) : Event → Prop
  | .message q msg => q = pk ∧ ∃ tokId, msg.dispatch = some (.start, tokId) ∧ tokId ≠ []
  | _ => False

/-- Neither a row nor an entry. -/
def Share.Absent (sh : Share) : Prop := sh.row = none ∧ sh.entry = none

namespace Share

theorem absent_update {sh : Share} (h : sh.Absent) (setRow : Row → Row) (set : Member → Member)
    (ans : Answers) : (sh.update setRow set ans).Absent := by
  simp [Absent, update, h.1, h.2]

theorem absent_stop {sh : Share} (h : sh.Absent) (ans : Answers) : (sh.stop ans).Absent := by
  simp [Absent, stop, h.1]

theorem absent_step {sh : Share} (h : sh.Absent) {e : Event} {pk : Pk} (hpk : e.pk? = some pk)
    (hstart : ¬ e.Starts pk) (p : Profile) (ans : Answers) : (sh.step p e ans).Absent := by
  cases e with
  | connectionStatus q status =>
    by_cases hst : status = .none
    · simpa [step, hst, leave, Absent] using h.1
    · -- find_friend has no row to deliver
      simpa [step, hst, connect, h.1] using h
  | message q msg =>
    obtain rfl := Option.some.inj hpk
    obtain ⟨cmd, param, hdisp⟩ := msg.dispatch_isSome
    simp only [step, hdisp]
    cases cmd with
    | start =>
      -- only a /start with a token can bring the friend back
      have hparam : param = [] := by
        by_contra hne
        exact hstart ⟨rfl, param, hdisp, hne⟩
      unfold runCmd
      cases p.queries ans with
      | none => exact h
      | some nb => simpa [hparam] using h
    | stop => exact absent_stop h ans
    | set =>
      unfold runCmd
      by_cases hparam : param = []
      · simpa [hparam] using h
      · simp only [hparam, if_false]
        exact absent_update h _ _ ans
    | _ => exact h
  | name q name => exact absent_update h _ _ ans
  | statusMessage q message => exact absent_update h _ _ ans
  | restart => exact absurd hpk (by simp [Event.pk?])

end Share

namespace Reference

/-- **One event** other than their own `/start` keeps an absent friend absent. -/
theorem absent_next (env : Env) {r : State MySql} {pk : Pk} (h : (r.share pk.hex).Absent)
    {i : Input} (hstart : ¬ i.1.Starts pk) : ((next env r i).share pk.hex).Absent := by
  by_cases hpk : i.1.pk? = some pk
  · obtain ⟨e, ans⟩ := i
    rw [(next_actsOn env r ans hpk).own]
    exact Share.absent_step h hpk hstart _ ans
  · rcases next_share_other env r hpk with hsame | hleave
    · rw [hsame]
      exact h
    · rw [hleave]
      exact ⟨h.1, rfl⟩

/-- An answered `/stop` leaves its sender absent. -/
theorem absent_of_stop (env : Env) (r : State MySql) (pk : Pk) {msg : Message} {param text : Bytes}
    {ans : Answers} (hdisp : msg.dispatch = some (.stop, param))
    (hreply : reply env r pk msg ans = some text) :
    ((next env r (.message pk msg, ans)).share pk.hex).Absent := by
  have hdone := executes_of_reply_stop env r pk hdisp hreply
  have hpk : (Event.message pk msg).pk? = some pk := rfl
  rw [(next_actsOn env r ans hpk).own]
  simp only [Share.step, hdisp, Share.runCmd, Share.stop, Share.Absent, hdone.1, if_true, and_self]

end Reference

/-- **Opt-out.** After any run, if a `/stop` of `pk` is answered, then as long as `pk`
sends no `/start` with a parameter, whatever else happens and whichever SQL
calls throw, `pk` has no entry and `random_member` draws no member of `pk`. -/
theorem opt_out (env : Env) {db : MySql} {tox : Tox} {before later : List Input}
    {s₀ s₁ : State MySql} {os₀ : List Output} {o : Output} {pk : Pk} {msg : Message}
    {param : Bytes} {ans : Answers}
    (hbefore : (Bot.machine MySql.driver env).run (Bot.init db tox) before = some (s₀, os₀))
    (hdisp : msg.dispatch = some (.stop, param))
    (hstop : Bot.step MySql.driver env s₀ (.message pk msg, ans) = some (s₁, o))
    (hanswer : o.reply = some (expandNewlines env.conf.descStop))
    (hlater : ∀ i ∈ later, ¬ i.1.Starts pk) :
    ∃ s os, (Bot.machine MySql.driver env).run s₁ later = some (s, os) ∧
      pk.hex ∉ s.memberMgr.onlineMember ∧
      ∀ requester rand a m, s.memberMgr.randomMember requester rand = some a →
        s.memberMgr.heap.read a = some m → m.pk ≠ pk.hex := by
  obtain ⟨r₀, -, href₀⟩ := reachable_refines MySql.driver env hbefore
  obtain ⟨href₁, rfl⟩ := href₀.of_step hstop
  have habsent := Reference.absent_of_stop env r₀ pk hdisp hanswer
  obtain ⟨s, os, r, hrun, href, habs⟩ :=
    Refines.run_invariant env (fun r => (r.share pk.hex).Absent) (fun _ i => ¬ i.1.Starts pk)
      (fun _ _ _ _ habs hstart => Reference.absent_next env habs hstart) later href₁ habsent
      (StepMachine.along_of_forall hlater s₁)
  have hnot : pk.hex ∉ s.memberMgr.onlineMember := by
    rw [href.mem_iff]
    exact OrderedMap.not_mem_of_get habs.2
  refine ⟨s, os, hrun, hnot, fun requester rand a m hrand hread hpk => hnot ?_⟩
  obtain ⟨k, m', -, hk, hread', hpk'⟩ := MemberMgr.randomMember_some href.owned hrand
  rw [hread] at hread'
  obtain rfl := Option.some.inj hread'
  rw [← hpk, hpk']
  exact OrderedMap.mem_of_get hk

/-- A friend starts, stops, reconnects and changes their name. -/
theorem opt_out_reconnect :
    ∃ s₁ o, (Bot.machine MySql.driver Env.sample).run
        (Bot.init (MySql.holding Table.empty) Tox.blank)
        [(.message Pk.first ⟨bytes "/start A1", by decide⟩, Answers.plain),
          (.message Pk.first ⟨bytes "/stop", by decide⟩, Answers.plain)] = some (s₁, o) ∧
      ∃ s os, (Bot.machine MySql.driver Env.sample).run s₁
          [(.connectionStatus Pk.first .none, Answers.plain),
            (.connectionStatus Pk.first .tcp, Answers.plain),
            (.name Pk.first (bytes "x"), Answers.plain)] = some (s, os) ∧
        Pk.first.hex ∉ s.memberMgr.onlineMember ∧
        ∀ requester rand a m, s.memberMgr.randomMember requester rand = some a →
          s.memberMgr.heap.read a = some m → m.pk ≠ Pk.first.hex := by
  refine ⟨_, _, rfl, ?_⟩
  have hbefore : (Bot.machine MySql.driver Env.sample).run
      (Bot.init (MySql.holding Table.empty) Tox.blank)
      [(.message Pk.first ⟨bytes "/start A1", by decide⟩, Answers.plain)] = some (_, _) := rfl
  have hdisp : Message.dispatch ⟨bytes "/stop", by decide⟩ = some (.stop, []) := by decide
  exact opt_out Env.sample hbefore hdisp rfl rfl (by simp [Event.Starts])

end FindFriendBot
