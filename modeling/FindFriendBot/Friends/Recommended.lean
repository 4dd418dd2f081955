import FindFriendBot.Friends.Acknowledgement
import FindFriendBot.Friends.Agreement
import FindFriendBot.Friends.Membership
import FindFriendBot.Lib.ModuloDraw
import FindFriendBot.Registry.Recommendation

/-!
# FindFriendBot — what `/get` shows

Over a run with a working database, and as long as cache and table agree, the
answer to `/get` is the row of another friend who is connected, read from the
cache and yet the row as the table has it at that moment; and if there are such
friends, each of them may be shown, one about as often as another.

* `recommended_step` — one `/get`.
* `recommended`      — every run.
* `fair_draw`        — how often each member is drawn, in every reachable state.
-/

namespace FindFriendBot

/-- The text of a row in an answer to `/get`. -/
def Env.rowText (env : Env) (row : Row) (text : Bytes) : Prop :=
  env.format env.conf.descGet [row.nickName, row.bio, row.signature, row.tokId] = some text

/-- Another friend who is connected and has a row. -/
structure Recommendable (s : State MySql) (pk other : Pk) (row : Row) : Prop where
  connected : other ∈ s.tox.connected
  ne : other ≠ pk
  row : s.db.table.rows[other.hex]? = some row

/-- The answer shows the row of a friend that can be recommended, or says that there is none;
with another `rand()` it would have shown any other such friend. -/
structure Recommends (env : Env) (s : State MySql) (pk : Pk) (msg : Message) (ans : Answers)
    (reply : Option Bytes) : Prop where
  shown : (∃ other row text, Recommendable s pk other row ∧ env.rowText row text ∧
      reply = some (expandNewlines text)) ∨
    (∀ other row, ¬ Recommendable s pk other row) ∧
      reply = some (expandNewlines env.conf.descGetNone)
  any : ∀ other row, Recommendable s pk other row → ∃ rand text s' o,
    Bot.step MySql.driver env s (.message pk msg, { ans with rand := rand }) = some (s', o) ∧
      env.rowText row text ∧ o.reply = some (expandNewlines text)

/-- Every `/get` is answered so. -/
def RecommendsIfAsked (env : Env) (s : State MySql) (i : Input) (_ : State MySql) (o : Output) :
    Prop :=
  match i.1 with
  | .message pk msg => ∀ param, msg.dispatch = some (.get, param) →
      Recommends env s pk msg i.2 o.reply
  | _ => True

namespace Reference

-- ---------------------------------------------------------------------------
-- Drawing
-- ---------------------------------------------------------------------------

theorem randomMember_eq_draw (registry : Std.ExtTreeMap Bytes Member) (pk : Bytes) (rand : Nat) :
    randomMember registry pk rand =
      (ModuloDraw.draw (registry.erase pk).toList rand).map Prod.snd := by
  rw [randomMember, ModuloDraw.draw, Std.ExtTreeMap.length_toList]

theorem mem_others_iff {registry : Std.ExtTreeMap Bytes Member} {pk k : Bytes} {m : Member} :
    (k, m) ∈ (registry.erase pk).toList ↔ k ≠ pk ∧ registry[k]? = some m := by
  rw [Std.ExtTreeMap.mem_toList_iff_getElem?_eq_some, OrderedMap.get_erase]
  by_cases hk : pk = k
  · simp [hk]
  · simp [hk, Ne.symm hk]

theorem randomMember_cases (registry : Std.ExtTreeMap Bytes Member) (pk : Bytes) (rand : Nat) :
    (∃ k m, randomMember registry pk rand = some m ∧ k ≠ pk ∧ registry[k]? = some m) ∨
      randomMember registry pk rand = none ∧ ∀ k ≠ pk, registry[k]? = none := by
  rw [randomMember_eq_draw]
  cases hdraw : ModuloDraw.draw (registry.erase pk).toList rand with
  | some km =>
    obtain ⟨k, m⟩ := km
    obtain ⟨hne, hk⟩ := mem_others_iff.mp (ModuloDraw.mem_of_draw hdraw)
    exact Or.inl ⟨k, m, rfl, hne, hk⟩
  | none =>
    refine Or.inr ⟨rfl, fun k hne => ?_⟩
    have hempty := (ModuloDraw.draw_eq_none_iff rand).mp hdraw
    cases hk : registry[k]? with
    | none => rfl
    | some m =>
      have hin := mem_others_iff.mpr ⟨hne, hk⟩
      rw [hempty] at hin
      exact absurd hin List.not_mem_nil

theorem exists_randomMember {registry : Std.ExtTreeMap Bytes Member} {pk k : Bytes} {m : Member}
    (hne : k ≠ pk) (hk : registry[k]? = some m) :
    ∃ rand, randomMember registry pk rand = some m := by
  obtain ⟨rand, -, hdraw⟩ := ModuloDraw.exists_draw (mem_others_iff.mpr ⟨hne, hk⟩)
  exact ⟨rand, by rw [randomMember_eq_draw, hdraw, Option.map_some]⟩

/-- The reply to `/get`. -/
theorem reply_get (env : Env) (r : State MySql) (pk : Pk) {msg : Message} {param : Bytes}
    (hdisp : msg.dispatch = some (.get, param)) (ans : Answers) :
    reply env r pk msg ans = some (expandNewlines
      (match randomMember r.registry pk.hex ans.rand with
        | none => env.conf.descGetNone
        | some m => env.getText m)) := by
  rw [reply_eq env r pk hdisp, runCmd, cmdGet]
  cases hdraw : randomMember r.registry pk.hex ans.rand with
  | none => simp
  | some m => simp

end Reference

namespace MemberMgr

/-- `random_member` draws from the entries of the others. -/
theorem randomMember_eq_iff {mgr : MemberMgr} (h : mgr.Owned) {pk k : Bytes} {p : Ptr}
    (hk : mgr.onlineMember[k]? = some p) (rand : Nat) :
    mgr.randomMember pk rand = p ↔
      ModuloDraw.draw (mgr.onlineMember.erase pk).toList rand = some (k, p) := by
  rw [ModuloDraw.draw, Std.ExtTreeMap.length_toList]
  obtain ⟨a, -, rfl, -, -⟩ := h.map_read k p hk
  rcases randomMember_cases h pk rand with
    ⟨hempty, hnone⟩ | ⟨k', b, m, hidx, hsome, -, hk', -, -⟩
  · rw [hempty, hnone]
    simp
  · rw [hidx, hsome]
    constructor
    · intro hab
      obtain rfl := Option.some.inj hab
      rw [h.map_inj hk' hk]
    · intro heq
      rw [(Prod.mk.inj (Option.some.inj heq)).2]

/-- Of the first `N` values of `rand()` an equal share draws a member, or one more. -/
theorem count_randomMember {mgr : MemberMgr} (h : mgr.Owned) {pk k : Bytes} {p : Ptr}
    (hne : k ≠ pk) (hk : mgr.onlineMember[k]? = some p) (N : Nat) :
    N.count (fun rand => mgr.randomMember pk rand = p) =
        N / (mgr.onlineMember.erase pk).size ∨
      N.count (fun rand => mgr.randomMember pk rand = p) =
        N / (mgr.onlineMember.erase pk).size + 1 := by
  have hmem : (k, p) ∈ (mgr.onlineMember.erase pk).toList := by
    rw [Std.ExtTreeMap.mem_toList_iff_getElem?_eq_some, OrderedMap.get_erase,
      if_neg (Ne.symm hne), hk]
  have hnodup : (mgr.onlineMember.erase pk).toList.Nodup := by
    refine List.Nodup.of_map Prod.fst ?_
    rw [Std.ExtTreeMap.map_fst_toList_eq_keys]
    exact Std.ExtTreeMap.nodup_keys
  have hfair := ModuloDraw.count_draw hnodup hmem N
  rw [Std.ExtTreeMap.length_toList] at hfair
  simp only [randomMember_eq_iff h hk]
  exact hfair

end MemberMgr

-- ---------------------------------------------------------------------------
-- One `/get`
-- ---------------------------------------------------------------------------

variable {s : State MySql} {r : Reference.State MySql}

/-- Whom the registry has besides the requester, where it is right and agrees with the table. -/
theorem recommendable_iff (href : Refines s r) (hmembers : r.Members) (hagrees : CacheAgrees s)
    (pk other : Pk) (row : Row) :
    Recommendable s pk other row ↔ other ≠ pk ∧ s.db.table.rows[other.hex]? = some row ∧
      ∃ m, r.registry[other.hex]? = some m ∧ m.Matches row := by
  constructor
  · rintro ⟨hconn, hne, hrow⟩
    have hin : other.hex ∈ r.registry := by
      refine (hmembers.mem_iff other.hex).mpr ⟨other, href.tox ▸ hconn, rfl, ?_⟩
      rw [← href.db]
      exact OrderedMap.mem_of_get hrow
    refine ⟨hne, hrow, r.registry[other.hex], Std.ExtTreeMap.getElem?_eq_some_getElem hin, ?_⟩
    obtain ⟨row', hrow', hm⟩ := hagrees other.hex _
      ((href.memberAt other.hex).trans (Std.ExtTreeMap.getElem?_eq_some_getElem hin))
    rw [hrow, Option.some.injEq] at hrow'
    exact hrow' ▸ hm
  · rintro ⟨hne, hrow, m, hm, -⟩
    obtain ⟨p, hconn, hp, -⟩ := (hmembers.mem_iff other.hex).mp (OrderedMap.mem_of_get hm)
    obtain rfl := Pk.hex_inj.mp hp
    exact ⟨href.tox ▸ hconn, hne, hrow⟩

theorem Member.Matches.rowText {m : Member} {row : Row} (h : m.Matches row) (env : Env) :
    env.rowText row (env.getText m) := by
  rw [Env.rowText, ← h.nickName, ← h.bio, ← h.signature, ← h.tokId]
  exact env.format_get m

/-- A registered member is one that can be recommended. -/
theorem recommendable_of_registered (href : Refines s r) (hmembers : r.Members)
    (hagrees : CacheAgrees s) (pk : Pk) {k : Bytes} {m : Member} (hne : k ≠ pk.hex)
    (hk : r.registry[k]? = some m) :
    ∃ other row, Recommendable s pk other row ∧ m.Matches row := by
  obtain ⟨other, rfl⟩ := hmembers.keys k (OrderedMap.mem_of_get hk)
  obtain ⟨row, hrow, hm⟩ := hagrees other.hex m ((href.memberAt other.hex).trans hk)
  refine ⟨other, row, ?_, hm⟩
  exact (recommendable_iff href hmembers hagrees pk other row).mpr
    ⟨fun heq => hne (congrArg Pk.hex heq), hrow, m, hk, hm⟩

/-- **One `/get`.** -/
theorem recommended_step (env : Env) (href : Refines s r) (hmembers : r.Members)
    (hagrees : CacheAgrees s) (pk : Pk) {msg : Message} {param : Bytes}
    (hdisp : msg.dispatch = some (.get, param)) (ans : Answers) :
    Recommends env s pk msg ans (Reference.reply env r pk msg ans) where
  shown := by
    rw [Reference.reply_get env r pk hdisp]
    rcases Reference.randomMember_cases r.registry pk.hex ans.rand with
      ⟨k, m, hdraw, hne, hk⟩ | ⟨hdraw, hnone⟩
    · obtain ⟨other, row, hother, hm⟩ :=
        recommendable_of_registered href hmembers hagrees pk hne hk
      refine Or.inl ⟨other, row, env.getText m, hother, hm.rowText env, ?_⟩
      rw [hdraw]
    · refine Or.inr ⟨?_, by rw [hdraw]⟩
      intro other row hother
      obtain ⟨hne, -, m, hm, -⟩ :=
        (recommendable_iff href hmembers hagrees pk other row).mp hother
      rw [hnone other.hex fun heq => hne (Pk.hex_inj.mp heq)] at hm
      exact absurd hm (by simp)
  any := by
    intro other row hother
    obtain ⟨hne, -, m, hm, hmatches⟩ :=
      (recommendable_iff href hmembers hagrees pk other row).mp hother
    obtain ⟨rand, hdraw⟩ :=
      Reference.exists_randomMember (fun heq => hne (Pk.hex_inj.mp heq)) hm
    obtain ⟨s', hstep, -⟩ := href.step env (.message pk msg, { ans with rand := rand })
    refine ⟨rand, env.getText m, s', _, hstep, hmatches.rowText env, ?_⟩
    refine (Reference.reply_get env r pk hdisp { ans with rand := rand }).trans ?_
    rw [hdraw]

-- ---------------------------------------------------------------------------
-- Runs
-- ---------------------------------------------------------------------------

/-- The event is delivered as promised, its SQL succeeds, and it writes the same profile to the
table and to the cache. -/
def Agreeable (s : State MySql) (i : Input) : Prop :=
  i.2.sql = none ∧ Delivered s.tox i.1 ∧ KeepsAgreement s i

/-- **Recommendations.** Over every run of such events, `/get` shows the current row of another
connected friend, and any of them for some `rand()`, or says that there is none. -/
theorem recommended (env : Env) (t : Table) (name statusMessage : Pk → Bytes) {is : List Input}
    (hgood : (Bot.machine MySql.driver env).Along Agreeable
      (Bot.init (MySql.holding t) ⟨∅, name, statusMessage⟩) is) :
    (Bot.machine MySql.driver env).EachStep (RecommendsIfAsked env)
      (Bot.init (MySql.holding t) ⟨∅, name, statusMessage⟩) is := by
  refine StepMachine.eachStep_of_along
    (fun s => ∃ r, Refines s r ∧ r.Members ∧ CacheAgrees s) ?_ is _
    ⟨_, refines_init _ _, Reference.members_init t name statusMessage, cacheAgrees_init _ _⟩ hgood
  rintro s ⟨e, ans⟩ ⟨r, href, hmembers, hagrees⟩ ⟨hsql, hdel, hkeeps⟩
  obtain ⟨s', hstep, href'⟩ := href.step env (e, ans)
  refine ⟨s', _, hstep, ?_, _, href', ?_, ?_⟩
  · cases e with
    | message pk msg =>
      intro param hdisp
      exact recommended_step env href hmembers hagrees pk hdisp ans
    | _ => trivial
  · exact Reference.members_step env hmembers hsql (href.tox ▸ hdel)
  · exact (cacheAgrees_step_iff env href hagrees hsql hstep).mpr hkeeps

/-- A friend with a row comes online, and another asks. -/
theorem recommended_two :
    (Bot.machine MySql.driver Env.sample).EachStep (RecommendsIfAsked Env.sample)
      (Bot.init (MySql.holding (Table.single Pk.first [] [] [] []))
        ⟨∅, fun _ => [], fun _ => []⟩)
      [(.connectionStatus Pk.first .tcp, Answers.plain),
        (.connectionStatus Pk.second .tcp, Answers.plain),
        (.message Pk.second ⟨bytes "/get", by decide⟩, Answers.plain)] := by
  have hdisp : Message.dispatch ⟨bytes "/get", by decide⟩ = some (.get, []) := by decide
  have hget : ∀ s, KeepsAgreement s
      (.message Pk.second ⟨bytes "/get", by decide⟩, Answers.plain) := by
    intro s
    simp only [KeepsAgreement, hdisp, Share.CommandAgrees]
  refine recommended Env.sample _ _ _ ⟨⟨rfl, trivial, trivial⟩, fun s₁ o₁ h₁ => ?_⟩
  obtain rfl := congrArg Prod.fst (Option.some.inj h₁)
  refine ⟨⟨rfl, trivial, trivial⟩, fun s₂ o₂ h₂ => ?_⟩
  obtain rfl := congrArg Prod.fst (Option.some.inj h₂)
  exact ⟨⟨rfl, by decide, hget _⟩, fun _ _ _ => trivial⟩

-- ---------------------------------------------------------------------------
-- Fairness
-- ---------------------------------------------------------------------------

/-- **A fair draw**, in every reachable state: when `rand()` takes each of `N` values once,
`random_member` draws every registered member but the requester's own equally often, up to one
draw. -/
theorem fair_draw {σ : Type} (D : Driver σ) (env : Env) (db : σ) (tox : Tox) (is : List Input) :
    ∃ s os, (Bot.machine D env).run (Bot.init db tox) is = some (s, os) ∧
      ∀ (pk k : Bytes) p, k ≠ pk → s.memberMgr.onlineMember[k]? = some p → ∀ N,
        N.count (fun rand => s.memberMgr.randomMember pk rand = p) =
            N / (s.memberMgr.onlineMember.erase pk).size ∨
          N.count (fun rand => s.memberMgr.randomMember pk rand = p) =
            N / (s.memberMgr.onlineMember.erase pk).size + 1 := by
  obtain ⟨s, r, os, hrun, -, href⟩ := run_sim D env is (refines_init db tox)
  exact ⟨s, os, hrun, fun pk k p => MemberMgr.count_randomMember href.owned⟩

end FindFriendBot
