import FindFriendBot.Friends.Share
import FindFriendBot.Registry.Teardown

/-!
# FindFriendBot — lost objects

`add_member` keeps an existing entry and drops the pointer it was given, so a
member built for a key that is taken is held by nobody and never deleted. The
two events that can do so are a non-`NONE` status of a friend who is already
registered and an accepted `/start` of one (`Collides`). They are the only ones:
every live object is accounted for throughout a run exactly if no event of the
run collides.

* `accounted_iff`    — an owned registry is accounted for iff nothing is lost.
* `accounted_step`   — one event.
* `accounted_throughout_iff` — every run.
-/

namespace FindFriendBot

namespace MemberMgr

/-- Every live object is held by exactly one of the map and the pool; so there are
at most as many as entries and pooled pointers. -/
structure Accounted (mgr : MemberMgr) : Prop where
  held_once : ∀ a, mgr.heap.Live a →
    Xor (∃ k : Bytes, mgr.onlineMember[k]? = some (some a)) (some a ∈ mgr.freeList)
  count : mgr.heap.cells.size ≤ mgr.onlineMember.size + mgr.freeList.length

/-- Distinct live objects have distinct holders. -/
theorem size_le_of_held {mgr : MemberMgr} (h : ∀ a, mgr.heap.Live a → mgr.Held a) :
    mgr.heap.cells.size ≤ mgr.onlineMember.size + mgr.freeList.length := by
  have hnodup : (mgr.heap.cells.keys.map some).Nodup :=
    List.Nodup.map (Option.some_injective Nat) Std.ExtTreeMap.nodup_keys
  have hsub : mgr.heap.cells.keys.map some ⊆
      mgr.onlineMember.toList.map Prod.snd ++ mgr.freeList := by
    intro p hp
    obtain ⟨a, ha, rfl⟩ := List.mem_map.mp hp
    rw [List.mem_append, List.mem_map]
    rcases h a (Std.ExtTreeMap.mem_keys.mp ha) with ⟨k, hk⟩ | hpool
    · exact Or.inl ⟨(k, some a), Std.ExtTreeMap.mem_toList_iff_getElem?_eq_some.mpr hk, rfl⟩
    · exact Or.inr hpool
  have hlen := (List.subperm_of_subset hnodup hsub).length_le
  rw [List.length_map, List.length_append, List.length_map, Std.ExtTreeMap.length_keys,
    Std.ExtTreeMap.length_toList] at hlen
  exact hlen

theorem accounted_iff {mgr : MemberMgr} (h : mgr.Owned) : mgr.Accounted ↔ mgr.lost = ∅ := by
  constructor
  · intro hacc
    rw [Set.eq_empty_iff_forall_notMem]
    intro a ha
    obtain ⟨hlive, hmap, hpool⟩ := ha
    rcases hacc.held_once a hlive with ⟨⟨k, hk⟩, -⟩ | ⟨hin, -⟩
    · exact hmap k hk
    · exact hpool hin
  · intro hlost
    have hheld : ∀ a, mgr.heap.Live a → mgr.Held a := by
      intro a hlive
      by_contra hno
      have ha : a ∈ mgr.lost :=
        ⟨hlive, fun k hk => hno (Or.inl ⟨k, hk⟩), fun hin => hno (Or.inr hin)⟩
      rw [hlost] at ha
      exact ha
    refine ⟨?_, size_le_of_held hheld⟩
    intro a hlive
    rcases hheld a hlive with ⟨k, hk⟩ | hpool
    · exact Or.inl ⟨⟨k, hk⟩, h.disjoint k _ hk⟩
    · exact Or.inr ⟨hpool, fun hex => hex.elim fun k hk => h.disjoint k _ hk hpool⟩

end MemberMgr

/-- The event builds a member whose key is taken. `find_friend` hands one on if
the friend has a row and the SQL calls get as far as `next()`, and its key is
`""` if the first `getString` throws; `/start` does if it is given a token and
both queries answer. -/
def Collides (s : State MySql) (i : Input) : Prop :=
  match i.1 with
  | .connectionStatus pk status =>
    status ≠ .none ∧ pk.hex ∈ s.db.table.rows ∧ Delivers i.2.sql ∧
      (if i.2.sql = some 4 then [] else pk.hex) ∈ s.memberMgr.onlineMember
  | .message pk msg =>
    pk.hex ∈ s.memberMgr.onlineMember ∧ (s.tox.profile pk).queries i.2 ≠ none ∧
      ∃ tokId, msg.dispatch = some (.start, tokId) ∧ tokId ≠ []
  | _ => False

theorem clash_iff {s : State MySql} {r : Reference.State MySql} (h : Refines s r) (e : Event)
    (ans : Answers) :
    Reference.Clash MySql.driver { r with db := MySql.driver.begin ans.sql r.db } e ans ↔
      Collides s (e, ans) := by
  cases e with
  | connectionStatus pk status =>
    have hfound := (Reference.findFriend_spec pk (MySql.driver.begin ans.sql r.db)).1
    have hsql : (MySql.driver.begin ans.sql r.db).throwAt = ans.sql := rfl
    have htable : (MySql.driver.begin ans.sql r.db).table = s.db.table := by rw [h.db]; rfl
    rw [hsql, htable] at hfound
    simp only [Reference.Clash, Reference.built, Collides, h.mem_iff]
    by_cases hst : status = .none
    · simp [hst]
    · by_cases hd : Delivers ans.sql
      -- find_friend makes a member only for a row that was delivered
      · cases hrow : s.db.table.rows[pk.hex]? with
        | none =>
          have hnot : pk.hex ∉ s.db.table.rows := OrderedMap.not_mem_of_get hrow
          rw [if_pos hd, hrow, Option.map_none] at hfound
          simp [hst, hfound, hnot]
        | some row =>
          have hin : pk.hex ∈ s.db.table.rows := OrderedMap.mem_of_get hrow
          rw [if_pos hd, hrow, Option.map_some] at hfound
          simp [hst, hfound, hin, hd, MemberModel.fetched_key]
      · rw [if_neg hd] at hfound
        simp [hst, hfound, hd]
  | message pk msg =>
    obtain ⟨cmd, param, hdisp⟩ := msg.dispatch_isSome
    simp only [Reference.Clash, Reference.built, Collides, h.mem_iff, hdisp, h.tox]
    -- add_member is called whatever add_friend returned
    by_cases hcmd : cmd = .start
    · subst hcmd
      by_cases hparam : param = []
      · simp [hparam]
      · simp only [hparam, if_false]
        unfold getName getStatusMessage Profile.queries Tox.profile
        cases queryBuffer ans.nameQuery (r.tox.name pk) with
        | none => simp
        | some name =>
          cases queryBuffer ans.statusMessageQuery (r.tox.statusMessage pk) with
          | none => simp
          | some statusMessage =>
            simp [hparam, Reference.startMember, Assisant.startSetters, Member.setPk]
    -- the other commands make no member
    · simp [hcmd]
  | name pk name => simp [Reference.Clash, Reference.built, Collides]
  | statusMessage pk message => simp [Reference.Clash, Reference.built, Collides]
  | restart => simp [Reference.Clash, Reference.built, Collides]

/-- **One event** keeps the objects accounted for exactly if it does not collide. -/
theorem accounted_step (env : Env) {s s' : State MySql} {r : Reference.State MySql} {i : Input}
    {o : Output} (h : Refines s r) (hacc : s.memberMgr.Accounted)
    (hstep : Bot.step MySql.driver env s i = some (s', o)) :
    s'.memberMgr.Accounted ↔ ¬ Collides s i := by
  obtain ⟨s₁, hstep₁, href, hlost⟩ := step_sim MySql.driver env h i
  rw [hstep, Option.some.injEq, Prod.mk.injEq] at hstep₁
  obtain ⟨rfl, -⟩ := hstep₁
  rw [MemberMgr.accounted_iff href.owned, hlost ((MemberMgr.accounted_iff h.owned).mp hacc),
    clash_iff h]

theorem accounted_init (db : MySql) (tox : Tox) : (Bot.init db tox).memberMgr.Accounted :=
  (MemberMgr.accounted_iff MemberMgr.owned_init).mpr MemberMgr.lost_init

/-- **No member is lost** in a run exactly if no event of it collides. -/
theorem accounted_throughout_iff (env : Env) (db : MySql) (tox : Tox) (is : List Input) :
    (Bot.machine MySql.driver env).Throughout (fun s => s.memberMgr.Accounted)
        (Bot.init db tox) is ↔
      (Bot.machine MySql.driver env).Along (fun s i => ¬ Collides s i) (Bot.init db tox) is := by
  refine Refines.throughout_iff_along env (fun _ => True) ?_
    (accounted_init db tox) fun _ _ => trivial
  intro s r i s' o href hacc _ hstep
  exact accounted_step env href hacc hstep

/-- A friend with a row is reported as `TCP` and then as `UDP`: the second
`find_friend` builds a member that nobody holds. -/
theorem second_status_loses_member :
    ∃ s os, (Bot.machine MySql.driver Env.sample).run
        (Bot.init (MySql.holding (Table.single Pk.first [] [] [] [])) Tox.blank)
        [(.connectionStatus Pk.first .tcp, Answers.plain),
          (.connectionStatus Pk.first .udp, Answers.plain)] = some (s, os) ∧
      ¬ s.memberMgr.Accounted := by
  refine ⟨_, _, rfl, ?_⟩
  intro hacc
  exact absurd hacc.count (by decide)

end FindFriendBot
