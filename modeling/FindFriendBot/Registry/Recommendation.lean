import FindFriendBot.Registry.Simulation

/-!
# FindFriendBot — what `/get` recommends

`random_member` over an owned registry: it misses nobody but the requester,
and every other entry is drawn for some value of `rand()`.

* `randomMember_eq_none_iff` — null exactly when nobody else is registered.
* `randomMember_some`        — otherwise a registered object of another key.
* `randomMember_surjective`  — any of them, if `rand()` reaches that far.
* `recommendation`           — all of it, in every reachable state.
-/

namespace FindFriendBot

namespace MemberMgr

theorem randomMember_eq_none_iff {mgr : MemberMgr} (h : mgr.Owned) (pk : Bytes) (rand : Nat) :
    mgr.randomMember pk rand = none ↔ ∀ k ∈ mgr.onlineMember, k = pk := by
  rcases randomMember_cases h pk rand with ⟨hempty, hnone⟩ | ⟨k, a, m, -, hsome, hne, hk, -, -⟩
  · refine ⟨?_, fun _ => hnone⟩
    intro _ k hk
    -- the requester's is the only key left out
    by_cases heq : pk = k
    · exact heq.symm
    · have hget : (mgr.onlineMember.erase pk)[k]? = mgr.onlineMember[k]? := by
        rw [OrderedMap.get_erase, if_neg heq]
      rw [hempty, Std.ExtTreeMap.getElem?_empty] at hget
      exact absurd hk (OrderedMap.not_mem_of_get hget.symm)
  · have hin : k ∈ mgr.onlineMember := OrderedMap.mem_of_get hk
    refine ⟨?_, fun hall => absurd (hall k hin) hne⟩
    intro hnone
    rw [hnone] at hsome
    exact absurd hsome (by simp)

theorem randomMember_some {mgr : MemberMgr} (h : mgr.Owned) {pk : Bytes} {rand a : Nat}
    (hrand : mgr.randomMember pk rand = some a) :
    ∃ k m, k ≠ pk ∧ mgr.onlineMember[k]? = some (some a) ∧ mgr.heap.read a = some m ∧
      m.pk = k := by
  rcases randomMember_cases h pk rand with ⟨-, hnone⟩ | ⟨k, b, m, -, hsome, hne, hk, hread, hpk⟩
  · rw [hnone] at hrand
    exact absurd hrand (by simp)
  · rw [hsome] at hrand
    obtain rfl := Option.some.inj hrand
    exact ⟨k, m, hne, hk, hread, hpk⟩

/-- The value of `rand()` is the position of the entry in key order. -/
theorem randomMember_surjective {mgr : MemberMgr} (h : mgr.Owned) {pk k : Bytes} {p : Ptr}
    {randMax : Nat} (hsize : (mgr.onlineMember.erase pk).size ≤ randMax + 1) (hne : k ≠ pk)
    (hk : mgr.onlineMember[k]? = some p) :
    ∃ rand ≤ randMax, mgr.randomMember pk rand = p := by
  have hget : (mgr.onlineMember.erase pk)[k]? = some p := by
    rw [OrderedMap.get_erase, if_neg (Ne.symm hne), hk]
  have hmem : (k, p) ∈ (mgr.onlineMember.erase pk).toList :=
    Std.ExtTreeMap.mem_toList_iff_getElem?_eq_some.mpr hget
  -- the position of k among the others is the rand() that draws it
  obtain ⟨i, hi⟩ := List.getElem?_of_mem hmem
  have hlt : i < (mgr.onlineMember.erase pk).size := by
    have hlt := (List.getElem?_eq_some_iff.mp hi).1
    rw [Std.ExtTreeMap.length_toList] at hlt
    exact hlt
  refine ⟨i, by omega, ?_⟩
  rcases randomMember_cases h pk i with ⟨hempty, -⟩ | ⟨k', a, m, hidx, hsome, -, -, -, -⟩
  · rw [hempty, Std.ExtTreeMap.getElem?_empty] at hget
    exact absurd hget (by simp)
  · rw [Nat.mod_eq_of_lt hlt, hi, Option.some.injEq, Prod.mk.injEq] at hidx
    rw [hsome, hidx.2]

end MemberMgr

/-- **What `/get` recommends**, in every reachable state: `random_member(pk)` is null
exactly when no other key is registered, else a registered object of another
key, and for a `rand()` that can reach them each such object is drawn. `/get`
itself leaves the state as it is. -/
theorem recommendation {σ : Type} (D : Driver σ) (env : Env) (db : σ) (tox : Tox)
    (is : List Input) :
    ∃ s os, (Bot.machine D env).run (Bot.init db tox) is = some (s, os) ∧
      ∀ pk : Bytes,
        (∀ rand, s.memberMgr.randomMember pk rand = none ↔
          ∀ k ∈ s.memberMgr.onlineMember, k = pk) ∧
        (∀ rand a, s.memberMgr.randomMember pk rand = some a →
          ∃ k m, k ≠ pk ∧ s.memberMgr.onlineMember[k]? = some (some a) ∧
            s.memberMgr.heap.read a = some m ∧ m.pk = k) ∧
        (∀ randMax, (s.memberMgr.onlineMember.erase pk).size ≤ randMax + 1 →
          ∀ (k : Bytes) p, k ≠ pk → s.memberMgr.onlineMember[k]? = some p →
            ∃ rand ≤ randMax, s.memberMgr.randomMember pk rand = p) ∧
        ∀ (requester : Pk) ans, ∃ text,
          Assisant.cmdGet env s requester ans = some (s, text, true) := by
  obtain ⟨s, r, os, hrun, -, href⟩ := run_sim D env is (refines_init db tox)
  have h := href.owned
  refine ⟨s, os, hrun, fun pk => ⟨MemberMgr.randomMember_eq_none_iff h pk,
    fun rand a => MemberMgr.randomMember_some h,
    fun randMax hsize k p => MemberMgr.randomMember_surjective h hsize, fun requester ans => ?_⟩⟩
  obtain ⟨hget, -⟩ := cmdGet_sim env href requester ans
  -- /get is always answered
  have htrue : (Reference.cmdGet env r requester ans).2.2 = true := by
    unfold Reference.cmdGet
    split <;> rfl
  exact ⟨(Reference.cmdGet env r requester ans).2.1, by rw [hget, ← htrue]⟩

end FindFriendBot
