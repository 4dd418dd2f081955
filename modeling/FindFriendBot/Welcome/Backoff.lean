import FindFriendBot.Welcome.Chains

/-!
# FindFriendBot — the limit of the retry interval

`event_timeout_cb` compares the interval in the buffer with `RESEND_TIME_MAX` and
doubles it afterwards, so an interval in the upper half of what is allowed arms a
timer past the limit. In a run the intervals are the powers of two, and the one
that goes wrong is the limit itself.

* `eventTimeoutCb_spec` — one call: the chain ends, or the interval doubles.
* `backoff_limit`       — when one call, and when a whole run, keeps the limit.
-/

namespace FindFriendBot

namespace Welcome

/-- The chain of the buffer `a` is over: it is freed and no timer is armed. -/
structure ChainEnds (s s' : State) (a : Nat) (x : Attempt) : Prop where
  armed : x.armed = none
  timers : s'.timers = s.timers
  freed : ¬ s'.heap.Live a

/-- The chain of the buffer `a` goes on with a timer of this interval. -/
structure Rearms (s s' : State) (a timeInterval : Nat) (x : Attempt) : Prop where
  armed : ∃ t, x.armed = some t ∧ t.timeInterval = timeInterval ∧ t.userData = some a ∧
    s'.timers = s.timers ++ [t]
  stored : s'.heap.read a = some timeInterval

/-- What a back-off with a limit does on the interval `v`. -/
def BacksOff (s s' : State) (a v : Nat) (x : Attempt) : Prop :=
  ChainEnds s s' a x ∨
    ∃ timeInterval, Rearms s s' a timeInterval x ∧ v < timeInterval ∧ timeInterval ≤ resendTimeMax

/-- Doubling the interval stays within the limit, or is not done any more. -/
def Doubles (v : Nat) : Prop := v ≤ resendTimeMax / 2 ∨ resendTimeMax < v

/-- A retry that fails does so on an interval that `Doubles`. -/
def DoublesNext (s : State) : Event × Bool → Prop
  | (.friendRequest _, _) => True
  | (.timeout _, true) => True
  | (.timeout position, false) =>
    ∀ t, s.timers[position]? = some t → ∀ v, s.heap.deref t.userData = some v → Doubles v

/-- No timer is armed with more than the limit. -/
def WithinLimit (s : State) : Prop := ∀ t ∈ s.timers, t.timeInterval ≤ resendTimeMax

variable {conf : Conf} {s : State}

theorem not_doubles_iff {v : Nat} :
    ¬ Doubles v ↔ resendTimeMax / 2 < v ∧ v ≤ resendTimeMax := by
  unfold Doubles
  omega

/-- **One call** on a live buffer. -/
theorem eventTimeoutCb_spec (conf : Conf) {a v : Nat} (hread : s.heap.read a = some v)
    (friendNumber : Nat) (ret : Bool) :
    ∃ s' x, eventTimeoutCb conf s friendNumber eventFriendAddTips (some a) ret = some (s', [x]) ∧
      ((ret = true ∨ resendTimeMax < v) ∧ ChainEnds s s' a x ∨
        ret = false ∧ v ≤ resendTimeMax ∧ Rearms s s' a (v * 2) x) := by
  have hlive : s.heap.Live a := ObjectHeap.live_of_read hread
  obtain ⟨heap, hdelete, -, -, hlives⟩ := ObjectHeap.delete_of_live hlive
  -- the buffer is gone after both ends
  have hfreed : ¬ heap.Live a := fun hl => ((hlives a).mp hl).1 rfl
  unfold eventTimeoutCb
  simp only [if_true, free, hdelete]
  cases ret with
  | true =>
    simp only [if_true]
    exact ⟨_, _, rfl, Or.inl ⟨Or.inl trivial, rfl, rfl, hfreed⟩⟩
  | false =>
    simp only [Bool.false_eq_true, if_false, reduceCtorEq, ObjectHeap.deref_some, hread]
    by_cases hmax : resendTimeMax < v
    -- past the limit before doubling
    · rw [if_pos hmax]
      exact ⟨_, _, rfl, Or.inl ⟨Or.inr hmax, rfl, rfl, hfreed⟩⟩
    · have hle : v ≤ resendTimeMax := Nat.le_of_not_lt hmax
      have hlimit : v ≤ 128 := hle
      -- twice at most 128 does not wrap
      have hdouble : v * 2 % 2 ^ 32 = v * 2 := by omega
      rw [if_neg hmax, hdouble, ObjectHeap.update_of_live hlive]
      refine ⟨_, _, rfl, Or.inr ⟨trivial, hle, ⟨_, rfl, rfl, rfl, rfl⟩, ?_⟩⟩
      show (s.heap.modify a fun _ => v * 2).read a = some (v * 2)
      rw [ObjectHeap.read_modify, if_pos rfl, hread, Option.map_some]

/-- **One call** backs off exactly where the interval doubles within the limit. -/
theorem backsOff_iff {a v : Nat} (hread : s.heap.read a = some v) (hpos : 0 < v)
    (friendNumber : Nat) (ret : Bool) :
    (∃ s' x, eventTimeoutCb conf s friendNumber eventFriendAddTips (some a) ret = some (s', [x]) ∧
        BacksOff s s' a v x) ↔ ret = true ∨ Doubles v := by
  obtain ⟨s', x, hcall, hspec⟩ := eventTimeoutCb_spec conf hread friendNumber ret
  -- the callback has one outcome
  have hunique : (∃ s₁ x₁, eventTimeoutCb conf s friendNumber eventFriendAddTips (some a) ret =
      some (s₁, [x₁]) ∧ BacksOff s s₁ a v x₁) ↔ BacksOff s s' a v x := by
    constructor
    · rintro ⟨s₁, x₁, hcall₁, hback⟩
      rw [hcall, Option.some.injEq, Prod.mk.injEq, List.singleton_inj] at hcall₁
      obtain ⟨rfl, rfl⟩ := hcall₁
      exact hback
    · exact fun hback => ⟨s', x, hcall, hback⟩
  rw [hunique]
  rcases hspec with ⟨hover, hends⟩ | ⟨hret, hle, hrearms⟩
  -- the chain ends as it should
  · refine iff_of_true (Or.inl hends) ?_
    exact hover.imp_right fun hmax => Or.inr hmax
  -- the doubled interval is within the limit
  · have hhalf : v * 2 ≤ resendTimeMax ↔ v ≤ resendTimeMax / 2 := by
      unfold resendTimeMax
      omega
    obtain ⟨t, harmed, htime, -, -⟩ := hrearms.armed
    constructor
    · rintro (hends | ⟨timeInterval, hrearms', -, hlimit⟩)
      · exact absurd (hends.armed.symm.trans harmed) (by simp)
      · have hsame : timeInterval = v * 2 :=
          Option.some.inj (hrearms'.stored.symm.trans hrearms.stored)
        exact Or.inr (Or.inl (hhalf.mp (hsame ▸ hlimit)))
    · rintro (htrue | hdoubles | hmax)
      · exact absurd (hret.symm.trans htrue) (by decide)
      · exact Or.inr ⟨v * 2, hrearms, by omega, hhalf.mpr hdoubles⟩
      · exact absurd hle (Nat.not_le_of_lt hmax)

-- ---------------------------------------------------------------------------
-- Whole runs
-- ---------------------------------------------------------------------------

/-- A timer goes off: the timers left and the one armed keep the limit. -/
theorem withinLimit_timeout {log : List Attempt} (h : Chained conf s log)
    (hwithin : WithinLimit s) {position : Nat} {t : TimerEvent}
    (ht : s.timers[position]? = some t) {ret : Bool} {s' : State} {o : List Attempt}
    (hstep : (machine conf).step s (.timeout position, ret) = some (s', o)) :
    WithinLimit s' ↔ DoublesNext s (.timeout position, ret) := by
  have hmem : t ∈ s.timers := List.mem_of_getElem? ht
  obtain ⟨htype, a, hua⟩ := h.armed t hmem
  obtain ⟨v, hread⟩ := ObjectHeap.live_iff.mp (h.live hmem hua)
  -- the timers that did not fire
  have hleft : ∀ t' ∈ s.timers.eraseIdx position, t'.timeInterval ≤ resendTimeMax :=
    fun t' ht' => hwithin t' (List.mem_of_mem_eraseIdx ht')
  have hnext : DoublesNext s (.timeout position, ret) ↔ ret = true ∨ Doubles v := by
    cases ret with
    | true => simp [DoublesNext]
    | false => simp [DoublesNext, ht, hua, hread]
  obtain ⟨s₁, x, hcall, hspec⟩ := eventTimeoutCb_spec conf
    (s := { s with timers := s.timers.eraseIdx position }) hread t.friendNumber ret
  simp only [machine, step, ht, htype, hua, hcall, Option.some.injEq, Prod.mk.injEq] at hstep
  obtain ⟨rfl, -⟩ := hstep
  rw [hnext]
  rcases hspec with ⟨hover, hends⟩ | ⟨hret, hle, hrearms⟩
  -- no timer was added
  · refine iff_of_true ?_ (hover.imp_right fun hmax => Or.inr hmax)
    intro t' ht'
    rw [hends.timers] at ht'
    exact hleft t' ht'
  · obtain ⟨t₁, -, htime, -, htimers⟩ := hrearms.armed
    -- all depends on the timer that was added
    have hsplit : WithinLimit s₁ ↔ v * 2 ≤ resendTimeMax := by
      unfold WithinLimit
      rw [htimers, ← htime]
      constructor
      · exact fun hall => hall t₁ (by simp)
      · intro hlimit t' ht'
        rcases List.mem_append.mp ht' with ht' | ht'
        · exact hleft t' ht'
        · exact List.mem_singleton.mp ht' ▸ hlimit
    rw [hsplit]
    unfold Doubles
    unfold resendTimeMax at hle ⊢
    simp only [hret, Bool.false_eq_true, false_or]
    omega

/-- **One callback** keeps the limit exactly where its retry, if it makes one that
fails, doubles within it. -/
theorem withinLimit_step (hchained : ∃ log, Chained conf s log) (hwithin : WithinLimit s)
    (i : Event × Bool) {s' : State} {o : List Attempt}
    (hstep : (machine conf).step s i = some (s', o)) :
    WithinLimit s' ↔ DoublesNext s i := by
  obtain ⟨log, h⟩ := hchained
  obtain ⟨e, ret⟩ := i
  cases e with
  | friendRequest friendNumber =>
    -- a request arms a timer with the base interval or none
    refine iff_of_true ?_ trivial
    cases ret with
    | true =>
      obtain ⟨rfl, -⟩ := Prod.mk.inj (Option.some.inj hstep)
      exact hwithin
    | false =>
      obtain ⟨rfl, -⟩ := Prod.mk.inj (Option.some.inj hstep)
      intro t ht
      rcases List.mem_append.mp ht with ht | ht
      · exact hwithin t ht
      · obtain rfl := List.mem_singleton.mp ht
        exact (by decide : resendTimeBase ≤ resendTimeMax)
  | timeout position =>
    cases ht : s.timers[position]? with
    | none =>
      simp only [machine, step, ht, Option.some.injEq, Prod.mk.injEq] at hstep
      obtain ⟨rfl, -⟩ := hstep
      refine iff_of_true hwithin ?_
      cases ret <;> simp [DoublesNext, ht]
    | some t => exact withinLimit_timeout h hwithin ht hstep

/-- **The limit of the retry interval**: on every positive value of 32 bits in the buffer
a call ends the chain or arms a longer interval within the limit exactly if its
send succeeds or the value `Doubles`; and a run, with any number of friend
requests, never arms more than the limit exactly if all its failed retries do so
on values that double. -/
theorem backoff_limit (conf : Conf) :
    (∀ (s : State) (friendNumber a v : Nat) (ret : Bool), 0 < v → v < 2 ^ 32 →
      s.heap.read a = some v →
      ((∃ s' x, eventTimeoutCb conf s friendNumber eventFriendAddTips (some a) ret =
          some (s', [x]) ∧ BacksOff s s' a v x) ↔ ret = true ∨ Doubles v)) ∧
      ∀ is : List (Event × Bool),
        (machine conf).Throughout WithinLimit init is ↔
          (machine conf).Along DoublesNext init is := by
  constructor
  · intro s friendNumber a v ret hpos _ hread
    exact backsOff_iff hread hpos friendNumber ret
  · intro is
    -- every state of a run is that of some log
    refine StepMachine.throughout_iff_along (fun s => ∃ log, Chained conf s log) (fun _ => True)
      ?_ ?_ is init ⟨[], chained_init conf⟩ ?_ fun _ _ => trivial
    · rintro s i ⟨log, h⟩ -
      obtain ⟨s', o, hstep, h'⟩ := chained_step h i
      exact ⟨s', o, hstep, log ++ o, h'⟩
    · intro s i s' o hchained hwithin _ hstep
      exact withinLimit_step hchained hwithin i hstep
    · exact fun t ht => absurd ht List.not_mem_nil

/-- A buffer that holds `v`, and no timers. -/
def State.holding (v : Nat) : State where
  heap := (ObjectHeap.empty.new v).2
  timers := []

/-- A call at half of the limit, and a run with one retry. -/
theorem backoff_limit_half :
    (∃ s' x, eventTimeoutCb Env.sample.conf (State.holding 64) 7 eventFriendAddTips (some 0)
        false = some (s', [x]) ∧ BacksOff (State.holding 64) s' 0 64 x) ∧
      (machine Env.sample.conf).Throughout WithinLimit init
        [(.friendRequest 7, false), (.timeout 0, true)] := by
  constructor
  · exact ((backoff_limit Env.sample.conf).1 (State.holding 64) 7 0 64 false (by decide) (by decide)
      rfl).mpr (Or.inr (Or.inl (by decide)))
  · exact ((backoff_limit Env.sample.conf).2 _).mpr
      ⟨trivial, fun _ _ _ => ⟨trivial, fun _ _ _ => trivial⟩⟩

/-- The limit itself is doubled; a run gets there after eight failed retries. -/
theorem limit_is_doubled :
    (¬ ∃ s' x, eventTimeoutCb Env.sample.conf (State.holding 128) 7 eventFriendAddTips (some 0)
        false = some (s', [x]) ∧ BacksOff (State.holding 128) s' 0 128 x) ∧
      ∃ s os, (machine Env.sample.conf).run init
          ((.friendRequest 7, false) :: List.replicate 8 (.timeout 0, false)) = some (s, os) ∧
        ¬ WithinLimit s := by
  constructor
  -- 128 is not past the limit, but twice 128 is
  · rw [backsOff_iff (by rfl) (by decide), not_or, not_doubles_iff]
    decide
  · refine ⟨_, _, rfl, ?_⟩
    intro hwithin
    have hlast := hwithin (tipsTimer 7 256 (some 0)) (by decide)
    exact absurd hlast (by decide)

end Welcome

end FindFriendBot
