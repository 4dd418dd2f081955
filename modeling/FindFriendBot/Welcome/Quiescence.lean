import FindFriendBot.Lib.Amortized
import FindFriendBot.Welcome.Chains

/-!
# FindFriendBot — the retries come to rest

A pending timer stands for the retries that are left to its chain: nine, less those
its buffer was carried by. A retry takes one of them and a request that fails adds
nine, so that the number of sends stays within ten for each request; and when no
more requests come, the timers run out, whatever the outcome of their sends, and
every buffer is freed.

* `timeout_pays`      — one retry.
* `welcome_quiesces`  — every run, and every way its timers go off.
-/

namespace FindFriendBot

namespace Welcome

/-- The retries left to the chain of a timer. -/
def retriesLeft (log : List Attempt) (t : TimerEvent) : Nat :=
  match t.userData with
  | none => 0
  | some a => 9 - (carried log a).length

/-- All retries left. -/
def retries (s : State) (log : List Attempt) : Nat := (s.timers.map (retriesLeft log)).sum

def Event.isRequest : Event → Bool
  | .friendRequest _ => true
  | .timeout _ => false

/-- A pending timer goes off. -/
def Fires (s : State) (i : Event × Bool) : Prop :=
  ∃ position t, i.1 = .timeout position ∧ s.timers[position]? = some t

variable {conf : Conf} {s : State} {log : List Attempt}

theorem retriesLeft_eq {t : TimerEvent} {a : Nat} (hua : t.userData = some a)
    (log : List Attempt) : retriesLeft log t = 9 - (carried log a).length := by
  rw [retriesLeft, hua]

/-- A send with another buffer, or with none, takes no retry from a timer. -/
theorem retriesLeft_append {t : TimerEvent} {x : Attempt}
    (hne : x.userData = none ∨ x.userData ≠ t.userData) (log : List Attempt) :
    retriesLeft (log ++ [x]) t = retriesLeft log t := by
  unfold retriesLeft
  cases hua : t.userData with
  | none => rfl
  | some a =>
    -- a request, or a retry of another timer's chain
    cases hx : x.userData with
    | none => simp only [carried_append_request hx]
    | some b =>
      rw [hx, hua] at hne
      have hba : b ≠ a := fun heq => hne.elim (by simp) fun hne => hne (congrArg some heq)
      simp only [carried_append_retry hx, if_neg hba]

/-- A pending timer has at least one retry left and at most nine. -/
theorem Chained.retriesLeft_bounds (h : Chained conf s log) {t : TimerEvent}
    (ht : t ∈ s.timers) : 1 ≤ retriesLeft log t ∧ retriesLeft log t ≤ 9 := by
  obtain ⟨-, a, hua⟩ := h.armed t ht
  obtain ⟨v, hread⟩ := ObjectHeap.live_iff.mp (h.live ht hua)
  have hlen := (h.interval a v hread).2.1
  rw [retriesLeft_eq hua]
  omega

theorem Chained.retries_bounds (h : Chained conf s log) :
    s.timers.length ≤ retries s log ∧ retries s log ≤ 9 * s.timers.length := by
  have hsum : ∀ ts : List TimerEvent, (∀ t ∈ ts, t ∈ s.timers) →
      ts.length ≤ (ts.map (retriesLeft log)).sum ∧
        (ts.map (retriesLeft log)).sum ≤ 9 * ts.length := by
    -- induction on the timers, each of which has one to nine retries left
    intro ts
    induction ts with
    | nil => simp
    | cons t ts ih =>
      intro hts
      have hbounds := h.retriesLeft_bounds (hts t (List.mem_cons_self ..))
      have hrest := ih fun t' ht' => hts t' (List.mem_cons_of_mem _ ht')
      rw [List.map_cons, List.sum_cons, List.length_cons]
      omega
  exact hsum s.timers fun _ ht => ht

-- ---------------------------------------------------------------------------
-- One callback
-- ---------------------------------------------------------------------------

/-- A retry is one send with its buffer, and arms at most one timer, with the same. -/
theorem eventTimeoutCb_sends {a friendNumber : Nat} {ret : Bool} {s' : State}
    {o : List Attempt}
    (hcall : eventTimeoutCb conf s friendNumber eventFriendAddTips (some a) ret = some (s', o)) :
    ∃ x ts, o = [x] ∧ x.userData = some a ∧ s'.timers = s.timers ++ ts ∧
      (ts = [] ∨ ∃ t, ts = [t] ∧ t.userData = some a) := by
  -- the two ways a chain ends leave no timer
  have hends : ∀ heap, s.heap.delete a = some heap →
      ∃ x ts, [sendFriendMessageReq conf friendNumber ret (some a) none] = [x] ∧
        x.userData = some a ∧ ({ s with heap := heap } : State).timers = s.timers ++ ts ∧
        (ts = [] ∨ ∃ t, ts = [t] ∧ t.userData = some a) :=
    fun heap _ => ⟨_, [], rfl, rfl, (List.append_nil _).symm, Or.inl rfl⟩
  simp only [eventTimeoutCb, if_true, free, reduceCtorEq, if_false] at hcall
  split at hcall
  · split at hcall
    · exact absurd hcall (by simp)
    · next heap hdelete =>
      obtain ⟨rfl, rfl⟩ := Prod.mk.inj (Option.some.inj hcall)
      exact hends heap hdelete
  · split at hcall
    · exact absurd hcall (by simp)
    · split at hcall
      · split at hcall
        · exact absurd hcall (by simp)
        · next heap hdelete =>
          obtain ⟨rfl, rfl⟩ := Prod.mk.inj (Option.some.inj hcall)
          exact hends heap hdelete
      · split at hcall
        -- the timer is armed again
        · exact absurd hcall (by simp)
        · obtain ⟨rfl, rfl⟩ := Prod.mk.inj (Option.some.inj hcall)
          exact ⟨_, _, rfl, rfl, rfl, Or.inr ⟨_, rfl, rfl⟩⟩

/-- **One retry** takes one retry. -/
theorem timeout_pays (h : Chained conf s log) {i : Nat} {t : TimerEvent}
    (hi : s.timers[i]? = some t) (ret : Bool) :
    ∃ s' x, (machine conf).step s (.timeout i, ret) = some (s', [x]) ∧
      Chained conf s' (log ++ [x]) ∧ 1 + retries s' (log ++ [x]) ≤ retries s log := by
  obtain ⟨hlt, hget⟩ := List.getElem?_eq_some_iff.mp hi
  have ht : t ∈ s.timers := List.mem_of_getElem? hi
  obtain ⟨htype, a, hua⟩ := h.armed t ht
  obtain ⟨-, -, hout, -⟩ := h.fire hi
  obtain ⟨s', o, hcall, hchained⟩ := chained_timeout h hi ret
  have hcall' := hcall
  rw [htype, hua] at hcall'
  obtain ⟨x, ts, rfl, hx, htimers, hts⟩ := eventTimeoutCb_sends hcall'
  refine ⟨s', x, ?_, hchained, ?_⟩
  · simp only [machine, step, hi, hcall]
  -- the other timers keep their retries
  have hothers : (s.timers.eraseIdx i).map (retriesLeft (log ++ [x])) =
      (s.timers.eraseIdx i).map (retriesLeft log) := by
    refine List.map_congr_left fun t' ht' => retriesLeft_append (Or.inr ?_) log
    rw [hx, ← hua]
    exact fun heq => hout (heq ▸ List.mem_map_of_mem ht')
  -- the one that fired and the others
  have hperm : (t :: s.timers.eraseIdx i).Perm s.timers :=
    hget ▸ List.getElem_cons_eraseIdx_perm hlt
  have hbefore : retries s log =
      retriesLeft log t + ((s.timers.eraseIdx i).map (retriesLeft log)).sum := by
    rw [retries, ← (hperm.map (retriesLeft log)).sum_nat, List.map_cons, List.sum_cons]
  have hafter : retries s' (log ++ [x]) =
      ((s.timers.eraseIdx i).map (retriesLeft log)).sum +
        (ts.map (retriesLeft (log ++ [x]))).sum := by
    rw [retries, htimers, List.map_append, List.sum_append, hothers]
  have hbounds := h.retriesLeft_bounds ht
  rw [hbefore, hafter]
  rcases hts with rfl | ⟨t', rfl, hua'⟩
  -- the chain ended
  · simp only [List.map_nil, List.sum_nil]
    omega
  · -- the next timer of the chain has one retry less
    have hnext : retriesLeft (log ++ [x]) t' + 1 = retriesLeft log t := by
      rw [retriesLeft_eq hua] at hbounds ⊢
      rw [retriesLeft_eq hua', carried_append_retry hx, if_pos rfl, List.length_append,
        List.length_singleton]
      omega
    rw [List.map_singleton, List.sum_singleton]
    omega

/-- A request that fails adds nine retries. -/
theorem friendRequest_pays (h : Chained conf s log) (friendNumber : Nat) (ret : Bool) :
    ∃ s' x, (machine conf).step s (.friendRequest friendNumber, ret) = some (s', [x]) ∧
      Chained conf s' (log ++ [x]) ∧ retries s' (log ++ [x]) ≤ retries s log + 9 := by
  -- a request is in nobody's chain
  have hothers : ∀ x : Attempt, x.userData = none →
      s.timers.map (retriesLeft (log ++ [x])) = s.timers.map (retriesLeft log) :=
    fun x hx => List.map_congr_left fun t _ => retriesLeft_append (Or.inl hx) log
  cases ret with
  | true =>
    -- no timer for a welcome that was sent
    refine ⟨_, _, rfl, chained_delivered h friendNumber, ?_⟩
    rw [retries, hothers _ rfl, retries]
    omega
  | false =>
    refine ⟨_, _, rfl, chained_failed h friendNumber, ?_⟩
    -- a new chain has nine retries
    have hnew : ∀ (log : List Attempt) (t : TimerEvent), retriesLeft log t ≤ 9 := by
      intro log t
      unfold retriesLeft
      split <;> omega
    rw [retries, List.map_append, List.sum_append, hothers _ rfl, List.map_singleton,
      List.sum_singleton]
    exact Nat.add_le_add_left (hnew _ _) _

-- ---------------------------------------------------------------------------
-- Every run
-- ---------------------------------------------------------------------------

/-- What a request may cost: its own send and nine retries. -/
def allowance (i : Event × Bool) : Nat := if i.1.isRequest then 10 else 0

theorem sum_allowance (is : List (Event × Bool)) :
    (is.map allowance).sum = 10 * is.countP fun i => i.1.isRequest := by
  induction is with
  | nil => rfl
  | cons i is ih =>
    rw [List.map_cons, List.sum_cons, ih, List.countP_cons, allowance]
    split <;> omega

/-- The sends so far and the retries left stay within the allowance. -/
theorem spends_step (conf : Conf) (s : State) (os : List (List Attempt)) (i : Event × Bool)
    (h : Chained conf s os.flatten) :
    ∃ s' o, (machine conf).step s i = some (s', o) ∧ Chained conf s' (os ++ [o]).flatten ∧
      0 + ((os ++ [o]).flatten.length + retries s' (os ++ [o]).flatten) ≤
        os.flatten.length + retries s os.flatten + allowance i := by
  obtain ⟨e, ret⟩ := i
  cases e with
  | friendRequest friendNumber =>
    obtain ⟨s', x, hstep, h', hpays⟩ := friendRequest_pays h friendNumber ret
    refine ⟨s', [x], hstep, ?_⟩
    rw [List.flatten_append, List.flatten_singleton, List.length_append, List.length_singleton]
    refine ⟨h', ?_⟩
    simp only [allowance, Event.isRequest, if_true]
    omega
  | timeout position =>
    -- no such timer: nothing is paid and nothing is sent
    cases hi : s.timers[position]? with
    | none =>
      refine ⟨s, [], by simp only [machine, step, hi], ?_⟩
      rw [List.flatten_append, List.flatten_singleton, List.append_nil]
      exact ⟨h, by omega⟩
    | some t =>
      -- a send is paid for by the retry it takes
      obtain ⟨s', x, hstep, h', hpays⟩ := timeout_pays h hi ret
      refine ⟨s', [x], hstep, ?_⟩
      rw [List.flatten_append, List.flatten_singleton, List.length_append,
        List.length_singleton]
      exact ⟨h', by omega⟩

/-- A timer that goes off takes a retry. -/
theorem fires_step (conf : Conf) (s : State) (os : List (List Attempt)) (i : Event × Bool)
    (h : Chained conf s os.flatten) (hfires : Fires s i) :
    ∃ s' o, (machine conf).step s i = some (s', o) ∧ Chained conf s' (os ++ [o]).flatten ∧
      1 + retries s' (os ++ [o]).flatten ≤ retries s os.flatten + 0 := by
  obtain ⟨e, ret⟩ := i
  obtain ⟨position, t, rfl, hi⟩ := hfires
  obtain ⟨s', x, hstep, h', hpays⟩ := timeout_pays h hi ret
  refine ⟨s', [x], hstep, ?_⟩
  rw [List.flatten_append, List.flatten_singleton]
  exact ⟨h', hpays⟩

/-- **The retries come to rest.** After any run, the sends made and the timers pending are at most
ten for each request. From there on, without another request and whatever the outcome of each
send, the timers go off at most nine times for each one that was pending, and when none is left
every buffer was freed, once. -/
theorem welcome_quiesces (conf : Conf) (is : List (Event × Bool)) :
    ∃ s os, (machine conf).run init is = some (s, os) ∧
      os.flatten.length + s.timers.length ≤ 10 * is.countP (fun i => i.1.isRequest) ∧
      ∀ js, (machine conf).Along Fires s js →
        ∃ t os', (machine conf).run s js = some (t, os') ∧
          js.length + t.timers.length ≤ 9 * s.timers.length ∧
          (t.timers = [] → ∀ a, a < t.heap.next →
            ¬ t.heap.Live a ∧ t.heap.deleted.count a = 1) := by
  -- what was sent and what may still be sent, paid by the requests
  obtain ⟨s, os, hrun, h, hspent⟩ := StepMachine.run_amortized
    (fun s os => Chained conf s os.flatten) (fun _ _ => True)
    (fun s os => os.flatten.length + retries s os.flatten) (fun _ => 0) allowance
    (fun s os i h _ => spends_step conf s os i h) is init [] (chained_init conf)
    (StepMachine.along_of_forall (fun _ _ => trivial) init)
  rw [List.nil_append] at h hspent
  rw [sum_allowance] at hspent
  have hinit : retries init [] = 0 := rfl
  have hbounds := h.retries_bounds
  simp only [List.flatten_nil, List.length_nil, hinit] at hspent
  refine ⟨s, os, hrun, by omega, fun js hjs => ?_⟩
  -- from here on every firing timer pays with a retry of its own
  obtain ⟨t, os', hrun', ht, hpaid⟩ := StepMachine.run_amortized
    (fun s os => Chained conf s os.flatten) Fires (fun s os => retries s os.flatten)
    (fun _ => 1) (fun _ => 0) (fires_step conf) js s os h hjs
  have hbounds' := ht.retries_bounds
  rw [List.map_const', List.map_const', List.sum_replicate_nat, List.sum_replicate_nat] at hpaid
  refine ⟨t, os', hrun', by omega, fun hnone a ha => ?_⟩
  -- without a timer no buffer is alive
  have hdead : ¬ t.heap.Live a := by
    rw [ht.live_iff, hnone]
    exact List.not_mem_nil
  exact ⟨hdead, List.count_eq_one_of_mem t.heap.deleted_nodup ((ht.freed a ha).resolve_left hdead)⟩

end Welcome

end FindFriendBot
