import Mathlib.Data.List.Perm.Basic
import FindFriendBot.Model.Welcome

/-!
# FindFriendBot — the retry chains of the welcome message

A failed request hands its buffer to a timer, a failed retry hands it to the next
timer, and a chain that ends frees it. The `a`-th buffer belongs to the `a`-th
request whose own send failed; what was sent with it so far and the interval in
it determine each other, so a chain is over after nine timers at the latest.

* `Chained`         — the invariant, of the state and the sends so far.
* `chained_step`    — one callback.
* `welcome_chains`  — every interleaving.
-/

namespace FindFriendBot

namespace Welcome

-- ---------------------------------------------------------------------------
-- What was sent, by request
-- ---------------------------------------------------------------------------

/-- The sends of the timers that carried the buffer `a`. -/
def carried (log : List Attempt) (a : Nat) : List Attempt :=
  log.filter fun x => x.userData = some a

/-- The buffer a request handed to a timer. -/
def buffer (request : Attempt) : Ptr := request.armed.bind TimerEvent.userData

/-- The requests whose own send failed. -/
def failedRequests (log : List Attempt) : List Attempt :=
  log.filter fun x => x.userData = none ∧ x.delivered = false

/-- All sends that a request caused, its own first. -/
def sends (log : List Attempt) (request : Attempt) : List Attempt :=
  request ::
    match buffer request with
    | none => []
    | some a => carried log a

/-- A request is no retry. -/
theorem carried_append_request {x : Attempt} (hx : x.userData = none) (log : List Attempt)
    (a : Nat) : carried (log ++ [x]) a = carried log a := by
  unfold carried
  rw [List.filter_append]
  simp [hx]

/-- A retry belongs to one buffer. -/
theorem carried_append_retry {x : Attempt} {a : Nat} (hx : x.userData = some a)
    (log : List Attempt) (b : Nat) :
    carried (log ++ [x]) b = if a = b then carried log b ++ [x] else carried log b := by
  unfold carried
  rw [List.filter_append]
  by_cases h : a = b <;> simp [hx, h]

theorem failedRequests_append (log : List Attempt) (x : Attempt) :
    failedRequests (log ++ [x]) =
      if x.userData = none ∧ x.delivered = false then failedRequests log ++ [x]
      else failedRequests log := by
  unfold failedRequests
  rw [List.filter_append]
  by_cases h : x.userData = none ∧ x.delivered = false <;> simp [h]

/-- A property of all sends so far and of the next. -/
theorem forall_mem_append {P : Attempt → Prop} {log : List Attempt} {x : Attempt}
    (hlog : ∀ y ∈ log, P y) (hx : P x) : ∀ y ∈ log ++ [x], P y := by
  intro y hy
  rcases List.mem_append.mp hy with hy | hy
  · exact hlog y hy
  · exact List.mem_singleton.mp hy ▸ hx

-- ---------------------------------------------------------------------------
-- The invariant
-- ---------------------------------------------------------------------------

/-- The timers' sends of a chain that is over: nothing after a delivery, and either a
delivery or all nine. -/
structure Ended (xs : List Attempt) : Prop where
  length_le : xs.length ≤ 9
  failed : ∀ x ∈ xs.dropLast, x.delivered = false
  exhausted : (∃ x ∈ xs, x.delivered = true) ∨ xs.length = 9

/-- What the sends so far say of the requests: every send is of the help text and goes
to the friend of the request whose buffer it carried. -/
structure Logged (conf : Conf) (next : Nat) (timers : List TimerEvent) (log : List Attempt) :
    Prop where
  /-- The `a`-th failed request has the `a`-th buffer. -/
  buffers : (failedRequests log).map buffer = (List.range next).map some
  request : ∀ r ∈ log, r.userData = none → (r.delivered = true ↔ buffer r = none)
  carried_lt : ∀ x ∈ log, ∀ a, x.userData = some a → a < next
  text : ∀ x ∈ log, x.text = tips conf
  friend : ∀ r ∈ log, r.userData = none → ∀ a, buffer r = some a →
    (∀ x ∈ carried log a, x.friendNumber = r.friendNumber) ∧
      ∀ t ∈ timers, t.userData = some a → t.friendNumber = r.friendNumber

/-- The buffers, the timers and the sends so far. -/
structure Chained (conf : Conf) (s : State) (log : List Attempt) : Prop where
  logged : Logged conf s.heap.next s.timers log
  /-- A buffer lives while exactly one timer carries it. -/
  nodup : (s.timers.map TimerEvent.userData).Nodup
  live_iff : ∀ a, s.heap.Live a ↔ some a ∈ s.timers.map TimerEvent.userData
  armed : ∀ t ∈ s.timers, t.eventType = eventFriendAddTips ∧ ∃ a, t.userData = some a
  freed : ∀ a, a < s.heap.next → s.heap.Live a ∨ a ∈ s.heap.deleted
  /-- The interval counts the retries. -/
  interval : ∀ a v, s.heap.read a = some v → v = 2 ^ (carried log a).length ∧
    (carried log a).length ≤ 8 ∧ ∀ x ∈ carried log a, x.delivered = false
  ended : ∀ a ∈ s.heap.deleted, Ended (carried log a)

variable {conf : Conf} {s : State} {log : List Attempt}

theorem chained_init (conf : Conf) : Chained conf init [] where
  logged :=
    { buffers := rfl
      request := fun r hr => absurd hr List.not_mem_nil
      carried_lt := fun x hx => absurd hx List.not_mem_nil
      text := fun x hx => absurd hx List.not_mem_nil
      friend := fun r hr => absurd hr List.not_mem_nil }
  nodup := List.nodup_nil
  live_iff := fun a => by
    -- the heap is empty
    have hdead : ¬ init.heap.Live a := Std.ExtTreeMap.not_mem_empty
    exact iff_of_false hdead (by simp [init])
  armed := fun t ht => absurd ht List.not_mem_nil
  freed := fun a ha => absurd ha (Nat.not_lt_zero a)
  interval := fun a v hv => by
    have hdead : init.heap.read a = none := Std.ExtTreeMap.getElem?_empty
    rw [hdead] at hv
    exact absurd hv (by simp)
  ended := fun a ha => absurd ha List.not_mem_nil

namespace Logged

variable {next : Nat} {timers : List TimerEvent}

/-- A buffer that no request got yet was not carried yet. -/
theorem carried_eq_nil (h : Logged conf next timers log) {a : Nat} (ha : next ≤ a) :
    carried log a = [] := by
  unfold carried
  rw [List.filter_eq_nil_iff]
  intro x hx hua
  have hlt := h.carried_lt x hx a (by simpa using hua)
  omega

/-- The buffer of a request is one of those handed out. -/
theorem buffer_lt (h : Logged conf next timers log) {r : Attempt} (hr : r ∈ log)
    (hreq : r.userData = none) {a : Nat} (hbuf : buffer r = some a) : a < next := by
  -- a request without a buffer was delivered
  have hfailed : r.delivered = false := by
    rw [← Bool.not_eq_true, h.request r hr hreq, hbuf]
    simp
  -- the failed requests have the buffers below next, in their order
  have hmem : some a ∈ (failedRequests log).map buffer :=
    List.mem_map.mpr ⟨r, List.mem_filter.mpr ⟨hr, by simp [hreq, hfailed]⟩, hbuf⟩
  rw [h.buffers, List.mem_map] at hmem
  obtain ⟨b, hb, hab⟩ := hmem
  obtain rfl := Option.some.inj hab
  exact List.mem_range.mp hb

/-- A request that is delivered at once. -/
theorem delivered (h : Logged conf next timers log) {x : Attempt} (hx : x.userData = none)
    (hdel : x.delivered = true) (hbuf : buffer x = none) (htext : x.text = tips conf) :
    Logged conf next timers (log ++ [x]) := by
  -- a delivered request adds to no chain
  have hcarried := carried_append_request hx log
  refine ⟨?_, ?_, ?_, forall_mem_append h.text htext, ?_⟩
  · rw [failedRequests_append, if_neg (by simp [hdel])]
    exact h.buffers
  · exact forall_mem_append h.request fun _ => iff_of_true hdel hbuf
  · exact forall_mem_append h.carried_lt fun a hua => absurd hua (by simp [hx])
  · simp only [hcarried]
    exact forall_mem_append h.friend fun _ a ha => absurd ha (by simp [hbuf])

/-- A request that hands the next buffer to a new timer. -/
theorem failed (h : Logged conf next timers log) {x : Attempt} (hx : x.userData = none)
    (hdel : x.delivered = false) {t : TimerEvent} (hbuf : buffer x = some next)
    (htext : x.text = tips conf) (hua : t.userData = some next)
    (hfriend : t.friendNumber = x.friendNumber)
    (hfresh : some next ∉ timers.map TimerEvent.userData) :
    Logged conf (next + 1) (timers ++ [t]) (log ++ [x]) := by
  -- nor does a failed one, which only gets a buffer
  have hcarried := carried_append_request hx log
  refine ⟨?_, ?_, ?_, forall_mem_append h.text htext, ?_⟩
  · rw [failedRequests_append, if_pos ⟨hx, hdel⟩, List.map_append, h.buffers, List.range_succ,
      List.map_append, List.map_singleton, List.map_singleton, hbuf]
  · exact forall_mem_append h.request fun _ =>
      iff_of_false (by simp [hdel]) (by simp [hbuf])
  · exact forall_mem_append (fun y hy a hya => Nat.lt_succ_of_lt (h.carried_lt y hy a hya))
      fun a hya => absurd hya (by simp [hx])
  · simp only [hcarried]
    refine forall_mem_append ?_ ?_
    -- an older request: its chain does not see the new timer
    · intro r hr hreq a ha
      have hlt := h.buffer_lt hr hreq ha
      refine ⟨(h.friend r hr hreq a ha).1, ?_⟩
      intro t' ht' hua'
      rcases List.mem_append.mp ht' with ht' | ht'
      · exact (h.friend r hr hreq a ha).2 t' ht' hua'
      · obtain rfl := List.mem_singleton.mp ht'
        have hnext : next = a := Option.some.inj (hua.symm.trans hua')
        omega
    -- the new request: nothing carries its buffer yet but the timer
    · intro _ a ha
      have hnext : next = a := Option.some.inj (hbuf.symm.trans ha)
      constructor
      · intro y hy
        rw [h.carried_eq_nil (Nat.le_of_eq hnext)] at hy
        exact absurd hy List.not_mem_nil
      · intro t' ht' hua'
        rcases List.mem_append.mp ht' with ht' | ht'
        · exact absurd (List.mem_map.mpr ⟨t', ht', hnext ▸ hua'⟩) hfresh
        · exact List.mem_singleton.mp ht' ▸ hfriend

/-- A retry, by a timer of the list; the timers left are of the same chains. -/
theorem retry (h : Logged conf next timers log) {x : Attempt} {a : Nat} {t : TimerEvent}
    (ht : t ∈ timers) (hua : t.userData = some a) (hx : x.userData = some a) (ha : a < next)
    (hfriend : x.friendNumber = t.friendNumber) (htext : x.text = tips conf)
    {timers' : List TimerEvent}
    (htimers : ∀ t' ∈ timers', ∃ t₀ ∈ timers,
      t'.userData = t₀.userData ∧ t'.friendNumber = t₀.friendNumber) :
    Logged conf next timers' (log ++ [x]) := by
  -- a retry is no request, so only the chain of its buffer grows
  refine ⟨?_, ?_, ?_, forall_mem_append h.text htext, ?_⟩
  · rw [failedRequests_append, if_neg (by simp [hx])]
    exact h.buffers
  · exact forall_mem_append h.request fun hreq => absurd hreq (by simp [hx])
  · refine forall_mem_append h.carried_lt ?_
    intro b hb
    rw [hx, Option.some.injEq] at hb
    exact hb ▸ ha
  · refine forall_mem_append (fun r hr hreq b hb => ⟨?_, fun t' ht' hua' => ?_⟩)
      fun hreq => absurd hreq (by simp [hx])
    · obtain ⟨hsent, htimer⟩ := h.friend r hr hreq b hb
      rw [carried_append_retry hx]
      split
      -- it goes to the friend of the timer that fired
      · next heq => exact forall_mem_append hsent (hfriend.trans (htimer t ht (heq ▸ hua)))
      · exact hsent
    · obtain ⟨t₀, ht₀, hua₀, hfriend₀⟩ := htimers t' ht'
      rw [hfriend₀]
      exact (h.friend r hr hreq b hb).2 t₀ ht₀ (hua₀ ▸ hua')

end Logged

-- ---------------------------------------------------------------------------
-- A friend request
-- ---------------------------------------------------------------------------

theorem chained_delivered (h : Chained conf s log) (friendNumber : Nat) :
    Chained conf s (log ++ [(friendRequestCb conf s friendNumber true).2]) := by
  have hcarried : ∀ a, carried (log ++ [(friendRequestCb conf s friendNumber true).2]) a =
      carried log a := carried_append_request rfl log
  refine ⟨h.logged.delivered rfl rfl rfl rfl, h.nodup, h.live_iff, h.armed, h.freed, ?_, ?_⟩
  · intro a v hv
    rw [hcarried]
    exact h.interval a v hv
  · intro a ha
    rw [hcarried]
    exact h.ended a ha

/-- The new timer carries a buffer that nobody else knows. -/
theorem chained_failed (h : Chained conf s log) (friendNumber : Nat) :
    Chained conf (friendRequestCb conf s friendNumber false).1
      (log ++ [(friendRequestCb conf s friendNumber false).2]) := by
  have hcarried : ∀ a, carried (log ++ [(friendRequestCb conf s friendNumber false).2]) a =
      carried log a := carried_append_request rfl log
  -- the buffer is a new one, so no timer has it yet
  have hfresh : some s.heap.next ∉ s.timers.map TimerEvent.userData := fun hin =>
    s.heap.next_not_live ((h.live_iff _).mpr hin)
  have hmap : (friendRequestCb conf s friendNumber false).1.timers.map TimerEvent.userData =
      s.timers.map TimerEvent.userData ++ [some s.heap.next] := by
    simp [friendRequestCb, ObjectHeap.new, tipsTimer]
  -- the heap has the new buffer besides
  have hlive : ∀ a, (friendRequestCb conf s friendNumber false).1.heap.Live a ↔
      a = s.heap.next ∨ s.heap.Live a := fun a => ObjectHeap.live_new_iff
  refine ⟨h.logged.failed rfl rfl rfl rfl rfl rfl hfresh, ?_, ?_, ?_, ?_, ?_, ?_⟩
  · rw [hmap, ← List.concat_eq_append, List.nodup_concat]
    exact ⟨hfresh, h.nodup⟩
  · intro a
    rw [hlive, hmap, List.mem_append, List.mem_singleton, Option.some.injEq, h.live_iff]
    exact or_comm
  · intro t ht
    rcases List.mem_append.mp ht with ht | ht
    · exact h.armed t ht
    · obtain rfl := List.mem_singleton.mp ht
      exact ⟨rfl, _, rfl⟩
  · intro a ha
    rw [hlive]
    have hlt : a < s.heap.next + 1 := ha
    -- below next: the new buffer, or one that was there before
    by_cases hnext : a = s.heap.next
    · exact Or.inl (Or.inl hnext)
    · exact (h.freed a (by omega)).imp_left Or.inr
  · intro a v hv
    rw [hcarried]
    -- a new buffer has the base interval and an empty chain
    rcases (hlive a).mp (ObjectHeap.live_of_read hv) with rfl | hold
    · have hone : (1 : Nat) = v := Option.some.inj ((s.heap.read_new_next 1).symm.trans hv)
      rw [h.logged.carried_eq_nil (Nat.le_refl _)]
      exact ⟨hone.symm, Nat.zero_le _, fun x hx => absurd hx List.not_mem_nil⟩
    · exact h.interval a v ((ObjectHeap.read_new_of_live hold 1).symm.trans hv)
  · intro a ha
    rw [hcarried]
    exact h.ended a ha

-- ---------------------------------------------------------------------------
-- A timer
-- ---------------------------------------------------------------------------

/-- A pending timer carries a live buffer. -/
theorem Chained.live (h : Chained conf s log) {t : TimerEvent} (ht : t ∈ s.timers) {a : Nat}
    (hua : t.userData = some a) : s.heap.Live a :=
  (h.live_iff a).mpr (List.mem_map.mpr ⟨t, ht, hua⟩)

/-- The timer that goes off and the ones left. -/
theorem Chained.fire (h : Chained conf s log) {i : Nat} {t : TimerEvent}
    (hi : s.timers[i]? = some t) :
    (∀ t' ∈ s.timers.eraseIdx i, t' ∈ s.timers) ∧
      (∀ p, p ∈ s.timers.map TimerEvent.userData ↔
        p = t.userData ∨ p ∈ (s.timers.eraseIdx i).map TimerEvent.userData) ∧
      t.userData ∉ (s.timers.eraseIdx i).map TimerEvent.userData ∧
      ((s.timers.eraseIdx i).map TimerEvent.userData).Nodup := by
  obtain ⟨hlt, hget⟩ := List.getElem?_eq_some_iff.mp hi
  -- the timers are the one that fired and the others
  have hperm : (t :: s.timers.eraseIdx i).Perm s.timers :=
    hget ▸ List.getElem_cons_eraseIdx_perm hlt
  have hmap := hperm.map TimerEvent.userData
  obtain ⟨hout, hnodup⟩ := List.nodup_cons.mp (hmap.nodup_iff.mpr h.nodup)
  refine ⟨fun t' ht' => hperm.subset (List.mem_cons_of_mem _ ht'), ?_, hout, hnodup⟩
  intro p
  rw [← hmap.mem_iff, List.map_cons, List.mem_cons]

/-- A chain that ends frees its buffer. -/
theorem Chained.finish (h : Chained conf s log) {i a : Nat} {t : TimerEvent}
    (hi : s.timers[i]? = some t) (hua : t.userData = some a) (x : Attempt)
    (hx : x.userData = some a) (hfriend : x.friendNumber = t.friendNumber)
    (htext : x.text = tips conf) (hended : Ended (carried log a ++ [x])) :
    ∃ heap, s.heap.delete a = some heap ∧
      Chained conf { heap := heap, timers := s.timers.eraseIdx i } (log ++ [x]) := by
  obtain ⟨hsub, hmem, hout, hnodup⟩ := h.fire hi
  have ht : t ∈ s.timers := List.mem_of_getElem? hi
  have hlive : s.heap.Live a := h.live ht hua
  obtain ⟨heap, hdelete, hdeleted, hread, hlives⟩ := ObjectHeap.delete_of_live hlive
  have hnext : heap.next = s.heap.next := ObjectHeap.delete_next hdelete
  refine ⟨heap, hdelete, ?_, hnodup, ?_, fun t' ht' => h.armed t' (hsub t' ht'), ?_, ?_, ?_⟩
  · show Logged conf heap.next (s.timers.eraseIdx i) (log ++ [x])
    rw [hnext]
    exact h.logged.retry ht hua hx (s.heap.lt_next a hlive) hfriend htext
      fun t' ht' => ⟨t', hsub t' ht', rfl, rfl⟩
  · intro b
    show heap.Live b ↔ _
    rw [hlives, h.live_iff, hmem, hua, Option.some.injEq]
    constructor
    -- the deleted buffer was that of the fired timer, which no other timer has
    · rintro ⟨hne, heq | hin⟩
      · exact absurd heq hne
      · exact hin
    · intro hin
      refine ⟨fun heq => hout ?_, Or.inr hin⟩
      rw [hua, ← heq]
      exact hin
  · intro b hb
    show heap.Live b ∨ b ∈ heap.deleted
    have hlt : b < s.heap.next := hnext ▸ hb
    rw [hlives, hdeleted, List.mem_cons]
    by_cases hab : b = a
    · exact Or.inr (Or.inl hab)
    · exact (h.freed b hlt).imp (fun hb => ⟨hab, hb⟩) Or.inr
  -- another chain does not see the attempt
  · intro b v hv
    have hne : b ≠ a := ((hlives b).mp (ObjectHeap.live_of_read hv)).1
    rw [carried_append_retry hx, if_neg (Ne.symm hne)]
    exact h.interval b v ((hread b hne).symm.trans hv)
  · intro b hb
    -- a freed buffer: the one that ends here, or one that ended before
    have hb : b ∈ a :: s.heap.deleted := hdeleted ▸ hb
    rw [carried_append_retry hx]
    by_cases hab : a = b
    · rw [if_pos hab]
      exact hab ▸ hended
    · rw [if_neg hab]
      exact h.ended b ((List.mem_cons.mp hb).resolve_left (Ne.symm hab))

/-- A chain that goes on hands its buffer to the next timer, with the interval doubled. -/
theorem Chained.rearm (h : Chained conf s log) {i a : Nat} {t : TimerEvent}
    (hi : s.timers[i]? = some t) (hua : t.userData = some a) (t' : TimerEvent)
    (hua' : t'.userData = some a) (htype : t'.eventType = eventFriendAddTips)
    (hnumber : t'.friendNumber = t.friendNumber) (x : Attempt) (hx : x.userData = some a)
    (hfriend : x.friendNumber = t.friendNumber) (htext : x.text = tips conf)
    (hfailed : x.delivered = false)
    (hlen : (carried log a).length ≤ 7) (hsent : ∀ y ∈ carried log a, y.delivered = false) :
    ∃ heap, s.heap.update (some a) (fun _ => 2 ^ ((carried log a).length + 1)) = some heap ∧
      Chained conf { heap := heap, timers := s.timers.eraseIdx i ++ [t'] } (log ++ [x]) := by
  obtain ⟨hsub, hmem, hout, hnodup⟩ := h.fire hi
  have ht : t ∈ s.timers := List.mem_of_getElem? hi
  have hlive : s.heap.Live a := h.live ht hua
  -- the next timer takes the place of the fired one
  have hmap : (s.timers.eraseIdx i ++ [t']).map TimerEvent.userData =
      (s.timers.eraseIdx i).map TimerEvent.userData ++ [some a] := by
    simp [hua']
  refine ⟨_, ObjectHeap.update_of_live hlive _, ?_, ?_, ?_, ?_, ?_, ?_, ?_⟩
  · refine h.logged.retry ht hua hx (s.heap.lt_next a hlive) hfriend htext ?_
    intro t₁ ht₁
    rcases List.mem_append.mp ht₁ with ht₁ | ht₁
    · exact ⟨t₁, hsub t₁ ht₁, rfl, rfl⟩
    -- the new timer stands for the old one, with its buffer and its friend
    · obtain rfl := List.mem_singleton.mp ht₁
      exact ⟨t, ht, hua'.trans hua.symm, hnumber⟩
  · show ((s.timers.eraseIdx i ++ [t']).map TimerEvent.userData).Nodup
    rw [hmap, ← List.concat_eq_append, List.nodup_concat]
    exact ⟨hua ▸ hout, hnodup⟩
  · intro b
    show (s.heap.modify a _).Live b ↔ some b ∈ (s.timers.eraseIdx i ++ [t']).map _
    rw [ObjectHeap.live_modify_iff, h.live_iff, hmem, hmap, hua, List.mem_append,
      List.mem_singleton]
    exact or_comm
  · intro t₁ ht₁
    rcases List.mem_append.mp ht₁ with ht₁ | ht₁
    · exact h.armed t₁ (hsub t₁ ht₁)
    · obtain rfl := List.mem_singleton.mp ht₁
      exact ⟨htype, a, hua'⟩
  · intro b hb
    show (s.heap.modify a _).Live b ∨ b ∈ s.heap.deleted
    rw [ObjectHeap.live_modify_iff]
    exact h.freed b hb
  · intro b v hv
    rw [carried_append_retry hx]
    have hread : (s.heap.modify a fun _ => 2 ^ ((carried log a).length + 1)).read b = some v := hv
    rw [ObjectHeap.read_modify] at hread
    -- the interval is doubled with every attempt of the chain
    by_cases hab : a = b
    · subst hab
      obtain ⟨old, hold⟩ := ObjectHeap.live_iff.mp hlive
      rw [if_pos rfl, hold, Option.map_some, Option.some.injEq] at hread
      rw [if_pos rfl, List.length_append, List.length_singleton]
      exact ⟨hread.symm, by omega, forall_mem_append hsent hfailed⟩
    · rw [if_neg hab] at hread ⊢
      exact h.interval b v hread
  · intro b hb
    -- a chain that ended has another buffer
    have hdead : ¬ s.heap.Live b := s.heap.deleted_dead b hb
    have hab : a ≠ b := fun heq => hdead (heq ▸ hlive)
    rw [carried_append_retry hx, if_neg hab]
    exact h.ended b hb

/-- Nine failed retries in a row, or a delivery after fewer than nine. -/
theorem ended_append {xs : List Attempt} (hlen : xs.length ≤ 8)
    (hfailed : ∀ y ∈ xs, y.delivered = false) (x : Attempt)
    (hover : x.delivered = true ∨ xs.length = 8) : Ended (xs ++ [x]) := by
  refine ⟨?_, ?_, ?_⟩
  · rw [List.length_append, List.length_singleton]
    omega
  · rw [List.dropLast_concat]
    exact hfailed
  -- it ended by a delivery, or after nine attempts
  · rcases hover with hdel | hnine
    · exact Or.inl ⟨x, by simp, hdel⟩
    · refine Or.inr ?_
      rw [List.length_append, List.length_singleton]
      omega

/-- **One timer** goes off. -/
theorem chained_timeout (h : Chained conf s log) {i : Nat} {t : TimerEvent}
    (hi : s.timers[i]? = some t) (ret : Bool) :
    ∃ s' o, eventTimeoutCb conf { s with timers := s.timers.eraseIdx i } t.friendNumber
        t.eventType t.userData ret = some (s', o) ∧ Chained conf s' (log ++ o) := by
  have ht : t ∈ s.timers := List.mem_of_getElem? hi
  -- the armed timer's buffer is alive and holds the interval
  obtain ⟨htype, a, hua⟩ := h.armed t ht
  have hlive : s.heap.Live a := h.live ht hua
  obtain ⟨v, hread⟩ := ObjectHeap.live_iff.mp hlive
  obtain ⟨hv, hlen, hsent⟩ := h.interval a v hread
  unfold eventTimeoutCb
  simp only [htype, hua, if_true, reduceCtorEq, if_false, ObjectHeap.deref_some, hread, free]
  cases ret with
  | true =>
    -- delivered: the chain ends and the buffer is freed
    simp only [if_true]
    obtain ⟨heap, hdelete, hchained⟩ := h.finish hi hua
      (sendFriendMessageReq conf t.friendNumber true (some a) none) rfl rfl rfl
      (ended_append hlen hsent _ (Or.inl rfl))
    rw [hdelete]
    exact ⟨_, _, rfl, hchained⟩
  | false =>
    simp only [Bool.false_eq_true, if_false]
    by_cases hmax : resendTimeMax < v
    · -- 256 is past the limit, 128 is not
      have hnine : (carried log a).length = 8 := by
        by_contra hne
        have hseven : (carried log a).length ≤ 7 := by omega
        have hpow := Nat.pow_le_pow_right (by decide : 0 < 2) hseven
        have hlimit : 128 < v := hmax
        omega
      obtain ⟨heap, hdelete, hchained⟩ := h.finish hi hua
        (sendFriendMessageReq conf t.friendNumber false (some a) none) rfl rfl rfl
        (ended_append hlen hsent _ (Or.inr hnine))
      rw [if_pos hmax, hdelete]
      exact ⟨_, _, rfl, hchained⟩
    -- the interval is 2^n after n retries, so there were at most seven
    · have hseven : (carried log a).length ≤ 7 := by
        by_contra hgt
        have height : (carried log a).length = 8 := by omega
        have hlimit : ¬ 128 < v := hmax
        rw [height] at hv
        omega
      -- no wrap of the uint32_t below 2^9
      have hdouble : v * 2 % 2 ^ 32 = 2 ^ ((carried log a).length + 1) := by
        have hpow := Nat.pow_le_pow_right (by decide : 0 < 2) hseven
        have hsucc : 2 ^ ((carried log a).length + 1) = v * 2 := by rw [Nat.pow_succ, ← hv]
        omega
      obtain ⟨heap, hupdate, hchained⟩ := h.rearm hi hua
        (tipsTimer t.friendNumber (2 ^ ((carried log a).length + 1)) (some a)) rfl rfl rfl
        (sendFriendMessageReq conf t.friendNumber false (some a) _) rfl rfl rfl rfl hseven hsent
      rw [if_neg hmax, hdouble]
      rw [hupdate]
      exact ⟨_, _, rfl, hchained⟩

/-- **One callback** keeps the chains. -/
theorem chained_step (h : Chained conf s log) (i : Event × Bool) :
    ∃ s' o, (machine conf).step s i = some (s', o) ∧ Chained conf s' (log ++ o) := by
  obtain ⟨e, ret⟩ := i
  cases e with
  | friendRequest friendNumber =>
    cases ret with
    | true => exact ⟨_, _, rfl, chained_delivered h friendNumber⟩
    | false => exact ⟨_, _, rfl, chained_failed h friendNumber⟩
  | timeout position =>
    simp only [machine, step]
    cases hi : s.timers[position]? with
    -- a timer that is not there: nothing fires
    | none => exact ⟨s, [], rfl, (List.append_nil log).symm ▸ h⟩
    | some t => exact chained_timeout h hi ret

-- ---------------------------------------------------------------------------
-- Every interleaving
-- ---------------------------------------------------------------------------

/-- What the retries come to, in one state. -/
structure Retried (conf : Conf) (s : State) (log : List Attempt) : Prop where
  /-- A buffer lives and one pending timer carries it, or was freed once and none does. -/
  owned : ∀ a, a < s.heap.next →
    (s.heap.Live a ∧ s.heap.deleted.count a = 0 ∧
        (s.timers.map TimerEvent.userData).count (some a) = 1) ∨
      (¬ s.heap.Live a ∧ s.heap.deleted.count a = 1 ∧
        (s.timers.map TimerEvent.userData).count (some a) = 0)
  /-- A pending timer will send, and carries no null pointer and no freed buffer. -/
  pending : ∀ t ∈ s.timers,
    t.eventType = eventFriendAddTips ∧ ∃ a, t.userData = some a ∧ s.heap.Live a
  /-- The failed requests have the buffers, one each. -/
  buffers : (failedRequests log).map buffer = (List.range s.heap.next).map some
  /-- Every retry was caused by one of them. -/
  caused : ∀ x ∈ log, ∀ a, x.userData = some a → ∃ r ∈ failedRequests log, buffer r = some a
  /-- A request's sends go to its friend; a delivery is the last of them, at most ten. -/
  chain : ∀ r ∈ log, r.userData = none →
    (∀ x ∈ sends log r, x.friendNumber = r.friendNumber ∧ x.text = tips conf) ∧
      (∀ x ∈ (sends log r).dropLast, x.delivered = false) ∧ (sends log r).length ≤ 10
  /-- It needs no buffer, or has one exactly as long as it goes on. -/
  goesOn : ∀ r ∈ log, r.userData = none →
    (buffer r = none ↔ r.delivered = true) ∧
      ∀ a, buffer r = some a → (s.heap.Live a ↔
        (∀ x ∈ sends log r, x.delivered = false) ∧ (sends log r).length < 10)

theorem sends_of_buffer {r : Attempt} {a : Nat} (hbuf : buffer r = some a) (log : List Attempt) :
    sends log r = r :: carried log a := by
  simp only [sends, hbuf]

theorem sends_of_none {r : Attempt} (hbuf : buffer r = none) (log : List Attempt) :
    sends log r = [r] := by
  simp only [sends, hbuf]

/-- How far the chain of a buffer is. -/
theorem Chained.buffer_cases (h : Chained conf s log) {a : Nat} (ha : a < s.heap.next) :
    (s.heap.Live a ∧ (carried log a).length ≤ 8 ∧ ∀ x ∈ carried log a, x.delivered = false) ∨
      (¬ s.heap.Live a ∧ Ended (carried log a)) := by
  rcases h.freed a ha with hlive | hfreed
  · obtain ⟨v, hread⟩ := ObjectHeap.live_iff.mp hlive
    obtain ⟨-, hlen, hsent⟩ := h.interval a v hread
    exact Or.inl ⟨hlive, hlen, hsent⟩
  · exact Or.inr ⟨s.heap.deleted_dead a hfreed, h.ended a hfreed⟩

theorem Ended.dropLast_cons {xs : List Attempt} (h : Ended xs) {r : Attempt}
    (hr : r.delivered = false) : ∀ x ∈ (r :: xs).dropLast, x.delivered = false := by
  intro x hx
  cases xs with
  | nil => exact absurd hx List.not_mem_nil
  | cons y xs =>
    rw [List.dropLast_cons_cons] at hx
    rcases List.mem_cons.mp hx with rfl | hx
    · exact hr
    · exact h.failed x hx

theorem Chained.retried (h : Chained conf s log) : Retried conf s log := by
  have hfailed : ∀ r ∈ log, r.userData = none → ∀ a, buffer r = some a → r.delivered = false := by
    intro r hr hreq a hbuf
    rw [← Bool.not_eq_true, h.logged.request r hr hreq, hbuf]
    simp
  refine ⟨fun a ha => ?_, fun t ht => ?_, h.logged.buffers, fun x hx a hua => ?_,
    fun r hr hreq => ?_, fun r hr hreq => ⟨(h.logged.request r hr hreq).symm, fun a hbuf => ?_⟩⟩
  -- a buffer is alive with one timer, or was freed once and has none
  · rcases h.freed a ha with hlive | hfreed
    · refine Or.inl ⟨hlive, List.count_eq_zero.mpr fun hd => s.heap.deleted_dead a hd hlive, ?_⟩
      exact List.count_eq_one_of_mem h.nodup ((h.live_iff a).mp hlive)
    · have hdead := s.heap.deleted_dead a hfreed
      refine Or.inr ⟨hdead, List.count_eq_one_of_mem s.heap.deleted_nodup hfreed, ?_⟩
      exact List.count_eq_zero.mpr fun hin => hdead ((h.live_iff a).mpr hin)
  · obtain ⟨htype, a, hua⟩ := h.armed t ht
    exact ⟨htype, a, hua, h.live ht hua⟩
  -- a buffer that is carried came from a failed request
  · have hmem : some a ∈ (failedRequests log).map buffer := by
      rw [h.logged.buffers]
      exact List.mem_map_of_mem (List.mem_range.mpr (h.logged.carried_lt x hx a hua))
    exact List.mem_map.mp hmem
  · cases hbuf : buffer r with
    -- delivered at once: one send and no chain
    | none =>
      rw [sends_of_none hbuf]
      refine ⟨?_, fun x hx => absurd hx List.not_mem_nil, by simp⟩
      intro x hx
      obtain rfl := List.mem_singleton.mp hx
      exact ⟨rfl, h.logged.text _ hr⟩
    | some a =>
      -- failed: the send and then its retries
      have hrfailed := hfailed r hr hreq a hbuf
      obtain ⟨hfriend, -⟩ := h.logged.friend r hr hreq a hbuf
      rw [sends_of_buffer hbuf, List.length_cons]
      constructor
      · intro x hx
        rcases List.mem_cons.mp hx with rfl | hx
        · exact ⟨rfl, h.logged.text _ hr⟩
        · exact ⟨hfriend x hx, h.logged.text x (List.mem_filter.mp hx).1⟩
      -- still going with at most eight retries, or ended with nine
      · rcases h.buffer_cases (h.logged.buffer_lt hr hreq hbuf) with
          ⟨-, hlen, hsent⟩ | ⟨-, hended⟩
        · refine ⟨?_, by omega⟩
          intro x hx
          rcases List.mem_cons.mp (List.mem_of_mem_dropLast hx) with rfl | hx
          · exact hrfailed
          · exact hsent x hx
        · have hle := hended.length_le
          exact ⟨hended.dropLast_cons hrfailed, by omega⟩
  · have hrfailed := hfailed r hr hreq a hbuf
    rw [sends_of_buffer hbuf, List.length_cons]
    rcases h.buffer_cases (h.logged.buffer_lt hr hreq hbuf) with
      ⟨hlive, hlen, hsent⟩ | ⟨hdead, hended⟩
    -- a chain goes on as long as its buffer is alive
    · refine iff_of_true hlive ⟨?_, by omega⟩
      intro x hx
      rcases List.mem_cons.mp hx with rfl | hx
      · exact hrfailed
      · exact hsent x hx
    · refine iff_of_false hdead ?_
      -- and one that ended was delivered or used up its retries
      intro hgoes
      rcases hended.exhausted with ⟨x, hx, hdel⟩ | hnine
      · have hno := hgoes.1 x (List.mem_cons_of_mem _ hx)
        exact absurd (hdel.symm.trans hno) (by decide)
      · omega

/-- **The retry chains** of the welcome message: for any number of friend requests, any
interleaving of their timers and any outcome of every send, no buffer is used
after it was freed, and in every state reached the chains are as `Retried` has
it. -/
theorem welcome_chains (conf : Conf) (is : List (Event × Bool)) :
    ∃ s os, (machine conf).run init is = some (s, os) ∧ Retried conf s os.flatten := by
  -- one more event appends its attempts to the log
  have hstep : ∀ (s : State) (os : List (List Attempt)) (i : Event × Bool),
      Chained conf s os.flatten → ∃ s' o, (machine conf).step s i = some (s', o) ∧
        Chained conf s' (os ++ [o]).flatten := by
    intro s os i h
    obtain ⟨s', o, hrun, h'⟩ := chained_step h i
    refine ⟨s', o, hrun, ?_⟩
    rw [List.flatten_append, List.flatten_singleton]
    exact h'
  obtain ⟨s, os, hrun, h⟩ := StepMachine.run_history (fun s os => Chained conf s os.flatten) hstep
    is init [] (chained_init conf)
  exact ⟨s, os, hrun, h.retried⟩

end Welcome

end FindFriendBot
