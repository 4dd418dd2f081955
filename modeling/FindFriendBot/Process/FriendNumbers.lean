import FindFriendBot.Process.Refinement

/-!
# FindFriendBot — friend numbers

Between callbacks the process knows a friend by key, in the registry and the table,
or by number, in the pending timers. The bot deletes no friend, so a number stands
for the same key from its first use to the end of the process, and a timer that goes
off later still means the friend who asked.

* `byPublicKey_addNorequest` — the number of a new friend.
* `welcome_asked`            — every callback of a run.
-/

namespace FindFriendBot

namespace FriendList

variable {friends : FriendList} {key : PublicKey}

theorem publicKey_eq_some_iff {n : Nat} {old : PublicKey} :
    friends.publicKey n = some old ↔ friends.keys[n]? = some (some old) :=
  Option.join_eq_some_iff

/-- The other friends keep their numbers. -/
theorem publicKey_addNorequest {n : Nat} {old : PublicKey} (h : friends.publicKey n = some old)
    (key : PublicKey) (added : Bool) :
    (friends.addNorequest key added).publicKey n = some old := by
  rw [publicKey_eq_some_iff] at h ⊢
  unfold addNorequest
  split
  · obtain ⟨i, -, hgap, hothers⟩ := get_insertKey friends.keys key
    have hne : n ≠ i := fun heq => hgap old (heq ▸ h)
    exact (hothers n old hne).mpr h
  · exact h

/-- **A new friend** has a number, and it is that of the key. -/
theorem byPublicKey_addNorequest (friends : FriendList) (key : PublicKey) (added : Bool) :
    (∃ n, (friends.addNorequest key added).byPublicKey key = some n ∧
        (friends.addNorequest key added).publicKey n = some key) ∨
      added = false ∧ (friends.addNorequest key added).byPublicKey key = none := by
  have hknown : ∀ {friends : FriendList}, ¬ friends.Unknown key →
      ∃ n, friends.byPublicKey key = some n ∧ friends.publicKey n = some key := by
    intro friends h
    obtain ⟨n, hn⟩ := List.getElem?_of_mem (not_not.mp h)
    have hkey := publicKey_eq_some_iff.mpr hn
    exact ⟨n, byPublicKey_eq hkey, hkey⟩
  by_cases hunknown : friends.Unknown key
  · cases added with
    | true =>
      refine Or.inl (hknown fun hno => hno ?_)
      obtain ⟨i, hi, -⟩ := get_insertKey friends.keys key
      rw [addNorequest, dif_pos ⟨rfl, hunknown⟩]
      exact List.mem_of_getElem? hi
    | false =>
      refine Or.inr ⟨rfl, ?_⟩
      rw [addNorequest, dif_neg fun hboth => Bool.false_ne_true hboth.1, byPublicKey,
        List.findIdx?_eq_none_iff]
      intro old hold
      refine Bool.eq_false_iff.mpr fun heq => hunknown ?_
      exact (beq_iff_eq.mp heq) ▸ hold
  · rw [addNorequest, dif_neg fun hboth => hunknown hboth.2]
    exact Or.inl (hknown hunknown)

end FriendList

namespace Welcome

/-- A retry goes to the friend of its timer, and so do those after it. -/
theorem eventTimeoutCb_friend {conf : Conf} {s s' : State} {friendNumber eventType : Nat}
    {userData : Ptr} {ret : Bool} {o : List Attempt}
    (h : eventTimeoutCb conf s friendNumber eventType userData ret = some (s', o)) :
    (∀ x ∈ o, x.friendNumber = friendNumber) ∧
      ∀ t ∈ s'.timers, t ∈ s.timers ∨ t.friendNumber = friendNumber := by
  have hsend : ∀ armed, ∀ x ∈ [sendFriendMessageReq conf friendNumber ret userData armed],
      x.friendNumber = friendNumber :=
    fun armed x hx => List.mem_singleton.mp hx ▸ rfl
  unfold eventTimeoutCb at h
  split at h
  -- the message went out: the buffer goes, and no timer is armed
  · split at h
    · split at h
      · exact absurd h (by simp)
      · obtain ⟨rfl, rfl⟩ := Prod.mk.inj (Option.some.inj h)
        exact ⟨hsend none, fun t ht => Or.inl ht⟩
    -- no buffer to retry with
    · split at h
      · obtain ⟨rfl, rfl⟩ := Prod.mk.inj (Option.some.inj h)
        exact ⟨hsend none, fun t ht => Or.inl ht⟩
      · split at h
        · exact absurd h (by simp)
        -- past resendTimeMax the chain ends, else it goes on with twice the time
        · split at h
          · split at h
            · exact absurd h (by simp)
            · obtain ⟨rfl, rfl⟩ := Prod.mk.inj (Option.some.inj h)
              exact ⟨hsend none, fun t ht => Or.inl ht⟩
          · simp only at h
            split at h
            · exact absurd h (by simp)
            · obtain ⟨rfl, rfl⟩ := Prod.mk.inj (Option.some.inj h)
              refine ⟨hsend _, fun t ht => ?_⟩
              rcases List.mem_append.mp ht with hold | hnew
              · exact Or.inl hold
              -- the timer armed again is for the same friend
              · obtain rfl := List.mem_singleton.mp hnew
                exact Or.inr rfl
  · obtain ⟨rfl, rfl⟩ := Prod.mk.inj (Option.some.inj h)
    exact ⟨fun x hx => absurd hx List.not_mem_nil, fun t ht => Or.inl ht⟩

end Welcome

namespace Process

variable {σ : Type} (D : Driver σ) (cfg : Config)

/-- The number of a friend whose request is among these callbacks, or `UINT32_MAX`, and then
toxcore refused one of them. -/
def Asked (is : List (Event × Outcomes)) (friends : FriendList) (friendNumber : Nat) : Prop :=
  (∃ i ∈ is, ∃ key, i.1 = .friendRequest key ∧ friends.publicKey friendNumber = some key) ∨
    friendNumber = uint32Max ∧ ∃ i ∈ is, ∃ key, i.1 = .friendRequest key ∧ i.2.added = false

/-- Friends keep their numbers, and a welcome goes to one who asked. -/
structure Addresses (is : List (Event × Outcomes)) (s s' : Process σ) (o : Output) : Prop where
  numbers : ∀ n key, s.friends.publicKey n = some key → s'.friends.publicKey n = some key
  welcome : ∀ x ∈ o.welcome, Asked is s'.friends x.friendNumber

variable {D cfg} {is : List (Event × Outcomes)}

theorem Asked.mono {friends friends' : FriendList} {n : Nat} (h : Asked is friends n)
    (hkeep : ∀ n key, friends.publicKey n = some key → friends'.publicKey n = some key) :
    Asked is friends' n := by
  rcases h with ⟨i, hi, key, hreq, hkey⟩ | hrefused
  · exact Or.inl ⟨i, hi, key, hreq, hkeep n key hkey⟩
  · exact Or.inr hrefused

theorem Asked.of_subset {is' : List (Event × Outcomes)} {friends : FriendList} {n : Nat}
    (h : Asked is friends n) (hmore : ∀ i ∈ is, i ∈ is') : Asked is' friends n := by
  rcases h with ⟨i, hi, hasked⟩ | ⟨hnobody, i, hi, hrefused⟩
  · exact Or.inl ⟨i, hmore i hi, hasked⟩
  · exact Or.inr ⟨hnobody, i, hmore i hi, hrefused⟩

/-- Whoever asks gets a number. -/
theorem asked_request {publicKey : PublicKey} {out : Outcomes}
    (hi : (.friendRequest publicKey, out) ∈ is) (friends : FriendList) :
    Asked is (friends.addNorequest publicKey out.added)
      (((friends.addNorequest publicKey out.added).byPublicKey publicKey).getD uint32Max) := by
  rcases FriendList.byPublicKey_addNorequest friends publicKey out.added with
    ⟨n, hn, hkey⟩ | ⟨hrefused, hnone⟩
  · rw [hn]
    exact Or.inl ⟨_, hi, publicKey, rfl, hkey⟩
  · rw [hnone]
    exact Or.inr ⟨rfl, _, hi, publicKey, rfl, hrefused⟩

/-- **One callback.** -/
theorem addresses_step {s s' : Process σ} {i : Event × Outcomes} {o : Output} (hi : i ∈ is)
    (htimers : ∀ t ∈ s.welcome.timers, Asked is s.friends t.friendNumber)
    (h : step D cfg s i = some (s', o)) :
    Addresses is s s' o ∧ ∀ t ∈ s'.welcome.timers, Asked is s'.friends t.friendNumber := by
  obtain ⟨e, out⟩ := i
  cases e with
  | friend friendNumber e =>
    simp only [step, friendCb] at h
    split at h
    · exact absurd h (by simp)
    · split at h
      · exact absurd h (by simp)
      · obtain ⟨rfl, rfl⟩ := Prod.mk.inj (Option.some.inj h)
        exact ⟨⟨fun _ _ hn => hn, fun x hx => absurd hx List.not_mem_nil⟩, htimers⟩
  | friendRequest publicKey =>
    have hkeep : ∀ n key, s.friends.publicKey n = some key →
        (s.friends.addNorequest publicKey out.added).publicKey n = some key :=
      fun n key hn => FriendList.publicKey_addNorequest hn publicKey out.added
    -- the number of the new friend is one that was asked for
    have hasked := asked_request hi s.friends
    simp only [step, friendRequestCb, Welcome.friendRequestCb] at h
    split at h
    · exact absurd h (by simp)
    · split at h
      · obtain ⟨rfl, rfl⟩ := Prod.mk.inj (Option.some.inj h)
        exact ⟨⟨hkeep, fun x hx => List.mem_singleton.mp hx ▸ hasked⟩,
          fun t ht => (htimers t ht).mono hkeep⟩
      · obtain ⟨rfl, rfl⟩ := Prod.mk.inj (Option.some.inj h)
        refine ⟨⟨hkeep, fun x hx => List.mem_singleton.mp hx ▸ hasked⟩, fun t ht => ?_⟩
        rcases List.mem_append.mp ht with hold | hnew
        · exact (htimers t hold).mono hkeep
        · obtain rfl := List.mem_singleton.mp hnew
          exact hasked
  | fileChunkRequest friendNumber fileNumber position length =>
    simp only [step, fileChunkRequestCb] at h
    split at h
    · exact absurd h (by simp)
    · split at h
      · obtain ⟨rfl, rfl⟩ := Prod.mk.inj (Option.some.inj h)
        exact ⟨⟨fun _ _ hn => hn, fun x hx => absurd hx List.not_mem_nil⟩, htimers⟩
      · exact absurd h (by simp)
  | timeout position =>
    simp only [step, timeoutCb, Welcome.step] at h
    split at h
    · exact absurd h (by simp)
    · next w attempts hcall =>
      obtain ⟨rfl, rfl⟩ := Prod.mk.inj (Option.some.inj h)
      split at hcall
      · obtain ⟨rfl, rfl⟩ := Prod.mk.inj (Option.some.inj hcall)
        exact ⟨⟨fun _ _ hn => hn, fun x hx => absurd hx List.not_mem_nil⟩, htimers⟩
      · next t ht =>
        have hasked := htimers t (List.mem_of_getElem? ht)
        -- a timer that goes off sends to its own friend
        obtain ⟨hsends, htimers'⟩ := Welcome.eventTimeoutCb_friend hcall
        refine ⟨⟨fun _ _ hn => hn, fun x hx => (hsends x hx) ▸ hasked⟩, fun t' ht' => ?_⟩
        rcases htimers' t' ht' with hold | hsame
        · exact htimers t' (List.mem_of_mem_eraseIdx hold)
        · exact hsame ▸ hasked

/-- **After any run** a pending retry is for a friend who asked in it. -/
theorem timers_asked {db : σ} {friends : FriendList} {tox : Tox} {files : FileSystem}
    {s : Process σ} {os : List Output}
    (hrun : (machine D cfg).run (init cfg db friends tox files) is = some (s, os)) :
    ∀ t ∈ s.welcome.timers, Asked is s.friends t.friendNumber :=
  StepMachine.run_keeps (fun s => ∀ t ∈ s.welcome.timers, Asked is s.friends t.friendNumber)
    (fun _ _ _ _ htimers hi hstep => (addresses_step hi htimers hstep).2)
    (StepMachine.along_of_forall (fun _ hi => hi) _) (fun _ ht => absurd ht List.not_mem_nil) hrun

variable (D cfg)

/-- **The welcome goes to those who asked.** After any run, friends keep their numbers in the
next callback, and each message of the welcome that it sends, the first or a retry after any
other callbacks, goes to the number of a friend who has asked; it goes to nobody only if
toxcore refused a request. -/
theorem welcome_asked (db : σ) (friends : FriendList) (tox : Tox) (files : FileSystem)
    {s s' : Process σ} {os : List Output} {i : Event × Outcomes} {o : Output}
    (hrun : (machine D cfg).run (init cfg db friends tox files) is = some (s, os))
    (hstep : (machine D cfg).step s i = some (s', o)) : Addresses (is ++ [i]) s s' o := by
  have hmore : ∀ j ∈ is, j ∈ is ++ [i] := fun j hj => List.mem_append_left _ hj
  have htimers := timers_asked hrun
  exact (addresses_step (List.mem_append_right _ (List.mem_singleton_self i))
    (fun t ht => (htimers t ht).of_subset hmore) hstep).1

/-- The first welcome is too early, and is sent again. -/
theorem welcome_asked_retry :
    ∃ s os s' o, (machine MySql.driver Config.sample).run
        sample
        [(.friendRequest sampleKey, Outcomes.sample)] = some (s, os) ∧
      (machine MySql.driver Config.sample).step s (.timeout 0, Outcomes.sample) = some (s', o) ∧
      o.welcome ≠ [] ∧
      Addresses ([(.friendRequest sampleKey, Outcomes.sample)] ++ [(.timeout 0, Outcomes.sample)])
        s s' o := by
  refine ⟨_, _, _, _, rfl, rfl, ?_, ?_⟩
  · exact List.cons_ne_nil _ _
  · exact welcome_asked MySql.driver Config.sample _ _ _ _ rfl rfl

end Process

end FindFriendBot
