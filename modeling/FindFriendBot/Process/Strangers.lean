import FindFriendBot.Friends.Share
import FindFriendBot.Process.Lives

/-!
# FindFriendBot — strangers

toxcore names a friend by a number, and `get_pk_by_id` does not look at whether the
number had a key. As long as toxcore names friends of its list, what a process keeps
is about them alone: whoever is not in the list has no entry, and the row of before.
The list has the friends of the start and those who asked. The entry under the empty
key, of a member whose `pk` could not be read, is nobody's.

* `keepsTo_step`        — one callback.
* `strangers_untouched` — every run.
-/

namespace FindFriendBot

namespace FriendList

/-- The bot spells the key of a friend like this. -/
def Spells (friends : FriendList) (k : Bytes) : Prop :=
  ∃ key, some key ∈ friends.keys ∧ key.pk.hex = k

/-- The friends are those of before, and perhaps the new one. -/
theorem mem_addNorequest {friends : FriendList} {key old : PublicKey} {added : Bool}
    (h : some old ∈ (friends.addNorequest key added).keys) :
    some old ∈ friends.keys ∨ old = key := by
  unfold addNorequest at h
  split at h
  · obtain ⟨i, hi, -, hothers⟩ := get_insertKey friends.keys key
    obtain ⟨j, hj⟩ := List.getElem?_of_mem h
    by_cases hji : j = i
    · rw [hji, hi] at hj
      exact Or.inr (Option.some.inj (Option.some.inj hj)).symm
    · exact Or.inl (List.mem_of_getElem? ((hothers j old hji).mp hj))
  · exact Or.inl h

end FriendList

namespace Process

variable {cfg : Config}

theorem Includes.spells {friends friends' : FriendList} (h : Includes friends friends') {k : Bytes}
    (hk : friends.Spells k) : friends'.Spells k := by
  obtain ⟨key, hkey, rfl⟩ := hk
  exact ⟨key, h key hkey, rfl⟩

/-- toxcore names a friend of its list. -/
def Named (s : Process MySql) (i : Event × Outcomes) : Prop :=
  match i.1 with
  | .friend friendNumber _ => (s.friends.publicKey friendNumber).isSome
  | _ => True

/-- `get_pk_by_id` then has the key of that friend. -/
theorem spells_pkById {friends : FriendList} {n : Nat} (h : (friends.publicKey n).isSome)
    (fromPk : PublicKey) : friends.Spells (friends.pkById fromPk n).hex := by
  obtain ⟨key, hkey⟩ := Option.isSome_iff_exists.mp h
  refine ⟨key, List.mem_of_getElem? (FriendList.publicKey_eq_some_iff.mp hkey), ?_⟩
  rw [FriendList.pkById, hkey, Option.getD_some]

/-- **One event** of the bot leaves the rows and entries of all others. -/
theorem others_kept (env : Env) {s s' : State MySql} {r : Reference.State MySql}
    (h : Refines s r) {e : FindFriendBot.Event} {pk : Pk} (hpk : e.pk? = some pk) {ans : Answers}
    {o : FindFriendBot.Output}
    (hstep : (Bot.machine MySql.driver env).step s (e, ans) = some (s', o)) {k : Bytes}
    (hk : k ≠ pk.hex) :
    s'.db.table.rows[k]? = s.db.table.rows[k]? ∧
      (k ≠ [] → s'.memberMgr.memberAt k = s.memberMgr.memberAt k) := by
  obtain ⟨hrefines, -⟩ := h.of_step hstep
  have hacts := Reference.next_actsOn env r ans hpk
  constructor
  · rw [hrefines.db, h.db]
    exact hacts.rows k hk
  · intro hnil
    rw [hrefines.memberAt, h.memberAt]
    exact hacts.registry k hk hnil

/-- Nothing that the process keeps is about a stranger. -/
structure KeepsTo (cfg : Config) (db : MySql) (s : Process MySql) : Prop where
  steady : Steady cfg s
  rows : ∀ k, ¬ s.friends.Spells k → s.session.db.table.rows[k]? = db.table.rows[k]?
  entries : ∀ k, k ≠ [] → ¬ s.friends.Spells k → s.session.memberMgr.memberAt k = none

/-- **One callback.** -/
theorem keepsTo_step {db : MySql} {s s' : Process MySql} {i : Event × Outcomes} {o : Output}
    (h : KeepsTo cfg db s) (hnamed : Named s i)
    (hstep : (machine MySql.driver cfg).step s i = some (s', o)) : KeepsTo cfg db s' := by
  obtain ⟨hsteady, hpass⟩ := passesOn_of_step h.steady hstep
  obtain ⟨hfriends, -⟩ := savedata_step hstep
  have hgrows : Includes s.friends s'.friends := hfriends ▸ includes_nextFriends s i
  obtain ⟨e, out⟩ := i
  -- what the callback does to the rows and entries of those who are strangers afterwards
  suffices hsame : ∀ k, ¬ s'.friends.Spells k →
      s'.session.db.table.rows[k]? = s.session.db.table.rows[k]? ∧
        (k ≠ [] → s'.session.memberMgr.memberAt k = s.session.memberMgr.memberAt k) by
    refine ⟨hsteady, fun k hk => ?_, fun k hnil hk => ?_⟩
    · rw [(hsame k hk).1]
      exact h.rows k fun hspells => hk (hgrows.spells hspells)
    · rw [(hsame k hk).2 hnil]
      exact h.entries k hnil fun hspells => hk (hgrows.spells hspells)
  obtain ⟨ps, hbot, -⟩ := hpass.bot
  cases e with
  | friend friendNumber e =>
    -- the callback is about a friend of the list, and k is not that friend's key
    obtain ⟨s₁, o₁, os, hone, hrest, -⟩ := StepMachine.run_cons_iff.mp hbot
    obtain ⟨rfl, -⟩ := Prod.mk.inj (Option.some.inj hrest)
    have hpk : (e.toEvent (s.friends.pkById out.fromPk friendNumber)).pk? =
        some (s.friends.pkById out.fromPk friendNumber) := by
      cases e <;> rfl
    intro k hk
    refine others_kept cfg.env (refines_state h.steady.idle s.tox) hpk hone fun heq => hk ?_
    rw [heq]
    exact hgrows.spells (spells_pkById hnamed out.fromPk)
  | _ =>
    -- the session is left alone
    have hstate : state s.session s.tox = state s'.session s'.tox :=
      (Prod.mk.inj (Option.some.inj hbot)).1
    have hmgr : s.session.memberMgr = s'.session.memberMgr := congrArg State.memberMgr hstate
    have hdb : s.session.db = s'.session.db := congrArg State.db hstate
    exact fun k _ => ⟨by rw [hdb], fun _ => by rw [hmgr]⟩

theorem keepsTo_init (cfg : Config) (db : MySql) (friends : FriendList) (tox : Tox)
    (files : FileSystem) : KeepsTo cfg db (init cfg db friends tox files) where
  steady := steady_init cfg db friends tox files
  rows := fun _ _ => rfl
  entries := fun _ _ _ => rfl

/-- The friends of the start, and those who asked. -/
theorem friends_of_run {db : MySql} {friends : FriendList} {tox : Tox} {files : FileSystem}
    {is : List (Event × Outcomes)} {t : Process MySql} {os : List Output}
    (hrun : (machine MySql.driver cfg).run (init cfg db friends tox files) is = some (t, os)) :
    ∀ key, some key ∈ t.friends.keys →
      some key ∈ friends.keys ∨ ∃ out, (.friendRequest key, out) ∈ is := by
  refine StepMachine.run_keeps
    (fun s => ∀ key, some key ∈ s.friends.keys →
      some key ∈ friends.keys ∨ ∃ out, (.friendRequest key, out) ∈ is) ?_
    (StepMachine.along_of_forall (fun _ hi => hi) _) (fun _ hkey => Or.inl hkey) hrun
  intro s i s' o hfriends hi hstep key hkey
  rw [(savedata_step hstep).1] at hkey
  obtain ⟨e, out⟩ := i
  cases e with
  | friendRequest publicKey =>
    rcases FriendList.mem_addNorequest hkey with hold | rfl
    · exact hfriends key hold
    · exact Or.inr ⟨out, hi⟩
  | _ => exact hfriends key hkey

/-- **Strangers.** After any callbacks that name friends of toxcore's list, with any outcome of
every call: who is not in the list has no entry, and has the row that was there at the start, or
none as before; and the list has nobody but the friends of the start and those who asked. -/
theorem strangers_untouched (cfg : Config) (db : MySql) (friends : FriendList) (tox : Tox)
    (files : FileSystem) {is : List (Event × Outcomes)} {t : Process MySql} {os : List Output}
    (hnamed : (machine MySql.driver cfg).Along Named (init cfg db friends tox files) is)
    (hrun : (machine MySql.driver cfg).run (init cfg db friends tox files) is = some (t, os)) :
    (∀ key, some key ∈ t.friends.keys →
        some key ∈ friends.keys ∨ ∃ out, (.friendRequest key, out) ∈ is) ∧
      ∀ k, ¬ t.friends.Spells k → t.session.db.table.rows[k]? = db.table.rows[k]? ∧
        (k ≠ [] → t.session.memberMgr.memberAt k = none) := by
  have hkeeps : KeepsTo cfg db t := StepMachine.run_keeps (KeepsTo cfg db)
    (fun _ _ _ _ h hi hstep => keepsTo_step h hi hstep) hnamed
    (keepsTo_init cfg db friends tox files) hrun
  exact ⟨friends_of_run hrun, fun k hk => ⟨hkeeps.rows k hk, fun hnil => hkeeps.entries k hnil hk⟩⟩

theorem sampleRequest_named :
    (machine MySql.driver Config.sample).Along Named sample sampleRequest := by
  refine ⟨trivial, fun s₁ o₁ h₁ => ?_⟩
  obtain ⟨rfl, -⟩ := Prod.mk.inj (Option.some.inj h₁)
  refine ⟨rfl, fun s₂ o₂ h₂ => ?_⟩
  obtain ⟨rfl, -⟩ := Prod.mk.inj (Option.some.inj h₂)
  exact ⟨rfl, fun _ _ _ => trivial⟩

/-- A friend asks, comes online and starts: there is a row, and it is theirs. -/
theorem strangers_untouched_request :
    ∃ t os, (machine MySql.driver Config.sample).run sample sampleRequest = some (t, os) ∧
      t.session.db.table.rows.size = 1 ∧
      ∀ k, ¬ t.friends.Spells k → t.session.db.table.rows[k]? = none :=
  ⟨_, _, rfl, rfl, fun k hk => ((strangers_untouched Config.sample _ _ _ _ sampleRequest_named
    rfl).2 k hk).1⟩

end Process

end FindFriendBot
