import FindFriendBot.Registry.Ownership
import FindFriendBot.Registry.Reference

/-!
# FindFriendBot — the bot refines the reference bot

Forward simulation along `Refines`: the registry is owned, its contents are the
reference registry, and the database and toxcore are the same. Every event of
the bot is defined, answers as the reference bot does and leads to related
states, whatever the driver answers.

The same lemmas follow the objects: starting from a state in which no object is
lost, an event loses one exactly when it builds a member whose `pk()` is already
registered (`Clash`), because `add_member` then drops the new pointer.

* `step_sim` — one event.
* `run_sim`  — every run from a fresh process.
-/

namespace FindFriendBot

variable {σ : Type}

/-- The simulation relation. -/
structure Refines (s : State σ) (r : Reference.State σ) : Prop where
  owned : s.memberMgr.Owned
  contents : s.memberMgr.contents = r.registry
  db : s.db = r.db
  tox : s.tox = r.tox

theorem Refines.memberAt {s : State σ} {r : Reference.State σ} (h : Refines s r) (k : Bytes) :
    s.memberMgr.memberAt k = r.registry[k]? := by
  rw [h.owned.memberAt_eq, h.contents]

theorem Refines.mem_iff {s : State σ} {r : Reference.State σ} (h : Refines s r) (k : Bytes) :
    k ∈ s.memberMgr.onlineMember ↔ k ∈ r.registry := by
  rw [← MemberMgr.mem_contents_iff, h.contents]

/-- The object count across an event that may or may not clash. -/
def LosesIff (mgr mgr' : MemberMgr) (clash : Prop) : Prop :=
  mgr.lost = ∅ → (mgr'.lost = ∅ ↔ ¬ clash)

theorem LosesIff.of_eq {mgr mgr' : MemberMgr} {clash : Prop} (h : mgr'.lost = mgr.lost)
    (hno : ¬ clash) : LosesIff mgr mgr' clash :=
  fun hempty => ⟨fun _ => hno, fun _ => h.trans hempty⟩

namespace Reference

/-- The member an event builds and hands to `add_member`, if any. -/
def built (D : Driver σ) (s : State σ) (e : Event) (ans : Answers) : Option Member :=
  match e with
  | .connectionStatus pk status => if status ≠ .none then (findFriend D pk.hex s.db).1 else none
  | .message pk msg =>
    match msg.dispatch with
    | some (.start, tokId) =>
      if tokId = [] then none
      else
        match getName s.tox pk ans, getStatusMessage s.tox pk ans with
        | some name, some statusMessage => some (startMember pk tokId name statusMessage)
        | _, _ => none
    | _ => none
  | _ => none

/-- The event builds a member under a key that is taken. -/
def Clash (D : Driver σ) (s : State σ) (e : Event) (ans : Answers) : Prop :=
  ∃ m, built D s e ans = some m ∧ m.pk ∈ s.registry

end Reference

-- ---------------------------------------------------------------------------
-- Registering a new object
-- ---------------------------------------------------------------------------

/-- `allocate`, the setters and `add_member` in a row: the stale contents of a
recycled object are gone before the first setter, so the entry is a function of
the setters alone. -/
theorem register_spec {mgr : MemberMgr} (h : mgr.Owned) :
    ∃ a mgr₁, mgr.allocate = some (some a, mgr₁) ∧ mgr₁.heap.read a = some Member.new ∧
      ∀ f : Member → Member, ∃ mgr₂ mgr₃, mgr₁.update (some a) f = some mgr₂ ∧
        mgr₂.addMember (some a) = some mgr₃ ∧ mgr₃.Owned ∧
        mgr₃.contents = Reference.register mgr.contents (some (f Member.new)) ∧
        LosesIff mgr mgr₃ ((f Member.new).pk ∈ mgr.contents) := by
  obtain ⟨a, mgr₁, halloc, howned₁, hcont₁, hlost₁, hfresh, hread₁⟩ := MemberMgr.allocate_spec h
  -- nobody holds the member between its allocation and its registration
  have ha₁ : a ∈ mgr₁.lost := hlost₁ ▸ Set.mem_insert a mgr.lost
  refine ⟨a, mgr₁, halloc, hread₁, ?_⟩
  intro f
  obtain ⟨mgr₂, hupd, howned₂, hmap₂, hcont₂, hlost₂, hread₂⟩ :=
    MemberMgr.update_unheld howned₁ ha₁ f
  rw [hread₁, Option.map_some] at hread₂
  obtain ⟨mgr₃, hadd, howned₃, hcont₃, hfree, htaken⟩ :=
    MemberMgr.addMember_spec howned₂ (hlost₂ ▸ ha₁) hread₂
  have hkeys : ∀ k, k ∈ mgr₂.onlineMember ↔ k ∈ mgr.contents := by
    intro k
    rw [← MemberMgr.mem_contents_iff, hcont₂, hcont₁]
  refine ⟨mgr₂, mgr₃, hupd, hadd, howned₃, ?_, ?_⟩
  · rw [hcont₃, hcont₂, hcont₁]
    rfl
  · intro hempty
    -- insert does not replace: under a taken key the new member is lost
    by_cases hin : (f Member.new).pk ∈ mgr.contents
    · have hlost : mgr₃.lost = insert a mgr.lost := by
        rw [htaken ((hkeys _).mpr hin), hlost₂, hlost₁]
      have hne : mgr₃.lost ≠ ∅ := by
        rw [hlost]
        exact (Set.insert_nonempty a _).ne_empty
      exact ⟨fun hn => absurd hn hne, fun hn => absurd hin hn⟩
    · have hlost : mgr₃.lost = mgr.lost := by
        rw [hfree fun hin' => hin ((hkeys _).mp hin'), hlost₂, hlost₁]
        exact Set.insert_sdiff_self_of_notMem hfresh
      exact ⟨fun _ => hin, fun _ => hlost.trans hempty⟩

/-- The cache update of the name, status and `/set` handlers: a modification of
one key. -/
theorem updateCache_spec {mgr : MemberMgr} (h : mgr.Owned) (k : Bytes) {f : Member → Member}
    (hpk : ∀ m, (f m).pk = m.pk) :
    ∃ mgr', Assisant.updateCache mgr k f = some mgr' ∧ mgr'.Owned ∧
      mgr'.contents = mgr.contents.modify k f ∧ mgr'.lost = mgr.lost := by
  rcases h.find k with ⟨-, hf, hc⟩ | ⟨a, m, hk, hf, -, -, -⟩
  -- no entry, nothing to update
  · refine ⟨mgr, by rw [Assisant.updateCache, hf], h, ?_, rfl⟩
    apply Std.ExtTreeMap.ext_getElem?
    intro k'
    rw [OrderedMap.get_modify]
    split
    · next heq => rw [← heq, hc, Option.map_none]
    · rfl
  · obtain ⟨mgr', hupd, howned, hcont, hlost⟩ := MemberMgr.update_held h hk hpk
    exact ⟨mgr', by rw [Assisant.updateCache, hf]; exact hupd, howned, hcont, hlost⟩

-- ---------------------------------------------------------------------------
-- Callbacks
-- ---------------------------------------------------------------------------

variable (D : Driver σ) (env : Env)

theorem friendConnectionStatusCb_sim {s : State σ} {r : Reference.State σ} (h : Refines s r)
    (pk : Pk) (status : ToxConnection) (ans : Answers) :
    ∃ s', Assisant.friendConnectionStatusCb D s pk status = some s' ∧
      Refines s' (Reference.friendConnectionStatusCb D r pk status) ∧
      LosesIff s.memberMgr s'.memberMgr
        (Reference.Clash D r (.connectionStatus pk status) ans) := by
  obtain ⟨howned, hcont, hdb, htox⟩ := h
  by_cases hst : status = .none
  · -- the friend went offline
    obtain ⟨mgr', hdel, howned', hcont', hlost'⟩ := MemberMgr.delMember_spec howned pk.hex
    refine ⟨{ s with memberMgr := mgr' }, ?_, ?_, LosesIff.of_eq hlost' ?_⟩
    · simp [Assisant.friendConnectionStatusCb, hst, hdel]
    · refine ⟨howned', ?_, ?_, ?_⟩
      · simp [Reference.friendConnectionStatusCb, hst, hcont', hcont]
      · simp [Reference.friendConnectionStatusCb, hst, hdb]
      · simp [Reference.friendConnectionStatusCb, hst, htox]
    · rintro ⟨m, hm, -⟩
      simp [Reference.built, hst] at hm
  · cases hsel : MemberModel.selectRow D pk.hex s.db with
    | mk row db =>
      cases row with
      | none =>
        -- find_friend returns NULL, and nobody is registered
        refine ⟨{ s with db := db }, ?_, ?_, LosesIff.of_eq rfl ?_⟩
        · simp [Assisant.friendConnectionStatusCb, hst, MemberModel.findFriend, hsel]
        · rw [hdb] at hsel
          refine ⟨howned, ?_, ?_, ?_⟩
          · simp [Reference.friendConnectionStatusCb, hst, Reference.findFriend, hsel,
              Reference.register, hcont]
          · simp [Reference.friendConnectionStatusCb, hst, Reference.findFriend, hsel]
          · simp [Reference.friendConnectionStatusCb, hst, htox]
        · rintro ⟨m, hm, -⟩
          rw [hdb] at hsel
          simp [Reference.built, hst, Reference.findFriend, hsel] at hm
      | some row =>
        -- the row is copied into a fresh member as far as the columns could be read
        obtain ⟨a, mgr₁, halloc, hread, hreg⟩ := register_spec howned
        cases hfill : MemberModel.fillMember D (MemberModel.columnSetters row) Member.new db with
        | mk filled db' =>
          obtain ⟨mgr₂, mgr₃, hupd, hadd, howned₃, hcont₃, hlost₃⟩ := hreg fun _ => filled
          refine ⟨{ s with memberMgr := mgr₃, db := db' }, ?_, ?_, ?_⟩
          · simp [Assisant.friendConnectionStatusCb, hst, MemberModel.findFriend, hsel, halloc,
              hread, hfill, hupd, hadd]
          · rw [hdb] at hsel
            refine ⟨howned₃, ?_, ?_, ?_⟩
            · simp [Reference.friendConnectionStatusCb, hst, Reference.findFriend, hsel, hfill,
                hcont₃, hcont]
            · simp [Reference.friendConnectionStatusCb, hst, Reference.findFriend, hsel, hfill]
            · simp [Reference.friendConnectionStatusCb, hst, htox]
          · rw [hdb] at hsel
            -- what was built clashes if its key is taken
            have hclash : Reference.Clash D r (.connectionStatus pk status) ans ↔
                filled.pk ∈ s.memberMgr.contents := by
              simp [Reference.Clash, Reference.built, hst, Reference.findFriend, hsel, hfill, hcont]
            unfold LosesIff
            rw [hclash]
            exact hlost₃

theorem friendNameCb_sim {s : State σ} {r : Reference.State σ} (h : Refines s r)
    (pk : Pk) (name : Bytes) (ans : Answers) :
    ∃ s', Assisant.friendNameCb D s pk name ans = some s' ∧
      Refines s' (Reference.friendNameCb D r pk name ans) ∧
      s'.memberMgr.lost = s.memberMgr.lost := by
  obtain ⟨howned, hcont, hdb, htox⟩ := h
  obtain ⟨mgr, hrun, howned', hcont', hlost'⟩ :=
    updateCache_spec howned pk.hex (Member.setNickName_pk · (cStr name))
  refine ⟨{ s with
      memberMgr := mgr
      db := (MemberModel.updateFriendName D pk.hex (cStr name) ans.time s.db).2 },
    ?_, ⟨howned', ?_, ?_, htox⟩, hlost'⟩
  · simp only [Assisant.friendNameCb, hrun]
  · rw [hcont', hcont]
    rfl
  · rw [hdb]
    rfl

theorem friendStatusMessageCb_sim {s : State σ} {r : Reference.State σ} (h : Refines s r)
    (pk : Pk) (message : Bytes) (ans : Answers) :
    ∃ s', Assisant.friendStatusMessageCb D s pk message ans = some s' ∧
      Refines s' (Reference.friendStatusMessageCb D r pk message ans) ∧
      s'.memberMgr.lost = s.memberMgr.lost := by
  obtain ⟨howned, hcont, hdb, htox⟩ := h
  obtain ⟨mgr, hrun, howned', hcont', hlost'⟩ :=
    updateCache_spec howned pk.hex (Member.setBio_pk · (cStr message))
  refine ⟨{ s with
      memberMgr := mgr
      db := (MemberModel.updateFriendBio D pk.hex (cStr message) ans.time s.db).2 },
    ?_, ⟨howned', ?_, ?_, htox⟩, hlost'⟩
  · simp only [Assisant.friendStatusMessageCb, hrun]
  · rw [hcont', hcont]
    rfl
  · rw [hdb]
    rfl

-- ---------------------------------------------------------------------------
-- Command handlers
-- ---------------------------------------------------------------------------

theorem cmdStart_sim {s : State σ} {r : Reference.State σ} (h : Refines s r)
    (pk : Pk) (ans : Answers) (tokId msgRes : Bytes) :
    ∃ s', Assisant.cmdStart D env s pk ans tokId msgRes =
        some (s', (Reference.cmdStart D env r pk ans tokId msgRes).2) ∧
      Refines s' (Reference.cmdStart D env r pk ans tokId msgRes).1 ∧
      LosesIff s.memberMgr s'.memberMgr (tokId ≠ [] ∧ ∃ name statusMessage,
        getName r.tox pk ans = some name ∧ getStatusMessage r.tox pk ans = some statusMessage ∧
        (Reference.startMember pk tokId name statusMessage).pk ∈ r.registry) := by
  by_cases htok : tokId = []
  -- no token: only the answer
  · refine ⟨s, ?_, ?_, LosesIff.of_eq rfl fun hn => hn.1 htok⟩
    · simp [Assisant.cmdStart, Reference.cmdStart, htok]
    · simpa [Reference.cmdStart, htok] using h
  · obtain ⟨howned, hcont, hdb, htox⟩ := h
    -- a query failed: nothing changes and nothing is said
    have hsilent : ∀ (hq : getName r.tox pk ans = none ∨ getStatusMessage r.tox pk ans = none),
        ∃ s', Assisant.cmdStart D env s pk ans tokId msgRes =
            some (s', (Reference.cmdStart D env r pk ans tokId msgRes).2) ∧
          Refines s' (Reference.cmdStart D env r pk ans tokId msgRes).1 ∧
          LosesIff s.memberMgr s'.memberMgr (tokId ≠ [] ∧ ∃ name statusMessage,
            getName r.tox pk ans = some name ∧
            getStatusMessage r.tox pk ans = some statusMessage ∧
            (Reference.startMember pk tokId name statusMessage).pk ∈ r.registry) := by
      intro hq
      refine ⟨s, ?_, ?_, LosesIff.of_eq rfl ?_⟩
      · rcases hq with hq | hq <;> simp [Assisant.cmdStart, Reference.cmdStart, htok, htox, hq]
      · rcases hq with hq | hq <;>
          simp [Reference.cmdStart, htok, hq, Refines.mk howned hcont hdb htox]
      · rintro ⟨-, name, statusMessage, hn, hs, -⟩
        rcases hq with hq | hq
        · exact absurd (hn.symm.trans hq) (by simp)
        · exact absurd (hs.symm.trans hq) (by simp)
    cases hname : getName r.tox pk ans with
    | none => exact hname ▸ hsilent (Or.inl hname)
    | some name =>
      cases hstatus : getStatusMessage r.tox pk ans with
      | none => exact hname ▸ hstatus ▸ hsilent (Or.inr hstatus)
      | some statusMessage =>
        -- both queries are answered: the member is built, filled and filed
        obtain ⟨a, mgr₁, halloc, -, hreg⟩ := register_spec howned
        obtain ⟨mgr₂, mgr₃, hupd, hadd, howned₃, hcont₃, hlost₃⟩ :=
          hreg (Assisant.startSetters pk tokId name statusMessage)
        refine ⟨{ s with
            memberMgr := mgr₃
            db := (MemberModel.addFriend D tokId pk.hex (cStr name) (cStr statusMessage)
              ans.time ans.time s.db).2 }, ?_, ⟨howned₃, ?_, ?_, ?_⟩, ?_⟩
        · simp [Assisant.cmdStart, Reference.cmdStart, htok, htox, hname, hstatus, halloc, hupd,
            hadd]
        · simp [Reference.cmdStart, htok, hname, hstatus, hcont₃, hcont, Reference.startMember]
        · simp [Reference.cmdStart, htok, hname, hstatus, hdb]
        · simp [Reference.cmdStart, htok, hname, hstatus, htox]
        · rw [hcont] at hlost₃
          simpa [htok, LosesIff, Reference.startMember] using hlost₃

theorem cmdStop_sim {s : State σ} {r : Reference.State σ} (h : Refines s r) (pk : Pk) :
    ∃ s', Assisant.cmdStop D env s pk = some (s', (Reference.cmdStop D env r pk).2) ∧
      Refines s' (Reference.cmdStop D env r pk).1 ∧
      s'.memberMgr.lost = s.memberMgr.lost := by
  obtain ⟨howned, hcont, hdb, htox⟩ := h
  obtain ⟨mgr', hdel, howned', hcont', hlost'⟩ := MemberMgr.delMember_spec howned pk.hex
  refine ⟨{ s with memberMgr := mgr', db := (MemberModel.delFriend D pk.hex s.db).2 }, ?_,
    ⟨howned', ?_, ?_, htox⟩, hlost'⟩
  · simp [Assisant.cmdStop, Reference.cmdStop, hdel, hdb]
  · simp [Reference.cmdStop, hcont', hcont]
  · simp [Reference.cmdStop, hdb]

theorem cmdSet_sim {s : State σ} {r : Reference.State σ} (h : Refines s r)
    (pk : Pk) (ans : Answers) (signature : Bytes) :
    ∃ s', Assisant.cmdSet D env s pk ans signature =
        some (s', (Reference.cmdSet D env r pk ans signature).2) ∧
      Refines s' (Reference.cmdSet D env r pk ans signature).1 ∧
      s'.memberMgr.lost = s.memberMgr.lost := by
  by_cases hsig : signature = []
  -- no signature: only the answer
  · refine ⟨s, ?_, ?_, rfl⟩
    · simp [Assisant.cmdSet, Reference.cmdSet, hsig]
    · simpa [Reference.cmdSet, hsig] using h
  · obtain ⟨howned, hcont, hdb, htox⟩ := h
    obtain ⟨mgr, hrun, howned', hcont', hlost'⟩ :=
      updateCache_spec howned pk.hex (Member.setSignature_pk · signature)
    refine ⟨{ s with
        memberMgr := mgr
        db := (MemberModel.updateFriendSignature D pk.hex signature ans.time s.db).2 }, ?_,
      ⟨howned', ?_, ?_, ?_⟩, hlost'⟩
    · simp [Assisant.cmdSet, Reference.cmdSet, hsig, hrun, hdb]
    · simp [Reference.cmdSet, hsig, hcont', hcont]
    · simp [Reference.cmdSet, hsig, hdb]
    · simp [Reference.cmdSet, hsig, htox]

theorem cmdGet_sim {s : State σ} {r : Reference.State σ} (h : Refines s r)
    (pk : Pk) (ans : Answers) :
    Assisant.cmdGet env s pk ans = some (s, (Reference.cmdGet env r pk ans).2) ∧
      (Reference.cmdGet env r pk ans).1 = r := by
  obtain ⟨howned, hcont, hdb, htox⟩ := h
  rcases MemberMgr.randomMember_cases howned pk.hex ans.rand with
    ⟨hempty, hnone⟩ | ⟨k, a, m, hidx, hsome, -, -, hread, -⟩
  -- the map and its contents have the same keys, so the same draw
  · have href : Reference.randomMember r.registry pk.hex ans.rand = none := by
      rw [Reference.randomMember, ← hcont, MemberMgr.contents, ← OrderedMap.map_erase, hempty]
      simp
    simp [Assisant.cmdGet, Reference.cmdGet, hnone, href]
  -- the same index into the same list
  · have href : Reference.randomMember r.registry pk.hex ans.rand = some m := by
      rw [Reference.randomMember, ← hcont, MemberMgr.contents, ← OrderedMap.map_erase,
        Std.ExtTreeMap.toList_map, Std.ExtTreeMap.size_map, List.getElem?_map, hidx]
      simp [hread]
    simp [Assisant.cmdGet, Reference.cmdGet, hsome, href, hread, Env.format_get]

theorem cmdInfo_sim {s : State σ} {r : Reference.State σ} (h : Refines s r)
    (pk : Pk) (ans : Answers) (msgRes : Bytes) :
    Assisant.cmdInfo env s pk ans msgRes = some (s, (Reference.cmdInfo env r pk ans msgRes).2) ∧
      (Reference.cmdInfo env r pk ans msgRes).1 = r := by
  obtain ⟨howned, hcont, hdb, htox⟩ := h
  rcases howned.find pk.hex with ⟨-, hf, hc⟩ | ⟨a, m, -, hf, hread, -, hc⟩
  · rw [hcont] at hc
    cases hname : getName r.tox pk ans with
    | none => simp [Assisant.cmdInfo, Reference.cmdInfo, hf, hc, htox, hname]
    | some name =>
      cases hstatus : getStatusMessage r.tox pk ans with
      | none => simp [Assisant.cmdInfo, Reference.cmdInfo, hf, hc, htox, hname, hstatus]
      | some statusMessage =>
        simp [Assisant.cmdInfo, Reference.cmdInfo, hf, hc, htox, hname, hstatus, Env.format_info]
  · rw [hcont] at hc
    simp [Assisant.cmdInfo, Reference.cmdInfo, hf, hc, hread, Env.format_info]

-- ---------------------------------------------------------------------------
-- Events and runs
-- ---------------------------------------------------------------------------

theorem friendMessageCb_sim {s : State σ} {r : Reference.State σ} (h : Refines s r)
    (pk : Pk) (msg : Message) (ans : Answers) :
    ∃ s', Assisant.friendMessageCb D env s pk msg ans =
        some (s', (Reference.friendMessageCb D env r pk msg ans).2) ∧
      Refines s' (Reference.friendMessageCb D env r pk msg ans).1 ∧
      LosesIff s.memberMgr s'.memberMgr (Reference.Clash D r (.message pk msg) ans) := by
  obtain ⟨cmd, param, hdisp⟩ := msg.dispatch_isSome
  -- every command but /start builds no member
  have hquiet : ∀ c, msg.dispatch = some (c, param) → c ≠ .start →
      ¬ Reference.Clash D r (.message pk msg) ans := by
    rintro c hc hne ⟨m, hm, -⟩
    simp only [Reference.built, hc] at hm
    split at hm
    · next heq => exact hne (Prod.mk.inj (Option.some.inj heq)).1
    · exact absurd hm (by simp)
  simp only [Assisant.friendMessageCb, Reference.friendMessageCb, hdisp]
  cases cmd with
  | start =>
    obtain ⟨s', hrun, href, hlost⟩ :=
      cmdStart_sim D env h pk ans param env.conf.descUnknownCmd
    refine ⟨s', by simp only [Assisant.runCmd, hrun, Reference.runCmd]; rfl, href, ?_⟩
    -- /start loses its member if the sender is registered already
    have hclash : Reference.Clash D r (.message pk msg) ans ↔
        (param ≠ [] ∧ ∃ name statusMessage, getName r.tox pk ans = some name ∧
          getStatusMessage r.tox pk ans = some statusMessage ∧
          (Reference.startMember pk param name statusMessage).pk ∈ r.registry) := by
      by_cases hparam : param = []
      · simp [Reference.Clash, Reference.built, hdisp, hparam]
      · cases hname : getName r.tox pk ans with
        | none => simp [Reference.Clash, Reference.built, hdisp, hname]
        | some name =>
          cases hstatus : getStatusMessage r.tox pk ans with
          | none => simp [Reference.Clash, Reference.built, hdisp, hstatus]
          | some statusMessage =>
            simp [Reference.Clash, Reference.built, hdisp, hparam, hname, hstatus]
    rw [LosesIff, hclash]
    exact hlost
  | stop =>
    obtain ⟨s', hrun, href, hlost⟩ := cmdStop_sim D env h pk
    exact ⟨s', by simp only [Assisant.runCmd, hrun, Reference.runCmd]; rfl, href,
      LosesIff.of_eq hlost (hquiet _ hdisp (by simp))⟩
  | set =>
    obtain ⟨s', hrun, href, hlost⟩ := cmdSet_sim D env h pk ans param
    exact ⟨s', by simp only [Assisant.runCmd, hrun, Reference.runCmd]; rfl, href,
      LosesIff.of_eq hlost (hquiet _ hdisp (by simp))⟩
  | get =>
    obtain ⟨hrun, hsame⟩ := cmdGet_sim env h pk ans
    exact ⟨s, by simp only [Assisant.runCmd, hrun, Reference.runCmd]; rfl, hsame.symm ▸ h,
      LosesIff.of_eq rfl (hquiet _ hdisp (by simp))⟩
  | info =>
    obtain ⟨hrun, hsame⟩ := cmdInfo_sim env h pk ans env.conf.descUnknownCmd
    exact ⟨s, by simp only [Assisant.runCmd, hrun, Reference.runCmd]; rfl, hsame.symm ▸ h,
      LosesIff.of_eq rfl (hquiet _ hdisp (by simp))⟩
  | help => exact ⟨s, rfl, h, LosesIff.of_eq rfl (hquiet _ hdisp (by simp))⟩
  | readme => exact ⟨s, rfl, h, LosesIff.of_eq rfl (hquiet _ hdisp (by simp))⟩
  | unknown => exact ⟨s, rfl, h, LosesIff.of_eq rfl (hquiet _ hdisp (by simp))⟩

theorem handle_sim {s : State σ} {r : Reference.State σ} (h : Refines s r)
    (e : Event) (ans : Answers) :
    ∃ s', Bot.handle D env s e ans = some (s', (Reference.handle D env r e ans).2) ∧
      Refines s' (Reference.handle D env r e ans).1 ∧
      LosesIff s.memberMgr s'.memberMgr (Reference.Clash D r e ans) := by
  cases e with
  | connectionStatus pk status =>
    obtain ⟨s', hrun, href, hlost⟩ := friendConnectionStatusCb_sim D h pk status ans
    exact ⟨s', by simp only [Bot.handle, hrun, Option.map_some, Reference.handle], href, hlost⟩
  | message pk msg => exact friendMessageCb_sim D env h pk msg ans
  | name pk name =>
    obtain ⟨s', hrun, href, hlost⟩ := friendNameCb_sim D h pk name ans
    refine ⟨s', by simp only [Bot.handle, hrun, Option.map_some, Reference.handle], href,
      LosesIff.of_eq hlost ?_⟩
    simp [Reference.Clash, Reference.built]
  | statusMessage pk message =>
    obtain ⟨s', hrun, href, hlost⟩ := friendStatusMessageCb_sim D h pk message ans
    refine ⟨s', by simp only [Bot.handle, hrun, Option.map_some, Reference.handle], href,
      LosesIff.of_eq hlost ?_⟩
    simp [Reference.Clash, Reference.built]
  | restart =>
    -- a new process starts with an empty registry
    refine ⟨_, rfl, ⟨MemberMgr.owned_init, MemberMgr.contents_init, h.db, h.tox⟩, fun _ => ?_⟩
    simp [Reference.Clash, Reference.built, MemberMgr.lost_init]

/-- **One event.** From related states the bot's step is defined, gives the
reference output and leads to related states. -/
theorem step_sim {s : State σ} {r : Reference.State σ} (h : Refines s r) (i : Input) :
    ∃ s', Bot.step D env s i = some (s', (Reference.step D env r i).2) ∧
      Refines s' (Reference.step D env r i).1 ∧
      LosesIff s.memberMgr s'.memberMgr
        (Reference.Clash D { r with db := D.begin i.2.sql r.db } i.1 i.2) := by
  -- the throw of the event is set on both sides
  have hbegin : Refines { s with db := D.begin i.2.sql s.db }
      { r with db := D.begin i.2.sql r.db } :=
    ⟨h.owned, h.contents, by rw [h.db], h.tox⟩
  obtain ⟨s', hrun, href, hlost⟩ := handle_sim D env hbegin i.1 i.2
  refine ⟨{ s' with tox := s'.tox.apply i.1 }, ?_, ?_, hlost⟩
  -- the number of members is that of the contents
  · simp only [Bot.step, hrun, Reference.step, MemberMgr.onlineMemberNum]
    rw [← MemberMgr.size_contents, href.contents]
  · exact ⟨href.owned, href.contents, href.db, by rw [href.tox]; rfl⟩

/-- Fresh processes are related. -/
theorem refines_init (db : σ) (tox : Tox) :
    Refines (Bot.init db tox) (Reference.init db tox) :=
  ⟨MemberMgr.owned_init, MemberMgr.contents_init, rfl, rfl⟩

/-- **Every run** is defined, gives the reference outputs and ends in related
states. -/
theorem run_sim (is : List Input) {s : State σ} {r : Reference.State σ} (h : Refines s r) :
    ∃ s' r' os, (Bot.machine D env).run s is = some (s', os) ∧
      (Reference.machine D env).run r is = some (r', os) ∧ Refines s' r' := by
  refine StepMachine.run_simulation ?_ is s r h
  intro s r i h
  obtain ⟨s', hstep, href, -⟩ := step_sim D env h i
  exact ⟨s', _, _, hstep, rfl, href⟩

/-- **No pointer shows.** The bot and the reference bot answer every event of every
run with the same reply and the same member count. -/
theorem outputs_eq_reference (db : σ) (tox : Tox) (is : List Input) :
    ∃ s r os, (Bot.machine D env).run (Bot.init db tox) is = some (s, os) ∧
      (Reference.machine D env).run (Reference.init db tox) is = some (r, os) := by
  obtain ⟨s, r, os, hrun, href, -⟩ := run_sim D env is (refines_init db tox)
  exact ⟨s, r, os, hrun, href⟩

/-- A state the bot reaches is related to one the reference bot reaches. -/
theorem reachable_refines {db : σ} {tox : Tox} {is : List Input} {s : State σ}
    {os : List Output} (h : (Bot.machine D env).run (Bot.init db tox) is = some (s, os)) :
    ∃ r, (Reference.machine D env).run (Reference.init db tox) is = some (r, os) ∧
      Refines s r := by
  obtain ⟨s', r', os', hrun, href, hrel⟩ := run_sim D env is (refines_init db tox)
  rw [h, Option.some.injEq, Prod.mk.injEq] at hrun
  obtain ⟨rfl, rfl⟩ := hrun
  exact ⟨r', href, hrel⟩

end FindFriendBot
