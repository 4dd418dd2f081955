import FindFriendBot.Friends.Membership

/-!
# FindFriendBot — members as `find_friend` leaves them

`find_friend` fills its member one column at a time and returns what there is
when a call throws. The member is whole if the columns not yet read are empty
(`unread`); otherwise the connection callback enters a member with blanks, and
under the key `""` if the key itself was not read. No friend has that key, so
neither a disconnect nor `/stop` ever removes the entry.

* `fetched_eq_iff`  — when the returned member is the row.
* `whole_step_iff`  — one event of the bot.
* `whole_iff`       — one call of `find_friend`, and every run.
-/

namespace FindFriendBot

/-- The member a row describes. -/
def Row.member (pk : Bytes) (row : Row) : Member where
  pk := pk
  tokId := row.tokId
  nickName := row.nickName
  bio := row.bio
  signature := row.signature
  recommandTimes := 0

namespace MemberModel

/-- `find_friend` returns `NULL`, or a member equal to the row of `pk`. -/
def LoadsWhole (pk : Bytes) (mgr : MemberMgr) (db : MySql) : Prop :=
  ∃ p mgr' db', findFriend MySql.driver pk mgr db = some (p, mgr', db') ∧
    ∀ a, p = some a → ∃ row, db.table.rows[pk]? = some row ∧
      mgr'.heap.read a = some (row.member pk)

/-- The columns that a throw leaves unread, in the order of the `getString` calls. -/
def unread (pk : Bytes) (row : Row) (throwAt : Option Nat) : List Bytes :=
  match throwAt with
  | none => []
  | some i => [pk, row.tokId, row.bio, row.signature, row.nickName].drop (i - 4)

/-- The member equals the row exactly if the unread columns are empty. -/
theorem fetched_eq_iff (pk : Bytes) (row : Row) {throwAt : Option Nat} (h : Delivers throwAt) :
    fetched pk row throwAt = row.member pk ↔ ∀ c ∈ unread pk row throwAt, c = [] := by
  cases throwAt with
  | none => simp [unread, fetched_none, Row.member]
  | some i =>
    obtain ⟨j, rfl⟩ : ∃ j, i = j + 4 := ⟨i - 4, by
      have hlt := (delivers_some i).mp h
      omega⟩
    have hfetched : fetched pk row (some (j + 4)) =
        ((columnSetters (row.result pk)).take j).foldl (fun m set => set m) Member.new := rfl
    have hunread : unread pk row (some (j + 4)) =
        [pk, row.tokId, row.bio, row.signature, row.nickName].drop j := rfl
    rw [hfetched, hunread]
    -- one case for each `getString` that may throw, and one for `close`
    rcases j with _ | _ | _ | _ | _ | j <;>
      simp [columnSetters, Row.result, Row.member, Member.new, Member.setPk, Member.setTokId,
        Member.setBio, Member.setSignature, Member.setNickName, @eq_comm Bytes []] <;>
      tauto

/-- **`find_friend`** returns `NULL`, or what it got of the selected row. -/
theorem findFriend_cases {mgr : MemberMgr} (h : mgr.Owned) (pk : Bytes) (t : Table)
    (throwAt : Option Nat) :
    (∃ db, findFriend MySql.driver pk mgr ⟨t, throwAt⟩ = some (none, mgr, db) ∧
        (¬ Delivers throwAt ∨ t.rows[cStr pk]? = none)) ∨
      ∃ row a mgr' db, t.rows[cStr pk]? = some row ∧ Delivers throwAt ∧
        findFriend MySql.driver pk mgr ⟨t, throwAt⟩ = some (some a, mgr', db) ∧
        mgr'.heap.read a = some (fetched (cStr pk) row throwAt) := by
  rcases selectRow_cases pk t throwAt with ⟨db, hselect, -, hno⟩ | ⟨row, hrow, hd, hselect⟩
  -- no row, or SQL that fails before the row is delivered
  · refine Or.inl ⟨db, ?_, hno⟩
    simp only [findFriend, hselect]
  · obtain ⟨a, mgr₁, halloc, hread, hupdate⟩ := MemberMgr.allocate_fill h
    obtain ⟨hfill, -⟩ := fillMember_spec (columnSetters (row.result (cStr pk))) Member.new t
      (throwAt.map (· - 4))
    obtain ⟨mgr', hupd, -, hfilled⟩ := hupdate (fetched (cStr pk) row throwAt)
    cases hmember : fillMember MySql.driver (columnSetters (row.result (cStr pk))) Member.new
        ⟨t, throwAt.map (· - 4)⟩ with
    | mk m db =>
      rw [hmember] at hfill
      obtain rfl : m = fetched (cStr pk) row throwAt := hfill
      refine Or.inr ⟨row, a, mgr', db, hrow, hd, ?_, hfilled⟩
      simp only [findFriend, hselect, halloc, ObjectHeap.deref_some, hread, hmember, hupd]

/-- **One call** of `find_friend` is all or nothing exactly if it returns `NULL`, or the columns
it did not get to are empty. -/
theorem loadsWhole_iff {mgr : MemberMgr} (h : mgr.Owned) (pk : Bytes) (t : Table)
    (throwAt : Option Nat) :
    LoadsWhole pk mgr ⟨t, throwAt⟩ ↔ (Delivers throwAt → ∀ row, t.rows[cStr pk]? = some row →
      (0 : UInt8) ∉ pk ∧ ∀ c ∈ unread pk row throwAt, c = []) := by
  rcases findFriend_cases h pk t throwAt with
    ⟨db, hfind, hno⟩ | ⟨row, a, mgr', db, hrow, hd, hfind, hread⟩
  · refine iff_of_true ⟨none, mgr, db, hfind, fun a ha => absurd ha (by simp)⟩ ?_
    intro hd row hrow
    rcases hno with hno | hno
    · exact absurd hd hno
    · exact absurd (hno.symm.trans hrow) (by simp)
  · constructor
    · rintro ⟨p, mgr₁, db₁, hfind₁, hwhole⟩ - row₁ hrow₁
      rw [hfind, Option.some.injEq, Prod.mk.injEq, Prod.mk.injEq] at hfind₁
      obtain ⟨rfl, rfl, rfl⟩ := hfind₁
      obtain rfl := Option.some.inj (hrow.symm.trans hrow₁)
      -- the row read back is the whole one, so no column was left unread
      obtain ⟨row₂, hrow₂, hread₂⟩ := hwhole a rfl
      have hsame : fetched (cStr pk) row throwAt = row₂.member pk :=
        Option.some.inj (hread.symm.trans hread₂)
      have hkey : (if throwAt = some 4 then [] else cStr pk) = pk :=
        (fetched_key (cStr pk) row hd).symm.trans (congrArg Member.pk hsame)
      have hnul : (0 : UInt8) ∉ pk := by
        rw [← hkey]
        split
        · exact List.not_mem_nil
        · exact zero_not_mem_cStr pk
      have hpk : cStr pk = pk := cStr_eq_self_iff.mpr hnul
      rw [hpk] at hrow hsame
      obtain rfl := Option.some.inj (hrow.symm.trans hrow₂)
      exact ⟨hnul, (fetched_eq_iff pk row hd).mp hsame⟩
    -- nothing unread, so the member filled is the row's
    · intro hcond
      obtain ⟨hnul, hempty⟩ := hcond hd row hrow
      have hpk : cStr pk = pk := cStr_eq_self_iff.mpr hnul
      rw [hpk] at hrow hread
      rw [(fetched_eq_iff pk row hd).mpr hempty] at hread
      refine ⟨some a, mgr', db, hfind, ?_⟩
      intro a₁ ha
      obtain rfl := Option.some.inj ha
      exact ⟨row, hrow, hread⟩

end MemberModel

-- ---------------------------------------------------------------------------
-- Runs
-- ---------------------------------------------------------------------------

/-- What the connection callback enters is whole, and every key is a connected friend's. -/
structure KeepsWhole (s : State MySql) (i : Input) (s' : State MySql) : Prop where
  enters : ∀ pk status, i.1 = .connectionStatus pk status →
    ∀ (k : Bytes) m, s'.memberMgr.memberAt k = some m → s.memberMgr.memberAt k = some m ∨
      ∃ row, s.db.table.rows[k]? = some row ∧ m = row.member k
  keys : ∀ k ∈ s'.memberMgr.onlineMember, ∃ pk ∈ s'.tox.connected, pk.hex = k

/-- The connection callback finds no row, or its friend is registered already or the columns it
did not get to are empty; and `pk` is not one of them. -/
def FetchesWhole (s : State MySql) (i : Input) : Prop :=
  match i.1 with
  | .connectionStatus pk status =>
    status ≠ .none → Delivers i.2.sql → ∀ row, s.db.table.rows[pk.hex]? = some row →
      i.2.sql ≠ some 4 ∧ (pk.hex ∈ s.memberMgr.onlineMember ∨
        ∀ c ∈ MemberModel.unread pk.hex row i.2.sql, c = [])
  | _ => True

namespace Reference

/-- Every key is a connected friend's. -/
def State.KeysConnected (r : State MySql) : Prop :=
  ∀ k ∈ r.registry, ∃ pk ∈ r.tox.connected, pk.hex = k

theorem blank_entered (env : Env) {r : State MySql} {e : Event} {ans : Answers} {pk : Pk}
    (hpk : e.pk? = some pk) (hblank : Share.filesBlank e ans (r.share pk.hex) = true) :
    ¬ (next env r (e, ans)).KeysConnected := by
  intro hkeys
  have hnil := (next_actsOn env r ans hpk).nil
  rw [hblank, if_pos rfl] at hnil
  obtain ⟨p, -, hp⟩ := hkeys [] (OrderedMap.mem_of_get hnil)
  exact p.hex_ne_nil hp

theorem keysConnected_step (env : Env) {r : State MySql} (h : r.KeysConnected) {e : Event}
    {ans : Answers} (hdel : Delivered r.tox e)
    (hblank : ∀ pk, e.pk? = some pk → Share.filesBlank e ans (r.share pk.hex) = false) :
    (next env r (e, ans)).KeysConnected := by
  intro k hk
  rw [next_tox]
  cases hpk : e.pk? with
  | none =>
    obtain rfl := Event.eq_restart hpk
    rw [(next_restart env r ans).1] at hk
    exact absurd hk Std.ExtTreeMap.not_mem_empty
  | some A =>
    have hacts := next_actsOn env r ans hpk
    rw [hblank A hpk] at hacts
    by_cases hkA : k = A.hex
    · refine ⟨A, ?_, hkA.symm⟩
      cases e with
      | connectionStatus p status =>
        obtain rfl := Option.some.inj hpk
        by_cases hst : status = .none
        · -- the friend who went offline is not a key
          have hgone : ((next env r (.connectionStatus p status, ans)).share p.hex).entry =
              none := by
            rw [hacts.own]
            simp [Share.step, hst, Share.leave]
          rw [hkA] at hk
          exact absurd hk (OrderedMap.not_mem_of_get hgone)
        · simp [Tox.apply, hst]
      | message p msg =>
        obtain rfl := Option.some.inj hpk
        exact hdel
      | name p name =>
        obtain rfl := Option.some.inj hpk
        exact hdel
      | statusMessage p message =>
        obtain rfl := Option.some.inj hpk
        exact hdel
      | restart => exact absurd hpk (by simp [Event.pk?])
    · obtain ⟨pk, hconn, rfl⟩ := h k ((hacts.mem_registry_of_ne hkA).mp hk)
      have hne : pk ≠ A := fun heq => hkA (congrArg Pk.hex heq)
      exact ⟨pk, (Tox.mem_connected_apply r.tox hpk hne).mpr hconn, rfl⟩

end Reference

theorem keysConnected_iff {s : State MySql} {r : Reference.State MySql} (h : Refines s r) :
    (∀ k ∈ s.memberMgr.onlineMember, ∃ pk ∈ s.tox.connected, pk.hex = k) ↔ r.KeysConnected := by
  simp only [Reference.State.KeysConnected, h.mem_iff, h.tox]

theorem Share.connect_entry_iff {sh : Share} {pk : Pk} {ans : Answers} {m : Member} :
    (sh.connect pk ans).entry = some m ↔ sh.entry = some m ∨
      sh.entry = none ∧ ∃ row, sh.row = some row ∧ Delivers ans.sql ∧ ans.sql ≠ some 4 ∧
        m = MemberModel.fetched pk.hex row ans.sql := by
  obtain ⟨row, entry⟩ := sh
  unfold connect
  cases row with
  | none => simp
  | some row =>
    by_cases hd : Delivers ans.sql ∧ ans.sql ≠ some 4
    · cases entry <;> simp [hd, eq_comm]
    · have hno : ¬ (Delivers ans.sql ∧ ans.sql ≠ some 4 ∧
          m = MemberModel.fetched pk.hex row ans.sql) := fun hall => hd ⟨hall.1, hall.2.1⟩
      simp [hd, hno]

/-- What a status other than `NONE` enters, where it does not enter the blank member. -/
theorem entered_whole_iff (env : Env) (r : Reference.State MySql) (pk : Pk)
    {status : ToxConnection} (hst : status ≠ .none) (ans : Answers)
    (hblank : Share.filesBlank (.connectionStatus pk status) ans (r.share pk.hex) = false) :
    (∀ (k : Bytes) m,
        (Reference.next env r (.connectionStatus pk status, ans)).registry[k]? = some m →
        r.registry[k]? = some m ∨ ∃ row, r.db.table.rows[k]? = some row ∧ m = row.member k) ↔
      (Delivers ans.sql → ∀ row, r.db.table.rows[pk.hex]? = some row → ans.sql ≠ some 4 ∧
        (pk.hex ∈ r.registry ∨ ∀ c ∈ MemberModel.unread pk.hex row ans.sql, c = [])) := by
  have hacts := Reference.next_actsOn env r (e := .connectionStatus pk status) ans rfl
  rw [hblank] at hacts
  have hown : ∀ m, (Reference.next env r (.connectionStatus pk status, ans)).registry[pk.hex]? =
      some m ↔ ((r.share pk.hex).connect pk ans).entry = some m := by
    intro m
    have hshare := congrArg Share.entry hacts.own
    simp only [Share.step, if_pos hst] at hshare
    exact iff_of_eq (congrArg (· = some m) hshare)
  constructor
  · intro hwhole hd row hrow
    have hfour : ans.sql ≠ some 4 := by
      simpa [Share.filesBlank, hst, Reference.State.share, hrow] using hblank
    refine ⟨hfour, ?_⟩
    cases hentry : r.registry[pk.hex]? with
    | some m => exact Or.inl (OrderedMap.mem_of_get hentry)
    | none =>
      have hshare : (r.share pk.hex).row = some row.dropId := by
        rw [Reference.State.share, hrow, Option.map_some]
      have hnew := (hown (MemberModel.fetched pk.hex row ans.sql)).mpr
        (Share.connect_entry_iff.mpr (Or.inr ⟨hentry, row.dropId, hshare, hd, hfour, rfl⟩))
      rcases hwhole pk.hex _ hnew with hold | ⟨row', hrow', hm⟩
      · exact absurd (hentry.symm.trans hold) (by simp)
      · obtain rfl := Option.some.inj (hrow.symm.trans hrow')
        exact Or.inr ((MemberModel.fetched_eq_iff pk.hex row hd).mp hm)
  · intro hcond k m hm
    by_cases hk : k = pk.hex
    · subst hk
      rcases Share.connect_entry_iff.mp ((hown m).mp hm) with
        hold | ⟨hentry, row', hrow', hd, -, rfl⟩
      · exact Or.inl hold
      · obtain ⟨row, hrow, rfl⟩ := Option.map_eq_some_iff.mp hrow'
        obtain ⟨-, hin | hempty⟩ := hcond hd row hrow
        · exact absurd hin (OrderedMap.not_mem_of_get hentry)
        · exact Or.inr ⟨row, hrow, (MemberModel.fetched_eq_iff pk.hex row hd).mpr hempty⟩
    -- other keys are not touched by this event
    · have hsame : (Reference.next env r (.connectionStatus pk status, ans)).registry[k]? =
          r.registry[k]? := congrArg Share.entry (hacts.share_of_ne hk)
      exact Or.inl (hsame.symm.trans hm)

/-- **One event** keeps the registry whole exactly if what it fetches is. -/
theorem whole_step_iff (env : Env) {s s' : State MySql} {r : Reference.State MySql}
    (h : Refines s r) (hkeys : r.KeysConnected) {e : Event} {ans : Answers} {o : Output}
    (hdel : Delivered s.tox e) (hstep : Bot.step MySql.driver env s (e, ans) = some (s', o)) :
    KeepsWhole s (e, ans) s' ↔ FetchesWhole s (e, ans) := by
  obtain ⟨h', -⟩ := h.of_step hstep
  rw [h.tox] at hdel
  -- an event that does not enter the blank member keeps the keys
  have hquiet : (∀ pk, e.pk? = some pk → Share.filesBlank e ans (r.share pk.hex) = false) →
      ∀ k ∈ s'.memberMgr.onlineMember, ∃ pk ∈ s'.tox.connected, pk.hex = k := by
    intro hblank
    exact (keysConnected_iff h').mpr (Reference.keysConnected_step env hkeys hdel hblank)
  have hother : (∀ pk status, e ≠ .connectionStatus pk status) → KeepsWhole s (e, ans) s' := by
    intro hne
    refine ⟨fun pk status he => absurd he (hne pk status), hquiet ?_⟩
    intro pk _
    cases e with
    | connectionStatus p status => exact absurd rfl (hne p status)
    | _ => rfl
  cases e with
  | connectionStatus pk status =>
    by_cases hst : status = .none
    · refine iff_of_true ⟨?_, hquiet fun _ _ => by simp [Share.filesBlank, hst]⟩
        (fun hne => absurd hst hne)
      intro p st he k m hm
      have hregistry : (Reference.next env r (.connectionStatus pk status, ans)).registry =
          r.registry.erase pk.hex := by
        rw [hst]
        rfl
      rw [h'.memberAt, hregistry, OrderedMap.get_erase] at hm
      split at hm
      · exact absurd hm (by simp)
      · exact Or.inl ((h.memberAt k).trans hm)
    · cases hblank : Share.filesBlank (.connectionStatus pk status) ans (r.share pk.hex) with
      | true =>
        refine iff_of_false ?_ ?_
        · intro hwhole
          exact Reference.blank_entered env rfl hblank ((keysConnected_iff h').mp hwhole.keys)
        · intro hfetch
          obtain ⟨-, hrow, hfour⟩ : status ≠ .none ∧ (r.share pk.hex).row.isSome = true ∧
              ans.sql = some 4 := by simpa [Share.filesBlank] using hblank
          obtain ⟨row', hrow'⟩ := Option.isSome_iff_exists.mp hrow
          obtain ⟨row, hrow, -⟩ := Option.map_eq_some_iff.mp hrow'
          rw [← h.db] at hrow
          have hd : Delivers ans.sql := by
            rw [hfour, delivers_some]
            omega
          exact (hfetch hst hd row hrow).1 hfour
      | false =>
        have hentered := entered_whole_iff env r pk hst ans hblank
        simp only [← h'.memberAt, ← h.memberAt, ← h.mem_iff, ← h.db] at hentered
        constructor
        · intro hwhole _
          exact hentered.mp (hwhole.enters pk status rfl)
        · intro hfetch
          refine ⟨?_, hquiet fun p hp => Option.some.inj hp ▸ hblank⟩
          rintro p st he
          exact hentered.mpr (hfetch hst)
  | message p msg => exact iff_of_true (hother fun _ _ => Event.noConfusion) trivial
  | name p name => exact iff_of_true (hother fun _ _ => Event.noConfusion) trivial
  | statusMessage p message => exact iff_of_true (hother fun _ _ => Event.noConfusion) trivial
  | restart => exact iff_of_true (hother fun _ _ => Event.noConfusion) trivial

/-- **All or nothing.** A call of `find_friend` loads a member whole exactly if it returns `NULL`,
or the columns it did not get to are empty. In every run in which toxcore delivers as promised,
the connection callback enters whole members only and every key is a connected friend's exactly
if each callback finds no row, or gets to `tok_id` and finds the friend registered or the rest
empty. -/
theorem whole_iff (env : Env) :
    (∀ (pk : Bytes) (t : Table) (throwAt : Option Nat) (mgr : MemberMgr), mgr.Owned →
      (MemberModel.LoadsWhole pk mgr ⟨t, throwAt⟩ ↔
        (Delivers throwAt → ∀ row, t.rows[cStr pk]? = some row →
          (0 : UInt8) ∉ pk ∧ ∀ c ∈ MemberModel.unread pk row throwAt, c = []))) ∧
    ∀ (db : MySql) (tox : Tox) (is : List Input),
      (Bot.machine MySql.driver env).Along (fun s i => Delivered s.tox i.1) (Bot.init db tox) is →
      ((Bot.machine MySql.driver env).EachStep (fun s i s' _ => KeepsWhole s i s')
          (Bot.init db tox) is ↔
        (Bot.machine MySql.driver env).Along FetchesWhole (Bot.init db tox) is) := by
  constructor
  · intro pk t throwAt mgr h
    exact MemberModel.loadsWhole_iff h pk t throwAt
  · intro db tox is hdel
    refine StepMachine.eachStep_iff_along_of
      (fun s => ∃ r : Reference.State MySql, Refines s r ∧ r.KeysConnected) _ ?_ ?_ is _ ?_ hdel
    · rintro s ⟨e, ans⟩ ⟨r, h, hkeys⟩ hi
      obtain ⟨s', hstep, -⟩ := h.step env (e, ans)
      rw [← whole_step_iff env h hkeys hi hstep]
      constructor
      · rintro ⟨s₁, o, hstep₁, hwhole⟩
        obtain ⟨rfl, -⟩ := Prod.mk.inj (Option.some.inj (hstep.symm.trans hstep₁))
        exact hwhole
      · intro hwhole
        exact ⟨s', _, hstep, hwhole⟩
    · rintro s i s' o ⟨r, h, -⟩ - hstep hwhole
      obtain ⟨h', -⟩ := h.of_step hstep
      exact ⟨_, h', (keysConnected_iff h').mp hwhole.keys⟩
    · refine ⟨_, refines_init db tox, ?_⟩
      intro k hk
      exact absurd hk Std.ExtTreeMap.not_mem_empty

/-- `close` throws after the last column was read. -/
theorem whole_close :
    MemberModel.LoadsWhole Pk.first.hex MemberMgr.init
        ⟨Table.single Pk.first [65] [66] [67] [68], some 9⟩ ∧
      (Bot.machine MySql.driver Env.sample).EachStep (fun s i s' _ => KeepsWhole s i s')
        (Bot.init (MySql.holding (Table.single Pk.first [65] [66] [67] [68])) Tox.blank)
        [(.connectionStatus Pk.first .tcp, { Answers.plain with sql := some 9 }),
          (.connectionStatus Pk.first .none, Answers.plain)] := by
  constructor
  · refine ((whole_iff Env.sample).1 Pk.first.hex _ (some 9) MemberMgr.init
      MemberMgr.owned_init).mpr ?_
    intro _ row _
    exact ⟨by decide, by simp [MemberModel.unread]⟩
  · refine ((whole_iff Env.sample).2 _ Tox.blank _ ?_).mpr ?_
    · exact ⟨trivial, fun _ _ _ => ⟨trivial, fun _ _ _ => trivial⟩⟩
    · refine ⟨?_, fun _ _ _ => ⟨fun hne => absurd rfl hne, fun _ _ _ => trivial⟩⟩
      intro _ _ row _
      exact ⟨by decide, Or.inr (by simp [MemberModel.unread])⟩

/-- `getString("pk")` throws: the blank member is entered, under a key that is nobody's. -/
theorem blank_member_entered :
    ¬ MemberModel.LoadsWhole Pk.first.hex MemberMgr.init
        ⟨Table.single Pk.first [65] [66] [67] [68], some 4⟩ ∧
      ∃ s os, (Bot.machine MySql.driver Env.sample).run
          (Bot.init (MySql.holding (Table.single Pk.first [65] [66] [67] [68])) Tox.blank)
          [(.connectionStatus Pk.first .tcp, { Answers.plain with sql := some 4 })] =
            some (s, os) ∧
        s.memberMgr.memberAt [] = some Member.new ∧
        ¬ ∀ k ∈ s.memberMgr.onlineMember, ∃ pk ∈ s.tox.connected, pk.hex = k := by
  constructor
  · intro hwhole
    rw [MemberModel.loadsWhole_iff MemberMgr.owned_init] at hwhole
    have hrow : (Table.single Pk.first [65] [66] [67] [68]).rows[cStr Pk.first.hex]? =
        some ⟨1, [65], [66], [67], [68], 0, 0⟩ := by
      rw [Pk.cStr_hex, Table.single, OrderedMap.get_insert, if_pos rfl]
    obtain ⟨-, hempty⟩ := hwhole (by decide) _ hrow
    exact Pk.first.hex_ne_nil (hempty Pk.first.hex (by simp [MemberModel.unread]))
  · refine ⟨_, _, rfl, rfl, ?_⟩
    intro hkeys
    obtain ⟨p, -, hp⟩ := hkeys [] (by decide)
    exact p.hex_ne_nil hp

end FindFriendBot
