import FindFriendBot.Friends.Fetching

/-!
# FindFriendBot — stored strings

A value goes into the cached member as the `std::string` it is, and into a
statement through `c_str()`, which ends it at its first NUL. The table therefore
gives back a member's values as C strings, and gives them back unchanged exactly
if there is no NUL in them.

* `returns_store_iff`    — what `find_friend` returns after any updates.
* `updates_run`          — the cached member and the row over the events of a friend.
* `stored_strings_iff`   — when a stored profile comes back.
-/

namespace FindFriendBot

/-- Every string of the member as `c_str()` shows it. -/
def Member.cStrs (m : Member) : Member where
  pk := cStr m.pk
  tokId := cStr m.tokId
  nickName := cStr m.nickName
  bio := cStr m.bio
  signature := cStr m.signature
  recommandTimes := m.recommandTimes

/-- No string of the member has a NUL. -/
def Member.NulFree (m : Member) : Prop :=
  (0 : UInt8) ∉ m.pk ∧ (0 : UInt8) ∉ m.tokId ∧ (0 : UInt8) ∉ m.nickName ∧ (0 : UInt8) ∉ m.bio ∧
    (0 : UInt8) ∉ m.signature

theorem Member.cStrs_eq_self_iff (m : Member) : m.cStrs = m ↔ m.NulFree := by
  obtain ⟨pk, tokId, nickName, bio, signature, recommandTimes⟩ := m
  simp only [Member.cStrs, Member.mk.injEq, cStr_eq_self_iff, Member.NulFree, and_true]

/-- A call of one of the three `update_friend_*`. -/
inductive Write
  | signature (value : Bytes) (time : Nat)
  | name (value : Bytes) (time : Nat)
  | bio (value : Bytes) (time : Nat)

namespace Write

variable {σ : Type} (D : Driver σ)

/-- The call itself. -/
def update (pk : Bytes) (db : σ) : Write → Int × σ
  | .signature value time => MemberModel.updateFriendSignature D pk value time db
  | .name value time => MemberModel.updateFriendName D pk value time db
  | .bio value time => MemberModel.updateFriendBio D pk value time db

/-- The setter of the field it is about. -/
def set : Write → Member → Member
  | .signature value _ => Member.setSignature value
  | .name value _ => Member.setNickName value
  | .bio value _ => Member.setBio value

/-- The same with the value as `c_str()` shows it. -/
def shown : Write → Write
  | .signature value time => .signature (cStr value) time
  | .name value time => .name (cStr value) time
  | .bio value time => .bio (cStr value) time

/-- What the statement assigns. -/
def setRow : Write → Row → Row
  | .signature value time => MemberModel.setSignature (cStr value) time
  | .name value time => MemberModel.setNickName (cStr value) time
  | .bio value time => MemberModel.setBio (cStr value) time

end Write

/-- The last value passed for each field, after `add_friend` and the updates `ws`. -/
def lastValues (pk tokId nickName bio : Bytes) (ws : List Write) : Member :=
  ws.foldl (fun m w => w.set m)
    { pk := pk, tokId := tokId, nickName := nickName, bio := bio, signature := [],
      recommandTimes := 0 }

/-- `add_friend`, and then the updates `ws`. -/
def store {σ : Type} (D : Driver σ) (pk tokId nickName bio : Bytes) (createTime updateTime : Nat)
    (ws : List Write) (db : σ) : σ :=
  ws.foldl (fun db w => (w.update D pk db).2)
    (MemberModel.addFriend D tokId pk nickName bio createTime updateTime db).2

/-- `find_friend` returns a member equal to `m`. -/
def Returns {σ : Type} (D : Driver σ) (pk : Bytes) (mgr : MemberMgr) (db : σ) (m : Member) : Prop :=
  ∃ a mgr' db', MemberModel.findFriend D pk mgr db = some (some a, mgr', db') ∧
    mgr'.heap.read a = some m

-- ---------------------------------------------------------------------------
-- Undisturbed statements
-- ---------------------------------------------------------------------------

namespace MemberModel

theorem executeUpdate_none (stmt : Statement) (params : List Param) (t : Table) :
    (executeUpdate MySql.driver stmt params ⟨t, none⟩).2 =
      ⟨(t.executeUpdate stmt params).2, none⟩ := by
  have hcall : MySql.driver.call ⟨t, none⟩ = (true, ⟨t, none⟩) := rfl
  simp only [executeUpdate, hcall, bindParams_none]
  rfl

end MemberModel

/-- The row of `pk` holds the strings of `m`, as `c_str()` shows them. -/
def Table.Holds (t : Table) (pk : Bytes) (m : Member) : Prop :=
  (t.rows[pk]?).map (Row.member pk) = some m.cStrs

namespace Write

theorem member_setRow (w : Write) (pk : Bytes) (row : Row) :
    (w.setRow row).member pk = w.shown.set (row.member pk) := by
  cases w <;> rfl

theorem cStrs_set (w : Write) (m : Member) : (w.set m).cStrs = w.shown.set m.cStrs := by
  cases w <;> rfl

theorem update_none (w : Write) (pk : Bytes) (t : Table) :
    (w.update MySql.driver pk ⟨t, none⟩).2 =
      ⟨(t.updateMember w.setRow (cStr pk)).2, none⟩ := by
  cases w <;> exact MemberModel.executeUpdate_none _ _ t

theorem holds_update (w : Write) {t : Table} {pk : Bytes} {m : Member} (h : t.Holds pk m) :
    (t.updateMember w.setRow pk).2.Holds pk (w.set m) := by
  obtain ⟨row, hrow, hmember⟩ := Option.map_eq_some_iff.mp h
  rw [Table.Holds, Table.get_updateMember, if_pos rfl, hrow, Option.map_some, Option.map_some,
    member_setRow, hmember, cStrs_set]

end Write

/-- **`find_friend`** returns the strings of the row of `pk`. -/
theorem returns_iff {t : Table} {pk : Bytes} {m : Member} (h : t.Holds (cStr pk) m)
    {mgr : MemberMgr} (howned : mgr.Owned) (m' : Member) :
    Returns MySql.driver pk mgr ⟨t, none⟩ m' ↔ m' = m.cStrs := by
  -- the row of the key holds the values, so find_friend fills a member with them
  obtain ⟨row, hrow, hmember⟩ := Option.map_eq_some_iff.mp h
  rcases MemberModel.findFriend_cases howned pk t none with
    ⟨db, -, hno | hno⟩ | ⟨row', a, mgr', db, hrow', -, hfind, hread⟩
  · exact absurd delivers_none hno
  · exact absurd (hno.symm.trans hrow) (by simp)
  · obtain rfl := Option.some.inj (hrow.symm.trans hrow')
    have hread : mgr'.heap.read a = some m.cStrs := by
      rw [hread, MemberModel.fetched_none, ← hmember]
      rfl
    unfold Returns
    rw [hfind]
    constructor
    · rintro ⟨a', mgr₂, db', hsame, hm'⟩
      simp only [Option.some.injEq, Prod.mk.injEq] at hsame
      obtain ⟨rfl, rfl, -⟩ := hsame
      exact Option.some.inj (hm'.symm.trans hread)
    · rintro rfl
      exact ⟨a, mgr', db, rfl, hread⟩

theorem holds_updates (ws : List Write) (pk : Bytes) {t : Table} {m : Member}
    (h : t.Holds (cStr pk) m) :
    ∃ t', ws.foldl (fun db w => (w.update MySql.driver pk db).2) ⟨t, none⟩ = ⟨t', none⟩ ∧
      t'.Holds (cStr pk) (ws.foldl (fun m w => w.set m) m) := by
  induction ws generalizing t m with
  | nil => exact ⟨t, rfl, h⟩
  | cons w ws ih =>
    rw [List.foldl_cons, List.foldl_cons, Write.update_none]
    exact ih (w.holds_update h)

/-- The row after `add_friend` and any updates. -/
theorem holds_store (pk tokId nickName bio : Bytes) (createTime updateTime : Nat)
    (ws : List Write) (t : Table) :
    ∃ t', store MySql.driver pk tokId nickName bio createTime updateTime ws ⟨t, none⟩ =
        ⟨t', none⟩ ∧ t'.Holds (cStr pk) (lastValues pk tokId nickName bio ws) := by
  -- add_friend leaves the row, and the updates work on that
  have hadd : (MemberModel.addFriend MySql.driver tokId pk nickName bio createTime updateTime
      ⟨t, none⟩).2 = ⟨(t.replaceMember (cStr tokId) (cStr pk) (cStr nickName) (cStr bio)
        createTime updateTime).2, none⟩ := MemberModel.executeUpdate_none _ _ t
  unfold store lastValues
  rw [hadd]
  refine holds_updates ws pk ?_
  rw [Table.Holds, Table.get_replaceMember, if_pos rfl]
  rfl

/-- **Stored strings** come back from `find_friend` exactly if no last value has a NUL. -/
theorem returns_store_iff (pk tokId nickName bio : Bytes) (createTime updateTime : Nat)
    (ws : List Write) (t : Table) {mgr : MemberMgr} (h : mgr.Owned) :
    Returns MySql.driver pk mgr
        (store MySql.driver pk tokId nickName bio createTime updateTime ws ⟨t, none⟩)
        (lastValues pk tokId nickName bio ws) ↔
      (lastValues pk tokId nickName bio ws).NulFree := by
  obtain ⟨t', hstore, hholds⟩ := holds_store pk tokId nickName bio createTime updateTime ws t
  rw [hstore, returns_iff hholds h, eq_comm, Member.cStrs_eq_self_iff]

-- ---------------------------------------------------------------------------
-- The cached member
-- ---------------------------------------------------------------------------

/-- What an event of `pk` passes to one of the three operations. -/
def Write.of (pk : Pk) (i : Input) : Option Write :=
  match i.1 with
  | .message p msg =>
    if p = pk then
      match msg.dispatch with
      | some (.set, param) => if param = [] then none else some (.signature param i.2.time)
      | _ => none
    else none
  | .name p value => if p = pk then some (.name (cStr value) i.2.time) else none
  | .statusMessage p message => if p = pk then some (.bio (cStr message) i.2.time) else none
  | _ => none

/-- Neither the process nor the friend goes away, the friend does not send `/start` or `/stop`,
and no update of the friend's row fails. -/
def Undisturbed (pk : Pk) (i : Input) : Prop :=
  match i.1 with
  | .connectionStatus p status => p = pk → status ≠ .none
  | .message p msg =>
    p = pk → i.2.sql = none ∧
      ∀ c param, msg.dispatch = some (c, param) → c ≠ .start ∧ c ≠ .stop
  | .name p _ => p = pk → i.2.sql = none
  | .statusMessage p _ => p = pk → i.2.sql = none
  | .restart => False

/-- The share after a write, if there was one. -/
def Share.written (sh : Share) : Option Write → Share
  | none => sh
  | some w => { row := sh.row.map w.setRow, entry := sh.entry.map w.set }

/-- The row of the share holds the strings of `m`, as `c_str()` shows them. -/
def Share.Holds (sh : Share) (pk : Bytes) (m : Member) : Prop :=
  sh.row.map (Row.member pk) = some m.cStrs

theorem Table.holds_iff {r : Reference.State MySql} {pk : Bytes} {m : Member} :
    r.db.table.Holds pk m ↔ (r.share pk).Holds pk m := by
  rw [Table.Holds, Share.Holds, Reference.State.share, Option.map_map]
  rfl

theorem Share.holds_written {sh : Share} {pk : Bytes} {m : Member} (h : sh.Holds pk m)
    (w : Write) : (sh.written (some w)).Holds pk (w.set m) := by
  obtain ⟨row, hrow, hmember⟩ := Option.map_eq_some_iff.mp h
  rw [Share.Holds, Share.written, hrow, Option.map_some, Option.map_some,
    Write.member_setRow, hmember, Write.cStrs_set]

theorem Share.update_eq_written (sh : Share) (w : Write) {ans : Answers} (hsql : ans.sql = none) :
    sh.update w.setRow w.set ans = sh.written (some w) := by
  simp only [Share.update, hsql, executes_none, if_true, Share.written]

/-- A registered friend stays registered with the member there is. -/
theorem Share.connect_of_entry {sh : Share} (h : sh.entry ≠ none) (pk : Pk) (ans : Answers) :
    sh.connect pk ans = sh := by
  obtain ⟨row, entry⟩ := sh
  obtain ⟨m, rfl⟩ := Option.ne_none_iff_exists'.mp h
  unfold connect
  cases row <;> simp

namespace Reference

/-- An undisturbed event writes the same value into the row and into the entry. -/
theorem next_undisturbed (env : Env) (r : State MySql) {pk : Pk} {i : Input}
    (h : Undisturbed pk i) (hentry : (r.share pk.hex).entry ≠ none) :
    (next env r i).share pk.hex = (r.share pk.hex).written (Write.of pk i) := by
  obtain ⟨e, ans⟩ := i
  cases hpk : e.pk? with
  -- a new process is no quiet event
  | none =>
    obtain rfl := Event.eq_restart hpk
    exact h.elim
  | some p =>
    by_cases hp : p = pk
    · subst hp
      rw [(next_actsOn env r ans hpk).own]
      cases e with
      | restart => exact h.elim
      -- a friend who is connected already stays registered
      | connectionStatus q status =>
        obtain rfl := Option.some.inj hpk
        have hst : status ≠ .none := h rfl
        simp only [Share.step, if_pos hst]
        exact Share.connect_of_entry hentry q ans
      | message q msg =>
        obtain rfl := Option.some.inj hpk
        obtain ⟨hsql, hcmd⟩ := h rfl
        obtain ⟨c, param, hdispatch⟩ := msg.dispatch_isSome
        obtain ⟨hstart, hstop⟩ := hcmd c param hdispatch
        simp only [Share.step, hdispatch, Write.of, if_pos]
        -- no /start and no /stop among them
        cases c with
        | start => exact absurd rfl hstart
        | stop => exact absurd rfl hstop
        | set =>
          simp only [Share.runCmd]
          split
          · rfl
          · exact Share.update_eq_written _ (.signature param ans.time) hsql
        | _ => rfl
      -- the callback cuts the value before it is bound
      | name q value =>
        obtain rfl := Option.some.inj hpk
        have hrow : (Write.name (cStr value) ans.time).setRow =
            MemberModel.setNickName (cStr value) ans.time := by
          rw [Write.setRow, cStr_cStr]
        simp only [Write.of, if_true, Share.step, ← hrow]
        exact Share.update_eq_written _ (.name (cStr value) ans.time) (h rfl)
      | statusMessage q message =>
        obtain rfl := Option.some.inj hpk
        have hrow : (Write.bio (cStr message) ans.time).setRow =
            MemberModel.setBio (cStr message) ans.time := by
          rw [Write.setRow, cStr_cStr]
        simp only [Write.of, if_true, Share.step, ← hrow]
        exact Share.update_eq_written _ (.bio (cStr message) ans.time) (h rfl)
    -- another friend's event leaves the share alone
    · have hof : Write.of pk (e, ans) = none := by
        cases e <;> simp_all [Write.of, Event.pk?]
      rw [(next_actsOn env r ans hpk).share_friend (Ne.symm hp), hof]
      rfl

end Reference

/-- **Updates.** Over undisturbed events the cached member and the row take the same values. -/
theorem updates_run (env : Env) {pk : Pk} (is : List Input) (his : ∀ i ∈ is, Undisturbed pk i)
    {s : State MySql} {r : Reference.State MySql} (h : Refines s r) {cached m : Member}
    (hcached : (r.share pk.hex).entry = some cached) (hholds : (r.share pk.hex).Holds pk.hex m) :
    ∃ s' os r', (Bot.machine MySql.driver env).run s is = some (s', os) ∧ Refines s' r' ∧
      (r'.share pk.hex).entry =
        some ((is.filterMap (Write.of pk)).foldl (fun m w => w.set m) cached) ∧
      (r'.share pk.hex).Holds pk.hex
        ((is.filterMap (Write.of pk)).foldl (fun m w => w.set m) m) := by
  -- induction on the events; the entry stays throughout
  induction is generalizing s r cached m with
  | nil => exact ⟨s, [], r, rfl, h, hcached, hholds⟩
  | cons i is ih =>
    obtain ⟨hi, his⟩ := List.forall_mem_cons.mp his
    obtain ⟨s₁, hstep, h₁⟩ := h.step env i
    have hentry : (r.share pk.hex).entry ≠ none := by
      rw [hcached]
      exact Option.some_ne_none _
    have hshare := Reference.next_undisturbed env r hi hentry
    -- the event writes nothing of this friend
    cases hof : Write.of pk i with
    | none =>
      have hsame : (Reference.next env r i).share pk.hex = r.share pk.hex := by
        rw [hshare, hof]
        rfl
      obtain ⟨s', os, r', hrun, href, hend⟩ :=
        ih his h₁ (hsame ▸ hcached) (hsame ▸ hholds)
      rw [List.filterMap_cons_none hof]
      exact ⟨s', _, r', StepMachine.run_cons_iff.mpr ⟨_, _, _, hstep, hrun, rfl⟩, href, hend⟩
    -- it writes one value, to the row and to the entry
    | some w =>
      rw [hof] at hshare
      have hcached₁ : ((Reference.next env r i).share pk.hex).entry = some (w.set cached) := by
        rw [hshare]
        simp only [Share.written, hcached, Option.map_some]
      obtain ⟨s', os, r', hrun, href, hend⟩ :=
        ih his h₁ hcached₁ (hshare ▸ Share.holds_written hholds w)
      rw [List.filterMap_cons_some hof]
      exact ⟨s', _, r', StepMachine.run_cons_iff.mpr ⟨_, _, _, hstep, hrun, rfl⟩, href, hend⟩

/-- A `/start` that finds its queries answered, and undisturbed events after it. -/
theorem start_run (env : Env) {s : State MySql} {r : Reference.State MySql} (h : Refines s r)
    {pk : Pk} {msg : Message} {ans : Answers} {tokId name bio : Bytes}
    (hdispatch : msg.dispatch = some (.start, tokId)) (htok : tokId ≠ [])
    (hqueries : (s.tox.profile pk).queries ans = some (name, bio)) (hsql : ans.sql = none)
    {is : List Input} (his : ∀ i ∈ is, Undisturbed pk i) :
    ∃ s' os r', (Bot.machine MySql.driver env).run s ((.message pk msg, ans) :: is) =
        some (s', os) ∧ Refines s' r' ∧
      (r'.share pk.hex).entry = some ((is.filterMap (Write.of pk)).foldl (fun m w => w.set m)
        ((r.share pk.hex).entry.getD (lastValues pk.hex tokId name bio []))) ∧
      (r'.share pk.hex).Holds pk.hex
        (lastValues pk.hex tokId name bio (is.filterMap (Write.of pk))) := by
  obtain ⟨s₁, hstep, h₁⟩ := h.step env (.message pk msg, ans)
  -- the /start that ran
  have hshare : (Reference.next env r (.message pk msg, ans)).share pk.hex =
      (r.share pk.hex).start pk tokId name bio ans := by
    rw [(Reference.next_actsOn env r ans rfl).own]
    rw [h.tox] at hqueries
    simp only [Share.step, hdispatch, Share.runCmd, hqueries, if_neg htok]
  obtain ⟨hname, hbio⟩ := Profile.queries_cStr hqueries
  -- who is registered already keeps the old entry
  have hcached : ((Reference.next env r (.message pk msg, ans)).share pk.hex).entry =
      some ((r.share pk.hex).entry.getD (lastValues pk.hex tokId name bio [])) := by
    rw [hshare]
    rfl
  have hholds : ((Reference.next env r (.message pk msg, ans)).share pk.hex).Holds pk.hex
      (lastValues pk.hex tokId name bio []) := by
    rw [hshare]
    simp only [Share.Holds, Share.start, hsql, executes_none, if_true, Option.map_some, lastValues,
      List.foldl_nil, Member.cStrs, Pk.cStr_hex, hname, hbio]
    rfl
  obtain ⟨s', os, r', hrun, href, hend⟩ := updates_run env is his h₁ hcached hholds
  exact ⟨s', _, r', StepMachine.run_cons_iff.mpr ⟨_, _, _, hstep, hrun, rfl⟩, href, hend⟩

/-- **Stored strings.** What `find_friend` returns after `add_friend` and any updates equals the
last values exactly if none of them has a NUL. After a `/start` and any events that pass
updates on, these values are the cached ones as well exactly if, moreover, the friend was not
registered, or was with values that are overwritten or the same. -/
theorem stored_strings_iff (env : Env) :
    (∀ (pk tokId nickName bio : Bytes) (createTime updateTime : Nat) (ws : List Write) (t : Table)
        (mgr : MemberMgr), mgr.Owned →
      (Returns MySql.driver pk mgr
          (store MySql.driver pk tokId nickName bio createTime updateTime ws ⟨t, none⟩)
          (lastValues pk tokId nickName bio ws) ↔
        (lastValues pk tokId nickName bio ws).NulFree)) ∧
    ∀ (db : MySql) (tox : Tox) (before : List Input) (s : State MySql) (os : List Output),
      (Bot.machine MySql.driver env).run (Bot.init db tox) before = some (s, os) →
      ∀ (pk : Pk) (msg : Message) (ans : Answers) (tokId name bio : Bytes) (is : List Input),
        msg.dispatch = some (.start, tokId) → tokId ≠ [] →
        (s.tox.profile pk).queries ans = some (name, bio) → ans.sql = none →
        (∀ i ∈ is, Undisturbed pk i) →
        ∃ s' os', (Bot.machine MySql.driver env).run s ((.message pk msg, ans) :: is) =
            some (s', os') ∧
          (Returns MySql.driver pk.hex s'.memberMgr (MySql.driver.begin none s'.db)
                (lastValues pk.hex tokId name bio (is.filterMap (Write.of pk))) ∧
              s'.memberMgr.memberAt pk.hex =
                some (lastValues pk.hex tokId name bio (is.filterMap (Write.of pk))) ↔
            (lastValues pk.hex tokId name bio (is.filterMap (Write.of pk))).NulFree ∧
              ∀ m ∈ s.memberMgr.memberAt pk.hex,
                (is.filterMap (Write.of pk)).foldl (fun m w => w.set m) m =
                  lastValues pk.hex tokId name bio (is.filterMap (Write.of pk))) := by
  constructor
  -- one store by itself
  · intro pk tokId nickName bio createTime updateTime ws t mgr h
    exact returns_store_iff pk tokId nickName bio createTime updateTime ws t h
  -- a run: what the row holds and what the entry holds are compared apart
  · intro db tox before s os hbefore pk msg ans tokId name bio is hdispatch htok hqueries hsql
      his
    obtain ⟨r, -, h⟩ := reachable_refines MySql.driver env hbefore
    obtain ⟨s', os', r', hrun, h', hentry, hholds⟩ :=
      start_run env h hdispatch htok hqueries hsql his
    refine ⟨s', os', hrun, ?_⟩
    -- the row has the values of the last writes, cut at a NUL
    have hreturns : Returns MySql.driver pk.hex s'.memberMgr (MySql.driver.begin none s'.db)
          (lastValues pk.hex tokId name bio (is.filterMap (Write.of pk))) ↔
        (lastValues pk.hex tokId name bio (is.filterMap (Write.of pk))).NulFree := by
      have htable : s'.db.table.Holds (cStr pk.hex)
          (lastValues pk.hex tokId name bio (is.filterMap (Write.of pk))) := by
        rw [Pk.cStr_hex, h'.db]
        exact Table.holds_iff.mpr hholds
      rw [← Member.cStrs_eq_self_iff, eq_comm]
      exact returns_iff htable h'.owned _
    have hcached : s'.memberMgr.memberAt pk.hex = (r'.share pk.hex).entry := h'.memberAt pk.hex
    have hbefore : s.memberMgr.memberAt pk.hex = (r.share pk.hex).entry := h.memberAt pk.hex
    rw [hreturns, hcached, hentry, hbefore, Option.some.injEq]
    refine and_congr_right fun _ => ?_
    cases (r.share pk.hex).entry with
    | none => simp [lastValues]
    | some m => simp

/-- A friend registers and sets a signature without a NUL: both copies are what was sent. -/
theorem stored_strings_first :
    Returns MySql.driver Pk.first.hex MemberMgr.init
        (store MySql.driver Pk.first.hex [32, 65] [] [] 0 0 [.signature [32, 97] 0] ⟨⟨∅, 1⟩, none⟩)
        (lastValues Pk.first.hex [32, 65] [] [] [.signature [32, 97] 0]) ∧
      ∃ s' os', (Bot.machine MySql.driver Env.sample).run
          (Bot.init (MySql.holding Table.empty) Tox.blank)
          [(.message Pk.first ⟨bytes "/start A", by decide⟩, Answers.plain),
            (.message Pk.first ⟨bytes "/set a", by decide⟩, Answers.plain)] = some (s', os') ∧
        s'.memberMgr.memberAt Pk.first.hex =
          some (lastValues Pk.first.hex [32, 65] [] [] [.signature [32, 97] 0]) := by
  have hfree : (lastValues Pk.first.hex [32, 65] [] [] [.signature [32, 97] 0]).NulFree :=
    ⟨by decide, by decide, by decide, by decide, by decide⟩
  have hset : Message.dispatch ⟨bytes "/set a", by decide⟩ = some (.set, [32, 97]) := by decide
  have hof : [(Event.message Pk.first ⟨bytes "/set a", by decide⟩, Answers.plain)].filterMap
      (Write.of Pk.first) = [.signature [32, 97] 0] := by
    simp [Write.of, hset, Answers.plain]
  have hrun := (stored_strings_iff Env.sample).2 (MySql.holding Table.empty) Tox.blank [] _ [] rfl
    Pk.first ⟨bytes "/start A", by decide⟩ Answers.plain [32, 65] [] []
    [(.message Pk.first ⟨bytes "/set a", by decide⟩, Answers.plain)] (by decide) (by decide) rfl rfl
    (by simp [Undisturbed, hset, Answers.plain])
  rw [hof] at hrun
  obtain ⟨s', os', hrun, hiff⟩ := hrun
  refine ⟨((stored_strings_iff Env.sample).1 Pk.first.hex [32, 65] [] [] 0 0 [.signature [32, 97] 0]
    ⟨∅, 1⟩ MemberMgr.init MemberMgr.owned_init).mpr hfree, s', os', hrun, (hiff.mpr ⟨hfree, ?_⟩).2⟩
  intro m hm
  -- nobody is registered before
  exact absurd hm (by simp [Bot.init, MemberMgr.init, MemberMgr.memberAt, MemberMgr.findMember])

/-- The signature of a message with a NUL in it comes back cut. -/
theorem nul_cuts_signature :
    ∃ signature, Message.dispatch ⟨bytes "/set a\x00b", by decide⟩ = some (.set, signature) ∧
      ¬ Returns MySql.driver Pk.first.hex MemberMgr.init
        (store MySql.driver Pk.first.hex [32, 65] [] [] 0 0 [.signature signature 0]
          ⟨⟨∅, 1⟩, none⟩)
        (lastValues Pk.first.hex [32, 65] [] [] [.signature signature 0]) := by
  -- the signature is stored up to its NUL
  refine ⟨[32, 97, 0, 98], by decide, ?_⟩
  intro hreturns
  obtain ⟨-, -, -, -, hsignature⟩ :=
    (returns_store_iff Pk.first.hex [32, 65] [] [] 0 0 [.signature [32, 97, 0, 98] 0] ⟨∅, 1⟩
      MemberMgr.owned_init).mp hreturns
  exact absurd hsignature (by decide)

end FindFriendBot
