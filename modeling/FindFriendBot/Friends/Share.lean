import FindFriendBot.Friends.Statements
import FindFriendBot.Lib.OrderedMap
import FindFriendBot.Registry.Simulation

/-!
# FindFriendBot — one friend's share of the state

A friend's share is their row in `t_tokme_member`, apart from its id, and their
registry entry. An event of a friend acts on their own share as a function
`Share.step` of that share, their toxcore profile, the event and its SQL
outcome, and leaves every other key alone; the one exception is the key `""`,
which no friend has: `find_friend` cut off at its first `getString` files the
blank member there.

* `ActsOn`      — what it means for an event to act on one share.
* `next_actsOn` — every event of a friend does.
-/

namespace FindFriendBot

/-- What toxcore knows of a friend. -/
structure Profile where
  name : Bytes
  statusMessage : Bytes

def Tox.profile (tox : Tox) (pk : Pk) : Profile := ⟨tox.name pk, tox.statusMessage pk⟩

/-- An event changes the profile of its own friend only. -/
theorem Tox.apply_profile (tox : Tox) {e : Event} {pk pk' : Pk} (hpk : e.pk? = some pk)
    (hne : pk' ≠ pk) : (tox.apply e).profile pk' = tox.profile pk' := by
  cases e with
  | connectionStatus p status =>
    by_cases hst : status = .none <;> simp [Tox.apply, Tox.profile, hst]
  | message p msg => rfl
  -- toxcore takes over the new value for this friend only
  | name p name =>
    obtain rfl := Option.some.inj hpk
    simp [Tox.apply, Tox.profile, Function.update_of_ne hne]
  | statusMessage p message =>
    obtain rfl := Option.some.inj hpk
    simp [Tox.apply, Tox.profile, Function.update_of_ne hne]
  | restart => rfl

/-- The C strings `get_name` and `get_status_message` give, unless one of them is
`nullptr`. -/
def Profile.queries (p : Profile) (ans : Answers) : Option (Bytes × Bytes) :=
  match queryBuffer ans.nameQuery p.name, queryBuffer ans.statusMessageQuery p.statusMessage with
  | some name, some statusMessage => some (cStr name, cStr statusMessage)
  | _, _ => none

theorem Profile.queries_cStr {p : Profile} {ans : Answers} {name bio : Bytes}
    (h : p.queries ans = some (name, bio)) : cStr name = name ∧ cStr bio = bio := by
  unfold queries at h
  split at h
  · rw [Option.some.injEq, Prod.mk.injEq] at h
    obtain ⟨rfl, rfl⟩ := h
    exact ⟨cStr_cStr _, cStr_cStr _⟩
  · exact absurd h (by simp)

/-- A friend's row, apart from its id, and registry entry. -/
structure Share where
  row : Option Row
  entry : Option Member

namespace Share

/-- A non-`NONE` status: `find_friend` and `add_member`. -/
def connect (pk : Pk) (ans : Answers) (sh : Share) : Share :=
  match sh.row with
  | none => sh
  | some row =>
    if Delivers ans.sql ∧ ans.sql ≠ some 4 then
      { sh with entry := some (sh.entry.getD (MemberModel.fetched pk.hex row ans.sql)) }
    else sh

/-- `del_member` alone. -/
def leave (sh : Share) : Share := { sh with entry := none }

/-- `cmd_start` past its checks: the row is replaced, the entry only added. -/
def start (pk : Pk) (tokId name bio : Bytes) (ans : Answers) (sh : Share) : Share where
  row :=
    if Executes ans.sql 6 then
      some
        { id := 0, tokId := cStr tokId, nickName := name, bio := bio, signature := [],
          createTime := ans.time, updateTime := ans.time }
    else sh.row
  entry := some (sh.entry.getD
    { pk := pk.hex, tokId := tokId, nickName := name, bio := bio, signature := [],
      recommandTimes := 0 })

/-- `cmd_stop`. -/
def stop (ans : Answers) (sh : Share) : Share where
  row := if Executes ans.sql 1 then none else sh.row
  entry := none

/-- An `UPDATE` of one column and the setter of the field it caches. -/
def update (setRow : Row → Row) (set : Member → Member) (ans : Answers) (sh : Share) : Share where
  row := if Executes ans.sql 3 then sh.row.map setRow else sh.row
  entry := sh.entry.map set

/-- What a command does to its sender's share. -/
def runCmd (pk : Pk) (p : Profile) (ans : Answers) (cmd : Command) (param : Bytes)
    (sh : Share) : Share :=
  match cmd with
  | .start =>
    match p.queries ans with
    | some (name, bio) => if param = [] then sh else sh.start pk param name bio ans
    | none => sh
  | .stop => sh.stop ans
  | .set =>
    if param = [] then sh
    else sh.update (MemberModel.setSignature (cStr param) ans.time) (Member.setSignature param) ans
  | _ => sh

/-- What an event does to its friend's share. -/
def step (p : Profile) (e : Event) (ans : Answers) (sh : Share) : Share :=
  match e with
  | .connectionStatus pk status => if status ≠ .none then sh.connect pk ans else sh.leave
  | .message pk msg =>
    match msg.dispatch with
    | some (cmd, param) => sh.runCmd pk p ans cmd param
    | none => sh
  | .name _ name =>
    sh.update (MemberModel.setNickName (cStr name) ans.time) (Member.setNickName (cStr name)) ans
  | .statusMessage _ message =>
    sh.update (MemberModel.setBio (cStr message) ans.time) (Member.setBio (cStr message)) ans
  | .restart => sh.leave

/-- The event files the blank member under the key `""`. -/
def filesBlank (e : Event) (ans : Answers) (sh : Share) : Bool :=
  match e with
  | .connectionStatus _ status => status ≠ .none ∧ sh.row.isSome ∧ ans.sql = some 4
  | _ => false

theorem filesBlank_of_ne {e : Event} {ans : Answers} (h : ans.sql ≠ some 4) (sh : Share) :
    filesBlank e ans sh = false := by
  cases e <;> simp [filesBlank, h]

end Share

-- ---------------------------------------------------------------------------
-- Rows
-- ---------------------------------------------------------------------------

namespace Table

theorem get_replaceMember (t : Table) (tokId pk nickName bio : Bytes) (createTime updateTime : Nat)
    (k : Bytes) :
    (t.replaceMember tokId pk nickName bio createTime updateTime).2.rows[k]? =
      if pk = k then
        some
          { id := t.autoIncrement, tokId := tokId, nickName := nickName, bio := bio,
            signature := [], createTime := createTime, updateTime := updateTime }
      else t.rows[k]? := by
  rw [replaceMember, OrderedMap.get_insert]

theorem get_updateMember (t : Table) (set : Row → Row) (pk k : Bytes) :
    (t.updateMember set pk).2.rows[k]? =
      if pk = k then (t.rows[k]?).map set else t.rows[k]? := by
  cases hrow : t.rows[pk]? with
  | none =>
    simp only [updateMember, hrow]
    split
    · next heq => rw [← heq, hrow, Option.map_none]
    · rfl
  | some row =>
    simp only [updateMember, hrow, OrderedMap.get_insert]
    split
    · next heq => rw [← heq, hrow, Option.map_some]
    · rfl

end Table

-- ---------------------------------------------------------------------------
-- Acting on one share
-- ---------------------------------------------------------------------------

def State.share (s : State MySql) (k : Bytes) : Share where
  row := (s.db.table.rows[k]?).map Row.dropId
  entry := s.memberMgr.memberAt k

namespace Reference

def State.share (r : State MySql) (k : Bytes) : Share where
  row := (r.db.table.rows[k]?).map Row.dropId
  entry := r.registry[k]?

/-- From `r` to `r'` the share of `pk` changed by `f` and nothing else did, save
that the blank member was filed under `""` if `blank`. -/
structure ActsOn (r r' : State MySql) (pk : Pk) (f : Share → Share) (blank : Bool) : Prop where
  own : r'.share pk.hex = f (r.share pk.hex)
  rows : ∀ k, k ≠ pk.hex → r'.db.table.rows[k]? = r.db.table.rows[k]?
  registry : ∀ k : Bytes, k ≠ pk.hex → k ≠ [] → r'.registry[k]? = r.registry[k]?
  nil : r'.registry[([] : Bytes)]? =
    if blank then some ((r.registry[([] : Bytes)]?).getD Member.new) else r.registry[([] : Bytes)]?

theorem ActsOn.of_forall {r r' : State MySql} {pk : Pk} {f : Share → Share}
    (own : r'.share pk.hex = f (r.share pk.hex))
    (rows : ∀ k, k ≠ pk.hex → r'.db.table.rows[k]? = r.db.table.rows[k]?)
    (registry : ∀ k : Bytes, k ≠ pk.hex → r'.registry[k]? = r.registry[k]?) :
    ActsOn r r' pk f false where
  own := own
  rows := rows
  registry := fun k hk _ => registry k hk
  nil := registry [] (Ne.symm pk.hex_ne_nil)

theorem ActsOn.share_other {r r' : State MySql} {pk : Pk} {f : Share → Share} {blank : Bool}
    (h : ActsOn r r' pk f blank) {k : Bytes} (hk : k ≠ pk.hex) (hnil : k ≠ []) :
    r'.share k = r.share k := by
  rw [State.share, State.share, h.rows k hk, h.registry k hk hnil]

theorem ActsOn.share_friend {r r' : State MySql} {pk : Pk} {f : Share → Share} {blank : Bool}
    (h : ActsOn r r' pk f blank) {pk' : Pk} (hne : pk' ≠ pk) : r'.share pk'.hex = r.share pk'.hex :=
  h.share_other (fun he => hne (Pk.hex_inj.mp he)) pk'.hex_ne_nil

theorem ActsOn.share_of_ne {r r' : State MySql} {pk : Pk} {f : Share → Share}
    (h : ActsOn r r' pk f false) {k : Bytes} (hk : k ≠ pk.hex) : r'.share k = r.share k := by
  by_cases hnil : k = []
  · subst hnil
    rw [State.share, State.share, h.rows _ hk, h.nil]
    rfl
  · exact h.share_other hk hnil

theorem ActsOn.mem_registry_of_ne {r r' : State MySql} {pk : Pk} {f : Share → Share}
    (h : ActsOn r r' pk f false) {k : Bytes} (hk : k ≠ pk.hex) :
    k ∈ r'.registry ↔ k ∈ r.registry :=
  OrderedMap.mem_congr (congrArg Share.entry (h.share_of_ne hk))

theorem ActsOn.refl (r : State MySql) (pk : Pk) : ActsOn r r pk id false :=
  ActsOn.of_forall rfl (fun _ _ => rfl) fun _ _ => rfl

theorem get_register (registry : Std.ExtTreeMap Bytes Member) (m : Member) (k : Bytes) :
    (register registry (some m))[k]? =
      if m.pk = k then some ((registry[k]?).getD m) else registry[k]? :=
  OrderedMap.get_insertIfNew ..

theorem ActsOn.congr {r r' : State MySql} {pk : Pk} {f g : Share → Share} {blank blank' : Bool}
    (h : ActsOn r r' pk f blank) (hf : g (r.share pk.hex) = f (r.share pk.hex))
    (hblank : blank' = blank) : ActsOn r r' pk g blank' where
  own := h.own.trans hf.symm
  rows := h.rows
  registry := h.registry
  nil := hblank ▸ h.nil

-- Registration: what `find_friend` returned is filed under its own key.
section Register

variable (r : State MySql) (pk : Pk) {db : MySql}

theorem register_none_actsOn (htable : db.table = r.db.table) :
    ActsOn r { r with registry := register r.registry none, db := db } pk id false := by
  refine ActsOn.of_forall ?_ ?_ fun _ _ => rfl
  · simp [State.share, htable, register]
  · intro k _
    simp only [htable]

theorem register_actsOn (htable : db.table = r.db.table) {m : Member} (hpk : m.pk = pk.hex) :
    ActsOn r { r with registry := register r.registry (some m), db := db } pk
      (fun sh => { sh with entry := some (sh.entry.getD m) }) false := by
  refine ActsOn.of_forall ?_ ?_ ?_
  · simp [State.share, htable, get_register, hpk]
  · intro k _
    simp only [htable]
  · intro k hk
    rw [get_register, hpk, if_neg (Ne.symm hk)]

/-- The blank member is filed under the key `""`, where no friend is. -/
theorem register_new_actsOn (htable : db.table = r.db.table) :
    ActsOn r { r with registry := register r.registry (some Member.new), db := db } pk id
      true := by
  refine ⟨?_, ?_, ?_, ?_⟩
  -- the blank member has the empty key, which is no friend's
  · have hpk : Member.new.pk ≠ pk.hex := Ne.symm pk.hex_ne_nil
    simp [State.share, htable, get_register, hpk]
  · intro k _
    simp only [htable]
  · intro k _ hnil
    exact (get_register ..).trans (if_neg (Ne.symm hnil))
  · exact (get_register ..).trans (if_pos rfl)

end Register

theorem friendConnectionStatusCb_actsOn (r : State MySql) (pk : Pk) (status : ToxConnection)
    (ans : Answers) (hsql : r.db.throwAt = ans.sql) :
    ActsOn r (friendConnectionStatusCb MySql.driver r pk status) pk
      (fun sh => if status ≠ .none then sh.connect pk ans else sh.leave)
      (Share.filesBlank (.connectionStatus pk status) ans (r.share pk.hex)) := by
  by_cases hst : status = .none
  · have hblank : Share.filesBlank (.connectionStatus pk status) ans (r.share pk.hex) = false := by
      simp [Share.filesBlank, hst]
    -- a disconnect erases the entry and makes no query
    rw [hblank]
    refine ActsOn.of_forall ?_ ?_ ?_
    · simp [friendConnectionStatusCb, hst, State.share, Share.leave]
    · intro k _
      simp [friendConnectionStatusCb, hst]
    · intro k hk
      simp [friendConnectionStatusCb, hst, OrderedMap.get_erase, Ne.symm hk]
  · obtain ⟨hfound, htable⟩ := findFriend_spec pk r.db
    rw [hsql] at hfound
    -- a connection: what find_friend returns is registered
    rw [friendConnectionStatusCb, if_pos hst]
    simp only [hfound]
    have hshare : (r.share pk.hex).row = (r.db.table.rows[pk.hex]?).map Row.dropId := rfl
    cases hrow : r.db.table.rows[pk.hex]? with
    | none =>
      -- not a member: find_friend returns NULL
      rw [hrow, Option.map_none] at hshare
      rw [Option.map_none, ite_self]
      refine (register_none_actsOn r pk htable).congr ?_ ?_
      · simp [Share.connect, hst, hshare]
      · simp [Share.filesBlank, hshare]
    | some row =>
      rw [hrow, Option.map_some] at hshare
      rw [Option.map_some]
      by_cases hd : Delivers ans.sql
      · rw [if_pos hd]
        by_cases hfour : ans.sql = some 4
        · -- getString("pk") throws
          rw [hfour, MemberModel.fetched_four]
          refine (register_new_actsOn r pk htable).congr ?_ ?_
          · simp [Share.connect, hst, hshare, hfour]
          · simp [Share.filesBlank, hst, hshare, hfour]
        -- the key was read, so the member is filed under it
        · have hpk := MemberModel.fetched_pk pk.hex row hd hfour
          refine (register_actsOn r pk htable hpk).congr ?_ (Share.filesBlank_of_ne hfour _)
          simp [Share.connect, hst, hshare, hfour, hd]
          rfl
      · rw [if_neg hd]
        -- the statement threw before there was a row
        have hfour : ans.sql ≠ some 4 := by
          intro hfour
          rw [hfour, delivers_some] at hd
          omega
        refine (register_none_actsOn r pk htable).congr ?_ (Share.filesBlank_of_ne hfour _)
        simp [Share.connect, hst, hshare, hd]

/-- A cached column is updated in the table and in the entry. -/
theorem update_actsOn (r : State MySql) (pk : Pk) (ans : Answers) {setRow : Row → Row}
    (set : Member → Member) {db : MySql} (hid : ∀ row, (setRow row).dropId = setRow row.dropId)
    (htable : db.table =
      if Executes ans.sql 3 then (r.db.table.updateMember setRow pk.hex).2 else r.db.table) :
    ActsOn r { r with registry := r.registry.modify pk.hex set, db := db } pk
      (Share.update setRow set ans) false := by
  -- what the statement leaves under each key
  have hrow : ∀ k, db.table.rows[k]? =
      if Executes ans.sql 3 ∧ pk.hex = k then (r.db.table.rows[k]?).map setRow
      else r.db.table.rows[k]? := by
    intro k
    rw [htable]
    by_cases hex : Executes ans.sql 3
    · rw [if_pos hex, Table.get_updateMember]
      simp only [hex, true_and]
    · rw [if_neg hex, if_neg fun h => hex h.1]
  refine ActsOn.of_forall ?_ ?_ ?_
  · simp only [State.share, Share.update, hrow, OrderedMap.get_modify, and_true, if_true]
    congr 1
    split
    · rw [Option.map_map, Option.map_map]
      exact congrArg (fun g => Option.map g _) (funext hid)
    · rfl
  · intro k hk
    rw [hrow, if_neg fun h => hk h.2.symm]
  · intro k hk
    rw [OrderedMap.get_modify, if_neg (Ne.symm hk)]

theorem friendNameCb_actsOn (r : State MySql) (pk : Pk) (name : Bytes) (ans : Answers)
    (hsql : r.db.throwAt = ans.sql) :
    ActsOn r (friendNameCb MySql.driver r pk name ans) pk
      (Share.update (MemberModel.setNickName (cStr name) ans.time)
        (Member.setNickName (cStr name)) ans) false := by
  refine update_actsOn r pk ans _ (fun _ => rfl) ?_
  rw [MemberModel.updateFriendName_table, hsql, cStr_cStr]

theorem friendStatusMessageCb_actsOn (r : State MySql) (pk : Pk) (message : Bytes)
    (ans : Answers) (hsql : r.db.throwAt = ans.sql) :
    ActsOn r (friendStatusMessageCb MySql.driver r pk message ans) pk
      (Share.update (MemberModel.setBio (cStr message) ans.time)
        (Member.setBio (cStr message)) ans) false := by
  refine update_actsOn r pk ans _ (fun _ => rfl) ?_
  rw [MemberModel.updateFriendBio_table, hsql, cStr_cStr]

/-- What `cmd_start` does, by its queries. -/
theorem cmdStart_eq (env : Env) (r : State MySql) (pk : Pk) (ans : Answers)
    (tokId msgRes : Bytes) :
    cmdStart MySql.driver env r pk ans tokId msgRes =
      if tokId = [] then (r, env.conf.descStartNonTok, true)
      else
        match (r.tox.profile pk).queries ans with
        | none => (r, msgRes, false)
        | some (name, bio) =>
          ({ r with
              registry := r.registry.insertIfNew pk.hex
                { pk := pk.hex, tokId := tokId, nickName := name, bio := bio, signature := [],
                  recommandTimes := 0 }
              db := (MemberModel.addFriend MySql.driver tokId pk.hex name bio ans.time ans.time
                r.db).2 }, env.conf.descStart, true) := by
  unfold cmdStart Profile.queries getName getStatusMessage
  split
  · rfl
  · show _ = match (match queryBuffer ans.nameQuery (r.tox.name pk),
        queryBuffer ans.statusMessageQuery (r.tox.statusMessage pk) with
      | some name, some statusMessage => some (cStr name, cStr statusMessage)
      | _, _ => none) with
      | none => _
      | some (name, bio) => _
    -- a failed query is seen only after both were made
    cases queryBuffer ans.nameQuery (r.tox.name pk) with
    | none => rfl
    | some name =>
      cases queryBuffer ans.statusMessageQuery (r.tox.statusMessage pk) with
      | none => rfl
      | some statusMessage => rfl

theorem cmdStart_actsOn (env : Env) (r : State MySql) (pk : Pk) (ans : Answers)
    (tokId msgRes : Bytes) (hsql : r.db.throwAt = ans.sql) :
    ActsOn r (cmdStart MySql.driver env r pk ans tokId msgRes).1 pk
      (Share.runCmd pk (r.tox.profile pk) ans .start tokId) false := by
  rw [cmdStart_eq]
  unfold Share.runCmd
  by_cases htok : tokId = []
  · simp only [htok, if_true]
    cases (r.tox.profile pk).queries ans with
    | none => exact ActsOn.refl r pk
    | some nb => exact ActsOn.refl r pk
  · simp only [htok, if_false]
    cases hq : (r.tox.profile pk).queries ans with
    | none => exact ActsOn.refl r pk
    | some nb =>
      obtain ⟨name, bio⟩ := nb
      obtain ⟨hname, hbio⟩ := Profile.queries_cStr hq
      have htable := MemberModel.addFriend_table tokId pk name bio ans.time ans.time r.db
      rw [hsql, hname, hbio] at htable
      -- the row waits for the statement, the entry does not
      refine ActsOn.of_forall ?_ ?_ ?_
      · simp only [State.share, Share.start, htable, OrderedMap.get_insertIfNew, if_true]
        congr 1
        by_cases hex : Executes ans.sql 6
        · rw [if_pos hex, if_pos hex, Table.get_replaceMember, if_pos rfl]
          rfl
        · rw [if_neg hex, if_neg hex]
      · intro k hk
        simp only [htable]
        by_cases hex : Executes ans.sql 6
        · rw [if_pos hex, Table.get_replaceMember, if_neg (Ne.symm hk)]
        · rw [if_neg hex]
      · intro k hk
        simp only [OrderedMap.get_insertIfNew, if_neg (Ne.symm hk)]

theorem cmdStop_actsOn (env : Env) (r : State MySql) (pk : Pk) (ans : Answers)
    (hsql : r.db.throwAt = ans.sql) :
    ActsOn r (cmdStop MySql.driver env r pk).1 pk (Share.stop ans) false := by
  have htable := MemberModel.delFriend_table pk r.db
  -- the entry goes even if the statement threw
  rw [hsql] at htable
  refine ActsOn.of_forall ?_ ?_ ?_
  · simp only [cmdStop, State.share, Share.stop, htable, OrderedMap.get_erase, if_true]
    congr 1
    by_cases hex : Executes ans.sql 1
    · rw [if_pos hex, if_pos hex, OrderedMap.get_erase, if_pos rfl, Option.map_none]
    · rw [if_neg hex, if_neg hex]
  · intro k hk
    simp only [cmdStop, htable]
    by_cases hex : Executes ans.sql 1
    · rw [if_pos hex, OrderedMap.get_erase, if_neg (Ne.symm hk)]
    · rw [if_neg hex]
  · intro k hk
    simp only [cmdStop, OrderedMap.get_erase, if_neg (Ne.symm hk)]

theorem cmdSet_actsOn (env : Env) (r : State MySql) (pk : Pk) (ans : Answers)
    (signature : Bytes) (hsql : r.db.throwAt = ans.sql) :
    ActsOn r (cmdSet MySql.driver env r pk ans signature).1 pk
      (Share.runCmd pk (r.tox.profile pk) ans .set signature) false := by
  unfold cmdSet Share.runCmd
  by_cases hsig : signature = []
  · simp only [hsig, if_true]
    exact ActsOn.refl r pk
  · simp only [hsig, if_false]
    refine update_actsOn r pk ans _ (fun _ => rfl) ?_
    rw [MemberModel.updateFriendSignature_table, hsql]

theorem runCmd_actsOn (env : Env) (r : State MySql) (pk : Pk) (ans : Answers) (cmd : Command)
    (param : Bytes) (hsql : r.db.throwAt = ans.sql) :
    ActsOn r (runCmd MySql.driver env r pk ans cmd param).1 pk
      (Share.runCmd pk (r.tox.profile pk) ans cmd param) false := by
  by_cases hcmd : cmd ∉ [Command.start, Command.stop, Command.set]
  -- the other commands neither write nor change the registry
  · have hid : Share.runCmd pk (r.tox.profile pk) ans cmd param = id := by
      cases cmd with
      | start => exact absurd hcmd (by decide)
      | stop => exact absurd hcmd (by decide)
      | set => exact absurd hcmd (by decide)
      | _ => rfl
    rw [hid, runCmd_state MySql.driver env r pk ans param hcmd]
    exact ActsOn.refl r pk
  · simp only [List.mem_cons, List.not_mem_nil, or_false, not_not] at hcmd
    rcases hcmd with rfl | rfl | rfl
    · exact cmdStart_actsOn env r pk ans param env.conf.descUnknownCmd hsql
    · exact cmdStop_actsOn env r pk ans hsql
    · exact cmdSet_actsOn env r pk ans param hsql

-- ---------------------------------------------------------------------------
-- Events
-- ---------------------------------------------------------------------------

/-- The state after one event. -/
def next (env : Env) (r : State MySql) (i : Input) : State MySql := (step MySql.driver env r i).1

/-- **One event** acts on the share of its friend. -/
theorem next_actsOn (env : Env) (r : State MySql) {e : Event} {pk : Pk} (ans : Answers)
    (hpk : e.pk? = some pk) :
    ActsOn r (next env r (e, ans)) pk (Share.step (r.tox.profile pk) e ans)
      (Share.filesBlank e ans (r.share pk.hex)) := by
  -- setting the throw of the event changes no share, nor does toxcore's update
  suffices h : ActsOn { r with db := MySql.driver.begin ans.sql r.db }
      (handle MySql.driver env { r with db := MySql.driver.begin ans.sql r.db } e ans).1 pk
      (Share.step (r.tox.profile pk) e ans) (Share.filesBlank e ans (r.share pk.hex)) from
    ⟨h.own, h.rows, h.registry, h.nil⟩
  cases e with
  | connectionStatus p status =>
    obtain rfl := Option.some.inj hpk
    exact friendConnectionStatusCb_actsOn _ p status ans rfl
  | message p msg =>
    obtain rfl := Option.some.inj hpk
    obtain ⟨cmd, param, hdisp⟩ := msg.dispatch_isSome
    have hstep : Share.step (r.tox.profile p) (.message p msg) ans =
        Share.runCmd p (r.tox.profile p) ans cmd param := by
      funext sh
      simp only [Share.step, hdisp]
    rw [hstep]
    simp only [handle, friendMessageCb, hdisp]
    exact runCmd_actsOn env { r with db := MySql.driver.begin ans.sql r.db } p ans cmd param rfl
  | name p name =>
    obtain rfl := Option.some.inj hpk
    exact friendNameCb_actsOn _ p name ans rfl
  | statusMessage p message =>
    obtain rfl := Option.some.inj hpk
    exact friendStatusMessageCb_actsOn _ p message ans rfl
  | restart => exact absurd hpk (by simp [Event.pk?])

/-- A working database leaves no blank member. -/
theorem next_actsOn_quiet (env : Env) (r : State MySql) {e : Event} {pk : Pk} {ans : Answers}
    (hpk : e.pk? = some pk) (hsql : ans.sql = none) :
    ActsOn r (next env r (e, ans)) pk (Share.step (r.tox.profile pk) e ans) false := by
  have hacts := next_actsOn env r ans hpk
  rw [Share.filesBlank_of_ne (by simp [hsql])] at hacts
  exact hacts

/-- A restart empties the registry and keeps the table. -/
theorem next_restart (env : Env) (r : State MySql) (ans : Answers) :
    (next env r (.restart, ans)).registry = ∅ ∧
      (next env r (.restart, ans)).db.table = r.db.table :=
  ⟨rfl, rfl⟩

theorem next_tox (env : Env) (r : State MySql) (i : Input) :
    (next env r i).tox = r.tox.apply i.1 :=
  step_tox MySql.driver env r i

/-- An event that is not the friend's leaves their share, or is a restart. -/
theorem next_share_other (env : Env) (r : State MySql) {i : Input} {pk : Pk}
    (hpk : i.1.pk? ≠ some pk) :
    (next env r i).share pk.hex = r.share pk.hex ∨
      (next env r i).share pk.hex = (r.share pk.hex).leave := by
  obtain ⟨e, ans⟩ := i
  cases hA : e.pk? with
  | none =>
    -- a restart takes the entry and leaves the row
    obtain rfl := Event.eq_restart hA
    obtain ⟨hregistry, htable⟩ := next_restart env r ans
    refine Or.inr ?_
    rw [State.share, hregistry, htable]
    simp [Share.leave, State.share]
  | some A =>
    have hne : pk ≠ A := fun heq => hpk (heq ▸ hA)
    exact Or.inl ((next_actsOn env r ans hA).share_friend hne)

/-- An event of one friend leaves what toxcore knows of another. -/
theorem next_profile (env : Env) (r : State MySql) {e : Event} {pk : Pk} (ans : Answers)
    (hpk : e.pk? = some pk) {pk' : Pk} (hne : pk' ≠ pk) :
    (next env r (e, ans)).tox.profile pk' = r.tox.profile pk' := by
  rw [next_tox]
  exact Tox.apply_profile r.tox hpk hne

end Reference

theorem Refines.share {s : State MySql} {r : Reference.State MySql} (h : Refines s r)
    (k : Bytes) : s.share k = r.share k := by
  rw [State.share, Reference.State.share, h.memberAt, h.db]

/-- The bot's step, next to the reference bot's. -/
theorem Refines.step {s : State MySql} {r : Reference.State MySql} (h : Refines s r) (env : Env)
    (i : Input) :
    ∃ s', Bot.step MySql.driver env s i =
        some (s', (Reference.step MySql.driver env r i).2) ∧
      Refines s' (Reference.next env r i) := by
  obtain ⟨s', hstep, href, -⟩ := step_sim MySql.driver env h i
  exact ⟨s', hstep, href⟩

theorem Refines.of_step {s s' : State MySql} {r : Reference.State MySql} (h : Refines s r)
    {env : Env} {i : Input} {o : Output} (hstep : Bot.step MySql.driver env s i = some (s', o)) :
    Refines s' (Reference.next env r i) ∧ o = (Reference.step MySql.driver env r i).2 := by
  obtain ⟨s₁, hstep₁, href⟩ := h.step env i
  rw [hstep, Option.some.injEq, Prod.mk.injEq] at hstep₁
  obtain ⟨rfl, rfl⟩ := hstep₁
  exact ⟨href, rfl⟩

/-- What every guarded event keeps of the reference state, a guarded run of the bot
keeps. -/
theorem Refines.run_invariant (env : Env) (P : Reference.State MySql → Prop)
    (G : State MySql → Input → Prop)
    (hkeep : ∀ s r i, Refines s r → P r → G s i → P (Reference.next env r i))
    (is : List Input) {s : State MySql} {r : Reference.State MySql} (h : Refines s r) (hP : P r)
    (hG : (Bot.machine MySql.driver env).Along G s is) :
    ∃ s' os r', (Bot.machine MySql.driver env).run s is = some (s', os) ∧ Refines s' r' ∧
      P r' := by
  have hstep : ∀ (s : State MySql) (i : Input), (∃ r, Refines s r ∧ P r) → G s i →
      ∃ s' o, (Bot.machine MySql.driver env).step s i = some (s', o) ∧
        ∃ r, Refines s' r ∧ P r := by
    intro s i hs hi
    obtain ⟨r, href, hr⟩ := hs
    obtain ⟨s', hrun, href'⟩ := href.step env i
    exact ⟨s', _, hrun, _, href', hkeep s r i href hr hi⟩
  obtain ⟨s', os, hrun, r', href, hr'⟩ :=
    StepMachine.run_invariant _ _ hstep is s ⟨r, h, hP⟩ hG
  exact ⟨s', os, r', hrun, href, hr'⟩

/-- What one event keeps exactly under the guard `G`, a run from a fresh process
keeps throughout exactly if its events meet `G`. -/
theorem Refines.throughout_iff_along (env : Env) (A : Input → Prop) {Q : State MySql → Prop}
    {G : State MySql → Input → Prop}
    (hkeep : ∀ s r i s' o, Refines s r → Q s → A i →
      Bot.step MySql.driver env s i = some (s', o) → (Q s' ↔ G s i))
    {db : MySql} {tox : Tox} (hinit : Q (Bot.init db tox)) {is : List Input}
    (hA : ∀ i ∈ is, A i) :
    (Bot.machine MySql.driver env).Throughout Q (Bot.init db tox) is ↔
      (Bot.machine MySql.driver env).Along G (Bot.init db tox) is := by
  refine StepMachine.throughout_iff_along (fun s => ∃ r, Refines s r) A ?_ ?_ is _
    ⟨_, refines_init db tox⟩ hinit hA
  · intro s i hs _
    obtain ⟨r, href⟩ := hs
    obtain ⟨s', hstep, href'⟩ := href.step env i
    exact ⟨s', _, hstep, _, href'⟩
  · intro s i s' o hs hQ hi hstep
    obtain ⟨r, href⟩ := hs
    exact hkeep s r i s' o href hQ hi hstep

end FindFriendBot
