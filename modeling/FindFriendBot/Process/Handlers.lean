import FindFriendBot.Process.Machine
import FindFriendBot.Registry.Simulation
import FindFriendBot.Storage.Containment

/-!
# FindFriendBot — the handlers with their resources

A callback about a friend makes at most one call of `MemberModel`, and which one is
settled before it does anything (`operation?`). If that call finds its connection
and statement, the handler does what it does without them; if not, nothing the
handler could still do saves the process.

* `write_spec`   — a writing operation, as its caller sees it.
* `handle_does`  — a handler, next to the handler of the bot.
-/

namespace FindFriendBot

namespace Process

open Session (Idle Containable)

variable {σ : Type} (D : Driver σ)

/-- The operation that a command makes. -/
def commandOperation? (tox : Tox) (pk : Pk) (ans : Answers) (cmd : Command) (param : Bytes) :
    Option Session.Operation :=
  match cmd with
  | .start =>
    if param = [] then none
    else
      match getName tox pk ans, getStatusMessage tox pk ans with
      | some nick, some bio =>
        some (.addFriend param pk.hex (cStr nick) (cStr bio) ans.time ans.time)
      | _, _ => none
  | .stop => some (.delFriend pk.hex)
  | .set => if param = [] then none else some (.updateFriendSignature pk.hex param ans.time)
  | _ => none

/-- The operation that a callback about a friend makes. -/
def FriendEvent.operation? (tox : Tox) (pk : Pk) (ans : Answers) :
    FriendEvent → Option Session.Operation
  | .connectionStatus status => if status ≠ .none then some (.findFriend pk.hex) else none
  | .message msg =>
    match msg.dispatch with
    | some (cmd, param) => commandOperation? tox pk ans cmd param
    | none => none
  | .name nick => some (.updateFriendName pk.hex (cStr nick) ans.time)
  | .statusMessage text => some (.updateFriendBio pk.hex (cStr text) ans.time)

/-- The operation, if there is one, finds its connection and statement. -/
def Supplied (s : Session σ) (op? : Option Session.Operation) (faults : ConnFaults) : Prop :=
  ∀ op, op? = some op → Containable D s (op, faults)

theorem supplied_none (s : Session σ) (faults : ConnFaults) : Supplied D s none faults :=
  fun _ hop => absurd hop (by simp)

theorem supplied_some {s : Session σ} {op : Session.Operation} {faults : ConnFaults} :
    Supplied D s (some op) faults ↔ Containable D s (op, faults) :=
  ⟨fun h => h op rfl, fun h _ hop => Option.some.inj hop ▸ h⟩

-- ---------------------------------------------------------------------------
-- Operations
-- ---------------------------------------------------------------------------

/-- **A writing operation**, as its caller sees it. -/
theorem write_spec {s : Session σ} (h : Idle s) (stmt : Statement) (params : List Param)
    (faults : ConnFaults) :
    ((DBConn.Obtains s.pool faults ∧ (D.call s.db).1 = true ∧ True) ∧ ∃ ret s',
        unlessThrown (Session.executeUpdate D stmt params faults s) = some (ret, s') ∧
        Idle s' ∧ s'.memberMgr = s.memberMgr ∧
        MemberModel.executeUpdate D stmt params s.db = (ret, s'.db)) ∨
      (¬ (DBConn.Obtains s.pool faults ∧ (D.call s.db).1 = true ∧ True) ∧
        unlessThrown (Session.executeUpdate D stmt params faults s) = none) := by
  rcases Session.executeUpdate_spec D h stmt params faults with
    ⟨hobtains, hcall, ret, s', hexec, -, hidle, hmgr, hcompute⟩ | ⟨hno, hexec | ⟨s', hexec⟩⟩
  · exact Or.inl ⟨⟨hobtains, hcall, trivial⟩, ret, s', by rw [hexec]; rfl, hidle, hmgr, hcompute⟩
  · exact Or.inr ⟨fun hall => hno ⟨hall.1, hall.2.1⟩, by rw [hexec]; rfl⟩
  · exact Or.inr ⟨fun hall => hno ⟨hall.1, hall.2.1⟩, by rw [hexec]; rfl⟩

/-- The registry is not part of what an idle session is about. -/
theorem idle_of_owned {s : Session σ} (h : Idle s) {mgr : MemberMgr} (hmgr : mgr.Owned) :
    Idle { s with memberMgr := mgr } :=
  ⟨h.pool, h.single, hmgr, h.objects⟩

/-- What the handlers see of a session and toxcore. -/
def state (s : Session σ) (tox : Tox) : State σ where
  memberMgr := s.memberMgr
  db := s.db
  tox := tox

/-- What they see of the registry. -/
theorem refines_state {s : Session σ} (h : Idle s) (tox : Tox) :
    Refines (state s tox) { registry := s.memberMgr.contents, db := s.db, tox := tox } :=
  ⟨h.members, rfl, rfl, rfl⟩

/-- From an idle session, a handler does what the bot's handler does if its operation is
supplied, and is undefined otherwise. -/
def Does {α : Type} (s : Session σ) (tox : Tox) (op? : Option Session.Operation)
    (faults : ConnFaults) (run : Option (Session σ × α)) (plain : Option (State σ × α)) : Prop :=
  (Supplied D s op? faults ∧ ∃ s' a, run = some (s', a) ∧ Idle s' ∧
      plain = some (state s' tox, a)) ∨
    (¬ Supplied D s op? faults ∧ run = none)

variable {D} {s : Session σ} {tox : Tox} {faults : ConnFaults}

/-- A handler that makes no call of `MemberModel`. -/
theorem Does.of_eq {α : Type} (h : Idle s) {run : Option (Session σ × α)}
    {plain : Option (State σ × α)} {a : α} (hrun : run = some (s, a))
    (hplain : plain = some (state s tox, a)) : Does D s tox none faults run plain :=
  Or.inl ⟨supplied_none D s faults, s, a, hrun, h, hplain⟩

/-- Only the value is looked at. -/
theorem Does.map {α β : Type} (f : α → β) {op? : Option Session.Operation}
    {run : Option (Session σ × α)} {plain : Option (State σ × α)}
    (h : Does D s tox op? faults run plain) :
    Does D s tox op? faults (run.map fun r => (r.1, f r.2)) (plain.map fun r => (r.1, f r.2)) := by
  rcases h with ⟨hyes, s', a, hrun, hidle, hplain⟩ | ⟨hno, hrun⟩
  · exact Or.inl ⟨hyes, s', f a, by rw [hrun]; rfl, hidle, by rw [hplain]; rfl⟩
  · exact Or.inr ⟨hno, by rw [hrun]; rfl⟩

/-- A handler that writes a column and the field that caches it. -/
theorem update_does (h : Idle s) (k : Bytes) {set : Member → Member}
    (hset : ∀ m, (set m).pk = m.pk) (stmt : Statement) (params : List Param)
    (faults : ConnFaults) :
    ((DBConn.Obtains s.pool faults ∧ (D.call s.db).1 = true ∧ True) ∧ ∃ ret s' mgr,
        unlessThrown (Session.executeUpdate D stmt params faults s) = some (ret, s') ∧
        Assisant.updateCache s'.memberMgr k set = some mgr ∧ Idle { s' with memberMgr := mgr } ∧
        Assisant.updateCache s.memberMgr k set = some mgr ∧
        MemberModel.executeUpdate D stmt params s.db = (ret, s'.db)) ∨
      (¬ (DBConn.Obtains s.pool faults ∧ (D.call s.db).1 = true ∧ True) ∧
        unlessThrown (Session.executeUpdate D stmt params faults s) = none) := by
  obtain ⟨mgr, hupdate, howned, -⟩ := updateCache_spec h.members k hset
  rcases write_spec D h stmt params faults with
    ⟨hyes, ret, s', hrun, hidle, hmgr, hcompute⟩ | hno
  · refine Or.inl ⟨hyes, ret, s', mgr, hrun, ?_, idle_of_owned hidle howned, hupdate, hcompute⟩
    rw [hmgr, hupdate]
  · exact Or.inr hno

-- ---------------------------------------------------------------------------
-- Handlers
-- ---------------------------------------------------------------------------

theorem friendConnectionStatusCb_does (h : Idle s) (pk : Pk) (status : ToxConnection)
    (ans : Answers) :
    Does D s tox (FriendEvent.operation? tox pk ans (.connectionStatus status)) faults
      ((friendConnectionStatusCb D s pk status faults).map fun s => (s, (none : Option Bytes)))
      ((Assisant.friendConnectionStatusCb D (state s tox) pk status).map fun s => (s, none)) := by
  by_cases hst : status = .none
  · -- no operation
    obtain ⟨mgr, hdel, howned, -⟩ := MemberMgr.delMember_spec h.members pk.hex
    have hop : FriendEvent.operation? tox pk ans (.connectionStatus status) = none := by
      simp [FriendEvent.operation?, hst]
    rw [hop]
    refine Or.inl ⟨supplied_none D s faults, { s with memberMgr := mgr }, none, ?_,
      idle_of_owned h howned, ?_⟩
    · simp [friendConnectionStatusCb, hst, hdel]
    · simp [Assisant.friendConnectionStatusCb, hst, hdel, state]
  -- going online: one SELECT
  · have hop : FriendEvent.operation? tox pk ans (.connectionStatus status) =
        some (.findFriend pk.hex) := by
      simp [FriendEvent.operation?, hst]
    rw [hop]
    rcases Session.findFriend_spec D h pk.hex faults with
      ⟨hyes, member, s', hfind, -, hidle, hcompute⟩ | ⟨hno, hfind⟩
    · cases member with
      | none =>
        refine Or.inl ⟨(supplied_some D).mpr hyes, s', none, ?_, hidle, ?_⟩
        · simp [friendConnectionStatusCb, hst, hfind, unlessThrown]
        · simp [Assisant.friendConnectionStatusCb, hst, hcompute, state]
      | some a =>
        -- the bot's handler is defined, so add_member is
        obtain ⟨t, hplain, href, -⟩ := friendConnectionStatusCb_sim D
          (refines_state h tox) pk status ans
        have hadd : ∃ mgr, s'.memberMgr.addMember (some a) = some mgr ∧ mgr.Owned := by
          simp only [Assisant.friendConnectionStatusCb, hst, ne_eq, not_false_eq_true, if_true,
            state, hcompute] at hplain
          split at hplain
          · exact absurd hplain (by simp)
          · next mgr hadd =>
            obtain rfl := Option.some.inj hplain
            exact ⟨mgr, hadd, href.owned⟩
        obtain ⟨mgr, hadd, howned⟩ := hadd
        refine Or.inl ⟨(supplied_some D).mpr hyes, { s' with memberMgr := mgr }, none, ?_,
          idle_of_owned hidle howned, ?_⟩
        · simp [friendConnectionStatusCb, hst, hfind, unlessThrown, hadd]
        · simp [Assisant.friendConnectionStatusCb, hst, hcompute, hadd, state]
    -- find_friend leaves with an exception, or its call is undefined: then so is the callback
    · refine Or.inr ⟨fun hall => hno ((supplied_some D).mp hall), ?_⟩
      rcases hfind with hfind | ⟨s', hfind⟩
      · simp [friendConnectionStatusCb, hst, hfind, unlessThrown]
      · simp [friendConnectionStatusCb, hst, hfind, unlessThrown]

theorem friendNameCb_does (h : Idle s) (pk : Pk) (nick : Bytes) (ans : Answers) :
    Does D s tox (FriendEvent.operation? tox pk ans (.name nick)) faults
      ((friendNameCb D s pk nick ans faults).map fun s => (s, (none : Option Bytes)))
      ((Assisant.friendNameCb D (state s tox) pk nick ans).map fun s => (s, none)) := by
  rcases update_does (D := D) h pk.hex (Member.setNickName_pk · (cStr nick)) .updateName
      [.string (cStr (cStr nick)), .int64 ans.time, .string (cStr pk.hex)] faults with
    ⟨hyes, ret, s', mgr, hrun, hupdate', hidle, hupdate, hcompute⟩ | ⟨hno, hrun⟩
  · refine Or.inl ⟨(supplied_some D).mpr hyes, _, none, ?_, hidle, ?_⟩
    · simp only [friendNameCb, Session.updateFriendName, hrun, hupdate', Option.map_some]
    · simp only [Assisant.friendNameCb, MemberModel.updateFriendName, state, hcompute, hupdate,
        Option.map_some]
  · refine Or.inr ⟨fun hall => hno ((supplied_some D).mp hall), ?_⟩
    simp only [friendNameCb, Session.updateFriendName, hrun, Option.map_none]

theorem friendStatusMessageCb_does (h : Idle s) (pk : Pk) (text : Bytes) (ans : Answers) :
    Does D s tox (FriendEvent.operation? tox pk ans (.statusMessage text)) faults
      ((friendStatusMessageCb D s pk text ans faults).map fun s => (s, (none : Option Bytes)))
      ((Assisant.friendStatusMessageCb D (state s tox) pk text ans).map fun s => (s, none)) := by
  rcases update_does (D := D) h pk.hex (Member.setBio_pk · (cStr text)) .updateBio
      [.string (cStr (cStr text)), .int64 ans.time, .string (cStr pk.hex)] faults with
    ⟨hyes, ret, s', mgr, hrun, hupdate', hidle, hupdate, hcompute⟩ | ⟨hno, hrun⟩
  · refine Or.inl ⟨(supplied_some D).mpr hyes, _, none, ?_, hidle, ?_⟩
    · simp only [friendStatusMessageCb, Session.updateFriendBio, hrun, hupdate', Option.map_some]
    · simp only [Assisant.friendStatusMessageCb, MemberModel.updateFriendBio, state, hcompute,
        hupdate, Option.map_some]
  · refine Or.inr ⟨fun hall => hno ((supplied_some D).mp hall), ?_⟩
    simp only [friendStatusMessageCb, Session.updateFriendBio, hrun, Option.map_none]

variable (env : Env)

theorem cmdSet_does (h : Idle s) (pk : Pk) (ans : Answers) (signature : Bytes) :
    Does D s tox (commandOperation? tox pk ans .set signature) faults
      (cmdSet D env s pk ans faults signature)
      (Assisant.cmdSet D env (state s tox) pk ans signature) := by
  by_cases hsig : signature = []
  · rw [show commandOperation? tox pk ans .set signature = none from if_pos hsig]
    exact Does.of_eq h (if_pos hsig) (if_pos hsig)
  · rw [show commandOperation? tox pk ans .set signature = some _ from if_neg hsig, cmdSet,
      if_neg hsig, Assisant.cmdSet, if_neg hsig]
    obtain ⟨mgr, hupdate, howned, -⟩ :=
      updateCache_spec h.members pk.hex (Member.setSignature_pk · signature)
    simp only [state, hupdate]
    rcases write_spec D (idle_of_owned h howned) .updateSignature
        [.string (cStr signature), .int64 ans.time, .string (cStr pk.hex)] faults with
      ⟨hyes, ret, s', hrun, hidle, hmgr, hcompute⟩ | ⟨hno, hrun⟩
    · refine Or.inl ⟨(supplied_some D).mpr hyes, s', (env.conf.descSet, ret != 0), ?_, hidle, ?_⟩
      · simp only [Session.updateFriendSignature, hrun]
      · simp only [MemberModel.updateFriendSignature, hcompute]
        rw [state, hmgr]
    · refine Or.inr ⟨fun hall => hno ((supplied_some D).mp hall), ?_⟩
      simp only [Session.updateFriendSignature, hrun]

theorem cmdStop_does (h : Idle s) (pk : Pk) :
    Does D s tox (some (.delFriend pk.hex)) faults (cmdStop D env s pk faults)
      (Assisant.cmdStop D env (state s tox) pk) := by
  obtain ⟨mgr, hdel, howned, -⟩ := MemberMgr.delMember_spec h.members pk.hex
  rw [cmdStop, Assisant.cmdStop]
  simp only [state, hdel]
  rcases write_spec D (idle_of_owned h howned) .deleteMember [.string (cStr pk.hex)] faults with
    ⟨hyes, ret, s', hrun, hidle, hmgr, hcompute⟩ | ⟨hno, hrun⟩
  · refine Or.inl ⟨(supplied_some D).mpr hyes, s', (env.conf.descStop, ret != 0), ?_, hidle, ?_⟩
    · simp only [Session.delFriend, hrun]
    · simp only [MemberModel.delFriend, hcompute]
      rw [state, hmgr]
  · refine Or.inr ⟨fun hall => hno ((supplied_some D).mp hall), ?_⟩
    simp only [Session.delFriend, hrun]

/-- The rest of `cmd_start` after `add_friend`, on the registry alone. -/
theorem startMember_spec {mgr : MemberMgr} (h : mgr.Owned) (set : Member → Member) :
    ∃ a mgr₁ mgr₂ mgr₃, mgr.allocate = some (some a, mgr₁) ∧
      mgr₁.update (some a) set = some mgr₂ ∧ mgr₂.addMember (some a) = some mgr₃ ∧
      mgr₃.Owned := by
  obtain ⟨a, mgr₁, halloc, -, hreg⟩ := register_spec h
  obtain ⟨mgr₂, mgr₃, hupd, hadd, howned, -⟩ := hreg set
  exact ⟨a, mgr₁, mgr₂, mgr₃, halloc, hupd, hadd, howned⟩

theorem cmdStart_does (h : Idle s) (pk : Pk) (ans : Answers) (tokId msgRes : Bytes) :
    Does D s tox (commandOperation? tox pk ans .start tokId) faults
      (cmdStart D env s tox pk ans faults tokId msgRes)
      (Assisant.cmdStart D env (state s tox) pk ans tokId msgRes) := by
  by_cases htok : tokId = []
  -- no token, no statement
  · rw [show commandOperation? tox pk ans .start tokId = none from if_pos htok]
    exact Does.of_eq h (if_pos htok) (if_pos htok)
  · rw [commandOperation?, if_neg htok, cmdStart, if_neg htok, Assisant.cmdStart, if_neg htok]
    simp only [state]
    cases getName tox pk ans with
    | none => exact Does.of_eq h rfl rfl
    | some nick =>
      cases getStatusMessage tox pk ans with
      | none => exact Does.of_eq h rfl rfl
      | some bio =>
        -- the member is allocated, filled and registered after the statement, on the same heap
        obtain ⟨a, mgr₁, mgr₂, mgr₃, halloc, hupd, hadd, howned⟩ :=
          startMember_spec h.members (Assisant.startSetters pk tokId nick bio)
        rcases write_spec D h .replaceMember
            [.string (cStr tokId), .string (cStr pk.hex), .string (cStr (cStr nick)),
              .string (cStr (cStr bio)), .int64 ans.time, .int64 ans.time] faults with
          ⟨hyes, ret, s', hrun, hidle, hmgr, hcompute⟩ | ⟨hno, hrun⟩
        · refine Or.inl ⟨(supplied_some D).mpr hyes, { s' with memberMgr := mgr₃ },
            (env.conf.descStart, true), ?_, idle_of_owned hidle howned, ?_⟩
          · simp only [Session.addFriend, hrun, hmgr, halloc, hupd, hadd]
          · simp only [MemberModel.addFriend, hcompute, halloc, hupd, hadd]
            rfl
        · refine Or.inr ⟨fun hall => hno ((supplied_some D).mp hall), ?_⟩
          simp only [Session.addFriend, hrun]

theorem runCmd_does (h : Idle s) (pk : Pk) (ans : Answers) (cmd : Command) (param : Bytes) :
    Does D s tox (commandOperation? tox pk ans cmd param) faults
      (runCmd D env s tox pk ans faults cmd param)
      (Assisant.runCmd D env (state s tox) pk ans cmd param) := by
  cases cmd with
  | start => exact cmdStart_does env h pk ans param env.conf.descUnknownCmd
  | stop => exact cmdStop_does env h pk
  | set => exact cmdSet_does env h pk ans param
  | get =>
    obtain ⟨hrun, -⟩ := cmdGet_sim env (refines_state h tox) pk ans
    refine Does.of_eq h ?_ hrun
    simp only [runCmd]
    exact congrArg (Option.map _) hrun
  | info =>
    obtain ⟨hrun, -⟩ := cmdInfo_sim env (refines_state h tox) pk ans env.conf.descUnknownCmd
    refine Does.of_eq h ?_ hrun
    simp only [runCmd]
    exact congrArg (Option.map _) hrun
  | help => exact Does.of_eq h rfl rfl
  | readme => exact Does.of_eq h rfl rfl
  | unknown => exact Does.of_eq h rfl rfl

/-- **A handler** with its resources, next to the bot's. -/
theorem handle_does (h : Idle s) (pk : Pk) (e : FriendEvent) (ans : Answers) :
    Does D s tox (e.operation? tox pk ans) faults (handle D env s tox pk e ans faults)
      (Bot.handle D env (state s tox) (e.toEvent pk) ans) := by
  cases e with
  | connectionStatus status => exact friendConnectionStatusCb_does h pk status ans
  | name nick => exact friendNameCb_does h pk nick ans
  | statusMessage text => exact friendStatusMessageCb_does h pk text ans
  | message msg =>
    obtain ⟨cmd, param, hdisp⟩ := msg.dispatch_isSome
    have hop : FriendEvent.operation? tox pk ans (.message msg) =
        commandOperation? tox pk ans cmd param := by
      simp only [FriendEvent.operation?, hdisp]
    -- both send what `ret` says
    have hrun : handle D env s tox pk (.message msg) ans faults =
        (runCmd D env s tox pk ans faults cmd param).map fun r =>
          (r.1, if r.2.2 then some (expandNewlines r.2.1) else none) := by
      simp only [handle, friendMessageCb, hdisp]
      cases runCmd D env s tox pk ans faults cmd param <;> rfl
    have hplain : Bot.handle D env (state s tox) (.message pk msg) ans =
        (Assisant.runCmd D env (state s tox) pk ans cmd param).map fun r =>
          (r.1, if r.2.2 then some (expandNewlines r.2.1) else none) := by
      simp only [Bot.handle, Assisant.friendMessageCb, hdisp]
      cases Assisant.runCmd D env (state s tox) pk ans cmd param <;> rfl
    rw [hop, FriendEvent.toEvent, hrun, hplain]
    exact (runCmd_does env h pk ans cmd param).map
      fun r => if r.2 then some (expandNewlines r.1) else none

end Process

end FindFriendBot
