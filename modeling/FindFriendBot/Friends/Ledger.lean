import FindFriendBot.Friends.Share

/-!
# FindFriendBot — what a repeated `/start` forgets

`REPLACE` deletes the row and inserts a new one: every column the statement does
not name takes its default, and `create_time` is bound to the time of the new
`/start`. The ledger records what the row should hold instead, the time of the
earliest `/start` since its friend last had no row and the signature of the last
`/set` since then, next to the bot and without influence on it.

* `startKeeps_iff`  — one `add_friend`, on any table.
* `repeatedStart_iff` — that and every run: the rows agree with the ledger
  throughout exactly if every event meets `KeepsLedger`.
-/

namespace FindFriendBot

-- ---------------------------------------------------------------------------
-- One add_friend
-- ---------------------------------------------------------------------------

/-- From `t` to `t'` nothing changed but `tok_id`, `nick_name`, `bio` and
`update_time` of the row of `k`. -/
def StartKeeps (t t' : Table) (k : Bytes) : Prop :=
  (∀ k', k' ≠ k → t'.rows[k']? = t.rows[k']?) ∧
    ∀ row, t.rows[k]? = some row → ∃ row', t'.rows[k]? = some row' ∧
      row' = { row with
        tokId := row'.tokId, nickName := row'.nickName, bio := row'.bio,
        updateTime := row'.updateTime }

/-- `add_friend` of a friend with a row keeps the rest of it exactly if its statement
does not run, or would write what is there. -/
theorem startKeeps_iff (db : MySql) (tokId : Bytes) (pk : Pk) (nickName bio : Bytes)
    (createTime updateTime : Nat) {row : Row} (hrow : db.table.rows[pk.hex]? = some row) :
    StartKeeps db.table
        (MemberModel.addFriend MySql.driver tokId pk.hex nickName bio createTime updateTime
          db).2.table pk.hex ↔
      ¬ Executes db.throwAt 6 ∨
        row.signature = [] ∧ row.createTime = createTime ∧ row.id = db.table.autoIncrement := by
  rw [MemberModel.addFriend_table]
  by_cases hex : Executes db.throwAt 6
  -- REPLACE ran: the new row has a new id, this call's time and no signature
  · simp only [hex, if_true, not_true_eq_false, false_or, StartKeeps, Table.get_replaceMember]
    constructor
    · rintro ⟨-, hkept⟩
      obtain ⟨row', hrow', heq⟩ := hkept row hrow
      obtain rfl := Option.some.inj hrow'
      have hid := congrArg Row.id heq
      have hcreate := congrArg Row.createTime heq
      have hsignature := congrArg Row.signature heq
      exact ⟨hsignature.symm, hcreate.symm, hid.symm⟩
    · rintro ⟨hsignature, hcreate, hid⟩
      refine ⟨fun k' hk' => if_neg (Ne.symm hk'), fun old hold => ⟨_, rfl, ?_⟩⟩
      obtain rfl := Option.some.inj (hrow.symm.trans hold)
      rw [hsignature, hcreate, hid]
  -- nothing was executed, so the old row stands
  · simp only [hex, if_false, not_false_eq_true, true_or, iff_true]
    exact ⟨fun _ _ => rfl, fun old hold => ⟨old, hold, rfl⟩⟩

-- ---------------------------------------------------------------------------
-- The ledger
-- ---------------------------------------------------------------------------

/-- What a row should remember. -/
structure LedgerEntry where
  createTime : Nat
  signature : Bytes
  deriving DecidableEq

def Row.ledger (row : Row) : LedgerEntry := ⟨row.createTime, row.signature⟩

/-- The record of every friend with a row. -/
abbrev Ledger := Pk → Option LedgerEntry

def Ledger.ofTable (t : Table) : Ledger := fun pk => (t.rows[pk.hex]?).map Row.ledger

namespace LedgerEntry

/-- A command of a friend whose record is `old`: the earliest `/start` and the last
`/set` count. -/
def noteCommand (old : Option LedgerEntry) (time : Nat) : Command → Bytes → Option LedgerEntry
  | .start, _ => some (old.getD ⟨time, []⟩)
  | .set, signature =>
    if signature = [] then old else old.map fun entry => { entry with signature := signature }
  | _, _ => old

def note (old : Option LedgerEntry) (time : Nat) : Event → Option LedgerEntry
  | .message _ msg =>
    match msg.dispatch with
    | some (cmd, param) => noteCommand old time cmd param
    | none => old
  | _ => old

end LedgerEntry

/-- The ledger after a step: the friend's own event is noted, and who has no row has
no record. -/
def Ledger.note (L : Ledger) (_ : State MySql) (i : Input) (s' : State MySql) (_ : Output) :
    Ledger :=
  fun pk =>
    if pk.hex ∈ s'.db.table.rows then
      if i.1.pk? = some pk then LedgerEntry.note (L pk) i.2.time i.1 else L pk
    else none

/-- Every row is as the ledger has it. -/
def LedgerKept (sL : State MySql × Ledger) : Prop := Ledger.ofTable sL.1.db.table = sL.2

/-- A `/start` that replaces a row finds no signature and its own time there; a `/set`
on a row stores its whole signature, or fails where the row holds it already. -/
def Share.CommandKeeps (p : Profile) (ans : Answers) (cmd : Command) (param : Bytes)
    (sh : Share) : Prop :=
  match cmd with
  | .start => ∀ row, sh.row = some row → param ≠ [] → (p.queries ans).isSome →
      Executes ans.sql 6 → row.signature = [] ∧ row.createTime = ans.time
  | .set => ∀ row, sh.row = some row → param ≠ [] →
      if Executes ans.sql 3 then 0 ∉ param else row.signature = param
  | _ => True

/-- The event keeps what the ledger records. -/
def KeepsLedger (s : State MySql) (i : Input) : Prop :=
  match i.1 with
  | .message pk msg =>
    match msg.dispatch with
    | some (cmd, param) => (s.share pk.hex).CommandKeeps (s.tox.profile pk) i.2 cmd param
    | none => True
  | _ => True

-- ---------------------------------------------------------------------------
-- One share
-- ---------------------------------------------------------------------------

namespace Share

/-- The row left behind is as the noted record says, if there is a row. -/
def NotedRow (row : Option Row) (noted : Option LedgerEntry) : Prop :=
  row.map Row.ledger = if row.isSome then noted else none

theorem notedRow_none (noted : Option LedgerEntry) : NotedRow none noted := rfl

theorem notedRow_some_iff (row : Row) (noted : Option LedgerEntry) :
    NotedRow (some row) noted ↔ some row.ledger = noted := Iff.rfl

/-- A row and a record that nobody touched. -/
theorem notedRow_refl (row : Option Row) : NotedRow row (row.map Row.ledger) := by
  cases row with
  | none => rfl
  | some row => rfl

variable (sh : Share) (pk : Pk) (p : Profile) (ans : Answers)

theorem noted_start_iff (param : Bytes) :
    NotedRow (sh.runCmd pk p ans .start param).row
        (LedgerEntry.noteCommand (sh.row.map Row.ledger) ans.time .start param) ↔
      sh.CommandKeeps p ans .start param := by
  -- a /start that writes nothing
  have hsame : NotedRow sh.row
      (LedgerEntry.noteCommand (sh.row.map Row.ledger) ans.time .start param) := by
    cases sh.row with
    | none => rfl
    | some row => rfl
  unfold runCmd CommandKeeps
  cases hq : p.queries ans with
  | none => exact iff_of_true hsame fun _ _ _ hsome => absurd hsome (by simp)
  | some nb =>
    obtain ⟨name, bio⟩ := nb
    by_cases hparam : param = []
    · simp only [hparam, if_true]
      exact iff_of_true (hparam ▸ hsame) fun _ _ hne => absurd rfl hne
    by_cases hex : Executes ans.sql 6
    -- the REPLACE ran: the record keeps the time and signature of the old row
    · simp only [hparam, if_false, start, hex, if_true, notedRow_some_iff,
        LedgerEntry.noteCommand, Option.some.injEq]
      cases hrow : sh.row with
      | none => exact iff_of_true rfl fun row hr => absurd hr (by simp)
      | some row =>
        simp only [Option.map_some, Option.getD_some, Row.ledger, LedgerEntry.mk.injEq,
          Option.some.injEq, forall_eq']
        constructor
        · rintro ⟨htime, hsignature⟩ - - -
          exact ⟨hsignature.symm, htime.symm⟩
        · intro h
          obtain ⟨hsignature, htime⟩ := h hparam rfl trivial
          exact ⟨htime.symm, hsignature.symm⟩
    · simp only [hparam, if_false, start, hex]
      exact iff_of_true hsame fun _ _ _ _ hrun => absurd hrun (by simp)

theorem noted_set_iff (param : Bytes) :
    NotedRow (sh.runCmd pk p ans .set param).row
        (LedgerEntry.noteCommand (sh.row.map Row.ledger) ans.time .set param) ↔
      sh.CommandKeeps p ans .set param := by
  unfold runCmd CommandKeeps LedgerEntry.noteCommand
  by_cases hparam : param = []
  · simp only [hparam, if_true]
    exact iff_of_true (notedRow_refl sh.row) fun _ _ hne => absurd rfl hne
  cases hrow : sh.row with
  | none =>
    simp only [hparam, if_false, update, hrow, Option.map_none, ite_self]
    exact iff_of_true rfl fun row hr => absurd hr (by simp)
  | some row =>
    simp only [hparam, if_false, update, hrow, Option.map_some, Option.some.injEq, forall_eq',
      ne_eq, not_false_eq_true, forall_const]
    -- whether the UPDATE ran or not, the record is that of the row, unless the signature is cut
    by_cases hex : Executes ans.sql 3
    · simp only [hex, if_true, notedRow_some_iff, Row.ledger, MemberModel.setSignature,
        Option.some.injEq, LedgerEntry.mk.injEq, true_and, cStr_eq_self_iff]
    · simp only [hex, if_false, notedRow_some_iff, Row.ledger, Option.some.injEq,
        LedgerEntry.mk.injEq, true_and]

theorem noted_runCmd_iff (cmd : Command) (param : Bytes) :
    NotedRow (sh.runCmd pk p ans cmd param).row
        (LedgerEntry.noteCommand (sh.row.map Row.ledger) ans.time cmd param) ↔
      sh.CommandKeeps p ans cmd param := by
  cases cmd with
  | start => exact noted_start_iff sh pk p ans param
  | stop =>
    refine iff_of_true ?_ trivial
    show NotedRow (if Executes ans.sql 1 then none else sh.row) (sh.row.map Row.ledger)
    split
    · exact notedRow_none _
    · exact notedRow_refl sh.row
  | set => exact noted_set_iff sh pk p ans param
  | _ => exact iff_of_true (notedRow_refl sh.row) trivial

/-- The cached columns are not in the ledger. -/
theorem noted_update {setRow : Row → Row} (hset : ∀ row, (setRow row).ledger = row.ledger)
    (set : Member → Member) :
    NotedRow (sh.update setRow set ans).row (sh.row.map Row.ledger) := by
  show NotedRow (if Executes ans.sql 3 then sh.row.map setRow else sh.row) _
  split
  · cases sh.row with
    | none => rfl
    | some row => exact congrArg some (hset row)
  · exact notedRow_refl sh.row

end Share

/-- **One event** keeps its friend's row as the ledger has it exactly if it meets
`KeepsLedger`. -/
theorem noted_step_iff (s : State MySql) {e : Event} {pk : Pk} (ans : Answers)
    (hpk : e.pk? = some pk) :
    Share.NotedRow (Share.step (s.tox.profile pk) e ans (s.share pk.hex)).row
        (LedgerEntry.note ((s.share pk.hex).row.map Row.ledger) ans.time e) ↔
      KeepsLedger s (e, ans) := by
  cases e with
  | connectionStatus p status =>
    refine iff_of_true ?_ trivial
    have hrow : (Share.step (s.tox.profile pk) (.connectionStatus p status) ans
        (s.share pk.hex)).row = (s.share pk.hex).row := by
      -- neither find_friend nor the removal from the registry writes the table
      show (if status ≠ .none then (s.share pk.hex).connect p ans
        else (s.share pk.hex).leave).row = _
      unfold Share.connect
      split
      · split
        · rfl
        · split <;> rfl
      · rfl
    rw [hrow]
    exact Share.notedRow_refl _
  | message p msg =>
    obtain rfl := Option.some.inj hpk
    obtain ⟨cmd, param, hdisp⟩ := msg.dispatch_isSome
    simp only [Share.step, LedgerEntry.note, KeepsLedger, hdisp]
    exact Share.noted_runCmd_iff (s.share p.hex) p (s.tox.profile p) ans cmd param
  | name p name =>
    have hset : ∀ row, (MemberModel.setNickName (cStr name) ans.time row).ledger = row.ledger :=
      fun _ => rfl
    exact iff_of_true (Share.noted_update (s.share pk.hex) ans hset _) trivial
  | statusMessage p message =>
    have hset : ∀ row, (MemberModel.setBio (cStr message) ans.time row).ledger = row.ledger :=
      fun _ => rfl
    exact iff_of_true (Share.noted_update (s.share pk.hex) ans hset _) trivial
  | restart => exact absurd hpk (by simp [Event.pk?])

-- ---------------------------------------------------------------------------
-- Every run
-- ---------------------------------------------------------------------------

theorem Ledger.ofTable_share (s : State MySql) (pk : Pk) :
    Ledger.ofTable s.db.table pk = (s.share pk.hex).row.map Row.ledger := by
  show (s.db.table.rows[pk.hex]?).map Row.ledger = _
  rw [State.share, Option.map_map]
  rfl

/-- The bot with its ledger. -/
def Ledger.machine (env : Env) : StepMachine (State MySql × Ledger) Input Output :=
  (Bot.machine MySql.driver env).withGhost Ledger.note

theorem Ledger.note_eq (L : Ledger) (s s' : State MySql) (i : Input) (o : Output) (pk : Pk) :
    L.note s i s' o pk =
      if (s'.share pk.hex).row.isSome then
        if i.1.pk? = some pk then LedgerEntry.note (L pk) i.2.time i.1 else L pk
      else none := by
  simp only [Ledger.note, Std.ExtTreeMap.mem_iff_isSome_getElem?, State.share, Option.isSome_map]

/-- One event, next to the ledger. -/
theorem ledgerKept_step_iff (env : Env) {s s' : State MySql} {r : Reference.State MySql}
    (href : Refines s r) {L : Ledger} (hkept : LedgerKept (s, L)) {i : Input} {o : Output}
    (hstep : Bot.step MySql.driver env s i = some (s', o)) :
    LedgerKept (s', L.note s i s' o) ↔ KeepsLedger s i := by
  obtain ⟨e, ans⟩ := i
  have href' := (href.of_step hstep).1
  have hL : ∀ pk, L pk = (s.share pk.hex).row.map Row.ledger := by
    intro pk
    rw [← Ledger.ofTable_share]
    exact (congrFun hkept pk).symm
  -- friends whose event this is not keep both the row and the record
  have hother : ∀ pk, e.pk? ≠ some pk →
      Ledger.ofTable s'.db.table pk = L.note s (e, ans) s' o pk := by
    intro pk hpk
    have hrow : (s'.share pk.hex).row = (s.share pk.hex).row := by
      have hne : (e, ans).1.pk? ≠ some pk := hpk
      rw [href'.share, href.share]
      rcases Reference.next_share_other env r hne with hsame | hleave
      · rw [hsame]
      · rw [hleave]
        rfl
    rw [Ledger.ofTable_share, Ledger.note_eq, if_neg hpk, hrow, hL]
    exact Share.notedRow_refl _
  have hown : ∀ pk, e.pk? = some pk →
      (Ledger.ofTable s'.db.table pk = L.note s (e, ans) s' o pk ↔ KeepsLedger s (e, ans)) := by
    intro pk hpk
    rw [Ledger.ofTable_share, Ledger.note_eq, if_pos hpk, hL, href'.share,
      (Reference.next_actsOn env r ans hpk).own, ← href.share, ← href.tox]
    exact noted_step_iff s ans hpk
  -- at most one friend's row and record change, those of the event's friend
  unfold LedgerKept
  cases hA : e.pk? with
  | none =>
    obtain rfl := Event.eq_restart hA
    refine iff_of_true (funext fun pk => hother pk ?_) trivial
    simp [Event.pk?]
  | some A =>
    refine ⟨fun h => (hown A hA).mp (congrFun h A), fun h => funext ?_⟩
    intro pk
    by_cases hpk : e.pk? = some pk
    · exact (hown pk hpk).mpr h
    · exact hother pk hpk

/-- The rows agree with the ledger throughout exactly if every event meets the guard. -/
theorem ledgerKept_throughout_iff (env : Env) (db : MySql) (tox : Tox) (is : List Input) :
    (Ledger.machine env).Throughout LedgerKept (Bot.init db tox, Ledger.ofTable db.table) is ↔
      (Bot.machine MySql.driver env).Along KeepsLedger (Bot.init db tox) is := by
  rw [← StepMachine.along_withGhost_iff Ledger.note KeepsLedger is (Bot.init db tox)
    (Ledger.ofTable db.table)]
  refine StepMachine.throughout_iff_along (fun sL => ∃ r, Refines sL.1 r) (fun _ => True)
    ?_ ?_ is _ ⟨_, refines_init db tox⟩ rfl fun _ _ => trivial
  · intro sL i hs _
    obtain ⟨s, L⟩ := sL
    obtain ⟨r, href⟩ := hs
    obtain ⟨s', hstep, href'⟩ := href.step env i
    exact ⟨(s', _), _, StepMachine.withGhost_step_iff.mpr ⟨hstep, rfl⟩, _, href'⟩
  · intro sL i sL' o hs hQ _ hstep
    obtain ⟨s, L⟩ := sL
    obtain ⟨s', L'⟩ := sL'
    obtain ⟨r, href⟩ := hs
    obtain ⟨hbot, rfl⟩ := StepMachine.withGhost_step_iff.mp hstep
    exact ledgerKept_step_iff env href hQ hbot

/-- **A repeated `/start`** keeps what it is not about exactly under these conditions:
one `add_friend` of a friend with a row, on any table, and every run of the bot from any
table. -/
theorem repeatedStart_iff (env : Env) (db : MySql) (tokId : Bytes) (pk : Pk)
    (nickName bio : Bytes) (createTime updateTime : Nat) (tox : Tox) (is : List Input) :
    (∀ row, db.table.rows[pk.hex]? = some row →
      (StartKeeps db.table
          (MemberModel.addFriend MySql.driver tokId pk.hex nickName bio createTime updateTime
            db).2.table pk.hex ↔
        ¬ Executes db.throwAt 6 ∨
          row.signature = [] ∧ row.createTime = createTime ∧ row.id = db.table.autoIncrement)) ∧
    ((Ledger.machine env).Throughout LedgerKept (Bot.init db tox, Ledger.ofTable db.table) is ↔
      (Bot.machine MySql.driver env).Along KeepsLedger (Bot.init db tox) is) :=
  ⟨fun _ hrow => startKeeps_iff db tokId pk nickName bio createTime updateTime hrow,
    ledgerKept_throughout_iff env db tox is⟩

/-- A friend with a row starts again, and loses the signature. From an empty table, `/start`
at 5, `/set x` at 6, a new name at 7 and `/start` by another friend at 8 keep all they should. -/
theorem repeatedStart_iff_keeps :
    ¬ StartKeeps (Table.single Pk.first (bytes " A1") [] [] (bytes " x"))
        (MemberModel.addFriend MySql.driver (bytes " A1") Pk.first.hex [] [] 9 9
          (MySql.holding (Table.single Pk.first (bytes " A1") [] [] (bytes " x")))).2.table
        Pk.first.hex ∧
      (Ledger.machine Env.sample).Throughout LedgerKept
        (Bot.init (MySql.holding Table.empty) Tox.blank, Ledger.ofTable Table.empty)
        [(.message Pk.first ⟨bytes "/start A1", by decide⟩, { Answers.plain with time := 5 }),
          (.message Pk.first ⟨bytes "/set x", by decide⟩, { Answers.plain with time := 6 }),
          (.name Pk.first (bytes "y"), { Answers.plain with time := 7 }),
          (.message Pk.second ⟨bytes "/start B1", by decide⟩,
            { Answers.plain with time := 8 })] := by
  constructor
  · intro hkeeps
    have hcond := ((repeatedStart_iff Env.sample
      (MySql.holding (Table.single Pk.first (bytes " A1") [] [] (bytes " x"))) (bytes " A1")
      Pk.first [] [] 9 9 Tox.blank []).1 _ rfl).mp hkeeps
    exact absurd hcond (by decide)
  · refine ((repeatedStart_iff Env.sample (MySql.holding Table.empty) [] Pk.first [] [] 0 0
      Tox.blank _).2).mpr ⟨?_, ?_⟩
    · -- there is no row yet
      intro row hrow
      exact absurd hrow.symm (Option.some_ne_none row)
    · intro s o hstep
      obtain ⟨rfl, -⟩ := Prod.mk.inj (Option.some.inj hstep)
      refine ⟨?_, ?_⟩
      · -- the whole signature is stored
        intro row _ _
        exact (by decide : (0 : UInt8) ∉ bytes " x")
      · intro s o hstep
        obtain ⟨rfl, -⟩ := Prod.mk.inj (Option.some.inj hstep)
        refine ⟨trivial, ?_⟩
        intro s o hstep
        obtain ⟨rfl, -⟩ := Prod.mk.inj (Option.some.inj hstep)
        refine ⟨?_, fun _ _ _ => trivial⟩
        intro row hrow
        exact absurd hrow.symm (Option.some_ne_none row)

/-- `/start` at 5, `/set x` at 6 and `/start` at 7 leave the row of a new friend. -/
theorem second_start_forgets :
    ∃ s L os, (Ledger.machine Env.sample).run
        (Bot.init (MySql.holding Table.empty) Tox.blank, Ledger.ofTable Table.empty)
        [(.message Pk.first ⟨bytes "/start A1", by decide⟩, { Answers.plain with time := 5 }),
          (.message Pk.first ⟨bytes "/set x", by decide⟩, { Answers.plain with time := 6 }),
          (.message Pk.first ⟨bytes "/start A1", by decide⟩, { Answers.plain with time := 7 })] =
          some ((s, L), os) ∧
      ¬ LedgerKept (s, L) := by
  refine ⟨_, _, _, rfl, ?_⟩
  intro hkept
  have hrow := congrFun hkept Pk.first
  have hforgot : some (⟨7, []⟩ : LedgerEntry) = some ⟨5, bytes " x"⟩ := hrow
  exact absurd hforgot (by decide)

end FindFriendBot
