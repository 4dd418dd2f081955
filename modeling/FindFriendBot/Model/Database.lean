import Mathlib.Data.Finset.Card
import Mathlib.Data.List.DropRight
import FindFriendBot.Model.Bytes

/-!
# FindFriendBot — the database

`Driver` is the side of the MySQL connector that `MemberModel` sees: every
driver call may throw, an update returns a row count, and a query returns its
first row (`pk` is unique, and `find_friend` calls `next()` once). The handlers
are generic in the driver, so that what holds for any answers whatever can be
stated once; `MySql.driver` is the driver of the table in `doc/mysql/db_tok.sql`.

The table is keyed by its unique `pk` column. `MySql.driver` gives bound values
back verbatim, which is what most results assume; `MySql.charDriver` gives back
`tok_id` as the `char` column that it is declared to be. What a column cannot
hold is refused, as in MySQL's strict mode.
Keys are compared as bytes: the bot binds upper-case hex only, which the
collation of the column tells apart in the same way.
Row counts are MySQL's: 2 for a `REPLACE` that deleted a row, and for an
`UPDATE` the rows it actually changed. A statement that throws changes nothing.
-/

namespace FindFriendBot

/-- The statements of `MemberModel.cpp`. -/
inductive Statement
  /-- `REPLACE INTO t_tokme_member(tok_id,pk,nick_name,bio,create_time,update_time)
  VALUES(?,?,?,?,?,?)` -/
  | replaceMember
  /-- `DELETE FROM t_tokme_member WHERE pk = ?` -/
  | deleteMember
  /-- `UPDATE t_tokme_member SET signature = ?, update_time = ? WHERE pk = ?` -/
  | updateSignature
  /-- `UPDATE t_tokme_member SET bio = ?, update_time = ? WHERE pk = ?` -/
  | updateBio
  /-- `UPDATE t_tokme_member SET nick_name = ?, update_time = ? WHERE pk = ?` -/
  | updateName
  /-- `SELECT tok_id,pk,nick_name,bio,signature FROM t_tokme_member WHERE pk = ?` -/
  | selectMember

/-- A bound parameter: `setString` or `setInt64`. -/
inductive Param
  | string (value : Bytes)
  | int64 (value : Nat)

/-- The columns `getString` reads from a result row. -/
structure ResultRow where
  tokId : Bytes
  pk : Bytes
  nickName : Bytes
  bio : Bytes
  signature : Bytes

/-- What a `char` column gives back of a value: its trailing blanks are padding. -/
def charColumn (value : Bytes) : Bytes := value.rdropWhile (· == 32)

/-- The row with `tok_id` as its column gives it back. -/
def ResultRow.retrieved (row : ResultRow) : ResultRow :=
  { row with tokId := charColumn row.tokId }

/-- What the connector answers, with its own state `σ`. `begin` starts an event
with the call that is going to throw; `call` is any call without a result worth
modelling (`prepareStatement`, `setString`, `setInt64`, `next`, `getString`,
`close`) and answers `false` when it throws, as `none` does for the others. -/
structure Driver (σ : Type) where
  begin : Option Nat → σ → σ
  call : σ → Bool × σ
  executeUpdate : Statement → List Param → σ → Option Int × σ
  executeQuery : Statement → List Param → σ → Option (Option ResultRow) × σ

-- ---------------------------------------------------------------------------
-- The table
-- ---------------------------------------------------------------------------

/-- A row of `t_tokme_member`; its `pk` is the key it is stored under. -/
structure Row where
  id : Nat
  tokId : Bytes
  nickName : Bytes
  bio : Bytes
  signature : Bytes
  createTime : Nat
  updateTime : Nat
  deriving DecidableEq

/-- The selected columns of the row of `pk`. -/
def Row.result (pk : Bytes) (row : Row) : ResultRow where
  tokId := row.tokId
  pk := pk
  nickName := row.nickName
  bio := row.bio
  signature := row.signature

/-- The row apart from its `AUTO_INCREMENT` id. -/
def Row.dropId (row : Row) : Row := { row with id := 0 }

/-- `t_tokme_member`: its rows by `pk` and the next `AUTO_INCREMENT` value. -/
structure Table where
  rows : Std.ExtTreeMap Bytes Row
  autoIncrement : Nat

namespace Table

/-- `REPLACE INTO`: delete the row of `pk` if there is one, then insert. The
column the statement does not name, `signature`, takes its default `''`. -/
def replaceMember (t : Table) (tokId pk nickName bio : Bytes) (createTime updateTime : Nat) :
    Int × Table :=
  (if pk ∈ t.rows then 2 else 1,
    { rows := t.rows.insert pk
        { id := t.autoIncrement, tokId := tokId, nickName := nickName, bio := bio,
          signature := [], createTime := createTime, updateTime := updateTime }
      autoIncrement := t.autoIncrement + 1 })

/-- `DELETE ... WHERE pk = ?`. -/
def deleteMember (t : Table) (pk : Bytes) : Int × Table :=
  (if pk ∈ t.rows then 1 else 0, { t with rows := t.rows.erase pk })

/-- `UPDATE ... WHERE pk = ?`, where `set` is what the statement assigns. -/
def updateMember (t : Table) (set : Row → Row) (pk : Bytes) : Int × Table :=
  match t.rows[pk]? with
  | none => (0, t)
  | some row =>
    (if set row = row then 0 else 1, { t with rows := t.rows.insert pk (set row) })

/-- The effect of an update statement on its bound parameters. -/
def executeUpdate (t : Table) : Statement → List Param → Int × Table
  | .replaceMember, [.string tokId, .string pk, .string nickName, .string bio,
      .int64 createTime, .int64 updateTime] =>
    t.replaceMember tokId pk nickName bio createTime updateTime
  | .deleteMember, [.string pk] => t.deleteMember pk
  | .updateSignature, [.string signature, .int64 updateTime, .string pk] =>
    t.updateMember (fun row => { row with signature := signature, updateTime := updateTime }) pk
  | .updateBio, [.string bio, .int64 updateTime, .string pk] =>
    t.updateMember (fun row => { row with bio := bio, updateTime := updateTime }) pk
  | .updateName, [.string nickName, .int64 updateTime, .string pk] =>
    t.updateMember (fun row => { row with nickName := nickName, updateTime := updateTime }) pk
  | _, _ => (0, t)

/-- The first row a query statement returns. -/
def executeQuery (t : Table) : Statement → List Param → Option ResultRow
  | .selectMember, [.string pk] => (t.rows[pk]?).map (Row.result pk)
  | _, _ => none

end Table

-- ---------------------------------------------------------------------------
-- The driver of the table
-- ---------------------------------------------------------------------------

/-- The table and the number of driver calls until one throws. -/
structure MySql where
  table : Table
  throwAt : Option Nat

namespace MySql

/-- One driver call: it throws when the countdown is at zero. -/
def call (db : MySql) : Bool × MySql :=
  match db.throwAt with
  | none => (true, db)
  | some 0 => (false, { db with throwAt := none })
  | some (n + 1) => (true, { db with throwAt := some n })

/-- The connector over `t_tokme_member`, every column of which gives back what was bound. -/
def driver : Driver MySql where
  begin := fun throwAt db => { db with throwAt := throwAt }
  call := call
  executeUpdate := fun stmt params db =>
    match db.call with
    | (false, db) => (none, db)
    | (true, db) =>
      let (count, table) := db.table.executeUpdate stmt params
      (some count, { db with table := table })
  executeQuery := fun stmt params db =>
    match db.call with
    | (false, db) => (none, db)
    | (true, db) => (some (db.table.executeQuery stmt params), db)

/-- The connector over `t_tokme_member` as it is declared, with `tok_id` a `char(77)`; `pk` is
one too, but ends in no blank, and the other columns are `varbinary`. -/
def charDriver : Driver MySql where
  begin := driver.begin
  call := driver.call
  executeUpdate := driver.executeUpdate
  executeQuery := fun stmt params db =>
    let (res, db) := driver.executeQuery stmt params db
    (res.map fun row => row.map ResultRow.retrieved, db)

end MySql

end FindFriendBot
