import FindFriendBot.Lib.StepMachine
import FindFriendBot.Model.DBConn
import FindFriendBot.Model.MemberModel

/-!
# FindFriendBot — `MemberModel` with its resources

The six operations again, with the connection they borrow from `db_conn` and the
statement and result objects they create. `MemberModel.lean` says what an
operation computes; here it is what it does to the objects. `connection` is
allocated outside the `try` block, and `pstmt` and `res` are declared without a
value, so the `catch` block deletes an indeterminate pointer if the call that
should have assigned it threw. `none` is undefined behaviour or a lock that is
never obtained.
-/

namespace FindFriendBot

/-- The pool, the statement and result objects, the registry and the database. -/
structure Session (σ : Type) where
  pool : DBConn
  objects : ObjectHeap Unit
  memberMgr : MemberMgr
  db : σ

/-- How an operation that has defined behaviour ends: with a value, or with an exception
that leaves it. -/
abbrev Session.Outcome (σ α : Type) : Type := Except (Session σ) (α × Session σ)

namespace MemberModel

variable {σ : Type} (D : Driver σ)

/-- A writing operation from its first parameter on. -/
def runUpdate (stmt : Statement) (params : List Param) (db : σ) : Int × σ :=
  match bindParams D params db with
  | (false, db) => (0, db)
  | (true, db) =>
    match D.executeUpdate stmt params db with
    | (none, db) => (0, db)
    | (some ret, db) => (ret, (D.call db).2)

/-- `find_friend` from `res->next()` on. -/
def readMember (res : Option ResultRow) (mgr : MemberMgr) (db : σ) :
    Option (Ptr × MemberMgr × σ) :=
  match D.call db with
  | (false, db) => some (none, mgr, db)
  | (true, db) =>
    match res with
    | none => some (none, mgr, (D.call db).2)
    | some row =>
      match mgr.allocate with
      | none => none
      | some (member, mgr) =>
        match mgr.heap.deref member with
        | none => none
        | some m =>
          match fillMember D (columnSetters row) m db with
          | (filled, db) =>
            match mgr.update member (fun _ => filled) with
            | none => none
            | some mgr => some (member, mgr, db)

end MemberModel

namespace Session

variable {σ : Type} (D : Driver σ)

/-- A process that has not used its database yet. -/
def init (maxConn : Nat) (db : σ) : Session σ where
  pool := DBConn.init maxConn
  objects := ObjectHeap.empty
  memberMgr := MemberMgr.init
  db := db

/-- `db_conn.allocate()` and `connection->prepareStatement(...)`. -/
def prepare (faults : ConnFaults) (s : Session σ) : Option (Outcome σ (Ptr × Nat)) :=
  match s.pool.allocate faults with
  | none => none
  | some (.error pool) => some (.error { s with pool := pool })
  | some (.ok (none, _)) => none
  | some (.ok (some conn, pool)) =>
    if pool.heap.Live conn then
      match D.call s.db with
      -- pstmt has no value when the catch block deletes it
      | (false, _) => none
      | (true, db) =>
        let (pstmt, objects) := s.objects.new ()
        some (.ok ((some conn, pstmt), { s with pool := pool, objects := objects, db := db }))
    else none

/-- `delete pstmt`, `delete res`. -/
def deleteObjects : List Nat → Session σ → Option (Session σ)
  | [], s => some s
  | a :: rest, s =>
    match s.objects.delete a with
    | none => none
    | some objects => deleteObjects rest { s with objects := objects }

/-- The end of an operation, in the `try` block and in the `catch` block: the deletes and
`db_conn.release(connection)`. -/
def finish (objects : List Nat) (connection : Ptr) (faults : ConnFaults) (s : Session σ) :
    Option (Session σ) :=
  match deleteObjects objects s with
  | none => none
  | some s =>
    match s.pool.release connection faults with
    | none => none
    | some pool => some { s with pool := pool }

/-- The shape of the five writing operations. -/
def executeUpdate (stmt : Statement) (params : List Param) (faults : ConnFaults)
    (s : Session σ) : Option (Outcome σ Int) :=
  match prepare D faults s with
  | none => none
  | some (.error s) => some (.error s)
  | some (.ok ((connection, pstmt), s)) =>
    let (ret, db) := MemberModel.runUpdate D stmt params s.db
    match finish [pstmt] connection faults { s with db := db } with
    | none => none
    | some s => some (.ok (ret, s))

/-- `MemberModel::add_friend`. -/
def addFriend (tokId pk nickName bio : Bytes) (createTime updateTime : Nat) :
    ConnFaults → Session σ → Option (Outcome σ Int) :=
  executeUpdate D .replaceMember
    [.string (cStr tokId), .string (cStr pk), .string (cStr nickName), .string (cStr bio),
      .int64 createTime, .int64 updateTime]

/-- `MemberModel::del_friend`. -/
def delFriend (pk : Bytes) : ConnFaults → Session σ → Option (Outcome σ Int) :=
  executeUpdate D .deleteMember [.string (cStr pk)]

/-- `MemberModel::update_friend_signature`. -/
def updateFriendSignature (pk signature : Bytes) (updateTime : Nat) :
    ConnFaults → Session σ → Option (Outcome σ Int) :=
  executeUpdate D .updateSignature
    [.string (cStr signature), .int64 updateTime, .string (cStr pk)]

/-- `MemberModel::update_friend_bio`. -/
def updateFriendBio (pk bio : Bytes) (updateTime : Nat) :
    ConnFaults → Session σ → Option (Outcome σ Int) :=
  executeUpdate D .updateBio [.string (cStr bio), .int64 updateTime, .string (cStr pk)]

/-- `MemberModel::update_friend_name`. -/
def updateFriendName (pk name : Bytes) (updateTime : Nat) :
    ConnFaults → Session σ → Option (Outcome σ Int) :=
  executeUpdate D .updateName [.string (cStr name), .int64 updateTime, .string (cStr pk)]

/-- `MemberModel::find_friend`. -/
def findFriend (pk : Bytes) (faults : ConnFaults) (s : Session σ) : Option (Outcome σ Ptr) :=
  match prepare D faults s with
  | none => none
  | some (.error s) => some (.error s)
  | some (.ok ((connection, pstmt), s)) =>
    -- until executeQuery returns, res has no value when the catch block deletes it
    match MemberModel.bindParams D [.string (cStr pk)] s.db with
    | (false, _) => none
    | (true, db) =>
      match D.executeQuery .selectMember [.string (cStr pk)] db with
      | (none, _) => none
      | (some row, db) =>
        let (res, objects) := s.objects.new ()
        match MemberModel.readMember D row s.memberMgr db with
        | none => none
        | some (member, mgr, db) =>
          match finish [pstmt, res] connection faults
            { s with objects := objects, memberMgr := mgr, db := db } with
          | none => none
          | some s => some (.ok (member, s))

/-- A call of one of the six operations. -/
inductive Operation
  | addFriend (tokId pk nickName bio : Bytes) (createTime updateTime : Nat)
  | delFriend (pk : Bytes)
  | updateFriendSignature (pk signature : Bytes) (updateTime : Nat)
  | updateFriendBio (pk bio : Bytes) (updateTime : Nat)
  | updateFriendName (pk name : Bytes) (updateTime : Nat)
  | findFriend (pk : Bytes)

/-- What its caller gets. -/
inductive Returned
  | count (ret : Int)
  | member (member : Ptr)
  | exception
  deriving DecidableEq

/-- The session after an operation, and what the caller gets. -/
def Outcome.returned {α : Type} (wrap : α → Returned) : Outcome σ α → Session σ × Returned
  | .error s => (s, .exception)
  | .ok (a, s) => (s, wrap a)

def step (s : Session σ) (i : Operation × ConnFaults) : Option (Session σ × Returned) :=
  match i.1 with
  | .addFriend tokId pk nickName bio createTime updateTime =>
    (addFriend D tokId pk nickName bio createTime updateTime i.2 s).map (Outcome.returned .count)
  | .delFriend pk => (delFriend D pk i.2 s).map (Outcome.returned .count)
  | .updateFriendSignature pk signature updateTime =>
    (updateFriendSignature D pk signature updateTime i.2 s).map (Outcome.returned .count)
  | .updateFriendBio pk bio updateTime =>
    (updateFriendBio D pk bio updateTime i.2 s).map (Outcome.returned .count)
  | .updateFriendName pk name updateTime =>
    (updateFriendName D pk name updateTime i.2 s).map (Outcome.returned .count)
  | .findFriend pk => (findFriend D pk i.2 s).map (Outcome.returned .member)

/-- Any sequence of the six operations. -/
def machine : StepMachine (Session σ) (Operation × ConnFaults) Returned where
  step := step D

end Session

end FindFriendBot
