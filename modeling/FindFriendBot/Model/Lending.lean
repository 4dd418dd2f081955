import FindFriendBot.Model.Session

/-!
# FindFriendBot — `MemberModel` and the connections it borrows

The six operations with their `try` blocks and handlers, and with what they do to
the pool of connections; the statement and result objects are left out. Each
operation takes a connection before its `try` block and gives it back in two
places: at the end of the block, and in the handler of an exception that left
it. `release` throws nothing: `_destroy` has a handler of its own.
-/

namespace FindFriendBot

namespace DBConn

/-- The heap after each `new` and `delete` of `_create_connection`. -/
def createHeaps (heap : ObjectHeap Unit) (outcome : ConnectOutcome) : List (ObjectHeap Unit) :=
  match outcome with
  | .connectThrows => []
  | .ok => [(heap.new ()).2]
  | .setupThrows => (heap.new ()).2 :: ((heap.new ()).2.delete (heap.new ()).1).toList

/-- The heap after each `new` and `delete` of `allocate`. -/
def allocateHeaps (pool : DBConn) (faults : ConnFaults) : List (ObjectHeap Unit) :=
  match pool.freeList.getLast? with
  | none => createHeaps pool.heap faults.connect
  | some none => []
  | some (some conn) =>
    match faults.isClosed with
    | some true =>
      match pool.heap.delete conn with
      | none => []
      | some heap => heap :: createHeaps heap faults.connect
    | _ => []

end DBConn

namespace MemberModel

variable {σ : Type} (D : Driver σ)

/-- The `try` block of a writing operation: whether its end is reached, and `ret`. -/
def tryUpdate (stmt : Statement) (params : List Param) (db : σ) : Bool × Int × σ :=
  match D.call db with
  | (false, db) => (false, 0, db)
  | (true, db) =>
    match bindParams D params db with
    | (false, db) => (false, 0, db)
    | (true, db) =>
      match D.executeUpdate stmt params db with
      | (none, db) => (false, 0, db)
      | (some ret, db) =>
        match D.call db with
        | (closed, db) => (closed, ret, db)

/-- The `getString` calls and setters of `find_friend`: whether the last one is reached. -/
def tryFill : List (Member → Member) → Member → σ → Bool × Member × σ
  | [], m, db => (true, m, db)
  | set :: rest, m, db =>
    match D.call db with
    | (false, db) => (false, m, db)
    | (true, db) => tryFill rest (set m) db

/-- The `try` block of `find_friend`: whether its end is reached, and `member`. -/
def tryFind (pk : Bytes) (mgr : MemberMgr) (db : σ) : Option (Bool × Ptr × MemberMgr × σ) :=
  match D.call db with
  | (false, db) => some (false, none, mgr, db)
  | (true, db) =>
    match bindParams D [.string (cStr pk)] db with
    | (false, db) => some (false, none, mgr, db)
    | (true, db) =>
      match D.executeQuery .selectMember [.string (cStr pk)] db with
      | (none, db) => some (false, none, mgr, db)
      | (some res, db) =>
        match D.call db with
        | (false, db) => some (false, none, mgr, db)
        | (true, db) =>
          match res with
          | none =>
            match D.call db with
            | (closed, db) => some (closed, none, mgr, db)
          | some row =>
            match mgr.allocate with
            | none => none
            | some (member, mgr) =>
              match mgr.heap.deref member with
              | none => none
              | some m =>
                match tryFill D (columnSetters row) m db with
                | (false, filled, db) =>
                  (mgr.update member fun _ => filled).map fun mgr => (false, member, mgr, db)
                | (true, filled, db) =>
                  match D.call db with
                  | (closed, db) =>
                    (mgr.update member fun _ => filled).map fun mgr => (closed, member, mgr, db)

end MemberModel

/-- The pool, the registry and the database. -/
structure Lending (σ : Type) where
  pool : DBConn
  memberMgr : MemberMgr
  db : σ

namespace Lending

variable {σ : Type} (D : Driver σ)

/-- A process that has not used its database yet. -/
def init (maxConn : Nat) (db : σ) : Lending σ where
  pool := DBConn.init maxConn
  memberMgr := MemberMgr.init
  db := db

/-- What an operation returns, the connection it took and those it gave back. -/
structure Use where
  returned : Session.Returned
  taken : Ptr
  released : List Ptr
  deriving DecidableEq

/-- The `try` block of an operation. -/
def tryBlock (op : Session.Operation) (mgr : MemberMgr) (db : σ) :
    Option (Bool × Session.Returned × MemberMgr × σ) :=
  match op with
  | .addFriend tokId pk nickName bio createTime updateTime =>
    match MemberModel.tryUpdate D .replaceMember
      [.string (cStr tokId), .string (cStr pk), .string (cStr nickName), .string (cStr bio),
        .int64 createTime, .int64 updateTime] db with
    | (ended, ret, db) => some (ended, .count ret, mgr, db)
  | .delFriend pk =>
    match MemberModel.tryUpdate D .deleteMember [.string (cStr pk)] db with
    | (ended, ret, db) => some (ended, .count ret, mgr, db)
  | .updateFriendSignature pk signature updateTime =>
    match MemberModel.tryUpdate D .updateSignature
      [.string (cStr signature), .int64 updateTime, .string (cStr pk)] db with
    | (ended, ret, db) => some (ended, .count ret, mgr, db)
  | .updateFriendBio pk bio updateTime =>
    match MemberModel.tryUpdate D .updateBio
      [.string (cStr bio), .int64 updateTime, .string (cStr pk)] db with
    | (ended, ret, db) => some (ended, .count ret, mgr, db)
  | .updateFriendName pk name updateTime =>
    match MemberModel.tryUpdate D .updateName
      [.string (cStr name), .int64 updateTime, .string (cStr pk)] db with
    | (ended, ret, db) => some (ended, .count ret, mgr, db)
  | .findFriend pk =>
    match MemberModel.tryFind D pk mgr db with
    | none => none
    | some (ended, member, mgr, db) => some (ended, .member member, mgr, db)

/-- `db_conn.release(connection)`. -/
def release (conn : Ptr) (faults : ConnFaults) (s : Lending σ) (use : Use) :
    Option (Lending σ × Use) :=
  match s.pool.release conn faults with
  | none => none
  | some pool => some ({ s with pool := pool }, { use with released := use.released ++ [conn] })

/-- One operation. -/
def step (s : Lending σ) (i : Session.Operation × ConnFaults) : Option (Lending σ × Use) :=
  match s.pool.allocate i.2 with
  | none => none
  | some (.error pool) =>
    some ({ s with pool := pool }, { returned := .exception, taken := none, released := [] })
  | some (.ok (none, _)) => none
  | some (.ok (some conn, pool)) =>
    -- connection->prepareStatement
    if pool.heap.Live conn then
      match tryBlock D i.1 s.memberMgr s.db with
      | none => none
      | some (true, returned, mgr, db) =>
        -- at the end of the try block
        release (some conn) i.2 { pool := pool, memberMgr := mgr, db := db }
          { returned := returned, taken := some conn, released := [] }
      | some (false, returned, mgr, db) =>
        -- in the handler
        release (some conn) i.2 { pool := pool, memberMgr := mgr, db := db }
          { returned := returned, taken := some conn, released := [] }
    else none

/-- Any sequence of the six operations. -/
def machine : StepMachine (Lending σ) (Session.Operation × ConnFaults) Use where
  step := step D

end Lending

end FindFriendBot
