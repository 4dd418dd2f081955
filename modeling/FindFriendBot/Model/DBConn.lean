import FindFriendBot.Lib.ObjectHeap

/-!
# FindFriendBot — `DBConn`

The pool of database connections. A `sql::Connection` is an object on a heap;
`free_list_` holds pointers, its back at the end. Any driver call may throw, and
`ConnFaults` says which of the calls on connections do. `none` is undefined
behaviour, or a lock that is never obtained: the mutex is taken as a real one,
though the shipped build compiles it to nothing.
-/

namespace FindFriendBot

/-- How `connect` and the calls that set the new connection up end. -/
inductive ConnectOutcome
  | ok
  | connectThrows
  | setupThrows
  deriving DecidableEq

/-- The calls on connections during one operation: what `isClosed` answers, if it does
not throw, how a connect ends, and whether `close` succeeds. -/
structure ConnFaults where
  isClosed : Option Bool
  connect : ConnectOutcome
  close : Bool

/-- `DBConn` with its connection objects. -/
structure DBConn where
  heap : ObjectHeap Unit
  freeList : List Ptr
  maxConn : Nat
  locked : Bool

namespace DBConn

/-- `DBConn::init`. -/
def init (maxConn : Nat) : DBConn where
  heap := ObjectHeap.empty
  freeList := []
  maxConn := maxConn
  locked := false

/-- `lock_.acquire_lock()`; the thread that holds it waits for ever. -/
def acquireLock (pool : DBConn) : Option DBConn :=
  if pool.locked then none else some { pool with locked := true }

/-- `lock_.release_lock()`. -/
def releaseLock (pool : DBConn) : DBConn := { pool with locked := false }

/-- `delete conn`. -/
def deleteConn (pool : DBConn) (conn : Nat) : Option DBConn :=
  match pool.heap.delete conn with
  | none => none
  | some heap => some { pool with heap := heap }

/-- `DBConn::_create_connection`. -/
def createConnection (pool : DBConn) (outcome : ConnectOutcome) : Option (Ptr × DBConn) :=
  match outcome with
  -- nothing was created, and deleting the null pointer does nothing
  | .connectThrows => some (none, pool)
  | .setupThrows =>
    let (conn, heap) := pool.heap.new ()
    match deleteConn { pool with heap := heap } conn with
    | none => none
    | some pool => some (none, pool)
  | .ok =>
    let (conn, heap) := pool.heap.new ()
    some (some conn, { pool with heap := heap })

/-- `DBConn::allocate`; `error` is the pool as an exception leaves it. -/
def allocate (pool : DBConn) (faults : ConnFaults) : Option (Except DBConn (Ptr × DBConn)) :=
  match pool.acquireLock with
  | none => none
  | some pool =>
    match pool.freeList.getLast? with
    | none =>
      match pool.createConnection faults.connect with
      | none => none
      | some (conn, pool) => some (.ok (conn, pool.releaseLock))
    | some none => none
    | some (some conn) =>
      let pool := { pool with freeList := pool.freeList.dropLast }
      if pool.heap.Live conn then
        match faults.isClosed with
        | none => some (.error pool)
        | some false => some (.ok (some conn, pool.releaseLock))
        | some true =>
          match pool.deleteConn conn with
          | none => none
          | some pool =>
            match pool.createConnection faults.connect with
            | none => none
            | some (conn, pool) => some (.ok (conn, pool.releaseLock))
      else none

/-- `DBConn::_destroy`: a connection that cannot be closed is not deleted. -/
def destroy (pool : DBConn) (conn : Ptr) (faults : ConnFaults) : Option DBConn :=
  match conn with
  | none => none
  | some conn =>
    if pool.heap.Live conn then
      if faults.close then pool.deleteConn conn else some pool
    else none

/-- `DBConn::release`. -/
def release (pool : DBConn) (conn : Ptr) (faults : ConnFaults) : Option DBConn :=
  if pool.maxConn < pool.freeList.length then pool.destroy conn faults
  else
    match pool.acquireLock with
    | none => none
    | some pool => some ({ pool with freeList := pool.freeList ++ [conn] }).releaseLock

/-- The loop of `DBConn::~DBConn` over what is left of `free_list_`; `faults` are those of the
calls on each connection. -/
def destroyLoop (faults : Nat → ConnFaults) : List Ptr → DBConn → Option DBConn
  | [], pool => some pool
  | none :: rest, pool => destroyLoop faults rest pool
  | some conn :: rest, pool =>
    match pool.destroy (some conn) (faults conn) with
    | none => none
    | some pool => destroyLoop faults rest pool

/-- `DBConn::~DBConn`. -/
def tearDown (pool : DBConn) (faults : Nat → ConnFaults) : Option DBConn :=
  destroyLoop faults pool.freeList pool

end DBConn

end FindFriendBot
