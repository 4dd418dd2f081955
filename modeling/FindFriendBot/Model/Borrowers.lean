import FindFriendBot.Lib.StepMachine
import FindFriendBot.Model.DBConn

/-!
# FindFriendBot — `DBConn` and its users

`allocate` and `release` called in any order, by users that may have any number of
connections at once. `lock_` is a mutex, or nothing at all as in the shipped
build; the two differ after an `isClosed` that throws inside of `allocate`, where
a mutex stays locked.
-/

namespace FindFriendBot

/-- The pool, and the connections that its users have. -/
structure Borrowers where
  pool : DBConn
  outstanding : List Nat

namespace Borrowers

/-- `DBConn::init`. -/
def init (maxConn : Nat) : Borrowers where
  pool := DBConn.init maxConn
  outstanding := []

/-- A call, with how the driver's calls in it end. -/
inductive Call
  | allocate (faults : ConnFaults)
  | release (conn : Nat) (faults : ConnFaults)

/-- The pool after an exception that left `allocate`. -/
def afterThrow (mutex : Bool) (pool : DBConn) : DBConn :=
  if mutex then pool else pool.releaseLock

/-- One call; `allocate` answers with the pointer. -/
def call (mutex : Bool) (s : Borrowers) : Call → Option (Borrowers × Ptr)
  | .allocate faults =>
    match s.pool.allocate faults with
    | none => none
    | some (.error pool) => some ({ s with pool := afterThrow mutex pool }, none)
    | some (.ok (none, pool)) => some ({ s with pool := pool }, none)
    | some (.ok (some conn, pool)) =>
      some ({ pool := pool, outstanding := conn :: s.outstanding }, some conn)
  | .release conn faults =>
    match s.pool.release (some conn) faults with
    | none => none
    | some pool => some ({ pool := pool, outstanding := s.outstanding.erase conn }, none)

/-- Any sequence of calls. -/
def machine (mutex : Bool) : StepMachine Borrowers Call Ptr where
  step := call mutex

/-- The call waits for a mutex that nobody releases any more. -/
def Waits (s : Borrowers) : Call → Prop
  | .allocate _ => s.pool.locked = true
  | .release _ _ => s.pool.locked = true ∧ s.pool.freeList.length ≤ s.pool.maxConn

/-- What is given back is outstanding, and a mutex does not stop the call. -/
def Lawful (mutex : Bool) (s : Borrowers) (c : Call) : Prop :=
  (∀ conn faults, c = .release conn faults → conn ∈ s.outstanding) ∧
    (mutex = true → ¬ s.Waits c)

end Borrowers

end FindFriendBot
