import FindFriendBot.Lib.ObjectHeap

/-!
# FindFriendBot — `tok::lock_queue`

The recycling pool of `LockedQueue.h`, generic in the pooled type like its
template. `free_list_` is the list of pointers, its back at the end; the
objects themselves live on the heap and keep their contents while pooled. The
bot runs on one thread, so the lock has no effect on what is computed and is
left out.
-/

namespace FindFriendBot

/-- What `lock_queue` asks of its element type: the static bound
`MAX_POOL_SIZE`, the default constructor and `clear()`. -/
class Recyclable (α : Type*) where
  maxPoolSize : Nat
  new : α
  clear : α → α

namespace LockQueue

variable {α : Type*} [Recyclable α]

/-- `lock_queue::allocate`: the back of the list, or a new object. -/
def allocate (heap : ObjectHeap α) (freeList : List Ptr) : Ptr × ObjectHeap α × List Ptr :=
  match freeList.getLast? with
  | none => (some heap.next, (heap.new Recyclable.new).2, freeList)
  | some ret => (ret, heap, freeList.dropLast)

/-- `lock_queue::deallcate`: ignore null, delete past the bound, else push. -/
def deallcate (heap : ObjectHeap α) (freeList : List Ptr) (val : Ptr) :
    Option (ObjectHeap α × List Ptr) :=
  match val with
  | none => some (heap, freeList)
  | some a =>
    if Recyclable.maxPoolSize α < freeList.length then
      (heap.delete a).map fun heap => (heap, freeList)
    else some (heap, freeList ++ [val])

/-- `lock_queue::clear`, called by the destructor: clear and delete every
pooled object. -/
def clear (heap : ObjectHeap α) : List Ptr → Option (ObjectHeap α)
  | [] => some heap
  | none :: rest => clear heap rest
  | some a :: rest =>
    match heap.update (some a) Recyclable.clear with
    | none => none
    | some heap =>
      match heap.delete a with
      | none => none
      | some heap => clear heap rest

end LockQueue

end FindFriendBot
