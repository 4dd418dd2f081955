import FindFriendBot.Model.Member

/-!
# FindFriendBot — `MemberMgr`

The registry of online members as the process holds it: `online_member` maps a
public key to a pointer, the objects live on the heap, and `free_list` recycles
them. `none` marks the undefined behaviour of a null or dangling dereference,
which `Registry/Ownership.lean` excludes.
-/

namespace FindFriendBot

/-- `MemberMgr` together with the heap its pointers point into. -/
structure MemberMgr where
  heap : ObjectHeap Member
  onlineMember : Std.ExtTreeMap Bytes Ptr
  freeList : List Ptr

namespace MemberMgr

/-- `MemberMgr::MemberMgr` in a fresh process. -/
def init : MemberMgr where
  heap := ObjectHeap.empty
  onlineMember := ∅
  freeList := []

/-- `MemberMgr::add_member`: `std::map::insert` keeps an existing entry. -/
def addMember (mgr : MemberMgr) (member : Ptr) : Option MemberMgr :=
  match mgr.heap.deref member with
  | none => none
  | some m => some { mgr with onlineMember := mgr.onlineMember.insertIfNew m.pk member }

/-- `MemberMgr::find_member`. -/
def findMember (mgr : MemberMgr) (pk : Bytes) : Ptr :=
  match mgr.onlineMember[pk]? with
  | some it => it
  | none => none

/-- `MemberMgr::deallcate`. -/
def deallcate (mgr : MemberMgr) (member : Ptr) : Option MemberMgr :=
  match LockQueue.deallcate mgr.heap mgr.freeList member with
  | none => none
  | some (heap, freeList) => some { mgr with heap := heap, freeList := freeList }

/-- `MemberMgr::del_member`. -/
def delMember (mgr : MemberMgr) (pk : Bytes) : Option MemberMgr :=
  match mgr.onlineMember[pk]? with
  | none => some mgr
  | some none => some mgr
  | some (some a) =>
    match mgr.deallcate (some a) with
    | none => none
    | some mgr => some { mgr with onlineMember := mgr.onlineMember.erase pk }

/-- `MemberMgr::random_member` on the value `rand` of `rand()`. The map is
copied, so nothing is written. -/
def randomMember (mgr : MemberMgr) (pk : Bytes) (rand : Nat) : Ptr :=
  let onlineMemberTmp := mgr.onlineMember.erase pk
  if onlineMemberTmp.isEmpty then none
  else
    match onlineMemberTmp.toList[rand % onlineMemberTmp.size]? with
    | some (_, some a) => some a
    | _ => none

/-- `MemberMgr::online_member_num`: a `size_t` narrowed to `uint32_t`. -/
def onlineMemberNum (mgr : MemberMgr) : Nat := mgr.onlineMember.size % 2 ^ 32

/-- `MemberMgr::allocate` with its `_reset`. -/
def allocate (mgr : MemberMgr) : Option (Ptr × MemberMgr) :=
  let (member, heap, freeList) := LockQueue.allocate mgr.heap mgr.freeList
  match member with
  | none => some (none, { mgr with heap := heap, freeList := freeList })
  | some a =>
    match heap.update (some a) Member.clear with
    | none => none
    | some heap => some (some a, { mgr with heap := heap, freeList := freeList })

/-- A setter called through a `Member*`. -/
def update (mgr : MemberMgr) (member : Ptr) (set : Member → Member) : Option MemberMgr :=
  match mgr.heap.update member set with
  | none => none
  | some heap => some { mgr with heap := heap }

/-- The loop of `~MemberMgr`, from the iterator over the entries that are left:
a non-null entry is deallocated and erased, a null one is stepped over. -/
def destroyLoop (mgr : MemberMgr) : List (Bytes × Ptr) → Option MemberMgr
  | [] => some mgr
  | (_, none) :: it => destroyLoop mgr it
  | (pk, some a) :: it =>
    match mgr.deallcate (some a) with
    | none => none
    | some mgr => destroyLoop { mgr with onlineMember := mgr.onlineMember.erase pk } it

/-- `~MemberMgr` and then `~lock_queue` of its `free_list`. -/
def destroy (mgr : MemberMgr) : Option MemberMgr :=
  match mgr.destroyLoop mgr.onlineMember.toList with
  | none => none
  | some mgr =>
    match LockQueue.clear mgr.heap mgr.freeList with
    | none => none
    | some heap => some { mgr with heap := heap, freeList := [] }

end MemberMgr

end FindFriendBot
