import FindFriendBot.Model.Database
import FindFriendBot.Model.MemberMgr

/-!
# FindFriendBot — `MemberModel`

The six SQL operations, each the body of its `try` block on a live connection:
the first driver call that throws ends it, and the operation returns what it
had in `ret` (or in `member`). Deleting the statement and result objects and
handing the connection back touch neither the table nor the registry and are
left out here. Every string is bound through `c_str()`.
-/

namespace FindFriendBot

namespace MemberModel

variable {σ : Type} (D : Driver σ)

/-- The driver calls that bind parameters, until one throws. -/
def bindParams : List Param → σ → Bool × σ
  | [], db => (true, db)
  | _ :: rest, db =>
    match D.call db with
    | (false, db) => (false, db)
    | (true, db) => bindParams rest db

/-- The shape of the five writing operations: `prepareStatement`, the
parameters, `executeUpdate` into `ret`, `close`. -/
def executeUpdate (stmt : Statement) (params : List Param) (db : σ) : Int × σ :=
  match D.call db with
  | (false, db) => (0, db)
  | (true, db) =>
    match bindParams D params db with
    | (false, db) => (0, db)
    | (true, db) =>
      match D.executeUpdate stmt params db with
      | (none, db) => (0, db)
      -- a throw in close() leaves ret as executeUpdate set it
      | (some ret, db) => (ret, (D.call db).2)

/-- `MemberModel::add_friend`. -/
def addFriend (tokId pk nickName bio : Bytes) (createTime updateTime : Nat) (db : σ) : Int × σ :=
  executeUpdate D .replaceMember
    [.string (cStr tokId), .string (cStr pk), .string (cStr nickName), .string (cStr bio),
      .int64 createTime, .int64 updateTime] db

/-- `MemberModel::del_friend`. -/
def delFriend (pk : Bytes) (db : σ) : Int × σ :=
  executeUpdate D .deleteMember [.string (cStr pk)] db

/-- `MemberModel::update_friend_signature`. -/
def updateFriendSignature (pk signature : Bytes) (updateTime : Nat) (db : σ) : Int × σ :=
  executeUpdate D .updateSignature
    [.string (cStr signature), .int64 updateTime, .string (cStr pk)] db

/-- `MemberModel::update_friend_bio`. -/
def updateFriendBio (pk bio : Bytes) (updateTime : Nat) (db : σ) : Int × σ :=
  executeUpdate D .updateBio [.string (cStr bio), .int64 updateTime, .string (cStr pk)] db

/-- `MemberModel::update_friend_name`. -/
def updateFriendName (pk name : Bytes) (updateTime : Nat) (db : σ) : Int × σ :=
  executeUpdate D .updateName [.string (cStr name), .int64 updateTime, .string (cStr pk)] db

/-- `find_friend` up to `res->next()`: the row, or `none` when there is none or
a call threw before it was reached. -/
def selectRow (pk : Bytes) (db : σ) : Option ResultRow × σ :=
  match D.call db with
  | (false, db) => (none, db)
  | (true, db) =>
    match bindParams D [.string (cStr pk)] db with
    | (false, db) => (none, db)
    | (true, db) =>
      match D.executeQuery .selectMember [.string (cStr pk)] db with
      | (none, db) => (none, db)
      | (some res, db) =>
        match D.call db with
        | (false, db) => (none, db)
        | (true, db) =>
          match res with
          | none => (none, (D.call db).2)
          | some row => (some row, db)

/-- The setters `find_friend` calls, in its order. -/
def columnSetters (row : ResultRow) : List (Member → Member) :=
  [Member.setPk row.pk, Member.setTokId row.tokId, Member.setBio row.bio,
    Member.setSignature row.signature, Member.setNickName row.nickName]

/-- One `getString` before each setter, then `close()`: the object as filled so
far when a call throws. -/
def fillMember : List (Member → Member) → Member → σ → Member × σ
  | [], m, db => (m, (D.call db).2)
  | set :: rest, m, db =>
    match D.call db with
    | (false, db) => (m, db)
    | (true, db) => fillMember rest (set m) db

/-- `MemberModel::find_friend`. -/
def findFriend (pk : Bytes) (mgr : MemberMgr) (db : σ) : Option (Ptr × MemberMgr × σ) :=
  match selectRow D pk db with
  | (none, db) => some (none, mgr, db)
  | (some row, db) =>
    match mgr.allocate with
    | none => none
    | some (member, mgr) =>
      match mgr.heap.deref member with
      | none => none
      | some m =>
        match fillMember D (columnSetters row) m db with
        | (filled, db) =>
          match mgr.update member (fun _ => filled) with
          | none => none
          | some mgr => some (member, mgr, db)

end MemberModel

end FindFriendBot
