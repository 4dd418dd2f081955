import FindFriendBot.Model.Bytes
import FindFriendBot.Model.LockedQueue

/-!
# FindFriendBot — `Member`

The profile object of one friend and the setters the handlers call.
-/

namespace FindFriendBot

/-- `Member`; `recommand_times_` is kept because `clear()` resets it. -/
structure Member where
  pk : Bytes
  tokId : Bytes
  nickName : Bytes
  bio : Bytes
  signature : Bytes
  recommandTimes : Nat
  deriving DecidableEq

namespace Member

/-- `Member::Member()`: `std::string` members start empty. -/
def new : Member where
  pk := []
  tokId := []
  nickName := []
  bio := []
  signature := []
  recommandTimes := 0

def setPk (pk : Bytes) (m : Member) : Member := { m with pk := pk }

def setTokId (tokId : Bytes) (m : Member) : Member := { m with tokId := tokId }

def setNickName (nickName : Bytes) (m : Member) : Member := { m with nickName := nickName }

def setBio (bio : Bytes) (m : Member) : Member := { m with bio := bio }

def setSignature (signature : Bytes) (m : Member) : Member := { m with signature := signature }

def setRecommandTimes (n : Nat) (m : Member) : Member := { m with recommandTimes := n }

/-- `Member::clear`. -/
def clear (m : Member) : Member :=
  (((((m.setPk []).setTokId []).setNickName []).setBio []).setSignature []).setRecommandTimes 0

instance : Recyclable Member where
  maxPoolSize := 1024
  new := new
  clear := clear

@[simp] theorem setTokId_pk (m : Member) (b : Bytes) : (m.setTokId b).pk = m.pk := rfl

@[simp] theorem setNickName_pk (m : Member) (b : Bytes) : (m.setNickName b).pk = m.pk := rfl

@[simp] theorem setBio_pk (m : Member) (b : Bytes) : (m.setBio b).pk = m.pk := rfl

@[simp] theorem setSignature_pk (m : Member) (b : Bytes) : (m.setSignature b).pk = m.pk := rfl

end Member

end FindFriendBot
