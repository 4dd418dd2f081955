import FindFriendBot.Registry.Reference

/-!
# FindFriendBot — the SQL operations on `t_tokme_member`

What each operation of `MemberModel` returns and leaves in the table when its
driver calls run against `MySql` and the call numbered `throwAt` throws. A
writing operation has its effect if the throw, if any, comes after
`executeUpdate` (`Executes`); `find_friend` sees the row if it comes after
`next()` (`Delivers`), and fills the member up to the `getString` that throws.
-/

namespace FindFriendBot

/-- The throw, if any, comes after `executeUpdate` of a statement with `n`
parameters: call 0 prepares it and the calls 1 to `n` bind them. -/
def Executes (throwAt : Option Nat) (n : Nat) : Prop := ∀ i ∈ throwAt, n + 1 < i

/-- The throw, if any, comes after `find_friend` has called `next()`. -/
def Delivers (throwAt : Option Nat) : Prop := ∀ i ∈ throwAt, 3 < i

instance (throwAt : Option Nat) (n : Nat) : Decidable (Executes throwAt n) :=
  inferInstanceAs (Decidable (∀ i ∈ throwAt, n + 1 < i))

instance (throwAt : Option Nat) : Decidable (Delivers throwAt) :=
  inferInstanceAs (Decidable (∀ i ∈ throwAt, 3 < i))

@[simp] theorem executes_none (n : Nat) : Executes none n := by simp [Executes]

@[simp] theorem delivers_none : Delivers none := by simp [Delivers]

@[simp] theorem executes_some (i n : Nat) : Executes (some i) n ↔ n + 1 < i := by simp [Executes]

@[simp] theorem delivers_some (i : Nat) : Delivers (some i) ↔ 3 < i := by simp [Delivers]

namespace MemberModel

-- ---------------------------------------------------------------------------
-- Writing operations
-- ---------------------------------------------------------------------------

theorem bindParams_none (params : List Param) (t : Table) :
    bindParams MySql.driver params ⟨t, none⟩ = (true, ⟨t, none⟩) := by
  induction params with
  | nil => rfl
  | cons p rest ih =>
    rw [bindParams]
    exact ih

theorem bindParams_some (params : List Param) (t : Table) (i : Nat) :
    bindParams MySql.driver params ⟨t, some i⟩ =
      if params.length ≤ i then (true, ⟨t, some (i - params.length)⟩) else (false, ⟨t, none⟩) := by
  induction params generalizing i with
  | nil => simp [bindParams]
  | cons p rest ih =>
    cases i with
    | zero => simp [bindParams, MySql.driver, MySql.call]
    | succ i =>
      have hstep : bindParams MySql.driver (p :: rest) ⟨t, some (i + 1)⟩ =
          bindParams MySql.driver rest ⟨t, some i⟩ := rfl
      rw [hstep, ih]
      simp [Nat.add_sub_add_right]

/-- The count and the table of a writing operation. -/
theorem executeUpdate_spec (stmt : Statement) (params : List Param) (db : MySql) :
    (executeUpdate MySql.driver stmt params db).1 =
        (if Executes db.throwAt params.length then (db.table.executeUpdate stmt params).1 else 0) ∧
      (executeUpdate MySql.driver stmt params db).2.table =
        (if Executes db.throwAt params.length then (db.table.executeUpdate stmt params).2
          else db.table) := by
  obtain ⟨t, throwAt⟩ := db
  cases throwAt with
  | none =>
    have hcall : MySql.driver.call ⟨t, none⟩ = (true, ⟨t, none⟩) := rfl
    simp only [executeUpdate, hcall, bindParams_none, executes_none, if_true]
    exact ⟨rfl, rfl⟩
  -- prepareStatement is the first call, then one for each parameter
  | some i =>
    cases i with
    | zero => simp [executeUpdate, MySql.driver, MySql.call]
    | succ i =>
      have hcall : MySql.driver.call ⟨t, some (i + 1)⟩ = (true, ⟨t, some i⟩) := rfl
      simp only [executeUpdate, hcall, bindParams_some]
      by_cases hle : params.length ≤ i
      · simp only [hle, if_true]
        obtain hzero | ⟨j, hj⟩ : i - params.length = 0 ∨ ∃ j, i - params.length = j + 1 := by
          cases i - params.length with
          | zero => exact Or.inl rfl
          | succ j => exact Or.inr ⟨j, rfl⟩
        · -- executeUpdate itself throws
          have hno : ¬ Executes (some (i + 1)) params.length := by
            rw [executes_some]
            omega
          rw [hzero, if_neg hno, if_neg hno]
          exact ⟨rfl, rfl⟩
        · have hyes : Executes (some (i + 1)) params.length := by
            rw [executes_some]
            omega
          rw [hj, if_pos hyes, if_pos hyes]
          cases j <;> exact ⟨rfl, rfl⟩
      -- a set… of a parameter throws
      · have hno : ¬ Executes (some (i + 1)) params.length := by
          rw [executes_some]
          omega
        simp only [hle, if_false, if_neg hno, and_self]

theorem addFriend_table (tokId : Bytes) (pk : Pk) (nickName bio : Bytes)
    (createTime updateTime : Nat) (db : MySql) :
    (addFriend MySql.driver tokId pk.hex nickName bio createTime updateTime db).2.table =
      if Executes db.throwAt 6 then
        (db.table.replaceMember (cStr tokId) pk.hex (cStr nickName) (cStr bio) createTime
          updateTime).2
      else db.table := by
  rw [addFriend, (executeUpdate_spec _ _ _).2, Pk.cStr_hex]
  rfl

theorem delFriend_ret (pk : Pk) (db : MySql) :
    (delFriend MySql.driver pk.hex db).1 =
      if Executes db.throwAt 1 then (if pk.hex ∈ db.table.rows then 1 else 0) else 0 := by
  rw [delFriend, (executeUpdate_spec _ _ _).1, Pk.cStr_hex]
  rfl

theorem delFriend_table (pk : Pk) (db : MySql) :
    (delFriend MySql.driver pk.hex db).2.table =
      if Executes db.throwAt 1 then { db.table with rows := db.table.rows.erase pk.hex }
      else db.table := by
  rw [delFriend, (executeUpdate_spec _ _ _).2, Pk.cStr_hex]
  rfl

/-- `SET signature = ?, update_time = ?`. -/
def setSignature (signature : Bytes) (updateTime : Nat) (row : Row) : Row :=
  { row with signature := signature, updateTime := updateTime }

/-- `SET bio = ?, update_time = ?`. -/
def setBio (bio : Bytes) (updateTime : Nat) (row : Row) : Row :=
  { row with bio := bio, updateTime := updateTime }

/-- `SET nick_name = ?, update_time = ?`. -/
def setNickName (nickName : Bytes) (updateTime : Nat) (row : Row) : Row :=
  { row with nickName := nickName, updateTime := updateTime }

theorem updateFriendSignature_ret (pk : Pk) (signature : Bytes) (updateTime : Nat) (db : MySql) :
    (updateFriendSignature MySql.driver pk.hex signature updateTime db).1 =
      if Executes db.throwAt 3 then
        (db.table.updateMember (setSignature (cStr signature) updateTime) pk.hex).1
      else 0 := by
  rw [updateFriendSignature, (executeUpdate_spec _ _ _).1, Pk.cStr_hex]
  rfl

theorem updateFriendSignature_table (pk : Pk) (signature : Bytes) (updateTime : Nat)
    (db : MySql) :
    (updateFriendSignature MySql.driver pk.hex signature updateTime db).2.table =
      if Executes db.throwAt 3 then
        (db.table.updateMember (setSignature (cStr signature) updateTime) pk.hex).2
      else db.table := by
  rw [updateFriendSignature, (executeUpdate_spec _ _ _).2, Pk.cStr_hex]
  rfl

theorem updateFriendBio_table (pk : Pk) (bio : Bytes) (updateTime : Nat) (db : MySql) :
    (updateFriendBio MySql.driver pk.hex bio updateTime db).2.table =
      if Executes db.throwAt 3 then
        (db.table.updateMember (setBio (cStr bio) updateTime) pk.hex).2
      else db.table := by
  rw [updateFriendBio, (executeUpdate_spec _ _ _).2, Pk.cStr_hex]
  rfl

theorem updateFriendName_table (pk : Pk) (name : Bytes) (updateTime : Nat) (db : MySql) :
    (updateFriendName MySql.driver pk.hex name updateTime db).2.table =
      if Executes db.throwAt 3 then
        (db.table.updateMember (setNickName (cStr name) updateTime) pk.hex).2
      else db.table := by
  rw [updateFriendName, (executeUpdate_spec _ _ _).2, Pk.cStr_hex]
  rfl

-- ---------------------------------------------------------------------------
-- find_friend
-- ---------------------------------------------------------------------------

/-- The member `find_friend` hands on: the setters whose `getString` came before
the throw, on a blank member. -/
def fetched (pk : Bytes) (row : Row) (throwAt : Option Nat) : Member :=
  let setters := columnSetters (row.result pk)
  (setters.take ((throwAt.map (· - 4)).getD setters.length)).foldl (fun m set => set m) Member.new

/-- Undisturbed, `find_friend` copies the row. -/
theorem fetched_none (pk : Bytes) (row : Row) :
    fetched pk row none =
      { pk := pk, tokId := row.tokId, nickName := row.nickName, bio := row.bio,
        signature := row.signature, recommandTimes := 0 } := rfl

/-- A throw in `getString("pk")` leaves the blank member. -/
theorem fetched_four (pk : Bytes) (row : Row) : fetched pk row (some 4) = Member.new := rfl

theorem fetched_pk (pk : Bytes) (row : Row) {throwAt : Option Nat} (hd : Delivers throwAt)
    (hne : throwAt ≠ some 4) : (fetched pk row throwAt).pk = pk := by
  cases throwAt with
  | none => rfl
  | some i =>
    have hlt : 3 < i := (delivers_some i).mp hd
    obtain ⟨j, rfl⟩ : ∃ j, i = j + 5 := ⟨i - 5, by
      have hi : i ≠ 4 := fun he => hne (congrArg some he)
      omega⟩
    -- the first getString succeeded; the other setters keep pk
    rcases j with _ | _ | _ | _ | _ | j <;> rfl

theorem fetched_key (pk : Bytes) (row : Row) {throwAt : Option Nat} (hd : Delivers throwAt) :
    (fetched pk row throwAt).pk = if throwAt = some 4 then [] else pk := by
  by_cases hfour : throwAt = some 4
  · rw [if_pos hfour, hfour, fetched_four]
    rfl
  · rw [if_neg hfour, fetched_pk pk row hd hfour]

theorem fillMember_spec (setters : List (Member → Member)) (m : Member) (t : Table)
    (throwAt : Option Nat) :
    (fillMember MySql.driver setters m ⟨t, throwAt⟩).1 =
        (setters.take (throwAt.getD setters.length)).foldl (fun m set => set m) m ∧
      (fillMember MySql.driver setters m ⟨t, throwAt⟩).2.table = t := by
  induction setters generalizing m throwAt with
  | nil =>
    refine ⟨by simp [fillMember], ?_⟩
    match throwAt with
    | none => rfl
    | some 0 => rfl
    | some (_ + 1) => rfl
  | cons set rest ih =>
    match throwAt with
    | none => exact ih (set m) none
    | some 0 => exact ⟨rfl, rfl⟩
    | some (i + 1) => exact ih (set m) (some i)

/-- `find_friend` up to `next()`. -/
theorem selectRow_cases (pk : Bytes) (t : Table) (throwAt : Option Nat) :
    (∃ db, selectRow MySql.driver pk ⟨t, throwAt⟩ = (none, db) ∧ db.table = t ∧
        (¬ Delivers throwAt ∨ t.rows[cStr pk]? = none)) ∨
      ∃ row, t.rows[cStr pk]? = some row ∧ Delivers throwAt ∧
        selectRow MySql.driver pk ⟨t, throwAt⟩ =
          (some (row.result (cStr pk)), ⟨t, throwAt.map (· - 4)⟩) := by
  have hquery : t.executeQuery .selectMember [.string (cStr pk)] =
      (t.rows[cStr pk]?).map (Row.result (cStr pk)) := rfl
  -- the calls of find_friend before the first getString: a throw there is caught and logged
  match throwAt with
  | some 0 => exact Or.inl ⟨_, rfl, rfl, Or.inl (by simp)⟩
  | some 1 => exact Or.inl ⟨_, rfl, rfl, Or.inl (by simp)⟩
  | some 2 => exact Or.inl ⟨_, rfl, rfl, Or.inl (by simp)⟩
  | some 3 => exact Or.inl ⟨_, rfl, rfl, Or.inl (by simp)⟩
  | none =>
    cases hrow : t.rows[cStr pk]? with
    | none =>
      refine Or.inl ⟨⟨t, none⟩, ?_, rfl, Or.inr rfl⟩
      simp [selectRow, bindParams, MySql.driver, MySql.call, hquery, hrow]
    | some row =>
      refine Or.inr ⟨row, rfl, delivers_none, ?_⟩
      simp [selectRow, bindParams, MySql.driver, MySql.call, hquery, hrow]
  -- the row was delivered, and the throw comes i columns later, if at all
  | some (i + 4) =>
    cases hrow : t.rows[cStr pk]? with
    | none =>
      refine Or.inl ⟨(MySql.driver.call ⟨t, some i⟩).2, ?_, ?_, Or.inr rfl⟩
      · simp [selectRow, bindParams, MySql.driver, MySql.call, hquery, hrow]
      · cases i <;> rfl
    | some row =>
      refine Or.inr ⟨row, rfl, by rw [delivers_some]; omega, ?_⟩
      simp [selectRow, bindParams, MySql.driver, MySql.call, hquery, hrow]

theorem selectRow_spec (pk : Pk) (t : Table) (throwAt : Option Nat) :
    (∃ db, selectRow MySql.driver pk.hex ⟨t, throwAt⟩ = (none, db) ∧ db.table = t ∧
        (¬ Delivers throwAt ∨ t.rows[pk.hex]? = none)) ∨
      ∃ row, t.rows[pk.hex]? = some row ∧ Delivers throwAt ∧
        selectRow MySql.driver pk.hex ⟨t, throwAt⟩ =
          (some (row.result pk.hex), ⟨t, throwAt.map (· - 4)⟩) := by
  have hcases := selectRow_cases pk.hex t throwAt
  rw [Pk.cStr_hex] at hcases
  exact hcases

end MemberModel

/-- `find_friend` reads the table, and hands on what it got of the row. -/
theorem Reference.findFriend_spec (pk : Pk) (db : MySql) :
    (Reference.findFriend MySql.driver pk.hex db).1 =
        (if Delivers db.throwAt then
          (db.table.rows[pk.hex]?).map fun row => MemberModel.fetched pk.hex row db.throwAt
        else none) ∧
      (Reference.findFriend MySql.driver pk.hex db).2.table = db.table := by
  obtain ⟨t, throwAt⟩ := db
  rcases MemberModel.selectRow_spec pk t throwAt with
    ⟨db, hsel, htable, hno⟩ | ⟨row, hrow, hd, hsel⟩
  · simp only [Reference.findFriend, hsel, htable, and_true]
    rcases hno with hno | hnone
    · rw [if_neg hno]
    · rw [hnone, Option.map_none, ite_self]
  · obtain ⟨hfill, htable⟩ := MemberModel.fillMember_spec
      (MemberModel.columnSetters (row.result pk.hex)) Member.new t (throwAt.map (· - 4))
    simp only [Reference.findFriend, hsel, htable, and_true, hfill, if_pos hd, hrow,
      Option.map_some, MemberModel.fetched]

end FindFriendBot
