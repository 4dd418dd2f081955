import FindFriendBot.Model.Database
import FindFriendBot.Model.Util
import FindFriendBot.Registry.Ownership

/-!
# FindFriendBot — a key is a friend

Every friend the bot talks to goes through `get_pk_by_id` once, and from there on
is the string it returns: the key of `online_member` and of the table. The
string is a `Pk`, and no other friend has it.

* `getPkById_eq`                  — the string of a friend is that of its key.
* `registry_keys_identify_friends` — strings, friends and entries.
-/

namespace FindFriendBot

/-- `boost::to_upper` keeps the value of a digit. -/
theorem value_toUpperByte (c : UInt8) : Hex.value (toUpperByte c) = Hex.value c := by
  have hall : ∀ n < 256, Hex.value (toUpperByte (UInt8.ofNat n)) = Hex.value (UInt8.ofNat n) := by
    decide +kernel
  rw [← UInt8.ofNat_toNat (x := c)]
  exact hall c.toNat c.toNat_lt

theorem isUpperHex_toUpperByte_digit {n : Nat} (h : n < 16) :
    IsUpperHex (toUpperByte (Hex.digit n)) := by
  have hall : ∀ n < 16, IsUpperHex (toUpperByte (Hex.digit n)) := by decide
  exact hall n h

namespace PublicKey

/-- The key as the bot spells it. -/
def pk (key : PublicKey) : Pk where
  hex := toUpper (Hex.encode key.bin)
  length_eq := by
    rw [toUpper, List.length_map, Hex.length_encode, key.length_eq]
    rfl
  upper_hex := by
    intro c hc
    obtain ⟨d, hd, rfl⟩ := List.mem_map.mp hc
    obtain ⟨n, hn, rfl⟩ := Hex.mem_encode hd
    exact isUpperHex_toUpperByte_digit hn

theorem ext {key key' : PublicKey} (h : key.bin = key'.bin) : key = key' := by
  cases key
  cases key'
  cases h
  rfl

theorem pk_inj {key key' : PublicKey} (h : key.pk = key'.pk) : key = key' :=
  ext (Hex.encode_inj value_toUpperByte (Pk.hex_inj.mpr h))

/-- A whole key replaces the array. -/
theorem overwrite_bin (old key : PublicKey) : old.overwrite key.bin = key := by
  apply ext
  show (key.bin ++ old.bin.drop key.bin.length).take toxPublicKeySize = key.bin
  rw [key.length_eq, List.drop_eq_nil_of_le (Nat.le_of_eq old.length_eq), List.append_nil,
    ← key.length_eq, List.take_length]

end PublicKey

theorem FriendList.byPublicKey_eq {friends : FriendList} {n : Nat} {key : PublicKey}
    (h : friends.publicKey n = some key) : friends.byPublicKey key = some n := by
  have hn : friends.keys[n]? = some (some key) := Option.join_eq_some_iff.mp h
  unfold byPublicKey
  rw [List.findIdx?_eq_some_iff_getElem]
  obtain ⟨hlt, hget⟩ := List.getElem?_eq_some_iff.mp hn
  -- no smaller number has the key
  refine ⟨hlt, by simp [hget], ?_⟩
  intro j hj heq
  have hkey : friends.keys[j] = some key := by simpa using heq
  have hj' : friends.keys[j]? = some (some key) :=
    List.getElem?_eq_some_iff.mpr ⟨Nat.lt_trans hj hlt, hkey⟩
  exact Nat.ne_of_lt hj (friends.distinct j n key hj' hn)

/-- Two keys never find the same object. -/
theorem MemberMgr.Owned.findMember_inj {mgr : MemberMgr} (h : mgr.Owned) {k k' : Bytes} {a : Nat}
    (hk : mgr.findMember k = some a) (hk' : mgr.findMember k' = some a) : k = k' := by
  have hentry : ∀ k, mgr.findMember k = some a → mgr.onlineMember[k]? = some (some a) := by
    intro k hk
    rcases h.find k with ⟨-, hnone, -⟩ | ⟨b, -, hentry, hsome, -⟩
    · exact absurd (hk.symm.trans hnone) (by simp)
    · rw [hentry, ← hsome, hk]
  exact h.map_inj (hentry k hk) (hentry k' hk')

namespace Util

variable {sodium : Sodium} {friends : FriendList}

/-- **`get_pk_by_id`** of a friend. -/
theorem getPkById_eq (h : sodium.Documented) {n : Nat} {key : PublicKey}
    (hn : friends.publicKey n = some key) (fromPk : PublicKey) :
    getPkById sodium friends fromPk n = key.pk.hex := by
  have hlen : (Hex.encode key.bin).length = toxPublicKeySize * 2 := by
    rw [Hex.length_encode, key.length_eq, Nat.mul_comm]
  unfold getPkById
  simp only [hn, Option.getD_some, h.bin2hex_eq]
  rw [← hlen, List.take_length]
  rfl

/-- **`get_id_by_pk`** of a friend's string. -/
theorem getIdByPk_pk (h : sodium.Documented) {n : Nat} {key : PublicKey}
    (hn : friends.publicKey n = some key) (bin : PublicKey) :
    getIdByPk sodium friends bin key.pk.hex = Int.bmod n (2 ^ 32) := by
  have hbin : sodium.hex2bin toxPublicKeySize key.pk.hex = key.bin := by
    refine h.hex2bin_eq _ _ _ ?_ (Nat.le_of_eq key.length_eq)
    exact Hex.decode_map_encode value_toUpperByte key.bin
  unfold getIdByPk
  simp only [hbin, PublicKey.overwrite_bin, FriendList.byPublicKey_eq hn]

/-- A friend number that an `int` can hold comes back as it is. -/
theorem bmod_eq_self {n : Nat} (h : n < 2 ^ 31) : Int.bmod n (2 ^ 32) = n := by
  rw [Int.bmod_eq_of_le] <;> omega

/-- Two friends have two strings, also where the arrays held different bytes before. -/
theorem getPkById_ne (h : sodium.Documented) {n m : Nat} (hn : (friends.publicKey n).isSome)
    (hm : (friends.publicKey m).isSome) (hne : n ≠ m) (fromPk fromPk' : PublicKey) :
    getPkById sodium friends fromPk n ≠ getPkById sodium friends fromPk' m := by
  obtain ⟨key, hkey⟩ := Option.isSome_iff_exists.mp hn
  obtain ⟨key', hkey'⟩ := Option.isSome_iff_exists.mp hm
  rw [getPkById_eq h hkey, getPkById_eq h hkey']
  intro heq
  obtain rfl := PublicKey.pk_inj (Pk.ext heq)
  exact hne (friends.distinct n m key (Option.join_eq_some_iff.mp hkey)
    (Option.join_eq_some_iff.mp hkey'))

/-- **Registry keys identify friends.** For every friend list, whatever the local arrays
held before: a friend's string has 64 upper-case digits, no two friends have the
same, and a friend number below 2^31 comes back from it. So two friends never
find the same entry of an owned registry, and a statement that changes one
friend's row leaves the other's. -/
theorem registry_keys_identify_friends (h : sodium.Documented) (friends : FriendList)
    (fromPk fromPk' bin : PublicKey) :
    (∀ n, (friends.publicKey n).isSome →
      (getPkById sodium friends fromPk n).length = 64 ∧
        (∀ c ∈ getPkById sodium friends fromPk n, IsUpperHex c) ∧
        (n < 2 ^ 31 → getIdByPk sodium friends bin (getPkById sodium friends fromPk n) = n)) ∧
      ∀ n m, (friends.publicKey n).isSome → (friends.publicKey m).isSome → n ≠ m →
        getPkById sodium friends fromPk n ≠ getPkById sodium friends fromPk' m ∧
        (∀ mgr : MemberMgr, mgr.Owned → ∀ a,
          mgr.findMember (getPkById sodium friends fromPk n) = some a →
            mgr.findMember (getPkById sodium friends fromPk' m) ≠ some a) ∧
        ∀ (t : Table) (set : Option Row → Option Row),
          (t.rows.alter (getPkById sodium friends fromPk n) set)[
            getPkById sodium friends fromPk' m]? = t.rows[getPkById sodium friends fromPk' m]? := by
  constructor
  · intro n hn
    -- the number has a key, so the text is that key in hex
    obtain ⟨key, hkey⟩ := Option.isSome_iff_exists.mp hn
    rw [getPkById_eq h hkey]
    refine ⟨key.pk.length_eq, key.pk.upper_hex, ?_⟩
    intro hlt
    rw [getIdByPk_pk h hkey, bmod_eq_self hlt]
  · intro n m hn hm hne
    -- different keys, different texts
    have hkeys := getPkById_ne h hn hm hne fromPk fromPk'
    refine ⟨hkeys, ?_, ?_⟩
    · intro mgr howned a hfound hfound'
      exact hkeys (howned.findMember_inj hfound hfound')
    · intro t set
      rw [Std.ExtTreeMap.getElem?_alter, if_neg]
      rwa [Std.LawfulEqCmp.compare_eq_iff_eq]

end Util

-- ---------------------------------------------------------------------------
-- Two friends
-- ---------------------------------------------------------------------------

/-- The encoder and the decoder; nothing is written for a text that is too long. -/
def Sodium.plain : Sodium where
  bin2hex := Hex.encode
  hex2bin := fun maxlen hex =>
    match Hex.decode hex with
    | none => []
    | some bin => if bin.length ≤ maxlen then bin else []

theorem Sodium.plain_documented : Sodium.plain.Documented where
  bin2hex_eq := fun _ => rfl
  hex2bin_eq := fun maxlen hex bin hdecode hlen => by simp [plain, hdecode, hlen]

/-- The key of one byte repeated. -/
def PublicKey.repeat (b : UInt8) : PublicKey where
  bin := List.replicate toxPublicKeySize b
  length_eq := List.length_replicate

/-- Two friends; the one between them was deleted. -/
def FriendList.pair : FriendList where
  keys := [some (PublicKey.repeat 171), none, some (PublicKey.repeat 205)]
  distinct := fun i j key hi hj => by
    have hne : PublicKey.repeat 171 ≠ PublicKey.repeat 205 := by decide
    rcases i with _ | _ | _ | i <;> rcases j with _ | _ | _ | j <;> simp_all

/-- The string of the second friend leads back to it, and is not that of the first. -/
theorem registry_keys_of_pair :
    Util.getIdByPk Sodium.plain FriendList.pair (PublicKey.repeat 0)
        (Util.getPkById Sodium.plain FriendList.pair (PublicKey.repeat 0) 2) = 2 ∧
      Util.getPkById Sodium.plain FriendList.pair (PublicKey.repeat 0) 0 ≠
        Util.getPkById Sodium.plain FriendList.pair (PublicKey.repeat 0) 2 := by
  obtain ⟨hback, hne⟩ := Util.registry_keys_identify_friends Sodium.plain_documented
    FriendList.pair (PublicKey.repeat 0) (PublicKey.repeat 0) (PublicKey.repeat 0)
  exact ⟨(hback 2 (by decide)).2.2 (by decide), (hne 0 2 (by decide) (by decide) (by decide)).1⟩

end FindFriendBot
