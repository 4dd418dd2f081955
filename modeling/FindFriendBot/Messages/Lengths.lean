import Mathlib.Algebra.GroupWithZero.Nat
import FindFriendBot.Friends.Fetching
import FindFriendBot.Friends.Profiles
import FindFriendBot.Messages.Verbatim
import FindFriendBot.Registry.Recommendation

/-!
# FindFriendBot — how long replies are

toxcore takes messages of up to 1372 bytes, names of up to 128 and status
messages of up to 1007. Every field of a member came in within one of these
limits, but nothing checks the reply that puts four of them together: it is as
long as the template and the fields, less one byte for each escape among them.

* `length_reply`  — the length of a formatted and expanded text.
* `limits_step`   — the fields stay within the limits they came in with.
* `reply_lengths` — which replies of `/get` and `/info` fit, in every reachable state.
-/

namespace FindFriendBot

open PairReplacement

-- ---------------------------------------------------------------------------
-- The shipped templates
-- ---------------------------------------------------------------------------

theorem argDigit_bounds : ∀ i : Fin 9,
    (49 : UInt8) ≤ 49 + UInt8.ofNat i ∧ 49 + UInt8.ofNat i ≤ 57 := by decide

/-- The digits of `%1%` to `%9%`. -/
def argDigit (i : Fin 9) : ArgDigit := ⟨49 + UInt8.ofNat i, argDigit_bounds i⟩

theorem nickname_plain : 37 ∉ bytes "Nickname: " := by decide

/-- `desc_get` as a template. -/
def Template.shippedGet : Template :=
  Template.positional (bytes "Nickname: ")
    [(argDigit 0, bytes "\\nBio: "), (argDigit 1, bytes "\\nInterested in: "),
      (argDigit 2, bytes ".\\nTokID: "),
      (argDigit 3, bytes "\\nClick Tok ID to add this friend.\\n/get One more")]
    nickname_plain (by decide)

/-- `desc_info` as a template. -/
def Template.shippedInfo : Template :=
  Template.positional (bytes "Nickname: ")
    [(argDigit 0, bytes "\\nBio: "), (argDigit 1, bytes "\\nWhat r u interested in: "),
      (argDigit 2, [])] nickname_plain (by decide)

theorem Template.shippedGet_text : Template.shippedGet.text = Conf.shippedGet := by decide

theorem Template.shippedInfo_text : Template.shippedInfo.text = Conf.shippedInfo := by decide

theorem Template.shippedGet_formatsAs : FormatsAs positionalFormat Template.shippedGet 4 :=
  positional_formatsAs _ _ _ _ (by decide)

theorem Template.shippedInfo_formatsAs : FormatsAs positionalFormat Template.shippedInfo 3 :=
  positional_formatsAs _ _ _ _ (by decide)

/-- The template's own text is accepted. -/
theorem FormatsAs.text {format : Bytes → List Bytes → Option Bytes} {t : Template} {n : Nat}
    (h : FormatsAs format t n) {args : List Bytes} (hargs : args.length = n) :
    format t.text args = some (Segment.flat (t.segments args)) := by
  have hprinted := h id (fun _ hb => hb) args hargs
  rw [Template.mapLiterals_id] at hprinted
  exact hprinted

/-- The shipped texts with the positional format. -/
def Env.shipped : Env where
  conf :=
    { Env.sample.conf with
      descGet := Conf.shippedGet
      descInfo := Conf.shippedInfo
      descUnknownCmd := bytes "Invalid command. Click or type /help for a list of commands" }
  format := positionalFormat
  get_accepted := fun a b c d => by
    show (positionalFormat Conf.shippedGet [a, b, c, d]).isSome = true
    rw [← Template.shippedGet_text, Template.shippedGet_formatsAs.text rfl]
    rfl
  info_accepted := fun a b c => by
    show (positionalFormat Conf.shippedInfo [a, b, c]).isSome = true
    rw [← Template.shippedInfo_text, Template.shippedInfo_formatsAs.text rfl]
    rfl

theorem Env.shipped_conf : Env.shipped.conf.Shipped where
  get := rfl
  info := rfl
  getNone := rfl
  unknownCmd := rfl

-- ---------------------------------------------------------------------------
-- The length of a reply
-- ---------------------------------------------------------------------------

/-- Expanding the escapes of a formatted text shortens it by one byte each. -/
theorem length_reply {format : Bytes → List Bytes → Option Bytes} {t : Template} {n : Nat}
    (h : FormatsAs format t n) {args : List Bytes} (hargs : args.length = n) {text : Bytes}
    (htext : format t.text args = some text) :
    (expandNewlines text).length + unmeant 92 110 (t.segments args) =
      (shown (t.segments args)).length := by
  rw [h.text hargs, Option.some.injEq] at htext
  rw [← htext, expandNewlines_eq]
  exact length_replaced (by decide) 10 (t.segments args)

/-- The literal text with its escapes expanded, and the arguments. -/
theorem length_shown_positional (first : Bytes) (rest : List (ArgDigit × Bytes))
    (hfirst : 37 ∉ first) (hrest : ∀ p ∈ rest, 37 ∉ p.2) (args : List Bytes) :
    (shown ((Template.positional first rest hfirst hrest).segments args)).length =
      (expandNewlines first).length + (rest.map fun p =>
        (args.getD (p.1.val.toNat - 49) []).length + (expandNewlines p.2).length).sum := by
  have hrests : ∀ column, (shown (Template.restSegments args column
      (rest.map fun p => (Directive.positional p.1, p.2)))).length = (rest.map fun p =>
        (args.getD (p.1.val.toNat - 49) []).length + (expandNewlines p.2).length).sum := by
    -- induction on the directives; the column does not matter to them
    clear hrest
    induction rest with
    | nil => exact fun _ => rfl
    | cons p rest ih =>
      intro column
      obtain ⟨d, literal⟩ := p
      have hsum : (((d, literal) :: rest).map fun p =>
          (args.getD (p.1.val.toNat - 49) []).length + (expandNewlines p.2).length).sum =
          (args.getD (d.val.toNat - 49) []).length + (expandNewlines literal).length +
            (rest.map fun p =>
              (args.getD (p.1.val.toNat - 49) []).length + (expandNewlines p.2).length).sum := rfl
      rw [hsum, ← ih (column + (args.getD (d.val.toNat - 49) []).length + literal.length),
        expandNewlines_eq, ← List.length_append, ← List.length_append, List.append_assoc]
      rfl
  rw [← hrests first.length, expandNewlines_eq, ← List.length_append]
  rfl

theorem length_shown_get (m : Member) :
    (shown (Template.shippedGet.segments m.getFields)).length =
      88 + (m.nickName.length + m.bio.length + m.signature.length + m.tokId.length) := by
  -- the literals of the shipped template, with their newlines expanded
  have hliterals : (expandNewlines (bytes "Nickname: ")).length = 10 ∧
      (expandNewlines (bytes "\\nBio: ")).length = 6 ∧
      (expandNewlines (bytes "\\nInterested in: ")).length = 16 ∧
      (expandNewlines (bytes ".\\nTokID: ")).length = 9 ∧
      (expandNewlines (bytes "\\nClick Tok ID to add this friend.\\n/get One more")).length =
        47 := by decide
  obtain ⟨hfirst, hbio, hsignature, htokId, hlast⟩ := hliterals
  rw [Template.shippedGet, length_shown_positional]
  simp only [List.map_cons, List.map_nil, List.sum_cons, List.sum_nil, hfirst, hbio, hsignature,
    htokId, hlast, Member.getFields]
  show 10 + (m.nickName.length + 6 + (m.bio.length + 16 + (m.signature.length + 9 +
    (m.tokId.length + 47 + 0)))) = _
  omega

theorem length_shown_info (nickName bio signature : Bytes) :
    (shown (Template.shippedInfo.segments [nickName, bio, signature])).length =
      41 + (nickName.length + bio.length + signature.length) := by
  have hliterals : (expandNewlines (bytes "Nickname: ")).length = 10 ∧
      (expandNewlines (bytes "\\nBio: ")).length = 6 ∧
      (expandNewlines (bytes "\\nWhat r u interested in: ")).length = 25 := by decide
  obtain ⟨hfirst, hbio, hsignature⟩ := hliterals
  rw [Template.shippedInfo, length_shown_positional]
  simp only [List.map_cons, List.map_nil, List.sum_cons, List.sum_nil, hfirst, hbio, hsignature]
  show 10 + (nickName.length + 6 + (bio.length + 25 + (signature.length + 0 + 0))) = _
  omega

-- ---------------------------------------------------------------------------
-- The limits of the fields
-- ---------------------------------------------------------------------------

/-- Every field is within the limit it came in with. -/
structure Member.WithinLimits (m : Member) : Prop where
  nickName : m.nickName.length ≤ 128
  bio : m.bio.length ≤ 1007
  signature : m.signature.length ≤ 1372
  tokId : m.tokId.length ≤ 1372

structure Profile.WithinLimits (p : Profile) : Prop where
  name : p.name.length ≤ 128
  statusMessage : p.statusMessage.length ≤ 1007

/-- toxcore hands over no longer texts than it sends. -/
def Event.WithinLimits : Event → Prop
  | .message _ msg => msg.text.length ≤ 1372
  | .name _ value => value.length ≤ 128
  | .statusMessage _ value => value.length ≤ 1007
  | _ => True

instance : (e : Event) → Decidable e.WithinLimits
  | .connectionStatus _ _ => isTrue trivial
  | .message _ msg => inferInstanceAs (Decidable (msg.text.length ≤ 1372))
  | .name _ value => inferInstanceAs (Decidable (value.length ≤ 128))
  | .statusMessage _ value => inferInstanceAs (Decidable (value.length ≤ 1007))
  | .restart => isTrue trivial

structure Share.WithinLimits (sh : Share) : Prop where
  row : ∀ row, sh.row = some row → (row.member []).WithinLimits
  entry : ∀ m, sh.entry = some m → m.WithinLimits

theorem Member.new_withinLimits : Member.new.WithinLimits where
  nickName := Nat.zero_le _
  bio := Nat.zero_le _
  signature := Nat.zero_le _
  tokId := Nat.zero_le _

theorem length_cStr_le (b : Bytes) : (cStr b).length ≤ b.length :=
  (List.takeWhile_prefix _).length_le

theorem length_substr_le {b part : Bytes} {pos n : Nat} (h : substr b pos n = some part) :
    part.length ≤ b.length := by
  unfold substr at h
  split at h
  · rw [← Option.some.inj h, List.length_take, List.length_drop]
    omega
  · exact absurd h (by simp)

theorem length_parseMsg_le {msg cmd param : Bytes} (h : parseMsg msg = some (cmd, param)) :
    param.length ≤ msg.length := by
  unfold parseMsg at h
  split at h
  -- no blank: there is no parameter
  · obtain ⟨-, rfl⟩ := Prod.mk.inj (Option.some.inj h)
    exact Nat.zero_le _
  · simp only at h
    split at h
    · exact absurd h (by simp)
    · split at h
      · exact absurd h (by simp)
      -- one more than the position of the blank, so not behind the end
      · next hparam =>
        obtain ⟨-, rfl⟩ := Prod.mk.inj (Option.some.inj h)
        exact length_substr_le hparam

/-- A parameter is a part of its message. -/
theorem Message.length_param_le {msg : Message} {c : Command} {param : Bytes}
    (h : msg.dispatch = some (c, param)) : param.length ≤ msg.text.length := by
  unfold Message.dispatch at h
  cases hcmd : parseMsg msg.text with
  | none => simp [hcmd] at h
  | some r =>
    obtain ⟨word, p⟩ := r
    have hlength := length_parseMsg_le hcmd
    simp only [hcmd] at h
    split at h
    -- a command that upper-cases its parameter keeps its length
    · obtain ⟨-, rfl⟩ := Prod.mk.inj (Option.some.inj h)
      rw [toUpper, List.length_map]
      exact hlength
    · obtain ⟨-, rfl⟩ := Prod.mk.inj (Option.some.inj h)
      exact hlength

theorem length_query_le {q : FriendQuery} {value buffer : Bytes}
    (h : queryBuffer q value = some buffer) : (cStr buffer).length ≤ value.length := by
  cases q with
  | ok =>
    rw [cStr_queryBuffer FriendQuery.noConfusion h]
    exact length_cStr_le value
  | sizeFails => exact absurd h (by simp [queryBuffer])
  | getFails =>
    -- the buffer is all zero
    obtain rfl := Option.some.inj h
    simp [cStr, List.replicate_succ]

theorem Profile.WithinLimits.queries {p : Profile} (h : p.WithinLimits) {ans : Answers}
    {name bio : Bytes} (hq : p.queries ans = some (name, bio)) :
    name.length ≤ 128 ∧ bio.length ≤ 1007 := by
  unfold Profile.queries at hq
  split at hq
  · next hname hstatus =>
    rw [Option.some.injEq, Prod.mk.injEq] at hq
    obtain ⟨rfl, rfl⟩ := hq
    exact ⟨(length_query_le hname).trans h.name, (length_query_le hstatus).trans h.statusMessage⟩
  · exact absurd hq (by simp)

theorem MemberModel.fetched_withinLimits {row : Row} (h : (row.member []).WithinLimits)
    (pk : Bytes) (throwAt : Option Nat) : (fetched pk row throwAt).WithinLimits := by
  -- each column setter keeps the limits, so any number of them does
  have hset : ∀ set ∈ columnSetters (row.result pk), ∀ m : Member, m.WithinLimits →
      (set m).WithinLimits := by
    intro set hset m hm
    simp only [columnSetters, List.mem_cons, List.not_mem_nil, or_false] at hset
    rcases hset with rfl | rfl | rfl | rfl | rfl
    · exact ⟨hm.nickName, hm.bio, hm.signature, hm.tokId⟩
    · exact ⟨hm.nickName, hm.bio, hm.signature, h.tokId⟩
    · exact ⟨hm.nickName, h.bio, hm.signature, hm.tokId⟩
    · exact ⟨hm.nickName, hm.bio, h.signature, hm.tokId⟩
    · exact ⟨h.nickName, hm.bio, hm.signature, hm.tokId⟩
  unfold fetched
  refine List.foldlRecOn _ _ Member.new_withinLimits ?_
  intro m hm set hin
  exact hset set (List.mem_of_mem_take hin) m hm

-- ---------------------------------------------------------------------------
-- One event
-- ---------------------------------------------------------------------------

namespace Share

variable {sh : Share}

theorem WithinLimits.leave (h : sh.WithinLimits) : sh.leave.WithinLimits where
  row := h.row
  entry := fun m hm => absurd hm (by simp [Share.leave])

theorem connect_row (sh : Share) (pk : Pk) (ans : Answers) : (sh.connect pk ans).row = sh.row := by
  obtain ⟨row, entry⟩ := sh
  unfold connect
  cases row with
  | none => rfl
  | some row =>
    simp only
    split
    · rfl
    · rfl

theorem WithinLimits.connect (h : sh.WithinLimits) (pk : Pk) (ans : Answers) :
    (sh.connect pk ans).WithinLimits where
  row := by
    intro row hrow
    rw [connect_row] at hrow
    exact h.row row hrow
  entry := by
    intro m hm
    -- the entry was there, or find_friend made it of the row
    rcases Share.connect_entry_iff.mp hm with hold | ⟨-, row, hrow, -, -, rfl⟩
    · exact h.entry m hold
    · exact MemberModel.fetched_withinLimits (h.row row hrow) pk.hex ans.sql

/-- An update of one column within its limit. -/
theorem WithinLimits.update (h : sh.WithinLimits) {setRow : Row → Row} {set : Member → Member}
    (hrow : ∀ row, (row.member []).WithinLimits → ((setRow row).member []).WithinLimits)
    (hset : ∀ m : Member, m.WithinLimits → (set m).WithinLimits) (ans : Answers) :
    (sh.update setRow set ans).WithinLimits where
  row := by
    intro row hin
    unfold Share.update at hin
    split at hin
    · obtain ⟨row', hrow', rfl⟩ := Option.map_eq_some_iff.mp hin
      exact hrow row' (h.row row' hrow')
    · exact h.row row hin
  entry := by
    intro m hin
    obtain ⟨m', hm', rfl⟩ := Option.map_eq_some_iff.mp hin
    exact hset m' (h.entry m' hm')

theorem WithinLimits.start (h : sh.WithinLimits) (pk : Pk) {tokId name bio : Bytes}
    (htokId : tokId.length ≤ 1372) (hname : name.length ≤ 128) (hbio : bio.length ≤ 1007)
    (ans : Answers) : (sh.start pk tokId name bio ans).WithinLimits where
  row := by
    intro row hin
    unfold Share.start at hin
    split at hin
    · obtain rfl := Option.some.inj hin
      -- c_str() can only shorten the token
      exact ⟨hname, hbio, Nat.zero_le _, (length_cStr_le tokId).trans htokId⟩
    · exact h.row row hin
  entry := by
    intro m hin
    obtain rfl := Option.some.inj hin
    -- a member of the old registration stays as it is
    cases hentry : sh.entry with
    | none => exact ⟨hname, hbio, Nat.zero_le _, htokId⟩
    | some m => exact h.entry m hentry

theorem WithinLimits.stop (h : sh.WithinLimits) (ans : Answers) : (sh.stop ans).WithinLimits where
  row := by
    intro row hin
    unfold Share.stop at hin
    split at hin
    · exact absurd hin (by simp)
    · exact h.row row hin
  entry := fun m hm => absurd hm (by simp [Share.stop])

theorem WithinLimits.runCmd (h : sh.WithinLimits) (pk : Pk) {p : Profile} (hp : p.WithinLimits)
    (ans : Answers) (cmd : Command) {param : Bytes} (hparam : param.length ≤ 1372) :
    (sh.runCmd pk p ans cmd param).WithinLimits := by
  cases cmd with
  | start =>
    unfold Share.runCmd
    cases hq : p.queries ans with
    | none => exact h
    | some nb =>
      obtain ⟨name, bio⟩ := nb
      obtain ⟨hname, hbio⟩ := hp.queries hq
      simp only
      split
      · exact h
      · exact h.start pk hparam hname hbio ans
  | stop => exact h.stop ans
  | set =>
    simp only [Share.runCmd]
    split
    · exact h
    -- the row takes the signature up to a NUL, the entry all of it
    · refine h.update ?_ ?_ ans
      · intro row hr
        exact ⟨hr.nickName, hr.bio, (length_cStr_le param).trans hparam, hr.tokId⟩
      · intro m hm
        exact ⟨hm.nickName, hm.bio, hparam, hm.tokId⟩
  | _ => exact h

/-- **One event** of a friend keeps the fields within their limits. -/
theorem limits_step (h : sh.WithinLimits) {p : Profile} (hp : p.WithinLimits) {e : Event}
    (he : e.WithinLimits) (ans : Answers) : (sh.step p e ans).WithinLimits := by
  cases e with
  | connectionStatus pk status =>
    simp only [Share.step]
    split
    · exact h.connect pk ans
    · exact h.leave
  | message pk msg =>
    obtain ⟨cmd, param, hdispatch⟩ := msg.dispatch_isSome
    have hparam : param.length ≤ 1372 := (Message.length_param_le hdispatch).trans he
    simp only [Share.step, hdispatch]
    exact h.runCmd pk hp ans cmd hparam
  | name pk value =>
    -- both row and entry take the name up to a NUL
    have hvalue : (cStr value).length ≤ 128 := (length_cStr_le value).trans he
    refine h.update ?_ ?_ ans
    · intro row hr
      exact ⟨hvalue, hr.bio, hr.signature, hr.tokId⟩
    · intro m hm
      exact ⟨hvalue, hm.bio, hm.signature, hm.tokId⟩
  | statusMessage pk value =>
    have hvalue : (cStr value).length ≤ 1007 := (length_cStr_le value).trans he
    refine h.update ?_ ?_ ans
    · intro row hr
      exact ⟨hr.nickName, hvalue, hr.signature, hr.tokId⟩
    · intro m hm
      exact ⟨hm.nickName, hvalue, hm.signature, hm.tokId⟩
  | restart => exact h.leave

end Share

theorem Tox.limits_apply {tox : Tox} (h : ∀ pk, (tox.profile pk).WithinLimits) {e : Event}
    (he : e.WithinLimits) (pk : Pk) : ((tox.apply e).profile pk).WithinLimits := by
  have hold := h pk
  cases e with
  | connectionStatus p status =>
    by_cases hst : status = .none <;> simpa [Tox.apply, Tox.profile, hst] using hold
  | message p msg => exact hold
  | name p value =>
    have hvalue : value.length ≤ 128 := he
    by_cases hp : pk = p
    · subst hp
      exact ⟨by simpa [Tox.apply, Tox.profile] using hvalue, hold.statusMessage⟩
    · simpa [Tox.apply, Tox.profile, Function.update_of_ne hp] using hold
  | statusMessage p value =>
    have hvalue : value.length ≤ 1007 := he
    by_cases hp : pk = p
    · subst hp
      exact ⟨hold.name, by simpa [Tox.apply, Tox.profile] using hvalue⟩
    · simpa [Tox.apply, Tox.profile, Function.update_of_ne hp] using hold
  | restart => exact hold

namespace Reference

structure State.WithinLimits (r : State MySql) : Prop where
  share : ∀ k, (r.share k).WithinLimits
  profile : ∀ pk, (r.tox.profile pk).WithinLimits

theorem limits_step (env : Env) {r : State MySql} (h : r.WithinLimits) {e : Event}
    (he : e.WithinLimits) (ans : Answers) : (next env r (e, ans)).WithinLimits := by
  cases hpk : e.pk? with
  | none =>
    -- a restart keeps the table
    obtain rfl := Event.eq_restart hpk
    obtain ⟨hregistry, htable⟩ := next_restart env r ans
    constructor
    · intro k
      have hshare : (next env r (.restart, ans)).share k = (r.share k).leave := by
        rw [State.share, hregistry, htable]
        simp [Share.leave, State.share]
      rw [hshare]
      exact (h.share k).leave
    · intro pk
      rw [next_tox]
      exact h.profile pk
  | some A =>
    have hacts := next_actsOn env r ans hpk
    constructor
    · intro k
      -- the friend's own share, the blank member's, and everybody else's
      by_cases hk : k = A.hex
      · rw [hk, hacts.own]
        exact Share.limits_step (h.share A.hex) (h.profile A) he ans
      · by_cases hnil : k = []
        · -- the blank member may have been filed there
          subst hnil
          refine ⟨?_, ?_⟩
          · intro row hrow
            have hsame : ((next env r (e, ans)).share []).row = (r.share []).row := by
              rw [State.share, State.share, hacts.rows [] hk]
            exact (h.share []).row row (hsame.symm.trans hrow)
          · intro m hm
            have hentry := hacts.nil.symm.trans hm
            split at hentry
            · cases hold : r.registry[([] : Bytes)]? with
              | none =>
                rw [hold] at hentry
                obtain rfl := Option.some.inj hentry
                exact Member.new_withinLimits
              | some m' =>
                rw [hold] at hentry
                obtain rfl := Option.some.inj hentry
                exact (h.share []).entry m' hold
            · exact (h.share []).entry m hentry
        · rw [hacts.share_other hk hnil]
          exact h.share k
    · intro pk
      rw [next_tox]
      exact Tox.limits_apply h.profile he pk

end Reference

-- ---------------------------------------------------------------------------
-- Replies
-- ---------------------------------------------------------------------------

/-- The text about a member fits into a message exactly if the fields are short enough, or
bring or complete enough escapes. -/
theorem fits_get_iff {env : Env} (hconf : env.conf.Shipped)
    (hget : FormatsAs env.format Template.shippedGet 4) (m : Member) :
    (expandNewlines (env.getText m)).length ≤ 1372 ↔
      88 + (m.nickName.length + m.bio.length + m.signature.length + m.tokId.length) ≤
        1372 + unmeant 92 110 (Template.shippedGet.segments m.getFields) := by
  have htext := env.format_get m
  rw [hconf.get, ← Template.shippedGet_text] at htext
  have hlength := length_reply hget (rfl : m.getFields.length = 4) htext
  -- both sides count the same newlines
  rw [length_shown_get] at hlength
  omega

theorem fits_info_iff {env : Env} (hconf : env.conf.Shipped)
    (hinfo : FormatsAs env.format Template.shippedInfo 3) (nickName bio signature : Bytes) :
    (expandNewlines (env.infoText nickName bio signature)).length ≤ 1372 ↔
      41 + (nickName.length + bio.length + signature.length) ≤
        1372 + unmeant 92 110 (Template.shippedInfo.segments [nickName, bio, signature]) := by
  have htext := env.format_info nickName bio signature
  rw [hconf.info, ← Template.shippedInfo_text] at htext
  have hlength := length_reply hinfo (rfl : [nickName, bio, signature].length = 3) htext
  rw [length_shown_info] at hlength
  omega

/-- `/get`. -/
theorem get_fits {σ : Type} (D : Driver σ) {env : Env} (hconf : env.conf.Shipped)
    (hget : FormatsAs env.format Template.shippedGet 4) {s : State σ} (h : s.memberMgr.Owned)
    (pk : Pk) (ans : Answers) {msg : Message} {param : Bytes}
    (hmsg : msg.dispatch = some (.get, param)) :
    ∃ reply, Assisant.friendMessageCb D env s pk msg ans = some (s, some reply) ∧
      ((s.memberMgr.randomMember pk.hex ans.rand = none ∧ reply.length ≤ 1372) ∨
        ∃ a m, s.memberMgr.randomMember pk.hex ans.rand = some a ∧
          s.memberMgr.heap.read a = some m ∧
          (reply.length ≤ 1372 ↔
            88 + (m.nickName.length + m.bio.length + m.signature.length + m.tokId.length) ≤
              1372 + unmeant 92 110 (Template.shippedGet.segments m.getFields))) := by
  cases hdraw : s.memberMgr.randomMember pk.hex ans.rand with
  -- nobody else is registered
  | none =>
    refine ⟨expandNewlines env.conf.descGetNone, ?_, Or.inl ⟨rfl, ?_⟩⟩
    · simp only [Assisant.friendMessageCb, hmsg, Assisant.runCmd, Assisant.cmdGet, hdraw, if_true]
    · rw [hconf.getNone]
      exact (length_expandNewlines_le _).trans (by decide)
  | some a =>
    obtain ⟨k, m, -, -, hread, -⟩ := MemberMgr.randomMember_some h hdraw
    refine ⟨expandNewlines (env.getText m), ?_, Or.inr ⟨a, m, rfl, hread, ?_⟩⟩
    · simp only [Assisant.friendMessageCb, hmsg, Assisant.runCmd, Assisant.cmdGet, hdraw,
        ObjectHeap.deref_some, hread, Env.format_get, if_true]
    · exact fits_get_iff hconf hget m

/-- `/info`. -/
theorem info_fits {σ : Type} (D : Driver σ) {env : Env} (hconf : env.conf.Shipped)
    (hinfo : FormatsAs env.format Template.shippedInfo 3) {s : State σ} (h : s.memberMgr.Owned)
    (pk : Pk) (hprofile : (s.tox.profile pk).WithinLimits) (ans : Answers) {msg : Message}
    {param : Bytes} (hmsg : msg.dispatch = some (.info, param)) :
    ∃ reply, Assisant.friendMessageCb D env s pk msg ans = some (s, some reply) ∧
      ((s.memberMgr.memberAt pk.hex = none ∧ reply.length ≤ 1372) ∨
        ∃ m, s.memberMgr.memberAt pk.hex = some m ∧
          (reply.length ≤ 1372 ↔
            41 + (m.nickName.length + m.bio.length + m.signature.length) ≤
              1372 + unmeant 92 110 (Template.shippedInfo.segments m.infoFields))) := by
  rcases h.find pk.hex with ⟨-, hfind, -⟩ | ⟨a, m, -, hfind, hread, -, -⟩
  -- not registered: the profile comes from the queries
  · have hnone : s.memberMgr.memberAt pk.hex = none := by
      rw [MemberMgr.memberAt, hfind, ObjectHeap.deref_none]
    -- a query that fails leaves `msg_res` as `process_cmd` set it
    have hunknown : (expandNewlines env.conf.descUnknownCmd).length ≤ 1372 := by
      rw [hconf.unknownCmd]
      exact (length_expandNewlines_le _).trans (by decide)
    cases hname : getName s.tox pk ans with
    | none =>
      refine ⟨expandNewlines env.conf.descUnknownCmd, ?_, Or.inl ⟨hnone, hunknown⟩⟩
      simp only [Assisant.friendMessageCb, hmsg, Assisant.runCmd, Assisant.cmdInfo, hfind, hname,
        if_true]
    | some name =>
      cases hstatus : getStatusMessage s.tox pk ans with
      | none =>
        refine ⟨expandNewlines env.conf.descUnknownCmd, ?_, Or.inl ⟨hnone, hunknown⟩⟩
        simp only [Assisant.friendMessageCb, hmsg, Assisant.runCmd, Assisant.cmdInfo, hfind,
          hname, hstatus, if_true]
      | some status =>
        refine ⟨expandNewlines (env.infoText (cStr name) (cStr status) []), ?_,
          Or.inl ⟨hnone, ?_⟩⟩
        · simp only [Assisant.friendMessageCb, hmsg, Assisant.runCmd, Assisant.cmdInfo, hfind,
            hname, hstatus, Env.format_info, if_true]
        · have hnameLength := (length_query_le hname).trans hprofile.name
          have hstatusLength := (length_query_le hstatus).trans hprofile.statusMessage
          rw [fits_info_iff hconf hinfo, List.length_nil]
          omega
  -- registered: the profile is the entry's, whatever the queries do
  · refine ⟨expandNewlines (env.infoText m.nickName m.bio m.signature), ?_,
      Or.inr ⟨m, ?_, ?_⟩⟩
    · simp only [Assisant.friendMessageCb, hmsg, Assisant.runCmd, Assisant.cmdInfo, hfind,
        ObjectHeap.deref_some, hread, Env.format_info, if_true]
    · rw [MemberMgr.memberAt, hfind, ObjectHeap.deref_some, hread]
    · exact fits_info_iff hconf hinfo m.nickName m.bio m.signature

/-- The rows are within the limits that their members had. -/
def Table.WithinLimits (t : Table) : Prop :=
  ∀ (k : Bytes) (row : Row), t.rows[k]? = some row → (row.member []).WithinLimits

/-- Which replies of `/get` and `/info` fit into a message: those about a member exactly if the
template and the fields, less the escapes that the fields bring or complete, do, and all
others. -/
structure RepliesFit (env : Env) (s : State MySql) : Prop where
  get : ∀ (pk : Pk) (ans : Answers) (msg : Message) (param : Bytes),
    msg.dispatch = some (.get, param) →
    ∃ reply, Assisant.friendMessageCb MySql.driver env s pk msg ans = some (s, some reply) ∧
      ((s.memberMgr.randomMember pk.hex ans.rand = none ∧ reply.length ≤ 1372) ∨
        ∃ a m, s.memberMgr.randomMember pk.hex ans.rand = some a ∧
          s.memberMgr.heap.read a = some m ∧
          (reply.length ≤ 1372 ↔
            88 + (m.nickName.length + m.bio.length + m.signature.length + m.tokId.length) ≤
              1372 + unmeant 92 110 (Template.shippedGet.segments m.getFields)))
  info : ∀ (pk : Pk) (ans : Answers) (msg : Message) (param : Bytes),
    msg.dispatch = some (.info, param) →
    ∃ reply, Assisant.friendMessageCb MySql.driver env s pk msg ans = some (s, some reply) ∧
      ((s.memberMgr.memberAt pk.hex = none ∧ reply.length ≤ 1372) ∨
        ∃ m, s.memberMgr.memberAt pk.hex = some m ∧
          (reply.length ≤ 1372 ↔
            41 + (m.nickName.length + m.bio.length + m.signature.length) ≤
              1372 + unmeant 92 110 (Template.shippedInfo.segments m.infoFields)))

/-- **The length of replies.** In every state reached by messages and profiles within toxcore's
limits the fields of every member are within the limits they came in with, and they decide
which replies fit. -/
theorem reply_lengths {env : Env} (hconf : env.conf.Shipped)
    (hget : FormatsAs env.format Template.shippedGet 4)
    (hinfo : FormatsAs env.format Template.shippedInfo 3) {db : MySql}
    (hdb : db.table.WithinLimits) {tox : Tox} (htox : ∀ pk, (tox.profile pk).WithinLimits)
    {is : List Input} (his : ∀ i ∈ is, i.1.WithinLimits) :
    ∃ s os, (Bot.machine MySql.driver env).run (Bot.init db tox) is = some (s, os) ∧
      (∀ (k : Bytes) m, s.memberMgr.memberAt k = some m → m.WithinLimits) ∧ RepliesFit env s := by
  -- the row's fields, and there is no entry yet
  have hinit : (Reference.init db tox).WithinLimits := by
    refine ⟨?_, htox⟩
    intro k
    refine ⟨?_, fun m hm => absurd hm (by simp [Reference.State.share, Reference.init])⟩
    intro row hrow
    obtain ⟨row', hrow', rfl⟩ := Option.map_eq_some_iff.mp hrow
    have hlimits := hdb k row' hrow'
    exact ⟨hlimits.nickName, hlimits.bio, hlimits.signature, hlimits.tokId⟩
  have hkeep : ∀ (s : State MySql) (r : Reference.State MySql) (i : Input), Refines s r →
      r.WithinLimits → i.1.WithinLimits → (Reference.next env r i).WithinLimits := by
    rintro s r ⟨e, ans⟩ - hlimits hi
    exact Reference.limits_step env hlimits hi ans
  obtain ⟨s, os, r, hrun, href, hlimits⟩ :=
    Refines.run_invariant env Reference.State.WithinLimits _ hkeep is (refines_init db tox) hinit
      (StepMachine.along_of_forall his _)
  refine ⟨s, os, hrun, ?_, ?_⟩
  -- every entry is within limits, as its share is
  · intro k m hm
    exact (hlimits.share k).entry m ((href.memberAt k).symm.trans hm)
  · constructor
    · intro pk ans msg param hmsg
      exact get_fits MySql.driver hconf hget href.owned pk ans hmsg
    · intro pk ans msg param hmsg
      refine info_fits MySql.driver hconf hinfo href.owned pk ?_ ans hmsg
      rw [href.tox]
      exact hlimits.profile pk

theorem reply_lengths_start :
    ∃ s os, (Bot.machine MySql.driver Env.shipped).run
        (Bot.init (MySql.holding Table.empty) Tox.blank)
        [(.connectionStatus Pk.first .tcp, Answers.plain),
          (.message Pk.first ⟨bytes "/start A", by decide⟩, Answers.plain)] = some (s, os) ∧
      (∀ (k : Bytes) m, s.memberMgr.memberAt k = some m → m.WithinLimits) ∧
      RepliesFit Env.shipped s := by
  have hempty : (MySql.holding Table.empty).table.WithinLimits := by
    intro k row hrow
    exact absurd hrow (by simp [MySql.holding, Table.empty])
  exact reply_lengths Env.shipped_conf Template.shippedGet_formatsAs
    Template.shippedInfo_formatsAs hempty
    (fun _ => ⟨Nat.zero_le _, Nat.zero_le _⟩) (by decide)

/-- A friend with a status message as long as it may be sets a signature, and another friend
asks for a recommendation. -/
def longProfile : List Input :=
  [(.connectionStatus Pk.first .tcp, Answers.plain),
    (.statusMessage Pk.first (List.replicate 1007 65), Answers.plain),
    (.message Pk.first ⟨bytes "/start A", by decide⟩, Answers.plain),
    (.message Pk.first ⟨bytes "/set " ++ List.replicate 400 66, by decide +kernel⟩, Answers.plain),
    (.connectionStatus Pk.second .tcp, Answers.plain),
    (.message Pk.second ⟨bytes "/get", by decide⟩, Answers.plain)]

theorem long_reply :
    (∀ i ∈ longProfile, i.1.WithinLimits) ∧
      ∃ s os reply, (Bot.machine MySql.driver Env.shipped).run
          (Bot.init (MySql.holding Table.empty) Tox.blank) longProfile = some (s, os) ∧
        os.getLast?.bind Output.reply = some reply ∧ ¬ reply.length ≤ 1372 := by
  -- 1498 bytes
  have hlength : ((Bot.machine MySql.driver Env.shipped).run
      (Bot.init (MySql.holding Table.empty) Tox.blank) longProfile).map
        (fun r => (r.2.getLast?.bind Output.reply).map List.length) = some (some 1498) := by
    decide +kernel
  obtain ⟨⟨s, os⟩, hrun, hreply⟩ := Option.map_eq_some_iff.mp hlength
  obtain ⟨reply, hlast, hreply⟩ := Option.map_eq_some_iff.mp hreply
  exact ⟨by decide +kernel, s, os, reply, hrun, hlast, by omega⟩

end FindFriendBot
