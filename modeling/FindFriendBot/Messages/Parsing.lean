import FindFriendBot.Model.Command

/-!
# FindFriendBot — what `parse_msg` makes of a message

The first slash (47) and the first blank (32) are searched for independently.
If the slash comes first the command is what lies between them and the
parameter starts with the blank; if the blank comes first, `end - start - 1`
wraps around and `substr` clamps it, so the command runs to the end of the
message.

* `parseMsg_of_not_mem`   — no slash.
* `parseMsg_slash_first`  — no blank before the first slash.
* `parseMsg_blank_first`  — a blank before the first slash.
* `parseMsg_total`        — the three together, for every message.
-/

namespace FindFriendBot

-- ---------------------------------------------------------------------------
-- Searches and wrapped subtractions
-- ---------------------------------------------------------------------------

theorem find_eq_none {b : Bytes} {c : UInt8} (h : c ∉ b) : find b c = none := by
  unfold find
  rw [List.findIdx?_eq_none_iff]
  intro x hx
  have hne : x ≠ c := fun heq => h (heq ▸ hx)
  simp [hne]

/-- The first occurrence. -/
theorem find_append_cons {b : Bytes} {c : UInt8} (h : c ∉ b) (rest : Bytes) :
    find (b ++ c :: rest) c = some b.length := by
  induction b with
  | nil => simp [find, List.findIdx?_cons]
  | cons x b ih =>
    obtain ⟨hx, hb⟩ := not_or.mp (fun hor => h (List.mem_cons.mpr hor))
    have hrec : find (b ++ c :: rest) c = some b.length := ih hb
    unfold find at hrec ⊢
    rw [List.cons_append, List.findIdx?_cons, if_neg (by simpa using Ne.symm hx), hrec]
    rfl

theorem sub64_of_le {a b : Nat} (h : b ≤ a) (ha : a < 2 ^ 64) : sub64 a b = a - b := by
  unfold sub64
  omega

/-- A difference below zero wraps to a number no message is long enough for. -/
theorem sub64_wraps {a b : Nat} (h : a < b) (hb : b < 2 ^ 63) : 2 ^ 63 < sub64 a b := by
  unfold sub64
  omega

-- ---------------------------------------------------------------------------
-- The three shapes of a message
-- ---------------------------------------------------------------------------

theorem parseMsg_of_not_mem {msg : Bytes} (h : 47 ∉ msg) : parseMsg msg = some ([], []) := by
  unfold parseMsg
  rw [find_eq_none h]

/-- A rest without a blank, or from its first blank on. -/
def BlankOrEnd (rest : Bytes) : Prop := rest = [] ∨ ∃ p, rest = 32 :: p

/-- No blank before the slash: the parameter starts with the blank that ends the
command. -/
theorem parseMsg_slash_first {q cmd rest : Bytes} (hq : 47 ∉ q) (hqb : 32 ∉ q) (hcmd : 32 ∉ cmd)
    (hrest : BlankOrEnd rest) (hlen : (q ++ 47 :: (cmd ++ rest)).length < 2 ^ 63) :
    parseMsg (q ++ 47 :: (cmd ++ rest)) = some (cmd, rest) := by
  have hstop : (find (q ++ 47 :: (cmd ++ rest)) 32).getD (q ++ 47 :: (cmd ++ rest)).length =
      q.length + 1 + cmd.length := by
    have hassoc : q ++ 47 :: (cmd ++ rest) = (q ++ 47 :: cmd) ++ rest := by simp
    have hnot : 32 ∉ q ++ 47 :: cmd := by simp [hqb, hcmd]
    rcases hrest with rfl | ⟨p, rfl⟩
    -- no blank at all: the end of the message stands in for it
    · rw [List.append_nil, find_eq_none hnot, Option.getD_none]
      simp only [List.length_append, List.length_cons]
      omega
    · rw [hassoc, find_append_cons hnot, Option.getD_some]
      simp only [List.length_append, List.length_cons]
      omega
  have hdrop : (q ++ 47 :: (cmd ++ rest)).drop (q.length + 1) = cmd ++ rest := by
    simp [List.drop_append]
  simp only [List.length_append, List.length_cons] at hlen hstop
  unfold parseMsg
  simp only [find_append_cons hq, List.length_append, List.length_cons, hstop]
  rw [sub64_of_le (by omega : q.length ≤ q.length + 1 + cmd.length) (by omega),
    sub64_of_le (by omega) (by omega), sub64_of_le (by omega) (by omega),
    substr_of_le (by simp only [List.length_append, List.length_cons]; omega),
    substr_of_le (by simp only [List.length_append, List.length_cons]; omega)]
  -- what the two substr calls cut out
  have hcmdlen : q.length + 1 + cmd.length - q.length - 1 = cmd.length := by omega
  have hrestlen : q.length + (cmd.length + rest.length + 1) - (q.length + 1 + cmd.length) =
      rest.length := by omega
  have hrestdrop : (q ++ 47 :: (cmd ++ rest)).drop (q.length + 1 + cmd.length) = rest := by
    rw [← List.drop_drop, hdrop, List.drop_left]
  simp only [hdrop, hcmdlen, hrestlen, hrestdrop, List.take_left, List.take_length]

/-- A blank before the slash: both strings run to the end of the message. -/
theorem parseMsg_blank_first {q r after : Bytes} (hq : 47 ∉ q) (hqb : 32 ∉ q) (hr : 47 ∉ r)
    (hlen : (q ++ 32 :: (r ++ 47 :: after)).length < 2 ^ 63) :
    parseMsg (q ++ 32 :: (r ++ 47 :: after)) = some (after, 32 :: (r ++ 47 :: after)) := by
  have hassoc : q ++ 32 :: (r ++ 47 :: after) = (q ++ 32 :: r) ++ 47 :: after := by simp
  have hslash : find (q ++ 32 :: (r ++ 47 :: after)) 47 = some (q.length + 1 + r.length) := by
    have hnot : 47 ∉ q ++ 32 :: r := by simp [hq, hr]
    rw [hassoc, find_append_cons hnot]
    simp only [List.length_append, List.length_cons]
    congr 1
    omega
  have hdrop : (q ++ 32 :: (r ++ 47 :: after)).drop (q.length + 1 + r.length + 1) = after := by
    have hlen' : q.length + 1 + r.length + 1 = (q ++ 32 :: r).length + 1 := by
      simp only [List.length_append, List.length_cons]
      omega
    rw [hassoc, hlen', ← List.drop_drop, List.drop_left]
    rfl
  have hdrop' : (q ++ 32 :: (r ++ 47 :: after)).drop q.length = 32 :: (r ++ 47 :: after) :=
    List.drop_left
  simp only [List.length_append, List.length_cons] at hlen
  unfold parseMsg
  simp only [hslash, find_append_cons hqb, Option.getD_some, List.length_append,
    List.length_cons]
  -- the wrapped length is clamped to what is left of the message
  have hwrap := sub64_wraps (by omega : q.length < q.length + 1 + r.length) (by omega)
  have hwrap' : after.length ≤ sub64 (sub64 q.length (q.length + 1 + r.length)) 1 := by
    have hlt : sub64 q.length (q.length + 1 + r.length) < 2 ^ 64 := by
      unfold sub64
      omega
    rw [sub64_of_le (by omega) hlt]
    omega
  have htail : sub64 (q.length + (r.length + (after.length + 1) + 1)) q.length =
      (32 :: (r ++ 47 :: after)).length := by
    rw [sub64_of_le (by omega) (by omega)]
    simp only [List.length_append, List.length_cons]
    omega
  rw [substr_of_le (by simp only [List.length_append, List.length_cons]; omega),
    substr_of_le (by simp only [List.length_append, List.length_cons]; omega), hdrop, hdrop',
    List.take_of_length_le hwrap', htail, List.take_length]

/-- **`parse_msg` loses nothing.** On every message both `substr` calls start inside it;
without a slash the command and the parameter stay empty; with no blank before
the first slash the message is the text before the slash, the slash, the command
and the parameter; with one, both run to the end of the message. -/
theorem parseMsg_total (msg : Message) :
    ∃ cmd param, parseMsg msg.text = some (cmd, param) ∧
      (47 ∉ msg.text → cmd = [] ∧ param = [] ∧ msg.dispatch = some (.unknown, [])) ∧
      (∀ q after, msg.text = q ++ 47 :: after → 47 ∉ q → 32 ∉ q →
        msg.text = q ++ 47 :: (cmd ++ param) ∧ 32 ∉ cmd ∧ BlankOrEnd param) ∧
      ∀ q r after, msg.text = q ++ 32 :: (r ++ 47 :: after) → 32 ∉ q → 47 ∉ q → 47 ∉ r →
        cmd = after ∧ param = 32 :: (r ++ 47 :: after) := by
  have hlen := msg.length_lt
  obtain ⟨⟨cmd, param⟩, hparse⟩ := parseMsg_isSome msg.text
  refine ⟨cmd, param, hparse, ?_, ?_, ?_⟩
  -- no slash
  · intro hslash
    have hempty := parseMsg_of_not_mem hslash
    rw [hparse, Option.some.injEq, Prod.mk.injEq] at hempty
    obtain ⟨rfl, rfl⟩ := hempty
    refine ⟨rfl, rfl, ?_⟩
    simp only [Message.dispatch, hparse]
    rfl
  -- a slash before any blank: the command ends at the first blank or with the message
  · intro q after htext hq hqb
    obtain ⟨c, rest, rfl, hc, hrest⟩ : ∃ c rest, after = c ++ rest ∧ 32 ∉ c ∧ BlankOrEnd rest := by
      by_cases hblank : 32 ∈ after
      · obtain ⟨c, p, hafter, hc⟩ := List.eq_append_cons_of_mem hblank
        exact ⟨c, 32 :: p, hafter, hc, Or.inr ⟨p, rfl⟩⟩
      · exact ⟨after, [], (List.append_nil after).symm, hblank, Or.inl rfl⟩
    rw [htext] at hparse hlen
    rw [parseMsg_slash_first hq hqb hc hrest hlen, Option.some.injEq, Prod.mk.injEq] at hparse
    obtain ⟨rfl, rfl⟩ := hparse
    exact ⟨htext, hc, hrest⟩
  -- a blank before the slash: end - start - 1 wraps
  · intro q r after htext hqb hq hr
    rw [htext] at hparse hlen
    rw [parseMsg_blank_first hq hqb hr hlen, Option.some.injEq, Prod.mk.injEq] at hparse
    exact ⟨hparse.1.symm, hparse.2.symm⟩

-- ---------------------------------------------------------------------------
-- Dispatch
-- ---------------------------------------------------------------------------

/-- What the handler of a command gets of the parsed parameter. -/
def Command.argument (cmd : Command) (param : Bytes) : Bytes :=
  if cmd = .start then toUpper param else param

theorem Message.dispatch_of_parse {msg : Message} {cmd param : Bytes}
    (h : parseMsg msg.text = some (cmd, param)) :
    msg.dispatch = some (Command.ofWord cmd, (Command.ofWord cmd).argument param) := by
  unfold Message.dispatch
  simp only [h]
  split
  · next hstart => rw [hstart, Command.argument, if_pos rfl]
  · next c hc => rw [Command.argument, if_neg hc]

/-- A command word with a blank in it is none of the seven. -/
theorem Command.ofWord_of_blank {cmd : Bytes} (h : 32 ∈ cmd) : Command.ofWord cmd = .unknown := by
  have hlower : 32 ∈ toLower cmd := List.mem_map.mpr ⟨32, h, by decide⟩
  have hne : ∀ word : Bytes, 32 ∉ word → toLower cmd ≠ word := fun word hw heq => hw (heq ▸ hlower)
  unfold Command.ofWord
  simp only [hne (bytes "start") (by decide), hne (bytes "stop") (by decide),
    hne (bytes "set") (by decide), hne (bytes "get") (by decide),
    hne (bytes "info") (by decide), hne (bytes "help") (by decide),
    hne (bytes "readme") (by decide), if_false]

theorem Command.argument_ne_nil (cmd : Command) {param : Bytes} (h : param ≠ []) :
    cmd.argument param ≠ [] := by
  unfold Command.argument
  split
  · exact fun hnil => h (List.map_eq_nil_iff.mp hnil)
  · exact h

end FindFriendBot
