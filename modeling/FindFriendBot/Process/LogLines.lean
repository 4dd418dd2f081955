import FindFriendBot.Model.DebugLog

/-!
# FindFriendBot — toxcore's log lines

`print_debug_log` formats a line without looking at the length of its parts. Next
to the fixed text and the NUL there is room for 501 characters in the buffer,
and a message alone may have 1023.

* `logFile_spec`       — the file is what follows the last slash of the path.
* `log_lines_fit_iff`  — which lines fit.
* `short_lines_fit`    — lines that fit whatever the level, the index and the line
  number are.
-/

namespace FindFriendBot

theorem strrchr_eq_none {c : UInt8} {s : Bytes} (h : strrchr c s = none) : c ∉ s := by
  induction s with
  | nil => exact List.not_mem_nil
  | cons b rest ih =>
    unfold strrchr at h
    split at h
    · exact absurd h (by simp)
    · next hrest =>
      split at h
      · exact absurd h (by simp)
      · next hb =>
        rw [List.mem_cons, not_or]
        exact ⟨Ne.symm hb, ih hrest⟩

/-- The character is at the position, and not behind it. -/
theorem strrchr_eq_some {c : UInt8} {s : Bytes} {i : Nat} (h : strrchr c s = some i) :
    s[i]? = some c ∧ c ∉ s.drop (i + 1) := by
  induction s generalizing i with
  | nil => exact absurd h (by simp [strrchr])
  | cons b rest ih =>
    unfold strrchr at h
    split at h
    · next j hrest =>
      obtain rfl := Option.some.inj h
      exact ih hrest
    · next hrest =>
      split at h
      · next hb =>
        obtain rfl := Option.some.inj h
        exact ⟨congrArg some hb, strrchr_eq_none hrest⟩
      · exact absurd h (by simp)

namespace Bot

/-- The file has no slash, and before it there is nothing or a slash. -/
theorem logFile_spec (path : CString) :
    (47 : UInt8) ∉ logFile path ∧
      (path.chars = logFile path ∨ ∃ dir, path.chars = dir ++ 47 :: logFile path) := by
  unfold logFile
  split
  · next hnone => exact ⟨strrchr_eq_none hnone, Or.inl rfl⟩
  · next i hsome =>
    obtain ⟨hslash, hrest⟩ := strrchr_eq_some hsome
    obtain ⟨hi, hget⟩ := List.getElem?_eq_some_iff.mp hslash
    refine ⟨hrest, Or.inr ⟨path.chars.take i, ?_⟩⟩
    rw [← hget, ← List.drop_eq_getElem_cons hi, List.take_append_drop]

/-- The length of what is not fixed in a line. -/
def logWidth (level : ToxLogLevel) (path : CString) (line : UInt32) (func message : CString)
    (userData : Option UInt32) : Nat :=
  (Printf.decimal (logIndex userData)).length + (toxLogLevelName level).length +
    (logFile path).length + (Printf.decimal (logLineNumber line)).length + func.chars.length +
    message.chars.length

theorem length_logFormat (level : ToxLogLevel) (path : CString) (line : UInt32)
    (func message : CString) (userData : Option UInt32) :
    (Printf.render (logFormat level path line func message userData)).length =
      10 + logWidth level path line func message userData := by
  have hfixed : (bytes "[#").length = 2 ∧ (bytes "] ").length = 2 ∧ (bytes " ").length = 1 ∧
      (bytes ":").length = 1 ∧ (bytes "\t").length = 1 ∧ (bytes ":\t").length = 2 ∧
      (bytes "\n").length = 1 := by decide
  obtain ⟨hopen, hclose, hblank, hcolon, htab, hcolonTab, hnewline⟩ := hfixed
  simp only [logFormat, Printf.length_render_cons, Printf.length_render_nil, Printf.Piece.print,
    hopen, hclose, hblank, hcolon, htab, hcolonTab, hnewline, logWidth]
  omega

/-- **Log lines** of every level that is printed fit into the buffer, and `print_debug_log` stays
within it, exactly if the index, the name of the level, the file, the line number, the
function and the message have 501 characters at most. -/
theorem log_lines_fit_iff (level : ToxLogLevel) (hlevel : level ≠ .trace) (path : CString)
    (line : UInt32) (func message : CString) (userData : Option UInt32) :
    ((Printf.render (logFormat level path line func message userData)).length + 1 ≤ bufSize ↔
        logWidth level path line func message userData ≤ 501) ∧
      ((printDebugLog level path line func message userData).isSome ↔
        logWidth level path line func message userData ≤ 501) := by
  have hfits : (Printf.render (logFormat level path line func message userData)).length + 1 ≤
      bufSize ↔ logWidth level path line func message userData ≤ 501 := by
    rw [length_logFormat, bufSize]
    omega
  refine ⟨hfits, ?_⟩
  rw [← hfits, ← Printf.sprintf_isSome_iff, printDebugLog, if_neg hlevel]
  split
  · next hnone => simp [hnone]
  · next hsome => simp [hsome]

/-- A short message of the network layer. -/
theorem log_lines_fit_short :
    (Printf.render (logFormat .debug ⟨bytes "../toxcore/network.c", by decide⟩ 385
        ⟨bytes "loglogdata", by decide⟩ ⟨bytes "0:OK", by decide⟩ none)).length + 1 ≤ bufSize ∧
      (printDebugLog .debug ⟨bytes "../toxcore/network.c", by decide⟩ 385
        ⟨bytes "loglogdata", by decide⟩ ⟨bytes "0:OK", by decide⟩ none).isSome := by
  obtain ⟨hfits, hdefined⟩ := log_lines_fit_iff .debug (by decide)
    ⟨bytes "../toxcore/network.c", by decide⟩ 385 ⟨bytes "loglogdata", by decide⟩
    ⟨bytes "0:OK", by decide⟩ none
  exact ⟨hfits.mpr (by decide), hdefined.mpr (by decide)⟩

/-- As many characters as toxcore formats. -/
def longMessage : CString where
  chars := List.replicate 1023 65
  nul_free := by
    intro hin
    exact absurd (List.eq_of_mem_replicate hin) (by decide)

/-- A message can be twice as long as the buffer. -/
theorem long_line :
    longMessage.chars.length ≤ 1023 ∧
      ¬ (Printf.render (logFormat .debug ⟨bytes "../toxcore/network.c", by decide⟩ 385
        ⟨bytes "loglogdata", by decide⟩ longMessage none)).length + 1 ≤ bufSize := by
  have hlong : longMessage.chars.length = 1023 := List.length_replicate
  refine ⟨by omega, ?_⟩
  rw [length_logFormat, logWidth, bufSize]
  omega

theorem natAbs_bmod_lt (n : Nat) : (Int.bmod n (2 ^ 32)).natAbs < 10 ^ 10 := by
  have hlow := Int.le_bmod (x := n) (m := 2 ^ 32) (by decide)
  have hhigh := Int.bmod_lt (x := n) (m := 2 ^ 32) (by decide)
  omega

theorem length_logLevelName_le (level : ToxLogLevel) : (toxLogLevelName level).length ≤ 9 := by
  cases level <;> decide

/-- **Short lines** fit: a file, a function and a message of 470 characters together leave room
for every level, index and line number. -/
theorem short_lines_fit (level : ToxLogLevel) (path : CString) (line : UInt32)
    (func message : CString) (userData : Option UInt32)
    (h : (logFile path).length + func.chars.length + message.chars.length ≤ 470) :
    (printDebugLog level path line func message userData).isSome := by
  have hindex : (Printf.decimal (logIndex userData)).length ≤ 11 := by
    refine Printf.length_decimal_le (by decide) ?_
    cases userData with
    | none => decide
    | some index => exact natAbs_bmod_lt index.toNat
  have hline : (Printf.decimal (logLineNumber line)).length ≤ 11 :=
    Printf.length_decimal_le (by decide) (natAbs_bmod_lt line.toNat)
  have hname := length_logLevelName_le level
  by_cases hlevel : level = .trace
  · rw [printDebugLog, if_pos hlevel]
    rfl
  · refine (log_lines_fit_iff level hlevel path line func message userData).2.mpr ?_
    unfold logWidth
    omega

end Bot

end FindFriendBot
