import FindFriendBot.Lib.PairReplacement
import FindFriendBot.Registry.Reference

/-!
# FindFriendBot — user text in replies

`process_cmd` expands the escape `\n` after `cmd_get` and `cmd_info` have
formatted the fields of a member into the template, so an escape that a field
brings along, or completes together with the template or another field, is
expanded too. `boost::format` is not part of the repository; what the handlers
rely on is `FormatsAs`: text outside the directives is copied as it stands, and
a directive prints its argument, or fills up to a column.

* `verbatim_iff` — the replies of `/get` and `/info`, for every template and every
  member.
-/

namespace FindFriendBot

open PairReplacement

-- ---------------------------------------------------------------------------
-- Templates
-- ---------------------------------------------------------------------------

/-- A directive of a template: its text, such as `%1%`, `%|2$10s|`, `%%` or `%|20t|`, and
what it prints from a column on. A tabulation prints fill characters up to its
own column, so it prints less from further right; the others ignore the column. -/
structure Directive where
  text : Bytes
  print : Nat → List Bytes → Bytes
  head_eq : text.head? = some 37
  last_ne : text.getLast? ≠ some 92
  no_escape : ¬ [92, 110] <:+: text
  suffix : ∀ args, ∀ i j, i ≤ j → print j args <:+ print i args
  reach : ∀ args, ∀ i j, i ≤ j → i + (print i args).length ≤ j + (print j args).length

/-- Literal text with directives in between. -/
structure Template where
  first : Bytes
  rest : List (Directive × Bytes)
  first_plain : 37 ∉ first
  rest_plain : ∀ p ∈ rest, 37 ∉ p.2

namespace Template

/-- The directives and the literal text after each, as they are spelled. -/
def restText (rest : List (Directive × Bytes)) : Bytes := rest.flatMap fun p => p.1.text ++ p.2

def text (t : Template) : Bytes := t.first ++ restText t.rest

/-- What is printed from a column on. -/
def restSegments (args : List Bytes) : Nat → List (Directive × Bytes) → List (Segment UInt8)
  | _, [] => []
  | column, (d, literal) :: rest =>
    let printed := d.print column args
    .foreign printed :: .fixed literal ::
      restSegments args (column + printed.length + literal.length) rest

/-- What is printed: the literal text, and what the directives make of `args`. -/
def segments (t : Template) (args : List Bytes) : List (Segment UInt8) :=
  .fixed t.first :: restSegments args t.first.length t.rest

/-- A change of the literal text that brings in no percent sign. -/
def mapLiterals (t : Template) (f : Bytes → Bytes) (hf : ∀ b, 37 ∉ b → 37 ∉ f b) :
    Template where
  first := f t.first
  rest := t.rest.map fun p => (p.1, f p.2)
  first_plain := hf _ t.first_plain
  rest_plain := by
    intro p hp
    obtain ⟨q, hq, rfl⟩ := List.mem_map.mp hp
    exact hf _ (t.rest_plain q hq)

end Template

/-- What `boost::format` documents of a template with `n` arguments: whatever its literal
text is, it is copied, and every directive is replaced by what it prints. -/
def FormatsAs (format : Bytes → List Bytes → Option Bytes) (t : Template) (n : Nat) : Prop :=
  ∀ (f : Bytes → Bytes) (hf : ∀ b, 37 ∉ b → 37 ∉ f b) (args : List Bytes), args.length = n →
    format (t.mapLiterals f hf).text args =
      some (Segment.flat ((t.mapLiterals f hf).segments args))

-- ---------------------------------------------------------------------------
-- Expanding a template
-- ---------------------------------------------------------------------------

theorem expandNewlines_eq (b : Bytes) : expandNewlines b = replace 92 110 10 b := by
  show replaceAll 92 110 10 b = _
  induction b using replaceAll.induct 92 110 with
  | case1 => rfl
  | case2 c => rfl
  | case3 c d rest h ih => rw [replaceAll, if_pos h, replace, if_pos h, ih]
  | case4 c d rest h ih => rw [replaceAll, if_neg h, replace, if_neg h, ih]

theorem percent_expandNewlines (b : Bytes) (h : 37 ∉ b) : 37 ∉ expandNewlines b := by
  show 37 ∉ replaceAll 92 110 10 b
  -- induction as replace_all goes through the text
  induction b using replaceAll.induct 92 110 with
  | case1 => exact h
  | case2 c => exact h
  -- an escape becomes a newline, which is no percent sign
  | case3 c d rest hcd ih =>
    rw [replaceAll, if_pos hcd, List.mem_cons, not_or]
    exact ⟨by decide, ih fun hin => h (List.mem_cons_of_mem _ (List.mem_cons_of_mem _ hin))⟩
  | case4 c d rest hcd ih =>
    obtain ⟨hc, hrest⟩ := not_or.mp (fun hor => h (List.mem_cons.mpr hor))
    rw [replaceAll, if_neg hcd, List.mem_cons, not_or]
    exact ⟨hc, ih hrest⟩

namespace Template

/-- The template with the escapes of its literal text expanded. -/
def expanded (t : Template) : Template := t.mapLiterals expandNewlines percent_expandNewlines

/-- No escape reaches from literal text into a directive. -/
theorem not_straddles_restText (b : Bytes) (rest : List (Directive × Bytes)) :
    ¬ Straddles 92 110 b (restText rest) := by
  rintro ⟨-, hhead⟩
  cases rest with
  | nil => exact absurd hhead (by simp [restText])
  | cons p rest =>
    have hpercent : (restText (p :: rest)).head? = some 37 := by
      simp [restText, List.head?_append, p.1.head_eq]
    rw [hpercent] at hhead
    exact absurd hhead (by decide)

theorem expand_restText (rest : List (Directive × Bytes)) :
    expandNewlines (restText rest) = restText (rest.map fun p => (p.1, expandNewlines p.2)) := by
  induction rest with
  | nil => rfl
  | cons p rest ih =>
    -- the end of a directive and the literal behind it make no new escape
    have hdirective : ¬ Straddles 92 110 p.1.text (p.2 ++ restText rest) := fun h =>
      p.1.last_ne h.1
    have hself : replace 92 110 10 p.1.text = p.1.text :=
      replace_of_occurrences_eq_zero 10 ((occurrences_eq_zero_iff 92 110 _).mpr p.1.no_escape)
    show expandNewlines (p.1.text ++ p.2 ++ restText rest) =
      p.1.text ++ expandNewlines p.2 ++ restText (rest.map fun p => (p.1, expandNewlines p.2))
    rw [expandNewlines_eq, List.append_assoc, replace_append 10 hdirective, hself,
      replace_append 10 (not_straddles_restText p.2 rest), ← expandNewlines_eq,
      ← expandNewlines_eq, ih, List.append_assoc]

/-- Expanding the text of a template expands its literal text. -/
theorem expand_text (t : Template) : expandNewlines t.text = t.expanded.text := by
  show expandNewlines (t.first ++ restText t.rest) = expandNewlines t.first ++ restText _
  rw [expandNewlines_eq, replace_append 10 (not_straddles_restText t.first t.rest),
    ← expandNewlines_eq, ← expandNewlines_eq, expand_restText]
  rfl

end Template

-- ---------------------------------------------------------------------------
-- Printing the expanded template
-- ---------------------------------------------------------------------------

/-- What the directives printed. -/
def printed : List (Segment UInt8) → List Bytes
  | [] => []
  | .fixed _ :: gs => printed gs
  | .foreign s :: gs => s :: printed gs

/-- Expanding the literal text moves no directive to a column where it prints
something else. -/
def Template.SameColumns (t : Template) (args : List Bytes) : Prop :=
  printed (t.expanded.segments args) = printed (t.segments args)

/-- The escapes of the literal text expanded, and the printed text as it is. -/
def shown (gs : List (Segment UInt8)) : Bytes := gs.flatMap (Segment.replaced 92 110 10)

theorem length_expandNewlines_le (b : Bytes) : (expandNewlines b).length ≤ b.length := by
  have hlength := length_replace (by decide : (92 : UInt8) ≠ 110) 10 b
  rw [expandNewlines_eq]
  omega

namespace Template

/-- The rest of a template after its literal text was expanded. -/
def expandRest (rest : List (Directive × Bytes)) : List (Directive × Bytes) :=
  rest.map fun p => (p.1, expandNewlines p.2)

variable (args : List Bytes)

/-- Directives that print the same leave the same text around them. -/
theorem flat_of_printed_eq (rest : List (Directive × Bytes)) (i j : Nat)
    (h : printed (restSegments args i (expandRest rest)) = printed (restSegments args j rest)) :
    Segment.flat (restSegments args i (expandRest rest)) = shown (restSegments args j rest) := by
  -- induction on the directives, at whatever columns they stand
  induction rest generalizing i j with
  | nil => rfl
  | cons p rest ih =>
    obtain ⟨d, literal⟩ := p
    obtain ⟨hhead, htail⟩ := List.cons.inj h
    have hrest := ih _ _ htail
    show d.print i args ++ (expandNewlines literal ++ Segment.flat (restSegments args _ _)) =
      d.print j args ++ (replace 92 110 10 literal ++ shown (restSegments args _ rest))
    rw [← expandNewlines_eq]
    exact congrArg₂ (fun (s tail : Bytes) => s ++ (expandNewlines literal ++ tail)) hhead hrest

/-- From further left directives print at least as much, and something else only if
more. -/
theorem length_shown_le (rest : List (Directive × Bytes)) {i j : Nat} (hij : i ≤ j) :
    (shown (restSegments args j rest)).length ≤
        (Segment.flat (restSegments args i (expandRest rest))).length ∧
      ((Segment.flat (restSegments args i (expandRest rest))).length ≤
          (shown (restSegments args j rest)).length →
        printed (restSegments args i (expandRest rest)) = printed (restSegments args j rest)) := by
  -- induction on the directives; a literal only gets shorter, so the columns only move left
  induction rest generalizing i j with
  | nil => exact ⟨Nat.le_refl _, fun _ => rfl⟩
  | cons p rest ih =>
    obtain ⟨d, literal⟩ := p
    -- what stands further left is not padded less
    have hsuffix := d.suffix args i j hij
    have hprint := hsuffix.length_le
    have hliteral := length_expandNewlines_le literal
    have hreach := d.reach args i j hij
    have hnext : i + (d.print i args).length + (expandNewlines literal).length ≤
        j + (d.print j args).length + literal.length := by omega
    obtain ⟨hle, heq⟩ := ih hnext
    have hshown : (shown (restSegments args j ((d, literal) :: rest))).length =
        (d.print j args).length + ((expandNewlines literal).length +
          (shown (restSegments args (j + (d.print j args).length + literal.length)
            rest)).length) := by
      rw [expandNewlines_eq, ← List.length_append, ← List.length_append]
      rfl
    have hflat : (Segment.flat (restSegments args i (expandRest ((d, literal) :: rest)))).length =
        (d.print i args).length + ((expandNewlines literal).length +
          (Segment.flat (restSegments args
            (i + (d.print i args).length + (expandNewlines literal).length)
            (expandRest rest))).length) := by
      rw [← List.length_append, ← List.length_append]
      rfl
    rw [hshown, hflat]
    refine ⟨by omega, ?_⟩
    intro h
    -- equal total lengths leave no room for a difference in any part
    have hsame : d.print j args = d.print i args := hsuffix.eq_of_length_le (by omega)
    show d.print i args :: printed (restSegments args _ (expandRest rest)) =
      d.print j args :: printed (restSegments args _ rest)
    rw [hsame] at heq hle h ⊢
    exact congrArg (_ :: ·) (heq (by omega))

theorem length_segments (t : Template) :
    (shown (t.segments args)).length ≤ (Segment.flat (t.expanded.segments args)).length ∧
      ((Segment.flat (t.expanded.segments args)).length ≤ (shown (t.segments args)).length →
        t.SameColumns args) := by
  obtain ⟨hle, heq⟩ := length_shown_le args t.rest (length_expandNewlines_le t.first)
  have hshown : (shown (t.segments args)).length = (expandNewlines t.first).length +
      (shown (restSegments args t.first.length t.rest)).length := by
    rw [expandNewlines_eq, ← List.length_append]
    rfl
  have hflat : (Segment.flat (t.expanded.segments args)).length =
      (expandNewlines t.first).length + (Segment.flat (restSegments args
        (expandNewlines t.first).length (expandRest t.rest))).length := by
    rw [← List.length_append]
    rfl
  rw [hshown, hflat]
  exact ⟨by omega, fun h => heq (by omega)⟩

theorem flat_expanded (t : Template) (h : t.SameColumns args) :
    Segment.flat (t.expanded.segments args) = shown (t.segments args) := by
  have hrest := flat_of_printed_eq args t.rest _ _ h
  show expandNewlines t.first ++ Segment.flat (restSegments args _ (expandRest t.rest)) =
    replace 92 110 10 t.first ++ shown (restSegments args _ t.rest)
  rw [← expandNewlines_eq]
  exact congrArg (expandNewlines t.first ++ ·) hrest

/-- **Expanding and printing commute** exactly when what the directives print neither
brings nor completes an escape, and no tabulation notices the shorter text. -/
theorem expand_flat_iff (t : Template) :
    expandNewlines (Segment.flat (t.segments args)) =
        Segment.flat (t.expanded.segments args) ↔
      Intact 92 110 (t.segments args) ∧ t.SameColumns args := by
  have hne : (92 : UInt8) ≠ 110 := by decide
  rw [expandNewlines_eq]
  constructor
  -- no escape was lost and no column moved, or the text would be shorter
  · intro h
    have hlength := length_replaced hne 10 (t.segments args)
    obtain ⟨hle, hsame⟩ := length_segments args t
    change _ = (shown (t.segments args)).length at hlength
    rw [h] at hlength
    exact ⟨(unmeant_eq_zero_iff 92 110 _).mp (by omega), hsame (by omega)⟩
  · rintro ⟨hintact, hsame⟩
    rw [flat_expanded args t hsame]
    exact (replace_flat_iff hne 10 _).mpr hintact

end Template

-- ---------------------------------------------------------------------------
-- Replies
-- ---------------------------------------------------------------------------

/-- The reply is the expanded template with the arguments put in unchanged, and has no
line break but those of its literal text and of what the directives print. -/
structure Verbatim (format : Bytes → List Bytes → Option Bytes) (t : Template)
    (args : List Bytes) (reply : Bytes) : Prop where
  commutes : format (expandNewlines t.text) args = some reply
  breaks : reply.count 10 ≤ (shown (t.segments args)).count 10

/-- The arguments bring no escape into what the template prints, complete none, and no
tabulation of it notices that escapes shrink. -/
def Template.Harmless (t : Template) (args : List Bytes) : Prop :=
  Intact 92 110 (t.segments args) ∧ t.SameColumns args

theorem Template.mapLiterals_id (t : Template) : t.mapLiterals id (fun _ h => h) = t := by
  obtain ⟨first, rest, hfirst, hrest⟩ := t
  simp [mapLiterals]

/-- The text a handler formats and what `process_cmd` makes of it. -/
theorem verbatim_text_iff {format : Bytes → List Bytes → Option Bytes} {t : Template} {n : Nat}
    (h : FormatsAs format t n) {args : List Bytes} (hargs : args.length = n) {text : Bytes}
    (htext : format t.text args = some text) :
    Verbatim format t args (expandNewlines text) ↔ t.Harmless args := by
  -- FormatsAs for the template as it is and for the one with its newlines expanded
  have hprinted := h id (fun _ hb => hb) args hargs
  have hexpanded := h expandNewlines percent_expandNewlines args hargs
  rw [Template.mapLiterals_id, htext, Option.some.injEq] at hprinted
  have hcommutes : format (expandNewlines t.text) args = some (expandNewlines text) ↔
      t.Harmless args := by
    rw [Template.expand_text, Template.Harmless, ← Template.expand_flat_iff, ← hprinted]
    rw [Template.expanded, hexpanded, Option.some.injEq]
    exact eq_comm
  refine ⟨fun hv => hcommutes.mp hv.commutes, fun hharmless => ⟨hcommutes.mpr hharmless, ?_⟩⟩
  rw [hprinted, expandNewlines_eq]
  exact (count_flat_iff (by decide) (by decide) (by decide) _).mpr hharmless.1

/-- The fields `cmd_get` feeds the template. -/
def Member.getFields (m : Member) : List Bytes := [m.nickName, m.bio, m.signature, m.tokId]

/-- The fields `cmd_info` feeds the template. -/
def Member.infoFields (m : Member) : List Bytes := [m.nickName, m.bio, m.signature]

-- ---------------------------------------------------------------------------
-- The templates of the shipped configuration
-- ---------------------------------------------------------------------------

/-- The number of an argument, as a digit. -/
abbrev ArgDigit := {d : UInt8 // 49 ≤ d ∧ d ≤ 57}

/-- `%1%` to `%9%`. -/
def Directive.positional (d : ArgDigit) : Directive where
  text := [37, d, 37]
  print := fun _ args => args.getD (d.val.toNat - 49) []
  head_eq := rfl
  last_ne := by simp
  no_escape := by
    intro h
    -- a directive is a digit between percent signs
    have hmem : (92 : UInt8) ∈ [37, d.val, 37] := h.subset (by simp)
    simp only [List.mem_cons, List.not_mem_nil, or_false] at hmem
    rcases hmem with hmem | hmem | hmem
    · exact absurd hmem (by decide)
    · exact absurd (hmem ▸ d.2.2) (by decide)
    · exact absurd hmem (by decide)
  suffix := fun _ _ _ _ => List.suffix_refl _
  reach := fun _ _ _ hij => Nat.add_le_add_right hij _

/-- Literal text with positional directives in between. -/
def Template.positional (first : Bytes) (rest : List (ArgDigit × Bytes)) (hfirst : 37 ∉ first)
    (hrest : ∀ p ∈ rest, 37 ∉ p.2) : Template where
  first := first
  rest := rest.map fun p => (Directive.positional p.1, p.2)
  first_plain := hfirst
  rest_plain := by
    intro p hp
    obtain ⟨q, hq, rfl⟩ := List.mem_map.mp hp
    exact hrest q hq

theorem positionalFormat_plain {b : Bytes} (hb : 37 ∉ b) (tail : Bytes) (args : List Bytes) :
    positionalFormat (b ++ tail) args = (positionalFormat tail args).map (b ++ ·) := by
  -- induction on the literal, which is copied byte by byte
  induction b with
  | nil => simp
  | cons c b ih =>
    obtain ⟨hc, hb⟩ := not_or.mp (fun hor => hb (List.mem_cons.mpr hor))
    have hc : c ≠ 37 := Ne.symm hc
    have hcons : positionalFormat (c :: (b ++ tail)) args =
        (positionalFormat (b ++ tail) args).map (c :: ·) := by
      -- no other equation of the parser applies
      rw [positionalFormat]
      · exact if_neg hc
      · exact fun _ h _ => hc h
      · exact fun _ _ h _ => hc h
    rw [List.cons_append, hcons, ih hb, Option.map_map]
    rfl

theorem positionalFormat_directive (d : ArgDigit) (tail : Bytes) (args : List Bytes)
    (hd : d.val.toNat - 49 < args.length) :
    positionalFormat (37 :: d.val :: 37 :: tail) args =
      (positionalFormat tail args).map (args.getD (d.val.toNat - 49) [] ++ ·) := by
  have hne : d.val ≠ 37 := fun h => absurd (h ▸ d.2.1) (by decide)
  rw [positionalFormat]
  · rw [if_pos d.2, List.getD_eq_getElem?_getD, List.getElem?_eq_getElem hd]
    cases positionalFormat tail args with
    | none => rfl
    | some tail => rfl
  · exact fun h => hne h

theorem positionalFormat_rest (rest : List (ArgDigit × Bytes)) (hplain : ∀ p ∈ rest, 37 ∉ p.2)
    (args : List Bytes) (hargs : ∀ p ∈ rest, p.1.val.toNat - 49 < args.length) (column : Nat) :
    positionalFormat
        (Template.restText (rest.map fun p => (Directive.positional p.1, p.2))) args =
      some (Segment.flat (Template.restSegments args column
        (rest.map fun p => (Directive.positional p.1, p.2)))) := by
  -- induction on the directives: each is replaced by its argument, and the literal behind it
  -- copied
  induction rest generalizing column with
  | nil => rfl
  | cons p rest ih =>
    obtain ⟨d, literal⟩ := p
    have hliteral : 37 ∉ literal := hplain (d, literal) (List.mem_cons_self ..)
    have hd : d.val.toNat - 49 < args.length := hargs (d, literal) (List.mem_cons_self ..)
    show positionalFormat (37 :: d.val :: 37 :: (literal ++ Template.restText
      (rest.map fun p => (Directive.positional p.1, p.2)))) args = _
    rw [positionalFormat_directive d _ args hd, positionalFormat_plain hliteral,
      ih (fun p hp => hplain p (List.mem_cons_of_mem _ hp))
        (fun p hp => hargs p (List.mem_cons_of_mem _ hp))]
    rfl

/-- The positional format prints as documented. -/
theorem positional_formatsAs {n : Nat} (first : Bytes) (rest : List (ArgDigit × Bytes))
    (hfirst : 37 ∉ first) (hrest : ∀ p ∈ rest, 37 ∉ p.2)
    (hargs : ∀ p ∈ rest, p.1.val.toNat - 49 < n) :
    FormatsAs positionalFormat (Template.positional first rest hfirst hrest) n := by
  intro f hf args hlen
  have hmap : ((Template.positional first rest hfirst hrest).mapLiterals f hf).rest =
      (rest.map fun p => (p.1, f p.2)).map fun p => (Directive.positional p.1, p.2) := by
    simp [Template.mapLiterals, Template.positional]
  show positionalFormat (f first ++ Template.restText _) args =
    some (f first ++ Segment.flat (Template.restSegments args (f first).length _))
  rw [positionalFormat_plain (hf first hfirst), hmap, positionalFormat_rest]
  · rfl
  · intro p hp
    obtain ⟨q, hq, rfl⟩ := List.mem_map.mp hp
    exact hf _ (hrest q hq)
  · intro p hp
    obtain ⟨q, hq, rfl⟩ := List.mem_map.mp hp
    exact hlen ▸ hargs q hq

/-- `desc_get` of the sample configuration. -/
def Template.sampleGet : Template :=
  Template.positional (bytes "Nickname: ")
    [(⟨49, by decide⟩, bytes "Bio: "), (⟨50, by decide⟩, bytes "Interested in: "),
      (⟨51, by decide⟩, bytes "TokID: "), (⟨52, by decide⟩, [])] (by decide) (by decide)

/-- `desc_info` of the sample configuration. -/
def Template.sampleInfo : Template :=
  Template.positional (bytes "Nickname: ")
    [(⟨49, by decide⟩, bytes "Bio: "), (⟨50, by decide⟩, bytes "What r u interested in: "),
      (⟨51, by decide⟩, [])] (by decide) (by decide)

-- ---------------------------------------------------------------------------
-- The replies of /get and /info
-- ---------------------------------------------------------------------------

/-- **User text is shown verbatim** exactly when it is harmless to the template: the
replies of `/get`, about the member it drew, and of `/info`, about the sender. -/
theorem verbatim_iff {σ : Type} (D : Driver σ) (env : Env) {getTemplate infoTemplate : Template}
    (hget : FormatsAs env.format getTemplate 4) (hgetText : getTemplate.text = env.conf.descGet)
    (hinfo : FormatsAs env.format infoTemplate 3)
    (hinfoText : infoTemplate.text = env.conf.descInfo)
    (s : State σ) (pk : Pk) (ans : Answers)
    {getMsg infoMsg : Message} {getParam infoParam : Bytes}
    (hgetMsg : getMsg.dispatch = some (.get, getParam))
    (hinfoMsg : infoMsg.dispatch = some (.info, infoParam))
    {a b : Nat} {drawn own : Member}
    (hdraw : s.memberMgr.randomMember pk.hex ans.rand = some a)
    (hdrawn : s.memberMgr.heap.deref (some a) = some drawn)
    (hfind : s.memberMgr.findMember pk.hex = some b)
    (hown : s.memberMgr.heap.deref (some b) = some own) :
    (∃ reply, Assisant.friendMessageCb D env s pk getMsg ans = some (s, some reply) ∧
      (Verbatim env.format getTemplate drawn.getFields reply ↔
        getTemplate.Harmless drawn.getFields)) ∧
    ∃ reply, Assisant.friendMessageCb D env s pk infoMsg ans = some (s, some reply) ∧
      (Verbatim env.format infoTemplate own.infoFields reply ↔
        infoTemplate.Harmless own.infoFields) := by
  refine ⟨⟨expandNewlines (env.getText drawn), ?_, ?_⟩,
    ⟨expandNewlines (env.infoText own.nickName own.bio own.signature), ?_, ?_⟩⟩
  -- the reply is the expanded text of the draw
  · simp only [Assisant.friendMessageCb, hgetMsg, Assisant.runCmd, Assisant.cmdGet, hdraw, hdrawn,
      Env.format_get, if_true]
  · refine verbatim_text_iff hget rfl ?_
    rw [hgetText]
    exact env.format_get drawn
  -- and that of the sender's own entry
  · simp only [Assisant.friendMessageCb, hinfoMsg, Assisant.runCmd, Assisant.cmdInfo, hfind, hown,
      Env.format_info, if_true]
  · refine verbatim_text_iff hinfo rfl ?_
    rw [hinfoText]
    exact env.format_info own.nickName own.bio own.signature

/-- Two friends with names without an escape started, and one of them asks. -/
theorem verbatim_iff_two :
    ∃ s os drawn own get info, (Bot.machine MySql.driver Env.sample).run
        (Bot.init (MySql.holding Table.empty) Tox.blank)
        [(.name Pk.second (bytes "Bo"), Answers.plain),
          (.message Pk.first ⟨bytes "/start A1", by decide⟩, Answers.plain),
          (.message Pk.second ⟨bytes "/start B2", by decide⟩, Answers.plain)] = some (s, os) ∧
      Member.getFields drawn = [bytes "Bo", [], [], bytes " B2"] ∧
      Assisant.friendMessageCb MySql.driver Env.sample s Pk.first ⟨bytes "/get", by decide⟩
        Answers.plain = some (s, some get) ∧
      Verbatim Env.sample.format Template.sampleGet (Member.getFields drawn) get ∧
      Assisant.friendMessageCb MySql.driver Env.sample s Pk.first ⟨bytes "/info", by decide⟩
        Answers.plain = some (s, some info) ∧
      Verbatim Env.sample.format Template.sampleInfo (Member.infoFields own) info := by
  have hget : FormatsAs Env.sample.format Template.sampleGet 4 :=
    positional_formatsAs _ _ _ _ (by decide)
  have hinfo : FormatsAs Env.sample.format Template.sampleInfo 3 :=
    positional_formatsAs _ _ _ _ (by decide)
  have hgetMsg : Message.dispatch ⟨bytes "/get", by decide⟩ = some (.get, []) := by decide
  have hinfoMsg : Message.dispatch ⟨bytes "/info", by decide⟩ = some (.info, []) := by decide
  obtain ⟨s, os, hrun, ⟨a, drawn, hdraw, hdrawn, hgetFields⟩, b, own, hfind, hown, hinfoFields⟩ :
      ∃ s os, (Bot.machine MySql.driver Env.sample).run
          (Bot.init (MySql.holding Table.empty) Tox.blank)
          [(.name Pk.second (bytes "Bo"), Answers.plain),
            (.message Pk.first ⟨bytes "/start A1", by decide⟩, Answers.plain),
            (.message Pk.second ⟨bytes "/start B2", by decide⟩, Answers.plain)] = some (s, os) ∧
        (∃ a drawn, s.memberMgr.randomMember Pk.first.hex Answers.plain.rand = some a ∧
          s.memberMgr.heap.deref (some a) = some drawn ∧
          Member.getFields drawn = [bytes "Bo", [], [], bytes " B2"]) ∧
        ∃ b own, s.memberMgr.findMember Pk.first.hex = some b ∧
          s.memberMgr.heap.deref (some b) = some own ∧ Member.infoFields own = [[], [], []] := by
    -- the run leaves both friends registered, and the draw is the second
    refine ⟨_, _, rfl, ?_, ?_⟩
    · exact ⟨_, _, rfl, rfl, rfl⟩
    · exact ⟨_, _, rfl, rfl, rfl⟩
  obtain ⟨⟨get, hgetReply, hgetIff⟩, info, hinfoReply, hinfoIff⟩ :=
    verbatim_iff MySql.driver Env.sample hget (by decide) hinfo (by decide) s Pk.first
      Answers.plain hgetMsg hinfoMsg hdraw hdrawn hfind hown
  refine ⟨s, os, drawn, own, get, info, hrun, hgetFields, hgetReply, hgetIff.mpr ?_, hinfoReply,
    hinfoIff.mpr ?_⟩
  -- no escape in the fields, so the columns stay too
  · rw [hgetFields]
    exact ⟨(unmeant_eq_zero_iff 92 110 _).mp (by decide), rfl⟩
  · rw [hinfoFields]
    exact ⟨(unmeant_eq_zero_iff 92 110 _).mp (by decide), rfl⟩

/-- A nickname with the escape in it breaks the line in another friend's reply. -/
theorem nickname_breaks_line :
    ∃ s os text reply, (Bot.machine MySql.driver Env.sample).run
        (Bot.init (MySql.holding Table.empty) Tox.blank)
        [(.name Pk.second (bytes "Bo\\nFree coins"), Answers.plain),
          (.message Pk.second ⟨bytes "/start B2", by decide⟩, Answers.plain),
          (.message Pk.first ⟨bytes "/get", by decide⟩, Answers.plain)] = some (s, os) ∧
      os.getLast?.bind Output.reply = some reply ∧
      Env.sample.format (expandNewlines Env.sample.conf.descGet)
        [bytes "Bo\\nFree coins", [], [], bytes " B2"] = some text ∧
      text ≠ reply ∧ text.count 10 = 0 ∧ reply.count 10 = 1 := by
  refine ⟨_, _, _, _, rfl, rfl, rfl, ?_, ?_, ?_⟩ <;> decide

end FindFriendBot
