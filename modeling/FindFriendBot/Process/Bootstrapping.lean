import FindFriendBot.Avatar.Loading
import FindFriendBot.Model.Bootstrap
import FindFriendBot.Registry.Keys

/-!
# FindFriendBot — which nodes are used

`bootstrap` takes it for granted that the nodes file has been read, has a NUL
behind its text, is JSON, and has nothing but well-formed entries in its array
"nodes". No entry is ever skipped: one that is not well-formed is used with what
it has, or is where the behaviour becomes undefined.

* `jsonBuf_eq`               — the text that is parsed.
* `bootstrap_unterminated`   — a file without a NUL is read past its end.
* `bootstrapNodes_exact_iff` — when the loop calls for exactly the well-formed entries.
* `bootstrap_exact_iff`      — when `bootstrap` does so for the file.
-/

namespace FindFriendBot

-- ---------------------------------------------------------------------------
-- The text
-- ---------------------------------------------------------------------------

/-- Bytes with a NUL end a string, and without one it goes on behind them. -/
theorem Memory.cString_append (text : Bytes) (mem : Memory) :
    Memory.cString (text.map some ++ mem) =
      if (0 : UInt8) ∈ text then some (cStr text) else mem.cString.map (text ++ ·) := by
  induction text with
  | nil => simp
  | cons b rest ih =>
    rw [List.map_cons, List.cons_append, cString, ih]
    by_cases hb : b = 0
    · subst hb
      simp [cStr]
    · have hmem : (0 : UInt8) ∈ b :: rest ↔ (0 : UInt8) ∈ rest := by
        rw [List.mem_cons, or_iff_right (Ne.symm hb)]
      have hcstr : cStr (b :: rest) = b :: cStr rest :=
        List.takeWhile_cons_of_pos (decide_eq_true hb)
      rw [if_neg hb, hcstr, ite_congr (propext hmem) (fun _ => rfl) (fun _ => rfl)]
      split
      · rfl
      · rw [Option.map_map]
        rfl

/-- A string does not end in bytes that nothing was written to. -/
theorem Memory.cString_replicate (n : Nat) : Memory.cString (List.replicate n none) = none := by
  cases n <;> rfl

/-- A text ends at the NUL behind it. -/
theorem cStr_append_nul {text : Bytes} (hnul : (0 : UInt8) ∉ text) : cStr (text ++ [0]) = text := by
  rw [cStr, List.takeWhile_append_of_pos]
  · exact List.append_nil _
  · exact fun b hb => decide_eq_true fun hzero => hnul (hzero ▸ hb)

namespace FileIo

variable {io : FileIo}

/-- What is parsed of the buffer. -/
def text (io : FileIo) : Bytes := cStr io.read

theorem text_prefix (io : FileIo) : io.text <+: io.content :=
  (List.takeWhile_prefix _).trans (List.take_prefix _ _)

theorem getData_eq (hopen : io.fopen = true) (halloc : io.malloc = true) :
    Assisant.getData io 0 = (some io.buffer, io.size) := by
  rw [Assisant.getData, if_neg (by simp [hopen]), if_neg (by simp [halloc])]

/-- The text ends at the first NUL that `fread` wrote; without one there is none, as what is
read next was not written, or lies behind the buffer. -/
theorem jsonBuf_eq (io : FileIo) :
    Bot.jsonBuf io.buffer io.size = if (0 : UInt8) ∈ io.read then some io.text else none := by
  have hshort : io.text.length ≤ io.size :=
    (List.takeWhile_prefix _).length_le.trans io.length_read_le
  rw [Bot.jsonBuf, buffer, Memory.cString_append, Memory.cString_replicate, Option.map_none]
  split
  · exact congrArg some (List.take_of_length_le hshort)
  · rfl

/-- A file below 4 GiB is read as it is, if nothing fails. -/
theorem Reads.read_eq {content : Bytes} (h : io.Reads content) (hlt : content.length < 2 ^ 32) :
    io.read = content := by
  have hle := h.fread
  rw [read, h.content_eq, h.size_eq hlt]
  exact List.take_of_length_le (by omega)

/-- With a NUL behind it, a text is parsed as it is. -/
theorem Reads.text_eq {text : Bytes} (h : io.Reads (text ++ [0]))
    (hlt : text.length + 1 < 2 ^ 32) (hnul : (0 : UInt8) ∉ text) :
    (0 : UInt8) ∈ io.read ∧ io.text = text := by
  have hread : io.read = text ++ [0] := by
    refine h.read_eq ?_
    rw [List.length_append]
    exact hlt
  refine ⟨hread ▸ List.mem_append_right _ (List.mem_singleton_self 0), ?_⟩
  rw [FileIo.text, hread, cStr_append_nul hnul]

end FileIo

-- ---------------------------------------------------------------------------
-- Well-formed entries
-- ---------------------------------------------------------------------------

/-- The key that a text of 64 hexadecimal digits stands for. -/
def PublicKey.ofHex (hex : Bytes) : Option PublicKey :=
  match Hex.decode hex with
  | none => none
  | some bin => if h : bin.length = toxPublicKeySize then some ⟨bin, h⟩ else none

theorem PublicKey.ofHex_eq_some_iff {hex : Bytes} {key : PublicKey} :
    ofHex hex = some key ↔ Hex.decode hex = some key.bin := by
  unfold ofHex
  cases hdecode : Hex.decode hex with
  | none => simp
  | some bin =>
    simp only [Option.some.injEq]
    constructor
    · intro h
      split at h
      · rw [← Option.some.inj h]
      · exact absurd h (by simp)
    · rintro rfl
      exact dif_pos key.length_eq

/-- A node that can be used. -/
structure Node where
  host : Bytes
  port : Nat
  publicKey : PublicKey
  port_pos : 1 ≤ port
  port_le : port ≤ 65535

namespace Node

/-- The call for the node. -/
def call (node : Node) : ToxBootstrap where
  host := node.host
  port := node.port
  publicKey := node.publicKey

/-- The entry is an object with a string "ipv4", a string "public_key" of 64 hexadecimal digits
and an integer "port". -/
structure Describes (entry : Json.Value) (node : Node) : Prop where
  ipv4 : entry.member? (bytes "ipv4") = some (.string node.host)
  publicKey : ∃ hex, entry.member? (bytes "public_key") = some (.string hex) ∧
    hex.length = 64 ∧ Hex.decode hex = some node.publicKey.bin
  port : entry.member? (bytes "port") = some (.int node.port)

/-- The node of a well-formed entry. -/
def ofEntry (entry : Json.Value) : Option Node :=
  match entry.member? (bytes "ipv4") with
  | some (.string host) =>
    match entry.member? (bytes "public_key") with
    | some (.string hex) =>
      match PublicKey.ofHex hex with
      | none => none
      | some key =>
        match entry.member? (bytes "port") with
        | some (.int (.ofNat port)) =>
          if h : 1 ≤ port ∧ port ≤ 65535 then some ⟨host, port, key, h.1, h.2⟩ else none
        | _ => none
    | _ => none
  | _ => none

theorem ofEntry_eq_some_iff {entry : Json.Value} {node : Node} :
    ofEntry entry = some node ↔ Describes entry node := by
  constructor
  · intro h
    unfold ofEntry at h
    split at h
    · next host hipv4 =>
      split at h
      · next hex hpublicKey =>
        split at h
        · exact absurd h (by simp)
        · next key hkey =>
          split at h
          · next port hport =>
            split at h
            · obtain rfl := Option.some.inj h
              have hdecode := PublicKey.ofHex_eq_some_iff.mp hkey
              refine ⟨hipv4, ⟨hex, hpublicKey, ?_, hdecode⟩, hport⟩
              rw [(Hex.length_of_decode hdecode).1, key.length_eq]
              rfl
            · exact absurd h (by simp)
          · exact absurd h (by simp)
      · exact absurd h (by simp)
    · exact absurd h (by simp)
  · rintro ⟨hipv4, ⟨hex, hpublicKey, -, hdecode⟩, hport⟩
    have hkey : PublicKey.ofHex hex = some node.publicKey :=
      PublicKey.ofHex_eq_some_iff.mpr hdecode
    have hport : entry.member? (bytes "port") = some (.int (.ofNat node.port)) := hport
    simp only [ofEntry, hipv4, hpublicKey, hkey, hport, dif_pos (And.intro node.port_pos
      node.port_le)]

end Node

/-- The entries of the array "nodes", if the document has one. -/
def nodeEntries (document : Json.Value) : Option (List Json.Value) :=
  (document.member? (bytes "nodes")).bind Json.Value.elements?

/-- The nodes of a document: those of its well-formed entries. -/
def usableNodes (document : Json.Value) : List Node :=
  match nodeEntries document with
  | none => []
  | some entries => entries.filterMap Node.ofEntry

-- ---------------------------------------------------------------------------
-- The loop
-- ---------------------------------------------------------------------------

variable {sodium : Sodium}

theorem bootstrapNode_eq {entry : Json.Value} {ipv4 hex : Bytes} {n : Int}
    (hipv4 : entry.member? (bytes "ipv4") = some (.string ipv4))
    (hpublicKey : entry.member? (bytes "public_key") = some (.string hex))
    (hport : (entry.member? (bytes "port")).bind Json.Value.int32? = some n) :
    Bot.bootstrapNode sodium entry = some
      { host := cStr ipv4
        port := (n % 2 ^ 32).toNat % 2 ^ 16
        publicKey := PublicKey.zero.overwrite (sodium.hex2bin toxPublicKeySize (cStr hex)) } := by
  have hhost : (entry.member? (bytes "ipv4")).bind Json.Value.string? = some ipv4 := by
    rw [hipv4]
    rfl
  have hkey : (entry.member? (bytes "public_key")).bind Json.Value.string? = some hex := by
    rw [hpublicKey]
    rfl
  unfold Bot.bootstrapNode
  simp only [hhost, hkey, hport]

/-- A well-formed entry is used with its port and its key, and with its host up to a NUL. -/
theorem bootstrapNode_of_describes (h : sodium.Documented) {entry : Json.Value} {node : Node}
    (hnode : node.Describes entry) :
    Bot.bootstrapNode sodium entry = some { node.call with host := cStr node.host } := by
  obtain ⟨hex, hpublicKey, -, hdecode⟩ := hnode.publicKey
  have hnul : cStr hex = hex := by
    refine cStr_eq_self_iff.mpr fun hin => ?_
    have hdigit := (Hex.length_of_decode hdecode).2 0 hin
    exact absurd hdigit (by decide)
  have hbin : sodium.hex2bin toxPublicKeySize hex = node.publicKey.bin :=
    h.hex2bin_eq _ _ _ hdecode (Nat.le_of_eq node.publicKey.length_eq)
  have hle := node.port_le
  have hport : (entry.member? (bytes "port")).bind Json.Value.int32? = some (node.port : Int) := by
    rw [hnode.port, Option.bind_some]
    exact Json.Value.int32?_eq_some_iff.mpr ⟨rfl, by omega, by omega⟩
  have hsame : ((node.port : Int) % 2 ^ 32).toNat % 2 ^ 16 = node.port := by omega
  rw [bootstrapNode_eq hnode.ipv4 hpublicKey hport, hnul, hbin, PublicKey.overwrite_bin, hsame]
  rfl

/-- No entry is skipped. -/
theorem length_bootstrapNodes {entries : List Json.Value} {calls : List ToxBootstrap}
    (h : Bot.bootstrapNodes sodium entries = some calls) : calls.length = entries.length := by
  induction entries generalizing calls with
  | nil =>
    obtain rfl := Option.some.inj h
    rfl
  | cons entry rest ih =>
    unfold Bot.bootstrapNodes at h
    split at h
    · exact absurd h (by simp)
    · obtain ⟨calls', hrest, rfl⟩ := Option.map_eq_some_iff.mp h
      rw [List.length_cons, List.length_cons, ih hrest]

/-- **The loop** calls for exactly the well-formed entries exactly if all are, and no host has a
NUL. -/
theorem bootstrapNodes_exact_iff (h : sodium.Documented) (entries : List Json.Value) :
    Bot.bootstrapNodes sodium entries = some ((entries.filterMap Node.ofEntry).map Node.call) ↔
      ∀ entry ∈ entries, ∃ node, Node.Describes entry node ∧ (0 : UInt8) ∉ node.host := by
  induction entries with
  | nil => exact iff_of_true rfl fun entry hin => absurd hin List.not_mem_nil
  | cons entry rest ih =>
    cases hentry : Node.ofEntry entry with
    | none =>
      refine iff_of_false ?_ ?_
      · -- there would be a call too many
        intro hcalls
        have hlength := length_bootstrapNodes hcalls
        have hle := List.length_filterMap_le Node.ofEntry rest
        rw [List.filterMap_cons_none hentry, List.length_map, List.length_cons] at hlength
        omega
      · intro hall
        obtain ⟨node, hnode, -⟩ := hall entry (List.mem_cons_self ..)
        rw [Node.ofEntry_eq_some_iff.mpr hnode] at hentry
        exact absurd hentry (by simp)
    | some node =>
      have hnode := Node.ofEntry_eq_some_iff.mp hentry
      -- the entry describes one node only
      have hhost : (∃ node', Node.Describes entry node' ∧ (0 : UInt8) ∉ node'.host) ↔
          (0 : UInt8) ∉ node.host := by
        constructor
        · rintro ⟨node', hnode', hnul⟩
          rw [Node.ofEntry_eq_some_iff.mpr hnode', Option.some.injEq] at hentry
          exact hentry ▸ hnul
        · exact fun hnul => ⟨node, hnode, hnul⟩
      -- the first call is right if the host has no NUL, the others by induction
      rw [List.forall_mem_cons, hhost, ← ih, List.filterMap_cons_some hentry, List.map_cons,
        Bot.bootstrapNodes, bootstrapNode_of_describes h hnode, ← cStr_eq_self_iff]
      simp only [Option.map_eq_some_iff, List.cons.injEq, Node.call, ToxBootstrap.mk.injEq,
        and_true]
      constructor
      · rintro ⟨calls, hrest, hcstr, rfl⟩
        exact ⟨hcstr, hrest⟩
      · rintro ⟨hcstr, hrest⟩
        exact ⟨_, hrest, hcstr, rfl⟩

-- ---------------------------------------------------------------------------
-- The file
-- ---------------------------------------------------------------------------

/-- The calls that the file asks for: one for each of its well-formed entries, in their order,
or none if there is no buffer to read it into. -/
def wantedCalls (json : RapidJson) (io : FileIo) : List ToxBootstrap :=
  if io.fopen = false ∨ io.malloc = false then []
  else (usableNodes (json.document io.content)).map Node.call

/-- Every entry of the text's array "nodes" is well-formed, and no host has a NUL. -/
def AllUsable (json : RapidJson) (text : Bytes) (entries : List Json.Value) : Prop :=
  nodeEntries (json.document text) = some entries ∧
    ∀ entry ∈ entries, ∃ node, Node.Describes entry node ∧ (0 : UInt8) ∉ node.host

variable {json : RapidJson}

/-- Of a text with an array "nodes" there is a longer one only if it is the same document. -/
theorem usableNodes_of_start (h : json.Documented) {text content : Bytes}
    (hstart : text <+: content) {entries : List Json.Value}
    (hentries : nodeEntries (json.document text) = some entries) :
    usableNodes (json.document content) =
      if (json.parse content).isSome then entries.filterMap Node.ofEntry else [] := by
  obtain ⟨more, rfl⟩ := hstart
  cases hcontent : json.parse (text ++ more) with
  | none =>
    rw [RapidJson.document, hcontent]
    rfl
  | some value =>
    obtain ⟨v, hv, -⟩ := Option.bind_eq_some_iff.mp hentries
    obtain ⟨members, hobject⟩ := Json.Value.eq_object_of_member? hv
    have hparse : json.parse text = some (.object members) := by
      unfold RapidJson.document at hobject
      cases hp : json.parse text with
      | none =>
        rw [hp] at hobject
        exact Json.Value.noConfusion hobject
      | some w =>
        rw [hp] at hobject
        exact congrArg some hobject
    have hsame : json.document (text ++ more) = json.document text := by
      rw [RapidJson.document, hcontent, hobject]
      exact h.after_object text more members value hparse hcontent
    rw [hsame, usableNodes, hentries]
    rfl

/-- What `bootstrap` does with a file that it has a buffer for. -/
theorem bootstrap_of_text (json : RapidJson) (sodium : Sodium) {io : FileIo}
    (hopen : io.fopen = true) (halloc : io.malloc = true) :
    Bot.bootstrap json sodium io = if (0 : UInt8) ∈ io.read then
      (nodeEntries (json.document io.text)).bind (Bot.bootstrapNodes sodium) else none := by
  unfold Bot.bootstrap
  simp only [FileIo.getData_eq hopen halloc, FileIo.jsonBuf_eq]
  by_cases hnul : (0 : UInt8) ∈ io.read
  · simp only [if_pos hnul]
    show (match nodeEntries (json.document io.text) with
      | none => none
      | some toxNodes => Bot.bootstrapNodes sodium toxNodes) = _
    cases nodeEntries (json.document io.text) <;> rfl
  · simp only [if_neg hnul]

/-- **A file without a NUL** is read past the end of its buffer, whatever it says. -/
theorem bootstrap_unterminated (json : RapidJson) (sodium : Sodium) {io : FileIo}
    (hopen : io.fopen = true) (halloc : io.malloc = true) (hnul : (0 : UInt8) ∉ io.content) :
    Bot.bootstrap json sodium io = none := by
  rw [bootstrap_of_text json sodium hopen halloc, if_neg]
  exact fun hread => hnul (List.mem_of_mem_take hread)

/-- The entries of a text that was read are used as the file asks for exactly if all are usable
and the file is JSON, or there is none. -/
theorem bootstrapNodes_file_iff (hjson : json.Documented) (hsodium : sodium.Documented)
    {text content : Bytes} (hstart : text <+: content) {entries : List Json.Value}
    (hentries : nodeEntries (json.document text) = some entries) :
    Bot.bootstrapNodes sodium entries =
        some ((usableNodes (json.document content)).map Node.call) ↔
      (∀ entry ∈ entries, ∃ node, Node.Describes entry node ∧ (0 : UInt8) ∉ node.host) ∧
        (entries = [] ∨ (json.parse content).isSome) := by
  rw [usableNodes_of_start hjson hstart hentries]
  by_cases hwhole : (json.parse content).isSome = true
  · rw [if_pos hwhole, bootstrapNodes_exact_iff hsodium]
    exact (and_iff_left (Or.inr hwhole)).symm
  · rw [if_neg hwhole, or_iff_left hwhole, List.map_nil]
    constructor
    · -- nothing is called for, so there is no entry
      intro hcalls
      have hnone : entries = [] :=
        List.eq_nil_of_length_eq_zero (length_bootstrapNodes hcalls).symm
      exact ⟨fun entry hin => absurd (hnone ▸ hin) List.not_mem_nil, hnone⟩
    · rintro ⟨-, rfl⟩
      rfl

/-- **Bootstrap** has defined behaviour and calls `tox_bootstrap` for exactly the well-formed
entries of the file, exactly if the file cannot be opened or there is no memory for it, or a
NUL was read, what is before it is an object with an array "nodes" of well-formed entries only
and no host has a NUL, and the file as a whole is JSON too or the array is empty. -/
theorem bootstrap_exact_iff (json : RapidJson) (hjson : json.Documented) (sodium : Sodium)
    (hsodium : sodium.Documented) (io : FileIo) :
    Bot.bootstrap json sodium io = some (wantedCalls json io) ↔
      io.fopen = false ∨ io.malloc = false ∨ (0 : UInt8) ∈ io.read ∧ ∃ entries,
        AllUsable json io.text entries ∧ (entries = [] ∨ (json.parse io.content).isSome) := by
  by_cases hdata : io.fopen = false ∨ io.malloc = false
  · -- get_data returns a null pointer, and nothing is called
    refine iff_of_true ?_ (hdata.imp_right Or.inl)
    have hnull : Assisant.getData io 0 = (none, 0) := by
      unfold Assisant.getData
      rcases hdata with hopen | halloc
      · rw [if_pos hopen]
      · rw [if_pos halloc, ite_self]
    rw [Bot.bootstrap, hnull, wantedCalls, if_pos hdata]
  · obtain ⟨hopen, halloc⟩ := not_or.mp hdata
    rw [bootstrap_of_text json sodium (Bool.eq_true_of_not_eq_false hopen)
      (Bool.eq_true_of_not_eq_false halloc), wantedCalls, if_neg hdata, or_iff_right hopen,
      or_iff_right halloc]
    by_cases hnul : (0 : UInt8) ∈ io.read
    · rw [if_pos hnul, and_iff_right hnul]
      simp only [AllUsable]
      cases hentries : nodeEntries (json.document io.text) with
      | none => simp
      | some entries =>
        rw [Option.bind_some, bootstrapNodes_file_iff hjson hsodium io.text_prefix hentries]
        simp only [Option.some.injEq, and_assoc, exists_eq_left']
    · -- strlen runs past the buffer
      rw [if_neg hnul]
      simp [hnul]

/-- A parser that knows one text only, and reads up to a NUL, as `Parse` does. -/
def RapidJson.only (text : Bytes) (value : Json.Value) : RapidJson where
  parse := fun t => if cStr t = text then some value else none

theorem RapidJson.only_documented (text : Bytes) (value : Json.Value) :
    (RapidJson.only text value).Documented where
  after_object := by
    intro t more members v hfirst hwhole
    obtain ⟨-, hmembers⟩ := Option.ite_none_right_eq_some.mp hfirst
    obtain ⟨-, hv⟩ := Option.ite_none_right_eq_some.mp hwhole
    rw [← Option.some.inj hv, Option.some.inj hmembers]

theorem RapidJson.parse_only {text t : Bytes} (h : cStr t = text) (value : Json.Value) :
    (RapidJson.only text value).parse t = some value := if_pos h

theorem RapidJson.document_only {text t : Bytes} (h : cStr t = text) (value : Json.Value) :
    (RapidJson.only text value).document t = value := by
  rw [RapidJson.document, RapidJson.parse_only h, Option.getD_some]

/-- A node that is in the file. -/
def biribiri : Node where
  host := bytes "node.tox.biribiri.org"
  port := 33445
  publicKey := {
    bin := [0xF4, 0x04, 0xAB, 0xAA, 0x1C, 0x99, 0xA9, 0xD3, 0x7D, 0x61, 0xAB,
      0x54, 0x89, 0x8F, 0x56, 0x79, 0x3E, 0x1D, 0xEF, 0x8B, 0xD4, 0x6B,
      0x10, 0x38, 0xB9, 0xD8, 0x22, 0xE8, 0x46, 0x0F, 0xAB, 0x67]
    length_eq := rfl }
  port_pos := by decide
  port_le := by decide

def biribiriHex : Bytes :=
  bytes "F404ABAA1C99A9D37D61AB54898F56793E1DEF8BD46B1038B9D822E8460FAB67"

/-- The node on a port. -/
def biribiriEntry (port : Int) : Json.Value :=
  .object [(bytes "ipv4", .string biribiri.host), (bytes "port", .int port),
    (bytes "public_key", .string biribiriHex)]

/-- A file with the node on a port, and no other. -/
def biribiriFile (port : Bytes) : Bytes :=
  bytes "\x7b\"nodes\":[\x7b\"ipv4\":\"node.tox.biribiri.org\",\"port\":" ++ port ++
    bytes ",\"public_key\":\"" ++ biribiriHex ++ bytes "\"\x7d]\x7d"

/-- What the parser makes of it. -/
def biribiriJson (text : Bytes) (port : Int) : RapidJson :=
  RapidJson.only text (.object [(bytes "nodes", .array [biribiriEntry port])])

theorem biribiriFile_nul {port : Bytes} (hnul : (0 : UInt8) ∉ port) :
    (0 : UInt8) ∉ biribiriFile port := by
  simp only [biribiriFile, List.mem_append, hnul, or_false]
  decide +kernel

/-- The file with a NUL behind its text. -/
def biribiriTerminated (port : Bytes) : FileIo := FileIo.reading (biribiriFile port ++ [0])

theorem biribiriTerminated_text {port : Bytes} (hlen : port.length = 5)
    (hnul : (0 : UInt8) ∉ port) :
    (0 : UInt8) ∈ (biribiriTerminated port).read ∧
      (biribiriTerminated port).text = biribiriFile port := by
  refine (FileIo.reading_reads _).text_eq ?_ (biribiriFile_nul hnul)
  simp only [biribiriFile, List.length_append, hlen]
  decide +kernel

theorem cStr_biribiriFile {port : Bytes} (hnul : (0 : UInt8) ∉ port) :
    cStr (biribiriFile port) = biribiriFile port :=
  cStr_eq_self_iff.mpr (biribiriFile_nul hnul)

theorem nodeEntries_biribiri {text t : Bytes} (h : cStr t = text) (port : Int) :
    nodeEntries ((biribiriJson text port).document t) = some [biribiriEntry port] := by
  rw [biribiriJson, RapidJson.document_only h]
  rfl

theorem biribiri_describes : Node.Describes (biribiriEntry 33445) biribiri where
  ipv4 := rfl
  publicKey := ⟨_, rfl, by decide, by decide⟩
  port := rfl

/-- With a NUL behind the text, the node as it is in the file is used. -/
theorem bootstrap_one :
    wantedCalls (biribiriJson (biribiriFile (bytes "33445")) 33445)
        (biribiriTerminated (bytes "33445")) = [biribiri.call] ∧
      Bot.bootstrap (biribiriJson (biribiriFile (bytes "33445")) 33445) Sodium.plain
        (biribiriTerminated (bytes "33445")) =
          some (wantedCalls (biribiriJson (biribiriFile (bytes "33445")) 33445)
            (biribiriTerminated (bytes "33445"))) := by
  have hport : (0 : UInt8) ∉ bytes "33445" := by decide
  obtain ⟨hnul, htext⟩ :=
    biribiriTerminated_text (show (bytes "33445").length = 5 by decide) hport
  have hwhole : cStr (biribiriTerminated (bytes "33445")).content = biribiriFile (bytes "33445") :=
    cStr_append_nul (biribiriFile_nul hport)
  constructor
  · rw [wantedCalls, if_neg (by decide), usableNodes, nodeEntries_biribiri hwhole]
    show ([biribiriEntry 33445].filterMap Node.ofEntry).map Node.call = [biribiri.call]
    rw [List.filterMap_cons_some (Node.ofEntry_eq_some_iff.mpr biribiri_describes)]
    rfl
  · refine (bootstrap_exact_iff _ (RapidJson.only_documented _ _) Sodium.plain
      Sodium.plain_documented _).mpr (Or.inr (Or.inr ⟨hnul, [biribiriEntry 33445], ?_, ?_⟩))
    · rw [htext]
      refine ⟨nodeEntries_biribiri (cStr_biribiriFile hport) _, ?_⟩
      intro entry hin
      rw [List.mem_singleton.mp hin]
      exact ⟨biribiri, biribiri_describes, by decide⟩
    · right
      exact congrArg Option.isSome (RapidJson.parse_only hwhole _)

/-- Without the NUL the same file is read past its end; and with one, a node whose port is out
of range is not skipped, but used with another port. -/
theorem bootstrap_inexact :
    Bot.bootstrap (biribiriJson (biribiriFile (bytes "33445")) 33445) Sodium.plain
        (FileIo.reading (biribiriFile (bytes "33445"))) = none ∧
      Bot.bootstrap (biribiriJson (biribiriFile (bytes "70000")) 70000) Sodium.plain
        (biribiriTerminated (bytes "70000")) = some [{ biribiri.call with port := 4464 }] ∧
      ¬ Bot.bootstrap (biribiriJson (biribiriFile (bytes "70000")) 70000) Sodium.plain
          (biribiriTerminated (bytes "70000")) =
        some (wantedCalls (biribiriJson (biribiriFile (bytes "70000")) 70000)
          (biribiriTerminated (bytes "70000"))) := by
  have hport : (0 : UInt8) ∉ bytes "70000" := by decide
  obtain ⟨hnul, htext⟩ :=
    biribiriTerminated_text (show (bytes "70000").length = 5 by decide) hport
  have hcalls : Bot.bootstrap (biribiriJson (biribiriFile (bytes "70000")) 70000) Sodium.plain
      (biribiriTerminated (bytes "70000")) = some [{ biribiri.call with port := 4464 }] := by
    rw [bootstrap_of_text _ Sodium.plain rfl rfl, if_pos hnul, htext,
      nodeEntries_biribiri (cStr_biribiriFile hport)]
    rfl
  have hwhole : cStr (biribiriTerminated (bytes "70000")).content = biribiriFile (bytes "70000") :=
    cStr_append_nul (biribiriFile_nul hport)
  have hwanted : wantedCalls (biribiriJson (biribiriFile (bytes "70000")) 70000)
      (biribiriTerminated (bytes "70000")) = [] := by
    rw [wantedCalls, if_neg (by decide), usableNodes, nodeEntries_biribiri hwhole]
    rfl
  refine ⟨bootstrap_unterminated _ _ rfl rfl (biribiriFile_nul (by decide)), hcalls, ?_⟩
  rw [hcalls, hwanted]
  exact fun heq => absurd (Option.some.inj heq) (List.cons_ne_nil _ _)

end FindFriendBot
