import FindFriendBot.Model.Buffers
import FindFriendBot.Registry.Simulation

/-!
# FindFriendBot — what becomes of the query buffers

A buffer is one byte longer than the value and zero where toxcore does not write, so
reading it as a C string ends inside of it. `cmd_start` and `cmd_info` free both
buffers or none: if one query fails at its size and the other does not, the buffer of
the other stays. `cmd_start` streams what the queries returned into the log before it
looks at it: where records at level debug pass, a null pointer is read there.

* `query_spec`    — one query.
* `queries_spec`  — the two of a command.
* `cmdStart_null` — a null pointer in the log.
* `runCmd_left`   — one command.
* `query_buffers` — every run.
-/

namespace FindFriendBot

namespace Buffers

/-- One of the two queries fails at its size, and the other does not. -/
def oneFails (ans : Answers) : Bool :=
  (ans.nameQuery == .sizeFails) != (ans.statusMessageQuery == .sizeFails)

/-- One of the two queries fails at its size. -/
def nullQuery (ans : Answers) : Bool :=
  ans.nameQuery == .sizeFails || ans.statusMessageQuery == .sizeFails

/-- The event streams a null pointer into a record at level debug. -/
def streamsNull (e : Event) (ans : Answers) : Bool :=
  match e with
  | .message _ msg =>
    match msg.dispatch with
    | some (.start, tokId) => tokId != [] && nullQuery ans
    | _ => false
  | _ => false

/-- The command leaves a buffer behind. -/
def commandLoses (mgr : MemberMgr) (pk : Pk) (ans : Answers) (cmd : Command) (param : Bytes) :
    Bool :=
  match cmd with
  | .start => param != [] && oneFails ans
  | .info => (mgr.findMember pk.hex).isNone && oneFails ans
  | _ => false

/-- The event leaves a buffer behind. -/
def loses (mgr : MemberMgr) (e : Event) (ans : Answers) : Bool :=
  match e with
  | .message pk msg =>
    match msg.dispatch with
    | some (cmd, param) => commandLoses mgr pk ans cmd param
    | none => false
  | _ => false

/-- The buffers left behind by the process that runs. -/
def noteLost {σ : Type} (lost : List Nat) (s : State σ × Buffers) (i : Input)
    (_ : State σ × Buffers) (_ : Output) : List Nat :=
  match i.1 with
  | .restart => []
  | e => if loses s.1.memberMgr e i.2 then s.2.next :: lost else lost

-- ---------------------------------------------------------------------------
-- One query
-- ---------------------------------------------------------------------------

/-- There is one buffer more. -/
structure Made (heap heap' : Buffers) : Prop where
  complete : heap.Complete → heap'.Complete
  live_iff : ∀ a, heap'.Live a ↔ a = heap.next ∨ heap.Live a
  read_eq : ∀ a, heap.Live a → heap'.read a = heap.read a

theorem made_zeroed (size : Nat) (heap : Buffers) : Made heap (zeroed size heap).2 where
  complete := fun h => h.new _
  live_iff := fun _ => ObjectHeap.live_new_iff
  read_eq := fun _ hl => ObjectHeap.read_new_of_live hl _

/-- Writing to the new buffer is not noticed elsewhere. -/
theorem Made.modify {heap heap' : Buffers} (h : Made heap heap') (f : Bytes → Bytes) :
    Made heap (heap'.modify heap.next f) where
  complete := fun hc => (h.complete hc).modify heap.next f
  live_iff := fun a => ObjectHeap.live_modify_iff.trans (h.live_iff a)
  read_eq := fun a hl => by
    have hne : heap.next ≠ a := fun heq => heap.next_not_live (heq ▸ hl)
    rw [ObjectHeap.read_modify, if_neg hne, h.read_eq a hl]

theorem cString_of_read {heap : Buffers} {a : Nat} {buffer : Bytes}
    (hread : heap.read a = some buffer) (hzero : 0 ∈ buffer) :
    cString (some a) heap = some (cStr buffer) := by
  simp only [cString, ObjectHeap.deref_some, hread, if_pos hzero]

/-- **One query** returns null, or a new buffer with the value, which can be read. -/
theorem query_spec (q : FriendQuery) (value : Bytes) (heap : Buffers) :
    (q = .sizeFails ∧ queryBuffer q value = none ∧ query q value heap = some (none, heap)) ∨
      ∃ buffer heap', q ≠ .sizeFails ∧ queryBuffer q value = some buffer ∧ 0 ∈ buffer ∧
        query q value heap = some (some heap.next, heap') ∧ Made heap heap' ∧
        heap'.read heap.next = some buffer := by
  have hmade := made_zeroed (value.length + 1) heap
  have hread : (zeroed (value.length + 1) heap).2.read heap.next =
      some (List.replicate (value.length + 1) 0) := ObjectHeap.read_new_next heap _
  cases q with
  | sizeFails => exact Or.inl ⟨rfl, rfl, rfl⟩
  -- the second call failed: the buffer is all zero
  | getFails =>
    refine Or.inr ⟨_, _, nofun, rfl, ?_, rfl, hmade, hread⟩
    exact List.mem_replicate.mpr ⟨Nat.succ_ne_zero _, rfl⟩
  | ok =>
    have hlive := (hmade.live_iff heap.next).mpr (Or.inl rfl)
    -- one byte more than the value
    have hfits : value.length ≤ (List.replicate (value.length + 1) (0 : UInt8)).length := by
      rw [List.length_replicate]
      exact Nat.le_succ _
    have hwrite : write (some (zeroed (value.length + 1) heap).1) value
        (zeroed (value.length + 1) heap).2 =
        some ((zeroed (value.length + 1) heap).2.modify heap.next fun buffer =>
          value ++ buffer.drop value.length) := by
      have hderef : (zeroed (value.length + 1) heap).2.deref
          (some (zeroed (value.length + 1) heap).1) = _ := hread
      simp only [write, hderef, if_pos hfits]
      exact ObjectHeap.update_of_live hlive _
    have hmodified := hmade.modify fun buffer => value ++ buffer.drop value.length
    refine Or.inr ⟨value ++ List.replicate 1 0, _, nofun, rfl, ?_, ?_, hmodified, ?_⟩
    -- the last byte stays zero
    · exact List.mem_append_right _ (List.mem_singleton_self 0)
    · simp only [query, hwrite]
      rfl
    · rw [ObjectHeap.read_modify, if_pos rfl, hread, Option.map_some, List.drop_replicate,
        Nat.add_sub_cancel_left]

-- ---------------------------------------------------------------------------
-- The queries of a command
-- ---------------------------------------------------------------------------

/-- What is alive is as before, but for one more buffer that is lost. -/
structure Left (heap heap' : Buffers) (lost : Bool) : Prop where
  complete : heap.Complete → heap'.Complete
  live_iff : ∀ a, heap'.Live a ↔ heap.Live a ∨ lost = true ∧ a = heap.next

theorem Left.refl (heap : Buffers) : Left heap heap false where
  complete := id
  live_iff := fun _ => by simp

theorem Made.left {heap heap' : Buffers} (h : Made heap heap') : Left heap heap' true where
  complete := h.complete
  live_iff := fun a => by rw [h.live_iff, or_comm, eq_self_iff_true, true_and]

/-- The two buffers of a command are freed. -/
theorem freeBoth_spec {heap heap₁ heap₂ : Buffers} (h₁ : Made heap heap₁)
    (h₂ : Made heap₁ heap₂) :
    ∃ heap₃, freeBoth (some heap.next) (some heap₁.next) heap₂ = some heap₃ ∧
      Left heap heap₃ false := by
  have hlive₁ : heap₁.Live heap.next := (h₁.live_iff _).mpr (Or.inl rfl)
  -- two buffers, both new
  have hne : heap₁.next ≠ heap.next := fun heq => heap₁.next_not_live (heq ▸ hlive₁)
  obtain ⟨heap', hfree, -, -, hlive'⟩ :=
    ObjectHeap.delete_of_live ((h₂.live_iff heap.next).mpr (Or.inr hlive₁))
  -- the second is alive after the first free
  have hlive₂ : heap'.Live heap₁.next :=
    (hlive' _).mpr ⟨hne, (h₂.live_iff _).mpr (Or.inl rfl)⟩
  obtain ⟨heap₃, hfree', -, -, hlive₃⟩ := ObjectHeap.delete_of_live hlive₂
  refine ⟨heap₃, by simp only [freeBoth, free, hfree, hfree'], fun hc => ?_, fun a => ?_⟩
  · exact ((h₂.complete (h₁.complete hc)).delete hfree).delete hfree'
  · have hnew : heap.Live a → a ≠ heap.next ∧ a ≠ heap₁.next := fun hl =>
      ⟨fun heq => heap.next_not_live (heq ▸ hl),
        fun heq => heap₁.next_not_live (heq ▸ (h₁.live_iff a).mpr (Or.inr hl))⟩
    rw [hlive₃, hlive', h₂.live_iff, h₁.live_iff]
    constructor
    -- neither of the two is left, and nothing else went
    · rintro ⟨hne₁, hne₀, heq | heq | hl⟩
      · exact absurd heq hne₁
      · exact absurd heq hne₀
      · exact Or.inl hl
    · rintro (hl | hno)
      · exact ⟨(hnew hl).2, (hnew hl).1, Or.inr (Or.inr hl)⟩
      · exact absurd hno.1 Bool.false_ne_true

/-- **The two queries of a command**: one of them returns null, or both values can be read and
both buffers be freed. -/
theorem queries_spec (tox : Tox) (pk : Pk) (ans : Answers) (heap : Buffers) :
    ∃ name heap₁ statusMessage heap₂, getName tox pk ans heap = some (name, heap₁) ∧
      getStatusMessage tox pk ans heap₁ = some (statusMessage, heap₂) ∧
      (nullQuery ans = true ∧ (name = none ∨ statusMessage = none) ∧
          (FindFriendBot.getName tox pk ans = none ∨
            FindFriendBot.getStatusMessage tox pk ans = none) ∧
          Left heap heap₂ (oneFails ans) ∨
        ∃ nick bio heap₃, ¬ (name = none ∨ statusMessage = none) ∧
          FindFriendBot.getName tox pk ans = some nick ∧
          FindFriendBot.getStatusMessage tox pk ans = some bio ∧
          cString name heap₁ = some (cStr nick) ∧ cString name heap₂ = some (cStr nick) ∧
          cString statusMessage heap₂ = some (cStr bio) ∧
          freeBoth name statusMessage heap₂ = some heap₃ ∧ Left heap heap₃ (oneFails ans)) := by
  rcases query_spec ans.nameQuery (tox.name pk) heap with
    ⟨hq, hnull, hget⟩ | ⟨nick, heap₁, hq, hnick, hzero, hget, hmade, hread⟩
  -- no buffer for the name
  · rcases query_spec ans.statusMessageQuery (tox.statusMessage pk) heap with
      ⟨hq', -, hget'⟩ | ⟨bio, heap₂, hq', -, -, hget', hmade', -⟩
    -- and none for the status message: nothing was allocated
    · refine ⟨_, _, _, _, hget, hget', Or.inl ⟨?_, Or.inl rfl, Or.inl hnull, ?_⟩⟩
      · rw [nullQuery, hq]
        rfl
      · rw [oneFails, hq, hq']
        exact Left.refl heap
    -- the status message's buffer stays
    · refine ⟨_, _, _, _, hget, hget', Or.inl ⟨?_, Or.inl rfl, Or.inl hnull, ?_⟩⟩
      · rw [nullQuery, hq]
        rfl
      · rw [oneFails, hq, beq_false_of_ne hq']
        exact hmade'.left
  · rcases query_spec ans.statusMessageQuery (tox.statusMessage pk) heap₁ with
      ⟨hq', hnull', hget'⟩ | ⟨bio, heap₂, hq', hbio, hzero', hget', hmade', hread'⟩
    -- the name's buffer stays
    · refine ⟨_, _, _, _, hget, hget', Or.inl ⟨?_, Or.inr rfl, Or.inr hnull', ?_⟩⟩
      · rw [nullQuery, hq', Bool.or_eq_true]
        exact Or.inr rfl
      · rw [oneFails, hq', beq_false_of_ne hq]
        exact hmade.left
    · obtain ⟨heap₃, hfree, hleft⟩ := freeBoth_spec hmade hmade'
      -- the second query leaves the first buffer as it is
      have hkept : heap₂.read heap.next = some nick :=
        (hmade'.read_eq _ ((hmade.live_iff _).mpr (Or.inl rfl))).trans hread
      refine ⟨_, _, _, _, hget, hget', Or.inr ⟨nick, bio, heap₃, by simp, hnick, hbio,
        cString_of_read hread hzero, cString_of_read hkept hzero, cString_of_read hread' hzero',
        hfree, ?_⟩⟩
      rw [oneFails, beq_false_of_ne hq, beq_false_of_ne hq']
      exact hleft

-- ---------------------------------------------------------------------------
-- Commands
-- ---------------------------------------------------------------------------

variable {σ : Type} (D : Driver σ) (env : Env)

/-- What can be read can be logged. -/
theorem logDebug_of_read {p : Ptr} {heap : Buffers} {text : Bytes}
    (h : cString p heap = some text) (debug : Bool) : logDebug debug p heap = some () := by
  rw [logDebug, h]
  split <;> rfl

/-- **A null pointer** that a query returned is read by the log. -/
theorem cmdStart_null (s : State σ) (pk : Pk) {ans : Answers} {tokId : Bytes} (msgRes : Bytes)
    (htok : tokId ≠ []) (hnull : nullQuery ans = true) (heap : Buffers) :
    cmdStart D env true s pk ans tokId msgRes heap = none := by
  have hlog : ∀ heap, logDebug true none heap = none := fun _ => rfl
  rcases query_spec ans.nameQuery (s.tox.name pk) heap with
    ⟨-, -, hget⟩ | ⟨nick, heap₁, hq, -, hzero, hget, -, hread⟩
  · have hname : getName s.tox pk ans heap = some (none, heap) := hget
    simp only [cmdStart, if_neg htok, hname, hlog]
  · -- the name is there, so it is the status message that is not
    have hstatus : ans.statusMessageQuery = .sizeFails := by
      rw [nullQuery, beq_false_of_ne hq, Bool.false_or] at hnull
      exact eq_of_beq hnull
    have hname : getName s.tox pk ans heap = some (some heap.next, heap₁) := hget
    have hget' : getStatusMessage s.tox pk ans heap₁ = some (none, heap₁) := by
      rw [getStatusMessage, hstatus]
      rfl
    simp only [cmdStart, if_neg htok, hname, logDebug_of_read (cString_of_read hread hzero),
      hget', hlog]

variable (debug : Bool)

theorem cmdStart_left {s s' : State σ} {pk : Pk} {ans : Answers} {tokId msgRes : Bytes}
    {r : Bytes × Bool} (h : Assisant.cmdStart D env s pk ans tokId msgRes = some (s', r))
    (hquiet : debug = true → (tokId != [] && nullQuery ans) = false) (heap : Buffers) :
    ∃ heap', cmdStart D env debug s pk ans tokId msgRes heap = some (s', heap', r) ∧
      Left heap heap' (tokId != [] && oneFails ans) := by
  unfold Assisant.cmdStart at h
  by_cases htok : tokId = []
  -- no token: no query
  · rw [if_pos htok] at h
    obtain ⟨rfl, rfl⟩ := Prod.mk.inj (Option.some.inj h)
    refine ⟨heap, by rw [cmdStart, if_pos htok], ?_⟩
    rw [htok]
    exact Left.refl heap
  · rw [if_neg htok] at h
    rw [bne_iff_ne.mpr htok, Bool.true_and] at hquiet ⊢
    obtain ⟨name, heap₁, statusMessage, heap₂, hget, hget', hnull | hread⟩ :=
      queries_spec s.tox pk ans heap
    · obtain ⟨hquery, hnone, hnone', hleft⟩ := hnull
      -- the log does not look at the null pointer
      have hdebug : debug = false := by
        cases debug with
        | false => rfl
        | true => exact absurd (hquery.symm.trans (hquiet rfl)) (by decide)
      have hlog : ∀ p heap, logDebug false p heap = some () := fun _ _ => rfl
      subst hdebug
      refine ⟨heap₂, ?_, hleft⟩
      -- one query failed, and cmd_start returns before it frees
      have hr : some (s, msgRes, false) = some (s', r) := by
        rcases hnone' with hn | hn
        · simpa only [hn] using h
        · rw [← h]
          cases FindFriendBot.getName s.tox pk ans <;> simp only [hn]
      obtain ⟨rfl, rfl⟩ := Prod.mk.inj (Option.some.inj hr)
      simp only [cmdStart, if_neg htok, hget, hget', hlog, if_pos hnone]
    · obtain ⟨nick, bio, heap₃, hsome, hnick, hbio, hlogged, hname, hstatus, hfree, hleft⟩ :=
        hread
      refine ⟨heap₃, ?_, hleft⟩
      simp only [hnick, hbio] at h
      simp only [cmdStart, if_neg htok, hget, logDebug_of_read hlogged, hget',
        logDebug_of_read hstatus, if_neg hsome, hname, hstatus]
      -- both buffers are read, and the registration goes as without them
      cases halloc : s.memberMgr.allocate with
      | none => simp [halloc] at h
      | some p =>
        obtain ⟨member, mgr⟩ := p
        cases member with
        | none => simp [halloc] at h
        | some a =>
          simp only [halloc] at h ⊢
          cases hset : mgr.update (some a) (Assisant.startSetters pk tokId nick bio) with
          | none => simp [hset] at h
          | some mgr₁ =>
            have hset' : (mgr.update (some a) fun m =>
                (((m.setPk pk.hex).setTokId tokId).setNickName (cStr nick)).setBio (cStr bio)) =
                  some mgr₁ := hset
            simp only [hset] at h
            simp only [hset']
            cases hadd : mgr₁.addMember (some a) with
            | none => simp [hadd] at h
            | some mgr₂ =>
              simp only [hadd] at h ⊢
              obtain ⟨rfl, rfl⟩ := Prod.mk.inj (Option.some.inj h)
              simp only [hfree]

theorem cmdInfo_left {s s' : State σ} {pk : Pk} {ans : Answers} {msgRes : Bytes}
    {r : Bytes × Bool} (h : Assisant.cmdInfo env s pk ans msgRes = some (s', r))
    (heap : Buffers) :
    ∃ heap', cmdInfo env s pk ans msgRes heap = some (s', heap', r) ∧
      Left heap heap' ((s.memberMgr.findMember pk.hex).isNone && oneFails ans) := by
  unfold Assisant.cmdInfo at h
  cases hfind : s.memberMgr.findMember pk.hex with
  -- registered: no query
  | some a =>
    simp only [hfind] at h
    refine ⟨heap, ?_, Left.refl heap⟩
    cases hderef : s.memberMgr.heap.deref (some a) with
    | none => simp [hderef] at h
    | some m =>
      simp only [hderef] at h
      cases htext : env.format env.conf.descInfo [m.nickName, m.bio, m.signature] with
      | none => simp [htext] at h
      | some text =>
        simp only [htext] at h
        obtain ⟨rfl, rfl⟩ := Prod.mk.inj (Option.some.inj h)
        simp only [cmdInfo, hfind, hderef, htext]
  | none =>
    simp only [hfind] at h
    rw [Option.isNone_none, Bool.true_and]
    obtain ⟨name, heap₁, statusMessage, heap₂, hget, hget', hnull | hread⟩ :=
      queries_spec s.tox pk ans heap
    · obtain ⟨-, hnone, hnone', hleft⟩ := hnull
      refine ⟨heap₂, ?_, hleft⟩
      -- one query failed, and cmd_info returns before it frees
      have hr : some (s, msgRes, true) = some (s', r) := by
        rcases hnone' with hn | hn
        · simpa only [hn] using h
        · rw [← h]
          cases FindFriendBot.getName s.tox pk ans <;> simp only [hn]
      obtain ⟨rfl, rfl⟩ := Prod.mk.inj (Option.some.inj hr)
      simp only [cmdInfo, hfind, hget, hget', if_pos hnone]
    · obtain ⟨nick, bio, heap₃, hsome, hnick, hbio, -, hname, hstatus, hfree, hleft⟩ := hread
      refine ⟨heap₃, ?_, hleft⟩
      simp only [hnick, hbio] at h
      simp only [cmdInfo, hfind, hget, hget', if_neg hsome, hname, hstatus]
      cases htext : env.format env.conf.descInfo [cStr nick, cStr bio, []] with
      | none => simp [htext] at h
      | some text =>
        simp only [htext] at h
        obtain ⟨rfl, rfl⟩ := Prod.mk.inj (Option.some.inj h)
        simp only [hfree]

/-- **One command** with its buffers. -/
theorem runCmd_left {s s' : State σ} {pk : Pk} {ans : Answers} {cmd : Command} {param : Bytes}
    {r : Bytes × Bool} (h : Assisant.runCmd D env s pk ans cmd param = some (s', r))
    (hquiet : debug = true → cmd = .start → (param != [] && nullQuery ans) = false)
    (heap : Buffers) :
    ∃ heap', runCmd D env debug s pk ans cmd param heap = some (s', heap', r) ∧
      Left heap heap' (commandLoses s.memberMgr pk ans cmd param) := by
  cases cmd with
  | start => exact cmdStart_left D env debug h (fun hdebug => hquiet hdebug rfl) heap
  | info => exact cmdInfo_left env h heap
  | _ => exact ⟨heap, by simp only [runCmd, h, Option.map_some], Left.refl heap⟩

-- ---------------------------------------------------------------------------
-- Events and runs
-- ---------------------------------------------------------------------------

/-- The event reads no null pointer for the log. -/
def Quiet (i : Input) : Prop := debug = true → streamsNull i.1 i.2 = false

theorem handle_left {s s' : State σ} {e : Event} {ans : Answers} {reply : Option Bytes}
    (h : Bot.handle D env s e ans = some (s', reply)) (hquiet : Quiet debug (e, ans))
    (he : e ≠ .restart) (heap : Buffers) :
    ∃ heap', handle D env debug s e ans heap = some (s', heap', reply) ∧
      Left heap heap' (loses s.memberMgr e ans) := by
  cases e with
  | message pk msg =>
    obtain ⟨cmd, param, hdisp⟩ := msg.dispatch_isSome
    simp only [Bot.handle, Assisant.friendMessageCb, hdisp] at h
    cases hrun : Assisant.runCmd D env s pk ans cmd param with
    | none => simp [hrun] at h
    | some p =>
      obtain ⟨s₁, msgRes, ret⟩ := p
      simp only [hrun] at h
      obtain ⟨rfl, rfl⟩ := Prod.mk.inj (Option.some.inj h)
      -- only a /start streams the pointers
      have hquiet' : debug = true → cmd = .start → (param != [] && nullQuery ans) = false := by
        rintro hdebug rfl
        simpa only [streamsNull, hdisp] using hquiet hdebug
      obtain ⟨heap', hcmd, hleft⟩ := runCmd_left D env debug hrun hquiet' heap
      refine ⟨heap', by simp only [handle, friendMessageCb, hdisp, hcmd], ?_⟩
      simpa only [loses, hdisp] using hleft
  | connectionStatus pk status =>
    exact ⟨heap, by simp only [handle, h, Option.map_some], Left.refl heap⟩
  | name pk nick => exact ⟨heap, by simp only [handle, h, Option.map_some], Left.refl heap⟩
  | statusMessage pk text =>
    exact ⟨heap, by simp only [handle, h, Option.map_some], Left.refl heap⟩
  | restart => exact absurd rfl he

/-- An event that is not quiet is undefined, whatever is registered and on the heap. -/
theorem step_null {i : Input} (hnull : streamsNull i.1 i.2 = true) (s : State σ × Buffers) :
    step D env true s i = none := by
  obtain ⟨e, ans⟩ := i
  cases e with
  | message pk msg =>
    obtain ⟨cmd, param, hdisp⟩ := msg.dispatch_isSome
    -- whatever the state, the command runs into the null pointer
    simp only [streamsNull, hdisp] at hnull
    cases cmd with
    | start =>
      obtain ⟨hparam, hquery⟩ := Bool.and_eq_true_iff.mp hnull
      simp only [step, handle, friendMessageCb, hdisp, runCmd,
        cmdStart_null D env _ pk env.conf.descUnknownCmd (bne_iff_ne.mp hparam) hquery]
    | _ => exact absurd hnull Bool.false_ne_true
  | _ => exact absurd hnull Bool.false_ne_true

/-- What is alive is what was left behind. -/
structure Kept (heap : Buffers) (lost : List Nat) : Prop where
  complete : heap.Complete
  live_iff : ∀ a, heap.Live a ↔ a ∈ lost
  nodup : lost.Nodup

theorem kept_empty : Kept ObjectHeap.empty [] where
  complete := ObjectHeap.complete_empty
  live_iff := fun _ => iff_of_false Std.ExtTreeMap.not_mem_empty List.not_mem_nil
  nodup := List.nodup_nil

theorem Kept.left {heap heap' : Buffers} {lost : List Nat} (h : Kept heap lost) {b : Bool}
    (hleft : Left heap heap' b) : Kept heap' (if b then heap.next :: lost else lost) := by
  cases b with
  | false =>
    refine ⟨hleft.complete h.complete, fun a => ?_, h.nodup⟩
    rw [hleft.live_iff, h.live_iff]
    simp
  | true =>
    -- the address left behind was not used before
    have hfresh : heap.next ∉ lost := fun hmem => heap.next_not_live ((h.live_iff _).mpr hmem)
    refine ⟨hleft.complete h.complete, fun a => ?_, List.nodup_cons.mpr ⟨hfresh, h.nodup⟩⟩
    rw [hleft.live_iff, h.live_iff, if_pos rfl, List.mem_cons, or_comm, eq_self_iff_true,
      true_and]

/-- One event, with the buffers and without. -/
theorem step_left {s s' : State σ} {i : Input} {o : Output}
    (h : Bot.step D env s i = some (s', o)) (hquiet : Quiet debug i) {heap : Buffers}
    {lost : List Nat} (hkept : Kept heap lost) :
    ∃ heap', step D env debug (s, heap) i = some ((s', heap'), o) ∧
      Kept heap' (noteLost lost (s, heap) i (s', heap') o) := by
  obtain ⟨e, ans⟩ := i
  unfold Bot.step at h
  cases hhandle : Bot.handle D env { s with db := D.begin ans.sql s.db } e ans with
  | none => simp [hhandle] at h
  | some p =>
    obtain ⟨s₁, reply⟩ := p
    simp only [hhandle] at h
    obtain ⟨rfl, rfl⟩ := Prod.mk.inj (Option.some.inj h)
    by_cases he : e = .restart
    -- a new process has a heap of its own
    · subst he
      refine ⟨ObjectHeap.empty, ?_, kept_empty⟩
      simp only [step, handle, hhandle, Option.map_some]
    · obtain ⟨heap', hstep, hleft⟩ := handle_left D env debug hhandle hquiet he heap
      refine ⟨heap', by simp only [step, hstep], ?_⟩
      have hnote : ∀ s'' o', noteLost lost (s, heap) (e, ans) s'' o' =
          if loses s.memberMgr e ans then heap.next :: lost else lost := by
        intro s'' o'
        cases e with
        | restart => exact absurd rfl he
        | _ => rfl
      rw [hnote]
      exact hkept.left hleft

/-- The bot with its buffers and the bot without them. -/
structure Agree (sg : (State σ × Buffers) × List Nat) (t : State σ) : Prop where
  state_eq : sg.1.1 = t
  refines : ∃ r, Refines t r
  kept : Kept sg.1.2 sg.2

/-- **The query buffers.** Over every driver and every run: if records at level debug pass and an
event of the run streams a null pointer into one, the run is undefined. Otherwise the bot with
its buffers does what the bot without them does, and no buffer is read past its end or freed
twice. What stays of them is one for each command of the running process that got one buffer
and not the other; every other buffer was freed, once. -/
theorem query_buffers (db : σ) (tox : Tox) (is : List Input) :
    ∃ s os, (Bot.machine D env).run (Bot.init db tox) is = some (s, os) ∧
      if debug = true ∧ ∃ i ∈ is, streamsNull i.1 i.2 = true then
        (machine D env debug).run (Bot.init db tox, ObjectHeap.empty) is = none
      else ∃ heap lost,
        ((machine D env debug).withGhost noteLost).run ((Bot.init db tox, ObjectHeap.empty), [])
            is = some (((s, heap), lost), os) ∧
          lost.Nodup ∧ (∀ a, heap.Live a ↔ a ∈ lost) ∧
          ∀ a < heap.next, a ∉ lost → heap.deleted.count a = 1 := by
  by_cases hnull : debug = true ∧ ∃ i ∈ is, streamsNull i.1 i.2 = true
  -- one event that is not quiet makes the whole run undefined
  · obtain ⟨s, -, os, hrun, -, -⟩ := run_sim D env is (refines_init db tox)
    refine ⟨s, os, hrun, ?_⟩
    rw [if_pos hnull]
    obtain ⟨rfl, i, hi, hstreams⟩ := hnull
    exact StepMachine.run_eq_none (step_null D env hstreams) hi _
  · have hquiet : ∀ i ∈ is, Quiet debug i := by
      intro i hi hdebug
      exact Bool.eq_false_of_not_eq_true fun hstreams => hnull ⟨hdebug, i, hi, hstreams⟩
    have hstep : ∀ (sg : (State σ × Buffers) × List Nat) (t : State σ) (i : Input),
        Agree sg t → Quiet debug i →
        ∃ sg' t' o, ((machine D env debug).withGhost noteLost).step sg i = some (sg', o) ∧
          (Bot.machine D env).step t i = some (t', o) ∧ Agree sg' t' := by
      -- every quiet event: the same step, and the ghost notes what stays
      rintro ⟨⟨s, heap⟩, lost⟩ t i ⟨rfl, ⟨r, hrefines⟩, hkept⟩ hi
      obtain ⟨s', hstep, hrefines', -⟩ := step_sim D env hrefines i
      obtain ⟨heap', hstep', hkept'⟩ := step_left D env debug hstep hi hkept
      exact ⟨((s', heap'), _), s', _, StepMachine.withGhost_step_iff.mpr ⟨hstep', rfl⟩, hstep, rfl,
        ⟨_, hrefines'⟩, hkept'⟩
    obtain ⟨⟨⟨s', heap⟩, lost⟩, s, os, hrun, hplain, rfl, -, hkept⟩ :=
      StepMachine.run_simulation_of (Quiet debug) hstep is
        ((Bot.init db tox, ObjectHeap.empty), []) (Bot.init db tox)
        ⟨rfl, ⟨_, refines_init db tox⟩, kept_empty⟩ hquiet
    refine ⟨s', os, hplain, ?_⟩
    rw [if_neg hnull]
    refine ⟨heap, lost, hrun, hkept.nodup, hkept.live_iff, fun a ha hno => ?_⟩
    exact hkept.complete.count_deleted ha fun hl => hno ((hkept.live_iff a).mp hl)

/-- The name is there, the status message is not: `/info` leaves its buffer, and `/start` reads
the null pointer if it logs it. -/
example :
    (((machine MySql.driver Env.sample true).withGhost noteLost).run
      ((Bot.init (MySql.holding Table.empty) Tox.blank, ObjectHeap.empty), [])
      [(.message Pk.first ⟨bytes "/info", by decide⟩,
        { Answers.plain with statusMessageQuery := .sizeFails })]).map (fun r => r.1.2) =
      some [0] ∧
    ((machine MySql.driver Env.sample true).run
      (Bot.init (MySql.holding Table.empty) Tox.blank, ObjectHeap.empty)
      [(.message Pk.first ⟨bytes "/start A1", by decide⟩,
        { Answers.plain with statusMessageQuery := .sizeFails })]).isNone :=
  ⟨rfl, rfl⟩

end Buffers

end FindFriendBot
