import FindFriendBot.Avatar.Chunks
import FindFriendBot.Lib.Projection
import FindFriendBot.Process.Handlers
import FindFriendBot.Welcome.Chains

/-!
# FindFriendBot — the process and its parts

What the other modules say of the bot, the avatar and the welcome, they say of
machines that know nothing of each other. A process is all of them at once: it lives
exactly as long as the calls succeed whose failure nothing handles, and as long as it
lives each part goes through a run of its own machine.

* `process_survives_iff` — when every callback of a run has defined behaviour.
* `process_refines`      — what the parts of a run are.
* `process_tidy`         — what a run leaves on the heap.
-/

namespace FindFriendBot

namespace Process

open Session (Idle)

variable {σ : Type} (D : Driver σ) (cfg : Config)

-- ---------------------------------------------------------------------------
-- Survival
-- ---------------------------------------------------------------------------

/-- The calls succeed whose failure the callback does not handle: those that its operation on
the database needs, the `fopen` of the savedata file and the `malloc` of a chunk, whose position
and length do not wrap. -/
def Survives (s : Process σ) (i : Event × Outcomes) : Prop :=
  match i.1 with
  | .friend friendNumber e =>
    Supplied D { s.session with db := D.begin i.2.answers.sql s.session.db }
        (e.operation? s.tox (s.friends.pkById i.2.fromPk friendNumber) i.2.answers) i.2.conn ∧
      (e.saves = true → i.2.save.fopen = true)
  | .friendRequest _ => i.2.save.fopen = true
  | .fileChunkRequest _ _ position length =>
    length = 0 ∨ (s.avatar.load i.2.io).size < (position + length).toNat ∨
      i.2.malloc = true ∧ position.toNat + length.toNat < 2 ^ 64
  | .timeout _ => True

/-- Between callbacks: no operation is running, and every pending timer has its buffer. -/
structure Steady (s : Process σ) : Prop where
  idle : Idle s.session
  chained : ∃ log, Welcome.Chained cfg.env.conf s.welcome log

theorem steady_init (db : σ) (friends : FriendList) (tox : Tox) (files : FileSystem) :
    Steady cfg (init cfg db friends tox files) where
  idle := Session.idle_init cfg.maxConn db
  chained := ⟨[], Welcome.chained_init cfg.env.conf⟩

/-- `update_savedata_file` needs its stream. -/
theorem updateSavedataFile_isSome_iff (files : FileSystem) (out : Outcomes) :
    (updateSavedataFile cfg files out).isSome ↔ out.save.fopen = true := by
  unfold updateSavedataFile Assisant.updateSavedataFile
  cases out.save.fopen <;> simp

/-- The files after a callback about a friend, and after each call of its update. -/
def savesOf (s : Process σ) (e : FriendEvent) (out : Outcomes) :
    Option (FileSystem × List FileSystem) :=
  if e.saves then updateSavedataFile cfg s.files out else some (s.files, [])

theorem savesOf_isSome_iff (s : Process σ) (e : FriendEvent) (out : Outcomes) :
    (savesOf cfg s e out).isSome ↔ (e.saves = true → out.save.fopen = true) := by
  unfold savesOf
  cases e.saves with
  | false => simp
  | true => simpa using updateSavedataFile_isSome_iff cfg s.files out

-- ---------------------------------------------------------------------------
-- What is passed on
-- ---------------------------------------------------------------------------

/-- The event of the bot. -/
def botInputs (s : Process σ) (i : Event × Outcomes) : List Input :=
  match i.1 with
  | .friend friendNumber e =>
    [(e.toEvent (s.friends.pkById i.2.fromPk friendNumber), i.2.answers)]
  | _ => []

/-- The event of the avatar. -/
def avatarEvents (_ : Process σ) (i : Event × Outcomes) : List Avatar.Event :=
  match i.1 with
  | .friend friendNumber (.connectionStatus status) =>
    [.connectionStatus friendNumber status i.2.io]
  | .fileChunkRequest friendNumber fileNumber position length =>
    [.fileChunkRequest friendNumber fileNumber position length i.2.io i.2.malloc]
  | _ => []

/-- The event of the welcome; the new friend is greeted under the number that toxcore has for
the key. -/
def welcomeEvents (s : Process σ) (i : Event × Outcomes) : List (Welcome.Event × Bool) :=
  match i.1 with
  | .friendRequest publicKey =>
    [(.friendRequest
      (((s.friends.addNorequest publicKey i.2.added).byPublicKey publicKey).getD uint32Max),
      i.2.sent)]
  | .timeout position => [(.timeout position, i.2.sent)]
  | _ => []

/-- The parts make their steps, and the callback shows what they put out. -/
structure PassesOn (s : Process σ) (i : Event × Outcomes) (s' : Process σ) (o : Output) :
    Prop where
  bot : ∃ ps, (Bot.machine D cfg.env).run (state s.session s.tox) (botInputs s i) =
    some (state s'.session s'.tox, ps) ∧ ps.flatMap (fun p => [p]) = o.bot.toList
  avatar : ∃ ps, Avatar.machine.run s.avatar (avatarEvents s i) = some (s'.avatar, ps) ∧
    ps.flatMap Option.toList = o.avatar.toList
  welcome : ∃ ps, (Welcome.machine cfg.env.conf).run s.welcome (welcomeEvents s i) =
    some (s'.welcome, ps) ∧ ps.flatMap id = o.welcome

variable {D cfg}

-- ---------------------------------------------------------------------------
-- One callback
-- ---------------------------------------------------------------------------

/-- A callback is defined under its guard, and then steady and passed on. -/
def Lives (D : Driver σ) (cfg : Config) (s : Process σ) (i : Event × Outcomes) : Prop :=
  (Survives D s i ∧ ∃ s' o, step D cfg s i = some (s', o) ∧ Steady cfg s' ∧
      PassesOn D cfg s i s' o) ∨
    (¬ Survives D s i ∧ step D cfg s i = none)

theorem updateAvatar_passesOn (s : Process σ) (friendNumber : Nat) (e : FriendEvent)
    (out : Outcomes) :
    ∃ ps, Avatar.machine.run s.avatar (avatarEvents s (.friend friendNumber e, out)) =
        some ((updateAvatar s.avatar friendNumber e out.io).1, ps) ∧
      ps.flatMap Option.toList =
        ((updateAvatar s.avatar friendNumber e out.io).2.map Avatar.Sent.offer).toList := by
  cases e with
  | connectionStatus status =>
    exact ⟨[(Assisant.updateBotAvatar s.avatar friendNumber status out.io).2.map .offer], rfl,
      List.append_nil _⟩
  | message msg => exact ⟨[], rfl, rfl⟩
  | name nick => exact ⟨[], rfl, rfl⟩
  | statusMessage text => exact ⟨[], rfl, rfl⟩

/-- A callback about a friend, from what its parts do. -/
theorem friendCb_eq {s : Process σ} {friendNumber : Nat} {e : FriendEvent} {out : Outcomes}
    {session : Session σ} {reply : Option Bytes} {files : FileSystem} {saves : List FileSystem}
    (hrun : handle D cfg.env { s.session with db := D.begin out.answers.sql s.session.db } s.tox
      (s.friends.pkById out.fromPk friendNumber) e out.answers out.conn = some (session, reply))
    (hsaves : savesOf cfg s e out = some (files, saves)) :
    step D cfg s (.friend friendNumber e, out) =
      some
        ({ s with
            session := session
            avatar := (updateAvatar s.avatar friendNumber e out.io).1
            files := files
            tox := s.tox.apply (e.toEvent (s.friends.pkById out.fromPk friendNumber)) },
          { bot := some { reply := reply, onlineMemberNum := session.memberMgr.onlineMemberNum }
            avatar := (updateAvatar s.avatar friendNumber e out.io).2.map .offer
            welcome := []
            saves := saves }) := by
  rw [savesOf] at hsaves
  simp only [step, friendCb, hrun, hsaves]

/-- The bot's step on the same event. -/
theorem bot_step_eq {s : Process σ} {event : FindFriendBot.Event} {answers : Answers}
    {session : Session σ} {reply : Option Bytes}
    (hplain : Bot.handle D cfg.env
      (state { s.session with db := D.begin answers.sql s.session.db } s.tox) event answers =
        some (state session s.tox, reply)) :
    (Bot.machine D cfg.env).step (state s.session s.tox) (event, answers) =
      some (state session (s.tox.apply event),
        { reply := reply, onlineMemberNum := session.memberMgr.onlineMemberNum }) := by
  have hhandle : Bot.handle D cfg.env
      { state s.session s.tox with db := D.begin answers.sql (state s.session s.tox).db } event
        answers = some (state session s.tox, reply) := hplain
  simp only [Bot.machine, Bot.step, hhandle]
  rfl

theorem friend_lives {s : Process σ} (h : Steady cfg s) (friendNumber : Nat) (e : FriendEvent)
    (out : Outcomes) : Lives D cfg s (.friend friendNumber e, out) := by
  have hidle : Idle { s.session with db := D.begin out.answers.sql s.session.db } :=
    ⟨h.idle.pool, h.idle.single, h.idle.members, h.idle.objects⟩
  unfold Lives
  have hdoes : Does D { s.session with db := D.begin out.answers.sql s.session.db } s.tox
      (e.operation? s.tox (s.friends.pkById out.fromPk friendNumber) out.answers) out.conn
      (handle D cfg.env _ s.tox (s.friends.pkById out.fromPk friendNumber) e out.answers
        out.conn) _ :=
    handle_does cfg.env hidle (s.friends.pkById out.fromPk friendNumber) e out.answers
  rcases hdoes with ⟨hyes, session, reply, hrun, hidle', hplain⟩ | ⟨hno, hrun⟩
  · cases hsaves : savesOf cfg s e out with
    | none =>
      refine Or.inr ⟨fun hall => ?_, ?_⟩
      · have hsome := (savesOf_isSome_iff cfg s e out).mpr hall.2
        exact absurd (hsaves ▸ hsome) (by simp)
      · rw [savesOf] at hsaves
        simp only [step, friendCb, hrun, hsaves]
    | some files =>
      have hopen := (savesOf_isSome_iff cfg s e out).mp (hsaves ▸ rfl)
      refine Or.inl ⟨⟨hyes, hopen⟩, _, _, friendCb_eq hrun hsaves, ⟨hidle', h.chained⟩, ?_, ?_,
        ⟨[], rfl, rfl⟩⟩
      · exact ⟨[_], StepMachine.run_cons_iff.mpr ⟨_, _, [], bot_step_eq hplain, rfl, rfl⟩, rfl⟩
      · exact updateAvatar_passesOn s friendNumber e out
  · exact Or.inr ⟨fun hall => hno hall.1, by simp only [step, friendCb, hrun]⟩

theorem friendRequest_lives {s : Process σ} (h : Steady cfg s) (publicKey : PublicKey)
    (out : Outcomes) : Lives D cfg s (.friendRequest publicKey, out) := by
  have hopen := updateSavedataFile_isSome_iff cfg s.files out
  unfold Lives
  cases hsaves : updateSavedataFile cfg s.files out with
  | none =>
    refine Or.inr ⟨fun hyes => ?_, by simp only [step, friendRequestCb, hsaves]⟩
    have hsome := hopen.mpr hyes
    exact absurd (hsaves ▸ hsome) (by simp)
  | some files =>
    obtain ⟨log, hlog⟩ := h.chained
    obtain ⟨w, o, hstep, hlog'⟩ := Welcome.chained_step hlog
      (.friendRequest (((s.friends.addNorequest publicKey out.added).byPublicKey
        publicKey).getD uint32Max), out.sent)
    have hcall : step D cfg s (.friendRequest publicKey, out) =
        some
          ({ s with
              friends := s.friends.addNorequest publicKey out.added
              files := files.1
              welcome := w },
            { bot := none, avatar := none, welcome := o, saves := files.2 }) := by
      obtain ⟨rfl, rfl⟩ := Prod.mk.inj (Option.some.inj hstep)
      simp only [step, friendRequestCb, hsaves]
      rfl
    refine Or.inl ⟨hopen.mp (hsaves ▸ rfl), _, _, hcall, ⟨h.idle, _, hlog'⟩, ⟨[], rfl, rfl⟩,
      ⟨[], rfl, rfl⟩, ?_⟩
    exact ⟨[o], StepMachine.run_cons_iff.mpr ⟨w, o, [], hstep, rfl, rfl⟩, List.append_nil _⟩

/-- A chunk request that returns. -/
theorem lives_of_chunk {s : Process σ} (h : Steady cfg s) {friendNumber fileNumber : Nat}
    {position length : UInt64} {out : Outcomes} {a : Avatar} {chunk : Option FileChunk}
    (hchunk : Assisant.fileChunkRequestCb s.avatar friendNumber fileNumber position length out.io
      out.malloc = some (a, chunk))
    (hinside : ∀ c ∈ chunk, c.position.toNat + c.length.toNat ≤ a.size)
    (hyes : Survives D s (.fileChunkRequest friendNumber fileNumber position length, out)) :
    Lives D cfg s (.fileChunkRequest friendNumber fileNumber position length, out) := by
  have hcall : step D cfg s (.fileChunkRequest friendNumber fileNumber position length, out) =
      some ({ s with avatar := a },
        { bot := none, avatar := chunk.map .chunk, welcome := [], saves := [] }) := by
    simp only [step, fileChunkRequestCb, hchunk, if_pos hinside]
  refine Or.inl ⟨hyes, _, _, hcall, ⟨h.idle, h.chained⟩, ⟨[], rfl, rfl⟩, ?_, ⟨[], rfl, rfl⟩⟩
  refine ⟨[_], StepMachine.run_cons_iff.mpr ⟨a, chunk.map .chunk, [], ?_, rfl, rfl⟩,
    List.append_nil _⟩
  simp only [Avatar.machine, Avatar.step, hchunk]

theorem fileChunkRequest_lives {s : Process σ} (h : Steady cfg s) (friendNumber fileNumber : Nat)
    (position length : UInt64) (out : Outcomes) :
    Lives D cfg s (.fileChunkRequest friendNumber fileNumber position length, out) := by
  have hnone : ∀ (a : Avatar), ∀ c ∈ (none : Option FileChunk),
      c.position.toNat + c.length.toNat ≤ a.size := fun _ c hc => absurd hc (by simp)
  -- the end of the transfer, or a request past the end: nothing is copied
  by_cases hlen : length = 0
  · refine lives_of_chunk h ?_ (hnone s.avatar) (Or.inl hlen)
    rw [Assisant.fileChunkRequestCb, if_pos hlen]
  by_cases hpast : (s.avatar.load out.io).size < (position + length).toNat
  · refine lives_of_chunk h ?_ (hnone (s.avatar.load out.io)) (Or.inr (Or.inl hpast))
    simp only [Assisant.fileChunkRequestCb, if_neg hlen, if_pos hpast]
  have hsurvives : Survives D s (.fileChunkRequest friendNumber fileNumber position length, out) ↔
      out.malloc = true ∧ position.toNat + length.toNat < 2 ^ 64 := by
    simp only [Survives, hlen, hpast, false_or]
  cases hmalloc : out.malloc with
  | false =>
    refine Or.inr ⟨?_, ?_⟩
    · rw [hsurvives, hmalloc]
      exact fun hall => Bool.false_ne_true hall.1
    · simp only [step, fileChunkRequestCb, Assisant.fileChunkRequestCb, if_neg hlen, if_neg hpast,
        hmalloc, if_true]
  | true =>
    obtain ⟨chunk, rfl, rfl, hchunk⟩ : ∃ chunk : FileChunk, chunk.position = position ∧
        chunk.length = length ∧ Assisant.fileChunkRequestCb s.avatar friendNumber fileNumber
          position length out.io out.malloc = some (s.avatar.load out.io, some chunk) :=
      ⟨_, rfl, rfl, Avatar.fileChunkRequestCb_some_iff.mpr
        ⟨hlen, Nat.le_of_not_lt hpast, hmalloc, rfl, rfl⟩⟩
    -- nothing wrapped: the guard bounds the chunk by the buffer
    have hsize := (s.avatar.load out.io).size_lt
    have hsum := Nat.le_of_not_lt hpast
    rw [UInt64.toNat_add] at hsum
    by_cases hwraps : chunk.position.toNat + chunk.length.toNat < 2 ^ 64
    · refine lives_of_chunk h hchunk ?_ (hsurvives.mpr ⟨hmalloc, hwraps⟩)
      intro c hc
      obtain rfl := Option.some.inj hc
      omega
    · refine Or.inr ⟨fun hall => hwraps (hsurvives.mp hall).2, ?_⟩
      -- the guard of the callback passes, and memcpy reads past the buffer
      have hpasses : ¬ ∀ c ∈ some chunk,
          c.position.toNat + c.length.toNat ≤ (s.avatar.load out.io).size := by
        intro hall
        have hle := hall chunk rfl
        omega
      simp only [step, fileChunkRequestCb, hchunk, if_neg hpasses]

theorem timeout_lives {s : Process σ} (h : Steady cfg s) (position : Nat) (out : Outcomes) :
    Lives D cfg s (.timeout position, out) := by
  obtain ⟨log, hlog⟩ := h.chained
  obtain ⟨w, o, hstep, hlog'⟩ := Welcome.chained_step hlog (.timeout position, out.sent)
  have hwelcome : Welcome.step cfg.env.conf s.welcome (.timeout position, out.sent) =
      some (w, o) := hstep
  have hcall : step D cfg s (.timeout position, out) =
      some ({ s with welcome := w },
        { bot := none, avatar := none, welcome := o, saves := [] }) := by
    simp only [step, timeoutCb, hwelcome]
  refine Or.inl ⟨trivial, _, _, hcall, ⟨h.idle, log ++ o, hlog'⟩, ⟨[], rfl, rfl⟩, ⟨[], rfl, rfl⟩,
    ?_⟩
  exact ⟨[o], StepMachine.run_cons_iff.mpr ⟨w, o, [], hstep, rfl, rfl⟩, List.append_nil _⟩

/-- **One callback.** -/
theorem step_lives {s : Process σ} (h : Steady cfg s) (i : Event × Outcomes) :
    Lives D cfg s i := by
  obtain ⟨e, out⟩ := i
  cases e with
  | friend friendNumber e => exact friend_lives h friendNumber e out
  | friendRequest publicKey => exact friendRequest_lives h publicKey out
  | fileChunkRequest friendNumber fileNumber position length =>
    exact fileChunkRequest_lives h friendNumber fileNumber position length out
  | timeout position => exact timeout_lives h position out

theorem step_isSome_iff {s : Process σ} (h : Steady cfg s) (i : Event × Outcomes) :
    ((machine D cfg).step s i).isSome ↔ Survives D s i := by
  rcases step_lives (D := D) h i with ⟨hyes, s', o, hstep, -⟩ | ⟨hno, hstep⟩
  · refine iff_of_true ?_ hyes
    rw [show (machine D cfg).step s i = some (s', o) from hstep]
    rfl
  · refine iff_of_false ?_ hno
    rw [show (machine D cfg).step s i = none from hstep]
    exact Bool.false_ne_true

/-- A callback that returned was passed on. -/
theorem passesOn_of_step {s s' : Process σ} (h : Steady cfg s) {i : Event × Outcomes} {o : Output}
    (hstep : (machine D cfg).step s i = some (s', o)) :
    Steady cfg s' ∧ PassesOn D cfg s i s' o := by
  rcases step_lives (D := D) h i with ⟨-, s₁, o₁, hstep₁, hsteady, hpass⟩ | ⟨-, hstep₁⟩
  · obtain ⟨rfl, rfl⟩ := Prod.mk.inj (Option.some.inj (hstep₁.symm.trans hstep))
    exact ⟨hsteady, hpass⟩
  · exact absurd (hstep₁.symm.trans hstep) (by simp)

-- ---------------------------------------------------------------------------
-- Runs
-- ---------------------------------------------------------------------------

variable (D cfg)

/-- **Survival.** For any callbacks in any order, with any outcome of every call but the
allocations that are taken to succeed: the run has defined behaviour exactly if in each callback
the calls succeed whose failure it does not handle. -/
theorem process_survives_iff (db : σ) (friends : FriendList) (tox : Tox) (files : FileSystem)
    (is : List (Event × Outcomes)) :
    ((machine D cfg).run (init cfg db friends tox files) is).isSome ↔
      (machine D cfg).Along (Survives D) (init cfg db friends tox files) is :=
  StepMachine.run_isSome_iff (Steady cfg) (fun _ i h => step_isSome_iff h i)
    (fun _ _ _ _ h hstep => (passesOn_of_step h hstep).1) is _
    (steady_init cfg db friends tox files)

/-- **Refinement.** In every run of a process the registry, the table and the replies are those
of the bot on the events about friends, each under the key that belongs to its number at the
time; and likewise the avatar with what was sent of it, and the welcome with its sends. -/
theorem process_refines (db : σ) (friends : FriendList) (tox : Tox) (files : FileSystem)
    {is : List (Event × Outcomes)} {t : Process σ} {os : List Output}
    (hrun : (machine D cfg).run (init cfg db friends tox files) is = some (t, os)) :
    (Bot.machine D cfg.env).run (Bot.init db tox)
        ((machine D cfg).passed botInputs (init cfg db friends tox files) is) =
          some (state t.session t.tox, os.flatMap fun o => o.bot.toList) ∧
      (∃ ps, Avatar.machine.run Avatar.init
        ((machine D cfg).passed avatarEvents (init cfg db friends tox files) is) =
          some (t.avatar, ps) ∧ ps.flatMap Option.toList = os.flatMap fun o => o.avatar.toList) ∧
      ∃ ps, (Welcome.machine cfg.env.conf).run Welcome.init
        ((machine D cfg).passed welcomeEvents (init cfg db friends tox files) is) =
          some (t.welcome, ps) ∧ ps.flatten = os.flatMap Output.welcome := by
  have hsteady := steady_init cfg db friends tox files
  -- the same events, seen by three machines that share no state
  refine ⟨?_, ?_, ?_⟩
  · obtain ⟨-, ps, hps, hseen⟩ := StepMachine.run_projects (N := Bot.machine D cfg.env)
      (Steady cfg) (fun s => state s.session s.tox) botInputs (fun p => [p])
      (fun o => o.bot.toList)
      (fun s i s' o h hstep => ⟨(passesOn_of_step h hstep).1, (passesOn_of_step h hstep).2.bot⟩)
      is _ t os hsteady hrun
    -- the bot's outputs are passed on one by one
    rw [List.flatMap_singleton'] at hseen
    exact hseen ▸ hps
  · exact (StepMachine.run_projects (N := Avatar.machine) (Steady cfg) Process.avatar avatarEvents
      Option.toList (fun o => o.avatar.toList)
      (fun s i s' o h hstep => ⟨(passesOn_of_step h hstep).1, (passesOn_of_step h hstep).2.avatar⟩)
      is _ t os hsteady hrun).2
  · obtain ⟨-, ps, hps, hseen⟩ := StepMachine.run_projects
      (N := Welcome.machine cfg.env.conf) (Steady cfg) Process.welcome welcomeEvents id
      Output.welcome
      (fun s i s' o h hstep =>
        ⟨(passesOn_of_step h hstep).1, (passesOn_of_step h hstep).2.welcome⟩)
      is _ t os hsteady hrun
    rw [List.flatMap_id] at hseen
    exact ⟨ps, hps, hseen⟩

/-- **Nothing is left behind.** After every run of a process no prepared statement and no
result object is alive, there is at most one connection and it is in the pool, whose lock is
free; the registry and its pool own what they point to; and every buffer of the welcome is
carried by exactly one pending timer, and every pending timer carries one. -/
theorem process_tidy (db : σ) (friends : FriendList) (tox : Tox) (files : FileSystem)
    {is : List (Event × Outcomes)} {t : Process σ} {os : List Output}
    (hrun : (machine D cfg).run (init cfg db friends tox files) is = some (t, os)) :
    (∀ a, ¬ t.session.objects.Live a) ∧ t.session.pool.Settled ∧
      t.session.pool.freeList.length ≤ 1 ∧ t.session.memberMgr.Owned ∧
      (∀ a, t.welcome.heap.Live a →
        (t.welcome.timers.map TimerEvent.userData).count (some a) = 1) ∧
      ∀ timer ∈ t.welcome.timers, ∃ a, timer.userData = some a ∧ t.welcome.heap.Live a := by
  have hsteady : Steady cfg t := StepMachine.run_keeps (Steady cfg)
    (fun _ _ _ _ h _ hstep => (passesOn_of_step h hstep).1)
    (StepMachine.along_of_forall (fun _ _ => trivial) _) (steady_init cfg db friends tox files)
    hrun
  obtain ⟨log, hlog⟩ := hsteady.chained
  refine ⟨hsteady.idle.objects, hsteady.idle.pool, hsteady.idle.single, hsteady.idle.members,
    fun a ha => ?_, fun timer htimer => ?_⟩
  · exact List.count_eq_one_of_mem hlog.nodup ((hlog.live_iff a).mp ha)
  · obtain ⟨-, a, ha⟩ := hlog.armed timer htimer
    exact ⟨a, ha, (hlog.live_iff a).mpr (ha ▸ List.mem_map_of_mem htimer)⟩

/-- The configuration of a small process. -/
def Config.sample : Config where
  env := Env.sample
  paths := { saveDataFile := bytes "group.tox", saveDataTmpFile := bytes "group.tox.tmp" }
  maxConn := 8

def sampleKey : PublicKey where
  bin := List.replicate 32 10
  length_eq := rfl

/-- Every call succeeds, but for the welcome, which is too early. -/
def Outcomes.sample : Outcomes where
  answers := Answers.plain
  conn := { isClosed := some false, connect := .ok, close := true }
  added := true
  savedata := bytes "saved"
  save := { fopen := true, fwrite := 5, fclose := none, rename := true }
  sent := false
  io := { content := [], fopen := false, ftell := 0, malloc := true, fread := 0 }
  malloc := true
  fromPk := sampleKey

/-- A process with no friends and no files. -/
def sample : Process MySql :=
  init Config.sample (MySql.holding Table.empty) FriendList.empty Tox.blank ∅

/-- A friend asks, is accepted, comes online and starts. -/
def sampleRequest : List (Event × Outcomes) :=
  [(.friendRequest sampleKey, Outcomes.sample),
    (.friend 0 (.connectionStatus .tcp), Outcomes.sample),
    (.friend 0 (.message ⟨bytes "/start T7", by decide⟩), Outcomes.sample)]

theorem process_refines_request :
    ∃ t os, (machine MySql.driver Config.sample).run sample sampleRequest = some (t, os) ∧
      (Bot.machine MySql.driver Config.sample.env).run
        (Bot.init (MySql.holding Table.empty) Tox.blank)
        ((machine MySql.driver Config.sample).passed botInputs sample sampleRequest) =
          some (state t.session t.tox, os.flatMap fun o => o.bot.toList) :=
  ⟨_, _, rfl, (process_refines MySql.driver Config.sample _ _ _ _ rfl).1⟩

theorem process_tidy_request :
    ∃ t os, (machine MySql.driver Config.sample).run sample sampleRequest = some (t, os) ∧
      (∀ a, ¬ t.session.objects.Live a) ∧ t.session.pool.Settled := by
  have hsome : ((machine MySql.driver Config.sample).run sample sampleRequest).isSome = true := rfl
  obtain ⟨⟨t, os⟩, hrun⟩ := Option.isSome_iff_exists.mp hsome
  have htidy := process_tidy MySql.driver Config.sample _ _ _ _ hrun
  exact ⟨t, os, hrun, htidy.1, htidy.2.1⟩

end Process

end FindFriendBot
