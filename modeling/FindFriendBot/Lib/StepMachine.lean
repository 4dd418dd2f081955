import Mathlib.Data.List.Basic

/-!
# Deterministic step machines

A step machine consumes one event at a time; a step yields the next state and
an output, or is undefined (`none`) where the program it models would have no
defined behaviour. The library gives runs over event lists and the rules that
lift a fact about one step to every run:

* `run_invariant`        — an invariant kept by every admissible step holds
  after every admissible run, and the run is defined.
* `run_history`          — the same for an invariant of the state and the outputs
  so far.
* `run_simulation_of`    — two machines whose steps agree up to a relation
  produce the same outputs on every run of admissible events.
* `run_eq_none`          — an event that is undefined everywhere, in a run.
* `throughout_iff_along` — when one step keeps a property exactly if a guard
  holds, a run keeps it throughout exactly if every step meets the guard.
* `eachStep_of_along`    — what every admissible step from an invariant state does,
  every step of an admissible run does.
* `eachStep_iff_along`   — the exact guard for what a step should do: an invariant
  that such steps keep is all the guard may assume.
* `withGhost`            — a machine that also keeps a record of its run.
-/

/-- A deterministic machine with outputs whose step may be undefined. -/
structure StepMachine (S E O : Type*) where
  step : S → E → Option (S × O)

namespace StepMachine

variable {S T E O G : Type*} (M : StepMachine S E O)

/-- The state after a list of events, with the outputs in order. -/
def run : S → List E → Option (S × List O)
  | s, [] => some (s, [])
  | s, e :: es =>
    match M.step s e with
    | none => none
    | some (s', o) =>
      match run s' es with
      | none => none
      | some (t, os) => some (t, o :: os)

/-- Every step of the run meets the guard `P` in the state it is taken from. -/
def Along (P : S → E → Prop) : S → List E → Prop
  | _, [] => True
  | s, e :: es => P s e ∧ ∀ s' o, M.step s e = some (s', o) → Along P s' es

/-- The run is defined and every state it visits satisfies `Q`. -/
def Throughout (Q : S → Prop) : S → List E → Prop
  | s, [] => Q s
  | s, e :: es => Q s ∧ ∃ s' o, M.step s e = some (s', o) ∧ Throughout Q s' es

/-- Every step of the run is defined and does `R`. -/
def EachStep (R : S → E → S → O → Prop) : S → List E → Prop
  | _, [] => True
  | s, e :: es => ∃ s' o, M.step s e = some (s', o) ∧ R s e s' o ∧ EachStep R s' es

/-- The machine with a ghost component, which `note` updates from each step and no
step looks at. -/
def withGhost (note : G → S → E → S → O → G) : StepMachine (S × G) E O where
  step := fun sg e =>
    (M.step sg.1 e).map fun p => ((p.1, note sg.2 sg.1 e p.1 p.2), p.2)

-- ---------------------------------------------------------------------------
-- Runs
-- ---------------------------------------------------------------------------

variable {M}

theorem run_cons_iff {s t : S} {e : E} {es : List E} {os : List O} :
    M.run s (e :: es) = some (t, os) ↔
      ∃ s' o os', M.step s e = some (s', o) ∧ M.run s' es = some (t, os') ∧ os = o :: os' := by
  rw [run]
  cases hs : M.step s e with
  | none => simp
  | some p =>
    obtain ⟨s₀, o₀⟩ := p
    constructor
    · intro h
      cases hr : M.run s₀ es with
      | none => simp [hr] at h
      | some q =>
        obtain ⟨t₀, os₀⟩ := q
        simp only [hr, Option.some.injEq, Prod.mk.injEq] at h
        exact ⟨s₀, o₀, os₀, rfl, by rw [hr, h.1], h.2.symm⟩
    · rintro ⟨s', o, os', h, hr, rfl⟩
      simp only [Option.some.injEq, Prod.mk.injEq] at h
      obtain ⟨rfl, rfl⟩ := h
      simp [hr]

/-- A run after a run. -/
theorem run_append {s t u : S} {es fs : List E} {os os' : List O}
    (hfirst : M.run s es = some (t, os)) (hsecond : M.run t fs = some (u, os')) :
    M.run s (es ++ fs) = some (u, os ++ os') := by
  induction es generalizing s os with
  | nil =>
    obtain ⟨rfl, rfl⟩ := Prod.mk.inj (Option.some.inj hfirst)
    exact hsecond
  | cons e es ih =>
    obtain ⟨s', o, os₁, hstep, hrun, rfl⟩ := run_cons_iff.mp hfirst
    exact run_cons_iff.mpr ⟨s', o, os₁ ++ os', hstep, ih hrun, rfl⟩

/-- An event that is undefined in every state makes every run undefined that it is part of. -/
theorem run_eq_none {e : E} (hnone : ∀ s, M.step s e = none) {es : List E} (he : e ∈ es) (s : S) :
    M.run s es = none := by
  induction es generalizing s with
  | nil => exact absurd he List.not_mem_nil
  | cons x es ih =>
    rw [run]
    rcases List.mem_cons.mp he with rfl | hrest
    · rw [hnone]
    · cases M.step s x with
      | none => rfl
      | some p => simp only [ih hrest]

/-- A guard on the event alone holds along every run made of such events. -/
theorem along_of_forall {A : E → Prop} {es : List E} (h : ∀ e ∈ es, A e) (s : S) :
    M.Along (fun _ e => A e) s es := by
  induction es generalizing s with
  | nil => trivial
  | cons e es ih =>
    have hes : ∀ x ∈ es, A x := fun x hx => h x (List.mem_cons_of_mem _ hx)
    exact ⟨h e (List.mem_cons_self ..), fun s' _ _ => ih hes s'⟩

-- ---------------------------------------------------------------------------
-- From one step to every run
-- ---------------------------------------------------------------------------

/-- **Invariant rule.** If every admissible step from an invariant state is
defined and keeps the invariant, so does every admissible run. -/
theorem run_invariant (Inv : S → Prop) (P : S → E → Prop)
    (hstep : ∀ s e, Inv s → P s e → ∃ s' o, M.step s e = some (s', o) ∧ Inv s') :
    ∀ (es : List E) (s : S), Inv s → M.Along P s es →
      ∃ t os, M.run s es = some (t, os) ∧ Inv t := by
  intro es
  induction es with
  | nil => exact fun s hs _ => ⟨s, [], rfl, hs⟩
  | cons e es ih =>
    intro s hs hP
    obtain ⟨s', o, hse, hs'⟩ := hstep s e hs hP.1
    obtain ⟨t, os, hrun, ht⟩ := ih s' hs' (hP.2 s' o hse)
    exact ⟨t, o :: os, run_cons_iff.mpr ⟨s', o, os, hse, hrun, rfl⟩, ht⟩

/-- **History rule.** If every step from a state that fits the outputs so far is
defined and leads to one that fits them and its own, so does every run. -/
theorem run_history (Inv : S → List O → Prop)
    (hstep : ∀ s os e, Inv s os → ∃ s' o, M.step s e = some (s', o) ∧ Inv s' (os ++ [o])) :
    ∀ (es : List E) (s : S) (os : List O), Inv s os →
      ∃ t os', M.run s es = some (t, os') ∧ Inv t (os ++ os') := by
  intro es
  induction es with
  | nil => exact fun s os hs => ⟨s, [], rfl, (List.append_nil os).symm ▸ hs⟩
  | cons e es ih =>
    intro s os hs
    obtain ⟨s', o, hse, hs'⟩ := hstep s os e hs
    obtain ⟨t, os', hrun, ht⟩ := ih s' (os ++ [o]) hs'
    rw [List.append_assoc] at ht
    exact ⟨t, o :: os', run_cons_iff.mpr ⟨s', o, os', hse, hrun, rfl⟩, ht⟩

/-- **Simulation rule** for admissible events. Related states step to related states with the
same output; then related states run to related states with the same outputs. -/
theorem run_simulation_of {N : StepMachine T E O} {R : S → T → Prop} (A : E → Prop)
    (hstep : ∀ s t e, R s t → A e →
      ∃ s' t' o, M.step s e = some (s', o) ∧ N.step t e = some (t', o) ∧ R s' t') :
    ∀ (es : List E) (s : S) (t : T), R s t → (∀ e ∈ es, A e) →
      ∃ s' t' os, M.run s es = some (s', os) ∧ N.run t es = some (t', os) ∧ R s' t' := by
  intro es
  induction es with
  | nil => exact fun s t h _ => ⟨s, t, [], rfl, rfl, h⟩
  | cons e es ih =>
    intro s t h hA
    obtain ⟨s₁, t₁, o, hs, ht, h₁⟩ := hstep s t e h (hA e (List.mem_cons_self ..))
    obtain ⟨s', t', os, hs', ht', h'⟩ :=
      ih s₁ t₁ h₁ fun x hx => hA x (List.mem_cons_of_mem _ hx)
    exact ⟨s', t', o :: os, run_cons_iff.mpr ⟨s₁, o, os, hs, hs', rfl⟩,
      run_cons_iff.mpr ⟨t₁, o, os, ht, ht', rfl⟩, h'⟩

/-- **Simulation rule**, where every event is admissible. -/
theorem run_simulation {N : StepMachine T E O} {R : S → T → Prop}
    (hstep : ∀ s t e, R s t →
      ∃ s' t' o, M.step s e = some (s', o) ∧ N.step t e = some (t', o) ∧ R s' t')
    (es : List E) (s : S) (t : T) (h : R s t) :
    ∃ s' t' os, M.run s es = some (s', os) ∧ N.run t es = some (t', os) ∧ R s' t' :=
  run_simulation_of (fun _ => True) (fun s t e h _ => hstep s t e h) es s t h fun _ _ => trivial

/-- **Exact-guard rule.** Where a step from a `Q`-state leads to a `Q`-state
exactly when the guard `P` holds, a run stays in `Q` exactly when all its
steps meet `P`. `Inv` is what the step rule may assume of the state and `A`
what it may assume of the event. -/
theorem throughout_iff_along (Inv : S → Prop) (A : E → Prop) {Q : S → Prop} {P : S → E → Prop}
    (hInv : ∀ s e, Inv s → A e → ∃ s' o, M.step s e = some (s', o) ∧ Inv s')
    (hQ : ∀ s e s' o, Inv s → Q s → A e → M.step s e = some (s', o) → (Q s' ↔ P s e)) :
    ∀ (es : List E) (s : S), Inv s → Q s → (∀ e ∈ es, A e) →
      (M.Throughout Q s es ↔ M.Along P s es) := by
  intro es
  induction es with
  | nil => exact fun s _ hq _ => ⟨fun _ => trivial, fun _ => hq⟩
  | cons e es ih =>
    intro s hs hq hA
    have hAe : A e := hA e (List.mem_cons_self ..)
    have hAes : ∀ x ∈ es, A x := fun x hx => hA x (List.mem_cons_of_mem _ hx)
    -- the event is admissible, so the machine moves
    obtain ⟨s', o, hse, hs'⟩ := hInv s e hs hAe
    constructor
    · rintro ⟨-, s₁, o₁, hse₁, hrest⟩
      rw [hse, Option.some.injEq, Prod.mk.injEq] at hse₁
      obtain ⟨rfl, rfl⟩ := hse₁
      -- the property holds at the head of the rest, empty or not
      have hq' : Q s' := by
        cases es with
        | nil => exact hrest
        | cons _ _ => exact hrest.1
      refine ⟨(hQ s e s' o hs hq hAe hse).mp hq', ?_⟩
      intro s₂ o₂ hse₂
      rw [hse, Option.some.injEq, Prod.mk.injEq] at hse₂
      exact hse₂.1 ▸ (ih s' hs' hq' hAes).mp hrest
    · rintro ⟨hP, hrest⟩
      have hq' : Q s' := (hQ s e s' o hs hq hAe hse).mpr hP
      exact ⟨hq, s', o, hse, (ih s' hs' hq' hAes).mpr (hrest s' o hse)⟩

/-- **Step rule.** If every admissible step from an invariant state is defined, does `R` and
keeps the invariant, every step of an admissible run does `R`. -/
theorem eachStep_of_along (Inv : S → Prop) {R : S → E → S → O → Prop} {P : S → E → Prop}
    (hstep : ∀ s e, Inv s → P s e → ∃ s' o, M.step s e = some (s', o) ∧ R s e s' o ∧ Inv s') :
    ∀ (es : List E) (s : S), Inv s → M.Along P s es → M.EachStep R s es := by
  intro es
  induction es with
  | nil => exact fun _ _ _ => trivial
  | cons e es ih =>
    intro s hs hP
    obtain ⟨s', o, hse, hR, hs'⟩ := hstep s e hs hP.1
    exact ⟨s', o, hse, hR, ih s' hs' (hP.2 s' o hse)⟩

/-- **Exact-guard rule** for steps. `Inv` and the admissibility `A` are what the step rule may
assume. -/
theorem eachStep_iff_along_of (Inv : S → Prop) (A : S → E → Prop) {R : S → E → S → O → Prop}
    {P : S → E → Prop}
    (hstep : ∀ s e, Inv s → A s e →
      ((∃ s' o, M.step s e = some (s', o) ∧ R s e s' o) ↔ P s e))
    (hInv : ∀ s e s' o, Inv s → A s e → M.step s e = some (s', o) → R s e s' o → Inv s') :
    ∀ (es : List E) (s : S), Inv s → M.Along A s es →
      (M.EachStep R s es ↔ M.Along P s es) := by
  intro es
  induction es with
  | nil => exact fun s _ _ => Iff.rfl
  | cons e es ih =>
    intro s hs hA
    constructor
    · rintro ⟨s', o, hse, hR, hrest⟩
      refine ⟨(hstep s e hs hA.1).mp ⟨s', o, hse, hR⟩, ?_⟩
      intro s₁ o₁ hse₁
      rw [hse, Option.some.injEq, Prod.mk.injEq] at hse₁
      have hs' : Inv s' := hInv s e s' o hs hA.1 hse hR
      exact hse₁.1 ▸ (ih s' hs' (hA.2 s' o hse)).mp hrest
    · rintro ⟨hP, hrest⟩
      obtain ⟨s', o, hse, hR⟩ := (hstep s e hs hA.1).mpr hP
      have hs' : Inv s' := hInv s e s' o hs hA.1 hse hR
      exact ⟨s', o, hse, hR, (ih s' hs' (hA.2 s' o hse)).mpr (hrest s' o hse)⟩

/-- **Exact-guard rule** for steps, where every event is admissible. -/
theorem eachStep_iff_along (Inv : S → Prop) {R : S → E → S → O → Prop} {P : S → E → Prop}
    (hstep : ∀ s e, Inv s →
      ((∃ s' o, M.step s e = some (s', o) ∧ R s e s' o) ↔ P s e))
    (hInv : ∀ s e s' o, Inv s → M.step s e = some (s', o) → R s e s' o → Inv s')
    (es : List E) (s : S) (hs : Inv s) : M.EachStep R s es ↔ M.Along P s es := by
  refine eachStep_iff_along_of Inv (fun _ _ => True) ?_ ?_ es s hs ?_
  · exact fun s e hs _ => hstep s e hs
  · exact fun s e s' o hs _ => hInv s e s' o hs
  · exact along_of_forall (fun _ _ => trivial) s

-- ---------------------------------------------------------------------------
-- Ghosts
-- ---------------------------------------------------------------------------

theorem withGhost_step_iff {note : G → S → E → S → O → G} {s s' : S} {g g' : G} {e : E} {o : O} :
    (M.withGhost note).step (s, g) e = some ((s', g'), o) ↔
      M.step s e = some (s', o) ∧ g' = note g s e s' o := by
  simp only [withGhost, Option.map_eq_some_iff, Prod.mk.injEq]
  constructor
  · rintro ⟨⟨s₁, o₁⟩, hstep, ⟨rfl, rfl⟩, rfl⟩
    exact ⟨hstep, rfl⟩
  · rintro ⟨hstep, rfl⟩
    exact ⟨(s', o), hstep, ⟨rfl, rfl⟩, rfl⟩

/-- A guard on the machine's own state does not notice the ghost. -/
theorem along_withGhost_iff (note : G → S → E → S → O → G) (P : S → E → Prop) (es : List E)
    (s : S) (g : G) :
    (M.withGhost note).Along (fun sg e => P sg.1 e) (s, g) es ↔ M.Along P s es := by
  induction es generalizing s g with
  | nil => exact Iff.rfl
  | cons e es ih =>
    refine and_congr_right fun _ => ⟨fun h s' o hstep => ?_, fun h sg' o hstep => ?_⟩
    · have hghost : (M.withGhost note).step (s, g) e = some ((s', note g s e s' o), o) :=
        withGhost_step_iff.mpr ⟨hstep, rfl⟩
      exact (ih s' _).mp (h _ o hghost)
    · obtain ⟨s', g'⟩ := sg'
      exact (ih s' g').mpr (h s' o (withGhost_step_iff.mp hstep).1)

end StepMachine
