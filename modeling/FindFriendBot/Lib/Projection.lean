import FindFriendBot.Lib.StepMachine

/-!
# Components of a machine

A machine is often put together from others: a step passes some events on to a
component, which makes them its steps, and shows what the component put out. Then a
run of the whole is a run of each component on the events that were passed on to it.

* `run_projects`   — from one step to every run.
* `run_isSome_iff` — when a run is defined, for a guard that is exact for one step.
* `run_keeps`      — what every admissible step keeps, an admissible run keeps.
-/

namespace StepMachine

variable {S E O T F P X : Type*} (M : StepMachine S E O)

/-- The events that the steps of a run pass on. -/
def passed (f : S → E → List F) : S → List E → List F
  | _, [] => []
  | s, e :: es =>
    match M.step s e with
    | none => []
    | some (s', _) => f s e ++ passed f s' es

variable {M} {N : StepMachine T F P}

/-- **Projection rule.** `view` is the component's state, `seen` what is looked at of its outputs
and `shown` what the whole machine shows of them. -/
theorem run_projects (Inv : S → Prop) (view : S → T) (f : S → E → List F) (seen : P → List X)
    (shown : O → List X)
    (hstep : ∀ s e s' o, Inv s → M.step s e = some (s', o) → Inv s' ∧
      ∃ ps, N.run (view s) (f s e) = some (view s', ps) ∧ ps.flatMap seen = shown o) :
    ∀ (es : List E) (s t : S) (os : List O), Inv s → M.run s es = some (t, os) → Inv t ∧
      ∃ ps, N.run (view s) (M.passed f s es) = some (view t, ps) ∧
        ps.flatMap seen = os.flatMap shown := by
  intro es
  induction es with
  | nil =>
    intro s t os hs hrun
    obtain ⟨rfl, rfl⟩ := Prod.mk.inj (Option.some.inj hrun)
    exact ⟨hs, [], rfl, rfl⟩
  | cons e es ih =>
    -- one step of M is a run of N
    intro s t os hs hrun
    obtain ⟨s', o, os', hse, hrest, rfl⟩ := run_cons_iff.mp hrun
    obtain ⟨hs', ps, hps, hseen⟩ := hstep s e s' o hs hse
    obtain ⟨ht, ps', hps', hseen'⟩ := ih s' t os' hs' hrest
    refine ⟨ht, ps ++ ps', ?_, ?_⟩
    · rw [passed, hse]
      exact run_append hps hps'
    · rw [List.flatMap_append, hseen, hseen', List.flatMap_cons]

/-- **Definedness.** Where a step is defined exactly under the guard, so is a run. -/
theorem run_isSome_iff (Inv : S → Prop) {G : S → E → Prop}
    (hstep : ∀ s e, Inv s → ((M.step s e).isSome ↔ G s e))
    (hInv : ∀ s e s' o, Inv s → M.step s e = some (s', o) → Inv s') :
    ∀ (es : List E) (s : S), Inv s → ((M.run s es).isSome ↔ M.Along G s es) := by
  intro es
  induction es with
  | nil => exact fun s _ => iff_of_true rfl trivial
  | cons e es ih =>
    intro s hs
    rw [Option.isSome_iff_exists, Along, ← hstep s e hs]
    constructor
    · rintro ⟨⟨t, os⟩, hrun⟩
      obtain ⟨s', o, os', hse, hrest, -⟩ := run_cons_iff.mp hrun
      refine ⟨hse ▸ rfl, fun s₁ o₁ hse₁ => ?_⟩
      obtain ⟨rfl, -⟩ := Prod.mk.inj (Option.some.inj (hse.symm.trans hse₁))
      exact (ih s' (hInv s e s' o hs hse)).mp (hrest ▸ rfl)
    · rintro ⟨hsome, hrest⟩
      obtain ⟨⟨s', o⟩, hse⟩ := Option.isSome_iff_exists.mp hsome
      have hdef := (ih s' (hInv s e s' o hs hse)).mpr (hrest s' o hse)
      obtain ⟨⟨t, os⟩, hrun⟩ := Option.isSome_iff_exists.mp hdef
      exact ⟨_, run_cons_iff.mpr ⟨s', o, os, hse, hrun, rfl⟩⟩

/-- **Preservation.** What an admissible step keeps, an admissible run keeps. -/
theorem run_keeps (Inv : S → Prop) {P : S → E → Prop}
    (hstep : ∀ s e s' o, Inv s → P s e → M.step s e = some (s', o) → Inv s') {es : List E}
    {s t : S} {os : List O} (hP : M.Along P s es) (hs : Inv s)
    (hrun : M.run s es = some (t, os)) : Inv t := by
  induction es generalizing s os with
  | nil =>
    obtain ⟨rfl, -⟩ := Prod.mk.inj (Option.some.inj hrun)
    exact hs
  | cons e es ih =>
    obtain ⟨s', o, os', hse, hrest, -⟩ := run_cons_iff.mp hrun
    exact ih (hP.2 s' o hse) (hstep s e s' o hs hP.1 hse) hrest

/-- The guard of a run after a run. -/
theorem along_append {P : S → E → Prop} {es fs : List E} {s t : S} {os : List O}
    (h : M.Along P s (es ++ fs)) (hrun : M.run s es = some (t, os)) :
    M.Along P s es ∧ M.Along P t fs := by
  induction es generalizing s os with
  | nil =>
    obtain ⟨rfl, -⟩ := Prod.mk.inj (Option.some.inj hrun)
    exact ⟨trivial, h⟩
  | cons e es ih =>
    obtain ⟨s', o, os', hse, hrest, -⟩ := run_cons_iff.mp hrun
    obtain ⟨-, ht⟩ := ih (h.2 s' o hse) hrest
    refine ⟨⟨h.1, fun s₁ o₁ hse₁ => ?_⟩, ht⟩
    obtain ⟨rfl, -⟩ := Prod.mk.inj (Option.some.inj (hse.symm.trans hse₁))
    exact (ih (h.2 s' o hse) hrest).1

end StepMachine
