import FindFriendBot.Lib.StepMachine

/-!
# Noninterference

An observer of a step machine sees some of its events, and of the output of an
event that it sees only what `view` shows. The observer learns nothing about
the other events if the machine unwinds: there is a relation between states
that look alike to the observer, which hidden events keep on one side and
seen events keep on both, with the same view.

* `Unwinds.purge`    — a run shows what it shows without its hidden events.
* `Unwinds.observed` — runs with the same seen events show the same.
-/

namespace StepMachine

variable {S E O V : Type*}

/-- What the observer sees of a run. -/
def observed (sees : E → Bool) (view : E → O → V) (es : List E) (os : List O) : List V :=
  ((es.zip os).filter fun p => sees p.1).map fun p => view p.1 p.2

theorem observed_cons_of_seen {sees : E → Bool} {view : E → O → V} {e : E} (h : sees e = true)
    (o : O) (es : List E) (os : List O) :
    observed sees view (e :: es) (o :: os) = view e o :: observed sees view es os := by
  simp only [observed, List.zip_cons_cons, List.filter_cons, h, if_true, List.map_cons]

theorem observed_cons_of_hidden {sees : E → Bool} {view : E → O → V} {e : E}
    (h : sees e = false) (o : O) (es : List E) (os : List O) :
    observed sees view (e :: es) (o :: os) = observed sees view es os := by
  simp only [observed, List.zip_cons_cons, List.filter_cons, h, Bool.false_eq_true, if_false]

/-- The unwinding conditions: from states that look alike, a hidden event leads to one that
still does, and a seen event shows the same and leads to states that look alike. -/
structure Unwinds (M : StepMachine S E O) (sees : E → Bool) (view : E → O → V)
    (Alike : S → S → Prop) : Prop where
  hidden : ∀ s t e, Alike s t → sees e = false → ∃ s' o, M.step s e = some (s', o) ∧ Alike s' t
  seen : ∀ s t e, Alike s t → sees e = true → ∃ s' o t' o', M.step s e = some (s', o) ∧
    M.step t e = some (t', o') ∧ view e o = view e o' ∧ Alike s' t'

variable {M : StepMachine S E O} {sees : E → Bool} {view : E → O → V} {Alike : S → S → Prop}

/-- **Purging.** A run shows the observer what the run of its seen events shows. -/
theorem Unwinds.purge (h : M.Unwinds sees view Alike) :
    ∀ (es : List E) (s t : S), Alike s t → ∃ s' os t' os', M.run s es = some (s', os) ∧
      M.run t (es.filter sees) = some (t', os') ∧
      observed sees view es os = observed sees view (es.filter sees) os' ∧ Alike s' t' := by
  intro es
  induction es with
  | nil => exact fun s t hst => ⟨s, [], t, [], rfl, rfl, rfl, hst⟩
  | cons e es ih =>
    intro s t hst
    cases he : sees e with
    | false =>
      -- only the run with all events moves
      obtain ⟨s₁, o, hstep, hst₁⟩ := h.hidden s t e hst he
      obtain ⟨s', os, t', os', hrun, hrun', hobs, hst'⟩ := ih s₁ t hst₁
      refine ⟨s', o :: os, t', os', run_cons_iff.mpr ⟨s₁, o, os, hstep, hrun, rfl⟩, ?_, ?_, hst'⟩
      · rw [List.filter_cons, he]
        exact hrun'
      · rw [observed_cons_of_hidden he, hobs, List.filter_cons, he]
        rfl
    | true =>
      -- both runs move
      obtain ⟨s₁, o, t₁, o', hstep, hstep', hview, hst₁⟩ := h.seen s t e hst he
      obtain ⟨s', os, t', os', hrun, hrun', hobs, hst'⟩ := ih s₁ t₁ hst₁
      have hfilter : (e :: es).filter sees = e :: es.filter sees := by
        rw [List.filter_cons, he]
        rfl
      rw [hfilter]
      refine ⟨s', o :: os, t', o' :: os', run_cons_iff.mpr ⟨s₁, o, os, hstep, hrun, rfl⟩,
        run_cons_iff.mpr ⟨t₁, o', os', hstep', hrun', rfl⟩, ?_, hst'⟩
      rw [observed_cons_of_seen he, observed_cons_of_seen he, hview, hobs]

/-- **Noninterference.** From states that look alike to the third, runs with the same seen
events show the same, and end in states that look alike to one more. -/
theorem Unwinds.observed (h : M.Unwinds sees view Alike) {s t u : S} (hs : Alike s u)
    (ht : Alike t u) {es fs : List E} (hsame : es.filter sees = fs.filter sees) :
    ∃ s' os t' os' u', M.run s es = some (s', os) ∧ M.run t fs = some (t', os') ∧
      StepMachine.observed sees view es os = StepMachine.observed sees view fs os' ∧
      Alike s' u' ∧ Alike t' u' := by
  obtain ⟨s', os, u₁, us, hrun, hpurged, hobs, hs'⟩ := h.purge es s u hs
  obtain ⟨t', os', u₂, us', hrun', hpurged', hobs', ht'⟩ := h.purge fs t u ht
  rw [← hsame, hpurged, Option.some.injEq, Prod.mk.injEq] at hpurged'
  obtain ⟨rfl, rfl⟩ := hpurged'
  exact ⟨s', os, t', os', u₁, hrun, hrun', by rw [hobs, hobs', hsame], hs', ht'⟩

end StepMachine
