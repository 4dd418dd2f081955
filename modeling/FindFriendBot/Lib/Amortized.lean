import Mathlib.Algebra.Ring.Nat
import FindFriendBot.Lib.StepMachine

/-!
# Amortized cost of a run

A potential pays for what a run costs: where every step, from a state that fits the
outputs so far, costs no more than its income and what it takes off the potential,
the run costs no more than its whole income and what it takes off the potential.
With no income the potential bounds the cost of any run.
-/

namespace StepMachine

variable {S E O : Type*} {M : StepMachine S E O}

/-- **Amortization rule.** -/
theorem run_amortized (Inv : S → List O → Prop) (P : S → E → Prop) (Φ : S → List O → Nat)
    (cost income : E → Nat)
    (hstep : ∀ s os e, Inv s os → P s e → ∃ s' o, M.step s e = some (s', o) ∧
      Inv s' (os ++ [o]) ∧ cost e + Φ s' (os ++ [o]) ≤ Φ s os + income e) :
    ∀ (es : List E) (s : S) (os : List O), Inv s os → M.Along P s es →
      ∃ t os', M.run s es = some (t, os') ∧ Inv t (os ++ os') ∧
        (es.map cost).sum + Φ t (os ++ os') ≤ Φ s os + (es.map income).sum := by
  intro es
  induction es with
  | nil =>
    intro s os hs _
    refine ⟨s, [], rfl, (List.append_nil os).symm ▸ hs, ?_⟩
    rw [List.append_nil, List.map_nil, List.map_nil, List.sum_nil]
    omega
  | cons e es ih =>
    intro s os hs hP
    -- pay for the first step, then for the rest
    obtain ⟨s', o, hse, hs', hpaid⟩ := hstep s os e hs hP.1
    obtain ⟨t, os', hrun, ht, hrest⟩ := ih s' (os ++ [o]) hs' (hP.2 s' o hse)
    rw [List.append_assoc, List.singleton_append] at ht hrest
    refine ⟨t, o :: os', run_cons_iff.mpr ⟨s', o, os', hse, hrun, rfl⟩, ht, ?_⟩
    rw [List.map_cons, List.map_cons, List.sum_cons, List.sum_cons]
    omega

end StepMachine
