import FindFriendBot.Lib.StepMachine

/-!
# Pools with a bound

A pool keeps released objects for later use, up to a bound, and drops the rest.
Here a release compares the length with the bound before it pushes, and drops
only if the length is past the bound, so a full pool takes one more object.
The rules hold of any machine whose steps release an object or do not; `len` is
the length of its pool and `Drops` says that a released object was not pooled.

* `withinBound_iff_along` — a run keeps the bound exactly if it releases nothing
  to a full pool.
* `within_one_of_along`   — what holds of every run.
-/

namespace BoundedPool

/-- A step that releases nothing: the pool is not longer and nothing is dropped. -/
structure Unreleased (len len' : Nat) (drops : Prop) : Prop where
  length_le : len' ≤ len
  keeps : ¬ drops

/-- A step that releases an object: to a pool that is not past its bound, or to none. -/
def Released (max len len' : Nat) (drops : Prop) : Prop :=
  (len ≤ max ∧ len' = len + 1 ∧ ¬ drops) ∨ (max < len ∧ len' = len)

/-- What a step should do to a pool with a bound. -/
structure WithinBound (max len len' : Nat) (drops : Prop) : Prop where
  length_le : len' ≤ max
  full_of_drops : drops → max ≤ len

variable {max len len' : Nat} {drops : Prop}

theorem Released.full_of_drops (h : Released max len len' drops) (hdrops : drops) : max ≤ len := by
  rcases h with ⟨-, -, hkeeps⟩ | ⟨hfull, -⟩
  · exact absurd hdrops hkeeps
  · exact Nat.le_of_lt hfull

/-- A release keeps the bound exactly if there is room. -/
theorem Released.withinBound_iff (h : Released max len len' drops) (hlen : len ≤ max) :
    WithinBound max len len' drops ↔ len ≠ max := by
  constructor
  · intro hwithin
    have hle := hwithin.length_le
    rcases h with ⟨-, hpushed, -⟩ | ⟨hfull, -⟩ <;> omega
  · intro hne
    refine ⟨?_, h.full_of_drops⟩
    rcases h with ⟨-, hpushed, -⟩ | ⟨hfull, -⟩ <;> omega

section

variable {S E O : Type*} {M : StepMachine S E O} (max : Nat) (len : S → Nat)
  (Drops : S → E → S → Prop) (Inv : S → Prop) (A Releases : S → E → Prop)

/-- **Exact guard.** In a machine whose admissible steps release an object exactly if they are
among `Releases`, a run keeps the bound exactly if none releases one to a full pool. -/
theorem withinBound_iff_along
    (hstep : ∀ s e, Inv s → A s e → ∃ s' o, M.step s e = some (s', o) ∧ Inv s' ∧
      (Releases s e → Released max (len s) (len s') (Drops s e s')) ∧
      (¬ Releases s e → Unreleased (len s) (len s') (Drops s e s')))
    (es : List E) (s : S) (hs : Inv s) (hlen : len s ≤ max) (hA : M.Along A s es) :
    M.EachStep (fun s e s' _ => WithinBound max (len s) (len s') (Drops s e s')) s es ↔
      M.Along (fun s e => Releases s e → len s ≠ max) s es := by
  refine StepMachine.eachStep_iff_along_of (fun s => Inv s ∧ len s ≤ max) A ?_ ?_ es s
    ⟨hs, hlen⟩ hA
  · rintro s e ⟨hinv, hlen⟩ hAe
    obtain ⟨s', o, hse, -, hreleased, hunreleased⟩ := hstep s e hinv hAe
    -- the machine is deterministic
    have hunique : (∃ s₁ o₁, M.step s e = some (s₁, o₁) ∧
        WithinBound max (len s) (len s₁) (Drops s e s₁)) ↔
          WithinBound max (len s) (len s') (Drops s e s') := by
      constructor
      · rintro ⟨s₁, o₁, hse₁, hwithin⟩
        rw [hse, Option.some.injEq, Prod.mk.injEq] at hse₁
        exact hse₁.1 ▸ hwithin
      · exact fun hwithin => ⟨s', o, hse, hwithin⟩
    rw [hunique]
    by_cases hr : Releases s e
    · rw [(hreleased hr).withinBound_iff hlen]
      exact ⟨fun hne _ => hne, fun hne => hne hr⟩
    -- nothing released: the list cannot grow or drop
    · have h := hunreleased hr
      refine iff_of_true ⟨Nat.le_trans h.length_le hlen, fun hdrops => absurd hdrops h.keeps⟩ ?_
      exact fun hr' => absurd hr' hr
  · intro s e s' o hs hAe hse hwithin
    obtain ⟨s₁, o₁, hse₁, hinv, -⟩ := hstep s e hs.1 hAe
    rw [hse, Option.some.injEq, Prod.mk.injEq] at hse₁
    exact ⟨hse₁.1 ▸ hinv, hwithin.length_le⟩

/-- In any case the pool stays within one of its bound, and an object is dropped only if the
pool is full. -/
theorem within_one_of_along
    (hstep : ∀ s e, Inv s → A s e → ∃ s' o, M.step s e = some (s', o) ∧ Inv s' ∧
      (Releases s e → Released max (len s) (len s') (Drops s e s')) ∧
      (¬ Releases s e → Unreleased (len s) (len s') (Drops s e s')))
    (es : List E) (s : S) (hs : Inv s) (hlen : len s ≤ max + 1) (hA : M.Along A s es) :
    M.EachStep (fun s e s' _ => len s' ≤ max + 1 ∧ (Drops s e s' → max ≤ len s)) s es := by
  refine StepMachine.eachStep_of_along (fun s => Inv s ∧ len s ≤ max + 1) ?_ es s ⟨hs, hlen⟩ hA
  rintro s e ⟨hinv, hlen⟩ hAe
  obtain ⟨s', o, hse, hinv', hreleased, hunreleased⟩ := hstep s e hinv hAe
  have hstays : len s' ≤ max + 1 ∧ (Drops s e s' → max ≤ len s) := by
    by_cases hr : Releases s e
    · have h := hreleased hr
      refine ⟨?_, h.full_of_drops⟩
      rcases h with ⟨hroom, hpushed, -⟩ | ⟨-, hsame⟩ <;> omega
    · have h := hunreleased hr
      exact ⟨Nat.le_trans h.length_le hlen, fun hdrops => absurd hdrops h.keeps⟩
  exact ⟨s', o, hse, hstays, hinv', hstays.1⟩

end

end BoundedPool
