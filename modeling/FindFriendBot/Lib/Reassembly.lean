import Mathlib.Data.List.TakeDrop
import Mathlib.Tactic.Common

/-!
# Reassembly of a list from its slices

A receiver writes chunks at positions of a file, in the order in which they
arrive; a position behind the end leaves a gap. If every chunk is a slice of one
source, and the chunks cover it, the file becomes the source: the order, overlaps
and repetitions of the chunks do not matter, nor what the file held before.

* `getElem?_writeAt` — a write, position by position.
* `fits_writeAt`     — what agrees with the source after a write of a slice.
* `reassemble_eq`    — all writes.
-/

namespace Reassembly

variable {α : Type*}

/-- The elements from `position` to `position + length`. -/
def slice (source : List α) (position length : Nat) : List α :=
  (source.drop position).take length

/-- Write a chunk at a position; a gap is filled with `pad`. -/
def writeAt (pad : α) (file : List α) (position : Nat) (chunk : List α) : List α :=
  (file ++ List.replicate (position - file.length) pad).take position ++
    (chunk ++ file.drop (position + chunk.length))

/-- Write chunks in their order. -/
def reassemble (pad : α) : List α → List (Nat × List α) → List α
  | file, [] => file
  | file, (position, chunk) :: rest => reassemble pad (writeAt pad file position chunk) rest

/-- The chunk is what the source has at its position. -/
def IsSlice (source : List α) (c : Nat × List α) : Prop :=
  ∃ length, c.1 + length ≤ source.length ∧ c.2 = slice source c.1 length

/-- The chunks reach every position of the source. -/
def Cover (source : List α) (chunks : List (Nat × List α)) : Prop :=
  ∀ i < source.length, ∃ c ∈ chunks, c.1 ≤ i ∧ i < c.1 + c.2.length

/-- The file is no longer than the source and agrees with it where `written`. -/
structure Fits (source file : List α) (written : Nat → Prop) : Prop where
  length_le : file.length ≤ source.length
  agrees : ∀ i, written i → file[i]? = source[i]?

-- ---------------------------------------------------------------------------
-- One write
-- ---------------------------------------------------------------------------

theorem length_slice {source : List α} {position length : Nat}
    (h : position + length ≤ source.length) : (slice source position length).length = length := by
  rw [slice, List.length_take, List.length_drop]
  omega

theorem getElem?_slice {source : List α} {position length i : Nat} (hfrom : position ≤ i)
    (hto : i < position + length) : (slice source position length)[i - position]? = source[i]? := by
  have hlt : i - position < length := by omega
  rw [slice, List.getElem?_take_of_lt hlt, List.getElem?_drop, Nat.add_sub_cancel' hfrom]

theorem length_front (pad : α) (file : List α) (position : Nat) :
    ((file ++ List.replicate (position - file.length) pad).take position).length = position := by
  rw [List.length_take, List.length_append, List.length_replicate]
  omega

theorem length_writeAt (pad : α) (file : List α) (position : Nat) (chunk : List α) :
    (writeAt pad file position chunk).length = max file.length (position + chunk.length) := by
  rw [writeAt, List.length_append, length_front, List.length_append, List.length_drop]
  omega

/-- Inside the chunk. -/
theorem getElem?_writeAt (pad : α) (file : List α) {position i : Nat} {chunk : List α}
    (hfrom : position ≤ i) (hto : i < position + chunk.length) :
    (writeAt pad file position chunk)[i]? = chunk[i - position]? := by
  have hlt : i - position < chunk.length := by omega
  rw [writeAt, List.getElem?_append_right (by rw [length_front]; exact hfrom), length_front,
    List.getElem?_append_left hlt]

/-- Outside of the chunk, where the file has an element. -/
theorem getElem?_writeAt_of_not (pad : α) {file : List α} {position i : Nat} {chunk : List α}
    (hlt : i < file.length) (hout : i < position ∨ position + chunk.length ≤ i) :
    (writeAt pad file position chunk)[i]? = file[i]? := by
  rcases hout with hbefore | hbehind
  · rw [writeAt, List.getElem?_append_left (by rw [length_front]; exact hbefore),
      List.getElem?_take_of_lt hbefore, List.getElem?_append_left hlt]
  · have hchunk : chunk.length ≤ i - position := by omega
    have hindex : position + chunk.length + (i - position - chunk.length) = i := by omega
    rw [writeAt, List.getElem?_append_right (by rw [length_front]; omega), length_front,
      List.getElem?_append_right hchunk, List.getElem?_drop, hindex]

/-- **A write** of a slice adds its positions to those that agree. -/
theorem fits_writeAt (pad : α) {source file : List α} {written : Nat → Prop}
    (h : Fits source file written) {position length : Nat}
    (hin : position + length ≤ source.length) :
    Fits source (writeAt pad file position (slice source position length))
      (fun i => written i ∨ position ≤ i ∧ i < position + length) := by
  have hlen := length_slice hin
  constructor
  · rw [length_writeAt, hlen]
    exact Nat.max_le.mpr ⟨h.length_le, hin⟩
  -- inside the chunk the file has the source's bytes, outside what it had before
  · intro i hi
    by_cases hchunk : position ≤ i ∧ i < position + length
    · rw [getElem?_writeAt pad file hchunk.1 (by rw [hlen]; exact hchunk.2),
        getElem?_slice hchunk.1 hchunk.2]
    · have hold : file[i]? = source[i]? := h.agrees i (hi.resolve_right hchunk)
      by_cases hlt : i < file.length
      · rw [getElem?_writeAt_of_not pad hlt (by rw [hlen]; omega), hold]
      · -- behind the file, so behind the source and behind the chunk
        have hnone : source[i]? = none := by
          rw [← hold]
          exact List.getElem?_eq_none (Nat.le_of_not_lt hlt)
        have hbehind : source.length ≤ i := List.getElem?_eq_none_iff.mp hnone
        have hlength := length_writeAt pad file position (slice source position length)
        have hle := h.length_le
        rw [hnone]
        exact List.getElem?_eq_none (by rw [hlength, hlen]; omega)

-- ---------------------------------------------------------------------------
-- All writes
-- ---------------------------------------------------------------------------

theorem fits_reassemble (pad : α) {source : List α} :
    ∀ (chunks : List (Nat × List α)) {file : List α} {written : Nat → Prop},
      Fits source file written → (∀ c ∈ chunks, IsSlice source c) →
      Fits source (reassemble pad file chunks)
        (fun i => written i ∨ ∃ c ∈ chunks, c.1 ≤ i ∧ i < c.1 + c.2.length) := by
  intro chunks
  induction chunks with
  | nil =>
    -- nothing written yet but what the invariant names
    intro file written h _
    refine ⟨h.length_le, ?_⟩
    rintro i (hi | ⟨c, hc, -⟩)
    · exact h.agrees i hi
    · exact absurd hc List.not_mem_nil
  | cons c chunks ih =>
    intro file written h hslices
    obtain ⟨position, chunk⟩ := c
    obtain ⟨length, hin, hchunk⟩ := hslices _ (List.mem_cons_self ..)
    dsimp only at hin hchunk
    subst hchunk
    have hrest : ∀ c ∈ chunks, IsSlice source c := fun c hc => hslices c (List.mem_cons_of_mem _ hc)
    obtain ⟨hle, hagrees⟩ := ih (fits_writeAt pad h hin) hrest
    refine ⟨hle, ?_⟩
    rintro i (hi | ⟨c, hc, hcover⟩)
    · exact hagrees i (Or.inl (Or.inl hi))
    · rcases List.mem_cons.mp hc with rfl | hc
      · dsimp only at hcover
        rw [length_slice hin] at hcover
        exact hagrees i (Or.inl (Or.inr hcover))
      · exact hagrees i (Or.inr ⟨c, hc, hcover⟩)

/-- **Reassembly.** Slices that cover the source make it out of any file that is not
longer. -/
theorem reassemble_eq (pad : α) {source file : List α} {chunks : List (Nat × List α)}
    (hfile : file.length ≤ source.length) (hslices : ∀ c ∈ chunks, IsSlice source c)
    (hcover : Cover source chunks) : reassemble pad file chunks = source := by
  have hnothing : Fits source file fun _ => False := ⟨hfile, fun _ hi => hi.elim⟩
  obtain ⟨hle, hagrees⟩ := fits_reassemble pad chunks hnothing hslices
  apply List.ext_getElem?
  intro i
  by_cases hi : i < source.length
  · exact hagrees i (Or.inr (hcover i hi))
  · have hbehind : source.length ≤ i := Nat.le_of_not_lt hi
    rw [List.getElem?_eq_none hbehind, List.getElem?_eq_none (Nat.le_trans hle hbehind)]

end Reassembly
