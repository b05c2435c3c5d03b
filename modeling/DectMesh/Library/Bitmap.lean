import Mathlib.Data.Finset.Card
import Mathlib.Data.Fintype.Card
import Mathlib.Logic.Function.Basic

/-!
# Bitmaps and their counters

A bitmap that is filled one missing bit at a time, next to a counter of its
set bits.  A counter that reaches the number of admissible bits means that all
of them are set.
-/

namespace Bitmap

variable {size : Nat}

/-- The number of set bits. -/
def count (bits : Fin size → Bool) : Nat :=
  (Finset.univ.filter fun i => bits i = true).card

/-- Only bits below `limit` are set. -/
def Below (bits : Fin size → Bool) (limit : Nat) : Prop :=
  ∀ i, bits i = true → i.val < limit

@[simp]
theorem count_clear : count (fun _ : Fin size => false) = 0 := by
  simp [count]

theorem below_clear (limit : Nat) :
    Below (fun _ : Fin size => false) limit := by
  intro i set
  cases set

/-- Setting a missing bit adds one to the count. -/
theorem count_set
    {bits : Fin size → Bool} {bit : Fin size} (missing : bits bit = false) :
    count (Function.update bits bit true) = count bits + 1 := by
  have inserted :
      (Finset.univ.filter fun i => Function.update bits bit true i = true) =
        insert bit (Finset.univ.filter fun i => bits i = true) := by
    ext i
    by_cases same : i = bit
    · subst same
      simp
    · simp [same]
  have fresh : bit ∉ Finset.univ.filter fun i => bits i = true := by
    simp [missing]
  rw [count, inserted, Finset.card_insert_of_notMem fresh, count]

theorem Below.set
    {bits : Fin size → Bool} {limit : Nat} {bit : Fin size}
    (below : Below bits limit) (inside : bit.val < limit) :
    Below (Function.update bits bit true) limit := by
  intro i set
  by_cases same : i = bit
  · rw [same]
    exact inside
  · rw [Function.update_of_ne same] at set
    exact below i set

/-- There are no more set bits than admissible ones. -/
theorem Below.count_le
    {bits : Fin size → Bool} {limit : Nat} (below : Below bits limit) :
    count bits ≤ limit := by
  have mapped :
      (Finset.univ.filter fun i => bits i = true).card ≤
        (Finset.range limit).card := by
    apply Finset.card_le_card_of_injOn Fin.val
    · intro i member
      have set : bits i = true := by simpa using member
      simpa using below i set
    · exact Fin.val_injective.injOn
  simpa [count] using mapped

/-- A counter at its limit means that nothing is missing. -/
theorem Below.full
    {bits : Fin size → Bool} {limit : Nat} (below : Below bits limit)
    (counted : limit ≤ count bits) (i : Fin size) (inside : i.val < limit) :
    bits i = true := by
  by_contra unset
  have missing : bits i = false := by simpa using unset
  have more := (below.set inside).count_le
  rw [count_set missing] at more
  omega

/-- When every admissible bit is set, the counter has reached its limit. -/
theorem le_count
    {bits : Fin size → Bool} {limit : Nat} (fits : limit ≤ size)
    (full : ∀ i, i.val < limit → bits i = true) : limit ≤ count bits := by
  have mapped :
      (Finset.univ : Finset (Fin limit)).card ≤
        (Finset.univ.filter fun i => bits i = true).card := by
    apply Finset.card_le_card_of_injOn (Fin.castLE fits)
    · intro i _
      simpa using full (Fin.castLE fits i) i.isLt
    · exact (Fin.castLE_injective fits).injOn
  rw [Finset.card_univ, Fintype.card_fin] at mapped
  exact mapped

end Bitmap
