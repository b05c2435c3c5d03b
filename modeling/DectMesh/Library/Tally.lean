import Mathlib.Data.Finset.Card
import Mathlib.Data.Fintype.Card
import Mathlib.Logic.Function.Basic

/-!
# Counting the entries of a table

The number of entries of a finite table that satisfy a test, and how it changes
when one entry is replaced.
-/

namespace Tally

variable {Index Entry : Type*} [Fintype Index]

/-- How many entries of a table are counted. -/
def tally (counts : Entry → Bool) (table : Index → Entry) : Nat :=
  (Finset.univ.filter fun index => counts (table index) = true).card

variable {counts : Entry → Bool} {table after : Index → Entry}

theorem tally_congr (same : ∀ index, counts (after index) = counts (table index)) :
    tally counts after = tally counts table := by
  unfold tally
  simp only [same]

theorem tally_le : tally counts table ≤ Fintype.card Index :=
  Finset.card_le_univ _

theorem tally_eq_zero :
    tally counts table = 0 ↔ ∀ index, counts (table index) = false := by
  unfold tally
  rw [Finset.card_eq_zero, Finset.filter_eq_empty_iff]
  constructor
  · intro none index
    exact Bool.eq_false_iff.mpr (none (Finset.mem_univ index))
  · intro none index _
    rw [none index]
    exact Bool.false_ne_true

theorem tally_pos {index : Index} (counted : counts (table index) = true) :
    0 < tally counts table := by
  apply Nat.pos_of_ne_zero
  intro zero
  rw [tally_eq_zero.mp zero index] at counted
  cases counted

variable [DecidableEq Index]

/-- Replacing an entry that was not counted. -/
theorem tally_update_of_not {index : Index} (entry : Entry)
    (before : counts (table index) = false) :
    tally counts (Function.update table index entry) =
      tally counts table + (counts entry).toNat := by
  have outside : index ∉
      Finset.univ.filter fun index => counts (table index) = true := by
    rw [Finset.mem_filter, before]
    exact fun member => Bool.false_ne_true member.2
  cases value : counts entry with
  | false =>
      refine tally_congr fun other => ?_
      by_cases same : other = index
      · rw [same, Function.update_self, value, before]
      · rw [Function.update_of_ne same]
  | true =>
      have cells : (Finset.univ.filter fun other =>
          counts (Function.update table index entry other) = true) =
            insert index
              (Finset.univ.filter fun other => counts (table other) = true) := by
        ext other
        rw [Finset.mem_insert, Finset.mem_filter, Finset.mem_filter]
        by_cases same : other = index
        · rw [same, Function.update_self, value]
          simp
        · rw [Function.update_of_ne same]
          simp [same]
      unfold tally
      rw [cells, Finset.card_insert_of_notMem outside]
      rfl

/-- Replacing one entry, whatever it was. -/
theorem tally_update (index : Index) (entry : Entry) :
    tally counts (Function.update table index entry) +
        (counts (table index)).toNat =
      tally counts table + (counts entry).toNat := by
  cases before : counts (table index) with
  | false => exact tally_update_of_not entry before
  | true =>
      cases value : counts entry with
      | true =>
          rw [tally_congr]
          intro other
          by_cases same : other = index
          · rw [same, Function.update_self, value, before]
          · rw [Function.update_of_ne same]
      | false =>
          have restored := @tally_update_of_not Index Entry _ counts
            (Function.update table index entry) _ index (table index)
            (by rw [Function.update_self, value])
          rw [Function.update_idem, Function.update_eq_self, before]
            at restored
          exact restored.symm

end Tally
