import Mathlib.Logic.Function.Basic

/-!
# A table of entries and the record of how they came in

Entries of a table have keys; a record remembers the last entry that came in
under each key.  Giving entries up, and taking one in under a key that no other
place of the table holds, keep every entry equal to the one on record.
-/

namespace Ledger

variable {Index Key Entry : Type*} {key : Entry → Key}
variable {record : Key → Option Entry} {table after : Index → Option Entry}

/-- Every entry is the last one that came in under its key, and no two places
hold the same key. -/
structure Faithful (key : Entry → Key) (record : Key → Option Entry)
    (table : Index → Option Entry) : Prop where
  recorded : ∀ index entry, table index = some entry →
    record (key entry) = some entry
  distinct : ∀ left right first second, table left = some first →
    table right = some second → key first = key second → left = right

theorem Faithful.empty (key : Entry → Key) (record : Key → Option Entry) :
    Faithful key record (fun _ : Index => none) where
  recorded := fun _ _ held => by cases held
  distinct := fun _ _ _ _ held => by cases held

/-- Entries were given up. -/
theorem Faithful.shrink (faithful : Faithful key record table)
    (kept : ∀ index entry, after index = some entry →
      table index = some entry) :
    Faithful key record after where
  recorded := fun index entry held =>
    faithful.recorded index entry (kept index entry held)
  distinct := fun left right first second heldLeft heldRight =>
    faithful.distinct left right first second (kept left first heldLeft)
      (kept right second heldRight)

variable [DecidableEq Index] [DecidableEq Key]

/-- An entry came in, at the place of its key or under a new key. -/
theorem Faithful.accept (faithful : Faithful key record table)
    {index : Index} {entry : Entry}
    (place : (∃ old, table index = some old ∧ key old = key entry) ∨
      ∀ other held, table other = some held → key held ≠ key entry) :
    Faithful key (Function.update record (key entry) (some entry))
      (Function.update table index (some entry)) := by
  have others : ∀ other held, other ≠ index → table other = some held →
      key held ≠ key entry := by
    intro other held different there same
    rcases place with ⟨old, here, sameKey⟩ | fresh
    · exact different (faithful.distinct other index held old there here
        (same.trans sameKey.symm))
    · exact fresh other held there same
  constructor
  · intro other held there
    by_cases here : other = index
    · rw [here, Function.update_self, Option.some.injEq] at there
      rw [← there, Function.update_self]
    · rw [Function.update_of_ne here] at there
      rw [Function.update_of_ne (others other held here there)]
      exact faithful.recorded other held there
  · intro left right first second heldLeft heldRight same
    by_cases leftHere : left = index
    · by_cases rightHere : right = index
      · rw [leftHere, rightHere]
      · rw [leftHere, Function.update_self, Option.some.injEq] at heldLeft
        rw [Function.update_of_ne rightHere] at heldRight
        subst heldLeft
        exact absurd same.symm (others right second rightHere heldRight)
    · rw [Function.update_of_ne leftHere] at heldLeft
      by_cases rightHere : right = index
      · rw [rightHere, Function.update_self, Option.some.injEq] at heldRight
        subst heldRight
        exact absurd same (others left first leftHere heldLeft)
      · rw [Function.update_of_ne rightHere] at heldRight
        exact faithful.distinct left right first second heldLeft heldRight same

end Ledger
