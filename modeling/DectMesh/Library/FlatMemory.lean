import DectMesh.Library.ByteStore

/-!
# What is known of a flat memory

A memory that is accessed in ranges, seen from outside: each cell holds the
byte that was last put there, or is unknown after an access that failed.
-/

namespace FlatMemory

open ByteStore

/-- What an access does to the cells. -/
inductive Access where
  | read
  | wrote (addr : Nat) (block : List UInt8)
  | spoiled (addr length : Nat)
  deriving DecidableEq

abbrev Known := Nat → Option UInt8

def Known.next (known : Known) : Access → Known
  | .read => known
  | .wrote addr block => fun cell =>
      if addr ≤ cell ∧ cell < addr + block.length then
        some (block.getD (cell - addr) 0)
      else
        known cell
  | .spoiled addr length => fun cell =>
      if addr ≤ cell ∧ cell < addr + length then none else known cell

/-- The byte last written to each cell. -/
def lastWritten (initial : Store) (history : List Access) : Known :=
  history.foldl Known.next fun cell => some (initial cell)

/-- The store holds what is known. -/
def Holds (store : Store) (known : Known) : Prop :=
  ∀ cell byte, known cell = some byte → store cell = byte

/-- The store after an access that does what it says. -/
def Obeys (before : Store) : Access → Store → Prop
  | .read, after => after = before
  | .wrote addr block, after => after = splice before addr block
  | .spoiled addr length, after =>
      ∀ cell, cell < addr ∨ addr + length ≤ cell → after cell = before cell

theorem Holds.next
    {before after : Store} {known : Known} {access : Access}
    (holds : Holds before known) (obeys : Obeys before access after) :
    Holds after (known.next access) := by
  intro cell byte last
  cases access with
  | read =>
      rw [show after = before from obeys]
      exact holds cell byte last
  | wrote addr block =>
      rw [show after = splice before addr block from obeys]
      simp only [Known.next] at last
      unfold splice
      split at last
      · next inside =>
        rw [if_pos inside]
        exact Option.some.inj last
      · next outside =>
        rw [if_neg outside]
        exact holds cell byte last
  | spoiled addr length =>
      simp only [Known.next] at last
      split at last
      · cases last
      · next outside =>
        have apart : cell < addr ∨ addr + length ≤ cell := by omega
        rw [show after cell = before cell from obeys cell apart]
        exact holds cell byte last

theorem holds_initial (initial : Store) : Holds initial (lastWritten initial []) :=
  fun _ _ last => Option.some.inj last

end FlatMemory
