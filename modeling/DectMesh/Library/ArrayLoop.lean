import Mathlib.Data.List.Basic
import Mathlib.Tactic.Common

/-!
# Loops over arrays

A loop is given by one round of it, which goes on with a state or leaves with
a result.  A run fails when its rounds are used up and when it reaches for a
cell that its array does not have, so a run that ends has done neither.
-/

namespace ArrayLoop

/-- Why a run has no result. -/
inductive Failure where
  | fuel
  | bounds
  deriving DecidableEq, Repr

section Run

variable {State Result : Type*}
variable {round : State → Except Failure (State ⊕ Result)}

/-- At most `fuel` rounds. -/
def run (round : State → Except Failure (State ⊕ Result)) :
    Nat → State → Except Failure Result
  | 0, _ => .error .fuel
  | fuel + 1, state =>
      match round state with
      | .error failure => .error failure
      | .ok (.inl next) => run round fuel next
      | .ok (.inr result) => .ok result

theorem run_next
    {fuel : Nat} {state next : State} (goes : round state = .ok (.inl next)) :
    run round (fuel + 1) state = run round fuel next := by
  rw [run, goes]

theorem run_done
    {fuel : Nat} {state : State} {result : Result}
    (leaves : round state = .ok (.inr result)) :
    run round (fuel + 1) state = .ok result := by
  rw [run, leaves]

theorem run_failed
    {fuel : Nat} {state : State} {failure : Failure}
    (fails : round state = .error failure) :
    run round (fuel + 1) state = .error failure := by
  rw [run, fails]

/-- More rounds, and rounds that go on for longer, end with the same
result. -/
theorem run_mono
    {longer : State → Except Failure (State ⊕ Result)}
    (extends' : ∀ state outcome,
      round state = .ok outcome → longer state = .ok outcome)
    {fuel more : Nat} {state : State} {result : Result}
    (ends : run round fuel state = .ok result) (enough : fuel ≤ more) :
    run longer more state = .ok result := by
  induction fuel generalizing more state with
  | zero => cases ends
  | succ fuel ih =>
      obtain ⟨more, rfl⟩ := Nat.exists_eq_add_of_le' enough
      rw [show more + (fuel + 1) = more + fuel + 1 by omega]
      cases outcome : round state with
      | error failure =>
          rw [run_failed outcome] at ends
          cases ends
      | ok outcome' =>
          have same := extends' state outcome' outcome
          cases outcome' with
          | inl next =>
              rw [run_next outcome] at ends
              rw [run_next same]
              exact ih ends (by omega)
          | inr last =>
              rw [run_done outcome] at ends
              rw [run_done same, ends]

/-- The rule of total correctness: every round keeps the invariant and brings
the measure down, or leaves with what is wanted. -/
theorem run_total
    {inv : State → Prop} {measure : State → Nat} {post : Result → Prop}
    (each : ∀ state, inv state →
      (∃ next, round state = .ok (.inl next) ∧ inv next ∧
        measure next < measure state) ∨
      ∃ result, round state = .ok (.inr result) ∧ post result)
    {fuel : Nat} {state : State} (holds : inv state)
    (enough : measure state < fuel) :
    ∃ result, run round fuel state = .ok result ∧ post result := by
  induction fuel generalizing state with
  | zero => omega
  | succ fuel ih =>
      rcases each state holds with ⟨next, goes, kept, less⟩ | ⟨result, leaves, good⟩
      · rw [run_next goes]
        exact ih kept (by omega)
      · exact ⟨result, run_done leaves, good⟩

end Run

section Cells

variable {Cell : Type}

def fetch (cells : List Cell) (index : Nat) : Except Failure Cell :=
  match cells[index]? with
  | some cell => .ok cell
  | none => .error .bounds

def put (cells : List Cell) (index : Nat) (cell : Cell) :
    Except Failure (List Cell) :=
  if index < cells.length then
    .ok (cells.set index cell)
  else
    .error .bounds

def scanRound (passes : Cell → Bool) (cells : List Cell) (index : Nat) :
    Except Failure (Nat ⊕ Nat) :=
  match fetch cells index with
  | .error failure => .error failure
  | .ok cell => .ok (if passes cell then .inl (index + 1) else .inr index)

/-- The index of the first cell from `start` on that does not pass. -/
def scan (passes : Cell → Bool) (fuel : Nat) (cells : List Cell)
    (start : Nat) : Except Failure Nat :=
  run (scanRound passes cells) fuel start

theorem scan_mono
    {passes : Cell → Bool} {fuel more : Nat} {cells : List Cell}
    {start stop : Nat} (ends : scan passes fuel cells start = .ok stop)
    (enough : fuel ≤ more) : scan passes more cells start = .ok stop :=
  run_mono (fun _ _ same => same) ends enough

theorem fetch_inside {cells : List Cell} {index : Nat}
    (inside : index < cells.length) : ∃ cell, fetch cells index = .ok cell := by
  rw [fetch, List.getElem?_eq_getElem inside]
  exact ⟨_, rfl⟩

theorem fetch_outside {cells : List Cell} {index : Nat}
    (outside : cells.length ≤ index) : fetch cells index = .error .bounds := by
  rw [fetch, List.getElem?_eq_none outside]

theorem fetch_append {before after : List Cell} {cell : Cell} :
    fetch (before ++ cell :: after) before.length = .ok cell := by
  simp [fetch]

theorem put_append {before after : List Cell} {cell new : Cell} :
    put (before ++ cell :: after) before.length new =
      .ok (before ++ new :: after) := by
  simp [put]

/-- A scan over cells that pass ends at the one that does not. -/
theorem scan_append
    {passes : Cell → Bool} {before middle after : List Cell} {stop : Cell}
    (pass : ∀ cell ∈ middle, passes cell = true) (stops : passes stop = false)
    {fuel : Nat} (enough : middle.length < fuel) :
    scan passes fuel (before ++ (middle ++ stop :: after)) before.length =
      .ok (before.length + middle.length) := by
  obtain ⟨fuel, rfl⟩ := Nat.exists_eq_add_one_of_ne_zero
    (Nat.ne_zero_of_lt enough)
  induction middle generalizing before fuel with
  | nil =>
      apply run_done
      rw [scanRound, List.nil_append, fetch_append]
      simp [stops]
  | cons cell middle ih =>
      have goes :
          scanRound passes (before ++ (cell :: middle ++ stop :: after))
            before.length = .ok (.inl (before.length + 1)) := by
        rw [scanRound, List.cons_append, fetch_append]
        simp [pass cell List.mem_cons_self]
      rw [List.length_cons] at enough
      obtain ⟨fuel, rfl⟩ := Nat.exists_eq_add_one_of_ne_zero
        (Nat.ne_zero_of_lt (Nat.lt_of_succ_lt_succ enough))
      have rest := @ih (before ++ [cell])
        (fun other member => pass other (List.mem_cons_of_mem cell member))
        fuel (by omega)
      rw [scan, run_next goes]
      simpa [scan, Nat.add_assoc, Nat.add_comm 1] using rest

end Cells

end ArrayLoop
