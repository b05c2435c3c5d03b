import DectMesh.Library.ArrayLoop
import DectMesh.Library.BubbleSort

/-!
# Bubble sort by index

The two loops over the indices of an array that make up a bubble sort.
`advance` is the increment of a loop variable, which may wrap around; the
loops end and sort the cells below the count as long as it does not wrap
before them.
-/

namespace SortLoop

open ArrayLoop

variable {Cell : Type} (advance : Nat → Nat) (swap : Cell → Cell → Bool)

/-- The body of the inner loop. -/
def compareSwap (cells : List Cell) (j : Nat) : Except Failure (List Cell) := do
  let left ← fetch cells j
  let right ← fetch cells (j + 1)
  if swap left right then
    let cells ← put cells j right
    put cells (j + 1) left
  else
    pure cells

/-- `for (j = 0; j < bound; j++)`. -/
def innerRound (bound : Int) (state : Nat × List Cell) :
    Except Failure ((Nat × List Cell) ⊕ List Cell) :=
  if (state.1 : Int) < bound then do
    let cells ← compareSwap swap state.2 state.1
    pure (.inl (advance state.1, cells))
  else
    pure (.inr state.2)

/-- `for (i = 0; i < count - 1; i++)` around `for (j = 0; j < count - i - 1;
j++)`. -/
def outerRound (fuel : Nat) (count : Int) (state : Nat × List Cell) :
    Except Failure ((Nat × List Cell) ⊕ List Cell) :=
  if (state.1 : Int) < count - 1 then do
    let cells ← run (innerRound advance swap (count - state.1 - 1)) fuel
      (0, state.2)
    pure (.inl (advance state.1, cells))
  else
    pure (.inr state.2)

def sortLoop (fuel : Nat) (count : Int) (cells : List Cell) :
    Except Failure (List Cell) :=
  run (outerRound advance swap fuel count) fuel (0, cells)

variable {advance swap}

theorem compareSwap_append (front rest : List Cell) (left right : Cell) :
    compareSwap swap (front ++ left :: right :: rest) front.length =
      .ok (front ++
        if swap left right then
          right :: left :: rest
        else
          left :: right :: rest) := by
  have second := @fetch_append _ (front ++ [left]) rest right
  have first := @put_append _ front (right :: rest) left right
  have last := @put_append _ (front ++ [right]) rest right left
  simp only [List.append_assoc, List.singleton_append, List.length_append,
    List.length_singleton] at second last
  simp only [compareSwap, fetch_append, second, bind, Except.bind]
  split
  · simp only [first, last]
  · rfl

/-- The inner loop is a pass over what is in front of it. -/
theorem inner_run
    {steps fuel : Nat} {bound : Int} {front items : List Cell}
    (bounds : bound = front.length + steps) (inside : steps < items.length)
    (counts : ∀ j : Nat, (j : Int) < bound → advance j = j + 1)
    (enough : steps < fuel) :
    run (innerRound advance swap bound) fuel (front.length, front ++ items) =
      .ok (front ++ BubbleSort.pass swap steps items) := by
  obtain ⟨fuel, rfl⟩ := Nat.exists_eq_add_one_of_ne_zero
    (Nat.ne_zero_of_lt enough)
  induction steps generalizing front items fuel with
  | zero =>
      apply run_done
      rw [innerRound, if_neg (by simp only; omega)]
      simp [BubbleSort.pass]
      rfl
  | succ steps ih =>
      rcases items with _ | ⟨left, _ | ⟨right, rest⟩⟩
      · cases inside
      · exact absurd (Nat.lt_of_succ_lt_succ inside) (Nat.not_lt_zero _)
      · have more : (front.length : Int) < bound := by omega
        have goes :
            innerRound advance swap bound
                (front.length, front ++ left :: right :: rest) =
              .ok (.inl (front.length + 1, front ++
                if swap left right then
                  right :: left :: rest
                else
                  left :: right :: rest)) := by
          simp only [innerRound, if_pos more, compareSwap_append,
            counts _ more, bind, Except.bind]
          rfl
        have shorter : steps < (left :: rest).length := by
          simpa using inside
        obtain ⟨fuel, rfl⟩ := Nat.exists_eq_add_one_of_ne_zero
          (Nat.ne_zero_of_lt (Nat.lt_of_succ_lt_succ enough))
        rw [run_next goes, BubbleSort.pass]
        split
        · have later := @ih (front ++ [right]) (left :: rest)
            (by simp; omega) shorter fuel (by omega)
          simpa using later
        · have later := @ih (front ++ [left]) (right :: rest)
            (by simp; omega) (by simpa using shorter) fuel (by omega)
          simpa using later

/-- The outer loop makes the passes that are left. -/
theorem outer_run
    {remaining limit fuel i : Nat} {count : Int} {cells : List Cell}
    (bounds : count - 1 = i + remaining) (inside : remaining < cells.length)
    (counts : ∀ j : Nat, (j : Int) < count - 1 → advance j = j + 1)
    (deep : remaining < limit) (enough : remaining < fuel) :
    run (outerRound advance swap limit count) fuel (i, cells) =
      .ok (BubbleSort.passes swap remaining cells) := by
  obtain ⟨fuel, rfl⟩ := Nat.exists_eq_add_one_of_ne_zero
    (Nat.ne_zero_of_lt enough)
  induction remaining generalizing i cells fuel with
  | zero =>
      apply run_done
      rw [outerRound, if_neg (by simp only; omega)]
      rfl
  | succ remaining ih =>
      have more : (i : Int) < count - 1 := by omega
      have passed := @inner_run _ advance swap (remaining + 1) limit
        (count - i - 1) [] cells (by simp only [List.length_nil]; omega) inside
        (fun j below => counts j (by omega)) deep
      have goes :
          outerRound advance swap limit count (i, cells) = .ok (.inl
            (i + 1, BubbleSort.pass swap (remaining + 1) cells)) := by
        rw [List.length_nil, List.nil_append, List.nil_append] at passed
        simp only [outerRound, if_pos more, passed, counts i more, bind,
          Except.bind]
        rfl
      obtain ⟨fuel, rfl⟩ := Nat.exists_eq_add_one_of_ne_zero
        (Nat.ne_zero_of_lt (Nat.lt_of_succ_lt_succ enough))
      rw [run_next goes, BubbleSort.passes]
      apply ih
      · omega
      · rw [(BubbleSort.pass_perm swap _ cells).length_eq]
        omega
      · omega
      · omega

/-- The loops sort the cells below the count and leave the others. -/
theorem sortLoop_eq
    {fuel : Nat} {count : Int} {cells : List Cell}
    (inside : count ≤ cells.length)
    (counts : ∀ j : Nat, (j : Int) < count - 1 → advance j = j + 1)
    (enough : count.toNat < fuel) :
    sortLoop advance swap fuel count cells =
      .ok (BubbleSort.sort swap (cells.take count.toNat) ++
        cells.drop count.toNat) := by
  have size : (cells.take count.toNat).length = count.toNat := by
    rw [List.length_take]
    omega
  rw [BubbleSort.sort, size]
  rcases Int.lt_or_le count 1 with empty | some
  · obtain ⟨fuel, rfl⟩ := Nat.exists_eq_add_one_of_ne_zero
      (Nat.ne_zero_of_lt enough)
    have none : count.toNat = 0 := by omega
    rw [none, List.take_zero]
    apply run_done
    rw [outerRound, if_neg (by simp only; omega)]
    rfl
  · rw [← BubbleSort.passes_append _ (by omega), List.take_append_drop]
    exact outer_run (by omega) (by omega) counts (by omega) (by omega)

end SortLoop
