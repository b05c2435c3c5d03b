import DectMesh.Library.Lines

/-!
# Lines and where they begin

The lines of a stream together with their positions.  A line at a position is
a stretch without separators that cannot be made longer on either side.
-/

namespace Lines

variable {α : Type*} (sep : α → Bool)

/-- Each piece with its position, one separator behind the piece before. -/
def positions : Nat → List (List α) → List (Nat × List α)
  | _, [] => []
  | start, piece :: rest =>
      (start, piece) :: positions (start + piece.length + 1) rest

/-- The pieces with a separator behind each. -/
def extent : List (List α) → Nat
  | [] => 0
  | piece :: rest => piece.length + 1 + extent rest

/-- The lines with their positions. -/
def runs (xs : List α) : List (Nat × List α) :=
  (positions 0 (xs.splitOnP sep)).filter fun run => !run.2.isEmpty

/-- `line` stands at `start`, between separators or the ends of the stream. -/
structure IsRun (xs : List α) (start : Nat) (line : List α) : Prop where
  stretch :
    ∃ before after, xs = before ++ (line ++ after) ∧ before.length = start ∧
      (before = [] ∨ ∃ front x, before = front ++ [x] ∧ sep x = true) ∧
        (after = [] ∨ ∃ y back, after = y :: back ∧ sep y = true)
  nonempty : line ≠ []
  plain : ∀ x ∈ line, sep x = false

def shift (offset : Nat) (run : Nat × List α) : Nat × List α :=
  (offset + run.1, run.2)

variable {sep}

theorem shift_shift (first second : Nat) (run : Nat × List α) :
    shift first (shift second run) = shift (first + second) run := by
  simp [shift, Nat.add_assoc]

theorem shift_zero : shift (α := α) 0 = id := by
  funext run
  simp [shift]

theorem positions_shift (offset start : Nat) (pieces : List (List α)) :
    positions (offset + start) pieces =
      (positions start pieces).map (shift offset) := by
  induction pieces generalizing start with
  | nil => rfl
  | cons piece rest ih =>
      have later := ih (start + piece.length + 1)
      simp only [positions, List.map_cons, shift, ← Nat.add_assoc] at later ⊢
      rw [later]

theorem positions_append (start : Nat) (first second : List (List α)) :
    positions start (first ++ second) =
      positions start first ++
        positions (start + extent first) second := by
  induction first generalizing start with
  | nil => rfl
  | cons piece rest ih =>
      simp only [List.cons_append, positions, ih, extent, Nat.add_assoc]

theorem positions_snd (start : Nat) (pieces : List (List α)) :
    (positions start pieces).map Prod.snd = pieces := by
  induction pieces generalizing start with
  | nil => rfl
  | cons piece rest ih => rw [positions, List.map_cons, ih]

/-- Every piece but the last has one separator behind it. -/
theorem extent_splitOnP (xs : List α) :
    extent (xs.splitOnP sep) = xs.length + 1 := by
  induction xs with
  | nil => rfl
  | cons x xs ih =>
      rw [List.splitOnP_cons_eq_if_modifyHead]
      obtain ⟨head, tail, split⟩ :=
        List.exists_cons_of_ne_nil (List.splitOnP_ne_nil sep xs)
      rw [split] at ih ⊢
      rw [extent] at ih
      split
      · simp only [extent, List.length_nil, List.length_cons]
        omega
      · simp only [List.modifyHead_cons, extent, List.length_cons]
        omega

theorem runs_snd (xs : List α) : (runs sep xs).map Prod.snd = lines sep xs := by
  have pieces :
      ((positions 0 (xs.splitOnP sep)).map Prod.snd).filter
          (fun line => !line.isEmpty) = (runs sep xs).map Prod.snd := by
    rw [List.filter_map]
    rfl
  rw [← pieces, positions_snd, lines]

@[simp]
theorem runs_nil : runs sep ([] : List α) = [] :=
  rfl

theorem filter_shift (offset : Nat) (found : List (Nat × List α)) :
    (found.map (shift offset)).filter (fun run => !run.2.isEmpty) =
      (found.filter fun run => !run.2.isEmpty).map (shift offset) := by
  rw [List.filter_map]
  rfl

theorem runs_append_sep
    {x : α} (separator : sep x = true) (xs ys : List α) :
    runs sep (xs ++ x :: ys) =
      runs sep xs ++ (runs sep ys).map (shift (xs.length + 1)) := by
  rw [runs, List.splitOnP_append_cons _ _ separator, positions_append,
    extent_splitOnP, List.filter_append, Nat.add_comm 0,
    positions_shift, filter_shift]
  rfl

theorem runs_cons_sep {x : α} (separator : sep x = true) (xs : List α) :
    runs sep (x :: xs) = (runs sep xs).map (shift 1) :=
  runs_append_sep separator [] xs

theorem runs_line
    {xs : List α} (nonempty : xs ≠ []) (plain : ∀ x ∈ xs, sep x = false) :
    runs sep xs = [(0, xs)] := by
  rw [runs, List.splitOnP_eq_singleton plain]
  simp [positions, nonempty]

/-- A stretch of separators in front moves the lines. -/
theorem runs_append_seps
    {seps : List α} (separate : ∀ x ∈ seps, sep x = true) (xs : List α) :
    runs sep (seps ++ xs) = (runs sep xs).map (shift seps.length) := by
  induction seps with
  | nil => simp [shift_zero]
  | cons x seps ih =>
      have rest := ih fun y member => separate y (List.mem_cons_of_mem x member)
      rw [List.cons_append, runs_cons_sep (separate x List.mem_cons_self), rest,
        List.map_map]
      apply List.map_congr_left
      intro run _
      rw [Function.comp_apply, shift_shift, List.length_cons, Nat.add_comm]

/-- A stream is separators only, or separators in front of its first line. -/
theorem first_line (xs : List α) :
    (∀ x ∈ xs, sep x = true) ∨
      ∃ seps line after, xs = seps ++ (line ++ after) ∧
        (∀ x ∈ seps, sep x = true) ∧ line ≠ [] ∧
          (∀ x ∈ line, sep x = false) ∧
            (after = [] ∨ ∃ y back, after = y :: back ∧ sep y = true) := by
  induction xs with
  | nil => exact .inl (by simp)
  | cons x xs ih =>
      cases separates : sep x with
      | true =>
          rcases ih with all | ⟨seps, line, after, rfl, front, found⟩
          · exact .inl (List.forall_mem_cons.mpr ⟨separates, all⟩)
          · exact .inr ⟨x :: seps, line, after, rfl,
              List.forall_mem_cons.mpr ⟨separates, front⟩, found⟩
      | false =>
          refine .inr ⟨[], x :: xs.takeWhile fun y => !sep y,
            xs.dropWhile fun y => !sep y, ?_, by simp, by simp, ?_, ?_⟩
          · simp [List.takeWhile_append_dropWhile]
          · intro y member
            rcases List.mem_cons.mp member with rfl | later
            · exact separates
            · simpa using List.all_eq_true.mp List.all_takeWhile y later
          · cases rest : xs.dropWhile fun y => !sep y with
            | nil => exact .inl rfl
            | cons y back =>
                have head := @List.head_dropWhile_not _ (fun y => !sep y) xs
                  (by simp [rest])
                exact .inr ⟨y, back, rfl, by simpa [rest] using head⟩

/-- The first line and those behind it. -/
theorem runs_first
    {seps line after : List α} (separate : ∀ x ∈ seps, sep x = true)
    (nonempty : line ≠ []) (plain : ∀ x ∈ line, sep x = false)
    (ends : after = [] ∨ ∃ y back, after = y :: back ∧ sep y = true) :
    runs sep (seps ++ (line ++ after)) =
      (seps.length, line) ::
        (runs sep after).map (shift (seps.length + line.length)) := by
  rw [runs_append_seps separate]
  rcases ends with rfl | ⟨y, back, rfl, separator⟩
  · rw [List.append_nil, runs_line nonempty plain]
    rfl
  · rw [runs_append_sep separator, runs_cons_sep separator,
      runs_line nonempty plain, List.map_append, List.map_map, List.map_map]
    refine congrArg ((seps.length, line) :: ·) ?_
    apply List.map_congr_left
    intro run _
    simp only [Function.comp_apply, shift_shift, Nat.add_assoc]

/-- Stretches that end between lines have the lines of both. -/
theorem runs_append
    {xs ys : List α}
    (between : xs = [] ∨ ys = [] ∨ ∃ front x, xs = front ++ [x] ∧ sep x = true) :
    runs sep (xs ++ ys) =
      runs sep xs ++ (runs sep ys).map (shift xs.length) := by
  rcases between with rfl | rfl | ⟨front, x, rfl, separator⟩
  · simp [shift_zero]
  · simp
  · have here := runs_append_sep separator front []
    rw [runs_nil, List.map_nil, List.append_nil] at here
    rw [List.append_assoc, List.singleton_append, runs_append_sep separator,
      here, List.length_append, List.length_singleton]

theorem runs_seps {xs : List α} (separate : ∀ x ∈ xs, sep x = true) :
    runs sep xs = [] := by
  have none := runs_append_seps separate []
  rwa [List.append_nil, runs_nil, List.map_nil] at none

/-- The lines and their positions are exactly the stretches without separators
that cannot be made longer. -/
theorem mem_runs_iff {xs : List α} {start : Nat} {line : List α} :
    (start, line) ∈ runs sep xs ↔ IsRun sep xs start line := by
  constructor
  · intro member
    induction size : xs.length using Nat.strongRecOn generalizing xs start with
    | ind size ih =>
      rcases first_line xs with all | first
      · rw [runs_seps all] at member
        cases member
      · obtain ⟨seps, head, after, rfl, separate, nonempty, plain, ends⟩ := first
        rw [runs_first separate nonempty plain ends] at member
        rcases List.mem_cons.mp member with here | later
        · cases here
          refine ⟨⟨seps, after, rfl, rfl, ?_, ends⟩, nonempty, plain⟩
          rcases List.eq_nil_or_concat seps with none | ⟨front, x, rfl⟩
          · exact .inl none
          · exact .inr ⟨front, x, List.concat_eq_append, separate x (by simp)⟩
        · obtain ⟨⟨place, text⟩, found, moved⟩ := List.mem_map.mp later
          cases moved
          have some := List.length_pos_iff.mpr nonempty
          simp only [List.length_append] at size
          obtain ⟨⟨before, rest, split, rfl, left, right⟩, filled, inside⟩ :=
            ih after.length (by omega) found rfl
          refine ⟨⟨seps ++ (head ++ before), rest, ?_, ?_, .inr ?_, right⟩,
            filled, inside⟩
          · simp only [split, List.append_assoc]
          · simp only [List.length_append, Nat.add_assoc]
          · rcases left with rfl | ⟨front, x, rfl, separator⟩
            · -- the line found would go on with what is left of the first
              exfalso
              obtain ⟨x, others, rfl⟩ := List.exists_cons_of_ne_nil filled
              rcases ends with rfl | ⟨y, back, rfl, separator⟩
              · cases split
              · cases split
                exact absurd (inside _ List.mem_cons_self) (by simp [separator])
            · exact ⟨seps ++ (head ++ front), x,
                by simp only [List.append_assoc], separator⟩
  · rintro ⟨⟨before, after, rfl, rfl, left, right⟩, nonempty, plain⟩
    have here : (0, line) ∈ runs sep (line ++ after) := by
      have found := @runs_first _ _ [] _ _ (by simp) nonempty plain right
      rw [List.nil_append] at found
      rw [found]
      exact List.mem_cons_self
    rcases left with rfl | ⟨front, x, rfl, separator⟩
    · exact here
    · rw [List.append_assoc, List.singleton_append, runs_append_sep separator]
      apply List.mem_append_right
      exact List.mem_map.mpr ⟨(0, line), here, by simp [shift]⟩

end Lines
