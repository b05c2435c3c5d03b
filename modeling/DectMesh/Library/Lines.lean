import Mathlib.Data.List.Chain
import Mathlib.Data.List.TakeWhile

/-!
# Lines of a stream

The non-empty pieces of a stream between its separators, and what becomes of
them when the stream is cut into messages, each of which is read on its own up
to a limit: all lines survive exactly when no message loses more than
separators and no cut falls between two characters of a line.
-/

namespace Lines

variable {α : Type*} (sep : α → Bool)

/-- The non-empty pieces between separators. -/
def lines (xs : List α) : List (List α) :=
  (xs.splitOnP sep).filter fun line => !line.isEmpty

/-- The number of characters that begin a line; `fresh` tells whether the
first one may. -/
def starts : Bool → List α → Nat
  | _, [] => 0
  | fresh, x :: xs => (fresh && !sep x).toNat + starts (sep x) xs

/-- Whether the character after `xs` may begin a line. -/
def fresh : Bool → List α → Bool
  | before, [] => before
  | _, x :: xs => fresh (sep x) xs

/-- A line goes on from `xs` into `ys`. -/
def cuts (xs ys : List α) : Bool :=
  !fresh sep true xs &&
    match ys with
    | [] => false
    | y :: _ => !sep y

/-- The number of cuts that fall inside a line. -/
def badCuts : List (List α) → Nat
  | xs :: ys :: rest => (cuts sep xs ys).toNat + badCuts (ys :: rest)
  | _ => 0

variable {sep}

@[simp]
theorem lines_nil : lines sep [] = [] :=
  rfl

theorem lines_append_sep
    {x : α} (separator : sep x = true) (xs ys : List α) :
    lines sep (xs ++ x :: ys) = lines sep xs ++ lines sep ys := by
  rw [lines, List.splitOnP_append_cons _ _ separator, List.filter_append]
  rfl

theorem lines_cons_sep {x : α} (separator : sep x = true) (xs : List α) :
    lines sep (x :: xs) = lines sep xs :=
  lines_append_sep separator [] xs

/-- A stretch without separators in front of one is a line. -/
theorem lines_line
    {xs : List α} (nonempty : xs ≠ []) (plain : ∀ x ∈ xs, sep x = false) :
    lines sep xs = [xs] := by
  rw [lines, List.splitOnP_eq_singleton plain]
  simp [nonempty]

/-- The characters of the lines are those that do not separate. -/
theorem lines_flatten (xs : List α) :
    (lines sep xs).flatten = xs.filter fun x => !sep x := by
  rw [lines, List.flatten_filter_not_isEmpty]
  induction xs with
  | nil => rfl
  | cons x xs ih =>
      rw [List.splitOnP_cons_eq_if_modifyHead]
      cases separates : sep x with
      | true => simpa [separates] using ih
      | false =>
          obtain ⟨head, tail, split⟩ :=
            List.exists_cons_of_ne_nil (List.splitOnP_ne_nil sep xs)
          rw [split] at ih ⊢
          simp only [List.flatten_cons] at ih
          simp [separates, ← ih]

/-- The first piece goes on with what came before; the others begin lines. -/
theorem splitOnP_starts (xs : List α) :
    ∃ head tail, xs.splitOnP sep = head :: tail ∧
      (tail.filter fun line => !line.isEmpty).length = starts sep false xs ∧
        ((head :: tail).filter fun line => !line.isEmpty).length =
          starts sep true xs := by
  induction xs with
  | nil => exact ⟨[], [], rfl, rfl, rfl⟩
  | cons x xs ih =>
      obtain ⟨head, tail, split, later, all⟩ := ih
      rw [List.splitOnP_cons_eq_if_modifyHead, split]
      cases separates : sep x with
      | true =>
          refine ⟨[], head :: tail, rfl, ?_, ?_⟩
          · simp only [starts, separates, Bool.false_and, Bool.toNat_false]
            omega
          · simp only [starts, separates, Bool.not_true, Bool.and_false,
              Bool.toNat_false, Nat.zero_add]
            exact all
      | false =>
          refine ⟨x :: head, tail, rfl, ?_, ?_⟩
          · simp only [starts, separates, Bool.false_and, Bool.toNat_false]
            omega
          · simp only [starts, separates, Bool.not_false, Bool.and_true,
              Bool.toNat_true, ← later]
            simp [Nat.add_comm]

theorem lines_length (xs : List α) :
    (lines sep xs).length = starts sep true xs := by
  obtain ⟨head, tail, split, -, all⟩ := splitOnP_starts xs
  rw [lines, split, all]

theorem starts_append (before : Bool) (xs ys : List α) :
    starts sep before (xs ++ ys) =
      starts sep before xs + starts sep (fresh sep before xs) ys := by
  induction xs generalizing before with
  | nil => simp [starts, fresh]
  | cons x xs ih =>
      simp only [List.cons_append, starts, fresh, ih]
      omega

theorem fresh_append (before : Bool) (xs ys : List α) :
    fresh sep before (xs ++ ys) = fresh sep (fresh sep before xs) ys := by
  induction xs generalizing before with
  | nil => rfl
  | cons x xs ih => exact ih (sep x)

/-- A cut inside a line makes two lines of it. -/
theorem lines_append_length (xs ys : List α) :
    (lines sep (xs ++ ys)).length + (cuts sep xs ys).toNat =
      (lines sep xs).length + (lines sep ys).length := by
  simp only [lines_length, starts_append, cuts]
  cases fresh sep true xs with
  | true => simp
  | false =>
      cases ys with
      | nil => simp [starts]
      | cons y ys =>
          simp only [starts, Bool.not_false, Bool.true_and, Bool.false_and,
            Bool.toNat_false]
          omega

/-- A cut between lines makes no difference. -/
theorem lines_append
    {xs ys : List α} (between : cuts sep xs ys = false) :
    lines sep (xs ++ ys) = lines sep xs ++ lines sep ys := by
  simp only [cuts, Bool.and_eq_false_iff, Bool.not_eq_false'] at between
  rcases between with ended | opened
  · rcases List.eq_nil_or_concat xs with rfl | ⟨front, last, rfl⟩
    · rfl
    · simp only [List.concat_eq_append, fresh_append, fresh] at ended
      rw [List.concat_eq_append, List.append_assoc, List.singleton_append,
        lines_append_sep ended, lines_append_sep ended, lines_nil,
        List.append_nil]
  · cases ys with
    | nil => simp
    | cons y ys =>
        have separator : sep y = true := by simpa using opened
        rw [lines_append_sep separator, lines_cons_sep separator]

section Messages

variable {messages : List (List α)}

theorem badCuts_eq_zero_iff :
    badCuts sep messages = 0 ↔
      messages.IsChain fun xs ys => cuts sep xs ys = false := by
  induction messages with
  | nil => simp [badCuts]
  | cons xs rest ih =>
      cases rest with
      | nil => simp [badCuts]
      | cons ys rest =>
          rw [badCuts, List.isChain_cons_cons, ← ih, Nat.add_eq_zero_iff]
          cases cuts sep xs ys <;> simp

/-- The cut before a sequence of messages is the one before the first. -/
theorem cuts_flatten
    {xs ys : List α} {rest : List (List α)} (nonempty : ys ≠ []) :
    cuts sep xs (ys :: rest).flatten = cuts sep xs ys := by
  obtain ⟨y, tail, rfl⟩ := List.exists_cons_of_ne_nil nonempty
  rfl

/-- Every bad cut adds one line. -/
theorem flatMap_lines_length (nonempty : ∀ xs ∈ messages, xs ≠ []) :
    (messages.flatMap (lines sep)).length =
      (lines sep messages.flatten).length + badCuts sep messages := by
  induction messages with
  | nil => rfl
  | cons xs rest ih =>
      have later := ih fun ys member => nonempty ys (List.mem_cons_of_mem xs member)
      have here := @lines_append_length α sep xs rest.flatten
      rw [List.flatMap_cons, List.length_append, List.flatten_cons, later]
      cases rest with
      | nil => simp [badCuts]
      | cons ys rest =>
          rw [cuts_flatten (nonempty ys (by simp))] at here
          rw [badCuts]
          omega

/-- Cuts between lines make no difference. -/
theorem flatMap_lines
    (nonempty : ∀ xs ∈ messages, xs ≠ [])
    (between : messages.IsChain fun xs ys => cuts sep xs ys = false) :
    messages.flatMap (lines sep) = lines sep messages.flatten := by
  induction messages with
  | nil => rfl
  | cons xs rest ih =>
      have later := ih (fun ys member => nonempty ys (List.mem_cons_of_mem xs member))
        between.tail
      rw [List.flatMap_cons, List.flatten_cons, later]
      cases rest with
      | nil => simp
      | cons ys rest =>
          have here : cuts sep xs (ys :: rest).flatten = false := by
            rw [cuts_flatten (nonempty ys (by simp))]
            exact (List.isChain_cons_cons.mp between).1
          exact (lines_append here).symm

/-- Characters that only separate may be dropped at the end. -/
theorem lines_take
    {xs : List α} {limit : Nat} (lost : ∀ x ∈ xs.drop limit, sep x = true) :
    lines sep (xs.take limit) = lines sep xs := by
  have rest : lines sep (xs.drop limit) = [] := by
    rw [← List.length_eq_zero_iff, lines_length]
    generalize xs.drop limit = ys at lost
    have none (before : Bool) : starts sep before ys = 0 := by
      induction ys generalizing before with
      | nil => rfl
      | cons y ys ih =>
          have separator := lost y List.mem_cons_self
          simp only [starts, separator, Bool.not_true, Bool.and_false,
            Bool.toNat_false, Nat.zero_add]
          exact ih (fun x member => lost x (List.mem_cons_of_mem y member)) true
    exact none true
  have between : cuts sep (xs.take limit) (xs.drop limit) = false := by
    cases dropped : xs.drop limit with
    | nil => simp [cuts]
    | cons y ys =>
        have separator := lost y (by simp [dropped])
        simp [cuts, separator]
  rw [← List.append_nil (lines sep (xs.take limit)), ← rest,
    ← lines_append between, List.take_append_drop]

/-- What is kept and what is lost make up the whole. -/
theorem filter_take_drop_length (p : α → Bool) (limit : Nat) :
    (messages.flatMap fun xs => (xs.take limit).filter p).length +
        (messages.flatMap fun xs => (xs.drop limit).filter p).length =
      (messages.flatten.filter p).length := by
  induction messages with
  | nil => rfl
  | cons xs rest ih =>
      have parts : ((xs.take limit).filter p).length +
          ((xs.drop limit).filter p).length = (xs.filter p).length := by
        rw [← List.length_append, ← List.filter_append, List.take_append_drop]
      simp only [List.flatMap_cons, List.flatten_cons, List.filter_append,
        List.length_append]
      omega

/-- Messages that are read up to a limit give the lines of the stream exactly
when no message loses a character of a line and no cut falls inside one. -/
theorem flatMap_lines_take_iff
    (limit : Nat) (nonempty : ∀ xs ∈ messages, xs ≠ []) :
    messages.flatMap (fun xs => lines sep (xs.take limit)) =
        lines sep messages.flatten ↔
      (∀ xs ∈ messages, ∀ x ∈ xs.drop limit, sep x = true) ∧
        messages.IsChain fun xs ys => cuts sep xs ys = false := by
  have whole
      (kept : ∀ xs ∈ messages, ∀ x ∈ xs.drop limit, sep x = true) :
      messages.flatMap (fun xs => lines sep (xs.take limit)) =
        messages.flatMap (lines sep) :=
    List.flatMap_congr fun xs member => lines_take (kept xs member)
  constructor
  · intro same
    have kept : ∀ xs ∈ messages, ∀ x ∈ xs.drop limit, sep x = true := by
      have letters := congrArg List.flatten same
      rw [lines_flatten, List.flatMap_def, List.flatten_flatten, List.map_map,
        List.map_congr_left fun xs _ => lines_flatten (xs.take limit),
        ← List.flatMap_def] at letters
      have parts := @filter_take_drop_length α messages (fun x => !sep x) limit
      rw [letters] at parts
      have none : messages.flatMap
          (fun xs => (xs.drop limit).filter fun x => !sep x) = [] := by
        rw [← List.length_eq_zero_iff]
        omega
      intro xs member x dropped
      have empty := List.flatMap_eq_nil_iff.mp none xs member
      simpa using List.filter_eq_nil_iff.mp empty x dropped
    refine ⟨kept, badCuts_eq_zero_iff.mp ?_⟩
    have count := @flatMap_lines_length α sep messages nonempty
    rw [← whole kept, same] at count
    omega
  · rintro ⟨kept, between⟩
    rw [whole kept, flatMap_lines nonempty between]

end Messages

end Lines
