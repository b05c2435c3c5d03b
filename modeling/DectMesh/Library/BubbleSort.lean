import Mathlib.Data.List.Basic
import Mathlib.Data.List.Perm.Basic

/-!
# Bubble sort

Passes of compare-and-swap steps over adjacent entries of a list.  `swap a b`
tells that `a` must not stand directly before `b`; the result is sorted when
the order that `swap` leaves alone is total and transitive.
-/

namespace BubbleSort

variable {α : Type*} (swap : α → α → Bool)

/-- The first `steps` compare-and-swap steps of a pass. -/
def pass : Nat → List α → List α
  | steps + 1, left :: right :: rest =>
      if swap left right then
        right :: pass steps (left :: rest)
      else
        left :: pass steps (right :: rest)
  | _, items => items

/-- Passes of `count`, `count - 1`, …, `1` steps. -/
def passes : Nat → List α → List α
  | 0, items => items
  | count + 1, items => passes count (pass swap (count + 1) items)

def sort (items : List α) : List α := passes swap (items.length - 1) items

theorem pass_perm (steps : Nat) (items : List α) :
    (pass swap steps items).Perm items := by
  induction steps generalizing items with
  | zero => simp [pass]
  | succ steps ih =>
      match items with
      | [] => simp [pass]
      | [only] => simp [pass]
      | left :: right :: rest =>
          simp only [pass]
          split
          · exact ((ih (left :: rest)).cons right).trans (.swap left right rest)
          · exact (ih (right :: rest)).cons left

theorem passes_perm (count : Nat) (items : List α) :
    (passes swap count items).Perm items := by
  induction count generalizing items with
  | zero => exact .refl items
  | succ count ih => exact (ih _).trans (pass_perm swap _ items)

theorem sort_perm (items : List α) : (sort swap items).Perm items :=
  passes_perm swap _ items

section Map

variable {β : Type*} {swap} {other : β → β → Bool} (f : α → β)
variable (same : ∀ left right, other (f left) (f right) = swap left right)

include same

theorem pass_map (steps : Nat) (items : List α) :
    pass other steps (items.map f) = (pass swap steps items).map f := by
  induction steps generalizing items with
  | zero => simp [pass]
  | succ steps ih =>
      match items with
      | [] => simp [pass]
      | [only] => simp [pass]
      | left :: right :: rest =>
          have first := ih (left :: rest)
          have second := ih (right :: rest)
          simp only [List.map_cons] at first second
          simp only [List.map_cons, pass, same]
          split
          · rw [first, List.map_cons]
          · rw [second, List.map_cons]

theorem passes_map (count : Nat) (items : List α) :
    passes other count (items.map f) = (passes swap count items).map f := by
  induction count generalizing items with
  | zero => rfl
  | succ count ih => rw [passes, passes, pass_map f same, ih]

/-- Sorting sees of the entries only what the test sees. -/
theorem sort_map (items : List α) :
    sort other (items.map f) = (sort swap items).map f := by
  rw [sort, sort, List.length_map, passes_map f same]

end Map

/-- No compare-and-swap step would change the two. -/
def InOrder (left right : α) : Prop := swap left right = false

section Idle

variable {swap}

theorem pass_of_pairwise (steps : Nat) {items : List α}
    (sorted : items.Pairwise (InOrder swap)) :
    pass swap steps items = items := by
  induction steps generalizing items with
  | zero => simp [pass]
  | succ steps ih =>
      match items with
      | [] => simp [pass]
      | [only] => simp [pass]
      | left :: right :: rest =>
          obtain ⟨first, later⟩ := List.pairwise_cons.mp sorted
          have keep : swap left right = false :=
            first right List.mem_cons_self
          rw [pass, keep, ih later]
          rfl

theorem passes_of_pairwise (count : Nat) {items : List α}
    (sorted : items.Pairwise (InOrder swap)) :
    passes swap count items = items := by
  induction count with
  | zero => rfl
  | succ count ih => rw [passes, pass_of_pairwise _ sorted, ih]

/-- What is in order stays as it is. -/
theorem sort_of_pairwise {items : List α}
    (sorted : items.Pairwise (InOrder swap)) : sort swap items = items :=
  passes_of_pairwise _ sorted

end Idle

section Sorted

variable {swap}
variable
  (total : ∀ left right, swap left right = true → InOrder swap right left)
  (trans : ∀ left middle right, InOrder swap left middle →
    InOrder swap middle right → InOrder swap left right)

include total trans

/-- A pass over the first entries moves a largest of them to their end. -/
theorem pass_largest
    {steps : Nat} {first last : List α} (length : first.length = steps + 1) :
    ∃ front largest,
      pass swap steps (first ++ last) = front ++ largest :: last ∧
        (front ++ [largest]).Perm first ∧
          ∀ item ∈ front, InOrder swap item largest := by
  induction steps generalizing first with
  | zero =>
      obtain ⟨only, rfl⟩ := List.length_eq_one_iff.mp length
      exact ⟨[], only, by simp [pass], .refl _, by simp⟩
  | succ steps ih =>
      match first with
      | left :: right :: rest =>
          -- the entry carried on is below the largest of the remaining ones
          have carry (head next : α) (tail front : List α) (largest : α)
              (order : InOrder swap head next)
              (perm : (front ++ [largest]).Perm (next :: tail))
              (below : ∀ item ∈ front, InOrder swap item largest) :
              ∀ item ∈ head :: front, InOrder swap item largest := by
            intro item member
            rcases List.mem_cons.mp member with rfl | later
            · have inside := perm.mem_iff.mpr
                (List.mem_cons_self : next ∈ next :: tail)
              rcases List.mem_append.mp inside with earlier | same
              · exact trans _ _ _ order (below next earlier)
              · rw [← List.mem_singleton.mp same]
                exact order
            · exact below item later
          simp only [List.cons_append, pass]
          split
          · next swapped =>
            obtain ⟨front, largest, moved, perm, below⟩ :=
              @ih (left :: rest) (by simpa using length)
            simp only [List.cons_append] at moved
            refine ⟨right :: front, largest, by rw [moved]; rfl, ?_, ?_⟩
            · exact (perm.cons right).trans (.swap left right rest)
            · exact carry right left rest front largest
                (total left right swapped) perm below
          · next kept =>
            obtain ⟨front, largest, moved, perm, below⟩ :=
              @ih (right :: rest) (by simpa using length)
            simp only [List.cons_append] at moved
            refine ⟨left :: front, largest, by rw [moved]; rfl, ?_, ?_⟩
            · exact perm.cons left
            · exact carry left right rest front largest
                (Bool.eq_false_iff.mpr kept) perm below

/-- Entries after the first `count + 1` are already in their place. -/
theorem passes_pairwise
    {count : Nat} {first last : List α} (length : first.length = count + 1)
    (sorted : last.Pairwise (InOrder swap))
    (below : ∀ item ∈ first, ∀ later ∈ last, InOrder swap item later) :
    (passes swap count (first ++ last)).Pairwise (InOrder swap) := by
  induction count generalizing first last with
  | zero =>
      obtain ⟨only, rfl⟩ := List.length_eq_one_iff.mp length
      exact List.pairwise_cons.mpr ⟨below only (by simp), sorted⟩
  | succ count ih =>
      obtain ⟨front, largest, moved, perm, largestAbove⟩ :=
        @pass_largest α swap total trans (count + 1) first last length
      have inside (item : α) (member : item ∈ front ++ [largest]) :
          item ∈ first := perm.mem_iff.mp member
      rw [passes, moved]
      apply ih
      · have same := perm.length_eq
        simp only [List.length_append, List.length_singleton] at same
        omega
      · exact List.pairwise_cons.mpr
          ⟨below largest (inside largest (by simp)), sorted⟩
      · intro item member later laterMember
        rcases List.mem_cons.mp laterMember with rfl | old
        · exact largestAbove item member
        · exact below item
            (inside item (List.mem_append_left _ member)) later old

theorem sort_pairwise (items : List α) :
    (sort swap items).Pairwise (InOrder swap) := by
  rcases items with _ | ⟨head, tail⟩
  · exact .nil
  · have sorted := @passes_pairwise α swap total trans tail.length
      (head :: tail) [] rfl .nil (by simp)
    simpa [sort] using sorted

end Sorted

section Stable

variable {swap} {chosen : α → Bool}
variable
  (still : ∀ left right, chosen left = true → chosen right = true →
    InOrder swap left right)

include still

theorem pass_filter (steps : Nat) (items : List α) :
    (pass swap steps items).filter chosen = items.filter chosen := by
  induction steps generalizing items with
  | zero => simp [pass]
  | succ steps ih =>
      match items with
      | [] => simp [pass]
      | [only] => simp [pass]
      | left :: right :: rest =>
          simp only [pass]
          split
          · next swapped =>
            rw [List.filter_cons, ih (left :: rest)]
            simp only [List.filter_cons]
            split
            · next second =>
              split
              · next first =>
                have kept := still left right first second
                rw [InOrder, swapped] at kept
                cases kept
              · rfl
            · rfl
          · rw [List.filter_cons, ih (right :: rest), ← List.filter_cons]

theorem passes_filter (count : Nat) (items : List α) :
    (passes swap count items).filter chosen = items.filter chosen := by
  induction count generalizing items with
  | zero => rfl
  | succ count ih => rw [passes, ih, pass_filter still]

/-- Entries that no step would change among themselves keep their order. -/
theorem sort_filter (items : List α) :
    (sort swap items).filter chosen = items.filter chosen :=
  passes_filter still _ items

end Stable

section Front

variable {swap}

/-- A pass does not see what lies behind its steps. -/
theorem pass_append
    {steps : Nat} {first : List α} (last : List α)
    (inside : steps < first.length) :
    pass swap steps (first ++ last) = pass swap steps first ++ last := by
  induction steps generalizing first with
  | zero => simp [pass]
  | succ steps ih =>
      match first with
      | left :: right :: rest =>
          have shorter : steps < (left :: rest).length := by
            simpa using inside
          simp only [List.cons_append, pass]
          split
          · rw [← List.cons_append, ih shorter]
            rfl
          · rw [← List.cons_append, ih (by simpa using shorter)]
            rfl

theorem passes_append
    {count : Nat} {first : List α} (last : List α)
    (inside : count < first.length) :
    passes swap count (first ++ last) = passes swap count first ++ last := by
  induction count generalizing first with
  | zero => rfl
  | succ count ih =>
      rw [passes, passes, pass_append last inside, ih]
      rw [(pass_perm swap _ first).length_eq]
      omega

end Front

end BubbleSort
