import Mathlib.Data.Fin.Basic
import Mathlib.Logic.Function.Basic
import Mathlib.Tactic.Common

/-!
# Page maps

A table with one flag per page, in which an owner holds a range of consecutive
pages.  The first-fit search returns a shortest range of empty pages that is
long enough; claiming it and releasing a range keep the flags exact.
-/

/-- The pages from `start` on, `count` of them. -/
structure PageRange where
  start : Nat
  count : Nat
  deriving DecidableEq, Repr

namespace PageRange

def Covers (range : PageRange) (page : Nat) : Prop :=
  range.start ≤ page ∧ page < range.start + range.count

instance Covers.decidable (range : PageRange) (page : Nat) :
    Decidable (range.Covers page) :=
  inferInstanceAs (Decidable (_ ∧ _))

end PageRange

namespace PageMap

variable {size : Nat}

/-- One flag per page: the page is empty. -/
abbrev Flags (size : Nat) := Fin size → Bool

/-- The first-fit search at page `page`, with `available` empty pages just
before it and `remaining` pages to go. -/
def scanFrom (empty : Flags size) (enough : Nat → Bool) :
    Nat → Nat → Nat → Option PageRange
  | 0, _, _ => none
  | remaining + 1, page, available =>
      if inside : page < size then
        if empty ⟨page, inside⟩ then
          if enough (available + 1) then
            some ⟨page - available, available + 1⟩
          else
            scanFrom empty enough remaining (page + 1) (available + 1)
        else
          scanFrom empty enough remaining (page + 1) 0
      else
        none

def firstFit (empty : Flags size) (enough : Nat → Bool) : Option PageRange :=
  scanFrom empty enough size 0 0

/-- The flags after those of a range were set to `value`. -/
def mark (empty : Flags size) (range : PageRange) (value : Bool) :
    Flags size :=
  fun page => if range.Covers page then value else empty page

theorem mark_of_covers
    (empty : Flags size) {range : PageRange} (value : Bool) {page : Fin size}
    (covers : range.Covers page) : mark empty range value page = value :=
  if_pos covers

theorem mark_of_not_covers
    (empty : Flags size) {range : PageRange} (value : Bool) {page : Fin size}
    (outside : ¬ range.Covers page) :
    mark empty range value page = empty page :=
  if_neg outside

/-- What a search finds. -/
structure Fits (empty : Flags size) (enough : Nat → Bool)
    (range : PageRange) : Prop where
  nonempty : 0 < range.count
  inside : range.start + range.count ≤ size
  free : ∀ page : Fin size, range.Covers page → empty page = true
  longEnough : enough range.count = true
  least :
    ∀ shorter, 0 < shorter → shorter < range.count → enough shorter = false

theorem scanFrom_fits
    {empty : Flags size} {enough : Nat → Bool} {range : PageRange} :
    ∀ {remaining page available : Nat},
      available ≤ page →
      (∀ before : Fin size, page - available ≤ before → before.val < page →
        empty before = true) →
      (∀ shorter, 0 < shorter → shorter ≤ available →
        enough shorter = false) →
      scanFrom empty enough remaining page available = some range →
        Fits empty enough range
  | 0, _, _, _, _, _, found => by cases found
  | remaining + 1, page, available, bound, free, least, found => by
      unfold scanFrom at found
      split at found
      · next inside =>
        split at found
        · next isEmpty =>
          have freeNext :
              ∀ before : Fin size, page - available ≤ before →
                before.val < page + 1 → empty before = true := by
            intro before lower upper
            by_cases last : before.val = page
            · have same : before = ⟨page, inside⟩ := Fin.ext last
              rw [same]
              exact isEmpty
            · exact free before lower (by omega)
          split at found
          · next isEnough =>
            cases found
            have top : page - available + (available + 1) = page + 1 := by
              omega
            constructor
            · exact Nat.succ_pos available
            · exact top ▸ inside
            · rintro before ⟨lower, upper⟩
              exact freeNext before lower (top ▸ upper)
            · exact isEnough
            · intro shorter positive below
              exact least shorter positive (Nat.lt_succ_iff.mp below)
          · next tooFew =>
            refine scanFrom_fits (by omega) ?_ ?_ found
            · intro before lower upper
              exact freeNext before (by omega) upper
            · intro shorter positive below
              by_cases longest : shorter = available + 1
              · rw [longest]
                simpa using tooFew
              · exact least shorter positive (by omega)
        · exact scanFrom_fits (Nat.zero_le _)
            (fun before lower upper => by omega)
            (fun shorter positive below => by omega) found
      · cases found

/-- A range the search returns is empty, long enough and no longer. -/
theorem firstFit_fits
    {empty : Flags size} {enough : Nat → Bool} {range : PageRange}
    (found : firstFit empty enough = some range) : Fits empty enough range :=
  scanFrom_fits (Nat.le_refl 0) (fun before lower upper => by omega)
    (fun shorter positive below => by omega) found

/-- A run of empty pages. -/
structure Run (empty : Flags size) (range : PageRange) : Prop where
  nonempty : 0 < range.count
  inside : range.start + range.count ≤ size
  free : ∀ page : Fin size, range.Covers page → empty page = true

/-- A run that reaches past a page in use starts after it. -/
theorem Run.start_gt
    {empty : Flags size} {range : PageRange} (run : Run empty range)
    {page : Fin size} (inUse : empty page = false)
    (past : page.val < range.start + range.count) :
    page.val < range.start := by
  by_contra before
  have free := run.free page ⟨Nat.le_of_not_lt before, past⟩
  rw [inUse] at free
  cases free

/-- The search finds something at or before the start of every run that is
long enough.  `boundary` says that the empty pages just before `page` cannot
be extended, `earlier` that no long enough run ends before `page`. -/
theorem scanFrom_first
    {empty : Flags size} {enough : Nat → Bool} {run : PageRange}
    (isRun : Run empty run) (longEnough : enough run.count = true) :
    ∀ {remaining page available : Nat},
      page + remaining = size →
      available ≤ page →
      (∀ before : Fin size, before.val + 1 = page - available →
        empty before = false) →
      (∀ shorter, 0 < shorter → shorter ≤ available →
        enough shorter = false) →
      page < run.start + run.count →
      ∃ range, scanFrom empty enough remaining page available = some range ∧
        range.start ≤ run.start
  | 0, page, available, total, bound, boundary, least, later => by
      have inside := isRun.inside
      omega
  | remaining + 1, page, available, total, bound, boundary, least, later => by
      have inside : page < size := by omega
      have afterBoundary : page - available ≤ run.start := by
        by_cases first : page - available = 0
        · omega
        · have inUse := boundary ⟨page - available - 1, by omega⟩
            (Nat.sub_add_cancel (by omega))
          have past := isRun.start_gt inUse (by dsimp only; omega)
          dsimp only at past
          omega
      unfold scanFrom
      rw [dif_pos inside]
      split
      · split
        · exact ⟨_, rfl, afterBoundary⟩
        · next tooFew =>
          have leastNext (shorter : Nat) (positive : 0 < shorter)
              (below : shorter ≤ available + 1) : enough shorter = false := by
            by_cases longest : shorter = available + 1
            · rw [longest]
              simpa using tooFew
            · exact least shorter positive (by omega)
          refine scanFrom_first isRun longEnough (by omega) (by omega) ?_
            leastNext ?_
          · intro before last
            exact boundary before (by omega)
          · by_contra ends
            have short := leastNext run.count isRun.nonempty (by omega)
            rw [longEnough] at short
            cases short
      · next inUse =>
        have inUse : empty ⟨page, inside⟩ = false := by simpa using inUse
        have past := isRun.start_gt inUse later
        dsimp only at past
        have nonempty := isRun.nonempty
        refine scanFrom_first isRun longEnough (by omega) (by omega) ?_
          (fun shorter positive below => by omega) (by omega)
        intro before last
        have same : before = ⟨page, inside⟩ := Fin.ext (by simpa using last)
        rw [same]
        exact inUse

/-- First fit is lowest fit. -/
theorem firstFit_first
    {empty : Flags size} {enough : Nat → Bool} {run : PageRange}
    (isRun : Run empty run) (longEnough : enough run.count = true) :
    ∃ range, firstFit empty enough = some range ∧ range.start ≤ run.start := by
  have nonempty := isRun.nonempty
  exact scanFrom_first isRun longEnough (Nat.zero_add size) (Nat.le_refl 0)
    (fun before last => by omega) (fun shorter positive below => by omega)
    (by omega)

theorem Fits.run
    {empty : Flags size} {enough : Nat → Bool} {range : PageRange}
    (fits : Fits empty enough range) : Run empty range :=
  ⟨fits.nonempty, fits.inside, fits.free⟩

section Ownership

variable {Owner : Type*}

/-- The flags are exact: the ranges of the owners lie inside the table and do
not overlap, and a page is in use when an owner's range covers it. -/
structure Exact (empty : Flags size) (held : Owner → Option PageRange) :
    Prop where
  inside :
    ∀ owner range, held owner = some range → range.start + range.count ≤ size
  disjoint :
    ∀ left right leftRange rightRange page,
      held left = some leftRange → held right = some rightRange →
        leftRange.Covers page → rightRange.Covers page → left = right
  used :
    ∀ page : Fin size,
      empty page = false ↔
        ∃ owner range, held owner = some range ∧ range.Covers page

variable {empty : Flags size} {held : Owner → Option PageRange}

/-- The ranges of two owners lie apart. -/
theorem Exact.apart
    {left right : Owner} {leftRange rightRange : PageRange}
    (exact_ : Exact empty held) (different : left ≠ right)
    (leftHolds : held left = some leftRange)
    (rightHolds : held right = some rightRange)
    (leftNonempty : 0 < leftRange.count)
    (rightNonempty : 0 < rightRange.count) :
    leftRange.start + leftRange.count ≤ rightRange.start ∨
      rightRange.start + rightRange.count ≤ leftRange.start := by
  by_contra overlap
  have common (page : Nat) (leftCovers : leftRange.Covers page)
      (rightCovers : rightRange.Covers page) : False :=
    different (exact_.disjoint left right leftRange rightRange page leftHolds
      rightHolds leftCovers rightCovers)
  rcases Nat.le_total leftRange.start rightRange.start with before | after
  · exact common rightRange.start ⟨before, by omega⟩ ⟨Nat.le_refl _, by omega⟩
  · exact common leftRange.start ⟨Nat.le_refl _, by omega⟩ ⟨after, by omega⟩

/-- A table without owners is empty. -/
theorem Exact.initial :
    Exact (fun _ : Fin size => true) (fun _ : Owner => none) where
  inside := by simp
  disjoint := by simp
  used := by simp

variable [DecidableEq Owner]

/-- A free owner takes an empty range. -/
theorem Exact.claim
    {owner : Owner} {range : PageRange}
    (exact_ : Exact empty held) (idle : held owner = none)
    (inside : range.start + range.count ≤ size)
    (free : ∀ page : Fin size, range.Covers page → empty page = true) :
    Exact (mark empty range false)
      (Function.update held owner (some range)) where
  inside := by
    intro other otherRange holds
    by_cases same : other = owner
    · subst same
      rw [Function.update_self, Option.some.injEq] at holds
      exact holds ▸ inside
    · rw [Function.update_of_ne same] at holds
      exact exact_.inside other otherRange holds
  disjoint := by
    have fresh :
        ∀ other otherRange page, held other = some otherRange →
          otherRange.Covers page → ¬ range.Covers page := by
      intro other otherRange page holds covers claimed
      have bound : page < size := by
        have upper := claimed.2
        omega
      have isFree := free ⟨page, bound⟩ claimed
      have isUsed := (exact_.used ⟨page, bound⟩).mpr
        ⟨other, otherRange, holds, covers⟩
      exact absurd (isFree.symm.trans isUsed) (by simp)
    intro left right leftRange rightRange page leftHolds rightHolds leftCovers
      rightCovers
    by_cases leftSame : left = owner
    · by_cases rightSame : right = owner
      · exact leftSame.trans rightSame.symm
      · subst leftSame
        rw [Function.update_self, Option.some.injEq] at leftHolds
        rw [Function.update_of_ne rightSame] at rightHolds
        exact absurd (leftHolds ▸ leftCovers)
          (fresh right rightRange page rightHolds rightCovers)
    · rw [Function.update_of_ne leftSame] at leftHolds
      by_cases rightSame : right = owner
      · subst rightSame
        rw [Function.update_self, Option.some.injEq] at rightHolds
        exact absurd (rightHolds ▸ rightCovers)
          (fresh left leftRange page leftHolds leftCovers)
      · rw [Function.update_of_ne rightSame] at rightHolds
        exact exact_.disjoint left right leftRange rightRange page leftHolds
          rightHolds leftCovers rightCovers
  used := by
    intro page
    constructor
    · intro isUsed
      by_cases covers : range.Covers page
      · exact ⟨owner, range, Function.update_self _ _ _, covers⟩
      · rw [mark_of_not_covers _ _ covers] at isUsed
        obtain ⟨other, otherRange, holds, otherCovers⟩ :=
          (exact_.used page).mp isUsed
        have different : other ≠ owner := by
          rintro rfl
          rw [idle] at holds
          cases holds
        refine ⟨other, otherRange, ?_, otherCovers⟩
        rw [Function.update_of_ne different]
        exact holds
    · rintro ⟨other, otherRange, holds, otherCovers⟩
      by_cases covers : range.Covers page
      · exact mark_of_covers _ _ covers
      · rw [mark_of_not_covers _ _ covers]
        by_cases same : other = owner
        · subst same
          rw [Function.update_self, Option.some.injEq] at holds
          exact absurd (holds ▸ otherCovers) covers
        · rw [Function.update_of_ne same] at holds
          exact (exact_.used page).mpr ⟨other, otherRange, holds, otherCovers⟩

/-- An owner gives its range back. -/
theorem Exact.release
    {owner : Owner} {range : PageRange}
    (exact_ : Exact empty held) (holds : held owner = some range) :
    Exact (mark empty range true) (Function.update held owner none) where
  inside := by
    intro other otherRange otherHolds
    by_cases same : other = owner
    · subst same
      rw [Function.update_self] at otherHolds
      cases otherHolds
    · rw [Function.update_of_ne same] at otherHolds
      exact exact_.inside other otherRange otherHolds
  disjoint := by
    intro left right leftRange rightRange page leftHolds rightHolds leftCovers
      rightCovers
    by_cases leftSame : left = owner
    · subst leftSame
      rw [Function.update_self] at leftHolds
      cases leftHolds
    · rw [Function.update_of_ne leftSame] at leftHolds
      by_cases rightSame : right = owner
      · subst rightSame
        rw [Function.update_self] at rightHolds
        cases rightHolds
      · rw [Function.update_of_ne rightSame] at rightHolds
        exact exact_.disjoint left right leftRange rightRange page leftHolds
          rightHolds leftCovers rightCovers
  used := by
    intro page
    by_cases covers : range.Covers page
    · rw [mark_of_covers _ _ covers]
      constructor
      · intro contradiction
        cases contradiction
      · rintro ⟨other, otherRange, otherHolds, otherCovers⟩
        by_cases same : other = owner
        · subst same
          rw [Function.update_self] at otherHolds
          cases otherHolds
        · rw [Function.update_of_ne same] at otherHolds
          exact absurd (exact_.disjoint other owner otherRange range page
            otherHolds holds otherCovers covers) same
    · rw [mark_of_not_covers _ _ covers, exact_.used]
      constructor
      · rintro ⟨other, otherRange, otherHolds, otherCovers⟩
        have different : other ≠ owner := by
          rintro rfl
          rw [holds, Option.some.injEq] at otherHolds
          exact covers (otherHolds ▸ otherCovers)
        refine ⟨other, otherRange, ?_, otherCovers⟩
        rw [Function.update_of_ne different]
        exact otherHolds
      · rintro ⟨other, otherRange, otherHolds, otherCovers⟩
        by_cases same : other = owner
        · subst same
          rw [Function.update_self] at otherHolds
          cases otherHolds
        · rw [Function.update_of_ne same] at otherHolds
          exact ⟨other, otherRange, otherHolds, otherCovers⟩

end Ownership

section Stacked

/-- Exactly the first `used` pages are in use. -/
def Stacked (empty : Flags size) (used : Nat) : Prop :=
  ∀ page : Fin size, empty page = false ↔ page.val < used

variable {empty : Flags size} {used start count : Nat}

/-- Above a stack of pages there is room up to the end of the table. -/
theorem Stacked.run
    (stacked : Stacked empty used) (positive : 0 < count) :
    Run empty ⟨start, count⟩ ↔ used ≤ start ∧ start + count ≤ size := by
  constructor
  · intro run
    refine ⟨?_, run.inside⟩
    by_contra below
    have inside := run.inside
    dsimp only at inside
    have inUse := (stacked ⟨start, by omega⟩).mpr (by dsimp only; omega)
    have free := run.free ⟨start, by omega⟩ ⟨Nat.le_refl _, by
      dsimp only
      omega⟩
    rw [inUse] at free
    cases free
  · rintro ⟨above, inside⟩
    refine ⟨positive, inside, ?_⟩
    rintro page ⟨lower, _⟩
    dsimp only at lower
    rw [← Bool.not_eq_false, stacked page]
    omega

/-- Pages taken at the top of a stack make a higher stack. -/
theorem Stacked.mark
    (stacked : Stacked empty used) :
    Stacked (PageMap.mark empty ⟨used, count⟩ false) (used + count) := by
  intro page
  by_cases covers : PageRange.Covers ⟨used, count⟩ page
  · rw [mark_of_covers empty false covers]
    exact iff_of_true rfl covers.2
  · rw [mark_of_not_covers empty false covers, stacked page]
    have outside : ¬ (used ≤ page.val ∧ page.val < used + count) := covers
    omega

end Stacked

end PageMap
