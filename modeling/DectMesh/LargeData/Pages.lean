import DectMesh.LargeData.Integrity

/-!
# The page allocator

After `large_data_init`, on every board and in every run: a page is in use
exactly when it belongs to one active slot, and an allocation fails only when
there is no slot or no room, and takes the lowest room there is.
-/

namespace DectMesh

open PageMap

/-- The pages a blob of a given size needs. -/
def pagesOf (size : UInt32) : Nat :=
  (size.toNat + ldPageSize - 1) / ldPageSize

/-- The pages from `start` on have room for a blob of the given size. -/
def LdPlane.Room (s : LdPlane) (size : UInt32) (start : Nat) : Prop :=
  Run s.isLdSlotEmpty ⟨start, pagesOf size⟩

section Allocation

variable {s : LdPlane} {size : UInt32}

theorem pagesOf_pos (positive : 0 < size.toNat) : 0 < pagesOf size := by
  have pageSize : ldPageSize = 5760 := rfl
  unfold pagesOf
  rw [pageSize]
  omega

theorem enough_pagesOf (size : UInt32) :
    size.toNat ≤ pagesOf size * ldPageSize := by
  have pageSize : ldPageSize = 5760 := rfl
  unfold pagesOf
  rw [pageSize]
  omega

/-- Pages are found wherever there is room, and not above it. -/
theorem findPages_of_room
    {start : Nat} (room : s.Room size start) :
    ∃ range, s.findPages size = some range ∧ range.start ≤ start :=
  firstFit_first room (by simpa using enough_pagesOf size)

/-- What the search returns is the lowest room there is. -/
theorem findPages_least
    {range : PageRange} (positive : 0 < size.toNat)
    (found : s.findPages size = some range) :
    range.count = pagesOf size ∧ s.Room size range.start ∧
      ∀ start, s.Room size start → range.start ≤ start := by
  have count : range.count = pagesOf size := (findPages_spec found positive).2.1
  have fits := (firstFit_fits found).run
  refine ⟨count, ?_, ?_⟩
  · unfold LdPlane.Room
    rw [← count]
    exact fits
  · intro start room
    obtain ⟨lowest, first, below⟩ := findPages_of_room room
    rw [found, Option.some.injEq] at first
    exact first ▸ below

theorem freeSlot_none :
    s.freeSlot = none ↔ ∀ idx, (s.slots idx).active = true := by
  unfold LdPlane.freeSlot
  simp

/-- An allocation fails exactly without a free slot or without room. -/
theorem allocLargeDataSlot_none (positive : 0 < size.toNat) :
    s.allocLargeDataSlot size = none ↔
      (∀ idx, (s.slots idx).active = true) ∨
        ∀ start, ¬ s.Room size start := by
  unfold LdPlane.allocLargeDataSlot
  rw [← freeSlot_none]
  cases slot : s.freeSlot with
  | none => simp
  | some idx =>
      cases found : s.findPages size with
      | none =>
          refine iff_of_true rfl (.inr ?_)
          intro start room
          obtain ⟨range, first, _⟩ := findPages_of_room room
          rw [found] at first
          cases first
      | some range =>
          have room := (findPages_least positive found).2.1
          refine iff_of_false (by simp) ?_
          rintro (full | noRoom)
          · cases full
          · exact noRoom range.start room

/-- An allocation takes a free slot and the lowest room. -/
theorem allocLargeDataSlot_some
    {s' : LdPlane} {idx : Fin ldReceiverSlotCount} (positive : 0 < size.toNat)
    (allocated : s.allocLargeDataSlot size = some (s', idx)) :
    (s.slots idx).active = false ∧
      ∃ start, s.Room size start ∧ (∀ other, s.Room size other → start ≤ other) ∧
        (s'.slots idx).active = true ∧
        (s'.slots idx).baseAddr.toNat =
          psramLargeDataBase + start * ldPageSize ∧
        s'.isLdSlotEmpty =
          mark s.isLdSlotEmpty ⟨start, pagesOf size⟩ false ∧
        ∀ other, other ≠ idx → s'.slots other = s.slots other := by
  unfold LdPlane.allocLargeDataSlot at allocated
  split at allocated
  · cases allocated
  · next free =>
    split at allocated
    · cases allocated
    · next range found =>
      cases allocated
      obtain ⟨count, room, least⟩ := findPages_least positive found
      have address := (findPages_spec found positive).2.2.1
      refine ⟨LdPlane.freeSlot_some free, range.start, room, least, ?_⟩
      rw [← count]
      refine ⟨?_, ?_, rfl, ?_⟩
      · simp [LdPlane.setSlot, LdPlane.allocatedSlot]
      · simpa [LdPlane.setSlot, LdPlane.allocatedSlot] using address
      · intro other different
        simp [LdPlane.setSlot, Function.update_of_ne different]

end Allocation

section Runs

/-- Runs on any board that start from `large_data_init` keep the page flags
exact. -/
theorem reach_allocated
    {board : Board} {start s : LdPlane}
    (reach : Trace.Reach ldStep (LdOnBoard board) start.largeDataInit s) :
    LdAllocated s := by
  apply reach.invariant
  · exact allocated_largeDataInit start
  · rintro before ⟨env, event⟩ after allocated ⟨_, allowed⟩ stepped
    have cleared : LdAllocated before.clearOut := { allocated with }
    exact (LdPlane.step_moves allowed stepped).keepsAllocated cleared

/-- In every run that starts with `large_data_init`: a page is in use exactly
when one active slot owns it, the slots own pages of the table and of the
PSRAM only, and an allocation of an admissible size fails exactly when every
slot is active or no run of empty pages is long enough, and otherwise takes
the lowest one. -/
theorem ldPages_exact
    {board : Board} {start s : LdPlane}
    (reach : Trace.Reach ldStep (LdOnBoard board) start.largeDataInit s) :
    (∀ page : Fin ldMaxPageCount,
      s.isLdSlotEmpty page = false ↔
        ∃! idx, (s.slots idx).active = true ∧
          (s.slots idx).pages.Covers page) ∧
      (∀ idx, (s.slots idx).active = true →
        (s.slots idx).baseAddr.toNat =
            psramLargeDataBase + (s.slots idx).pages.start * ldPageSize ∧
          (s.slots idx).pages.start + (s.slots idx).pages.count ≤
            ldMaxPageCount ∧
          (s.slots idx).regionEnd ≤ psramSize) ∧
      ∀ size : UInt32, 1 ≤ size.toNat → size.toNat ≤ ldMaxTransferSize →
        (s.allocLargeDataSlot size = none ↔
          (∀ idx, (s.slots idx).active = true) ∨
            ∀ first, ¬ s.Room size first) ∧
          ∀ s' idx, s.allocLargeDataSlot size = some (s', idx) →
            (s.slots idx).active = false ∧
              ∃ first, s.Room size first ∧
                (∀ other, s.Room size other → first ≤ other) ∧
                (s'.slots idx).active = true ∧
                (s'.slots idx).baseAddr.toNat =
                  psramLargeDataBase + first * ldPageSize ∧
                s'.isLdSlotEmpty =
                  mark s.isLdSlotEmpty ⟨first, pagesOf size⟩ false ∧
                ∀ other, other ≠ idx → s'.slots other = s.slots other := by
  have allocated := reach_allocated reach
  refine ⟨?_, ?_, ?_⟩
  · intro page
    have owned (idx : Fin ldReceiverSlotCount) (range : PageRange)
        (holds : s.held idx = some range) :
        (s.slots idx).active = true ∧ (s.slots idx).pages = range := by
      unfold LdPlane.held at holds
      split at holds
      · next active => exact ⟨active, Option.some.inj holds⟩
      · cases holds
    rw [allocated.flags.used page]
    constructor
    · rintro ⟨idx, range, holds, covers⟩
      obtain ⟨active, rfl⟩ := owned idx range holds
      refine ⟨idx, ⟨active, covers⟩, ?_⟩
      rintro other ⟨otherActive, otherCovers⟩
      exact allocated.flags.disjoint other idx _ _ page
        (held_of_active otherActive) holds otherCovers covers
    · rintro ⟨idx, ⟨active, covers⟩, _⟩
      exact ⟨idx, _, held_of_active active, covers⟩
  · intro idx active
    have upper := (allocated.region_inside active).2
    have regionEnd : LdPlane.ldRegionEnd ≤ psramSize := by decide
    exact ⟨allocated.base idx active,
      allocated.flags.inside idx _ (held_of_active active),
      Nat.le_trans upper regionEnd⟩
  · intro size positive _
    exact ⟨allocLargeDataSlot_none positive, fun s' idx allocation =>
      allocLargeDataSlot_some positive allocation⟩

end Runs

section Samples

/-- After the start page zero is free. -/
example : (LdPlane.boot {}).largeDataInit.isLdSlotEmpty ⟨0, by decide⟩ = true := by
  decide +kernel

/-- A blob of one byte owns page zero. -/
theorem ldPages_exact_oneByte :
    Trace.Ends ldStep (LdPlane.boot {}).largeDataInit
      [(ldGateway, ldSampleInit)]
      fun s =>
        s.isLdSlotEmpty ⟨0, by decide⟩ = false ∧
          ∃! idx, (s.slots idx).active = true ∧
            (s.slots idx).pages.Covers 0 := by
  obtain ⟨s, executed, inUse⟩ :
      Trace.Ends ldStep (LdPlane.boot {}).largeDataInit
        [(ldGateway, ldSampleInit)]
        fun s => s.isLdSlotEmpty ⟨0, by decide⟩ = false := by
    decide +kernel
  have admitted :
      ∀ event ∈ [(ldGateway, ldSampleInit)],
        ∀ before, LdOnBoard ldGateway.toBoard before event := by
    intro event member before
    rw [List.mem_singleton] at member
    subst member
    exact ⟨rfl, trivial⟩
  have pages := (ldPages_exact (.of_run admitted executed)).1
  exact ⟨s, executed, inUse, (pages ⟨0, by decide⟩).mp inUse⟩

end Samples

end DectMesh
