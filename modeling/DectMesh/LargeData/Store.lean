import DectMesh.Library.Bitmap
import DectMesh.LargeData.Moves

/-!
# What the large-data store holds

Two invariants.  The pages of the active slots do not overlap and are exactly
the pages in use; this holds on every board.  On a gateway or an anchor the
bitmap, the counter and the checksum of every active slot agree with what its
pages hold.
-/

namespace DectMesh

open ByteStore

/-- The part of a slot that page ownership depends on. -/
def LdSlot.extent (slot : LdSlot) : Bool × UInt32 × UInt32 :=
  (slot.active, slot.totalSize, slot.baseAddr)

/-- The pages each slot owns. -/
def LdPlane.held (s : LdPlane) (idx : Fin ldReceiverSlotCount) :
    Option PageRange :=
  if (s.slots idx).active then some (s.slots idx).pages else none

/-- The invariant of the page allocator. -/
structure LdAllocated (s : LdPlane) : Prop where
  flags : PageMap.Exact s.isLdSlotEmpty s.held
  size :
    ∀ idx, (s.slots idx).active = true →
      0 < (s.slots idx).totalSize.toNat ∧
        (s.slots idx).totalSize.toNat ≤ ldMaxTransferSize
  base :
    ∀ idx, (s.slots idx).active = true →
      (s.slots idx).baseAddr.toNat =
        psramLargeDataBase + (s.slots idx).pages.start * ldPageSize

section Allocation

variable {s s' : LdPlane}

theorem held_of_active
    {idx : Fin ldReceiverSlotCount} (active : (s.slots idx).active = true) :
    s.held idx = some (s.slots idx).pages :=
  if_pos active

theorem held_update
    {idx : Fin ldReceiverSlotCount} {slot : LdSlot}
    (slots : s'.slots = Function.update s.slots idx slot) :
    s'.held = Function.update s.held idx
      (if slot.active then some slot.pages else none) := by
  funext other
  unfold LdPlane.held
  rw [slots]
  by_cases same : other = idx
  · subst same
    simp
  · simp [Function.update_of_ne same]

/-- The allocator only looks at extents and page flags. -/
theorem LdAllocated.congr
    (allocated : LdAllocated s)
    (extents : ∀ idx, (s'.slots idx).extent = (s.slots idx).extent)
    (pages : s'.isLdSlotEmpty = s.isLdSlotEmpty) : LdAllocated s' := by
  have active idx : (s'.slots idx).active = (s.slots idx).active :=
    congrArg Prod.fst (extents idx)
  have totalSize idx : (s'.slots idx).totalSize = (s.slots idx).totalSize :=
    congrArg (fun extent => extent.2.1) (extents idx)
  have baseAddr idx : (s'.slots idx).baseAddr = (s.slots idx).baseAddr :=
    congrArg (fun extent => extent.2.2) (extents idx)
  have range idx : (s'.slots idx).pages = (s.slots idx).pages := by
    unfold LdSlot.pages
    rw [totalSize, baseAddr]
  have held : s'.held = s.held := by
    funext idx
    unfold LdPlane.held
    rw [active, range]
  constructor
  · rw [pages, held]
    exact allocated.flags
  · intro idx isActive
    rw [totalSize]
    exact allocated.size idx (active idx ▸ isActive)
  · intro idx isActive
    rw [baseAddr, range]
    exact allocated.base idx (active idx ▸ isActive)

/-- One slot changed, but not its extent. -/
theorem LdAllocated.setSlot
    {idx : Fin ldReceiverSlotCount} {slot : LdSlot}
    (allocated : LdAllocated s)
    (slots : s'.slots = Function.update s.slots idx slot)
    (pages : s'.isLdSlotEmpty = s.isLdSlotEmpty)
    (extent : slot.extent = (s.slots idx).extent) : LdAllocated s' := by
  apply allocated.congr _ pages
  intro other
  rw [slots]
  by_cases same : other = idx
  · subst same
    rw [Function.update_self]
    exact extent
  · rw [Function.update_of_ne same]

/-- What the first-fit search knows about the range it returns. -/
theorem findPages_spec
    {size : UInt32} {range : PageRange}
    (fits : s.findPages size = some range) (positive : 0 < size.toNat) :
    range.start + range.count ≤ ldMaxPageCount ∧
      range.count = (size.toNat + ldPageSize - 1) / ldPageSize ∧
        (UInt32.ofNat
          (psramLargeDataBase + range.start * ldPageSize)).toNat =
            psramLargeDataBase + range.start * ldPageSize ∧
          ∀ page : Fin ldMaxPageCount, range.Covers page →
            s.isLdSlotEmpty page = true := by
  have found := PageMap.firstFit_fits fits
  have nonempty := found.nonempty
  have inside := found.inside
  have pageSize : ldPageSize = 5760 := rfl
  have maxPages : ldMaxPageCount = 1092 := rfl
  have base : psramLargeDataBase = 0x200000 := rfl
  have longEnough : size.toNat ≤ range.count * ldPageSize := by
    simpa using found.longEnough
  have least : (range.count - 1) * ldPageSize < size.toNat := by
    rcases Nat.eq_zero_or_pos (range.count - 1) with first | more
    · rw [first]
      omega
    · simpa using found.least (range.count - 1) more (by omega)
  refine ⟨inside, ?_, ?_, found.free⟩
  · rw [pageSize] at longEnough least ⊢
    omega
  · rw [UInt32.toNat_ofNat', pageSize, base]
    omega

/-- A cleared slot gets pages of its own. -/
theorem LdAllocated.claim
    {idx : Fin ldReceiverSlotCount} {range : PageRange} {size : UInt32}
    {slot : LdSlot}
    (allocated : LdAllocated s) (free : s.freeSlot = some idx)
    (fits : s.findPages size = some range)
    (positive : 0 < size.toNat) (bound : size.toNat ≤ ldMaxTransferSize)
    (slots : s'.slots = Function.update s.slots idx slot)
    (pages : s'.isLdSlotEmpty = PageMap.mark s.isLdSlotEmpty range false)
    (active : slot.active = true) (totalSize : slot.totalSize = size)
    (baseAddr : slot.baseAddr =
      UInt32.ofNat (psramLargeDataBase + range.start * ldPageSize)) :
    LdAllocated s' := by
  obtain ⟨inside, count, address, empty⟩ := findPages_spec fits positive
  have pageSize : ldPageSize = 5760 := rfl
  have own : slot.pages = range := by
    have start : slot.pages.start = range.start := by
      simp only [LdSlot.pages, baseAddr, address]
      rw [Nat.add_sub_cancel_left]
      exact Nat.mul_div_cancel _ (by omega)
    have length : slot.pages.count = range.count := by
      simp only [LdSlot.pages, totalSize, count]
    cases range
    simp_all [LdSlot.pages]
  have idle : s.held idx = none :=
    if_neg (by simp [LdPlane.freeSlot_some free])
  constructor
  · rw [pages, held_update slots, if_pos active, own]
    exact allocated.flags.claim idle inside empty
  · intro other otherActive
    rw [slots] at otherActive ⊢
    by_cases same : other = idx
    · subst same
      rw [Function.update_self, totalSize]
      exact ⟨positive, bound⟩
    · rw [Function.update_of_ne same] at otherActive ⊢
      exact allocated.size other otherActive
  · intro other otherActive
    rw [slots] at otherActive ⊢
    by_cases same : other = idx
    · subst same
      rw [Function.update_self, own, baseAddr, address]
    · rw [Function.update_of_ne same] at otherActive ⊢
      exact allocated.base other otherActive

@[simp]
theorem freeLargeDataSlot_slots
    (s : LdPlane) (idx : Fin ldReceiverSlotCount) (senderIdx : UInt8) :
    (s.freeLargeDataSlot idx senderIdx).slots =
      Function.update s.slots idx (s.slots idx).freed := by
  unfold LdPlane.freeLargeDataSlot
  dsimp only
  split <;> rfl

@[simp]
theorem freeLargeDataSlot_pages
    (s : LdPlane) (idx : Fin ldReceiverSlotCount) (senderIdx : UInt8) :
    (s.freeLargeDataSlot idx senderIdx).isLdSlotEmpty =
      PageMap.mark s.isLdSlotEmpty (s.slots idx).pages true := by
  unfold LdPlane.freeLargeDataSlot
  dsimp only
  split <;> rfl

@[simp]
theorem freeLargeDataSlot_io
    (s : LdPlane) (idx : Fin ldReceiverSlotCount) (senderIdx : UInt8) :
    (s.freeLargeDataSlot idx senderIdx).io = s.io := by
  unfold LdPlane.freeLargeDataSlot
  dsimp only
  split <;> rfl

/-- A slot gives its pages back. -/
theorem LdAllocated.release
    {idx : Fin ldReceiverSlotCount} {senderIdx : UInt8}
    (allocated : LdAllocated s) (active : (s.slots idx).active = true) :
    LdAllocated (s.freeLargeDataSlot idx senderIdx) := by
  have slots := freeLargeDataSlot_slots s idx senderIdx
  have inactive : (s.slots idx).freed.active = false := rfl
  constructor
  · rw [freeLargeDataSlot_pages, held_update slots, if_neg (by simp [inactive])]
    exact allocated.flags.release (held_of_active active)
  · intro other otherActive
    rw [slots] at otherActive ⊢
    by_cases same : other = idx
    · subst same
      rw [Function.update_self, inactive] at otherActive
      cases otherActive
    · rw [Function.update_of_ne same] at otherActive ⊢
      exact allocated.size other otherActive
  · intro other otherActive
    rw [slots] at otherActive ⊢
    by_cases same : other = idx
    · subst same
      rw [Function.update_self, inactive] at otherActive
      cases otherActive
    · rw [Function.update_of_ne same] at otherActive ⊢
      exact allocated.base other otherActive

/-- After `large_data_init` every page is empty. -/
theorem allocated_largeDataInit (s : LdPlane) : LdAllocated s.largeDataInit where
  flags := PageMap.Exact.initial
  size := by
    intro idx active
    cases active
  base := by
    intro idx active
    cases active

/-- The sizes `cmd_ld_init` admits. -/
theorem LdAcceptedCommand.size
    {env : Env} {event : LdEvent} {command : LdPlane.LdInitCommand}
    (accepted : LdAcceptedCommand env event command) :
    0 < command.total.toUInt32.toNat ∧
      command.total.toUInt32.toNat ≤ ldMaxTransferSize := by
  have ranges := accepted.inRange
  simp only [LdPlane.LdInitCommand.inRange, decide_eq_true_eq, ne_eq,
    ← UInt64.toNat_inj] at ranges
  have zero : (0 : UInt64).toNat = 0 := rfl
  have limit : ldMaxTransferSize = 204800 := rfl
  rw [UInt64.toNat_toUInt32]
  omega

/-- Every move keeps the page flags exact. -/
theorem LdMove.keepsAllocated
    {env : Env} {event : LdEvent}
    (move : LdMove env event s s') (allocated : LdAllocated s) :
    LdAllocated s' := by
  cases move with
  | quiet same =>
      apply allocated.congr _ same.pages
      intro idx
      have extent := congrArg LdSlot.extent (same.slots idx)
      exact extent
  | acknowledged received complete same =>
      apply allocated.congr _ same.pages
      intro idx
      have extent := congrArg LdSlot.extent (same.slots idx)
      exact extent
  | freed ticked active ready reason => exact allocated.release active
  | accepted init idle missing free fits =>
      exact allocated.claim free fits init.totalSize.1 init.totalSize.2 rfl rfl
        rfl rfl rfl
  | storeFailed role received storable mem =>
      exact allocated.congr (fun _ => rfl) rfl
  | stored role received storable mem partly =>
      exact allocated.setSlot rfl rfl rfl
  | completed role received storable mem full checksum =>
      exact allocated.setSlot rfl rfl rfl
  | @rejected idx bit pkt io srcId role received storable mem full =>
      have stored : LdAllocated ({ s with io := io }.setSlot idx
          (LdPlane.storedSlot env (s.slots idx) bit)) :=
        allocated.setSlot rfl rfl rfl
      have active := (LdPlane.findLargeDataSlot_some storable.found).1
      have released : LdAllocated (({ s with io := io }.setSlot idx
          (LdPlane.storedSlot env (s.slots idx) bit)).freeLargeDataSlot
            idx 255) :=
        stored.release
          (by simpa [LdPlane.setSlot, LdPlane.storedSlot] using active)
      exact { released with }
  | hostAllocated accepted missing free fits =>
      exact allocated.claim free fits accepted.size.1 accepted.size.2 rfl rfl
        rfl rfl rfl
  | @hostLost idx linear payload io written stageable mem =>
      have written : LdAllocated { s with io := io } :=
        allocated.congr (fun _ => rfl) rfl
      exact written.release stageable.active
  | hostStored stageable mem partly => exact allocated.setSlot rfl rfl rfl
  | hostCompleted stageable mem full checksum =>
      exact allocated.setSlot rfl rfl rfl
  | @hostRejected idx linear payload io stageable mem full =>
      have staged : LdAllocated
          ({ s with io := io }.setSlot idx ((s.slots idx).staged env)) :=
        allocated.setSlot rfl rfl rfl
      exact staged.release
        (by simpa [LdPlane.setSlot, LdSlot.staged] using stageable.active)
  | restarted restart => exact allocated_largeDataInit s
  | elsewhere other slots pages busy region =>
      exact allocated.congr (fun idx => by rw [slots]) pages

theorem LdMoves.keepsAllocated
    {env : Env} {event : LdEvent}
    (moves : LdMoves env event s s') (allocated : LdAllocated s) :
    LdAllocated s' := by
  induction moves with
  | refl => exact allocated
  | tail _ move inductionHypothesis =>
      exact move.keepsAllocated inductionHypothesis

end Allocation

end DectMesh
