import Mathlib.Algebra.BigOperators.Fin
import DectMesh.Report.Moves

/-!
# What a report slot holds

The invariant of the report slots and their PSRAM regions.  It is about one
slot and the bytes of its own region, so a move only has to be followed in the
slot it changes, provided that its writes stay inside that slot's region.
-/

namespace DectMesh

open ByteStore

/-- The checksummed bytes of a slot. -/
def slotBytes (mem : Store) (idx : Fin dataSlotCount) (slot : ReportSlot) :
    List UInt8 :=
  slice mem (slotPsramAddr idx) slot.totalSize.toNat

/-- The condition on a run under which slots stay isolated: the chunk being
stored ends inside its slot's region. -/
def StoresInside (s : ReportPlane) (event : ReportEvent) : Prop :=
  ∀ pkt srcId idx chunk, event = .reportChunk pkt srcId →
    StorableChunk s idx chunk pkt →
      pkt.chunkIndex.toNat * sendDataMax +
        (ReportPlane.storedChunkSize (s.slots idx) pkt.chunkIndex).toNat ≤
          maxReportSize

/-- The invariant of an active slot. -/
structure SlotInvariant
    (crc : Checksum) (mem : Store) (idx : Fin dataSlotCount)
    (slot : ReportSlot) : Prop where
  chunkCount : 0 < slot.chunkCount.toNat ∧ slot.chunkCount.toNat ≤ dataMaxChunks
  totalSize : 0 < slot.totalSize.toNat ∧ slot.totalSize.toNat ≤ maxReportSize
  flags :
    slot.upstreamReady = false → ∀ chunk, slot.received chunk = true →
      chunk.val < slot.chunkCount.toNat
  counted :
    slot.upstreamReady = false →
      slot.receivedCount.toNat = ∑ chunk, (slot.received chunk).toNat
  complete :
    slot.upstreamReady = true → ∀ chunk : Fin dataMaxChunks,
      chunk.val < slot.chunkCount.toNat → slot.received chunk = true
  checksum :
    slot.upstreamReady = true → crc.ieee (slotBytes mem idx slot) = slot.crc32

/-- What an active slot says about its chunks. -/
structure SlotTally (slot : ReportSlot) : Prop where
  flags :
    slot.upstreamReady = false → ∀ chunk, slot.received chunk = true →
      chunk.val < slot.chunkCount.toNat
  counted :
    slot.upstreamReady = false →
      slot.receivedCount.toNat = ∑ chunk, (slot.received chunk).toNat
  complete :
    slot.upstreamReady = true → ∀ chunk : Fin dataMaxChunks,
      chunk.val < slot.chunkCount.toNat → slot.received chunk = true

theorem SlotInvariant.tally
    {crc : Checksum} {mem : Store} {idx : Fin dataSlotCount} {slot : ReportSlot}
    (invariant : SlotInvariant crc mem idx slot) : SlotTally slot :=
  ⟨invariant.flags, invariant.counted, invariant.complete⟩

/-- Every active slot satisfies its invariant. -/
def Stored (crc : Checksum) (s : ReportPlane) : Prop :=
  ∀ idx, (s.slots idx).active = true →
    SlotInvariant crc s.io.psram.mem idx (s.slots idx)

theorem sum_received (received : Fin dataMaxChunks → Bool) :
    ∑ chunk, (received chunk).toNat =
      (received ⟨0, by decide⟩).toNat + (received ⟨1, by decide⟩).toNat :=
  Fin.sum_univ_two fun chunk => (received chunk).toNat

/-- Setting a missing flag adds one to the count. -/
theorem sum_received_update
    {received : Fin dataMaxChunks → Bool} {chunk : Fin dataMaxChunks}
    (missing : received chunk = false) :
    ∑ other, (Function.update received chunk true other).toNat =
      (∑ other, (received other).toNat) + 1 := by
  rw [sum_received, sum_received]
  obtain ⟨value, bound⟩ := chunk
  have cases : value = 0 ∨ value = 1 := by
    have limit : dataMaxChunks = 2 := rfl
    omega
  rcases cases with rfl | rfl
  · simp [missing]
    omega
  · simp [missing]

theorem sum_received_le (received : Fin dataMaxChunks → Bool) :
    ∑ chunk, (received chunk).toNat ≤ dataMaxChunks := by
  rw [sum_received]
  have first := Bool.toNat_le (received ⟨0, by decide⟩)
  have second := Bool.toNat_le (received ⟨1, by decide⟩)
  have limit : dataMaxChunks = 2 := rfl
  omega

/-- Where all flags lie below a count they add up to, all of them are set. -/
theorem all_received
    {received : Fin dataMaxChunks → Bool} {count : Nat}
    (flags : ∀ chunk, received chunk = true → chunk.val < count)
    (sum : ∑ chunk, (received chunk).toNat = count)
    (chunk : Fin dataMaxChunks) (below : chunk.val < count) :
    received chunk = true := by
  rw [sum_received] at sum
  have first := flags ⟨0, by decide⟩
  have second := flags ⟨1, by decide⟩
  obtain ⟨value, bound⟩ := chunk
  have limit : dataMaxChunks = 2 := rfl
  have cases : value = 0 ∨ value = 1 := by omega
  by_contra missing
  rw [Bool.not_eq_true] at missing
  dsimp only at below
  rcases cases with rfl | rfl
  · cases one : received ⟨1, by decide⟩ with
    | false =>
        simp only [missing, one, Bool.toNat_false] at sum
        omega
    | true =>
        have above : 1 < count := second one
        simp only [missing, one, Bool.toNat_false, Bool.toNat_true] at sum
        omega
  · have limited := Bool.toNat_le (received ⟨0, by decide⟩)
    simp only [missing, Bool.toNat_false] at sum
    omega

theorem slotPsramAddr_eq (idx : Fin dataSlotCount) :
    slotPsramAddr idx = 0x100000 + idx.val * 256 := rfl

/-- The regions of two slots are disjoint. -/
theorem slotPsramAddr_disjoint
    {left right : Fin dataSlotCount} (different : left ≠ right) :
    slotPsramAddr left + maxReportSize ≤ slotPsramAddr right ∨
      slotPsramAddr right + maxReportSize ≤ slotPsramAddr left := by
  have distinct : left.val ≠ right.val := fun same => different (Fin.ext same)
  have size : maxReportSize = 256 := rfl
  simp only [slotPsramAddr_eq, size]
  omega

/-- A slot's invariant reads its own region only. -/
theorem SlotInvariant.congr
    {crc : Checksum} {mem mem' : Store} {idx : Fin dataSlotCount}
    {slot : ReportSlot}
    (invariant : SlotInvariant crc mem idx slot)
    (agree : AgreeOn mem' mem (slotPsramAddr idx)
      (slotPsramAddr idx + maxReportSize)) :
    SlotInvariant crc mem' idx slot :=
  { invariant with
    checksum := by
      intro ready
      have bound := invariant.totalSize.2
      rw [← invariant.checksum ready]
      unfold slotBytes
      rw [slice_congr agree (Nat.le_refl _) (by omega)] }

/-- What a slot keeps when its flags for the transfer upstream change. -/
theorem SlotInvariant.flagged
    {crc : Checksum} {mem : Store} {idx : Fin dataSlotCount}
    {slot : ReportSlot} (invariant : SlotInvariant crc mem idx slot)
    (isSent isTransfered : Bool) :
    SlotInvariant crc mem idx
      { slot with isSent := isSent, isTransfered := isTransfered } :=
  ⟨invariant.chunkCount, invariant.totalSize, invariant.flags,
    invariant.counted, invariant.complete, invariant.checksum⟩

namespace Stored

variable {crc : Checksum} {s s' : ReportPlane}

/-- One slot changed, and memory at most in its region. -/
theorem update
    {idx : Fin dataSlotCount} {slot : ReportSlot}
    (stored : Stored crc s)
    (slots : s'.slots = Function.update s.slots idx slot)
    (others : ∀ other, other ≠ idx →
      AgreeOn s'.io.psram.mem s.io.psram.mem (slotPsramAddr other)
        (slotPsramAddr other + maxReportSize))
    (changed : slot.active = true →
      SlotInvariant crc s'.io.psram.mem idx slot) :
    Stored crc s' := by
  rw [Stored, slots]
  exact (Function.forall_update_iff s.slots
    fun other slot => slot.active = true → SlotInvariant crc s'.io.psram.mem
      other slot).mpr
      ⟨changed, fun other same active => (stored other active).congr (others other same)⟩

/-- Only the memory changed, and it did not change for active slots. -/
theorem keep
    (stored : Stored crc s) (slots : s'.slots = s.slots)
    (agree : ∀ idx, (s.slots idx).active = true →
      AgreeOn s'.io.psram.mem s.io.psram.mem (slotPsramAddr idx)
        (slotPsramAddr idx + maxReportSize)) :
    Stored crc s' := by
  intro idx active
  rw [slots] at active ⊢
  exact (stored idx active).congr (agree idx active)

end Stored

/-- A splice inside one slot's region does not reach the others. -/
theorem agreeOn_other
    (mem : Store) {idx other : Fin dataSlotCount} {addr : Nat}
    {block : List UInt8}
    (different : other ≠ idx)
    (lower : slotPsramAddr idx ≤ addr)
    (upper : addr + block.length ≤ slotPsramAddr idx + maxReportSize) :
    AgreeOn (splice mem addr block) mem (slotPsramAddr other)
      (slotPsramAddr other + maxReportSize) := by
  apply agreeOn_splice
  rcases slotPsramAddr_disjoint different with before | after
  · exact .inl (by omega)
  · exact .inr (by omega)

theorem sendDataMax_toNat : (UInt8.ofNat sendDataMax).toNat = sendDataMax := by
  decide

/-- A chunk that ends inside its slot's region is stored inside it. -/
theorem chunkWrite_inside
    {s : ReportPlane} {event : ReportEvent} {idx : Fin dataSlotCount}
    {chunk : Fin dataMaxChunks} {pkt : ReportChunk} {srcId : UInt16}
    (inside : StoresInside s event)
    (received : event = .reportChunk pkt srcId)
    (storable : StorableChunk s idx chunk pkt) :
    slotPsramAddr idx ≤ chunkWriteAddr idx pkt ∧
      chunkWriteAddr idx pkt + (chunkBytes s idx pkt).length ≤
        slotPsramAddr idx + maxReportSize := by
  have bound := inside pkt srcId idx chunk received storable
  have length : (chunkBytes s idx pkt).length ≤
      (ReportPlane.storedChunkSize (s.slots idx) pkt.chunkIndex).toNat := by
    simp [chunkBytes]
  unfold chunkWriteAddr
  omega

/-- Nothing is received of a report that was just announced. -/
theorem acceptedSlot_invariant
    {env : Env} {event : ReportEvent} {pkt : ReportInit} {base : ReportSlot}
    {crc : Checksum} {mem : Store} {idx : Fin dataSlotCount}
    (init : AcceptedInit env event pkt)
    (notReady : base.upstreamReady = false) :
    SlotInvariant crc mem idx (ReportPlane.acceptedSlot env base pkt) where
  chunkCount := init.chunkCount
  totalSize := init.totalSize
  flags := by simp [ReportPlane.acceptedSlot]
  counted := by simp [ReportPlane.acceptedSlot]
  complete := by simp [ReportPlane.acceptedSlot, notReady]
  checksum := by simp [ReportPlane.acceptedSlot, notReady]

section Chunks

variable {crc : Checksum} {env : Env} {s : ReportPlane}
variable {idx : Fin dataSlotCount} {chunk : Fin dataMaxChunks}
variable {pkt : ReportChunk} {mem : Store}

/-- A slot with a missing chunk is not ready. -/
theorem StorableChunk.notReady
    (storable : StorableChunk s idx chunk pkt)
    (tally : SlotTally (s.slots idx)) :
    (s.slots idx).upstreamReady = false := by
  by_contra ready
  have below := UInt8.lt_iff_toNat_lt.mp storable.inRange
  rw [storable.index] at below
  have received := tally.complete (by simpa using ready) chunk below
  rw [storable.missing] at received
  cases received

theorem storedSlot_flags
    (storable : StorableChunk s idx chunk pkt)
    (tally : SlotTally (s.slots idx))
    (other : Fin dataMaxChunks)
    (flag : Function.update (s.slots idx).received chunk true other = true) :
    other.val < (s.slots idx).chunkCount.toNat := by
  by_cases same : other = chunk
  · have below := UInt8.lt_iff_toNat_lt.mp storable.inRange
    rw [storable.index] at below
    rw [same]
    exact below
  · rw [Function.update_of_ne same] at flag
    exact tally.flags (storable.notReady tally) other flag

theorem storedSlot_counted
    (storable : StorableChunk s idx chunk pkt)
    (tally : SlotTally (s.slots idx)) :
    ((s.slots idx).receivedCount + 1).toNat =
      ∑ other, (Function.update (s.slots idx).received chunk true
        other).toNat := by
  have counted := tally.counted (storable.notReady tally)
  have limit := sum_received_le (s.slots idx).received
  have maximum : dataMaxChunks = 2 := rfl
  rw [sum_received_update storable.missing, ← counted, UInt8.toNat_add]
  have one : (1 : UInt8).toNat = 1 := rfl
  omega

theorem storedSlot_tally
    (storable : StorableChunk s idx chunk pkt)
    (tally : SlotTally (s.slots idx)) :
    SlotTally (ReportPlane.storedSlot env (s.slots idx) chunk) where
  flags := fun _ => storedSlot_flags storable tally
  counted := fun _ => storedSlot_counted storable tally
  complete := by simp [ReportPlane.storedSlot, storable.notReady tally]

theorem readySlot_tally
    (storable : StorableChunk s idx chunk pkt)
    (tally : SlotTally (s.slots idx))
    (full : (s.slots idx).receivedCount + 1 = (s.slots idx).chunkCount) :
    SlotTally (ReportPlane.readySlot env
      (ReportPlane.storedSlot env (s.slots idx) chunk)) where
  flags := by simp [ReportPlane.readySlot]
  counted := by simp [ReportPlane.readySlot]
  complete := by
    intro _
    apply all_received (storedSlot_flags storable tally)
    rw [← storedSlot_counted storable tally, full]

theorem storedSlot_invariant
    (storable : StorableChunk s idx chunk pkt)
    (invariant : SlotInvariant crc mem idx (s.slots idx)) (mem' : Store) :
    SlotInvariant crc mem' idx
      (ReportPlane.storedSlot env (s.slots idx) chunk) where
  chunkCount := invariant.chunkCount
  totalSize := invariant.totalSize
  flags := (storedSlot_tally storable invariant.tally).flags
  counted := (storedSlot_tally storable invariant.tally).counted
  complete := (storedSlot_tally storable invariant.tally).complete
  checksum := by
    simp [ReportPlane.storedSlot, storable.notReady invariant.tally]

theorem readySlot_invariant
    (storable : StorableChunk s idx chunk pkt)
    (invariant : SlotInvariant crc mem idx (s.slots idx)) {mem' : Store}
    (full : (s.slots idx).receivedCount + 1 = (s.slots idx).chunkCount)
    (checksum : 0 < (s.slots idx).totalSize.toNat →
      crc.ieee (slotBytes mem' idx (s.slots idx)) = (s.slots idx).crc32) :
    SlotInvariant crc mem' idx
      (ReportPlane.readySlot env
        (ReportPlane.storedSlot env (s.slots idx) chunk)) where
  chunkCount := invariant.chunkCount
  totalSize := invariant.totalSize
  flags := (readySlot_tally storable invariant.tally full).flags
  counted := (readySlot_tally storable invariant.tally full).counted
  complete := (readySlot_tally storable invariant.tally full).complete
  checksum := fun _ => checksum invariant.totalSize.1

end Chunks

section HostGeometry

variable {length : Nat}

/-- The two chunk counts of `validate_at_report` fit their type. -/
theorem hostChunkCount_toNat (bound : length ≤ maxReportSize) :
    (UInt8.ofNat ((length + sendDataMax - 1) / sendDataMax)).toNat =
      (length + sendDataMax - 1) / sendDataMax := by
  rw [UInt8.toNat_ofNat']
  unfold maxReportSize at bound
  unfold sendDataMax
  omega

theorem hostChunkCount_range
    (positive : 0 < length) (bound : length ≤ maxReportSize) :
    0 < (length + sendDataMax - 1) / sendDataMax ∧
      (length + sendDataMax - 1) / sendDataMax ≤ dataMaxChunks := by
  have limit : dataMaxChunks = 2 := rfl
  unfold maxReportSize at bound
  unfold sendDataMax
  omega

end HostGeometry

/-- A report from the host is complete at once. -/
theorem hostSlot_invariant
    {env : Env} {event : ReportEvent} {command : ReportPlane.ReportCommand}
    {base : ReportSlot} {mem : Store} {idx : Fin dataSlotCount}
    (accepted : AcceptedCommand env event command) :
    SlotInvariant env.crc (splice mem (slotPsramAddr idx) command.payload) idx
      (ReportPlane.hostSlot env base command.report command.priority) := by
  obtain ⟨args, _, parsed⟩ := accepted.parsed
  obtain ⟨length, positive, bound⟩ := ReportPlane.parseReport_some parsed
  have count := hostChunkCount_toNat accepted.fits
  constructor
  · simp only [ReportPlane.hostSlot, count]
    exact hostChunkCount_range (length ▸ positive) accepted.fits
  · simp only [ReportPlane.hostSlot]
    omega
  · simp [ReportPlane.hostSlot]
  · simp [ReportPlane.hostSlot]
  · simp [ReportPlane.hostSlot]
  · intro _
    simp only [ReportPlane.hostSlot, slotBytes, length, slice_splice]
    exact accepted.checksum

theorem command_inside
    {env : Env} {event : ReportEvent} {command : ReportPlane.ReportCommand}
    (accepted : AcceptedCommand env event command)
    (idx : Fin dataSlotCount) (written : Nat) :
    slotPsramAddr idx + (command.payload.take written).length ≤
      slotPsramAddr idx + maxReportSize := by
  obtain ⟨args, _, parsed⟩ := accepted.parsed
  obtain ⟨_, _, bound⟩ := ReportPlane.parseReport_some parsed
  rw [List.length_take]
  omega

/-- A slot's region lies inside the region of the report plane. -/
theorem slotRegion_inside (idx : Fin dataSlotCount) :
    dataPsramBase ≤ slotPsramAddr idx ∧
      slotPsramAddr idx + maxReportSize ≤ ReportPlane.reportRegionEnd := by
  have bound := idx.isLt
  have count : dataSlotCount = 512 := rfl
  have base : dataPsramBase = 0x100000 := rfl
  have size : maxReportSize = 256 := rfl
  have limit : ReportPlane.reportRegionEnd = 0x100000 + 512 * 256 := rfl
  rw [slotPsramAddr_eq, limit, base, size]
  omega

/-- Every move keeps every slot's invariant. -/
theorem ReportMove.keepsStored
    {env : Env} {event : ReportEvent} {s s' : ReportPlane}
    (move : ReportMove env event s s') (inside : StoresInside s event)
    (stored : Stored env.crc s) : Stored env.crc s' := by
  have refl (idx : Fin dataSlotCount) :
      AgreeOn s.io.psram.mem s.io.psram.mem (slotPsramAddr idx)
        (slotPsramAddr idx + maxReportSize) :=
    AgreeOn.refl _ _ _
  cases move with
  | quiet same =>
      exact stored.keep same.slots fun idx _ => same.mem ▸ refl idx
  | sentChunk reason sending inRange mem out =>
      exact stored.keep rfl fun idx _ => by
        rw [ReportPlane.put_io, Io.put_psram, mem]
        exact refl idx
  | freed reason =>
      apply stored.update (s.reportSlotFree_slots _ _)
      · intro other _
        rw [s.reportSlotFree_io]
        exact refl other
      · simp [ReportPlane.freedSlot]
  | stopped => exact stored.keep rfl fun idx _ => refl idx
  | advanced below => exact stored.keep rfl fun idx _ => refl idx
  | @retried senderIdx idx timeout sending active gen id =>
      exact stored.update rfl (fun other _ => refl other)
        fun _ => (stored idx active).flagged _ _
  | @started senderIdx idx role ticked idle active ready =>
      exact stored.update rfl (fun other _ => refl other)
        fun _ => (stored idx active).flagged _ _
  | accepted init target notReady =>
      exact stored.update rfl (fun other _ => refl other)
        fun _ => acceptedSlot_invariant init notReady
  | @storeFailed idx chunk pkt io srcId written role received storable mem out =>
      have active := (ReportPlane.findSlot_some storable.found).1
      have invariant := stored idx active
      obtain ⟨lower, upper⟩ :=
        chunkWrite_inside inside received storable
      have notReady := storable.notReady invariant.tally
      have unchanged : s.slots = Function.update s.slots idx (s.slots idx) :=
        (Function.update_eq_self idx s.slots).symm
      refine Stored.update stored unchanged ?_ ?_
      · intro other different
        rw [mem]
        apply agreeOn_other _ different lower
        rw [List.length_take]
        omega
      · intro _
        exact { invariant with checksum := by simp [notReady] }
  | @stored idx chunk pkt io srcId role received storable mem out partly =>
      have active := (ReportPlane.findSlot_some storable.found).1
      have invariant := stored idx active
      obtain ⟨lower, upper⟩ :=
        chunkWrite_inside inside received storable
      apply stored.update rfl
      · intro other different
        exact mem ▸ agreeOn_other _ different lower upper
      · exact fun _ => storedSlot_invariant storable invariant _
  | @completed idx chunk pkt io srcId role received storable mem out full
      checksum =>
      have active := (ReportPlane.findSlot_some storable.found).1
      have invariant := stored idx active
      obtain ⟨lower, upper⟩ :=
        chunkWrite_inside inside received storable
      apply stored.update rfl
      · intro other different
        exact mem ▸ agreeOn_other _ different lower upper
      · exact fun _ => readySlot_invariant storable invariant full checksum
  | @rejected idx chunk pkt io srcId role received storable mem out =>
      have active := (ReportPlane.findSlot_some storable.found).1
      have invariant := stored idx active
      obtain ⟨lower, upper⟩ :=
        chunkWrite_inside inside received storable
      apply stored.update
        ((ReportPlane.reportSlotFree_slots _ _ _).trans
          (Function.update_idem _ _ _))
      · intro other different
        rw [ReportPlane.reportSlotFree_io]
        exact mem ▸ agreeOn_other _ different lower upper
      · simp [ReportPlane.freedSlot]
  | @forwarded idx role =>
      exact stored.update rfl (fun other _ => refl other)
        fun active => (stored idx active).flagged _ _
  | @transfered idx =>
      exact stored.update rfl (fun other _ => refl other)
        fun active => (stored idx active).flagged _ _
  | @hostStored idx base command io accepted target mem out =>
      have upper := command_inside accepted idx command.payload.length
      rw [List.take_length] at upper
      apply stored.update rfl
      · intro other different
        exact mem ▸ agreeOn_other _ different (Nat.le_refl _) upper
      · intro _
        have invariant :
            SlotInvariant env.crc
              (splice s.io.psram.mem (slotPsramAddr idx) command.payload) idx
              (ReportPlane.hostSlot env base command.report
                command.priority) :=
          hostSlot_invariant accepted
        rw [← mem] at invariant
        exact invariant
  | @hostLost idx base command io written accepted target mem out failed =>
      apply stored.update
        ((ReportPlane.reportSlotFree_slots _ _ _).trans
          (Function.update_idem _ _ _))
      · intro other different
        rw [ReportPlane.reportSlotFree_io]
        exact mem ▸ agreeOn_other _ different (Nat.le_refl _)
          (command_inside accepted idx written)
      · simp [ReportPlane.freedSlot]
  | restarted restart =>
      intro idx active
      simp [ReportPlane.reportInit] at active
  | elsewhere other slots senders region out =>
      apply stored.keep slots
      intro idx _
      obtain ⟨lower, upper⟩ := slotRegion_inside idx
      exact region.mono lower upper

/-- Only a chunk that is being stored can leave its slot's region. -/
theorem storesInside_of_other
    {s : ReportPlane} {event : ReportEvent}
    (other : ∀ pkt srcId, event ≠ .reportChunk pkt srcId) :
    StoresInside s event :=
  fun pkt srcId _ _ received => absurd received (other pkt srcId)

/-- The condition only reads the slots. -/
theorem StoresInside.congr
    {s s' : ReportPlane} {event : ReportEvent}
    (inside : StoresInside s event) (slots : s'.slots = s.slots) :
    StoresInside s' event := by
  intro pkt srcId idx chunk received storable
  have before : StorableChunk s idx chunk pkt :=
    { found := (s.findSlot_congr slots _ _) ▸ storable.found
      index := storable.index
      inRange := slots ▸ storable.inRange
      missing := slots ▸ storable.missing }
  rw [slots]
  exact inside pkt srcId idx chunk received before

theorem ReportMoves.keepsStored
    {env : Env} {event : ReportEvent} {s s' : ReportPlane}
    (moves : ReportMoves env event s s')
    (other : ∀ pkt srcId, event ≠ .reportChunk pkt srcId)
    (stored : Stored env.crc s) : Stored env.crc s' := by
  induction moves with
  | refl => exact stored
  | tail _ move inductionHypothesis =>
      exact move.keepsStored (storesInside_of_other other) inductionHypothesis

/-- One event keeps every slot's invariant. -/
theorem ReportPlane.step_stored
    {env : Env} {event : ReportEvent} {s s' : ReportPlane}
    (inside : StoresInside s event) (allowed : s.Elsewhere event)
    (stepped : s.step env event = .ok s') (stored : Stored env.crc s) :
    Stored env.crc s' := by
  by_cases isChunk : ∃ pkt srcId, event = .reportChunk pkt srcId
  · obtain ⟨pkt, srcId, rfl⟩ := isChunk
    have cleared : Stored env.crc s.clearOut :=
      stored.keep rfl fun idx _ => AgreeOn.refl _ _ _
    obtain ⟨middle, first, same⟩ := handleReportChunk_outcome rfl stepped
    have between : Stored env.crc middle := by
      rcases first with rfl | move
      · exact cleared
      · exact move.move.keepsStored (inside.congr rfl) cleared
    exact between.keep same.slots fun idx _ => same.mem ▸ AgreeOn.refl _ _ _
  · push Not at isChunk
    have cleared : Stored env.crc s.clearOut :=
      stored.keep rfl fun idx _ => AgreeOn.refl _ _ _
    exact (step_moves allowed stepped).keepsStored isChunk cleared

end DectMesh
