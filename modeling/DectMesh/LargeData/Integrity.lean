import DectMesh.LargeData.Store

/-!
# Integrity of received blobs

On a gateway or an anchor the bitmap, the counter, the geometry and the
checksum of every active slot agree, whatever the packets announce and
whichever PSRAM accesses fail.
-/

namespace DectMesh

open ByteStore

/-- The end of the pages a slot owns. -/
def LdSlot.regionEnd (slot : LdSlot) : Nat :=
  slot.baseAddr.toNat + slot.pages.count * ldPageSize

/-- The invariant of an active slot. -/
structure LdSlotInvariant (crc : Checksum) (mem : Store) (slot : LdSlot) :
    Prop where
  totalChunks :
    slot.totalChunks.toNat = chunksOf slot.totalSize ldChunkSize
  lastChunkSize : slot.lastChunkSize.toNat ≤ ldChunkSize
  below : Bitmap.Below slot.bitmap slot.totalChunks.toNat
  counted : slot.receivedCount.toNat = Bitmap.count slot.bitmap
  complete :
    slot.upstreamReady = true → ∀ bit : Fin ldBitmapBits,
      bit.val < slot.totalChunks.toNat → slot.bitmap bit = true
  checksum :
    slot.upstreamReady = true →
      crc.ieee (slice mem slot.baseAddr.toNat slot.totalSize.toNat) =
        slot.crc32

/-- The invariant of the receive store. -/
structure LdIntegrity (crc : Checksum) (s : LdPlane) : Prop where
  allocated : LdAllocated s
  slots :
    ∀ idx, (s.slots idx).active = true →
      LdSlotInvariant crc s.io.psram.mem (s.slots idx)

/-- The bitmap has a bit for every chunk of an admissible blob. -/
theorem chunksOf_le
    {totalSize : UInt32} (bound : totalSize.toNat ≤ ldMaxTransferSize) :
    chunksOf totalSize ldChunkSize ≤ ldBitmapBits := by
  have bits : ldBitmapBits = 1144 := rfl
  have limit : ldMaxTransferSize = 204800 := rfl
  have size : ldChunkSize = 180 := rfl
  unfold chunksOf
  rw [bits, size]
  omega

section Regions

variable {s : LdPlane} {idx other : Fin ldReceiverSlotCount}

/-- The blob lies inside the slot's pages. -/
theorem blob_inside (slot : LdSlot) :
    slot.baseAddr.toNat + slot.totalSize.toNat ≤ slot.regionEnd := by
  have pageSize : ldPageSize = 5760 := rfl
  unfold LdSlot.regionEnd LdSlot.pages
  rw [pageSize]
  dsimp only
  omega

/-- The slot's pages lie inside the region of the large-data plane. -/
theorem LdAllocated.region_inside
    (allocated : LdAllocated s) (active : (s.slots idx).active = true) :
    psramLargeDataBase ≤ (s.slots idx).baseAddr.toNat ∧
      (s.slots idx).regionEnd ≤ LdPlane.ldRegionEnd := by
  have base := allocated.base idx active
  have inside := allocated.flags.inside idx _ (held_of_active active)
  have pageSize : ldPageSize = 5760 := rfl
  unfold LdSlot.regionEnd LdPlane.ldRegionEnd
  rw [base]
  rw [pageSize] at *
  omega

/-- The pages of two active slots do not overlap. -/
theorem LdAllocated.regions_apart
    (allocated : LdAllocated s) (different : idx ≠ other)
    (active : (s.slots idx).active = true)
    (otherActive : (s.slots other).active = true) :
    (s.slots idx).regionEnd ≤ (s.slots other).baseAddr.toNat ∨
      (s.slots other).regionEnd ≤ (s.slots idx).baseAddr.toNat := by
  have pageSize : ldPageSize = 5760 := rfl
  have nonempty (slot : Fin ldReceiverSlotCount)
      (slotActive : (s.slots slot).active = true) :
      0 < (s.slots slot).pages.count := by
    have positive := (allocated.size slot slotActive).1
    unfold LdSlot.pages
    rw [pageSize]
    dsimp only
    omega
  have apart := allocated.flags.apart different (held_of_active active)
    (held_of_active otherActive) (nonempty idx active)
    (nonempty other otherActive)
  have base := allocated.base idx active
  have otherBase := allocated.base other otherActive
  unfold LdSlot.regionEnd
  rw [pageSize] at *
  omega

end Regions

section Invariant

variable {crc : Checksum} {mem mem' : Store} {slot slot' : LdSlot}

/-- The invariant reads the blob only. -/
theorem LdSlotInvariant.congr
    (invariant : LdSlotInvariant crc mem slot)
    (agree : AgreeOn mem' mem slot.baseAddr.toNat slot.regionEnd) :
    LdSlotInvariant crc mem' slot :=
  { invariant with
    checksum := by
      intro ready
      rw [← invariant.checksum ready]
      rw [slice_congr agree (Nat.le_refl _) (blob_inside slot)] }

/-- The progress flags are not part of it. -/
theorem LdSlotInvariant.ofContent
    (invariant : LdSlotInvariant crc mem slot)
    (same : slot'.content = slot.content) :
    LdSlotInvariant crc mem slot' := by
  have content : LdSlotInvariant crc mem slot.content := { invariant with }
  rw [← same] at content
  exact { content with }

/-- Nothing is received of a blob that was just announced. -/
theorem acceptedLdSlot_invariant
    {env : Env} {event : LdEvent} {pkt : LargeDataInit}
    (init : LdAcceptedInit env event pkt) :
    LdSlotInvariant crc mem (LdPlane.acceptedSlot env slot pkt) where
  totalChunks := by
    have bound := chunksOf_le init.totalSize.2
    have bits : ldBitmapBits = 1144 := rfl
    simp only [LdPlane.acceptedSlot]
    rw [UInt16.toNat_ofNat']
    omega
  lastChunkSize := init.lastChunkSize.2
  below := Bitmap.below_clear _
  counted := by simp [LdPlane.acceptedSlot]
  complete := by simp [LdPlane.acceptedSlot]
  checksum := by simp [LdPlane.acceptedSlot]

end Invariant

section Chunks

variable {crc : Checksum} {env : Env} {s : LdPlane}
variable {idx : Fin ldReceiverSlotCount} {bit : Fin ldBitmapBits}
variable {pkt : LargeDataChunk} {mem : Store}

theorem LdStorableChunk.active (storable : LdStorableChunk s idx bit pkt) :
    (s.slots idx).active = true :=
  (LdPlane.findLargeDataSlot_some storable.found).1

/-- A slot with a missing chunk is not ready. -/
theorem LdStorableChunk.notReady
    (storable : LdStorableChunk s idx bit pkt)
    (invariant : LdSlotInvariant crc mem (s.slots idx)) :
    (s.slots idx).upstreamReady = false := by
  by_contra ready
  have received :=
    invariant.complete (by simpa using ready) bit storable.below
  rw [storable.missing] at received
  cases received

/-- Every chunk is stored inside the slot's own pages. -/
theorem LdStorableChunk.inside
    (storable : LdStorableChunk s idx bit pkt)
    (invariant : LdSlotInvariant crc mem (s.slots idx)) :
    (s.slots idx).baseAddr.toNat ≤ ldChunkAddr (s.slots idx) bit ∧
      ldChunkAddr (s.slots idx) bit +
        (ldChunkBytes (s.slots idx) bit pkt).length ≤
          (s.slots idx).regionEnd := by
  have size : (ldChunkBytes (s.slots idx) bit pkt).length ≤ 180 := by
    have last := invariant.lastChunkSize
    have chunkSize : ldChunkSize = 180 := rfl
    have full : (UInt16.ofNat ldChunkSize).toNat = 180 := by decide
    unfold ldChunkBytes LdPlane.storedChunkSize
    rw [List.length_take]
    split
    · omega
    · rw [full]
      omega
  have below := storable.below
  have total := invariant.totalChunks
  have chunkSize : ldChunkSize = 180 := rfl
  have pageSize : ldPageSize = 5760 := rfl
  unfold chunksOf at total
  rw [chunkSize] at total
  unfold LdSlot.regionEnd ldChunkAddr LdSlot.pages
  rw [pageSize, chunkSize]
  dsimp only
  omega

theorem storedLdSlot_invariant
    (storable : LdStorableChunk s idx bit pkt)
    (invariant : LdSlotInvariant crc mem (s.slots idx)) (mem' : Store) :
    LdSlotInvariant crc mem'
      (LdPlane.storedSlot env (s.slots idx) bit) where
  totalChunks := invariant.totalChunks
  lastChunkSize := invariant.lastChunkSize
  below := invariant.below.set storable.below
  counted := by
    have counted := invariant.counted
    have more := (invariant.below.set storable.below).count_le
    have limit := bit.isLt
    have bits : ldBitmapBits = 1144 := rfl
    have chunks := (s.slots idx).totalChunks.toNat_lt
    have one : (1 : UInt16).toNat = 1 := rfl
    simp only [LdPlane.storedSlot]
    rw [Bitmap.count_set storable.missing] at more ⊢
    rw [UInt16.toNat_add, counted, one]
    omega
  complete := by
    simp [LdPlane.storedSlot, storable.notReady invariant]
  checksum := by
    simp [LdPlane.storedSlot, storable.notReady invariant]

theorem readyLdSlot_invariant
    (storable : LdStorableChunk s idx bit pkt)
    (invariant : LdSlotInvariant crc mem (s.slots idx)) {mem' : Store}
    (full : (s.slots idx).totalChunks ≤ (s.slots idx).receivedCount + 1)
    (checksum :
      crc.ieee (slice mem' (s.slots idx).baseAddr.toNat
        (s.slots idx).totalSize.toNat) = (s.slots idx).crc32) :
    LdSlotInvariant crc mem'
      (LdPlane.readySlot (LdPlane.storedSlot env (s.slots idx) bit)) := by
  have stored : LdSlotInvariant crc mem'
      (LdPlane.storedSlot env (s.slots idx) bit) :=
    storedLdSlot_invariant storable invariant mem'
  exact
    { totalChunks := stored.totalChunks
      lastChunkSize := stored.lastChunkSize
      below := stored.below
      counted := stored.counted
      complete := by
        intro _ other inside
        apply stored.below.full _ other inside
        rw [← stored.counted]
        exact UInt16.le_iff_toNat_le.mp full
      checksum := fun _ => checksum }

end Chunks

section Steps

variable {env : Env} {event : LdEvent} {s s' : LdPlane}

/-- One slot changed, and memory at most in its pages. -/
theorem LdIntegrity.update
    {crc : Checksum} {idx : Fin ldReceiverSlotCount} {slot : LdSlot}
    (integrity : LdIntegrity crc s) (allocated : LdAllocated s')
    (slots : s'.slots = Function.update s.slots idx slot)
    (others : ∀ other, other ≠ idx → (s.slots other).active = true →
      AgreeOn s'.io.psram.mem s.io.psram.mem
        (s.slots other).baseAddr.toNat (s.slots other).regionEnd)
    (changed : slot.active = true →
      LdSlotInvariant crc s'.io.psram.mem slot) :
    LdIntegrity crc s' where
  allocated := allocated
  slots := by
    intro other active
    rw [slots] at active ⊢
    by_cases same : other = idx
    · subst same
      rw [Function.update_self] at active ⊢
      exact changed active
    · rw [Function.update_of_ne same] at active ⊢
      exact (integrity.slots other active).congr (others other same active)

/-- What is written into the pages of one slot does not reach the pages of the
others. -/
theorem LdAllocated.spliced_apart
    {idx : Fin ldReceiverSlotCount} {addr : Nat} {block : List UInt8}
    (allocated : LdAllocated s) (active : (s.slots idx).active = true)
    (lower : (s.slots idx).baseAddr.toNat ≤ addr)
    (upper : addr + block.length ≤ (s.slots idx).regionEnd)
    (other : Fin ldReceiverSlotCount) (different : other ≠ idx)
    (otherActive : (s.slots other).active = true) :
    AgreeOn (splice s.io.psram.mem addr block) s.io.psram.mem
      (s.slots other).baseAddr.toNat (s.slots other).regionEnd := by
  have apart := allocated.regions_apart different otherActive active
  apply agreeOn_splice
  omega

/-- A prefix of a chunk does not reach the pages of the other slots. -/
theorem LdStorableChunk.others
    {crc : Checksum} {idx : Fin ldReceiverSlotCount} {bit : Fin ldBitmapBits}
    {pkt : LargeDataChunk} (integrity : LdIntegrity crc s)
    (storable : LdStorableChunk s idx bit pkt) (written : Nat)
    (other : Fin ldReceiverSlotCount) (different : other ≠ idx)
    (active : (s.slots other).active = true) :
    AgreeOn
      (splice s.io.psram.mem (ldChunkAddr (s.slots idx) bit)
        ((ldChunkBytes (s.slots idx) bit pkt).take written))
      s.io.psram.mem (s.slots other).baseAddr.toNat
      (s.slots other).regionEnd := by
  have invariant := integrity.slots idx storable.active
  obtain ⟨lower, upper⟩ := storable.inside invariant
  apply integrity.allocated.spliced_apart storable.active lower _ other
    different active
  rw [List.length_take]
  omega

/-- Every move of a gateway or an anchor keeps the store intact. -/
theorem LdMove.keepsIntegrity
    (move : LdMove env event s s') (role : env.deviceType ≠ .sensor)
    (integrity : LdIntegrity env.crc s) : LdIntegrity env.crc s' := by
  have allocated := move.keepsAllocated integrity.allocated
  have unchanged (other : Fin ldReceiverSlotCount) :
      AgreeOn s.io.psram.mem s.io.psram.mem (s.slots other).baseAddr.toNat
        (s.slots other).regionEnd :=
    AgreeOn.refl _ _ _
  cases move with
  | quiet unchanged =>
      refine ⟨allocated, ?_⟩
      intro idx active
      have content := unchanged.slots idx
      have before : (s.slots idx).active = true :=
        (congrArg LdSlot.active content).symm.trans active
      rw [unchanged.mem]
      exact (integrity.slots idx before).ofContent content
  | acknowledged received complete same =>
      refine ⟨allocated, ?_⟩
      intro idx active
      have content := same.slots idx
      have before : (s.slots idx).active = true :=
        (congrArg LdSlot.active content).symm.trans active
      rw [same.mem]
      exact (integrity.slots idx before).ofContent content
  | freed ticked active ready reason =>
      apply integrity.update allocated (freeLargeDataSlot_slots _ _ _)
      · intro other _ _
        rw [freeLargeDataSlot_io]
        exact unchanged other
      · simp [LdSlot.freed]
  | accepted init =>
      exact integrity.update allocated rfl (fun other _ _ => unchanged other)
        fun _ => acceptedLdSlot_invariant init
  | @storeFailed idx bit pkt io srcId written receiver received storable mem =>
      have invariant := integrity.slots idx storable.active
      have notReady := storable.notReady invariant
      apply integrity.update allocated
        (Function.update_eq_self idx s.slots).symm
      · intro other different active
        rw [mem]
        exact storable.others integrity written other different active
      · intro _
        exact { invariant with checksum := by simp [notReady] }
  | @stored idx bit pkt io srcId receiver received storable mem partly =>
      have invariant := integrity.slots idx storable.active
      apply integrity.update allocated rfl
      · intro other different active
        have whole := storable.others integrity
          (ldChunkBytes (s.slots idx) bit pkt).length other different active
        rw [List.take_length, ← mem] at whole
        exact whole
      · exact fun _ => storedLdSlot_invariant storable invariant _
  | @completed idx bit pkt io srcId receiver received storable mem full
      checksum =>
      have invariant := integrity.slots idx storable.active
      have positive := (integrity.allocated.size idx storable.active).1
      apply integrity.update allocated rfl
      · intro other different active
        have whole := storable.others integrity
          (ldChunkBytes (s.slots idx) bit pkt).length other different active
        rw [List.take_length, ← mem] at whole
        exact whole
      · exact fun _ =>
          readyLdSlot_invariant storable invariant full (checksum positive)
  | @rejected idx bit pkt io srcId receiver received storable mem full =>
      apply integrity.update allocated
        ((freeLargeDataSlot_slots _ _ _).trans (Function.update_idem _ _ _))
      · intro other different active
        have whole := storable.others integrity
          (ldChunkBytes (s.slots idx) bit pkt).length other different active
        rw [List.take_length, ← mem] at whole
        simpa [LdPlane.setSlot] using whole
      · simp [LdSlot.freed]
  | hostAllocated accepted => exact absurd accepted.role role
  | hostLost stageable | hostStored stageable | hostCompleted stageable
  | hostRejected stageable => exact absurd stageable.role role
  | restarted restart =>
      refine ⟨allocated, ?_⟩
      intro idx active
      cases active
  | elsewhere other slots pages busy region =>
      refine ⟨allocated, ?_⟩
      intro idx active
      rw [slots] at active ⊢
      obtain ⟨lower, upper⟩ := integrity.allocated.region_inside active
      exact (integrity.slots idx active).congr (region.mono lower upper)

theorem LdMoves.keepsIntegrity
    (moves : LdMoves env event s s') (role : env.deviceType ≠ .sensor)
    (integrity : LdIntegrity env.crc s) : LdIntegrity env.crc s' := by
  induction moves with
  | refl => exact integrity
  | tail _ move inductionHypothesis =>
      exact move.keepsIntegrity role inductionHypothesis

end Steps

section Runs

/-- The step relation of a large-data plane with its surroundings. -/
def ldStep (s : LdPlane) (event : Env × LdEvent) : Except Fault LdPlane :=
  s.step event.1 event.2

/-- A board after `large_data_init` at boot: the static tables are zero, the
PSRAM and the outcomes to come are arbitrary. -/
def LdPlane.boot (io : Io) : LdPlane :=
  { io := io, isLdSlotEmpty := fun _ => true }

/-- The events of one board, with the other modules in their own regions. -/
def LdOnBoard (board : Board) (s : LdPlane) (event : Env × LdEvent) : Prop :=
  event.1.toBoard = board ∧ s.Elsewhere event.2

theorem reach_integrity
    {board : Board} {io : Io} {s : LdPlane}
    (role : board.deviceType = .gateway ∨ board.deviceType = .anchor)
    (reach : Trace.Reach ldStep (LdOnBoard board) (.boot io) s) :
    LdIntegrity board.crc s := by
  apply reach.invariant
  · constructor
    · exact { allocated_largeDataInit (LdPlane.boot io) with }
    · intro idx active
      cases active
  · rintro before ⟨env, event⟩ after integrity ⟨rfl, allowed⟩ stepped
    have notSensor : env.deviceType ≠ .sensor := by
      rcases role with gateway | anchor
      · exact fun sensor => absurd (gateway.symm.trans sensor) (by decide)
      · exact fun sensor => absurd (anchor.symm.trans sensor) (by decide)
    have cleared : LdIntegrity env.crc before.clearOut :=
      ⟨{ integrity.allocated with }, integrity.slots⟩
    exact (LdPlane.step_moves allowed stepped).keepsIntegrity notSensor cleared

/-- The memory a chunk packet writes, if any: a block inside the pages of the
slot that the packet names. -/
def LdConfined (s s' : LdPlane) (pkt : LargeDataChunk) : Prop :=
  s'.io.psram.mem = s.io.psram.mem ∨
    ∃ idx addr block,
      s.findLargeDataSlot pkt.genDeviceId pkt.dataId = some idx ∧
        s'.io.psram.mem = splice s.io.psram.mem addr block ∧
          (s.slots idx).baseAddr.toNat ≤ addr ∧
            addr + block.length ≤ (s.slots idx).regionEnd

/-- What a chunk packet writes, if anything: bytes of its chunk, in the place
of the chunk. -/
theorem LdMove.chunkWrite
    {env : Env} {s s' : LdPlane} {pkt : LargeDataChunk} {srcId : UInt16}
    (move : LdMove env (.largeDataChunk pkt srcId) s s') :
    s'.io.psram.mem = s.io.psram.mem ∨
      ∃ idx bit count, LdStorableChunk s idx bit pkt ∧
        s'.io.psram.mem = splice s.io.psram.mem (ldChunkAddr (s.slots idx) bit)
          ((ldChunkBytes (s.slots idx) bit pkt).take count) := by
  have whole
      {idx : Fin ldReceiverSlotCount} {bit : Fin ldBitmapBits}
      {other : LargeDataChunk} {from_ : UInt16} {mem : Store}
      (received :
        LdEvent.largeDataChunk pkt srcId = .largeDataChunk other from_)
      (storable : LdStorableChunk s idx bit other)
      (contents : mem = splice s.io.psram.mem (ldChunkAddr (s.slots idx) bit)
        (ldChunkBytes (s.slots idx) bit other)) :
      ∃ idx bit count, LdStorableChunk s idx bit pkt ∧
        mem = splice s.io.psram.mem (ldChunkAddr (s.slots idx) bit)
          ((ldChunkBytes (s.slots idx) bit pkt).take count) := by
    cases received
    refine ⟨idx, bit, (ldChunkBytes (s.slots idx) bit pkt).length, storable, ?_⟩
    rw [List.take_length]
    exact contents
  cases move with
  | quiet same => exact .inl same.mem
  | acknowledged received complete same => cases received
  | freed ticked active ready reason =>
      exact .inl (congrArg (·.psram.mem) (freeLargeDataSlot_io _ _ _))
  | accepted init =>
      obtain ⟨_, received⟩ := init.received
      cases received
  | storeFailed role received storable mem =>
      cases received
      exact .inr ⟨_, _, _, storable, mem⟩
  | stored role received storable mem =>
      exact .inr (whole received storable mem)
  | completed role received storable mem =>
      exact .inr (whole received storable mem)
  | rejected role received storable mem =>
      refine .inr (whole received storable ?_)
      rw [← mem]
      exact congrArg (·.psram.mem) (freeLargeDataSlot_io _ _ _)
  | hostAllocated accepted =>
      obtain ⟨_, received, _⟩ := accepted.received
      cases received
  | hostLost stageable | hostStored stageable | hostCompleted stageable
  | hostRejected stageable =>
      obtain ⟨_, received⟩ := stageable.received
      cases received
  | restarted restart => cases restart
  | elsewhere other => cases other

theorem LdMove.confined
    {env : Env} {s s' : LdPlane} {pkt : LargeDataChunk} {srcId : UInt16}
    (move : LdMove env (.largeDataChunk pkt srcId) s s')
    {crc : Checksum} (integrity : LdIntegrity crc s) :
    LdConfined s s' pkt := by
  rcases move.chunkWrite with same | ⟨idx, bit, count, storable, contents⟩
  · exact .inl same
  · have invariant := integrity.slots idx storable.active
    obtain ⟨lower, upper⟩ := storable.inside invariant
    refine .inr ⟨idx, _, _, storable.found, contents, lower, ?_⟩
    rw [List.length_take]
    omega

theorem largeDataChunk_confined
    {crc : Checksum} {env : Env} {s s' : LdPlane} {pkt : LargeDataChunk}
    {srcId : UInt16}
    (integrity : LdIntegrity crc s)
    (stepped : s.step env (.largeDataChunk pkt srcId) = .ok s') :
    LdConfined s s' pkt := by
  have cleared : LdIntegrity crc s.clearOut :=
    ⟨{ integrity.allocated with }, integrity.slots⟩
  obtain ⟨middle, first, same⟩ :=
    LdPlane.handleLargeDataChunk_outcome rfl stepped
  rcases first with rfl | move
  · exact .inl same.mem
  · have confined := move.confined cleared
    unfold LdConfined at confined ⊢
    rw [same.mem]
    have search :
        s.clearOut.findLargeDataSlot pkt.genDeviceId pkt.dataId =
          s.findLargeDataSlot pkt.genDeviceId pkt.dataId := by
      unfold LdPlane.findLargeDataSlot
      rfl
    rw [search] at confined
    exact confined

/-- In every run of a gateway or an anchor the counters and flags of an active
slot agree with its bitmap, a ready slot has all its chunks and its checksum,
and a chunk is written into the pages of its own slot only, which no other
active slot owns. -/
theorem ldStore_integrity
    {board : Board} {io : Io} {s : LdPlane}
    (role : board.deviceType = .gateway ∨ board.deviceType = .anchor)
    (reach : Trace.Reach ldStep (LdOnBoard board) (.boot io) s) :
    (∀ idx, (s.slots idx).active = true →
      (s.slots idx).totalChunks.toNat =
          ((s.slots idx).totalSize.toNat + 179) / 180 ∧
        (s.slots idx).totalChunks.toNat ≤ ldBitmapBits ∧
        (s.slots idx).receivedCount.toNat =
          Bitmap.count (s.slots idx).bitmap ∧
        (∀ bit, (s.slots idx).bitmap bit = true →
          bit.val < (s.slots idx).totalChunks.toNat) ∧
        ((s.slots idx).upstreamReady = true →
          (∀ bit : Fin ldBitmapBits,
            bit.val < (s.slots idx).totalChunks.toNat →
              (s.slots idx).bitmap bit = true) ∧
            board.crc.ieee
              (slice s.io.psram.mem (s.slots idx).baseAddr.toNat
                (s.slots idx).totalSize.toNat) = (s.slots idx).crc32)) ∧
      (∀ left right, left ≠ right → (s.slots left).active = true →
        (s.slots right).active = true →
          (s.slots left).regionEnd ≤ (s.slots right).baseAddr.toNat ∨
            (s.slots right).regionEnd ≤ (s.slots left).baseAddr.toNat) ∧
      ∀ env pkt srcId s',
        s.step env (.largeDataChunk pkt srcId) = .ok s' →
          LdConfined s s' pkt := by
  have integrity := reach_integrity role reach
  refine ⟨?_, ?_, ?_⟩
  · intro idx active
    have invariant := integrity.slots idx active
    have bound := chunksOf_le (integrity.allocated.size idx active).2
    rw [← invariant.totalChunks] at bound
    exact ⟨invariant.totalChunks, bound, invariant.counted, invariant.below,
      fun ready => ⟨invariant.complete ready, invariant.checksum ready⟩⟩
  · intro left right different leftActive rightActive
    exact integrity.allocated.regions_apart different leftActive rightActive
  · exact fun env pkt srcId s' stepped =>
      largeDataChunk_confined integrity stepped

end Runs

section Samples

/-- A gateway with address 1. -/
def ldGateway : Env :=
  { deviceType := .gateway, deviceId := 1, crc := Checksum.crc32Ieee }

/-- Sensor 5 announces the one-byte blob `07`. -/
def ldSampleInit : LdEvent :=
  .largeDataInit
    { hdr := { deviceType := 3, deviceId := 1 }
      genDeviceId := 5, dataId := 1, reportTimeMs := 0, totalSize := 1
      pageCount := 1, lastChunkSize := 1, crc32 := 0x4C667A2E } 5

/-- The only chunk of that blob. -/
def ldSampleChunk : LdEvent :=
  .largeDataChunk
    { hdr := { deviceType := 3, deviceId := 1 }
      genDeviceId := 5, dataId := 1, pageIndex := 0, chunkIndex := 0
      data := Buffer.ofData sendLargeDataMax [7] } 5

/-- The blob arrives and has the checksum it was announced with. -/
theorem ldStore_integrity_oneByte :
    Trace.Ends ldStep (.boot {})
      [(ldGateway, ldSampleInit), (ldGateway, ldSampleChunk)]
      fun s =>
        (s.slots ⟨0, by decide⟩).upstreamReady = true ∧
          (s.slots ⟨0, by decide⟩).receivedCount.toNat =
            Bitmap.count (s.slots ⟨0, by decide⟩).bitmap ∧
          Checksum.crc32Ieee.ieee
              (slice s.io.psram.mem
                (s.slots ⟨0, by decide⟩).baseAddr.toNat
                (s.slots ⟨0, by decide⟩).totalSize.toNat) =
            (s.slots ⟨0, by decide⟩).crc32 := by
  obtain ⟨s, executed, active, ready⟩ :
      Trace.Ends ldStep (.boot {})
        [(ldGateway, ldSampleInit), (ldGateway, ldSampleChunk)]
        fun s =>
          (s.slots ⟨0, by decide⟩).active = true ∧
            (s.slots ⟨0, by decide⟩).upstreamReady = true := by
    decide +kernel
  have admitted :
      ∀ event ∈ [(ldGateway, ldSampleInit), (ldGateway, ldSampleChunk)],
        ∀ before, LdOnBoard ldGateway.toBoard before event := by
    intro event member before
    simp only [List.mem_cons, List.not_mem_nil, or_false] at member
    rcases member with rfl | rfl <;> exact ⟨rfl, trivial⟩
  have slot :=
    (ldStore_integrity (.inl rfl) (.of_run admitted executed)).1 _ active
  exact ⟨s, executed, ready, slot.2.2.1, (slot.2.2.2.2 ready).2⟩

end Samples

end DectMesh
