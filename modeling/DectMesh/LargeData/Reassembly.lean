import DectMesh.LargeData.Integrity

/-!
# Chunks in any order

A blob whose announcement was accepted is put together from its chunks in
whatever order, and however often, they arrive.
-/

namespace DectMesh

open ByteStore

/-- The sender entry describes the blob as `sensor_large_data_tick` cuts it. -/
structure LdSender.Offers (crc : Checksum) (sender : LdSender)
    (blob : List UInt8) : Prop where
  nonempty : 1 ≤ blob.length
  bound : blob.length ≤ ldMaxTransferSize
  totalSize : sender.totalSize.toNat = blob.length
  totalChunks : sender.totalChunks.toNat = (blob.length + 179) / 180
  pageCount :
    sender.pageCount.toNat = ((blob.length + 179) / 180 + 31) / 32
  lastChunkSize :
    sender.lastChunkSize.toNat =
      blob.length - ((blob.length + 179) / 180 - 1) * 180
  crc32 : sender.crc32 = crc.ieee blob

/-- The announcement that starts a sender's transfer. -/
def LdSender.announcement
    (sender : LdSender) (hdr : PacketHeader) (reportTimeMs : UInt64) :
    LargeDataInit where
  hdr := hdr
  genDeviceId := sender.genDeviceId
  dataId := sender.dataId
  reportTimeMs := reportTimeMs
  totalSize := sender.totalSize
  pageCount := sender.pageCount.toUInt8
  lastChunkSize := sender.lastChunkSize
  crc32 := sender.crc32

/-- The packet with chunk `linear` of a sender's blob. -/
def LdSender.chunk
    (sender : LdSender) (hdr : PacketHeader) (blob : List UInt8)
    (linear : Nat) : LargeDataChunk where
  hdr := hdr
  genDeviceId := sender.genDeviceId
  dataId := sender.dataId
  pageIndex := UInt8.ofNat (linear / ldChunksPerPage)
  chunkIndex := UInt8.ofNat (linear % ldChunksPerPage)
  data := Buffer.ofData sendLargeDataMax
    ((blob.drop (linear * ldChunkSize)).take
      (LdPlane.chunkSizeFor sender (UInt16.ofNat linear)).toNat)

/-- A chunk of a transfer reaches a receiver. -/
structure LdArrival where
  env : Env
  hdr : PacketHeader
  linear : Nat

/-- `validate_large_data_chunk` for one packet after the other, with the
answers. -/
def LdPlane.validateChunks
    (s : LdPlane) : List (Env × LargeDataChunk) →
      Except Fault (LdPlane × List UInt8)
  | [] => .ok (s, [])
  | (env, pkt) :: rest =>
      match s.validateLargeDataChunk env pkt with
      | .error fault => .error fault
      | .ok (s, status) =>
          match s.validateChunks rest with
          | .error fault => .error fault
          | .ok (s, later) => .ok (s, status :: later)

section Sending

variable {crc : Checksum} {sender : LdSender} {blob : List UInt8}
variable {linear : Nat}

/-- Every chunk but the last has 180 bytes. -/
theorem LdSender.Offers.chunkSize
    (offers : sender.Offers crc blob)
    (below : linear < (blob.length + 179) / 180) :
    (LdPlane.chunkSizeFor sender (UInt16.ofNat linear)).toNat =
      min 180 (blob.length - linear * 180) := by
  have limit : ldMaxTransferSize = 204800 := rfl
  have bound := offers.bound
  have chunks := offers.totalChunks
  have one : (1 : UInt16).toNat = 1 := rfl
  have full : (UInt16.ofNat ldChunkSize).toNat = 180 := by decide
  have least : (1 : UInt16) ≤ sender.totalChunks := by
    rw [UInt16.le_iff_toNat_le]
    omega
  have position :
      UInt16.ofNat linear = sender.totalChunks - 1 ↔
        linear = (blob.length + 179) / 180 - 1 := by
    rw [← UInt16.toNat_inj, UInt16.toNat_ofNat', UInt16.toNat_sub_of_le _ _ least]
    omega
  unfold LdPlane.chunkSizeFor
  split
  · next last =>
    rw [offers.lastChunkSize, position.mp last]
    omega
  · next earlier =>
    rw [position] at earlier
    rw [full]
    omega

theorem LdSender.Offers.chunkBytes
    (offers : sender.Offers crc blob)
    (below : linear < (blob.length + 179) / 180) :
    (blob.drop (linear * ldChunkSize)).take
        (LdPlane.chunkSizeFor sender (UInt16.ofNat linear)).toNat =
      (blob.drop (linear * 180)).take 180 := by
  have size : ldChunkSize = 180 := rfl
  rw [offers.chunkSize below, size, List.take_eq_take_iff, List.length_drop]
  omega

end Sending

section Receiving

variable {crc : Checksum} {sender : LdSender} {blob : List UInt8}
variable {s s' : LdPlane} {idx : Fin ldReceiverSlotCount}

/-- The slot of a blob that is the only one with its key. -/
theorem LdPlane.findLargeDataSlot_of_only
    {genDeviceId : UInt16} {dataId : UInt8}
    (active : (s.slots idx).active = true)
    (gen : (s.slots idx).genDeviceId = genDeviceId)
    (id : (s.slots idx).dataId = dataId)
    (only : ∀ other, (s.slots other).active = true →
      (s.slots other).genDeviceId = genDeviceId →
        (s.slots other).dataId = dataId → other = idx) :
    s.findLargeDataSlot genDeviceId dataId = some idx := by
  cases found : s.findLargeDataSlot genDeviceId dataId with
  | none =>
      unfold findLargeDataSlot at found
      simp only [Fin.find?_eq_none_iff] at found
      have missing := found idx
      simp [active, gen, id] at missing
  | some other =>
      obtain ⟨otherActive, otherGen, otherId⟩ := findLargeDataSlot_some found
      rw [only other otherActive otherGen otherId]

/-- An accepted announcement takes a free slot. -/
theorem LdPlane.validateLargeDataSlot_success
    {env : Env} {pkt : LargeDataInit}
    (accepted : s.validateLargeDataSlot env pkt = (s', statusSuccess)) :
    ∃ idx range, s.findLargeDataSlot pkt.genDeviceId pkt.dataId = none ∧
      s.freeSlot = some idx ∧ s.findPages pkt.totalSize = some range ∧
        s' = { s with
          slots := Function.update s.slots idx
            (acceptedSlot env (allocatedSlot (s.slots idx) range) pkt)
          isLdSlotEmpty := PageMap.mark s.isLdSlotEmpty range false
          ldBusy := true } := by
  generalize success : statusSuccess = status at accepted
  cases validateLargeDataSlot_validated accepted with
  | taken idle missing free fits => exact ⟨_, _, missing, free, fits, rfl⟩
  | _ => cases success

/-- On a reliable device the right checksum is confirmed. -/
theorem LdPlane.verifyCrc32_reliable
    {env : Env} (reliable : s.io.psram.Reliable)
    (positive : 0 < (s.slots idx).totalSize.toNat)
    (inside :
      (s.slots idx).baseAddr.toNat + (s.slots idx).totalSize.toNat ≤ psramSize)
    (checksum :
      env.crc.ieee (slice s.io.psram.mem (s.slots idx).baseAddr.toNat
        (s.slots idx).totalSize.toNat) = (s.slots idx).crc32) :
    ∃ psram, s.verifyCrc32 env idx =
        ({ s with io := { s.io with psram := psram } }, true) ∧
      psram.Reliable ∧ psram.mem = s.io.psram.mem := by
  obtain ⟨⟨value, computed⟩, later⟩ :=
    Psram.Reliable.stagedCrc env.crc ldCrcVerifyStageSize
      (s.slots idx).totalSize.toNat true 0 s.io.psram
      (s.slots idx).baseAddr.toNat (s.slots idx).totalSize.toNat reliable
      inside
  obtain ⟨mem, result⟩ :=
    Psram.stagedCrc_spec env.crc (by decide : 0 < ldCrcVerifyStageSize)
      s.io.psram (s.slots idx).baseAddr.toNat positive (Nat.le_refl _)
  have value_eq := (result value computed).trans checksum
  refine ⟨_, ?_, later, mem⟩
  unfold verifyCrc32
  dsimp only
  split
  · next failed =>
    rw [failed] at computed
    cases computed
  · next psram crc same =>
    rw [same] at computed
    cases computed
    simp [same, value_eq]

/-- What is known of a transfer once the chunks in `seen` arrived. -/
structure LdReassembling (crc : Checksum) (sender : LdSender)
    (blob : List UInt8) (idx : Fin ldReceiverSlotCount) (seen : List Nat)
    (s : LdPlane) : Prop where
  active : (s.slots idx).active = true
  gen : (s.slots idx).genDeviceId = sender.genDeviceId
  id : (s.slots idx).dataId = sender.dataId
  only : ∀ other, (s.slots other).active = true →
    (s.slots other).genDeviceId = sender.genDeviceId →
      (s.slots other).dataId = sender.dataId → other = idx
  totalSize : (s.slots idx).totalSize = sender.totalSize
  pageCount : (s.slots idx).pageCount = sender.pageCount.toUInt8
  lastChunkSize : (s.slots idx).lastChunkSize = sender.lastChunkSize
  totalChunks : (s.slots idx).totalChunks = sender.totalChunks
  crc32 : (s.slots idx).crc32 = sender.crc32
  inside : (s.slots idx).baseAddr.toNat + blob.length ≤ psramSize
  seenBit : ∀ bit : Fin ldBitmapBits,
    (s.slots idx).bitmap bit = true ↔ bit.val ∈ seen
  below : ∀ linear ∈ seen, linear < (blob.length + 179) / 180
  counted :
    (s.slots idx).receivedCount.toNat = Bitmap.count (s.slots idx).bitmap
  ready : (s.slots idx).upstreamReady = true ↔
    ∀ linear, linear < (blob.length + 179) / 180 → linear ∈ seen
  blocks : ∀ linear ∈ seen,
    BlockAt s.io.psram.mem (s.slots idx).baseAddr.toNat 180 blob linear
  reliable : s.io.psram.Reliable

namespace LdReassembling

variable {seen : List Nat} {linear : Nat}

/-- The page and the chunk index of a packet give its position back. -/
theorem linearIndex_chunk (below : linear < 8192) :
    LdPlane.linearIndex (UInt8.ofNat (linear / ldChunksPerPage))
      (UInt8.ofNat (linear % ldChunksPerPage)) = linear := by
  have perPage : ldChunksPerPage = 32 := rfl
  unfold LdPlane.linearIndex
  rw [perPage, UInt8.toNat_ofNat', UInt8.toNat_ofNat']
  omega

/-- A repeated chunk adds nothing. -/
theorem again
    (state : LdReassembling crc sender blob idx seen s)
    (known : linear ∈ seen) :
    LdReassembling crc sender blob idx (linear :: seen) s :=
  have members (other : Nat) : other ∈ linear :: seen ↔ other ∈ seen := by
    rw [List.mem_cons]
    constructor
    · rintro (rfl | member)
      · exact known
      · exact member
    · exact .inr
  { state with
    seenBit := fun bit => (state.seenBit bit).trans (members bit).symm
    below := fun other member => state.below other ((members other).mp member)
    ready := state.ready.trans
      (forall₂_congr fun other _ => (members other).symm)
    blocks := fun other member =>
      state.blocks other ((members other).mp member) }

/-- A new chunk was written into its place. -/
theorem add
    {env : Env} {bit : Fin ldBitmapBits} {upstreamReady : Bool}
    {idleTimeout : NbTimeout}
    (state : LdReassembling crc sender blob idx seen s)
    (inside : bit.val < (blob.length + 179) / 180) (fresh : bit.val ∉ seen)
    (slots : s'.slots = Function.update s.slots idx
      { LdPlane.storedSlot env (s.slots idx) bit with
        upstreamReady := upstreamReady, idleTimeout := idleTimeout })
    (mem : s'.io.psram.mem = splice s.io.psram.mem
      ((s.slots idx).baseAddr.toNat + bit.val * 180)
      ((blob.drop (bit.val * 180)).take 180))
    (reliable : s'.io.psram.Reliable)
    (ready : upstreamReady = true ↔
      ∀ linear, linear < (blob.length + 179) / 180 →
        linear ∈ bit.val :: seen) :
    LdReassembling crc sender blob idx (bit.val :: seen) s' := by
  have here : s'.slots idx =
      { LdPlane.storedSlot env (s.slots idx) bit with
        upstreamReady := upstreamReady, idleTimeout := idleTimeout } := by
    rw [slots, Function.update_self]
  have missing : (s.slots idx).bitmap bit = false := by
    rw [← Bool.not_eq_true, state.seenBit]
    exact fresh
  have bits : ldBitmapBits = 1144 := rfl
  have limit := bit.isLt
  constructor
  · rw [here]
    exact state.active
  · rw [here]
    exact state.gen
  · rw [here]
    exact state.id
  · intro other active gen id
    by_contra different
    rw [slots, Function.update_of_ne different] at active gen id
    exact different (state.only other active gen id)
  · rw [here]
    exact state.totalSize
  · rw [here]
    exact state.pageCount
  · rw [here]
    exact state.lastChunkSize
  · rw [here]
    exact state.totalChunks
  · rw [here]
    exact state.crc32
  · rw [here]
    exact state.inside
  · intro other
    rw [here, List.mem_cons, ← state.seenBit, ← Fin.ext_iff]
    simp only [LdPlane.storedSlot]
    by_cases same : other = bit
    · simp [same]
    · simp [same]
  · intro other member
    rcases List.mem_cons.mp member with rfl | member
    · exact inside
    · exact state.below other member
  · have one : (1 : UInt16).toNat = 1 := rfl
    have counted := state.counted
    have range : Bitmap.Below (s.slots idx).bitmap ldBitmapBits :=
      fun i _ => i.isLt
    have more := (range.set limit).count_le
    rw [Bitmap.count_set missing] at more
    rw [here]
    simp only [LdPlane.storedSlot]
    rw [Bitmap.count_set missing, UInt16.toNat_add, counted, one]
    omega
  · rw [here]
    exact ready
  · intro other member
    rw [here, mem]
    rcases List.mem_cons.mp member with rfl | member
    · exact blockAt_splice _ _ _ _
    · refine (state.blocks other member).splice_other ?_
      rintro rfl
      exact fresh member
  · exact reliable

/-- A slot whose last chunk arrived holds the blob. -/
theorem blob_stored
    (state : LdReassembling crc sender blob idx seen s)
    (all : ∀ linear, linear < (blob.length + 179) / 180 → linear ∈ seen) :
    slice s.io.psram.mem (s.slots idx).baseAddr.toNat blob.length = blob := by
  have covers : blob.length ≤ (blob.length + 179) / 180 * 180 := by omega
  exact slice_of_blocks (by decide) covers fun linear below =>
    state.blocks linear (all linear below)

/-- The chunk is written where it belongs. -/
theorem write
    (state : LdReassembling crc sender blob idx seen s)
    (offers : sender.Offers crc blob) (hdr : PacketHeader)
    (below : linear < (blob.length + 179) / 180) :
    ∃ io, s.io.write ((s.slots idx).baseAddr.toNat + linear * ldChunkSize)
        ((sender.chunk hdr blob linear).data.bytes.take
          (LdPlane.storedChunkSize (s.slots idx) linear).toNat) = (io, none) ∧
      io.psram.Reliable ∧
        io.psram.mem = splice s.io.psram.mem
          ((s.slots idx).baseAddr.toNat + linear * 180)
          ((blob.drop (linear * 180)).take 180) := by
  have inside := state.inside
  have chunkSize := offers.chunkSize below
  have same : (LdPlane.storedChunkSize (s.slots idx) linear).toNat =
      (LdPlane.chunkSizeFor sender (UInt16.ofNat linear)).toNat := by
    have chunks := offers.totalChunks
    have full : (UInt16.ofNat ldChunkSize).toNat = 180 := by decide
    rw [chunkSize]
    unfold LdPlane.storedChunkSize
    rw [state.totalChunks, state.lastChunkSize]
    split
    · rw [offers.lastChunkSize]
      omega
    · rw [full]
      omega
  have length :
      ((blob.drop (linear * ldChunkSize)).take
        (LdPlane.chunkSizeFor sender (UInt16.ofNat linear)).toNat).length =
          (LdPlane.chunkSizeFor sender (UInt16.ofNat linear)).toNat := by
    have size : ldChunkSize = 180 := rfl
    rw [List.length_take, List.length_drop, chunkSize, size]
    omega
  have capacity : sendLargeDataMax = 180 := rfl
  have stored :
      (sender.chunk hdr blob linear).data.bytes.take
          (LdPlane.storedChunkSize (s.slots idx) linear).toNat =
        (blob.drop (linear * 180)).take 180 := by
    rw [same, ← offers.chunkBytes below]
    nth_rewrite 1 [← length]
    exact Buffer.take_ofData (by rw [length, chunkSize, capacity]; omega)
  have size : ldChunkSize = 180 := rfl
  rw [stored, size]
  apply Io.write_reliable state.reliable
  rw [List.length_take, List.length_drop]
  omega

/-- The counter tells whether the new chunk was the last one missing. -/
theorem full_iff
    (state : LdReassembling crc sender blob idx seen s)
    (offers : sender.Offers crc blob)
    (below : linear < (blob.length + 179) / 180) (fresh : linear ∉ seen)
    (small : linear < ldBitmapBits) :
    (s.slots idx).totalChunks ≤ (s.slots idx).receivedCount + 1 ↔
      ∀ other, other < (blob.length + 179) / 180 →
        other ∈ linear :: seen := by
  have limit : ldMaxTransferSize = 204800 := rfl
  have bits : ldBitmapBits = 1144 := rfl
  have one : (1 : UInt16).toNat = 1 := rfl
  have bound := offers.bound
  have counted := state.counted
  have missing : (s.slots idx).bitmap ⟨linear, small⟩ = false := by
    rw [← Bool.not_eq_true, state.seenBit]
    exact fresh
  have range : Bitmap.Below (s.slots idx).bitmap
      ((blob.length + 179) / 180) :=
    fun bit set => state.below _ ((state.seenBit bit).mp set)
  have after := @Bitmap.Below.set _ _ _ ⟨linear, small⟩ range below
  have most := after.count_le
  rw [Bitmap.count_set missing] at most
  have member (other : Nat) (inside : other < ldBitmapBits) :
      Function.update (s.slots idx).bitmap ⟨linear, small⟩ true
          ⟨other, inside⟩ = true ↔ other ∈ linear :: seen := by
    rw [List.mem_cons, ← state.seenBit ⟨other, inside⟩]
    by_cases same : other = linear
    · subst same
      simp
    · rw [Function.update_of_ne (by simpa using same)]
      simp [same]
  rw [UInt16.le_iff_toNat_le, state.totalChunks, offers.totalChunks,
    UInt16.toNat_add, one, counted]
  constructor
  · intro full other inside
    refine (member other (by omega)).mp (after.full ?_ _ inside)
    rw [Bitmap.count_set missing]
    omega
  · intro all
    have least := @Bitmap.le_count ldBitmapBits
      (Function.update (s.slots idx).bitmap ⟨linear, small⟩ true)
      ((blob.length + 179) / 180) (by omega) fun bit inside =>
        (member bit.val bit.isLt).mpr (all bit.val inside)
    rw [Bitmap.count_set missing] at least
    omega

/-- The last missing chunk: the checksum is right and the slot is ready. -/
theorem complete
    {env : Env} {io : Io}
    (state : LdReassembling crc sender blob idx seen s)
    (offers : sender.Offers crc blob) (board : env.crc = crc)
    (below : linear < (blob.length + 179) / 180) (fresh : linear ∉ seen)
    (small : linear < ldBitmapBits) (reliable : io.psram.Reliable)
    (mem : io.psram.mem = splice s.io.psram.mem
      ((s.slots idx).baseAddr.toNat + linear * 180)
      ((blob.drop (linear * 180)).take 180))
    (all : ∀ other, other < (blob.length + 179) / 180 →
      other ∈ linear :: seen) :
    ∃ s', (Except.ok
        (({ s with io := io }.setSlot idx
          (LdPlane.storedSlot env (s.slots idx) ⟨linear, small⟩)).completeSlot
            env idx) : Except Fault (LdPlane × UInt8)) =
        .ok (s', statusSuccess) ∧
      LdReassembling crc sender blob idx (linear :: seen) s' := by
  have inside := state.inside
  have nonempty := offers.nonempty
  have size : (s.slots idx).totalSize.toNat = blob.length := by
    rw [state.totalSize, offers.totalSize]
  -- with the flag already set, the invariant says what the pages hold
  have stored :=
    (@add crc sender blob s
      (({ s with io := io } : LdPlane).setSlot idx
        { LdPlane.storedSlot env (s.slots idx) ⟨linear, small⟩ with
          upstreamReady := true })
      idx seen env ⟨linear, small⟩ true _ state below fresh rfl mem reliable
      (iff_of_true rfl all)).blob_stored all
  simp only [LdPlane.setSlot, Function.update_self, LdPlane.storedSlot]
    at stored
  obtain ⟨psram, verified, later, same⟩ :=
    @LdPlane.verifyCrc32_reliable
      ({ s with io := io }.setSlot idx
        (LdPlane.storedSlot env (s.slots idx) ⟨linear, small⟩))
      idx env reliable
      (by simp [LdPlane.setSlot, LdPlane.storedSlot, size]; omega)
      (by simp [LdPlane.setSlot, LdPlane.storedSlot, size]; omega)
      (by simp [LdPlane.setSlot, LdPlane.storedSlot, size, stored,
        state.crc32, offers.crc32, board])
  unfold LdPlane.completeSlot
  rw [verified]
  refine ⟨_, rfl, ?_⟩
  refine @add crc sender blob s _ idx seen env ⟨linear, small⟩ true
    (LdPlane.storedSlot env (s.slots idx) ⟨linear, small⟩).idleTimeout.stop
    state below fresh ?_ (same.trans mem) later (iff_of_true rfl all)
  simp [LdPlane.setSlot, LdPlane.readySlot]

/-- One chunk is answered `STATUS_SUCCESS` the first time and
`STATUS_ALREADY_EXISTS` from then on. -/
theorem step
    {env : Env} (state : LdReassembling crc sender blob idx seen s)
    (offers : sender.Offers crc blob) (board : env.crc = crc)
    (hdr : PacketHeader) (below : linear < (blob.length + 179) / 180) :
    ∃ s', s.validateLargeDataChunk env (sender.chunk hdr blob linear) =
        .ok (s', if linear ∈ seen then statusAlreadyExists else statusSuccess) ∧
      LdReassembling crc sender blob idx (linear :: seen) s' := by
  have limit : ldMaxTransferSize = 204800 := rfl
  have bits : ldBitmapBits = 1144 := rfl
  have perPage : ldChunksPerPage = 32 := rfl
  have bound := offers.bound
  have chunks := offers.totalChunks
  have pages := offers.pageCount
  have small : linear < ldBitmapBits := by omega
  have found : s.findLargeDataSlot sender.genDeviceId sender.dataId =
      some idx :=
    LdPlane.findLargeDataSlot_of_only state.active state.gen state.id
      state.only
  have admitted :
      ¬ ((s.slots idx).pageCount ≤ (sender.chunk hdr blob linear).pageIndex ∨
        ldChunksPerPage ≤ (sender.chunk hdr blob linear).chunkIndex.toNat ∨
          (s.slots idx).totalChunks.toNat ≤ linear) := by
    rw [state.pageCount, state.totalChunks, UInt8.le_iff_toNat_le]
    simp only [LdSender.chunk]
    rw [UInt8.toNat_ofNat', UInt8.toNat_ofNat', perPage, UInt16.toNat_toUInt8]
    omega
  have position :
      LdPlane.linearIndex (sender.chunk hdr blob linear).pageIndex
        (sender.chunk hdr blob linear).chunkIndex = linear :=
    linearIndex_chunk (by omega)
  have bitIndex : LdPlane.bitIndex linear = .ok ⟨linear, small⟩ :=
    dif_pos small
  obtain ⟨io, wrote, reliable, mem⟩ := state.write offers hdr below
  unfold LdPlane.validateLargeDataChunk
  simp only [LdSender.chunk] at admitted position wrote ⊢
  simp only [found, position, if_neg admitted, bitIndex, wrote]
  by_cases known : linear ∈ seen
  · rw [if_pos ((state.seenBit ⟨linear, small⟩).mpr known), if_pos known]
    exact ⟨s, rfl, state.again known⟩
  · have fresh : ¬ (s.slots idx).bitmap ⟨linear, small⟩ = true :=
      fun set => known ((state.seenBit ⟨linear, small⟩).mp set)
    rw [if_neg fresh, if_neg known]
    have notReady : ¬ (s.slots idx).upstreamReady = true :=
      fun ready => known (state.ready.mp ready linear below)
    have counts := state.full_iff offers below known small
    split
    · next full =>
      exact state.complete offers board below known small reliable mem
        (counts.mp full)
    · next partly =>
      refine ⟨_, rfl, ?_⟩
      exact @add crc sender blob s _ idx seen env ⟨linear, small⟩ _ _ state
        below known rfl mem reliable
        (iff_of_false notReady fun all => partly (counts.mpr all))

/-- The answers of a whole sequence of chunks, after those in `seen`. -/
theorem run
    {arrivals : List LdArrival}
    (offers : sender.Offers crc blob)
    (allowed : ∀ arrival ∈ arrivals, arrival.env.crc = crc ∧
      arrival.linear < (blob.length + 179) / 180) :
    ∀ {seen : List Nat} {s : LdPlane},
      LdReassembling crc sender blob idx seen s →
        ∃ s' statuses,
          s.validateChunks (arrivals.map fun arrival =>
              (arrival.env, sender.chunk arrival.hdr blob arrival.linear)) =
            .ok (s', statuses) ∧
          LdReassembling crc sender blob idx
            ((arrivals.map LdArrival.linear).reverse ++ seen) s' ∧
          statuses.length = arrivals.length ∧
          ∀ k arrival, arrivals[k]? = some arrival →
            statuses[k]? = some
              (if arrival.linear ∈ seen ∨
                  ∃ earlier ∈ arrivals.take k,
                    earlier.linear = arrival.linear
                then statusAlreadyExists else statusSuccess) := by
  induction arrivals with
  | nil =>
      intro seen s state
      exact ⟨s, [], rfl, state, rfl, by simp⟩
  | cons first rest inductionHypothesis =>
      intro seen s state
      obtain ⟨board, below⟩ := allowed first List.mem_cons_self
      obtain ⟨middle, answered, stored⟩ :=
        state.step offers board first.hdr below
      obtain ⟨s', statuses, received, final, count, answers⟩ :=
        inductionHypothesis
          (fun arrival member =>
            allowed arrival (List.mem_cons_of_mem first member)) stored
      refine ⟨s', (if first.linear ∈ seen then statusAlreadyExists
        else statusSuccess) :: statuses, ?_, ?_, ?_, ?_⟩
      · simp only [List.map_cons, LdPlane.validateChunks, answered, received]
      · simpa using final
      · simp [count]
      · intro k arrival here
        cases k with
        | zero =>
            simp only [List.getElem?_cons_zero, Option.some.injEq] at here
            subst here
            simp
        | succ k =>
            simp only [List.getElem?_cons_succ] at here ⊢
            have same :
                (arrival.linear ∈ first.linear :: seen ∨
                  ∃ earlier ∈ rest.take k, earlier.linear = arrival.linear) ↔
                (arrival.linear ∈ seen ∨
                  ∃ earlier ∈ (first :: rest).take (k + 1),
                    earlier.linear = arrival.linear) := by
              rw [List.mem_cons, List.take_succ_cons,
                @eq_comm _ arrival.linear]
              simp only [List.mem_cons, exists_eq_or_imp]
              tauto
            rw [answers k arrival here]
            exact congrArg some (if_congr same rfl rfl)

end LdReassembling

/-- An accepted announcement starts a transfer without chunks, whatever the
memory holds. -/
theorem LdReassembling.announced
    {env : Env} {hdr : PacketHeader} {reportTimeMs : UInt64} {final : LdPlane}
    (offers : sender.Offers crc blob)
    (accepted :
      s.validateLargeDataSlot env (sender.announcement hdr reportTimeMs) =
        (s', statusSuccess))
    (slots : final.slots = s'.slots) (reliable : final.io.psram.Reliable) :
    ∃ idx, LdReassembling crc sender blob idx [] final := by
  obtain ⟨idx, range, missing, _, fits, rfl⟩ :=
    LdPlane.validateLargeDataSlot_success accepted
  have limit : ldMaxTransferSize = 204800 := rfl
  have pageSize : ldPageSize = 5760 := rfl
  have maxPages : ldMaxPageCount = 1092 := rfl
  have first : psramLargeDataBase = 2097152 := rfl
  have memory : psramSize = 8388608 := rfl
  have bound := offers.bound
  have nonempty := offers.nonempty
  have total := offers.totalSize
  obtain ⟨inside, count, address, _⟩ := findPages_spec fits (by
    simp only [LdSender.announcement]
    omega)
  simp only [LdSender.announcement] at missing count
  refine ⟨idx, ?_⟩
  constructor
  any_goals
    simp only [slots, Function.update_self, LdPlane.acceptedSlot,
      LdPlane.allocatedSlot, LdSender.announcement]
  · intro other active gen id
    by_contra different
    rw [Function.update_of_ne different] at active gen id
    exact LdPlane.findLargeDataSlot_none missing other active gen id
  · rw [← UInt16.toNat_inj, UInt16.toNat_ofNat', offers.totalChunks]
    unfold chunksOf
    have size : ldChunkSize = 180 := rfl
    rw [total, size]
    omega
  · rw [address, pageSize]
    rw [total, pageSize] at count
    omega
  · simp
  · simp
  · simp
  · refine iff_of_false (by simp) fun all => ?_
    cases all 0 (by omega)
  · simp
  · exact reliable

theorem LdReassembling.start
    {env : Env} {hdr : PacketHeader} {reportTimeMs : UInt64}
    (offers : sender.Offers crc blob) (reliable : s.io.psram.Reliable)
    (accepted :
      s.validateLargeDataSlot env (sender.announcement hdr reportTimeMs) =
        (s', statusSuccess)) :
    ∃ idx, LdReassembling crc sender blob idx [] s' := by
  refine LdReassembling.announced offers accepted rfl ?_
  obtain ⟨_, _, _, _, _, rfl⟩ := LdPlane.validateLargeDataSlot_success accepted
  exact reliable

/-- The chunks of an accepted blob may arrive in any order and any number of
times: the first arrival of each is answered `STATUS_SUCCESS`, every later one
`STATUS_ALREADY_EXISTS`, the slot is ready exactly once all of them arrived,
and then its pages hold the blob. -/
theorem ldReassembly_anyOrder
    {env : Env} {hdr : PacketHeader} {reportTimeMs : UInt64}
    (offers : sender.Offers crc blob) (reliable : s.io.psram.Reliable)
    (accepted :
      s.validateLargeDataSlot env (sender.announcement hdr reportTimeMs) =
        (s', statusSuccess))
    (arrivals : List LdArrival)
    (allowed : ∀ arrival ∈ arrivals, arrival.env.crc = crc ∧
      arrival.linear < (blob.length + 179) / 180) :
    ∃ idx final statuses,
      final.findLargeDataSlot sender.genDeviceId sender.dataId = some idx ∧
        s'.validateChunks (arrivals.map fun arrival =>
            (arrival.env, sender.chunk arrival.hdr blob arrival.linear)) =
          .ok (final, statuses) ∧
        statuses.length = arrivals.length ∧
        (∀ k arrival, arrivals[k]? = some arrival →
          statuses[k]? = some
            (if ∃ earlier ∈ arrivals.take k, earlier.linear = arrival.linear
              then statusAlreadyExists else statusSuccess)) ∧
        ((final.slots idx).upstreamReady = true ↔
          ∀ linear, linear < (blob.length + 179) / 180 →
            ∃ arrival ∈ arrivals, arrival.linear = linear) ∧
        ((final.slots idx).upstreamReady = true →
          slice final.io.psram.mem (final.slots idx).baseAddr.toNat
            blob.length = blob) := by
  obtain ⟨idx, started⟩ := LdReassembling.start offers reliable accepted
  obtain ⟨final, statuses, received, state, count, answers⟩ :=
    LdReassembling.run offers allowed started
  refine ⟨idx, final, statuses, ?_, received, count, ?_, ?_, ?_⟩
  · exact LdPlane.findLargeDataSlot_of_only state.active state.gen state.id
      state.only
  · intro k arrival here
    simpa using answers k arrival here
  · simpa using state.ready
  · exact fun ready => state.blob_stored (state.ready.mp ready)

end Receiving

section Samples

/-- 200 bytes: a chunk of 180 and one of 20. -/
def ldSampleBlob : List UInt8 := List.replicate 200 7

theorem ldSampleBlob_length : ldSampleBlob.length = 200 :=
  List.length_replicate

/-- Sensor 5 offers them. -/
def ldSampleSender : LdSender where
  active := true
  genDeviceId := 5
  dataId := 1
  totalSize := 200
  pageCount := 1
  lastChunkSize := 20
  totalChunks := 2
  crc32 := Checksum.crc32Ieee.ieee ldSampleBlob

theorem ldSampleSender_offers :
    ldSampleSender.Offers Checksum.crc32Ieee ldSampleBlob where
  nonempty := by rw [ldSampleBlob_length]; decide
  bound := by rw [ldSampleBlob_length]; decide
  totalSize := by rw [ldSampleBlob_length]; decide
  totalChunks := by rw [ldSampleBlob_length]; decide
  pageCount := by rw [ldSampleBlob_length]; decide
  lastChunkSize := by rw [ldSampleBlob_length]; decide
  crc32 := rfl

/-- The last chunk arrives first, and twice. -/
def ldSampleArrivals : List LdArrival :=
  [⟨ldGateway, {}, 1⟩, ⟨ldGateway, {}, 1⟩, ⟨ldGateway, {}, 0⟩]

/-- The blob is put together from its last chunk, a repetition of it and its
first chunk. -/
theorem ldReassembly_anyOrder_twoChunks :
    ∃ s' idx final statuses,
      LdPlane.validateLargeDataSlot (.boot {}) ldGateway
          (ldSampleSender.announcement {} 0) = (s', statusSuccess) ∧
        s'.validateChunks (ldSampleArrivals.map fun arrival =>
            (arrival.env, ldSampleSender.chunk arrival.hdr ldSampleBlob
              arrival.linear)) = .ok (final, statuses) ∧
        statuses[0]? = some statusSuccess ∧
        statuses[1]? = some statusAlreadyExists ∧
        statuses[2]? = some statusSuccess ∧
        slice final.io.psram.mem (final.slots idx).baseAddr.toNat 200 =
          ldSampleBlob := by
  have status :
      (LdPlane.validateLargeDataSlot (.boot {}) ldGateway
        (ldSampleSender.announcement {} 0)).2 = statusSuccess := by
    decide +kernel
  obtain ⟨idx, final, statuses, _, received, _, answers, ready, stored⟩ :=
    ldReassembly_anyOrder ldSampleSender_offers
      ⟨rfl, fun outcome member => by cases member⟩
      (Prod.ext rfl status) ldSampleArrivals (by
        intro arrival member
        simp only [ldSampleArrivals, List.mem_cons, List.not_mem_nil,
          or_false] at member
        rcases member with rfl | rfl | rfl
        all_goals
          rw [ldSampleBlob_length]
          exact ⟨rfl, by decide⟩)
  have complete : (final.slots idx).upstreamReady = true := by
    rw [ready]
    intro linear below
    rw [ldSampleBlob_length] at below
    have positions : linear = 0 ∨ linear = 1 := by omega
    rcases positions with rfl | rfl
    · exact ⟨_, .tail _ (.tail _ (.head _)), rfl⟩
    · exact ⟨_, .head _, rfl⟩
  refine ⟨_, idx, final, statuses, Prod.ext rfl status, received, ?_, ?_, ?_,
    stored complete⟩
  · simpa [ldSampleArrivals] using answers 0 _ rfl
  · simpa [ldSampleArrivals] using answers 1 _ rfl
  · simpa [ldSampleArrivals] using answers 2 _ rfl

end Samples

end DectMesh
