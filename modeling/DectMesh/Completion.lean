import DectMesh.LargeData.Announcement
import DectMesh.Report.Reassembly

/-!
# What an accepted announcement promises

`handle_report_init` and `handle_large_data_init` check every size of an
announcement on its own; the receivers of the chunks combine them.  Sizes that
belong together lead to a transfer that its chunks complete; the others are
accepted all the same.
-/

namespace DectMesh

open ByteStore

/-- The sizes are those of bytes that were cut into chunks. -/
structure ReportInit.Consistent (pkt : ReportInit) : Prop where
  chunkCount : pkt.chunkCount.toNat =
    (pkt.totalSize.toNat + sendDataMax - 1) / sendDataMax
  lastChunkSize : pkt.lastChunkSize.toNat =
    pkt.totalSize.toNat - (pkt.chunkCount.toNat - 1) * sendDataMax

/-- The packet with one chunk of the announced bytes. -/
def ReportInit.chunk (pkt : ReportInit) (data : List UInt8) (index : Nat) :
    ReportChunk where
  hdr := pkt.hdr
  genDeviceId := pkt.genDeviceId
  dataId := pkt.dataId
  chunkIndex := UInt8.ofNat index
  data := Buffer.ofData sendDataMax
    ((data.drop (index * sendDataMax)).take sendDataMax)

namespace ReportPlane

variable (s : ReportPlane) (env : Env) (pkt : ReportInit) (srcId : UInt16)

/-- The plane on another memory. -/
def onMemory (psram : Psram) : ReportPlane :=
  { s with io := { s.io with psram := psram } }

/-- An announcement that gets as far as `validate_slot`. -/
structure Considers : Prop where
  role : env.deviceType = .gateway ∨ env.deviceType = .anchor
  below : FromBelow env pkt.hdr
  sizes : WellSized pkt

/-- On a memory that works, bytes of the announced size and checksum complete
the transfer: the slot takes each of their chunks, and once all of them
arrived it is ready, and they are what was written. -/
def Completable : Prop :=
  ∀ (psram : Psram) (data : List UInt8),
    psram.Reliable → psram.mem = s.io.psram.mem →
    data.length = pkt.totalSize.toNat → env.crc.ieee data = pkt.crc32 →
      ∃ idx, s.findSlot pkt.genDeviceId pkt.dataId = some idx ∧
        (∀ index, index < pkt.chunkCount.toNat →
          ∃ t, (s.onMemory psram).validateReportChunk env
            (pkt.chunk data index) = .ok (t, statusSuccess)) ∧
        Trace.Ends reportStep (s.onMemory psram)
          ((List.range pkt.chunkCount.toNat).map fun index =>
            (env, .reportChunk (pkt.chunk data index) srcId))
          fun final => (final.slots idx).upstreamReady = true ∧
            final.io.psram.mem =
              splice s.io.psram.mem (slotPsramAddr idx) data

/-- `STATUS_SUCCESS` is a promise, and sizes that do not belong together are
answered `STATUS_INVALID_PARAMETER` at most and change nothing. -/
structure Promises (after : ReportPlane) : Prop where
  success : initAnswer env pkt srcId statusSuccess ∈ after.io.out →
    pkt.Consistent ∧ after.Completable env pkt srcId
  inconsistent : ¬ pkt.Consistent →
    (∀ status, initAnswer env pkt srcId status ∈ after.io.out →
      status = statusInvalidParameter) ∧ after.clearOut = s.clearOut

section Announcements

variable {s env pkt srcId}

theorem initAnswer_inj {left right : UInt8}
    (same : initAnswer env pkt srcId left = initAnswer env pkt srcId right) :
    left = right := by
  simpa [initAnswer, Env.replyHeader] using same

theorem findSlot_of_only {idx : Fin dataSlotCount}
    {genDeviceId : UInt16} {dataId : UInt8}
    (active : (s.slots idx).active = true)
    (gen : (s.slots idx).genDeviceId = genDeviceId)
    (id : (s.slots idx).dataId = dataId)
    (only : ∀ other, (s.slots other).active = true →
      (s.slots other).genDeviceId = genDeviceId →
        (s.slots other).dataId = dataId → other = idx) :
    s.findSlot genDeviceId dataId = some idx := by
  cases found : s.findSlot genDeviceId dataId with
  | none => exact absurd id (findSlot_none found idx active gen)
  | some other =>
      obtain ⟨otherActive, otherGen, otherId⟩ := findSlot_some found
      rw [only other otherActive otherGen otherId]

/-- A search for a slot reads the keys of the slots in use. -/
theorem findSlot_of_keys {s' : ReportPlane}
    (active : ∀ idx, (s'.slots idx).active = (s.slots idx).active)
    (gen : ∀ idx, (s'.slots idx).genDeviceId = (s.slots idx).genDeviceId)
    (id : ∀ idx, (s'.slots idx).dataId = (s.slots idx).dataId)
    (genDeviceId : UInt16) (dataId : UInt8) :
    s'.findSlot genDeviceId dataId = s.findSlot genDeviceId dataId := by
  unfold findSlot
  simp only [active, gen, id]

/-- The slot that was taken is found under the key. -/
theorem Validated.accepted {t : ReportPlane} {status : UInt8}
    (validated : Validated env s pkt t status)
    (success : status = statusSuccess) :
    ∃ idx base, base.upstreamReady = false ∧
      t.slots idx = acceptedSlot env base pkt ∧
        t.findSlot pkt.genDeviceId pkt.dataId = some idx := by
  cases validated with
  | @again idx found waits =>
      obtain ⟨active, gen, id⟩ := findSlot_some found
      refine ⟨idx, s.slots idx, waits, by simp, ?_⟩
      rw [← found]
      -- the slot keeps its key
      apply findSlot_of_keys
      all_goals
        intro other
        by_cases same : other = idx
        · subst same
          simp [acceptedSlot, active, gen, id]
        · simp [same]
  | @fresh idx missing free =>
      refine ⟨idx, clearedSlot (s.slots idx), rfl, by simp, ?_⟩
      refine findSlot_of_only ?_ ?_ ?_ fun other active gen id => ?_
      · simp [acceptedSlot]
      · simp [acceptedSlot]
      · simp [acceptedSlot]
      · by_contra different
        rw [setSlot_slots, updateReportCount_slots,
          Function.update_of_ne different] at active gen id
        exact findSlot_none missing other active gen id
  | _ => cases success

end Announcements

section Delivery

variable {s env pkt srcId}
variable {data : List UInt8} {idx : Fin dataSlotCount} {mem : Store}
variable {seen : List Nat}

/-- What is known after the listed chunks of the announced bytes arrived. -/
structure Delivered (env : Env) (pkt : ReportInit) (data : List UInt8)
    (idx : Fin dataSlotCount) (mem : Store) (seen : List Nat)
    (s : ReportPlane) : Prop where
  found : s.findSlot pkt.genDeviceId pkt.dataId = some idx
  assembles : Assembles env.crc s.io.psram.mem idx (s.slots idx) data
    (seen.map UInt8.ofNat)
  reliable : s.io.psram.Reliable
  outside : ∀ cell,
    cell < slotPsramAddr idx ∨ slotPsramAddr idx + data.length ≤ cell →
      s.io.psram.mem cell = mem cell

/-- The chunk packets carry the announced bytes. -/
theorem chunk_pieceOf {index : Nat} (fits : data.length ≤ maxReportSize)
    (below : index < chunksOfReport data) :
    (pkt.chunk data index).PieceOf data := by
  have size : sendDataMax = 180 := rfl
  have limit : maxReportSize = 256 := rfl
  have start := chunkStart below
  have value : (UInt8.ofNat index).toNat = index := by
    rw [size] at start
    rw [UInt8.toNat_ofNat']
    omega
  constructor
  · simp only [ReportInit.chunk]
    rwa [value]
  · simp only [ReportInit.chunk]
    rw [value]
    have length : ((data.drop (index * sendDataMax)).take sendDataMax).length =
        min sendDataMax (data.length - index * sendDataMax) := by
      rw [List.length_take, List.length_drop]
    rw [← length]
    apply Buffer.take_ofData
    rw [length]
    exact Nat.min_le_left _ _

/-- A chunk changes no byte outside the report. -/
theorem reportChunk_outside {s' : ReportPlane} {chunk : ReportChunk}
    (assembles : Assembles env.crc s.io.psram.mem idx (s.slots idx) data
      (seen.map UInt8.ofNat))
    (found : s.findSlot chunk.genDeviceId chunk.dataId = some idx)
    (below : chunk.chunkIndex.toNat < chunksOfReport data)
    (stepped : s.step env (.reportChunk chunk srcId) = .ok s') {cell : Nat}
    (outside : cell < slotPsramAddr idx ∨
      slotPsramAddr idx + data.length ≤ cell) :
    s'.io.psram.mem cell = s.io.psram.mem cell := by
  obtain ⟨middle, first, same⟩ := handleReportChunk_outcome rfl stepped
  rcases first with rfl | move
  · exact congrFun same.mem cell
  · by_contra changed
    have wrote : ∃ count other place, s.clearOut.findSlot
        chunk.genDeviceId chunk.dataId = some other ∧
          other = place ∧ middle.io.psram.mem = splice s.io.psram.mem
            (chunkWriteAddr place chunk)
            ((chunkBytes s.clearOut place chunk).take count) := by
      obtain ⟨_, _, place, _, count, received, storable, mem⟩ := move.write
      cases received
      exact ⟨count, place, place, storable.found, rfl, mem⟩
    obtain ⟨count, _, place, here, rfl, mem⟩ := wrote
    have cleared := @findSlot_congr s s.clearOut rfl chunk.genDeviceId
      chunk.dataId
    rw [cleared, found, Option.some.injEq] at here
    subst here
    apply changed
    rw [same.mem, mem]
    apply splice_outside
    have start := chunkStart below
    have stored : (storedChunkSize (s.clearOut.slots idx)
        chunk.chunkIndex).toNat =
          min sendDataMax
            (data.length - chunk.chunkIndex.toNat * sendDataMax) :=
      chunkSize_of_assembles assembles below
    unfold chunkWriteAddr chunkBytes
    rw [List.length_take, List.length_take]
    omega

/-- One more chunk of the announced bytes. -/
theorem Delivered.step {index : Nat}
    (delivered : Delivered env pkt data idx mem seen s)
    (considers : Considers env pkt) (nonempty : 1 ≤ data.length)
    (fits : data.length ≤ maxReportSize)
    (below : index < chunksOfReport data) :
    ∃ after, reportStep s (env, .reportChunk (pkt.chunk data index) srcId) =
        .ok after ∧
      Delivered env pkt data idx mem (index :: seen) after := by
  have piece := @chunk_pieceOf pkt data index fits below
  have cleared : s.clearOut.findSlot pkt.genDeviceId pkt.dataId = some idx :=
    (@findSlot_congr s s.clearOut rfl _ _).trans delivered.found
  have assembles : Assembles env.crc s.clearOut.io.psram.mem idx
      (s.clearOut.slots idx) data (seen.map UInt8.ofNat) :=
    delivered.assembles
  obtain ⟨t, validated, taken⟩ := validateReportChunk_taken assembles cleared
    rfl nonempty fits piece delivered.reliable
  have stepped : reportStep s
      (env, .reportChunk (pkt.chunk data index) srcId) = .ok
        (t.put (chunkAnswer env (pkt.chunk data index) srcId
          (if (pkt.chunk data index).chunkIndex ∈ seen.map UInt8.ofNat then
            statusAlreadyExists else statusSuccess))) :=
    ReportAssembly.handleReportChunk_answer considers.role considers.below validated
  refine ⟨_, stepped, ?_, taken.assembles, taken.reliable, ?_⟩
  · have keys : t.findSlot pkt.genDeviceId pkt.dataId =
        s.clearOut.findSlot pkt.genDeviceId pkt.dataId := by
      apply findSlot_of_keys
      all_goals
        intro other
        by_cases same : other = idx
        · subst same
          first
            | exact taken.active
            | exact taken.gen
            | exact taken.id
        · rw [taken.slots, Function.update_of_ne same]
    refine (findSlot_congr t ?_ _ _).trans (keys.trans cleared)
    rfl
  · intro cell apart
    exact (reportChunk_outside delivered.assembles delivered.found
      piece.inRange stepped apart).trans (delivered.outside cell apart)

/-- Consistent sizes are a promise the receiver keeps. -/
theorem completable (considers : Considers env pkt)
    (consistent : pkt.Consistent) {base : ReportSlot}
    (notReady : base.upstreamReady = false)
    (slots : s.slots idx = acceptedSlot env base pkt)
    (found : s.findSlot pkt.genDeviceId pkt.dataId = some idx) :
    s.Completable env pkt srcId := by
  intro psram data reliable same length checksum
  have size : sendDataMax = 180 := rfl
  have limit : maxReportSize = 256 := rfl
  have sizes := considers.sizes
  unfold WellSized at sizes
  rw [← UInt16.toNat_inj] at sizes
  have zero : (0 : UInt16).toNat = 0 := rfl
  have nonempty : 1 ≤ data.length := by omega
  have fits : data.length ≤ maxReportSize := by omega
  have chunks : pkt.chunkCount.toNat = chunksOfReport data := by
    rw [consistent.chunkCount, chunksOfReport, length]
  have describes : pkt.Describes env.crc data :=
    { totalSize := length.symm
      chunkCount := chunks
      lastChunkSize := by rw [consistent.lastChunkSize, chunks, length]
      crc32 := checksum.symm }
  have start : Delivered env pkt data idx s.io.psram.mem []
      (s.onMemory psram) :=
    { found := (@findSlot_congr s (s.onMemory psram) rfl _ _).trans found
      assembles := by
        have here : (s.onMemory psram).slots idx = acceptedSlot env base pkt :=
          slots
        rw [here]
        exact .announced describes nonempty notReady
      reliable := reliable
      outside := fun cell _ => congrFun same cell }
  refine ⟨idx, found, ?_, ?_⟩
  · intro index below
    rw [chunks] at below
    obtain ⟨t, validated, -⟩ := validateReportChunk_taken start.assembles
      start.found rfl nonempty fits (@chunk_pieceOf pkt data index fits below)
      reliable
    exact ⟨t, validated⟩
  · rw [chunks]
    obtain ⟨final, executed, delivered⟩ := Trace.ends_of_each
      (fun index => (env, ReportEvent.reportChunk (pkt.chunk data index) srcId))
      (fun index member seen state held => Delivered.step held considers
        nonempty fits (List.mem_range.mp member)) start
    have whole : Whole data
        (((List.range (chunksOfReport data)).reverse ++ []).map
          UInt8.ofNat) := by
      intro index below
      rw [List.append_nil, List.mem_map]
      refine ⟨index.toNat, ?_, UInt8.ofNat_toNat⟩
      rw [List.mem_reverse, List.mem_range]
      exact below
    exact ⟨final, executed, delivered.assembles.ready.mpr whole,
      eq_splice (delivered.assembles.stored whole fits) delivered.outside⟩

end Delivery

/-- The answers keep their promise exactly when the sizes belong together or
the handler turns the announcement down before it looks for a slot. -/
theorem promises_iff :
    s.Promises env pkt srcId (s.clearOut.handleReportInit env pkt srcId) ↔
      pkt.Consistent ∨ ¬ Considers env pkt := by
  have only {t : ReportPlane} {status other : UInt8} (quiet : t.io.out = [])
      (member : initAnswer env pkt srcId other ∈
        (t.put (initAnswer env pkt srcId status)).io.out) :
      other = status := by
    rw [put_io, Io.put_out, quiet] at member
    exact initAnswer_inj (List.mem_singleton.mp member)
  by_cases considers : Considers env pkt
  · obtain ⟨t, status, answered⟩ : ∃ t status,
        s.clearOut.validateSlot env pkt = (t, status) := ⟨_, _, rfl⟩
    have validated := validateSlot_validated answered
    have quiet : t.io.out = [] := congrArg Io.out validated.io
    rw [handleReportInit_answer considers.role considers.below considers.sizes
      answered]
    constructor
    · intro promises
      by_contra neither
      have inconsistent : ¬ pkt.Consistent :=
        fun consistent => neither (.inl consistent)
      have told : initAnswer env pkt srcId status ∈
          (t.put (initAnswer env pkt srcId status)).io.out := by
        rw [put_io, Io.put_out, quiet]
        exact List.mem_singleton_self _
      have refused := (promises.inconsistent inconsistent).1 _ told
      cases validated <;> exact absurd refused (by decide)
    · intro allowed
      have consistent : pkt.Consistent :=
        allowed.resolve_right (not_not.mpr considers)
      refine ⟨fun member => ⟨consistent, ?_⟩, absurd consistent⟩
      obtain ⟨idx, base, waits, here, found⟩ :=
        validated.accepted (only quiet member).symm
      refine completable considers consistent waits here ?_
      rw [← found]
      exact findSlot_congr _ (put_slots _ _) _ _
  · refine iff_of_true ?_ (.inr considers)
    generalize handled : s.clearOut.handleReportInit env pkt srcId = after
    cases handleReportInit_taken handled with
    | ignored =>
        exact ⟨fun member => absurd member List.not_mem_nil,
          fun _ => ⟨fun _ member => absurd member List.not_mem_nil, rfl⟩⟩
    | malformed =>
        exact ⟨fun member => absurd (only rfl member) (by decide),
          fun _ => ⟨fun _ member => only rfl member, rfl⟩⟩
    | answered role below sizes =>
        exact absurd ⟨role, below, sizes⟩ considers

end ReportPlane

/-- The sizes are those of a blob that was cut into pages of chunks. -/
structure LargeDataInit.Consistent (pkt : LargeDataInit) : Prop where
  pageCount : pkt.pageCount.toNat =
    (chunksOf pkt.totalSize ldChunkSize + ldChunksPerPage - 1) /
      ldChunksPerPage
  lastChunkSize : pkt.lastChunkSize.toNat =
    pkt.totalSize.toNat - (chunksOf pkt.totalSize ldChunkSize - 1) * ldChunkSize

/-- The packet with one chunk of the announced blob. -/
def LargeDataInit.chunk (pkt : LargeDataInit) (blob : List UInt8)
    (linear : Nat) : LargeDataChunk where
  hdr := pkt.hdr
  genDeviceId := pkt.genDeviceId
  dataId := pkt.dataId
  pageIndex := UInt8.ofNat (linear / ldChunksPerPage)
  chunkIndex := UInt8.ofNat (linear % ldChunksPerPage)
  data := Buffer.ofData sendLargeDataMax
    ((blob.drop (linear * ldChunkSize)).take ldChunkSize)

/-- The entry of a sender that makes this announcement. -/
def LargeDataInit.sender (pkt : LargeDataInit) : LdSender where
  genDeviceId := pkt.genDeviceId
  dataId := pkt.dataId
  totalSize := pkt.totalSize
  pageCount := pkt.pageCount.toUInt16
  lastChunkSize := pkt.lastChunkSize
  totalChunks := UInt16.ofNat (chunksOf pkt.totalSize ldChunkSize)
  crc32 := pkt.crc32

namespace LdPlane

variable (s : LdPlane) (env : Env) (pkt : LargeDataInit) (srcId : UInt16)

def onMemory (psram : Psram) : LdPlane :=
  { s with io := { s.io with psram := psram } }

/-- On a memory that works, a blob of the announced size and checksum
completes the transfer: the slot takes each of its chunks, and once all of
them arrived it is ready, and the blob is what was written. -/
def Completable : Prop :=
  ∀ (psram : Psram) (blob : List UInt8),
    psram.Reliable → psram.mem = s.io.psram.mem →
    blob.length = pkt.totalSize.toNat → env.crc.ieee blob = pkt.crc32 →
      ∃ idx, s.findLargeDataSlot pkt.genDeviceId pkt.dataId = some idx ∧
        (∀ linear, linear < chunksOf pkt.totalSize ldChunkSize →
          ∃ t, (s.onMemory psram).validateLargeDataChunk env
            (pkt.chunk blob linear) = .ok (t, statusSuccess)) ∧
        Trace.Ends ldStep (s.onMemory psram)
          ((List.range (chunksOf pkt.totalSize ldChunkSize)).map fun linear =>
            (env, .largeDataChunk (pkt.chunk blob linear) srcId))
          fun final => (final.slots idx).upstreamReady = true ∧
            final.io.psram.mem =
              splice s.io.psram.mem (s.slots idx).baseAddr.toNat blob

/-- `STATUS_SUCCESS` is a promise, and sizes that do not belong together are
answered `STATUS_INVALID_PARAMETER` at most and change nothing. -/
structure Promises (after : LdPlane) : Prop where
  success : initAnswer env pkt srcId statusSuccess ∈ after.io.out →
    pkt.Consistent ∧ after.Completable env pkt srcId
  inconsistent : ¬ pkt.Consistent →
    (∀ status, initAnswer env pkt srcId status ∈ after.io.out →
      status = statusInvalidParameter) ∧ after.clearOut = s.clearOut

section Delivery

variable {s env pkt srcId}
variable {blob : List UInt8} {idx : Fin ldReceiverSlotCount} {mem : Store}
variable {base : Nat} {seen : List Nat} {linear : Nat}

/-- What is known after the listed chunks of the announced blob arrived. -/
structure Delivered (env : Env) (pkt : LargeDataInit) (blob : List UInt8)
    (idx : Fin ldReceiverSlotCount) (base : Nat) (mem : Store)
    (seen : List Nat) (s : LdPlane) : Prop where
  state : LdReassembling env.crc pkt.sender blob idx seen s
  place : (s.slots idx).baseAddr.toNat = base
  outside : ∀ cell, cell < base ∨ base + blob.length ≤ cell →
    s.io.psram.mem cell = mem cell

/-- Consistent sizes are those a sender offers. -/
theorem sender_offers (considers : Considers env pkt)
    (consistent : pkt.Consistent) (length : blob.length = pkt.totalSize.toNat)
    (checksum : env.crc.ieee blob = pkt.crc32) :
    pkt.sender.Offers env.crc blob := by
  have limit : ldMaxTransferSize = 204800 := rfl
  have size : ldChunkSize = 180 := rfl
  have perPage : ldChunksPerPage = 32 := rfl
  have sizes := considers.sizes
  unfold WellSized at sizes
  rw [← UInt32.toNat_inj] at sizes
  have zero : (0 : UInt32).toNat = 0 := rfl
  have pages := consistent.pageCount
  have last := consistent.lastChunkSize
  unfold chunksOf at pages last
  rw [size, perPage] at pages
  rw [size] at last
  have small := pkt.pageCount.toNat_lt
  constructor
  · omega
  · omega
  · exact length.symm
  · simp only [LargeDataInit.sender]
    unfold chunksOf
    rw [size, UInt16.toNat_ofNat', length]
    omega
  · simp only [LargeDataInit.sender]
    rw [UInt8.toNat_toUInt16, pages, length]
    omega
  · simp only [LargeDataInit.sender]
    rw [last, length]
    omega
  · exact checksum.symm

/-- Both cut the blob alike. -/
theorem chunk_sender (offers : pkt.sender.Offers env.crc blob)
    (below : linear < (blob.length + 179) / 180) :
    pkt.sender.chunk pkt.hdr blob linear = pkt.chunk blob linear := by
  have size : ldChunkSize = 180 := rfl
  have bytes := offers.chunkBytes below
  unfold LdSender.chunk LargeDataInit.chunk
  rw [bytes, size]
  rfl

/-- A chunk changes no byte outside the blob. -/
theorem largeDataChunk_outside {s' : LdPlane} {chunk : LargeDataChunk}
    (state : LdReassembling env.crc pkt.sender blob idx seen s)
    (offers : pkt.sender.Offers env.crc blob)
    (gen : chunk.genDeviceId = pkt.genDeviceId)
    (id : chunk.dataId = pkt.dataId)
    (stepped : s.step env (.largeDataChunk chunk srcId) = .ok s') {cell : Nat}
    (outside : cell < (s.slots idx).baseAddr.toNat ∨
      (s.slots idx).baseAddr.toNat + blob.length ≤ cell) :
    s'.io.psram.mem cell = s.io.psram.mem cell := by
  obtain ⟨middle, first, same⟩ := handleLargeDataChunk_outcome rfl stepped
  rcases first with rfl | move
  · exact congrFun same.mem cell
  · rw [same.mem]
    rcases move.chunkWrite with kept | ⟨place, bit, count, storable, mem⟩
    · exact congrFun kept cell
    · have found := storable.found
      rw [gen, id] at found
      obtain ⟨active, ownGen, ownId⟩ := findLargeDataSlot_some found
      have here : place = idx := state.only place active ownGen ownId
      subst here
      rw [mem]
      apply splice_outside
      have size : ldChunkSize = 180 := rfl
      have below := storable.below
      have chunks : (s.clearOut.slots place).totalChunks.toNat =
          (blob.length + 179) / 180 := by
        rw [← offers.totalChunks]
        exact congrArg UInt16.toNat state.totalChunks
      have last : (s.clearOut.slots place).lastChunkSize.toNat =
          blob.length - ((blob.length + 179) / 180 - 1) * 180 := by
        rw [← offers.lastChunkSize]
        exact congrArg UInt16.toNat state.lastChunkSize
      have full : (UInt16.ofNat ldChunkSize).toNat = 180 := by decide
      have stored : (storedChunkSize (s.clearOut.slots place) bit.val).toNat ≤
          blob.length - bit.val * 180 := by
        unfold storedChunkSize
        rw [chunks] at below ⊢
        split
        · rw [last]
          omega
        · rw [full]
          omega
      have address : ldChunkAddr (s.clearOut.slots place) bit =
          (s.slots place).baseAddr.toNat + bit.val * 180 := rfl
      unfold ldChunkBytes
      rw [address, List.length_take, List.length_take]
      omega

/-- A chunk moves no slot to other pages. -/
theorem largeDataChunk_place {s' : LdPlane} {chunk : LargeDataChunk}
    (stepped : s.step env (.largeDataChunk chunk srcId) = .ok s')
    (other : Fin ldReceiverSlotCount) :
    (s'.slots other).baseAddr = (s.slots other).baseAddr := by
  have updated (place : Fin ldReceiverSlotCount) (slot : LdSlot)
      (same : slot.baseAddr = (s.slots place).baseAddr) :
      (Function.update s.slots place slot other).baseAddr =
        (s.slots other).baseAddr := by
    by_cases here : other = place
    · rw [here, Function.update_self, same]
    · rw [Function.update_of_ne here]
  obtain ⟨middle, first, same⟩ := handleLargeDataChunk_outcome rfl stepped
  refine (congrArg LdSlot.baseAddr (same.slots other) :).trans ?_
  rcases first with rfl | move
  · rfl
  · cases move with
    | quiet kept => exact (congrArg LdSlot.baseAddr (kept.slots other) :)
    | acknowledged received => cases received
    | freed ticked => cases ticked
    | accepted init =>
        obtain ⟨_, received⟩ := init.received
        cases received
    | storeFailed => rfl
    | stored => exact updated _ _ rfl
    | completed => exact updated _ _ rfl
    | @rejected place _ _ io =>
        rw [freeLargeDataSlot_slots]
        simp only [setSlot, Function.update_self, Function.update_idem]
        exact updated _ _ rfl
    | hostAllocated accepted =>
        obtain ⟨_, received, _⟩ := accepted.received
        cases received
    | hostLost stageable | hostStored stageable | hostCompleted stageable
    | hostRejected stageable =>
        obtain ⟨_, received⟩ := stageable.received
        cases received
    | restarted restart => cases restart
    | elsewhere elsewhere => cases elsewhere

/-- One more chunk of the announced blob. -/
theorem Delivered.step
    (delivered : Delivered env pkt blob idx base mem seen s)
    (considers : Considers env pkt) (offers : pkt.sender.Offers env.crc blob)
    (below : linear < (blob.length + 179) / 180) :
    ∃ after, ldStep s (env, .largeDataChunk (pkt.chunk blob linear) srcId) =
        .ok after ∧
      Delivered env pkt blob idx base mem (linear :: seen) after := by
  have cleared : LdReassembling env.crc pkt.sender blob idx seen s.clearOut :=
    { delivered.state with }
  obtain ⟨t, validated, state⟩ := cleared.step offers rfl pkt.hdr below
  rw [chunk_sender offers below] at validated
  obtain ⟨answer, handled⟩ : ∃ answer, s.clearOut.handleLargeDataChunk env
      (pkt.chunk blob linear) srcId = .ok (t.put answer) := by
    unfold handleLargeDataChunk
    rw [show (pkt.chunk blob linear).hdr = pkt.hdr from rfl,
      considers.accepted, Bool.not_true, if_neg Bool.false_ne_true]
    rcases considers.role with gateway | anchor
    · rw [gateway]
      dsimp only
      rw [if_pos considers.below, validated]
      exact ⟨_, rfl⟩
    · rw [anchor]
      dsimp only
      rw [if_pos considers.below, validated]
      exact ⟨_, rfl⟩
  have stepped : ldStep s
      (env, .largeDataChunk (pkt.chunk blob linear) srcId) =
        .ok (t.put answer) := handled
  have place := largeDataChunk_place stepped idx
  refine ⟨_, stepped, { state with }, ?_, ?_⟩
  · exact (congrArg UInt32.toNat place).trans delivered.place
  · intro cell apart
    refine (largeDataChunk_outside delivered.state offers rfl rfl stepped
      ?_).trans (delivered.outside cell apart)
    rwa [delivered.place]

/-- Consistent sizes are a promise the receiver keeps. -/
theorem completable (considers : Considers env pkt)
    (consistent : pkt.Consistent) {t accepted : LdPlane}
    (validated : t.validateLargeDataSlot env pkt = (accepted, statusSuccess))
    (slots : s.slots = accepted.slots) : s.Completable env pkt srcId := by
  intro psram blob reliable same length checksum
  have offers := sender_offers considers consistent length checksum
  have chunks : chunksOf pkt.totalSize ldChunkSize =
      (blob.length + 179) / 180 := by
    rw [length]
    rfl
  have announced : pkt.sender.announcement pkt.hdr pkt.reportTimeMs = pkt := by
    unfold LdSender.announcement LargeDataInit.sender
    rw [UInt8.toUInt8_toUInt16]
  rw [← announced] at validated
  obtain ⟨idx, state⟩ : ∃ idx, LdReassembling env.crc pkt.sender blob idx []
      (s.onMemory psram) :=
    LdReassembling.announced offers validated slots reliable
  have start : Delivered env pkt blob idx (s.slots idx).baseAddr.toNat
      s.io.psram.mem [] (s.onMemory psram) :=
    { state := state
      place := rfl
      outside := fun cell _ => congrFun same cell }
  have found : (s.onMemory psram).findLargeDataSlot pkt.genDeviceId
      pkt.dataId = some idx :=
    findLargeDataSlot_of_only state.active state.gen state.id state.only
  refine ⟨idx, ?_, ?_, ?_⟩
  · exact (findLargeDataSlot_congr (by rfl) _ _).trans found
  · intro linear below
    rw [chunks] at below
    obtain ⟨t, validated, -⟩ := state.step offers rfl pkt.hdr below
    rw [chunk_sender offers below, if_neg List.not_mem_nil] at validated
    exact ⟨t, validated⟩
  · rw [chunks]
    obtain ⟨final, executed, delivered⟩ := Trace.ends_of_each
      (fun linear => (env, LdEvent.largeDataChunk (pkt.chunk blob linear)
        srcId))
      (fun linear member seen state held => Delivered.step held considers
        offers (List.mem_range.mp member)) start
    have all : ∀ linear, linear < (blob.length + 179) / 180 →
        linear ∈ (List.range ((blob.length + 179) / 180)).reverse ++ [] := by
      intro linear below
      rw [List.append_nil, List.mem_reverse, List.mem_range]
      exact below
    have stored := delivered.state.blob_stored all
    rw [delivered.place] at stored
    exact ⟨final, executed, delivered.state.ready.mpr all,
      eq_splice stored delivered.outside⟩

end Delivery

/-- The answers keep their promise exactly when the sizes belong together or
the handler turns the announcement down before it looks for a slot. -/
theorem promises_iff :
    s.Promises env pkt srcId (s.clearOut.handleLargeDataInit env pkt srcId) ↔
      pkt.Consistent ∨ ¬ Considers env pkt := by
  have only {t : LdPlane} {status other : UInt8} (quiet : t.io.out = [])
      (member : initAnswer env pkt srcId other ∈
        (t.put (initAnswer env pkt srcId status)).io.out) :
      other = status := by
    rw [put, Io.put_out, quiet] at member
    exact initAnswer_inj (List.mem_singleton.mp member)
  generalize handled : s.clearOut.handleLargeDataInit env pkt srcId = after
  cases handleLargeDataInit_taken handled with
  | ignored other =>
      refine iff_of_true ?_ (.inr fun considers => other considers.toHears)
      exact ⟨fun member => absurd member List.not_mem_nil,
        fun _ => ⟨fun _ member => absurd member List.not_mem_nil, rfl⟩⟩
  | malformed sizes =>
      refine iff_of_true ?_ (.inr fun considers => sizes considers.sizes)
      exact ⟨fun member => absurd (only rfl member) (by decide),
        fun _ => ⟨fun _ member => only rfl member, rfl⟩⟩
  | @answered t status considers answered =>
      have validated := validateLargeDataSlot_validated answered
      have quiet : t.io.out = [] := congrArg Io.out validated.io
      constructor
      · intro promises
        by_contra neither
        have inconsistent : ¬ pkt.Consistent :=
          fun consistent => neither (.inl consistent)
        have told : initAnswer env pkt srcId status ∈
            (t.put (initAnswer env pkt srcId status)).io.out := by
          rw [put, Io.put_out, quiet]
          exact List.mem_singleton_self _
        exact validated.considered ((promises.inconsistent inconsistent).1 _
          told)
      · intro allowed
        have consistent : pkt.Consistent :=
          allowed.resolve_right (not_not.mpr considers)
        refine ⟨fun member => ⟨consistent, ?_⟩, absurd consistent⟩
        cases only quiet member
        exact completable considers consistent answered rfl

end LdPlane

/-- In every state and for every announcement: the receiver keeps what
`STATUS_SUCCESS` promises and turns down sizes that do not belong together if
and only if these sizes do belong together, or the packet is not for this
receiver, or one of its sizes is out of range by itself. -/
theorem announcements_completable (env : Env) (srcId : UInt16) :
    (∀ (s : ReportPlane) (pkt : ReportInit),
      s.Promises env pkt srcId (s.clearOut.handleReportInit env pkt srcId) ↔
        pkt.Consistent ∨ ¬ ReportPlane.Considers env pkt) ∧
      ∀ (s : LdPlane) (pkt : LargeDataInit),
        s.Promises env pkt srcId
            (s.clearOut.handleLargeDataInit env pkt srcId) ↔
          pkt.Consistent ∨ ¬ LdPlane.Considers env pkt :=
  ⟨fun s pkt => s.promises_iff env pkt srcId,
    fun s pkt => s.promises_iff env pkt srcId⟩

/-- Two bytes in a single chunk of one byte. -/
def shortReport : ReportInit where
  hdr := { deviceType := 3, deviceId := 1 }
  genDeviceId := 5
  dataId := 1
  reportTimeMs := 0
  totalSize := 2
  chunkCount := 1
  lastChunkSize := 1
  crc32 := Checksum.crc32Ieee.ieee [7, 8]

/-- The same as a blob. -/
def shortBlob : LargeDataInit where
  hdr := { deviceType := 3, deviceId := 1 }
  genDeviceId := 5
  dataId := 1
  reportTimeMs := 0
  totalSize := 2
  pageCount := 1
  lastChunkSize := 1
  crc32 := Checksum.crc32Ieee.ieee [7, 8]

/-- A gateway answers `STATUS_SUCCESS` to either, and `STATUS_CRC_FAIL` once
the announced bytes arrived in the only chunk there is. -/
theorem announcements_inconsistent :
    (¬ ReportPlane.Promises (.boot {}) sampleReceiver shortReport 5
        (ReportPlane.clearOut (.boot {})
          |>.handleReportInit sampleReceiver shortReport 5)) ∧
      Trace.Ends reportStep (.boot {})
        [(sampleReceiver, .reportInit shortReport 5),
          (sampleReceiver, .reportChunk (shortReport.chunk [7, 8] 0) 5)]
        (fun s => s.io.out = [ReportPlane.chunkAnswer sampleReceiver
          (shortReport.chunk [7, 8] 0) 5 statusCrcFail]) ∧
      (¬ LdPlane.Promises (.boot {}) ldGateway shortBlob 5
        (LdPlane.clearOut (.boot {})
          |>.handleLargeDataInit ldGateway shortBlob 5)) ∧
      Trace.Ends ldStep (.boot {})
        [(ldGateway, .largeDataInit shortBlob 5),
          (ldGateway, .largeDataChunk (shortBlob.chunk [7, 8] 0) 5)]
        fun s => s.io.out = [.reply (.largeDataChunkAck
          { hdr := ldGateway.replyHeader statusCrcFail 5 0 0
            genDeviceId := 5, dataId := 1, pageIndex := 0
            chunkIndex := 0 })] := by
  refine ⟨fun promises => ?_, by decide +kernel, fun promises => ?_,
    by decide +kernel⟩
  · have consistent := (promises.success (by decide +kernel)).1
    exact absurd consistent.lastChunkSize (by decide)
  · have consistent := (promises.success (by decide +kernel)).1
    exact absurd consistent.lastChunkSize (by decide)

end DectMesh
