import Mathlib.Logic.Function.Basic
import Mathlib.Tactic.SplitIfs
import DectMesh.AtText
import DectMesh.Board
import DectMesh.Route

/-!
# The report plane

Reports of at most 256 bytes: their slots, the senders that move them one hop
upstream, the packet handlers, the ticks and the host commands.  A table is a
function on its index range; an access whose index the code does not check
against the table is an explicit step that may fault.
-/

namespace DectMesh

def dataSlotCount : Nat := 512
def maxReportSize : Nat := 256
def dataPsramBase : Nat := psramDataBase
def dataMaxChunks : Nat := (maxReportSize + sendDataMax - 1) / sendDataMax
def dataSlotTimeoutMs : Nat := 30 * 1000
def dataDupTimeoutMs : Nat := 30 * 1000
def reportSenderTimeoutMs : Nat := 30 * 1000
def crcVerifyStageSize : Nat := 256

/-- The characters `AT#REPORT="sn","id","time","size","crc32","` takes,
with the leading CR and LF. -/
def reportHeaderLength : Nat := 2 + 10 + 18 + 1 + 6 + 1 + 18 + 1 + 6 + 1 + 10 + 2

def slotZero : Fin dataSlotCount := ⟨0, by decide⟩

/-- `struct report_sender`.  `origin` is not in the source: it remembers the
slot the entry was created from, and nothing reads it. -/
structure ReportSender where
  active : Bool := false
  dstId : UInt16 := 0
  genDeviceId : UInt16 := 0
  dataId : UInt8 := 0
  priority : UInt8 := 0
  totalSize : UInt16 := 0
  chunkCount : UInt8 := 0
  lastChunkSize : UInt8 := 0
  nextChunk : UInt8 := 0
  crc32 : UInt32 := 0
  timeout : NbTimeout := {}
  origin : Fin dataSlotCount := slotZero

/-- `struct report_slot`. -/
structure ReportSlot where
  active : Bool := false
  upstreamReady : Bool := false
  isSent : Bool := false
  isTransfered : Bool := false
  genDeviceId : UInt16 := 0
  dataId : UInt8 := 0
  priority : UInt8 := 0
  reportTimeMs : UInt64 := 0
  totalSize : UInt16 := 0
  chunkCount : UInt8 := 0
  lastChunkSize : UInt8 := 0
  crc32 : UInt32 := 0
  received : Fin dataMaxChunks → Bool := fun _ => false
  receivedCount : UInt8 := 0
  idleTimeout : NbTimeout := {}

/-- The static variables of `data.c` and the devices they are used with. -/
structure ReportPlane where
  slots : Fin dataSlotCount → ReportSlot := fun _ => {}
  senders : Fin maxAnchors → ReportSender := fun _ => {}
  highPrioCount : UInt16 := 0
  medPrioCount : UInt16 := 0
  lowPrioCount : UInt16 := 0
  io : Io := {}

/-- The index range of the loops over `report_slot`. -/
@[irreducible]
def allSlots : List (Fin dataSlotCount) := List.finRange dataSlotCount

/-- `slot_psram_addr`. -/
def slotPsramAddr (idx : Fin dataSlotCount) : Nat :=
  dataPsramBase + idx.val * maxReportSize

/-- What an `int` index becomes in a `uint8_t` variable: "not found" is 255,
which no later test for a negative value catches. -/
def indexByte {size : Nat} : Option (Fin size) → UInt8
  | some idx => UInt8.ofNat idx.val
  | none => 255

namespace ReportPlane

variable (s : ReportPlane)

section Tables

def setSlot (idx : Fin dataSlotCount) (slot : ReportSlot) : ReportPlane :=
  { s with slots := Function.update s.slots idx slot }

def setSender (idx : Fin maxAnchors) (sender : ReportSender) : ReportPlane :=
  { s with senders := Function.update s.senders idx sender }

def put (action : Action) : ReportPlane :=
  { s with io := s.io.put action }

/-- An access to `report_sender[idx]`. -/
def senderIndex (idx : UInt8) : Except Fault (Fin maxAnchors) :=
  if inside : idx.toNat < maxAnchors then
    .ok ⟨idx.toNat, inside⟩
  else
    .error ⟨.reportSender, idx.toNat⟩

/-- `find_sender_slot`. -/
def findSenderSlot (dstId : UInt16) (dataId : UInt8) :
    Option (Fin maxAnchors) :=
  Fin.find? fun i =>
    (s.senders i).active ∧ (s.senders i).genDeviceId = dstId ∧
      (s.senders i).dataId = dataId

/-- `free_sender_slot`, and every `report_sender[idx].active = false`. -/
def freeSenderSlot (idx : Fin maxAnchors) : ReportPlane :=
  s.setSender idx { s.senders idx with active := false }

/-- `find_slot`. -/
def findSlot (genDeviceId : UInt16) (dataId : UInt8) :
    Option (Fin dataSlotCount) :=
  Fin.find? fun i =>
    (s.slots i).active ∧ (s.slots i).genDeviceId = genDeviceId ∧
      (s.slots i).dataId = dataId

/-- The index `alloc_slot` returns. -/
def freeSlot : Option (Fin dataSlotCount) :=
  Fin.find? fun i => !(s.slots i).active

/-- The flags `alloc_slot` clears in the slot it returns. -/
def clearedSlot (slot : ReportSlot) : ReportSlot :=
  { slot with
    isSent := false
    upstreamReady := false
    isTransfered := false }

/-- What `alloc_slot` does to the slot it returns. -/
def clearSlot (idx : Fin dataSlotCount) : ReportPlane :=
  s.setSlot idx (clearedSlot (s.slots idx))

/-- One counter of `update_report_count`: it saturates at both ends. -/
def stepCount (count : UInt16) (isIncrement : Bool) : UInt16 :=
  if isIncrement then
    if count.toNat < 65535 then count + 1 else count
  else
    if 0 < count.toNat then count - 1 else count

/-- `update_report_count`. -/
def updateReportCount (priority : UInt8) (isIncrement : Bool) : ReportPlane :=
  if priority = packetPriorityHigh then
    { s with highPrioCount := stepCount s.highPrioCount isIncrement }
  else if priority = packetPriorityMedium then
    { s with medPrioCount := stepCount s.medPrioCount isIncrement }
  else if priority = packetPriorityLow then
    { s with lowPrioCount := stepCount s.lowPrioCount isIncrement }
  else
    s

/-- The slot that `report_slot_free` leaves behind. -/
def freedSlot (slot : ReportSlot) : ReportSlot :=
  { slot with
    active := false
    isSent := false
    upstreamReady := false
    isTransfered := false
    idleTimeout := slot.idleTimeout.stop }

/-- `report_slot_free`; a sender index outside the table frees no sender. -/
def reportSlotFree (idx : Fin dataSlotCount) (senderIdx : UInt8) :
    ReportPlane :=
  let s := s.updateReportCount (s.slots idx).priority false
  let s :=
    if inside : senderIdx.toNat < maxAnchors then
      s.freeSenderSlot ⟨senderIdx.toNat, inside⟩
    else
      s
  s.setSlot idx (freedSlot (s.slots idx))

@[simp]
theorem setSlot_slots (idx : Fin dataSlotCount) (slot : ReportSlot) :
    (s.setSlot idx slot).slots = Function.update s.slots idx slot := rfl

@[simp]
theorem setSlot_senders (idx : Fin dataSlotCount) (slot : ReportSlot) :
    (s.setSlot idx slot).senders = s.senders := rfl

@[simp]
theorem setSlot_io (idx : Fin dataSlotCount) (slot : ReportSlot) :
    (s.setSlot idx slot).io = s.io := rfl

@[simp]
theorem setSender_slots (idx : Fin maxAnchors) (sender : ReportSender) :
    (s.setSender idx sender).slots = s.slots := rfl

@[simp]
theorem setSender_senders (idx : Fin maxAnchors) (sender : ReportSender) :
    (s.setSender idx sender).senders = Function.update s.senders idx sender :=
  rfl

@[simp]
theorem setSender_io (idx : Fin maxAnchors) (sender : ReportSender) :
    (s.setSender idx sender).io = s.io := rfl

@[simp]
theorem put_slots (action : Action) : (s.put action).slots = s.slots := rfl

@[simp]
theorem put_senders (action : Action) :
    (s.put action).senders = s.senders := rfl

@[simp]
theorem put_io (action : Action) : (s.put action).io = s.io.put action := rfl

@[simp]
theorem updateReportCount_slots (priority : UInt8) (isIncrement : Bool) :
    (s.updateReportCount priority isIncrement).slots = s.slots := by
  unfold updateReportCount
  split_ifs <;> rfl

@[simp]
theorem updateReportCount_senders (priority : UInt8) (isIncrement : Bool) :
    (s.updateReportCount priority isIncrement).senders = s.senders := by
  unfold updateReportCount
  split_ifs <;> rfl

@[simp]
theorem updateReportCount_io (priority : UInt8) (isIncrement : Bool) :
    (s.updateReportCount priority isIncrement).io = s.io := by
  unfold updateReportCount
  split_ifs <;> rfl

@[simp]
theorem reportSlotFree_slots (idx : Fin dataSlotCount) (senderIdx : UInt8) :
    (s.reportSlotFree idx senderIdx).slots =
      Function.update s.slots idx (freedSlot (s.slots idx)) := by
  unfold reportSlotFree freeSenderSlot
  split <;> simp

@[simp]
theorem reportSlotFree_io (idx : Fin dataSlotCount) (senderIdx : UInt8) :
    (s.reportSlotFree idx senderIdx).io = s.io := by
  unfold reportSlotFree freeSenderSlot
  split <;> simp

section Search

variable {s}

theorem findSlot_some
    {genDeviceId : UInt16} {dataId : UInt8} {idx : Fin dataSlotCount}
    (found : s.findSlot genDeviceId dataId = some idx) :
    (s.slots idx).active = true ∧ (s.slots idx).genDeviceId = genDeviceId ∧
      (s.slots idx).dataId = dataId := by
  simpa using Fin.eq_true_of_find?_eq_some found

theorem findSlot_none
    {genDeviceId : UInt16} {dataId : UInt8}
    (missing : s.findSlot genDeviceId dataId = none) (idx : Fin dataSlotCount)
    (active : (s.slots idx).active = true)
    (gen : (s.slots idx).genDeviceId = genDeviceId) :
    (s.slots idx).dataId ≠ dataId := by
  have differs := Fin.find?_eq_none_iff.mp missing idx
  simpa [active, gen] using differs

theorem freeSlot_some
    {idx : Fin dataSlotCount} (found : s.freeSlot = some idx) :
    (s.slots idx).active = false := by
  simpa using Fin.eq_true_of_find?_eq_some found

theorem findSenderSlot_some
    {genDeviceId : UInt16} {dataId : UInt8} {idx : Fin maxAnchors}
    (found : s.findSenderSlot genDeviceId dataId = some idx) :
    (s.senders idx).active = true ∧
      (s.senders idx).genDeviceId = genDeviceId ∧
        (s.senders idx).dataId = dataId := by
  simpa using Fin.eq_true_of_find?_eq_some found

theorem findSenderSlot_none
    {genDeviceId : UInt16} {dataId : UInt8}
    (missing : s.findSenderSlot genDeviceId dataId = none)
    (idx : Fin maxAnchors) (active : (s.senders idx).active = true)
    (gen : (s.senders idx).genDeviceId = genDeviceId) :
    (s.senders idx).dataId ≠ dataId := by
  have differs := Fin.find?_eq_none_iff.mp missing idx
  simpa [active, gen] using differs

end Search

/-- A search for a slot reads the slots only. -/
theorem findSlot_congr
    {s' : ReportPlane} (slots : s'.slots = s.slots)
    (genDeviceId : UInt16) (dataId : UInt8) :
    s'.findSlot genDeviceId dataId = s.findSlot genDeviceId dataId := by
  unfold findSlot
  rw [slots]

attribute [irreducible] findSlot freeSlot findSenderSlot

@[simp]
theorem findSenderSlot_put
    (action : Action) (genDeviceId : UInt16) (dataId : UInt8) :
    (s.put action).findSenderSlot genDeviceId dataId =
      s.findSenderSlot genDeviceId dataId := by
  unfold findSenderSlot
  rfl

/-- An entry survives the narrowing of its index. -/
theorem senderIndex_indexByte_some (idx : Fin maxAnchors) :
    senderIndex (indexByte (some idx)) = .ok idx := by
  have byte : (UInt8.ofNat idx.val).toNat = idx.val :=
    UInt8.toNat_ofNat_of_lt' (Nat.lt_trans idx.isLt (by decide))
  simp only [senderIndex, indexByte, byte, idx.isLt, dite_true]

/-- A narrowed index in range is the entry that was found. -/
theorem senderIndex_indexByte_ok
    {found : Option (Fin maxAnchors)} {idx : Fin maxAnchors}
    (inside : senderIndex (indexByte found) = .ok idx) :
    found = some idx := by
  cases found with
  | none => simp [indexByte, senderIndex, maxAnchors] at inside
  | some entry =>
      rw [senderIndex_indexByte_some, Except.ok.injEq] at inside
      rw [inside]

/-- "Not found" is out of range once narrowed. -/
theorem senderIndex_indexByte_none :
    senderIndex (indexByte (none : Option (Fin maxAnchors))) =
      .error ⟨.reportSender, 255⟩ := by
  simp [indexByte, senderIndex, maxAnchors]

/-- The senders after `report_slot_free`: at most the given one changed, and
it became inactive. -/
theorem reportSlotFree_senders
    (idx : Fin dataSlotCount) (senderIdx : UInt8) (i : Fin maxAnchors) :
    (s.reportSlotFree idx senderIdx).senders i =
      if i.val = senderIdx.toNat then
        { s.senders i with active := false }
      else
        s.senders i := by
  unfold reportSlotFree freeSenderSlot
  split
  · next inside =>
    by_cases same : i.val = senderIdx.toNat
    · have equal : i = ⟨senderIdx.toNat, inside⟩ := Fin.ext same
      simp [equal]
    · have different : i ≠ ⟨senderIdx.toNat, inside⟩ := by
        intro equal
        exact same (congrArg Fin.val equal)
      simp [same, different]
  · next outside =>
    have different : i.val ≠ senderIdx.toNat := by
      intro same
      exact outside (same ▸ i.isLt)
    simp [different]

/-- Index 255 frees no sender. -/
@[simp]
theorem reportSlotFree_noSender (idx : Fin dataSlotCount) :
    (s.reportSlotFree idx 255).senders = s.senders := by
  funext i
  have small : i.val < 8 := i.isLt
  have outside : (255 : UInt8).toNat = 255 := rfl
  rw [reportSlotFree_senders, outside, if_neg (by omega)]

end Tables

section Send

variable (env : Env)

/-- `send_report_init`. -/
def sendReportInit (pkt : ReportInit) (dstId : UInt16) (priority : UInt8) :
    ReportPlane :=
  s.put (.request (.reportInit { pkt with
    hdr := { pkt.hdr with
      deviceType := env.deviceType.code
      priority := priority
      deviceId := dstId } }))

/-- `chunk_size_for`. -/
def chunkSizeFor (sender : ReportSender) (chunkIdx : UInt8) : UInt8 :=
  if chunkIdx.toNat + 1 = sender.chunkCount.toNat then
    sender.lastChunkSize
  else
    UInt8.ofNat sendDataMax

/-- The address `send_next_chunk` and `resend_chunk` read chunk `chunkIdx`
from: it starts from slot zero whatever slot the transfer came from. -/
def chunkReadAddr (chunkIdx : UInt8) : Nat :=
  slotPsramAddr slotZero + chunkIdx.toNat * sendDataMax

/-- The packet for one chunk of a transfer, as `send_report_chunk` sends it. -/
def chunkPacket
    (sender : ReportSender) (dstId : UInt16) (chunkIdx : UInt8)
    (data : List UInt8) : ReportChunk where
  hdr :=
    { deviceType := env.deviceType.code
      priority := sender.priority
      deviceId := dstId }
  genDeviceId := sender.genDeviceId
  dataId := sender.dataId
  chunkIndex := chunkIdx
  data := Buffer.ofData sendDataMax data

/-- The common part of `send_next_chunk` and `resend_chunk`: read one chunk
and send it; a failed read ends the transfer. -/
def readAndSendChunk
    (dstId : UInt16) (senderIdx : Fin maxAnchors) (chunkIdx : UInt8) :
    ReportPlane × Option Errno :=
  let sender := s.senders senderIdx
  match s.io.read (chunkReadAddr chunkIdx)
      (chunkSizeFor sender chunkIdx).toNat with
  | (io, .error errno) =>
      ({ s with io := io }.freeSenderSlot senderIdx, some errno)
  | (io, .ok data) =>
      ({ s with io := io }.put
        (.request (.reportChunk
          (chunkPacket env sender dstId chunkIdx data))), none)

/-- `send_next_chunk` once `rounds` of its iterations are left. -/
def sendNextChunkLoop (dstId : UInt16) (senderIdx : Fin maxAnchors) :
    Nat → ReportPlane → ReportPlane × Option Errno
  | 0, s => (s, none)
  | rounds + 1, s =>
      let idx := (s.senders senderIdx).nextChunk
      if (s.senders senderIdx).chunkCount ≤ idx then
        (s, some .einval)
      else
        match s.readAndSendChunk env dstId senderIdx idx with
        | (s, some errno) => (s, some errno)
        | (s, none) =>
            sendNextChunkLoop dstId senderIdx rounds
              (s.setSender senderIdx
                { s.senders senderIdx with nextChunk := idx + 1 })

/-- `send_next_chunk`: in spite of its name, all remaining chunks. -/
def sendNextChunk (dstId : UInt16) (senderIdx : Fin maxAnchors) :
    ReportPlane × Option Errno :=
  sendNextChunkLoop env dstId senderIdx
    (((s.senders senderIdx).totalSize.toNat + sendDataMax - 1) / sendDataMax) s

/-- `resend_chunk`. -/
def resendChunk
    (dstId : UInt16) (senderIdx : Fin maxAnchors) (chunkIdx : UInt8) :
    ReportPlane × Option Errno :=
  if (s.senders senderIdx).chunkCount ≤ chunkIdx then
    (s, some .einval)
  else
    s.readAndSendChunk env dstId senderIdx chunkIdx

end Send

section Receive

variable (env : Env)

/-- What an accepted `REPORT_INIT` writes into its slot. -/
def acceptedSlot (slot : ReportSlot) (pkt : ReportInit) : ReportSlot :=
  { slot with
    active := true
    genDeviceId := pkt.genDeviceId
    dataId := pkt.dataId
    reportTimeMs := pkt.reportTimeMs
    priority := pkt.hdr.priority
    totalSize := pkt.totalSize
    chunkCount := pkt.chunkCount
    lastChunkSize := pkt.lastChunkSize
    crc32 := pkt.crc32
    received := fun _ => false
    receivedCount := 0
    idleTimeout := (NbTimeout.init dataSlotTimeoutMs 0).start env.now }

/-- `validate_slot`. -/
def validateSlot (pkt : ReportInit) : ReportPlane × UInt8 :=
  match s.findSlot pkt.genDeviceId pkt.dataId with
  | some idx =>
      if (s.slots idx).upstreamReady then
        (s, statusAlreadyExists)
      else
        (s.setSlot idx (acceptedSlot env (s.slots idx) pkt), statusSuccess)
  | none =>
      match s.freeSlot with
      | none => (s, statusResourceUnavailable)
      | some idx =>
          let s := (s.clearSlot idx).updateReportCount pkt.hdr.priority true
          (s.setSlot idx (acceptedSlot env (s.slots idx) pkt), statusSuccess)

/-- The size under which chunk `chunkIndex` of a slot is stored. -/
def storedChunkSize (slot : ReportSlot) (chunkIndex : UInt8) : UInt8 :=
  if chunkIndex.toNat + 1 = slot.chunkCount.toNat then
    slot.lastChunkSize
  else
    UInt8.ofNat sendDataMax

/-- An access to `received[chunkIndex]`. -/
def receivedIndex (chunkIndex : UInt8) : Except Fault (Fin dataMaxChunks) :=
  if inside : chunkIndex.toNat < dataMaxChunks then
    .ok ⟨chunkIndex.toNat, inside⟩
  else
    .error ⟨.received, chunkIndex.toNat⟩

/-- The slot once a chunk was stored. -/
def storedSlot (slot : ReportSlot) (chunk : Fin dataMaxChunks) : ReportSlot :=
  { slot with
    received := Function.update slot.received chunk true
    receivedCount := slot.receivedCount + 1
    idleTimeout := slot.idleTimeout.start env.now }

/-- The slot once its checksum was verified; on the gateway the idle timeout
becomes the time during which duplicates are recognised. -/
def readySlot (slot : ReportSlot) : ReportSlot :=
  { slot with
    upstreamReady := true
    idleTimeout :=
      if env.deviceType = .gateway then
        (NbTimeout.init dataDupTimeoutMs 0).start env.now
      else
        slot.idleTimeout.stop }

/-- The end of `validate_report_chunk`, once every chunk was received: read
the report back and compare its checksum. -/
def verifyReport (idx : Fin dataSlotCount) : ReportPlane × UInt8 :=
  let slot := s.slots idx
  match Psram.stagedCrc env.crc crcVerifyStageSize slot.totalSize.toNat true 0
      s.io.psram (slotPsramAddr idx) slot.totalSize.toNat with
  | (psram, .error _) =>
      ({ s with io := { s.io with psram := psram } }.reportSlotFree idx 255,
        statusCrcFail)
  | (psram, .ok crc) =>
      let s := { s with io := { s.io with psram := psram } }
      if crc = slot.crc32 then
        (s.setSlot idx (readySlot env slot), statusSuccess)
      else
        (s.reportSlotFree idx 255, statusCrcFail)

/-- `validate_report_chunk`. -/
def validateReportChunk (pkt : ReportChunk) :
    Except Fault (ReportPlane × UInt8) :=
  match s.findSlot pkt.genDeviceId pkt.dataId with
  | none => .ok (s, statusNotFound)
  | some idx =>
      let slot := s.slots idx
      if slot.chunkCount ≤ pkt.chunkIndex then
        .ok (s, statusInvalidParameter)
      else
        match receivedIndex pkt.chunkIndex with
        | .error fault => .error fault
        | .ok chunk =>
            if slot.received chunk then
              .ok (s, statusAlreadyExists)
            else
              match s.io.write
                  (slotPsramAddr idx + pkt.chunkIndex.toNat * sendDataMax)
                  (pkt.data.bytes.take
                    (storedChunkSize slot pkt.chunkIndex).toNat) with
              | (io, some _) => .ok ({ s with io := io }, statusFailure)
              | (io, none) =>
                  let s := { s with io := io }.setSlot idx
                    (storedSlot env slot chunk)
                  if slot.receivedCount + 1 = slot.chunkCount then
                    .ok (s.verifyReport env idx)
                  else
                    .ok (s, statusSuccess)

end Receive

section Handlers

variable (env : Env)

/-- `handle_report_init`; `srcId` is the sender of the packet. -/
def handleReportInit (pkt : ReportInit) (srcId : UInt16) : ReportPlane :=
  let ack (status : UInt8) : Action :=
    .reply (.reportInitAck
      { hdr := env.replyHeader status srcId pkt.hdr.priority pkt.hdr.trackingId
        genDeviceId := pkt.genDeviceId
        dataId := pkt.dataId })
  if !env.accepts pkt.hdr then
    s
  else if pkt.totalSize = 0 ∨ maxReportSize < pkt.totalSize.toNat ∨
      pkt.chunkCount = 0 ∨ dataMaxChunks < pkt.chunkCount.toNat ∨
      pkt.lastChunkSize = 0 ∨ sendDataMax < pkt.lastChunkSize.toNat then
    s.put (ack statusInvalidParameter)
  else
    match env.deviceType with
    | .gateway | .anchor =>
        if isDownstreamType pkt.hdr.deviceType then
          let outcome := s.validateSlot env pkt
          outcome.1.put (ack outcome.2)
        else
          s
    | .sensor | .unknown => s

/-- `handle_report_init_ack` on a sensor or an anchor.  The test
`sender_idx < 0` of an unsigned value never holds, so "not found" goes on as
index 255. -/
def answerInitAck (pkt : ReportInitAck) (srcId : UInt16) :
    Except Fault ReportPlane :=
  let senderIdx := indexByte (s.findSenderSlot pkt.genDeviceId pkt.dataId)
  if pkt.hdr.status = statusSuccess then
    match senderIndex senderIdx with
    | .error fault => .error fault
    | .ok idx =>
        let sender := s.senders idx
        if !sender.active ∨ sender.dstId ≠ srcId ∨
            sender.genDeviceId ≠ pkt.genDeviceId ∨
            sender.dataId ≠ pkt.dataId then
          .ok s
        else
          .ok (s.sendNextChunk env srcId idx).1
  else if pkt.hdr.status = statusAlreadyExists then
    match s.findSlot pkt.genDeviceId pkt.dataId with
    | none => .ok s
    | some idx => .ok (s.reportSlotFree idx senderIdx)
  else
    .ok s

/-- `handle_report_init_ack`. -/
def handleReportInitAck (pkt : ReportInitAck) (srcId : UInt16) :
    Except Fault ReportPlane :=
  if !env.accepts pkt.hdr then
    .ok s
  else
    let s := s.put (.untrack pkt.hdr.trackingId)
    match env.deviceType with
    | .gateway | .unknown => .ok s
    | .sensor | .anchor =>
        if isUpstreamType pkt.hdr.deviceType then
          s.answerInitAck env pkt srcId
        else
          .ok s

/-- `handle_report_chunk`. -/
def handleReportChunk (pkt : ReportChunk) (srcId : UInt16) :
    Except Fault ReportPlane :=
  if !env.accepts pkt.hdr then
    .ok s
  else
    match env.deviceType with
    | .gateway | .anchor =>
        if isDownstreamType pkt.hdr.deviceType then
          match s.validateReportChunk env pkt with
          | .error fault => .error fault
          | .ok (s, status) =>
              .ok (s.put (.reply (.reportChunkAck
                { hdr := env.replyHeader status srcId pkt.hdr.priority
                    pkt.hdr.trackingId
                  genDeviceId := pkt.genDeviceId
                  dataId := pkt.dataId
                  chunkIndex := pkt.chunkIndex })))
        else
          .ok s
    | .sensor | .unknown => .ok s

/-- The next hop does not hold the report: the sender entry goes, and the
slot may be sent again. -/
def restartTransfer (idx : Fin maxAnchors) : ReportPlane :=
  let sender := s.senders idx
  match s.findSlot sender.genDeviceId sender.dataId with
  | none => s
  | some slotIdx =>
      (s.setSlot slotIdx { s.slots slotIdx with isSent := false })
        |>.freeSenderSlot idx

/-- The next hop refused a chunk: send it again, or end the transfer. -/
def repeatChunk (srcId : UInt16) (idx : Fin maxAnchors) (chunkIdx : UInt8) :
    ReportPlane :=
  match s.resendChunk env srcId idx chunkIdx with
  | (s, some _) => s.freeSenderSlot idx
  | (s, none) => s

/-- The part of `handle_report_chunk_ack` for a transfer that goes on. -/
def continueTransfer
    (pkt : ReportChunkAck) (srcId : UInt16) (idx : Fin maxAnchors) :
    ReportPlane :=
  match env.deviceType with
  | .gateway | .unknown => s
  | .anchor | .sensor =>
      if isUpstreamType pkt.hdr.deviceType then
        if pkt.hdr.status = statusNotFound ∨
            pkt.hdr.status = statusResourceUnavailable ∨
            pkt.hdr.status = statusCrcFail then
          s.restartTransfer idx
        else if pkt.hdr.status = statusFailure ∨
            pkt.hdr.status = statusInvalidParameter then
          s.repeatChunk env srcId idx pkt.chunkIndex
        else
          s
      else
        s

/-- `Transfer complete` in `handle_report_chunk_ack`. -/
def completeTransfer (idx : Fin maxAnchors) : ReportPlane :=
  let sender := s.senders idx
  match s.findSlot sender.genDeviceId sender.dataId with
  | none => s.freeSenderSlot idx
  | some slotIdx =>
      (s.reportSlotFree slotIdx (UInt8.ofNat idx.val)).freeSenderSlot idx

/-- `handle_report_chunk_ack`, with the same narrowed index. -/
def handleReportChunkAck (pkt : ReportChunkAck) (srcId : UInt16) :
    Except Fault ReportPlane :=
  if !env.accepts pkt.hdr then
    .ok s
  else
    let s := s.put (.untrack pkt.hdr.trackingId)
    match senderIndex
        (indexByte (s.findSenderSlot pkt.genDeviceId pkt.dataId)) with
    | .error fault => .error fault
    | .ok idx =>
        let sender := s.senders idx
        if !sender.active ∨ sender.genDeviceId ≠ pkt.genDeviceId ∨
            sender.dataId ≠ pkt.dataId ∨ sender.dstId ≠ srcId then
          .ok s
        else if sender.chunkCount ≤ sender.nextChunk ∧
            pkt.hdr.status = statusSuccess then
          .ok (s.completeTransfer idx)
        else
          .ok (s.continueTransfer env pkt srcId idx)

/-- `send_report_received`. -/
def sendReportReceived (pkt : ReportReceived) (dstId : UInt16) : ReportPlane :=
  s.put (.request (.reportReceived { pkt with
    hdr := { pkt.hdr with
      deviceType := env.deviceType.code
      priority := packetPriorityHigh
      trackingId := 0
      deviceId := dstId } }))

/-- `handle_report_received`. -/
def handleReportReceived (pkt : ReportReceived) (srcId : UInt16) :
    ReportPlane :=
  let ack (status : UInt8) : Action :=
    .reply (.reportReceivedAck
      { hdr := env.replyHeader status srcId pkt.hdr.priority pkt.hdr.trackingId
        genDeviceId := pkt.genDeviceId
        dataId := pkt.dataId })
  if !env.accepts pkt.hdr then
    s
  else
    match env.deviceType with
    | .gateway | .unknown => s
    | .anchor =>
        if isUpstreamType pkt.hdr.deviceType then
          if lastHop pkt.routeInfo ∧
              (pkt.routeInfo firstHop).deviceId = env.deviceId then
            match env.findSensor pkt.genDeviceId with
            | some _ =>
                (s.sendReportReceived env
                  { pkt with routeInfo := endRoute pkt.routeInfo }
                  pkt.genDeviceId).put (ack statusSuccess)
            | none =>
                -- an empty sensor table leaves the status of the ack at zero
                s.put (ack
                  (if env.sensorCount = 0 then
                    statusSuccess
                  else
                    statusNotFound))
          else
            -- `!= 0xFFFF || != 0` holds of every id, so the source's last
            -- branch (INVALID_PARAMETER) is never taken
            let route := shiftRoute pkt.routeInfo
            (s.sendReportReceived env { pkt with routeInfo := route }
              (route firstHop).deviceId).put (ack statusSuccess)
        else
          s
    | .sensor =>
        if isUpstreamType pkt.hdr.deviceType then
          s.put (ack statusSuccess)
        else
          s

/-- `handle_report_received_ack`. -/
def handleReportReceivedAck (pkt : ReportReceivedAck) : ReportPlane :=
  if !env.accepts pkt.hdr then
    s
  else
    s.put (.untrack pkt.hdr.trackingId)

end Handlers

end ReportPlane

end DectMesh
