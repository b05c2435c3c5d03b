import Mathlib.Tactic.SplitIfs
import DectMesh.AtText
import DectMesh.Board
import DectMesh.Library.PageMap

/-!
# The large-data plane

Blobs of up to 200 KiB, staged in whole PSRAM pages and moved upstream one
transfer at a time.  The tables, the packet handlers and the sending of chunks
follow `large_data.c`.
-/

namespace DectMesh

def psramLargeDataSize : Nat := 6 * 1024 * 1024
def ldChunkSize : Nat := sendLargeDataMax
def ldChunksPerPage : Nat := 32
def ldPageSize : Nat := ldChunkSize * ldChunksPerPage
def ldMaxPageCount : Nat := psramLargeDataSize / ldPageSize
def ldSenderSlotCount : Nat := 1
def ldReceiverSlotCount : Nat := 64
def ldMaxTransferSize : Nat := 200 * 1024
def ldSlotTimeoutMs : Nat := 30 * 1000
def ldSenderTimeoutMs : Nat := 30 * 1000
def ldCrcVerifyStageSize : Nat := 1024
def maxTxQueueProcessPerCycle : Nat := 8

/-- The largest payload of an `AT#LD` line. -/
def atDataPayloadMax : Nat := 472

/-- The bits of `bitmap`, which the source sizes in bytes. -/
def ldBitmapBits : Nat := 8 * ((ldMaxTransferSize / ldChunkSize + 7) / 8)

/-- `struct large_data_sender`. -/
structure LdSender where
  active : Bool := false
  dstId : UInt16 := 0
  genDeviceId : UInt16 := 0
  dataId : UInt8 := 0
  priority : UInt8 := 0
  totalSize : UInt32 := 0
  pageCount : UInt16 := 0
  lastChunkSize : UInt16 := 0
  totalChunks : UInt16 := 0
  nextChunk : UInt16 := 0
  crc32 : UInt32 := 0
  baseAddr : UInt32 := 0
  timeout : NbTimeout := {}

/-- `struct large_data_slot`; bit `i` of `bitmap` is bit `i % 8` of the
source's byte `i / 8`. -/
structure LdSlot where
  active : Bool := false
  upstreamReady : Bool := false
  isSent : Bool := false
  isTransfered : Bool := false
  genDeviceId : UInt16 := 0
  dataId : UInt8 := 0
  priority : UInt8 := 0
  totalSize : UInt32 := 0
  pageCount : UInt8 := 0
  lastChunkSize : UInt16 := 0
  totalChunks : UInt16 := 0
  crc32 : UInt32 := 0
  receivedCount : UInt16 := 0
  bitmap : Fin ldBitmapBits → Bool := fun _ => false
  baseAddr : UInt32 := 0
  reportTimeMs : UInt64 := 0
  idleTimeout : NbTimeout := {}

/-- The static variables of `large_data.c` and the devices they are used
with. -/
structure LdPlane where
  slots : Fin ldReceiverSlotCount → LdSlot := fun _ => {}
  senders : Fin ldSenderSlotCount → LdSender := fun _ => {}
  isLdSlotEmpty : PageMap.Flags ldMaxPageCount := fun _ => false
  ldBusy : Bool := false
  senderIdxCache : Option (Fin ldSenderSlotCount) := none
  deviceIdCache : UInt16 := 0xFFFF
  io : Io := {}

/-- What an `int` index becomes in a `uint8_t` variable. -/
def ldIndexByte : Option (Fin ldSenderSlotCount) → UInt8
  | some idx => UInt8.ofNat idx.val
  | none => 255

namespace LdSlot

variable (slot : LdSlot)

/-- The pages `free_large_data_slot` gives back: the ones the slot was
allocated with, as long as its size did not change. -/
def pages : PageRange where
  start := (slot.baseAddr.toNat - psramLargeDataBase) / ldPageSize
  count := (slot.totalSize.toNat + ldPageSize - 1) / ldPageSize

/-- The slot that `free_large_data_slot` leaves behind. -/
def freed : LdSlot :=
  { slot with active := false, idleTimeout := slot.idleTimeout.stop }

end LdSlot

/-- The number of chunks of `size` bytes a blob is cut into. -/
def chunksOf (totalSize : UInt32) (size : Nat) : Nat :=
  (totalSize.toNat + size - 1) / size

namespace LdPlane

variable (s : LdPlane)

section Tables

def setSlot (idx : Fin ldReceiverSlotCount) (slot : LdSlot) : LdPlane :=
  { s with slots := Function.update s.slots idx slot }

def setSender (idx : Fin ldSenderSlotCount) (sender : LdSender) : LdPlane :=
  { s with senders := Function.update s.senders idx sender }

def put (action : Action) : LdPlane :=
  { s with io := s.io.put action }

/-- An access to `ld_sender[idx]`. -/
def senderIndex (idx : UInt8) : Except Fault (Fin ldSenderSlotCount) :=
  if inside : idx.toNat < ldSenderSlotCount then
    .ok ⟨idx.toNat, inside⟩
  else
    .error ⟨.ldSender, idx.toNat⟩

/-- `find_sender_slot`. -/
@[irreducible]
def findSenderSlot (dstId : UInt16) (dataId : UInt8) :
    Option (Fin ldSenderSlotCount) :=
  Fin.find? fun i =>
    (s.senders i).active ∧ (s.senders i).genDeviceId = dstId ∧
      (s.senders i).dataId = dataId

/-- `free_sender_slot`, and every `ld_sender[idx].active = false`. -/
def freeSenderSlot (idx : Fin ldSenderSlotCount) : LdPlane :=
  s.setSender idx { s.senders idx with active := false }

/-- `find_large_data_slot`. -/
@[irreducible]
def findLargeDataSlot (genDeviceId : UInt16) (dataId : UInt8) :
    Option (Fin ldReceiverSlotCount) :=
  Fin.find? fun i =>
    (s.slots i).active ∧ (s.slots i).genDeviceId = genDeviceId ∧
      (s.slots i).dataId = dataId

/-- The first loop of `alloc_large_data_slot`. -/
@[irreducible]
def freeSlot : Option (Fin ldReceiverSlotCount) :=
  Fin.find? fun i => !(s.slots i).active

/-- The second loop of `alloc_large_data_slot`. -/
def findPages (size : UInt32) : Option PageRange :=
  PageMap.firstFit s.isLdSlotEmpty fun available =>
    size.toNat ≤ available * ldPageSize

/-- The slot `alloc_large_data_slot` returns. -/
def allocatedSlot (slot : LdSlot) (range : PageRange) : LdSlot :=
  { slot with
    active := true
    baseAddr := UInt32.ofNat (psramLargeDataBase + range.start * ldPageSize) }

/-- `alloc_large_data_slot`. -/
def allocLargeDataSlot (size : UInt32) :
    Option (LdPlane × Fin ldReceiverSlotCount) :=
  match s.freeSlot with
  | none => none
  | some idx =>
      match s.findPages size with
      | none => none
      | some range =>
          some
            ({ s with
                isLdSlotEmpty := PageMap.mark s.isLdSlotEmpty range false
              }.setSlot idx (allocatedSlot (s.slots idx) range), idx)

/-- `free_large_data_slot`; a sender index outside the table frees no sender.
The source tests the index against four, not against the table. -/
def freeLargeDataSlot (idx : Fin ldReceiverSlotCount) (senderIdx : UInt8) :
    LdPlane :=
  let slot := s.slots idx
  let s :=
    { s with isLdSlotEmpty := PageMap.mark s.isLdSlotEmpty slot.pages true }
  let s := s.setSlot idx slot.freed
  if inside : senderIdx.toNat < ldSenderSlotCount then
    s.freeSenderSlot ⟨senderIdx.toNat, inside⟩
  else
    s

end Tables

section Send

variable (env : Env)

/-- `send_large_data_init`. -/
def sendLargeDataInit (pkt : LargeDataInit) (dstId : UInt16) (priority : UInt8) :
    LdPlane :=
  s.put (.request (.largeDataInit { pkt with
    hdr := { pkt.hdr with
      deviceType := env.deviceType.code
      priority := priority
      deviceId := dstId } }))

/-- `chunk_size_for_large_data`; the argument was narrowed to 16 bits. -/
def chunkSizeFor (sender : LdSender) (chunkIdx : UInt16) : UInt16 :=
  if chunkIdx = sender.totalChunks - 1 then
    sender.lastChunkSize
  else
    UInt16.ofNat ldChunkSize

/-- The index of a chunk among all chunks of its blob. -/
def linearIndex (pageIndex chunkIndex : UInt8) : Nat :=
  pageIndex.toNat * ldChunksPerPage + chunkIndex.toNat

/-- The packet for one chunk of a transfer. -/
def chunkPacket
    (sender : LdSender) (dstId : UInt16) (pageIdx chunkIdx : UInt8)
    (data : List UInt8) : LargeDataChunk where
  hdr :=
    { deviceType := env.deviceType.code
      priority := sender.priority
      deviceId := dstId }
  genDeviceId := sender.genDeviceId
  dataId := sender.dataId
  pageIndex := pageIdx
  chunkIndex := chunkIdx
  data := Buffer.ofData sendLargeDataMax data

/-- The common part of `send_next_large_data_chunk` and
`resend_large_data_chunk`: read one chunk and send it; a failed read ends the
transfer. -/
def readAndSendChunk
    (dstId : UInt16) (senderIdx : Fin ldSenderSlotCount)
    (pageIdx chunkIdx : UInt8) (linear : Nat) : LdPlane × Option Errno :=
  let sender := s.senders senderIdx
  match s.io.read (sender.baseAddr.toNat + linear * ldChunkSize)
      (chunkSizeFor sender (UInt16.ofNat linear)).toNat with
  | (io, .error errno) =>
      ({ s with io := io }.freeSenderSlot senderIdx, some errno)
  | (io, .ok data) =>
      (({ s with io := io }.setSender senderIdx
          { sender with timeout := sender.timeout.start env.now }).put
        (.request (.largeDataChunk
          (chunkPacket env sender dstId pageIdx chunkIdx data))), none)

/-- The loop of `send_next_large_data_chunk` from its iteration `i` on. -/
def sendNextLoop (dstId : UInt16) (senderIdx : Fin ldSenderSlotCount) :
    Nat → Nat → LdPlane → LdPlane × Option Errno
  | 0, _, s => (s, none)
  | rounds + 1, i, s =>
      let linear := (s.senders senderIdx).nextChunk.toNat + i
      if (s.senders senderIdx).totalChunks.toNat ≤ linear then
        (s, none)
      else
        match s.readAndSendChunk env dstId senderIdx
            (UInt8.ofNat (linear / ldChunksPerPage))
            (UInt8.ofNat (linear % ldChunksPerPage)) linear with
        | (s, some errno) => (s, some errno)
        | (s, none) => sendNextLoop dstId senderIdx rounds (i + 1) s

/-- `send_next_large_data_chunk`. -/
def sendNextLargeDataChunk
    (dstId : UInt16) (senderIdx : Fin ldSenderSlotCount) :
    LdPlane × Option Errno :=
  sendNextLoop env dstId senderIdx (maxTxQueueProcessPerCycle / 2) 0 s

/-- `resend_large_data_chunk`: no bound is checked. -/
def resendLargeDataChunk
    (dstId : UInt16) (pageIdx chunkIdx : UInt8)
    (senderIdx : Fin ldSenderSlotCount) : LdPlane × Option Errno :=
  s.readAndSendChunk env dstId senderIdx pageIdx chunkIdx
    (linearIndex pageIdx chunkIdx)

end Send

section Receive

variable (env : Env)

/-- What an accepted `LARGE_DATA_INIT` writes into the slot it was given. -/
def acceptedSlot (slot : LdSlot) (pkt : LargeDataInit) : LdSlot :=
  { slot with
    active := true
    upstreamReady := false
    genDeviceId := pkt.genDeviceId
    reportTimeMs := pkt.reportTimeMs
    dataId := pkt.dataId
    priority := pkt.hdr.priority
    totalSize := pkt.totalSize
    pageCount := pkt.pageCount
    lastChunkSize := pkt.lastChunkSize
    crc32 := pkt.crc32
    receivedCount := 0
    totalChunks := UInt16.ofNat (chunksOf pkt.totalSize ldChunkSize)
    bitmap := fun _ => false
    idleTimeout := (NbTimeout.init ldSlotTimeoutMs 0).start env.now }

/-- `validate_large_data_slot`. -/
def validateLargeDataSlot (pkt : LargeDataInit) : LdPlane × UInt8 :=
  if s.ldBusy then
    (s, statusBusy)
  else
    match s.findLargeDataSlot pkt.genDeviceId pkt.dataId with
    | some idx =>
        if (s.slots idx).upstreamReady then
          (s, statusComplete)
        else
          (s, statusAlreadyExists)
    | none =>
        match s.allocLargeDataSlot pkt.totalSize with
        | none => (s, statusResourceUnavailable)
        | some (s, idx) =>
            ({ s.setSlot idx (acceptedSlot env (s.slots idx) pkt) with
                ldBusy := true }, statusSuccess)

/-- An access to bit `linear` of `bitmap`. -/
def bitIndex (linear : Nat) : Except Fault (Fin ldBitmapBits) :=
  if inside : linear < ldBitmapBits then
    .ok ⟨linear, inside⟩
  else
    .error ⟨.ldBitmap, linear⟩

/-- The size under which a chunk is stored. -/
def storedChunkSize (slot : LdSlot) (linear : Nat) : UInt16 :=
  if linear + 1 = slot.totalChunks.toNat then
    slot.lastChunkSize
  else
    UInt16.ofNat ldChunkSize

/-- The slot once a chunk was stored. -/
def storedSlot (slot : LdSlot) (bit : Fin ldBitmapBits) : LdSlot :=
  { slot with
    receivedCount := slot.receivedCount + 1
    idleTimeout := slot.idleTimeout.start env.now
    bitmap := Function.update slot.bitmap bit true }

/-- The slot once its checksum was verified. -/
def readySlot (slot : LdSlot) : LdSlot :=
  { slot with
    idleTimeout := slot.idleTimeout.stop
    upstreamReady := true }

/-- `large_data_verify_crc32`; the flag tells whether it returned zero. -/
def verifyCrc32 (idx : Fin ldReceiverSlotCount) : LdPlane × Bool :=
  let slot := s.slots idx
  match Psram.stagedCrc env.crc ldCrcVerifyStageSize slot.totalSize.toNat true 0
      s.io.psram slot.baseAddr.toNat slot.totalSize.toNat with
  | (psram, .error _) => ({ s with io := { s.io with psram := psram } }, false)
  | (psram, .ok crc) =>
      ({ s with io := { s.io with psram := psram } }, crc = slot.crc32)

/-- The end of `validate_large_data_chunk`, once every chunk was received. -/
def completeSlot (idx : Fin ldReceiverSlotCount) : LdPlane × UInt8 :=
  match s.verifyCrc32 env idx with
  | (s, false) =>
      ({ s.freeLargeDataSlot idx 255 with ldBusy := false }, statusCrcFail)
  | (s, true) =>
      ({ s.setSlot idx (readySlot (s.slots idx)) with ldBusy := false },
        statusSuccess)

/-- `validate_large_data_chunk`. -/
def validateLargeDataChunk (pkt : LargeDataChunk) :
    Except Fault (LdPlane × UInt8) :=
  match s.findLargeDataSlot pkt.genDeviceId pkt.dataId with
  | none => .ok (s, statusNotFound)
  | some idx =>
      let slot := s.slots idx
      let linear := linearIndex pkt.pageIndex pkt.chunkIndex
      if slot.pageCount ≤ pkt.pageIndex ∨
          ldChunksPerPage ≤ pkt.chunkIndex.toNat ∨
          slot.totalChunks.toNat ≤ linear then
        .ok (s, statusInvalidParameter)
      else
        match bitIndex linear with
        | .error fault => .error fault
        | .ok bit =>
            if slot.bitmap bit then
              .ok (s, statusAlreadyExists)
            else
              match s.io.write (slot.baseAddr.toNat + linear * ldChunkSize)
                  (pkt.data.bytes.take
                    (storedChunkSize slot linear).toNat) with
              | (io, some _) => .ok ({ s with io := io }, statusFailure)
              | (io, none) =>
                  let s := { s with io := io }.setSlot idx
                    (storedSlot env slot bit)
                  if slot.totalChunks ≤ slot.receivedCount + 1 then
                    .ok (s.completeSlot env idx)
                  else
                    .ok (s, statusSuccess)

end Receive

section Handlers

variable (env : Env)

/-- `handle_large_data_init`; `srcId` is the sender of the packet. -/
def handleLargeDataInit (pkt : LargeDataInit) (srcId : UInt16) : LdPlane :=
  let ack (status : UInt8) : Action :=
    .reply (.largeDataInitAck
      { hdr := env.replyHeader status srcId packetPriorityHigh
          pkt.hdr.trackingId
        genDeviceId := pkt.genDeviceId
        dataId := pkt.dataId })
  if !env.accepts pkt.hdr then
    s
  else if pkt.totalSize = 0 ∨ ldMaxTransferSize < pkt.totalSize.toNat ∨
      pkt.pageCount = 0 ∨ pkt.lastChunkSize = 0 ∨
      ldChunkSize < pkt.lastChunkSize.toNat then
    s.put (ack statusInvalidParameter)
  else
    match env.deviceType with
    | .gateway | .anchor =>
        if isDownstreamType pkt.hdr.deviceType then
          let outcome := s.validateLargeDataSlot env pkt
          outcome.1.put (ack outcome.2)
        else
          s
    | .sensor | .unknown => s

/-- The reaction of `handle_large_data_init_ack` to the status, once it has a
sender and a slot. -/
def answerInitAck
    (pkt : LargeDataInitAck) (srcId : UInt16)
    (senderIdx : Fin ldSenderSlotCount) (idx : Fin ldReceiverSlotCount) :
    LdPlane :=
  let sender := s.senders senderIdx
  if pkt.hdr.status = statusBusy then
    (s.setSender senderIdx
      { sender with
        timeout := (NbTimeout.init ldSenderTimeoutMs 0).start env.now }).setSlot
      idx { s.slots idx with isSent := false }
  else if pkt.hdr.status = statusSuccess ∨
      pkt.hdr.status = statusAlreadyExists then
    if !sender.active ∨ sender.dstId ≠ srcId ∨
        sender.genDeviceId ≠ pkt.genDeviceId ∨ sender.dataId ≠ pkt.dataId then
      s
    else
      (s.sendNextLargeDataChunk env srcId senderIdx).1
  else if pkt.hdr.status = statusComplete then
    { (s.freeSenderSlot senderIdx).setSlot idx
        { s.slots idx with isTransfered := true } with ldBusy := false }
  else
    s

/-- `handle_large_data_init_ack`.  The test `sender_idx < 0` of an unsigned
value never holds. -/
def handleLargeDataInitAck (pkt : LargeDataInitAck) (srcId : UInt16) :
    Except Fault LdPlane :=
  if !env.accepts pkt.hdr then
    .ok s
  else
    let s := s.put (.untrack pkt.hdr.trackingId)
    match env.deviceType with
    | .gateway | .unknown => .ok s
    | .sensor | .anchor =>
        if isUpstreamType pkt.hdr.deviceType then
          match senderIndex
              (ldIndexByte
                (s.findSenderSlot pkt.genDeviceId pkt.dataId)) with
          | .error fault => .error fault
          | .ok senderIdx =>
              match s.findLargeDataSlot (s.senders senderIdx).genDeviceId
                  (s.senders senderIdx).dataId with
              | none => .ok s
              | some idx => .ok (s.answerInitAck env pkt srcId senderIdx idx)
        else
          .ok s

/-- `handle_large_data_chunk`. -/
def handleLargeDataChunk (pkt : LargeDataChunk) (srcId : UInt16) :
    Except Fault LdPlane :=
  if !env.accepts pkt.hdr then
    .ok s
  else
    match env.deviceType with
    | .gateway | .anchor =>
        if isDownstreamType pkt.hdr.deviceType then
          match s.validateLargeDataChunk env pkt with
          | .error fault => .error fault
          | .ok (s, status) =>
              .ok (s.put (.reply (.largeDataChunkAck
                { hdr := env.replyHeader status srcId pkt.hdr.priority
                    pkt.hdr.trackingId
                  genDeviceId := pkt.genDeviceId
                  dataId := pkt.dataId
                  pageIndex := pkt.pageIndex
                  chunkIndex := pkt.chunkIndex })))
        else
          .ok s
    | .sensor | .unknown => .ok s

/-- The acknowledgement of the last chunk of a transfer. -/
def isLastChunk (sender : LdSender) (pkt : LargeDataChunkAck) : Bool :=
  (pkt.hdr.status = statusSuccess ∨ pkt.hdr.status = statusAlreadyExists) ∧
    pkt.pageIndex.toNat + 1 = sender.pageCount.toNat ∧
      sender.totalChunks ≠ 0 ∧
        pkt.chunkIndex.toNat =
          (sender.totalChunks.toNat - 1) % ldChunksPerPage

/-- `Large data transfer complete` in `handle_large_data_chunk_ack`. -/
def finishTransfer (senderIdx : Fin ldSenderSlotCount) : LdPlane :=
  let sender := s.senders senderIdx
  let s := s.setSender senderIdx
    { sender with
      timeout := (NbTimeout.init ldSenderTimeoutMs 0).start env.now }
  match s.findLargeDataSlot sender.genDeviceId sender.dataId with
  | none => s
  | some idx => s.setSlot idx { s.slots idx with isSent := true }

/-- The sender entry goes, and the slot may be sent again. -/
def restartTransfer (senderIdx : Fin ldSenderSlotCount) : LdPlane :=
  let sender := s.senders senderIdx
  let s := s.freeSenderSlot senderIdx
  match s.findLargeDataSlot sender.genDeviceId sender.dataId with
  | none => s
  | some idx => s.setSlot idx { s.slots idx with isSent := false }

/-- One more chunk was answered; every fourth answer sends the next four. -/
def advanceTransfer (srcId : UInt16) (senderIdx : Fin ldSenderSlotCount) :
    LdPlane :=
  let sender := s.senders senderIdx
  let s := s.setSender senderIdx { sender with nextChunk := sender.nextChunk + 1 }
  if (sender.nextChunk + 1).toNat % 4 ≠ 0 then
    s
  else
    match s.sendNextLargeDataChunk env srcId senderIdx with
    | (s, none) => s
    | (s, some _) => s.restartTransfer senderIdx

/-- The part of `handle_large_data_chunk_ack` for a transfer that goes on. -/
def continueTransfer
    (pkt : LargeDataChunkAck) (srcId : UInt16)
    (senderIdx : Fin ldSenderSlotCount) : LdPlane :=
  match env.deviceType with
  | .gateway | .unknown => s
  | .anchor | .sensor =>
      if isUpstreamType pkt.hdr.deviceType then
        if pkt.hdr.status = statusNotFound ∨
            pkt.hdr.status = statusResourceUnavailable ∨
            pkt.hdr.status = statusCrcFail then
          s.restartTransfer senderIdx
        else if pkt.hdr.status = statusFailure ∨
            pkt.hdr.status = statusInvalidParameter then
          match s.resendLargeDataChunk env srcId pkt.pageIndex pkt.chunkIndex
              senderIdx with
          | (s, some _) => s.freeSenderSlot senderIdx
          | (s, none) => s.advanceTransfer env srcId senderIdx
        else
          s.advanceTransfer env srcId senderIdx
      else
        s

/-- `handle_large_data_chunk_ack`, with the same narrowed index. -/
def handleLargeDataChunkAck (pkt : LargeDataChunkAck) (srcId : UInt16) :
    Except Fault LdPlane :=
  if !env.accepts pkt.hdr then
    .ok s
  else
    let s := s.put (.untrack pkt.hdr.trackingId)
    match senderIndex
        (ldIndexByte (s.findSenderSlot pkt.genDeviceId pkt.dataId)) with
    | .error fault => .error fault
    | .ok senderIdx =>
        let sender := s.senders senderIdx
        if !sender.active ∨ sender.dstId ≠ srcId ∨
            sender.genDeviceId ≠ pkt.genDeviceId ∨
            sender.dataId ≠ pkt.dataId then
          .ok s
        else if isLastChunk sender pkt then
          .ok (s.finishTransfer env senderIdx)
        else
          .ok (s.continueTransfer env pkt srcId senderIdx)

end Handlers

end LdPlane

end DectMesh
