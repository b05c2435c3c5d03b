import DectMesh.Library.Trace
import DectMesh.LargeData.Model

/-!
# Ticks, host commands and runs of the large-data plane

The second half of `large_data.c` and the step relation of a board's
large-data plane.
-/

namespace DectMesh

/-- A value stored in an `int8_t`. -/
def toInt8 (value : Nat) : Int := (UInt8.ofNat value).toInt8.toInt

/-- The big-endian bytes `sys_put_be16`, `sys_put_be32` and `sys_put_be64`
write for the low `count` bytes of `value`. -/
def bigEndian (count value : Nat) : List UInt8 :=
  (List.range count).map fun i =>
    UInt8.ofNat (value >>> (8 * (count - 1 - i)))

/-- What a computation that succeeded was mapped from. -/
theorem exists_of_map_ok {α β ε : Type} {f : α → β} {x : Except ε α} {b : β}
    (mapped : x.map f = .ok b) : ∃ a, x = .ok a ∧ f a = b := by
  cases x with
  | error fault => cases mapped
  | ok a => exact ⟨a, rfl, Except.ok.inj mapped⟩

theorem error_of_map_error {α β ε : Type} {f : α → β} {x : Except ε α}
    {fault : ε} (mapped : x.map f = .error fault) : x = .error fault := by
  cases x with
  | error other => exact congrArg _ (Except.error.inj mapped)
  | ok a => cases mapped

namespace LdPlane

variable (s : LdPlane) (env : Env)

section Ticks

/-- The first slot that waits to be sent. -/
@[irreducible]
def findPending : Option (Fin ldReceiverSlotCount) :=
  Fin.find? fun i =>
    (s.slots i).active ∧ (s.slots i).upstreamReady ∧ !(s.slots i).isSent

/-- The sender entry `gateway_large_data_tick` creates: the blob is cut into
`AT#LD` payloads.  Destination and timeout keep their values. -/
def gatewaySender (sender : LdSender) (slot : LdSlot) : LdSender :=
  let totalChunks := UInt16.ofNat (chunksOf slot.totalSize atDataPayloadMax)
  { sender with
    active := true
    genDeviceId := slot.genDeviceId
    dataId := slot.dataId
    priority := slot.priority
    totalSize := slot.totalSize
    totalChunks := totalChunks
    pageCount :=
      UInt16.ofNat
        ((totalChunks.toNat + ldChunksPerPage - 1) / ldChunksPerPage)
    lastChunkSize :=
      UInt16.ofNat
        (slot.totalSize.toNat - (totalChunks.toNat - 1) * atDataPayloadMax)
    nextChunk := 0
    crc32 := slot.crc32
    baseAddr := slot.baseAddr }

/-- The line `send_at_large_data_init` writes. -/
def ldInitLine (sender : LdSender) (slot : LdSlot) (serialNum : UInt64) :
    AtLine :=
  .ldInit serialNum sender.dataId slot.reportTimeMs sender.totalSize
    sender.totalChunks sender.lastChunkSize slot.crc32
    (env.crc16
      (bigEndian 8 serialNum.toNat ++ bigEndian 2 sender.dataId.toNat ++
        bigEndian 8 slot.reportTimeMs.toNat ++
        bigEndian 4 sender.totalSize.toNat ++
        bigEndian 2 sender.totalChunks.toNat ++
        bigEndian 2 sender.lastChunkSize.toNat ++
        bigEndian 4 slot.crc32.toNat))

/-- `send_at_large_data_init` on a gateway with an active sender.  A device
that is not in the mesh table loses its blob; an empty table is not searched,
and entry zero is used. -/
def sendAtLargeDataInit
    (senderIdx : Fin ldSenderSlotCount) (idx : Fin ldReceiverSlotCount) :
    Except Fault (LdPlane × Bool) :=
  let sender := s.senders senderIdx
  let unknown :=
    0 < env.meshCount ∧
      (env.findMesh fun entry => entry.deviceId = sender.genDeviceId) = none
  if unknown then
    match s.findLargeDataSlot sender.genDeviceId sender.dataId with
    | none => .ok (s, false)
    | some found =>
        .ok (s.freeLargeDataSlot found (UInt8.ofNat senderIdx.val), false)
  else
    match env.meshDevice (env.meshIndex sender.genDeviceId) with
    | .error fault => .error fault
    | .ok entry =>
        let written :=
          s.io.txWrite (ldInitLine env sender (s.slots idx) entry.serialNum)
        .ok ({ s with io := written.1 }, written.2)

/-- The loop of `gateway_large_data_tick`. -/
def gatewayLoop :
    List (Fin ldSenderSlotCount) → LdPlane → Except Fault LdPlane
  | [], s => .ok s
  | senderIdx :: rest, s =>
      if (s.senders senderIdx).active then
        .ok s
      else
        match s.findPending with
        | none => .ok s
        | some idx =>
            let s := s.setSender senderIdx
              (gatewaySender (s.senders senderIdx) (s.slots idx))
            match s.sendAtLargeDataInit env senderIdx idx with
            | .error fault => .error fault
            | .ok (s, false) => .ok (s.freeSenderSlot senderIdx)
            | .ok (s, true) =>
                gatewayLoop rest
                  (s.setSlot idx { s.slots idx with isSent := true })

/-- The expiry of an active sender.  Only the anchor marks the slot for a
retry; on the sensor that line is commented out. -/
def expireSender (retry : Bool) (senderIdx : Fin ldSenderSlotCount) : LdPlane :=
  let sender := s.senders senderIdx
  if sender.timeout.expired env.now then
    let s :=
      match s.findLargeDataSlot sender.genDeviceId sender.dataId with
      | none => s
      | some idx =>
          if retry then s.setSlot idx { s.slots idx with isSent := false } else s
    s.setSender senderIdx
      { sender with timeout := sender.timeout.stop, active := false }
  else
    s

/-- The check of the ticks on a slot's details. -/
def invalidDetails (slot : LdSlot) : Bool :=
  slot.genDeviceId = 0 ∨ slot.dataId = 0 ∨ slot.totalSize = 0 ∨
    slot.pageCount = 0 ∨ slot.totalChunks = 0 ∨ slot.lastChunkSize = 0 ∨
      slot.crc32 = 0 ∨ slot.baseAddr = 0

/-- The sender entry the ticks of sensor and anchor create from a slot. -/
def senderFor (slot : LdSlot) : LdSender where
  active := true
  dstId := env.parent.deviceId
  genDeviceId := slot.genDeviceId
  dataId := slot.dataId
  priority := slot.priority
  totalSize := slot.totalSize
  pageCount := slot.pageCount.toUInt16
  lastChunkSize := slot.lastChunkSize
  totalChunks := slot.totalChunks
  nextChunk := 0
  crc32 := slot.crc32
  baseAddr := slot.baseAddr
  timeout := (NbTimeout.init ldSenderTimeoutMs 0).start env.now

/-- Start the transfer of a slot. -/
def startSender
    (senderIdx : Fin ldSenderSlotCount) (idx : Fin ldReceiverSlotCount) :
    LdPlane :=
  let sender := senderFor env (s.slots idx)
  let s := s.setSender senderIdx sender
  let s := s.sendLargeDataInit env
    { genDeviceId := sender.genDeviceId
      dataId := sender.dataId
      reportTimeMs := UInt64.ofNat env.now
      totalSize := sender.totalSize
      pageCount := sender.pageCount.toUInt8
      lastChunkSize := sender.lastChunkSize
      crc32 := sender.crc32 }
    sender.dstId sender.priority
  s.setSlot idx { s.slots idx with isSent := true }

/-- The loop of `sensor_large_data_tick` and `anchor_large_data_tick`. -/
def senderLoop (retry : Bool) :
    List (Fin ldSenderSlotCount) → LdPlane → LdPlane
  | [], s => s
  | senderIdx :: rest, s =>
      if (s.senders senderIdx).active then
        senderLoop retry rest (s.expireSender env retry senderIdx)
      else
        match s.findPending with
        | none => s
        | some idx =>
            if invalidDetails (s.slots idx) then
              s.freeLargeDataSlot idx 255
            else
              senderLoop retry rest (s.startSender env senderIdx idx)

/-- `gateway_large_data_tick`. -/
def gatewayLargeDataTick : Except Fault LdPlane :=
  gatewayLoop env (List.finRange ldSenderSlotCount) s

/-- `anchor_large_data_tick`. -/
def anchorLargeDataTick : LdPlane :=
  senderLoop env true (List.finRange ldSenderSlotCount) s

/-- `sensor_large_data_tick`. -/
def sensorLargeDataTick : LdPlane :=
  senderLoop env false (List.finRange ldSenderSlotCount) s

/-- `large_data_tick`. -/
def largeDataTick : Except Fault LdPlane :=
  match env.deviceType with
  | .gateway => s.gatewayLargeDataTick env
  | .anchor => .ok (s.anchorLargeDataTick env)
  | .sensor => .ok (s.sensorLargeDataTick env)
  | .unknown => .ok s

/-- `large_data_init`; senders and the busy flag keep their values. -/
def largeDataInit : LdPlane :=
  { s with
    slots := fun idx => { s.slots idx with active := false }
    isLdSlotEmpty := fun _ => true }

end Ticks

section Host

def sendLine (text : AtLine) : LdPlane :=
  { s with io := s.io.sendLine text }

/-- What `cmd_ld_init` takes out of its arguments. -/
structure LdInitCommand where
  sn : UInt64
  id : UInt64
  total : UInt64
  chunks : UInt64
  last : UInt64
  crc32 : UInt64
  crc16 : UInt64

/-- The parsing of `cmd_ld_init`. -/
def parseLdInit (args : List Char) : Option LdInitCommand :=
  (fieldHexU64 args 0).bind fun sn =>
  (fieldHexU64 args 1).bind fun id =>
  (fieldHexU64 args 2).bind fun total =>
  (fieldHexU64 args 3).bind fun chunks =>
  (fieldHexU64 args 4).bind fun last =>
  (fieldHexU64 args 5).bind fun crc32 =>
  (fieldHexU64 args 6).map fun crc16 =>
    { sn := sn, id := id, total := total, chunks := chunks, last := last
      crc32 := crc32, crc16 := crc16 }

namespace LdInitCommand

variable (command : LdInitCommand)

/-- The bytes the CRC-16 of an `AT#LDINIT` line covers. -/
def crcBytes : List UInt8 :=
  bigEndian 8 command.sn.toNat ++ bigEndian 2 command.id.toNat ++
    bigEndian 4 command.total.toNat ++ bigEndian 2 command.chunks.toNat ++
    bigEndian 2 command.last.toNat ++ bigEndian 4 command.crc32.toNat

/-- The range and consistency checks of `cmd_ld_init`. -/
def inRange : Bool :=
  command.id.toNat ≤ 0xFF ∧ command.total ≠ 0 ∧
    command.total.toNat ≤ ldMaxTransferSize ∧ command.chunks ≠ 0 ∧
      command.chunks.toNat ≤ 0xFFFF ∧ command.crc32.toNat ≤ 0xFFFFFFFF ∧
        command.last ≠ 0 ∧ command.last.toNat ≤ atDataPayloadMax ∧
          command.total =
            (command.chunks - 1) * UInt64.ofNat atDataPayloadMax + command.last

end LdInitCommand

/-- The slot `cmd_ld_init` fills; the bitmap and the report time of its
previous use stay. -/
def hostSlot (slot : LdSlot) (command : LdInitCommand) : LdSlot :=
  { slot with
    upstreamReady := false
    isSent := false
    isTransfered := false
    genDeviceId := env.deviceId
    dataId := command.id.toUInt8
    priority := packetPriorityHigh
    totalSize := command.total.toUInt32
    totalChunks := command.chunks.toUInt16
    lastChunkSize := command.last.toUInt16
    pageCount :=
      UInt8.ofNat
        ((command.chunks.toNat + ldChunksPerPage - 1) / ldChunksPerPage)
    crc32 := command.crc32.toUInt32
    receivedCount := 0
    idleTimeout := (NbTimeout.init ldSlotTimeoutMs 0).start env.now }

/-- `cmd_ld_init`, the handler of `AT#LDINIT=`. -/
def cmdLdInit (args : List Char) : LdPlane :=
  if env.deviceType ≠ .sensor then
    s.sendLine .error
  else if env.connectedDeviceId = 0xFFFF then
    s.sendLine .error
  else
    match parseLdInit args with
    | none => s.sendLine .error
    | some command =>
        if 0xFFFF < command.crc16.toNat ∨
            env.crc16 command.crcBytes ≠ command.crc16.toUInt16 then
          s.sendLine .error
        else if command.sn ≠ env.serialNumber then
          s.sendLine .error
        else if !command.inRange then
          s.sendLine .error
        else
          match s.findLargeDataSlot env.deviceId command.id.toUInt8 with
          | some _ => s.sendLine .error
          | none =>
              match s.allocLargeDataSlot command.total.toUInt32 with
              | none => s.sendLine .error
              | some (s, idx) =>
                  let slot := hostSlot env (s.slots idx) command
                  ((s.setSlot idx slot).sendLine
                    (.ldInitAccepted command.sn slot.dataId slot.totalSize
                      slot.totalChunks)).sendLine .ok

/-- What `cmd_ld_chunk` takes out of its arguments. -/
structure LdChunkCommand where
  sn : UInt64
  id : UInt64
  page : UInt64
  chunk : UInt64
  crc16 : UInt64
  payload : List UInt8

/-- The parsing of `cmd_ld_chunk`. -/
def parseLdChunk (args : List Char) : Option LdChunkCommand :=
  (fieldHexU64 args 0).bind fun sn =>
  (fieldHexU64 args 1).bind fun id =>
  (fieldHexU64 args 2).bind fun page =>
  (fieldHexU64 args 3).bind fun chunk =>
  (fieldHexU64 args 4).bind fun crc16 =>
  (fieldGet args 5).bind fun hex =>
    if hex = [] then
      none
    else
      (hexDecode hex atDataPayloadMax).map fun payload =>
        { sn := sn, id := id, page := page, chunk := chunk, crc16 := crc16
          payload := payload }

/-- The size of the `AT#LD` payload number `linear` of a slot; the source
subtracts in 32 bits and narrows to 16. -/
def expectedSize (slot : LdSlot) (linear : Nat) : Nat :=
  if linear + 1 = slot.totalChunks.toNat then
    (slot.totalSize - UInt32.ofNat (linear * atDataPayloadMax)).toUInt16.toNat
  else
    atDataPayloadMax

/-- A slot whose last payload was staged: from here on it is cut into radio
chunks. -/
def stagedSlot (slot : LdSlot) : LdSlot :=
  let totalChunks := UInt16.ofNat (chunksOf slot.totalSize ldChunkSize)
  { slot with
    totalChunks := totalChunks
    lastChunkSize :=
      UInt16.ofNat
        (slot.totalSize.toNat - (totalChunks.toNat - 1) * ldChunkSize)
    pageCount :=
      UInt8.ofNat
        ((totalChunks.toNat + ldChunksPerPage - 1) / ldChunksPerPage)
    receivedCount := totalChunks
    upstreamReady := true
    idleTimeout := slot.idleTimeout.stop }

/-- Stage one payload of an `AT#LD` line. -/
def stageChunk
    (idx : Fin ldReceiverSlotCount) (linear : Nat) (payload : List UInt8) :
    LdPlane :=
  let slot := s.slots idx
  match s.io.write (slot.baseAddr.toNat + linear * atDataPayloadMax)
      payload with
  | (io, some _) =>
      ({ s with io := io }.freeLargeDataSlot idx 255).sendLine .error
  | (io, none) =>
      let s := { s with io := io }.setSlot idx
        { slot with
          receivedCount := slot.receivedCount + 1
          idleTimeout := slot.idleTimeout.start env.now }
      if slot.totalChunks ≤ slot.receivedCount + 1 then
        match s.verifyCrc32 env idx with
        | (s, false) => (s.freeLargeDataSlot idx 255).sendLine .error
        | (s, true) => (s.setSlot idx (stagedSlot (s.slots idx))).sendLine .ok
      else
        s.sendLine .ok

/-- `cmd_ld_chunk`, the handler of `AT#LD=`. -/
def cmdLdChunk (args : List Char) : LdPlane :=
  if env.deviceType ≠ .sensor then
    s.sendLine .error
  else
    match parseLdChunk args with
    | none => s.sendLine .error
    | some command =>
        if 0xFFFF < command.crc16.toNat ∨
            env.crc16 command.payload ≠ command.crc16.toUInt16 then
          s.sendLine .error
        else if command.sn ≠ env.serialNumber then
          s.sendLine .error
        else if 0xFF < command.id.toNat ∨ 0xFF < command.page.toNat ∨
            ldChunksPerPage ≤ command.chunk.toNat then
          s.sendLine .error
        else
          match s.findLargeDataSlot env.deviceId command.id.toUInt8 with
          | none => s.sendLine .error
          | some idx =>
              let linear :=
                command.page.toNat * ldChunksPerPage + command.chunk.toNat
              if (s.slots idx).totalChunks.toNat ≤ linear then
                s.sendLine .error
              else if command.payload.length ≠
                  expectedSize (s.slots idx) linear then
                s.sendLine .error
              else if linear < (s.slots idx).receivedCount.toNat then
                s.sendLine .ok
              else
                s.stageChunk env idx linear command.payload

/-- `at_send_next_chunk`; the callers only log its result. -/
def atSendNextChunk (senderIdx : Fin ldSenderSlotCount) (page chunk : Nat) :
    LdPlane :=
  let sender := s.senders senderIdx
  let linear := page * ldChunksPerPage + chunk
  if !sender.active ∨ sender.pageCount.toNat ≤ page ∨
      ldChunksPerPage ≤ chunk ∨ sender.totalChunks.toNat ≤ linear ∨
      sender.totalChunks ≤ sender.nextChunk then
    s
  else
    let size :=
      if linear + 1 = sender.totalChunks.toNat then
        sender.lastChunkSize.toNat
      else
        atDataPayloadMax
    match s.io.read (sender.baseAddr.toNat + linear * atDataPayloadMax) size with
    | (io, .error _) => { s with io := io }
    | (io, .ok payload) =>
        { s with io := io }.sendLine
          (.ld s.deviceIdCache sender.dataId page chunk payload)

/-- `cmd_ld_init_ack` with the host's `#LDINIT` line. -/
def cmdLdInitAck (args : List Char) : LdPlane × Option AtPendingAck :=
  match fieldHexU64 args 0, fieldHexU64 args 1, fieldHexU64 args 2,
      fieldHexU64 args 3 with
  | some sn, some id, some _, some _ =>
      let ack : AtPendingAck :=
        { sn := sn, dataType := dataTypeLargeData
          id := id.toUInt8.toUInt16, page := -1, chunk := -1 }
      if env.meshCount = 0 then
        (s, some ack)
      else
        match env.findMesh fun entry => entry.serialNum = sn with
        | none => (s, none)
        | some i =>
            let deviceId := (env.meshDevices i).deviceId
            match s.findSenderSlot deviceId id.toUInt8 with
            | none => ({ s with senderIdxCache := none }, none)
            | some senderIdx =>
                ({ s with
                    senderIdxCache := some senderIdx
                    deviceIdCache := deviceId }, some ack)
  | _, _, _, _ => (s, none)

/-- `cmd_ld_init_ack` once the host's `OK` followed. -/
def cmdLdInitReady : LdPlane :=
  match s.senderIdxCache with
  | none => s
  | some senderIdx => s.atSendNextChunk senderIdx 0 0

/-- An access to `ld_sender[sender_idx_cache]`. -/
def cachedSender : Except Fault (Fin ldSenderSlotCount) :=
  match s.senderIdxCache with
  | none => .error ⟨.ldSender, -1⟩
  | some senderIdx => .ok senderIdx

/-- `cmd_ld_chunk_ack` with the host's `#LD` line. -/
def cmdLdChunkAck (args : List Char) : Except Fault (Option AtPendingAck) :=
  match fieldHexU64 args 0, fieldHexU64 args 1, fieldHexU64 args 2,
      fieldHexU64 args 3 with
  | some sn, some id, some page, some chunk =>
      match s.cachedSender with
      | .error fault => .error fault
      | .ok senderIdx =>
          let sender := s.senders senderIdx
          if sender.dataId ≠ id.toUInt8 ∨
              sender.pageCount.toNat ≤ page.toNat ∨
              ldChunksPerPage ≤ chunk.toNat then
            .ok none
          else
            .ok (some
              { sn := sn, dataType := dataTypeLargeData
                id := id.toUInt8.toUInt16, page := toInt8 page.toNat
                chunk := toInt8 chunk.toNat })
  | _, _, _, _ => .ok none

/-- `cmd_ld_chunk_ack` once the host's `OK` followed. -/
def cmdLdChunkReady : Except Fault LdPlane :=
  match s.cachedSender with
  | .error fault => .error fault
  | .ok senderIdx =>
      let sender := s.senders senderIdx
      if sender.totalChunks - 1 ≤ sender.nextChunk then
        let s := s.freeSenderSlot senderIdx
        match s.findLargeDataSlot sender.genDeviceId sender.dataId with
        | none => .ok s
        | some idx =>
            .ok (s.setSlot idx { s.slots idx with isTransfered := true })
      else
        let next := sender.nextChunk + 1
        .ok ((s.setSender senderIdx { sender with nextChunk := next }
          ).atSendNextChunk senderIdx (next.toNat / ldChunksPerPage)
            (next.toNat % ldChunksPerPage))

end Host

end LdPlane

/-- What a board's large-data plane reacts to. -/
inductive LdEvent where
  | largeDataInit (pkt : LargeDataInit) (srcId : UInt16)
  | largeDataInitAck (pkt : LargeDataInitAck) (srcId : UInt16)
  | largeDataChunk (pkt : LargeDataChunk) (srcId : UInt16)
  | largeDataChunkAck (pkt : LargeDataChunkAck) (srcId : UInt16)
  | tick
  /-- `AT#LDINIT=` with its arguments. -/
  | cmdLdInit (args : List Char)
  /-- `AT#LD=` with its arguments. -/
  | cmdLdChunk (args : List Char)
  /-- The host's `#LDINIT` line, and the `OK` that follows it. -/
  | cmdLdInitAck (args : List Char)
  | cmdLdInitReady
  /-- The host's `#LD` line, and the `OK` that follows it. -/
  | cmdLdChunkAck (args : List Char)
  | cmdLdChunkReady
  /-- `large_data_init`, in the error recovery. -/
  | restart
  /-- The other modules use the PSRAM outside the large-data region, and the
  UART and the SPI bus have whatever outcomes are coming. -/
  | elsewhere (psram : Psram) (uart : List UartOutcome)

namespace LdPlane

/-- The actions of the previous event have been performed. -/
def clearOut (s : LdPlane) : LdPlane :=
  { s with io := { s.io with out := [] } }

def ldRegionEnd : Nat := psramLargeDataBase + ldMaxPageCount * ldPageSize

/-- One event of a large-data plane. -/
def step (s : LdPlane) (env : Env) : LdEvent → Except Fault LdPlane
  | .largeDataInit pkt srcId =>
      .ok (s.clearOut.handleLargeDataInit env pkt srcId)
  | .largeDataInitAck pkt srcId =>
      s.clearOut.handleLargeDataInitAck env pkt srcId
  | .largeDataChunk pkt srcId => s.clearOut.handleLargeDataChunk env pkt srcId
  | .largeDataChunkAck pkt srcId =>
      s.clearOut.handleLargeDataChunkAck env pkt srcId
  | .tick => s.clearOut.largeDataTick env
  | .cmdLdInit args => .ok (s.clearOut.cmdLdInit env args)
  | .cmdLdChunk args => .ok (s.clearOut.cmdLdChunk env args)
  | .cmdLdInitAck args => .ok (s.clearOut.cmdLdInitAck env args).1
  | .cmdLdInitReady => .ok s.clearOut.cmdLdInitReady
  | .cmdLdChunkAck args => (s.cmdLdChunkAck args).map fun _ => s.clearOut
  | .cmdLdChunkReady => s.clearOut.cmdLdChunkReady
  | .restart => .ok s.clearOut.largeDataInit
  | .elsewhere psram uart =>
      .ok { s.clearOut with io := { psram := psram, uart := uart } }

/-- Another module's use of the PSRAM leaves the large-data region alone. -/
def Elsewhere (s : LdPlane) : LdEvent → Prop
  | .elsewhere psram _ =>
      ByteStore.AgreeOn psram.mem s.io.psram.mem psramLargeDataBase ldRegionEnd
  | _ => True

end LdPlane

end DectMesh
