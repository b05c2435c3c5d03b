import DectMesh.Library.Trace
import DectMesh.Report.Model

/-!
# Ticks, host commands and runs of the report plane

The second half of `data.c`, and the step relation of a board's report plane:
received packets, ticks, host commands, host answers, the re-initialisation of
the error recovery, and whatever the other modules do to the shared PSRAM and
the UART.
-/

namespace DectMesh

namespace ReportPlane

variable (s : ReportPlane) (env : Env)

section Ticks

/-- The slot loop of `report_tick`: free what has been idle too long. -/
def expireSlots : List (Fin dataSlotCount) → ReportPlane → ReportPlane
  | [], s => s
  | idx :: rest, s =>
      if (s.slots idx).active ∧ (s.slots idx).idleTimeout.expired env.now then
        expireSlots rest (s.reportSlotFree idx 255)
      else
        expireSlots rest s

/-- The first loop of `gateway_report_tick`: free what the host has. -/
def expireForwarded : List (Fin dataSlotCount) → ReportPlane → ReportPlane
  | [], s => s
  | idx :: rest, s =>
      if (s.slots idx).active ∧ (s.slots idx).upstreamReady ∧
          (s.slots idx).isSent ∧
          (s.slots idx).idleTimeout.expired env.now then
        expireForwarded rest (s.reportSlotFree idx 255)
      else
        expireForwarded rest s

theorem expireForwarded_io (slots : List (Fin dataSlotCount))
    (s : ReportPlane) : (expireForwarded env slots s).io = s.io := by
  induction slots generalizing s with
  | nil => rfl
  | cons idx rest ih =>
      unfold expireForwarded
      split
      · rw [ih, reportSlotFree_io]
      · exact ih s

/-- The second loop of `gateway_report_tick`: emit the first ready report
whose line can be built and written.  A device that is not in the mesh table
leaves `sn_idx` at `mesh_count`, and the loop goes on with that entry. -/
def forwardToHost :
    List (Fin dataSlotCount) → ReportPlane → Except Fault ReportPlane
  | [], s => .ok s
  | idx :: rest, s =>
      let slot := s.slots idx
      if slot.active ∧ slot.upstreamReady ∧ !slot.isSent then
        match s.io.read (slotPsramAddr idx) slot.totalSize.toNat with
        | (io, .error _) => forwardToHost rest { s with io := io }
        | (io, .ok payload) =>
            match env.meshDevice (env.meshIndex slot.genDeviceId) with
            | .error fault => .error fault
            | .ok entry =>
                if slmUartAtCommandLen ≤
                    reportHeaderLength + slot.totalSize.toNat * 2 + 3 then
                  forwardToHost rest { s with io := io }
                else
                  match io.txWrite (.report entry.serialNum slot.dataId
                      slot.reportTimeMs slot.totalSize slot.crc32 payload) with
                  | (io, false) => forwardToHost rest { s with io := io }
                  | (io, true) =>
                      .ok ({ s with io := io }.setSlot idx
                        { slot with isSent := true })
      else
        forwardToHost rest s

/-- `gateway_report_tick`. -/
def gatewayReportTick : Except Fault ReportPlane :=
  forwardToHost env allSlots
    (expireForwarded env allSlots s)

/-- The priority class the counters select. -/
def pendingPriority : Option UInt8 :=
  if 0 < s.highPrioCount.toNat then
    some packetPriorityHigh
  else if 0 < s.medPrioCount.toNat then
    some packetPriorityMedium
  else if 0 < s.lowPrioCount.toNat then
    some packetPriorityLow
  else
    none

/-- The first slot of a class that waits to be sent. -/
def findPending (priority : UInt8) : Option (Fin dataSlotCount) :=
  Fin.find? fun i =>
    (s.slots i).active ∧ (s.slots i).upstreamReady ∧ !(s.slots i).isSent ∧
      (s.slots i).priority = priority

/-- The expiry of an active sender in the ticks: its slot may be retried. -/
def expireSender (idx : Fin maxAnchors) : ReportPlane :=
  let sender := s.senders idx
  if sender.timeout.expired env.now then
    let s :=
      match s.findSlot sender.genDeviceId sender.dataId with
      | none => s
      | some slotIdx =>
          s.setSlot slotIdx { s.slots slotIdx with isSent := false }
    s.setSender idx
      { sender with timeout := sender.timeout.stop, active := false }
  else
    s

/-- The sender entry the ticks create from a slot. -/
def senderFor (idx : Fin dataSlotCount) : ReportSender where
  active := true
  dstId := env.parent.deviceId
  genDeviceId := (s.slots idx).genDeviceId
  dataId := (s.slots idx).dataId
  priority := (s.slots idx).priority
  totalSize := (s.slots idx).totalSize
  chunkCount := (s.slots idx).chunkCount
  lastChunkSize := (s.slots idx).lastChunkSize
  nextChunk := 0
  crc32 := (s.slots idx).crc32
  timeout := (NbTimeout.init reportSenderTimeoutMs 0).start env.now
  origin := idx

/-- Start the transfer of a slot. -/
def startSender (senderIdx : Fin maxAnchors) (idx : Fin dataSlotCount) :
    ReportPlane :=
  let sender := senderFor s env idx
  let s := s.setSender senderIdx sender
  let s := s.sendReportInit env
    { genDeviceId := sender.genDeviceId
      dataId := sender.dataId
      reportTimeMs := UInt64.ofNat env.now
      totalSize := sender.totalSize
      chunkCount := sender.chunkCount
      lastChunkSize := sender.lastChunkSize
      crc32 := sender.crc32 }
    sender.dstId sender.priority
  s.setSlot idx { s.slots idx with isSent := true }

/-- The loop of `sensor_report_tick` and `anchor_report_tick`.  They differ in
one line: only the sensor frees a slot with invalid details. -/
def senderLoop (freeInvalid : Bool) :
    List (Fin maxAnchors) → ReportPlane → ReportPlane
  | [], s => s
  | senderIdx :: rest, s =>
      if (s.senders senderIdx).active then
        senderLoop freeInvalid rest (s.expireSender env senderIdx)
      else
        match s.pendingPriority.bind s.findPending with
        | none => s
        | some idx =>
            let slot := s.slots idx
            if slot.genDeviceId = 0 ∨ slot.dataId = 0 ∨ slot.totalSize = 0 ∨
                slot.chunkCount = 0 then
              let s := s.updateReportCount slot.priority false
              if freeInvalid then s.reportSlotFree idx 255 else s
            else
              senderLoop freeInvalid rest (s.startSender env senderIdx idx)

/-- `anchor_report_tick`. -/
def anchorReportTick : ReportPlane :=
  senderLoop env false (List.finRange maxAnchors) s

/-- `sensor_report_tick`. -/
def sensorReportTick : ReportPlane :=
  senderLoop env true (List.finRange maxAnchors) s

/-- `report_tick`. -/
def reportTick : Except Fault ReportPlane :=
  let s := expireSlots env allSlots s
  match env.deviceType with
  | .gateway => s.gatewayReportTick env
  | .anchor => .ok (s.anchorReportTick env)
  | .sensor => .ok (s.sensorReportTick env)
  | .unknown => .ok s

/-- `report_init`; only the activity flags are cleared. -/
def reportInit : ReportPlane :=
  { s with
    slots := fun idx => { s.slots idx with active := false }
    senders := fun idx => { s.senders idx with active := false } }

end Ticks

section Host

/-- The slot `validate_at_report` writes. -/
def hostSlot
    (slot : ReportSlot) (report : SlmAtStructure) (priority : UInt8) :
    ReportSlot :=
  { slot with
    active := true
    upstreamReady := true
    genDeviceId := env.deviceId
    dataId := report.dataId.toUInt8
    priority := priority
    totalSize := report.dataLen
    chunkCount :=
      UInt8.ofNat ((report.dataLen.toNat + sendDataMax - 1) / sendDataMax)
    lastChunkSize :=
      UInt8.ofNat
        (if report.dataLen.toNat % sendDataMax ≠ 0 then
          report.dataLen.toNat % sendDataMax
        else
          sendDataMax)
    crc32 := report.dataCrc32
    received := fun _ => true
    receivedCount :=
      UInt8.ofNat ((report.dataLen.toNat + sendDataMax - 1) / sendDataMax) }

/-- The rest of `validate_at_report` once it has a slot. -/
def storeReport
    (idx : Fin dataSlotCount) (report : SlmAtStructure) (priority : UInt8)
    (data : List UInt8) : ReportPlane × Option Errno :=
  let s := s.setSlot idx (hostSlot env (s.slots idx) report priority)
  let s := s.updateReportCount priority true
  match s.io.write (slotPsramAddr idx) data with
  | (io, none) => ({ s with io := io }, none)
  | (io, some errno) => ({ s with io := io }.reportSlotFree idx 255, some errno)

/-- `validate_at_report`; the search narrows the 16-bit id to its argument
type. -/
def validateAtReport
    (report : SlmAtStructure) (priority : UInt8) (data : List UInt8) :
    ReportPlane × Option Errno :=
  if report.dataLen = 0 ∨ maxReportSize < report.dataLen.toNat then
    (s, some .einval)
  else
    match s.findSlot env.deviceId report.dataId.toUInt8 with
    | some idx => s.storeReport env idx report priority data
    | none =>
        match s.freeSlot with
        | none => (s, some .enomem)
        | some idx => (s.clearSlot idx).storeReport env idx report priority data

def sendLine (text : AtLine) : ReportPlane :=
  { s with io := s.io.sendLine text }

/-- What `cmd_report` takes out of its arguments. -/
structure ReportCommand where
  serialNum : UInt64
  report : SlmAtStructure
  priority : UInt8
  payload : List UInt8

/-- The parsing of `cmd_report`; the priority field is narrowed by a cast. -/
def parseReport (args : List Char) : Option ReportCommand :=
  (fieldHexU64 args 0).bind fun sn =>
  (fieldHexU64 args 1).bind fun id =>
  (fieldHexU64 args 2).bind fun len =>
  (fieldHexU64 args 3).bind fun prio =>
  (fieldHexU64 args 4).bind fun crc =>
    if 0xFFFF < id.toNat ∨ len = 0 ∨ maxReportSize < len.toNat ∨
        0xFFFFFFFF < crc.toNat then
      none
    else
      (fieldGet args 5).bind fun hex =>
        if hex.length ≠ len.toNat * 2 then
          none
        else
          (hexDecode hex maxReportSize).bind fun payload =>
            if payload.length ≠ len.toNat then
              none
            else
              some
                { serialNum := sn
                  report :=
                    { dataId := id.toUInt16
                      dataLen := len.toUInt16
                      dataCrc32 := crc.toUInt32 }
                  priority := prio.toUInt8
                  payload := payload }

/-- `cmd_report`, the handler of `AT#REPORT=`. -/
def cmdReport (args : List Char) : ReportPlane :=
  if env.deviceType ≠ .sensor then
    s.sendLine .error
  else if env.connectedDeviceId = 0xFFFF then
    s.sendLine .error
  else
    match parseReport args with
    | none => s.sendLine .error
    | some command =>
        if env.crc.ieee command.payload ≠ command.report.dataCrc32 then
          s.sendLine .error
        else if command.serialNum ≠ env.serialNumber then
          s.sendLine .error
        else
          match s.validateAtReport env command.report command.priority
              command.payload with
          | (s, some _) => s.sendLine .error
          | (s, none) =>
              (s.sendLine (.reportAccepted command.serialNum
                command.report.dataId command.report.dataLen
                command.report.dataCrc32)).sendLine .ok

/-- The slot `report_slot_release_by_id` acts on. -/
def findSentSlot (deviceId reportId : UInt16) : Option (Fin dataSlotCount) :=
  Fin.find? fun i =>
    (s.slots i).genDeviceId = deviceId ∧ (s.slots i).active ∧
      (s.slots i).isSent ∧ (s.slots i).dataId.toUInt16 = reportId

/-- Ask every infrastructure neighbour for a route. -/
def discoverRoute (pkt : RouteDiscovery) : ReportPlane :=
  (env.routeDiscoveries pkt).foldl put s

/-- `report_slot_release_by_id`.  After a failure the sender index is narrowed
to 8 bits before the test for "not found", which never holds. -/
def reportSlotReleaseById
    (deviceId reportId : UInt16) (isSuccess : Bool) :
    Except Fault ReportPlane :=
  if deviceId = 0xFFFF then
    .ok s
  else
    match s.findSentSlot deviceId reportId with
    | none => .ok s
    | some idx =>
        let slot := s.slots idx
        if isSuccess then
          let hopNum := env.findHopNum slot.genDeviceId DeviceType.sensor.code
          if hopNum = 0xFF then
            .ok s
          else if hopNum = 0 then
            .ok (s.sendReportReceived env
              { genDeviceId := slot.genDeviceId
                dataId := slot.dataId
                hdr := { status := statusSuccess } } slot.genDeviceId)
          else
            .ok (s.discoverRoute env
              { deviceId := slot.genDeviceId
                deviceType := DeviceType.sensor.code
                hopNum := hopNum
                dataType := dataTypeReport
                dataId := UInt16.ofNat idx.val })
        else
          let s := s.setSlot idx { slot with isSent := false }
          match senderIndex
              (indexByte (s.findSenderSlot slot.genDeviceId slot.dataId)) with
          | .error fault => .error fault
          | .ok senderIdx => .ok (s.freeSenderSlot senderIdx)

end Host

section Routing

/-- `build_report_received_pkt`; `data_id` of the route is a slot index that
nothing checks. -/
def buildReportReceivedPkt (pkt : RouteInfo) :
    Except Fault (ReportPlane × ReportReceived) :=
  if inside : pkt.dataId.toNat < dataSlotCount then
    let idx : Fin dataSlotCount := ⟨pkt.dataId.toNat, inside⟩
    let slot := s.slots idx
    if slot.isTransfered then
      .ok (s, { genDeviceId := 0, dataId := 0 })
    else
      .ok (s.setSlot idx { slot with isTransfered := true },
        { genDeviceId := pkt.deviceId
          dataId := slot.dataId
          hdr := { status := statusSuccess }
          routeInfo := reverseRoute pkt.routeInfo })
  else
    .error ⟨.reportSlot, pkt.dataId.toNat⟩

end Routing

end ReportPlane

/-- What a board's report plane reacts to.  `srcId` is the address the radio
reports for a packet. -/
inductive ReportEvent where
  | reportInit (pkt : ReportInit) (srcId : UInt16)
  | reportInitAck (pkt : ReportInitAck) (srcId : UInt16)
  | reportChunk (pkt : ReportChunk) (srcId : UInt16)
  | reportChunkAck (pkt : ReportChunkAck) (srcId : UInt16)
  | reportReceived (pkt : ReportReceived) (srcId : UInt16)
  | reportReceivedAck (pkt : ReportReceivedAck)
  | routeInfo (pkt : RouteInfo)
  | tick
  /-- `AT#REPORT=` with its arguments. -/
  | cmdReport (args : List Char)
  /-- A host answer that `dispatch` matched with a pending report. -/
  | release (deviceId reportId : UInt16) (isSuccess : Bool)
  /-- `report_init`, at boot and in the error recovery. -/
  | restart
  /-- The other modules use the PSRAM outside the report region, and the UART
  and the SPI bus have whatever outcomes are coming. -/
  | elsewhere (psram : Psram) (uart : List UartOutcome)

namespace ReportPlane

/-- The actions of the previous event have been performed. -/
def clearOut (s : ReportPlane) : ReportPlane :=
  { s with io := { s.io with out := [] } }

def reportRegionEnd : Nat := dataPsramBase + dataSlotCount * maxReportSize

/-- One event of a report plane.  `env` describes the surroundings during the
event; `out` afterwards lists what this event put out. -/
def step (s : ReportPlane) (env : Env) : ReportEvent → Except Fault ReportPlane
  | .reportInit pkt srcId => .ok (s.clearOut.handleReportInit env pkt srcId)
  | .reportInitAck pkt srcId => s.clearOut.handleReportInitAck env pkt srcId
  | .reportChunk pkt srcId => s.clearOut.handleReportChunk env pkt srcId
  | .reportChunkAck pkt srcId => s.clearOut.handleReportChunkAck env pkt srcId
  | .reportReceived pkt srcId =>
      .ok (s.clearOut.handleReportReceived env pkt srcId)
  | .reportReceivedAck pkt => .ok (s.clearOut.handleReportReceivedAck env pkt)
  | .routeInfo pkt =>
      (s.clearOut.buildReportReceivedPkt pkt).map fun outcome => outcome.1
  | .tick => s.clearOut.reportTick env
  | .cmdReport args => .ok (s.clearOut.cmdReport env args)
  | .release deviceId reportId isSuccess =>
      s.clearOut.reportSlotReleaseById env deviceId reportId isSuccess
  | .restart => .ok s.clearOut.reportInit
  | .elsewhere psram uart =>
      .ok { s.clearOut with io := { psram := psram, uart := uart } }

/-- Another module's use of the PSRAM leaves the report region alone. -/
def Elsewhere (s : ReportPlane) : ReportEvent → Prop
  | .elsewhere psram _ =>
      ByteStore.AgreeOn psram.mem s.io.psram.mem dataPsramBase reportRegionEnd
  | _ => True

end ReportPlane

end DectMesh
