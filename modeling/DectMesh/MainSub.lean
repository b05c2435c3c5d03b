import DectMesh.LiveNet
import DectMesh.Radio
import DectMesh.Tracker.Payloads

/-!
# The main loop

`main_sub.c`: a board with its queues, its tracker and its radio.  The main
thread goes through the states of `main_sub_run` call by call; the callbacks of
the modem come in between.  The handlers are those of `LiveBoard.step`.
-/

namespace DectMesh

section Orders

def packetTimeoutMs : Nat := 750
def packetMaxRetries : Nat := 5
def packetLargeDataTimeoutMs : Nat := 150

/-- The arguments of `tracker_add` in the `send_*` functions. -/
def Board.trackerRequest (board : Board) (pkt : AirPacket) :
    TrackerRequest where
  dstId :=
    match pkt with
    | .mesh (.pairRequest _) => board.deviceId
    | _ => pkt.hdr.deviceId
  prevId :=
    match pkt with
    | .mesh (.pairRequest _) => 0
    | _ => board.deviceId
  packetType := pkt.packetType
  timeoutMs :=
    match pkt with
    | .mesh (.pairRequest _) => 2 * packetTimeoutMs
    | .data (.largeDataChunk _) => packetLargeDataTimeoutMs
    | _ => packetTimeoutMs
  maxRetries :=
    match pkt with
    | .data (.largeDataChunk _) => 2 * packetMaxRetries
    | _ => packetMaxRetries
  payload := pkt.encode

/-- The tracker entry that an order removes. -/
def Enqueued.removes : Enqueued → Option UInt8
  | .data (.untrack trackingId) | .mesh (.untrack trackingId) =>
      some trackingId
  | _ => none

/-- What `handle_route_discovery_ack` and `handle_route_info_ack` remove. -/
def AirPacket.answers (deviceId : UInt16) : AirPacket → Option UInt8
  | .data (.routeDiscoveryAck pkt) =>
      if pkt.hdr.deviceId = deviceId ∧ knownDeviceType pkt.hdr.deviceType then
        some pkt.hdr.trackingId
      else
        none
  | .data (.routeInfoAck pkt) =>
      if pkt.hdr.deviceId = deviceId ∧ knownDeviceType pkt.hdr.deviceType then
        some pkt.hdr.trackingId
      else
        none
  | _ => none

/-- A command of the host, or a change of the PSRAM by another module. -/
def LiveEvent.isHost : LiveEvent → Bool
  | .reboot | .mesh (.serialNumber _) => true
  | .config (.cmdConfig _) | .config (.cmdConfigAck _)
  | .config (.hostAnswer _) | .config (.otherPending _)
  | .config (.elsewhere _ _) => true
  | .report (.cmdReport _) | .report (.release _ _ _)
  | .report (.elsewhere _ _) => true
  | .largeData (.cmdLdInit _) | .largeData (.cmdLdChunk _)
  | .largeData (.cmdLdInitAck _) | .largeData .cmdLdInitReady
  | .largeData (.cmdLdChunkAck _) | .largeData .cmdLdChunkReady
  | .largeData (.elsewhere _ _) => true
  | _ => false

/-- A handler of a button, or the reboot behind the first of them. -/
def LiveEvent.isButton : LiveEvent → Bool
  | .factoryReset | .reboot | .defaultButton1 | .defaultButton2 _ => true
  | _ => false

end Orders

/-- The calls of `main_sub_tick`; that of `tracker_tick` entry by entry. -/
inductive MainTick where
  | mesh
  | knownDevices
  | tracker (i : Fin trackerMaxEntries)
  | config
  | report
  | largeData
  deriving DecidableEq

/-- Where the main thread stands.  The states of `main_sub_run` are entered
with the host in between; `receiving` is its loop in `MAIN_SUB_RX_WINDOW`,
`lastBatch` the call behind it, each with the packets of the batch so far. -/
inductive MainSubState where
  | init
  | rxWindow
  | receiving (count : Nat)
  | lastBatch (count : Nat)
  | ticking (tick : MainTick)
  | txProcess
  | error
  deriving DecidableEq

theorem trackerMaxEntries_pos : 0 < trackerMaxEntries := by decide

/-- The call behind one of `main_sub_tick`. -/
def MainTick.next : MainTick → MainSubState
  | .mesh => .ticking .knownDevices
  | .knownDevices => .ticking (.tracker ⟨0, trackerMaxEntries_pos⟩)
  | .tracker i =>
      if more : i.val + 1 < trackerMaxEntries then
        .ticking (.tracker ⟨i.val + 1, more⟩)
      else
        .ticking .config
  | .config => .ticking .report
  | .report => .ticking .largeData
  | .largeData => .txProcess

/-- A board with all its variables; the log keeps what it handled. -/
structure Firmware where
  live : LiveBoard
  tracker : TrackerLog
  rx : RxQueues := {}
  tx : TxQueues := {}
  radio : Radio := {}
  state : MainSubState := .init
  log : List Handled := []

/-- What happens on a board; each occurrence brings the surroundings of the
handler that runs. -/
inductive FirmwareEvent where
  /-- `k_uptime_get` goes on. -/
  | elapse (ms : Nat)
  /-- The modem reports the control channel of a transmission. -/
  | pcc (position : Nat)
  /-- It reports the data channel, with what stands behind the data. -/
  | pdc (padding : List UInt8) (rssi2 : Int16) (occurrence : LiveOccurrence)
  /-- `MAIN_SUB_INIT`, after a reboot with the PSRAM and the UART as they
  are. -/
  | init (config report ld : Io) (occurrence : LiveOccurrence)
  /-- `MAIN_SUB_RX_WINDOW` begins, if `receive` succeeds. -/
  | receive (started : Bool)
  /-- A round of `main_sub_rx_process`, or its end. -/
  | rx (occurrence : LiveOccurrence)
  /-- The loop finds `operation_sem` given. -/
  | operationDone
  | tick (occurrence : LiveOccurrence)
  /-- `MAIN_SUB_TX_PROCESS`, with the calls of `transmit` that fail. -/
  | transmit (failures : List Bool)
  /-- `MAIN_SUB_ERROR`. -/
  | recover
  /-- Anything of `slm_at_run_cycle`. -/
  | host (occurrence : LiveOccurrence)
  /-- A handler of `buttons_thread`, which may run anywhere in the main loop. -/
  | button (occurrence : LiveOccurrence)

namespace Firmware

/-- A board without power. -/
def off (rom : Eeprom) (psram : Psram) : Firmware where
  live := .off rom
  tracker := .boot Tracker.crc16Ccitt psram

variable (board : Board) (fw : Firmware)

section Handlers

/-- One order of a handler: a `send_*` function, a removal or a line. -/
def place (order : Enqueued) : Firmware :=
  match order.packet with
  | some (pkt, false) =>
      { fw with tx := txQueuePut fw.tx pkt.encode pkt.hdr.priority }
  | some (pkt, true) =>
      let pkt := pkt.stamp fw.tracker.tracker.nextTrackingId
      { fw with
        tracker := fw.tracker.handle
          (if order.isTracked then
            .send (board.trackerRequest pkt)
          else
            .nextId)
        tx := txQueuePut fw.tx pkt.encode pkt.hdr.priority }
  | none =>
      match order.removes with
      | some trackingId =>
          { fw with
            tracker := fw.tracker.handle (.removeByTrackingId trackingId) }
      | none => fw

/-- A reboot clears the memory but for the PSRAM, and the clock; the tracker is
cleared by `tracker_init`. -/
def rebooted : Firmware where
  live := fw.live
  tracker := { fw.tracker with now := 0 }
  log := fw.log

/-- `tracker_init`. -/
def trackerInit : Firmware :=
  { fw with
    tracker :=
      { TrackerLog.boot fw.tracker.tracker.crc fw.tracker.tracker.psram with
        now := fw.tracker.now } }

/-- The orders of an event, with `tracker_init` behind the first ones if it
runs. -/
def placeAll (early : Nat) (starts : Bool) (orders : List Enqueued) :
    Firmware :=
  let first := (orders.take early).foldl (place board) fw
  (orders.drop early).foldl (place board)
    (if starts then first.trackerInit else first)

/-- The surroundings of an event, which takes place now. -/
def occurs (occurrence : LiveOccurrence) (event : LiveEvent) :
    LiveOccurrence :=
  { occurrence with now := fw.tracker.now, event := event }

/-- What a handler leaves behind, before its orders are followed. -/
def noted (live : LiveBoard) (occurrence : LiveOccurrence) : Firmware :=
  { fw with
    live := live
    log := fw.log ++ [{
      id := board.deviceId
      before := fw.live
      occurrence := occurrence }] }

/-- A handler runs, and may end in a reboot. -/
def handle (occurrence : LiveOccurrence) (event : LiveEvent) :
    Except Fault Firmware :=
  let occurrence := fw.occurs occurrence event
  match fw.live.step board occurrence with
  | .error fault => .error fault
  | .ok live =>
      let placed := (fw.noted board live occurrence).placeAll board
        (LiveNode.early board fw.live occurrence)
        (LiveNode.startsTracker event) live.out
      .ok (if live.mesh.isOk then placed else placed.rebooted)

end Handlers

section Callbacks

/-- `on_pdc`. -/
def onPdc (data : List UInt8) (rssi2 : Int16) (occurrence : LiveOccurrence) :
    Except Fault Firmware :=
  let srcId := fw.radio.lastSenderId
  let item := RxDataItem.ofEvent srcId rssi2 data
  let enqueued := rxQueuePut fw.rx item (item.data.bytes.getD 2 0)
  match data with
  | [] => .ok fw
  | packetType :: _ =>
      if controlPacket packetType then
        .ok { fw with rx := enqueued }
      else
        match fw.live.mesh with
        | .error _ => .ok fw
        | .ok s =>
            let known := (s.isKnownDevice
              (LiveBoard.meshEnv board occurrence) srcId).2
            { fw with rx := if known then enqueued else fw.rx }.handle board
              occurrence (.mesh (.heard srcId))

end Callbacks

section MainThread

/-- `process_rx`. -/
def processRx (item : RxDataItem) (occurrence : LiveOccurrence) :
    Except Fault Firmware :=
  match DectMesh.processRx item.data.bytes with
  | none => .ok fw
  | some pkt =>
      match pkt.received item.senderId item.rssi2 with
      | some event => fw.handle board occurrence event
      | none =>
          match pkt.answers board.deviceId with
          | some trackingId =>
              .ok { fw with
                tracker := fw.tracker.handle
                  (.removeByTrackingId trackingId) }
          | none => .ok fw

/-- A round of `main_sub_rx_process`; without a packet, or after the last one
of the batch, the thread is behind the call. -/
def rxProcess (count : Nat) (round : Nat → MainSubState)
    (behind : MainSubState) (occurrence : LiveOccurrence) :
    Except Fault Firmware :=
  if count < maxRxQueueProcessPerCycle then
    match rxQueueGet fw.rx with
    | none => .ok { fw with state := behind }
    | some (item, rx) =>
        { fw with rx := rx, state := round (count + 1) }.processRx board item
          occurrence
  else
    .ok { fw with state := behind }

/-- One entry of `tracker_tick`, with `tracker_default_expired_cb`. -/
def trackerVisit (i : Fin trackerMaxEntries) (occurrence : LiveOccurrence) :
    Except Fault Firmware :=
  let visited := { fw with tracker := fw.tracker.visit i }
  match fw.tracker.fired i with
  | none => .ok visited
  | some (entry, true) =>
      visited.handle board occurrence
        (.mesh (.trackerExhausted (entry.packetType = 0x07)
          (entry.packetType ≤ 0x04) entry.dstId))
  | some (entry, false) =>
      match Tracker.resent entry false with
      | none => .ok visited
      | some payload =>
          .ok { visited with
            tx := txQueuePut fw.tx payload (payload.getD 2 0) }

/-- One call of `main_sub_tick`. -/
def mainSubTick (tick : MainTick) (occurrence : LiveOccurrence) :
    Except Fault Firmware :=
  let fw := { fw with state := tick.next }
  match tick with
  | .mesh => fw.handle board occurrence (.mesh .meshTick)
  | .knownDevices => fw.handle board occurrence (.mesh .knownDevicesTick)
  | .tracker i => fw.trackerVisit board i occurrence
  | .config => fw.handle board occurrence (.config .tick)
  | .report => fw.handle board occurrence (.report .tick)
  | .largeData => fw.handle board occurrence (.largeData .tick)

/-- The loop of `MAIN_SUB_TX_PROCESS`; the flag tells that no transmission
failed.  The item of a transmission that fails is lost. -/
def txLoop (deviceId : UInt16) :
    Nat → List Bool → TxQueues → TxQueues × List Transmission × Bool
  | 0, _, queues => (queues, [], true)
  | count + 1, failures, queues =>
      match txQueueGet queues with
      | none => (queues, [], true)
      | some (item, queues) =>
          if failures.headD false then
            (queues, [], false)
          else
            let (queues, sent, whole) :=
              txLoop deviceId count failures.tail queues
            (queues, transmit deviceId item.frame 0 :: sent, whole)

/-- `MAIN_SUB_TX_PROCESS`. -/
def txProcess (failures : List Bool) : Firmware × List Transmission :=
  let (tx, sent, whole) :=
    txLoop board.deviceId maxTxQueueProcessPerCycle failures fw.tx
  ({ fw with
      tx := tx
      state := if whole then .rxWindow else .error }, sent)

/-- The state behind `main_sub_init`, which knows no other roles. -/
def initialized : MainSubState :=
  if board.deviceType = .unknown then .error else .rxWindow

/-- `MAIN_SUB_INIT`, which waits for a serial number. -/
def mainSubInit (config report ld : Io) (occurrence : LiveOccurrence) :
    Except Fault Firmware :=
  let ready := { fw with state := initialized board }
  match fw.live.mesh with
  | .error _ =>
      if board.deviceId = 0 then
        .ok fw
      else
        ready.handle board occurrence (.start config report ld)
  | .ok s =>
      if s.serialNumber = 0xFFFFFFFFFFFFFFFF ∨ s.serialNumber = 0 then
        .ok fw
      else
        ready.handle board occurrence .recovery

end MainThread

/-- The host is served between two calls of `main_sub_run`. -/
def servesHost : MainSubState → Bool
  | .init | .rxWindow | .txProcess | .error => true
  | .receiving _ | .lastBatch _ | .ticking _ => false

/-- One event, with what goes over the air.  An event of the main thread that
is not its next one does nothing. -/
def step (air : List Transmission) :
    FirmwareEvent → Except Fault (Firmware × List Transmission)
  | .elapse ms =>
      .ok ({ fw with tracker := fw.tracker.handle (.elapse ms) }, [])
  | .pcc position =>
      match air[position]? with
      | none => .ok (fw, [])
      | some t => .ok ({ fw with radio := onPcc t }, [])
  | .pdc padding rssi2 occurrence =>
      match fw.radio.arriving with
      | none => .ok (fw, [])
      | some t =>
          (fw.onPdc board (t.data ++ padding) rssi2 occurrence).map (·, [])
  | .init config report ld occurrence =>
      match fw.state with
      | .init =>
          (fw.mainSubInit board config report ld occurrence).map (·, [])
      | _ => .ok (fw, [])
  | .receive started =>
      match fw.state with
      | .rxWindow =>
          .ok ({ fw with
            state := if started then .receiving 0 else .error }, [])
      | _ => .ok (fw, [])
  | .rx occurrence =>
      match fw.state with
      | .receiving count =>
          (fw.rxProcess board count .receiving (.receiving 0)
            occurrence).map (·, [])
      | .lastBatch count =>
          (fw.rxProcess board count .lastBatch (.ticking .mesh)
            occurrence).map (·, [])
      | _ => .ok (fw, [])
  | .operationDone =>
      match fw.state with
      | .receiving 0 => .ok ({ fw with state := .lastBatch 0 }, [])
      | _ => .ok (fw, [])
  | .tick occurrence =>
      match fw.state with
      | .ticking tick =>
          (fw.mainSubTick board tick occurrence).map (·, [])
      | _ => .ok (fw, [])
  | .transmit failures =>
      match fw.state with
      | .txProcess => .ok (fw.txProcess board failures)
      | _ => .ok (fw, [])
  | .recover =>
      match fw.state with
      | .error => .ok ({ fw with state := .init }, [])
      | _ => .ok (fw, [])
  | .host occurrence =>
      if servesHost fw.state then
        (fw.handle board occurrence occurrence.event).map (·, [])
      else
        .ok (fw, [])
  | .button occurrence =>
      (fw.handle board occurrence occurrence.event).map (·, [])

end Firmware

/-- The boards of a network, and everything that went over the air. -/
structure FirmwareNet where
  boards : UInt16 → Firmware
  air : List Transmission := []

namespace FirmwareNet

/-- A network without power. -/
def off (rom : UInt16 → Eeprom) (psram : UInt16 → Psram) : FirmwareNet where
  boards id := .off (rom id) (psram id)

variable (roster : Roster) (net : FirmwareNet)

/-- An event of one board. -/
def step (event : UInt16 × FirmwareEvent) : Except Fault FirmwareNet :=
  match (net.boards event.1).step (roster.board event.1) net.air event.2 with
  | .error fault => .error fault
  | .ok (fw, sent) =>
      .ok {
        boards := Function.update net.boards event.1 fw
        air := net.air ++ sent }

/-- The host and the buttons do what they can do, the modules of a board stay
out of each other's PSRAM, and the tracker reads back what it stored or
something that fails its CRC-16. -/
def Admits (event : UInt16 × FirmwareEvent) : Prop :=
  let fw := net.boards event.1
  match event.2 with
  | .host occurrence =>
      occurrence.event.isHost = true ∧
        LiveNet.Separate fw.live occurrence.event
  | .button occurrence => occurrence.event.isButton = true
  | .tick _ =>
      ∀ i, fw.state = .ticking (.tracker i) →
        fw.tracker.tracker.Faithful i (fw.tracker.notes i).payload
  | _ => True

end FirmwareNet

end DectMesh
