import DectMesh.Mesh.Model

/-!
# Pairing

The handlers and the tick of `mesh_pairing.c`.
-/

namespace DectMesh

namespace MeshPlane

section Send

variable (env : MeshEnv) (s : MeshPlane)

/-- `send_pair_response`. -/
def sendPairResponse (dstId : UInt16) (trackingId status : UInt8) :
    MeshPlane :=
  s.put (.reply (.pairResponse
    { hdr := env.replyHeader dstId packetPriorityHigh trackingId status
      hopNum := s.hopNum }))

/-- `send_pair_confirm`. -/
def sendPairConfirm (dstId : UInt16) (status : UInt8) : MeshPlane :=
  s.put (.request (.pairConfirm
    { hdr := env.requestHeader dstId packetPriorityHigh status
      hopNum := s.hopNum }))

/-- `send_pair_ack`. -/
def sendPairAck (dstId : UInt16) (trackingId status : UInt8) : MeshPlane :=
  s.put (.reply (.pairAck
    { hdr := env.replyHeader dstId packetPriorityHigh trackingId status
      hopNum := s.hopNum }))

/-- `send_repair_request`. -/
def sendRepairRequest (dstId : UInt16) : MeshPlane :=
  s.put (.request (.repairRequest
    { hdr := env.requestHeader dstId packetPriorityHigh statusSuccess
      randomNum := env.random
      hash := computePairHash env.deviceId env.random
      version := 0
      hopNum := s.hopNum }))

/-- `send_repair_response`. -/
def sendRepairResponse (dstId : UInt16) (trackingId status : UInt8) :
    MeshPlane :=
  s.put (.reply (.repairResponse
    { hdr := env.replyHeader dstId packetPriorityHigh trackingId status
      version := 0
      hopNum := s.hopNum }))

end Send

section Candidates

variable (env : MeshEnv) (s : MeshPlane)

/-- The test of `sort_candidates`. -/
def swapCandidates (left right : Candidate) : Bool :=
  right.hopNum < left.hopNum ∨
    left.hopNum = right.hopNum ∧ left.rssi2 < right.rssi2

/-- `sort_candidates`: the first `resp_candidate_count` cells. -/
def sortCandidates : MeshPlane :=
  let count := s.respCandidateCount.toNat
  { s with respCandidates :=
      BubbleSort.sort swapCandidates (s.respCandidates.take count) ++
        s.respCandidates.drop count }

/-- `resp_candidates[idx]`.  The index is negative when the count was cleared
while candidates were left. -/
def candidateAt (idx : Int) : Candidate :=
  if idx < 0 then env.stray else s.respCandidates[idx.toNat]?.getD {}

/-- `select_and_confirm`. -/
def selectAndConfirm (idx : Int) : MeshPlane :=
  let candidate := s.candidateAt env idx
  if s.checkInfraStorage candidate.senderId false = statusStorageFull then
    { s with respCandidateCount := 0 }
  else if s.hopNum = 0xFF ∧ candidate.hopNum = 0xFF then
    { s with processNextRequest := true }
  else
    let s := s.sendPairConfirm env candidate.senderId statusSuccess
    if env.deviceType = .sensor then
      { s with respCandidateCount := 0 }
    else
      s

/-- The collection window at the end of `handle_pair_response`. -/
def addCandidate (candidate : Candidate) : MeshPlane :=
  let s :=
    if s.collecting then
      s
    else
      { s with
        collecting := true
        respCandidateCount := 0
        collectTimer :=
          (NbTimeout.init pairResponseCollectWindowMs 0).start env.now }
  let count := s.respCandidateCount.toNat
  if count < maxPairResponseCandidates then
    if (s.respCandidates.take count).any
        fun known => known.senderId = candidate.senderId then
      s
    else
      { s with
        respCandidates :=
          s.respCandidates.take count ++
            candidate :: s.respCandidates.drop (count + 1)
        respCandidateCount := count + 1 }
  else
    s

end Candidates

section Handlers

variable (env : MeshEnv) (s : MeshPlane)

/-- The check of the table that a kind of neighbour belongs to. -/
def checkStorage (isInfra : Bool) (srcId : UInt16) : UInt8 :=
  if isInfra then
    s.checkInfraStorage srcId false
  else
    s.checkSensorStorage srcId

/-- `handle_pair_request`. -/
def handlePairRequest (pkt : PairRequest) (srcId : UInt16) : MeshPlane :=
  if env.deviceType = .sensor ∨ !isDownstreamType pkt.hdr.deviceType then
    s
  else
    let status :=
      s.checkStorage (pkt.hdr.deviceType = DeviceType.anchor.code) srcId
    if status = statusAlreadyExists ∧
        pkt.hdr.deviceType = DeviceType.anchor.code then
      s
    else if pkt.hash ≠ computePairHash srcId pkt.randomNum then
      s.sendPairResponse env srcId pkt.hdr.trackingId statusAuthFailed
    else if env.deviceType = .unknown then
      s
    else
      let status :=
        if status = statusSuccess ∧ maxDevices ≤ s.meshDevicesCount.toNat then
          statusStorageFull
        else
          status
      s.sendPairResponse env srcId pkt.hdr.trackingId status

/-- `handle_pair_response`. -/
def handlePairResponse
    (pkt : PairResponse) (srcId : UInt16) (rssi2 : Int16) : MeshPlane :=
  if !env.accepts pkt.hdr then
    s
  else if s.hopNum = 0xFF ∧
      (pkt.hopNum = 0xFF ∨ maxDepth ≤ pkt.hopNum.toNat) then
    s
  else
    let s := s.put (.untrack pkt.hdr.trackingId)
    if pkt.hdr.status ≠ statusSuccess ∧
        pkt.hdr.status ≠ statusAlreadyExists then
      s
    else
      let candidate :=
        { senderId := srcId
          deviceType := pkt.hdr.deviceType
          hopNum := pkt.hopNum
          rssi2 := rssi2 }
      match env.deviceType with
      | .gateway | .unknown => s
      | .anchor =>
          if s.checkStorage (isUpstreamType pkt.hdr.deviceType) srcId =
              statusAlreadyExists then
            s.sendRepairRequest env srcId
          else
            s.addCandidate env candidate
      | .sensor =>
          if !isUpstreamType pkt.hdr.deviceType then
            s
          else if s.checkInfraStorage srcId true = statusAlreadyExists ∨
              pkt.hdr.status = statusAlreadyExists then
            s.sendRepairRequest env srcId
          else
            s.addCandidate env candidate

/-- The entry of an anchor that confirmed a pairing; without a hop number of
its own it is one behind this board. -/
def confirmedInfra (pkt : PairConfirm) (srcId : UInt16) (rssi2 : Int16) :
    InfraRecord where
  deviceType := pkt.hdr.deviceType
  deviceId := srcId
  hopNum := if pkt.hopNum = 0xFF then s.hopNum + 1 else pkt.hopNum
  version := pkt.version
  rssi2 := rssi2

/-- Add an infrastructure neighbour and update the board's own hop number;
`false` when the entry could not be stored. -/
def addInfra (entry : InfraRecord) : Except MeshPlane (MeshPlane × Bool) :=
  match s.storage.storageInfraAdd entry with
  | (storage, some _) => .ok (s.setStorage storage, false)
  | (storage, none) =>
      match (s.setStorage storage).deviceInfoUpdate env with
      | .error s => .error s
      | .ok s => .ok (s, true)

/-- Add a sensor neighbour; `false` when the entry could not be stored. -/
def addSensor (deviceId version : UInt16) : MeshPlane × Bool :=
  match s.storage.storageSensorAdd
      { deviceId := deviceId, version := version } with
  | (storage, some _) => (s.setStorage storage, false)
  | (storage, none) => (s.setStorage storage, true)

/-- The part `handle_pair_confirm` and `handle_repair_request` share: store
a new neighbour and hand the answer's status to `answer`. -/
def admitNeighbour
    (deviceType : UInt8) (srcId version : UInt16) (wanted : Bool)
    (entry : InfraRecord) (answer : MeshPlane → UInt8 → MeshPlane) :
    Except MeshPlane MeshPlane :=
  if deviceType = DeviceType.anchor.code then
    let status := s.checkInfraStorage srcId false
    if status = statusSuccess ∧ wanted then
      match s.addInfra env entry with
      | .error s => .error s
      | .ok (s, false) => .ok s
      | .ok (s, true) => .ok (answer s status)
    else
      .ok (answer s status)
  else if deviceType = DeviceType.sensor.code then
    let status := s.checkSensorStorage srcId
    if status = statusSuccess then
      match s.addSensor srcId version with
      | (s, false) => .ok s
      | (s, true) => .ok (answer s status)
    else
      .ok (answer s status)
  else
    .ok s

/-- `handle_pair_confirm`. -/
def handlePairConfirm
    (pkt : PairConfirm) (srcId : UInt16) (rssi2 : Int16) :
    Except MeshPlane MeshPlane :=
  if !env.accepts pkt.hdr ∨ pkt.hdr.status ≠ statusSuccess then
    .ok s
  else
    match env.deviceType with
    | .gateway | .anchor =>
        s.admitNeighbour env pkt.hdr.deviceType srcId pkt.version true
          (s.confirmedInfra pkt srcId rssi2)
          fun s status => s.sendPairAck env srcId pkt.hdr.trackingId status
    | .sensor | .unknown => .ok s

/-- The entry of a neighbour that acknowledged a pairing. -/
def pairedInfra (pkt : PairAck) (srcId : UInt16) (rssi2 : Int16) :
    InfraRecord where
  deviceType := pkt.hdr.deviceType
  deviceId := srcId
  hopNum := pkt.hopNum
  version := pkt.version
  rssi2 := rssi2

/-- The `jn_pkt` of `build_joined_network`. -/
def joinedPacket (srcId : UInt16) : JoinedNetwork where
  deviceType := env.deviceType.code
  deviceId := env.deviceId
  serialNum := s.serialNumber
  version := 0
  connectedDeviceId :=
    if env.deviceType = .anchor then s.parent.deviceId else srcId
  hopNum := if env.deviceType = .anchor then s.hopNum else 0xFF
  sensorCount := if env.deviceType = .anchor then s.sensorCount else 0xFF

/-- `build_joined_network`, called on an anchor or a sensor. -/
def buildJoinedNetwork
    (pkt : PairAck) (srcId : UInt16) (rssi2 : Int16) :
    Except MeshPlane MeshPlane :=
  match s.addInfra env (pairedInfra pkt srcId rssi2) with
  | .error s => .error s
  | .ok (s, false) => .ok s
  | .ok (s, true) =>
      let s :=
        if env.deviceType = .sensor then
          { s with connectedDeviceId := srcId }
        else
          s
      .ok
        (if s.storage.infra.count = 1 then
          s.sendJoinedNetwork env (s.joinedPacket env srcId) srcId
            statusSuccess
        else
          s)

/-- `handle_pair_ack`.  On an anchor a packet from a sensor is looked up
among the sensors but stored among the infrastructure neighbours. -/
def handlePairAck (pkt : PairAck) (srcId : UInt16) (rssi2 : Int16) :
    Except MeshPlane MeshPlane :=
  if !env.accepts pkt.hdr then
    .ok s
  else
    let s := s.put (.untrack pkt.hdr.trackingId)
    if pkt.hdr.status ≠ statusSuccess ∧
        pkt.hdr.status ≠ statusAlreadyExists then
      .ok s
    else
      match env.deviceType with
      | .gateway | .unknown => .ok s
      | .anchor =>
          if s.checkStorage (isUpstreamType pkt.hdr.deviceType) srcId =
              statusSuccess then
            s.buildJoinedNetwork env pkt srcId rssi2
          else
            .ok s
      | .sensor =>
          if isUpstreamType pkt.hdr.deviceType ∧
              s.checkInfraStorage srcId true = statusSuccess then
            s.buildJoinedNetwork env pkt srcId rssi2
          else
            .ok s

/-- The entry of an anchor that asked for a repair.  The source assigns
`pkt->hop_num == pkt->hop_num`, which is one. -/
def repairedInfra (pkt : RepairRequest) (srcId : UInt16) (rssi2 : Int16) :
    InfraRecord where
  deviceType := pkt.hdr.deviceType
  deviceId := srcId
  hopNum := if pkt.hopNum = pkt.hopNum then 1 else 0
  version := pkt.version
  rssi2 := rssi2

/-- `handle_repair_request`. -/
def handleRepairRequest
    (pkt : RepairRequest) (srcId : UInt16) (rssi2 : Int16) :
    Except MeshPlane MeshPlane :=
  if !env.accepts pkt.hdr then
    .ok s
  else if pkt.hash ≠ computePairHash srcId pkt.randomNum then
    .ok (s.sendRepairResponse env srcId pkt.hdr.trackingId statusAuthFailed)
  else
    match env.deviceType with
    | .gateway | .anchor =>
        s.admitNeighbour env pkt.hdr.deviceType srcId pkt.version
          (pkt.hopNum ≠ 0xFF) (repairedInfra pkt srcId rssi2)
          fun s status =>
            s.sendRepairResponse env srcId pkt.hdr.trackingId status
    | .sensor | .unknown => .ok s

/-- The entry of a neighbour that answered a repair. -/
def answeredInfra (pkt : RepairResponse) (srcId : UInt16) (rssi2 : Int16) :
    InfraRecord where
  deviceType := pkt.hdr.deviceType
  deviceId := srcId
  hopNum := pkt.hopNum
  version := pkt.version
  rssi2 := rssi2

/-- Forget a neighbour and update the board's own hop number. -/
def dropInfra (deviceId : UInt16) : Except MeshPlane MeshPlane :=
  match s.findInfra deviceId with
  | none => .ok s
  | some index =>
      (s.setStorage (s.storage.storageInfraRemove index).1)
        |>.deviceInfoUpdate env

/-- `handle_repair_response`.  A sensor looks up the packet's destination,
which is its own id. -/
def handleRepairResponse
    (pkt : RepairResponse) (srcId : UInt16) (rssi2 : Int16) :
    Except MeshPlane MeshPlane :=
  if !env.accepts pkt.hdr then
    .ok s
  else
    let s := s.put (.untrack pkt.hdr.trackingId)
    if pkt.hdr.status ≠ statusSuccess ∧
        pkt.hdr.status ≠ statusAlreadyExists ∧
          pkt.hdr.status ≠ statusStorageFull then
      .ok s
    else if !isUpstreamType pkt.hdr.deviceType then
      .ok s
    else
      match env.deviceType with
      | .gateway | .unknown => .ok s
      | .anchor =>
          if pkt.hdr.status = statusStorageFull then
            s.dropInfra env srcId
          else
            let status := s.checkInfraStorage srcId false
            if status = statusAlreadyExists then
              (s.updateInfraStorage env srcId pkt.hopNum rssi2).map Prod.fst
            else if status = statusSuccess then
              (s.addInfra env (answeredInfra pkt srcId rssi2)).map Prod.fst
            else
              .ok s
      | .sensor =>
          let status := s.checkInfraStorage pkt.hdr.deviceId true
          if status = statusAlreadyExists then
            (s.updateInfraStorage env pkt.hdr.deviceId pkt.hopNum rssi2).map
              Prod.fst
          else if status = statusSuccess then
            .ok (s.setStorage (s.storage.storageInfraAdd
              (answeredInfra pkt srcId rssi2)).1)
          else
            .ok s

/-- `mesh_pairing_tick` with a candidate left to confirm. -/
def confirmNext : MeshPlane :=
  if s.processNextRequest ∧ 0 < s.respCandidateIdx then
    let s := { s with processNextRequest := false }
    let s := s.selectAndConfirm env
      (s.respCandidateCount - s.respCandidateIdx)
    { s with respCandidateIdx := s.respCandidateIdx - 1 }
  else
    s

/-- `mesh_pairing_tick` at the end of the collection window. -/
def closeCollection : MeshPlane :=
  if s.collecting ∧ s.collectTimer.expired env.now then
    let s :=
      { s with
        collecting := false
        collectTimer := s.collectTimer.stop }.sortCandidates
    let available : Int := (maxAnchors : Int) - s.storage.infra.count
    if available ≤ 0 then
      { s with respCandidateCount := 0, respCandidateIdx := 0 }
    else
      { s with
        respCandidateCount := min s.respCandidateCount available
        respCandidateIdx := min s.respCandidateCount available
        processNextRequest := true }
  else
    s

/-- `mesh_pairing_tick`. -/
def meshPairingTick : MeshPlane :=
  if env.deviceType = .gateway then
    s
  else
    (s.confirmNext env).closeCollection env

end Handlers

end MeshPlane

end DectMesh
