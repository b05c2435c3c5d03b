import DectMesh.Mesh.Pairing

/-!
# Sessions

The handlers of `mesh_session.c`, the ticks, and the events of the mesh
layer.
-/

namespace DectMesh

namespace MeshPlane

section Handlers

variable (env : MeshEnv) (s : MeshPlane)

/-- The entry the gateway stores for a joined device. -/
def joinedRecord (pkt : JoinedNetwork) : MeshRecord where
  deviceType := pkt.deviceType
  deviceId := pkt.deviceId
  serialNum := pkt.serialNum
  version := pkt.version
  connectedDeviceId := pkt.connectedDeviceId
  hopNum := pkt.hopNum
  sensorCount := pkt.sensorCount

/-- Store a joined device that the table check let through. -/
def storeJoined (pkt : JoinedNetwork) (status : UInt8) : MeshPlane :=
  if status = statusSuccess then
    s.setStorage (s.storage.storageMeshAdd (joinedRecord pkt)).1
  else
    s

/-- `handle_joined_network`.  The gateway answers with what it found before
it stored the entry, whether or not that worked. -/
def handleJoinedNetwork (pkt : JoinedNetwork) (srcId : UInt16) : MeshPlane :=
  if !env.accepts pkt.hdr ∨ pkt.hdr.status ≠ statusSuccess ∨
      !isDownstreamType pkt.hdr.deviceType then
    s
  else
    match env.deviceType with
    | .gateway =>
        let status := s.checkMeshStorage pkt.deviceId
        let s := s.storeJoined pkt status
        (s.pingKnownDevices env pkt.deviceId status)
          |>.sendJoinedNetworkAck env pkt.deviceId pkt.deviceType srcId
            pkt.hdr.trackingId status
    | .anchor =>
        let s := s.sendJoinedNetworkAck env pkt.deviceId pkt.deviceType srcId
          pkt.hdr.trackingId statusSuccess
        s.sendJoinedNetwork env pkt
          (match s.storage.storageInfraGet 0 with
          | some entry => entry.deviceId
          | none => env.stray.senderId)
          statusSuccess
    | .sensor | .unknown => s

/-- `handle_joined_network_ack`. -/
def handleJoinedNetworkAck (pkt : JoinedNetworkAck) : MeshPlane :=
  if !env.accepts pkt.hdr then
    s
  else
    s.put (.untrack pkt.hdr.trackingId)

/-- The status of a `PING_DEVICE` that keeps the device it names. -/
def keepsDevice (status : UInt8) : Bool :=
  status = statusSuccess ∨ status = statusAlreadyExists

/-- `handle_ping_device` on the neighbour that the ping names: ping it once
more and forget it.  The id is read from the cell that another neighbour may
have moved to. -/
def forgetInfra (pkt : PingDevice) : MeshPlane :=
  match s.findInfra pkt.dstDeviceId with
  | none => s
  | some index =>
      let s := s.sendPingDevice env pkt.dstDeviceId pkt.dstDeviceId
        pkt.hdr.status
      let s := s.setStorage (s.storage.storageInfraRemove index).1
      { s with tempId :=
          (s.storage.infra.cell index noInfra).entry.deviceId }

/-- The same for a sensor neighbour. -/
def forgetSensor (pkt : PingDevice) : MeshPlane :=
  match s.findSensor pkt.dstDeviceId with
  | none => s
  | some index =>
      let s := s.sendPingDevice env pkt.dstDeviceId pkt.dstDeviceId
        pkt.hdr.status
      let s := s.setStorage (s.storage.storageSensorRemove index).1
      { s with tempId :=
          (s.storage.sensors.cell index noSensor).entry.deviceId }

/-- An anchor that holds the pinged sensor reports itself. -/
def reportSensorHolder (pkt : PingDevice) : MeshPlane :=
  if pkt.dstDeviceId ≠ 0 ∧ pkt.dstDeviceId ≠ 0xFFFF ∧
      s.findSensor pkt.dstDeviceId ≠ none then
    s.sendDeviceUpdated env (s.selfUpdate env 0xFFFF s.hopNum)
      s.parent.deviceId statusSuccess
  else
    s

/-- `update_infra_storage`, and the report of a changed hop number. -/
def refreshInfra (srcId : UInt16) (hopNum : UInt8) (rssi2 : Int16) :
    Except MeshPlane MeshPlane :=
  match s.updateInfraStorage env srcId hopNum rssi2 with
  | .error s => .error s
  | .ok (s, true) =>
      .ok (s.sendDeviceUpdated env (s.selfUpdate env 0xFFFF s.hopNum) srcId
        statusSuccess)
  | .ok (s, false) => .ok s

/-- Take over the mesh time and the number of devices. -/
def adoptNetwork (pkt : PingDevice) : MeshPlane :=
  { s.setMeshTime env pkt.timestamp with
    meshDevicesCount := pkt.totalDevices }

/-- `handle_ping_device` once the named device is dealt with. -/
def answerPing (pkt : PingDevice) (srcId : UInt16) (rssi2 : Int16) :
    Except MeshPlane MeshPlane :=
  match env.deviceType with
  | .gateway | .unknown => .ok s
  | .anchor =>
      let s := s.reportSensorHolder env pkt
      if !isUpstreamType pkt.hdr.deviceType then
        .ok s
      else
        match s.refreshInfra env srcId pkt.hopNum rssi2 with
        | .error s => .error s
        | .ok s =>
            if pkt.hdr.status = statusPingDevice then
              .ok (s.sendPingAck env srcId pkt.dstDeviceId
                pkt.hdr.trackingId statusPingDevice)
            else
              let s := (s.adoptNetwork env pkt).pingKnownDevices env
                pkt.dstDeviceId pkt.hdr.status
              .ok (s.sendPingAck env srcId pkt.dstDeviceId
                pkt.hdr.trackingId statusSuccess)
  | .sensor =>
      if !isUpstreamType pkt.hdr.deviceType then
        .ok s
      else
        match (s.setMeshTime env pkt.timestamp).updateInfraStorage env srcId
            pkt.hopNum rssi2 with
        | .error s => .error s
        | .ok (s, _) =>
            .ok (s.sendPingAck env srcId pkt.dstDeviceId pkt.hdr.trackingId
              statusSuccess)

/-- `handle_ping_device`.  The test `id != 0 || id != 0xFFFF` always holds. -/
def handlePingDevice (pkt : PingDevice) (srcId : UInt16) (rssi2 : Int16) :
    Except MeshPlane MeshPlane :=
  if !env.accepts pkt.hdr then
    .ok s
  else
    let s :=
      if keepsDevice pkt.hdr.status then
        s
      else
        (s.forgetInfra env pkt).forgetSensor env pkt
    if pkt.dstDeviceId ≠ env.deviceId then
      s.answerPing env pkt srcId rssi2
    else if keepsDevice pkt.hdr.status then
      { s with processNextRequest := true }.answerPing env pkt srcId rssi2
    else
      .ok (s.sendPingAck env srcId pkt.dstDeviceId pkt.hdr.trackingId
        statusSuccess).factoryReset

/-- `handle_ping_ack`. -/
def handlePingAck (pkt : PingAck) (srcId : UInt16) (rssi2 : Int16) :
    Except MeshPlane MeshPlane :=
  if !env.accepts pkt.hdr then
    .ok s
  else
    let s := s.put (.untrack pkt.hdr.trackingId)
    if s.tempId ≠ 0xFFFF ∧ s.tempId = srcId then
      .ok { s with tempId := 0xFFFF }
    else
      match env.deviceType with
      | .gateway =>
          if pkt.hdr.deviceType = DeviceType.anchor.code then
            (s.updateInfraStorage env srcId pkt.hopNum rssi2).map Prod.fst
          else if pkt.hdr.deviceType = DeviceType.sensor.code then
            .ok (s.updateSensorStorage srcId pkt.version)
          else
            .ok s
      | .anchor =>
          if pkt.hdr.deviceType = DeviceType.anchor.code then
            s.refreshInfra env srcId pkt.hopNum rssi2
          else if pkt.hdr.deviceType = DeviceType.sensor.code then
            .ok (s.updateSensorStorage srcId pkt.version)
          else
            .ok s
      | .sensor | .unknown => .ok s

/-- `handle_device_updated` on the gateway.  The entry that is looked up and
updated is the radio sender's, the one that is removed the named device's. -/
def applyUpdate (pkt : DeviceUpdated) (srcId : UInt16) : MeshPlane × UInt8 :=
  let status := s.checkMeshStorage srcId
  if status ≠ statusAlreadyExists then
    (s, statusNotFound)
  else if pkt.hdr.status = statusSuccess then
    s.updateMeshStorage srcId pkt
  else if pkt.hdr.status = statusDeviceRemoved then
    match s.findMesh pkt.deviceId with
    | none => (s, statusNotFound)
    | some index =>
        match s.storage.storageMeshRemove index with
        | (storage, some _) => (s.setStorage storage, statusFailure)
        | (storage, none) => (s.setStorage storage, statusSuccess)
  else
    (s, status)

/-- `handle_device_updated` on an anchor. -/
def forwardUpdate (pkt : DeviceUpdated) (srcId : UInt16) : MeshPlane × UInt8 :=
  if s.parent.deviceId ≠ srcId then
    (s.sendDeviceUpdated env pkt s.parent.deviceId pkt.hdr.status,
      statusSuccess)
  else
    match s.infra[1]? with
    | some backup =>
        (s.sendDeviceUpdated env pkt backup.entry.deviceId pkt.hdr.status,
          statusSuccess)
    | none => (s, statusNoRoute)

/-- `handle_device_updated`. -/
def handleDeviceUpdated (pkt : DeviceUpdated) (srcId : UInt16) : MeshPlane :=
  if !env.accepts pkt.hdr ∨ !isDownstreamType pkt.hdr.deviceType then
    s
  else
    match env.deviceType with
    | .gateway =>
        let (s, status) := s.applyUpdate pkt srcId
        s.sendDeviceUpdatedAck env pkt.hdr.deviceId pkt.hdr.deviceType srcId
          pkt.hdr.trackingId status
    | .anchor =>
        let (s, status) := s.forwardUpdate env pkt srcId
        s.sendDeviceUpdatedAck env pkt.hdr.deviceId pkt.hdr.deviceType srcId
          pkt.hdr.trackingId status
    | .sensor | .unknown => s

/-- `handle_device_updated_ack`. -/
def handleDeviceUpdatedAck (pkt : DeviceUpdatedAck) (srcId : UInt16) :
    Except MeshPlane MeshPlane :=
  if !env.accepts pkt.hdr then
    .ok s
  else
    let s := s.put (.untrack pkt.hdr.trackingId)
    if env.deviceType ≠ .anchor ∨ !isUpstreamType pkt.hdr.deviceType ∨
        pkt.hdr.status ≠ statusNoRoute then
      .ok s
    else
      match s.infra[1]? with
      | some backup =>
          .ok (s.sendDeviceUpdated env (s.selfUpdate env 0xFFFF s.hopNum)
            (if s.parent.deviceId = srcId then
              backup.entry.deviceId
            else
              s.parent.deviceId)
            statusSuccess)
      | none => s.dropInfra env srcId

/-- `mesh_tick`. -/
def meshTick : MeshPlane :=
  let s := s.meshPairingTick env
  if env.deviceType ≠ .anchor then
    s
  else
    let s := pingWhere env
      (fun device =>
        2 * pingTimeoutMs < env.now - device.lastCommMs ∧
          !device.isPingPacketSent)
      0 statusPingDevice s.infra 0 s
    if s.storage.infra.count < maxAnchors ∧
        3 * pingTimeoutMs < env.now - s.lastPairRequestSentMs then
      { s.sendPairRequest env false with lastPairRequestSentMs := env.now }
    else
      s

/-- `tracker_default_expired_cb` for an entry without retries left. -/
def trackerExhausted (isPing isPairing : Bool) (dstId : UInt16) :
    Except MeshPlane MeshPlane :=
  let s :=
    if isPing ∧ dstId = s.tempId then { s with tempId := 0xFFFF } else s
  if isPairing then
    .ok s
  else
    s.knownDeviceUpdateCommTime env dstId

end Handlers

/-- The events of the mesh layer. -/
inductive Event where
  | pairRequest (pkt : PairRequest) (srcId : UInt16)
  | pairResponse (pkt : PairResponse) (srcId : UInt16) (rssi2 : Int16)
  | pairConfirm (pkt : PairConfirm) (srcId : UInt16) (rssi2 : Int16)
  | pairAck (pkt : PairAck) (srcId : UInt16) (rssi2 : Int16)
  | repairRequest (pkt : RepairRequest) (srcId : UInt16) (rssi2 : Int16)
  | repairResponse (pkt : RepairResponse) (srcId : UInt16) (rssi2 : Int16)
  | joinedNetwork (pkt : JoinedNetwork) (srcId : UInt16)
  | joinedNetworkAck (pkt : JoinedNetworkAck)
  | pingDevice (pkt : PingDevice) (srcId : UInt16) (rssi2 : Int16)
  | pingAck (pkt : PingAck) (srcId : UInt16) (rssi2 : Int16)
  | deviceUpdated (pkt : DeviceUpdated) (srcId : UInt16)
  | deviceUpdatedAck (pkt : DeviceUpdatedAck) (srcId : UInt16)
  /-- A packet of any kind arrives from this neighbour. -/
  | heard (srcId : UInt16)
  | meshTick
  | knownDevicesTick
  | trackerExhausted (isPing isPairing : Bool) (dstId : UInt16)
  /-- The host sets the serial number. -/
  | serialNumber (serialNum : UInt64)

/-- The handler of an event. -/
def handle (s : MeshPlane) (env : MeshEnv) :
    Event → Except MeshPlane MeshPlane
  | .pairRequest pkt srcId => .ok (s.handlePairRequest env pkt srcId)
  | .pairResponse pkt srcId rssi2 =>
      .ok (s.handlePairResponse env pkt srcId rssi2)
  | .pairConfirm pkt srcId rssi2 => s.handlePairConfirm env pkt srcId rssi2
  | .pairAck pkt srcId rssi2 => s.handlePairAck env pkt srcId rssi2
  | .repairRequest pkt srcId rssi2 =>
      s.handleRepairRequest env pkt srcId rssi2
  | .repairResponse pkt srcId rssi2 =>
      s.handleRepairResponse env pkt srcId rssi2
  | .joinedNetwork pkt srcId => .ok (s.handleJoinedNetwork env pkt srcId)
  | .joinedNetworkAck pkt => .ok (s.handleJoinedNetworkAck env pkt)
  | .pingDevice pkt srcId rssi2 => s.handlePingDevice env pkt srcId rssi2
  | .pingAck pkt srcId rssi2 => s.handlePingAck env pkt srcId rssi2
  | .deviceUpdated pkt srcId => .ok (s.handleDeviceUpdated env pkt srcId)
  | .deviceUpdatedAck pkt srcId => s.handleDeviceUpdatedAck env pkt srcId
  | .heard srcId => .ok (s.isKnownDevice env srcId).1
  | .meshTick => .ok (s.meshTick env)
  | .knownDevicesTick => .ok (s.knownDevicesTick env)
  | .trackerExhausted isPing isPairing dstId =>
      s.trackerExhausted env isPing isPairing dstId
  | .serialNumber serialNum => .ok (s.setSerialNumber env serialNum)

end MeshPlane

end DectMesh
