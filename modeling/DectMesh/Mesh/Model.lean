import DectMesh.Mesh.Storage

/-!
# The mesh layer

The packets of pairing and session, the state they change, and the shared
functions of `product_info.c` and `mesh.c`.
-/

namespace DectMesh

def firmwareVersion : UInt16 := 100
def pingTimeoutMs : Nat := 30 * 1000
def pairResponseCollectWindowMs : Nat := 3000
def maxCommFailures : UInt8 := 3
def maxPairResponseCandidates : Nat := 16

def statusStorageFull : UInt8 := 0x0D
def statusDeviceRemoved : UInt8 := 0x0E
def statusAuthFailed : UInt8 := 0x0F
def statusPingDevice : UInt8 := 0x12

structure PairRequest where
  hdr : PacketHeader := {}
  randomNum : UInt32
  hash : UInt32
  deriving DecidableEq

structure PairResponse where
  hdr : PacketHeader := {}
  hopNum : UInt8
  deriving DecidableEq

structure PairConfirm where
  hdr : PacketHeader := {}
  version : UInt16 := 0
  hopNum : UInt8
  deriving DecidableEq

structure PairAck where
  hdr : PacketHeader := {}
  version : UInt16 := 0
  hopNum : UInt8
  deriving DecidableEq

structure JoinedNetwork where
  hdr : PacketHeader := {}
  deviceType : UInt8
  deviceId : UInt16
  serialNum : UInt64
  version : UInt16
  connectedDeviceId : UInt16
  hopNum : UInt8
  sensorCount : UInt8
  deriving DecidableEq

structure JoinedNetworkAck where
  hdr : PacketHeader := {}
  dstDeviceId : UInt16
  dstDeviceType : UInt8
  deriving DecidableEq

structure PingDevice where
  hdr : PacketHeader := {}
  dstDeviceId : UInt16
  hopNum : UInt8
  version : UInt16
  totalDevices : UInt16
  timestamp : UInt64
  deriving DecidableEq

structure PingAck where
  hdr : PacketHeader := {}
  dstDeviceId : UInt16
  hopNum : UInt8
  version : UInt16
  timestamp : UInt64
  deriving DecidableEq

structure DeviceUpdated where
  hdr : PacketHeader := {}
  deviceType : UInt8
  deviceId : UInt16
  serialNum : UInt64
  version : UInt16
  connectedDeviceId : UInt16
  hopNum : UInt8
  sensorCount : UInt8
  deriving DecidableEq

structure DeviceUpdatedAck where
  hdr : PacketHeader := {}
  dstDeviceId : UInt16
  dstDeviceType : UInt8
  deriving DecidableEq

structure RepairRequest where
  hdr : PacketHeader := {}
  randomNum : UInt32
  hash : UInt32
  version : UInt16
  hopNum : UInt8
  deriving DecidableEq

structure RepairResponse where
  hdr : PacketHeader := {}
  version : UInt16
  hopNum : UInt8
  deriving DecidableEq

inductive MeshPacket where
  | pairRequest (pkt : PairRequest)
  | pairResponse (pkt : PairResponse)
  | pairConfirm (pkt : PairConfirm)
  | pairAck (pkt : PairAck)
  | joinedNetwork (pkt : JoinedNetwork)
  | joinedNetworkAck (pkt : JoinedNetworkAck)
  | pingDevice (pkt : PingDevice)
  | pingAck (pkt : PingAck)
  | deviceUpdated (pkt : DeviceUpdated)
  | deviceUpdatedAck (pkt : DeviceUpdatedAck)
  | repairRequest (pkt : RepairRequest)
  | repairResponse (pkt : RepairResponse)
  deriving DecidableEq

/-- What the mesh layer asks of the tracker and the radio, as `Action` is for
the data planes. -/
inductive MeshAction where
  | request (pkt : MeshPacket)
  | announce (pkt : MeshPacket)
  | reply (pkt : MeshPacket)
  | untrack (trackingId : UInt8)
  deriving DecidableEq

/-- `struct response_candidate`. -/
structure Candidate where
  senderId : UInt16 := 0
  deviceType : UInt8 := 0
  hopNum : UInt8 := 0
  rssi2 : Int16 := 0
  deriving DecidableEq

/-- The board and what the event at hand brings.  `stray` is what reads of
memory that nothing set find: in front of the candidate array, and in a local
entry. -/
structure MeshEnv where
  deviceType : DeviceType
  deviceId : UInt16
  now : Nat := 0
  random : UInt32 := 0
  stray : Candidate := {}

/-- The state of `storage.c`, `product_info.c`, `mesh.c` and
`mesh_pairing.c`. -/
structure MeshPlane where
  storage : Storage := {}
  hopNum : UInt8 := 0xFF
  connectedDeviceId : UInt16 := 0xFFFF
  serialNumber : UInt64 := 0
  meshDevicesCount : UInt16 := 0
  tempId : UInt16 := 0xFFFF
  lastPairRequestSentMs : Nat := 0
  meshTimeOffset : UInt64 := 0
  respCandidates : List Candidate := []
  respCandidateCount : Int := 0
  respCandidateIdx : Int := 0
  collectTimer : NbTimeout := {}
  collecting : Bool := false
  processNextRequest : Bool := false
  out : List MeshAction := []

namespace MeshEnv

variable (env : MeshEnv)

/-- The two checks at the head of the handlers: the packet is addressed to
this board and its sender names a known device type. -/
def accepts (hdr : PacketHeader) : Bool :=
  hdr.deviceId = env.deviceId ∧ knownDeviceType hdr.deviceType

/-- The header of a packet that starts an exchange. -/
def requestHeader (dstId : UInt16) (priority status : UInt8) :
    PacketHeader where
  deviceType := env.deviceType.code
  priority := priority
  deviceId := dstId
  status := status

/-- The header of an answer. -/
def replyHeader (dstId : UInt16) (priority trackingId status : UInt8) :
    PacketHeader :=
  { env.requestHeader dstId priority status with trackingId := trackingId }

end MeshEnv

namespace MeshPlane

/-- What stands in an array cell that was never written. -/
def noInfra : Infra := { entry := {} }

/-- What stands in a sensor cell that was never written. -/
def noSensor : Sensor := { entry := {} }

section Tables

variable (s : MeshPlane)

def put (action : MeshAction) : MeshPlane :=
  { s with out := s.out ++ [action] }

def setStorage (storage : Storage) : MeshPlane := { s with storage := storage }

@[simp]
theorem put_storage (action : MeshAction) :
    (s.put action).storage = s.storage := rfl

@[simp]
theorem setStorage_storage (storage : Storage) :
    (s.setStorage storage).storage = storage := rfl

@[simp]
theorem setStorage_out (storage : Storage) :
    (s.setStorage storage).out = s.out := rfl

@[simp]
theorem setStorage_setStorage (first second : Storage) :
    (s.setStorage first).setStorage second = s.setStorage second := rfl

/-- The entries `infra_devices[0..infra_count)`. -/
abbrev infra : List Infra := s.storage.infra.live

/-- The entries `sensor_devices[0..sensor_count)`. -/
abbrev sensors : List Sensor := s.storage.sensors.live

/-- The entries `mesh_devices[0..mesh_count)`. -/
abbrev mesh : List MeshEntry := s.storage.mesh.live

/-- `infra_devices[0].entry`, read without a look at the count. -/
def parent : InfraRecord := (s.storage.infra.cell 0 noInfra).entry

/-- `storage_sensor_count`, as the packets carry it. -/
def sensorCount : UInt8 := UInt8.ofNat s.storage.sensors.count

/-- The loops over `infra_devices` that compare the device id. -/
def findInfra (deviceId : UInt16) : Option Nat :=
  s.infra.findIdx? fun device => device.entry.deviceId = deviceId

/-- The loops over `sensor_devices` that compare the device id. -/
def findSensor (deviceId : UInt16) : Option Nat :=
  s.sensors.findIdx? fun device => device.entry.deviceId = deviceId

/-- The loops over `mesh_devices` that compare the device id. -/
def findMesh (deviceId : UInt16) : Option Nat :=
  s.mesh.findIdx? fun device => device.deviceId = deviceId

end Tables

section Send

variable (env : MeshEnv) (s : MeshPlane)

/-- `mesh_time_get`. -/
def meshTime : UInt64 := s.meshTimeOffset + UInt64.ofNat env.now

/-- `mesh_time_set`. -/
def setMeshTime (remote : UInt64) : MeshPlane :=
  { s with meshTimeOffset := remote - UInt64.ofNat env.now }

/-- `compute_pair_hash`. -/
def computePairHash (devId : UInt16) (randomNum : UInt32) : UInt32 :=
  let hash := devId.toUInt32 ^^^ randomNum
  ((hash <<< 13) ||| (hash >>> 19)) ^^^ (hash * 0x02152001)

/-- `send_pair_request`. -/
def sendPairRequest (includeTracker : Bool) : MeshPlane :=
  let pkt : MeshPacket := .pairRequest
    { hdr := env.requestHeader 0 packetPriorityHigh statusSuccess
      randomNum := env.random
      hash := computePairHash env.deviceId env.random }
  s.put (if includeTracker then .request pkt else .announce pkt)

/-- `send_joined_network`. -/
def sendJoinedNetwork (pkt : JoinedNetwork) (dstId : UInt16) (status : UInt8) :
    MeshPlane :=
  s.put (.request (.joinedNetwork { pkt with
    hdr := env.requestHeader dstId packetPriorityHigh status }))

/-- `send_joined_network_ack`. -/
def sendJoinedNetworkAck
    (dstDeviceId : UInt16) (dstDeviceType : UInt8) (dstId : UInt16)
    (trackingId status : UInt8) : MeshPlane :=
  s.put (.reply (.joinedNetworkAck
    { hdr := env.replyHeader dstId packetPriorityHigh trackingId status
      dstDeviceId := dstDeviceId
      dstDeviceType := dstDeviceType }))

/-- `send_ping_device`. -/
def sendPingDevice (dstId genId : UInt16) (status : UInt8) : MeshPlane :=
  s.put (.request (.pingDevice
    { hdr := env.requestHeader dstId packetPriorityLow status
      dstDeviceId := genId
      hopNum := s.hopNum
      version := firmwareVersion
      totalDevices := s.meshDevicesCount
      timestamp := s.meshTime env + 15 }))

/-- `send_ping_ack`. -/
def sendPingAck (dstId genId : UInt16) (trackingId status : UInt8) :
    MeshPlane :=
  s.put (.reply (.pingAck
    { hdr := env.replyHeader dstId packetPriorityLow trackingId status
      dstDeviceId := genId
      hopNum := s.hopNum
      version := firmwareVersion
      timestamp := s.meshTime env + 15 }))

/-- `send_device_updated`. -/
def sendDeviceUpdated (pkt : DeviceUpdated) (dstId : UInt16) (status : UInt8) :
    MeshPlane :=
  s.put (.request (.deviceUpdated { pkt with
    hdr := env.requestHeader dstId packetPriorityLow status }))

/-- `send_device_updated_ack`. -/
def sendDeviceUpdatedAck
    (dstDeviceId : UInt16) (dstDeviceType : UInt8) (dstId : UInt16)
    (trackingId status : UInt8) : MeshPlane :=
  s.put (.reply (.deviceUpdatedAck
    { hdr := env.replyHeader dstId packetPriorityLow trackingId status
      dstDeviceId := dstDeviceId
      dstDeviceType := dstDeviceType }))

/-- The `du_pkt` with which a board reports itself. -/
def selfUpdate (connectedDeviceId : UInt16) (hopNum : UInt8) :
    DeviceUpdated where
  deviceType := env.deviceType.code
  deviceId := env.deviceId
  serialNum := s.serialNumber
  version := firmwareVersion
  connectedDeviceId := connectedDeviceId
  hopNum := hopNum
  sensorCount := s.sensorCount

end Send

section ProductInfo

variable (env : MeshEnv) (s : MeshPlane)

/-- `set_serial_number` on an initialized board. -/
def setSerialNumber (serialNum : UInt64) : MeshPlane :=
  let s :=
    if s.serialNumber = serialNum then
      s
    else
      s.sendDeviceUpdated env
        { deviceType := env.deviceType.code
          deviceId := env.deviceId
          serialNum := serialNum
          version := firmwareVersion
          connectedDeviceId :=
            if env.deviceType = .sensor then s.connectedDeviceId else 0xFFFF
          hopNum := if env.deviceType = .anchor then s.hopNum else 0xFF
          sensorCount :=
            if env.deviceType = .anchor then s.sensorCount else 0xFF }
        s.parent.deviceId statusSuccess
  { s with serialNumber := serialNum }

/-- `factory_reset`. -/
def factoryReset : MeshPlane := s.setStorage s.storage.factoryReset

/-- The hop number behind a parent with this one. -/
def hopBehind (hopNum : UInt8) : UInt8 :=
  if hopNum < 0xFE then hopNum + 1 else 0xFF

/-- `device_info_update`.  The error is the state in which `sys_reboot` was
called. -/
def deviceInfoUpdate : Except MeshPlane MeshPlane :=
  if env.deviceType ≠ .anchor then
    .ok s
  else if s.infra = [] then
    .ok { s.factoryReset with hopNum := 0xFF, connectedDeviceId := 0xFFFF }
  else if s.infra.all fun device => s.hopNum < device.entry.hopNum then
    .error s.factoryReset
  else
    let tempHopNum := hopBehind s.parent.hopNum
    if tempHopNum = 0xFF ∨ maxDepth < tempHopNum.toNat then
      .error s.factoryReset
    else
      let reported :=
        if tempHopNum ≠ s.hopNum ∧ s.hopNum ≠ 0xFF then
          s.sendDeviceUpdated env
            (s.selfUpdate env s.parent.deviceId tempHopNum)
            s.parent.deviceId statusSuccess
        else
          s
      .ok { reported with
        connectedDeviceId := s.parent.deviceId
        hopNum := tempHopNum }

/-- The statistics of a neighbour that was heard. -/
def heard {Entry : Type} (now : Nat) (device : Neighbour Entry) :
    Neighbour Entry :=
  { device with
    lastCommMs := now
    commFailures := 0
    isPingPacketSent := false }

/-- Change the statistics of one infrastructure neighbour. -/
def updateInfra (index : Nat) (change : Infra → Infra) : MeshPlane :=
  s.setStorage { s.storage with
    infra := { s.storage.infra with
      live := s.storage.infra.live.modify index change } }

/-- Change the statistics of one sensor neighbour. -/
def updateSensor (index : Nat) (change : Sensor → Sensor) : MeshPlane :=
  s.setStorage { s.storage with
    sensors := { s.storage.sensors with
      live := s.storage.sensors.live.modify index change } }

/-- `is_known_device`: what the radio does for a packet it may enqueue. -/
def isKnownDevice (deviceId : UInt16) : MeshPlane × Bool :=
  if s.tempId ≠ 0xFFFF ∧ s.tempId = deviceId then
    (s, true)
  else
    match s.findInfra deviceId with
    | some index => (s.updateInfra index (heard env.now), true)
    | none =>
        match s.findSensor deviceId with
        | some index => (s.updateSensor index (heard env.now), true)
        | none => (s, false)

/-- The statistics of a neighbour that did not answer. -/
def failed {Entry : Type} (now : Nat) (device : Neighbour Entry) :
    Neighbour Entry :=
  { device with
    lastCommMs := now
    commFailures := device.commFailures + 1
    isPingPacketSent := false }

/-- The tail of `known_device_update_comm_time` for a sensor that is gone. -/
def reportLostSensor (deviceId : UInt16) : MeshPlane :=
  let s := s.sendDeviceUpdated env
    { deviceType := DeviceType.sensor.code
      deviceId := deviceId
      serialNum := 0
      version := 0
      connectedDeviceId := 0xFFFF
      hopNum := 0xFF
      sensorCount := 0xFF }
    s.parent.deviceId statusDeviceRemoved
  -- `get_firmware_version` reads a variable nothing sets
  s.sendDeviceUpdated env
    { s.selfUpdate env 0xFFFF s.hopNum with version := 0 }
    s.parent.deviceId statusSuccess

/-- `known_device_update_comm_time` after a failure, the only way it is
called. -/
def knownDeviceUpdateCommTime (deviceId : UInt16) :
    Except MeshPlane MeshPlane :=
  if env.deviceType = .sensor then
    .ok ((s.setStorage s.storage.storageInfraClear).sendPairRequest env true)
  else
    match s.findInfra deviceId with
    | some index =>
        let s := s.updateInfra index (failed env.now)
        match s.infra[index]? with
        | none => .ok s
        | some device =>
            if maxCommFailures ≤ device.commFailures then
              (s.setStorage (s.storage.storageInfraRemove index).1)
                |>.deviceInfoUpdate env
            else
              .ok s
    | none =>
        match s.findSensor deviceId with
        | none => .ok s
        | some index =>
            let s := s.updateSensor index (failed env.now)
            match s.sensors[index]? with
            | none => .ok s
            | some device =>
                if maxCommFailures ≤ device.commFailures then
                  .ok ((s.setStorage (s.storage.storageSensorRemove index).1)
                    |>.reportLostSensor env deviceId)
                else
                  .ok s

/-- Ping one neighbour and mark it. -/
def pingInfra (index : Nat) (deviceId genId : UInt16) (status : UInt8) :
    MeshPlane :=
  (s.sendPingDevice env deviceId genId status).updateInfra index
    fun device => { device with isPingPacketSent := true }

/-- The loops that ping those neighbours that pass a test. -/
def pingWhere (due : Infra → Bool) (genId : UInt16) (status : UInt8) :
    List Infra → Nat → MeshPlane → MeshPlane
  | [], _, s => s
  | device :: rest, index, s =>
      pingWhere due genId status rest (index + 1)
        (if due device then
          s.pingInfra env index device.entry.deviceId genId status
        else
          s)

/-- `known_devices_tick`. -/
def knownDevicesTick : MeshPlane :=
  if env.deviceType ≠ .gateway then
    s
  else
    pingWhere env
      (fun device =>
        pingTimeoutMs < env.now - device.lastCommMs ∧
          !device.isPingPacketSent)
      0 statusSuccess s.infra 0 s

/-- `ping_known_devices`. -/
def pingKnownDevices (genId : UInt16) (status : UInt8) : MeshPlane :=
  pingWhere env (fun device => s.hopNum < device.entry.hopNum)
    genId status s.infra 0 s

end ProductInfo

section Mesh

variable (env : MeshEnv) (s : MeshPlane)

/-- `check_infra_storage`. -/
def checkInfraStorage (deviceId : UInt16) (isItSensor : Bool) : UInt8 :=
  if isItSensor then
    match s.infra with
    | [] => statusSuccess
    | device :: _ =>
        if device.entry.deviceId = deviceId then
          statusAlreadyExists
        else
          statusStorageFull
  else
    match s.findInfra deviceId with
    | some _ => statusAlreadyExists
    | none =>
        if maxAnchors ≤ s.storage.infra.count then
          statusStorageFull
        else
          statusSuccess

/-- What `update_infra_storage` writes over an entry. -/
def updatedInfra (hopNum : UInt8) (rssi2 : Int16) (entry : InfraRecord) :
    InfraRecord :=
  { entry with
    rssi2 := rssi2
    hopNum := if hopNum ≠ 0xFF then hopNum else entry.hopNum
    version := firmwareVersion }

/-- `update_infra_storage`; the flag tells that this board's hop number
changed. -/
def updateInfraStorage (deviceId : UInt16) (hopNum : UInt8) (rssi2 : Int16) :
    Except MeshPlane (MeshPlane × Bool) :=
  match s.findInfra deviceId with
  | none => .ok (s, false)
  | some index =>
      match s.storage.storageInfraGet index with
      | none => .ok (s, false)
      | some entry =>
          match s.storage.storageInfraUpdate index
              (updatedInfra hopNum rssi2 entry) with
          | (storage, some _) => .ok (s.setStorage storage, false)
          | (storage, none) =>
              match (s.setStorage storage).deviceInfoUpdate env with
              | .error s => .error s
              | .ok after => .ok (after, s.hopNum ≠ after.hopNum)

/-- `check_sensor_storage`. -/
def checkSensorStorage (deviceId : UInt16) : UInt8 :=
  match s.findSensor deviceId with
  | some _ => statusAlreadyExists
  | none =>
      if maxSensors ≤ s.storage.sensors.count then
        statusStorageFull
      else
        statusSuccess

/-- `update_sensor_storage`. -/
def updateSensorStorage (deviceId version : UInt16) : MeshPlane :=
  match s.findSensor deviceId with
  | none => s
  | some index =>
      match s.sensors[index]? with
      | none => s
      | some device =>
          if device.entry.version = version then
            s
          else
            s.setStorage (s.storage.storageSensorUpdate index
              { device.entry with version := version }).1

/-- `check_mesh_storage`. -/
def checkMeshStorage (deviceId : UInt16) : UInt8 :=
  match s.findMesh deviceId with
  | some _ => statusAlreadyExists
  | none =>
      if maxDevices ≤ s.storage.mesh.count then
        statusStorageFull
      else
        statusSuccess

/-- What `update_mesh_storage` writes over an entry. -/
def updatedMesh (pkt : DeviceUpdated) (entry : MeshRecord) : MeshRecord :=
  { entry with
    hopNum := if pkt.hopNum ≠ 0xFF then pkt.hopNum else entry.hopNum
    version := pkt.version
    connectedDeviceId :=
      if pkt.connectedDeviceId ≠ 0xFFFF then
        pkt.connectedDeviceId
      else
        entry.connectedDeviceId
    sensorCount :=
      if pkt.sensorCount ≠ 0xFF then pkt.sensorCount else entry.sensorCount }

/-- What it changes in RAM: only what differs from the EEPROM entry. -/
def updatedRow (pkt : DeviceUpdated) (entry : MeshRecord) (row : MeshEntry) :
    MeshEntry :=
  { row with
    hopNum :=
      if entry.hopNum ≠ pkt.hopNum ∧ pkt.hopNum ≠ 0xFF then
        pkt.hopNum
      else
        row.hopNum
    connectedDeviceId :=
      if entry.connectedDeviceId ≠ pkt.connectedDeviceId ∧
          pkt.connectedDeviceId ≠ 0xFFFF then
        pkt.connectedDeviceId
      else
        row.connectedDeviceId }

/-- `update_mesh_storage`, for the entry of `deviceId` with the values of
`pkt`. -/
def updateMeshStorage (deviceId : UInt16) (pkt : DeviceUpdated) :
    MeshPlane × UInt8 :=
  match s.findMesh deviceId with
  | none => (s, if s.mesh = [] then statusFailure else statusNotFound)
  | some index =>
      match s.storage.storageMeshGet index with
      | (storage, none) => (s.setStorage storage, statusFailure)
      | (storage, some entry) =>
          match (storage.changeMesh index (updatedRow pkt entry))
              |>.storageMeshUpdate index (updatedMesh pkt entry) with
          | (storage, some _) => (s.setStorage storage, statusFailure)
          | (storage, none) => (s.setStorage storage, statusSuccess)

end Mesh

end MeshPlane

end DectMesh
