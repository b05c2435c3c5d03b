import DectMesh.Mesh.Session

/-!
# Runs of the mesh layer

A board handles one event after the other.  `sys_reboot` ends the event at
hand and takes the board down; it is up again once it has restarted from its
EEPROM.
-/

namespace DectMesh

namespace Eeprom

variable {α : Type}

/-- The read of a partition's header. -/
def readHeader (rom : Eeprom) (part : Partition α) : Eeprom × Option Nat :=
  (rom.advance,
    match rom.outcome with
    | some _ => none
    | none => some ((part.header.map UInt16.toNat).getD 0))

/-- The reads of `count` entries from `index` on; `unread` stands for one
that cannot be read. -/
def readEntries (part : Partition α) (unread : α) :
    Nat → Nat → Eeprom → Eeprom × List α
  | 0, _, rom => (rom, [])
  | count + 1, index, rom =>
      let entry :=
        match rom.outcome with
        | some _ => none
        | none => part.cells index
      let (last, rest) := readEntries part unread count (index + 1) rom.advance
      (last, entry.getD unread :: rest)

end Eeprom

namespace Storage

/-- A table whose array was zero before its entries were loaded. -/
def loaded {α : Type} (capacity : Nat) (zero : α) (live : List α) :
    RamTable α where
  live := live
  spare := List.replicate (capacity - live.length) zero

/-- `storage_init`; the flag tells that every header was read.  A table that a
role does not load keeps the zeros of its array. -/
def storageInit (deviceType : DeviceType) (rom : Eeprom) : Storage × Bool :=
  match rom.readHeader rom.infra with
  | (rom, none) => ({ eeprom := rom }, false)
  | (rom, some infraCount) =>
      match rom.readHeader rom.sensors with
      | (rom, none) => ({ eeprom := rom }, false)
      | (rom, some sensorCount) =>
          match rom.readHeader rom.mesh with
          | (rom, none) => ({ eeprom := rom }, false)
          | (rom, some meshCount) =>
              let (rom, infra) := rom.readEntries rom.infra
                { deviceId := 0xFFFF } (infraCount % 256) 0
              let (rom, sensors) :=
                if deviceType = .gateway ∨ deviceType = .anchor then
                  rom.readEntries rom.sensors { deviceId := 0xFFFF }
                    (sensorCount % 256) 0
                else
                  (rom, List.replicate (sensorCount % 256) {})
              let (rom, mesh) :=
                if deviceType = .gateway then
                  rom.readEntries rom.mesh {} meshCount 0
                else
                  (rom, List.replicate meshCount {})
              let infraDevices : List Infra :=
                infra.map fun entry => { entry := entry }
              let sensorDevices : List Sensor :=
                sensors.map fun entry => { entry := entry }
              ({  infra := loaded maxAnchors { entry := {} } infraDevices
                  sensors := loaded maxSensors { entry := {} } sensorDevices
                  mesh := loaded maxDevices {} (mesh.map MeshRecord.ram)
                  eeprom := rom },
                true)

end Storage

namespace MeshPlane

/-- `storage_init` counts the devices of the network on a gateway only. -/
def loadedDevices (env : MeshEnv) (storage : Storage) : UInt16 :=
  if env.deviceType = .gateway then UInt16.ofNat storage.mesh.count else 0

/-- `main` up to the main loop: `product_info_init`, `storage_init`,
`device_info_update`, `mesh_init` and the first packets.  A board whose
headers cannot be read stays down. -/
def boot (env : MeshEnv) (rom : Eeprom) : Except MeshPlane MeshPlane :=
  let (storage, ready) := Storage.storageInit env.deviceType rom
  let s : MeshPlane :=
    { storage := storage
      hopNum := if env.deviceType = .gateway then 0 else 0xFF
      serialNumber := env.deviceId.toUInt64
      meshDevicesCount := loadedDevices env storage }
  if ready then
    match s.deviceInfoUpdate env with
    | .error s => .error s
    | .ok s =>
        match env.deviceType with
        | .gateway =>
            .ok ({ s with meshTimeOffset := 0 - UInt64.ofNat env.now }
              |>.pingKnownDevices env 0 statusSuccess)
        | .anchor =>
            if maxAnchors ≤ s.storage.infra.count then
              .ok s
            else
              .ok (s.sendPairRequest env true)
        | .sensor =>
            if s.infra = [] then
              .ok (s.sendPairRequest env true)
            else
              .ok { s with connectedDeviceId := s.parent.deviceId }
        | .unknown => .ok s
  else
    .error s

/-- The packets of earlier events are gone, and the EEPROM behaves as this
event brings it. -/
def begin (s : MeshPlane) (failures : List (Option Leftover)) : MeshPlane :=
  { s with
    out := []
    storage := { s.storage with
      eeprom := { s.storage.eeprom with failures := failures } } }

/-- What can happen to a board. -/
structure Occurrence where
  env : MeshEnv
  failures : List (Option Leftover) := []
  /-- No event is the start after a reboot. -/
  event : Option Event

/-- A board is up, or down after `sys_reboot`. -/
abbrev Condition := Except MeshPlane MeshPlane

/-- The state of a board that is up or down. -/
def plane : Condition → MeshPlane
  | .ok s => s
  | .error s => s

theorem ok_plane {condition : Condition} (up : condition.isOk = true) :
    condition = .ok (plane condition) := by
  cases condition with
  | error _ => cases up
  | ok _ => rfl

/-- One occurrence: events reach a board that is up, and a start one that is
down. -/
def next (condition : Condition) (occurrence : Occurrence) : Condition :=
  match condition, occurrence.event with
  | .ok s, some event =>
      (s.begin occurrence.failures).handle occurrence.env event
  | .error s, none =>
      boot occurrence.env (s.begin occurrence.failures).storage.eeprom
  | condition, _ => condition

end MeshPlane

end DectMesh
