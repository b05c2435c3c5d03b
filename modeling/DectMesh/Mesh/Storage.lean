import DectMesh.Board
import DectMesh.Library.BubbleSort

/-!
# Device tables

`storage.c`: the neighbours and the mesh table in RAM, and the three EEPROM
partitions that keep them over a restart.
-/

namespace DectMesh

/-- `infra_entry_t`, without the CRC-32 that guards it in the EEPROM. -/
structure InfraRecord where
  deviceType : UInt8 := 0
  deviceId : UInt16 := 0
  hopNum : UInt8 := 0
  version : UInt16 := 0
  rssi2 : Int16 := 0
  deriving DecidableEq

/-- `sensor_entry_t`, without its CRC-32. -/
structure SensorRecord where
  deviceId : UInt16 := 0
  version : UInt16 := 0
  deriving DecidableEq

/-- `mesh_entry_t`, without its CRC-32. -/
structure MeshRecord where
  deviceType : UInt8 := 0
  deviceId : UInt16 := 0
  serialNum : UInt64 := 0
  version : UInt16 := 0
  connectedDeviceId : UInt16 := 0
  hopNum : UInt8 := 0
  sensorCount : UInt8 := 0
  deriving DecidableEq

/-- `mesh_t`, what the RAM keeps of a mesh entry. -/
def MeshRecord.ram (entry : MeshRecord) : MeshEntry where
  deviceType := entry.deviceType
  deviceId := entry.deviceId
  serialNum := entry.serialNum
  connectedDeviceId := entry.connectedDeviceId
  hopNum := entry.hopNum

/-- `infra_t` and `sensor_t`: an entry with its communication statistics. -/
structure Neighbour (Entry : Type) where
  entry : Entry
  lastCommMs : Nat := 0
  commFailures : UInt8 := 0
  isPingPacketSent : Bool := false
  deriving DecidableEq

abbrev Infra := Neighbour InfraRecord
abbrev Sensor := Neighbour SensorRecord

/-- A table in RAM: the entries below the count, and the array's cells from
the count on, which some handlers still read. -/
structure RamTable (α : Type) where
  live : List α := []
  spare : List α := []
  deriving DecidableEq

namespace RamTable

variable {α : Type} (table : RamTable α)

def count : Nat := table.live.length

/-- The array cell at an index, whether in use or not. -/
def cell (index : Nat) (other : α) : α :=
  (table.live ++ table.spare)[index]?.getD other

/-- Take the first spare cell for a new last entry. -/
def append (item : α) : RamTable α where
  live := table.live ++ [item]
  spare := table.spare.tail

/-- Shift the entries after `index` down; the last cell keeps its content. -/
def remove (index : Nat) : RamTable α where
  live := table.live.eraseIdx index
  spare := table.live.getLast?.toList ++ table.spare

/-- The shift alone, while the count stays. -/
def shift (index : Nat) : RamTable α :=
  { table with
    live := table.live.eraseIdx index ++ table.live.getLast?.toList }

def set (index : Nat) (item : α) : RamTable α :=
  { table with live := table.live.set index item }

/-- Set the count to zero; every cell of the array goes through `change`. -/
def clear (change : α → α) : RamTable α where
  live := []
  spare := (table.live ++ table.spare).map change

end RamTable

/-- A partition: the count in its header, `none` without the magic bytes, and
its entries, `none` where the CRC-32 does not match. -/
structure Partition (α : Type) where
  header : Option UInt16 := none
  cells : Nat → Option α := fun _ => none

/-- What the range of a failed EEPROM write holds afterwards. -/
structure Leftover where
  header : Option UInt16 := none
  infra : Option InfraRecord := none
  sensor : Option SensorRecord := none
  mesh : Nat → Option MeshRecord := fun _ => none

/-- The EEPROM; `failures` are the outcomes of its next operations, and an
operation past their end succeeds. -/
structure Eeprom where
  infra : Partition InfraRecord := {}
  sensors : Partition SensorRecord := {}
  mesh : Partition MeshRecord := {}
  failures : List (Option Leftover) := []

/-- `storage.c`'s variables. -/
structure Storage where
  infra : RamTable Infra := {}
  sensors : RamTable Sensor := {}
  mesh : RamTable MeshEntry := {}
  eeprom : Eeprom := {}

namespace Eeprom

variable (rom : Eeprom)

/-- The outcome of the operation at hand. -/
def outcome : Option Leftover := rom.failures.head?.join

/-- Every operation from here on succeeds. -/
def Reliable : Prop := rom.failures = []

def advance : Eeprom := { rom with failures := rom.failures.tail }

/-- `write_entry` and `write_header` report a failure as `EIO`. -/
def status : Option Errno :=
  match rom.outcome with
  | none => none
  | some _ => some .eio

def written {β : Type} (value : β) (left : Leftover → β) : β :=
  match rom.outcome with
  | none => value
  | some leftover => left leftover

def writeInfra (index : Nat) (entry : InfraRecord) : Eeprom × Option Errno :=
  ({ rom.advance with
      infra := { rom.infra with
        cells := Function.update rom.infra.cells index
          (rom.written (some entry) Leftover.infra) } },
    rom.status)

def writeInfraHeader (count : Nat) : Eeprom × Option Errno :=
  ({ rom.advance with
      infra := { rom.infra with
        header := rom.written (some (UInt16.ofNat count)) Leftover.header } },
    rom.status)

def writeSensor (index : Nat) (entry : SensorRecord) : Eeprom × Option Errno :=
  ({ rom.advance with
      sensors := { rom.sensors with
        cells := Function.update rom.sensors.cells index
          (rom.written (some entry) Leftover.sensor) } },
    rom.status)

def writeSensorHeader (count : Nat) : Eeprom × Option Errno :=
  ({ rom.advance with
      sensors := { rom.sensors with
        header := rom.written (some (UInt16.ofNat count)) Leftover.header } },
    rom.status)

def writeMesh (index : Nat) (entry : MeshRecord) : Eeprom × Option Errno :=
  ({ rom.advance with
      mesh := { rom.mesh with
        cells := Function.update rom.mesh.cells index
          (rom.written (some entry) fun left => left.mesh index) } },
    rom.status)

def writeMeshHeader (count : Nat) : Eeprom × Option Errno :=
  ({ rom.advance with
      mesh := { rom.mesh with
        header := rom.written (some (UInt16.ofNat count)) Leftover.header } },
    rom.status)

/-- The read and the write that move the mesh entries after `index`, up to
`count`, one place down. -/
def shiftMesh (index count : Nat) : Eeprom × Option Errno :=
  match rom.status with
  | some errno => (rom.advance, some errno)
  | none =>
      let rom := rom.advance
      ({ rom.advance with
          mesh := { rom.mesh with
            cells := fun i =>
              if index ≤ i ∧ i + 1 < count then
                rom.written (rom.mesh.cells (i + 1)) fun left => left.mesh i
              else
                rom.mesh.cells i } },
        rom.status)

end Eeprom

namespace Storage

variable (s : Storage)

/-- The test of `sort_infra_devices`: larger hop number, or the same one with
a weaker signal. -/
def swapInfra (left right : Infra) : Bool :=
  right.entry.hopNum < left.entry.hopNum ∨
    left.entry.hopNum = right.entry.hopNum ∧
      left.entry.rssi2 < right.entry.rssi2

/-- `sort_infra_devices`. -/
def sortInfraDevices : Storage :=
  { s with infra := { s.infra with
      live := BubbleSort.sort swapInfra s.infra.live } }

/-- The loop of `flush_infra_to_eeprom`. -/
def flushInfraEntries :
    List Infra → Nat → Eeprom → Eeprom × Option Errno
  | [], _, rom => (rom, none)
  | device :: rest, index, rom =>
      match rom.writeInfra index device.entry with
      | (rom, some errno) => (rom, some errno)
      | (rom, none) => flushInfraEntries rest (index + 1) rom

/-- `flush_infra_to_eeprom`. -/
def flushInfraToEeprom : Storage × Option Errno :=
  match flushInfraEntries s.infra.live 0 s.eeprom with
  | (rom, some errno) => ({ s with eeprom := rom }, some errno)
  | (rom, none) =>
      let (rom, err) := rom.writeInfraHeader s.infra.count
      ({ s with eeprom := rom }, err)

/-- `storage_infra_add`. -/
def storageInfraAdd (entry : InfraRecord) : Storage × Option Errno :=
  if maxAnchors ≤ s.infra.count then
    (s, some .enomem)
  else
    { s with infra := s.infra.append { entry := entry } }
      |>.sortInfraDevices.flushInfraToEeprom

/-- `storage_infra_update`. -/
def storageInfraUpdate (index : Nat) (entry : InfraRecord) :
    Storage × Option Errno :=
  match s.infra.live[index]? with
  | none => (s, some .einval)
  | some device =>
      { s with infra := s.infra.set index { device with entry := entry } }
        |>.sortInfraDevices.flushInfraToEeprom

/-- `storage_infra_get`. -/
def storageInfraGet (index : Nat) : Option InfraRecord :=
  s.infra.live[index]?.map Neighbour.entry

/-- `storage_infra_remove`. -/
def storageInfraRemove (index : Nat) : Storage × Option Errno :=
  if s.infra.count ≤ index then
    (s, some .einval)
  else
    { s with infra := s.infra.remove index }.flushInfraToEeprom

/-- `storage_infra_clear`. -/
def storageInfraClear : Storage :=
  { s with
    infra := s.infra.clear fun device =>
      { device with entry := { device.entry with deviceId := 0xFFFF } }
    eeprom := (s.eeprom.writeInfraHeader 0).1 }

/-- The loop of `flush_sensors_to_eeprom`. -/
def flushSensorEntries :
    List Sensor → Nat → Eeprom → Eeprom × Option Errno
  | [], _, rom => (rom, none)
  | device :: rest, index, rom =>
      match rom.writeSensor index device.entry with
      | (rom, some errno) => (rom, some errno)
      | (rom, none) => flushSensorEntries rest (index + 1) rom

/-- `flush_sensors_to_eeprom`. -/
def flushSensorsToEeprom : Storage × Option Errno :=
  match flushSensorEntries s.sensors.live 0 s.eeprom with
  | (rom, some errno) => ({ s with eeprom := rom }, some errno)
  | (rom, none) =>
      let (rom, err) := rom.writeSensorHeader s.sensors.count
      ({ s with eeprom := rom }, err)

/-- `storage_sensor_add`. -/
def storageSensorAdd (entry : SensorRecord) : Storage × Option Errno :=
  if maxSensors ≤ s.sensors.count then
    (s, some .enomem)
  else
    { s with sensors := s.sensors.append { entry := entry } }
      |>.flushSensorsToEeprom

/-- `storage_sensor_update`. -/
def storageSensorUpdate (index : Nat) (entry : SensorRecord) :
    Storage × Option Errno :=
  match s.sensors.live[index]? with
  | none => (s, some .einval)
  | some device =>
      { s with sensors := s.sensors.set index { device with entry := entry } }
        |>.flushSensorsToEeprom

/-- `storage_sensor_remove`. -/
def storageSensorRemove (index : Nat) : Storage × Option Errno :=
  if s.sensors.count ≤ index then
    (s, some .einval)
  else
    { s with sensors := s.sensors.remove index }.flushSensorsToEeprom

/-- `storage_sensor_clear`. -/
def storageSensorClear : Storage :=
  { s with
    sensors := s.sensors.clear fun device =>
      { device with entry := { device.entry with deviceId := 0xFFFF } }
    eeprom := (s.eeprom.writeSensorHeader 0).1 }

/-- `storage_mesh_add`. -/
def storageMeshAdd (entry : MeshRecord) : Storage × Option Errno :=
  if maxDevices ≤ s.mesh.count then
    (s, some .enomem)
  else
    match s.eeprom.writeMesh s.mesh.count entry with
    | (rom, some errno) => ({ s with eeprom := rom }, some errno)
    | (rom, none) =>
        let mesh := s.mesh.append entry.ram
        let (rom, err) := rom.writeMeshHeader mesh.count
        ({ s with mesh := mesh, eeprom := rom }, err)

/-- `storage_mesh_update`. -/
def storageMeshUpdate (index : Nat) (entry : MeshRecord) :
    Storage × Option Errno :=
  if s.mesh.count ≤ index then
    (s, some .einval)
  else
    let (rom, err) := s.eeprom.writeMesh index entry
    ({ s with eeprom := rom }, err)

/-- Assignments to fields of `mesh_devices[index]`. -/
def changeMesh (index : Nat) (change : MeshEntry → MeshEntry) : Storage :=
  { s with mesh := { s.mesh with live := s.mesh.live.modify index change } }

/-- `storage_mesh_get`; a read error and a CRC mismatch are one outcome to
every caller. -/
def storageMeshGet (index : Nat) : Storage × Option MeshRecord :=
  if s.mesh.count ≤ index then
    (s, none)
  else
    ({ s with eeprom := s.eeprom.advance },
      match s.eeprom.outcome with
      | none => s.eeprom.mesh.cells index
      | some _ => none)

/-- `storage_mesh_clear`. -/
def storageMeshClear : Storage :=
  { s with
    mesh := s.mesh.clear id
    eeprom := (s.eeprom.writeMeshHeader 0).1 }

/-- The EEPROM part of `storage_mesh_remove` before the header. -/
def shiftedMesh (index : Nat) : Eeprom × Option Errno :=
  if index + 1 < s.mesh.count then
    s.eeprom.shiftMesh index s.mesh.count
  else
    (s.eeprom, none)

/-- `storage_mesh_remove`. -/
def storageMeshRemove (index : Nat) : Storage × Option Errno :=
  if s.mesh.count ≤ index then
    (s, some .einval)
  else
    match s.shiftedMesh index with
    | (rom, some errno) =>
        ({ s with mesh := s.mesh.shift index, eeprom := rom }, some errno)
    | (rom, none) =>
        let mesh := s.mesh.remove index
        let (rom, err) := rom.writeMeshHeader mesh.count
        ({ s with mesh := mesh, eeprom := rom }, err)

/-- The clears of `factory_reset`. -/
def factoryReset : Storage :=
  s.storageInfraClear.storageSensorClear.storageMeshClear

end Storage

end DectMesh
