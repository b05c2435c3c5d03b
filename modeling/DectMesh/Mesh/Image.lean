import DectMesh.Library.RecordStore
import DectMesh.Mesh.Model

/-!
# The EEPROM image

`storage.c` down to the bytes: the packed entries with their CRC-32, the three
partitions, and the operations that keep the tables in RAM and the image in
step while every access to the EEPROM succeeds.
-/

namespace DectMesh

open ByteStore RecordStore

section Layouts

/-- `infra_entry_t`. -/
def infraLayout : Layout InfraRecord where
  size := 8
  encode := fun entry => pack
    [(1, entry.deviceType.toNat), (2, entry.deviceId.toNat),
      (1, entry.hopNum.toNat), (2, entry.version.toNat),
      (2, entry.rssi2.toUInt16.toNat)]
  decode := fun bytes =>
    match unpack [1, 2, 1, 2, 2] bytes with
    | [deviceType, deviceId, hopNum, version, rssi2] =>
        { deviceType := UInt8.ofNat deviceType
          deviceId := UInt16.ofNat deviceId
          hopNum := UInt8.ofNat hopNum
          version := UInt16.ofNat version
          rssi2 := (UInt16.ofNat rssi2).toInt16 }
    | _ => {}
  encode_length := fun entry => pack_length _
  decode_encode := by
    intro entry
    have fields := @unpack_pack
      [(1, entry.deviceType.toNat), (2, entry.deviceId.toNat),
        (1, entry.hopNum.toNat), (2, entry.version.toNat),
        (2, entry.rssi2.toUInt16.toNat)]
      (by
        simp only [List.forall_mem_cons]
        exact ⟨UInt8.toNat_lt _, UInt16.toNat_lt _, UInt8.toNat_lt _,
          UInt16.toNat_lt _, UInt16.toNat_lt _, by simp⟩)
    simp only [List.map_cons, List.map_nil] at fields
    rw [fields]
    simp

/-- `sensor_entry_t`. -/
def sensorLayout : Layout SensorRecord where
  size := 4
  encode := fun entry => pack
    [(2, entry.deviceId.toNat), (2, entry.version.toNat)]
  decode := fun bytes =>
    match unpack [2, 2] bytes with
    | [deviceId, version] =>
        { deviceId := UInt16.ofNat deviceId, version := UInt16.ofNat version }
    | _ => {}
  encode_length := fun entry => pack_length _
  decode_encode := by
    intro entry
    have fields := @unpack_pack
      [(2, entry.deviceId.toNat), (2, entry.version.toNat)]
      (by
        simp only [List.forall_mem_cons]
        exact ⟨UInt16.toNat_lt _, UInt16.toNat_lt _, by simp⟩)
    simp only [List.map_cons, List.map_nil] at fields
    rw [fields]
    simp

/-- `mesh_entry_t`. -/
def meshLayout : Layout MeshRecord where
  size := 17
  encode := fun entry => pack
    [(1, entry.deviceType.toNat), (2, entry.deviceId.toNat),
      (8, entry.serialNum.toNat), (2, entry.version.toNat),
      (2, entry.connectedDeviceId.toNat), (1, entry.hopNum.toNat),
      (1, entry.sensorCount.toNat)]
  decode := fun bytes =>
    match unpack [1, 2, 8, 2, 2, 1, 1] bytes with
    | [deviceType, deviceId, serialNum, version, connectedDeviceId, hopNum,
        sensorCount] =>
        { deviceType := UInt8.ofNat deviceType
          deviceId := UInt16.ofNat deviceId
          serialNum := UInt64.ofNat serialNum
          version := UInt16.ofNat version
          connectedDeviceId := UInt16.ofNat connectedDeviceId
          hopNum := UInt8.ofNat hopNum
          sensorCount := UInt8.ofNat sensorCount }
    | _ => {}
  encode_length := fun entry => pack_length _
  decode_encode := by
    intro entry
    have fields := @unpack_pack
      [(1, entry.deviceType.toNat), (2, entry.deviceId.toNat),
        (8, entry.serialNum.toNat), (2, entry.version.toNat),
        (2, entry.connectedDeviceId.toNat), (1, entry.hopNum.toNat),
        (1, entry.sensorCount.toNat)]
      (by
        simp only [List.forall_mem_cons]
        exact ⟨UInt8.toNat_lt _, UInt16.toNat_lt _, UInt64.toNat_lt _,
          UInt16.toNat_lt _, UInt16.toNat_lt _, UInt8.toNat_lt _,
          UInt8.toNat_lt _, by simp⟩)
    simp only [List.map_cons, List.map_nil] at fields
    rw [fields]
    simp

def infraRegion : Region InfraRecord where
  layout := infraLayout
  check := Checksum.crc32Ieee.ieee
  base := 0x00000
  capacity := maxAnchors
  countable := by decide

def sensorRegion : Region SensorRecord where
  layout := sensorLayout
  check := Checksum.crc32Ieee.ieee
  base := 0x00080
  capacity := maxSensors
  countable := by decide

def meshRegion : Region MeshRecord where
  layout := meshLayout
  check := Checksum.crc32Ieee.ieee
  base := 0x00480
  capacity := maxDevices
  countable := by decide

/-- The `_Static_assert`s of `storage.h`. -/
theorem regions_fit :
    infraRegion.limit ≤ 0x00000 + 0x00080 ∧
      sensorRegion.limit ≤ 0x00080 + 0x00400 ∧
        meshRegion.limit ≤ 0x00480 + 0x03000 := by
  decide

end Layouts

/-- An entry with its `crc32` field. -/
structure Stamped (Record : Type) where
  record : Record
  crc32 : UInt32 := 0
  deriving DecidableEq

/-- The tables below their counts, and the bytes of the EEPROM. -/
structure StorageImage where
  infra : List (Neighbour (Stamped InfraRecord)) := []
  sensors : List (Neighbour (Stamped SensorRecord)) := []
  mesh : List MeshEntry := []
  image : Store

/-- The assignment of `crc32` in the flushes. -/
def stamp {Record : Type} (region : Region Record)
    (device : Neighbour (Stamped Record)) : Neighbour (Stamped Record) :=
  { device with entry := { device.entry with
      crc32 := region.check (region.layout.encode device.entry.record) } }

/-- The records of a table. -/
def recordsOf {Record : Type} (table : List (Neighbour (Stamped Record))) :
    List Record :=
  table.map fun device => device.entry.record

namespace StorageImage

variable (s : StorageImage)

section Infra

def swapInfra (left right : Neighbour (Stamped InfraRecord)) : Bool :=
  Storage.swapInfra { entry := left.entry.record }
    { entry := right.entry.record }

/-- `sort_infra_devices`. -/
def sortInfraDevices : StorageImage :=
  { s with infra := BubbleSort.sort swapInfra s.infra }

/-- `flush_infra_to_eeprom`. -/
def flushInfraToEeprom : StorageImage :=
  { s with
    infra := s.infra.map (stamp infraRegion)
    image := infraRegion.flush (recordsOf s.infra) s.image }

/-- `storage_infra_add`. -/
def storageInfraAdd (entry : Stamped InfraRecord) :
    StorageImage × Option Errno :=
  if maxAnchors ≤ s.infra.length then
    (s, some .enomem)
  else
    let device : Neighbour (Stamped InfraRecord) := { entry := entry }
    ({ s with infra := s.infra ++ [device]
      }.sortInfraDevices.flushInfraToEeprom, none)

/-- `storage_infra_update`. -/
def storageInfraUpdate (index : Nat) (entry : Stamped InfraRecord) :
    StorageImage × Option Errno :=
  match s.infra[index]? with
  | none => (s, some .einval)
  | some device =>
      ({ s with infra := s.infra.set index { device with entry := entry }
        }.sortInfraDevices.flushInfraToEeprom, none)

/-- `storage_infra_remove`. -/
def storageInfraRemove (index : Nat) : StorageImage × Option Errno :=
  if s.infra.length ≤ index then
    (s, some .einval)
  else
    ({ s with infra := s.infra.eraseIdx index }.flushInfraToEeprom, none)

/-- `storage_infra_clear`. -/
def storageInfraClear : StorageImage × Option Errno :=
  ({ s with infra := [], image := infraRegion.writeHeader 0 s.image }, none)

end Infra

section Sensors

/-- `flush_sensors_to_eeprom`. -/
def flushSensorsToEeprom : StorageImage :=
  { s with
    sensors := s.sensors.map (stamp sensorRegion)
    image := sensorRegion.flush (recordsOf s.sensors) s.image }

/-- `storage_sensor_add`. -/
def storageSensorAdd (entry : Stamped SensorRecord) :
    StorageImage × Option Errno :=
  if maxSensors ≤ s.sensors.length then
    (s, some .enomem)
  else
    let device : Neighbour (Stamped SensorRecord) := { entry := entry }
    ({ s with sensors := s.sensors ++ [device] }.flushSensorsToEeprom, none)

/-- `storage_sensor_update`. -/
def storageSensorUpdate (index : Nat) (entry : Stamped SensorRecord) :
    StorageImage × Option Errno :=
  match s.sensors[index]? with
  | none => (s, some .einval)
  | some device =>
      ({ s with sensors := s.sensors.set index { device with entry := entry }
        }.flushSensorsToEeprom, none)

/-- `storage_sensor_remove`. -/
def storageSensorRemove (index : Nat) : StorageImage × Option Errno :=
  if s.sensors.length ≤ index then
    (s, some .einval)
  else
    ({ s with sensors := s.sensors.eraseIdx index }.flushSensorsToEeprom, none)

/-- `storage_sensor_clear`. -/
def storageSensorClear : StorageImage × Option Errno :=
  ({ s with sensors := [], image := sensorRegion.writeHeader 0 s.image }, none)

end Sensors

section Mesh

/-- `storage_mesh_add`. -/
def storageMeshAdd (entry : Stamped MeshRecord) :
    StorageImage × Option Errno :=
  if maxDevices ≤ s.mesh.length then
    (s, some .enomem)
  else
    ({ s with
        mesh := s.mesh ++ [entry.record.ram]
        image := meshRegion.writeHeader (s.mesh.length + 1)
          (meshRegion.writeCell s.mesh.length entry.record s.image) }, none)

/-- `storage_mesh_update`; the table in RAM is left to the caller. -/
def storageMeshUpdate (index : Nat) (entry : Stamped MeshRecord) :
    StorageImage × Option Errno :=
  if s.mesh.length ≤ index then
    (s, some .einval)
  else
    ({ s with image := meshRegion.writeCell index entry.record s.image }, none)

/-- `storage_mesh_get`. -/
def storageMeshGet (index : Nat) : Option (Stamped MeshRecord) :=
  if s.mesh.length ≤ index then
    none
  else
    (meshRegion.readCell s.image index).map fun cell =>
      { record := cell.1, crc32 := cell.2 }

/-- `storage_mesh_remove`. -/
def storageMeshRemove (index : Nat) : StorageImage × Option Errno :=
  if s.mesh.length ≤ index then
    (s, some .einval)
  else
    ({ s with
        mesh := s.mesh.eraseIdx index
        image := meshRegion.writeHeader (s.mesh.length - 1)
          (meshRegion.shift index s.mesh.length s.image) }, none)

/-- `storage_mesh_clear`. -/
def storageMeshClear : StorageImage × Option Errno :=
  ({ s with mesh := [], image := meshRegion.writeHeader 0 s.image }, none)

/-- `update_mesh_storage`, for the entry of `deviceId` with the values of
`pkt`. -/
def updateMeshStorage (deviceId : UInt16) (pkt : DeviceUpdated) :
    StorageImage × UInt8 :=
  match s.mesh.findIdx? fun row => row.deviceId = deviceId with
  | none => (s, if s.mesh = [] then statusFailure else statusNotFound)
  | some index =>
      match s.storageMeshGet index with
      | none => (s, statusFailure)
      | some entry =>
          (({ s with mesh :=
              s.mesh.modify index (MeshPlane.updatedRow pkt entry.record)
            }.storageMeshUpdate index
              { entry with
                record := MeshPlane.updatedMesh pkt entry.record }).1,
            statusSuccess)

end Mesh

section Init

/-- The loop of `storage_init` over a table; an entry that does not match its
checksum is marked invalid. -/
def loadTable {Record : Type} (region : Region Record) (invalid : Record)
    (image : Store) (count : Nat) : List (Neighbour (Stamped Record)) :=
  (List.range count).map fun index =>
    match region.readCell image index with
    | some (record, crc32) => { entry := { record := record, crc32 := crc32 } }
    | none => { entry := { record := invalid } }

/-- The loop of `storage_init` over the mesh entries. -/
def loadMesh (image : Store) (count : Nat) : List MeshEntry :=
  (List.range count).map fun index =>
    match meshRegion.readCell image index with
    | some (record, _) => record.ram
    | none => {}

/-- `storage_init`; a table that a role does not load keeps the zeros of its
array. -/
def storageInit (deviceType : DeviceType) (image : Store) : StorageImage where
  infra := loadTable infraRegion { deviceId := 0xFFFF } image
    (infraRegion.readHeader image % 256)
  sensors :=
    if deviceType = .gateway ∨ deviceType = .anchor then
      loadTable sensorRegion { deviceId := 0xFFFF } image
        (sensorRegion.readHeader image % 256)
    else
      List.replicate (sensorRegion.readHeader image % 256)
        { entry := { record := {} } }
  mesh :=
    if deviceType = .gateway then
      loadMesh image (meshRegion.readHeader image)
    else
      List.replicate (meshRegion.readHeader image) {}
  image := image

end Init

end StorageImage

/-- The operations on the tables. -/
inductive StorageOp where
  | infraAdd (entry : Stamped InfraRecord)
  | infraUpdate (index : Nat) (entry : Stamped InfraRecord)
  | infraRemove (index : Nat)
  | infraClear
  | sensorAdd (entry : Stamped SensorRecord)
  | sensorUpdate (index : Nat) (entry : Stamped SensorRecord)
  | sensorRemove (index : Nat)
  | sensorClear
  | meshAdd (entry : Stamped MeshRecord)
  | meshUpdate (index : Nat) (entry : Stamped MeshRecord)
  | meshRemove (index : Nat)
  | meshClear
  | updateMesh (deviceId : UInt16) (pkt : DeviceUpdated)

/-- The partition an operation is about: its offset and its size. -/
def StorageOp.partition : StorageOp → Nat × Nat
  | .infraAdd _ | .infraUpdate _ _ | .infraRemove _ | .infraClear =>
      (0x00000, 0x00080)
  | .sensorAdd _ | .sensorUpdate _ _ | .sensorRemove _ | .sensorClear =>
      (0x00080, 0x00400)
  | .meshAdd _ | .meshUpdate _ _ | .meshRemove _ | .meshClear
  | .updateMesh _ _ =>
      (0x00480, 0x03000)

/-- One operation; the getters and counters change nothing. -/
def StorageImage.perform (s : StorageImage) : StorageOp → StorageImage
  | .infraAdd entry => (s.storageInfraAdd entry).1
  | .infraUpdate index entry => (s.storageInfraUpdate index entry).1
  | .infraRemove index => (s.storageInfraRemove index).1
  | .infraClear => s.storageInfraClear.1
  | .sensorAdd entry => (s.storageSensorAdd entry).1
  | .sensorUpdate index entry => (s.storageSensorUpdate index entry).1
  | .sensorRemove index => (s.storageSensorRemove index).1
  | .sensorClear => s.storageSensorClear.1
  | .meshAdd entry => (s.storageMeshAdd entry).1
  | .meshUpdate index entry => (s.storageMeshUpdate index entry).1
  | .meshRemove index => (s.storageMeshRemove index).1
  | .meshClear => s.storageMeshClear.1
  | .updateMesh deviceId pkt => (s.updateMeshStorage deviceId pkt).1

end DectMesh
