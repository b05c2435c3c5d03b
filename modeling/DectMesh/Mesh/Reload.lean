import DectMesh.Library.Trace
import DectMesh.Mesh.Image

/-!
# Reloading the tables

While every access to the EEPROM succeeds, a restart loads the tables that
were in RAM, each operation stays in its own partition, and every stored
checksum is right.
-/

namespace DectMesh

open ByteStore RecordStore

section Tables

variable {Record : Type} {region : Region Record} {image after : Store}
variable {records : List Record} {table : List (Neighbour (Stamped Record))}

/-- Every entry carries the checksum of its record. -/
def AllStamped (region : Region Record)
    (table : List (Neighbour (Stamped Record))) : Prop :=
  ∀ device ∈ table, device.entry.crc32 =
    region.check (region.layout.encode device.entry.record)

theorem allStamped_map (table : List (Neighbour (Stamped Record))) :
    AllStamped region (table.map (stamp region)) := by
  intro device member
  obtain ⟨before, -, rfl⟩ := List.mem_map.mp member
  rfl

@[simp]
theorem recordsOf_stamp (table : List (Neighbour (Stamped Record))) :
    recordsOf (table.map (stamp region)) = recordsOf table := by
  rw [recordsOf, List.map_map]
  rfl

@[simp]
theorem recordsOf_length (table : List (Neighbour (Stamped Record))) :
    (recordsOf table).length = table.length :=
  List.length_map _

/-- What a restart reads of a record. -/
def fresh (region : Region Record) (record : Record) :
    Neighbour (Stamped Record) where
  entry :=
    { record := record, crc32 := region.check (region.layout.encode record) }

/-- A region that holds records is loaded as these records. -/
theorem loadTable_holds (holds : region.Holds image records)
    (invalid : Record) :
    StorageImage.loadTable region invalid image records.length =
      records.map (fresh region) := by
  apply List.ext_getElem
  · simp [StorageImage.loadTable]
  · intro index _ inside
    rw [List.length_map] at inside
    have stored := Region.readCell_sealed
      (holds.cells index _ (List.getElem?_eq_getElem inside))
    simp only [StorageImage.loadTable, List.getElem_map, List.getElem_range,
      stored]
    rfl

theorem loadMesh_holds {mesh : List MeshRecord}
    (holds : meshRegion.Holds image mesh) :
    StorageImage.loadMesh image mesh.length = mesh.map MeshRecord.ram := by
  apply List.ext_getElem
  · simp [StorageImage.loadMesh]
  · intro index _ inside
    rw [List.length_map] at inside
    have stored := Region.readCell_sealed
      (holds.cells index _ (List.getElem?_eq_getElem inside))
    simp only [StorageImage.loadMesh, List.getElem_map, List.getElem_range,
      stored]

theorem recordsOf_fresh (records : List Record) :
    recordsOf (records.map (fresh region)) = records := by
  rw [recordsOf, List.map_map]
  exact List.map_id _

theorem allStamped_fresh (records : List Record) :
    AllStamped region (records.map (fresh region)) := by
  intro device member
  obtain ⟨record, -, rfl⟩ := List.mem_map.mp member
  rfl

/-- A table with right checksums is its records. -/
theorem entries_eq (stamped : AllStamped region table) :
    table.map Neighbour.entry =
      (recordsOf table).map fun record => (fresh region record).entry := by
  rw [recordsOf, List.map_map]
  refine List.map_congr_left fun device member => ?_
  have crc := stamped device member
  rw [Function.comp_apply, fresh, ← crc]

end Tables

/-- The tables of a board with a role agree with the bytes. -/
structure InStep (role : DeviceType) (s : StorageImage) : Prop where
  infra : infraRegion.Holds s.image (recordsOf s.infra)
  infraStamped : AllStamped infraRegion s.infra
  sensors : ∃ records, sensorRegion.Holds s.image records ∧
    records.length = s.sensors.length ∧
      (role = .gateway ∨ role = .anchor →
        records = recordsOf s.sensors ∧ AllStamped sensorRegion s.sensors)
  mesh : ∃ records, meshRegion.Holds s.image records ∧
    records.length = s.mesh.length ∧
      (role = .gateway → records.map MeshRecord.ram = s.mesh)

section Operations

variable {role : DeviceType} {s : StorageImage}

theorem sortInfraDevices_length (s : StorageImage) :
    s.sortInfraDevices.infra.length = s.infra.length :=
  (BubbleSort.sort_perm _ _).length_eq

/-- The neighbours are flushed. -/
theorem InStep.flushInfra (inStep : InStep role s)
    {table : List (Neighbour (Stamped InfraRecord))}
    (fits : table.length ≤ maxAnchors) :
    InStep role ({ s with infra := table } : StorageImage).flushInfraToEeprom
    where
  infra := by
    simp only [StorageImage.flushInfraToEeprom, recordsOf_stamp]
    exact Region.holds_flush _ (by rw [recordsOf_length]; exact fits)
  infraStamped := allStamped_map table
  sensors := by
    obtain ⟨records, holds, rest⟩ := inStep.sensors
    have keeps := @Region.flush_keeps _ infraRegion (recordsOf table) s.image
      (by rw [recordsOf_length]; exact fits)
    exact ⟨records, keeps.elsewhere (.inl (by decide)) holds, rest⟩
  mesh := by
    obtain ⟨records, holds, rest⟩ := inStep.mesh
    have keeps := @Region.flush_keeps _ infraRegion (recordsOf table) s.image
      (by rw [recordsOf_length]; exact fits)
    exact ⟨records, keeps.elsewhere (.inl (by decide)) holds, rest⟩

/-- The sensors are flushed. -/
theorem InStep.flushSensors (inStep : InStep role s)
    {table : List (Neighbour (Stamped SensorRecord))}
    (fits : table.length ≤ maxSensors) :
    InStep role
      ({ s with sensors := table } : StorageImage).flushSensorsToEeprom where
  infra := by
    have keeps := @Region.flush_keeps _ sensorRegion (recordsOf table) s.image
      (by rw [recordsOf_length]; exact fits)
    exact keeps.elsewhere (.inr (by decide)) inStep.infra
  infraStamped := inStep.infraStamped
  sensors := by
    refine ⟨recordsOf table, Region.holds_flush _
      (by rw [recordsOf_length]; exact fits), ?_, fun _ => ⟨?_, ?_⟩⟩
    · simp [StorageImage.flushSensorsToEeprom]
    · simp [StorageImage.flushSensorsToEeprom]
    · exact allStamped_map table
  mesh := by
    obtain ⟨records, holds, rest⟩ := inStep.mesh
    have keeps := @Region.flush_keeps _ sensorRegion (recordsOf table) s.image
      (by rw [recordsOf_length]; exact fits)
    exact ⟨records, keeps.elsewhere (.inl (by decide)) holds, rest⟩

/-- The mesh table and its partition change together. -/
theorem InStep.meshChanged (inStep : InStep role s)
    {mesh : List MeshEntry} {image : Store} {records : List MeshRecord}
    (keeps : meshRegion.Keeps s.image image)
    (holds : meshRegion.Holds image records)
    (length : records.length = mesh.length)
    (same : role = .gateway → records.map MeshRecord.ram = mesh) :
    InStep role { s with mesh := mesh, image := image } where
  infra := keeps.elsewhere (.inr (by decide)) inStep.infra
  infraStamped := inStep.infraStamped
  sensors := by
    obtain ⟨records, holds, rest⟩ := inStep.sensors
    exact ⟨records, keeps.elsewhere (.inr (by decide)) holds, rest⟩
  mesh := ⟨records, holds, length, same⟩

theorem InStep.infra_length (inStep : InStep role s) :
    s.infra.length ≤ maxAnchors := by
  have fits := inStep.infra.fits
  rw [recordsOf_length] at fits
  exact fits

theorem InStep.sensors_length (inStep : InStep role s) :
    s.sensors.length ≤ maxSensors := by
  obtain ⟨records, holds, length, -⟩ := inStep.sensors
  have fits := holds.fits
  rw [length] at fits
  exact fits

theorem InStep.mesh_length (inStep : InStep role s) :
    s.mesh.length ≤ maxDevices := by
  obtain ⟨records, holds, length, -⟩ := inStep.mesh
  have fits := holds.fits
  rw [length] at fits
  exact fits

theorem InStep.infraAdd (inStep : InStep role s)
    (entry : Stamped InfraRecord) :
    InStep role (s.storageInfraAdd entry).1 := by
  unfold StorageImage.storageInfraAdd
  split
  · exact inStep
  · next room =>
    refine inStep.flushInfra ?_
    rw [(BubbleSort.sort_perm _ _).length_eq, List.length_append]
    exact Nat.lt_of_not_le room

theorem InStep.infraUpdate (inStep : InStep role s) (index : Nat)
    (entry : Stamped InfraRecord) :
    InStep role (s.storageInfraUpdate index entry).1 := by
  unfold StorageImage.storageInfraUpdate
  split
  · exact inStep
  · refine inStep.flushInfra ?_
    rw [(BubbleSort.sort_perm _ _).length_eq, List.length_set]
    exact inStep.infra_length

theorem InStep.infraRemove (inStep : InStep role s) (index : Nat) :
    InStep role (s.storageInfraRemove index).1 := by
  unfold StorageImage.storageInfraRemove
  split
  · exact inStep
  · refine inStep.flushInfra ?_
    exact Nat.le_trans (List.length_eraseIdx_le _ _) inStep.infra_length

theorem InStep.infraClear (inStep : InStep role s) :
    InStep role s.storageInfraClear.1 where
  infra := Region.holds_empty s.image
  infraStamped := fun device member => by cases member
  sensors := by
    obtain ⟨records, holds, rest⟩ := inStep.sensors
    exact ⟨records, (Region.writeHeader_keeps 0 s.image).elsewhere
      (.inl (by decide)) holds, rest⟩
  mesh := by
    obtain ⟨records, holds, rest⟩ := inStep.mesh
    exact ⟨records, (Region.writeHeader_keeps 0 s.image).elsewhere
      (.inl (by decide)) holds, rest⟩

theorem InStep.sensorAdd (inStep : InStep role s)
    (entry : Stamped SensorRecord) :
    InStep role (s.storageSensorAdd entry).1 := by
  unfold StorageImage.storageSensorAdd
  split
  · exact inStep
  · next room =>
    refine inStep.flushSensors ?_
    rw [List.length_append]
    exact Nat.lt_of_not_le room

theorem InStep.sensorUpdate (inStep : InStep role s) (index : Nat)
    (entry : Stamped SensorRecord) :
    InStep role (s.storageSensorUpdate index entry).1 := by
  unfold StorageImage.storageSensorUpdate
  split
  · exact inStep
  · refine inStep.flushSensors ?_
    rw [List.length_set]
    exact inStep.sensors_length

theorem InStep.sensorRemove (inStep : InStep role s) (index : Nat) :
    InStep role (s.storageSensorRemove index).1 := by
  unfold StorageImage.storageSensorRemove
  split
  · exact inStep
  · refine inStep.flushSensors ?_
    exact Nat.le_trans (List.length_eraseIdx_le _ _) inStep.sensors_length

theorem InStep.sensorClear (inStep : InStep role s) :
    InStep role s.storageSensorClear.1 where
  infra := (Region.writeHeader_keeps 0 s.image).elsewhere (.inr (by decide))
    inStep.infra
  infraStamped := inStep.infraStamped
  sensors := ⟨[], Region.holds_empty s.image, rfl, fun _ =>
    ⟨rfl, fun device member => by cases member⟩⟩
  mesh := by
    obtain ⟨records, holds, rest⟩ := inStep.mesh
    exact ⟨records, (Region.writeHeader_keeps 0 s.image).elsewhere
      (.inl (by decide)) holds, rest⟩

theorem InStep.meshAdd (inStep : InStep role s)
    (entry : Stamped MeshRecord) :
    InStep role (s.storageMeshAdd entry).1 := by
  unfold StorageImage.storageMeshAdd
  split
  · exact inStep
  · next full =>
    obtain ⟨records, holds, length, same⟩ := inStep.mesh
    have room : records.length < meshRegion.capacity := by
      rw [length]
      exact Nat.lt_of_not_le full
    have added := holds.append room entry.record
    rw [length] at added room
    refine inStep.meshChanged ?_ added ?_ fun gateway => ?_
    · exact (Region.writeCell_keeps entry.record s.image room).trans
        (Region.writeHeader_keeps _ _)
    · rw [List.length_append, List.length_append, length]
      rfl
    · rw [List.map_append, same gateway]
      rfl

theorem InStep.meshUpdate (inStep : InStep role s) {index : Nat}
    {entry : Stamped MeshRecord} {mesh : List MeshEntry}
    (length : mesh.length = s.mesh.length)
    (mirrors : role = .gateway →
      mesh = s.mesh.set index entry.record.ram) :
    InStep role (({ s with mesh := mesh } :
      StorageImage).storageMeshUpdate index entry).1 ∨
        s.mesh.length ≤ index := by
  by_cases outside : s.mesh.length ≤ index
  · exact .inr outside
  · obtain ⟨records, holds, count, same⟩ := inStep.mesh
    have room : index < meshRegion.capacity := by
      have fits := holds.fits
      omega
    left
    unfold StorageImage.storageMeshUpdate
    rw [if_neg (by rw [length]; exact outside)]
    refine inStep.meshChanged
      (Region.writeCell_keeps entry.record s.image room)
      (holds.set index entry.record) ?_ fun gateway => ?_
    · rw [List.length_set, count, length]
    · rw [List.map_set, same gateway, mirrors gateway]

theorem InStep.meshRemove (inStep : InStep role s) (index : Nat) :
    InStep role (s.storageMeshRemove index).1 := by
  unfold StorageImage.storageMeshRemove
  split
  · exact inStep
  · next inside =>
    obtain ⟨records, holds, length, same⟩ := inStep.mesh
    have removed := holds.erase (show index < records.length by omega)
    have fits := holds.fits
    rw [length] at removed fits
    refine inStep.meshChanged ?_ removed ?_ fun gateway => ?_
    · exact (Region.shift_keeps s.image fits).trans
        (Region.writeHeader_keeps _ _)
    · rw [List.length_eraseIdx, List.length_eraseIdx, length]
    · rw [← List.eraseIdx_map, same gateway]

theorem InStep.meshClear (inStep : InStep role s) :
    InStep role s.storageMeshClear.1 :=
  inStep.meshChanged (Region.writeHeader_keeps 0 s.image)
    (Region.holds_empty s.image) rfl fun _ => rfl

/-- What `update_mesh_storage` changes in RAM is what it changes in the
EEPROM. -/
theorem ram_updatedMesh (pkt : DeviceUpdated) (entry : MeshRecord) :
    (MeshPlane.updatedMesh pkt entry).ram =
      MeshPlane.updatedRow pkt entry entry.ram := by
  simp only [MeshPlane.updatedMesh, MeshPlane.updatedRow, MeshRecord.ram,
    MeshEntry.mk.injEq, true_and]
  constructor
  · by_cases unknown : pkt.connectedDeviceId = 0xFFFF
    · simp [unknown]
    · by_cases same : entry.connectedDeviceId = pkt.connectedDeviceId
      · simp [unknown, same]
      · simp [unknown, same]
  · by_cases unknown : pkt.hopNum = 0xFF
    · simp [unknown]
    · by_cases same : entry.hopNum = pkt.hopNum
      · simp [unknown, same]
      · simp [unknown, same]

theorem InStep.updateMesh (inStep : InStep role s) (deviceId : UInt16)
    (pkt : DeviceUpdated) :
    InStep role (s.updateMeshStorage deviceId pkt).1 := by
  unfold StorageImage.updateMeshStorage
  split
  · exact inStep
  · next index found =>
    have inside : index < s.mesh.length :=
      (List.findIdx?_eq_some_iff_getElem.mp found).1
    obtain ⟨records, holds, length, same⟩ := inStep.mesh
    have counted : index < records.length := length ▸ inside
    have stored := Region.readCell_sealed (holds.cells index _
      (List.getElem?_eq_getElem counted))
    split
    · exact inStep
    · next entry read =>
      rw [StorageImage.storageMeshGet, if_neg (by omega), stored,
        Option.map_some, Option.some.injEq] at read
      subst read
      refine (inStep.meshUpdate ?_ fun gateway => ?_).resolve_right (by omega)
      · exact List.length_modify _ _ _
      · have row : s.mesh[index] = records[index].ram := by
          simp [← same gateway]
        apply List.ext_getElem
        · simp
        · intro position _ _
          rw [List.getElem_modify, List.getElem_set]
          split
          · next here =>
            subst here
            rw [ram_updatedMesh, row]
          · rfl

/-- A direct call of `storage_mesh_update` writes an entry whose fields are
in the RAM table of a gateway already. -/
def StorageOp.Mirrors (role : DeviceType) (s : StorageImage) : StorageOp → Prop
  | .meshUpdate index entry => role = .gateway →
      ∀ row, s.mesh[index]? = some row → entry.record.ram = row
  | _ => True

/-- Every operation keeps tables and bytes in step. -/
theorem InStep.perform (inStep : InStep role s) {op : StorageOp}
    (mirrors : op.Mirrors role s) : InStep role (s.perform op) := by
  cases op with
  | infraAdd entry => exact inStep.infraAdd entry
  | infraUpdate index entry => exact inStep.infraUpdate index entry
  | infraRemove index => exact inStep.infraRemove index
  | infraClear => exact inStep.infraClear
  | sensorAdd entry => exact inStep.sensorAdd entry
  | sensorUpdate index entry => exact inStep.sensorUpdate index entry
  | sensorRemove index => exact inStep.sensorRemove index
  | sensorClear => exact inStep.sensorClear
  | meshAdd entry => exact inStep.meshAdd entry
  | meshUpdate index entry =>
      by_cases outside : s.mesh.length ≤ index
      · rw [StorageImage.perform, StorageImage.storageMeshUpdate,
          if_pos outside]
        exact inStep
      · refine (@InStep.meshUpdate _ _ inStep index entry s.mesh rfl
          fun gateway => ?_).resolve_right outside
        have inside : index < s.mesh.length := Nat.lt_of_not_le outside
        rw [mirrors gateway _ (List.getElem?_eq_getElem inside),
          List.set_getElem_self]
  | meshRemove index => exact inStep.meshRemove index
  | meshClear => exact inStep.meshClear
  | updateMesh deviceId pkt => exact inStep.updateMesh deviceId pkt

end Operations

section Partitions

variable {role : DeviceType} {s : StorageImage}

/-- Bytes outside a partition stay. -/
def Confined (partition : Nat × Nat) (before after : Store) : Prop :=
  ∀ cell, cell < partition.1 ∨ partition.1 + partition.2 ≤ cell →
    after cell = before cell

theorem confined_of_keeps
    {Record : Type} {region : Region Record} {before after : Store} {size : Nat}
    (keeps : region.Keeps before after) (fits : region.limit ≤ region.base + size) :
    Confined (region.base, size) before after := by
  intro cell outside
  refine keeps cell ?_
  rcases outside with below | above
  · exact .inl below
  · exact .inr (Nat.le_trans fits above)

theorem confined_refl (partition : Nat × Nat) (store : Store) :
    Confined partition store store :=
  fun _ _ => rfl

/-- Every operation stays in its partition. -/
theorem InStep.confined (inStep : InStep role s) (op : StorageOp) :
    Confined op.partition s.image (s.perform op).image := by
  have infraFits := regions_fit.1
  have sensorFits := regions_fit.2.1
  have meshFits := regions_fit.2.2
  have infraTable {table : List (Neighbour (Stamped InfraRecord))}
      (fits : table.length ≤ maxAnchors) :
      Confined (0x00000, 0x00080) s.image
        (infraRegion.flush (recordsOf table) s.image) :=
    confined_of_keeps
      (Region.flush_keeps _ _ (by rw [recordsOf_length]; exact fits)) infraFits
  have sensorTable {table : List (Neighbour (Stamped SensorRecord))}
      (fits : table.length ≤ maxSensors) :
      Confined (0x00080, 0x00400) s.image
        (sensorRegion.flush (recordsOf table) s.image) :=
    confined_of_keeps
      (Region.flush_keeps _ _ (by rw [recordsOf_length]; exact fits)) sensorFits
  have meshRoom := inStep.mesh_length
  cases op with
  | infraAdd entry =>
      simp only [StorageImage.perform, StorageImage.storageInfraAdd]
      split
      · exact confined_refl _ _
      · next room =>
        refine infraTable ?_
        rw [sortInfraDevices_length, List.length_append]
        exact Nat.lt_of_not_le room
  | infraUpdate index entry =>
      simp only [StorageImage.perform, StorageImage.storageInfraUpdate]
      split
      · exact confined_refl _ _
      · refine infraTable ?_
        rw [sortInfraDevices_length, List.length_set]
        exact inStep.infra_length
  | infraRemove index =>
      simp only [StorageImage.perform, StorageImage.storageInfraRemove]
      split
      · exact confined_refl _ _
      · exact infraTable
          (Nat.le_trans (List.length_eraseIdx_le _ _) inStep.infra_length)
  | infraClear =>
      exact confined_of_keeps (Region.writeHeader_keeps 0 s.image) infraFits
  | sensorAdd entry =>
      simp only [StorageImage.perform, StorageImage.storageSensorAdd]
      split
      · exact confined_refl _ _
      · next room =>
        refine sensorTable ?_
        rw [List.length_append]
        exact Nat.lt_of_not_le room
  | sensorUpdate index entry =>
      simp only [StorageImage.perform, StorageImage.storageSensorUpdate]
      split
      · exact confined_refl _ _
      · refine sensorTable ?_
        rw [List.length_set]
        exact inStep.sensors_length
  | sensorRemove index =>
      simp only [StorageImage.perform, StorageImage.storageSensorRemove]
      split
      · exact confined_refl _ _
      · exact sensorTable
          (Nat.le_trans (List.length_eraseIdx_le _ _) inStep.sensors_length)
  | sensorClear =>
      exact confined_of_keeps (Region.writeHeader_keeps 0 s.image) sensorFits
  | meshAdd entry =>
      simp only [StorageImage.perform, StorageImage.storageMeshAdd]
      split
      · exact confined_refl _ _
      · next full =>
        exact confined_of_keeps
          ((Region.writeCell_keeps entry.record s.image
            (Nat.lt_of_not_le full)).trans (Region.writeHeader_keeps _ _))
          meshFits
  | meshUpdate index entry =>
      simp only [StorageImage.perform, StorageImage.storageMeshUpdate]
      split
      · exact confined_refl _ _
      · next inside =>
        exact confined_of_keeps (Region.writeCell_keeps entry.record s.image
          (Nat.lt_of_lt_of_le (Nat.lt_of_not_le inside) meshRoom)) meshFits
  | meshRemove index =>
      simp only [StorageImage.perform, StorageImage.storageMeshRemove]
      split
      · exact confined_refl _ _
      · exact confined_of_keeps ((Region.shift_keeps s.image meshRoom).trans
          (Region.writeHeader_keeps _ _)) meshFits
  | meshClear =>
      exact confined_of_keeps (Region.writeHeader_keeps 0 s.image) meshFits
  | updateMesh deviceId pkt =>
      simp only [StorageImage.perform, StorageImage.updateMeshStorage]
      split
      · exact confined_refl _ _
      · next index found =>
        have inside : index < s.mesh.length :=
          (List.findIdx?_eq_some_iff_getElem.mp found).1
        split
        · exact confined_refl _ _
        · unfold StorageImage.storageMeshUpdate
          split
          · exact confined_refl _ _
          · exact confined_of_keeps (Region.writeCell_keeps _ s.image
              (Nat.lt_of_lt_of_le inside meshRoom)) meshFits

end Partitions

section Runs

variable {role : DeviceType} {s : StorageImage} {image : Store}

/-- The three partitions are well formed. -/
def SoundImage (image : Store) : Prop :=
  (∃ records, infraRegion.Holds image records) ∧
    (∃ records, sensorRegion.Holds image records) ∧
      ∃ records, meshRegion.Holds image records

/-- What `storage_init` loads from a sound image is in step with it. -/
theorem inStep_storageInit (role : DeviceType) (sound : SoundImage image) :
    InStep role (StorageImage.storageInit role image) := by
  obtain ⟨⟨infra, infraHolds⟩, ⟨sensors, sensorHolds⟩, mesh, meshHolds⟩ := sound
  have infraFits : infra.length ≤ 8 := infraHolds.fits
  have sensorFits : sensors.length ≤ 64 := sensorHolds.fits
  have infraCount : infraRegion.readHeader image % 256 = infra.length := by
    rw [infraHolds.header]
    omega
  have sensorCount : sensorRegion.readHeader image % 256 = sensors.length := by
    rw [sensorHolds.header]
    omega
  constructor
  · simp only [StorageImage.storageInit]
    rw [infraCount, loadTable_holds infraHolds, recordsOf_fresh]
    exact infraHolds
  · simp only [StorageImage.storageInit]
    rw [infraCount, loadTable_holds infraHolds]
    exact allStamped_fresh infra
  · refine ⟨sensors, sensorHolds, ?_, fun loads => ?_⟩
    · simp only [StorageImage.storageInit]
      rw [sensorCount, loadTable_holds sensorHolds]
      split
      · rw [List.length_map]
      · rw [List.length_replicate]
    · simp only [StorageImage.storageInit]
      rw [if_pos loads, sensorCount, loadTable_holds sensorHolds,
        recordsOf_fresh]
      exact ⟨rfl, allStamped_fresh sensors⟩
  · refine ⟨mesh, meshHolds, ?_, fun gateway => ?_⟩
    · simp only [StorageImage.storageInit]
      rw [meshHolds.header, loadMesh_holds meshHolds]
      split
      · rw [List.length_map]
      · rw [List.length_replicate]
    · simp only [StorageImage.storageInit]
      rw [if_pos gateway, meshHolds.header, loadMesh_holds meshHolds]

theorem InStep.sound (inStep : InStep role s) : SoundImage s.image := by
  obtain ⟨sensors, sensorHolds, -⟩ := inStep.sensors
  obtain ⟨mesh, meshHolds, -⟩ := inStep.mesh
  exact ⟨⟨_, inStep.infra⟩, ⟨sensors, sensorHolds⟩, mesh, meshHolds⟩

/-- Every record that a header counts has the right checksum. -/
def AllValid (image : Store) : Prop :=
  (∀ index, index < infraRegion.readHeader image →
      (infraRegion.readCell image index).isSome = true) ∧
    (∀ index, index < sensorRegion.readHeader image →
      (sensorRegion.readCell image index).isSome = true) ∧
      ∀ index, index < meshRegion.readHeader image →
        (meshRegion.readCell image index).isSome = true

theorem SoundImage.allValid (sound : SoundImage image) : AllValid image := by
  obtain ⟨⟨_, infra⟩, ⟨_, sensors⟩, _, mesh⟩ := sound
  exact ⟨infra.readable, sensors.readable, mesh.readable⟩

/-- A restart loads the tables of the role. -/
def Reloads (role : DeviceType) (s : StorageImage) : Prop :=
  (StorageImage.storageInit role s.image).infra.map Neighbour.entry =
      s.infra.map Neighbour.entry ∧
    (role = .gateway ∨ role = .anchor →
      (StorageImage.storageInit role s.image).sensors.map Neighbour.entry =
        s.sensors.map Neighbour.entry) ∧
      (role = .gateway →
        (StorageImage.storageInit role s.image).mesh = s.mesh)

theorem InStep.reloads (inStep : InStep role s) : Reloads role s := by
  obtain ⟨sensors, sensorHolds, sensorCount, sensorSame⟩ := inStep.sensors
  obtain ⟨mesh, meshHolds, meshCount, meshSame⟩ := inStep.mesh
  have infraFits := inStep.infra_length
  have sensorFits := inStep.sensors_length
  have anchors : maxAnchors = 8 := rfl
  have most : maxSensors = 64 := rfl
  refine ⟨?_, fun loads => ?_, fun gateway => ?_⟩
  · have count : infraRegion.readHeader s.image % 256 =
        (recordsOf s.infra).length := by
      rw [inStep.infra.header, recordsOf_length]
      omega
    simp only [StorageImage.storageInit]
    rw [count, loadTable_holds inStep.infra, entries_eq inStep.infraStamped,
      List.map_map]
    rfl
  · obtain ⟨same, stamped⟩ := sensorSame loads
    have count : sensorRegion.readHeader s.image % 256 = sensors.length := by
      rw [sensorHolds.header, sensorCount]
      omega
    simp only [StorageImage.storageInit]
    rw [if_pos loads, count, loadTable_holds sensorHolds, entries_eq stamped,
      List.map_map, same]
    rfl
  · simp only [StorageImage.storageInit]
    rw [if_pos gateway, meshHolds.header, loadMesh_holds meshHolds,
      meshSame gateway]

/-- One operation as a step that cannot fail. -/
def storageStep (s : StorageImage) (op : StorageOp) :
    Except Fault StorageImage :=
  .ok (s.perform op)

/-- On every board that starts with a sound image, and whose calls of
`storage_mesh_update` write what its RAM table says, a restart loads the
tables that are in RAM, every stored checksum is right, and the next operation
stays in its partition. -/
theorem tables_reload
    (sound : SoundImage image)
    (reach : Trace.Reach storageStep (fun s op => op.Mirrors role s)
      (StorageImage.storageInit role image) s) :
    Reloads role s ∧ AllValid s.image ∧
      ∀ op : StorageOp,
        Confined op.partition s.image (s.perform op).image := by
  have inStep : InStep role s := by
    apply reach.invariant
    · exact inStep_storageInit role sound
    · intro before op after held mirrors moved
      cases moved
      exact held.perform mirrors
  exact ⟨inStep.reloads, inStep.sound.allValid, inStep.confined⟩

/-- An erased EEPROM. -/
def erased : Store := fun _ => 0xFF

theorem erased_sound : SoundImage erased := by
  have empty {Record : Type} {region : Region Record} :
      region.Holds erased [] :=
    { header := rfl
      fits := Nat.zero_le _
      cells := fun index entry here => by cases here }
  exact ⟨⟨[], empty⟩, ⟨[], empty⟩, [], empty⟩

/-- Anchor 2 with serial number 7, one hop away. -/
def storedAnchor : Stamped MeshRecord where
  record :=
    { deviceType := 2, deviceId := 2, serialNum := 7, hopNum := 1 }

/-- A gateway pairs it, and then hears that it is two hops away. -/
def storedOps : List StorageOp :=
  [.meshAdd storedAnchor,
    .updateMesh 2
      { hdr := { deviceType := 2, deviceId := 1 }
        deviceType := 2, deviceId := 2, serialNum := 7, version := 1
        hopNum := 2, connectedDeviceId := 3, sensorCount := 0 }]

theorem tables_reload_anchor :
    Trace.Ends storageStep (StorageImage.storageInit .gateway erased) storedOps
      (Reloads .gateway) := by
  have admitted : ∀ op ∈ storedOps, ∀ before,
      op.Mirrors .gateway before := by
    intro op member before
    simp only [storedOps, List.mem_cons, List.not_mem_nil, or_false] at member
    rcases member with rfl | rfl
    · trivial
    · trivial
  exact ⟨_, rfl, (tables_reload erased_sound (.of_run admitted rfl)).1⟩

/-- A direct `storage_mesh_update` with another hop number leaves the RAM table
behind: the restart loads the new number. -/
theorem meshUpdate_unmirrored :
    Trace.Ends storageStep (StorageImage.storageInit .gateway erased)
      [.meshAdd storedAnchor,
        .meshUpdate 0
          { record := { storedAnchor.record with hopNum := 2 } }]
      fun s =>
        (StorageImage.storageInit .gateway s.image).mesh ≠ s.mesh := by
  decide +kernel

end Runs

end DectMesh
