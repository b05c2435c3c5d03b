import DectMesh.Mesh.Reload
import DectMesh.Mesh.Run
import DectMesh.Mesh.Tables

/-!
# From the bytes to the partitions

Seen through its headers and its readable entries, the EEPROM image follows
the partitions of `Storage`: every operation on the tables gives the same
tables, the same result and a matching image.
-/

namespace DectMesh

open ByteStore RecordStore

section Views

variable {Record : Type} {region : Region Record} {image after : Store}
variable {part : Partition Record} {index other : Nat}

/-- A record depends on its own bytes. -/
theorem readCell_congr
    (same : region.cellBytes after index = region.cellBytes image other) :
    region.readCell after index = region.readCell image other := by
  rw [Region.readCell, Region.readCell, same]

/-- What the reads of a partition see in the bytes of its region. -/
structure Views (region : Region Record) (image : Store)
    (part : Partition Record) : Prop where
  header : (part.header.map UInt16.toNat).getD 0 = region.readHeader image
  cells : ∀ index, index < region.capacity →
    part.cells index = (region.readCell image index).map Prod.fst

theorem Views.congr (views : Views region image part)
    (same : AgreeOn after image region.base region.limit) :
    Views region after part where
  header := by
    have first := @Region.header_le_addr Record region region.capacity
    have bytes : slice after region.base 4 = slice image region.base 4 :=
      slice_congr same (Nat.le_refl _) first
    rw [views.header, Region.readHeader, Region.readHeader, bytes]
  cells := by
    intro index inside
    have first := @Region.header_le_addr Record region index
    have bytes : region.cellBytes after index = region.cellBytes image index :=
      slice_congr same (Nat.le_trans (Nat.le_add_right _ _) first)
        (Region.addr_end inside)
    rw [views.cells index inside, readCell_congr bytes]

/-- A write to one region leaves the view of another. -/
theorem Views.elsewhere {Other : Type} {region' : Region Other}
    {part : Partition Other} (views : Views region' image part)
    (keeps : region.Keeps image after)
    (apart : region.limit ≤ region'.base ∨ region'.limit ≤ region.base) :
    Views region' after part := by
  refine views.congr fun cell lower upper => keeps cell ?_
  rcases apart with above | below
  · exact .inr (Nat.le_trans above lower)
  · exact .inl (Nat.lt_of_lt_of_le upper below)

theorem Views.writeHeader {count : Nat} (views : Views region image part)
    (small : count < 65536) :
    Views region (region.writeHeader count image)
      { part with header := some (UInt16.ofNat count) } where
  header := by
    have number : (UInt16.ofNat count).toNat = count := by
      rw [UInt16.toNat_ofNat']
      exact Nat.mod_eq_of_lt small
    rw [Region.readHeader_writeHeader image small, Option.map_some,
      Option.getD_some, number]
  cells := by
    intro index inside
    rw [views.cells index inside,
      readCell_congr (Region.cellBytes_writeHeader count image index)]

theorem Views.writeCell (views : Views region image part) (index : Nat)
    (entry : Record) :
    Views region (region.writeCell index entry image)
      { part with cells := Function.update part.cells index (some entry) } where
  header := by
    rw [Region.readHeader_writeCell]
    exact views.header
  cells := by
    intro other inside
    dsimp only
    by_cases same : other = index
    · subst same
      rw [Function.update_self, Region.readCell_sealed
        (Region.cellBytes_writeCell_self other entry image)]
      rfl
    · rw [Function.update_of_ne same, views.cells other inside,
        readCell_congr (Region.cellBytes_writeCell_other entry image same)]

/-- The cells after records were written one after another. -/
def writtenCells : List Record → Nat → (Nat → Option Record) →
    Nat → Option Record
  | [], _, cells => cells
  | entry :: rest, index, cells =>
      writtenCells rest (index + 1) (Function.update cells index (some entry))

theorem Views.writeCells (views : Views region image part)
    (entries : List Record) (index : Nat) :
    Views region (region.writeCells entries index image)
      { part with cells := writtenCells entries index part.cells } := by
  induction entries generalizing index image part with
  | nil => exact views
  | cons entry rest ih => exact ih (views.writeCell index entry) (index + 1)

theorem Views.flush {entries : List Record} (views : Views region image part)
    (fits : entries.length ≤ region.capacity) :
    Views region (region.flush entries image)
      { header := some (UInt16.ofNat entries.length)
        cells := writtenCells entries 0 part.cells } :=
  (views.writeCells entries 0).writeHeader
    (Nat.lt_of_le_of_lt fits region.countable)

/-- The records from the end of the moved block on stay. -/
theorem cellBytes_shift_after {count : Nat} (behind : count ≤ other + 1) :
    region.cellBytes (region.shift index count image) other =
      region.cellBytes image other := by
  unfold Region.shift
  split
  · next some =>
    refine slice_splice_of_disjoint image (.inr ?_)
    have last := @Region.addr_le Record region (index + (count - 1 - index))
      other (by omega)
    rw [Region.addr_add] at last
    rw [slice_length]
    exact last
  · rfl

theorem Views.shift {count : Nat} (views : Views region image part)
    (index : Nat) (inside : count ≤ region.capacity) :
    Views region (region.shift index count image)
      { part with
        cells := fun i =>
          if index ≤ i ∧ i + 1 < count then
            part.cells (i + 1)
          else
            part.cells i } where
  header := by
    rw [Region.readHeader_shift]
    exact views.header
  cells := by
    intro other below
    dsimp only
    split
    · next moved =>
      rw [views.cells (other + 1) (by omega),
        readCell_congr (Region.cellBytes_shift image moved.1 moved.2)]
    · next stays =>
      rw [views.cells other below]
      by_cases before : other < index
      · rw [readCell_congr (Region.cellBytes_shift_before image before)]
      · rw [readCell_congr (cellBytes_shift_after (by omega))]

end Views

namespace Eeprom

variable {rom : Eeprom}

/-- The contents of the partitions do not matter. -/
theorem Reliable.withInfra (reliable : rom.Reliable)
    (part : Partition InfraRecord) :
    ({ rom with infra := part } : Eeprom).Reliable := reliable

theorem Reliable.withSensors (reliable : rom.Reliable)
    (part : Partition SensorRecord) :
    ({ rom with sensors := part } : Eeprom).Reliable := reliable

theorem Reliable.withMesh (reliable : rom.Reliable)
    (part : Partition MeshRecord) :
    ({ rom with mesh := part } : Eeprom).Reliable := reliable

/-- A reliable EEPROM has no outcomes to consume. -/
theorem Reliable.advance_eq (reliable : rom.Reliable) : rom.advance = rom := by
  obtain ⟨infra, sensors, mesh, failures⟩ := rom
  have none : failures = [] := reliable
  subst none
  rfl

theorem Reliable.writeInfra (reliable : rom.Reliable) (index : Nat)
    (entry : InfraRecord) :
    rom.writeInfra index entry =
      ({ rom with infra := { rom.infra with
          cells := Function.update rom.infra.cells index (some entry) } },
        none) := by
  rw [Eeprom.writeInfra, reliable.advance_eq, reliable.written,
    reliable.status]

theorem Reliable.writeInfraHeader (reliable : rom.Reliable) (count : Nat) :
    rom.writeInfraHeader count =
      ({ rom with infra := { rom.infra with
          header := some (UInt16.ofNat count) } }, none) := by
  rw [Eeprom.writeInfraHeader, reliable.advance_eq, reliable.written,
    reliable.status]

theorem Reliable.writeSensor (reliable : rom.Reliable) (index : Nat)
    (entry : SensorRecord) :
    rom.writeSensor index entry =
      ({ rom with sensors := { rom.sensors with
          cells := Function.update rom.sensors.cells index (some entry) } },
        none) := by
  rw [Eeprom.writeSensor, reliable.advance_eq, reliable.written,
    reliable.status]

theorem Reliable.writeSensorHeader (reliable : rom.Reliable) (count : Nat) :
    rom.writeSensorHeader count =
      ({ rom with sensors := { rom.sensors with
          header := some (UInt16.ofNat count) } }, none) := by
  rw [Eeprom.writeSensorHeader, reliable.advance_eq, reliable.written,
    reliable.status]

theorem Reliable.writeMesh (reliable : rom.Reliable) (index : Nat)
    (entry : MeshRecord) :
    rom.writeMesh index entry =
      ({ rom with mesh := { rom.mesh with
          cells := Function.update rom.mesh.cells index (some entry) } },
        none) := by
  rw [Eeprom.writeMesh, reliable.advance_eq, reliable.written,
    reliable.status]

theorem Reliable.writeMeshHeader (reliable : rom.Reliable) (count : Nat) :
    rom.writeMeshHeader count =
      ({ rom with mesh := { rom.mesh with
          header := some (UInt16.ofNat count) } }, none) := by
  rw [Eeprom.writeMeshHeader, reliable.advance_eq, reliable.written,
    reliable.status]

theorem Reliable.shiftMesh (reliable : rom.Reliable) (index count : Nat) :
    rom.shiftMesh index count =
      ({ rom with mesh := { rom.mesh with
          cells := fun i =>
            if index ≤ i ∧ i + 1 < count then
              rom.mesh.cells (i + 1)
            else
              rom.mesh.cells i } }, none) := by
  simp only [Eeprom.shiftMesh, reliable.status, reliable.advance_eq,
    reliable.written]

end Eeprom

section Tables

variable {Record : Type} {region : Region Record}

/-- A device without the checksum of its entry. -/
def bare (device : Neighbour (Stamped Record)) : Neighbour Record where
  entry := device.entry.record
  lastCommMs := device.lastCommMs
  commFailures := device.commFailures
  isPingPacketSent := device.isPingPacketSent

@[simp]
theorem bare_stamp (table : List (Neighbour (Stamped Record))) :
    (table.map (stamp region)).map bare = table.map bare := by
  rw [List.map_map]
  rfl

theorem flushInfraEntries_reliable {rom : Eeprom} (reliable : rom.Reliable)
    (table : List (Neighbour (Stamped InfraRecord))) (index : Nat) :
    Storage.flushInfraEntries (table.map bare) index rom =
      ({ rom with infra := { rom.infra with
          cells := writtenCells (recordsOf table) index rom.infra.cells } },
        none) := by
  induction table generalizing index rom with
  | nil => rfl
  | cons device rest ih =>
      simp only [List.map_cons, Storage.flushInfraEntries,
        reliable.writeInfra]
      exact ih (reliable.withInfra _) (index + 1)

theorem flushSensorEntries_reliable {rom : Eeprom} (reliable : rom.Reliable)
    (table : List (Neighbour (Stamped SensorRecord))) (index : Nat) :
    Storage.flushSensorEntries (table.map bare) index rom =
      ({ rom with sensors := { rom.sensors with
          cells := writtenCells (recordsOf table) index rom.sensors.cells } },
        none) := by
  induction table generalizing index rom with
  | nil => rfl
  | cons device rest ih =>
      simp only [List.map_cons, Storage.flushSensorEntries,
        reliable.writeSensor]
      exact ih (reliable.withSensors _) (index + 1)

theorem flushInfraToEeprom_reliable {t : Storage}
    (reliable : t.eeprom.Reliable)
    {table : List (Neighbour (Stamped InfraRecord))}
    (same : t.infra.live = table.map bare) :
    t.flushInfraToEeprom =
      ({ t with eeprom := { t.eeprom with infra :=
          { header := some (UInt16.ofNat (recordsOf table).length)
            cells := writtenCells (recordsOf table) 0
              t.eeprom.infra.cells } } }, none) := by
  have count : t.infra.count = (recordsOf table).length := by
    rw [RamTable.count, same, List.length_map, recordsOf_length]
  have after := reliable.withInfra { t.eeprom.infra with
    cells := writtenCells (recordsOf table) 0 t.eeprom.infra.cells }
  rw [Storage.flushInfraToEeprom, same, flushInfraEntries_reliable reliable]
  dsimp only
  rw [after.writeInfraHeader, count]

theorem flushSensorsToEeprom_reliable {t : Storage}
    (reliable : t.eeprom.Reliable)
    {table : List (Neighbour (Stamped SensorRecord))}
    (same : t.sensors.live = table.map bare) :
    t.flushSensorsToEeprom =
      ({ t with eeprom := { t.eeprom with sensors :=
          { header := some (UInt16.ofNat (recordsOf table).length)
            cells := writtenCells (recordsOf table) 0
              t.eeprom.sensors.cells } } }, none) := by
  have count : t.sensors.count = (recordsOf table).length := by
    rw [RamTable.count, same, List.length_map, recordsOf_length]
  have after := reliable.withSensors { t.eeprom.sensors with
    cells := writtenCells (recordsOf table) 0 t.eeprom.sensors.cells }
  rw [Storage.flushSensorsToEeprom, same, flushSensorEntries_reliable reliable]
  dsimp only
  rw [after.writeSensorHeader, count]

/-- The two models agree: the tables are the same without the checksums, and
the partitions are what the bytes show. -/
structure Refines (s : StorageImage) (t : Storage) : Prop where
  infra : t.infra.live = s.infra.map bare
  infraFits : s.infra.length ≤ maxAnchors
  infraViews : Views infraRegion s.image t.eeprom.infra
  sensors : t.sensors.live = s.sensors.map bare
  sensorFits : s.sensors.length ≤ maxSensors
  sensorViews : Views sensorRegion s.image t.eeprom.sensors
  mesh : t.mesh.live = s.mesh
  meshFits : s.mesh.length ≤ maxDevices
  meshViews : Views meshRegion s.image t.eeprom.mesh
  reliable : t.eeprom.Reliable

/-- The tables agree after an operation, and so does what it returns. -/
def RefinesResult (left : StorageImage × Option Errno)
    (right : Storage × Option Errno) : Prop :=
  Refines left.1 right.1 ∧ left.2 = right.2

end Tables

section Operations

variable {s : StorageImage} {t : Storage}

theorem Refines.flushInfra (refines : Refines s t)
    {table : List (Neighbour (Stamped InfraRecord))} {ram : RamTable Infra}
    (same : ram.live = table.map bare) (fits : table.length ≤ maxAnchors) :
    RefinesResult
      (({ s with infra := table } : StorageImage).flushInfraToEeprom, none)
      ({ t with infra := ram } : Storage).flushInfraToEeprom := by
  have records : (recordsOf table).length ≤ infraRegion.capacity := by
    rw [recordsOf_length]
    exact fits
  have keeps := Region.flush_keeps (recordsOf table) s.image records
  rw [@flushInfraToEeprom_reliable { t with infra := ram } refines.reliable
    table same]
  refine ⟨?_, rfl⟩
  exact
    { infra := same.trans (bare_stamp table).symm
      infraFits := by
        rw [StorageImage.flushInfraToEeprom, List.length_map]
        exact fits
      infraViews := refines.infraViews.flush records
      sensors := refines.sensors
      sensorFits := refines.sensorFits
      sensorViews := refines.sensorViews.elsewhere keeps (.inl (by decide))
      mesh := refines.mesh
      meshFits := refines.meshFits
      meshViews := refines.meshViews.elsewhere keeps (.inl (by decide))
      reliable := refines.reliable }

theorem Refines.flushSensors (refines : Refines s t)
    {table : List (Neighbour (Stamped SensorRecord))} {ram : RamTable Sensor}
    (same : ram.live = table.map bare) (fits : table.length ≤ maxSensors) :
    RefinesResult
      (({ s with sensors := table } : StorageImage).flushSensorsToEeprom, none)
      ({ t with sensors := ram } : Storage).flushSensorsToEeprom := by
  have records : (recordsOf table).length ≤ sensorRegion.capacity := by
    rw [recordsOf_length]
    exact fits
  have keeps := Region.flush_keeps (recordsOf table) s.image records
  rw [@flushSensorsToEeprom_reliable { t with sensors := ram }
    refines.reliable table same]
  refine ⟨?_, rfl⟩
  exact
    { infra := refines.infra
      infraFits := refines.infraFits
      infraViews := refines.infraViews.elsewhere keeps (.inr (by decide))
      sensors := same.trans (bare_stamp table).symm
      sensorFits := by
        rw [StorageImage.flushSensorsToEeprom, List.length_map]
        exact fits
      sensorViews := refines.sensorViews.flush records
      mesh := refines.mesh
      meshFits := refines.meshFits
      meshViews := refines.meshViews.elsewhere keeps (.inl (by decide))
      reliable := refines.reliable }

/-- A change of the mesh table and its partition. -/
theorem Refines.meshChanged (refines : Refines s t)
    {mesh : List MeshEntry} {image : Store} {ram : RamTable MeshEntry}
    {part : Partition MeshRecord} (same : ram.live = mesh)
    (fits : mesh.length ≤ maxDevices)
    (keeps : meshRegion.Keeps s.image image)
    (views : Views meshRegion image part) :
    Refines { s with mesh := mesh, image := image }
      { t with mesh := ram, eeprom := { t.eeprom with mesh := part } } where
  infra := refines.infra
  infraFits := refines.infraFits
  infraViews := refines.infraViews.elsewhere keeps (.inr (by decide))
  sensors := refines.sensors
  sensorFits := refines.sensorFits
  sensorViews := refines.sensorViews.elsewhere keeps (.inr (by decide))
  mesh := same
  meshFits := fits
  meshViews := views
  reliable := refines.reliable

theorem Refines.infra_count (refines : Refines s t) :
    t.infra.count = s.infra.length := by
  rw [RamTable.count, refines.infra, List.length_map]

theorem Refines.sensors_count (refines : Refines s t) :
    t.sensors.count = s.sensors.length := by
  rw [RamTable.count, refines.sensors, List.length_map]

theorem Refines.mesh_count (refines : Refines s t) :
    t.mesh.count = s.mesh.length := by
  rw [RamTable.count, refines.mesh]

theorem sort_bare (table : List (Neighbour (Stamped InfraRecord))) :
    BubbleSort.sort Storage.swapInfra (table.map bare) =
      (BubbleSort.sort StorageImage.swapInfra table).map bare :=
  BubbleSort.sort_map bare (fun _ _ => rfl) table

theorem Refines.infraAdd (refines : Refines s t)
    (entry : Stamped InfraRecord) :
    RefinesResult (s.storageInfraAdd entry)
      (t.storageInfraAdd entry.record) := by
  unfold StorageImage.storageInfraAdd Storage.storageInfraAdd
  rw [refines.infra_count]
  split
  · exact ⟨refines, rfl⟩
  · next room =>
    refine refines.flushInfra ?_ ?_
    · rw [← sort_bare, List.map_append, ← refines.infra]
      rfl
    · rw [(BubbleSort.sort_perm _ _).length_eq, List.length_append]
      exact Nat.lt_of_not_le room

theorem Refines.infraUpdate (refines : Refines s t) (index : Nat)
    (entry : Stamped InfraRecord) :
    RefinesResult (s.storageInfraUpdate index entry)
      (t.storageInfraUpdate index entry.record) := by
  unfold StorageImage.storageInfraUpdate Storage.storageInfraUpdate
  rw [refines.infra, List.getElem?_map]
  cases found : s.infra[index]? with
  | none => exact ⟨refines, rfl⟩
  | some device =>
      refine refines.flushInfra ?_ ?_
      · rw [← sort_bare, List.map_set, ← refines.infra]
        rfl
      · rw [(BubbleSort.sort_perm _ _).length_eq, List.length_set]
        exact refines.infraFits

theorem Refines.infraRemove (refines : Refines s t) (index : Nat) :
    RefinesResult (s.storageInfraRemove index) (t.storageInfraRemove index) := by
  unfold StorageImage.storageInfraRemove Storage.storageInfraRemove
  rw [refines.infra_count]
  split
  · exact ⟨refines, rfl⟩
  · refine refines.flushInfra ?_ ?_
    · rw [← List.eraseIdx_map, ← refines.infra]
      rfl
    · exact Nat.le_trans (List.length_eraseIdx_le _ _) refines.infraFits

theorem Refines.infraClear (refines : Refines s t) :
    Refines s.storageInfraClear.1 t.storageInfraClear where
  infra := rfl
  infraFits := Nat.zero_le _
  infraViews := by
    rw [Storage.storageInfraClear,
      Eeprom.Reliable.writeInfraHeader refines.reliable]
    exact refines.infraViews.writeHeader (by decide)
  sensors := refines.sensors
  sensorFits := refines.sensorFits
  sensorViews := refines.sensorViews.elsewhere
    (Region.writeHeader_keeps 0 s.image) (.inl (by decide))
  mesh := refines.mesh
  meshFits := refines.meshFits
  meshViews := refines.meshViews.elsewhere
    (Region.writeHeader_keeps 0 s.image) (.inl (by decide))
  reliable := refines.reliable.advance

theorem Refines.sensorAdd (refines : Refines s t)
    (entry : Stamped SensorRecord) :
    RefinesResult (s.storageSensorAdd entry)
      (t.storageSensorAdd entry.record) := by
  unfold StorageImage.storageSensorAdd Storage.storageSensorAdd
  rw [refines.sensors_count]
  split
  · exact ⟨refines, rfl⟩
  · next room =>
    refine refines.flushSensors ?_ ?_
    · rw [List.map_append, ← refines.sensors]
      rfl
    · rw [List.length_append]
      exact Nat.lt_of_not_le room

theorem Refines.sensorUpdate (refines : Refines s t) (index : Nat)
    (entry : Stamped SensorRecord) :
    RefinesResult (s.storageSensorUpdate index entry)
      (t.storageSensorUpdate index entry.record) := by
  unfold StorageImage.storageSensorUpdate Storage.storageSensorUpdate
  rw [refines.sensors, List.getElem?_map]
  cases found : s.sensors[index]? with
  | none => exact ⟨refines, rfl⟩
  | some device =>
      refine refines.flushSensors ?_ ?_
      · rw [List.map_set, ← refines.sensors]
        rfl
      · rw [List.length_set]
        exact refines.sensorFits

theorem Refines.sensorRemove (refines : Refines s t) (index : Nat) :
    RefinesResult (s.storageSensorRemove index)
      (t.storageSensorRemove index) := by
  unfold StorageImage.storageSensorRemove Storage.storageSensorRemove
  rw [refines.sensors_count]
  split
  · exact ⟨refines, rfl⟩
  · refine refines.flushSensors ?_ ?_
    · rw [← List.eraseIdx_map, ← refines.sensors]
      rfl
    · exact Nat.le_trans (List.length_eraseIdx_le _ _) refines.sensorFits

theorem Refines.sensorClear (refines : Refines s t) :
    Refines s.storageSensorClear.1 t.storageSensorClear where
  infra := refines.infra
  infraFits := refines.infraFits
  infraViews := refines.infraViews.elsewhere
    (Region.writeHeader_keeps 0 s.image) (.inr (by decide))
  sensors := rfl
  sensorFits := Nat.zero_le _
  sensorViews := by
    rw [Storage.storageSensorClear,
      Eeprom.Reliable.writeSensorHeader refines.reliable]
    exact refines.sensorViews.writeHeader (by decide)
  mesh := refines.mesh
  meshFits := refines.meshFits
  meshViews := refines.meshViews.elsewhere
    (Region.writeHeader_keeps 0 s.image) (.inl (by decide))
  reliable := refines.reliable.advance

theorem Refines.meshAdd (refines : Refines s t)
    (entry : Stamped MeshRecord) :
    RefinesResult (s.storageMeshAdd entry) (t.storageMeshAdd entry.record) := by
  unfold StorageImage.storageMeshAdd Storage.storageMeshAdd
  rw [refines.mesh_count]
  split
  · exact ⟨refines, rfl⟩
  · next full =>
    have room : s.mesh.length < meshRegion.capacity := Nat.lt_of_not_le full
    have small := meshRegion.countable
    have count : (t.mesh.append entry.record.ram).count =
        s.mesh.length + 1 := by
      rw [RamTable.count, RamTable.append, refines.mesh, List.length_append]
      rfl
    rw [Eeprom.Reliable.writeMesh refines.reliable]
    dsimp only
    rw [Eeprom.Reliable.writeMeshHeader
      (refines.reliable.withMesh _), count]
    refine ⟨?_, rfl⟩
    refine refines.meshChanged ?_ ?_ ?_ ?_
    · rw [RamTable.append, refines.mesh]
    · rw [List.length_append]
      exact Nat.lt_of_not_le full
    · exact (Region.writeCell_keeps entry.record s.image room).trans
        (Region.writeHeader_keeps _ _)
    · exact (refines.meshViews.writeCell s.mesh.length
        entry.record).writeHeader (by omega)

theorem Refines.meshUpdate (refines : Refines s t) (index : Nat)
    (entry : Stamped MeshRecord) :
    RefinesResult (s.storageMeshUpdate index entry)
      (t.storageMeshUpdate index entry.record) := by
  unfold StorageImage.storageMeshUpdate Storage.storageMeshUpdate
  rw [refines.mesh_count]
  split
  · exact ⟨refines, rfl⟩
  · next inside =>
    have room : index < meshRegion.capacity :=
      Nat.lt_of_lt_of_le (Nat.lt_of_not_le inside) refines.meshFits
    rw [Eeprom.Reliable.writeMesh refines.reliable]
    refine ⟨?_, rfl⟩
    exact refines.meshChanged refines.mesh refines.meshFits
      (Region.writeCell_keeps entry.record s.image room)
      (refines.meshViews.writeCell index entry.record)

theorem Refines.changeMesh (refines : Refines s t) (index : Nat)
    (change : MeshEntry → MeshEntry) :
    Refines { s with mesh := s.mesh.modify index change }
      (t.changeMesh index change) := by
  refine refines.meshChanged ?_ ?_ (.refl s.image) refines.meshViews
  · rw [refines.mesh]
  · rw [List.length_modify]
    exact refines.meshFits

/-- The record that `storage_mesh_get` returns. -/
theorem Refines.meshGet (refines : Refines s t) (index : Nat) :
    Refines s (t.storageMeshGet index).1 ∧
      (s.storageMeshGet index).map Stamped.record =
        (t.storageMeshGet index).2 := by
  unfold StorageImage.storageMeshGet Storage.storageMeshGet
  rw [refines.mesh_count]
  split
  · exact ⟨refines, rfl⟩
  · next inside =>
    have room : index < meshRegion.capacity :=
      Nat.lt_of_lt_of_le (Nat.lt_of_not_le inside) refines.meshFits
    dsimp only
    rw [Eeprom.Reliable.advance_eq refines.reliable,
      Eeprom.Reliable.outcome refines.reliable,
      refines.meshViews.cells index room]
    refine ⟨refines, ?_⟩
    rw [Option.map_map]
    rfl

theorem Refines.meshRemove (refines : Refines s t) (index : Nat) :
    RefinesResult (s.storageMeshRemove index) (t.storageMeshRemove index) := by
  unfold StorageImage.storageMeshRemove Storage.storageMeshRemove
  rw [refines.mesh_count]
  split
  · exact ⟨refines, rfl⟩
  · next inside =>
    have below : index < s.mesh.length := Nat.lt_of_not_le inside
    have fits := refines.meshFits
    have small := meshRegion.countable
    have capacity : meshRegion.capacity = maxDevices := rfl
    have shifted := refines.meshViews.shift index fits
    have count : (t.mesh.remove index).count = s.mesh.length - 1 := by
      rw [RamTable.count, RamTable.remove, refines.mesh,
        List.length_eraseIdx_of_lt below]
    have moved : t.shiftedMesh index =
        ({ t.eeprom with mesh := { t.eeprom.mesh with
            cells := fun i =>
              if index ≤ i ∧ i + 1 < s.mesh.length then
                t.eeprom.mesh.cells (i + 1)
              else
                t.eeprom.mesh.cells i } }, none) := by
      rw [Storage.shiftedMesh, refines.mesh_count]
      split
      · exact Eeprom.Reliable.shiftMesh refines.reliable index _
      · next last =>
        have none_moves (i : Nat) :
            ¬ (index ≤ i ∧ i + 1 < s.mesh.length) := by omega
        simp only [none_moves, if_false]
    rw [moved]
    dsimp only
    rw [Eeprom.Reliable.writeMeshHeader
      (refines.reliable.withMesh _), count]
    refine ⟨?_, rfl⟩
    refine refines.meshChanged ?_ ?_ ?_ ?_
    · rw [RamTable.remove, refines.mesh]
    · exact Nat.le_trans (List.length_eraseIdx_le _ _) fits
    · exact (Region.shift_keeps s.image fits).trans
        (Region.writeHeader_keeps _ _)
    · exact shifted.writeHeader (by omega)

theorem Refines.meshClear (refines : Refines s t) :
    Refines s.storageMeshClear.1 t.storageMeshClear := by
  rw [Storage.storageMeshClear,
    Eeprom.Reliable.writeMeshHeader refines.reliable]
  exact refines.meshChanged rfl (Nat.zero_le _)
    (Region.writeHeader_keeps 0 s.image)
    (refines.meshViews.writeHeader (by decide))

end Operations

section Runs

variable {s : StorageImage} {p : MeshPlane}

theorem Refines.updateMesh (refines : Refines s p.storage) (deviceId : UInt16)
    (pkt : DeviceUpdated) :
    Refines (s.updateMeshStorage deviceId pkt).1
        (p.updateMeshStorage deviceId pkt).1.storage ∧
      (s.updateMeshStorage deviceId pkt).2 =
        (p.updateMeshStorage deviceId pkt).2 := by
  have rows : p.mesh = s.mesh := refines.mesh
  unfold StorageImage.updateMeshStorage MeshPlane.updateMeshStorage
  rw [MeshPlane.findMesh, rows]
  cases found : s.mesh.findIdx? fun row => row.deviceId = deviceId with
  | none => exact ⟨refines, rfl⟩
  | some index =>
      have inside : index < s.mesh.length :=
        (List.findIdx?_eq_some_iff_getElem.mp found).1
      have kept := refines.meshGet index
      dsimp only
      generalize p.storage.storageMeshGet index = stored at kept ⊢
      obtain ⟨storage, record⟩ := stored
      obtain ⟨kept, read⟩ := kept
      cases got : s.storageMeshGet index with
      | none =>
          rw [got, Option.map_none] at read
          cases read
          exact ⟨kept, rfl⟩
      | some entry =>
          rw [got, Option.map_some] at read
          cases read
          have changed := kept.changeMesh index
            (MeshPlane.updatedRow pkt entry.record)
          have written := changed.meshUpdate index
            { entry with record := MeshPlane.updatedMesh pkt entry.record }
          dsimp only at written ⊢
          generalize Storage.storageMeshUpdate _ _ _ = last at written ⊢
          obtain ⟨after, errno⟩ := last
          obtain ⟨held, outcome⟩ := written
          rw [StorageImage.storageMeshUpdate, if_neg
            (by rw [List.length_modify]; omega)] at outcome
          cases outcome
          exact ⟨held, rfl⟩

/-- The same operation on the tables of a board. -/
def MeshPlane.perform (p : MeshPlane) : StorageOp → MeshPlane
  | .infraAdd entry => p.setStorage (p.storage.storageInfraAdd entry.record).1
  | .infraUpdate index entry =>
      p.setStorage (p.storage.storageInfraUpdate index entry.record).1
  | .infraRemove index => p.setStorage (p.storage.storageInfraRemove index).1
  | .infraClear => p.setStorage p.storage.storageInfraClear
  | .sensorAdd entry =>
      p.setStorage (p.storage.storageSensorAdd entry.record).1
  | .sensorUpdate index entry =>
      p.setStorage (p.storage.storageSensorUpdate index entry.record).1
  | .sensorRemove index => p.setStorage (p.storage.storageSensorRemove index).1
  | .sensorClear => p.setStorage p.storage.storageSensorClear
  | .meshAdd entry => p.setStorage (p.storage.storageMeshAdd entry.record).1
  | .meshUpdate index entry =>
      p.setStorage (p.storage.storageMeshUpdate index entry.record).1
  | .meshRemove index => p.setStorage (p.storage.storageMeshRemove index).1
  | .meshClear => p.setStorage p.storage.storageMeshClear
  | .updateMesh deviceId pkt => (p.updateMeshStorage deviceId pkt).1

/-- One operation on the bytes is one operation on the partitions. -/
theorem Refines.perform (refines : Refines s p.storage) (op : StorageOp) :
    Refines (s.perform op) (p.perform op).storage := by
  cases op with
  | infraAdd entry => exact (refines.infraAdd entry).1
  | infraUpdate index entry => exact (refines.infraUpdate index entry).1
  | infraRemove index => exact (refines.infraRemove index).1
  | infraClear => exact refines.infraClear
  | sensorAdd entry => exact (refines.sensorAdd entry).1
  | sensorUpdate index entry => exact (refines.sensorUpdate index entry).1
  | sensorRemove index => exact (refines.sensorRemove index).1
  | sensorClear => exact refines.sensorClear
  | meshAdd entry => exact (refines.meshAdd entry).1
  | meshUpdate index entry => exact (refines.meshUpdate index entry).1
  | meshRemove index => exact (refines.meshRemove index).1
  | meshClear => exact refines.meshClear
  | updateMesh deviceId pkt => exact (refines.updateMesh deviceId pkt).1

/-- A run on the bytes is a run on the partitions. -/
theorem Refines.run (refines : Refines s p.storage) (ops : List StorageOp) :
    Refines (ops.foldl StorageImage.perform s)
      (ops.foldl MeshPlane.perform p).storage := by
  induction ops generalizing s p with
  | nil => exact refines
  | cons op rest ih => exact ih (refines.perform op)

end Runs

section Init

variable {Record : Type} {region : Region Record} {image : Store}
variable {part : Partition Record} {rom : Eeprom}

theorem readEntries_reliable (reliable : rom.Reliable) (part : Partition Record)
    (unread : Record) (count index : Nat) :
    rom.readEntries part unread count index =
      (rom, (List.range' index count).map fun i =>
        (part.cells i).getD unread) := by
  induction count generalizing index with
  | zero => rfl
  | succ count ih =>
      rw [Eeprom.readEntries, reliable.advance_eq, reliable.outcome, ih,
        List.range'_succ, List.map_cons]

/-- Both loops of `storage_init` load the same devices. -/
theorem Views.loadTable (views : Views region image part) (invalid : Record)
    {count : Nat} (fits : count ≤ region.capacity) :
    (((List.range' 0 count).map fun i => (part.cells i).getD invalid).map
        fun entry => ({ entry := entry } : Neighbour Record)) =
      (StorageImage.loadTable region invalid image count).map bare := by
  rw [StorageImage.loadTable, List.range_eq_range', List.map_map, List.map_map]
  refine List.map_congr_left fun index member => ?_
  have below := (List.mem_range'_1.mp member).2
  rw [Function.comp_apply, Function.comp_apply,
    views.cells index (by omega)]
  cases region.readCell image index with
  | none => rfl
  | some cell => rfl

theorem Views.loadMesh {part : Partition MeshRecord}
    (views : Views meshRegion image part) {count : Nat}
    (fits : count ≤ meshRegion.capacity) :
    ((List.range' 0 count).map fun i =>
        (part.cells i).getD {}).map MeshRecord.ram =
      StorageImage.loadMesh image count := by
  rw [StorageImage.loadMesh, List.range_eq_range', List.map_map]
  refine List.map_congr_left fun index member => ?_
  have below := (List.mem_range'_1.mp member).2
  rw [Function.comp_apply, views.cells index (by omega)]
  cases meshRegion.readCell image index with
  | none => rfl
  | some cell => rfl

theorem readHeader_reliable (reliable : rom.Reliable)
    (views : Views region image part) :
    rom.readHeader part = (rom, some (region.readHeader image)) := by
  rw [Eeprom.readHeader, reliable.advance_eq, reliable.outcome, views.header]

/-- Both models start alike from a sound image. -/
theorem refines_storageInit (role : DeviceType) (sound : SoundImage image)
    (reliable : rom.Reliable) (infra : Views infraRegion image rom.infra)
    (sensors : Views sensorRegion image rom.sensors)
    (mesh : Views meshRegion image rom.mesh) :
    Refines (StorageImage.storageInit role image)
        (Storage.storageInit role rom).1 ∧
      (Storage.storageInit role rom).2 = true := by
  have inStep := inStep_storageInit role sound
  obtain ⟨⟨devices, infraHolds⟩, ⟨nodes, sensorHolds⟩, rows, meshHolds⟩ := sound
  have infraFits : infraRegion.readHeader image % 256 ≤ infraRegion.capacity :=
    Nat.le_trans (Nat.mod_le _ _) (infraHolds.header ▸ infraHolds.fits)
  have sensorFits :
      sensorRegion.readHeader image % 256 ≤ sensorRegion.capacity :=
    Nat.le_trans (Nat.mod_le _ _) (sensorHolds.header ▸ sensorHolds.fits)
  have meshFits : meshRegion.readHeader image ≤ meshRegion.capacity :=
    meshHolds.header ▸ meshHolds.fits
  have started : Storage.storageInit role rom =
      ({ infra := Storage.loaded maxAnchors { entry := {} }
          ((StorageImage.storageInit role image).infra.map bare)
         sensors := Storage.loaded maxSensors { entry := {} }
          ((StorageImage.storageInit role image).sensors.map bare)
         mesh := Storage.loaded maxDevices {}
          (StorageImage.storageInit role image).mesh
         eeprom := rom }, true) := by
    simp only [Storage.storageInit, StorageImage.storageInit,
      readHeader_reliable reliable infra,
      readHeader_reliable reliable sensors,
      readHeader_reliable reliable mesh, readEntries_reliable reliable,
      infra.loadTable _ infraFits]
    cases role with
    | gateway =>
        simp only [true_or, if_true, readEntries_reliable reliable,
          sensors.loadTable _ sensorFits, mesh.loadMesh meshFits]
    | anchor =>
        simp only [reduceCtorEq, or_true, if_true, if_false,
          readEntries_reliable reliable, sensors.loadTable _ sensorFits,
          List.map_replicate]
        rfl
    | sensor =>
        simp only [reduceCtorEq, or_self, if_false, List.map_replicate]
        rfl
    | unknown =>
        simp only [reduceCtorEq, or_self, if_false, List.map_replicate]
        rfl
  rw [started]
  refine ⟨?_, rfl⟩
  exact
    { infra := rfl
      infraFits := inStep.infra_length
      infraViews := infra
      sensors := rfl
      sensorFits := inStep.sensors_length
      sensorViews := sensors
      mesh := rfl
      meshFits := inStep.mesh_length
      meshViews := mesh
      reliable := reliable }

/-- The partition that the bytes of a region show. -/
def shownPartition (region : Region Record) (image : Store) :
    Partition Record where
  header := some (UInt16.ofNat (region.readHeader image))
  cells index := (region.readCell image index).map Prod.fst

theorem views_shown {records : List Record}
    (holds : region.Holds image records) :
    Views region image (shownPartition region image) where
  header := by
    have fits := holds.fits
    have small := region.countable
    rw [shownPartition, Option.map_some, Option.getD_some, holds.header,
      UInt16.toNat_ofNat']
    exact Nat.mod_eq_of_lt (by omega)
  cells := fun _ _ => rfl

/-- The EEPROM of the abstract model that an image stands for. -/
def shownEeprom (image : Store) : Eeprom where
  infra := shownPartition infraRegion image
  sensors := shownPartition sensorRegion image
  mesh := shownPartition meshRegion image

/-- From a sound image on, every run on the bytes is a run on the tables of a
board that started from what the image shows. -/
theorem runs_refine (role : DeviceType) (sound : SoundImage image)
    {p : MeshPlane}
    (loaded : p.storage = (Storage.storageInit role (shownEeprom image)).1)
    (ops : List StorageOp) :
    Refines
      (ops.foldl StorageImage.perform (StorageImage.storageInit role image))
      (ops.foldl MeshPlane.perform p).storage := by
  have ⟨⟨_, infraHolds⟩, ⟨_, sensorHolds⟩, _, meshHolds⟩ := sound
  have reliable : (shownEeprom image).Reliable := rfl
  have started := refines_storageInit role sound reliable
    (views_shown infraHolds) (views_shown sensorHolds) (views_shown meshHolds)
  rw [← loaded] at started
  exact started.1.run ops

end Init

end DectMesh
