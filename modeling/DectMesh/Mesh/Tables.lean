import DectMesh.Mesh.Run

/-!
# Changes of the device tables

The three tables as lists of entries, and every change the mesh layer makes
to them.  The handlers are shown to make these changes only, so a property of
the tables is proved once for each change.
-/

namespace DectMesh

/-- The entries of the three tables, without statistics. -/
structure Tables where
  infra : List InfraRecord
  sensors : List SensorRecord
  mesh : List MeshEntry

namespace Storage

def tables (s : Storage) : Tables where
  infra := s.infra.live.map Neighbour.entry
  sensors := s.sensors.live.map Neighbour.entry
  mesh := s.mesh.live

end Storage

/-- Closer to the gateway first, and at the same distance the stronger signal
first. -/
def CloserFirst (left right : InfraRecord) : Prop :=
  left.hopNum < right.hopNum ∨
    left.hopNum = right.hopNum ∧ right.rssi2 ≤ left.rssi2

/-- One change of the tables of a board with this role. -/
inductive TableMove (role : DeviceType) (t : Tables) : Tables → Prop
  | infraAdded {entry : InfraRecord} {infra : List InfraRecord}
      (room : t.infra.length < maxAnchors)
      (fresh : ∀ known ∈ t.infra, known.deviceId ≠ entry.deviceId)
      (single : role = .sensor → t.infra = [])
      (perm : infra.Perm (t.infra ++ [entry]))
      (sorted : infra.Pairwise CloserFirst) :
      TableMove role t { t with infra := infra }
  | infraUpdated {index : Nat} {old entry : InfraRecord}
      {infra : List InfraRecord}
      (found : t.infra[index]? = some old)
      (same : entry.deviceId = old.deviceId)
      (perm : infra.Perm (t.infra.set index entry))
      (sorted : infra.Pairwise CloserFirst) :
      TableMove role t { t with infra := infra }
  | infraRemoved (index : Nat) :
      TableMove role t { t with infra := t.infra.eraseIdx index }
  | infraCleared : TableMove role t { t with infra := [] }
  | sensorAdded {entry : SensorRecord}
      (room : t.sensors.length < maxSensors)
      (fresh : ∀ known ∈ t.sensors, known.deviceId ≠ entry.deviceId) :
      TableMove role t { t with sensors := t.sensors ++ [entry] }
  | sensorUpdated {index : Nat} {old entry : SensorRecord}
      (found : t.sensors[index]? = some old)
      (same : entry.deviceId = old.deviceId) :
      TableMove role t { t with sensors := t.sensors.set index entry }
  | sensorRemoved (index : Nat) :
      TableMove role t { t with sensors := t.sensors.eraseIdx index }
  | sensorCleared : TableMove role t { t with sensors := [] }
  | meshAdded {entry : MeshEntry}
      (room : t.mesh.length < maxDevices)
      (fresh : ∀ known ∈ t.mesh, known.deviceId ≠ entry.deviceId) :
      TableMove role t { t with mesh := t.mesh ++ [entry] }
  | meshUpdated {index : Nat} {change : MeshEntry → MeshEntry}
      (same : ∀ entry, (change entry).deviceId = entry.deviceId) :
      TableMove role t { t with mesh := t.mesh.modify index change }
  | meshRemoved (index : Nat) :
      TableMove role t { t with mesh := t.mesh.eraseIdx index }
  | meshCleared : TableMove role t { t with mesh := [] }

abbrev TableMoves (role : DeviceType) : Tables → Tables → Prop :=
  Relation.ReflTransGen (TableMove role)

namespace Eeprom

@[simp]
theorem advance_failures (rom : Eeprom) :
    rom.advance.failures = rom.failures.tail := rfl

theorem Reliable.outcome {rom : Eeprom} (reliable : rom.Reliable) :
    rom.outcome = none := by
  simp [Eeprom.outcome, show rom.failures = [] from reliable]

theorem Reliable.status {rom : Eeprom} (reliable : rom.Reliable) :
    rom.status = none := by
  rw [Eeprom.status, reliable.outcome]

theorem Reliable.written
    {rom : Eeprom} {β : Type} (reliable : rom.Reliable) (value : β)
    (left : Leftover → β) : rom.written value left = value := by
  rw [Eeprom.written, reliable.outcome]

theorem Reliable.advance {rom : Eeprom} (reliable : rom.Reliable) :
    rom.advance.Reliable := by
  rw [Reliable, advance_failures, show rom.failures = [] from reliable]
  rfl

/-- An EEPROM from which a board starts without entries. -/
structure Cleared (rom : Eeprom) : Prop where
  infra : rom.infra.header = some 0
  sensors : rom.sensors.header = some 0
  mesh : rom.mesh.header = some 0

end Eeprom

namespace Storage

variable {role : DeviceType} {s s' s'' : Storage}

/-- The tables changed step by step, and a reliable EEPROM stayed so. -/
structure Moves (role : DeviceType) (s s' : Storage) : Prop where
  tables : TableMoves role s.tables s'.tables
  reliable : s.eeprom.Reliable → s'.eeprom.Reliable

namespace Moves

theorem refl (s : Storage) : Moves role s s := ⟨.refl, id⟩

theorem trans (first : Moves role s s') (second : Moves role s' s'') :
    Moves role s s'' :=
  ⟨first.tables.trans second.tables, second.reliable ∘ first.reliable⟩

theorem single
    (move : TableMove role s.tables s'.tables)
    (reliable : s.eeprom.Reliable → s'.eeprom.Reliable) : Moves role s s' :=
  ⟨.single move, reliable⟩

/-- Only statistics and cells out of use changed. -/
theorem quiet
    (tables : s'.tables = s.tables)
    (reliable : s.eeprom.Reliable → s'.eeprom.Reliable) : Moves role s s' :=
  ⟨tables ▸ .refl, reliable⟩

end Moves

section Flush

theorem flushInfraEntries_reliable
    (devices : List Infra) (index : Nat) (rom : Eeprom)
    (reliable : rom.Reliable) :
    (flushInfraEntries devices index rom).1.Reliable := by
  induction devices generalizing index rom with
  | nil => exact reliable
  | cons device rest ih =>
      rw [flushInfraEntries, Eeprom.writeInfra, reliable.status]
      exact ih _ _ reliable.advance

theorem flushSensorEntries_reliable
    (devices : List Sensor) (index : Nat) (rom : Eeprom)
    (reliable : rom.Reliable) :
    (flushSensorEntries devices index rom).1.Reliable := by
  induction devices generalizing index rom with
  | nil => exact reliable
  | cons device rest ih =>
      rw [flushSensorEntries, Eeprom.writeSensor, reliable.status]
      exact ih _ _ reliable.advance

theorem flushInfra_moves (s : Storage) :
    Moves role s s.flushInfraToEeprom.1 := by
  have kept := flushInfraEntries_reliable s.infra.live 0 s.eeprom
  unfold flushInfraToEeprom
  split
  · next rom errno flushed =>
    rw [flushed] at kept
    exact .quiet rfl kept
  · next rom flushed =>
    rw [flushed] at kept
    exact .quiet rfl fun reliable => (kept reliable).advance

theorem flushSensors_moves (s : Storage) :
    Moves role s s.flushSensorsToEeprom.1 := by
  have kept := flushSensorEntries_reliable s.sensors.live 0 s.eeprom
  unfold flushSensorsToEeprom
  split
  · next rom errno flushed =>
    rw [flushed] at kept
    exact .quiet rfl kept
  · next rom flushed =>
    rw [flushed] at kept
    exact .quiet rfl fun reliable => (kept reliable).advance

end Flush

section Order

theorem swapInfra_total (left right : Infra)
    (swapped : swapInfra left right = true) :
    BubbleSort.InOrder swapInfra right left := by
  simp only [BubbleSort.InOrder, swapInfra, decide_eq_true_eq,
    decide_eq_false_iff_not] at swapped ⊢
  rintro (closer | ⟨same, weaker⟩)
  · rcases swapped with farther | ⟨same, -⟩
    · exact absurd (UInt8.lt_trans closer farther) (UInt8.lt_irrefl _)
    · rw [same] at closer
      exact absurd closer (UInt8.lt_irrefl _)
  · rcases swapped with farther | ⟨-, stronger⟩
    · rw [same] at farther
      exact absurd farther (UInt8.lt_irrefl _)
    · exact absurd (Int16.lt_trans weaker stronger) Int16.lt_irrefl

theorem inOrder_iff (left right : Infra) :
    BubbleSort.InOrder swapInfra left right ↔
      CloserFirst left.entry right.entry := by
  simp only [BubbleSort.InOrder, swapInfra, decide_eq_false_iff_not,
    CloserFirst, not_or, not_and, UInt8.not_lt, Int16.not_lt]
  constructor
  · rintro ⟨notFarther, stronger⟩
    rcases UInt8.lt_or_eq_of_le notFarther with closer | same
    · exact .inl closer
    · exact .inr ⟨same, stronger same⟩
  · rintro (closer | ⟨same, stronger⟩)
    · refine ⟨UInt8.le_of_lt closer, fun same => ?_⟩
      rw [same] at closer
      exact absurd closer (UInt8.lt_irrefl _)
    · exact ⟨UInt8.le_of_eq same, fun _ => stronger⟩

theorem closerFirst_trans
    {left middle right : InfraRecord} (first : CloserFirst left middle)
    (second : CloserFirst middle right) : CloserFirst left right := by
  rcases first with closer | ⟨same, stronger⟩
  · rcases second with next | ⟨equal, -⟩
    · exact .inl (UInt8.lt_trans closer next)
    · exact .inl (equal ▸ closer)
  · rcases second with next | ⟨equal, more⟩
    · exact .inl (same ▸ next)
    · exact .inr ⟨same.trans equal, Int16.le_trans more stronger⟩

section Seen

variable {Cell : Type} {swap : Cell → Cell → Bool} {seen : Cell → InfraRecord}
variable
  (test : ∀ left right, swap left right =
    swapInfra { entry := seen left } { entry := seen right })

include test

theorem seen_inOrder (left right : Cell) :
    BubbleSort.InOrder swap left right ↔
      CloserFirst (seen left) (seen right) := by
  rw [BubbleSort.InOrder, test]
  exact inOrder_iff { entry := seen left } { entry := seen right }

/-- A sort that tests what `sort_infra_devices` tests leaves that in order. -/
theorem sort_closerFirst (cells : List Cell) :
    (BubbleSort.sort swap cells).Pairwise fun left right =>
      CloserFirst (seen left) (seen right) := by
  have total (left right : Cell) (swapped : swap left right = true) :
      BubbleSort.InOrder swap right left := by
    rw [test] at swapped
    rw [BubbleSort.InOrder, test]
    exact swapInfra_total _ _ swapped
  have sorted := BubbleSort.sort_pairwise total
    (fun left middle right first second =>
      (seen_inOrder test left right).mpr (closerFirst_trans
        ((seen_inOrder test left middle).mp first)
        ((seen_inOrder test middle right).mp second)))
    cells
  exact sorted.imp fun {left right} => (seen_inOrder test left right).mp

end Seen

/-- `sort_infra_devices` leaves the entries in order. -/
theorem sortInfraDevices_sorted (s : Storage) :
    s.sortInfraDevices.tables.infra.Pairwise CloserFirst :=
  List.pairwise_map.mpr
    (@sort_closerFirst Infra swapInfra Neighbour.entry (fun _ _ => rfl)
      s.infra.live)

theorem sortInfraDevices_perm (s : Storage) :
    s.sortInfraDevices.tables.infra.Perm s.tables.infra :=
  (BubbleSort.sort_perm swapInfra s.infra.live).map Neighbour.entry

end Order

section Operations

theorem storageInfraAdd_moves
    {entry : InfraRecord}
    (fresh : ∀ known ∈ s.tables.infra, known.deviceId ≠ entry.deviceId)
    (single : role = .sensor → s.tables.infra = []) :
    Moves role s (s.storageInfraAdd entry).1 := by
  unfold storageInfraAdd
  split
  · exact .refl s
  · next room =>
    refine .trans ?_ (flushInfra_moves _)
    refine .single ?_ id
    refine .infraAdded ?_ fresh single ?_ ?_
    · have length : s.tables.infra.length = s.infra.count :=
        List.length_map ..
      omega
    · refine (sortInfraDevices_perm _).trans ?_
      simp [tables, RamTable.append]
    · exact sortInfraDevices_sorted _

theorem storageInfraUpdate_moves
    {index : Nat} {old entry : InfraRecord}
    (found : s.storageInfraGet index = some old)
    (same : entry.deviceId = old.deviceId) :
    Moves role s (s.storageInfraUpdate index entry).1 := by
  unfold storageInfraUpdate
  split
  · exact .refl s
  · next device current =>
    refine .trans ?_ (flushInfra_moves _)
    refine .single ?_ id
    refine @TableMove.infraUpdated role s.tables index old entry _ ?_ same
      ?_ ?_
    · simpa [tables, storageInfraGet] using found
    · refine (sortInfraDevices_perm _).trans ?_
      simp [tables, RamTable.set, List.map_set]
    · exact sortInfraDevices_sorted _

theorem storageInfraRemove_moves (s : Storage) (index : Nat) :
    Moves role s (s.storageInfraRemove index).1 := by
  unfold storageInfraRemove
  split
  · exact .refl s
  · refine .trans ?_ (flushInfra_moves _)
    refine .single ?_ id
    have shifted := @TableMove.infraRemoved role s.tables index
    simpa [tables, RamTable.remove, List.eraseIdx_map] using shifted

theorem storageInfraClear_moves (s : Storage) :
    Moves role s s.storageInfraClear :=
  .single .infraCleared Eeprom.Reliable.advance

theorem storageSensorAdd_moves
    {entry : SensorRecord}
    (fresh : ∀ known ∈ s.tables.sensors, known.deviceId ≠ entry.deviceId) :
    Moves role s (s.storageSensorAdd entry).1 := by
  unfold storageSensorAdd
  split
  · exact .refl s
  · next room =>
    refine .trans ?_ (flushSensors_moves _)
    refine .single ?_ id
    have length : s.tables.sensors.length = s.sensors.count :=
      List.length_map ..
    have added := @TableMove.sensorAdded role s.tables entry (by omega) fresh
    simpa [tables, RamTable.append] using added

theorem storageSensorUpdate_moves
    {index : Nat} {device : Sensor} {entry : SensorRecord}
    (found : s.sensors.live[index]? = some device)
    (same : entry.deviceId = device.entry.deviceId) :
    Moves role s (s.storageSensorUpdate index entry).1 := by
  rw [storageSensorUpdate, found]
  refine .trans ?_ (flushSensors_moves _)
  refine .single ?_ id
  have updated := @TableMove.sensorUpdated role s.tables index device.entry
    entry (by simp [tables, found]) same
  simpa [tables, RamTable.set, List.map_set] using updated

theorem storageSensorRemove_moves (s : Storage) (index : Nat) :
    Moves role s (s.storageSensorRemove index).1 := by
  unfold storageSensorRemove
  split
  · exact .refl s
  · refine .trans ?_ (flushSensors_moves _)
    refine .single ?_ id
    have shifted := @TableMove.sensorRemoved role s.tables index
    simpa [tables, RamTable.remove, List.eraseIdx_map] using shifted

theorem storageSensorClear_moves (s : Storage) :
    Moves role s s.storageSensorClear :=
  .single .sensorCleared Eeprom.Reliable.advance

theorem storageMeshAdd_moves
    {entry : MeshRecord}
    (fresh : ∀ known ∈ s.tables.mesh, known.deviceId ≠ entry.deviceId) :
    Moves role s (s.storageMeshAdd entry).1 := by
  unfold storageMeshAdd
  split
  · exact .refl s
  · next room =>
    split
    · next rom errno written =>
      obtain ⟨rfl, -⟩ := Prod.mk.inj written
      exact .quiet rfl Eeprom.Reliable.advance
    · next rom written =>
      obtain ⟨rfl, -⟩ := Prod.mk.inj written
      refine .single ?_ fun reliable => reliable.advance.advance
      exact .meshAdded (Nat.lt_of_not_le room) fresh

theorem shiftedMesh_reliable (reliable : s.eeprom.Reliable) (index : Nat) :
    (s.shiftedMesh index).1.Reliable ∧ (s.shiftedMesh index).2 = none := by
  unfold shiftedMesh
  split
  · rw [Eeprom.shiftMesh, reliable.status]
    exact ⟨reliable.advance.advance, reliable.advance.status⟩
  · exact ⟨reliable, rfl⟩

theorem storageMeshRemove_moves
    (reliable : s.eeprom.Reliable) (index : Nat) :
    Moves role s (s.storageMeshRemove index).1 := by
  unfold storageMeshRemove
  split
  · exact .refl s
  · have shifted := shiftedMesh_reliable reliable index
    split
    · next rom errno moved =>
      rw [moved] at shifted
      cases shifted.2
    · next rom moved =>
      rw [moved] at shifted
      exact .single (.meshRemoved index) fun _ => shifted.1.advance

theorem storageMeshClear_moves (s : Storage) :
    Moves role s s.storageMeshClear :=
  .single .meshCleared Eeprom.Reliable.advance

theorem factoryReset_moves (s : Storage) : Moves role s s.factoryReset :=
  (storageInfraClear_moves s).trans
    ((storageSensorClear_moves _).trans (storageMeshClear_moves _))

theorem factoryReset_cleared (reliable : s.eeprom.Reliable) :
    s.factoryReset.eeprom.Cleared where
  infra := reliable.written _ _
  sensors := reliable.advance.written _ _
  mesh := reliable.advance.advance.written _ _

end Operations

end Storage

end DectMesh
