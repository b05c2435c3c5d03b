import DectMesh.Library.ArrayLoop
import DectMesh.Mesh.Image

/-!
# The bounds of the tables at boot

`storage_init` on the arrays of `storage.c`, with every read of the EEPROM and
every access to a table.  The counts come from the headers, which no checksum
covers.
-/

namespace DectMesh

open ArrayLoop ByteStore RecordStore

/-- The EEPROM at boot: its bytes, and what the reads to come return. -/
structure BootRom where
  ready : Bool := true
  image : Store := fun _ => 0
  errors : List Int := []

/-- The variables of `storage.c`, zero at boot. -/
structure BootTables where
  infraCount : UInt8 := 0
  sensorCount : UInt8 := 0
  meshCount : UInt16 := 0
  infraDevices : List (Neighbour (Stamped InfraRecord)) :=
    List.replicate maxAnchors { entry := { record := {} } }
  sensorDevices : List (Neighbour (Stamped SensorRecord)) :=
    List.replicate maxSensors { entry := { record := {} } }
  meshDevices : List MeshEntry := List.replicate maxDevices {}

namespace BootRom

variable {Record : Type} (rom : BootRom)

/-- What the read number `index` from here on returns. -/
def error (index : Nat) : Int := rom.errors.getD index 0

def advance : BootRom := { rom with errors := rom.errors.tail }

/-- `read_header`. -/
def readHeader (region : Region Record) : BootRom × Except Int Nat :=
  (rom.advance,
    if rom.error 0 = 0 then
      .ok (region.readHeader rom.image)
    else
      .error (rom.error 0))

/-- `read_entry` with `entry_crc_ok`. -/
def readEntry (region : Region Record) (index : Nat) :
    BootRom × Option (Record × UInt32) :=
  (rom.advance,
    if rom.error 0 = 0 then region.readCell rom.image index else none)

/-- The entry `index` as the reads from here on find it. -/
def entryAt (region : Region Record) (index : Nat) : Option (Record × UInt32) :=
  if rom.error index = 0 then region.readCell rom.image index else none

/-- The reads of a loop are over: the EEPROM is as before. -/
structure Behind (before after : BootRom) (reads : Nat) : Prop where
  image : after.image = before.image
  errors : ∀ index, after.error index = before.error (reads + index)

end BootRom

/-- The variables of a loop over the entries of a partition. -/
structure Loading (Cell : Type) where
  rom : BootRom
  cells : List Cell
  i : Nat := 0

/-- One round of such a loop.  `change` says what an entry does to its cell of
the array; without a change the cell is not touched.  `modulus` is that of the
loop variable. -/
def loadRound {Record Cell : Type} (region : Region Record)
    (change : Option (Record × UInt32) → Option (Cell → Cell))
    (modulus count : Nat) (s : Loading Cell) :
    Except Failure (Loading Cell ⊕ (BootRom × List Cell)) :=
  if s.i < count then
    match s.rom.readEntry region s.i with
    | (rom, entry) =>
        match change entry with
        | none => .ok (.inl { s with rom, i := (s.i + 1) % modulus })
        | some change => do
            let cell ← fetch s.cells s.i
            let cells ← put s.cells s.i (change cell)
            pure (.inl { rom, cells, i := (s.i + 1) % modulus })
  else
    .ok (.inr (s.rom, s.cells))

/-- What a loaded neighbour is put over, and what marks one invalid. -/
def changeNeighbour {Record : Type} (invalid : Record → Record) :
    Option (Record × UInt32) →
      Option (Neighbour (Stamped Record) → Neighbour (Stamped Record))
  | some (record, crc32) => some fun _ => { entry := { record, crc32 } }
  | none => some fun cell =>
      { cell with entry :=
        { cell.entry with record := invalid cell.entry.record } }

/-- An entry of the mesh table that `storage_mesh_get` does not return is left
out. -/
def changeMesh : Option (MeshRecord × UInt32) → Option (MeshEntry → MeshEntry)
  | some (record, _) => some fun _ => record.ram
  | none => none

/-- The loop over the infra entries. -/
def loadInfra (fuel : Nat) (rom : BootRom) (t : BootTables) :
    Except Failure (BootRom × List (Neighbour (Stamped InfraRecord))) :=
  run
    (loadRound infraRegion
      (changeNeighbour fun record => { record with deviceId := 0xFFFF })
      256 t.infraCount.toNat)
    fuel { rom, cells := t.infraDevices }

/-- The loop over the sensor entries, of a gateway or an anchor. -/
def loadSensors (fuel : Nat) (deviceType : DeviceType) (rom : BootRom)
    (t : BootTables) :
    Except Failure (BootRom × List (Neighbour (Stamped SensorRecord))) :=
  if deviceType = .gateway ∨ deviceType = .anchor then
    run
      (loadRound sensorRegion
        (changeNeighbour fun record => { record with deviceId := 0xFFFF })
        256 t.sensorCount.toNat)
      fuel { rom, cells := t.sensorDevices }
  else
    .ok (rom, t.sensorDevices)

/-- The loop over the mesh entries, of a gateway. -/
def loadMesh (fuel : Nat) (deviceType : DeviceType) (rom : BootRom)
    (t : BootTables) : Except Failure (BootRom × List MeshEntry) :=
  if deviceType = .gateway then
    run (loadRound meshRegion changeMesh 65536 t.meshCount.toNat)
      fuel { rom, cells := t.meshDevices }
  else
    .ok (rom, t.meshDevices)

/-- The loops of `storage_init`. -/
def loadTables (fuel : Nat) (deviceType : DeviceType) (rom : BootRom)
    (t : BootTables) : Except Failure (Int × BootTables) := do
  let (rom, infraDevices) ← loadInfra fuel rom t
  let (rom, sensorDevices) ← loadSensors fuel deviceType rom t
  let (_, meshDevices) ← loadMesh fuel deviceType rom t
  pure (0, { t with infraDevices, sensorDevices, meshDevices })

/-- `storage_init`: its return value and the tables. -/
def storageInitArrays (fuel : Nat) (deviceType : DeviceType) (rom : BootRom) :
    Except Failure (Int × BootTables) :=
  if !rom.ready then
    .ok (-19, {})
  else
    match rom.readHeader infraRegion with
    | (_, .error err) => .ok (err, {})
    | (rom, .ok count) =>
        let t : BootTables := { infraCount := UInt8.ofNat count }
        match rom.readHeader sensorRegion with
        | (_, .error err) => .ok (err, t)
        | (rom, .ok count) =>
            let t := { t with sensorCount := UInt8.ofNat count }
            match rom.readHeader meshRegion with
            | (_, .error err) => .ok (err, t)
            | (rom, .ok count) =>
                loadTables fuel deviceType rom
                  { t with meshCount := UInt16.ofNat count }

/-- The counts that the headers bring are within the tables: each is looked at
only when the reads up to it succeed, and two of them are narrowed. -/
def HeadersFit (rom : BootRom) : Prop :=
  rom.ready = true → rom.error 0 = 0 →
    infraRegion.readHeader rom.image % 256 ≤ maxAnchors ∧
      (rom.error 1 = 0 →
        sensorRegion.readHeader rom.image % 256 ≤ maxSensors ∧
          (rom.error 2 = 0 → meshRegion.readHeader rom.image ≤ maxDevices))

/-- The counts are within the tables. -/
structure BootTables.Bounded (t : BootTables) : Prop where
  infra : t.infraCount.toNat ≤ maxAnchors
  sensors : t.sensorCount.toNat ≤ maxSensors
  mesh : t.meshCount.toNat ≤ maxDevices
  infraCells : t.infraDevices.length = maxAnchors
  sensorCells : t.sensorDevices.length = maxSensors
  meshCells : t.meshDevices.length = maxDevices

/-- `storage_init` ends without an access outside a table, and with counts that
keep every later loop inside. -/
def BootSafe (deviceType : DeviceType) (rom : BootRom) : Prop :=
  ∃ result, result.2.Bounded ∧ ∀ fuel, 65536 < fuel →
    storageInitArrays fuel deviceType rom = .ok result

@[simp]
theorem BootRom.advance_error (rom : BootRom) (index : Nat) :
    rom.advance.error index = rom.error (index + 1) := by
  simp [BootRom.advance, BootRom.error]

/-- What an entry makes of its cell. -/
def loadedCell {Record Cell : Type}
    (change : Option (Record × UInt32) → Option (Cell → Cell))
    (entry : Option (Record × UInt32)) (cell : Cell) : Cell :=
  match change entry with
  | some f => f cell
  | none => cell

/-- A table after its first `count` entries were loaded. -/
def loadedCells {Record Cell : Type} (region : Region Record)
    (change : Option (Record × UInt32) → Option (Cell → Cell))
    (rom : BootRom) (cells : List Cell) (count : Nat) : List Cell :=
  cells.mapIdx fun index cell =>
    if index < count then
      loadedCell change (rom.entryAt region index) cell
    else
      cell

/-- The tables that the loops leave, when the reads of each find these. -/
def BootTables.filled (deviceType : DeviceType)
    (rom sensorRom meshRom : BootRom) (t : BootTables) : BootTables :=
  { t with
    infraDevices := loadedCells infraRegion
      (changeNeighbour fun record => { record with deviceId := 0xFFFF })
      rom t.infraDevices t.infraCount.toNat
    sensorDevices :=
      if deviceType = .gateway ∨ deviceType = .anchor then
        loadedCells sensorRegion
          (changeNeighbour fun record => { record with deviceId := 0xFFFF })
          sensorRom t.sensorDevices t.sensorCount.toNat
      else
        t.sensorDevices
    meshDevices :=
      if deviceType = .gateway then
        loadedCells meshRegion changeMesh meshRom t.meshDevices
          t.meshCount.toNat
      else
        t.meshDevices }

section Reads

theorem BootRom.Behind.refl (rom : BootRom) : rom.Behind rom 0 :=
  ⟨rfl, fun index => by rw [Nat.zero_add]⟩

theorem BootRom.Behind.trans {first second third : BootRom} {reads more : Nat}
    (left : first.Behind second reads) (right : second.Behind third more) :
    first.Behind third (reads + more) :=
  ⟨right.image.trans left.image, fun index => by
    rw [right.errors, left.errors, Nat.add_assoc]⟩

theorem BootRom.Behind.advance {before after : BootRom} {reads : Nat}
    (behind : before.Behind after reads) :
    before.Behind after.advance (reads + 1) :=
  ⟨behind.image, fun index => by
    rw [BootRom.advance_error, behind.errors, ← Nat.add_assoc,
      Nat.add_right_comm]⟩

end Reads

section Loops

variable {Record Cell : Type} {region : Region Record}
variable {change : Option (Record × UInt32) → Option (Cell → Cell)}
variable {modulus count : Nat}

theorem loadedCells_length (rom : BootRom) (cells : List Cell) :
    (loadedCells region change rom cells count).length = cells.length :=
  List.length_mapIdx

/-- One more entry. -/
theorem loadedCells_set {rom : BootRom} {cells : List Cell} {index : Nat}
    {cell : Cell} (here : cells[index]? = some cell) :
    (loadedCells region change rom cells index).set index
        (loadedCell change (rom.entryAt region index) cell) =
      loadedCells region change rom cells (index + 1) := by
  apply List.ext_getElem?
  intro other
  rw [List.getElem?_set, loadedCells, loadedCells, List.length_mapIdx,
    List.getElem?_mapIdx, List.getElem?_mapIdx]
  have inside : index < cells.length := (List.getElem?_eq_some_iff.mp here).1
  rcases Nat.lt_trichotomy other index with before | same | after
  · simp only [if_neg (Nat.ne_of_gt before), before, if_true,
      Nat.lt_succ_of_lt before]
  · subst same
    simp only [if_true, inside, here, Option.map_some, Nat.lt_succ_self]
  · simp only [if_neg (Nat.ne_of_lt after), Nat.not_lt_of_gt after, if_false,
      Nat.not_lt_of_ge (Nat.succ_le_of_lt after)]

/-- A round within the table loads one entry. -/
theorem loadRound_step
    {rom : BootRom} {cells : List Cell} {s : Loading Cell}
    (inside : count ≤ cells.length) (narrow : count < modulus)
    (more : s.i < count) (behind : rom.Behind s.rom s.i)
    (held : s.cells = loadedCells region change rom cells s.i) :
    loadRound region change modulus count s = .ok (.inl
      { rom := s.rom.advance
        cells := loadedCells region change rom cells (s.i + 1)
        i := s.i + 1 }) := by
  have next : (s.i + 1) % modulus = s.i + 1 := Nat.mod_eq_of_lt (by omega)
  have entry : (s.rom.readEntry region s.i) =
      (s.rom.advance, rom.entryAt region s.i) := by
    rw [BootRom.readEntry, BootRom.entryAt, behind.image, behind.errors 0,
      Nat.add_zero]
  obtain ⟨cell, here⟩ : ∃ cell, cells[s.i]? = some cell :=
    ⟨_, List.getElem?_eq_getElem (Nat.lt_of_lt_of_le more inside)⟩
  have kept : s.cells[s.i]? = some cell := by
    rw [held, loadedCells, List.getElem?_mapIdx, here, Option.map_some,
      if_neg (Nat.lt_irrefl _)]
  have within : s.i < s.cells.length := (List.getElem?_eq_some_iff.mp kept).1
  have stored := @loadedCells_set _ _ region change rom cells s.i cell here
  rw [← held] at stored
  simp only [loadRound, if_pos more, entry, next, fetch, kept, put,
    if_pos within, bind, Except.bind]
  rw [loadedCell] at stored
  cases changed : change (rom.entryAt region s.i) with
  | none =>
      rw [changed] at stored
      have same : s.cells.set s.i cell = s.cells := by
        rw [← (List.getElem?_eq_some_iff.mp kept).2, List.set_getElem_self]
      rw [← stored, same]
  | some change' =>
      rw [changed] at stored
      rw [← stored]
      rfl

/-- A loop over no more entries than the table has cells ends, and every access
is inside. -/
theorem load_total
    {rom : BootRom} {cells : List Cell} (inside : count ≤ cells.length)
    (narrow : count < modulus) :
    ∃ rom', rom.Behind rom' count ∧ ∀ fuel, count < fuel →
      run (loadRound region change modulus count) fuel { rom, cells } =
        .ok (rom', loadedCells region change rom cells count) := by
  have each (s : Loading Cell)
      (holds : s.i ≤ count ∧ rom.Behind s.rom s.i ∧
        s.cells = loadedCells region change rom cells s.i) :
      (∃ next, loadRound region change modulus count s = .ok (.inl next) ∧
        (next.i ≤ count ∧ rom.Behind next.rom next.i ∧
          next.cells = loadedCells region change rom cells next.i) ∧
          count - next.i < count - s.i) ∨
        ∃ result, loadRound region change modulus count s = .ok (.inr result) ∧
          rom.Behind result.1 count ∧
            result.2 = loadedCells region change rom cells count := by
    obtain ⟨bound, behind, held⟩ := holds
    by_cases more : s.i < count
    · refine .inl ⟨_, loadRound_step inside narrow more behind held,
        ⟨more, behind.advance, rfl⟩, ?_⟩
      dsimp only
      omega
    · have last : s.i = count := by omega
      exact .inr ⟨_, by rw [loadRound, if_neg more], last ▸ behind,
        last ▸ held⟩
  have start : rom.Behind rom 0 ∧
      cells = loadedCells region change rom cells 0 := by
    refine ⟨.refl rom, ?_⟩
    apply List.ext_getElem?
    intro index
    simp [loadedCells, List.getElem?_mapIdx]
  obtain ⟨⟨rom', after⟩, ends, behind, loaded⟩ :=
    @run_total _ _ (loadRound region change modulus count) _
      (fun s => count - s.i) _ each (count + 1) { rom, cells }
      ⟨Nat.zero_le _, start⟩ (Nat.lt_succ_self _)
  rw [show after = loadedCells region change rom cells count from loaded] at ends
  exact ⟨rom', behind, fun fuel enough =>
    run_mono (fun _ _ same => same) ends enough⟩

/-- A loop over more entries leaves the table. -/
theorem load_overrun
    {s : Loading Cell} (touches : ∀ entry, change entry ≠ none)
    (beyond : s.cells.length < count) (narrow : count < modulus) {fuel : Nat}
    (start : s.i ≤ s.cells.length) (enough : s.cells.length - s.i < fuel) :
    run (loadRound region change modulus count) fuel s = .error .bounds := by
  induction fuel generalizing s with
  | zero => omega
  | succ fuel ih =>
      obtain ⟨change', changes⟩ := Option.ne_none_iff_exists'.mp
        (touches (s.rom.readEntry region s.i).2)
      rcases Nat.lt_or_eq_of_le start with inside | last
      · obtain ⟨old, fetched⟩ := fetch_inside inside
        have goes :
            loadRound region change modulus count s = .ok (.inl
              { rom := (s.rom.readEntry region s.i).1
                cells := s.cells.set s.i (change' old)
                i := s.i + 1 }) := by
          simp only [loadRound, if_pos (Nat.lt_trans inside beyond), changes,
            fetched, put, if_pos inside, bind, Except.bind,
            Nat.mod_eq_of_lt (show s.i + 1 < modulus by omega)]
          rfl
        rw [run_next goes]
        apply ih
        · rw [List.length_set]
          exact beyond
        · rw [List.length_set]
          exact inside
        · rw [List.length_set]
          dsimp only
          omega
      · apply run_failed
        simp only [loadRound, if_pos (show s.i < count by omega), changes,
          fetch_outside (show s.cells.length ≤ s.i by omega), bind, Except.bind]

end Loops

section Headers

@[simp]
theorem BootRom.advance_image (rom : BootRom) :
    rom.advance.image = rom.image := rfl

theorem BootRom.readHeader_ok {Record : Type} {rom : BootRom}
    {region : Region Record} (read : rom.error 0 = 0) :
    rom.readHeader region = (rom.advance, .ok (region.readHeader rom.image)) := by
  rw [BootRom.readHeader, if_pos read]

theorem BootRom.readHeader_error {Record : Type} {rom : BootRom}
    {region : Region Record} (failed : rom.error 0 ≠ 0) :
    rom.readHeader region = (rom.advance, .error (rom.error 0)) := by
  rw [BootRom.readHeader, if_neg failed]

/-- A header brings a 16-bit count. -/
theorem readHeader_lt {Record : Type} (region : Region Record) (store : Store) :
    region.readHeader store < 65536 := by
  unfold Region.readHeader
  split
  · have bound := ofLittleEndian_lt ((slice store region.base 4).drop 2)
    rw [List.length_drop, slice_length] at bound
    exact bound
  · decide

theorem narrowed (count : Nat) : (UInt8.ofNat count).toNat = count % 256 :=
  UInt8.toNat_ofNat' 

end Headers

section Tables

variable {deviceType : DeviceType} {rom : BootRom} {t : BootTables}

theorem loadInfra_total (bounded : t.Bounded) :
    ∃ rom', rom.Behind rom' t.infraCount.toNat ∧ ∀ fuel, 65536 < fuel →
      loadInfra fuel rom t =
        .ok (rom', (t.filled deviceType rom rom rom).infraDevices) := by
  have narrow := t.infraCount.toNat_lt
  obtain ⟨rom', behind, ends⟩ := @load_total _ _ infraRegion
    (changeNeighbour fun record => { record with deviceId := 0xFFFF })
    256 t.infraCount.toNat rom t.infraDevices
    (bounded.infraCells ▸ bounded.infra) narrow
  exact ⟨rom', behind, fun fuel enough => ends fuel (by omega)⟩

theorem loadSensors_total (bounded : t.Bounded) :
    ∃ rom' reads, rom.Behind rom' reads ∧ ∀ fuel, 65536 < fuel →
      loadSensors fuel deviceType rom t =
        .ok (rom', (t.filled deviceType rom rom rom).sensorDevices) := by
  have narrow := t.sensorCount.toNat_lt
  simp only [loadSensors, BootTables.filled]
  split
  · obtain ⟨rom', behind, ends⟩ := @load_total _ _ sensorRegion
      (changeNeighbour fun record => { record with deviceId := 0xFFFF })
      256 t.sensorCount.toNat rom t.sensorDevices
      (bounded.sensorCells ▸ bounded.sensors) narrow
    exact ⟨rom', _, behind, fun fuel enough => ends fuel (by omega)⟩
  · exact ⟨rom, 0, .refl rom, fun _ _ => rfl⟩

theorem loadMesh_total (bounded : t.Bounded) :
    ∃ rom', ∀ fuel, 65536 < fuel →
      loadMesh fuel deviceType rom t =
        .ok (rom', (t.filled deviceType rom rom rom).meshDevices) := by
  have narrow := t.meshCount.toNat_lt
  simp only [loadMesh, BootTables.filled]
  split
  · obtain ⟨rom', -, ends⟩ := @load_total _ _ meshRegion changeMesh
      65536 t.meshCount.toNat rom t.meshDevices
      (bounded.meshCells ▸ bounded.mesh) narrow
    exact ⟨rom', fun fuel enough => ends fuel (by omega)⟩
  · exact ⟨rom, fun _ _ => rfl⟩

/-- Bounded counts keep every loop inside. -/
theorem BootTables.Bounded.loads (bounded : t.Bounded) :
    ∃ sensorRom meshRom, (∃ reads, rom.Behind sensorRom reads) ∧
      (∃ reads, rom.Behind meshRom reads) ∧ ∀ fuel, 65536 < fuel →
        loadTables fuel deviceType rom t =
          .ok (0, t.filled deviceType rom sensorRom meshRom) := by
  obtain ⟨sensorRom, infraBehind, infraEnds⟩ :=
    @loadInfra_total deviceType rom t bounded
  obtain ⟨meshRom, reads, sensorBehind, sensorEnds⟩ :=
    @loadSensors_total deviceType sensorRom t bounded
  obtain ⟨last, meshEnds⟩ := @loadMesh_total deviceType meshRom t bounded
  refine ⟨sensorRom, meshRom, ⟨_, infraBehind⟩,
    ⟨_, infraBehind.trans sensorBehind⟩, ?_⟩
  intro fuel enough
  simp only [loadTables, infraEnds fuel enough, sensorEnds fuel enough,
    meshEnds fuel enough, bind, Except.bind, pure, Except.pure]
  rfl

/-- The loops keep the sizes of the tables. -/
theorem BootTables.Bounded.filled (bounded : t.Bounded)
    (sensorRom meshRom : BootRom) :
    (t.filled deviceType rom sensorRom meshRom).Bounded where
  infra := bounded.infra
  sensors := bounded.sensors
  mesh := bounded.mesh
  infraCells := (loadedCells_length _ _).trans bounded.infraCells
  sensorCells := by
    rw [BootTables.filled]
    dsimp only
    split
    · exact (loadedCells_length _ _).trans bounded.sensorCells
    · exact bounded.sensorCells
  meshCells := by
    rw [BootTables.filled]
    dsimp only
    split
    · exact (loadedCells_length _ _).trans bounded.meshCells
    · exact bounded.meshCells

/-- The loops leave the counts. -/
theorem loadTables_counts
    {fuel : Nat} {result : Int × BootTables}
    (loaded : loadTables fuel deviceType rom t = .ok result) :
    result.2.infraCount = t.infraCount ∧
      result.2.sensorCount = t.sensorCount ∧
        result.2.meshCount = t.meshCount := by
  simp only [loadTables, bind, Except.bind] at loaded
  split at loaded
  · cases loaded
  · split at loaded
    · cases loaded
    · split at loaded
      · cases loaded
      · cases loaded
        exact ⟨rfl, rfl, rfl⟩

theorem bounded_counts (infraCount sensorCount : UInt8) (meshCount : UInt16) :
    ({ infraCount, sensorCount, meshCount } : BootTables).Bounded ↔
      infraCount.toNat ≤ maxAnchors ∧ sensorCount.toNat ≤ maxSensors ∧
        meshCount.toNat ≤ maxDevices := by
  constructor
  · intro bounded
    exact ⟨bounded.infra, bounded.sensors, bounded.mesh⟩
  · rintro ⟨infra, sensors, mesh⟩
    exact
      { infra, sensors, mesh
        infraCells := List.length_replicate
        sensorCells := List.length_replicate
        meshCells := List.length_replicate }

end Tables

section Boot

variable {deviceType : DeviceType} {rom : BootRom}

/-- One entry too many in the infra header and the first loop leaves
`infra_devices`, for every role and whatever the entries hold. -/
theorem boot_overrun
    (ready : rom.ready = true)
    (read : rom.error 0 = 0 ∧ rom.error 1 = 0 ∧ rom.error 2 = 0)
    (beyond : maxAnchors < infraRegion.readHeader rom.image % 256)
    {fuel : Nat} (enough : maxAnchors < fuel) :
    storageInitArrays fuel deviceType rom = .error .bounds := by
  obtain ⟨first, second, third⟩ := read
  have narrow := Nat.mod_lt (infraRegion.readHeader rom.image)
    (show 256 > 0 by decide)
  have leaves (t : BootTables) (rom' : BootRom)
      (counted : t.infraCount =
        UInt8.ofNat (infraRegion.readHeader rom.image))
      (zeroed : t.infraDevices.length = maxAnchors) :
      loadInfra fuel rom' t = .error .bounds := by
    unfold loadInfra
    apply load_overrun
    · intro entry
      cases entry <;> exact Option.some_ne_none _
    · rw [counted, narrowed]
      exact zeroed.trans_lt beyond
    · rw [counted, narrowed]
      exact narrow
    · exact Nat.zero_le _
    · exact (Nat.sub_le _ _).trans_lt (zeroed.trans_lt enough)
  simp only [storageInitArrays, BootRom.readHeader_ok, BootRom.advance_error,
    BootRom.advance_image, ready, first, second, third, Bool.not_true,
    Bool.false_eq_true, if_false, loadTables]
  rw [leaves _ _ rfl List.length_replicate]
  rfl

/-- Without a loop, the counts decide. -/
theorem bootSafe_of_ends {result : Int × BootTables}
    (ends : ∀ fuel, storageInitArrays fuel deviceType rom = .ok result) :
    BootSafe deviceType rom ↔ result.2.Bounded := by
  constructor
  · rintro ⟨other, bounded, returns⟩
    have same := (ends 65537).symm.trans (returns 65537 (by omega))
    cases same
    exact bounded
  · intro bounded
    exact ⟨result, bounded, fun fuel _ => ends fuel⟩

/-- With the loops, the counts decide as well: the loops leave them. -/
theorem bootSafe_of_loads {rom' : BootRom}
    {infraCount sensorCount : UInt8} {meshCount : UInt16}
    (loads : ∀ fuel, storageInitArrays fuel deviceType rom =
      loadTables fuel deviceType rom' { infraCount, sensorCount, meshCount }) :
    BootSafe deviceType rom ↔
      infraCount.toNat ≤ maxAnchors ∧ sensorCount.toNat ≤ maxSensors ∧
        meshCount.toNat ≤ maxDevices := by
  rw [← bounded_counts]
  constructor
  · rintro ⟨result, bounded, returns⟩
    have loaded := (loads 65537).symm.trans (returns 65537 (by omega))
    obtain ⟨infra, sensors, mesh⟩ := loadTables_counts loaded
    rw [bounded_counts]
    refine ⟨?_, ?_, ?_⟩
    · exact (congrArg UInt8.toNat infra).symm.trans_le bounded.infra
    · exact (congrArg UInt8.toNat sensors).symm.trans_le bounded.sensors
    · exact (congrArg UInt16.toNat mesh).symm.trans_le bounded.mesh
  · intro bounded
    obtain ⟨sensorRom, meshRom, -, -, ends⟩ :=
      @bounded.loads deviceType rom' _
    exact ⟨_, bounded.filled sensorRom meshRom,
      fun fuel enough => (loads fuel).trans (ends fuel enough)⟩

/-- Boot is safe exactly when the headers that it reads bring counts within the
tables. -/
theorem bootSafe_iff (deviceType : DeviceType) (rom : BootRom) :
    BootSafe deviceType rom ↔ HeadersFit rom := by
  have none : (0 : UInt8).toNat ≤ maxAnchors ∧
      (0 : UInt8).toNat ≤ maxSensors ∧ (0 : UInt16).toNat ≤ maxDevices := by
    decide
  rcases Bool.eq_false_or_eq_true rom.ready with ready | unready
  · by_cases first : rom.error 0 = 0
    · by_cases second : rom.error 1 = 0
      · by_cases third : rom.error 2 = 0
        · have whole := readHeader_lt meshRegion rom.image
          rw [@bootSafe_of_loads deviceType rom rom.advance.advance.advance
            (UInt8.ofNat (infraRegion.readHeader rom.image))
            (UInt8.ofNat (sensorRegion.readHeader rom.image))
            (UInt16.ofNat (meshRegion.readHeader rom.image))]
          · rw [narrowed, narrowed, UInt16.toNat_ofNat_of_lt' whole]
            simp only [HeadersFit, ready, first, second, third, true_imp_iff]
          · intro fuel
            simp [storageInitArrays, BootRom.readHeader_ok, ready, first,
              second, third]
        · rw [@bootSafe_of_ends deviceType rom (rom.error 2, {
            infraCount := UInt8.ofNat (infraRegion.readHeader rom.image)
            sensorCount := UInt8.ofNat (sensorRegion.readHeader rom.image) }),
            bounded_counts, narrowed, narrowed]
          · simp only [HeadersFit, ready, first, second, third, none,
              true_imp_iff, false_imp_iff, and_true]
          · intro fuel
            simp [storageInitArrays, BootRom.readHeader_ok,
              BootRom.readHeader_error, ready, first, second, third]
      · rw [@bootSafe_of_ends deviceType rom (rom.error 1, {
          infraCount := UInt8.ofNat (infraRegion.readHeader rom.image) }),
          bounded_counts, narrowed]
        · simp only [HeadersFit, ready, first, second, none, true_imp_iff,
            false_imp_iff, and_true]
        · intro fuel
          simp [storageInitArrays, BootRom.readHeader_ok,
            BootRom.readHeader_error, ready, first, second]
    · rw [@bootSafe_of_ends deviceType rom (rom.error 0, {}), bounded_counts]
      · simp only [HeadersFit, ready, first, none, true_imp_iff,
          false_imp_iff, and_true]
      · intro fuel
        simp [storageInitArrays, BootRom.readHeader_error, ready, first]
  · rw [@bootSafe_of_ends deviceType rom (-19, {})
      (fun fuel => by simp [storageInitArrays, unready]), bounded_counts]
    simp only [HeadersFit, unready, none, Bool.false_eq_true, false_imp_iff,
      and_true]

/-- A header with the magic and nine infra entries. -/
def overfullImage : Store := splice (fun _ => 0) 0 [0xDE, 0xC7, 9, 0]

theorem bootSafe_overfull :
    (∀ fuel, 8 < fuel → storageInitArrays fuel .sensor
        { image := overfullImage } = .error .bounds) ∧
      ¬ BootSafe .sensor { image := overfullImage } := by
  have leaves (fuel : Nat) (enough : 8 < fuel) :=
    @boot_overrun .sensor { image := overfullImage } rfl ⟨rfl, rfl, rfl⟩
      (by decide) fuel enough
  refine ⟨leaves, ?_⟩
  rintro ⟨result, _, ends⟩
  have returns := ends 65537 (by decide)
  rw [leaves 65537 (by decide)] at returns
  cases returns

end Boot

section Image

variable {deviceType : DeviceType} {rom : BootRom}

/-- The entries in use of the arrays. -/
structure BootTables.Shows (t : BootTables) (s : StorageImage) : Prop where
  infra : t.infraDevices.take t.infraCount.toNat = s.infra
  sensors : t.sensorDevices.take t.sensorCount.toNat = s.sensors
  mesh : t.meshDevices.take t.meshCount.toNat = s.mesh

theorem take_loadedCells
    {Record Cell : Type} {region : Region Record}
    {change : Option (Record × UInt32) → Option (Cell → Cell)}
    {image : Store} {zero : Cell} {size count : Nat} (inside : count ≤ size)
    (reads : ∀ index, rom.entryAt region index = region.readCell image index) :
    (loadedCells region change rom (List.replicate size zero) count).take
        count =
      (List.range count).map fun index =>
        loadedCell change (region.readCell image index) zero := by
  apply List.ext_getElem?
  intro index
  rw [List.getElem?_map, List.getElem?_take, loadedCells,
    List.getElem?_mapIdx]
  by_cases used : index < count
  · rw [if_pos used, List.getElem?_range used, List.getElem?_replicate,
      if_pos (Nat.lt_of_lt_of_le used inside), Option.map_some, if_pos used,
      reads, Option.map_some]
  · rw [if_neg used, List.getElem?_eq_none (by simpa using used),
      Option.map_none]

/-- The counts that the headers bring. -/
def BootRom.counts (rom : BootRom) : BootTables where
  infraCount := UInt8.ofNat (infraRegion.readHeader rom.image)
  sensorCount := UInt8.ofNat (sensorRegion.readHeader rom.image)
  meshCount := UInt16.ofNat (meshRegion.readHeader rom.image)

/-- Neighbours over zeros are the table of the list model. -/
theorem take_neighbours
    {Record : Type} {region : Region Record} {invalid : Record → Record}
    {image : Store} {zero : Record} {size count : Nat} (inside : count ≤ size)
    (reads : ∀ index, rom.entryAt region index = region.readCell image index) :
    (loadedCells region (changeNeighbour invalid) rom
        (List.replicate size { entry := { record := zero } }) count).take
        count =
      StorageImage.loadTable region (invalid zero) image count := by
  refine (take_loadedCells inside reads).trans ?_
  apply List.map_congr_left
  intro index _
  cases region.readCell image index with
  | none => rfl
  | some _ => rfl

/-- A table that is not loaded keeps its zeros. -/
theorem take_zeros {Cell : Type} {zero : Cell} {size count : Nat}
    (inside : count ≤ size) :
    (List.replicate size zero).take count = List.replicate count zero := by
  rw [List.take_replicate, Nat.min_eq_left inside]

theorem filled_shows
    {infraRom sensorRom meshRom : BootRom} (bounded : rom.counts.Bounded)
    (infra : ∀ index, infraRom.entryAt infraRegion index =
      infraRegion.readCell rom.image index)
    (sensors : ∀ index, sensorRom.entryAt sensorRegion index =
      sensorRegion.readCell rom.image index)
    (mesh : ∀ index, meshRom.entryAt meshRegion index =
      meshRegion.readCell rom.image index) :
    (rom.counts.filled deviceType infraRom sensorRom meshRom).Shows
      (StorageImage.storageInit deviceType rom.image) := by
  have infraCount : rom.counts.infraCount.toNat =
      infraRegion.readHeader rom.image % 256 := narrowed _
  have sensorCount : rom.counts.sensorCount.toNat =
      sensorRegion.readHeader rom.image % 256 := narrowed _
  have meshCount : rom.counts.meshCount.toNat =
      meshRegion.readHeader rom.image :=
    UInt16.toNat_ofNat_of_lt' (readHeader_lt meshRegion rom.image)
  have infraFits := infraCount ▸ bounded.infra
  have sensorFits := sensorCount ▸ bounded.sensors
  have meshFits := meshCount ▸ bounded.mesh
  constructor
  · simp only [BootTables.filled, StorageImage.storageInit, infraCount]
    exact take_neighbours infraFits infra
  · simp only [BootTables.filled, StorageImage.storageInit, sensorCount]
    split
    · exact take_neighbours sensorFits sensors
    · exact take_zeros sensorFits
  · simp only [BootTables.filled, StorageImage.storageInit, meshCount]
    split
    · refine (take_loadedCells meshFits mesh).trans ?_
      apply List.map_congr_left
      intro index _
      cases meshRegion.readCell rom.image index with
      | none => rfl
      | some _ => rfl
    · exact take_zeros meshFits

/-- Where the headers fit and no read fails, the arrays hold the tables of the
list model. -/
theorem storageInitArrays_image
    (ready : rom.ready = true) (reads : ∀ index, rom.error index = 0)
    (fits : HeadersFit rom) :
    ∃ t, (∀ fuel, 65536 < fuel →
        storageInitArrays fuel deviceType rom = .ok (0, t)) ∧
      t.Shows (StorageImage.storageInit deviceType rom.image) := by
  obtain ⟨infraFits, rest⟩ := fits ready (reads 0)
  obtain ⟨sensorFits, last⟩ := rest (reads 1)
  have bounded : rom.counts.Bounded := by
    rw [BootRom.counts, bounded_counts, narrowed, narrowed,
      UInt16.toNat_ofNat_of_lt' (readHeader_lt meshRegion rom.image)]
    exact ⟨infraFits, sensorFits, last (reads 2)⟩
  have behind : rom.Behind rom.advance.advance.advance 3 :=
    (BootRom.Behind.refl rom).advance.advance.advance
  obtain ⟨sensorRom, meshRom, ⟨_, sensorBehind⟩, ⟨_, meshBehind⟩, ends⟩ :=
    @bounded.loads deviceType rom.advance.advance.advance _
  have found {Record : Type} (region : Region Record) {rom' : BootRom}
      {done : Nat} (after : rom.Behind rom' done) (index : Nat) :
      rom'.entryAt region index = region.readCell rom.image index := by
    rw [BootRom.entryAt, after.errors, reads, if_pos rfl, after.image]
  refine ⟨rom.counts.filled deviceType rom.advance.advance.advance sensorRom
    meshRom, fun fuel enough => ?_, ?_⟩
  · rw [← ends fuel enough]
    simp [storageInitArrays, BootRom.readHeader_ok, BootRom.counts, ready,
      reads]
  · exact filled_shows bounded (found infraRegion behind)
      (found sensorRegion (behind.trans sensorBehind))
      (found meshRegion (behind.trans meshBehind))

end Image

end DectMesh
