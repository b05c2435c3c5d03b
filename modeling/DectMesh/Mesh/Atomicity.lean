import DectMesh.Mesh.Tables
import Mathlib.Data.Multiset.AddSub

/-!
# Storage operations that fail

Most operations change the table in RAM before they write to the EEPROM, and
none of them takes the change back.  Which failures the RAM survives is
decided here for each operation.
-/

namespace DectMesh

/-- The operations of `storage.c` that add, update or remove an entry. -/
inductive StorageCall where
  | infraAdd (entry : InfraRecord)
  | infraUpdate (index : Nat) (entry : InfraRecord)
  | infraRemove (index : Nat)
  | sensorAdd (entry : SensorRecord)
  | sensorUpdate (index : Nat) (entry : SensorRecord)
  | sensorRemove (index : Nat)
  | meshAdd (entry : MeshRecord)
  | meshRemove (index : Nat)
  deriving DecidableEq

namespace Eeprom

variable {rom : Eeprom} {count : Nat}

/-- The next operations succeed. -/
def Serves (rom : Eeprom) (count : Nat) : Prop :=
  ∀ outcome ∈ rom.failures.take count, outcome = none

instance : Decidable (rom.Serves count) :=
  inferInstanceAs (Decidable (∀ _ ∈ _, _))

theorem serves_zero (rom : Eeprom) : rom.Serves 0 := by
  intro outcome member
  rw [List.take_zero] at member
  cases member

theorem serves_succ :
    rom.Serves (count + 1) ↔ rom.outcome = none ∧ rom.advance.Serves count := by
  unfold Serves
  rw [advance_failures, Eeprom.outcome]
  cases rom.failures with
  | nil => simp
  | cons first rest => simp

theorem status_none : rom.status = none ↔ rom.outcome = none := by
  unfold Eeprom.status
  cases rom.outcome with
  | none => simp
  | some leftover => simp

theorem serves_one : rom.Serves 1 ↔ rom.status = none := by
  rw [serves_succ, status_none]
  exact and_iff_left (serves_zero _)

end Eeprom

namespace Storage

variable {s t : Storage}

/-- The tables in RAM, with the statistics of the neighbours. -/
def ram (s : Storage) : List Infra × List Sensor × List MeshEntry :=
  (s.infra.live, s.sensors.live, s.mesh.live)

def perform (s : Storage) : StorageCall → Storage × Option Errno
  | .infraAdd entry => s.storageInfraAdd entry
  | .infraUpdate index entry => s.storageInfraUpdate index entry
  | .infraRemove index => s.storageInfraRemove index
  | .sensorAdd entry => s.storageSensorAdd entry
  | .sensorUpdate index entry => s.storageSensorUpdate index entry
  | .sensorRemove index => s.storageSensorRemove index
  | .meshAdd entry => s.storageMeshAdd entry
  | .meshRemove index => s.storageMeshRemove index

/-- An outcome that leaves the RAM alone if it is an error. -/
def Atomic (s : Storage) (result : Storage × Option Errno) : Prop :=
  result.2 ≠ none → result.1.ram = s.ram

section Flush

/-- The entries are written, and `count` more operations succeed. -/
theorem flushInfraEntries_serves (devices : List Infra) (index : Nat)
    (rom : Eeprom) (count : Nat) :
    ((flushInfraEntries devices index rom).2 = none ∧
      (flushInfraEntries devices index rom).1.Serves count) ↔
        rom.Serves (devices.length + count) := by
  induction devices generalizing index rom with
  | nil =>
      rw [List.length_nil, Nat.zero_add]
      exact and_iff_right rfl
  | cons device rest ih =>
      rw [List.length_cons, Nat.add_right_comm, Eeprom.serves_succ,
        ← Eeprom.status_none, flushInfraEntries, Eeprom.writeInfra]
      cases rom.status with
      | some errno => simp
      | none =>
          rw [ih]
          exact (and_iff_right rfl).symm

theorem flushSensorEntries_serves (devices : List Sensor) (index : Nat)
    (rom : Eeprom) (count : Nat) :
    ((flushSensorEntries devices index rom).2 = none ∧
      (flushSensorEntries devices index rom).1.Serves count) ↔
        rom.Serves (devices.length + count) := by
  induction devices generalizing index rom with
  | nil =>
      rw [List.length_nil, Nat.zero_add]
      exact and_iff_right rfl
  | cons device rest ih =>
      rw [List.length_cons, Nat.add_right_comm, Eeprom.serves_succ,
        ← Eeprom.status_none, flushSensorEntries, Eeprom.writeSensor]
      cases rom.status with
      | some errno => simp
      | none =>
          rw [ih]
          exact (and_iff_right rfl).symm

/-- A flush succeeds when all its writes do, that of the header included. -/
theorem flushInfra_none :
    s.flushInfraToEeprom.2 = none ↔ s.eeprom.Serves (s.infra.count + 1) := by
  have entries := flushInfraEntries_serves s.infra.live 0 s.eeprom 1
  rw [Eeprom.serves_one] at entries
  refine Iff.trans ?_ entries
  unfold flushInfraToEeprom
  split
  · next rom errno flushed =>
    rw [flushed]
    simp
  · next rom flushed =>
    rw [flushed]
    exact (and_iff_right rfl).symm

theorem flushSensors_none :
    s.flushSensorsToEeprom.2 = none ↔
      s.eeprom.Serves (s.sensors.count + 1) := by
  have entries := flushSensorEntries_serves s.sensors.live 0 s.eeprom 1
  rw [Eeprom.serves_one] at entries
  refine Iff.trans ?_ entries
  unfold flushSensorsToEeprom
  split
  · next rom errno flushed =>
    rw [flushed]
    simp
  · next rom flushed =>
    rw [flushed]
    exact (and_iff_right rfl).symm

@[simp]
theorem flushInfra_ram (s : Storage) : s.flushInfraToEeprom.1.ram = s.ram := by
  unfold flushInfraToEeprom
  split
  · rfl
  · rfl

@[simp]
theorem flushSensors_ram (s : Storage) :
    s.flushSensorsToEeprom.1.ram = s.ram := by
  unfold flushSensorsToEeprom
  split
  · rfl
  · rfl

/-- What is flushed is in RAM, whether the flush succeeds or not. -/
theorem flushInfra_atomic :
    s.Atomic t.flushInfraToEeprom ↔
      t.eeprom.Serves (t.infra.count + 1) ∨ t.ram = s.ram := by
  rw [Atomic, flushInfra_ram, ← flushInfra_none]
  exact or_iff_not_imp_left.symm

theorem flushSensors_atomic :
    s.Atomic t.flushSensorsToEeprom ↔
      t.eeprom.Serves (t.sensors.count + 1) ∨ t.ram = s.ram := by
  rw [Atomic, flushSensors_ram, ← flushSensors_none]
  exact or_iff_not_imp_left.symm

end Flush

/-- An operation that fails before it changes anything. -/
theorem atomic_refused (errno : Errno) : s.Atomic (s, some errno) :=
  fun _ => rfl

section Infra

variable {index : Nat} {entry : InfraRecord}

theorem ram_append_ne (s : Storage) (device : Infra) :
    ({ s with infra := s.infra.append device }
      |>.sortInfraDevices.ram) ≠ s.ram := by
  intro same
  have live := congrArg Prod.fst same
  have length := congrArg List.length live
  dsimp only [ram, sortInfraDevices, RamTable.append] at length
  rw [(BubbleSort.sort_perm _ _).length_eq, List.length_append] at length
  exact absurd length (by simp)

theorem infraAdd_atomic_iff :
    s.Atomic (s.storageInfraAdd entry) ↔
      maxAnchors ≤ s.infra.count ∨ s.eeprom.Serves (s.infra.count + 2) := by
  unfold storageInfraAdd
  split
  · next full =>
    exact iff_of_true (atomic_refused _) (.inl full)
  · next room =>
    have count : (({ s with infra := s.infra.append { entry := entry } }
        |>.sortInfraDevices).infra.count) = s.infra.count + 1 := by
      dsimp only [RamTable.count, sortInfraDevices, RamTable.append]
      rw [(BubbleSort.sort_perm _ _).length_eq, List.length_append]
      rfl
    rw [flushInfra_atomic, count, or_iff_left (ram_append_ne s _),
      or_iff_right room]
    rfl

/-- The entry is in the place where it is to be written, and the table is in
order. -/
def InfraStays (s : Storage) (index : Nat) (entry : InfraRecord) : Prop :=
  s.storageInfraGet index = some entry ∧
    s.tables.infra.Pairwise CloserFirst

theorem inOrder_live :
    s.infra.live.Pairwise (BubbleSort.InOrder swapInfra) ↔
      s.tables.infra.Pairwise CloserFirst := by
  unfold tables
  rw [List.pairwise_map]
  exact ⟨List.Pairwise.imp fun {left right} => (inOrder_iff left right).mp,
    List.Pairwise.imp fun {left right} => (inOrder_iff left right).mpr⟩

/-- Only the entry that is there can take its own place. -/
theorem set_perm {device other : Infra}
    (found : s.infra.live[index]? = some device)
    (perm : (s.infra.live.set index other).Perm s.infra.live) :
    other = device := by
  obtain ⟨below, here⟩ := List.getElem?_eq_some_iff.mp found
  have replaced := List.set_perm_cons_eraseIdx below other
  have original := List.getElem_cons_eraseIdx_perm below
  have same := Multiset.coe_eq_coe.mpr
    ((replaced.symm.trans perm).trans original.symm)
  rw [← Multiset.cons_coe, ← Multiset.cons_coe, Multiset.cons_inj_left] at same
  exact same.trans here

theorem infraUpdate_ram_iff {device : Infra}
    (found : s.infra.live[index]? = some device) :
    ({ s with infra := s.infra.set index { device with entry := entry } }
      |>.sortInfraDevices.ram) = s.ram ↔ s.InfraStays index entry := by
  obtain ⟨below, here⟩ := List.getElem?_eq_some_iff.mp found
  constructor
  · intro same
    have live : BubbleSort.sort swapInfra
        (s.infra.live.set index { device with entry := entry }) =
          s.infra.live := congrArg Prod.fst same
    have sorted := sortInfraDevices_sorted
      { s with infra := s.infra.set index { device with entry := entry } }
    have perm := (BubbleSort.sort_perm swapInfra
      (s.infra.live.set index { device with entry := entry })).symm
    rw [live] at perm
    have kept := congrArg Neighbour.entry (set_perm found perm)
    dsimp only [tables, sortInfraDevices, RamTable.set] at sorted
    rw [live] at sorted
    refine ⟨?_, sorted⟩
    rw [storageInfraGet, found]
    exact congrArg some kept.symm
  · rintro ⟨current, sorted⟩
    rw [storageInfraGet, found, Option.map_some, Option.some.injEq] at current
    subst current
    have kept : s.infra.live.set index device = s.infra.live := by
      rw [← here]
      exact List.set_getElem_self below
    have idle := BubbleSort.sort_of_pairwise (inOrder_live.mpr sorted)
    dsimp only [ram, sortInfraDevices, RamTable.set]
    rw [kept, idle]

theorem infraUpdate_atomic_iff :
    s.Atomic (s.storageInfraUpdate index entry) ↔
      s.infra.count ≤ index ∨ s.eeprom.Serves (s.infra.count + 1) ∨
        s.InfraStays index entry := by
  unfold storageInfraUpdate
  split
  · next missing =>
    exact iff_of_true (atomic_refused _)
      (.inl (List.getElem?_eq_none_iff.mp missing))
  · next device found =>
    have inside : ¬ s.infra.count ≤ index :=
      Nat.not_le.mpr (List.getElem?_eq_some_iff.mp found).1
    have count : (({ s with
        infra := s.infra.set index { device with entry := entry } }
          |>.sortInfraDevices).infra.count) = s.infra.count := by
      dsimp only [RamTable.count, sortInfraDevices, RamTable.set]
      rw [(BubbleSort.sort_perm _ _).length_eq, List.length_set]
    rw [flushInfra_atomic, count, infraUpdate_ram_iff found,
      or_iff_right inside]
    rfl

theorem infraRemove_atomic_iff :
    s.Atomic (s.storageInfraRemove index) ↔
      s.infra.count ≤ index ∨ s.eeprom.Serves s.infra.count := by
  unfold storageInfraRemove
  split
  · next past =>
    exact iff_of_true (atomic_refused _) (.inl past)
  · next inside =>
    have below : index < s.infra.live.length := Nat.lt_of_not_le inside
    have length := List.length_eraseIdx_of_lt below
    have changed : ({ s with infra := s.infra.remove index } : Storage).ram ≠
        s.ram := by
      intro same
      have live := congrArg List.length (congrArg Prod.fst same)
      dsimp only [ram, RamTable.remove] at live
      omega
    have count : (s.infra.remove index).count + 1 = s.infra.count := by
      dsimp only [RamTable.count, RamTable.remove]
      omega
    rw [flushInfra_atomic, count, or_iff_left changed, or_iff_right inside]

end Infra

section Sensors

variable {index : Nat} {entry : SensorRecord}

theorem sensorAdd_atomic_iff :
    s.Atomic (s.storageSensorAdd entry) ↔
      maxSensors ≤ s.sensors.count ∨
        s.eeprom.Serves (s.sensors.count + 2) := by
  unfold storageSensorAdd
  split
  · next full =>
    exact iff_of_true (atomic_refused _) (.inl full)
  · next room =>
    have count : (s.sensors.append { entry := entry }).count =
        s.sensors.count + 1 := List.length_append
    have changed : ({ s with
        sensors := s.sensors.append { entry := entry } } : Storage).ram ≠
          s.ram := by
      intro same
      have live : (s.sensors.append { entry := entry }).count =
          s.sensors.count := congrArg (fun tables => tables.2.1.length) same
      omega
    rw [flushSensors_atomic, count, or_iff_left changed, or_iff_right room]

theorem sensorUpdate_atomic_iff :
    s.Atomic (s.storageSensorUpdate index entry) ↔
      s.sensors.count ≤ index ∨ s.eeprom.Serves (s.sensors.count + 1) ∨
        s.tables.sensors[index]? = some entry := by
  unfold storageSensorUpdate
  split
  · next missing =>
    exact iff_of_true (atomic_refused _)
      (.inl (List.getElem?_eq_none_iff.mp missing))
  · next device found =>
    obtain ⟨below, here⟩ := List.getElem?_eq_some_iff.mp found
    have count : (s.sensors.set index { device with entry := entry }).count =
        s.sensors.count := List.length_set ..
    have inside : ¬ s.sensors.count ≤ index := Nat.not_le.mpr below
    have stays :
        ({ s with
          sensors := s.sensors.set index
            { device with entry := entry } } : Storage).ram = s.ram ↔
          s.tables.sensors[index]? = some entry := by
      dsimp only [tables]
      rw [List.getElem?_map, found, Option.map_some, Option.some.injEq]
      constructor
      · intro same
        have live : s.sensors.live.set index { device with entry := entry } =
            s.sensors.live := congrArg (fun tables => tables.2.1) same
        have written := @List.getElem?_set_self _ s.sensors.live index
          { device with entry := entry } below
        rw [live, found, Option.some.injEq] at written
        exact congrArg Neighbour.entry written
      · intro current
        subst current
        have kept : s.sensors.live.set index device = s.sensors.live := by
          rw [← here]
          exact List.set_getElem_self below
        dsimp only [ram, RamTable.set]
        rw [kept]
    rw [flushSensors_atomic, count, stays, or_iff_right inside]

theorem sensorRemove_atomic_iff :
    s.Atomic (s.storageSensorRemove index) ↔
      s.sensors.count ≤ index ∨ s.eeprom.Serves s.sensors.count := by
  unfold storageSensorRemove
  split
  · next past =>
    exact iff_of_true (atomic_refused _) (.inl past)
  · next inside =>
    have below : index < s.sensors.live.length := Nat.lt_of_not_le inside
    have length := List.length_eraseIdx_of_lt below
    have changed :
        ({ s with sensors := s.sensors.remove index } : Storage).ram ≠
          s.ram := by
      intro same
      have live := congrArg (fun tables => tables.2.1.length) same
      dsimp only [ram, RamTable.remove] at live
      omega
    have count : (s.sensors.remove index).count + 1 = s.sensors.count := by
      dsimp only [RamTable.count, RamTable.remove]
      omega
    rw [flushSensors_atomic, count, or_iff_left changed, or_iff_right inside]

end Sensors

section Mesh

variable {index : Nat} {entry : MeshRecord}

/-- The entry is written before the RAM changes, the count after it. -/
theorem meshAdd_atomic_iff :
    s.Atomic (s.storageMeshAdd entry) ↔
      maxDevices ≤ s.mesh.count ∨ s.eeprom.outcome ≠ none ∨
        s.eeprom.Serves 2 := by
  unfold storageMeshAdd
  split
  · next full =>
    exact iff_of_true (atomic_refused _) (.inl full)
  · next room =>
    rw [or_iff_right room, Eeprom.serves_succ, Eeprom.serves_one, Ne,
      ← Eeprom.status_none]
    split
    · next rom errno failed =>
      have status := congrArg Prod.snd failed
      have broken : s.eeprom.status ≠ none := by
        rw [show s.eeprom.status = some errno from status]
        exact nofun
      exact iff_of_true (fun _ => rfl) (.inl broken)
    · next rom written =>
      obtain ⟨rfl, status⟩ := Prod.mk.inj written
      have changed : s.mesh.live ++ [entry.ram] ≠ s.mesh.live := by
        intro same
        have length := congrArg List.length same
        rw [List.length_append] at length
        exact absurd length (by simp)
      have served : s.eeprom.status = none := status
      rw [served, or_iff_right (fun broken => broken rfl), and_iff_right rfl]
      constructor
      · intro atomic
        by_contra failed
        exact changed (congrArg (fun tables => tables.2.2) (atomic failed))
      · intro counted failed
        exact absurd counted failed

/-- The entries from this one on are all the same. -/
def MeshRepeats (s : Storage) (index : Nat) : Prop :=
  ∀ device ∈ s.mesh.live.drop index, s.mesh.live.getLast? = some device

theorem append_eq_cons_iff {α : Type} (items : List α) (first last : α) :
    items ++ [last] = first :: items ↔
      last = first ∧ ∀ item ∈ items, last = item := by
  induction items generalizing first with
  | nil => simp
  | cons item rest ih =>
      rw [List.cons_append, List.cons.injEq, ih, List.forall_mem_cons]
      constructor
      · rintro ⟨rfl, rfl, same⟩
        exact ⟨rfl, rfl, same⟩
      · rintro ⟨rfl, rfl, same⟩
        exact ⟨rfl, rfl, same⟩

/-- The shift alone shows unless what is shifted is all the same. -/
theorem shift_eq_iff {α : Type} {items : List α} {index : Nat}
    (below : index < items.length) :
    items.eraseIdx index ++ items.getLast?.toList = items ↔
      ∀ item ∈ items.drop index, items.getLast? = some item := by
  induction items generalizing index with
  | nil => cases below
  | cons first rest ih =>
      cases index with
      | zero =>
          obtain ⟨last, ends⟩ : ∃ last, (first :: rest).getLast? = some last :=
            ⟨_, List.getLast?_eq_some_getLast (List.cons_ne_nil _ _)⟩
          rw [ends]
          have repeats := append_eq_cons_iff rest first last
          simpa using repeats
      | succ index =>
          rw [List.length_cons] at below
          have below : index < rest.length := by omega
          have tail : (first :: rest).getLast? = rest.getLast? := by
            cases rest with
            | nil => cases below
            | cons second rest => rw [List.getLast?_cons_cons]
          rw [tail, List.eraseIdx_cons_succ, List.cons_append,
            List.drop_succ_cons, List.cons.injEq, ih below]
          exact and_iff_right rfl

/-- The accesses with which `storage_mesh_remove` moves the entries. -/
def meshMoves (s : Storage) (index : Nat) : Nat :=
  if index + 1 < s.mesh.count then 2 else 0

theorem shiftedMesh_serves (index count : Nat) :
    ((s.shiftedMesh index).2 = none ∧ (s.shiftedMesh index).1.Serves count) ↔
      s.eeprom.Serves (s.meshMoves index + count) := by
  unfold shiftedMesh meshMoves
  split
  · rw [Nat.add_comm, Eeprom.serves_succ, Eeprom.serves_succ,
      ← Eeprom.status_none, ← Eeprom.status_none, Eeprom.shiftMesh]
    cases s.eeprom.status with
    | some errno => simp
    | none => exact (and_iff_right rfl).symm
  · rw [Nat.zero_add]
    exact and_iff_right rfl

theorem meshRemove_atomic_iff :
    s.Atomic (s.storageMeshRemove index) ↔
      s.mesh.count ≤ index ∨ s.eeprom.Serves (s.meshMoves index + 1) ∨
        ¬ s.eeprom.Serves (s.meshMoves index) ∧ s.MeshRepeats index := by
  have moved := @shiftedMesh_serves s index 0
  have counted := @shiftedMesh_serves s index 1
  rw [and_iff_left (Eeprom.serves_zero _), Nat.add_zero] at moved
  unfold storageMeshRemove
  split
  · next past =>
    exact iff_of_true (atomic_refused _) (.inl past)
  · next inside =>
    have below : index < s.mesh.live.length := Nat.lt_of_not_le inside
    rw [or_iff_right inside, ← moved, ← counted]
    split
    · next rom errno failed =>
      rw [failed, MeshRepeats, ← shift_eq_iff below]
      constructor
      · intro atomic
        exact .inr ⟨nofun, congrArg (fun tables => tables.2.2)
          (atomic nofun)⟩
      · rintro (⟨served, -⟩ | ⟨-, same⟩) -
        · cases served
        · dsimp only [ram, RamTable.shift]
          rw [same]
    · next rom shifted =>
      have changed : s.mesh.live.eraseIdx index ≠ s.mesh.live := by
        intro same
        have length := congrArg List.length same
        rw [List.length_eraseIdx_of_lt below] at length
        omega
      rw [shifted, Eeprom.serves_one, and_iff_right rfl,
        or_iff_left (fun failed => failed.1 rfl)]
      constructor
      · intro atomic
        by_contra failed
        exact changed (congrArg (fun tables => tables.2.2) (atomic failed))
      · intro written failed
        exact absurd written failed

end Mesh

/-- When an error leaves the RAM alone: there is none, or the operation is
refused before it changes anything, or its change does not show. -/
def Survives (s : Storage) : StorageCall → Prop
  | .infraAdd _ =>
      maxAnchors ≤ s.infra.count ∨ s.eeprom.Serves (s.infra.count + 2)
  | .infraUpdate index entry =>
      s.infra.count ≤ index ∨ s.eeprom.Serves (s.infra.count + 1) ∨
        s.InfraStays index entry
  | .infraRemove index =>
      s.infra.count ≤ index ∨ s.eeprom.Serves s.infra.count
  | .sensorAdd _ =>
      maxSensors ≤ s.sensors.count ∨ s.eeprom.Serves (s.sensors.count + 2)
  | .sensorUpdate index entry =>
      s.sensors.count ≤ index ∨ s.eeprom.Serves (s.sensors.count + 1) ∨
        s.tables.sensors[index]? = some entry
  | .sensorRemove index =>
      s.sensors.count ≤ index ∨ s.eeprom.Serves s.sensors.count
  | .meshAdd _ =>
      maxDevices ≤ s.mesh.count ∨ s.eeprom.outcome ≠ none ∨ s.eeprom.Serves 2
  | .meshRemove index =>
      s.mesh.count ≤ index ∨ s.eeprom.Serves (s.meshMoves index + 1) ∨
        ¬ s.eeprom.Serves (s.meshMoves index) ∧ s.MeshRepeats index

/-- Exactly when an operation leaves the tables as they were if it fails. -/
theorem perform_atomic_iff (s : Storage) (call : StorageCall) :
    s.Atomic (s.perform call) ↔ s.Survives call := by
  cases call with
  | infraAdd entry => exact infraAdd_atomic_iff
  | infraUpdate index entry => exact infraUpdate_atomic_iff
  | infraRemove index => exact infraRemove_atomic_iff
  | sensorAdd entry => exact sensorAdd_atomic_iff
  | sensorUpdate index entry => exact sensorUpdate_atomic_iff
  | sensorRemove index => exact sensorRemove_atomic_iff
  | meshAdd entry => exact meshAdd_atomic_iff
  | meshRemove index => exact meshRemove_atomic_iff

/-- The first access of `storage_infra_add` fails: it reports an error, and
the neighbour is in the table. -/
theorem storageInfraAdd_torn :
    ¬ ∀ (s : Storage) (call : StorageCall), s.Atomic (s.perform call) := by
  intro always
  have torn := always { eeprom := { failures := [some {}] } }
    (.infraAdd { deviceId := 7 })
  have failed : (({ eeprom := { failures := [some {}] } } : Storage).perform
      (.infraAdd { deviceId := 7 })).2 = some .eio := by decide
  have same := congrArg Prod.fst (torn (by rw [failed]; exact nofun))
  exact absurd same (by decide)

end Storage

end DectMesh
