import DectMesh.Mesh.Directory

/-!
# Updates of the directory

A `DEVICE_UPDATED` packet names one device and may be sent by another that
passed it on.  The gateway looks up the sender.
-/

namespace DectMesh

section Lists

variable {α : Type*}

/-- Removing one entry is filtering exactly if the filter drops that entry and
no other. -/
theorem eraseIdx_eq_filter_iff
    {items : List α} {keep : α → Bool} {index : Nat}
    (inside : index < items.length) :
    items.eraseIdx index = items.filter keep ↔
      ∀ j item, items[j]? = some item → (keep item = true ↔ j ≠ index) := by
  induction items generalizing index with
  | nil => cases inside
  | cons head tail ih =>
      constructor
      · intro same j item found
        have others (k : Nat) (other : α)
            (at_k : (head :: tail)[k]? = some other) (different : k ≠ index) :
            keep other = true := by
          have member : other ∈ (head :: tail).eraseIdx index :=
            List.mem_eraseIdx_iff_getElem?.mpr ⟨k, different, at_k⟩
          rw [same] at member
          exact (List.mem_filter.mp member).2
        refine ⟨fun kept here => ?_, others j item found⟩
        -- were the removed entry kept too, nothing would be filtered
        have all : (head :: tail).filter keep = head :: tail := by
          rw [List.filter_eq_self]
          intro other member
          obtain ⟨k, at_k⟩ := List.mem_iff_getElem?.mp member
          by_cases different : k = index
          · rw [different, ← here, found] at at_k
            exact Option.some.inj at_k ▸ kept
          · exact others k other at_k different
        have length := congrArg List.length (same.trans all)
        rw [List.length_eraseIdx_of_lt inside] at length
        simp only [List.length_cons] at length inside
        omega
      · intro exactly
        cases index with
        | zero =>
            have dropped : keep head = false := by
              have first := exactly 0 head rfl
              simpa using first
            have kept : tail.filter keep = tail := by
              rw [List.filter_eq_self]
              intro other member
              obtain ⟨k, at_k⟩ := List.mem_iff_getElem?.mp member
              exact (exactly (k + 1) other (by simpa using at_k)).mpr
                (Nat.succ_ne_zero k)
            simp [dropped, kept]
        | succ index =>
            have kept : keep head = true :=
              (exactly 0 head rfl).mpr (Nat.succ_ne_zero index).symm
            have rest := (ih (Nat.lt_of_succ_lt_succ inside)).mpr
              fun j item found => by
                have shifted := exactly (j + 1) item (by simpa using found)
                simpa using shifted
            simp [kept, rest]

end Lists

namespace MeshPlane

variable {env : MeshEnv} {s s' : MeshPlane}

section Purpose

/-- The RAM entry holds the packet's values. -/
def RowHolds (pkt : DeviceUpdated) (row : MeshEntry) : Prop :=
  (pkt.hopNum ≠ 0xFF → row.hopNum = pkt.hopNum) ∧
    (pkt.connectedDeviceId ≠ 0xFFFF →
      row.connectedDeviceId = pkt.connectedDeviceId) ∧
    row.serialNum = pkt.serialNum

/-- The EEPROM cell holds an entry of the device with the packet's values. -/
def CellHolds (pkt : DeviceUpdated) (cell : Option MeshRecord) : Prop :=
  ∃ entry, cell = some entry ∧ entry.deviceId = pkt.deviceId ∧
    (pkt.hopNum ≠ 0xFF → entry.hopNum = pkt.hopNum) ∧
    entry.version = pkt.version ∧
    (pkt.connectedDeviceId ≠ 0xFFFF →
      entry.connectedDeviceId = pkt.connectedDeviceId) ∧
    (pkt.sensorCount ≠ 0xFF → entry.sensorCount = pkt.sensorCount) ∧
    entry.serialNum = pkt.serialNum

/-- The device's entry took the packet's values, and the others stayed. -/
def Applied (s s' : MeshPlane) (pkt : DeviceUpdated) : Prop :=
  s'.mesh.length = s.mesh.length ∧
    ∀ (index : Nat) row, s.mesh[index]? = some row →
      if row.deviceId = pkt.deviceId then
        (∃ row', s'.mesh[index]? = some row' ∧
          row'.deviceId = pkt.deviceId ∧ RowHolds pkt row') ∧
        CellHolds pkt (s'.storage.eeprom.mesh.cells index)
      else
        s'.mesh[index]? = some row ∧
        s'.storage.eeprom.mesh.cells index =
          s.storage.eeprom.mesh.cells index

/-- The device's entry is gone, and the others stayed. -/
def Withdrawn (s s' : MeshPlane) (pkt : DeviceUpdated) : Prop :=
  s'.mesh = s.mesh.filter (fun row => row.deviceId ≠ pkt.deviceId) ∧
    s'.storage.romCells = s.storage.romCells.filter
      (fun cell => cell.map MeshRecord.deviceId ≠ some pkt.deviceId) ∧
    s'.storage.eeprom.mesh.header = some (UInt16.ofNat s'.storage.mesh.count)

/-- The table follows the packet. -/
def Follows (s s' : MeshPlane) (pkt : DeviceUpdated) : Prop :=
  (pkt.hdr.status = statusSuccess → Applied s s' pkt) ∧
    (pkt.hdr.status = statusDeviceRemoved → Withdrawn s s' pkt)

end Purpose

section Condition

/-- The entry that an update from this sender reads and writes. -/
def touched (s : MeshPlane) (srcId : UInt16) : Option (Nat × MeshRecord) :=
  match s.findMesh srcId with
  | none => none
  | some index => (s.storage.storageMeshGet index).2.map (Prod.mk index)

/-- The entry the update reaches takes the packet's values: it is the named
device's, its serial number is the packet's already, RAM and EEPROM agree
where the EEPROM has nothing to change, and the EEPROM stores it. -/
def Takes
    (s : MeshPlane) (pkt : DeviceUpdated) (index : Nat) (entry : MeshRecord)
    (row : MeshEntry) : Prop :=
  row.serialNum = pkt.serialNum ∧
    (pkt.hopNum ≠ 0xFF → entry.hopNum = pkt.hopNum →
      row.hopNum = pkt.hopNum) ∧
    (pkt.connectedDeviceId ≠ 0xFFFF →
      entry.connectedDeviceId = pkt.connectedDeviceId →
        row.connectedDeviceId = pkt.connectedDeviceId) ∧
    match s.storage.eeprom.advance.outcome with
    | none =>
        entry.deviceId = pkt.deviceId ∧ entry.serialNum = pkt.serialNum
    | some left => CellHolds pkt (left.mesh index)

/-- The update reaches an entry in which it has nothing to change. -/
def Idle
    (s : MeshPlane) (pkt : DeviceUpdated) (index : Nat) (entry : MeshRecord)
    (row : MeshEntry) : Prop :=
  (pkt.hopNum ≠ 0xFF → entry.hopNum ≠ pkt.hopNum →
      row.hopNum = pkt.hopNum) ∧
    (pkt.connectedDeviceId ≠ 0xFFFF →
      entry.connectedDeviceId ≠ pkt.connectedDeviceId →
        row.connectedDeviceId = pkt.connectedDeviceId) ∧
    match s.storage.eeprom.advance.outcome with
    | none =>
        (pkt.hopNum ≠ 0xFF → entry.hopNum = pkt.hopNum) ∧
          entry.version = pkt.version ∧
          (pkt.connectedDeviceId ≠ 0xFFFF →
            entry.connectedDeviceId = pkt.connectedDeviceId) ∧
          (pkt.sensorCount ≠ 0xFF → entry.sensorCount = pkt.sensorCount)
    | some left => left.mesh index = some entry

/-- The entry that the update reaches is the named device's and takes the
values; entries of the device that it does not reach hold them already. -/
def AppliesUpdate
    (s : MeshPlane) (pkt : DeviceUpdated) (srcId : UInt16) : Prop :=
  ∀ (index : Nat) row, s.mesh[index]? = some row →
    match s.touched srcId with
    | some (reached, entry) =>
        if index = reached then
          if row.deviceId = pkt.deviceId then
            s.Takes pkt index entry row
          else
            s.Idle pkt index entry row
        else
          row.deviceId = pkt.deviceId →
            RowHolds pkt row ∧
              CellHolds pkt (s.storage.eeprom.mesh.cells index)
    | none =>
        row.deviceId = pkt.deviceId →
          RowHolds pkt row ∧ CellHolds pkt (s.storage.eeprom.mesh.cells index)

/-- The sender is in the table; the named device is there once, in RAM and in
the EEPROM, at one place; and the EEPROM moves the entries behind it and
counts them. -/
def RemovesDevice
    (s : MeshPlane) (pkt : DeviceUpdated) (srcId : UInt16) : Prop :=
  s.findMesh srcId ≠ none ∧
    ∃ index, s.findMesh pkt.deviceId = some index ∧
      (∀ (j : Nat) row, s.mesh[j]? = some row →
        row.deviceId = pkt.deviceId → j = index) ∧
      (∀ j < s.storage.mesh.count,
        (s.storage.eeprom.mesh.cells j).map MeshRecord.deviceId =
          some pkt.deviceId ↔ j = index) ∧
      (s.storage.shiftedMesh index).2 = none ∧
      (s.storage.shiftedMesh index).1.written
          (some (UInt16.ofNat (s.storage.mesh.count - 1))) Leftover.header =
        some (UInt16.ofNat (s.storage.mesh.count - 1))

end Condition

section Success

variable {pkt : DeviceUpdated}

theorem rowHolds_updatedRow (entry : MeshRecord) (row : MeshEntry) :
    RowHolds pkt (updatedRow pkt entry row) ↔
      row.serialNum = pkt.serialNum ∧
        (pkt.hopNum ≠ 0xFF → entry.hopNum = pkt.hopNum →
          row.hopNum = pkt.hopNum) ∧
        (pkt.connectedDeviceId ≠ 0xFFFF →
          entry.connectedDeviceId = pkt.connectedDeviceId →
            row.connectedDeviceId = pkt.connectedDeviceId) := by
  simp only [RowHolds, updatedRow]
  by_cases hop : entry.hopNum = pkt.hopNum
  · by_cases parent : entry.connectedDeviceId = pkt.connectedDeviceId
    · simp only [hop, parent, ne_eq, not_true_eq_false, false_and, if_false,
        forall_const]
      tauto
    · simp only [hop, parent, ne_eq, not_true_eq_false, false_and, if_false,
        not_false_eq_true, true_and, forall_const]
      split
      · tauto
      · tauto
  · by_cases parent : entry.connectedDeviceId = pkt.connectedDeviceId
    · simp only [hop, parent, ne_eq, not_true_eq_false, false_and, if_false,
        not_false_eq_true, true_and, forall_const]
      split
      · tauto
      · tauto
    · simp only [hop, parent, ne_eq, not_false_eq_true, true_and]
      split
      · split
        · tauto
        · tauto
      · split
        · tauto
        · tauto

theorem cellHolds_updatedMesh (entry : MeshRecord) :
    CellHolds pkt (some (updatedMesh pkt entry)) ↔
      entry.deviceId = pkt.deviceId ∧ entry.serialNum = pkt.serialNum := by
  constructor
  · rintro ⟨stored, same, id, -, -, -, -, serial⟩
    obtain rfl := Option.some.inj same
    exact ⟨id, serial⟩
  · rintro ⟨id, serial⟩
    exact ⟨_, rfl, id, fun given => if_pos given, rfl,
      fun given => if_pos given, fun given => if_pos given, serial⟩

theorem updatedRow_idle (entry : MeshRecord) (row : MeshEntry) :
    updatedRow pkt entry row = row ↔
      (pkt.hopNum ≠ 0xFF → entry.hopNum ≠ pkt.hopNum →
        row.hopNum = pkt.hopNum) ∧
      (pkt.connectedDeviceId ≠ 0xFFFF →
        entry.connectedDeviceId ≠ pkt.connectedDeviceId →
          row.connectedDeviceId = pkt.connectedDeviceId) := by
  have fields : updatedRow pkt entry row = row ↔
      (updatedRow pkt entry row).hopNum = row.hopNum ∧
        (updatedRow pkt entry row).connectedDeviceId =
          row.connectedDeviceId := by
    cases row
    simp [updatedRow, and_comm]
  rw [fields]
  simp only [updatedRow]
  constructor
  · rintro ⟨hop, parent⟩
    refine ⟨fun given different => ?_, fun given different => ?_⟩
    · rw [if_pos ⟨different, given⟩] at hop
      exact hop.symm
    · rw [if_pos ⟨different, given⟩] at parent
      exact parent.symm
  · rintro ⟨hop, parent⟩
    refine ⟨?_, ?_⟩
    · split
      · next both => exact (hop both.2 both.1).symm
      · rfl
    · split
      · next both => exact (parent both.2 both.1).symm
      · rfl

theorem updatedMesh_idle (entry : MeshRecord) :
    updatedMesh pkt entry = entry ↔
      (pkt.hopNum ≠ 0xFF → entry.hopNum = pkt.hopNum) ∧
        entry.version = pkt.version ∧
        (pkt.connectedDeviceId ≠ 0xFFFF →
          entry.connectedDeviceId = pkt.connectedDeviceId) ∧
        (pkt.sensorCount ≠ 0xFF → entry.sensorCount = pkt.sensorCount) := by
  constructor
  · intro same
    rw [← same]
    exact ⟨fun given => if_pos given, rfl, fun given => if_pos given,
      fun given => if_pos given⟩
  · rintro ⟨hop, version, parent, sensors⟩
    cases entry
    simp only [updatedMesh, MeshRecord.mk.injEq, true_and]
    refine ⟨version.symm, ?_, ?_, ?_⟩
    · split
      · next given => exact (parent given).symm
      · rfl
    · split
      · next given => exact (hop given).symm
      · rfl
    · split
      · next given => exact (sensors given).symm
      · rfl

/-- What an update without a reachable entry leaves behind. -/
theorem updateMeshStorage_untouched
    {srcId : UInt16} (missed : s.touched srcId = none) :
    (s.updateMeshStorage srcId pkt).1.mesh = s.mesh ∧
      (s.updateMeshStorage srcId pkt).1.storage.eeprom.mesh =
        s.storage.eeprom.mesh := by
  unfold updateMeshStorage
  unfold touched at missed
  split
  · exact ⟨rfl, rfl⟩
  · next index found =>
    rw [found] at missed
    simp only [Option.map_eq_none_iff] at missed
    have kept : (s.storage.storageMeshGet index).1.mesh = s.storage.mesh ∧
        (s.storage.storageMeshGet index).1.eeprom.mesh =
          s.storage.eeprom.mesh := by
      unfold Storage.storageMeshGet
      split
      · exact ⟨rfl, rfl⟩
      · exact ⟨rfl, rfl⟩
    split
    · next storage read =>
      rw [read] at kept
      exact ⟨congrArg RamTable.live kept.1, kept.2⟩
    · next storage entry read =>
      rw [read] at missed
      cases missed

/-- The entry an update reaches is in the table and can be read. -/
theorem touched_some
    {srcId : UInt16} {index : Nat} {entry : MeshRecord}
    (reached : s.touched srcId = some (index, entry)) :
    s.findMesh srcId = some index ∧ index < s.storage.mesh.count ∧
      s.storage.eeprom.outcome = none ∧
        s.storage.eeprom.mesh.cells index = some entry ∧
          s.storage.storageMeshGet index =
            ({ s.storage with eeprom := s.storage.eeprom.advance },
              some entry) := by
  unfold touched at reached
  split at reached
  · cases reached
  · next place found =>
    obtain ⟨other, read, same⟩ := Option.map_eq_some_iff.mp reached
    obtain ⟨rfl, rfl⟩ := Prod.mk.inj same
    unfold Storage.storageMeshGet at read ⊢
    split at read
    · cases read
    · next inside =>
      rw [if_neg inside]
      simp only at read
      split at read
      · next worked =>
        exact ⟨found, Nat.lt_of_not_le inside, worked, read, by
          simp only [read]⟩
      · cases read

/-- What an update leaves behind in the entry it reaches. -/
theorem updateMeshStorage_touched
    {srcId : UInt16} {index : Nat} {entry : MeshRecord}
    (reached : s.touched srcId = some (index, entry)) :
    (s.updateMeshStorage srcId pkt).1.mesh =
        s.mesh.modify index (updatedRow pkt entry) ∧
      (s.updateMeshStorage srcId pkt).1.storage.eeprom.mesh.cells =
        Function.update s.storage.eeprom.mesh.cells index
          (s.storage.eeprom.advance.written (some (updatedMesh pkt entry))
            fun left => left.mesh index) := by
  obtain ⟨found, inside, -, -, read⟩ := touched_some reached
  have place : ¬ (({ s.storage with eeprom := s.storage.eeprom.advance } :
      Storage).changeMesh index (updatedRow pkt entry)).mesh.count ≤ index := by
    simpa [RamTable.count, Storage.changeMesh] using inside
  simp only [updateMeshStorage, found, read]
  split
  · next storage errno written =>
    rw [Storage.storageMeshUpdate, if_neg place] at written
    obtain ⟨rfl, -⟩ := Prod.mk.inj written
    exact ⟨rfl, rfl⟩
  · next storage written =>
    rw [Storage.storageMeshUpdate, if_neg place] at written
    obtain ⟨rfl, -⟩ := Prod.mk.inj written
    exact ⟨rfl, rfl⟩

/-- The row part of an unreached entry of the device. -/
theorem row_kept {row : MeshEntry} (id : row.deviceId = pkt.deviceId) :
    (∃ row', some row = some row' ∧ row'.deviceId = pkt.deviceId ∧
      RowHolds pkt row') ↔ RowHolds pkt row := by
  constructor
  · rintro ⟨row', same, -, holds⟩
    exact Option.some.inj same ▸ holds
  · exact fun holds => ⟨row, rfl, id, holds⟩

theorem applied_untouched
    {srcId : UInt16} (missed : s.touched srcId = none)
    (mesh : s'.mesh = s.mesh)
    (cells : s'.storage.eeprom.mesh = s.storage.eeprom.mesh) :
    Applied s s' pkt ↔ s.AppliesUpdate pkt srcId := by
  rw [Applied, AppliesUpdate, mesh, cells, missed]
  simp only [true_and]
  refine forall_congr' fun index => forall_congr' fun row =>
    forall_congr' fun found => ?_
  rw [found]
  split
  · next id =>
    rw [row_kept id]
    simp [id]
  · next other => simp [other]

theorem applied_touched
    {srcId : UInt16} {reached : Nat} {entry : MeshRecord}
    (hit : s.touched srcId = some (reached, entry))
    (mesh : s'.mesh = s.mesh.modify reached (updatedRow pkt entry))
    (cells : s'.storage.eeprom.mesh.cells =
      Function.update s.storage.eeprom.mesh.cells reached
        (s.storage.eeprom.advance.written (some (updatedMesh pkt entry))
          fun left => left.mesh reached)) :
    Applied s s' pkt ↔ s.AppliesUpdate pkt srcId := by
  obtain ⟨-, -, -, cell, -⟩ := touched_some hit
  rw [Applied, AppliesUpdate, mesh, cells, hit, List.length_modify]
  simp only [true_and]
  refine forall_congr' fun index => forall_congr' fun row =>
    forall_congr' fun found => ?_
  by_cases here : index = reached
  · subst here
    have changed : (s.mesh.modify index (updatedRow pkt entry))[index]? =
        some (updatedRow pkt entry row) := by
      rw [List.getElem?_modify_eq, found]
      rfl
    rw [changed, Function.update_self, if_pos rfl, cell]
    have sameId : (updatedRow pkt entry row).deviceId = row.deviceId := rfl
    split
    · next id =>
      rw [row_kept (sameId.trans id), rowHolds_updatedRow, Takes]
      cases outcome : s.storage.eeprom.advance.outcome with
      | none =>
          simp only [Eeprom.written, outcome, cellHolds_updatedMesh]
          tauto
      | some left =>
          simp only [Eeprom.written, outcome]
          tauto
    · next other =>
      rw [Option.some.injEq, updatedRow_idle, Idle]
      cases outcome : s.storage.eeprom.advance.outcome with
      | none =>
          simp only [Eeprom.written, outcome, Option.some.injEq,
            updatedMesh_idle]
          tauto
      | some left =>
          simp only [Eeprom.written, outcome]
          tauto
  · rw [List.getElem?_modify_ne _ _ (Ne.symm here), found,
      Function.update_of_ne here, if_neg here]
    split
    · next id =>
      rw [row_kept id]
      simp [id]
    · next other => simp [other]

end Success

section Removed

variable {pkt : DeviceUpdated}

theorem findMesh_some
    {deviceId : UInt16} {index : Nat}
    (found : s.findMesh deviceId = some index) :
    index < s.storage.mesh.count ∧
      ∃ row, s.mesh[index]? = some row ∧ row.deviceId = deviceId := by
  obtain ⟨inside, same, -⟩ := List.findIdx?_eq_some_iff_getElem.mp found
  exact ⟨inside, s.mesh[index], List.getElem?_eq_getElem inside,
    by simpa using same⟩

theorem filter_length_lt
    (listed : ∃ row ∈ s.mesh, row.deviceId = pkt.deviceId) :
    (s.mesh.filter (fun row => row.deviceId ≠ pkt.deviceId)).length <
      s.mesh.length := by
  obtain ⟨row, member, id⟩ := listed
  refine List.length_filter_lt_length_iff_exists.mpr ⟨row, member, ?_⟩
  simp [id]

theorem not_withdrawn_of_length
    (listed : ∃ row ∈ s.mesh, row.deviceId = pkt.deviceId)
    (length : s'.mesh.length = s.mesh.length) : ¬ Withdrawn s s' pkt := by
  rintro ⟨mesh, -, -⟩
  have shorter := filter_length_lt listed
  rw [← mesh, length] at shorter
  omega

/-- The cells in use after the entries behind one place moved down. -/
theorem shifted_cells
    {storage : Storage} {index : Nat} (inside : index < storage.mesh.count)
    (worked : (storage.shiftedMesh index).2 = none) :
    (List.range (storage.mesh.count - 1)).map
        (storage.shiftedMesh index).1.mesh.cells =
      storage.romCells.eraseIdx index := by
  have cells (i : Nat) : (storage.shiftedMesh index).1.mesh.cells i =
      if index ≤ i ∧ i + 1 < storage.mesh.count then
        storage.eeprom.mesh.cells (i + 1)
      else
        storage.eeprom.mesh.cells i := by
    unfold Storage.shiftedMesh at worked ⊢
    split at worked
    · next moves =>
      rw [if_pos moves]
      cases first : storage.eeprom.outcome with
      | some left =>
          simp [Eeprom.shiftMesh, Eeprom.status, first] at worked
      | none =>
          cases second : storage.eeprom.advance.outcome with
          | some left =>
              simp [Eeprom.shiftMesh, Eeprom.status, first, second] at worked
          | none =>
              simp only [Eeprom.shiftMesh, Eeprom.status, first,
                Eeprom.written, second]
              rfl
    · next last =>
      rw [if_neg last, if_neg (by omega)]
  apply List.ext_getElem
  · simp [Storage.romCells, List.length_eraseIdx_of_lt, inside]
  · intro i left right
    simp only [List.length_map, List.length_range] at left
    simp only [List.getElem_map, List.getElem_range, Storage.romCells,
      List.getElem_eraseIdx, cells]
    by_cases below : i < index
    · rw [if_neg (by omega), dif_pos below]
    · rw [if_pos (by omega), dif_neg below]

/-- A removal that finds the device. -/
theorem withdrawn_iff
    {index : Nat} {storage : Storage} {err : Option Errno}
    (listed : ∃ row ∈ s.mesh, row.deviceId = pkt.deviceId)
    (found : s.findMesh pkt.deviceId = some index)
    (removed : s.storage.storageMeshRemove index = (storage, err))
    (after : s'.storage = storage) :
    Withdrawn s s' pkt ↔
      (∀ (j : Nat) row, s.mesh[j]? = some row →
        row.deviceId = pkt.deviceId → j = index) ∧
      (∀ j < s.storage.mesh.count,
        (s.storage.eeprom.mesh.cells j).map MeshRecord.deviceId =
          some pkt.deviceId ↔ j = index) ∧
      (s.storage.shiftedMesh index).2 = none ∧
      (s.storage.shiftedMesh index).1.written
          (some (UInt16.ofNat (s.storage.mesh.count - 1))) Leftover.header =
        some (UInt16.ofNat (s.storage.mesh.count - 1)) := by
  obtain ⟨inside, row, stored, id⟩ := findMesh_some found
  have inTable : index < s.mesh.length := inside
  rw [Storage.storageMeshRemove, if_neg (Nat.not_le.mpr inside)] at removed
  cases worked : (s.storage.shiftedMesh index).2 with
  | some errno =>
      rw [show s.storage.shiftedMesh index =
        ((s.storage.shiftedMesh index).1, some errno) from
          Prod.ext rfl worked] at removed
      obtain ⟨rfl, -⟩ := Prod.mk.inj removed
      have length : s'.mesh.length = s.mesh.length := by
        have nonempty : s.mesh ≠ [] := fun empty => by
          rw [empty] at inTable
          cases inTable
        rw [show s'.mesh = (s.storage.mesh.shift index).live by
          rw [MeshPlane.mesh, after]]
        simp only [RamTable.shift, List.length_append,
          List.length_eraseIdx_of_lt inTable,
          List.getLast?_eq_some_getLast nonempty, Option.toList_some,
          List.length_singleton]
        omega
      have kept := not_withdrawn_of_length listed length
      simp [kept]
  | none =>
      rw [show s.storage.shiftedMesh index =
        ((s.storage.shiftedMesh index).1, none) from
          Prod.ext rfl worked] at removed
      obtain ⟨rfl, -⟩ := Prod.mk.inj removed
      have count : (s.storage.mesh.remove index).count =
          s.storage.mesh.count - 1 :=
        List.length_eraseIdx_of_lt inTable
      have live : s'.mesh = s.mesh.eraseIdx index := by
        rw [MeshPlane.mesh, after]
        rfl
      have cells : s'.storage.romCells = s.storage.romCells.eraseIdx index := by
        rw [after, ← shifted_cells inside worked, ← count]
        rfl
      have header : s'.storage.eeprom.mesh.header =
          (s.storage.shiftedMesh index).1.written
            (some (UInt16.ofNat (s.storage.mesh.count - 1)))
              Leftover.header := by
        rw [after, ← count]
      have remaining : s'.storage.mesh.count = s.storage.mesh.count - 1 := by
        rw [after]
        exact count
      have inCells : index < s.storage.romCells.length := by
        simpa [Storage.romCells] using inside
      rw [Withdrawn, live, cells, header, remaining,
        eraseIdx_eq_filter_iff inTable, eraseIdx_eq_filter_iff inCells]
      have rows :
          (∀ (j : Nat) row, s.mesh[j]? = some row →
            (decide (row.deviceId ≠ pkt.deviceId) = true ↔ j ≠ index)) ↔
          ∀ (j : Nat) row, s.mesh[j]? = some row →
            row.deviceId = pkt.deviceId → j = index := by
        constructor
        · intro exactly j other found same
          by_contra different
          exact (of_decide_eq_true
            ((exactly j other found).mpr different)) same
        · intro only j other at_j
          rw [decide_eq_true_eq, not_iff_not]
          refine ⟨only j other at_j, ?_⟩
          rintro rfl
          rw [stored] at at_j
          exact Option.some.inj at_j ▸ id
      have romRows :
          (∀ (j : Nat) cell, s.storage.romCells[j]? = some cell →
            (decide (cell.map MeshRecord.deviceId ≠ some pkt.deviceId) =
              true ↔ j ≠ index)) ↔
          ∀ j < s.storage.mesh.count,
            (s.storage.eeprom.mesh.cells j).map MeshRecord.deviceId =
              some pkt.deviceId ↔ j = index := by
        constructor
        · intro exactly j below
          have at_j : s.storage.romCells[j]? =
              some (s.storage.eeprom.mesh.cells j) := by
            simp [Storage.romCells, below]
          have here := exactly j _ at_j
          rw [decide_eq_true_eq, not_iff_not] at here
          exact here
        · intro exactly j cell at_j
          obtain ⟨below, same⟩ := List.getElem?_eq_some_iff.mp at_j
          simp only [Storage.romCells, List.length_map, List.length_range,
            List.getElem_map, List.getElem_range] at below same
          rw [decide_eq_true_eq, not_iff_not, ← same]
          exact exactly j below
      rw [rows, romRows]
      simp only [true_and]

end Removed

section Result

theorem checkMeshStorage_exists (s : MeshPlane) (deviceId : UInt16) :
    s.checkMeshStorage deviceId = statusAlreadyExists ↔
      s.findMesh deviceId ≠ none := by
  unfold checkMeshStorage
  split
  · next index found => simp [found]
  · next missing =>
    split
    · simp [missing, statusStorageFull, statusAlreadyExists]
    · simp [missing, statusSuccess, statusAlreadyExists]

theorem handleDeviceUpdated_gateway
    {pkt : DeviceUpdated} {srcId : UInt16}
    (isGateway : env.deviceType = .gateway)
    (accepted : env.accepts pkt.hdr = true)
    (downstream : isDownstreamType pkt.hdr.deviceType = true) :
    (s.handleDeviceUpdated env pkt srcId).storage =
      (s.applyUpdate pkt srcId).1.storage := by
  have unread : ¬ ((!env.accepts pkt.hdr) = true ∨
      (!isDownstreamType pkt.hdr.deviceType) = true) := by
    simp [accepted, downstream]
  rw [handleDeviceUpdated, if_neg unread, isGateway]
  rfl

theorem applied_iff
    {pkt : DeviceUpdated} {srcId : UInt16}
    (status : pkt.hdr.status = statusSuccess)
    (after : s'.storage = (s.applyUpdate pkt srcId).1.storage) :
    Applied s s' pkt ↔ s.AppliesUpdate pkt srcId := by
  have mesh : s'.mesh = (s.applyUpdate pkt srcId).1.mesh := by
    rw [MeshPlane.mesh, after]
  by_cases known : s.findMesh srcId = none
  · have unknown : ¬ s.checkMeshStorage srcId = statusAlreadyExists :=
      fun same => (checkMeshStorage_exists s srcId).mp same known
    have kept : s.applyUpdate pkt srcId = (s, statusNotFound) := by
      simp only [applyUpdate, ne_eq, unknown, not_false_eq_true, if_true]
    have missed : s.touched srcId = none := by
      rw [touched, known]
    rw [kept] at after mesh
    exact applied_untouched missed mesh (by rw [after])
  · have exist := (checkMeshStorage_exists s srcId).mpr known
    have updated : s.applyUpdate pkt srcId = s.updateMeshStorage srcId pkt := by
      simp only [applyUpdate, exist, ne_eq, not_true_eq_false, if_false,
        status, if_true]
    rw [updated] at after mesh
    match hit : s.touched srcId with
    | none =>
        have untouched := @updateMeshStorage_untouched s pkt srcId hit
        exact applied_untouched hit (mesh.trans untouched.1)
          (by rw [after, untouched.2])
    | some (reached, entry) =>
        have touchedEntry :=
          @updateMeshStorage_touched s pkt srcId reached entry hit
        exact applied_touched hit (mesh.trans touchedEntry.1)
          (by rw [after, touchedEntry.2])

theorem removed_iff
    {pkt : DeviceUpdated} {srcId : UInt16}
    (status : pkt.hdr.status = statusDeviceRemoved)
    (listed : ∃ row ∈ s.mesh, row.deviceId = pkt.deviceId)
    (after : s'.storage = (s.applyUpdate pkt srcId).1.storage) :
    Withdrawn s s' pkt ↔ s.RemovesDevice pkt srcId := by
  by_cases known : s.findMesh srcId = none
  · have unknown : ¬ s.checkMeshStorage srcId = statusAlreadyExists :=
      fun same => (checkMeshStorage_exists s srcId).mp same known
    have kept : s.applyUpdate pkt srcId = (s, statusNotFound) := by
      simp only [applyUpdate, ne_eq, unknown, not_false_eq_true, if_true]
    rw [kept] at after
    have length : s'.mesh.length = s.mesh.length := by
      rw [MeshPlane.mesh, after]
    simp [not_withdrawn_of_length listed length, RemovesDevice, known]
  · have exist := (checkMeshStorage_exists s srcId).mpr known
    have other : ¬ statusDeviceRemoved = statusSuccess := by decide
    match found : s.findMesh pkt.deviceId with
    | none =>
        obtain ⟨row, member, id⟩ := listed
        exact absurd id (findMesh_none found row member)
    | some index =>
        rcases removed : s.storage.storageMeshRemove index with ⟨storage, err⟩
        have result : s'.storage = storage := by
          rw [after]
          simp only [applyUpdate, exist, ne_eq, not_true_eq_false, if_false,
            status, other, if_true, found, removed]
          cases err with
          | none => rfl
          | some errno => rfl
        rw [withdrawn_iff listed found removed result, RemovesDevice]
        simp [known, found]

/-- The directory follows an update about a listed device exactly if the
packet reaches that device's entry. -/
theorem follows_update_iff
    (s : MeshPlane) {pkt : DeviceUpdated} (srcId : UInt16)
    (failures : List (Option Leftover))
    (isGateway : env.deviceType = .gateway)
    (accepted : env.accepts pkt.hdr = true)
    (downstream : isDownstreamType pkt.hdr.deviceType = true)
    (listed : ∃ row ∈ s.mesh, row.deviceId = pkt.deviceId) :
    Follows (s.begin failures)
        ((s.begin failures).handleDeviceUpdated env pkt srcId) pkt ↔
      (pkt.hdr.status = statusSuccess →
        (s.begin failures).AppliesUpdate pkt srcId) ∧
      (pkt.hdr.status = statusDeviceRemoved →
        (s.begin failures).RemovesDevice pkt srcId) := by
  have inTable : ∃ row ∈ (s.begin failures).mesh,
      row.deviceId = pkt.deviceId := listed
  have after := @handleDeviceUpdated_gateway env (s.begin failures) pkt srcId
    isGateway accepted downstream
  exact and_congr
    (forall_congr' fun status => applied_iff status after)
    (forall_congr' fun status => removed_iff status inTable after)

/-- Anchor 2 and sensor 5 behind it have joined. -/
def joinedGateway : MeshPlane :=
  plane (next (next pairedGateway
    { env := sampleGatewayEnv
      event := some (.joinedNetwork
        { sampleJoin 1 with
          deviceType := DeviceType.anchor.code
          deviceId := 2
          serialNum := 2
          hopNum := 1 } 2) })
    { env := sampleGatewayEnv
      event := some (.joinedNetwork (sampleJoin 2) 2) })

/-- This device is now behind anchor 3. -/
def sampleUpdate (deviceId : UInt16) : DeviceUpdated where
  hdr := { deviceType := DeviceType.anchor.code, deviceId := 1 }
  deviceType := DeviceType.sensor.code
  deviceId := deviceId
  serialNum := deviceId.toUInt64
  version := firmwareVersion
  connectedDeviceId := 3
  hopNum := 0xFF
  sensorCount := 0xFF

/-- The gateway's directory has two entries. -/
example : (begin joinedGateway []).mesh.length = 2 := by
  decide +kernel

/-- An anchor's own update is followed. -/
theorem follows_update_own :
    Follows (begin joinedGateway [])
      ((begin joinedGateway []).handleDeviceUpdated sampleGatewayEnv
        (sampleUpdate 2) 2) (sampleUpdate 2) := by
  refine (@follows_update_iff sampleGatewayEnv joinedGateway (sampleUpdate 2)
    2 [] rfl (by decide) (by decide) (by decide +kernel)).mpr ⟨?_, ?_⟩
  · have mesh : (begin joinedGateway []).mesh =
        [⟨2, 2, 2, 1, 1⟩, ⟨3, 5, 5, 2, 0xFF⟩] := by decide +kernel
    have reached : (begin joinedGateway []).touched 2 =
        some (0, ⟨2, 2, 2, 0, 1, 1, 0xFF⟩) := by decide +kernel
    intro _ index row found
    rw [reached]
    rw [mesh] at found
    rcases index with _ | _ | index
    · cases found
      exact ⟨rfl, by decide, by decide, rfl, rfl⟩
    · cases found
      exact fun same => absurd same (by decide)
    · simp at found
  · intro status
    cases status

/-- Anchor 2 passes on that sensor 5 moved behind anchor 3: the gateway gives
anchor 2 the new parent. -/
theorem relayed_update_misapplied :
    ((begin joinedGateway []).handleDeviceUpdated sampleGatewayEnv
        (sampleUpdate 5) 2).mesh.map
          (fun row => (row.deviceId, row.connectedDeviceId)) =
        [(2, 3), (5, 2)] ∧
      ¬ Follows (begin joinedGateway [])
        ((begin joinedGateway []).handleDeviceUpdated sampleGatewayEnv
          (sampleUpdate 5) 2) (sampleUpdate 5) := by
  refine ⟨by decide +kernel, ?_⟩
  rintro ⟨applied, -⟩
  have before : (begin joinedGateway []).mesh[1]? =
      some ⟨3, 5, 5, 2, 0xFF⟩ := by decide +kernel
  have after : ((begin joinedGateway []).handleDeviceUpdated sampleGatewayEnv
      (sampleUpdate 5) 2).mesh[1]? = some ⟨3, 5, 5, 2, 0xFF⟩ := by
    decide +kernel
  have changed := (applied rfl).2 1 _ before
  have named : (⟨3, 5, 5, 2, 0xFF⟩ : MeshEntry).deviceId =
      (sampleUpdate 5).deviceId := by decide
  rw [if_pos named, after] at changed
  obtain ⟨⟨row, same, -, holds⟩, -⟩ := changed
  cases same
  exact absurd (holds.2.1 (by decide)) (by decide)

end Result

end MeshPlane

end DectMesh
