import DectMesh.Library.Trace
import DectMesh.Mesh.Tables

/-!
# Valid tables

The tables stay within their arrays, hold every device once, and the
infrastructure neighbours stay in order, whatever a board receives.
-/

namespace DectMesh

/-- The invariant of the three tables of a board. -/
structure ValidTables (role : DeviceType) (t : Tables) : Prop where
  infraCount : t.infra.length ≤ maxAnchors
  sensorCount : t.sensors.length ≤ maxSensors
  meshCount : t.mesh.length ≤ maxDevices
  infraIds : (t.infra.map InfraRecord.deviceId).Nodup
  sensorIds : (t.sensors.map SensorRecord.deviceId).Nodup
  meshIds : (t.mesh.map MeshEntry.deviceId).Nodup
  sorted : t.infra.Pairwise CloserFirst
  single : role = .sensor → t.infra.length ≤ 1

section Lists

variable {α β : Type*}

theorem map_modify_same
    {key : α → β} {change : α → α} (same : ∀ item, key (change item) = key item)
    (items : List α) (index : Nat) :
    (items.modify index change).map key = items.map key := by
  induction items generalizing index with
  | nil => simp
  | cons head tail ih =>
      cases index with
      | zero => simp [same]
      | succ index => simp [ih]

theorem map_set_same
    {key : α → β} {items : List α} {index : Nat} {old item : α}
    (found : items[index]? = some old) (same : key item = key old) :
    (items.set index item).map key = items.map key := by
  induction items generalizing index with
  | nil => simp
  | cons head tail ih =>
      cases index with
      | zero =>
          have here : head = old := by simpa using found
          simp [same, here]
      | succ index => simpa using ih (by simpa using found)

theorem nodup_append_fresh
    {key : α → β} {items : List α} {item : α}
    (distinct : (items.map key).Nodup)
    (fresh : ∀ known ∈ items, key known ≠ key item) :
    ((items ++ [item]).map key).Nodup := by
  rw [List.map_append, List.map_singleton, List.nodup_append]
  refine ⟨distinct, List.nodup_singleton _, ?_⟩
  intro left leftMember right rightMember
  obtain ⟨known, member, rfl⟩ := List.mem_map.mp leftMember
  rw [List.mem_singleton.mp rightMember]
  exact fresh known member

theorem nodup_eraseIdx
    {key : α → β} {items : List α} (distinct : (items.map key).Nodup)
    (index : Nat) : ((items.eraseIdx index).map key).Nodup :=
  distinct.sublist ((List.eraseIdx_sublist items index).map key)

end Lists

section Moves

variable {role : DeviceType} {t t' : Tables}

theorem ValidTables.move
    (valid : ValidTables role t) (move : TableMove role t t') :
    ValidTables role t' := by
  obtain ⟨infraCount, sensorCount, meshCount, infraIds, sensorIds, meshIds,
    sorted, single⟩ := valid
  cases move with
  | @infraAdded entry infra room fresh alone perm inOrder =>
      have length := perm.length_eq
      rw [List.length_append, List.length_singleton] at length
      refine ⟨by simp only; omega, sensorCount, meshCount, ?_, sensorIds,
        meshIds, inOrder, ?_⟩
      · exact (perm.map InfraRecord.deviceId).nodup_iff.mpr
          (nodup_append_fresh infraIds fresh)
      · intro isSensor
        rw [alone isSensor, List.length_nil] at length
        exact length.le
  | @infraUpdated index old entry infra found same perm inOrder =>
      have length := perm.length_eq
      rw [List.length_set] at length
      refine ⟨length ▸ infraCount, sensorCount, meshCount, ?_, sensorIds,
        meshIds, inOrder, fun isSensor => length ▸ single isSensor⟩
      rw [(perm.map InfraRecord.deviceId).nodup_iff, map_set_same found same]
      exact infraIds
  | infraRemoved index =>
      have length := List.length_eraseIdx_le t.infra index
      exact ⟨length.trans infraCount, sensorCount, meshCount,
        nodup_eraseIdx infraIds index, sensorIds, meshIds,
        sorted.sublist (List.eraseIdx_sublist _ _),
        fun isSensor => length.trans (single isSensor)⟩
  | infraCleared =>
      exact ⟨Nat.zero_le _, sensorCount, meshCount, .nil, sensorIds, meshIds,
        .nil, fun _ => Nat.zero_le _⟩
  | @sensorAdded entry room fresh =>
      refine ⟨infraCount, ?_, meshCount, infraIds,
        nodup_append_fresh sensorIds fresh, meshIds, sorted, single⟩
      rw [List.length_append, List.length_singleton]
      exact room
  | @sensorUpdated index old entry found same =>
      refine ⟨infraCount, ?_, meshCount, infraIds, ?_, meshIds, sorted,
        single⟩
      · rw [List.length_set]
        exact sensorCount
      · rw [map_set_same found same]
        exact sensorIds
  | sensorRemoved index =>
      exact ⟨infraCount, (List.length_eraseIdx_le _ _).trans sensorCount,
        meshCount, infraIds, nodup_eraseIdx sensorIds index, meshIds, sorted,
        single⟩
  | sensorCleared =>
      exact ⟨infraCount, Nat.zero_le _, meshCount, infraIds, .nil, meshIds,
        sorted, single⟩
  | @meshAdded entry room fresh =>
      refine ⟨infraCount, sensorCount, ?_, infraIds, sensorIds,
        nodup_append_fresh meshIds fresh, sorted, single⟩
      rw [List.length_append, List.length_singleton]
      exact room
  | @meshUpdated index change same =>
      refine ⟨infraCount, sensorCount, ?_, infraIds, sensorIds, ?_, sorted,
        single⟩
      · rw [List.length_modify]
        exact meshCount
      · rw [map_modify_same same]
        exact meshIds
  | meshRemoved index =>
      exact ⟨infraCount, sensorCount,
        (List.length_eraseIdx_le _ _).trans meshCount, infraIds, sensorIds,
        nodup_eraseIdx meshIds index, sorted, single⟩
  | meshCleared =>
      exact ⟨infraCount, sensorCount, Nat.zero_le _, infraIds, sensorIds,
        .nil, sorted, single⟩

theorem ValidTables.moves
    (valid : ValidTables role t) (moves : TableMoves role t t') :
    ValidTables role t' := by
  induction moves with
  | refl => exact valid
  | tail _ move ih => exact ih.move move

end Moves

namespace MeshPlane

variable {env : MeshEnv} {s s' : MeshPlane}

/-- What a handler may do to the tables.  A reboot comes after a factory
reset. -/
def Reaches (role : DeviceType) (s : MeshPlane) :
    Except MeshPlane MeshPlane → Prop
  | .ok s' => s.storage.Moves role s'.storage
  | .error s' =>
      s.storage.Moves role s'.storage ∧
        (s.storage.eeprom.Reliable → s'.storage.eeprom.Cleared)

section Rules

variable {role : DeviceType} {result : Except MeshPlane MeshPlane}

theorem Reaches.ok (same : s'.storage = s.storage) :
    Reaches role s (.ok s') := by
  rw [Reaches, same]
  exact .refl _

theorem Reaches.after
    (moves : s.storage.Moves role s'.storage)
    (reaches : Reaches role s' result) : Reaches role s result := by
  match result, reaches with
  | .ok _, reaches => exact moves.trans reaches
  | .error _, ⟨reaches, cleared⟩ =>
      exact ⟨moves.trans reaches, cleared ∘ moves.reliable⟩

theorem Reaches.same
    (same : s'.storage = s.storage) (reaches : Reaches role s' result) :
    Reaches role s result :=
  .after (same ▸ .refl _) reaches

end Rules

section Statistics

variable {role : DeviceType}

theorem updateInfra_moves
    (s : MeshPlane) (index : Nat) {change : Infra → Infra}
    (kept : ∀ device, (change device).entry = device.entry) :
    s.storage.Moves role (s.updateInfra index change).storage := by
  refine .quiet ?_ id
  simp only [updateInfra, setStorage_storage, Storage.tables]
  rw [map_modify_same kept]

theorem updateSensor_moves
    (s : MeshPlane) (index : Nat) {change : Sensor → Sensor}
    (kept : ∀ device, (change device).entry = device.entry) :
    s.storage.Moves role (s.updateSensor index change).storage := by
  refine .quiet ?_ id
  simp only [updateSensor, setStorage_storage, Storage.tables]
  rw [map_modify_same kept]

theorem isKnownDevice_moves (deviceId : UInt16) :
    s.storage.Moves role (s.isKnownDevice env deviceId).1.storage := by
  unfold isKnownDevice
  split
  · exact .refl _
  · split
    · exact updateInfra_moves s _ fun _ => rfl
    · split
      · exact updateSensor_moves s _ fun _ => rfl
      · exact .refl _

theorem pingWhere_moves
    (due : Infra → Bool) (genId : UInt16) (status : UInt8)
    (devices : List Infra) (index : Nat) (s : MeshPlane) :
    s.storage.Moves role
      (pingWhere env due genId status devices index s).storage := by
  induction devices generalizing index s with
  | nil => exact .refl _
  | cons device rest ih =>
      rw [pingWhere]
      refine .trans ?_ (ih _ _)
      split
      · exact updateInfra_moves (s.sendPingDevice env device.entry.deviceId
          genId status) index fun _ => rfl
      · exact .refl _

theorem pingKnownDevices_moves (genId : UInt16) (status : UInt8) :
    s.storage.Moves role (s.pingKnownDevices env genId status).storage :=
  pingWhere_moves _ genId status s.infra 0 s

theorem knownDevicesTick_moves :
    s.storage.Moves role (s.knownDevicesTick env).storage := by
  unfold knownDevicesTick
  split
  · exact .refl _
  · exact pingWhere_moves _ 0 statusSuccess s.infra 0 s

end Statistics

section Upkeep

variable {role : DeviceType}

theorem factoryReset_reaches (s : MeshPlane) :
    Reaches role s (.error s.factoryReset) :=
  ⟨Storage.factoryReset_moves _, Storage.factoryReset_cleared⟩

theorem deviceInfoUpdate_reaches :
    Reaches role s (s.deviceInfoUpdate env) := by
  unfold deviceInfoUpdate
  split
  · exact .ok rfl
  · split
    · exact Storage.factoryReset_moves _
    · split
      · exact factoryReset_reaches s
      · simp only
        split
        · exact factoryReset_reaches s
        · refine .ok ?_
          simp only
          split
          · rfl
          · rfl

theorem knownDeviceUpdateCommTime_reaches (deviceId : UInt16) :
    Reaches role s (s.knownDeviceUpdateCommTime env deviceId) := by
  unfold knownDeviceUpdateCommTime
  split
  · exact Storage.storageInfraClear_moves _
  · split
    · next index found =>
      have counted : s.storage.Moves role
          (s.updateInfra index (failed env.now)).storage :=
        updateInfra_moves s index fun _ => rfl
      refine .after counted ?_
      simp only
      split
      · exact .ok rfl
      · split
        · exact .after (Storage.storageInfraRemove_moves _ _)
            deviceInfoUpdate_reaches
        · exact .ok rfl
    · split
      · exact .ok rfl
      · next index found =>
        have counted : s.storage.Moves role
            (s.updateSensor index (failed env.now)).storage :=
          updateSensor_moves s index fun _ => rfl
        refine .after counted ?_
        simp only
        split
        · exact .ok rfl
        · split
          · exact Storage.storageSensorRemove_moves _ _
          · exact .ok rfl

theorem dropInfra_reaches (deviceId : UInt16) :
    Reaches role s (s.dropInfra env deviceId) := by
  unfold dropInfra
  split
  · exact .ok rfl
  · exact .after (Storage.storageInfraRemove_moves _ _)
      deviceInfoUpdate_reaches

end Upkeep

section Checks

theorem findInfra_none
    {deviceId : UInt16} (missing : s.findInfra deviceId = none) :
    ∀ known ∈ s.storage.tables.infra, known.deviceId ≠ deviceId := by
  intro known member
  obtain ⟨device, inside, rfl⟩ := List.mem_map.mp member
  simpa using List.findIdx?_eq_none_iff.mp missing device inside

theorem findSensor_none
    {deviceId : UInt16} (missing : s.findSensor deviceId = none) :
    ∀ known ∈ s.storage.tables.sensors, known.deviceId ≠ deviceId := by
  intro known member
  obtain ⟨device, inside, rfl⟩ := List.mem_map.mp member
  simpa using List.findIdx?_eq_none_iff.mp missing device inside

theorem findMesh_none
    {deviceId : UInt16} (missing : s.findMesh deviceId = none) :
    ∀ known ∈ s.mesh, known.deviceId ≠ deviceId := by
  intro known member
  simpa using List.findIdx?_eq_none_iff.mp missing known member

theorem checkInfraStorage_success
    {deviceId : UInt16}
    (status : s.checkInfraStorage deviceId false = statusSuccess) :
    s.findInfra deviceId = none ∧ s.storage.infra.count < maxAnchors := by
  simp only [checkInfraStorage, Bool.false_eq_true, if_false] at status
  split at status
  · cases status
  · next missing =>
    refine ⟨missing, Nat.lt_of_not_le fun full => ?_⟩
    rw [if_pos full] at status
    cases status

theorem checkInfraStorage_single
    {deviceId : UInt16}
    (status : s.checkInfraStorage deviceId true = statusSuccess) :
    s.infra = [] := by
  simp only [checkInfraStorage, if_true] at status
  split at status
  · next empty => exact empty
  · split at status
    · cases status
    · cases status

theorem checkSensorStorage_success
    {deviceId : UInt16}
    (status : s.checkSensorStorage deviceId = statusSuccess) :
    s.findSensor deviceId = none := by
  simp only [checkSensorStorage] at status
  split at status
  · cases status
  · next missing => exact missing

theorem checkMeshStorage_success
    {deviceId : UInt16}
    (status : s.checkMeshStorage deviceId = statusSuccess) :
    s.findMesh deviceId = none ∧ s.storage.mesh.count < maxDevices := by
  simp only [checkMeshStorage] at status
  split at status
  · cases status
  · next missing =>
    refine ⟨missing, Nat.lt_of_not_le fun full => ?_⟩
    rw [if_pos full] at status
    cases status

end Checks

section Changes

variable {role : DeviceType}

theorem addInfra_reaches
    {entry : InfraRecord} (missing : s.findInfra entry.deviceId = none)
    (single : role = .sensor → s.infra = []) :
    Reaches role s ((s.addInfra env entry).map Prod.fst) := by
  have moves : s.storage.Moves role (s.storage.storageInfraAdd entry).1 :=
    Storage.storageInfraAdd_moves (findInfra_none missing) fun isSensor => by
      simp [Storage.tables, single isSensor]
  unfold addInfra
  split
  · next storage errno added =>
    rw [added] at moves
    exact moves
  · next storage added =>
    rw [added] at moves
    have updated :
        Reaches role s ((s.setStorage storage).deviceInfoUpdate env) :=
      .after moves deviceInfoUpdate_reaches
    split
    · next s' down =>
      rw [down] at updated
      exact updated
    · next s' up =>
      rw [up] at updated
      exact updated

theorem addSensor_moves
    {deviceId version : UInt16} (missing : s.findSensor deviceId = none) :
    s.storage.Moves role (s.addSensor deviceId version).1.storage := by
  have moves : s.storage.Moves role
      (s.storage.storageSensorAdd
        { deviceId := deviceId, version := version }).1 :=
    Storage.storageSensorAdd_moves (findSensor_none missing)
  unfold addSensor
  split
  · next storage errno added =>
    rw [added] at moves
    exact moves
  · next storage added =>
    rw [added] at moves
    exact moves

theorem updateInfraStorage_reaches
    (deviceId : UInt16) (hopNum : UInt8) (rssi2 : Int16) :
    Reaches role s
      ((s.updateInfraStorage env deviceId hopNum rssi2).map Prod.fst) := by
  unfold updateInfraStorage
  split
  · exact .ok rfl
  · next index found =>
    split
    · exact .ok rfl
    · next entry current =>
      have moves : s.storage.Moves role
          (s.storage.storageInfraUpdate index
            (updatedInfra hopNum rssi2 entry)).1 :=
        Storage.storageInfraUpdate_moves current rfl
      split
      · next storage errno updated =>
        rw [updated] at moves
        exact moves
      · next storage updated =>
        rw [updated] at moves
        have reaches :
            Reaches role s ((s.setStorage storage).deviceInfoUpdate env) :=
          .after moves deviceInfoUpdate_reaches
        split
        · next s' down =>
          rw [down] at reaches
          exact reaches
        · next s' up =>
          rw [up] at reaches
          exact reaches

theorem updateSensorStorage_moves (deviceId version : UInt16) :
    s.storage.Moves role (s.updateSensorStorage deviceId version).storage := by
  unfold updateSensorStorage
  split
  · exact .refl _
  · split
    · exact .refl _
    · next device found =>
      split
      · exact .refl _
      · exact Storage.storageSensorUpdate_moves found rfl

theorem updateMeshStorage_moves (deviceId : UInt16) (pkt : DeviceUpdated) :
    s.storage.Moves role (s.updateMeshStorage deviceId pkt).1.storage := by
  have advanced (storage : Storage) (entry : Option MeshRecord) (index : Nat)
      (read : s.storage.storageMeshGet index = (storage, entry)) :
      s.storage.Moves role storage := by
    unfold Storage.storageMeshGet at read
    split at read
    · obtain ⟨rfl, -⟩ := Prod.mk.inj read
      exact .refl _
    · obtain ⟨rfl, -⟩ := Prod.mk.inj read
      exact .quiet rfl Eeprom.Reliable.advance
  unfold updateMeshStorage
  split
  · exact .refl _
  · next index found =>
    split
    · next storage read => exact advanced _ _ _ read
    · next storage entry read =>
      have written : s.storage.Moves role
          ((storage.changeMesh index (updatedRow pkt entry))
            |>.storageMeshUpdate index (updatedMesh pkt entry)).1 := by
        have changed : storage.Moves role
            (storage.changeMesh index (updatedRow pkt entry)) :=
          .single (.meshUpdated fun _ => rfl) id
        refine ((advanced _ _ _ read).trans changed).trans ?_
        unfold Storage.storageMeshUpdate
        split
        · exact .refl _
        · exact .quiet rfl Eeprom.Reliable.advance
      split
      · next after errno updated =>
        rw [updated] at written
        exact written
      · next after updated =>
        rw [updated] at written
        exact written

end Changes

end MeshPlane

end DectMesh
