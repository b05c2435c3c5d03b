import DectMesh.Mesh.Destinations

/-!
# Who joins the neighbours

Only the packets that end a pairing or a re-pairing add a neighbour, and only
their sender.
-/

namespace DectMesh

namespace MeshPlane

variable {env : MeshEnv} {s s' : MeshPlane}

/-- The device that a packet may add to the neighbours. -/
def Event.joins : Event → List UInt16
  | .pairConfirm _ srcId _ | .pairAck _ srcId _ | .repairRequest _ srcId _
  | .repairResponse _ srcId _ => [srcId]
  | _ => []

/-- The ids in `sensor_devices[0..sensor_count)`. -/
def sensorIds (s : MeshPlane) : List UInt16 :=
  s.sensors.map fun device => device.entry.deviceId

/-- The devices that are stored as neighbours. -/
def stored (s : MeshPlane) : List UInt16 := s.infraIds ++ s.sensorIds

/-- No neighbour but these is new. -/
def Gains (joined : List UInt16) (s s' : MeshPlane) : Prop :=
  ∀ id ∈ s'.stored, id ∈ s.stored ∨ id ∈ joined

/-- The same of a handler that may end in a reboot. -/
def Gained (joined : List UInt16) (s : MeshPlane) :
    Except MeshPlane MeshPlane → Prop
  | .ok s' => Gains joined s s'
  | .error _ => True

theorem sensorIds_congr (same : s'.storage.sensors = s.storage.sensors) :
    s'.sensorIds ⊆ s.sensorIds := by
  unfold sensorIds sensors
  rw [same]
  exact List.Subset.refl _

theorem stored_subset (infra : s'.infraIds ⊆ s.infraIds)
    (sensors : s'.sensorIds ⊆ s.sensorIds) : s'.stored ⊆ s.stored := by
  intro id member
  rcases List.mem_append.mp member with inInfra | inSensors
  · exact List.mem_append_left _ (infra inInfra)
  · exact List.mem_append_right _ (sensors inSensors)

/-- The infrastructure neighbours and the sensors of an operation. -/
theorem stored_of_parent (parent : SameParent s s')
    (sensors : s'.sensorIds ⊆ s.sensorIds) : s'.stored ⊆ s.stored :=
  stored_subset (fun _ member => sameParent_ids parent ▸ member) sensors

section Gains

variable {joined : List UInt16} {t : MeshPlane}
  {result : Except MeshPlane MeshPlane}
  {answer : Except MeshPlane (MeshPlane × Bool)}

theorem Gains.of_subset (kept : s'.stored ⊆ s.stored) :
    Gains joined s s' := fun _ member => .inl (kept member)

theorem Gains.of_same (same : s'.stored = s.stored) :
    Gains joined s s' := .of_subset (same ▸ List.Subset.refl _)

/-- A later step that adds nothing. -/
theorem Gains.then (gains : Gains joined s t) (kept : s'.stored ⊆ t.stored) :
    Gains joined s s' :=
  fun id member => gains id (kept member)

theorem Gained.ok (gained : Gained joined s result) (up : result = .ok s') :
    Gains joined s s' := by
  rw [up] at gained
  exact gained

theorem Gained.flagged {flag : Bool}
    (gained : Gained joined s (answer.map Prod.fst))
    (up : answer = .ok (s', flag)) : Gains joined s s' := by
  rw [up] at gained
  exact gained

theorem Gained.of_stored (kept : ∀ s', result = .ok s' → s'.stored ⊆ s.stored) :
    Gained joined s result := by
  cases result with
  | ok s' => exact Gains.of_subset (kept s' rfl)
  | error _ => trivial

theorem Gained.after (kept : t.stored ⊆ s.stored)
    (gained : Gained joined t result) : Gained joined s result := by
  cases result with
  | ok s' => exact fun id member => (gained id member).imp_left (kept ·)
  | error _ => trivial

end Gains

section Storage

theorem flushSensors_sensors (storage : Storage) :
    storage.flushSensorsToEeprom.1.sensors = storage.sensors := by
  unfold Storage.flushSensorsToEeprom
  split <;> rfl

theorem flushInfra_sensors (storage : Storage) :
    storage.flushInfraToEeprom.1.sensors = storage.sensors := by
  unfold Storage.flushInfraToEeprom
  split <;> rfl

theorem storageInfraAdd_sensors (storage : Storage) (entry : InfraRecord) :
    (storage.storageInfraAdd entry).1.sensors = storage.sensors := by
  unfold Storage.storageInfraAdd
  split
  · rfl
  · exact flushInfra_sensors _

theorem storageInfraUpdate_sensors
    (storage : Storage) (index : Nat) (entry : InfraRecord) :
    (storage.storageInfraUpdate index entry).1.sensors = storage.sensors := by
  unfold Storage.storageInfraUpdate
  split
  · rfl
  · exact flushInfra_sensors _

theorem storageInfraRemove_sensors (storage : Storage) (index : Nat) :
    (storage.storageInfraRemove index).1.sensors = storage.sensors := by
  unfold Storage.storageInfraRemove
  split
  · rfl
  · exact flushInfra_sensors _

theorem storageMeshAdd_sensors (storage : Storage) (entry : MeshRecord) :
    (storage.storageMeshAdd entry).1.sensors = storage.sensors := by
  unfold Storage.storageMeshAdd
  split
  · rfl
  · split <;> rfl

theorem storageMeshRemove_sensors (storage : Storage) (index : Nat) :
    (storage.storageMeshRemove index).1.sensors = storage.sensors := by
  unfold Storage.storageMeshRemove
  split
  · rfl
  · split <;> rfl

theorem updateMeshStorage_sensors (deviceId : UInt16) (pkt : DeviceUpdated) :
    (s.updateMeshStorage deviceId pkt).1.storage.sensors =
      s.storage.sensors := by
  have got (index : Nat) :
      (s.storage.storageMeshGet index).1.sensors = s.storage.sensors := by
    unfold Storage.storageMeshGet
    split <;> rfl
  have updated (storage : Storage) (index : Nat) (entry : MeshRecord) :
      (storage.storageMeshUpdate index entry).1.sensors = storage.sensors := by
    unfold Storage.storageMeshUpdate
    split <;> rfl
  unfold updateMeshStorage
  split
  · rfl
  · next index found =>
    have read := got index
    split
    · next missing =>
      rw [missing] at read
      exact read
    · next storage entry present =>
      rw [present] at read
      have wrote := updated (storage.changeMesh index (updatedRow pkt entry))
        index (updatedMesh pkt entry)
      split
      · next failed =>
        rw [failed] at wrote
        exact wrote.trans read
      · next done =>
        rw [done] at wrote
        exact wrote.trans read

/-- Only statistics of the entry change. -/
theorem updateSensor_ids (index : Nat) {change : Sensor → Sensor}
    (same : ∀ device, (change device).entry = device.entry) :
    (s.updateSensor index change).sensorIds = s.sensorIds := by
  unfold sensorIds updateSensor sensors
  apply List.ext_getElem
  · simp
  · intro i _ _
    simp only [setStorage_storage, List.getElem_map, List.getElem_modify]
    split
    · rw [same]
    · rfl

theorem storageSensorRemove_ids (index : Nat) :
    (s.setStorage (s.storage.storageSensorRemove index).1).sensorIds ⊆
      s.sensorIds := by
  unfold Storage.storageSensorRemove
  split
  · exact List.Subset.refl _
  · unfold sensorIds sensors
    rw [setStorage_storage, flushSensors_sensors]
    exact ((List.eraseIdx_sublist _ _).map _).subset

theorem updateSensorStorage_ids (deviceId version : UInt16) :
    (s.updateSensorStorage deviceId version).sensorIds = s.sensorIds := by
  unfold updateSensorStorage
  split
  · rfl
  · next index found =>
    split
    · rfl
    · next device here =>
      split
      · rfl
      · unfold Storage.storageSensorUpdate sensorIds sensors
        have live : s.storage.sensors.live[index]? = some device := here
        rw [live]
        dsimp only
        rw [setStorage_storage, flushSensors_sensors]
        apply List.ext_getElem
        · simp [RamTable.set]
        · intro i bound _
          simp only [RamTable.set, List.getElem_map, List.getElem_set]
          split
          · next equal =>
            subst equal
            obtain ⟨inside, at_⟩ := List.getElem?_eq_some_iff.mp live
            rw [at_]
          · rfl

end Storage

section Changes

theorem deviceInfoUpdate_sensors (up : s.deviceInfoUpdate env = .ok s') :
    s'.sensorIds ⊆ s.sensorIds := by
  unfold deviceInfoUpdate at up
  split at up
  · cases up
    exact List.Subset.refl _
  · split at up
    · cases up
      exact List.nil_subset _
    · split at up
      · cases up
      · dsimp only at up
        split at up
        · cases up
        · cases up
          split <;> exact List.Subset.refl _

theorem deviceInfoUpdate_stored (up : s.deviceInfoUpdate env = .ok s') :
    s'.stored ⊆ s.stored :=
  stored_subset (Keeps.deviceInfoUpdate up).ids.subset
    (deviceInfoUpdate_sensors up)

theorem storageInfraAdd_gains (entry : InfraRecord) :
    Gains [entry.deviceId] s
      (s.setStorage (s.storage.storageInfraAdd entry).1) := by
  have sensors : (s.setStorage (s.storage.storageInfraAdd entry).1).sensorIds ⊆
      s.sensorIds := sensorIds_congr (storageInfraAdd_sensors s.storage entry)
  intro id member
  rcases List.mem_append.mp member with inInfra | inSensors
  · rcases @storageInfraAdd_ids s entry with full | perm
    · rw [full] at inInfra
      exact .inl (List.mem_append_left _ inInfra)
    · rcases List.mem_append.mp (perm.mem_iff.mp inInfra) with before | new
      · exact .inl (List.mem_append_left _ before)
      · exact .inr new
  · exact .inl (List.mem_append_right _ (sensors inSensors))

theorem addInfra_gained (entry : InfraRecord) :
    Gained [entry.deviceId] s ((s.addInfra env entry).map Prod.fst) := by
  have gains := @storageInfraAdd_gains s entry
  unfold addInfra
  split
  · next added =>
    rw [added] at gains
    exact gains
  · next added =>
    rw [added] at gains
    split
    · trivial
    · next done => exact gains.then (deviceInfoUpdate_stored done)

theorem dropInfra_sensors {deviceId : UInt16}
    (up : s.dropInfra env deviceId = .ok s') :
    s'.sensorIds ⊆ s.sensorIds := by
  unfold dropInfra at up
  split at up
  · cases up
    exact List.Subset.refl _
  · next index _ =>
    have kept : (s.setStorage (s.storage.storageInfraRemove index).1).sensorIds
        ⊆ s.sensorIds :=
      sensorIds_congr (storageInfraRemove_sensors s.storage index)
    exact List.Subset.trans (deviceInfoUpdate_sensors up) kept

theorem dropInfra_gained {joined : List UInt16} (deviceId : UInt16) :
    Gained joined s (s.dropInfra env deviceId) :=
  .of_stored fun _ up =>
    stored_subset (Keeps.dropInfra up).ids.subset (dropInfra_sensors up)

theorem updateInfraStorage_sensors {deviceId : UInt16} {hopNum : UInt8}
    {rssi2 : Int16} {flag : Bool}
    (up : s.updateInfraStorage env deviceId hopNum rssi2 = .ok (s', flag)) :
    s'.sensorIds ⊆ s.sensorIds := by
  unfold updateInfraStorage at up
  split at up
  · cases up
    exact List.Subset.refl _
  · next index _ =>
    split at up
    · cases up
      exact List.Subset.refl _
    · next entry _ =>
      have same := storageInfraUpdate_sensors s.storage index
        (updatedInfra hopNum rssi2 entry)
      split at up
      · next failed =>
        rw [failed] at same
        cases up
        exact sensorIds_congr same
      · next storage done =>
        rw [done] at same
        have kept : (s.setStorage storage).sensorIds ⊆ s.sensorIds :=
          sensorIds_congr same
        split at up
        · cases up
        · next updated =>
          cases up
          exact List.Subset.trans (deviceInfoUpdate_sensors updated) kept

theorem updateInfraStorage_gained {joined : List UInt16} (deviceId : UInt16)
    (hopNum : UInt8) (rssi2 : Int16) :
    Gained joined s
      ((s.updateInfraStorage env deviceId hopNum rssi2).map Prod.fst) := by
  refine .of_stored fun _ up => ?_
  obtain ⟨flag, done⟩ := paired_ok up
  exact stored_subset (updateInfraStorage_perm done).subset
    (updateInfraStorage_sensors done)

theorem refreshInfra_sensors {srcId : UInt16} {hopNum : UInt8}
    {rssi2 : Int16}
    (up : s.refreshInfra env srcId hopNum rssi2 = .ok s') :
    s'.sensorIds ⊆ s.sensorIds := by
  unfold refreshInfra at up
  split at up
  · cases up
  · next done =>
    cases up
    have kept := updateInfraStorage_sensors done
    exact kept
  · next done =>
    cases up
    exact updateInfraStorage_sensors done

theorem refreshInfra_gained {joined : List UInt16} (srcId : UInt16)
    (hopNum : UInt8) (rssi2 : Int16) :
    Gained joined s (s.refreshInfra env srcId hopNum rssi2) :=
  .of_stored fun _ up =>
    stored_subset (refreshInfra_perm up).subset (refreshInfra_sensors up)

theorem pingWhere_sensors (due : Infra → Bool) (genId : UInt16)
    (status : UInt8) (devices : List Infra) (index : Nat) (s : MeshPlane) :
    (pingWhere env due genId status devices index s).storage.sensors =
      s.storage.sensors := by
  induction devices generalizing index s with
  | nil => rfl
  | cons device rest ih =>
      unfold pingWhere
      rw [ih]
      split <;> rfl

theorem pingKnownDevices_stored (genId : UInt16) (status : UInt8) :
    (s.pingKnownDevices env genId status).stored ⊆ s.stored :=
  stored_of_parent (pingKnownDevices_parent genId status)
    (sensorIds_congr (pingWhere_sensors _ _ _ _ _ _))

theorem addSensor_gains (deviceId version : UInt16) :
    Gains [deviceId] s (s.addSensor deviceId version).1 := by
  have stored : Gains [deviceId] s (s.setStorage
      (s.storage.storageSensorAdd
        { deviceId := deviceId, version := version }).1) := by
    unfold Storage.storageSensorAdd
    split
    · exact .of_same rfl
    · intro id member
      rcases List.mem_append.mp member with inInfra | inSensors
      · rw [infraIds, entries, infra, setStorage_storage, flushSensors_infra]
          at inInfra
        exact .inl (List.mem_append_left _ inInfra)
      · unfold sensorIds sensors at inSensors
        rw [setStorage_storage, flushSensors_sensors] at inSensors
        have either : id ∈ s.sensorIds ++ [deviceId] := by
          simpa [RamTable.append, sensorIds] using inSensors
        rcases List.mem_append.mp either with before | new
        · exact .inl (List.mem_append_right _ before)
        · exact .inr new
  unfold addSensor
  split
  · next added =>
    rw [added] at stored
    exact stored
  · next added =>
    rw [added] at stored
    exact stored

theorem updateSensorStorage_stored (deviceId version : UInt16) :
    (s.updateSensorStorage deviceId version).stored ⊆ s.stored := by
  refine stored_of_parent (updateSensorStorage_parent deviceId version) ?_
  rw [updateSensorStorage_ids]
  exact List.Subset.refl _

end Changes

section Handlers

theorem admitNeighbour_gained
    {deviceType : UInt8} {srcId version : UInt16} {wanted : Bool}
    {entry : InfraRecord} {answer : MeshPlane → UInt8 → MeshPlane}
    (quiet : ∀ t status, (answer t status).stored = t.stored)
    (same : entry.deviceId = srcId) :
    Gained [srcId] s
      (s.admitNeighbour env deviceType srcId version wanted entry answer) := by
  have answered {t : MeshPlane} {status : UInt8}
      (gains : Gains [srcId] s t) : Gains [srcId] s (answer t status) := by
    refine gains.then ?_
    rw [quiet]
    exact List.Subset.refl _
  have infra : Gained [srcId] s ((s.addInfra env entry).map Prod.fst) :=
    same ▸ addInfra_gained entry
  have sensor := @addSensor_gains s srcId version
  unfold admitNeighbour
  dsimp only
  split
  · split
    · split
      · trivial
      · next added => exact infra.flagged added
      · next added => exact answered (infra.flagged added)
    · exact answered (.of_same rfl)
  · split
    · split
      · split
        · next added =>
          rw [added] at sensor
          exact sensor
        · next added =>
          rw [added] at sensor
          exact answered sensor
      · exact answered (.of_same rfl)
    · exact Gains.of_same rfl

theorem buildJoinedNetwork_gained {pkt : PairAck} {srcId : UInt16}
    {rssi2 : Int16} :
    Gained [srcId] s (s.buildJoinedNetwork env pkt srcId rssi2) := by
  have adds : Gained [srcId] s
      ((s.addInfra env (pairedInfra pkt srcId rssi2)).map Prod.fst) :=
    addInfra_gained (pairedInfra pkt srcId rssi2)
  unfold buildJoinedNetwork
  split
  · trivial
  · next added => exact adds.flagged added
  · next t added =>
    refine Gains.then (adds.flagged added) ?_
    split
    · split <;> exact List.Subset.refl _
    · split <;> exact List.Subset.refl _

theorem handlePairAck_gained {pkt : PairAck} {srcId : UInt16}
    {rssi2 : Int16} :
    Gained [srcId] s (s.handlePairAck env pkt srcId rssi2) := by
  unfold handlePairAck
  split
  · exact Gains.of_same rfl
  · refine .after (t := s.put (.untrack pkt.hdr.trackingId))
      (List.Subset.refl _) ?_
    dsimp only
    split
    · exact Gains.of_same rfl
    · split
      · exact Gains.of_same rfl
      · exact Gains.of_same rfl
      · split
        · exact buildJoinedNetwork_gained
        · exact Gains.of_same rfl
      · split
        · exact buildJoinedNetwork_gained
        · exact Gains.of_same rfl

theorem handleRepairResponse_gained {pkt : RepairResponse}
    {srcId : UInt16} {rssi2 : Int16} :
    Gained [srcId] s (s.handleRepairResponse env pkt srcId rssi2) := by
  unfold handleRepairResponse
  split
  · exact Gains.of_same rfl
  · refine .after (t := s.put (.untrack pkt.hdr.trackingId))
      (List.Subset.refl _) ?_
    dsimp only
    split
    · exact Gains.of_same rfl
    · split
      · exact Gains.of_same rfl
      · split
        · exact Gains.of_same rfl
        · exact Gains.of_same rfl
        · split
          · exact dropInfra_gained srcId
          · split
            · exact updateInfraStorage_gained srcId pkt.hopNum rssi2
            · split
              · exact addInfra_gained (answeredInfra pkt srcId rssi2)
              · exact Gains.of_same rfl
        · split
          · exact updateInfraStorage_gained _ pkt.hopNum rssi2
          · split
            · exact storageInfraAdd_gains (answeredInfra pkt srcId rssi2)
            · exact Gains.of_same rfl

theorem pinged_sensors (pkt : PingDevice) :
    (s.pinged env pkt).sensorIds ⊆ s.sensorIds := by
  have infra : (s.forgetInfra env pkt).sensorIds ⊆ s.sensorIds := by
    unfold forgetInfra
    split
    · exact List.Subset.refl _
    · exact sensorIds_congr (storageInfraRemove_sensors _ _)
  have sensor (t : MeshPlane) :
      (t.forgetSensor env pkt).sensorIds ⊆ t.sensorIds := by
    unfold forgetSensor
    split
    · exact List.Subset.refl _
    · next index _ =>
      have removed := @storageSensorRemove_ids
        (t.sendPingDevice env pkt.dstDeviceId pkt.dstDeviceId pkt.hdr.status)
        index
      exact removed
  unfold pinged
  split
  · exact List.Subset.refl _
  · exact List.Subset.trans (sensor _) infra

theorem pinged_stored (pkt : PingDevice) :
    (s.pinged env pkt).stored ⊆ s.stored :=
  stored_subset (Keeps.pinged pkt).ids.subset (pinged_sensors pkt)

theorem answerPing_gained {joined : List UInt16} {pkt : PingDevice}
    {srcId : UInt16} {rssi2 : Int16} :
    Gained joined s (s.answerPing env pkt srcId rssi2) := by
  have held : (s.reportSensorHolder env pkt).stored ⊆ s.stored :=
    stored_of_parent (reportSensorHolder_parent pkt) (sensorIds_congr
      (congrArg Storage.sensors (reportSensorHolder_storage pkt)))
  unfold answerPing
  split
  · exact Gains.of_same rfl
  · exact Gains.of_same rfl
  · refine .after held ?_
    dsimp only
    split
    · exact Gains.of_same rfl
    · have refreshes : Gained joined (s.reportSensorHolder env pkt)
          ((s.reportSensorHolder env pkt).refreshInfra env srcId pkt.hopNum
            rssi2) := refreshInfra_gained srcId pkt.hopNum rssi2
      split
      · trivial
      · next t refreshed =>
        have kept := refreshes.ok refreshed
        split
        · exact kept
        · exact kept.then
            (@pingKnownDevices_stored env (t.adoptNetwork env pkt) _ _)
  · have updates : Gained joined (s.setMeshTime env pkt.timestamp)
        (((s.setMeshTime env pkt.timestamp).updateInfraStorage env srcId
          pkt.hopNum rssi2).map Prod.fst) :=
      updateInfraStorage_gained srcId pkt.hopNum rssi2
    split
    · exact Gains.of_same rfl
    · split
      · trivial
      · next after _ updated =>
        have gains : Gains joined s after := updates.flagged updated
        exact gains

theorem handlePingDevice_gained {joined : List UInt16} {pkt : PingDevice}
    {srcId : UInt16} {rssi2 : Int16} :
    Gained joined s (s.handlePingDevice env pkt srcId rssi2) := by
  rw [handlePingDevice_eq]
  split
  · exact Gains.of_same rfl
  · split
    · exact .after (pinged_stored pkt) answerPing_gained
    · split
      · exact .after (t := { s.pinged env pkt with
          processNextRequest := true }) (pinged_stored pkt) answerPing_gained
      · exact Gains.of_subset (List.nil_subset _)

theorem handlePingAck_gained {joined : List UInt16} {pkt : PingAck}
    {srcId : UInt16} {rssi2 : Int16} :
    Gained joined s (s.handlePingAck env pkt srcId rssi2) := by
  unfold handlePingAck
  split
  · exact Gains.of_same rfl
  · refine .after (t := s.put (.untrack pkt.hdr.trackingId))
      (List.Subset.refl _) ?_
    dsimp only
    split
    · exact Gains.of_same rfl
    · split
      · split
        · exact updateInfraStorage_gained srcId pkt.hopNum rssi2
        · split
          · exact Gains.of_subset (updateSensorStorage_stored _ _)
          · exact Gains.of_same rfl
      · split
        · exact refreshInfra_gained srcId pkt.hopNum rssi2
        · split
          · exact Gains.of_subset (updateSensorStorage_stored _ _)
          · exact Gains.of_same rfl
      · exact Gains.of_same rfl
      · exact Gains.of_same rfl

theorem handleJoinedNetwork_sensors (pkt : JoinedNetwork) (srcId : UInt16) :
    (s.handleJoinedNetwork env pkt srcId).storage.sensors =
      s.storage.sensors := by
  unfold handleJoinedNetwork
  split
  · rfl
  · split
    · have stored : (s.storeJoined pkt
          (s.checkMeshStorage pkt.deviceId)).storage.sensors =
          s.storage.sensors := by
        unfold storeJoined
        split
        · exact storageMeshAdd_sensors _ _
        · rfl
      exact (pingWhere_sensors _ _ _ _ _ _).trans stored
    · rfl
    · rfl
    · rfl

theorem handleDeviceUpdated_sensors (pkt : DeviceUpdated) (srcId : UInt16) :
    (s.handleDeviceUpdated env pkt srcId).storage.sensors =
      s.storage.sensors := by
  have applied : (s.applyUpdate pkt srcId).1.storage.sensors =
      s.storage.sensors := by
    unfold applyUpdate
    dsimp only
    split
    · rfl
    · split
      · exact updateMeshStorage_sensors _ _
      · split
        · split
          · rfl
          · next index _ =>
            have removed := storageMeshRemove_sensors s.storage index
            split
            · next failed =>
              rw [failed] at removed
              exact removed
            · next done =>
              rw [done] at removed
              exact removed
        · rfl
  unfold handleDeviceUpdated
  split
  · rfl
  · split
    · exact applied
    · exact congrArg Storage.sensors (forwardUpdate_storage pkt srcId)
    · rfl
    · rfl

theorem handleDeviceUpdatedAck_sensors {pkt : DeviceUpdatedAck}
    {srcId : UInt16}
    (up : s.handleDeviceUpdatedAck env pkt srcId = .ok s') :
    s'.sensorIds ⊆ s.sensorIds := by
  unfold handleDeviceUpdatedAck at up
  split at up
  · cases up
    exact List.Subset.refl _
  · dsimp only at up
    split at up
    · cases up
      exact List.Subset.refl _
    · split at up
      · cases up
        exact List.Subset.refl _
      · have dropped := dropInfra_sensors up
        exact dropped

theorem knownDeviceUpdateCommTime_sensors {deviceId : UInt16}
    (up : s.knownDeviceUpdateCommTime env deviceId = .ok s') :
    s'.sensorIds ⊆ s.sensorIds := by
  unfold knownDeviceUpdateCommTime at up
  split at up
  · cases up
    exact List.Subset.refl _
  · split at up
    · next index found =>
      dsimp only at up
      split at up
      · cases up
        exact List.Subset.refl _
      · split at up
        · have updated := deviceInfoUpdate_sensors up
          refine List.Subset.trans updated ?_
          exact sensorIds_congr (storageInfraRemove_sensors
            (s.updateInfra index (failed env.now)).storage index)
        · cases up
          exact List.Subset.refl _
    · split at up
      · cases up
        exact List.Subset.refl _
      · next index found =>
        have failing : (s.updateSensor index (failed env.now)).sensorIds =
            s.sensorIds := updateSensor_ids index fun _ => rfl
        dsimp only at up
        split at up
        · cases up
          rw [failing]
          exact List.Subset.refl _
        · split at up
          · cases up
            have removed := @storageSensorRemove_ids
              (s.updateSensor index (failed env.now)) index
            rw [failing] at removed
            exact removed
          · cases up
            rw [failing]
            exact List.Subset.refl _

theorem isKnownDevice_sensors (deviceId : UInt16) :
    (s.isKnownDevice env deviceId).1.sensorIds ⊆ s.sensorIds := by
  unfold isKnownDevice
  split
  · exact List.Subset.refl _
  · split
    · exact List.Subset.refl _
    · split
      · next index _ =>
        have same := @updateSensor_ids s index (heard env.now) fun _ => rfl
        rw [same]
        exact List.Subset.refl _
      · exact List.Subset.refl _

theorem meshTick_sensors : (s.meshTick env).sensorIds ⊆ s.sensorIds := by
  have closed : (s.meshPairingTick env).sensorIds ⊆ s.sensorIds :=
    sensorIds_congr (congrArg Storage.sensors meshPairingTick_storage)
  have pinged (due : Infra → Bool) : (pingWhere env due 0 statusPingDevice
      (s.meshPairingTick env).infra 0 (s.meshPairingTick env)).sensorIds ⊆
        s.sensorIds :=
    List.Subset.trans (sensorIds_congr (pingWhere_sensors _ _ _ _ _ _)) closed
  unfold meshTick
  dsimp only
  split
  · exact closed
  · split
    · exact pinged _
    · exact pinged _

theorem knownDevicesTick_sensors :
    (s.knownDevicesTick env).storage.sensors = s.storage.sensors := by
  unfold knownDevicesTick
  split
  · rfl
  · exact pingWhere_sensors _ _ _ _ _ _

theorem trackerExhausted_sensors {isPing isPairing : Bool} {dstId : UInt16}
    (up : s.trackerExhausted env isPing isPairing dstId = .ok s') :
    s'.sensorIds ⊆ s.sensorIds := by
  unfold trackerExhausted at up
  dsimp only at up
  split at up
  · cases up
    split <;> exact List.Subset.refl _
  · refine List.Subset.trans (knownDeviceUpdateCommTime_sensors up) ?_
    split <;> exact List.Subset.refl _

/-- A device becomes a neighbour by pairing. -/
theorem handle_gained (event : Event) :
    Gained event.joins s (s.handle env event) := by
  cases event with
  | pairRequest pkt srcId =>
      exact Gains.of_subset (stored_of_parent
        (handlePairRequest_parent pkt srcId) (sensorIds_congr
          (congrArg Storage.sensors (handlePairRequest_storage pkt srcId))))
  | pairResponse pkt srcId rssi2 =>
      exact Gains.of_subset (stored_of_parent
        (handlePairResponse_parent pkt srcId rssi2) (sensorIds_congr (congrArg
          Storage.sensors (handlePairResponse_storage pkt srcId rssi2))))
  | pairConfirm pkt srcId rssi2 =>
      dsimp only [handle]
      unfold handlePairConfirm
      split
      · exact Gains.of_same rfl
      · split
        · exact admitNeighbour_gained (fun _ _ => rfl) rfl
        · exact admitNeighbour_gained (fun _ _ => rfl) rfl
        · exact Gains.of_same rfl
        · exact Gains.of_same rfl
  | pairAck pkt srcId rssi2 => exact handlePairAck_gained
  | repairRequest pkt srcId rssi2 =>
      dsimp only [handle]
      unfold handleRepairRequest
      split
      · exact Gains.of_same rfl
      · split
        · exact Gains.of_same rfl
        · split
          · exact admitNeighbour_gained (fun _ _ => rfl) rfl
          · exact admitNeighbour_gained (fun _ _ => rfl) rfl
          · exact Gains.of_same rfl
          · exact Gains.of_same rfl
  | repairResponse pkt srcId rssi2 => exact handleRepairResponse_gained
  | joinedNetwork pkt srcId =>
      exact Gains.of_subset (stored_of_parent
        (handleJoinedNetwork_parent pkt srcId)
        (sensorIds_congr (handleJoinedNetwork_sensors pkt srcId)))
  | joinedNetworkAck pkt =>
      refine Gains.of_same ?_
      unfold handleJoinedNetworkAck
      split <;> rfl
  | pingDevice pkt srcId rssi2 => exact handlePingDevice_gained
  | pingAck pkt srcId rssi2 => exact handlePingAck_gained
  | deviceUpdated pkt srcId =>
      exact Gains.of_subset (stored_of_parent
        (handleDeviceUpdated_parent pkt srcId)
        (sensorIds_congr (handleDeviceUpdated_sensors pkt srcId)))
  | deviceUpdatedAck pkt srcId =>
      exact .of_stored fun _ up => stored_subset
        (Keeps.handleDeviceUpdatedAck up).ids.subset
        (handleDeviceUpdatedAck_sensors up)
  | heard srcId =>
      exact Gains.of_subset (stored_of_parent (isKnownDevice_parent srcId)
        (isKnownDevice_sensors srcId))
  | meshTick =>
      exact Gains.of_subset (stored_of_parent meshTick_parent meshTick_sensors)
  | knownDevicesTick =>
      exact Gains.of_subset (stored_of_parent knownDevicesTick_parent
        (sensorIds_congr knownDevicesTick_sensors))
  | trackerExhausted isPing isPairing dstId =>
      exact .of_stored fun _ up => stored_subset
        (Keeps.trackerExhausted up).ids.subset (trackerExhausted_sensors up)
  | serialNumber serialNum =>
      exact Gains.of_subset (stored_of_parent
        (setSerialNumber_parent serialNum) (sensorIds_congr
          (congrArg Storage.sensors (setSerialNumber_storage serialNum))))

end Handlers

end MeshPlane

end DectMesh
