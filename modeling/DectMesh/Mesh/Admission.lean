import DectMesh.Mesh.Directory
import DectMesh.Mesh.ParentRun

/-!
# Admission to the network

The gateway admits new devices and announces the size of the network by a
number that it takes from the mesh table when it starts, and at no other time.
-/

namespace DectMesh

namespace MeshPlane

variable {env : MeshEnv} {s s' s'' : MeshPlane}

section Steady

/-- The mesh table keeps its size, the number beside it stays, and new pings
carry that number. -/
structure Steady (s s' : MeshPlane) : Prop where
  mesh : s'.storage.mesh.count = s.storage.mesh.count
  devices : s'.meshDevicesCount = s.meshDevicesCount
  pings : ∀ ping : PingDevice, .request (.pingDevice ping) ∈ s'.out →
    .request (.pingDevice ping) ∈ s.out ∨
      ping.totalDevices = s.meshDevicesCount

namespace Steady

theorem refl (s : MeshPlane) : Steady s s :=
  ⟨rfl, rfl, fun _ member => .inl member⟩

theorem trans (first : Steady s s') (second : Steady s' s'') :
    Steady s s'' where
  mesh := second.mesh.trans first.mesh
  devices := second.devices.trans first.devices
  pings := by
    intro ping member
    rcases second.pings ping member with before | new
    · exact first.pings ping before
    · exact .inr (new.trans first.devices)

/-- Nothing is put out. -/
theorem quiet (mesh : s'.storage.mesh.count = s.storage.mesh.count)
    (devices : s'.meshDevicesCount = s.meshDevicesCount)
    (out : s'.out = s.out) : Steady s s' :=
  ⟨mesh, devices, fun _ member => .inl (out ▸ member)⟩

theorem put {action : MeshAction}
    (real : ∀ ping : PingDevice, action = .request (.pingDevice ping) →
      ping.totalDevices = s.meshDevicesCount) : Steady s (s.put action) where
  mesh := rfl
  devices := rfl
  pings := by
    intro ping member
    rcases List.mem_append.mp member with before | new
    · exact .inl before
    · exact .inr (real ping (List.mem_singleton.mp new).symm)

/-- Anything but a ping is put out. -/
theorem other {action : MeshAction}
    (other : ∀ ping : PingDevice, action ≠ .request (.pingDevice ping)) :
    Steady s (s.put action) :=
  put fun ping same => absurd same (other ping)

theorem reply (packet : MeshPacket) : Steady s (s.put (.reply packet)) :=
  other nofun

theorem untrack (trackingId : UInt8) :
    Steady s (s.put (.untrack trackingId)) := other nofun

theorem setStorage {storage : Storage}
    (mesh : storage.mesh = s.storage.mesh) :
    Steady s (s.setStorage storage) :=
  quiet (congrArg RamTable.count mesh) rfl rfl

theorem sendPingDevice (dstId genId : UInt16) (status : UInt8) :
    Steady s (s.sendPingDevice env dstId genId status) := by
  apply put
  intro ping same
  cases same
  rfl

theorem sendDeviceUpdated (pkt : DeviceUpdated) (dstId : UInt16)
    (status : UInt8) : Steady s (s.sendDeviceUpdated env pkt dstId status) :=
  other nofun

end Steady

theorem pingWhere_steady (due : Infra → Bool) (genId : UInt16)
    (status : UInt8) (devices : List Infra) (index : Nat) (s : MeshPlane) :
    Steady s (pingWhere env due genId status devices index s) := by
  induction devices generalizing index s with
  | nil => exact .refl s
  | cons device rest ih =>
      unfold pingWhere
      refine .trans ?_ (ih _ _)
      split
      · exact (Steady.sendPingDevice _ _ _).trans (.quiet rfl rfl rfl)
      · exact .refl s

end Steady

section Frames

variable (storage : Storage)

theorem flushInfra_mesh :
    storage.flushInfraToEeprom.1.mesh = storage.mesh := by
  unfold Storage.flushInfraToEeprom
  split
  · rfl
  · rfl

theorem flushSensors_mesh :
    storage.flushSensorsToEeprom.1.mesh = storage.mesh := by
  unfold Storage.flushSensorsToEeprom
  split
  · rfl
  · rfl

theorem storageInfraAdd_mesh (entry : InfraRecord) :
    (storage.storageInfraAdd entry).1.mesh = storage.mesh := by
  unfold Storage.storageInfraAdd
  split
  · rfl
  · exact flushInfra_mesh _

theorem storageInfraUpdate_mesh (index : Nat) (entry : InfraRecord) :
    (storage.storageInfraUpdate index entry).1.mesh = storage.mesh := by
  unfold Storage.storageInfraUpdate
  split
  · rfl
  · exact flushInfra_mesh _

theorem storageInfraRemove_mesh (index : Nat) :
    (storage.storageInfraRemove index).1.mesh = storage.mesh := by
  unfold Storage.storageInfraRemove
  split
  · rfl
  · exact flushInfra_mesh _

theorem storageSensorAdd_mesh (entry : SensorRecord) :
    (storage.storageSensorAdd entry).1.mesh = storage.mesh := by
  unfold Storage.storageSensorAdd
  split
  · rfl
  · exact flushSensors_mesh _

theorem storageSensorUpdate_mesh (index : Nat) (entry : SensorRecord) :
    (storage.storageSensorUpdate index entry).1.mesh = storage.mesh := by
  unfold Storage.storageSensorUpdate
  split
  · rfl
  · exact flushSensors_mesh _

theorem storageSensorRemove_mesh (index : Nat) :
    (storage.storageSensorRemove index).1.mesh = storage.mesh := by
  unfold Storage.storageSensorRemove
  split
  · rfl
  · exact flushSensors_mesh _

/-- `update_mesh_storage` keeps the number of entries. -/
theorem updateMeshStorage_count (deviceId : UInt16) (pkt : DeviceUpdated) :
    (s.updateMeshStorage deviceId pkt).1.storage.mesh.count =
      s.storage.mesh.count := by
  have got (index : Nat) :
      (s.storage.storageMeshGet index).1.mesh = s.storage.mesh := by
    unfold Storage.storageMeshGet
    split
    · rfl
    · rfl
  have updated (storage : Storage) (index : Nat) (entry : MeshRecord) :
      (storage.storageMeshUpdate index entry).1.mesh = storage.mesh := by
    unfold Storage.storageMeshUpdate
    split
    · rfl
    · rfl
  unfold updateMeshStorage
  split
  · rfl
  · next index found =>
    have read := got index
    split
    · next storage missing =>
      rw [missing] at read
      exact congrArg RamTable.count read
    · next storage entry present =>
      rw [present] at read
      have wrote := updated (storage.changeMesh index (updatedRow pkt entry))
        index (updatedMesh pkt entry)
      have changed : (storage.changeMesh index
          (updatedRow pkt entry)).mesh.count = s.storage.mesh.count := by
        rw [← read]
        exact List.length_modify ..
      split
      · next failed =>
        rw [failed] at wrote
        exact (congrArg RamTable.count wrote).trans changed
      · next done =>
        rw [done] at wrote
        exact (congrArg RamTable.count wrote).trans changed

end Frames

section Neighbours

variable (isGateway : env.deviceType = .gateway)

include isGateway

/-- A gateway has no parent to look for. -/
theorem deviceInfoUpdate_gateway : s.deviceInfoUpdate env = .ok s := by
  rw [deviceInfoUpdate, if_pos]
  rw [isGateway]
  decide

theorem addInfra_steady {entry : InfraRecord} {flag : Bool}
    (up : s.addInfra env entry = .ok (s', flag)) : Steady s s' := by
  have mesh := storageInfraAdd_mesh s.storage entry
  unfold addInfra at up
  split at up
  · next storage errno added =>
    rw [added] at mesh
    cases up
    exact .setStorage mesh
  · next storage added =>
    rw [added] at mesh
    rw [deviceInfoUpdate_gateway isGateway] at up
    cases up
    exact .setStorage mesh

omit isGateway in
theorem addSensor_steady (deviceId version : UInt16) :
    Steady s (s.addSensor deviceId version).1 := by
  have mesh := storageSensorAdd_mesh s.storage
    { deviceId := deviceId, version := version }
  unfold addSensor
  split
  · next storage errno added =>
    rw [added] at mesh
    exact .setStorage mesh
  · next storage added =>
    rw [added] at mesh
    exact .setStorage mesh

theorem admitNeighbour_steady
    {deviceType : UInt8} {srcId version : UInt16} {wanted : Bool}
    {entry : InfraRecord} {answer : MeshPlane → UInt8 → MeshPlane}
    (answers : ∀ s status, Steady s (answer s status))
    (up : s.admitNeighbour env deviceType srcId version wanted entry answer =
      .ok s') : Steady s s' := by
  unfold admitNeighbour at up
  split at up
  · dsimp only at up
    split at up
    · split at up
      · cases up
      · next after added =>
        cases up
        exact addInfra_steady isGateway added
      · next after added =>
        cases up
        exact (addInfra_steady isGateway added).trans (answers _ _)
    · cases up
      exact answers _ _
  · split at up
    · dsimp only at up
      split at up
      · have stored := @addSensor_steady s srcId version
        split at up
        · next added =>
          rw [added] at stored
          cases up
          exact stored
        · next added =>
          rw [added] at stored
          cases up
          exact stored.trans (answers _ _)
      · cases up
        exact answers _ _
    · cases up
      exact .refl s

theorem updateInfraStorage_steady {deviceId : UInt16} {hopNum : UInt8}
    {rssi2 : Int16} {flag : Bool}
    (up : s.updateInfraStorage env deviceId hopNum rssi2 = .ok (s', flag)) :
    Steady s s' := by
  unfold updateInfraStorage at up
  split at up
  · cases up
    exact .refl s
  · next index found =>
    split at up
    · cases up
      exact .refl s
    · next entry current =>
      have mesh := storageInfraUpdate_mesh s.storage index
        (updatedInfra hopNum rssi2 entry)
      split at up
      · next storage errno updated =>
        rw [updated] at mesh
        cases up
        exact .setStorage mesh
      · next storage updated =>
        rw [updated] at mesh
        rw [deviceInfoUpdate_gateway isGateway] at up
        cases up
        exact .setStorage mesh

omit isGateway in
theorem updateSensorStorage_steady (deviceId version : UInt16) :
    Steady s (s.updateSensorStorage deviceId version) := by
  unfold updateSensorStorage
  split
  · exact .refl s
  · split
    · exact .refl s
    · split
      · exact .refl s
      · exact .setStorage (storageSensorUpdate_mesh _ _ _)

omit isGateway in
theorem isKnownDevice_steady (deviceId : UInt16) :
    Steady s (s.isKnownDevice env deviceId).1 := by
  unfold isKnownDevice
  split
  · exact .refl s
  · split
    · exact .quiet rfl rfl rfl
    · split
      · exact .quiet rfl rfl rfl
      · exact .refl s

omit isGateway in
theorem forgetInfra_steady (pkt : PingDevice) :
    Steady s (s.forgetInfra env pkt) := by
  unfold forgetInfra
  split
  · exact .refl s
  · have told := @Steady.sendPingDevice env s pkt.dstDeviceId pkt.dstDeviceId
      pkt.hdr.status
    exact told.trans ((Steady.setStorage (storageInfraRemove_mesh _ _)).trans
      (.quiet rfl rfl rfl))

omit isGateway in
theorem forgetSensor_steady (pkt : PingDevice) :
    Steady s (s.forgetSensor env pkt) := by
  unfold forgetSensor
  split
  · exact .refl s
  · have told := @Steady.sendPingDevice env s pkt.dstDeviceId pkt.dstDeviceId
      pkt.hdr.status
    exact told.trans ((Steady.setStorage (storageSensorRemove_mesh _ _)).trans
      (.quiet rfl rfl rfl))

theorem knownDeviceUpdateCommTime_steady {deviceId : UInt16}
    (up : s.knownDeviceUpdateCommTime env deviceId = .ok s') :
    Steady s s' := by
  unfold knownDeviceUpdateCommTime at up
  rw [isGateway] at up
  rw [if_neg (by decide)] at up
  split at up
  · next index found =>
    have counted : Steady s (s.updateInfra index (failed env.now)) :=
      .quiet rfl rfl rfl
    dsimp only at up
    split at up
    · cases up
      exact counted
    · split at up
      · rw [deviceInfoUpdate_gateway isGateway] at up
        cases up
        exact counted.trans (.setStorage (storageInfraRemove_mesh _ _))
      · cases up
        exact counted
  · split at up
    · cases up
      exact .refl s
    · next index found =>
      have counted : Steady s (s.updateSensor index (failed env.now)) :=
        .quiet rfl rfl rfl
      dsimp only at up
      split at up
      · cases up
        exact counted
      · split at up
        · cases up
          have removed := @Steady.setStorage (s.updateSensor index
            (failed env.now)) _ (storageSensorRemove_mesh _ index)
          unfold reportLostSensor
          exact (counted.trans removed).trans
            ((Steady.sendDeviceUpdated _ _ _).trans
              (.sendDeviceUpdated _ _ _))
        · cases up
          exact counted

end Neighbours

section Handlers

/-- The event neither adds an entry to the mesh table nor takes one away. -/
def KeepsDirectory (env : MeshEnv) (s : MeshPlane) : Event → Prop
  | .joinedNetwork pkt _ =>
      env.accepts pkt.hdr = true → pkt.hdr.status = statusSuccess →
        isDownstreamType pkt.hdr.deviceType = true →
          s.findMesh pkt.deviceId ≠ none ∨
            maxDevices ≤ s.storage.mesh.count ∨
              s.storage.eeprom.outcome ≠ none
  | .deviceUpdated pkt srcId =>
      env.accepts pkt.hdr = true → pkt.hdr.status = statusDeviceRemoved →
        isDownstreamType pkt.hdr.deviceType = true →
          s.findMesh srcId ≠ none → ∀ index,
            s.findMesh pkt.deviceId = some index →
              (s.storage.shiftedMesh index).2 ≠ none
  | .pingDevice pkt _ _ =>
      env.accepts pkt.hdr = true → keepsDevice pkt.hdr.status = false →
        pkt.dstDeviceId = env.deviceId → s.mesh = []
  | _ => True

variable (isGateway : env.deviceType = .gateway)

include isGateway

omit isGateway in
theorem handlePairRequest_steady (pkt : PairRequest) (srcId : UInt16) :
    Steady s (s.handlePairRequest env pkt srcId) := by
  unfold handlePairRequest
  split
  · exact .refl s
  · dsimp only
    split
    · exact .refl s
    · split
      · exact .other nofun
      · split
        · exact .refl s
        · exact .other nofun

theorem handlePairResponse_steady (pkt : PairResponse) (srcId : UInt16)
    (rssi2 : Int16) : Steady s (s.handlePairResponse env pkt srcId rssi2) := by
  unfold handlePairResponse
  rw [isGateway]
  split
  · exact .refl s
  · split
    · exact .refl s
    · dsimp only
      split
      · exact .other nofun
      · exact .other nofun

theorem handlePairConfirm_steady {pkt : PairConfirm} {srcId : UInt16}
    {rssi2 : Int16} (up : s.handlePairConfirm env pkt srcId rssi2 = .ok s') :
    Steady s s' := by
  unfold handlePairConfirm at up
  split at up
  · cases up
    exact .refl s
  · split at up
    · exact admitNeighbour_steady isGateway (fun _ _ => .reply _) up
    · exact admitNeighbour_steady isGateway (fun _ _ => .reply _) up
    · cases up
      exact .refl s
    · cases up
      exact .refl s

theorem handleRepairRequest_steady {pkt : RepairRequest} {srcId : UInt16}
    {rssi2 : Int16}
    (up : s.handleRepairRequest env pkt srcId rssi2 = .ok s') :
    Steady s s' := by
  unfold handleRepairRequest at up
  split at up
  · cases up
    exact .refl s
  · split at up
    · cases up
      exact .other nofun
    · split at up
      · exact admitNeighbour_steady isGateway (fun _ _ => .reply _) up
      · exact admitNeighbour_steady isGateway (fun _ _ => .reply _) up
      · cases up
        exact .refl s
      · cases up
        exact .refl s

theorem handlePairAck_steady {pkt : PairAck} {srcId : UInt16} {rssi2 : Int16}
    (up : s.handlePairAck env pkt srcId rssi2 = .ok s') : Steady s s' := by
  unfold handlePairAck at up
  rw [isGateway] at up
  split at up
  · cases up
    exact .refl s
  · dsimp only at up
    split at up
    · cases up
      exact .other nofun
    · cases up
      exact .other nofun

theorem handleRepairResponse_steady {pkt : RepairResponse} {srcId : UInt16}
    {rssi2 : Int16}
    (up : s.handleRepairResponse env pkt srcId rssi2 = .ok s') :
    Steady s s' := by
  unfold handleRepairResponse at up
  rw [isGateway] at up
  split at up
  · cases up
    exact .refl s
  · dsimp only at up
    split at up
    · cases up
      exact .other nofun
    · split at up
      · cases up
        exact .other nofun
      · cases up
        exact .other nofun

theorem handleJoinedNetwork_steady {pkt : JoinedNetwork} {srcId : UInt16}
    (keeps : s.KeepsDirectory env (.joinedNetwork pkt srcId)) :
    Steady s (s.handleJoinedNetwork env pkt srcId) := by
  unfold handleJoinedNetwork
  split
  · exact .refl s
  · next processed =>
    rw [isGateway]
    dsimp only
    simp only [not_or, Bool.not_eq_true, Bool.not_eq_false', not_not]
      at processed
    have kept := keeps processed.1 processed.2.1 processed.2.2
    have stored : Steady s
        (s.storeJoined pkt (s.checkMeshStorage pkt.deviceId)) := by
      unfold storeJoined
      split
      · next accepted =>
        refine .quiet ?_ rfl rfl
        unfold checkMeshStorage at accepted
        rcases kept with known | full | failed
        · obtain ⟨index, found⟩ := Option.ne_none_iff_exists'.mp known
          rw [found] at accepted
          cases accepted
        · rw [setStorage_storage, Storage.storageMeshAdd, if_pos full]
        · rw [setStorage_storage, Storage.storageMeshAdd, Eeprom.writeMesh,
            Eeprom.status]
          split
          · rfl
          · cases outcome : s.storage.eeprom.outcome with
            | none => exact absurd outcome failed
            | some left => rfl
      · exact .refl s
    exact stored.trans ((pingWhere_steady _ _ _ _ _ _).trans (.reply _))

theorem handlePingDevice_steady {pkt : PingDevice} {srcId : UInt16}
    {rssi2 : Int16} (keeps : s.KeepsDirectory env (.pingDevice pkt srcId rssi2))
    (up : s.handlePingDevice env pkt srcId rssi2 = .ok s') :
    Steady s s' := by
  unfold handlePingDevice at up
  split at up
  · cases up
    exact .refl s
  · next accepted =>
    simp only [Bool.not_eq_true, Bool.not_eq_false'] at accepted
    dsimp only at up
    cases kept : keepsDevice pkt.hdr.status with
    | true =>
        rw [kept] at up
        unfold answerPing at up
        rw [isGateway] at up
        dsimp only [if_true] at up
        split at up
        · cases up
          exact .refl s
        · cases up
          exact .quiet rfl rfl rfl
    | false =>
        have forgot : Steady s ((s.forgetInfra env pkt).forgetSensor env pkt) :=
          (forgetInfra_steady pkt).trans (forgetSensor_steady pkt)
        rw [kept] at up
        unfold answerPing at up
        rw [isGateway] at up
        simp only [Bool.false_eq_true, if_false] at up
        split at up
        · cases up
          exact forgot
        · next own =>
          have empty : s.storage.mesh.live = [] :=
            keeps accepted kept (not_not.mp own)
          cases up
          have zero : s.storage.mesh.count = 0 := by
            rw [RamTable.count, empty]
            rfl
          exact (forgot.trans (.reply _)).trans
            (.quiet (forgot.mesh.trans zero).symm rfl rfl)

theorem handlePingAck_steady {pkt : PingAck} {srcId : UInt16} {rssi2 : Int16}
    (up : s.handlePingAck env pkt srcId rssi2 = .ok s') : Steady s s' := by
  have untracked : Steady s (s.put (.untrack pkt.hdr.trackingId)) :=
    .untrack _
  unfold handlePingAck at up
  rw [isGateway] at up
  split at up
  · cases up
    exact .refl s
  · dsimp only at up
    split at up
    · cases up
      exact untracked.trans (.quiet rfl rfl rfl)
    · split at up
      · obtain ⟨flag, updated⟩ : ∃ flag,
            (s.put (.untrack pkt.hdr.trackingId)).updateInfraStorage env srcId
              pkt.hopNum rssi2 = .ok (s', flag) := by
          rcases result : (s.put (.untrack pkt.hdr.trackingId))
              |>.updateInfraStorage env srcId pkt.hopNum rssi2 with
            last | ⟨after, flag⟩
          · rw [result] at up
            cases up
          · rw [result] at up
            cases up
            exact ⟨flag, rfl⟩
        exact untracked.trans (updateInfraStorage_steady isGateway updated)
      · split at up
        · cases up
          exact untracked.trans (updateSensorStorage_steady _ _)
        · cases up
          exact untracked

omit isGateway in
theorem applyUpdate_steady {pkt : DeviceUpdated} {srcId : UInt16}
    (keeps : pkt.hdr.status = statusDeviceRemoved →
      s.findMesh srcId ≠ none → ∀ index, s.findMesh pkt.deviceId = some index →
        (s.storage.shiftedMesh index).2 ≠ none) :
    Steady s (s.applyUpdate pkt srcId).1 := by
  unfold applyUpdate
  dsimp only
  split
  · exact .refl s
  · next known =>
    have sender : s.findMesh srcId ≠ none := by
      intro missing
      apply known
      rw [checkMeshStorage, missing]
      dsimp only
      split
      · decide
      · decide
    split
    · exact .quiet (updateMeshStorage_count srcId pkt) (by
        unfold updateMeshStorage
        split
        · rfl
        · split
          · rfl
          · split
            · rfl
            · rfl) (by
        unfold updateMeshStorage
        split
        · rfl
        · split
          · rfl
          · split
            · rfl
            · rfl)
    · split
      · next removal =>
        split
        · exact .refl s
        · next index found =>
          have fails := keeps removal sender index found
          have count : (s.storage.storageMeshRemove index).1.mesh.count =
              s.storage.mesh.count := by
            unfold Storage.storageMeshRemove
            split
            · rfl
            · next inside =>
              have below : index < s.storage.mesh.live.length :=
                Nat.lt_of_not_le inside
              split
              · have length := List.length_eraseIdx_of_lt below
                have last : s.storage.mesh.live.getLast?.toList.length = 1 := by
                  rw [List.getLast?_eq_some_getLast
                    (List.ne_nil_of_length_pos (by omega))]
                  rfl
                dsimp only [RamTable.count, RamTable.shift]
                rw [List.length_append, last]
                omega
              · next rom moved =>
                exact absurd (congrArg Prod.snd moved) fails
          split
          · next storage errno removed =>
            rw [removed] at count
            exact .quiet count rfl rfl
          · next storage removed =>
            rw [removed] at count
            exact .quiet count rfl rfl
      · exact .refl s

theorem handleDeviceUpdated_steady {pkt : DeviceUpdated} {srcId : UInt16}
    (keeps : s.KeepsDirectory env (.deviceUpdated pkt srcId)) :
    Steady s (s.handleDeviceUpdated env pkt srcId) := by
  unfold handleDeviceUpdated
  rw [isGateway]
  split
  · exact .refl s
  · next processed =>
    simp only [not_or, Bool.not_eq_true, Bool.not_eq_false'] at processed
    dsimp only
    have applied := @applyUpdate_steady s pkt srcId fun removal known =>
      keeps processed.1 removal processed.2 known
    exact applied.trans (.reply _)

theorem handleDeviceUpdatedAck_steady {pkt : DeviceUpdatedAck}
    {srcId : UInt16} (up : s.handleDeviceUpdatedAck env pkt srcId = .ok s') :
    Steady s s' := by
  unfold handleDeviceUpdatedAck at up
  rw [isGateway] at up
  split at up
  · cases up
    exact .refl s
  · dsimp only at up
    rw [if_pos (.inl (by decide))] at up
    cases up
    exact .untrack _

theorem trackerExhausted_steady {isPing isPairing : Bool} {dstId : UInt16}
    (up : s.trackerExhausted env isPing isPairing dstId = .ok s') :
    Steady s s' := by
  have cleared : Steady s
      (if isPing ∧ dstId = s.tempId then { s with tempId := 0xFFFF } else s) := by
    split
    · exact .quiet rfl rfl rfl
    · exact .refl s
  unfold trackerExhausted at up
  dsimp only at up
  split at up
  · cases up
    exact cleared
  · exact cleared.trans (knownDeviceUpdateCommTime_steady isGateway up)

omit isGateway in
theorem setSerialNumber_steady (serialNum : UInt64) :
    Steady s (s.setSerialNumber env serialNum) := by
  unfold setSerialNumber
  dsimp only
  split
  · exact .quiet rfl rfl rfl
  · exact (Steady.sendDeviceUpdated _ _ _).trans (.quiet rfl rfl rfl)

/-- An event of a gateway that keeps the directory. -/
theorem handle_steady {event : Event} (keeps : s.KeepsDirectory env event)
    (up : s.handle env event = .ok s') : Steady s s' := by
  cases event with
  | pairRequest pkt srcId =>
      cases up
      exact handlePairRequest_steady pkt srcId
  | pairResponse pkt srcId rssi2 =>
      cases up
      exact handlePairResponse_steady isGateway pkt srcId rssi2
  | pairConfirm pkt srcId rssi2 => exact handlePairConfirm_steady isGateway up
  | pairAck pkt srcId rssi2 => exact handlePairAck_steady isGateway up
  | repairRequest pkt srcId rssi2 =>
      exact handleRepairRequest_steady isGateway up
  | repairResponse pkt srcId rssi2 =>
      exact handleRepairResponse_steady isGateway up
  | joinedNetwork pkt srcId =>
      cases up
      exact handleJoinedNetwork_steady isGateway keeps
  | joinedNetworkAck pkt =>
      cases up
      unfold handleJoinedNetworkAck
      split
      · exact .refl s
      · exact .untrack _
  | pingDevice pkt srcId rssi2 =>
      exact handlePingDevice_steady isGateway keeps up
  | pingAck pkt srcId rssi2 => exact handlePingAck_steady isGateway up
  | deviceUpdated pkt srcId =>
      cases up
      exact handleDeviceUpdated_steady isGateway keeps
  | deviceUpdatedAck pkt srcId =>
      exact handleDeviceUpdatedAck_steady isGateway up
  | heard srcId =>
      cases up
      exact isKnownDevice_steady srcId
  | meshTick =>
      cases up
      unfold meshTick meshPairingTick
      rw [isGateway]
      exact .refl s
  | knownDevicesTick =>
      cases up
      unfold knownDevicesTick
      rw [isGateway]
      exact pingWhere_steady _ _ _ _ _ _
  | trackerExhausted isPing isPairing dstId =>
      exact trackerExhausted_steady isGateway up
  | serialNumber serialNum =>
      cases up
      exact setSerialNumber_steady serialNum

end Handlers

section Start

/-- A count that was read has 16 bits. -/
theorem readHeader_fits {α : Type} {rom rom' : Eeprom} {part : Partition α}
    {count : Nat} (read : rom.readHeader part = (rom', some count)) :
    count < 65536 := by
  unfold Eeprom.readHeader at read
  have found := congrArg Prod.snd read
  dsimp only at found
  split at found
  · cases found
  · cases written : part.header with
    | none =>
        rw [written] at found
        cases found
        exact Nat.zero_lt_succ _
    | some header =>
        rw [written] at found
        cases found
        exact header.toNat_lt

/-- The mesh table is loaded with the number of entries in its header. -/
theorem storageInit_count (rom : Eeprom) :
    (Storage.storageInit .gateway rom).1.mesh.count < 65536 := by
  unfold Storage.storageInit
  split
  · exact Nat.zero_lt_succ _
  · split
    · exact Nat.zero_lt_succ _
    · split
      · exact Nat.zero_lt_succ _
      · next meshRom meshCount read =>
        have fits := readHeader_fits read
        dsimp only [Storage.loaded, RamTable.count]
        simp only [if_true, List.length_map, readEntries_length]
        exact fits

/-- The number in the pings is the size of the mesh table. -/
structure Counted (s : MeshPlane) : Prop where
  devices : s.meshDevicesCount.toNat = s.storage.mesh.count
  pings : ∀ ping : PingDevice, .request (.pingDevice ping) ∈ s.out →
    ping.totalDevices.toNat = s.storage.mesh.count

theorem Counted.steady (devices : s.meshDevicesCount.toNat =
    s.storage.mesh.count) (idle : s.out = []) (steady : Steady s s') :
    Counted s' where
  devices := by
    rw [steady.devices, steady.mesh]
    exact devices
  pings := by
    intro ping member
    rcases steady.pings ping member with before | real
    · rw [idle] at before
      cases before
    · rw [real, steady.mesh]
      exact devices

theorem boot_counted (isGateway : env.deviceType = .gateway) {rom : Eeprom}
    (up : boot env rom = .ok s) : Counted s := by
  have small := storageInit_count rom
  unfold boot at up
  rw [isGateway] at up
  rcases started : Storage.storageInit .gateway rom with ⟨storage, ready⟩
  rw [started] at up small
  dsimp only at up small
  cases ready with
  | false => cases up
  | true =>
      rw [deviceInfoUpdate_gateway isGateway] at up
      cases up
      refine .steady ?_ rfl (pingWhere_steady _ _ _ _ _ _)
      dsimp only
      rw [loadedDevices, if_pos isGateway]
      exact UInt16.toNat_ofNat_of_lt' small

end Start

section Run

/-- One occurrence of a board that may also be restarted while it is up. -/
def powerStep (condition : Condition) (occurrence : Occurrence) :
    Except Empty Condition :=
  match occurrence.event with
  | some _ => .ok (next condition occurrence)
  | none =>
      .ok (boot occurrence.env
        ((plane condition).begin occurrence.failures).storage.eeprom)

/-- On a gateway, no event changes the number of entries in the mesh table. -/
def KeepsCount (condition : Condition) (occurrence : Occurrence) : Prop :=
  occurrence.env.deviceType = .gateway ∧
    ∀ s event, condition = .ok s → occurrence.event = some event →
      (s.begin occurrence.failures).KeepsDirectory occurrence.env event

/-- The board is down, or it counts its devices right. -/
def AllCounted (condition : Condition) : Prop :=
  ∀ s, condition = .ok s → Counted s

theorem powerStep_counted {condition condition' : Condition}
    {occurrence : Occurrence} (counted : AllCounted condition)
    (keeps : KeepsCount condition occurrence)
    (stepped : powerStep condition occurrence = .ok condition') :
    AllCounted condition' := by
  obtain ⟨isGateway, keeps⟩ := keeps
  intro s' up
  unfold powerStep at stepped
  cases received : occurrence.event with
  | none =>
      rw [received] at stepped
      cases stepped
      exact boot_counted isGateway up
  | some event =>
      rw [received] at stepped
      cases stepped
      unfold next at up
      rw [received] at up
      cases condition with
      | error last => cases up
      | ok s =>
          have before := counted s rfl
          have steady := handle_steady isGateway (keeps s event rfl received) up
          have begun : (s.begin occurrence.failures).meshDevicesCount.toNat =
              (s.begin occurrence.failures).storage.mesh.count :=
            before.devices
          exact .steady begun rfl steady

/-- A gateway that admits a device has room for it. -/
theorem handlePairRequest_room {pkt : PairRequest} {srcId : UInt16}
    {response : PairResponse} (idle : s.out = [])
    (sent : .reply (.pairResponse response) ∈
      (s.handlePairRequest env pkt srcId).out)
    (success : response.hdr.status = statusSuccess) :
    s.meshDevicesCount.toNat < maxDevices := by
  unfold handlePairRequest at sent
  split at sent
  · rw [idle] at sent
    cases sent
  · dsimp only at sent
    split at sent
    · rw [idle] at sent
      cases sent
    · split at sent
      · have only : MeshAction.reply (.pairResponse response) ∈
            s.out ++ [_] := sent
        rw [idle, List.nil_append, List.mem_singleton] at only
        cases only
        cases success
      · split at sent
        · rw [idle] at sent
          cases sent
        · have only : MeshAction.reply (.pairResponse response) ∈
              s.out ++ [_] := sent
          rw [idle, List.nil_append, List.mem_singleton] at only
          cases only
          by_contra full
          dsimp only [MeshEnv.replyHeader, MeshEnv.requestHeader] at success
          split at success
          · cases success
          · next kept => exact kept ⟨success, Nat.not_lt.mp full⟩

/-- While no device joins or leaves, the number beside the mesh table is its
size: it is the one in the pings, and a device is admitted only if its
`JOINED_NETWORK` can be stored. -/
theorem admission_follows {off : MeshPlane}
    (reach : Trace.Reach powerStep KeepsCount (.error off) (.ok s)) :
    s.meshDevicesCount.toNat = s.storage.mesh.count ∧
      (∀ ping : PingDevice, .request (.pingDevice ping) ∈ s.out →
        ping.totalDevices.toNat = s.storage.mesh.count) ∧
      ∀ (env : MeshEnv) (failures : List (Option Leftover))
          (pkt : PairRequest) (srcId : UInt16) (response : PairResponse),
        .reply (.pairResponse response) ∈
            ((s.begin failures).handlePairRequest env pkt srcId).out →
          response.hdr.status = statusSuccess →
            s.storage.mesh.count < maxDevices ∧
              ∀ deviceId, s.findMesh deviceId = none →
                s.checkMeshStorage deviceId = statusSuccess := by
  have counted : AllCounted (.ok s) := by
    apply reach.invariant
    · exact fun _ up => by cases up
    · exact fun _ _ _ => powerStep_counted
  obtain ⟨devices, pings⟩ := counted s rfl
  refine ⟨devices, pings, fun env failures pkt srcId response sent success => ?_⟩
  have room := handlePairRequest_room rfl sent success
  have count : s.storage.mesh.count < maxDevices := devices ▸ room
  refine ⟨count, fun deviceId missing => ?_⟩
  rw [checkMeshStorage, missing]
  exact if_neg (Nat.not_le.mpr count)

section Samples

def rootBoard : MeshEnv where
  deviceType := .gateway
  deviceId := 1

/-- The gateway starts. -/
def rootStarts : Occurrence where
  env := rootBoard
  event := none

/-- An anchor has joined the network. -/
def anchorJoins : Occurrence where
  env := rootBoard
  event := some (.joinedNetwork
    { hdr :=
        { deviceType := DeviceType.anchor.code
          deviceId := 1
          status := statusSuccess }
      deviceType := DeviceType.anchor.code
      deviceId := 5
      serialNum := 5
      version := firmwareVersion
      connectedDeviceId := 1
      hopNum := 1
      sensorCount := 0 }
    5)

/-- The gateway after that, with the anchor in its EEPROM. -/
def rootWithAnchor : MeshPlane :=
  plane (next (boot rootBoard {}) anchorJoins)

/-- Another anchor wants to pair. -/
def newcomerAsks : PairRequest where
  hdr := { deviceType := DeviceType.anchor.code }
  randomNum := 7
  hash := 34930689

/-- What it answers: there is room. -/
def roomLeft : PairResponse where
  hdr := rootBoard.replyHeader 6 packetPriorityHigh 0 statusSuccess
  hopNum := 0

/-- The gateway restarts with one device stored, hears the newcomer, and would
admit it once more. -/
theorem admission_follows_started :
    Trace.Ends powerStep (.error rootWithAnchor)
      [rootStarts,
        { env := rootBoard, event := some (.pairRequest newcomerAsks 6) }]
      fun condition =>
        (plane condition).storage.mesh.count = 1 ∧
          (plane condition).meshDevicesCount.toNat =
            (plane condition).storage.mesh.count ∧
          (plane condition).checkMeshStorage 6 = statusSuccess := by
  obtain ⟨condition, executed, isUp, one, missing, sent⟩ :
      Trace.Ends powerStep (.error rootWithAnchor)
        [rootStarts,
          { env := rootBoard, event := some (.pairRequest newcomerAsks 6) }]
        fun condition => condition.isOk = true ∧
          (plane condition).storage.mesh.count = 1 ∧
          (plane condition).findMesh 6 = none ∧
          MeshAction.reply (.pairResponse roomLeft) ∈
            (((plane condition).begin []).handlePairRequest rootBoard
              newcomerAsks 6).out := by
    decide +kernel
  have keeps : ∀ occurrence ∈ [rootStarts,
      { env := rootBoard, event := some (.pairRequest newcomerAsks 6) }],
      ∀ before, KeepsCount before occurrence := by
    intro occurrence member before
    simp only [List.mem_cons, List.not_mem_nil, or_false] at member
    rcases member with rfl | rfl
    · exact ⟨rfl, fun s event _ none_ => by cases none_⟩
    · refine ⟨rfl, fun s event _ received => ?_⟩
      cases received
      trivial
  have reach := Trace.Reach.of_run keeps executed
  rw [ok_plane isUp] at reach
  obtain ⟨counted, -, admits⟩ := admission_follows reach
  obtain ⟨-, stored⟩ := admits rootBoard [] newcomerAsks 6 roomLeft sent rfl
  exact ⟨condition, executed, one, counted, stored 6 missing⟩

/-- An anchor joins: the mesh table has one entry, and the number beside it is
still that of the start. -/
theorem admission_outdated :
    ¬ ∀ s, Trace.Reach powerStep
        (fun _ occurrence => occurrence.env.deviceType = .gateway ∧
          occurrence.failures = []) (.error {}) (.ok s) →
      s.meshDevicesCount.toNat = s.storage.mesh.count := by
  intro always
  obtain ⟨condition, run, isUp, count, devices⟩ :
      Trace.Ends powerStep (.error {}) [rootStarts, anchorJoins]
        fun condition => condition.isOk = true ∧
          (plane condition).storage.mesh.count = 1 ∧
            (plane condition).meshDevicesCount = 0 := by
    decide +kernel
  have reach := @Trace.Reach.of_run _ _ _ _
    (fun _ occurrence => occurrence.env.deviceType = .gateway ∧
      occurrence.failures = []) _ _ _
    (fun occurrence member _ => by
      simp only [List.mem_cons, List.not_mem_nil, or_false] at member
      rcases member with rfl | rfl
      · exact ⟨rfl, rfl⟩
      · exact ⟨rfl, rfl⟩) run
  rw [ok_plane isUp] at reach
  have same := always _ reach
  rw [count, devices] at same
  exact absurd same (by decide)

end Samples

end Run

end MeshPlane

end DectMesh
