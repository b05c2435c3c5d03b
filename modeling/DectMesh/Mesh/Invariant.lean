import DectMesh.Mesh.Neighbours

/-!
# Valid tables in every run

Each handler only makes changes of `TableMove`, except that an anchor stores a
pairing sensor without a look at the table it stores it in.
-/

namespace DectMesh

namespace MeshPlane

variable {env : MeshEnv} {s s' : MeshPlane}

/-- A sensor acknowledges a pairing with an anchor that has it among its
infrastructure neighbours already, but not among its sensors. -/
def StoresTwice
    (env : MeshEnv) (s : MeshPlane) (pkt : PairAck) (srcId : UInt16) : Prop :=
  env.deviceType = .anchor ∧ env.accepts pkt.hdr = true ∧
    (pkt.hdr.status = statusSuccess ∨
      pkt.hdr.status = statusAlreadyExists) ∧
        pkt.hdr.deviceType = DeviceType.sensor.code ∧
          s.findSensor srcId = none ∧ s.storage.sensors.count < maxSensors ∧
            s.findInfra srcId ≠ none ∧ s.storage.infra.count < maxAnchors

/-- The event does not store a neighbour twice. -/
def KeepsTables (env : MeshEnv) (s : MeshPlane) : Event → Prop
  | .pairAck pkt srcId _ => ¬ s.StoresTwice env pkt srcId
  | _ => True

section Pairing

theorem handlePairRequest_storage (pkt : PairRequest) (srcId : UInt16) :
    (s.handlePairRequest env pkt srcId).storage = s.storage := by
  unfold handlePairRequest
  split
  · rfl
  · simp only
    split
    · rfl
    · split
      · rfl
      · split
        · rfl
        · rfl

theorem addCandidate_storage (candidate : Candidate) :
    (s.addCandidate env candidate).storage = s.storage := by
  by_cases collecting : s.collecting = true
  · simp only [addCandidate, collecting, if_true]
    split
    · split
      · rfl
      · rfl
    · rfl
  · simp only [addCandidate, collecting, Bool.false_eq_true, if_false]
    split
    · split
      · rfl
      · rfl
    · rfl

theorem handlePairResponse_storage
    (pkt : PairResponse) (srcId : UInt16) (rssi2 : Int16) :
    (s.handlePairResponse env pkt srcId rssi2).storage = s.storage := by
  unfold handlePairResponse
  split
  · rfl
  · split
    · rfl
    · simp only
      split
      · rfl
      · split
        · rfl
        · rfl
        · split
          · rfl
          · exact addCandidate_storage _
        · split
          · rfl
          · split
            · rfl
            · exact addCandidate_storage _

theorem admitNeighbour_reaches
    {deviceType : UInt8} {srcId version : UInt16} {wanted : Bool}
    {entry : InfraRecord} {answer : MeshPlane → UInt8 → MeshPlane}
    (id : entry.deviceId = srcId)
    (answers : ∀ s status, (answer s status).storage = s.storage)
    (notSensor : env.deviceType ≠ .sensor) :
    Reaches env.deviceType s
      (s.admitNeighbour env deviceType srcId version wanted entry answer) := by
  unfold admitNeighbour
  split
  · simp only
    split
    · next accepted =>
      have missing := (checkInfraStorage_success accepted.1).1
      have added : Reaches env.deviceType s
          ((s.addInfra env entry).map Prod.fst) :=
        addInfra_reaches (id ▸ missing) fun isSensor =>
          absurd isSensor notSensor
      split
      · next s' down =>
        rw [down] at added
        exact added
      · next s' failed =>
        rw [failed] at added
        exact added
      · next s' stored =>
        rw [stored] at added
        exact .after added (.ok (answers _ _))
    · exact .ok (answers _ _)
  · split
    · simp only
      split
      · next accepted =>
        have missing := checkSensorStorage_success accepted
        have added : s.storage.Moves env.deviceType
            (s.addSensor srcId version).1.storage :=
          addSensor_moves missing
        split
        · next s' failed =>
          rw [failed] at added
          exact added
        · next s' stored =>
          rw [stored] at added
          exact .after added (.ok (answers _ _))
      · exact .ok (answers _ _)
    · exact .ok rfl

theorem handlePairConfirm_reaches
    (pkt : PairConfirm) (srcId : UInt16) (rssi2 : Int16) :
    Reaches env.deviceType s (s.handlePairConfirm env pkt srcId rssi2) := by
  unfold handlePairConfirm
  split
  · exact .ok rfl
  · split
    · next isGateway =>
      exact admitNeighbour_reaches rfl (fun _ _ => rfl)
        (by rw [isGateway]; simp)
    · next isAnchor =>
      exact admitNeighbour_reaches rfl (fun _ _ => rfl)
        (by rw [isAnchor]; simp)
    · exact .ok rfl
    · exact .ok rfl

theorem handleRepairRequest_reaches
    (pkt : RepairRequest) (srcId : UInt16) (rssi2 : Int16) :
    Reaches env.deviceType s (s.handleRepairRequest env pkt srcId rssi2) := by
  unfold handleRepairRequest
  split
  · exact .ok rfl
  · split
    · exact .ok rfl
    · split
      · next isGateway =>
        exact admitNeighbour_reaches rfl (fun _ _ => rfl)
          (by rw [isGateway]; simp)
      · next isAnchor =>
        exact admitNeighbour_reaches rfl (fun _ _ => rfl)
          (by rw [isAnchor]; simp)
      · exact .ok rfl
      · exact .ok rfl

theorem buildJoinedNetwork_reaches
    {role : DeviceType} {pkt : PairAck} {srcId : UInt16} {rssi2 : Int16}
    (missing : s.findInfra srcId = none)
    (single : role = .sensor → s.infra = []) :
    Reaches role s (s.buildJoinedNetwork env pkt srcId rssi2) := by
  have added : Reaches role s
      ((s.addInfra env (pairedInfra pkt srcId rssi2)).map Prod.fst) :=
    addInfra_reaches missing single
  unfold buildJoinedNetwork
  split
  · next s' down =>
    rw [down] at added
    exact added
  · next s' failed =>
    rw [failed] at added
    exact added
  · next s' stored =>
    rw [stored] at added
    refine .after added (.ok ?_)
    by_cases isSensor : env.deviceType = .sensor
    · simp only [isSensor, if_true]
      split
      · rfl
      · rfl
    · simp only [isSensor, if_false]
      split
      · rfl
      · rfl

/-- A neighbour that is not stored twice is new, or the table is full. -/
theorem pairAck_fresh
    {pkt : PairAck} {srcId : UInt16} (once : ¬ s.StoresTwice env pkt srcId)
    (isAnchor : env.deviceType = .anchor)
    (accepted : env.accepts pkt.hdr = true)
    (answered : pkt.hdr.status = statusSuccess ∨
      pkt.hdr.status = statusAlreadyExists)
    (success : s.checkStorage (isUpstreamType pkt.hdr.deviceType) srcId =
      statusSuccess) :
    s.findInfra srcId = none ∨ maxAnchors ≤ s.storage.infra.count := by
  by_cases upstream : isUpstreamType pkt.hdr.deviceType = true
  · rw [checkStorage, if_pos upstream] at success
    exact .inl (checkInfraStorage_success success).1
  · rw [checkStorage, if_neg upstream] at success
    have known : knownDeviceType pkt.hdr.deviceType = true := by
      simp only [MeshEnv.accepts, decide_eq_true_eq] at accepted
      exact accepted.2
    have isSensor : pkt.hdr.deviceType = DeviceType.sensor.code := by
      simp only [knownDeviceType, isUpstreamType, decide_eq_true_eq] at *
      tauto
    have missing := checkSensorStorage_success success
    have room : s.storage.sensors.count < maxSensors := by
      refine Nat.lt_of_not_le fun full => ?_
      simp only [checkSensorStorage, missing, if_pos full] at success
      cases success
    by_contra stored
    simp only [not_or, Nat.not_le] at stored
    exact once ⟨isAnchor, accepted, answered, isSensor, missing, room,
      stored.1, stored.2⟩

theorem addInfra_full
    {entry : InfraRecord} (full : maxAnchors ≤ s.storage.infra.count) :
    s.addInfra env entry = .ok (s, false) := by
  rw [addInfra, Storage.storageInfraAdd, if_pos full]
  rfl

theorem buildJoinedNetwork_full
    {pkt : PairAck} {srcId : UInt16} {rssi2 : Int16}
    (full : maxAnchors ≤ s.storage.infra.count) :
    s.buildJoinedNetwork env pkt srcId rssi2 = .ok s := by
  rw [buildJoinedNetwork, addInfra_full full]

theorem handlePairAck_reaches
    {pkt : PairAck} {srcId : UInt16} (rssi2 : Int16)
    (once : ¬ s.StoresTwice env pkt srcId) :
    Reaches env.deviceType s (s.handlePairAck env pkt srcId rssi2) := by
  unfold handlePairAck
  split
  · exact .ok rfl
  · next accepted =>
    simp only [Bool.not_eq_true, Bool.not_eq_false'] at accepted
    simp only
    split
    · exact .ok rfl
    · next answered =>
      have unstacked : Reaches env.deviceType
          (s.put (.untrack pkt.hdr.trackingId)) = Reaches env.deviceType s :=
        rfl
      rw [← unstacked]
      split
      · exact .ok rfl
      · exact .ok rfl
      · next isAnchor =>
        split
        · next success =>
          have fresh := pairAck_fresh once isAnchor
            (by simpa using accepted) (by tauto) success
          rcases fresh with missing | full
          · refine buildJoinedNetwork_reaches missing fun isSensor => ?_
            rw [isAnchor] at isSensor
            cases isSensor
          · have kept := @buildJoinedNetwork_full env
              (s.put (.untrack pkt.hdr.trackingId)) pkt srcId rssi2 full
            rw [kept]
            exact .ok rfl
        · exact .ok rfl
      · next isSensor =>
        split
        · next accepted =>
          have empty := checkInfraStorage_single accepted.2
          apply buildJoinedNetwork_reaches
          · simp only [findInfra, empty, List.findIdx?_nil]
          · exact fun _ => empty
        · exact .ok rfl

theorem handleRepairResponse_reaches
    (pkt : RepairResponse) (srcId : UInt16) (rssi2 : Int16) :
    Reaches env.deviceType s
      (s.handleRepairResponse env pkt srcId rssi2) := by
  unfold handleRepairResponse
  split
  · exact .ok rfl
  · simp only
    have unstacked : Reaches env.deviceType
        (s.put (.untrack pkt.hdr.trackingId)) = Reaches env.deviceType s := rfl
    rw [← unstacked]
    split
    · exact .ok rfl
    · split
      · exact .ok rfl
      · split
        · exact .ok rfl
        · exact .ok rfl
        · next isAnchor =>
          split
          · exact dropInfra_reaches _
          · split
            · exact updateInfraStorage_reaches _ _ _
            · split
              · next success =>
                exact addInfra_reaches (checkInfraStorage_success success).1
                  fun isSensor => by rw [isAnchor] at isSensor; cases isSensor
              · exact .ok rfl
        · next isSensor =>
          split
          · exact updateInfraStorage_reaches _ _ _
          · split
            · next success =>
              have empty := checkInfraStorage_single success
              apply Storage.storageInfraAdd_moves
              · simp [Storage.tables, show s.storage.infra.live = [] from empty]
              · intro _
                simp [Storage.tables, show s.storage.infra.live = [] from empty]
            · exact .ok rfl

theorem selectAndConfirm_storage (idx : Int) :
    (s.selectAndConfirm env idx).storage = s.storage := by
  unfold selectAndConfirm
  simp only
  split
  · rfl
  · split
    · rfl
    · split
      · rfl
      · rfl

theorem confirmNext_storage :
    (s.confirmNext env).storage = s.storage := by
  unfold confirmNext
  split
  · exact selectAndConfirm_storage _
  · rfl

theorem closeCollection_storage :
    (s.closeCollection env).storage = s.storage := by
  unfold closeCollection
  split
  · simp only
    split
    · rfl
    · rfl
  · rfl

theorem meshPairingTick_storage :
    (s.meshPairingTick env).storage = s.storage := by
  unfold meshPairingTick
  split
  · rfl
  · rw [closeCollection_storage, confirmNext_storage]

end Pairing

section Session

variable {role : DeviceType}

theorem handleJoinedNetwork_moves (pkt : JoinedNetwork) (srcId : UInt16) :
    s.storage.Moves role (s.handleJoinedNetwork env pkt srcId).storage := by
  unfold handleJoinedNetwork
  split
  · exact .refl _
  · split
    · simp only
      have stored : s.storage.Moves role
          (s.storeJoined pkt (s.checkMeshStorage pkt.deviceId)).storage := by
        unfold storeJoined
        split
        · next success =>
          exact Storage.storageMeshAdd_moves
            (findMesh_none (checkMeshStorage_success success).1)
        · exact .refl _
      exact stored.trans (pingKnownDevices_moves _ _)
    · exact .refl _
    · exact .refl _
    · exact .refl _

theorem forget_moves (pkt : PingDevice) :
    s.storage.Moves role
      ((s.forgetInfra env pkt).forgetSensor env pkt).storage := by
  have first : s.storage.Moves role (s.forgetInfra env pkt).storage := by
    unfold forgetInfra
    split
    · exact .refl _
    · exact Storage.storageInfraRemove_moves _ _
  refine first.trans ?_
  unfold forgetSensor
  split
  · exact .refl _
  · exact Storage.storageSensorRemove_moves _ _

theorem refreshInfra_reaches
    (srcId : UInt16) (hopNum : UInt8) (rssi2 : Int16) :
    Reaches role s (s.refreshInfra env srcId hopNum rssi2) := by
  have updated : Reaches role s
      ((s.updateInfraStorage env srcId hopNum rssi2).map Prod.fst) :=
    updateInfraStorage_reaches _ _ _
  unfold refreshInfra
  split
  · next s' down =>
    rw [down] at updated
    exact updated
  · next s' changed =>
    rw [changed] at updated
    exact updated
  · next s' kept =>
    rw [kept] at updated
    exact updated

theorem reportSensorHolder_storage (pkt : PingDevice) :
    (s.reportSensorHolder env pkt).storage = s.storage := by
  unfold reportSensorHolder
  split
  · rfl
  · rfl

theorem answerPing_reaches
    (pkt : PingDevice) (srcId : UInt16) (rssi2 : Int16) :
    Reaches role s (s.answerPing env pkt srcId rssi2) := by
  unfold answerPing
  split
  · exact .ok rfl
  · exact .ok rfl
  · have held : (s.reportSensorHolder env pkt).storage = s.storage :=
      reportSensorHolder_storage pkt
    refine .same held ?_
    simp only
    split
    · exact .ok rfl
    · have refreshed : Reaches role (s.reportSensorHolder env pkt)
          ((s.reportSensorHolder env pkt).refreshInfra env srcId pkt.hopNum
            rssi2) :=
        refreshInfra_reaches _ _ _
      split
      · next s' down =>
        rw [down] at refreshed
        exact refreshed
      · next s' up =>
        rw [up] at refreshed
        split
        · exact refreshed
        · have pinged : (s'.adoptNetwork env pkt).storage.Moves role
              ((s'.adoptNetwork env pkt).pingKnownDevices env
                pkt.dstDeviceId pkt.hdr.status).storage :=
            pingKnownDevices_moves _ _
          exact .after refreshed pinged
  · split
    · exact .ok rfl
    · have updated : Reaches role s
          (((s.setMeshTime env pkt.timestamp).updateInfraStorage env srcId
            pkt.hopNum rssi2).map Prod.fst) :=
        .same rfl (updateInfraStorage_reaches _ _ _)
      split
      · next s' down =>
        rw [down] at updated
        exact updated
      · next s' changed up =>
        rw [up] at updated
        exact updated

theorem handlePingDevice_reaches
    (pkt : PingDevice) (srcId : UInt16) (rssi2 : Int16) :
    Reaches role s (s.handlePingDevice env pkt srcId rssi2) := by
  unfold handlePingDevice
  split
  · exact .ok rfl
  · by_cases keeps : keepsDevice pkt.hdr.status = true
    · simp only [keeps, if_true]
      split
      · exact answerPing_reaches _ _ _
      · exact .same rfl (answerPing_reaches _ _ _)
    · simp only [keeps, Bool.false_eq_true, if_false]
      have forgotten : s.storage.Moves role
          ((s.forgetInfra env pkt).forgetSensor env pkt).storage :=
        forget_moves pkt
      refine .after forgotten ?_
      split
      · exact answerPing_reaches _ _ _
      · exact Storage.factoryReset_moves _

theorem handlePingAck_reaches
    (pkt : PingAck) (srcId : UInt16) (rssi2 : Int16) :
    Reaches role s (s.handlePingAck env pkt srcId rssi2) := by
  unfold handlePingAck
  split
  · exact .ok rfl
  · have untracked :
        (s.put (.untrack pkt.hdr.trackingId)).storage = s.storage := rfl
    refine .same untracked ?_
    simp only
    split
    · exact .ok rfl
    · split
      · split
        · exact updateInfraStorage_reaches _ _ _
        · split
          · exact updateSensorStorage_moves _ _
          · exact .ok rfl
      · split
        · exact refreshInfra_reaches _ _ _
        · split
          · exact updateSensorStorage_moves _ _
          · exact .ok rfl
      · exact .ok rfl
      · exact .ok rfl

theorem applyUpdate_moves
    (reliable : s.storage.eeprom.Reliable) (pkt : DeviceUpdated)
    (srcId : UInt16) :
    s.storage.Moves role (s.applyUpdate pkt srcId).1.storage := by
  unfold applyUpdate
  simp only
  split
  · exact .refl _
  · split
    · exact updateMeshStorage_moves _ _
    · split
      · split
        · exact .refl _
        · next index found =>
          have removed : s.storage.Moves role
              (s.storage.storageMeshRemove index).1 :=
            Storage.storageMeshRemove_moves reliable index
          split
          · next storage errno outcome =>
            rw [outcome] at removed
            exact removed
          · next storage outcome =>
            rw [outcome] at removed
            exact removed
      · exact .refl _

theorem forwardUpdate_storage (pkt : DeviceUpdated) (srcId : UInt16) :
    (s.forwardUpdate env pkt srcId).1.storage = s.storage := by
  unfold forwardUpdate
  split
  · rfl
  · split
    · rfl
    · rfl

theorem handleDeviceUpdated_moves
    (reliable : s.storage.eeprom.Reliable) (pkt : DeviceUpdated)
    (srcId : UInt16) :
    s.storage.Moves role (s.handleDeviceUpdated env pkt srcId).storage := by
  unfold handleDeviceUpdated
  split
  · exact .refl _
  · split
    · exact applyUpdate_moves reliable pkt srcId
    · have forwarded :
          (s.forwardUpdate env pkt srcId).1.storage = s.storage :=
        forwardUpdate_storage pkt srcId
      exact forwarded ▸ .refl _
    · exact .refl _
    · exact .refl _

theorem handleDeviceUpdatedAck_reaches
    (pkt : DeviceUpdatedAck) (srcId : UInt16) :
    Reaches role s (s.handleDeviceUpdatedAck env pkt srcId) := by
  unfold handleDeviceUpdatedAck
  split
  · exact .ok rfl
  · have untracked :
        (s.put (.untrack pkt.hdr.trackingId)).storage = s.storage := rfl
    refine .same untracked ?_
    simp only
    split
    · exact .ok rfl
    · split
      · exact .ok rfl
      · exact dropInfra_reaches _

theorem meshTick_moves :
    s.storage.Moves role (s.meshTick env).storage := by
  unfold meshTick
  have paired : s.storage.Moves role (s.meshPairingTick env).storage := by
    rw [meshPairingTick_storage]
    exact .refl _
  simp only
  split
  · exact paired
  · have pinged : s.storage.Moves role
        (pingWhere env
          (fun device =>
            2 * pingTimeoutMs < env.now - device.lastCommMs ∧
              !device.isPingPacketSent)
          0 statusPingDevice (s.meshPairingTick env).infra 0
          (s.meshPairingTick env)).storage :=
      paired.trans (pingWhere_moves _ _ _ _ _ _)
    split
    · exact pinged
    · exact pinged

theorem trackerExhausted_reaches
    (isPing isPairing : Bool) (dstId : UInt16) :
    Reaches role s (s.trackerExhausted env isPing isPairing dstId) := by
  have cleared :
      (if isPing ∧ dstId = s.tempId then
        { s with tempId := 0xFFFF }
      else
        s).storage = s.storage := by
    split
    · rfl
    · rfl
  unfold trackerExhausted
  refine .same cleared ?_
  by_cases pairing : isPairing = true
  · simp only [pairing, if_true]
    exact .ok rfl
  · simp only [pairing, Bool.false_eq_true, if_false]
    exact knownDeviceUpdateCommTime_reaches _

theorem setSerialNumber_storage (serialNum : UInt64) :
    (s.setSerialNumber env serialNum).storage = s.storage := by
  unfold setSerialNumber
  simp only
  split
  · rfl
  · rfl

end Session

/-- Every event makes changes of `TableMove` only. -/
theorem handle_reaches
    (reliable : s.storage.eeprom.Reliable) {event : Event}
    (keeps : s.KeepsTables env event) :
    Reaches env.deviceType s (s.handle env event) := by
  cases event with
  | pairRequest pkt srcId => exact .ok (handlePairRequest_storage pkt srcId)
  | pairResponse pkt srcId rssi2 =>
      exact .ok (handlePairResponse_storage pkt srcId rssi2)
  | pairConfirm pkt srcId rssi2 =>
      exact handlePairConfirm_reaches pkt srcId rssi2
  | pairAck pkt srcId rssi2 => exact handlePairAck_reaches rssi2 keeps
  | repairRequest pkt srcId rssi2 =>
      exact handleRepairRequest_reaches pkt srcId rssi2
  | repairResponse pkt srcId rssi2 =>
      exact handleRepairResponse_reaches pkt srcId rssi2
  | joinedNetwork pkt srcId => exact handleJoinedNetwork_moves pkt srcId
  | joinedNetworkAck pkt =>
      refine .ok ?_
      unfold handleJoinedNetworkAck
      split
      · rfl
      · rfl
  | pingDevice pkt srcId rssi2 => exact handlePingDevice_reaches pkt srcId rssi2
  | pingAck pkt srcId rssi2 => exact handlePingAck_reaches pkt srcId rssi2
  | deviceUpdated pkt srcId =>
      exact handleDeviceUpdated_moves reliable pkt srcId
  | deviceUpdatedAck pkt srcId =>
      exact handleDeviceUpdatedAck_reaches pkt srcId
  | heard srcId => exact isKnownDevice_moves srcId
  | meshTick => exact meshTick_moves
  | knownDevicesTick => exact knownDevicesTick_moves
  | trackerExhausted isPing isPairing dstId =>
      exact trackerExhausted_reaches isPing isPairing dstId
  | serialNumber serialNum => exact .ok (setSerialNumber_storage serialNum)

section Boot

/-- A board starts without entries from a cleared EEPROM. -/
theorem storageInit_cleared
    {role : DeviceType} {rom : Eeprom} (reliable : rom.Reliable)
    (cleared : rom.Cleared) :
    (Storage.storageInit role rom).1.tables = ⟨[], [], []⟩ ∧
      (Storage.storageInit role rom).1.eeprom.Reliable ∧
        (Storage.storageInit role rom).2 = true := by
  have second := reliable.advance
  have third := second.advance
  have infraHeader : rom.infra.header = some 0 := cleared.infra
  have sensorHeader : rom.advance.sensors.header = some 0 := cleared.sensors
  have meshHeader : rom.advance.advance.mesh.header = some 0 := cleared.mesh
  simp only [Storage.storageInit, Eeprom.readHeader, reliable.outcome,
    second.outcome, third.outcome, infraHeader, sensorHeader, meshHeader]
  refine ⟨?_, ?_, trivial⟩
  · simp [Storage.tables, Storage.loaded, Eeprom.readEntries]
  · simpa [Eeprom.readEntries] using third.advance

theorem emptyTables_valid (role : DeviceType) :
    ValidTables role ⟨[], [], []⟩ where
  infraCount := Nat.zero_le _
  sensorCount := Nat.zero_le _
  meshCount := Nat.zero_le _
  infraIds := .nil
  sensorIds := .nil
  meshIds := .nil
  sorted := .nil
  single := fun _ => Nat.zero_le _

/-- Valid tables; a board that is down will start without entries. -/
def Sound (role : DeviceType) (condition : Condition) : Prop :=
  ValidTables role (plane condition).storage.tables ∧
    ∀ s, condition = .error s → s.storage.eeprom.Cleared

theorem Reaches.sound
    {role : DeviceType} {result : Except MeshPlane MeshPlane}
    (reaches : Reaches role s result)
    (valid : ValidTables role s.storage.tables)
    (reliable : s.storage.eeprom.Reliable) : Sound role result := by
  match result, reaches with
  | .ok s', moves =>
      exact ⟨valid.moves moves.tables, fun _ same => by cases same⟩
  | .error s', ⟨moves, cleared⟩ =>
      refine ⟨valid.moves moves.tables, fun s'' same => ?_⟩
      rw [← Except.error.inj same]
      exact cleared reliable

theorem boot_sound
    {rom : Eeprom} (reliable : rom.Reliable) (cleared : rom.Cleared) :
    Sound env.deviceType (boot env rom) := by
  obtain ⟨empty, kept, ready⟩ :=
    @storageInit_cleared env.deviceType rom reliable cleared
  rcases started : Storage.storageInit env.deviceType rom with
    ⟨storage, isReady⟩
  rw [started] at empty kept ready
  have valid : ValidTables env.deviceType storage.tables :=
    empty ▸ emptyTables_valid env.deviceType
  simp only [boot, started, show isReady = true from ready, if_true]
  have updated := @deviceInfoUpdate_reaches env
    { storage := storage
      hopNum := if env.deviceType = .gateway then 0 else 0xFF
      serialNumber := env.deviceId.toUInt64
      meshDevicesCount := loadedDevices env storage } env.deviceType
  split
  · next s' down =>
    rw [down] at updated
    exact updated.sound valid kept
  · next s' up =>
    rw [up] at updated
    have ended {s'' : MeshPlane}
        (moves : s'.storage.Moves env.deviceType s''.storage) :
        Sound env.deviceType (.ok s'') :=
      ⟨valid.moves (updated.tables.trans moves.tables),
        fun _ same => by cases same⟩
    split
    · have pinged : ({ s' with
            meshTimeOffset := 0 - UInt64.ofNat env.now } :
            MeshPlane).storage.Moves env.deviceType
          (({ s' with meshTimeOffset := 0 - UInt64.ofNat env.now } :
            MeshPlane).pingKnownDevices env 0 statusSuccess).storage :=
        pingKnownDevices_moves _ _
      exact ended pinged
    · split
      · exact ended (.refl _)
      · exact ended (.refl _)
    · split
      · exact ended (.refl _)
      · exact ended (.refl _)
    · exact ended (.refl _)

end Boot

section Run

/-- One occurrence, as the step of a run. -/
def meshStep (condition : Condition) (occurrence : Occurrence) :
    Except Empty Condition :=
  .ok (next condition occurrence)

/-- On a board with this role and a working EEPROM, no event stores a
neighbour twice. -/
def StoresOnce
    (role : DeviceType) (deviceId : UInt16) (condition : Condition)
    (occurrence : Occurrence) : Prop :=
  occurrence.env.deviceType = role ∧ occurrence.env.deviceId = deviceId ∧
    occurrence.failures = [] ∧
      ∀ s event, condition = .ok s → occurrence.event = some event →
        s.KeepsTables occurrence.env event

theorem next_sound
    {role : DeviceType} {deviceId : UInt16} {condition : Condition}
    {occurrence : Occurrence} (sound : Sound role condition)
    (once : StoresOnce role deviceId condition occurrence) :
    Sound role (next condition occurrence) := by
  obtain ⟨rfl, -, working, keeps⟩ := once
  obtain ⟨valid, down⟩ := sound
  match condition, received : occurrence.event with
  | .ok s, some event =>
      have kept : (s.begin occurrence.failures).KeepsTables occurrence.env
          event := by
        cases event with
        | pairAck pkt srcId rssi2 => exact keeps s _ rfl received
        | _ => trivial
      have reliable :
          (s.begin occurrence.failures).storage.eeprom.Reliable := working
      simp only [next, received]
      exact (handle_reaches reliable kept).sound valid reliable
  | .error s, none =>
      simp only [next, received]
      exact boot_sound working ⟨(down s rfl).infra, (down s rfl).sensors,
        (down s rfl).mesh⟩
  | .ok s, none =>
      simp only [next, received]
      exact ⟨valid, down⟩
  | .error s, some event =>
      simp only [next, received]
      exact ⟨valid, down⟩

/-- In every run that stores no neighbour twice, the tables stay valid. -/
theorem tables_valid
    {role : DeviceType} {deviceId : UInt16} {s : MeshPlane}
    {condition : Condition} (valid : ValidTables role s.storage.tables)
    (reach : Trace.Reach meshStep (StoresOnce role deviceId) (.ok s)
      condition) :
    ValidTables role (plane condition).storage.tables := by
  have sound : Sound role condition := by
    apply reach.invariant
    · exact ⟨valid, fun _ same => by cases same⟩
    · intro before occurrence after sound once moved
      rw [← Except.ok.inj moved]
      exact next_sound sound once
  exact sound.1

/-- An anchor, and neighbours that acknowledge a pairing. -/
def sampleAnchor : MeshEnv where
  deviceType := .anchor
  deviceId := 7

def samplePairAck (deviceType : DeviceType) (srcId : UInt16) (hopNum : UInt8) :
    Occurrence where
  env := sampleAnchor
  event := some (.pairAck
    { hdr := { deviceType := deviceType.code, deviceId := 7 }
      hopNum := hopNum }
    srcId 0)

/-- The gateway and then a sensor acknowledge a pairing. -/
theorem tables_valid_paired :
    ValidTables .anchor
      (plane (next (next (.ok {}) (samplePairAck .gateway 1 0))
        (samplePairAck .sensor 5 0xFF))).storage.tables := by
  refine @tables_valid .anchor 7 {} _ (emptyTables_valid .anchor)
    (.next (.next .refl ?_ rfl) ?_ rfl)
  · refine ⟨rfl, rfl, rfl, fun s event same received => ?_⟩
    cases same
    cases received
    exact fun twice => twice.2.2.2.2.2.2.1 (by decide)
  · refine ⟨rfl, rfl, rfl, fun s event same received => ?_⟩
    cases received
    rintro ⟨-, -, -, -, -, -, stored, -⟩
    apply stored
    cases same
    decide +kernel

/-- A sensor that acknowledges twice is stored twice. -/
theorem tables_doubled :
    ∃ condition,
      Trace.Reach meshStep
        (fun _ occurrence => occurrence.env.deviceType = .anchor ∧
          occurrence.env.deviceId = 7 ∧ occurrence.failures = [])
        (.ok {}) condition ∧
      ValidTables .anchor ({} : MeshPlane).storage.tables ∧
      ¬ ValidTables .anchor (plane condition).storage.tables := by
  refine ⟨_, @Trace.Reach.of_run _ _ _ meshStep _
      [samplePairAck .gateway 1 0, samplePairAck .sensor 5 0xFF,
        samplePairAck .sensor 5 0xFF] _ _ ?_ rfl,
    emptyTables_valid .anchor, fun valid => absurd valid.infraIds ?_⟩
  · intro occurrence member before
    simp only [List.mem_cons, List.not_mem_nil, or_false] at member
    rcases member with rfl | rfl | rfl
    · exact ⟨rfl, rfl, rfl⟩
    · exact ⟨rfl, rfl, rfl⟩
    · exact ⟨rfl, rfl, rfl⟩
  · decide +kernel

end Run

end MeshPlane

end DectMesh
