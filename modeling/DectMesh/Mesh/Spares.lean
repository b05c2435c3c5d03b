import DectMesh.Mesh.Run

/-!
# What most handlers spare

The selection of pairing candidates and the answers that end a handshake have
a few functions each.  Everything else in the mesh layer spares both.
-/

namespace DectMesh

/-- The variables of the selection. -/
structure Selection where
  candidates : List Candidate
  count : Int
  idx : Int
  collecting : Bool
  asked : Bool

/-- The header of a packet that ends a handshake. -/
def MeshPacket.pairingAnswer : MeshPacket → Option PacketHeader
  | .pairAck pkt => some pkt.hdr
  | .repairResponse pkt => some pkt.hdr
  | _ => none

def MeshAction.packet : MeshAction → Option MeshPacket
  | .request pkt => some pkt
  | .announce pkt => some pkt
  | .reply pkt => some pkt
  | .untrack _ => none

def MeshAction.pairingAnswer (action : MeshAction) : Option PacketHeader :=
  action.packet.bind MeshPacket.pairingAnswer

namespace MeshPlane

variable {env : MeshEnv} {s s' s'' : MeshPlane}

def selection (s : MeshPlane) : Selection where
  candidates := s.respCandidates
  count := s.respCandidateCount
  idx := s.respCandidateIdx
  collecting := s.collecting
  asked := s.processNextRequest

/-- The headers of the answers that the event at hand sends. -/
def answers (s : MeshPlane) : List PacketHeader :=
  s.out.filterMap MeshAction.pairingAnswer

theorem put_answers
    {action : MeshAction} (other : action.pairingAnswer = none) :
    (s.put action).answers = s.answers := by
  simp [answers, put, other]

/-- The selection and the answers are as before. -/
structure Spares (s s' : MeshPlane) : Prop where
  selection : s'.selection = s.selection
  answers : s'.answers = s.answers

namespace Spares

theorem refl (s : MeshPlane) : Spares s s := ⟨rfl, rfl⟩

theorem trans (first : Spares s s') (second : Spares s' s'') : Spares s s'' :=
  ⟨second.selection.trans first.selection, second.answers.trans first.answers⟩

/-- One packet more that is not an answer. -/
theorem put (spares : Spares s s') {action : MeshAction}
    (other : action.pairingAnswer = none) : Spares s (s'.put action) :=
  ⟨spares.selection, (put_answers other).trans spares.answers⟩

theorem setStorage (spares : Spares s s') (storage : Storage) :
    Spares s (s'.setStorage storage) :=
  ⟨spares.selection, spares.answers⟩

end Spares

section Pings

theorem pingWhere_spares
    (due : Infra → Bool) (genId : UInt16) (status : UInt8)
    (devices : List Infra) (index : Nat) (s : MeshPlane) :
    Spares s (pingWhere env due genId status devices index s) := by
  induction devices generalizing index s with
  | nil => exact .refl s
  | cons device rest ih =>
      rw [pingWhere]
      refine Spares.trans ?_ (ih _ _)
      split
      · exact ⟨rfl, put_answers rfl⟩
      · exact .refl s

theorem pingKnownDevices_spares (genId : UInt16) (status : UInt8) :
    Spares s (s.pingKnownDevices env genId status) :=
  pingWhere_spares _ genId status s.infra 0 s

theorem knownDevicesTick_spares : Spares s (s.knownDevicesTick env) := by
  unfold knownDevicesTick
  split
  · exact .refl s
  · exact pingWhere_spares _ 0 statusSuccess s.infra 0 s

/-- Past the pairing, the tick spares both. -/
theorem meshTick_spares :
    Spares (s.meshPairingTick env) (s.meshTick env) := by
  unfold meshTick
  dsimp only
  split
  · exact .refl _
  · have pinged := @pingWhere_spares env
      (fun device =>
        2 * pingTimeoutMs < env.now - device.lastCommMs ∧
          !device.isPingPacketSent)
      0 statusPingDevice (s.meshPairingTick env).infra 0
      (s.meshPairingTick env)
    split
    · exact ⟨pinged.selection, (put_answers rfl).trans pinged.answers⟩
    · exact pinged

end Pings

section Tables

theorem deviceInfoUpdate_spares :
    Spares s (plane (s.deviceInfoUpdate env)) := by
  unfold deviceInfoUpdate
  split
  · exact .refl s
  · split
    · exact ⟨rfl, rfl⟩
    · split
      · exact ⟨rfl, rfl⟩
      · dsimp only
        split
        · exact ⟨rfl, rfl⟩
        · simp only [plane]
          split
          · exact ⟨rfl, put_answers rfl⟩
          · exact ⟨rfl, rfl⟩

theorem setSerialNumber_spares (serialNum : UInt64) :
    Spares s (s.setSerialNumber env serialNum) := by
  unfold setSerialNumber
  dsimp only
  split
  · exact ⟨rfl, rfl⟩
  · exact ⟨rfl, put_answers rfl⟩

theorem isKnownDevice_spares (deviceId : UInt16) :
    Spares s (s.isKnownDevice env deviceId).1 := by
  unfold isKnownDevice
  split
  · exact .refl s
  · split
    · exact ⟨rfl, rfl⟩
    · split
      · exact ⟨rfl, rfl⟩
      · exact .refl s

theorem dropInfra_spares (deviceId : UInt16) :
    Spares s (plane (s.dropInfra env deviceId)) := by
  unfold dropInfra
  split
  · exact .refl s
  · exact ((Spares.refl s).setStorage _).trans deviceInfoUpdate_spares

theorem reportLostSensor_spares (deviceId : UInt16) :
    Spares s (s.reportLostSensor env deviceId) :=
  ⟨rfl, (put_answers rfl).trans (put_answers rfl)⟩

theorem knownDeviceUpdateCommTime_spares (deviceId : UInt16) :
    Spares s (plane (s.knownDeviceUpdateCommTime env deviceId)) := by
  unfold knownDeviceUpdateCommTime
  split
  · exact ⟨rfl, put_answers rfl⟩
  · split
    · dsimp only
      split
      · exact ⟨rfl, rfl⟩
      · split
        · have removed := @deviceInfoUpdate_spares env
          exact ⟨removed.selection, removed.answers⟩
        · exact ⟨rfl, rfl⟩
    · split
      · exact .refl s
      · dsimp only
        split
        · exact ⟨rfl, rfl⟩
        · split
          · exact ⟨rfl, (reportLostSensor_spares deviceId).answers⟩
          · exact ⟨rfl, rfl⟩

theorem addInfra_spares (entry : InfraRecord) :
    Spares s (plane ((s.addInfra env entry).map Prod.fst)) := by
  unfold addInfra
  split
  · exact ⟨rfl, rfl⟩
  · next storage added =>
    have updated := ((Spares.refl s).setStorage storage).trans
      (@deviceInfoUpdate_spares env _)
    split
    · next down => rwa [down] at updated
    · next up => rwa [up] at updated

theorem addSensor_spares (deviceId version : UInt16) :
    Spares s (s.addSensor deviceId version).1 := by
  unfold addSensor
  split
  · exact ⟨rfl, rfl⟩
  · exact ⟨rfl, rfl⟩

theorem updateInfraStorage_spares
    (deviceId : UInt16) (hopNum : UInt8) (rssi2 : Int16) :
    Spares s
      (plane ((s.updateInfraStorage env deviceId hopNum rssi2).map
        Prod.fst)) := by
  unfold updateInfraStorage
  split
  · exact .refl s
  · split
    · exact .refl s
    · split
      · exact ⟨rfl, rfl⟩
      · next storage updated =>
        have after := ((Spares.refl s).setStorage storage).trans
          (@deviceInfoUpdate_spares env _)
        split
        · next down => rwa [down] at after
        · next up => rwa [up] at after

theorem refreshInfra_spares
    (srcId : UInt16) (hopNum : UInt8) (rssi2 : Int16) :
    Spares s (plane (s.refreshInfra env srcId hopNum rssi2)) := by
  have updated := @updateInfraStorage_spares env s srcId hopNum rssi2
  unfold refreshInfra
  split
  · next down => rwa [down] at updated
  · next changed =>
    rw [changed] at updated
    exact updated.put rfl
  · next kept => rwa [kept] at updated

theorem updateSensorStorage_spares (deviceId version : UInt16) :
    Spares s (s.updateSensorStorage deviceId version) := by
  unfold updateSensorStorage
  split
  · exact .refl s
  · split
    · exact .refl s
    · split
      · exact ⟨rfl, rfl⟩
      · exact ⟨rfl, rfl⟩

theorem updateMeshStorage_spares (deviceId : UInt16) (pkt : DeviceUpdated) :
    Spares s (s.updateMeshStorage deviceId pkt).1 := by
  unfold updateMeshStorage
  split
  · exact .refl s
  · split
    · exact ⟨rfl, rfl⟩
    · split
      · exact ⟨rfl, rfl⟩
      · exact ⟨rfl, rfl⟩

end Tables

section Handlers

theorem handlePairRequest_spares (pkt : PairRequest) (srcId : UInt16) :
    Spares s (s.handlePairRequest env pkt srcId) := by
  unfold handlePairRequest
  split
  · exact .refl s
  · dsimp only
    split
    · exact .refl s
    · split
      · exact (Spares.refl s).put rfl
      · split
        · exact .refl s
        · exact (Spares.refl s).put rfl

theorem buildJoinedNetwork_spares
    (pkt : PairAck) (srcId : UInt16) (rssi2 : Int16) :
    Spares s (plane (s.buildJoinedNetwork env pkt srcId rssi2)) := by
  have added := @addInfra_spares env s (pairedInfra pkt srcId rssi2)
  unfold buildJoinedNetwork
  split
  · next down => rwa [down] at added
  · next failed => rwa [failed] at added
  · next s' stored =>
    rw [stored] at added
    have joined {after : MeshPlane} (same : Spares s' after)
        (packet : JoinedNetwork) :
        Spares s
          (if after.storage.infra.count = 1 then
            after.sendJoinedNetwork env packet srcId statusSuccess
          else
            after) := by
      refine Spares.trans added (same.trans ?_)
      split
      · exact (Spares.refl after).put rfl
      · exact .refl after
    simp only [plane]
    split
    · exact @joined { s' with connectedDeviceId := srcId } ⟨rfl, rfl⟩ _
    · exact joined (.refl s') _

theorem handlePairAck_spares
    (pkt : PairAck) (srcId : UInt16) (rssi2 : Int16) :
    Spares s (plane (s.handlePairAck env pkt srcId rssi2)) := by
  have untracked : Spares s (s.put (.untrack pkt.hdr.trackingId)) :=
    (Spares.refl s).put rfl
  have built := untracked.trans (@buildJoinedNetwork_spares env _ pkt srcId
    rssi2)
  unfold handlePairAck
  split
  · exact .refl s
  · dsimp only
    split
    · exact untracked
    · split
      · exact untracked
      · exact untracked
      · split
        · exact built
        · exact untracked
      · split
        · exact built
        · exact untracked

theorem handleRepairResponse_spares
    (pkt : RepairResponse) (srcId : UInt16) (rssi2 : Int16) :
    Spares s (plane (s.handleRepairResponse env pkt srcId rssi2)) := by
  have untracked : Spares s (s.put (.untrack pkt.hdr.trackingId)) :=
    (Spares.refl s).put rfl
  unfold handleRepairResponse
  split
  · exact .refl s
  · dsimp only
    split
    · exact untracked
    · split
      · exact untracked
      · split
        · exact untracked
        · exact untracked
        · split
          · exact untracked.trans (dropInfra_spares _)
          · split
            · exact untracked.trans (updateInfraStorage_spares _ _ _)
            · split
              · exact untracked.trans (addInfra_spares _)
              · exact untracked
        · split
          · exact untracked.trans (updateInfraStorage_spares _ _ _)
          · split
            · exact ⟨untracked.selection, untracked.answers⟩
            · exact untracked

theorem handleJoinedNetwork_spares (pkt : JoinedNetwork) (srcId : UInt16) :
    Spares s (s.handleJoinedNetwork env pkt srcId) := by
  unfold handleJoinedNetwork
  split
  · exact .refl s
  · split
    · have stored :
          Spares s (s.storeJoined pkt (s.checkMeshStorage pkt.deviceId)) := by
        unfold storeJoined
        split
        · exact ⟨rfl, rfl⟩
        · exact .refl s
      exact (stored.trans (pingKnownDevices_spares _ _)).put rfl
    · exact ((Spares.refl s).put rfl).put rfl
    · exact .refl s
    · exact .refl s

theorem reportSensorHolder_spares (pkt : PingDevice) :
    Spares s (s.reportSensorHolder env pkt) := by
  unfold reportSensorHolder
  split
  · exact (Spares.refl s).put rfl
  · exact .refl s

theorem forgetInfra_spares (pkt : PingDevice) :
    Spares s (s.forgetInfra env pkt) := by
  unfold forgetInfra
  split
  · exact .refl s
  · exact ⟨rfl, put_answers rfl⟩

theorem forgetSensor_spares (pkt : PingDevice) :
    Spares s (s.forgetSensor env pkt) := by
  unfold forgetSensor
  split
  · exact .refl s
  · exact ⟨rfl, put_answers rfl⟩

theorem forget_spares (pkt : PingDevice) :
    Spares s ((s.forgetInfra env pkt).forgetSensor env pkt) :=
  (forgetInfra_spares pkt).trans (forgetSensor_spares pkt)

theorem answerPing_spares
    (pkt : PingDevice) (srcId : UInt16) (rssi2 : Int16) :
    Spares s (plane (s.answerPing env pkt srcId rssi2)) := by
  unfold answerPing
  split
  · exact .refl s
  · exact .refl s
  · have reported := @reportSensorHolder_spares env s pkt
    have refreshed := reported.trans (@refreshInfra_spares env
      (s.reportSensorHolder env pkt) srcId pkt.hopNum rssi2)
    dsimp only
    split
    · exact reported
    · split
      · next down => rwa [down] at refreshed
      · next s' up =>
        rw [up] at refreshed
        split
        · exact refreshed.put rfl
        · have adopted : Spares s (s'.adoptNetwork env pkt) :=
            ⟨refreshed.selection, refreshed.answers⟩
          exact (adopted.trans (pingKnownDevices_spares _ _)).put rfl
  · split
    · exact .refl s
    · have updated := @updateInfraStorage_spares env
        (s.setMeshTime env pkt.timestamp) srcId pkt.hopNum rssi2
      split
      · next down =>
        rw [down] at updated
        exact ⟨updated.selection, updated.answers⟩
      · next up =>
        rw [up] at updated
        exact ⟨updated.selection, (put_answers rfl).trans updated.answers⟩

theorem handlePingAck_spares
    (pkt : PingAck) (srcId : UInt16) (rssi2 : Int16) :
    Spares s (plane (s.handlePingAck env pkt srcId rssi2)) := by
  have untracked : Spares s (s.put (.untrack pkt.hdr.trackingId)) :=
    (Spares.refl s).put rfl
  unfold handlePingAck
  split
  · exact .refl s
  · dsimp only
    split
    · exact ⟨untracked.selection, untracked.answers⟩
    · split
      · split
        · exact untracked.trans (updateInfraStorage_spares _ _ _)
        · split
          · exact untracked.trans (updateSensorStorage_spares _ _)
          · exact untracked
      · split
        · exact untracked.trans (refreshInfra_spares _ _ _)
        · split
          · exact untracked.trans (updateSensorStorage_spares _ _)
          · exact untracked
      · exact untracked
      · exact untracked

theorem handleDeviceUpdated_spares (pkt : DeviceUpdated) (srcId : UInt16) :
    Spares s (s.handleDeviceUpdated env pkt srcId) := by
  unfold handleDeviceUpdated
  split
  · exact .refl s
  · split
    · have applied : Spares s (s.applyUpdate pkt srcId).1 := by
        unfold applyUpdate
        dsimp only
        split
        · exact .refl s
        · split
          · exact updateMeshStorage_spares _ _
          · split
            · split
              · exact .refl s
              · split
                · exact ⟨rfl, rfl⟩
                · exact ⟨rfl, rfl⟩
            · exact .refl s
      exact applied.put rfl
    · have forwarded : Spares s (s.forwardUpdate env pkt srcId).1 := by
        unfold forwardUpdate
        split
        · exact (Spares.refl s).put rfl
        · split
          · exact ⟨rfl, put_answers rfl⟩
          · exact .refl s
      exact forwarded.put rfl
    · exact .refl s
    · exact .refl s

theorem handleDeviceUpdatedAck_spares
    (pkt : DeviceUpdatedAck) (srcId : UInt16) :
    Spares s (plane (s.handleDeviceUpdatedAck env pkt srcId)) := by
  have untracked : Spares s (s.put (.untrack pkt.hdr.trackingId)) :=
    (Spares.refl s).put rfl
  unfold handleDeviceUpdatedAck
  split
  · exact .refl s
  · dsimp only
    split
    · exact untracked
    · split
      · exact ⟨rfl, (put_answers rfl).trans untracked.answers⟩
      · exact untracked.trans (dropInfra_spares _)

theorem trackerExhausted_spares
    (isPing isPairing : Bool) (dstId : UInt16) :
    Spares s (plane (s.trackerExhausted env isPing isPairing dstId)) := by
  have cleared : Spares s
      (if isPing ∧ dstId = s.tempId then
        { s with tempId := 0xFFFF }
      else
        s) := by
    split
    · exact ⟨rfl, rfl⟩
    · exact .refl s
  unfold trackerExhausted
  dsimp only
  split
  · exact cleared
  · exact cleared.trans (knownDeviceUpdateCommTime_spares dstId)

theorem handleJoinedNetworkAck_spares (pkt : JoinedNetworkAck) :
    Spares s (s.handleJoinedNetworkAck env pkt) := by
  unfold handleJoinedNetworkAck
  split
  · exact .refl s
  · exact (Spares.refl s).put rfl

/-- The events whose handlers have nothing to do with either. -/
def Event.Spared : Event → Prop
  | .pairResponse _ _ _ | .pingDevice _ _ _ | .meshTick => False
  | .pairConfirm _ _ _ | .repairRequest _ _ _ => False
  | _ => True

theorem handle_spares {event : Event} (spared : event.Spared) :
    Spares s (plane (s.handle env event)) := by
  cases event with
  | pairRequest pkt srcId => exact handlePairRequest_spares pkt srcId
  | pairAck pkt srcId rssi2 => exact handlePairAck_spares pkt srcId rssi2
  | repairResponse pkt srcId rssi2 =>
      exact handleRepairResponse_spares pkt srcId rssi2
  | joinedNetwork pkt srcId => exact handleJoinedNetwork_spares pkt srcId
  | joinedNetworkAck pkt => exact handleJoinedNetworkAck_spares pkt
  | pingAck pkt srcId rssi2 => exact handlePingAck_spares pkt srcId rssi2
  | deviceUpdated pkt srcId => exact handleDeviceUpdated_spares pkt srcId
  | deviceUpdatedAck pkt srcId => exact handleDeviceUpdatedAck_spares pkt srcId
  | heard srcId => exact isKnownDevice_spares srcId
  | knownDevicesTick => exact knownDevicesTick_spares
  | trackerExhausted isPing isPairing dstId =>
      exact trackerExhausted_spares isPing isPairing dstId
  | serialNumber serialNum => exact setSerialNumber_spares serialNum
  | pairResponse pkt srcId rssi2 => exact absurd spared id
  | pingDevice pkt srcId rssi2 => exact absurd spared id
  | meshTick => exact absurd spared id
  | pairConfirm pkt srcId rssi2 => exact absurd spared id
  | repairRequest pkt srcId rssi2 => exact absurd spared id

/-- A board that starts has no selection and answers nothing. -/
theorem boot_spares (env : MeshEnv) (rom : Eeprom) :
    Spares {} (plane (boot env rom)) := by
  unfold boot
  dsimp only
  split
  · generalize fresh : ({
      storage := (Storage.storageInit env.deviceType rom).1
      hopNum := if env.deviceType = .gateway then 0 else 0xFF
      serialNumber := env.deviceId.toUInt64
      meshDevicesCount := loadedDevices env
        (Storage.storageInit env.deviceType rom).1 } : MeshPlane) = s
    have begins : Spares {} s := by
      rw [← fresh]
      exact ⟨rfl, rfl⟩
    have updated := begins.trans (@deviceInfoUpdate_spares env s)
    split
    · next s' down => rwa [down] at updated
    · next s' up =>
      rw [up] at updated
      have spares : Spares {} s' := updated
      split
      · have timed : Spares {} ({ s' with
            meshTimeOffset := 0 - UInt64.ofNat env.now } : MeshPlane) :=
          ⟨spares.selection, spares.answers⟩
        exact timed.trans (pingKnownDevices_spares _ _)
      · split
        · exact spares
        · exact spares.put rfl
      · split
        · exact spares.put rfl
        · exact ⟨spares.selection, spares.answers⟩
      · exact spares
  · exact ⟨rfl, rfl⟩

end Handlers

end MeshPlane

end DectMesh
