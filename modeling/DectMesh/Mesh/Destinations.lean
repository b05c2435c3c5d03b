import DectMesh.Mesh.Receivers

/-!
# Who the mesh handlers send to

Every handler sends `JOINED_NETWORK` and `DEVICE_UPDATED` to an infrastructure
neighbour that is stored, unless it reads `infra_devices[0]` of an empty
table.
-/

namespace DectMesh

namespace MeshPlane

variable {env : MeshEnv} {s s' last : MeshPlane}

section Handlers

theorem addSensor_sendsStored {srcId version : UInt16} {flag : Bool}
    (done : s.addSensor srcId version = (s', flag)) : SendsStored s s' := by
  have same : s'.out = s.out := by
    unfold addSensor at done
    split at done
    · cases done
      rfl
    · cases done
      rfl
  exact .of_same (routed_of_out same)

theorem admitNeighbour_sends
    {deviceType : UInt8} {srcId version : UInt16} {wanted : Bool}
    {entry : InfraRecord} {answer : MeshPlane → UInt8 → MeshPlane}
    (quiet : ∀ t status, (answer t status).routed = t.routed ∧
      (answer t status).infraIds = t.infraIds) :
    SendsKnown s
      (s.admitNeighbour env deviceType srcId version wanted entry answer) := by
  have answered (t : MeshPlane) (status : UInt8) (sends : SendsStored s t) :
      SendsStored s (answer t status) := by
    obtain ⟨routed, ids⟩ := quiet t status
    exact sends.trans (fun id member => ids ▸ member) (.of_same routed)
  have adds : SendsKnown s ((s.addInfra env entry).map Prod.fst) :=
    addInfra_sends entry
  unfold admitNeighbour
  dsimp only
  split
  · split
    · split
      · next done => exact adds.rebooted done
      · next done => exact adds.flagged done
      · next done => exact answered _ _ (adds.flagged done)
    · exact answered _ _ (.of_same rfl)
  · split
    · split
      · split
        · next done => exact addSensor_sendsStored done
        · next done => exact answered _ _ (addSensor_sendsStored done)
      · exact answered _ _ (.of_same rfl)
    · exact SendsStored.of_same rfl

theorem buildJoinedNetwork_sends {pkt : PairAck} {srcId : UInt16}
    {rssi2 : Int16} :
    SendsKnown s (s.buildJoinedNetwork env pkt srcId rssi2) := by
  have adds : SendsKnown s
      ((s.addInfra env (pairedInfra pkt srcId rssi2)).map Prod.fst) :=
    addInfra_sends _
  unfold buildJoinedNetwork
  split
  · next done => exact adds.rebooted done
  · next done => exact adds.flagged done
  · next t done =>
    have joins : srcId ∈ t.infraIds :=
      @addInfra_joins env s t (pairedInfra pkt srcId rssi2) done
    have added : SendsStored s t := adds.flagged done
    have joined (u : MeshPlane) (routed : u.routed = t.routed)
        (ids : u.infraIds = t.infraIds) :
        SendsStored s (if u.storage.infra.count = 1 then
          u.sendJoinedNetwork env (u.joinedPacket env srcId) srcId
            statusSuccess
        else
          u) := by
      have reached : SendsStored s u :=
        added.trans (fun id member => ids ▸ member) (.of_same routed)
      split
      · refine reached.trans (List.Subset.refl _)
          (sendJoinedNetwork_sendsStored ?_)
        rw [ids]
        exact joins
      · exact reached
    dsimp only
    split
    · exact joined { t with connectedDeviceId := srcId } rfl rfl
    · exact joined t rfl rfl

theorem handleJoinedNetwork_sendsStored {pkt : JoinedNetwork}
    {srcId : UInt16}
    (aimed : ¬ s.SendsAstray env (.joinedNetwork pkt srcId)) :
    SendsStored s (s.handleJoinedNetwork env pkt srcId) := by
  unfold handleJoinedNetwork
  split
  · exact .of_same rfl
  · next taken =>
    split
    · refine .of_same ?_
      rw [sendJoinedNetworkAck_routed]
      unfold pingKnownDevices storeJoined
      rw [pingWhere_routed]
      split <;> rfl
    · next anchor =>
      dsimp only
      split
      · next entry found =>
        obtain ⟨device, here, same⟩ := Option.map_eq_some_iff.mp found
        rw [← same]
        refine SendsStored.trans (.of_same (sendJoinedNetworkAck_routed ..))
          (List.Subset.refl _) (sendJoinedNetwork_sendsStored ?_)
        exact backup_stored (s := s) here
      · next missing =>
        have empty : s.infra = [] := by
          have none : s.storage.storageInfraGet 0 = none := missing
          simpa [Storage.storageInfraGet] using none
        simp only [not_or, Bool.not_eq_true', Bool.not_eq_false, not_not]
          at taken
        exact absurd ⟨anchor, taken.1, taken.2.1, taken.2.2, empty⟩ aimed
    · exact .of_same rfl
    · exact .of_same rfl

theorem reportSensorHolder_sendsStored {pkt : PingDevice}
    (linked : pkt.dstDeviceId ≠ 0 → pkt.dstDeviceId ≠ 0xFFFF →
      s.findSensor pkt.dstDeviceId ≠ none → s.infra ≠ []) :
    SendsStored s (s.reportSensorHolder env pkt) := by
  unfold reportSensorHolder
  split
  · next holds =>
    obtain ⟨notZero, known, found⟩ := holds
    exact sendDeviceUpdated_sendsStored
      (parent_stored (linked notZero known found))
  · exact .of_same rfl

theorem pinged_routed (pkt : PingDevice) :
    (s.pinged env pkt).routed = s.routed := by
  unfold pinged
  split
  · rfl
  · rw [forgetSensor_routed, forgetInfra_routed]

theorem forwardUpdate_sendsStored {pkt : DeviceUpdated} {srcId : UInt16}
    (linked : s.parent.deviceId ≠ srcId → s.infra ≠ []) :
    SendsStored s (s.forwardUpdate env pkt srcId).1 := by
  unfold forwardUpdate
  split
  · next upward =>
    exact sendDeviceUpdated_sendsStored (parent_stored (linked upward))
  · split
    · next found => exact sendDeviceUpdated_sendsStored (backup_stored found)
    · exact .of_same rfl

theorem applyUpdate_routed {pkt : DeviceUpdated} {srcId : UInt16} :
    (s.applyUpdate pkt srcId).1.routed = s.routed := by
  unfold applyUpdate
  dsimp only
  split
  · rfl
  · split
    · unfold updateMeshStorage
      split
      · rfl
      · split
        · rfl
        · split <;> rfl
    · split
      · split
        · rfl
        · split <;> rfl
      · rfl

theorem handleDeviceUpdated_sendsStored {pkt : DeviceUpdated}
    {srcId : UInt16}
    (aimed : ¬ s.SendsAstray env (.deviceUpdated pkt srcId)) :
    SendsStored s (s.handleDeviceUpdated env pkt srcId) := by
  unfold handleDeviceUpdated
  split
  · exact .of_same rfl
  · next taken =>
    split
    · refine .of_same ?_
      rw [sendDeviceUpdatedAck_routed, applyUpdate_routed]
    · next anchor =>
      refine SendsStored.trans (forwardUpdate_sendsStored ?_)
        (List.Subset.refl _) (.of_same (sendDeviceUpdatedAck_routed ..))
      intro upward empty
      simp only [not_or, Bool.not_eq_true', Bool.not_eq_false] at taken
      exact aimed ⟨anchor, taken.1, taken.2, upward, empty⟩
    · exact .of_same rfl
    · exact .of_same rfl

theorem setSerialNumber_sendsStored {serialNum : UInt64}
    (aimed : ¬ s.SendsAstray env (.serialNumber serialNum)) :
    SendsStored s (s.setSerialNumber env serialNum) := by
  unfold setSerialNumber
  dsimp only
  split
  · exact .of_same rfl
  · next changed =>
    have linked : s.infra ≠ [] := fun empty => aimed ⟨changed, empty⟩
    intro dst sent
    exact sendDeviceUpdated_sendsStored (parent_stored linked) dst sent

theorem untracked_routed (trackingId : UInt8) :
    (s.put (.untrack trackingId)).routed = s.routed := by
  simp [MeshAction.routedTo]

theorem handleDeviceUpdatedAck_sends {pkt : DeviceUpdatedAck}
    {srcId : UInt16} :
    SendsKnown s (s.handleDeviceUpdatedAck env pkt srcId) := by
  unfold handleDeviceUpdatedAck
  split
  · exact SendsStored.of_same rfl
  · refine .after_quiet (untracked_routed pkt.hdr.trackingId)
      (List.Subset.refl _) ?_
    dsimp only
    split
    · exact SendsStored.of_same rfl
    · split
      · next backup found =>
        refine sendDeviceUpdated_sendsStored ?_
        have linked : s.infra ≠ [] := by
          intro empty
          have none : s.infra[1]? = none := by rw [empty]; rfl
          rw [show s.infra[1]? = some backup from found] at none
          cases none
        split
        · exact backup_stored (s := s) found
        · exact parent_stored (s := s) linked
      · exact dropInfra_sends srcId

theorem reportLostSensor_sendsStored {deviceId : UInt16}
    (linked : s.infra ≠ []) :
    SendsStored s (s.reportLostSensor env deviceId) := by
  have parent := parent_stored linked
  unfold reportLostSensor
  exact SendsStored.trans (sendDeviceUpdated_sendsStored parent)
    (List.Subset.refl _) (sendDeviceUpdated_sendsStored parent)

theorem knownDeviceUpdateCommTime_sends {deviceId : UInt16}
    (linked : env.deviceType ≠ .sensor → ∀ index device,
      s.findSensor deviceId = some index → s.sensors[index]? = some device →
        maxCommFailures ≤ device.commFailures + 1 → s.infra ≠ []) :
    SendsKnown s (s.knownDeviceUpdateCommTime env deviceId) := by
  unfold knownDeviceUpdateCommTime
  split
  · refine SendsStored.of_same ?_
    rw [sendPairRequest_routed]
    rfl
  · next notSensor =>
    dsimp only
    split
    · split
      · exact SendsStored.of_same rfl
      · split
        · exact deviceInfoUpdate_sends rfl
        · exact SendsStored.of_same rfl
    · split
      · exact SendsStored.of_same rfl
      · next index found =>
        split
        · exact SendsStored.of_same rfl
        · next after here =>
          split
          · next lost =>
            have modified : (s.sensors[index]?).map (failed env.now) =
                some after := by
              rw [← here]
              exact (List.getElem?_modify_eq ..).symm
            obtain ⟨device, before, same⟩ := Option.map_eq_some_iff.mp modified
            rw [← same] at lost
            have parent := linked notSensor index device found before lost
            refine SendsStored.after_quiet rfl
              (reportLostSensor_sendsStored ?_)
            intro empty
            have live := congrArg RamTable.live
              (storageSensorRemove_infra (s.updateSensor index
                (failed env.now)).storage index)
            exact parent (live.symm.trans empty)
          · exact SendsStored.of_same rfl

theorem sameParent_ids (same : SameParent s s') : s'.infraIds = s.infraIds :=
  congrArg (List.map InfraRecord.deviceId) same.entries

theorem answerPing_sends {pkt : PingDevice} {srcId : UInt16}
    {rssi2 : Int16}
    (linked : env.deviceType = .anchor → pkt.dstDeviceId ≠ 0 →
      pkt.dstDeviceId ≠ 0xFFFF → s.findSensor pkt.dstDeviceId ≠ none →
        s.infra ≠ []) :
    SendsKnown s (s.answerPing env pkt srcId rssi2) := by
  unfold answerPing
  split
  · exact SendsStored.of_same rfl
  · exact SendsStored.of_same rfl
  · next anchor =>
    have held : SendsStored s (s.reportSensorHolder env pkt) :=
      reportSensorHolder_sendsStored (linked anchor)
    have refreshes : SendsKnown (s.reportSensorHolder env pkt)
        ((s.reportSensorHolder env pkt).refreshInfra env srcId pkt.hopNum
          rssi2) := refreshInfra_sends srcId pkt.hopNum rssi2
    have ids : (s.reportSensorHolder env pkt).infraIds = s.infraIds :=
      sameParent_ids (reportSensorHolder_parent pkt)
    dsimp only
    split
    · exact held
    · split
      · next refreshed =>
        exact .after_sends held (fun id member => ids ▸ member)
          (refreshes.error refreshed)
      · next t refreshed =>
        have perm := refreshInfra_perm refreshed
        have reached : SendsStored s t :=
          held.trans (fun id member => perm.mem_iff.mpr member)
            (refreshes.ok refreshed)
        split
        · exact reached.trans (List.Subset.refl _)
            (.of_same (sendPingAck_routed ..))
        · refine reached.trans (t := t) ?_ (.of_same ?_)
          · have pinged := @pingKnownDevices_parent env (t.adoptNetwork env pkt)
              pkt.dstDeviceId pkt.hdr.status
            exact fun id member => sameParent_ids pinged ▸ member
          · rw [sendPingAck_routed]
            unfold pingKnownDevices
            rw [pingWhere_routed]
            rfl
  · have updates : SendsKnown (s.setMeshTime env pkt.timestamp)
        (((s.setMeshTime env pkt.timestamp).updateInfraStorage env srcId
          pkt.hopNum rssi2).map Prod.fst) :=
      updateInfraStorage_sends srcId pkt.hopNum rssi2
    split
    · exact SendsStored.of_same rfl
    · split
      · next updated => exact updates.rebooted updated
      · next after _ updated =>
        exact SendsStored.trans (t := after) (updates.flagged updated)
          (List.Subset.refl _) (.of_same (sendPingAck_routed ..))

theorem Keeps.pinged (pkt : PingDevice) : Keeps s (s.pinged env pkt) := by
  unfold MeshPlane.pinged
  split
  · exact .refl s
  · exact (forgetInfra pkt).trans (.of_parent (forgetSensor_parent pkt))

theorem handlePingDevice_eq (pkt : PingDevice) (srcId : UInt16)
    (rssi2 : Int16) :
    s.handlePingDevice env pkt srcId rssi2 =
      if !env.accepts pkt.hdr then
        .ok s
      else if pkt.dstDeviceId ≠ env.deviceId then
        (s.pinged env pkt).answerPing env pkt srcId rssi2
      else if keepsDevice pkt.hdr.status then
        ({ s.pinged env pkt with processNextRequest := true } : MeshPlane
          ).answerPing env pkt srcId rssi2
      else
        .ok ((s.pinged env pkt).sendPingAck env srcId pkt.dstDeviceId
          pkt.hdr.trackingId statusSuccess).factoryReset := rfl

theorem handlePingDevice_sends {pkt : PingDevice} {srcId : UInt16}
    {rssi2 : Int16}
    (aimed : ¬ s.SendsAstray env (.pingDevice pkt srcId rssi2)) :
    SendsKnown s (s.handlePingDevice env pkt srcId rssi2) := by
  rw [handlePingDevice_eq]
  split
  · exact SendsStored.of_same rfl
  · next ignored =>
    have taken : env.accepts pkt.hdr = true := by simpa using ignored
    have linked (answers : pkt.dstDeviceId ≠ env.deviceId ∨
        keepsDevice pkt.hdr.status = true)
        (anchor : env.deviceType = .anchor) (notZero : pkt.dstDeviceId ≠ 0)
        (known : pkt.dstDeviceId ≠ 0xFFFF)
        (found : (s.pinged env pkt).findSensor pkt.dstDeviceId ≠ none) :
        (s.pinged env pkt).infra ≠ [] := fun empty =>
      aimed ⟨anchor, taken, answers, notZero, known, found, empty⟩
    split
    · next other =>
      exact .after_quiet (pinged_routed pkt) (Keeps.pinged pkt).ids.subset
        (answerPing_sends (linked (.inl other)))
    · split
      · next keeps =>
        exact .after_quiet (t := { s.pinged env pkt with
          processNextRequest := true }) (pinged_routed pkt)
          (Keeps.pinged pkt).ids.subset (answerPing_sends (linked (.inr keeps)))
      · refine SendsStored.of_same ?_
        rw [factoryReset_routed, sendPingAck_routed, pinged_routed]

theorem updateSensorStorage_routed (deviceId version : UInt16) :
    (s.updateSensorStorage deviceId version).routed = s.routed := by
  unfold updateSensorStorage
  split
  · rfl
  · split
    · rfl
    · split <;> rfl

theorem handlePingAck_sends {pkt : PingAck} {srcId : UInt16}
    {rssi2 : Int16} :
    SendsKnown s (s.handlePingAck env pkt srcId rssi2) := by
  unfold handlePingAck
  split
  · exact SendsStored.of_same rfl
  · refine .after_quiet (untracked_routed pkt.hdr.trackingId)
      (List.Subset.refl _) ?_
    dsimp only
    split
    · exact SendsStored.of_same rfl
    · split
      · split
        · exact updateInfraStorage_sends srcId pkt.hopNum rssi2
        · split
          · exact SendsStored.of_same (updateSensorStorage_routed _ _)
          · exact SendsStored.of_same rfl
      · split
        · exact refreshInfra_sends srcId pkt.hopNum rssi2
        · split
          · exact SendsStored.of_same (updateSensorStorage_routed _ _)
          · exact SendsStored.of_same rfl
      · exact SendsStored.of_same rfl
      · exact SendsStored.of_same rfl

theorem handlePairConfirm_sends {pkt : PairConfirm} {srcId : UInt16}
    {rssi2 : Int16} :
    SendsKnown s (s.handlePairConfirm env pkt srcId rssi2) := by
  have quiet (t : MeshPlane) (status : UInt8) :
      (t.sendPairAck env srcId pkt.hdr.trackingId status).routed = t.routed ∧
        (t.sendPairAck env srcId pkt.hdr.trackingId status).infraIds =
          t.infraIds := ⟨sendPairAck_routed _ _ _ _, rfl⟩
  unfold handlePairConfirm
  split
  · exact SendsStored.of_same rfl
  · split
    · exact admitNeighbour_sends quiet
    · exact admitNeighbour_sends quiet
    · exact SendsStored.of_same rfl
    · exact SendsStored.of_same rfl

theorem handleRepairRequest_sends {pkt : RepairRequest}
    {srcId : UInt16} {rssi2 : Int16} :
    SendsKnown s (s.handleRepairRequest env pkt srcId rssi2) := by
  have quiet (t : MeshPlane) (status : UInt8) :
      (t.sendRepairResponse env srcId pkt.hdr.trackingId status).routed =
          t.routed ∧
        (t.sendRepairResponse env srcId pkt.hdr.trackingId status).infraIds =
          t.infraIds := ⟨sendRepairResponse_routed _ _ _ _, rfl⟩
  unfold handleRepairRequest
  split
  · exact SendsStored.of_same rfl
  · split
    · exact SendsStored.of_same (sendRepairResponse_routed _ _ _ _)
    · split
      · exact admitNeighbour_sends quiet
      · exact admitNeighbour_sends quiet
      · exact SendsStored.of_same rfl
      · exact SendsStored.of_same rfl

theorem handlePairAck_sends {pkt : PairAck} {srcId : UInt16}
    {rssi2 : Int16} :
    SendsKnown s (s.handlePairAck env pkt srcId rssi2) := by
  unfold handlePairAck
  split
  · exact SendsStored.of_same rfl
  · refine .after_quiet (untracked_routed pkt.hdr.trackingId)
      (List.Subset.refl _) ?_
    dsimp only
    split
    · exact SendsStored.of_same rfl
    · split
      · exact SendsStored.of_same rfl
      · exact SendsStored.of_same rfl
      · split
        · exact buildJoinedNetwork_sends
        · exact SendsStored.of_same rfl
      · split
        · exact buildJoinedNetwork_sends
        · exact SendsStored.of_same rfl

theorem handleRepairResponse_sends {pkt : RepairResponse}
    {srcId : UInt16} {rssi2 : Int16} :
    SendsKnown s (s.handleRepairResponse env pkt srcId rssi2) := by
  unfold handleRepairResponse
  split
  · exact SendsStored.of_same rfl
  · refine .after_quiet (untracked_routed pkt.hdr.trackingId)
      (List.Subset.refl _) ?_
    dsimp only
    split
    · exact SendsStored.of_same rfl
    · split
      · exact SendsStored.of_same rfl
      · split
        · exact SendsStored.of_same rfl
        · exact SendsStored.of_same rfl
        · split
          · exact dropInfra_sends srcId
          · split
            · exact updateInfraStorage_sends srcId pkt.hopNum rssi2
            · split
              · exact addInfra_sends _
              · exact SendsStored.of_same rfl
        · split
          · exact updateInfraStorage_sends _ pkt.hopNum rssi2
          · split
            · exact SendsStored.of_same rfl
            · exact SendsStored.of_same rfl

theorem trackerExhausted_sends {isPing isPairing : Bool} {dstId : UInt16}
    (aimed : ¬ s.SendsAstray env (.trackerExhausted isPing isPairing dstId)) :
    SendsKnown s (s.trackerExhausted env isPing isPairing dstId) := by
  unfold trackerExhausted
  dsimp only
  split
  · refine SendsStored.of_same ?_
    split <;> rfl
  · next pairing =>
    have requested : isPairing = false := by simpa using pairing
    have linked (notSensor : env.deviceType ≠ .sensor) (index : Nat)
        (device : Sensor) (found : s.findSensor dstId = some index)
        (here : s.sensors[index]? = some device)
        (lost : maxCommFailures ≤ device.commFailures + 1) : s.infra ≠ [] :=
      fun empty =>
        aimed ⟨notSensor, requested, empty, index, device, found, here, lost⟩
    split
    · refine .after_quiet (t := { s with tempId := 0xFFFF }) rfl
        (List.Subset.refl _) ?_
      exact knownDeviceUpdateCommTime_sends linked
    · exact knownDeviceUpdateCommTime_sends linked

/-- Every packet that is passed on goes to an infrastructure neighbour, also in
front of a reboot. -/
theorem handle_sends {event : Event} (aimed : ¬ s.SendsAstray env event) :
    SendsKnown s (s.handle env event) := by
  cases event with
  | pairRequest pkt srcId =>
      exact SendsStored.of_same (handlePairRequest_routed s pkt srcId)
  | pairResponse pkt srcId rssi2 =>
      exact SendsStored.of_same (handlePairResponse_routed s pkt srcId rssi2)
  | pairConfirm pkt srcId rssi2 => exact handlePairConfirm_sends
  | pairAck pkt srcId rssi2 => exact handlePairAck_sends
  | repairRequest pkt srcId rssi2 => exact handleRepairRequest_sends
  | repairResponse pkt srcId rssi2 => exact handleRepairResponse_sends
  | joinedNetwork pkt srcId => exact handleJoinedNetwork_sendsStored aimed
  | joinedNetworkAck pkt =>
      refine SendsStored.of_same ?_
      unfold handleJoinedNetworkAck
      split
      · rfl
      · simp [MeshAction.routedTo]
  | pingDevice pkt srcId rssi2 => exact handlePingDevice_sends aimed
  | pingAck pkt srcId rssi2 => exact handlePingAck_sends
  | deviceUpdated pkt srcId => exact handleDeviceUpdated_sendsStored aimed
  | deviceUpdatedAck pkt srcId => exact handleDeviceUpdatedAck_sends
  | heard srcId => exact SendsStored.of_same (isKnownDevice_routed s srcId)
  | meshTick => exact SendsStored.of_same (meshTick_routed s)
  | knownDevicesTick => exact SendsStored.of_same (knownDevicesTick_routed s)
  | trackerExhausted isPing isPairing dstId =>
      exact trackerExhausted_sends aimed
  | serialNumber serialNum => exact setSerialNumber_sendsStored aimed

end Handlers

end MeshPlane

end DectMesh
