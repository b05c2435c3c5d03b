import DectMesh.Mesh.Network

/-!
# Where the mesh layer sends

`JOINED_NETWORK` and `DEVICE_UPDATED` go from neighbour to neighbour up to the
gateway.  The receivers of these packets, and the functions that send them to
an infrastructure neighbour.
-/

namespace DectMesh

/-- The receiver of a packet that is passed on from board to board. -/
def MeshPacket.routedTo : MeshPacket → Option UInt16
  | .joinedNetwork pkt => some pkt.hdr.deviceId
  | .deviceUpdated pkt => some pkt.hdr.deviceId
  | _ => none

def MeshAction.routedTo : MeshAction → Option UInt16
  | .request pkt | .announce pkt | .reply pkt => pkt.routedTo
  | .untrack _ => none

namespace MeshPlane

variable {env : MeshEnv} {s s' last : MeshPlane}

/-- The receivers of the packets that were put out. -/
def routed (s : MeshPlane) : List UInt16 :=
  s.out.filterMap MeshAction.routedTo

/-- Whatever was added goes to a stored neighbour. -/
def SendsStored (s s' : MeshPlane) : Prop :=
  ∀ dst ∈ s'.routed, dst ∈ s.routed ∨ dst ∈ s'.infraIds

/-- The state in which `handle_ping_device` answers. -/
def pinged (env : MeshEnv) (s : MeshPlane) (pkt : PingDevice) : MeshPlane :=
  if keepsDevice pkt.hdr.status then
    s
  else
    (s.forgetInfra env pkt).forgetSensor env pkt

/-- The event makes a board without a parent send to `infra_devices[0]`. -/
def SendsAstray (env : MeshEnv) (s : MeshPlane) : Event → Prop
  | .joinedNetwork pkt _ =>
      env.deviceType = .anchor ∧ env.accepts pkt.hdr = true ∧
        pkt.hdr.status = statusSuccess ∧
          isDownstreamType pkt.hdr.deviceType = true ∧ s.infra = []
  | .pingDevice pkt _ _ =>
      env.deviceType = .anchor ∧ env.accepts pkt.hdr = true ∧
        (pkt.dstDeviceId ≠ env.deviceId ∨
          keepsDevice pkt.hdr.status = true) ∧
        pkt.dstDeviceId ≠ 0 ∧ pkt.dstDeviceId ≠ 0xFFFF ∧
          (s.pinged env pkt).findSensor pkt.dstDeviceId ≠ none ∧
            (s.pinged env pkt).infra = []
  | .deviceUpdated pkt srcId =>
      env.deviceType = .anchor ∧ env.accepts pkt.hdr = true ∧
        isDownstreamType pkt.hdr.deviceType = true ∧
          s.parent.deviceId ≠ srcId ∧ s.infra = []
  | .trackerExhausted _ isPairing dstId =>
      env.deviceType ≠ .sensor ∧ isPairing = false ∧ s.infra = [] ∧
        ∃ index device, s.findSensor dstId = some index ∧
          s.sensors[index]? = some device ∧
            maxCommFailures ≤ device.commFailures + 1
  | .serialNumber serialNum => s.serialNumber ≠ serialNum ∧ s.infra = []
  | _ => False

section Routed

variable (s : MeshPlane)

@[simp]
theorem put_routed (action : MeshAction) :
    (s.put action).routed = s.routed ++ action.routedTo.toList := by
  cases h : action.routedTo <;> simp [routed, put, List.filterMap_append, h]

@[simp]
theorem setStorage_routed (storage : Storage) :
    (s.setStorage storage).routed = s.routed := rfl

theorem routed_of_out {s s' : MeshPlane} (same : s'.out = s.out) :
    s'.routed = s.routed := by
  unfold routed
  rw [same]

@[simp]
theorem sendPairRequest_routed (includeTracker : Bool) :
    (s.sendPairRequest env includeTracker).routed = s.routed := by
  unfold sendPairRequest
  cases includeTracker <;>
    simp [MeshAction.routedTo, MeshPacket.routedTo]

@[simp]
theorem sendPingDevice_routed (dstId genId : UInt16) (status : UInt8) :
    (s.sendPingDevice env dstId genId status).routed = s.routed := by
  simp [sendPingDevice, MeshAction.routedTo, MeshPacket.routedTo]

@[simp]
theorem sendPingAck_routed (dstId genId : UInt16) (trackingId status : UInt8) :
    (s.sendPingAck env dstId genId trackingId status).routed = s.routed := by
  simp [sendPingAck, MeshAction.routedTo, MeshPacket.routedTo]

@[simp]
theorem sendJoinedNetworkAck_routed (dstDeviceId : UInt16)
    (dstDeviceType : UInt8) (dstId : UInt16) (trackingId status : UInt8) :
    (s.sendJoinedNetworkAck env dstDeviceId dstDeviceType dstId trackingId
      status).routed = s.routed := by
  simp [sendJoinedNetworkAck, MeshAction.routedTo, MeshPacket.routedTo]

@[simp]
theorem sendDeviceUpdatedAck_routed (dstDeviceId : UInt16)
    (dstDeviceType : UInt8) (dstId : UInt16) (trackingId status : UInt8) :
    (s.sendDeviceUpdatedAck env dstDeviceId dstDeviceType dstId trackingId
      status).routed = s.routed := by
  simp [sendDeviceUpdatedAck, MeshAction.routedTo, MeshPacket.routedTo]

@[simp]
theorem sendJoinedNetwork_routed (pkt : JoinedNetwork) (dstId : UInt16)
    (status : UInt8) :
    (s.sendJoinedNetwork env pkt dstId status).routed =
      s.routed ++ [dstId] := by
  simp [sendJoinedNetwork, MeshAction.routedTo, MeshPacket.routedTo,
    MeshEnv.requestHeader]

@[simp]
theorem sendDeviceUpdated_routed (pkt : DeviceUpdated) (dstId : UInt16)
    (status : UInt8) :
    (s.sendDeviceUpdated env pkt dstId status).routed =
      s.routed ++ [dstId] := by
  simp [sendDeviceUpdated, MeshAction.routedTo, MeshPacket.routedTo,
    MeshEnv.requestHeader]

@[simp]
theorem sendPairResponse_routed (dstId : UInt16) (trackingId status : UInt8) :
    (s.sendPairResponse env dstId trackingId status).routed = s.routed := by
  simp [sendPairResponse, MeshAction.routedTo, MeshPacket.routedTo]

@[simp]
theorem sendPairConfirm_routed (dstId : UInt16) (status : UInt8) :
    (s.sendPairConfirm env dstId status).routed = s.routed := by
  simp [sendPairConfirm, MeshAction.routedTo, MeshPacket.routedTo]

@[simp]
theorem sendPairAck_routed (dstId : UInt16) (trackingId status : UInt8) :
    (s.sendPairAck env dstId trackingId status).routed = s.routed := by
  simp [sendPairAck, MeshAction.routedTo, MeshPacket.routedTo]

@[simp]
theorem sendRepairRequest_routed (dstId : UInt16) :
    (s.sendRepairRequest env dstId).routed = s.routed := by
  simp [sendRepairRequest, MeshAction.routedTo, MeshPacket.routedTo]

@[simp]
theorem sendRepairResponse_routed
    (dstId : UInt16) (trackingId status : UInt8) :
    (s.sendRepairResponse env dstId trackingId status).routed = s.routed := by
  simp [sendRepairResponse, MeshAction.routedTo, MeshPacket.routedTo]

@[simp]
theorem pingWhere_routed (due : Infra → Bool) (genId : UInt16)
    (status : UInt8) (devices : List Infra) (index : Nat) :
    (pingWhere env due genId status devices index s).routed = s.routed := by
  induction devices generalizing index s with
  | nil => rfl
  | cons device rest ih =>
      unfold pingWhere
      rw [ih]
      split
      · unfold pingInfra updateInfra
        simp
      · rfl

@[simp]
theorem addCandidate_routed (candidate : Candidate) :
    (s.addCandidate env candidate).routed = s.routed := by
  apply routed_of_out
  unfold addCandidate
  dsimp only
  split_ifs <;> rfl

theorem handlePairRequest_routed (pkt : PairRequest) (srcId : UInt16) :
    (s.handlePairRequest env pkt srcId).routed = s.routed := by
  unfold handlePairRequest
  dsimp only
  split_ifs <;> simp

theorem handlePairResponse_routed (pkt : PairResponse) (srcId : UInt16)
    (rssi2 : Int16) :
    (s.handlePairResponse env pkt srcId rssi2).routed = s.routed := by
  unfold handlePairResponse
  dsimp only
  split
  · rfl
  · split
    · rfl
    · split
      · simp [MeshAction.routedTo]
      · split
        · simp [MeshAction.routedTo]
        · simp [MeshAction.routedTo]
        · split <;> simp [MeshAction.routedTo]
        · split
          · simp [MeshAction.routedTo]
          · split <;> simp [MeshAction.routedTo]

theorem isKnownDevice_routed (deviceId : UInt16) :
    (s.isKnownDevice env deviceId).1.routed = s.routed := by
  unfold isKnownDevice updateInfra updateSensor
  split
  · rfl
  · split
    · rfl
    · split <;> rfl

theorem meshTick_routed : (s.meshTick env).routed = s.routed := by
  have confirmed : (s.confirmNext env).routed = s.routed := by
    unfold confirmNext
    split
    · unfold selectAndConfirm
      dsimp only
      split
      · rfl
      · split
        · rfl
        · split
          · exact sendPairConfirm_routed _ _ _
          · exact sendPairConfirm_routed _ _ _
    · rfl
  have closed : (s.meshPairingTick env).routed = s.routed := by
    unfold meshPairingTick
    split
    · rfl
    · rw [← confirmed]
      unfold closeCollection
      apply routed_of_out
      dsimp only
      split_ifs <;> rfl
  unfold meshTick
  dsimp only
  split
  · exact closed
  · split
    · have sent (t : MeshPlane) : ({ t with lastPairRequestSentMs := env.now } :
          MeshPlane).routed = t.routed := rfl
      rw [sent, sendPairRequest_routed, pingWhere_routed, closed]
    · rw [pingWhere_routed, closed]

theorem knownDevicesTick_routed :
    (s.knownDevicesTick env).routed = s.routed := by
  unfold knownDevicesTick
  split
  · rfl
  · simp

theorem factoryReset_routed : s.factoryReset.routed = s.routed := rfl

theorem forgetInfra_routed (pkt : PingDevice) :
    (s.forgetInfra env pkt).routed = s.routed := by
  unfold forgetInfra
  split
  · rfl
  · exact sendPingDevice_routed _ _ _ _

theorem forgetSensor_routed (pkt : PingDevice) :
    (s.forgetSensor env pkt).routed = s.routed := by
  unfold forgetSensor
  split
  · rfl
  · exact sendPingDevice_routed _ _ _ _

end Routed

section Stored

theorem SendsStored.of_same (same : s'.routed = s.routed) :
    SendsStored s s' := by
  intro dst sent
  exact .inl (same ▸ sent)

/-- The parent is stored where the table is not empty. -/
theorem parent_stored (linked : s.infra ≠ []) :
    s.parent.deviceId ∈ s.infraIds := by
  rcases listed : s.entries with _ | ⟨first, rest⟩
  · exact absurd (List.map_eq_nil_iff.mp listed) linked
  · rw [parent_eq listed, infraIds, listed]
    exact List.mem_cons_self

theorem backup_stored {index : Nat} {device : Infra}
    (found : s.infra[index]? = some device) :
    device.entry.deviceId ∈ s.infraIds := by
  have member : device ∈ s.infra := List.mem_of_getElem? found
  unfold infraIds entries
  rw [List.map_map]
  exact List.mem_map_of_mem member

theorem findInfra_stored {deviceId : UInt16} {index : Nat}
    (found : s.findInfra deviceId = some index) : deviceId ∈ s.infraIds := by
  obtain ⟨inside, same, -⟩ := List.findIdx?_eq_some_iff_getElem.mp found
  have id : s.infra[index].entry.deviceId = deviceId := by simpa using same
  rw [← id]
  exact backup_stored (List.getElem?_eq_getElem inside)

theorem sendDeviceUpdated_sendsStored {pkt : DeviceUpdated} {dstId : UInt16}
    {status : UInt8} (stored : dstId ∈ s.infraIds) :
    SendsStored s (s.sendDeviceUpdated env pkt dstId status) := by
  intro dst sent
  rw [sendDeviceUpdated_routed, List.mem_append] at sent
  rcases sent with before | sent
  · exact .inl before
  · rw [List.mem_singleton.mp sent]
    exact .inr stored

theorem sendJoinedNetwork_sendsStored {pkt : JoinedNetwork} {dstId : UInt16}
    {status : UInt8} (stored : dstId ∈ s.infraIds) :
    SendsStored s (s.sendJoinedNetwork env pkt dstId status) := by
  intro dst sent
  rw [sendJoinedNetwork_routed, List.mem_append] at sent
  rcases sent with before | sent
  · exact .inl before
  · rw [List.mem_singleton.mp sent]
    exact .inr stored

/-- The neighbours of the first state are those of the last. -/
theorem SendsStored.trans {t : MeshPlane} (first : SendsStored s t)
    (kept : t.infraIds ⊆ s'.infraIds) (second : SendsStored t s') :
    SendsStored s s' := by
  intro dst sent
  rcases second dst sent with before | stored
  · rcases first dst before with earlier | stored
    · exact .inl earlier
    · exact .inr (kept stored)
  · exact .inr stored

theorem SendsStored.after_quiet {t : MeshPlane} (quiet : t.routed = s.routed)
    (sends : SendsStored t s') : SendsStored s s' := by
  intro dst sent
  rw [← quiet]
  exact sends dst sent

/-- Whatever a handler added goes to a stored neighbour, also where it ends in
a reboot. -/
def SendsKnown (s : MeshPlane) : Except MeshPlane MeshPlane → Prop
  | .ok s' => SendsStored s s'
  | .error last => ∀ dst ∈ last.routed, dst ∈ s.routed ∨ dst ∈ s.infraIds

namespace SendsKnown

variable {t : MeshPlane} {result : Except MeshPlane MeshPlane}
  {answer : Except MeshPlane (MeshPlane × Bool)}

theorem of_quits (same : last.routed = s.routed) :
    SendsKnown s (.error last) := by
  intro dst sent
  exact .inl (same ▸ sent)

theorem ok (sends : SendsKnown s result) (up : result = .ok s') :
    SendsStored s s' := by
  rw [up] at sends
  exact sends

theorem error (sends : SendsKnown s result) (down : result = .error last) :
    SendsKnown s (.error last) := by
  rw [down] at sends
  exact sends

theorem flagged {flag : Bool} (sends : SendsKnown s (answer.map Prod.fst))
    (up : answer = .ok (s', flag)) : SendsStored s s' := by
  rw [up] at sends
  exact sends

theorem rebooted (sends : SendsKnown s (answer.map Prod.fst))
    (down : answer = .error last) : SendsKnown s (.error last) := by
  rw [down] at sends
  exact sends

theorem after_quiet (quiet : t.routed = s.routed)
    (ids : t.infraIds ⊆ s.infraIds) (sends : SendsKnown t result) :
    SendsKnown s result := by
  cases result with
  | ok after => exact SendsStored.after_quiet quiet sends
  | error last =>
    intro dst sent
    rw [← quiet]
    exact (sends dst sent).imp_right fun stored => ids stored

/-- A reboot after something was sent. -/
theorem after_sends (first : SendsStored s t) (ids : t.infraIds ⊆ s.infraIds)
    (down : SendsKnown t (.error last)) : SendsKnown s (.error last) := by
  intro dst sent
  rcases down dst sent with before | stored
  · exact (first dst before).imp_right fun stored => ids stored
  · exact .inr (ids stored)

end SendsKnown

theorem deviceInfoUpdate_sendsStored (up : s.deviceInfoUpdate env = .ok s') :
    SendsStored s s' := by
  unfold deviceInfoUpdate at up
  split at up
  · cases up
    exact .of_same rfl
  · split at up
    · cases up
      exact .of_same rfl
    · next linked =>
      split at up
      · cases up
      · dsimp only at up
        split at up
        · cases up
        · cases up
          split
          · intro dst sent
            exact sendDeviceUpdated_sendsStored (parent_stored linked) dst sent
          · exact .of_same rfl

theorem deviceInfoUpdate_quits (down : s.deviceInfoUpdate env = .error last) :
    last.routed = s.routed := by
  unfold deviceInfoUpdate at down
  split at down
  · cases down
  · split at down
    · cases down
    · split at down
      · cases down
        rfl
      · dsimp only at down
        split at down
        · cases down
          rfl
        · cases down

theorem deviceInfoUpdate_sends {t : MeshPlane} (quiet : t.routed = s.routed) :
    SendsKnown s (t.deviceInfoUpdate env) := by
  cases done : t.deviceInfoUpdate env with
  | ok after =>
    exact SendsStored.after_quiet quiet (deviceInfoUpdate_sendsStored done)
  | error last => exact .of_quits ((deviceInfoUpdate_quits done).trans quiet)

theorem addInfra_sends (entry : InfraRecord) :
    SendsKnown s ((s.addInfra env entry).map Prod.fst) := by
  unfold addInfra
  split
  · exact SendsStored.of_same rfl
  · next storage _ =>
    have sends : SendsKnown s ((s.setStorage storage).deviceInfoUpdate env) :=
      deviceInfoUpdate_sends rfl
    split
    · next done => exact sends.error done
    · next done => exact sends.ok done

theorem updateInfraStorage_sends (deviceId : UInt16) (hopNum : UInt8)
    (rssi2 : Int16) :
    SendsKnown s
      ((s.updateInfraStorage env deviceId hopNum rssi2).map Prod.fst) := by
  unfold updateInfraStorage
  split
  · exact SendsStored.of_same rfl
  · split
    · exact SendsStored.of_same rfl
    · split
      · exact SendsStored.of_same rfl
      · next storage _ =>
        have sends : SendsKnown s
            ((s.setStorage storage).deviceInfoUpdate env) :=
          deviceInfoUpdate_sends rfl
        split
        · next done => exact sends.error done
        · next done => exact sends.ok done

/-- The table after a neighbour was added, in the EEPROM or not. -/
theorem storageInfraAdd_ids (entry : InfraRecord) :
    s.storage.storageInfraAdd entry = (s.storage, some .enomem) ∨
      (s.setStorage (s.storage.storageInfraAdd entry).1).infraIds.Perm
        (s.infraIds ++ [entry.deviceId]) := by
  unfold Storage.storageInfraAdd
  split
  · exact .inl rfl
  · refine .inr ?_
    have perm := Storage.sortInfraDevices_perm
      { s.storage with infra := s.storage.infra.append { entry := entry } }
    unfold infraIds entries infra
    rw [setStorage_storage, flushInfra_infra]
    refine (perm.map InfraRecord.deviceId).trans (.of_eq ?_)
    simp [Storage.tables, RamTable.append]

theorem addInfra_joins {entry : InfraRecord}
    (up : s.addInfra env entry = .ok (s', true)) :
    entry.deviceId ∈ s'.infraIds := by
  unfold addInfra at up
  split at up
  · cases up
  · next storage added =>
    have ids := @storageInfraAdd_ids s entry
    rw [added] at ids
    split at up
    · cases up
    · next after done =>
      cases up
      have member : entry.deviceId ∈ (s.setStorage storage).infraIds := by
        rcases ids with full | perm
        · cases full
        · exact perm.mem_iff.mpr (List.mem_append_right _ List.mem_cons_self)
      have linked : (s.setStorage storage).infra ≠ [] := by
        intro empty
        rw [infraIds, entries, empty] at member
        cases member
      rw [infraIds, deviceInfoUpdate_entries linked done]
      exact member

/-- The flag is set for a known neighbour only. -/
theorem updateInfraStorage_known {deviceId : UInt16} {hopNum : UInt8}
    {rssi2 : Int16}
    (up : s.updateInfraStorage env deviceId hopNum rssi2 = .ok (s', true)) :
    deviceId ∈ s'.infraIds := by
  have perm := updateInfraStorage_perm up
  cases found : s.findInfra deviceId with
  | none =>
      rw [updateInfraStorage, found] at up
      cases up
  | some index => exact perm.mem_iff.mpr (findInfra_stored found)

theorem paired_ok {result : Except MeshPlane (MeshPlane × Bool)}
    (up : result.map Prod.fst = .ok s') : ∃ flag, result = .ok (s', flag) := by
  rcases result with last | ⟨after, flag⟩
  · cases up
  · cases up
    exact ⟨flag, rfl⟩

theorem refreshInfra_perm {srcId : UInt16} {hopNum : UInt8} {rssi2 : Int16}
    (up : s.refreshInfra env srcId hopNum rssi2 = .ok s') :
    s'.infraIds.Perm s.infraIds := by
  unfold refreshInfra at up
  split at up
  · cases up
  · next done =>
    have perm := updateInfraStorage_perm done
    cases up
    exact perm
  · next done =>
    have perm := updateInfraStorage_perm done
    cases up
    exact perm

theorem refreshInfra_sends (srcId : UInt16) (hopNum : UInt8) (rssi2 : Int16) :
    SendsKnown s (s.refreshInfra env srcId hopNum rssi2) := by
  have updates : SendsKnown s
      ((s.updateInfraStorage env srcId hopNum rssi2).map Prod.fst) :=
    updateInfraStorage_sends srcId hopNum rssi2
  unfold refreshInfra
  split
  · next done => exact updates.rebooted done
  · next done =>
    exact (updates.flagged done).trans (List.Subset.refl _)
      (sendDeviceUpdated_sendsStored (updateInfraStorage_known done))
  · next done => exact updates.flagged done

theorem dropInfra_sends (deviceId : UInt16) :
    SendsKnown s (s.dropInfra env deviceId) := by
  unfold dropInfra
  split
  · exact SendsStored.of_same rfl
  · exact deviceInfoUpdate_sends rfl

end Stored

end MeshPlane

end DectMesh
