import DectMesh.Mesh.Parent
import DectMesh.Mesh.Spares

/-!
# The answers of the handshakes

Only `handle_pair_confirm` and `handle_repair_request` send the packets on
which a neighbour is stored at the other end.
-/

namespace DectMesh

namespace MeshPlane

variable {env : MeshEnv} {s s' : MeshPlane}

section Silent

theorem addCandidate_answers (candidate : Candidate) :
    (s.addCandidate env candidate).answers = s.answers := by
  unfold addCandidate
  dsimp only
  repeat' split
  all_goals rfl

theorem handlePairResponse_answers
    (pkt : PairResponse) (srcId : UInt16) (rssi2 : Int16) :
    (s.handlePairResponse env pkt srcId rssi2).answers = s.answers := by
  have untracked :
      (s.put (.untrack pkt.hdr.trackingId)).answers = s.answers :=
    put_answers rfl
  unfold handlePairResponse
  split
  · rfl
  · split
    · rfl
    · simp only
      split
      · exact untracked
      · split
        · exact untracked
        · exact untracked
        · split
          · exact (put_answers rfl).trans untracked
          · exact (addCandidate_answers _).trans untracked
        · split
          · exact untracked
          · split
            · exact (put_answers rfl).trans untracked
            · exact (addCandidate_answers _).trans untracked

theorem selectAndConfirm_answers (idx : Int) :
    (s.selectAndConfirm env idx).answers = s.answers := by
  unfold selectAndConfirm
  simp only
  split
  · rfl
  · split
    · rfl
    · split
      · exact put_answers rfl
      · exact put_answers rfl

theorem meshPairingTick_answers :
    (s.meshPairingTick env).answers = s.answers := by
  have confirmed : (s.confirmNext env).answers = s.answers := by
    unfold confirmNext
    split
    · exact @selectAndConfirm_answers env { s with processNextRequest := false }
        (s.respCandidateCount - s.respCandidateIdx)
    · rfl
  unfold meshPairingTick
  split
  · rfl
  · refine Eq.trans ?_ confirmed
    unfold closeCollection
    split
    · simp only
      split
      · rfl
      · rfl
    · rfl

theorem handlePingDevice_answers
    (pkt : PingDevice) (srcId : UInt16) (rssi2 : Int16) :
    (plane (s.handlePingDevice env pkt srcId rssi2)).answers = s.answers := by
  unfold handlePingDevice
  split
  · rfl
  · by_cases keeps : keepsDevice pkt.hdr.status = true
    · simp only [keeps, if_true]
      split
      · exact (answerPing_spares _ _ _).answers
      · exact (answerPing_spares _ _ _).answers
    · simp only [keeps, Bool.false_eq_true, if_false]
      have forgotten := (@forget_spares env s pkt).answers
      split
      · exact (answerPing_spares _ _ _).answers.trans forgotten
      · exact (put_answers rfl).trans forgotten

theorem meshTick_answers : (s.meshTick env).answers = s.answers :=
  meshTick_spares.answers.trans meshPairingTick_answers

end Silent

section Stored

/-- `infra_devices` or `sensor_devices` has an entry of this device. -/
def Stores (s : MeshPlane) (deviceId : UInt16) : Prop :=
  (∃ known ∈ s.entries, known.deviceId = deviceId) ∨
    ∃ known ∈ s.sensors, known.entry.deviceId = deviceId

/-- The two statuses under which a `PAIR_ACK` counts as accepted. -/
def pairedStatus (status : UInt8) : Bool :=
  status = statusSuccess ∨ status = statusAlreadyExists

/-- Every answer that accepts a device is about a device that is stored. -/
def Honest (s : MeshPlane) : Prop :=
  ∀ hdr ∈ s.answers, pairedStatus hdr.status = true → s.Stores hdr.deviceId

theorem Honest.of_silent (silent : s.answers = []) : s.Honest := by
  intro hdr member
  rw [silent] at member
  cases member

/-- An answer to a device that is stored, or one that refuses it. -/
theorem Honest.answer
    {action : MeshAction} {hdr : PacketHeader} (silent : s.answers = [])
    (answers : action.pairingAnswer = some hdr)
    (stored : pairedStatus hdr.status = true → s.Stores hdr.deviceId) :
    (s.put action).Honest := by
  intro other member accepted
  have only : (s.put action).answers = [hdr] := by
    simp only [MeshPlane.answers] at silent
    simp [MeshPlane.answers, put, silent, answers]
  rw [only, List.mem_singleton] at member
  subst member
  exact stored accepted

theorem checkInfraStorage_exists
    {deviceId : UInt16}
    (status : s.checkInfraStorage deviceId false = statusAlreadyExists) :
    s.Stores deviceId := by
  simp only [checkInfraStorage, Bool.false_eq_true, if_false] at status
  split at status
  · next index found =>
    obtain ⟨inside, same, -⟩ := List.findIdx?_eq_some_iff_getElem.mp found
    exact .inl ⟨_, List.mem_map_of_mem (List.getElem_mem inside),
      of_decide_eq_true same⟩
  · split at status
    · cases status
    · cases status

theorem checkSensorStorage_exists
    {deviceId : UInt16}
    (status : s.checkSensorStorage deviceId = statusAlreadyExists) :
    s.Stores deviceId := by
  simp only [checkSensorStorage] at status
  split at status
  · next index found =>
    obtain ⟨inside, same, -⟩ := List.findIdx?_eq_some_iff_getElem.mp found
    exact .inr ⟨_, List.getElem_mem inside, of_decide_eq_true same⟩
  · split at status
    · cases status
    · cases status

/-- What `storage_infra_add` leaves in RAM when it reports success. -/
theorem storageInfraAdd_live
    {storage after : Storage} {entry : InfraRecord}
    (added : storage.storageInfraAdd entry = (after, none)) :
    (after.infra.live.map Neighbour.entry).Perm
      (storage.infra.live.map Neighbour.entry ++ [entry]) := by
  unfold Storage.storageInfraAdd at added
  split at added
  · cases added
  · have kept := flushInfra_infra (Storage.sortInfraDevices
      { storage with infra := storage.infra.append { entry := entry } })
    rw [added] at kept
    have sorted := Storage.sortInfraDevices_perm
      { storage with infra := storage.infra.append { entry := entry } }
    have live : after.infra.live.map Neighbour.entry =
        (Storage.sortInfraDevices { storage with
          infra := storage.infra.append { entry := entry } }).tables.infra :=
      congrArg (fun table => table.live.map Neighbour.entry) kept
    rw [live]
    refine sorted.trans ?_
    simp [Storage.tables, RamTable.append]

/-- `device_info_update` keeps a table that is not empty. -/
theorem deviceInfoUpdate_entries
    (known : s.infra ≠ []) (up : s.deviceInfoUpdate env = .ok s') :
    s'.entries = s.entries := by
  unfold deviceInfoUpdate at up
  split at up
  · cases up
    rfl
  · split at up
    · cases up
    · simp only at up
      split at up
      · cases up
      · cases up
        simp only [entries]
        split
        · rfl
        · rfl

theorem addInfra_stored
    {entry : InfraRecord} (stored : s.addInfra env entry = .ok (s', true)) :
    s'.Stores entry.deviceId := by
  unfold addInfra at stored
  split at stored
  · cases stored
  · next storage added =>
    have live := storageInfraAdd_live added
    have member : entry ∈ (s.setStorage storage).entries :=
      live.mem_iff.mpr (by simp)
    have known : (s.setStorage storage).infra ≠ [] := by
      intro empty
      rw [entries, empty] at member
      cases member
    split at stored
    · cases stored
    · next after up =>
      cases stored
      refine .inl ⟨entry, ?_, rfl⟩
      rw [deviceInfoUpdate_entries known up]
      exact member

theorem addSensor_stored
    {deviceId version : UInt16}
    (stored : s.addSensor deviceId version = (s', true)) :
    s'.Stores deviceId := by
  unfold addSensor at stored
  split at stored
  · cases stored
  · next storage added =>
    cases stored
    unfold Storage.storageSensorAdd at added
    split at added
    · cases added
    · have kept : storage.sensors =
          s.storage.sensors.append { entry :=
            { deviceId := deviceId, version := version } } := by
        unfold Storage.flushSensorsToEeprom at added
        split at added
        · cases added
        · cases (Prod.mk.inj added).1
          rfl
      refine .inr ⟨{ entry :=
        { deviceId := deviceId, version := version } }, ?_, rfl⟩
      simp [sensors, kept, RamTable.append]

/-- The part that two handlers share stores what it accepts. -/
theorem admitNeighbour_honest
    {deviceType : UInt8} {srcId version : UInt16} {wanted : Bool}
    {entry : InfraRecord} {answer : MeshPlane → UInt8 → MeshAction}
    {header : UInt8 → PacketHeader} (silent : s.answers = [])
    (answers : ∀ s status,
      (answer s status).pairingAnswer = some (header status))
    (addressed : ∀ status, (header status).deviceId = srcId)
    (told : ∀ status, (header status).status = status)
    (id : entry.deviceId = srcId)
    (taken : deviceType = DeviceType.anchor.code →
      s.checkInfraStorage srcId false = statusSuccess → wanted = true) :
    (plane (s.admitNeighbour env deviceType srcId version wanted entry
      fun s status => s.put (answer s status))).Honest := by
  have refused {status : UInt8} (fail : status ≠ statusSuccess)
      (known : status = statusAlreadyExists → s.Stores srcId) :
      (s.put (answer s status)).Honest := by
    refine .answer silent (answers _ _) fun accepted => ?_
    rw [told] at accepted
    rw [addressed]
    rcases of_decide_eq_true accepted with success | exists'
    · exact absurd success fail
    · exact known exists'
  unfold admitNeighbour
  split
  · next isAnchor =>
    simp only
    split
    · have added := (@addInfra_spares env s entry).answers
      split
      · next s' down =>
        rw [down] at added
        exact .of_silent (added.trans silent)
      · next s' failed =>
        rw [failed] at added
        exact .of_silent (added.trans silent)
      · next s' stored =>
        have here := addInfra_stored stored
        rw [stored] at added
        refine .answer (added.trans silent) (answers _ _) fun _ => ?_
        rw [addressed, ← id]
        exact here
    · next notTaken =>
      exact refused (fun success => notTaken ⟨success, taken isAnchor success⟩)
        checkInfraStorage_exists
  · split
    · simp only
      split
      · have added := (@addSensor_spares s srcId version).answers
        split
        · next s' failed =>
          rw [failed] at added
          exact .of_silent (added.trans silent)
        · next s' stored =>
          have here := addSensor_stored stored
          rw [stored] at added
          refine .answer (added.trans silent) (answers _ _) fun _ => ?_
          rw [addressed]
          exact here
      · next fail => exact refused fail checkSensorStorage_exists
    · exact .of_silent silent

theorem handlePairConfirm_honest
    (silent : s.answers = []) (pkt : PairConfirm) (srcId : UInt16)
    (rssi2 : Int16) :
    (plane (s.handlePairConfirm env pkt srcId rssi2)).Honest := by
  unfold handlePairConfirm
  split
  · exact .of_silent silent
  · have admitted := @admitNeighbour_honest env s pkt.hdr.deviceType srcId
      pkt.version true (s.confirmedInfra pkt srcId rssi2)
      (fun s status => .reply (.pairAck
        { hdr := env.replyHeader srcId packetPriorityHigh pkt.hdr.trackingId
            status
          hopNum := s.hopNum }))
      (env.replyHeader srcId packetPriorityHigh pkt.hdr.trackingId) silent
      (fun _ _ => rfl) (fun _ => rfl) (fun _ => rfl) rfl fun _ _ => rfl
    split
    · exact admitted
    · exact admitted
    · exact .of_silent silent
    · exact .of_silent silent

/-- A `REPAIR_REQUEST` of an anchor without a hop number is accepted, but the
anchor is not stored. -/
def ConfirmsUnstored
    (env : MeshEnv) (s : MeshPlane) (pkt : RepairRequest) (srcId : UInt16) :
    Prop :=
  (env.deviceType = .gateway ∨ env.deviceType = .anchor) ∧
    env.accepts pkt.hdr = true ∧
      pkt.hash = computePairHash srcId pkt.randomNum ∧
        pkt.hdr.deviceType = DeviceType.anchor.code ∧ pkt.hopNum = 0xFF ∧
          s.checkInfraStorage srcId false = statusSuccess

theorem handleRepairRequest_honest
    {pkt : RepairRequest} {srcId : UInt16} (silent : s.answers = [])
    (stores : ¬ s.ConfirmsUnstored env pkt srcId) (rssi2 : Int16) :
    (plane (s.handleRepairRequest env pkt srcId rssi2)).Honest := by
  unfold handleRepairRequest
  split
  · exact .of_silent silent
  · next accepted =>
    split
    · have refused : pairedStatus statusAuthFailed ≠ true := by decide
      exact .answer silent rfl fun paired => absurd paired refused
    · next authentic =>
      have admitted
          (role : env.deviceType = .gateway ∨ env.deviceType = .anchor) :=
        @admitNeighbour_honest env s pkt.hdr.deviceType srcId pkt.version
          (pkt.hopNum ≠ 0xFF) (repairedInfra pkt srcId rssi2)
          (fun s status => .reply (.repairResponse
            { hdr := env.replyHeader srcId packetPriorityHigh
                pkt.hdr.trackingId status
              version := 0
              hopNum := s.hopNum }))
          (env.replyHeader srcId packetPriorityHigh pkt.hdr.trackingId) silent
          (fun _ _ => rfl) (fun _ => rfl) (fun _ => rfl) rfl
          fun isAnchor success => by
            by_contra unwanted
            exact stores ⟨role, by simpa using accepted,
              not_not.mp authentic, isAnchor, by simpa using unwanted, success⟩
      split
      · next isGateway => exact admitted (.inl isGateway)
      · next isAnchor => exact admitted (.inr isAnchor)
      · exact .of_silent silent
      · exact .of_silent silent

/-- The event does not confirm a neighbour that is not stored. -/
def StoresFirst (env : MeshEnv) (s : MeshPlane) : Event → Prop
  | .repairRequest pkt srcId _ => ¬ s.ConfirmsUnstored env pkt srcId
  | _ => True

theorem handle_honest
    {event : Event} (silent : s.answers = [])
    (stores : s.StoresFirst env event) :
    (plane (s.handle env event)).Honest := by
  have spared (spares : event.Spared) :
      (plane (s.handle env event)).Honest :=
    .of_silent ((handle_spares spares).answers.trans silent)
  cases event with
  | pairConfirm pkt srcId rssi2 =>
      exact handlePairConfirm_honest silent pkt srcId rssi2
  | repairRequest pkt srcId rssi2 =>
      exact handleRepairRequest_honest silent stores rssi2
  | pairResponse pkt srcId rssi2 =>
      exact .of_silent
        ((handlePairResponse_answers pkt srcId rssi2).trans silent)
  | pingDevice pkt srcId rssi2 =>
      exact .of_silent ((handlePingDevice_answers pkt srcId rssi2).trans silent)
  | meshTick => exact .of_silent (meshTick_answers.trans silent)
  | _ => exact spared trivial

/-- A board that starts answers nothing. -/
theorem boot_answers (env : MeshEnv) (rom : Eeprom) :
    (plane (boot env rom)).answers = [] :=
  (boot_spares env rom).answers

end Stored

end MeshPlane

end DectMesh
