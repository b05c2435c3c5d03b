import DectMesh.Mesh.Parent

/-!
# The parent in every run

The handlers that add, update and remove infrastructure neighbours keep the
parent coherent, except for those that `ParentKept` names.
-/

namespace DectMesh

namespace MeshPlane

variable {env : MeshEnv} {s s' : MeshPlane}

section Condition

variable (env : MeshEnv) (s : MeshPlane)

/-- The parent is not the device that a `PING_DEVICE` takes out of the
tables. -/
def NotParent (deviceId : UInt16) : Prop :=
  ∀ parent ∈ s.entries.head?, parent.deviceId ≠ deviceId

/-- The sender of a `PING_DEVICE` is an upstream neighbour that stays. -/
def HeardFromOther (pkt : PingDevice) (srcId : UInt16) : Prop :=
  env.deviceType = .anchor ∧ isUpstreamType pkt.hdr.deviceType = true ∧
    srcId ≠ pkt.dstDeviceId ∧ ∃ known ∈ s.entries, known.deviceId = srcId

/-- What an event must not do for the parent to stay coherent: a sensor must
not lose or regain its parent other than by a pairing, and a `PING_DEVICE` must
not take the parent out of the table, unless another neighbour sent it.  The
EEPROM takes the entries that are added or updated. -/
def ParentKept (failures : List (Option Leftover)) : Event → Prop
  | .pairConfirm _ _ _ | .pairAck _ _ _ | .repairRequest _ _ _
  | .pingAck _ _ _ => failures = []
  | .repairResponse pkt _ _ =>
      failures = [] ∧
        (env.deviceType = .sensor → env.accepts pkt.hdr = true →
          (pkt.hdr.status = statusSuccess ∨
            pkt.hdr.status = statusAlreadyExists ∨
              pkt.hdr.status = statusStorageFull) →
            isUpstreamType pkt.hdr.deviceType = true → s.entries ≠ [])
  | .pingDevice pkt srcId _ =>
      failures = [] ∧
        (env.accepts pkt.hdr = true → keepsDevice pkt.hdr.status = false →
          (pkt.dstDeviceId = env.deviceId → s.entries = []) ∧
            (pkt.dstDeviceId ≠ env.deviceId →
              s.NotParent pkt.dstDeviceId ∨ s.HeardFromOther env pkt srcId))
  | .trackerExhausted _ isPairing _ =>
      env.deviceType = .sensor → isPairing = false → s.entries = []
  | _ => True

end Condition

section Handlers

theorem admitNeighbour_holds
    {deviceType : UInt8} {srcId version : UInt16} {wanted : Bool}
    {entry : InfraRecord} {answer : MeshPlane → UInt8 → MeshPlane}
    (answers : ∀ s status, SameParent s (answer s status))
    (notSensor : env.deviceType ≠ .sensor)
    (reliable : s.storage.eeprom.Reliable) (held : Held env.deviceType s) :
    Holds env.deviceType
      (s.admitNeighbour env deviceType srcId version wanted entry answer) := by
  unfold admitNeighbour
  split
  · simp only
    split
    · have added := @addInfra_holds env s entry notSensor reliable held
      split
      · exact .error
      · next s' failed => exact .ok (added.pair failed)
      · next s' stored => exact .ok ((answers _ _).held (added.pair stored))
    · exact .ok ((answers _ _).held held)
  · split
    · simp only
      split
      · have added := (@addSensor_parent s srcId version).held held
        split
        · next s' failed =>
          rw [failed] at added
          exact .ok added
        · next s' stored =>
          rw [stored] at added
          exact .ok ((answers _ _).held added)
      · exact .ok ((answers _ _).held held)
    · exact .ok held

theorem handlePairConfirm_holds
    (reliable : s.storage.eeprom.Reliable) (held : Held env.deviceType s)
    (pkt : PairConfirm) (srcId : UInt16) (rssi2 : Int16) :
    Holds env.deviceType (s.handlePairConfirm env pkt srcId rssi2) := by
  unfold handlePairConfirm
  split
  · exact .ok held
  · have admitted (notSensor : env.deviceType ≠ .sensor) :=
      @admitNeighbour_holds env s pkt.hdr.deviceType srcId pkt.version true
        (s.confirmedInfra pkt srcId rssi2)
        (fun s status => s.sendPairAck env srcId pkt.hdr.trackingId status)
        (fun _ _ => ⟨rfl, rfl, rfl⟩) notSensor reliable held
    split
    · next isGateway => exact admitted (by simp [isGateway])
    · next isAnchor => exact admitted (by simp [isAnchor])
    · exact .ok held
    · exact .ok held

theorem handleRepairRequest_holds
    (reliable : s.storage.eeprom.Reliable) (held : Held env.deviceType s)
    (pkt : RepairRequest) (srcId : UInt16) (rssi2 : Int16) :
    Holds env.deviceType (s.handleRepairRequest env pkt srcId rssi2) := by
  unfold handleRepairRequest
  split
  · exact .ok held
  · split
    · have answered : SameParent s
          (s.sendRepairResponse env srcId pkt.hdr.trackingId
            statusAuthFailed) := ⟨rfl, rfl, rfl⟩
      exact .ok (answered.held held)
    · have admitted (notSensor : env.deviceType ≠ .sensor) :=
        @admitNeighbour_holds env s pkt.hdr.deviceType srcId pkt.version
          (pkt.hopNum ≠ 0xFF) (repairedInfra pkt srcId rssi2)
          (fun s status =>
            s.sendRepairResponse env srcId pkt.hdr.trackingId status)
          (fun _ _ => ⟨rfl, rfl, rfl⟩) notSensor reliable held
      split
      · next isGateway => exact admitted (by simp [isGateway])
      · next isAnchor => exact admitted (by simp [isAnchor])
      · exact .ok held
      · exact .ok held

theorem sendJoined_parent
    (asked : Prop) [Decidable asked] (pkt : JoinedNetwork) (dstId : UInt16)
    (status : UInt8) :
    SameParent s
      (if asked then s.sendJoinedNetwork env pkt dstId status else s) := by
  split
  · exact ⟨rfl, rfl, rfl⟩
  · exact .refl s

/-- A sensor takes the id of the first neighbour it stores. -/
theorem buildJoinedNetwork_holds
    (reliable : s.storage.eeprom.Reliable) (held : Held env.deviceType s)
    (alone : env.deviceType = .sensor → s.infra = [])
    (pkt : PairAck) (srcId : UInt16) (rssi2 : Int16) :
    Holds env.deviceType (s.buildJoinedNetwork env pkt srcId rssi2) := by
  unfold buildJoinedNetwork
  by_cases isSensor : env.deviceType = .sensor
  · obtain ⟨storage, added, stored⟩ :=
      @addInfra_first env s (pairedInfra pkt srcId rssi2) isSensor reliable
        (alone isSensor)
    rw [added]
    simp only [isSensor, if_true]
    refine .ok ((sendJoined_parent _ _ _ _).held ⟨?_, fun _ => ?_⟩)
    · have entries : ({ s.setStorage storage with
          connectedDeviceId := srcId } : MeshPlane).entries =
            [pairedInfra pkt srcId rssi2] := stored
      simp only [Coherent, entries]
      rfl
    · exact (congrArg List.length stored).le
  · have added := @addInfra_holds env s (pairedInfra pkt srcId rssi2) isSensor
      reliable held
    split
    · exact .error
    · next s' failed => exact .ok (added.pair failed)
    · next s' stored =>
      simp only [isSensor, if_false]
      exact .ok ((sendJoined_parent _ _ _ _).held (added.pair stored))

theorem handlePairAck_holds
    (reliable : s.storage.eeprom.Reliable) (held : Held env.deviceType s)
    (pkt : PairAck) (srcId : UInt16) (rssi2 : Int16) :
    Holds env.deviceType (s.handlePairAck env pkt srcId rssi2) := by
  have untracked : SameParent s (s.put (.untrack pkt.hdr.trackingId)) :=
    ⟨rfl, rfl, rfl⟩
  have waiting := untracked.held held
  have working :
      (s.put (.untrack pkt.hdr.trackingId)).storage.eeprom.Reliable := reliable
  unfold handlePairAck
  split
  · exact .ok held
  · simp only
    split
    · exact .ok waiting
    · split
      · exact .ok waiting
      · exact .ok waiting
      · next isAnchor =>
        split
        · exact buildJoinedNetwork_holds working waiting
            (fun isSensor => by simp [isAnchor] at isSensor) pkt srcId rssi2
        · exact .ok waiting
      · split
        · next accepted =>
          exact buildJoinedNetwork_holds working waiting
            (fun _ => checkInfraStorage_single accepted.2) pkt srcId rssi2
        · exact .ok waiting

theorem handleRepairResponse_holds
    (reliable : s.storage.eeprom.Reliable) (held : Held env.deviceType s)
    {pkt : RepairResponse}
    (paired : env.deviceType = .sensor → env.accepts pkt.hdr = true →
      (pkt.hdr.status = statusSuccess ∨
        pkt.hdr.status = statusAlreadyExists ∨
          pkt.hdr.status = statusStorageFull) →
        isUpstreamType pkt.hdr.deviceType = true → s.entries ≠ [])
    (srcId : UInt16) (rssi2 : Int16) :
    Holds env.deviceType (s.handleRepairResponse env pkt srcId rssi2) := by
  have untracked : SameParent s (s.put (.untrack pkt.hdr.trackingId)) :=
    ⟨rfl, rfl, rfl⟩
  have waiting := untracked.held held
  have working :
      (s.put (.untrack pkt.hdr.trackingId)).storage.eeprom.Reliable := reliable
  unfold handleRepairResponse
  split
  · exact .ok held
  · next accepted =>
    simp only
    split
    · exact .ok waiting
    · next answered =>
      split
      · exact .ok waiting
      · next upstream =>
        split
        · exact .ok waiting
        · exact .ok waiting
        · next isAnchor =>
          have notSensor : env.deviceType ≠ .sensor := by simp [isAnchor]
          split
          · exact dropInfra_holds notSensor waiting srcId
          · split
            · exact updateInfraStorage_holds working waiting _ _ _
            · split
              · exact addInfra_holds notSensor working waiting
              · exact .ok waiting
        · next isSensor =>
          split
          · exact updateInfraStorage_holds working waiting _ _ _
          · split
            · next free =>
              have empty : s.infra = [] := checkInfraStorage_single free
              refine absurd (List.map_eq_nil_iff.mpr empty)
                (paired isSensor (by simpa using accepted) ?_
                  (by simpa using upstream))
              by_contra refused
              simp only [not_or] at refused
              exact answered refused
            · exact .ok waiting

end Handlers

section Sessions

variable {role : DeviceType}

theorem Coherent.sameHead
    (before : Coherent role s) (head : s'.entries.head? = s.entries.head?)
    (hopNum : s'.hopNum = s.hopNum)
    (id : s'.connectedDeviceId = s.connectedDeviceId) : Coherent role s' := by
  rcases old : s.entries with _ | ⟨first, rest⟩
  · rw [old, List.head?_nil, List.head?_eq_none_iff] at head
    simp only [Coherent, old] at before
    simp only [Coherent, head, hopNum, id]
    exact before
  · rcases new : s'.entries with _ | ⟨first', rest'⟩
    · simp [old, new] at head
    · rw [old, new, List.head?_cons, List.head?_cons] at head
      cases Option.some.inj head
      simp only [Coherent, old] at before
      simp only [Coherent, new, hopNum, id]
      cases role with
      | anchor => exact before
      | sensor => exact before
      | gateway => trivial
      | unknown => trivial

theorem findInfra_entry
    {deviceId : UInt16} {index : Nat}
    (found : s.findInfra deviceId = some index) :
    ∃ entry, s.entries[index]? = some entry ∧ entry.deviceId = deviceId := by
  obtain ⟨inside, same, -⟩ := List.findIdx?_eq_some_iff_getElem.mp found
  refine ⟨(s.infra[index]).entry, ?_, of_decide_eq_true same⟩
  simp [entries, inside]

theorem findInfra_known
    {deviceId : UInt16} {known : InfraRecord} (member : known ∈ s.entries)
    (same : known.deviceId = deviceId) : s.findInfra deviceId ≠ none :=
  fun missing => findInfra_none missing known member same

theorem forgetInfra_entries (pkt : PingDevice) :
    (s.forgetInfra env pkt).entries =
      match s.findInfra pkt.dstDeviceId with
      | none => s.entries
      | some index => s.entries.eraseIdx index := by
  rcases found : s.findInfra pkt.dstDeviceId with _ | index
  · simp only [forgetInfra, found]
  · have live := storageInfraRemove_live s.storage index
    simp only [forgetInfra, found]
    exact (congrArg (List.map Neighbour.entry) live).trans
      (List.eraseIdx_map ..).symm

theorem forgetSensor_parent (pkt : PingDevice) :
    SameParent s (s.forgetSensor env pkt) := by
  unfold forgetSensor
  split
  · exact .refl s
  · next index found =>
    have removed := storageSensorRemove_infra s.storage index
    exact ⟨congrArg (fun table => table.live.map Neighbour.entry) removed, rfl,
      rfl⟩

/-- The parent stays when another neighbour is forgotten. -/
theorem forgetInfra_held
    {pkt : PingDevice} (other : s.NotParent pkt.dstDeviceId)
    (held : Held role s) : Held role (s.forgetInfra env pkt) := by
  have after := @forgetInfra_entries env s pkt
  rcases found : s.findInfra pkt.dstDeviceId with _ | index
  · have same : s.forgetInfra env pkt = s := by
      simp only [forgetInfra, found]
    rw [same]
    exact held
  · rw [found] at after
    obtain ⟨entry, here, id⟩ := findInfra_entry found
    have unchanged : (s.forgetInfra env pkt).hopNum = s.hopNum ∧
        (s.forgetInfra env pkt).connectedDeviceId = s.connectedDeviceId := by
      simp only [forgetInfra, found]
      exact ⟨rfl, rfl⟩
    rcases listed : s.entries with _ | ⟨first, rest⟩
    · simp [listed] at here
    · cases index with
      | zero =>
          rw [listed, List.getElem?_cons_zero] at here
          refine absurd ?_ (other first (by simp [listed]))
          rw [Option.some.inj here]
          exact id
      | succ index =>
          refine ⟨held.coherent.sameHead ?_ unchanged.1 unchanged.2, ?_⟩
          · simp [after, listed]
          · intro isSensor
            rw [after]
            exact (List.length_eraseIdx_le _ _).trans (held.single isSensor)

/-- Another neighbour stays when one is forgotten. -/
theorem forgetInfra_member
    {pkt : PingDevice} {known : InfraRecord} (member : known ∈ s.entries)
    (other : known.deviceId ≠ pkt.dstDeviceId) :
    known ∈ (s.forgetInfra env pkt).entries := by
  rw [forgetInfra_entries]
  rcases found : s.findInfra pkt.dstDeviceId with _ | index
  · exact member
  · obtain ⟨entry, here, id⟩ := findInfra_entry found
    obtain ⟨inside, rfl⟩ := List.getElem?_eq_some_iff.mp here
    have members := (List.getElem_cons_eraseIdx_perm inside).mem_iff.mpr member
    rcases List.mem_cons.mp members with same | rest
    · exact absurd (same ▸ id) other
    · exact rest

theorem refreshInfra_holds
    {srcId : UInt16} {hopNum : UInt8} {rssi2 : Int16}
    (updated : Holds role
      ((s.updateInfraStorage env srcId hopNum rssi2).map Prod.fst)) :
    Holds role (s.refreshInfra env srcId hopNum rssi2) := by
  unfold refreshInfra
  split
  · exact .error
  · next s' changed =>
    have reported : SameParent s' (s'.sendDeviceUpdated env
        (s'.selfUpdate env 0xFFFF s'.hopNum) srcId statusSuccess) :=
      ⟨rfl, rfl, rfl⟩
    exact .ok (reported.held (updated.pair changed))
  · next s' kept => exact .ok (updated.pair kept)

/-- The answer to a ping keeps the parent when it refreshes the sender's
entry. -/
theorem answerPing_anchor
    (isAnchor : env.deviceType = .anchor) {pkt : PingDevice} {srcId : UInt16}
    {rssi2 : Int16}
    (quiet : isUpstreamType pkt.hdr.deviceType = false →
      Held .anchor (s.reportSensorHolder env pkt))
    (updated : isUpstreamType pkt.hdr.deviceType = true →
      Holds .anchor (((s.reportSensorHolder env pkt).updateInfraStorage env
        srcId pkt.hopNum rssi2).map Prod.fst)) :
    Holds .anchor (s.answerPing env pkt srcId rssi2) := by
  unfold answerPing
  split
  · next isGateway => rw [isAnchor] at isGateway; cases isGateway
  · next isUnknown => rw [isAnchor] at isUnknown; cases isUnknown
  · simp only
    split
    · next notUpstream => exact .ok (quiet (by simpa using notUpstream))
    · next upstream =>
      have refreshed := refreshInfra_holds (updated (by simpa using upstream))
      split
      · exact .error
      · next s' up =>
        split
        · have answered : SameParent s' (s'.sendPingAck env srcId
              pkt.dstDeviceId pkt.hdr.trackingId statusPingDevice) :=
            ⟨rfl, rfl, rfl⟩
          exact .ok (answered.held (refreshed s' up))
        · have adopted : SameParent s' (s'.adoptNetwork env pkt) :=
            ⟨rfl, rfl, rfl⟩
          have pinged := adopted.trans (@pingKnownDevices_parent env
            (s'.adoptNetwork env pkt) pkt.dstDeviceId pkt.hdr.status)
          have answered : SameParent s'
              (((s'.adoptNetwork env pkt).pingKnownDevices env
                pkt.dstDeviceId pkt.hdr.status).sendPingAck env srcId
                  pkt.dstDeviceId pkt.hdr.trackingId statusSuccess) :=
            ⟨pinged.entries, pinged.hopNum, pinged.connectedDeviceId⟩
          exact .ok (answered.held (refreshed s' up))
  · next isSensor => rw [isAnchor] at isSensor; cases isSensor

theorem answerPing_holds
    (reliable : s.storage.eeprom.Reliable) (held : Held env.deviceType s)
    (pkt : PingDevice) (srcId : UInt16) (rssi2 : Int16) :
    Holds env.deviceType (s.answerPing env pkt srcId rssi2) := by
  by_cases isAnchor : env.deviceType = .anchor
  · have reported := (@reportSensorHolder_parent env s pkt).held held
    have working :
        (s.reportSensorHolder env pkt).storage.eeprom.Reliable := by
      rw [reportSensorHolder_storage]
      exact reliable
    have updated := updateInfraStorage_holds working reported srcId pkt.hopNum
      rssi2
    rw [isAnchor] at reported updated ⊢
    exact answerPing_anchor isAnchor (fun _ => reported) fun _ => updated
  · unfold answerPing
    split
    · exact .ok held
    · exact .ok held
    · contradiction
    · split
      · exact .ok held
      · have timed : SameParent s (s.setMeshTime env pkt.timestamp) :=
          ⟨rfl, rfl, rfl⟩
        have updated := @updateInfraStorage_holds env
          (s.setMeshTime env pkt.timestamp) reliable (timed.held held) srcId
          pkt.hopNum rssi2
        split
        · exact .error
        · next s' changed up =>
          have answered : SameParent s' (s'.sendPingAck env srcId
              pkt.dstDeviceId pkt.hdr.trackingId statusSuccess) :=
            ⟨rfl, rfl, rfl⟩
          exact .ok (answered.held (updated.pair up))

theorem forget_heard
    {pkt : PingDevice} {srcId : UInt16} (heard : s.HeardFromOther env pkt srcId)
    (reliable : s.storage.eeprom.Reliable) (rssi2 : Int16) :
    Holds .anchor
      (((s.forgetInfra env pkt).forgetSensor env pkt).answerPing env pkt srcId
        rssi2) := by
  obtain ⟨isAnchor, upstream, other, known, member, same⟩ := heard
  have working :=
    (@forget_moves env s env.deviceType pkt).reliable reliable
  have inside : known ∈
      ((s.forgetInfra env pkt).forgetSensor env pkt).entries := by
    rw [(forgetSensor_parent pkt).entries]
    exact forgetInfra_member member (same ▸ other)
  refine answerPing_anchor isAnchor (fun notUpstream => ?_) fun _ => ?_
  · rw [upstream] at notUpstream
    cases notUpstream
  · have reported := @reportSensorHolder_parent env
      ((s.forgetInfra env pkt).forgetSensor env pkt) pkt
    have updated := @updateInfraStorage_found env
      (((s.forgetInfra env pkt).forgetSensor env pkt).reportSensorHolder env
        pkt) srcId (by simp [isAnchor])
      (by rw [reportSensorHolder_storage]; exact working)
      (findInfra_known (reported.entries ▸ inside) same) pkt.hopNum rssi2
    rw [isAnchor] at updated
    exact updated

theorem handlePingDevice_holds
    {pkt : PingDevice} {srcId : UInt16}
    (reliable : s.storage.eeprom.Reliable) (held : Held env.deviceType s)
    (kept : env.accepts pkt.hdr = true → keepsDevice pkt.hdr.status = false →
      (pkt.dstDeviceId = env.deviceId → s.entries = []) ∧
        (pkt.dstDeviceId ≠ env.deviceId →
          s.NotParent pkt.dstDeviceId ∨ s.HeardFromOther env pkt srcId))
    (rssi2 : Int16) :
    Holds env.deviceType (s.handlePingDevice env pkt srcId rssi2) := by
  unfold handlePingDevice
  split
  · exact .ok held
  · next accepted =>
    by_cases keeps : keepsDevice pkt.hdr.status = true
    · simp only [keeps, if_true]
      split
      · exact answerPing_holds reliable held pkt srcId rssi2
      · have asked : SameParent s { s with processNextRequest := true } :=
          ⟨rfl, rfl, rfl⟩
        exact @answerPing_holds env { s with processNextRequest := true }
          reliable (asked.held held) pkt srcId rssi2
    · obtain ⟨own, others⟩ := kept (by simpa using accepted)
        (by simpa using keeps)
      simp only [keeps, Bool.false_eq_true, if_false]
      split
      · next other =>
        rcases others other with notParent | heard
        · have forgotten := (@forgetSensor_parent env
            (s.forgetInfra env pkt) pkt).held (forgetInfra_held notParent held)
          exact answerPing_holds
            ((@forget_moves env s env.deviceType pkt).reliable reliable)
            forgotten pkt srcId rssi2
        · have isAnchor := heard.1
          have answered := forget_heard heard reliable rssi2
          rw [← isAnchor] at answered
          exact answered
      · next same =>
        have empty := own (not_not.mp same)
        have missing : s.findInfra pkt.dstDeviceId = none := by
          rw [findInfra, List.map_eq_nil_iff.mp empty]
          rfl
        have forgotten : s.forgetInfra env pkt = s := by
          simp only [forgetInfra, missing]
        rw [forgotten]
        have forgot := @forgetSensor_parent env s pkt
        have reset : SameParent s
            (((s.forgetSensor env pkt).sendPingAck env srcId pkt.dstDeviceId
              pkt.hdr.trackingId statusSuccess).factoryReset) :=
          ⟨empty.symm, forgot.hopNum, forgot.connectedDeviceId⟩
        exact .ok (reset.held held)

theorem handlePingAck_holds
    (reliable : s.storage.eeprom.Reliable) (held : Held env.deviceType s)
    (pkt : PingAck) (srcId : UInt16) (rssi2 : Int16) :
    Holds env.deviceType (s.handlePingAck env pkt srcId rssi2) := by
  have untracked : SameParent s (s.put (.untrack pkt.hdr.trackingId)) :=
    ⟨rfl, rfl, rfl⟩
  have waiting := untracked.held held
  have working :
      (s.put (.untrack pkt.hdr.trackingId)).storage.eeprom.Reliable := reliable
  have updated := updateInfraStorage_holds working waiting srcId pkt.hopNum
    rssi2
  unfold handlePingAck
  split
  · exact .ok held
  · simp only
    split
    · have cleared : SameParent (s.put (.untrack pkt.hdr.trackingId))
          { s.put (.untrack pkt.hdr.trackingId) with tempId := 0xFFFF } :=
        ⟨rfl, rfl, rfl⟩
      exact .ok (cleared.held waiting)
    · split
      · split
        · exact updated
        · split
          · exact .ok ((updateSensorStorage_parent _ _).held waiting)
          · exact .ok waiting
      · split
        · exact refreshInfra_holds updated
        · split
          · exact .ok ((updateSensorStorage_parent _ _).held waiting)
          · exact .ok waiting
      · exact .ok waiting
      · exact .ok waiting

theorem handleDeviceUpdatedAck_holds
    (held : Held env.deviceType s) (pkt : DeviceUpdatedAck)
    (srcId : UInt16) :
    Holds env.deviceType (s.handleDeviceUpdatedAck env pkt srcId) := by
  have untracked : SameParent s (s.put (.untrack pkt.hdr.trackingId)) :=
    ⟨rfl, rfl, rfl⟩
  have waiting := untracked.held held
  unfold handleDeviceUpdatedAck
  split
  · exact .ok held
  · simp only
    split
    · exact .ok waiting
    · next routed =>
      split
      · have reported {target : UInt16} :
            SameParent (s.put (.untrack pkt.hdr.trackingId))
              ((s.put (.untrack pkt.hdr.trackingId)).sendDeviceUpdated env
                ((s.put (.untrack pkt.hdr.trackingId)).selfUpdate env 0xFFFF
                  s.hopNum) target statusSuccess) := ⟨rfl, rfl, rfl⟩
        exact .ok (reported.held waiting)
      · refine dropInfra_holds (fun isSensor => routed (.inl ?_)) waiting srcId
        simp [isSensor]

theorem knownDeviceUpdateCommTime_holds
    (held : Held env.deviceType s)
    (unpaired : env.deviceType = .sensor → s.entries = [])
    (deviceId : UInt16) :
    Holds env.deviceType (s.knownDeviceUpdateCommTime env deviceId) := by
  unfold knownDeviceUpdateCommTime
  split
  · next isSensor =>
    have cleared : SameParent s
        ((s.setStorage s.storage.storageInfraClear).sendPairRequest env
          true) :=
      ⟨(unpaired isSensor).symm, rfl, rfl⟩
    exact .ok (cleared.held held)
  · next notSensor =>
    split
    · next index found =>
      have counted := @SameParent.updateInfra s index (failed env.now)
        fun _ => rfl
      simp only
      split
      · exact .ok (counted.held held)
      · split
        · exact deviceInfoUpdate_holds notSensor
        · exact .ok (counted.held held)
    · split
      · exact .ok held
      · next index found =>
        have counted : SameParent s (s.updateSensor index (failed env.now)) :=
          ⟨rfl, rfl, rfl⟩
        simp only
        split
        · exact .ok (counted.held held)
        · split
          · have removed := storageSensorRemove_infra
              (s.updateSensor index (failed env.now)).storage index
            have lost : SameParent s
                (((s.updateSensor index (failed env.now)).setStorage
                  ((s.updateSensor index (failed env.now)).storage
                    |>.storageSensorRemove index).1).reportLostSensor env
                      deviceId) :=
              ⟨congrArg (fun table => table.live.map Neighbour.entry) removed,
                rfl, rfl⟩
            exact .ok (lost.held held)
          · exact .ok (counted.held held)

theorem trackerExhausted_holds
    (held : Held env.deviceType s) {isPairing : Bool}
    (unpaired : env.deviceType = .sensor → isPairing = false → s.entries = [])
    (isPing : Bool) (dstId : UInt16) :
    Holds env.deviceType (s.trackerExhausted env isPing isPairing dstId) := by
  have cleared : SameParent s
      (if isPing ∧ dstId = s.tempId then
        { s with tempId := 0xFFFF }
      else
        s) := by
    split
    · exact ⟨rfl, rfl, rfl⟩
    · exact .refl s
  unfold trackerExhausted
  simp only
  split
  · exact .ok (cleared.held held)
  · next notPairing =>
    refine knownDeviceUpdateCommTime_holds (cleared.held held)
      (fun isSensor => ?_) dstId
    rw [cleared.entries]
    exact unpaired isSensor (by simpa using notPairing)

/-- What one event does to the parent. -/
theorem handle_holds
    (held : Held env.deviceType s) {event : Event}
    (kept : s.ParentKept env s.storage.eeprom.failures event) :
    Holds env.deviceType (s.handle env event) := by
  cases event with
  | pairRequest pkt srcId =>
      exact .ok ((handlePairRequest_parent pkt srcId).held held)
  | pairResponse pkt srcId rssi2 =>
      exact .ok ((handlePairResponse_parent pkt srcId rssi2).held held)
  | pairConfirm pkt srcId rssi2 =>
      exact handlePairConfirm_holds kept held pkt srcId rssi2
  | pairAck pkt srcId rssi2 =>
      exact handlePairAck_holds kept held pkt srcId rssi2
  | repairRequest pkt srcId rssi2 =>
      exact handleRepairRequest_holds kept held pkt srcId rssi2
  | repairResponse pkt srcId rssi2 =>
      exact handleRepairResponse_holds kept.1 held kept.2 srcId rssi2
  | joinedNetwork pkt srcId =>
      exact .ok ((handleJoinedNetwork_parent pkt srcId).held held)
  | joinedNetworkAck pkt =>
      have answered : SameParent s (s.handleJoinedNetworkAck env pkt) := by
        unfold handleJoinedNetworkAck
        split
        · exact .refl s
        · exact ⟨rfl, rfl, rfl⟩
      exact .ok (answered.held held)
  | pingDevice pkt srcId rssi2 =>
      exact handlePingDevice_holds kept.1 held kept.2 rssi2
  | pingAck pkt srcId rssi2 =>
      exact handlePingAck_holds kept held pkt srcId rssi2
  | deviceUpdated pkt srcId =>
      exact .ok ((handleDeviceUpdated_parent pkt srcId).held held)
  | deviceUpdatedAck pkt srcId =>
      exact handleDeviceUpdatedAck_holds held pkt srcId
  | heard srcId => exact .ok ((isKnownDevice_parent srcId).held held)
  | meshTick => exact .ok (meshTick_parent.held held)
  | knownDevicesTick => exact .ok (knownDevicesTick_parent.held held)
  | trackerExhausted isPing isPairing dstId =>
      exact trackerExhausted_holds held kept isPing dstId
  | serialNumber serialNum =>
      exact .ok ((setSerialNumber_parent serialNum).held held)

end Sessions

section Boot

/-- `storage_init` reads the count of infrastructure entries into a byte. -/
def savedInfra (rom : Eeprom) : Nat :=
  (rom.infra.header.map UInt16.toNat).getD 0 % 256

theorem readEntries_length
    {α : Type} (part : Partition α) (unread : α) (count index : Nat)
    (rom : Eeprom) :
    (Eeprom.readEntries part unread count index rom).2.length = count := by
  induction count generalizing index rom with
  | zero => rfl
  | succ count ih =>
      rw [Eeprom.readEntries]
      exact congrArg Nat.succ (ih (index + 1) rom.advance)

theorem storageInit_infra (deviceType : DeviceType) (rom : Eeprom) :
    (Storage.storageInit deviceType rom).1.infra.live.length ≤
      savedInfra rom := by
  unfold Storage.storageInit
  split
  · exact Nat.zero_le _
  · next first infraCount header =>
    have saved : infraCount % 256 = savedInfra rom := by
      unfold Eeprom.readHeader at header
      obtain ⟨-, read⟩ := Prod.mk.inj header
      split at read
      · cases read
      · cases read
        rfl
    split
    · exact Nat.zero_le _
    · split
      · exact Nat.zero_le _
      · simp only [Storage.loaded, List.length_map, readEntries_length, saved]
        exact Nat.le_refl _

theorem startSensor_holds
    (single : s.entries.length ≤ 1) (id : s.connectedDeviceId = 0xFFFF) :
    Holds .sensor
      (if s.infra = [] then
        .ok (s.sendPairRequest env true)
      else
        .ok { s with connectedDeviceId := s.parent.deviceId }) := by
  split
  · next empty =>
    have asked : SameParent s (s.sendPairRequest env true) := ⟨rfl, rfl, rfl⟩
    refine .ok (asked.held ⟨?_, fun _ => single⟩)
    simp only [Coherent, show s.entries = [] from List.map_eq_nil_iff.mpr empty]
    exact id
  · next stored =>
    rcases listed : s.entries with _ | ⟨first, rest⟩
    · exact absurd (List.map_eq_nil_iff.mp listed) stored
    · have entries : ({ s with connectedDeviceId := s.parent.deviceId } :
          MeshPlane).entries = first :: rest := listed
      refine .ok ⟨?_, fun _ => single⟩
      simp only [Coherent, entries]
      exact congrArg InfraRecord.deviceId (parent_eq listed)

/-- A board that starts takes the parent its EEPROM holds. -/
theorem boot_holds
    {rom : Eeprom} (saved : env.deviceType = .sensor → savedInfra rom ≤ 1) :
    Holds env.deviceType (boot env rom) := by
  have length := storageInit_infra env.deviceType rom
  rcases started : Storage.storageInit env.deviceType rom with
    ⟨storage, isReady⟩
  rw [started] at length
  simp only [boot, started]
  generalize fresh : ({
    storage := storage
    hopNum := if env.deviceType = .gateway then 0 else 0xFF
    serialNumber := env.deviceId.toUInt64
    meshDevicesCount := loadedDevices env storage } : MeshPlane) = s
  have entries : s.entries = storage.infra.live.map Neighbour.entry := by
    rw [← fresh]
    rfl
  have id : s.connectedDeviceId = 0xFFFF := by
    rw [← fresh]
  split
  · by_cases isSensor : env.deviceType = .sensor
    · have single : s.entries.length ≤ 1 := by
        rw [entries, List.length_map]
        exact length.trans (saved isSensor)
      rw [deviceInfoUpdate_sensor isSensor]
      simp only [isSensor]
      exact startSensor_holds single id
    · have updated := @deviceInfoUpdate_holds env s isSensor
      split
      · exact .error
      · next s' up =>
        have held := updated s' up
        split
        · next isGateway => exact .ok (.other (by simp [isGateway]) isSensor)
        · split
          · exact .ok held
          · have asked : SameParent s' (s'.sendPairRequest env true) :=
              ⟨rfl, rfl, rfl⟩
            exact .ok (asked.held held)
        · contradiction
        · exact .ok held
  · exact .error

end Boot

section Run

/-- A board of this role starts, and receives what `ParentKept` allows. -/
def KeepsParent
    (role : DeviceType) (condition : Condition) (occurrence : Occurrence) :
    Prop :=
  occurrence.env.deviceType = role ∧
    match condition, occurrence.event with
    | .ok s, some event =>
        (role = .anchor ∨ role = .sensor) →
          s.ParentKept occurrence.env occurrence.failures event
    | .error s, none => role = .sensor → savedInfra s.storage.eeprom ≤ 1
    | _, _ => True

theorem next_holds
    {role : DeviceType} {condition : Condition} {occurrence : Occurrence}
    (holds : Holds role condition)
    (keeps : KeepsParent role condition occurrence) :
    Holds role (next condition occurrence) := by
  obtain ⟨rfl, kept⟩ := keeps
  match condition, received : occurrence.event with
  | .ok s, some event =>
      simp only [received] at kept
      simp only [next, received]
      by_cases paired : occurrence.env.deviceType = .anchor ∨
          occurrence.env.deviceType = .sensor
      · have begun : SameParent s (s.begin occurrence.failures) :=
          ⟨rfl, rfl, rfl⟩
        exact handle_holds (begun.held (holds s rfl)) (kept paired)
      · rw [not_or] at paired
        exact fun _ _ => .other paired.1 paired.2
  | .error s, none =>
      simp only [received] at kept
      simp only [next, received]
      exact boot_holds kept
  | .ok s, none =>
      simp only [next, received]
      exact holds
  | .error s, some event =>
      simp only [next, received]
      exact holds

/-- In every run from a start on, hop number and connected id are those behind
the parent, as long as every event keeps the parent. -/
theorem parent_coherent
    {role : DeviceType} {off s : MeshPlane}
    (reach : Trace.Reach meshStep (KeepsParent role) (.error off) (.ok s)) :
    Coherent role s := by
  have holds : Holds role (.ok s) := by
    apply reach.invariant
    · exact .error
    · intro before occurrence after holds keeps moved
      rw [← Except.ok.inj moved]
      exact next_holds holds keeps
  exact (holds s rfl).coherent

/-- A sensor. -/
def sensorBoard : MeshEnv where
  deviceType := .sensor
  deviceId := 7

/-- The start of the sensor. -/
def sensorStart : Occurrence where
  env := sensorBoard
  event := none

/-- The gateway acknowledges the pairing of the sensor. -/
def sensorPaired : Occurrence where
  env := sensorBoard
  event := some (.pairAck
    { hdr := { deviceType := DeviceType.gateway.code, deviceId := 7 }
      hopNum := 0 }
    1 0)

/-- The sensor gives up on a packet to the gateway. -/
def sensorGivesUp : Occurrence where
  env := sensorBoard
  event := some (.trackerExhausted false false 1)

/-- The sensor starts and pairs with the gateway. -/
theorem parent_coherent_paired :
    ∃ s, next (next (.error {}) sensorStart) sensorPaired = .ok s ∧
      Coherent .sensor s := by
  have up := @ok_plane (next (next (.error {}) sensorStart) sensorPaired)
    (by decide +kernel)
  refine ⟨_, up, @parent_coherent .sensor {} _ ?_⟩
  rw [← up]
  refine .next (.next .refl ⟨rfl, fun _ => ?_⟩ rfl) ⟨rfl, ?_⟩ rfl
  · decide
  · split
    · next received =>
      cases received
      exact fun _ => rfl
    · next received => cases received
    · trivial

/-- A sensor that gave up on its parent has none, but keeps its id. -/
theorem parent_forgotten :
    ∃ s,
      Trace.Reach meshStep
        (fun _ occurrence => occurrence.env.deviceType = .sensor ∧
          occurrence.env.deviceId = 7 ∧ occurrence.failures = [])
        (.error {}) (.ok s) ∧
      ¬ Coherent .sensor s := by
  have up := @ok_plane
    (next (next (next (.error {}) sensorStart) sensorPaired) sensorGivesUp)
    (by decide +kernel)
  have lost : (plane (next (next (next (.error {}) sensorStart) sensorPaired)
      sensorGivesUp)).entries = [] ∧
        (plane (next (next (next (.error {}) sensorStart) sensorPaired)
          sensorGivesUp)).connectedDeviceId = 1 := by
    decide +kernel
  refine ⟨plane (next (next (next (.error {}) sensorStart) sensorPaired)
    sensorGivesUp), ?_, fun coherent => ?_⟩
  · rw [← up]
    exact .next (.next (.next .refl ⟨rfl, rfl, rfl⟩ rfl)
      ⟨rfl, rfl, rfl⟩ rfl) ⟨rfl, rfl, rfl⟩ rfl
  · obtain ⟨empty, id⟩ := lost
    simp only [Coherent, empty, id] at coherent
    cases coherent

end Run

end MeshPlane

end DectMesh
