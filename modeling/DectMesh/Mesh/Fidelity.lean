import DectMesh.Mesh.Handshake
import DectMesh.Mesh.Hops
import DectMesh.Mesh.Invariant

/-!
# The hop numbers that the neighbours announce

Six kinds of packets carry the hop number of their sender.  Some of them add
the sender to the table of infrastructure neighbours or refresh its entry, each
with a rule of its own for the marker `0xFF`.
-/

namespace DectMesh

/-- The handlers of these packets do something on a gateway or an anchor. -/
def MeshEnv.Routes (env : MeshEnv) : Prop :=
  env.deviceType = .gateway ∨ env.deviceType = .anchor

namespace MeshPlane

variable {env : MeshEnv} {s s' : MeshPlane}

/-- The sender of a packet, and the hop number it carries. -/
def Event.announces : Event → Option (UInt16 × UInt8)
  | .pairConfirm pkt srcId _ => some (srcId, pkt.hopNum)
  | .pairAck pkt srcId _ => some (srcId, pkt.hopNum)
  | .repairRequest pkt srcId _ => some (srcId, pkt.hopNum)
  | .repairResponse pkt srcId _ => some (srcId, pkt.hopNum)
  | .pingDevice pkt srcId _ => some (srcId, pkt.hopNum)
  | .pingAck pkt srcId _ => some (srcId, pkt.hopNum)
  | _ => none

section Guards

variable (env : MeshEnv) (s : MeshPlane)

/-- The packet adds its sender to the infrastructure neighbours. -/
def AddsEntry : Event → Prop
  | .pairConfirm pkt srcId _ =>
      env.accepts pkt.hdr = true ∧ pkt.hdr.status = statusSuccess ∧
        pkt.hdr.deviceType = DeviceType.anchor.code ∧
          s.checkInfraStorage srcId false = statusSuccess
  | .pairAck pkt srcId _ =>
      env.deviceType = .anchor ∧ env.accepts pkt.hdr = true ∧
        pairedStatus pkt.hdr.status = true ∧
          s.checkStorage (isUpstreamType pkt.hdr.deviceType) srcId =
            statusSuccess ∧ s.storage.infra.count < maxAnchors
  | .repairRequest pkt srcId _ =>
      env.accepts pkt.hdr = true ∧
        pkt.hash = computePairHash srcId pkt.randomNum ∧
          pkt.hdr.deviceType = DeviceType.anchor.code ∧
            s.checkInfraStorage srcId false = statusSuccess ∧
              pkt.hopNum ≠ 0xFF
  | .repairResponse pkt srcId _ =>
      env.deviceType = .anchor ∧ env.accepts pkt.hdr = true ∧
        pairedStatus pkt.hdr.status = true ∧
          isUpstreamType pkt.hdr.deviceType = true ∧
            s.checkInfraStorage srcId false = statusSuccess
  | _ => False

/-- The packet refreshes the entry of its sender. -/
def UpdatesEntry : Event → Prop
  | .repairResponse pkt srcId _ =>
      env.deviceType = .anchor ∧ env.accepts pkt.hdr = true ∧
        pairedStatus pkt.hdr.status = true ∧
          isUpstreamType pkt.hdr.deviceType = true ∧ s.findInfra srcId ≠ none
  | .pingDevice pkt srcId _ =>
      env.deviceType = .anchor ∧ env.accepts pkt.hdr = true ∧
        (pkt.dstDeviceId ≠ env.deviceId ∨
          keepsDevice pkt.hdr.status = true) ∧
          isUpstreamType pkt.hdr.deviceType = true ∧
            (s.pinged env pkt).findInfra srcId ≠ none
  | .pingAck pkt srcId _ =>
      env.accepts pkt.hdr = true ∧ ¬ (s.tempId ≠ 0xFFFF ∧ s.tempId = srcId) ∧
        pkt.hdr.deviceType = DeviceType.anchor.code ∧ s.findInfra srcId ≠ none
  | _ => False

instance (event : Event) : Decidable (s.AddsEntry env event) :=
  match event with
  | .pairConfirm .. => inferInstanceAs (Decidable (_ ∧ _))
  | .pairAck .. => inferInstanceAs (Decidable (_ ∧ _))
  | .repairRequest .. => inferInstanceAs (Decidable (_ ∧ _))
  | .repairResponse .. => inferInstanceAs (Decidable (_ ∧ _))
  | .pairRequest .. | .pairResponse .. | .joinedNetwork ..
  | .joinedNetworkAck .. | .pingDevice .. | .pingAck .. | .deviceUpdated ..
  | .deviceUpdatedAck .. | .heard .. | .meshTick | .knownDevicesTick
  | .trackerExhausted .. | .serialNumber .. => instDecidableFalse

instance (event : Event) : Decidable (s.UpdatesEntry env event) :=
  match event with
  | .repairResponse .. => inferInstanceAs (Decidable (_ ∧ _))
  | .pingDevice .. => inferInstanceAs (Decidable (_ ∧ _))
  | .pingAck .. => inferInstanceAs (Decidable (_ ∧ _))
  | .pairRequest .. | .pairResponse .. | .pairConfirm .. | .pairAck ..
  | .repairRequest .. | .joinedNetwork .. | .joinedNetworkAck ..
  | .deviceUpdated .. | .deviceUpdatedAck .. | .heard .. | .meshTick
  | .knownDevicesTick | .trackerExhausted .. | .serialNumber .. =>
      instDecidableFalse

/-- The hop number of the entry that a packet adds. -/
def addedHop : Event → UInt8
  | .pairConfirm pkt srcId rssi2 => (s.confirmedInfra pkt srcId rssi2).hopNum
  | .pairAck pkt srcId rssi2 => (pairedInfra pkt srcId rssi2).hopNum
  | .repairRequest pkt srcId rssi2 => (repairedInfra pkt srcId rssi2).hopNum
  | .repairResponse pkt srcId rssi2 => (answeredInfra pkt srcId rssi2).hopNum
  | _ => 0xFF

end Guards

/-- What a packet does to the entry of its sender: it is added, it is
refreshed, or no entry is written. -/
inductive Registers (env : MeshEnv) (event : Event) (deviceId : UInt16)
    (hopNum : UInt8) (s s' : MeshPlane) : Prop where
  | added
      (adds : s.AddsEntry env event)
      (writes : s.findInfra deviceId = none →
        Writes deviceId (s.addedHop event) s s')
  | updated (old : UInt8)
      (updates : s.UpdatesEntry env event)
      (stored : (deviceId, old) ∈ s.hops)
      (writes : Writes deviceId (refreshedHop hopNum old) s s')
  | kept
      (adds : ¬ s.AddsEntry env event)
      (updates : ¬ s.UpdatesEntry env event)
      (keeps : Keeps s s')

section Handlers

theorem pairedStatus_iff {status : UInt8} :
    pairedStatus status = true ↔
      ¬ (status ≠ statusSuccess ∧ status ≠ statusAlreadyExists) := by
  rw [pairedStatus, decide_eq_true_eq, not_and_or, not_not, not_not]

theorem checkInfraStorage_known {deviceId : UInt16} :
    s.checkInfraStorage deviceId false = statusAlreadyExists ↔
      s.findInfra deviceId ≠ none := by
  rcases found : s.findInfra deviceId with _ | index
  · simp only [checkInfraStorage, found, Bool.false_eq_true, if_false, ne_eq,
      not_true_eq_false, iff_false]
    split
    · decide
    · decide
  · simp [checkInfraStorage, found]

/-- The two ways out of `admitNeighbour` for an anchor. -/
theorem admitNeighbour_writes
    {deviceType : UInt8} {srcId version : UInt16} {wanted : Bool}
    {entry : InfraRecord} {answer : MeshPlane → UInt8 → MeshPlane}
    (up : s.admitNeighbour env deviceType srcId version wanted entry answer =
      .ok s')
    (address : entry.deviceId = srcId)
    (answers : ∀ s status, SameParent s (answer s status)) :
    (deviceType = DeviceType.anchor.code ∧
        s.checkInfraStorage srcId false = statusSuccess ∧ wanted = true) ∧
        Writes srcId entry.hopNum s s' ∨
      ¬ (deviceType = DeviceType.anchor.code ∧
        s.checkInfraStorage srcId false = statusSuccess ∧ wanted = true) ∧
        Keeps s s' := by
  subst address
  unfold admitNeighbour at up
  split at up
  · next isAnchor =>
    dsimp only at up
    split at up
    · next free =>
      obtain ⟨missing, room⟩ := checkInfraStorage_success free.1
      refine .inl ⟨⟨isAnchor, free⟩, ?_⟩
      split at up
      · cases up
      · next stored =>
        cases up
        exact addInfra_writes room missing stored
      · next stored =>
        cases up
        exact (addInfra_writes room missing stored).then_same (answers _ _)
    · next refused =>
      cases up
      exact .inr ⟨fun all => refused all.2, .of_parent (answers _ _)⟩
  · next notAnchor =>
    refine .inr ⟨fun all => notAnchor all.1, ?_⟩
    split at up
    · dsimp only at up
      have stored := @addSensor_parent s entry.deviceId version
      split at up
      · split at up
        · next failed =>
          rw [failed] at stored
          cases up
          exact .of_parent stored
        · next added =>
          rw [added] at stored
          cases up
          exact .of_parent (stored.trans (answers _ _))
      · cases up
        exact .of_parent (answers _ _)
    · cases up
      exact .refl s

theorem handlePairConfirm_registers
    (routes : env.Routes) {pkt : PairConfirm} {srcId : UInt16} {rssi2 : Int16}
    (up : s.handlePairConfirm env pkt srcId rssi2 = .ok s') :
    Registers env (.pairConfirm pkt srcId rssi2) srcId pkt.hopNum s s' := by
  unfold handlePairConfirm at up
  split at up
  · next ignored =>
    cases up
    refine .kept (fun adds => ?_) id (.refl s)
    rcases ignored with refused | failed
    · rw [adds.1] at refused
      cases refused
    · exact failed adds.2.1
  · next taken =>
    have accepted : env.accepts pkt.hdr = true ∧
        pkt.hdr.status = statusSuccess := by simpa using taken
    have admitted : s.admitNeighbour env pkt.hdr.deviceType srcId pkt.version
        true (s.confirmedInfra pkt srcId rssi2)
        (fun s status => s.sendPairAck env srcId pkt.hdr.trackingId status) =
          .ok s' := by
      rcases routes with isGateway | isAnchor
      · rw [isGateway] at up
        exact up
      · rw [isAnchor] at up
        exact up
    rcases admitNeighbour_writes admitted rfl fun _ _ => ⟨rfl, rfl, rfl⟩ with
      ⟨⟨isAnchor, free, -⟩, writes⟩ | ⟨refused, keeps⟩
    · exact .added ⟨accepted.1, accepted.2, isAnchor, free⟩ fun _ => writes
    · exact .kept (fun adds => refused ⟨adds.2.2.1, adds.2.2.2, rfl⟩) id keeps

theorem handleRepairRequest_registers
    (routes : env.Routes) {pkt : RepairRequest} {srcId : UInt16}
    {rssi2 : Int16} (up : s.handleRepairRequest env pkt srcId rssi2 = .ok s') :
    Registers env (.repairRequest pkt srcId rssi2) srcId pkt.hopNum s s' := by
  unfold handleRepairRequest at up
  split at up
  · next ignored =>
    cases up
    refine .kept (fun adds => ?_) id (.refl s)
    rw [adds.1] at ignored
    cases ignored
  · next taken =>
    have accepted : env.accepts pkt.hdr = true := by simpa using taken
    split at up
    · next forged =>
      cases up
      exact .kept (fun adds => forged adds.2.1) id (.of_entries rfl)
    · next genuine =>
      have admitted : s.admitNeighbour env pkt.hdr.deviceType srcId
          pkt.version (pkt.hopNum ≠ 0xFF) (repairedInfra pkt srcId rssi2)
          (fun s status =>
            s.sendRepairResponse env srcId pkt.hdr.trackingId status) =
            .ok s' := by
        rcases routes with isGateway | isAnchor
        · rw [isGateway] at up
          exact up
        · rw [isAnchor] at up
          exact up
      rcases admitNeighbour_writes admitted rfl fun _ _ => ⟨rfl, rfl, rfl⟩ with
        ⟨⟨isAnchor, free, wanted⟩, writes⟩ | ⟨refused, keeps⟩
      · exact .added ⟨accepted, not_not.mp genuine, isAnchor, free,
          of_decide_eq_true wanted⟩ fun _ => writes
      · refine .kept (fun adds => refused ?_) id keeps
        exact ⟨adds.2.2.1, adds.2.2.2.1, decide_eq_true adds.2.2.2.2⟩

/-- A handler that runs `update_infra_storage` refreshes the entry of a known
neighbour. -/
def Refreshes (deviceId : UInt16) (hopNum : UInt8) (s s' : MeshPlane) : Prop :=
  (s.findInfra deviceId = none ∧ Keeps s s') ∨
    (s.findInfra deviceId ≠ none ∧ ∃ old, (deviceId, old) ∈ s.hops ∧
      Writes deviceId (refreshedHop hopNum old) s s')

namespace Refreshes

variable {deviceId : UInt16} {hopNum : UInt8} {s'' : MeshPlane}

theorem then_same
    (refreshes : Refreshes deviceId hopNum s s') (same : SameParent s' s'') :
    Refreshes deviceId hopNum s s'' := by
  rcases refreshes with ⟨missing, keeps⟩ | ⟨known, old, stored, writes⟩
  · exact .inl ⟨missing, keeps.trans (.of_parent same)⟩
  · exact .inr ⟨known, old, stored, writes.then_same same⟩

/-- The lookup and the entries are those of the board before it. -/
theorem of_same
    (refreshes : Refreshes deviceId hopNum s' s'')
    (same : s'.infra = s.infra) : Refreshes deviceId hopNum s s'' := by
  have entries : s'.entries = s.entries :=
    congrArg (List.map Neighbour.entry) same
  have find : s'.findInfra deviceId = s.findInfra deviceId := by
    rw [findInfra, same, findInfra]
  rcases refreshes with ⟨missing, keeps⟩ | ⟨known, old, stored, writes⟩
  · exact .inl ⟨find ▸ missing, (Keeps.of_entries entries).trans keeps⟩
  · refine .inr ⟨find ▸ known, old, ?_, writes.after (.of_entries entries)⟩
    rw [hops, entries] at stored
    exact stored

theorem update {rssi2 : Int16} {flag : Bool}
    (up : s.updateInfraStorage env deviceId hopNum rssi2 = .ok (s', flag)) :
    Refreshes deviceId hopNum s s' := by
  by_cases missing : s.findInfra deviceId = none
  · have same : s' = s := by
      rcases updateInfraStorage_entries up with ⟨-, same⟩ | ⟨index, -, found, -⟩
      · exact same
      · rw [missing] at found
        cases found
    exact .inl ⟨missing, same ▸ .refl s'⟩
  · exact .inr ⟨missing, updateInfraStorage_writes missing up⟩

theorem refresh {rssi2 : Int16}
    (up : s.refreshInfra env deviceId hopNum rssi2 = .ok s') :
    Refreshes deviceId hopNum s s' := by
  unfold refreshInfra at up
  split at up
  · cases up
  · next changed =>
    cases up
    exact (update changed).then_same ⟨rfl, rfl, rfl⟩
  · next same =>
    cases up
    exact update same

end Refreshes

/-- Only an anchor that is pinged from above looks at the sender. -/
theorem answerPing_refreshes
    (routes : env.Routes) {pkt : PingDevice} {srcId : UInt16} {rssi2 : Int16}
    (up : s.answerPing env pkt srcId rssi2 = .ok s') :
    (env.deviceType = .anchor ∧ isUpstreamType pkt.hdr.deviceType = true) ∧
        Refreshes srcId pkt.hopNum s s' ∨
      ¬ (env.deviceType = .anchor ∧
        isUpstreamType pkt.hdr.deviceType = true) ∧ Keeps s s' := by
  have reported := @reportSensorHolder_parent env s pkt
  rcases routes with isGateway | isAnchor
  · refine .inr ⟨fun all => ?_, ?_⟩
    · rw [isGateway] at all
      cases all.1
    · rw [answerPing, isGateway] at up
      cases up
      exact .refl s
  · rw [answerPing, isAnchor] at up
    dsimp only at up
    split at up
    · next notUpstream =>
      cases up
      refine .inr ⟨fun all => ?_, .of_parent reported⟩
      rw [all.2] at notUpstream
      cases notUpstream
    · next upstream =>
      refine .inl ⟨⟨isAnchor, by simpa using upstream⟩, ?_⟩
      have looked : (s.reportSensorHolder env pkt).infra = s.infra := by
        rw [infra, reportSensorHolder_storage, infra]
      split at up
      · cases up
      · next after refreshed =>
        have refreshes := (Refreshes.refresh refreshed).of_same looked
        split at up
        · cases up
          exact refreshes.then_same ⟨rfl, rfl, rfl⟩
        · cases up
          refine refreshes.then_same ?_
          have adopted : SameParent after (after.adoptNetwork env pkt) :=
            ⟨rfl, rfl, rfl⟩
          have pinged := adopted.trans (@pingKnownDevices_parent env
            (after.adoptNetwork env pkt) pkt.dstDeviceId pkt.hdr.status)
          exact ⟨pinged.entries, pinged.hopNum, pinged.connectedDeviceId⟩

theorem handlePingDevice_registers
    (routes : env.Routes) {pkt : PingDevice} {srcId : UInt16} {rssi2 : Int16}
    (up : s.handlePingDevice env pkt srcId rssi2 = .ok s') :
    Registers env (.pingDevice pkt srcId rssi2) srcId pkt.hopNum s s' := by
  have pinged : Keeps s (s.pinged env pkt) := .pinged pkt
  rw [handlePingDevice_eq] at up
  split at up
  · next ignored =>
    cases up
    refine .kept id (fun updates => ?_) (.refl s)
    rw [updates.2.1] at ignored
    cases ignored
  · next taken =>
    have accepted : env.accepts pkt.hdr = true := by simpa using taken
    -- the answer is the same whether or not the ping names this board
    have answered {t : MeshPlane}
        (answer : t.answerPing env pkt srcId rssi2 = .ok s')
        (same : t.infra = (s.pinged env pkt).infra)
        (stays : pkt.dstDeviceId ≠ env.deviceId ∨
          keepsDevice pkt.hdr.status = true) :
        Registers env (.pingDevice pkt srcId rssi2) srcId pkt.hopNum s s' := by
      have find : t.findInfra srcId = (s.pinged env pkt).findInfra srcId := by
        rw [findInfra, same, findInfra]
      have before : Keeps s t := pinged.trans
        (.of_entries (congrArg (List.map Neighbour.entry) same))
      rcases answerPing_refreshes routes answer with
        ⟨⟨isAnchor, upstream⟩, refreshes⟩ | ⟨refused, keeps⟩
      · rcases refreshes with ⟨missing, keeps⟩ | ⟨known, old, stored, writes⟩
        · refine .kept id (fun updates => ?_) (before.trans keeps)
          exact updates.2.2.2.2 (find ▸ missing)
        · exact .updated old
            ⟨isAnchor, accepted, stays, upstream, find ▸ known⟩
            (before.hops stored) (writes.after before)
      · refine .kept id (fun updates => refused ?_) (before.trans keeps)
        exact ⟨updates.1, updates.2.2.2.1⟩
    split at up
    · next other => exact answered up rfl (.inl other)
    · next own =>
      split at up
      · next stays => exact answered up rfl (.inr stays)
      · next leaves =>
        cases up
        refine .kept id (fun updates => ?_) (.of_empty rfl)
        rcases updates.2.2.1 with other | stays
        · exact own other
        · exact leaves stays

theorem handlePingAck_registers
    (routes : env.Routes) {pkt : PingAck} {srcId : UInt16} {rssi2 : Int16}
    (up : s.handlePingAck env pkt srcId rssi2 = .ok s') :
    Registers env (.pingAck pkt srcId rssi2) srcId pkt.hopNum s s' := by
  unfold handlePingAck at up
  split at up
  · next ignored =>
    cases up
    refine .kept id (fun updates => ?_) (.refl s)
    rw [updates.1] at ignored
    cases ignored
  · next taken =>
    have accepted : env.accepts pkt.hdr = true := by simpa using taken
    dsimp only at up
    split at up
    · next awaited =>
      cases up
      exact .kept id (fun updates => updates.2.1 awaited) (.of_entries rfl)
    · next unawaited =>
      have refreshed
          (isAnchor : pkt.hdr.deviceType = DeviceType.anchor.code)
          (refreshes : Refreshes srcId pkt.hopNum
            (s.put (.untrack pkt.hdr.trackingId)) s') :
          Registers env (.pingAck pkt srcId rssi2) srcId pkt.hopNum s s' := by
        rcases refreshes.of_same (s := s) rfl with
          ⟨missing, keeps⟩ | ⟨known, old, stored, writes⟩
        · exact .kept id (fun updates => updates.2.2.2 missing) keeps
        · exact .updated old ⟨accepted, unawaited, isAnchor, known⟩ stored
            writes
      have elsewhere
          (notAnchor : pkt.hdr.deviceType ≠ DeviceType.anchor.code)
          (up : (if pkt.hdr.deviceType = DeviceType.sensor.code then
              Except.ok ((s.put (.untrack pkt.hdr.trackingId)
                ).updateSensorStorage srcId pkt.version)
            else
              .ok (s.put (.untrack pkt.hdr.trackingId))) =
              (.ok s' : Except MeshPlane MeshPlane)) :
          Registers env (.pingAck pkt srcId rssi2) srcId pkt.hopNum s s' := by
        refine .kept id (fun updates => notAnchor updates.2.2.1) ?_
        have untracked : SameParent s (s.put (.untrack pkt.hdr.trackingId)) :=
          ⟨rfl, rfl, rfl⟩
        split at up
        · cases up
          exact .of_parent
            (untracked.trans (updateSensorStorage_parent srcId pkt.version))
        · cases up
          exact .of_parent untracked
      rcases routes with isGateway | isAnchor
      · rw [isGateway] at up
        dsimp only at up
        split at up
        · next isAnchor =>
          obtain ⟨flag, updated⟩ := paired_ok up
          exact refreshed isAnchor (.update updated)
        · next notAnchor => exact elsewhere notAnchor up
      · rw [isAnchor] at up
        dsimp only at up
        split at up
        · next isAnchor => exact refreshed isAnchor (.refresh up)
        · next notAnchor => exact elsewhere notAnchor up

theorem buildJoinedNetwork_writes
    (isAnchor : env.deviceType = .anchor) {pkt : PairAck} {srcId : UInt16}
    {rssi2 : Int16} (room : s.storage.infra.count < maxAnchors)
    (fresh : s.findInfra srcId = none)
    (up : s.buildJoinedNetwork env pkt srcId rssi2 = .ok s') :
    Writes srcId (pairedInfra pkt srcId rssi2).hopNum s s' := by
  unfold buildJoinedNetwork at up
  split at up
  · cases up
  · next stored =>
    cases up
    exact addInfra_writes room fresh stored
  · next stored =>
    simp only [isAnchor, reduceCtorEq, if_false] at up
    cases up
    exact (addInfra_writes room fresh stored).then_same
      (sendJoined_parent _ _ _ _)

theorem handlePairAck_registers
    (routes : env.Routes) {pkt : PairAck} {srcId : UInt16} {rssi2 : Int16}
    (up : s.handlePairAck env pkt srcId rssi2 = .ok s') :
    Registers env (.pairAck pkt srcId rssi2) srcId pkt.hopNum s s' := by
  have untracked : SameParent s (s.put (.untrack pkt.hdr.trackingId)) :=
    ⟨rfl, rfl, rfl⟩
  unfold handlePairAck at up
  split at up
  · next ignored =>
    cases up
    refine .kept (fun adds => ?_) id (.refl s)
    rw [adds.2.1] at ignored
    cases ignored
  · next taken =>
    have accepted : env.accepts pkt.hdr = true := by simpa using taken
    dsimp only at up
    split at up
    · next failed =>
      cases up
      exact .kept (fun adds => pairedStatus_iff.mp adds.2.2.1 failed) id
        (.of_parent untracked)
    · next answered =>
      have paired := pairedStatus_iff.mpr answered
      rcases routes with isGateway | isAnchor
      · have notAnchor : env.deviceType ≠ .anchor := by simp [isGateway]
        rw [isGateway] at up
        cases up
        exact .kept (fun adds => notAnchor adds.1) id (.of_parent untracked)
      · rw [isAnchor] at up
        dsimp only at up
        split at up
        · next free =>
          by_cases room : s.storage.infra.count < maxAnchors
          · refine .added ⟨isAnchor, accepted, paired, free, room⟩ ?_
            intro fresh
            have writes := buildJoinedNetwork_writes
              (s := s.put (.untrack pkt.hdr.trackingId)) isAnchor room fresh up
            exact writes.after (.of_parent untracked)
          · refine .kept (fun adds => room adds.2.2.2.2) id ?_
            have full := @buildJoinedNetwork_full env
              (s.put (.untrack pkt.hdr.trackingId)) pkt srcId rssi2
              (Nat.le_of_not_lt room)
            rw [full] at up
            cases up
            exact .of_parent untracked
        · next refused =>
          cases up
          exact .kept (fun adds => refused adds.2.2.2.1) id
            (.of_parent untracked)

theorem handleRepairResponse_registers
    (routes : env.Routes) {pkt : RepairResponse} {srcId : UInt16}
    {rssi2 : Int16}
    (up : s.handleRepairResponse env pkt srcId rssi2 = .ok s') :
    Registers env (.repairResponse pkt srcId rssi2) srcId pkt.hopNum s s' := by
  have untracked : SameParent s (s.put (.untrack pkt.hdr.trackingId)) :=
    ⟨rfl, rfl, rfl⟩
  unfold handleRepairResponse at up
  split at up
  · next ignored =>
    cases up
    refine .kept (fun adds => ?_) (fun updates => ?_) (.refl s)
    · rw [adds.2.1] at ignored
      cases ignored
    · rw [updates.2.1] at ignored
      cases ignored
  · next taken =>
    have accepted : env.accepts pkt.hdr = true := by simpa using taken
    dsimp only at up
    split at up
    · next failed =>
      have refused : pairedStatus pkt.hdr.status ≠ true :=
        fun paired => pairedStatus_iff.mp paired ⟨failed.1, failed.2.1⟩
      cases up
      exact .kept (fun adds => refused adds.2.2.1)
        (fun updates => refused updates.2.2.1) (.of_parent untracked)
    · next answered =>
      split at up
      · next notUpstream =>
        cases up
        refine .kept (fun adds => ?_) (fun updates => ?_)
          (.of_parent untracked)
        · rw [adds.2.2.2.1] at notUpstream
          cases notUpstream
        · rw [updates.2.2.2.1] at notUpstream
          cases notUpstream
      · next ups =>
        have upstream : isUpstreamType pkt.hdr.deviceType = true := by
          simpa using ups
        rcases routes with isGateway | isAnchor
        · have notAnchor : env.deviceType ≠ .anchor := by simp [isGateway]
          rw [isGateway] at up
          cases up
          exact .kept (fun adds => notAnchor adds.1)
            (fun updates => notAnchor updates.1) (.of_parent untracked)
        · rw [isAnchor] at up
          dsimp only at up
          split at up
          · next full =>
            have refused : pairedStatus pkt.hdr.status ≠ true := by
              rw [full]
              decide
            exact .kept (fun adds => refused adds.2.2.1)
              (fun updates => refused updates.2.2.1)
              ((Keeps.of_parent untracked).trans (.dropInfra up))
          · next notFull =>
            have paired := pairedStatus_iff.mpr fun refused =>
              answered ⟨refused.1, refused.2, notFull⟩
            split at up
            · next known =>
              obtain ⟨flag, updated⟩ := paired_ok up
              rcases (Refreshes.update updated).of_same (s := s) rfl with
                ⟨missing, -⟩ | ⟨found, old, stored, writes⟩
              · exact absurd missing (checkInfraStorage_known.mp known)
              · exact .updated old
                  ⟨isAnchor, accepted, paired, upstream, found⟩ stored writes
            · next unknown =>
              have missing : s.findInfra srcId = none :=
                not_not.mp fun known =>
                  unknown (checkInfraStorage_known.mpr known)
              split at up
              · next free =>
                obtain ⟨flag, added⟩ := paired_ok up
                have room : s.storage.infra.count < maxAnchors :=
                  (checkInfraStorage_success free).2
                refine .added ⟨isAnchor, accepted, paired, upstream, free⟩ ?_
                intro fresh
                have writes := @addInfra_writes env
                  (s.put (.untrack pkt.hdr.trackingId)) s' room
                  (answeredInfra pkt srcId rssi2) fresh flag added
                exact writes.after (.of_parent untracked)
              · next refused =>
                cases up
                exact .kept (fun adds => refused adds.2.2.2.2)
                  (fun updates => updates.2.2.2.2 missing)
                  (.of_parent untracked)

/-- What a packet that carries a hop number does to the entries. -/
theorem handle_registers
    (routes : env.Routes) {event : Event} {deviceId : UInt16} {hopNum : UInt8}
    (announces : event.announces = some (deviceId, hopNum))
    (up : s.handle env event = .ok s') :
    Registers env event deviceId hopNum s s' := by
  cases event with
  | pairConfirm pkt srcId rssi2 =>
      cases announces
      exact handlePairConfirm_registers routes up
  | pairAck pkt srcId rssi2 =>
      cases announces
      exact handlePairAck_registers routes up
  | repairRequest pkt srcId rssi2 =>
      cases announces
      exact handleRepairRequest_registers routes up
  | repairResponse pkt srcId rssi2 =>
      cases announces
      exact handleRepairResponse_registers routes up
  | pingDevice pkt srcId rssi2 =>
      cases announces
      exact handlePingDevice_registers routes up
  | pingAck pkt srcId rssi2 =>
      cases announces
      exact handlePingAck_registers routes up
  | pairRequest pkt srcId => cases announces
  | pairResponse pkt srcId rssi2 => cases announces
  | joinedNetwork pkt srcId => cases announces
  | joinedNetworkAck pkt => cases announces
  | deviceUpdated pkt srcId => cases announces
  | deviceUpdatedAck pkt srcId => cases announces
  | heard srcId => cases announces
  | meshTick => cases announces
  | knownDevicesTick => cases announces
  | trackerExhausted isPing isPairing dstId => cases announces
  | serialNumber serialNum => cases announces

/-- Every other event writes no entry. -/
theorem handle_keeps
    {event : Event} (silent : event.announces = none)
    (up : s.handle env event = .ok s') : Keeps s s' := by
  cases event with
  | pairConfirm pkt srcId rssi2 => cases silent
  | pairAck pkt srcId rssi2 => cases silent
  | repairRequest pkt srcId rssi2 => cases silent
  | repairResponse pkt srcId rssi2 => cases silent
  | pingDevice pkt srcId rssi2 => cases silent
  | pingAck pkt srcId rssi2 => cases silent
  | pairRequest pkt srcId =>
      cases up
      exact .of_parent (handlePairRequest_parent pkt srcId)
  | pairResponse pkt srcId rssi2 =>
      cases up
      exact .of_parent (handlePairResponse_parent pkt srcId rssi2)
  | joinedNetwork pkt srcId =>
      cases up
      exact .of_parent (handleJoinedNetwork_parent pkt srcId)
  | joinedNetworkAck pkt =>
      cases up
      unfold handleJoinedNetworkAck
      split
      · exact .refl s
      · exact .of_entries rfl
  | deviceUpdated pkt srcId =>
      cases up
      exact .of_parent (handleDeviceUpdated_parent pkt srcId)
  | deviceUpdatedAck pkt srcId => exact .handleDeviceUpdatedAck up
  | heard srcId =>
      cases up
      exact .of_parent (isKnownDevice_parent srcId)
  | meshTick =>
      cases up
      exact .of_parent meshTick_parent
  | knownDevicesTick =>
      cases up
      exact .of_parent knownDevicesTick_parent
  | trackerExhausted isPing isPairing dstId => exact .trackerExhausted up
  | serialNumber serialNum =>
      cases up
      exact .of_parent (setSerialNumber_parent serialNum)

end Handlers

section Condition

variable (env : MeshEnv) (s : MeshPlane)

/-- The number that a packet announces: the one it carries, and for an anchor
that confirms a pairing without one, the hop after this board. -/
def announcedHop : Event → Option Nat
  | .pairConfirm pkt srcId rssi2 =>
      if pkt.hopNum ≠ 0xFF then
        some pkt.hopNum.toNat
      else if s.AddsEntry env (.pairConfirm pkt srcId rssi2) then
        some (s.hopNum.toNat + 1)
      else
        none
  | event =>
      event.announces.bind fun pair =>
        if pair.2 ≠ 0xFF then some pair.2.toNat else none

/-- The packet writes the number it announces.  `missed` are the neighbours
whose last number was not written over another one. -/
def WritesAnnounced (missed : UInt16 → Bool) : Event → Prop
  | .pairConfirm pkt srcId rssi2 =>
      s.AddsEntry env (.pairConfirm pkt srcId rssi2) → pkt.hopNum = 0xFF →
        s.hopNum ≠ 0xFF
  | .pairAck pkt srcId rssi2 =>
      s.AddsEntry env (.pairAck pkt srcId rssi2) →
        pkt.hopNum ≠ 0xFF ∧ s.findInfra srcId = none
  | .repairRequest pkt srcId rssi2 =>
      s.AddsEntry env (.repairRequest pkt srcId rssi2) → pkt.hopNum = 1
  | .repairResponse pkt srcId rssi2 =>
      pkt.hopNum = 0xFF →
        ¬ s.AddsEntry env (.repairResponse pkt srcId rssi2) ∧
          (s.UpdatesEntry env (.repairResponse pkt srcId rssi2) →
            missed srcId = false)
  | .pingDevice pkt srcId rssi2 =>
      pkt.hopNum = 0xFF →
        s.UpdatesEntry env (.pingDevice pkt srcId rssi2) →
          missed srcId = false
  | .pingAck pkt srcId rssi2 =>
      pkt.hopNum = 0xFF →
        s.UpdatesEntry env (.pingAck pkt srcId rssi2) → missed srcId = false
  | _ => True

variable {env s} {missed : UInt16 → Bool} {event : Event} {deviceId : UInt16}
  {hopNum : UInt8}

theorem AddsEntry.fresh
    (adds : s.AddsEntry env event)
    (kept : s.WritesAnnounced env missed event)
    (announces : event.announces = some (deviceId, hopNum)) :
    s.findInfra deviceId = none := by
  cases event with
  | pairConfirm pkt srcId rssi2 =>
      cases announces
      exact (checkInfraStorage_success adds.2.2.2).1
  | pairAck pkt srcId rssi2 =>
      cases announces
      exact (kept adds).2
  | repairRequest pkt srcId rssi2 =>
      cases announces
      exact (checkInfraStorage_success adds.2.2.2.1).1
  | repairResponse pkt srcId rssi2 =>
      cases announces
      exact (checkInfraStorage_success adds.2.2.2.2).1
  | _ => exact adds.elim

/-- The entry that is added has the number that was announced. -/
theorem AddsEntry.announced
    (adds : s.AddsEntry env event)
    (kept : s.WritesAnnounced env missed event) :
    s.announcedHop env event = some (s.addedHop event).toNat := by
  cases event with
  | pairConfirm pkt srcId rssi2 =>
      by_cases unset : pkt.hopNum = 0xFF
      · have own : s.hopNum.toNat + 1 < 256 := by
          have bound := s.hopNum.toNat_lt
          have other : s.hopNum.toNat ≠ 255 := fun full =>
            kept adds unset (UInt8.toNat.inj full)
          omega
        have sum : (s.hopNum + 1).toNat = s.hopNum.toNat + 1 := by
          rw [UInt8.toNat_add]
          exact Nat.mod_eq_of_lt own
        simp only [announcedHop, addedHop, confirmedInfra, unset, ne_eq,
          not_true_eq_false, if_false, if_true, if_pos adds, sum]
      · simp only [announcedHop, addedHop, confirmedInfra, unset, ne_eq,
          not_false_eq_true, if_true, if_false]
  | pairAck pkt srcId rssi2 =>
      have set := (kept adds).1
      simp only [announcedHop, addedHop, pairedInfra, Event.announces,
        Option.bind_some, if_pos set]
  | repairRequest pkt srcId rssi2 =>
      have one := kept adds
      simp only [announcedHop, addedHop, repairedInfra, Event.announces,
        Option.bind_some, one]
      rfl
  | repairResponse pkt srcId rssi2 =>
      have set : pkt.hopNum ≠ 0xFF := fun unset => (kept unset).1 adds
      simp only [announcedHop, addedHop, answeredInfra, Event.announces,
        Option.bind_some, if_pos set]
  | _ => exact adds.elim

/-- An entry that is refreshed gets the number that was announced, or keeps the
one it has. -/
theorem UpdatesEntry.announced
    (updates : s.UpdatesEntry env event)
    (kept : s.WritesAnnounced env missed event)
    (announces : event.announces = some (deviceId, hopNum)) (old : UInt8) :
    s.announcedHop env event = some (refreshedHop hopNum old).toNat ∨
      s.announcedHop env event = none ∧ refreshedHop hopNum old = old ∧
        missed deviceId = false := by
  have outcome (same : s.announcedHop env event =
        if hopNum ≠ 0xFF then some hopNum.toNat else none)
      (current : hopNum = 0xFF → missed deviceId = false) :
      s.announcedHop env event = some (refreshedHop hopNum old).toNat ∨
        s.announcedHop env event = none ∧ refreshedHop hopNum old = old ∧
          missed deviceId = false := by
    by_cases unset : hopNum = 0xFF
    · rw [if_neg (not_not.mpr unset)] at same
      exact .inr ⟨same, if_neg (not_not.mpr unset), current unset⟩
    · rw [if_pos unset] at same
      rw [refreshedHop, if_pos unset]
      exact .inl same
  cases event with
  | repairResponse pkt srcId rssi2 =>
      cases announces
      exact outcome rfl fun unset => (kept unset).2 updates
  | pingDevice pkt srcId rssi2 =>
      cases announces
      exact outcome rfl fun unset => kept unset updates
  | pingAck pkt srcId rssi2 =>
      cases announces
      exact outcome rfl fun unset => kept unset updates
  | _ => exact updates.elim

end Condition

end MeshPlane

open MeshPlane

/-- A gateway or an anchor that is up, and what its neighbours announced. -/
structure HopLog where
  board : MeshPlane
  /-- The number that each neighbour announced last. -/
  told : UInt16 → Option Nat
  /-- A neighbour announced this number while its entry had another one, and
  the entry was not written since. -/
  missed : UInt16 → Bool := fun _ => false
  /-- The neighbour whose entry the last event wrote. -/
  taken : Option UInt16 := none

namespace HopLog

/-- What the table says at the start was announced before. -/
def start (board : MeshPlane) : HopLog where
  board := board
  told deviceId := (board.hops.lookup deviceId).map UInt8.toNat

variable (log : HopLog)

/-- A packet of this neighbour takes the board from `s` to `s'`. -/
def hear (env : MeshEnv) (s s' : MeshPlane) (event : Event)
    (deviceId : UInt16) : HopLog :=
  let announced := s.announcedHop env event
  let takes : Bool := decide (s.AddsEntry env event ∨ s.UpdatesEntry env event)
  { board := s'
    told := Function.update log.told deviceId
      (announced.or (log.told deviceId))
    missed := Function.update log.missed deviceId
      (!takes &&
        match announced with
        | some hop =>
            s.hops.any fun pair => pair.1 = deviceId ∧ pair.2.toNat ≠ hop
        | none => log.missed deviceId)
    taken := if takes then some deviceId else none }

/-- An event that the board handles without a reboot. -/
def step (occurrence : Occurrence) : Except MeshPlane HopLog :=
  match occurrence.event with
  | none => .ok { log with taken := none }
  | some event =>
      let s := log.board.begin occurrence.failures
      match s.handle occurrence.env event, event.announces with
      | .error last, _ => .error last
      | .ok s', none => .ok { log with board := s', taken := none }
      | .ok s', some (deviceId, _) =>
          .ok (log.hear occurrence.env s s' event deviceId)

/-- The entry that the last event wrote is there with the number announced
last, and the table is sorted. -/
def Faithful : Prop :=
  ∀ deviceId, log.taken = some deviceId →
    deviceId ∈ log.board.infraIds ∧
      (∀ hopNum, (deviceId, hopNum) ∈ log.board.hops →
        log.told deviceId = some hopNum.toNat) ∧
        log.board.entries.Pairwise CloserFirst

/-- A gateway or an anchor writes the number that is announced. -/
def WritesAnnounced (occurrence : Occurrence) : Prop :=
  occurrence.env.Routes ∧
    ∀ event, occurrence.event = some event →
      (log.board.begin occurrence.failures).WritesAnnounced occurrence.env
        log.missed event

variable {log} {log' : HopLog}

/-- What every run keeps. -/
structure Sound (log : HopLog) : Prop where
  distinct : log.board.infraIds.Nodup
  told : ∀ pair ∈ log.board.hops, log.missed pair.1 = false →
    log.told pair.1 = some pair.2.toNat
  faithful : log.Faithful

theorem start_sound {board : MeshPlane} (distinct : board.infraIds.Nodup) :
    (start board).Sound := by
  refine ⟨distinct, fun pair member _ => ?_, nofun⟩
  have ids : (board.hops.map Prod.fst).Nodup := board.hops_ids ▸ distinct
  show (board.hops.lookup pair.1).map UInt8.toNat = some pair.2.toNat
  rcases found : board.hops.lookup pair.1 with _ | hopNum
  · have other := List.lookup_eq_none_iff.mp found pair member
    simp at other
  · obtain ⟨before, rest, listed, -⟩ := List.lookup_eq_some_iff.mp found
    have inside : (pair.1, hopNum) ∈ board.hops := by simp [listed]
    have same := List.inj_on_of_nodup_map ids inside member rfl
    rw [← same]
    rfl

section Hearing

variable {env : MeshEnv} {s s' : MeshPlane} {event : Event}
  {deviceId : UInt16} {hopNum : UInt8}

theorem hear_told_other {other : UInt16} (differs : other ≠ deviceId) :
    (log.hear env s s' event deviceId).told other = log.told other :=
  Function.update_of_ne differs _ _

theorem hear_missed_other {other : UInt16} (differs : other ≠ deviceId) :
    (log.hear env s s' event deviceId).missed other = log.missed other :=
  Function.update_of_ne differs _ _

theorem hear_told :
    (log.hear env s s' event deviceId).told deviceId =
      (s.announcedHop env event).or (log.told deviceId) :=
  Function.update_self _ _ _

/-- An entry written with the number announced last. -/
theorem Sound.written
    (distinct : s.infraIds.Nodup)
    (told : ∀ pair ∈ s.hops, log.missed pair.1 = false →
      log.told pair.1 = some pair.2.toNat)
    (writes : Writes deviceId hopNum s s')
    (current : (log.hear env s s' event deviceId).told deviceId =
      some hopNum.toNat) :
    (log.hear env s s' event deviceId).Sound where
  distinct := writes.distinct distinct
  told pair member upToDate := by
    by_cases same : pair.1 = deviceId
    · have only : pair.2 = hopNum := writes.only distinct member same
      rw [same, current, only]
    · rw [hear_missed_other same] at upToDate
      rw [hear_told_other same]
      exact told pair (writes.others pair member same) upToDate
  faithful taken took := by
    have same : taken = deviceId := by
      unfold hear at took
      dsimp only at took
      split at took
      · exact (Option.some.inj took).symm
      · cases took
    subst same
    refine ⟨?_, fun other member => ?_, writes.sorted⟩
    · have inside := List.mem_map_of_mem (f := Prod.fst) writes.written
      rw [hops_ids] at inside
      exact inside
    · have only : other = hopNum := writes.only distinct member rfl
      rw [current, only]

/-- A number that is not written is missed, unless it is the one stored. -/
theorem Sound.unwritten
    (distinct : s.infraIds.Nodup)
    (told : ∀ pair ∈ s.hops, log.missed pair.1 = false →
      log.told pair.1 = some pair.2.toNat)
    (keeps : MeshPlane.Keeps s s')
    (idle : ¬ (s.AddsEntry env event ∨ s.UpdatesEntry env event)) :
    (log.hear env s s' event deviceId).Sound where
  distinct := keeps.distinct distinct
  told pair member upToDate := by
    have stored := keeps.hops member
    by_cases same : pair.1 = deviceId
    · subst same
      rw [hear_told]
      unfold hear at upToDate
      simp only [decide_eq_false idle, Function.update_self, Bool.not_false,
        Bool.true_and] at upToDate
      rcases announced : s.announcedHop env event with _ | hop
      · rw [announced] at upToDate
        exact told pair stored upToDate
      · rw [announced, List.any_eq_false] at upToDate
        have current := upToDate pair stored
        simp only [true_and, decide_eq_true_eq, not_not] at current
        rw [current]
        rfl
    · rw [hear_missed_other same] at upToDate
      rw [hear_told_other same]
      exact told pair stored upToDate
  faithful taken took := by
    simp only [hear, decide_eq_false idle, Bool.false_eq_true, if_false]
      at took
    cases took

/-- One packet of a neighbour. -/
theorem Sound.hear
    (routes : env.Routes) (distinct : s.infraIds.Nodup)
    (told : ∀ pair ∈ s.hops, log.missed pair.1 = false →
      log.told pair.1 = some pair.2.toNat)
    (kept : s.WritesAnnounced env log.missed event)
    (announces : event.announces = some (deviceId, hopNum))
    (up : s.handle env event = .ok s') :
    (log.hear env s s' event deviceId).Sound := by
  cases handle_registers routes announces up with
  | added adds writes =>
      apply Sound.written distinct told
      · exact writes (adds.fresh kept announces)
      · rw [hear_told, adds.announced kept]
        rfl
  | updated old updates stored writes =>
      apply Sound.written distinct told writes
      rw [hear_told]
      rcases updates.announced kept announces old with
        new | ⟨none, same, current⟩
      · rw [new]
        rfl
      · rw [none, same]
        exact told (deviceId, old) stored current
  | kept adds updates keeps =>
      apply Sound.unwritten distinct told keeps
      exact not_or.mpr ⟨adds, updates⟩

end Hearing

/-- One event. -/
theorem Sound.step
    (sound : log.Sound) {occurrence : Occurrence}
    (kept : log.WritesAnnounced occurrence)
    (moved : log.step occurrence = .ok log') : log'.Sound := by
  obtain ⟨routes, announced⟩ := kept
  have distinct : (log.board.begin occurrence.failures).infraIds.Nodup :=
    sound.distinct
  have told : ∀ pair ∈ (log.board.begin occurrence.failures).hops,
      log.missed pair.1 = false → log.told pair.1 = some pair.2.toNat :=
    sound.told
  unfold HopLog.step at moved
  split at moved
  · cases moved
    exact ⟨sound.distinct, sound.told, nofun⟩
  · next event received =>
    dsimp only at moved
    split at moved
    · cases moved
    · next s' up silent =>
      cases moved
      have keeps := handle_keeps silent up
      exact ⟨keeps.distinct distinct,
        fun pair member => told pair (keeps.hops member), nofun⟩
    · next s' deviceId hopNum up announces =>
      cases moved
      exact Sound.hear routes distinct told (announced event received)
        announces up

/-- In every run whose packets write the numbers they announce, the entry that
an event writes has the number that the neighbour announced last, and the table
is sorted. -/
theorem hops_announced
    {board : MeshPlane} (distinct : board.infraIds.Nodup)
    (reach : Trace.Reach HopLog.step WritesAnnounced (start board) log) :
    log.Faithful := by
  have sound : log.Sound := by
    apply reach.invariant
    · exact start_sound distinct
    · intro before occurrence after held kept moved
      exact held.step kept moved
  exact sound.faithful

section Samples

/-- The gateway, with no neighbours. -/
def gatewayPlane : MeshPlane where
  hopNum := 0

/-- What the gateway hears from anchor 5. -/
def fromFive (event : PacketHeader → Event) : Occurrence where
  env := { deviceType := .gateway, deviceId := 1 }
  event := some (event
    { deviceType := DeviceType.anchor.code
      deviceId := 1
      status := statusSuccess })

/-- The anchor confirms a pairing and has no hop number yet. -/
def fiveConfirms : Occurrence :=
  fromFive fun hdr => .pairConfirm { hdr := hdr, hopNum := 0xFF } 5 0

/-- Later it is two hops away. -/
def fiveAnswers : Occurrence :=
  fromFive fun hdr =>
    .pingAck
      { hdr := hdr, dstDeviceId := 5, hopNum := 2, version := 0,
        timestamp := 0 }
      5 0

/-- The anchor, two hops away, asks for a repair. -/
def fiveRepairs : Occurrence :=
  fromFive fun hdr =>
    .repairRequest
      { hdr := hdr, randomNum := 9, hash := computePairHash 5 9, version := 0,
        hopNum := 2 }
      5 0

theorem hops_announced_twice :
    ∃ log : HopLog,
      log.taken = some 5 ∧ log.told 5 = some 2 ∧ log.Faithful := by
  have executed : Trace.Ends HopLog.step (start gatewayPlane) [fiveConfirms]
      fun log => Trace.Ends HopLog.step log [fiveAnswers]
        fun log => log.taken = some 5 ∧ log.told 5 = some 2 := by
    decide +kernel
  obtain ⟨joined, first, log, second, taken, told⟩ := executed
  rw [Trace.run_single] at first second
  have confirmed : (start gatewayPlane).WritesAnnounced fiveConfirms := by
    refine ⟨.inl rfl, fun event received => ?_⟩
    cases received
    exact fun _ _ => by decide
  have answered : joined.WritesAnnounced fiveAnswers := by
    refine ⟨.inl rfl, fun event received => ?_⟩
    cases received
    exact fun unset => absurd unset (by decide)
  exact ⟨log, taken, told, hops_announced (by decide)
    (.next (.next .refl confirmed first) answered second)⟩

/-- The repair request stores the hop number one. -/
theorem hops_overwritten :
    ¬ ∀ (board : MeshPlane) (log : HopLog), board.infraIds.Nodup →
      Trace.Reach HopLog.step (fun _ occurrence => occurrence.env.Routes)
        (start board) log →
      log.Faithful := by
  intro always
  have executed : Trace.Ends HopLog.step (start gatewayPlane) [fiveRepairs]
      fun log => log.taken = some 5 ∧ log.told 5 = some 2 ∧
        (5, 1) ∈ log.board.hops := by
    decide +kernel
  obtain ⟨log, moved, taken, told, stored⟩ := executed
  rw [Trace.run_single] at moved
  have faithful := always gatewayPlane log (by decide)
    (.next .refl (.inl rfl) moved)
  have announced := (faithful 5 taken).2.1 1 stored
  rw [told] at announced
  exact absurd announced (by decide)

end Samples

end HopLog

end DectMesh
