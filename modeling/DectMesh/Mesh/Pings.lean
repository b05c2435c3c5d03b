import DectMesh.Mesh.Hops

/-!
# The pings that a ping leads to

An anchor that is pinged pings its neighbours in turn, those that are further
from the gateway than itself.  A ping that keeps the device it names leads to
no other.
-/

namespace DectMesh

/-- The `PING_DEVICE` packet that the tracker sends. -/
def MeshAction.ping : MeshAction → Option PingDevice
  | .request (.pingDevice pkt) => some pkt
  | _ => none

namespace MeshPlane

variable {env : MeshEnv} {s s' s'' : MeshPlane}

/-- The pings that the event at hand sends. -/
def pings (s : MeshPlane) : List PingDevice :=
  s.out.filterMap MeshAction.ping

/-- Nothing but reports of devices was sent. -/
def Reports (s s' : MeshPlane) : Prop :=
  ∃ reports : List DeviceUpdated, s'.out = s.out ++ reports.map fun pkt =>
    .request (.deviceUpdated pkt)

namespace Reports

theorem of_out (same : s'.out = s.out) : Reports s s' :=
  ⟨[], by simp [same]⟩

theorem trans (first : Reports s s') (second : Reports s' s'') :
    Reports s s'' := by
  obtain ⟨early, before⟩ := first
  obtain ⟨late, after⟩ := second
  exact ⟨early ++ late, by simp [after, before]⟩

theorem sendDeviceUpdated
    (pkt : DeviceUpdated) (dstId : UInt16) (status : UInt8) :
    Reports s (s.sendDeviceUpdated env pkt dstId status) :=
  ⟨[{ pkt with hdr := env.requestHeader dstId packetPriorityLow status }], rfl⟩

theorem pings (reports : Reports s s') : s'.pings = s.pings := by
  obtain ⟨added, out⟩ := reports
  have none : (added.map fun pkt => MeshAction.request (.deviceUpdated pkt)
      ).filterMap MeshAction.ping = [] := by
    rw [List.filterMap_map]
    exact List.filterMap_eq_nil_iff.mpr fun _ _ => rfl
  rw [MeshPlane.pings, out, List.filterMap_append, none, List.append_nil]
  rfl

theorem deviceInfoUpdate : Reports s (plane (s.deviceInfoUpdate env)) := by
  unfold MeshPlane.deviceInfoUpdate
  split
  · exact .of_out rfl
  · split
    · exact .of_out rfl
    · split
      · exact .of_out rfl
      · dsimp only
        split
        · exact .of_out rfl
        · refine .trans ?_ (.of_out rfl)
          split
          · exact .sendDeviceUpdated _ _ _
          · exact .of_out rfl

theorem updateInfraStorage
    (deviceId : UInt16) (hopNum : UInt8) (rssi2 : Int16) :
    Reports s (plane ((s.updateInfraStorage env deviceId hopNum rssi2).map
      Prod.fst)) := by
  unfold MeshPlane.updateInfraStorage
  split
  · exact .of_out rfl
  · split
    · exact .of_out rfl
    · split
      · exact .of_out rfl
      · next storage updated =>
        have stored : Reports s (s.setStorage storage) := .of_out rfl
        have after := stored.trans
          (@Reports.deviceInfoUpdate env (s.setStorage storage))
        split
        · next down => rwa [down] at after
        · next up => rwa [up] at after

theorem refreshInfra (srcId : UInt16) (hopNum : UInt8) (rssi2 : Int16) :
    Reports s (plane (s.refreshInfra env srcId hopNum rssi2)) := by
  have updated := @Reports.updateInfraStorage env s srcId hopNum rssi2
  unfold MeshPlane.refreshInfra
  split
  · next down => rwa [down] at updated
  · next changed =>
    rw [changed] at updated
    exact updated.trans (.sendDeviceUpdated _ _ _)
  · next kept => rwa [kept] at updated

theorem reportSensorHolder (pkt : PingDevice) :
    Reports s (s.reportSensorHolder env pkt) := by
  unfold MeshPlane.reportSensorHolder
  split
  · exact .sendDeviceUpdated _ _ _
  · exact .of_out rfl

end Reports

/-- The packet of `send_ping_device`. -/
def pingPacket (env : MeshEnv) (s : MeshPlane) (dstId genId : UInt16)
    (status : UInt8) : PingDevice where
  hdr := env.requestHeader dstId packetPriorityLow status
  dstDeviceId := genId
  hopNum := s.hopNum
  version := firmwareVersion
  totalDevices := s.meshDevicesCount
  timestamp := s.meshTime env + 15

theorem pingWhere_pings
    (due : Infra → Bool) (genId : UInt16) (status : UInt8)
    (devices : List Infra) (index : Nat) (s : MeshPlane) :
    (pingWhere env due genId status devices index s).pings =
      s.pings ++ (devices.filter due).map fun device =>
        s.pingPacket env device.entry.deviceId genId status := by
  induction devices generalizing index s with
  | nil => simp [pingWhere]
  | cons device rest ih =>
      rw [pingWhere, ih]
      by_cases pinged : due device = true
      · have sent : (s.pingInfra env index device.entry.deviceId genId
            status).pings = s.pings ++
              [s.pingPacket env device.entry.deviceId genId status] := by
          rw [pings, pings]
          exact List.filterMap_append
        rw [if_pos pinged, sent, List.filter_cons_of_pos pinged,
          List.map_cons, List.append_assoc]
        rfl
      · rw [if_neg pinged, List.filter_cons_of_neg pinged]

/-- The pings of `ping_known_devices`. -/
theorem pingKnownDevices_pings (genId : UInt16) (status : UInt8) :
    (s.pingKnownDevices env genId status).pings =
      s.pings ++
        (s.infra.filter fun device => s.hopNum < device.entry.hopNum).map
          fun device => s.pingPacket env device.entry.deviceId genId status :=
  pingWhere_pings _ genId status s.infra 0 s

/-- Whatever pings were added have a status that keeps the device they name,
and each goes to another neighbour further from the gateway. -/
def PingsBelow (s s' : MeshPlane) : Prop :=
  ∃ added : List PingDevice, s'.pings = s.pings ++ added ∧
    added.length ≤ s'.entries.length ∧
      ∀ ping ∈ added, keepsDevice ping.hdr.status = true ∧
        ping.hopNum = s'.hopNum ∧
        ∃ entry ∈ s'.entries,
          ping.hdr.deviceId = entry.deviceId ∧ s'.hopNum < entry.hopNum

namespace PingsBelow

theorem after_quiet (quiet : s'.pings = s.pings) (sends : PingsBelow s' s'') :
    PingsBelow s s'' := by
  unfold PingsBelow
  rw [← quiet]
  exact sends

theorem then_quiet (sends : PingsBelow s s') (same : SameParent s' s'')
    (quiet : s''.pings = s'.pings) : PingsBelow s s'' := by
  unfold PingsBelow
  rw [quiet, same.entries, same.hopNum]
  exact sends

end PingsBelow

theorem pingKnownDevices_below (genId : UInt16) {status : UInt8}
    (keeps : keepsDevice status = true) :
    PingsBelow s (s.pingKnownDevices env genId status) := by
  have same := @pingKnownDevices_parent env s genId status
  refine ⟨_, pingKnownDevices_pings genId status, ?_, ?_⟩
  · rw [List.length_map, same.entries, entries, List.length_map]
    exact List.length_filter_le _ _
  · intro ping member
    obtain ⟨device, listed, rfl⟩ := List.mem_map.mp member
    obtain ⟨stored, further⟩ := List.mem_filter.mp listed
    rw [same.entries, same.hopNum]
    exact ⟨keeps, rfl, device.entry, List.mem_map_of_mem stored, rfl,
      by simpa using further⟩

theorem sendPingAck_pings
    (dstId genId : UInt16) (trackingId status : UInt8) :
    (s.sendPingAck env dstId genId trackingId status).pings = s.pings := by
  simp [pings, sendPingAck, put, MeshAction.ping]

/-- Only an anchor that stays up passes a ping on. -/
def PassesOn (env : MeshEnv) (s : MeshPlane)
    (result : Except MeshPlane MeshPlane) : Prop :=
  (plane result).pings = s.pings ∨
    env.deviceType = .anchor ∧ ∃ s', result = .ok s' ∧ PingsBelow s s'

theorem answerPing_passesOn
    {pkt : PingDevice} (keeps : keepsDevice pkt.hdr.status = true)
    (srcId : UInt16) (rssi2 : Int16) :
    PassesOn env s (s.answerPing env pkt srcId rssi2) := by
  unfold answerPing
  split
  · exact .inl rfl
  · exact .inl rfl
  · next isAnchor =>
    have reported := @Reports.reportSensorHolder env s pkt
    have refreshed := reported.trans (@Reports.refreshInfra env
      (s.reportSensorHolder env pkt) srcId pkt.hopNum rssi2)
    dsimp only
    split
    · exact .inl reported.pings
    · split
      · next down =>
        rw [down] at refreshed
        exact .inl refreshed.pings
      · next s' up =>
        rw [up] at refreshed
        split
        · exact .inl ((sendPingAck_pings _ _ _ _).trans refreshed.pings)
        · refine .inr ⟨isAnchor, _, rfl, .after_quiet refreshed.pings ?_⟩
          have adopted : PingsBelow s' ((s'.adoptNetwork env pkt
              ).pingKnownDevices env pkt.dstDeviceId pkt.hdr.status) :=
            .after_quiet rfl (pingKnownDevices_below pkt.dstDeviceId keeps)
          exact adopted.then_quiet ⟨rfl, rfl, rfl⟩
            (sendPingAck_pings _ _ _ _)
  · split
    · exact .inl rfl
    · have timed : Reports s (s.setMeshTime env pkt.timestamp) := .of_out rfl
      have updated := timed.trans (@Reports.updateInfraStorage env
        (s.setMeshTime env pkt.timestamp) srcId pkt.hopNum rssi2)
      split
      · next down =>
        rw [down] at updated
        exact .inl updated.pings
      · next s' changed up =>
        rw [up] at updated
        exact .inl ((sendPingAck_pings _ _ _ _).trans updated.pings)

/-- What a ping that keeps the device it names leads to. -/
theorem handlePingDevice_passesOn
    {pkt : PingDevice} (keeps : keepsDevice pkt.hdr.status = true)
    (srcId : UInt16) (rssi2 : Int16) :
    PassesOn env s (s.handlePingDevice env pkt srcId rssi2) := by
  rw [handlePingDevice_eq]
  have same : s.pinged env pkt = s := if_pos keeps
  rw [same, if_pos keeps]
  split
  · exact .inl rfl
  · split
    · exact answerPing_passesOn keeps srcId rssi2
    · exact @answerPing_passesOn env { s with processNextRequest := true } pkt
        keeps srcId rssi2

end MeshPlane

end DectMesh
