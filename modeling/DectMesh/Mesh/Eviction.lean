import DectMesh.Mesh.Receivers
import DectMesh.Mesh.Joining

/-!
# Evicted neighbours

`handle_ping_device` passes an eviction on to the neighbour it names, removes
the neighbour, and keeps its id for the answer.  The id is read from the cell
of the removed entry.
-/

namespace DectMesh

namespace MeshPlane

variable {env : MeshEnv} {s s' s'' : MeshPlane}

section Removal

/-- The infrastructure neighbours without the first entry of a device. -/
def infraWithout (s : MeshPlane) (deviceId : UInt16) : List InfraRecord :=
  (s.infra.eraseP fun device => device.entry.deviceId = deviceId).map
    Neighbour.entry

def sensorsWithout (s : MeshPlane) (deviceId : UInt16) : List SensorRecord :=
  (s.sensors.eraseP fun device => device.entry.deviceId = deviceId).map
    Neighbour.entry

/-- The sender's entry may be written over, which puts the table in order. -/
def Refreshed (srcId : UInt16) (known known' : List InfraRecord) : Prop :=
  known' = known ∨
    ∃ index old entry, known[index]? = some old ∧ old.deviceId = srcId ∧
      entry.deviceId = srcId ∧ known'.Perm (known.set index entry) ∧
      known'.Pairwise CloserFirst

theorem Refreshed.ids {srcId : UInt16} {known known' : List InfraRecord}
    (refreshed : Refreshed srcId known known') :
    (known'.map InfraRecord.deviceId).Perm
      (known.map InfraRecord.deviceId) := by
  rcases refreshed with same | ⟨index, old, entry, here, before, after, perm, -⟩
  · rw [same]
  · exact (perm.map InfraRecord.deviceId).trans
      (.of_eq (map_set_same here (after.trans before.symm)))

/-- The cell of a removed entry holds what was behind it, or the entry itself
when that was the last one. -/
theorem cell_remove {α : Type} {table : RamTable α} {index : Nat}
    (inside : index < table.live.length) (other : α) :
    (table.remove index).cell index other =
      (table.live[index + 1]?).getD table.live[index] := by
  have length := List.length_eraseIdx_of_lt inside
  unfold RamTable.cell RamTable.remove
  dsimp only
  by_cases last : index + 1 < table.live.length
  · rw [List.getElem?_append_left (by omega),
      List.getElem?_eraseIdx_of_ge (Nat.le_refl _),
      List.getElem?_eq_getElem last]
    rfl
  · have past : table.live[index + 1]? = none :=
      List.getElem?_eq_none (Nat.not_lt.mp last)
    have ends : index = table.live.length - 1 := by omega
    rw [past, List.getElem?_append_right (by omega), length,
      List.getLast?_eq_getElem?, ← ends, Nat.sub_self,
      List.getElem?_eq_getElem inside]
    rfl

/-- What the cell of a removed entry names, if no second entry has its key. -/
theorem cell_key_iff {α : Type} {table : RamTable α} {index : Nat}
    {key : α → UInt16} {id : UInt16}
    (found : table.live.findIdx? (fun item => key item = id) = some index)
    (single : ∀ item ∈ table.live.eraseP (fun item => key item = id),
      key item ≠ id) (other : α) :
    key ((table.remove index).cell index other) = id ↔
      table.live.getLast?.map key = some id := by
  obtain ⟨inside, named, -⟩ := List.findIdx?_eq_some_iff_getElem.mp found
  rw [List.eraseP_eq_eraseIdx, found] at single
  have apart {position : Nat} (behind : index < position)
      (below : position < table.live.length) :
      key table.live[position] ≠ id := by
    apply single
    have length := List.length_eraseIdx_of_lt inside
    have here := @List.getElem?_eraseIdx_of_ge _ table.live index (position - 1)
      (by omega)
    rw [Nat.sub_add_cancel (by omega), List.getElem?_eq_getElem below] at here
    exact List.mem_of_getElem? here
  rw [cell_remove inside, List.getLast?_eq_getElem?]
  by_cases last : index + 1 < table.live.length
  · rw [List.getElem?_eq_getElem last,
      List.getElem?_eq_getElem (show table.live.length - 1 <
        table.live.length by omega), Option.map_some, Option.some.injEq]
    exact iff_of_false (apart (Nat.lt_succ_self index) last)
      (apart (by omega) (by omega))
  · have past : table.live[index + 1]? = none :=
      List.getElem?_eq_none (Nat.not_lt.mp last)
    have ends : table.live.length - 1 = index := by omega
    rw [past, ends, List.getElem?_eq_getElem inside]
    exact iff_of_true (of_decide_eq_true named)
      (congrArg some (of_decide_eq_true named))

end Removal

section Forgetting

variable {pkt : PingDevice}

/-- The packet that passes the eviction on. -/
def evictionPing (env : MeshEnv) (s : MeshPlane) (pkt : PingDevice) :
    PingDevice where
  hdr := env.requestHeader pkt.dstDeviceId packetPriorityLow pkt.hdr.status
  dstDeviceId := pkt.dstDeviceId
  hopNum := s.hopNum
  version := firmwareVersion
  totalDevices := s.meshDevicesCount
  timestamp := s.meshTime env + 15

theorem storageInfraRemove_infra {storage : Storage} {index : Nat}
    (inside : index < storage.infra.count) :
    (storage.storageInfraRemove index).1.infra =
      storage.infra.remove index := by
  rw [Storage.storageInfraRemove, if_neg (Nat.not_le.mpr inside),
    flushInfra_infra]

theorem storageSensorRemove_sensors {storage : Storage} {index : Nat}
    (inside : index < storage.sensors.count) :
    (storage.storageSensorRemove index).1.sensors =
        storage.sensors.remove index ∧
      (storage.storageSensorRemove index).1.infra = storage.infra := by
  rw [Storage.storageSensorRemove, if_neg (Nat.not_le.mpr inside)]
  unfold Storage.flushSensorsToEeprom
  split
  · exact ⟨rfl, rfl⟩
  · exact ⟨rfl, rfl⟩

theorem forgetInfra_none (missing : s.findInfra pkt.dstDeviceId = none) :
    s.forgetInfra env pkt = s := by
  rw [forgetInfra, missing]

theorem forgetSensor_none (missing : s.findSensor pkt.dstDeviceId = none) :
    s.forgetSensor env pkt = s := by
  rw [forgetSensor, missing]

theorem forgetInfra_some {index : Nat}
    (found : s.findInfra pkt.dstDeviceId = some index) :
    (s.forgetInfra env pkt).storage.infra = s.storage.infra.remove index ∧
      (s.forgetInfra env pkt).storage.sensors = s.storage.sensors ∧
      (s.forgetInfra env pkt).out =
        s.out ++ [.request (.pingDevice (evictionPing env s pkt))] ∧
      (s.forgetInfra env pkt).tempId =
        ((s.storage.infra.remove index).cell index noInfra).entry.deviceId := by
  have inside := (List.findIdx?_eq_some_iff_getElem.mp found).1
  have infra := @storageInfraRemove_infra s.storage index inside
  have sensors := storageInfraRemove_sensors s.storage index
  rw [forgetInfra, found]
  dsimp only [setStorage, sendPingDevice, put]
  rw [infra, sensors]
  exact ⟨rfl, rfl, rfl, rfl⟩

theorem forgetSensor_some {index : Nat}
    (found : s.findSensor pkt.dstDeviceId = some index) :
    (s.forgetSensor env pkt).storage.sensors =
        s.storage.sensors.remove index ∧
      (s.forgetSensor env pkt).storage.infra = s.storage.infra ∧
      (s.forgetSensor env pkt).out =
        s.out ++ [.request (.pingDevice (evictionPing env s pkt))] ∧
      (s.forgetSensor env pkt).tempId =
        ((s.storage.sensors.remove index).cell index
          noSensor).entry.deviceId := by
  have inside := (List.findIdx?_eq_some_iff_getElem.mp found).1
  have both := @storageSensorRemove_sensors s.storage index inside
  rw [forgetSensor, found]
  dsimp only [setStorage, sendPingDevice, put]
  rw [both.1, both.2]
  exact ⟨rfl, rfl, rfl, rfl⟩

/-- The removed entry was the last one of the table it was found in last. -/
def NamesLast (s : MeshPlane) (deviceId : UInt16) : Prop :=
  if s.findSensor deviceId = none then
    s.entries.getLast?.map InfraRecord.deviceId = some deviceId
  else
    s.storage.tables.sensors.getLast?.map SensorRecord.deviceId =
      some deviceId

/-- No second entry has this id. -/
structure Single (s : MeshPlane) (deviceId : UInt16) : Prop where
  infra : ∀ known ∈ s.infraWithout deviceId, known.deviceId ≠ deviceId
  sensors : ∀ known ∈ s.sensorsWithout deviceId, known.deviceId ≠ deviceId

theorem forgetInfra_entries_eq :
    (s.forgetInfra env pkt).entries = s.infraWithout pkt.dstDeviceId := by
  rw [forgetInfra_entries, infraWithout, List.eraseP_eq_eraseIdx]
  cases found : s.findInfra pkt.dstDeviceId with
  | none =>
      unfold findInfra at found
      rw [found]
      rfl
  | some index =>
      unfold findInfra at found
      rw [found]
      exact List.eraseIdx_map _ _ _

theorem forgetInfra_sensors :
    (s.forgetInfra env pkt).storage.sensors = s.storage.sensors := by
  cases found : s.findInfra pkt.dstDeviceId with
  | none => rw [forgetInfra_none found]
  | some index => exact (forgetInfra_some found).2.1

theorem forgetSensor_sensors_eq :
    (s.forgetSensor env pkt).storage.tables.sensors =
      s.sensorsWithout pkt.dstDeviceId := by
  rw [sensorsWithout, List.eraseP_eq_eraseIdx]
  cases found : s.findSensor pkt.dstDeviceId with
  | none =>
      rw [forgetSensor_none found]
      unfold findSensor at found
      rw [found]
      rfl
  | some index =>
      dsimp only [Storage.tables]
      rw [(forgetSensor_some found).1]
      unfold findSensor at found
      rw [found]
      rfl

theorem forgetSensor_entries :
    (s.forgetSensor env pkt).entries = s.entries := by
  unfold entries infra
  cases found : s.findSensor pkt.dstDeviceId with
  | none => rw [forgetSensor_none found]
  | some index => rw [(forgetSensor_some found).2.1]

theorem forgetInfra_findSensor (deviceId : UInt16) :
    (s.forgetInfra env pkt).findSensor deviceId = s.findSensor deviceId := by
  unfold findSensor sensors
  rw [forgetInfra_sensors]

theorem pinged_evicts (evicts : keepsDevice pkt.hdr.status = false) :
    s.pinged env pkt = (s.forgetInfra env pkt).forgetSensor env pkt := by
  rw [pinged, evicts]
  rfl

theorem pinged_infraWithout (evicts : keepsDevice pkt.hdr.status = false) :
    (s.pinged env pkt).entries = s.infraWithout pkt.dstDeviceId := by
  rw [pinged_evicts evicts, forgetSensor_entries, forgetInfra_entries_eq]

theorem pinged_sensorsWithout (evicts : keepsDevice pkt.hdr.status = false) :
    (s.pinged env pkt).storage.tables.sensors =
      s.sensorsWithout pkt.dstDeviceId := by
  rw [pinged_evicts evicts, forgetSensor_sensors_eq]
  unfold sensorsWithout sensors
  rw [forgetInfra_sensors]

/-- The eviction is passed on to the neighbour that is removed. -/
theorem pinged_passes (evicts : keepsDevice pkt.hdr.status = false)
    (known : s.findInfra pkt.dstDeviceId ≠ none ∨
      s.findSensor pkt.dstDeviceId ≠ none) :
    ∃ sender : MeshPlane,
      .request (.pingDevice (evictionPing env sender pkt)) ∈
        (s.pinged env pkt).out := by
  rw [pinged_evicts evicts]
  cases found : s.findSensor pkt.dstDeviceId with
  | some index =>
      refine ⟨s.forgetInfra env pkt, ?_⟩
      rw [(forgetSensor_some ((forgetInfra_findSensor _).trans found)).2.2.1]
      exact List.mem_append_right _ List.mem_cons_self
  | none =>
      have stored := known.resolve_right (fun other => other found)
      obtain ⟨index, here⟩ := Option.ne_none_iff_exists'.mp stored
      refine ⟨s, ?_⟩
      rw [forgetSensor_none ((forgetInfra_findSensor _).trans found),
        (forgetInfra_some here).2.2.1]
      exact List.mem_append_right _ List.mem_cons_self

/-- The id that is remembered is that of the device, if its entry was the last
one. -/
theorem pinged_tempId_iff (evicts : keepsDevice pkt.hdr.status = false)
    (known : s.findInfra pkt.dstDeviceId ≠ none ∨
      s.findSensor pkt.dstDeviceId ≠ none)
    (single : s.Single pkt.dstDeviceId) :
    (s.pinged env pkt).tempId = pkt.dstDeviceId ↔
      s.NamesLast pkt.dstDeviceId := by
  have infra : ∀ device ∈ s.storage.infra.live.eraseP
      (fun device => device.entry.deviceId = pkt.dstDeviceId),
        device.entry.deviceId ≠ pkt.dstDeviceId := fun device member =>
    single.infra _ (List.mem_map_of_mem member)
  have sensors : ∀ device ∈ s.storage.sensors.live.eraseP
      (fun device => device.entry.deviceId = pkt.dstDeviceId),
        device.entry.deviceId ≠ pkt.dstDeviceId := fun device member =>
    single.sensors _ (List.mem_map_of_mem member)
  rw [pinged_evicts evicts, NamesLast]
  cases found : s.findSensor pkt.dstDeviceId with
  | some index =>
      rw [(forgetSensor_some ((forgetInfra_findSensor _).trans found)).2.2.2,
        forgetInfra_sensors, if_neg (Option.some_ne_none index)]
      refine (@cell_key_iff _ s.storage.sensors index
        (fun device => device.entry.deviceId) _ found sensors noSensor).trans ?_
      dsimp only [Storage.tables]
      rw [List.getLast?_map, Option.map_map]
      rfl
  | none =>
      have stored := known.resolve_right (fun other => other found)
      obtain ⟨index, here⟩ := Option.ne_none_iff_exists'.mp stored
      rw [forgetSensor_none ((forgetInfra_findSensor _).trans found),
        (forgetInfra_some here).2.2.2, if_pos rfl]
      refine (@cell_key_iff _ s.storage.infra index
        (fun device => device.entry.deviceId) _ here infra noInfra).trans ?_
      unfold entries
      rw [List.getLast?_map, Option.map_map]
      rfl

end Forgetting

section Answering

variable {pkt : PingDevice} {srcId : UInt16}

/-- What the rest of `handle_ping_device` keeps. -/
structure Retains (srcId : UInt16) (s s' : MeshPlane) : Prop where
  infra : Refreshed srcId s.entries s'.entries
  sensors : s'.storage.tables.sensors = s.storage.tables.sensors
  tempId : s'.tempId = s.tempId
  out : s.out ⊆ s'.out

theorem Retains.refl (srcId : UInt16) (s : MeshPlane) : Retains srcId s s where
  infra := .inl rfl
  sensors := rfl
  tempId := rfl
  out := List.Subset.refl _

/-- Steps after the refresh leave the infrastructure neighbours alone. -/
theorem Retains.after (first : Retains srcId s s')
    (entries : s''.entries = s'.entries)
    (sensors : s''.storage.sensors = s'.storage.sensors)
    (tempId : s''.tempId = s'.tempId) (out : s'.out ⊆ s''.out) :
    Retains srcId s s'' where
  infra := entries ▸ first.infra
  sensors := by
    rw [← first.sensors]
    dsimp only [Storage.tables]
    rw [sensors]
  tempId := tempId.trans first.tempId
  out := List.Subset.trans first.out out

theorem Retains.put (first : Retains srcId s s') (action : MeshAction) :
    Retains srcId s (s'.put action) :=
  first.after rfl rfl rfl (List.subset_append_left _ _)

theorem deviceInfoUpdate_aside (linked : s.infra ≠ [])
    (up : s.deviceInfoUpdate env = .ok s') :
    s'.storage = s.storage ∧ s'.tempId = s.tempId ∧ s.out ⊆ s'.out := by
  unfold deviceInfoUpdate at up
  split at up
  · cases up
    exact ⟨rfl, rfl, List.Subset.refl _⟩
  · split at up
    · cases up
    · dsimp only at up
      split at up
      · cases up
      · cases up
        dsimp only
        split
        · exact ⟨rfl, rfl, List.subset_append_left _ _⟩
        · exact ⟨rfl, rfl, List.Subset.refl _⟩

theorem updateInfraStorage_retains {hopNum : UInt8} {rssi2 : Int16}
    {flag : Bool}
    (up : s.updateInfraStorage env srcId hopNum rssi2 = .ok (s', flag)) :
    Retains srcId s s' := by
  rcases updateInfraStorage_entries up with
    ⟨-, rfl⟩ | ⟨index, entry, found, here, perm, sorted⟩
  · exact .refl srcId s'
  · obtain ⟨known, at_, id⟩ := findInfra_entry found
    obtain rfl : known = entry := by
      rw [here] at at_
      exact (Option.some.inj at_).symm
    have infra : Refreshed srcId s.entries s'.entries :=
      .inr ⟨index, known, updatedInfra hopNum rssi2 known, here, id, id,
        perm, sorted⟩
    have sensors := storageInfraUpdate_sensors s.storage index
      (updatedInfra hopNum rssi2 known)
    have live := @storageInfraUpdate_live s.storage index known
      (updatedInfra hopNum rssi2 known)
    have current : s.storage.storageInfraGet index = some known := by
      rw [Storage.storageInfraGet, ← List.getElem?_map]
      exact here
    rw [updateInfraStorage, found] at up
    dsimp only at up
    rw [current] at up
    dsimp only at up
    have aside : s'.storage.sensors = s.storage.sensors ∧
        s'.tempId = s.tempId ∧ s.out ⊆ s'.out := by
      split at up
      · next storage errno updated =>
        rw [updated] at sensors
        cases up
        exact ⟨sensors, rfl, List.Subset.refl _⟩
      · next storage updated =>
        rw [updated] at sensors live
        have linked : (s.setStorage storage).infra ≠ [] := by
          intro empty
          have length := (live current).length_eq
          rw [show storage.infra.live = [] from empty, List.map_nil,
            List.length_set, List.length_map] at length
          have inside := (List.getElem?_eq_some_iff.mp here).1
          rw [entries, List.length_map, ← length] at inside
          cases inside
        split at up
        · cases up
        · next after done =>
          cases up
          obtain ⟨storage_, tempId, out⟩ := deviceInfoUpdate_aside linked done
          refine ⟨?_, tempId, out⟩
          rw [storage_]
          exact sensors
    refine ⟨infra, ?_, aside.2.1, aside.2.2⟩
    dsimp only [Storage.tables]
    rw [aside.1]

theorem refreshInfra_retains {hopNum : UInt8} {rssi2 : Int16}
    (up : s.refreshInfra env srcId hopNum rssi2 = .ok s') :
    Retains srcId s s' := by
  unfold refreshInfra at up
  split at up
  · cases up
  · next done =>
    cases up
    exact (updateInfraStorage_retains done).put _
  · next done =>
    cases up
    exact updateInfraStorage_retains done

theorem pingWhere_retains (first : Retains srcId s s') (due : Infra → Bool)
    (genId : UInt16) (status : UInt8) (devices : List Infra) (index : Nat) :
    Retains srcId s (pingWhere env due genId status devices index s') := by
  induction devices generalizing index s' with
  | nil => exact first
  | cons device rest ih =>
      unfold pingWhere
      apply ih
      split
      · have sent : SameParent s'
            (s'.sendPingDevice env device.entry.deviceId genId status) :=
          ⟨rfl, rfl, rfl⟩
        have marked : SameParent s'
            (s'.pingInfra env index device.entry.deviceId genId status) :=
          sent.trans (.updateInfra _ _ fun _ => rfl)
        exact (first.put _).after marked.entries rfl rfl (List.Subset.refl _)
      · exact first

theorem Retains.of_put {action : MeshAction}
    (later : Retains srcId (s.put action) s') : Retains srcId s s' where
  infra := later.infra
  sensors := later.sensors
  tempId := later.tempId
  out := List.Subset.trans (List.subset_append_left _ _) later.out

theorem refreshInfra_reports {hopNum : UInt8} {rssi2 : Int16}
    (up : (s.reportSensorHolder env pkt).refreshInfra env srcId hopNum rssi2 =
      .ok s') : Retains srcId s s' := by
  have refreshed := refreshInfra_retains up
  unfold reportSensorHolder at refreshed
  split at refreshed
  · exact refreshed.of_put
  · exact refreshed

theorem answerPing_retains (isAnchor : env.deviceType = .anchor)
    {rssi2 : Int16} (up : s.answerPing env pkt srcId rssi2 = .ok s') :
    Retains srcId s s' := by
  unfold answerPing at up
  rw [isAnchor] at up
  dsimp only at up
  split at up
  · cases up
    unfold reportSensorHolder
    split
    · exact (Retains.refl srcId s).put _
    · exact .refl srcId s
  · split at up
    · cases up
    · next refreshed done =>
      have kept := refreshInfra_reports done
      split at up
      · cases up
        exact kept.put _
      · cases up
        have adopted : Retains srcId s (refreshed.adoptNetwork env pkt) :=
          kept.after rfl rfl rfl (List.Subset.refl _)
        exact (pingWhere_retains adopted _ _ _ _ _).put _

end Answering

section Result

variable {pkt : PingDevice} {srcId : UInt16}

/-- The device that an eviction names is gone, the other entries are kept in
their order, the device was told, and its answer is waited for.  An anchor
refreshes the entry of the sender on the way. -/
structure Evicted (env : MeshEnv) (s : MeshPlane) (pkt : PingDevice)
    (srcId : UInt16) (s' : MeshPlane) : Prop where
  goneInfra : ∀ known ∈ s'.entries, known.deviceId ≠ pkt.dstDeviceId
  goneSensors : ∀ known ∈ s'.storage.tables.sensors,
    known.deviceId ≠ pkt.dstDeviceId
  infra : s'.entries = s.infraWithout pkt.dstDeviceId ∨
    env.deviceType = .anchor ∧
      Refreshed srcId (s.infraWithout pkt.dstDeviceId) s'.entries
  sensors : s'.storage.tables.sensors = s.sensorsWithout pkt.dstDeviceId
  passed : ∃ ping : PingDevice, ping.hdr.deviceId = pkt.dstDeviceId ∧
    ping.hdr.status = pkt.hdr.status ∧
      .request (.pingDevice ping) ∈ s'.out
  remembered : s'.tempId = pkt.dstDeviceId
  known : (s'.isKnownDevice env pkt.dstDeviceId).2 = true
  answered : ∀ (ack : PingAck) (rssi2 : Int16), env.accepts ack.hdr = true →
    (s'.handlePingAck env ack pkt.dstDeviceId rssi2).map tempId = .ok 0xFFFF

/-- The device has a valid id and one entry, the last of its table.  A board
that is named itself loses every other entry, too. -/
structure Remembers (s : MeshPlane) (own deviceId : UInt16) : Prop where
  valid : deviceId ≠ 0xFFFF
  single : s.Single deviceId
  last : s.NamesLast deviceId
  alone : deviceId = own →
    s.infraWithout deviceId = [] ∧ s.sensorsWithout deviceId = []

/-- What `handle_ping_device` makes of the state behind the removal. -/
structure Ends (env : MeshEnv) (pkt : PingDevice) (srcId : UInt16)
    (s s' : MeshPlane) : Prop where
  tempId : s'.tempId = s.tempId
  out : s.out ⊆ s'.out
  other : pkt.dstDeviceId ≠ env.deviceId →
    (s'.entries = s.entries ∨ env.deviceType = .anchor ∧
      Refreshed srcId s.entries s'.entries) ∧
    s'.storage.tables.sensors = s.storage.tables.sensors
  own : pkt.dstDeviceId = env.deviceId →
    s'.entries = [] ∧ s'.storage.tables.sensors = []

theorem handlePingDevice_ends
    (role : env.deviceType = .gateway ∨ env.deviceType = .anchor)
    (accepted : env.accepts pkt.hdr = true)
    (evicts : keepsDevice pkt.hdr.status = false) {rssi2 : Int16}
    (returned : s.handlePingDevice env pkt srcId rssi2 = .ok s') :
    Ends env pkt srcId (s.pinged env pkt) s' := by
  rw [pinged_evicts evicts]
  unfold handlePingDevice at returned
  rw [accepted, evicts] at returned
  simp only [Bool.not_true, Bool.false_eq_true, if_false] at returned
  generalize (s.forgetInfra env pkt).forgetSensor env pkt = mid at returned ⊢
  by_cases own : pkt.dstDeviceId = env.deviceId
  · rw [if_neg (fun other => other own)] at returned
    cases returned
    exact ⟨rfl, List.subset_append_left _ _, fun other => absurd own other,
      fun _ => ⟨rfl, rfl⟩⟩
  · rw [if_pos own] at returned
    rcases role with isGateway | isAnchor
    · unfold answerPing at returned
      rw [isGateway] at returned
      cases returned
      exact ⟨rfl, List.Subset.refl _, fun _ => ⟨.inl rfl, rfl⟩,
        fun same => absurd same own⟩
    · have kept := answerPing_retains isAnchor returned
      exact ⟨kept.tempId, kept.out,
        fun _ => ⟨.inr ⟨isAnchor, kept.infra⟩, kept.sensors⟩,
        fun same => absurd same own⟩

/-- A device that has no entry is known as the one that was evicted. -/
theorem isKnownDevice_evicted {deviceId : UInt16}
    (goneInfra : ∀ known ∈ s.entries, known.deviceId ≠ deviceId)
    (goneSensors : ∀ known ∈ s.storage.tables.sensors,
      known.deviceId ≠ deviceId) :
    (s.isKnownDevice env deviceId).2 = true ↔
      s.tempId ≠ 0xFFFF ∧ s.tempId = deviceId := by
  have noInfra : s.findInfra deviceId = none := by
    by_contra stored
    obtain ⟨index, found⟩ := Option.ne_none_iff_exists'.mp stored
    obtain ⟨entry, here, id⟩ := findInfra_entry found
    exact goneInfra entry (List.mem_of_getElem? here) id
  have noSensor : s.findSensor deviceId = none := by
    unfold findSensor
    rw [List.findIdx?_eq_none_iff]
    intro device member
    exact decide_eq_false (goneSensors _ (List.mem_map_of_mem member))
  unfold isKnownDevice
  by_cases waiting : s.tempId ≠ 0xFFFF ∧ s.tempId = deviceId
  · rw [if_pos waiting]
    exact iff_of_true rfl waiting
  · rw [if_neg waiting, noInfra]
    dsimp only
    rw [noSensor]
    exact iff_of_false (Bool.false_ne_true) waiting

theorem handlePingAck_evicted {ack : PingAck} {deviceId : UInt16}
    {rssi2 : Int16} (accepted : env.accepts ack.hdr = true)
    (valid : deviceId ≠ 0xFFFF) (waiting : s.tempId = deviceId) :
    (s.handlePingAck env ack deviceId rssi2).map tempId = .ok 0xFFFF := by
  have both : (s.put (.untrack ack.hdr.trackingId)).tempId ≠ 0xFFFF ∧
      (s.put (.untrack ack.hdr.trackingId)).tempId = deviceId :=
    ⟨waiting ▸ valid, waiting⟩
  unfold handlePingAck
  rw [accepted]
  simp only [Bool.not_true, Bool.false_eq_true, if_false]
  rw [if_pos both]
  rfl

/-- An evicted device stays reachable exactly when its entry was the last one
of its table. -/
theorem evicted_iff
    (role : env.deviceType = .gateway ∨ env.deviceType = .anchor)
    (accepted : env.accepts pkt.hdr = true)
    (evicts : keepsDevice pkt.hdr.status = false)
    (known : s.findInfra pkt.dstDeviceId ≠ none ∨
      s.findSensor pkt.dstDeviceId ≠ none) {rssi2 : Int16}
    (returned : s.handlePingDevice env pkt srcId rssi2 = .ok s') :
    s.Evicted env pkt srcId s' ↔
      s.Remembers env.deviceId pkt.dstDeviceId := by
  have ends := handlePingDevice_ends role accepted evicts returned
  have infra := @pinged_infraWithout env s pkt evicts
  have sensors := @pinged_sensorsWithout env s pkt evicts
  constructor
  · intro evicted
    have ids : (s'.entries.map InfraRecord.deviceId).Perm
        ((s.infraWithout pkt.dstDeviceId).map InfraRecord.deviceId) := by
      rcases evicted.infra with same | ⟨-, refreshed⟩
      · rw [same]
      · exact refreshed.ids
    have waiting := (isKnownDevice_evicted evicted.goneInfra
      evicted.goneSensors).mp evicted.known
    have single : s.Single pkt.dstDeviceId := by
      constructor
      · intro entry member same
        have id := ids.mem_iff.mpr (List.mem_map_of_mem member)
        obtain ⟨stored, inside, equal⟩ := List.mem_map.mp id
        exact evicted.goneInfra stored inside (equal.trans same)
      · rw [← evicted.sensors]
        exact evicted.goneSensors
    refine ⟨waiting.2 ▸ waiting.1, single, ?_, ?_⟩
    · rw [← pinged_tempId_iff evicts known single, ← ends.tempId]
      exact evicted.remembered
    · intro own
      obtain ⟨noInfra, noSensors⟩ := ends.own own
      rw [noInfra, List.map_nil] at ids
      exact ⟨List.map_eq_nil_iff.mp ids.symm.eq_nil,
        evicted.sensors.symm.trans noSensors⟩
  · intro remembers
    have tempId : s'.tempId = pkt.dstDeviceId := by
      rw [ends.tempId, pinged_tempId_iff evicts known remembers.single]
      exact remembers.last
    have tables : (s'.entries = s.infraWithout pkt.dstDeviceId ∨
        env.deviceType = .anchor ∧
          Refreshed srcId (s.infraWithout pkt.dstDeviceId) s'.entries) ∧
        s'.storage.tables.sensors = s.sensorsWithout pkt.dstDeviceId := by
      by_cases own : pkt.dstDeviceId = env.deviceId
      · obtain ⟨noInfra, noSensors⟩ := ends.own own
        obtain ⟨none, none'⟩ := remembers.alone own
        exact ⟨.inl (noInfra.trans none.symm), noSensors.trans none'.symm⟩
      · rw [← infra, ← sensors]
        exact ends.other own
    have ids : (s'.entries.map InfraRecord.deviceId).Perm
        ((s.infraWithout pkt.dstDeviceId).map InfraRecord.deviceId) := by
      rcases tables.1 with same | ⟨-, refreshed⟩
      · rw [same]
      · exact refreshed.ids
    have goneInfra : ∀ entry ∈ s'.entries,
        entry.deviceId ≠ pkt.dstDeviceId := by
      intro entry member same
      have id := ids.mem_iff.mp (List.mem_map_of_mem member)
      obtain ⟨stored, inside, equal⟩ := List.mem_map.mp id
      exact remembers.single.infra stored inside (equal.trans same)
    have goneSensors : ∀ entry ∈ s'.storage.tables.sensors,
        entry.deviceId ≠ pkt.dstDeviceId := by
      rw [tables.2]
      exact remembers.single.sensors
    obtain ⟨sender, passed⟩ := pinged_passes evicts known
    exact
      { goneInfra := goneInfra
        goneSensors := goneSensors
        infra := tables.1
        sensors := tables.2
        passed := ⟨evictionPing env sender pkt, rfl, rfl, ends.out passed⟩
        remembered := tempId
        known := (isKnownDevice_evicted goneInfra goneSensors).mpr
          ⟨tempId ▸ remembers.valid, tempId⟩
        answered := fun ack rssi2 accepted =>
          handlePingAck_evicted accepted remembers.valid tempId }

section Samples

/-- A gateway with two anchors. -/
def twoAnchors : MeshPlane where
  storage := { infra := { live :=
    [{ entry :=
        { deviceType := DeviceType.anchor.code, deviceId := 5, hopNum := 1 } },
      { entry :=
        { deviceType := DeviceType.anchor.code
          deviceId := 6
          hopNum := 1 } }] } }
  hopNum := 0

def gatewayOne : MeshEnv where
  deviceType := .gateway
  deviceId := 1

/-- An anchor asks the gateway to remove a device. -/
def evictionOf (deviceId : UInt16) : PingDevice where
  hdr :=
    { deviceType := DeviceType.anchor.code
      deviceId := 1
      status := statusDeviceRemoved }
  dstDeviceId := deviceId
  hopNum := 1
  version := firmwareVersion
  totalDevices := 2
  timestamp := 0

/-- What is left after the last anchor was evicted. -/
theorem evicted_last :
    twoAnchors.Evicted gatewayOne (evictionOf 6) 5
      (plane (twoAnchors.handlePingDevice gatewayOne (evictionOf 6) 5 0)) := by
  refine (evicted_iff (.inl rfl) (by decide) (by decide) (.inl (by decide))
    (ok_plane (by decide +kernel))).mpr ?_
  exact
    { valid := by decide
      single := ⟨by decide, by decide⟩
      last := by
        unfold NamesLast
        decide
      alone := fun own => absurd own (by decide) }

/-- After the first one was evicted, the gateway waits for an answer of the
other one, which it did not ask. -/
theorem evicted_first :
    ¬ ∀ (s s' : MeshPlane) (pkt : PingDevice) (srcId : UInt16) (rssi2 : Int16),
      gatewayOne.accepts pkt.hdr = true → keepsDevice pkt.hdr.status = false →
        s.findInfra pkt.dstDeviceId ≠ none →
          s.handlePingDevice gatewayOne pkt srcId rssi2 = .ok s' →
            s.Evicted gatewayOne pkt srcId s' := by
  intro always
  have evicted := always twoAnchors _ (evictionOf 5) 6 0 (by decide)
    (by decide) (by decide) (ok_plane (by decide +kernel))
  have next : (plane (twoAnchors.handlePingDevice gatewayOne (evictionOf 5) 6
      0)).tempId = 6 := by decide +kernel
  exact absurd (next.symm.trans evicted.remembered) (by decide)

end Samples

end Result

end MeshPlane

end DectMesh
