import DectMesh.Mesh.Invariant

/-!
# The parent and what follows from it

A board keeps its hop number and the id it is connected to beside the table of
its infrastructure neighbours, the first of which is its parent.  This module
says when the three agree, which handlers leave them alone, and what the
changes of the table do to them.
-/

namespace DectMesh

namespace MeshPlane

variable {env : MeshEnv} {s s' s'' : MeshPlane}

/-- `infra_devices[0..infra_count)`, without statistics. -/
def entries (s : MeshPlane) : List InfraRecord :=
  s.infra.map Neighbour.entry

/-- Hop number and connected id are those behind the first entry, or the
markers for none; a sensor has no hop number. -/
def Coherent (role : DeviceType) (s : MeshPlane) : Prop :=
  match role, s.entries with
  | .anchor, [] => s.hopNum = 0xFF ∧ s.connectedDeviceId = 0xFFFF
  | .anchor, parent :: _ =>
      s.hopNum.toNat = parent.hopNum.toNat + 1 ∧
        s.connectedDeviceId = parent.deviceId
  | .sensor, [] => s.connectedDeviceId = 0xFFFF
  | .sensor, parent :: _ => s.connectedDeviceId = parent.deviceId
  | _, _ => True

/-- The state of the parent that every run keeps; a sensor has one neighbour at
most. -/
structure Held (role : DeviceType) (s : MeshPlane) : Prop where
  coherent : Coherent role s
  single : role = .sensor → s.entries.length ≤ 1

section Rules

variable {role : DeviceType}

/-- Neither the infrastructure entries nor what depends on the parent
change. -/
structure SameParent (s s' : MeshPlane) : Prop where
  entries : s'.entries = s.entries
  hopNum : s'.hopNum = s.hopNum
  connectedDeviceId : s'.connectedDeviceId = s.connectedDeviceId

namespace SameParent

theorem refl (s : MeshPlane) : SameParent s s := ⟨rfl, rfl, rfl⟩

theorem trans (first : SameParent s s') (second : SameParent s' s'') :
    SameParent s s'' :=
  ⟨second.entries.trans first.entries, second.hopNum.trans first.hopNum,
    second.connectedDeviceId.trans first.connectedDeviceId⟩

theorem coherent (same : SameParent s s') (before : Coherent role s) :
    Coherent role s' := by
  unfold Coherent at before ⊢
  rw [same.entries, same.hopNum, same.connectedDeviceId]
  exact before

theorem held (same : SameParent s s') (before : Held role s) :
    Held role s' where
  coherent := same.coherent before.coherent
  single isSensor := by
    rw [same.entries]
    exact before.single isSensor

/-- A change of the storage that leaves the infrastructure table alone. -/
theorem setStorage
    {storage : Storage} (same : storage.infra = s.storage.infra) :
    SameParent s (s.setStorage storage) :=
  ⟨congrArg (fun table => table.live.map Neighbour.entry) same, rfl, rfl⟩

theorem updateInfra
    (s : MeshPlane) (index : Nat) {change : Infra → Infra}
    (kept : ∀ device, (change device).entry = device.entry) :
    SameParent s (s.updateInfra index change) :=
  ⟨map_modify_same kept _ _, rfl, rfl⟩

end SameParent

/-- What is left of a board after a handler is up and held. -/
def Holds (role : DeviceType) (result : Except MeshPlane MeshPlane) : Prop :=
  ∀ s, result = .ok s → Held role s

theorem Holds.ok (held : Held role s) : Holds role (.ok s) := by
  intro s' same
  cases same
  exact held

theorem Holds.error : Holds role (.error s) := by
  intro s' same
  cases same

end Rules

section Unrelated

theorem isKnownDevice_parent (deviceId : UInt16) :
    SameParent s (s.isKnownDevice env deviceId).1 := by
  unfold isKnownDevice
  split
  · exact .refl s
  · split
    · exact .updateInfra s _ fun _ => rfl
    · split
      · exact ⟨rfl, rfl, rfl⟩
      · exact .refl s

theorem pingWhere_parent
    (due : Infra → Bool) (genId : UInt16) (status : UInt8)
    (devices : List Infra) (index : Nat) (s : MeshPlane) :
    SameParent s (pingWhere env due genId status devices index s) := by
  induction devices generalizing index s with
  | nil => exact .refl s
  | cons device rest ih =>
      rw [pingWhere]
      refine .trans ?_ (ih _ _)
      split
      · have sent : SameParent s
            (s.sendPingDevice env device.entry.deviceId genId status) :=
          ⟨rfl, rfl, rfl⟩
        exact sent.trans (.updateInfra _ _ fun _ => rfl)
      · exact .refl s

theorem pingKnownDevices_parent (genId : UInt16) (status : UInt8) :
    SameParent s (s.pingKnownDevices env genId status) :=
  pingWhere_parent _ genId status s.infra 0 s

theorem handlePairRequest_parent (pkt : PairRequest) (srcId : UInt16) :
    SameParent s (s.handlePairRequest env pkt srcId) := by
  unfold handlePairRequest
  split
  · exact .refl s
  · dsimp only
    split
    · exact .refl s
    · split
      · exact ⟨rfl, rfl, rfl⟩
      · split
        · exact .refl s
        · exact ⟨rfl, rfl, rfl⟩

theorem addCandidate_parent (candidate : Candidate) :
    SameParent s (s.addCandidate env candidate) := by
  have storage := @addCandidate_storage env s candidate
  refine ⟨congrArg (fun kept => kept.infra.live.map Neighbour.entry) storage,
    ?_, ?_⟩
  · unfold addCandidate
    dsimp only
    repeat' split
    all_goals rfl
  · unfold addCandidate
    dsimp only
    repeat' split
    all_goals rfl

theorem handlePairResponse_parent
    (pkt : PairResponse) (srcId : UInt16) (rssi2 : Int16) :
    SameParent s (s.handlePairResponse env pkt srcId rssi2) := by
  have answered : SameParent s (s.put (.untrack pkt.hdr.trackingId)) :=
    ⟨rfl, rfl, rfl⟩
  unfold handlePairResponse
  split
  · exact .refl s
  · split
    · exact .refl s
    · dsimp only
      split
      · exact answered
      · split
        · exact answered
        · exact answered
        · split
          · exact ⟨rfl, rfl, rfl⟩
          · exact answered.trans (addCandidate_parent _)
        · split
          · exact answered
          · split
            · exact ⟨rfl, rfl, rfl⟩
            · exact answered.trans (addCandidate_parent _)

theorem selectAndConfirm_parent (idx : Int) :
    SameParent s (s.selectAndConfirm env idx) := by
  unfold selectAndConfirm
  dsimp only
  split
  · exact ⟨rfl, rfl, rfl⟩
  · split
    · exact ⟨rfl, rfl, rfl⟩
    · split <;> exact ⟨rfl, rfl, rfl⟩

theorem meshPairingTick_parent : SameParent s (s.meshPairingTick env) := by
  have confirmed : SameParent s (s.confirmNext env) := by
    unfold confirmNext
    split
    · have begun : SameParent s { s with processNextRequest := false } :=
        ⟨rfl, rfl, rfl⟩
      have chosen := begun.trans
        (@selectAndConfirm_parent env { s with processNextRequest := false }
          (s.respCandidateCount - s.respCandidateIdx))
      exact ⟨chosen.entries, chosen.hopNum, chosen.connectedDeviceId⟩
    · exact .refl s
  unfold meshPairingTick
  split
  · exact .refl s
  · refine confirmed.trans ?_
    unfold closeCollection
    split
    · dsimp only
      split <;> exact ⟨rfl, rfl, rfl⟩
    · exact .refl _

theorem meshTick_parent : SameParent s (s.meshTick env) := by
  have pairing := @meshPairingTick_parent env s
  unfold meshTick
  dsimp only
  split
  · exact pairing
  · have pinged := pairing.trans (@pingWhere_parent env
      (fun device =>
        2 * pingTimeoutMs < env.now - device.lastCommMs ∧
          !device.isPingPacketSent)
      0 statusPingDevice (s.meshPairingTick env).infra 0
      (s.meshPairingTick env))
    split
    · exact ⟨pinged.entries, pinged.hopNum, pinged.connectedDeviceId⟩
    · exact pinged

theorem knownDevicesTick_parent : SameParent s (s.knownDevicesTick env) := by
  unfold knownDevicesTick
  split
  · exact .refl s
  · exact pingWhere_parent _ 0 statusSuccess s.infra 0 s

theorem storageMeshAdd_infra (storage : Storage) (entry : MeshRecord) :
    (storage.storageMeshAdd entry).1.infra = storage.infra := by
  unfold Storage.storageMeshAdd
  split
  · rfl
  · split <;> rfl

theorem storageMeshRemove_infra (storage : Storage) (index : Nat) :
    (storage.storageMeshRemove index).1.infra = storage.infra := by
  unfold Storage.storageMeshRemove
  split
  · rfl
  · split <;> rfl

theorem flushSensors_infra (storage : Storage) :
    storage.flushSensorsToEeprom.1.infra = storage.infra := by
  unfold Storage.flushSensorsToEeprom
  split <;> rfl

theorem storageSensorAdd_infra (storage : Storage) (entry : SensorRecord) :
    (storage.storageSensorAdd entry).1.infra = storage.infra := by
  unfold Storage.storageSensorAdd
  split
  · rfl
  · exact flushSensors_infra _

theorem storageSensorUpdate_infra
    (storage : Storage) (index : Nat) (entry : SensorRecord) :
    (storage.storageSensorUpdate index entry).1.infra = storage.infra := by
  unfold Storage.storageSensorUpdate
  split
  · rfl
  · exact flushSensors_infra _

theorem storageSensorRemove_infra (storage : Storage) (index : Nat) :
    (storage.storageSensorRemove index).1.infra = storage.infra := by
  unfold Storage.storageSensorRemove
  split
  · rfl
  · exact flushSensors_infra _

theorem handleJoinedNetwork_parent (pkt : JoinedNetwork) (srcId : UInt16) :
    SameParent s (s.handleJoinedNetwork env pkt srcId) := by
  unfold handleJoinedNetwork
  split
  · exact .refl s
  · split
    · have stored : SameParent s
          (s.storeJoined pkt (s.checkMeshStorage pkt.deviceId)) := by
        unfold storeJoined
        split
        · exact .setStorage (storageMeshAdd_infra _ _)
        · exact .refl s
      have pinged := stored.trans (@pingKnownDevices_parent env _ pkt.deviceId
        (s.checkMeshStorage pkt.deviceId))
      exact ⟨pinged.entries, pinged.hopNum, pinged.connectedDeviceId⟩
    · exact ⟨rfl, rfl, rfl⟩
    · exact .refl s
    · exact .refl s

theorem updateSensorStorage_parent (deviceId version : UInt16) :
    SameParent s (s.updateSensorStorage deviceId version) := by
  unfold updateSensorStorage
  split
  · exact .refl s
  · split
    · exact .refl s
    · split
      · exact .refl s
      · exact .setStorage (storageSensorUpdate_infra _ _ _)

theorem updateMeshStorage_parent (deviceId : UInt16) (pkt : DeviceUpdated) :
    SameParent s (s.updateMeshStorage deviceId pkt).1 := by
  unfold updateMeshStorage
  split
  · exact .refl s
  · next index found =>
    have read : (s.storage.storageMeshGet index).1.infra = s.storage.infra := by
      unfold Storage.storageMeshGet
      split <;> rfl
    split
    · next storage missing =>
      rw [missing] at read
      exact .setStorage read
    · next storage entry got =>
      rw [got] at read
      have updated : (((storage.changeMesh index (updatedRow pkt entry))
          |>.storageMeshUpdate index (updatedMesh pkt entry)).1).infra =
            s.storage.infra := by
        unfold Storage.storageMeshUpdate
        split <;> exact read
      split
      · next written =>
        rw [written] at updated
        exact .setStorage updated
      · next written =>
        rw [written] at updated
        exact .setStorage updated

theorem handleDeviceUpdated_parent (pkt : DeviceUpdated) (srcId : UInt16) :
    SameParent s (s.handleDeviceUpdated env pkt srcId) := by
  unfold handleDeviceUpdated
  split
  · exact .refl s
  · split
    · have applied : SameParent s (s.applyUpdate pkt srcId).1 := by
        unfold applyUpdate
        dsimp only
        split
        · exact .refl s
        · split
          · exact updateMeshStorage_parent _ _
          · split
            · split
              · exact .refl s
              · next index found =>
                have kept := storageMeshRemove_infra s.storage index
                split
                · next removed =>
                  rw [removed] at kept
                  exact .setStorage kept
                · next removed =>
                  rw [removed] at kept
                  exact .setStorage kept
            · exact .refl s
      exact ⟨applied.entries, applied.hopNum, applied.connectedDeviceId⟩
    · have forwarded : SameParent s (s.forwardUpdate env pkt srcId).1 := by
        unfold forwardUpdate
        split
        · exact ⟨rfl, rfl, rfl⟩
        · split <;> exact ⟨rfl, rfl, rfl⟩
      exact ⟨forwarded.entries, forwarded.hopNum,
        forwarded.connectedDeviceId⟩
    · exact .refl s
    · exact .refl s

theorem setSerialNumber_parent (serialNum : UInt64) :
    SameParent s (s.setSerialNumber env serialNum) := by
  unfold setSerialNumber
  dsimp only
  split <;> exact ⟨rfl, rfl, rfl⟩

theorem reportSensorHolder_parent (pkt : PingDevice) :
    SameParent s (s.reportSensorHolder env pkt) := by
  unfold reportSensorHolder
  split <;> exact ⟨rfl, rfl, rfl⟩

end Unrelated

section Changes

variable {role : DeviceType}

theorem Held.other (notAnchor : role ≠ .anchor) (notSensor : role ≠ .sensor) :
    Held role s := by
  refine ⟨?_, fun isSensor => absurd isSensor notSensor⟩
  cases role with
  | anchor => exact absurd rfl notAnchor
  | sensor => exact absurd rfl notSensor
  | gateway => trivial
  | unknown => trivial

theorem parent_eq
    {first : InfraRecord} {rest : List InfraRecord}
    (entries : s.entries = first :: rest) : s.parent = first := by
  rcases live : s.storage.infra.live with _ | ⟨device, devices⟩
  · simp [MeshPlane.entries, live] at entries
  · have same : device.entry = first := by
      simp only [MeshPlane.entries, infra, live, List.map_cons] at entries
      exact (List.cons.inj entries).1
    simp [parent, RamTable.cell, live, same]

/-- An anchor is held after `device_info_update`, whatever the handler did to
its table. -/
theorem deviceInfoUpdate_holds (notSensor : env.deviceType ≠ .sensor) :
    Holds env.deviceType (s.deviceInfoUpdate env) := by
  unfold deviceInfoUpdate
  split
  · next notAnchor => exact .ok (.other notAnchor notSensor)
  · next isAnchor =>
    have anchor : env.deviceType = .anchor := not_not.mp isAnchor
    rw [anchor]
    split
    · refine .ok ⟨⟨rfl, rfl⟩, nofun⟩
    · next stored =>
      split
      · exact .error
      · simp only
        split
        · exact .error
        · next reachable =>
          obtain ⟨notNone, -⟩ := not_or.mp reachable
          rcases listed : s.entries with _ | ⟨first, rest⟩
          · exact absurd (List.map_eq_nil_iff.mp listed) stored
          · have parent := parent_eq listed
            have hop : (hopBehind s.parent.hopNum).toNat =
                first.hopNum.toNat + 1 := by
              have below : s.parent.hopNum < 0xFE := by
                by_contra notBelow
                exact notNone (if_neg notBelow)
              rw [hopBehind, if_pos below, ← parent, UInt8.toNat_add]
              have small := UInt8.lt_iff_toNat_lt.mp below
              simp only [UInt8.reduceToNat] at small ⊢
              omega
            refine .ok ⟨?_, nofun⟩
            have kept {reported : MeshPlane}
                (same : reported.entries = s.entries) :
                Coherent .anchor { reported with
                  connectedDeviceId := s.parent.deviceId
                  hopNum := hopBehind s.parent.hopNum } := by
              have entries : ({ reported with
                  connectedDeviceId := s.parent.deviceId
                  hopNum := hopBehind s.parent.hopNum } :
                    MeshPlane).entries = first :: rest := same.trans listed
              simp only [Coherent, entries]
              exact ⟨hop, congrArg InfraRecord.deviceId parent⟩
            split
            · exact kept rfl
            · exact kept rfl

/-- `device_info_update` does nothing on a sensor. -/
theorem deviceInfoUpdate_sensor (isSensor : env.deviceType = .sensor) :
    s.deviceInfoUpdate env = .ok s := by
  rw [deviceInfoUpdate, if_pos]
  simp [isSensor]

theorem flushInfraEntries_none
    (devices : List Infra) (index : Nat) (rom : Eeprom)
    (reliable : rom.Reliable) :
    (Storage.flushInfraEntries devices index rom).2 = none := by
  induction devices generalizing index rom with
  | nil => rfl
  | cons device rest ih =>
      rw [Storage.flushInfraEntries, Eeprom.writeInfra, reliable.status]
      exact ih _ _ reliable.advance

theorem flushInfra_infra (storage : Storage) :
    storage.flushInfraToEeprom.1.infra = storage.infra := by
  unfold Storage.flushInfraToEeprom
  split
  · rfl
  · rfl

theorem flushInfra_none
    {storage : Storage} (reliable : storage.eeprom.Reliable) :
    storage.flushInfraToEeprom.2 = none := by
  have entries := flushInfraEntries_none storage.infra.live 0 storage.eeprom
    reliable
  have kept := Storage.flushInfraEntries_reliable storage.infra.live 0
    storage.eeprom reliable
  unfold Storage.flushInfraToEeprom
  split
  · next rom errno flushed =>
    rw [flushed] at entries
    exact entries
  · next rom flushed =>
    rw [flushed] at kept
    exact Eeprom.Reliable.status kept

/-- A working EEPROM takes a new neighbour, unless the table is full. -/
theorem storageInfraAdd_outcome
    {storage : Storage} {entry : InfraRecord}
    (reliable : storage.eeprom.Reliable) :
    maxAnchors ≤ storage.infra.count ∧
        storage.storageInfraAdd entry = (storage, some .enomem) ∨
      (storage.storageInfraAdd entry).2 = none ∧
        (storage.storageInfraAdd entry).1.infra.live =
          BubbleSort.sort Storage.swapInfra
            (storage.infra.live ++ [{ entry := entry }]) := by
  unfold Storage.storageInfraAdd
  split
  · next full => exact .inl ⟨full, rfl⟩
  · refine .inr ⟨flushInfra_none reliable, ?_⟩
    exact congrArg RamTable.live (flushInfra_infra _)

theorem addInfra_holds
    {entry : InfraRecord} (notSensor : env.deviceType ≠ .sensor)
    (reliable : s.storage.eeprom.Reliable) (held : Held env.deviceType s) :
    Holds env.deviceType ((s.addInfra env entry).map Prod.fst) := by
  have outcome := @storageInfraAdd_outcome s.storage entry reliable
  unfold addInfra
  split
  · next storage errno added =>
    rw [added] at outcome
    rcases outcome with ⟨-, full⟩ | ⟨stored, -⟩
    · obtain ⟨rfl, -⟩ := Prod.mk.inj full
      exact .ok held
    · cases stored
  · next storage added =>
    have updated := @deviceInfoUpdate_holds env (s.setStorage storage) notSensor
    split
    · exact .error
    · next s' up =>
      exact .ok (updated s' up)

/-- The first neighbour of a sensor. -/
theorem addInfra_first
    {entry : InfraRecord} (isSensor : env.deviceType = .sensor)
    (reliable : s.storage.eeprom.Reliable) (empty : s.infra = []) :
    ∃ storage, s.addInfra env entry = .ok (s.setStorage storage, true) ∧
      (s.setStorage storage).entries = [entry] := by
  have live : s.storage.infra.live = [] := empty
  have outcome := @storageInfraAdd_outcome s.storage entry reliable
  rcases added : s.storage.storageInfraAdd entry with ⟨storage, status⟩
  rw [added] at outcome
  rcases outcome with ⟨full, -⟩ | ⟨stored, sorted⟩
  · rw [RamTable.count, live] at full
    exact absurd full (by decide)
  · cases stored
    refine ⟨storage, ?_, ?_⟩
    · rw [addInfra, added]
      simp only
      rw [deviceInfoUpdate_sensor isSensor]
    · simp only at sorted
      simp [entries, infra, sorted, live, BubbleSort.sort, BubbleSort.passes]

theorem storageInfraRemove_live (storage : Storage) (index : Nat) :
    (storage.storageInfraRemove index).1.infra.live =
      storage.infra.live.eraseIdx index := by
  unfold Storage.storageInfraRemove
  split
  · next outside => exact (List.eraseIdx_of_length_le outside).symm
  · exact congrArg RamTable.live (flushInfra_infra _)

theorem storageInfraUpdate_live
    {storage : Storage} {index : Nat} {old entry : InfraRecord}
    (found : storage.storageInfraGet index = some old) :
    ((storage.storageInfraUpdate index entry).1.infra.live.map
      Neighbour.entry).Perm
        ((storage.infra.live.map Neighbour.entry).set index entry) := by
  unfold Storage.storageInfraUpdate
  split
  · next missing =>
    simp [Storage.storageInfraGet, missing] at found
  · next device current =>
    rw [flushInfra_infra]
    refine (Storage.sortInfraDevices_perm _).trans ?_
    simp [Storage.tables, RamTable.set, List.map_set]

theorem storageInfraUpdate_sorted
    {storage : Storage} {index : Nat} {old entry : InfraRecord}
    (found : storage.storageInfraGet index = some old) :
    ((storage.storageInfraUpdate index entry).1.infra.live.map
      Neighbour.entry).Pairwise CloserFirst := by
  unfold Storage.storageInfraUpdate
  split
  · next missing =>
    simp [Storage.storageInfraGet, missing] at found
  · rw [flushInfra_infra]
    exact Storage.sortInfraDevices_sorted _

/-- A working EEPROM takes an updated entry. -/
theorem storageInfraUpdate_stored
    {storage : Storage} {index : Nat} {old entry : InfraRecord}
    (reliable : storage.eeprom.Reliable)
    (found : storage.storageInfraGet index = some old) :
    (storage.storageInfraUpdate index entry).2 = none := by
  unfold Storage.storageInfraUpdate
  split
  · next missing =>
    simp [Storage.storageInfraGet, missing] at found
  · exact flushInfra_none reliable

/-- An anchor that heard a neighbour is held. -/
theorem updateInfraStorage_found
    {deviceId : UInt16} (notSensor : env.deviceType ≠ .sensor)
    (reliable : s.storage.eeprom.Reliable)
    (known : s.findInfra deviceId ≠ none) (hopNum : UInt8) (rssi2 : Int16) :
    Holds env.deviceType
      ((s.updateInfraStorage env deviceId hopNum rssi2).map Prod.fst) := by
  unfold updateInfraStorage
  split
  · next missing => exact absurd missing known
  · next index found =>
    have inside := (List.findIdx?_eq_some_iff_getElem.mp found).1
    split
    · next missing =>
      simp only [Storage.storageInfraGet, Option.map_eq_none_iff,
        List.getElem?_eq_none_iff] at missing
      exact absurd inside (Nat.not_lt.mpr missing)
    · next entry current =>
      have stored := @storageInfraUpdate_stored s.storage index entry
        (updatedInfra hopNum rssi2 entry) reliable current
      split
      · next storage errno updated =>
        rw [updated] at stored
        cases stored
      · next storage updated =>
        have after := @deviceInfoUpdate_holds env (s.setStorage storage)
          notSensor
        split
        · exact .error
        · next s' up => exact .ok (after s' up)

theorem single_entry
    {known : List InfraRecord} {index : Nat} {entry : InfraRecord}
    (single : known.length ≤ 1) (found : known[index]? = some entry) :
    known = [entry] ∧ index = 0 := by
  obtain ⟨inside, same⟩ := List.getElem?_eq_some_iff.mp found
  obtain rfl : index = 0 := by omega
  obtain ⟨only, rfl⟩ := List.length_eq_one_iff.mp
    (Nat.le_antisymm single inside)
  exact ⟨congrArg (fun item => [item]) same, rfl⟩

theorem updateInfraStorage_holds
    (reliable : s.storage.eeprom.Reliable) (held : Held env.deviceType s)
    (deviceId : UInt16) (hopNum : UInt8) (rssi2 : Int16) :
    Holds env.deviceType
      ((s.updateInfraStorage env deviceId hopNum rssi2).map Prod.fst) := by
  by_cases known : s.findInfra deviceId = none
  · rw [updateInfraStorage, known]
    exact .ok held
  · by_cases isSensor : env.deviceType = .sensor
    · obtain ⟨coherent, single⟩ := held
      rw [isSensor] at coherent single ⊢
      unfold updateInfraStorage
      split
      · next missing => exact absurd missing known
      · next index found =>
        split
        · exact .ok ⟨coherent, single⟩
        · next entry current =>
          have stored := @storageInfraUpdate_stored s.storage index entry
            (updatedInfra hopNum rssi2 entry) reliable current
          have perm := @storageInfraUpdate_live s.storage index entry
            (updatedInfra hopNum rssi2 entry) current
          split
          · next storage errno updated =>
            rw [updated] at stored
            cases stored
          · next storage updated =>
            rw [updated] at perm
            rw [deviceInfoUpdate_sensor isSensor]
            have here : s.entries[index]? = some entry := by
              simpa [Storage.storageInfraGet, entries] using current
            obtain ⟨only, id⟩ := single_entry (single rfl) here
            have after : (s.setStorage storage).entries =
                [updatedInfra hopNum rssi2 entry] := by
              have changed : s.entries.set index
                  (updatedInfra hopNum rssi2 entry) =
                    [updatedInfra hopNum rssi2 entry] := by
                rw [only, id, List.set_cons_zero]
              exact List.perm_singleton.mp (changed ▸ perm)
            refine .ok ⟨?_, fun _ => by rw [after]; exact Nat.le_refl 1⟩
            simp only [Coherent, only] at coherent
            simp only [Coherent, after]
            exact coherent
    · exact updateInfraStorage_found isSensor reliable known hopNum rssi2

theorem Holds.pair
    {result : Except MeshPlane (MeshPlane × Bool)} {flag : Bool}
    (holds : Holds role (result.map Prod.fst))
    (same : result = .ok (s, flag)) : Held role s := by
  subst same
  exact holds s rfl

/-- A neighbour is removed and the board's own hop number updated. -/
theorem dropInfra_holds
    (notSensor : env.deviceType ≠ .sensor) (held : Held env.deviceType s)
    (deviceId : UInt16) :
    Holds env.deviceType (s.dropInfra env deviceId) := by
  unfold dropInfra
  split
  · exact .ok held
  · exact deviceInfoUpdate_holds notSensor

theorem addSensor_parent (deviceId version : UInt16) :
    SameParent s (s.addSensor deviceId version).1 := by
  have kept := storageSensorAdd_infra s.storage
    { deviceId := deviceId, version := version }
  unfold addSensor
  split
  · next storage errno added =>
    rw [added] at kept
    exact .setStorage kept
  · next storage added =>
    rw [added] at kept
    exact .setStorage kept

end Changes

end MeshPlane

end DectMesh
