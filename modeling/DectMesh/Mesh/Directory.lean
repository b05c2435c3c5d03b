import DectMesh.Mesh.Invariant

/-!
# The gateway's directory

The mesh table of the gateway is its record of who joined where.  Joined
devices and updates are told by packets; these theorems say when the table
follows them, in RAM and in the EEPROM.
-/

namespace DectMesh

namespace Storage

variable (s : Storage)

/-- The count in the EEPROM, zero without the magic bytes. -/
def romCount : Nat := (s.eeprom.mesh.header.map UInt16.toNat).getD 0

/-- The mesh entries a restart would find in the EEPROM. -/
def romMesh : List MeshRecord :=
  (List.range s.romCount).filterMap s.eeprom.mesh.cells

/-- The EEPROM cells of the entries in use. -/
def romCells : List (Option MeshRecord) :=
  (List.range s.mesh.count).map s.eeprom.mesh.cells

/-- An EEPROM operation between the two states failed. -/
def Failed (s s' : Storage) : Prop :=
  ∃ left, some left ∈ s.eeprom.failures.take
    (s.eeprom.failures.length - s'.eeprom.failures.length)

end Storage

namespace MeshPlane

variable {env : MeshEnv} {s s' : MeshPlane}

section Joined

/-- The mesh table has one entry for the joined device, in RAM and in the
EEPROM, and it is as the packet says. -/
def Recorded (s : Storage) (pkt : JoinedNetwork) : Prop :=
  s.mesh.live.filter (fun row => row.deviceId = pkt.deviceId) =
      [(joinedRecord pkt).ram] ∧
    ∃ entry, s.romMesh.filter (fun entry => entry.deviceId = pkt.deviceId) =
      [entry] ∧ entry.ram = (joinedRecord pkt).ram

/-- The gateway tells the sender that the device is in the table. -/
def Confirms (s : MeshPlane) : Prop :=
  ∃ ack, MeshAction.reply (.joinedNetworkAck ack) ∈ s.out ∧
    (ack.hdr.status = statusSuccess ∨ ack.hdr.status = statusAlreadyExists)

/-- What is confirmed is recorded, and no failed EEPROM operation is confirmed
as success. -/
def JoinHonest (s s' : MeshPlane) (pkt : JoinedNetwork) : Prop :=
  s'.Confirms → Recorded s'.storage pkt ∧ ¬ s.storage.Failed s'.storage

/-- Either the device is recorded as it joined already, or it is new in RAM
and in the EEPROM and both writes will work, or it will be turned away. -/
def RecordsJoin (s : MeshPlane) (pkt : JoinedNetwork) : Prop :=
  if s.findMesh pkt.deviceId = none then
    maxDevices ≤ s.storage.mesh.count ∨
      s.storage.eeprom.outcome = none ∧
        s.storage.eeprom.advance.outcome = none ∧
          ∀ index < s.storage.mesh.count, ∀ entry,
            s.storage.eeprom.mesh.cells index = some entry →
              entry.deviceId ≠ pkt.deviceId
  else
    Recorded s.storage pkt

end Joined

section Pings

/-- Pings change neither the mesh table nor the EEPROM. -/
theorem pingWhere_directory
    (due : Infra → Bool) (genId : UInt16) (status : UInt8)
    (devices : List Infra) (index : Nat) (s : MeshPlane) :
    (pingWhere env due genId status devices index s).storage.mesh =
        s.storage.mesh ∧
      (pingWhere env due genId status devices index s).storage.eeprom =
        s.storage.eeprom ∧
      ∀ ack, MeshAction.reply (.joinedNetworkAck ack) ∈
          (pingWhere env due genId status devices index s).out →
        MeshAction.reply (.joinedNetworkAck ack) ∈ s.out := by
  induction devices generalizing index s with
  | nil => exact ⟨rfl, rfl, fun _ member => member⟩
  | cons device rest ih =>
      obtain ⟨mesh, eeprom, acks⟩ := ih (index + 1)
        (if due device then
          s.pingInfra env index device.entry.deviceId genId status
        else
          s)
      rw [pingWhere]
      refine ⟨mesh.trans ?_, eeprom.trans ?_, fun ack member => ?_⟩
      · split
        · rfl
        · rfl
      · split
        · rfl
        · rfl
      · have before := acks ack member
        split at before
        · rcases List.mem_append.mp before with old | ping
          · exact old
          · cases List.mem_singleton.mp ping
        · exact before

end Pings

section JoinSteps

theorem findMesh_filter
    {deviceId : UInt16} (missing : s.findMesh deviceId = none) :
    s.mesh.filter (fun row => row.deviceId = deviceId) = [] := by
  rw [List.filter_eq_nil_iff]
  intro row member
  simpa using findMesh_none missing row member

/-- The gateway's tables and answer for a packet it accepts. -/
theorem handleJoinedNetwork_gateway
    {pkt : JoinedNetwork} {srcId : UInt16}
    (isGateway : env.deviceType = .gateway)
    (accepted : env.accepts pkt.hdr = true)
    (success : pkt.hdr.status = statusSuccess)
    (downstream : isDownstreamType pkt.hdr.deviceType = true)
    (idle : s.out = []) :
    (s.handleJoinedNetwork env pkt srcId).storage.mesh =
        (s.storeJoined pkt (s.checkMeshStorage pkt.deviceId)).storage.mesh ∧
      (s.handleJoinedNetwork env pkt srcId).storage.eeprom =
        (s.storeJoined pkt (s.checkMeshStorage pkt.deviceId)).storage.eeprom ∧
      ((s.handleJoinedNetwork env pkt srcId).Confirms ↔
        s.checkMeshStorage pkt.deviceId = statusSuccess ∨
          s.checkMeshStorage pkt.deviceId = statusAlreadyExists) := by
  have unread : ¬ ((!env.accepts pkt.hdr) = true ∨
      pkt.hdr.status ≠ statusSuccess ∨
        (!isDownstreamType pkt.hdr.deviceType) = true) := by
    simp [accepted, success, downstream]
  obtain ⟨mesh, eeprom, acks⟩ := @pingWhere_directory env
    (fun device => (s.storeJoined pkt
      (s.checkMeshStorage pkt.deviceId)).hopNum < device.entry.hopNum)
    pkt.deviceId (s.checkMeshStorage pkt.deviceId)
    (s.storeJoined pkt (s.checkMeshStorage pkt.deviceId)).infra 0
    (s.storeJoined pkt (s.checkMeshStorage pkt.deviceId))
  have silent :
      (s.storeJoined pkt (s.checkMeshStorage pkt.deviceId)).out = [] := by
    unfold storeJoined
    split
    · exact idle
    · exact idle
  rw [handleJoinedNetwork, if_neg unread, isGateway]
  refine ⟨mesh, eeprom, ?_⟩
  constructor
  · rintro ⟨ack, member, status⟩
    rcases List.mem_append.mp member with old | answer
    · have none := acks ack old
      rw [silent] at none
      cases none
    · cases List.mem_singleton.mp answer
      exact status
  · intro status
    exact ⟨_, List.mem_append_right _ (List.mem_singleton_self _), status⟩

theorem Recorded.congr
    {first second : Storage} {pkt : JoinedNetwork}
    (mesh : second.mesh = first.mesh) (eeprom : second.eeprom = first.eeprom) :
    Recorded second pkt ↔ Recorded first pkt := by
  rw [Recorded, Recorded, Storage.romMesh, Storage.romMesh, Storage.romCount,
    Storage.romCount, mesh, eeprom]

theorem not_failed_of_eeprom
    {first second : Storage} (same : second.eeprom = first.eeprom) :
    ¬ first.Failed second := by
  rintro ⟨left, member⟩
  rw [same, Nat.sub_self, List.take_zero] at member
  cases member

/-- An entry that could not be written is not in the RAM table either. -/
theorem add_unwritten
    {storage : Storage} {pkt : JoinedNetwork} {left : Leftover}
    (room : storage.mesh.count < maxDevices)
    (missing : storage.mesh.live.filter
      (fun row => row.deviceId = pkt.deviceId) = [])
    (failed : storage.eeprom.outcome = some left) :
    ¬ Recorded (storage.storageMeshAdd (joinedRecord pkt)).1 pkt := by
  have kept :
      (storage.storageMeshAdd (joinedRecord pkt)).1.mesh = storage.mesh := by
    simp [Storage.storageMeshAdd, Nat.not_le.mpr room, Eeprom.writeMesh,
      Eeprom.status, failed]
  rintro ⟨ram, -⟩
  rw [kept, missing] at ram
  cases ram

/-- A header that could not be written is a failed operation. -/
theorem add_uncounted
    {storage : Storage} {entry : MeshRecord} {left : Leftover}
    (room : storage.mesh.count < maxDevices)
    (written : storage.eeprom.outcome = none)
    (failed : storage.eeprom.advance.outcome = some left) :
    storage.Failed (storage.storageMeshAdd entry).1 := by
  have consumed : (storage.storageMeshAdd entry).1.eeprom.failures =
      storage.eeprom.failures.tail.tail := by
    simp [Storage.storageMeshAdd, Nat.not_le.mpr room, Eeprom.writeMesh,
      Eeprom.writeMeshHeader, Eeprom.status, written]
  rw [Storage.Failed, consumed]
  simp only [Eeprom.outcome, Eeprom.advance_failures] at failed
  rcases outcomes : storage.eeprom.failures with
    _ | ⟨first, _ | ⟨second, rest⟩⟩
  · simp [outcomes] at failed
  · simp [outcomes] at failed
  · have same : second = some left := by
      simpa [outcomes] using failed
    have two : rest.length + 1 + 1 - rest.length = 2 := by omega
    exact ⟨left, by simp [same, two]⟩

section Stored

variable {storage : Storage} {pkt : JoinedNetwork}
variable (room : storage.mesh.count < maxDevices)
variable (written : storage.eeprom.outcome = none)
variable (counted : storage.eeprom.advance.outcome = none)

include room written counted

/-- Both writes work: the entry is in both tables. -/
theorem add_stored (entry : MeshRecord) :
    (storage.storageMeshAdd entry).1.mesh.live =
        storage.mesh.live ++ [entry.ram] ∧
      (storage.storageMeshAdd entry).1.eeprom.mesh.cells =
        Function.update storage.eeprom.mesh.cells storage.mesh.count
          (some entry) ∧
      (storage.storageMeshAdd entry).1.romCount = storage.mesh.count + 1 ∧
      ¬ storage.Failed (storage.storageMeshAdd entry).1 := by
  have small : (UInt16.ofNat (storage.mesh.count + 1)).toNat =
      storage.mesh.count + 1 := by
    have bound : maxDevices = 256 := rfl
    exact UInt16.toNat_ofNat_of_lt' (by
      have size : UInt16.size = 65536 := rfl
      omega)
  have added : storage.storageMeshAdd entry =
      ({ storage with
          mesh := storage.mesh.append entry.ram
          eeprom := { storage.eeprom.advance.advance with
            mesh :=
              { header := some (UInt16.ofNat (storage.mesh.count + 1))
                cells := Function.update storage.eeprom.mesh.cells
                  storage.mesh.count (some entry) } } },
        none) := by
    simp only [Storage.storageMeshAdd, if_neg (Nat.not_le.mpr room),
      Eeprom.writeMesh, Eeprom.status, Eeprom.written, written,
      Eeprom.writeMeshHeader]
    have length : (storage.mesh.append entry.ram).count =
        storage.mesh.count + 1 := by
      simp [RamTable.count, RamTable.append]
    rw [length]
    simp only [Eeprom.advance, Eeprom.outcome] at counted ⊢
    rw [counted]
  rw [added]
  refine ⟨rfl, rfl, small, ?_⟩
  rintro ⟨left, member⟩
  simp only [Eeprom.advance_failures] at member
  simp only [Eeprom.outcome, Eeprom.advance_failures] at written counted
  rcases outcomes : storage.eeprom.failures with
    _ | ⟨first, _ | ⟨second, rest⟩⟩
  · simp [outcomes] at member
  · have firstWorks : first = none := by simpa [outcomes] using written
    simp [outcomes, firstWorks] at member
  · have firstWorks : first = none := by simpa [outcomes] using written
    have secondWorks : second = none := by simpa [outcomes] using counted
    have two : rest.length + 1 + 1 - rest.length = 2 := by omega
    simp [outcomes, firstWorks, secondWorks, two] at member

/-- The new entry is the only one for its device exactly if the EEPROM held
none before. -/
theorem add_recorded
    (missing : storage.mesh.live.filter
      (fun row => row.deviceId = pkt.deviceId) = []) :
    Recorded (storage.storageMeshAdd (joinedRecord pkt)).1 pkt ↔
      ∀ index < storage.mesh.count, ∀ entry,
        storage.eeprom.mesh.cells index = some entry →
          entry.deviceId ≠ pkt.deviceId := by
  obtain ⟨live, cells, count, -⟩ :=
    add_stored room written counted (joinedRecord pkt)
  have earlier : (List.range storage.mesh.count).filterMap
        (Function.update storage.eeprom.mesh.cells storage.mesh.count
          (some (joinedRecord pkt))) =
      (List.range storage.mesh.count).filterMap storage.eeprom.mesh.cells := by
    apply List.filterMap_congr
    intro index member
    rw [Function.update_of_ne (by
      have below := List.mem_range.mp member
      omega)]
  have rom : ((storage.storageMeshAdd (joinedRecord pkt)).1.romMesh).filter
        (fun entry => entry.deviceId = pkt.deviceId) =
      ((List.range storage.mesh.count).filterMap
        storage.eeprom.mesh.cells).filter
          (fun entry => entry.deviceId = pkt.deviceId) ++
        [joinedRecord pkt] := by
    rw [Storage.romMesh, count, cells, List.range_succ, List.filterMap_append,
      earlier, List.filter_append]
    simp [joinedRecord]
  rw [Recorded, live, List.filter_append, missing, rom]
  constructor
  · rintro ⟨-, entry, alone, -⟩ index below known stored same
    have none := (List.append_eq_singleton_iff.mp alone)
    have inside : known ∈ ((List.range storage.mesh.count).filterMap
        storage.eeprom.mesh.cells).filter
          (fun entry => entry.deviceId = pkt.deviceId) := by
      refine List.mem_filter.mpr ⟨List.mem_filterMap.mpr
        ⟨index, List.mem_range.mpr below, stored⟩, by simpa using same⟩
    rcases none with ⟨empty, -⟩ | ⟨-, empty⟩
    · rw [empty] at inside
      cases inside
    · cases empty
  · intro fresh
    refine ⟨by simp [joinedRecord, MeshRecord.ram], joinedRecord pkt, ?_, rfl⟩
    have none : ((List.range storage.mesh.count).filterMap
        storage.eeprom.mesh.cells).filter
          (fun entry => entry.deviceId = pkt.deviceId) = [] := by
      rw [List.filter_eq_nil_iff]
      intro known member
      obtain ⟨index, below, stored⟩ := List.mem_filterMap.mp member
      simpa using fresh index (List.mem_range.mp below) known stored
    rw [none, List.nil_append]

end Stored

end JoinSteps

section JoinedResult

/-- A joined device is recorded as it joined exactly if it is new and the
EEPROM works, or nothing about it has changed. -/
theorem joined_recorded_iff
    (s : MeshPlane) {pkt : JoinedNetwork} (srcId : UInt16)
    (failures : List (Option Leftover))
    (isGateway : env.deviceType = .gateway)
    (accepted : env.accepts pkt.hdr = true)
    (success : pkt.hdr.status = statusSuccess)
    (downstream : isDownstreamType pkt.hdr.deviceType = true) :
    JoinHonest (s.begin failures)
        ((s.begin failures).handleJoinedNetwork env pkt srcId) pkt ↔
      (s.begin failures).RecordsJoin pkt := by
  have idle : (s.begin failures).out = [] := rfl
  generalize s.begin failures = s at idle ⊢
  obtain ⟨mesh, eeprom, answered⟩ := @handleJoinedNetwork_gateway env s pkt
    srcId isGateway accepted success downstream idle
  have failed : s.storage.Failed
        (s.handleJoinedNetwork env pkt srcId).storage ↔
      s.storage.Failed
        (s.storeJoined pkt (s.checkMeshStorage pkt.deviceId)).storage := by
    rw [Storage.Failed, Storage.Failed, eeprom]
  rw [JoinHonest, answered, Recorded.congr mesh eeprom, failed, RecordsJoin]
  cases found : s.findMesh pkt.deviceId with
  | some index =>
      have status : s.checkMeshStorage pkt.deviceId = statusAlreadyExists := by
        rw [checkMeshStorage, found]
      have kept : s.storeJoined pkt statusAlreadyExists = s :=
        if_neg (by decide)
      have worked := @not_failed_of_eeprom s.storage s.storage rfl
      simp [status, kept, worked]
  | none =>
      by_cases full : maxDevices ≤ s.storage.mesh.count
      · have status : s.checkMeshStorage pkt.deviceId = statusStorageFull := by
          rw [checkMeshStorage, found]
          exact if_pos full
        have refused : ¬ (statusStorageFull = statusSuccess ∨
            statusStorageFull = statusAlreadyExists) := by decide
        simp [status, full, refused]
      · have room := Nat.lt_of_not_le full
        have status : s.checkMeshStorage pkt.deviceId = statusSuccess := by
          rw [checkMeshStorage, found]
          exact if_neg full
        have stored : (s.storeJoined pkt statusSuccess).storage =
            (s.storage.storageMeshAdd (joinedRecord pkt)).1 := rfl
        have missing := findMesh_filter found
        rw [status, stored]
        simp only [true_or, forall_const, if_true, full, false_or]
        cases written : s.storage.eeprom.outcome with
        | some left =>
            have lost := add_unwritten room missing written
            simp [lost]
        | none =>
            cases counted : s.storage.eeprom.advance.outcome with
            | some left =>
                have uncounted : s.storage.Failed
                    (s.storage.storageMeshAdd (joinedRecord pkt)).1 :=
                  add_uncounted room written counted
                simp [uncounted]
            | none =>
                have recorded := add_recorded room written counted missing
                have worked := (add_stored room written counted
                  (joinedRecord pkt)).2.2.2
                simp [recorded, worked]

def sampleGatewayEnv : MeshEnv where
  deviceType := .gateway
  deviceId := 1

/-- Sensor 5 joins behind this parent; anchor 2 passes it on. -/
def sampleJoin (connectedDeviceId : UInt16) : JoinedNetwork where
  hdr := { deviceType := DeviceType.anchor.code, deviceId := 1 }
  deviceType := DeviceType.sensor.code
  deviceId := 5
  serialNum := 5
  version := 0
  connectedDeviceId := connectedDeviceId
  hopNum := 0xFF
  sensorCount := 0xFF

/-- A gateway that anchor 2 paired with. -/
def pairedGateway : Condition :=
  next (.ok { hopNum := 0 })
    { env := sampleGatewayEnv
      event := some (.pairConfirm
        { hdr := { deviceType := DeviceType.anchor.code, deviceId := 1 }
          hopNum := 1 }
        2 0) }

theorem joined_recorded_first :
    JoinHonest (begin (plane pairedGateway) [])
      ((begin (plane pairedGateway) []).handleJoinedNetwork sampleGatewayEnv
        (sampleJoin 2) 2) (sampleJoin 2) := by
  refine (@joined_recorded_iff sampleGatewayEnv (plane pairedGateway)
    (sampleJoin 2) 2 [] rfl (by decide) rfl (by decide)).mpr ?_
  have missing : (begin (plane pairedGateway) []).findMesh 5 = none := by
    decide +kernel
  have empty : (begin (plane pairedGateway) []).storage.mesh.count = 0 := by
    decide +kernel
  refine (if_pos missing).mpr (.inr ⟨rfl, rfl, fun index below => ?_⟩)
  rw [empty] at below
  cases below

/-- Sensor 5 joins behind anchor 2 and later behind anchor 3: the gateway
confirms the second packet and keeps the first parent. -/
theorem joined_stale :
    ∃ before after,
      before = plane (next pairedGateway
        { env := sampleGatewayEnv
          event := some (.joinedNetwork (sampleJoin 2) 2) }) ∧
      after = plane (next (.ok before)
        { env := sampleGatewayEnv
          event := some (.joinedNetwork (sampleJoin 3) 2) }) ∧
      after.Confirms ∧ ¬ Recorded after.storage (sampleJoin 3) := by
  refine ⟨_, _, rfl, rfl, ?_, ?_⟩
  · refine ⟨⟨sampleGatewayEnv.replyHeader 2 packetPriorityHigh 0
      statusAlreadyExists, 5, DeviceType.sensor.code⟩, ?_, .inr rfl⟩
    decide +kernel
  · rintro ⟨ram, -⟩
    revert ram
    decide +kernel

end JoinedResult

end MeshPlane

end DectMesh
