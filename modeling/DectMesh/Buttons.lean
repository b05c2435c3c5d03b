import DectMesh.Config.Origin
import DectMesh.Discovery
import DectMesh.Host.Builders
import DectMesh.LargeData.Origin
import DectMesh.Report.Isolation
import DectMesh.Report.Origin

/-!
# The buttons

`testing/buttons.c`: the handlers behind user buttons 2 and 3, which put a
report, two blobs or a configuration into the tables of their board without
its host.  A handler runs whole between two others.
-/

namespace DectMesh

/-- The bytes that the handlers make up, from `written` on. -/
def buttonBytes (written count : Nat) : List UInt8 :=
  (List.range' written count).map UInt8.ofNat

theorem buttonBytes_length (written count : Nat) :
    (buttonBytes written count).length = count := by
  simp [buttonBytes]

theorem buttonBytes_append (count more : Nat) :
    buttonBytes 0 count ++ buttonBytes count more =
      buttonBytes 0 (count + more) := by
  have whole := @List.range'_append 0 count more 1
  rw [Nat.one_mul, Nat.zero_add] at whole
  rw [buttonBytes, buttonBytes, ← List.map_append, whole, buttonBytes]

section ReportButton

/-- The id that `default_button1_handler` takes from its static variable. -/
def buttonId (dataId : UInt16) : UInt16 := if dataId = 255 then 1 else dataId

/-- The variable after the handler. -/
def Env.nextButtonId (env : Env) (dataId : UInt16) : UInt16 :=
  if env.deviceType = .sensor then
    if dataId = 255 then 1 else dataId + 1
  else
    dataId

namespace ReportPlane

/-- The report of `default_button1_handler`, as far as `validate_at_report`
reads it. -/
def buttonReport (env : Env) (dataId : UInt16) : ReportCommand where
  serialNum := env.serialNumber
  report :=
    { dataId := buttonId dataId
      dataLen := 256
      dataCrc32 := env.crc.ieee (buttonBytes 0 256) }
  priority := packetPriorityLow
  payload := buttonBytes 0 256

variable (s : ReportPlane) (env : Env) (dataId : UInt16)

/-- `default_button1_handler`, of user button 2. -/
def defaultButton1Handler : ReportPlane :=
  if env.deviceType = .sensor then
    let command := buttonReport env dataId
    (s.validateAtReport env command.report command.priority
      command.payload).1
  else
    s

variable {s env dataId} {known : ReportMeta → Prop}

/-- Nothing but the connection that `cmd_report` asks for may be missing. -/
theorem buttonReport_accepted (role : env.deviceType = .sensor) :
    ∃ args, AcceptedCommand { env with connectedDeviceId := 0 }
      (.cmdReport args) (buttonReport env dataId) := by
  have size := buttonBytes_length 0 256
  have parsed := @parseReport_fields env.serialNumber (buttonId dataId)
    (buttonBytes 0 256) _ (env.crc.ieee (buttonBytes 0 256))
    packetPriorityLow (by omega) (by rw [size]; decide)
    (hexBytes_pairs (buttonBytes 0 256))
  rw [size] at parsed
  exact ⟨_,
    { role := role
      parsed := ⟨_, rfl, parsed⟩
      connected := show (0 : UInt16) ≠ 0xFFFF by decide
      checksum := rfl
      serial := rfl
      nonempty := show (256 : UInt16) ≠ 0 by decide
      fits := show (256 : UInt16).toNat ≤ 256 by decide }⟩

/-- A sensor takes its report in as it takes one of its host's. -/
theorem defaultButton1Handler_moves {args : List Char}
    (accepted : AcceptedCommand { env with connectedDeviceId := 0 }
      (.cmdReport args) (buttonReport env dataId)) :
    ReportMoves { env with connectedDeviceId := 0 } (.cmdReport args) s
      (s.defaultButton1Handler env dataId) := by
  rw [defaultButton1Handler, if_pos accepted.role]
  exact (validateAtReport_oneMove accepted).moves

theorem defaultButton1Handler_out :
    (s.defaultButton1Handler env dataId).io.out = s.io.out := by
  unfold defaultButton1Handler
  split
  · exact validateAtReport_out _ _ _
  · rfl

theorem defaultButton1Handler_genuine (genuine : s.Genuine known)
    (new : env.deviceType = .sensor →
      known ((buttonReport env dataId).metadata env).untimed) :
    (s.defaultButton1Handler env dataId).Genuine known := by
  by_cases role : env.deviceType = .sensor
  · obtain ⟨args, accepted⟩ := @buttonReport_accepted env dataId role
    apply (defaultButton1Handler_moves accepted).keepsGenuine _ genuine
    intro command other
    obtain ⟨_, received, parsed⟩ := accepted.parsed
    cases received
    obtain ⟨_, received, again⟩ := other.parsed
    cases received
    cases again.symm.trans parsed
    exact new role
  · rw [defaultButton1Handler, if_neg role]
    exact genuine

theorem defaultButton1Handler_stored (stored : Stored env.crc s) :
    Stored env.crc (s.defaultButton1Handler env dataId) := by
  by_cases role : env.deviceType = .sensor
  · obtain ⟨args, accepted⟩ := @buttonReport_accepted env dataId role
    exact (defaultButton1Handler_moves accepted).keepsStored nofun stored
  · rw [defaultButton1Handler, if_neg role]
    exact stored

end ReportPlane

end ReportButton

section BlobButton

namespace LdPlane

def buttonBlobSize : UInt32 := 100 * 1024

/-- A blob that `create_ld` makes up. -/
def buttonBlob (env : Env) (size : UInt32) (dataId : UInt16) :
    LdIdentity where
  genDeviceId := env.deviceId
  dataId := dataId.toUInt8
  totalSize := size
  crc32 := env.crc.ieee (buttonBytes 0 size.toNat)

variable (s : LdPlane) (env : Env)

/-- The slot of `create_ld` before its first chunk. -/
def createdSlot (slot : LdSlot) (size : UInt32) (dataId : UInt16) : LdSlot :=
  { slot with
    active := true
    upstreamReady := false
    isSent := false
    isTransfered := false
    priority := packetPriorityHigh
    genDeviceId := env.deviceId
    dataId := dataId.toUInt8
    totalSize := size
    pageCount := UInt8.ofNat (chunksOf size ldPageSize)
    lastChunkSize :=
      UInt16.ofNat
        (if size.toNat % ldChunkSize = 0 then
          ldChunkSize
        else
          size.toNat % ldChunkSize)
    totalChunks := UInt16.ofNat (chunksOf size ldChunkSize)
    crc32 := 0
    receivedCount := 0 }

/-- The slot with the checksum of one more chunk. -/
def checkedSlot (slot : LdSlot) (written : Nat) (chunk : List UInt8) : LdSlot :=
  { slot with
    crc32 :=
      if written = 0 then
        env.crc.ieee chunk
      else
        env.crc.update slot.crc32 chunk }

/-- The loop of `create_ld`, from `written` on.  After a failed write the slot
is given up, but not its pages. -/
def createLdLoop (idx : Fin ldReceiverSlotCount) (size : Nat) :
    Nat → Nat → LdPlane → LdPlane × Option (Fin ldReceiverSlotCount)
  | 0, _, s => (s, some idx)
  | rounds + 1, written, s =>
      if size ≤ written then
        (s, some idx)
      else
        let n := min 1024 (size - written)
        let chunk := buttonBytes written n
        let slot := checkedSlot env (s.slots idx) written chunk
        match s.io.write (slot.baseAddr.toNat + written) chunk with
        | (io, some _) =>
            ({ s with io := io }.setSlot idx { slot with active := false },
              none)
        | (io, none) =>
            createLdLoop idx size rounds (written + n)
              ({ s with io := io }.setSlot idx slot)

/-- `create_ld`, with `*idx_out`.  `buttons.c` has an `alloc_large_data_slot`
of its own, which does the same. -/
def createLd (size : UInt32) (dataId : UInt16) :
    LdPlane × Option (Fin ldReceiverSlotCount) :=
  match s.allocLargeDataSlot size with
  | none => (s, none)
  | some (s, idx) =>
      createLdLoop env idx size.toNat ((size.toNat + 1023) / 1024) 0
        (s.setSlot idx (createdSlot env (s.slots idx) size dataId))

/-- `default_button2_handler`, of user button 3, on a sensor. -/
def defaultButton2Handler : LdPlane :=
  if env.deviceType = .sensor then
    match s.createLd env buttonBlobSize 0x01 with
    | (s, none) => s
    | (s, some idx1) =>
        match s.createLd env buttonBlobSize 0x02 with
        | (s, none) => s
        | (s, some idx2) =>
            let s := s.setSlot idx1 { s.slots idx1 with upstreamReady := true }
            s.setSlot idx2 { s.slots idx2 with upstreamReady := true }
  else
    s

variable {s env} {known : LdIdentity → Prop} {size : UInt32} {dataId : UInt16}

@[simp]
theorem setSlot_self (idx : Fin ldReceiverSlotCount) (slot : LdSlot) :
    (s.setSlot idx slot).slots idx = slot :=
  Function.update_self _ _ _

theorem checkedSlot_crc32 {slot : LdSlot} {written : Nat} (count : Nat)
    (begun : 0 < written → slot.crc32 = env.crc.ieee (buttonBytes 0 written)) :
    (checkedSlot env slot written (buttonBytes written count)).crc32 =
      env.crc.ieee (buttonBytes 0 (written + count)) := by
  unfold checkedSlot
  dsimp only
  split
  · next first => rw [first, Nat.zero_add]
  · next later =>
    rw [begun (by omega), env.crc.update_ieee, buttonBytes_append]

/-- The loop leaves a slot with the checksum of all bytes, or gives it up; the
checksum so far carries the induction on the rounds. -/
theorem createLdLoop_slots {idx : Fin ldReceiverSlotCount} {size : Nat}
    (some_ : 0 < size) {rounds written : Nat} {s : LdPlane}
    (covers : size ≤ written + 1024 * rounds) (below : written ≤ size)
    (begun : 0 < written →
      (s.slots idx).crc32 = env.crc.ieee (buttonBytes 0 written)) :
    (createLdLoop env idx size rounds written s).1.io.out = s.io.out ∧
      ∃ slot, (createLdLoop env idx size rounds written s).1.slots =
          Function.update s.slots idx slot ∧
        (slot.active = true → slot = { s.slots idx with
          crc32 := env.crc.ieee (buttonBytes 0 size) }) := by
  have finished {s : LdPlane} {written : Nat} (all : written = size)
      (begun : 0 < written →
        (s.slots idx).crc32 = env.crc.ieee (buttonBytes 0 written)) :
      ∃ slot, s.slots = Function.update s.slots idx slot ∧
        (slot.active = true → slot = { s.slots idx with
          crc32 := env.crc.ieee (buttonBytes 0 size) }) := by
    refine ⟨s.slots idx, (Function.update_eq_self _ _).symm, fun _ => ?_⟩
    rw [← all, ← begun (by omega)]
  induction rounds generalizing written s with
  | zero => exact ⟨rfl, finished (by omega) begun⟩
  | succ rounds ih =>
      unfold createLdLoop
      dsimp only
      split
      · exact ⟨rfl, finished (by omega) begun⟩
      · next more =>
        have checksum := checkedSlot_crc32 (min 1024 (size - written)) begun
        split
        · next io errno wrote =>
          exact ⟨Io.write_out_eq wrote, _, rfl, fun active => by cases active⟩
        · next io wrote =>
          obtain ⟨out, slot, slots, whole⟩ :=
            @ih (written + min 1024 (size - written))
              (setSlot { s with io := io } idx (checkedSlot env (s.slots idx)
                written (buttonBytes written (min 1024 (size - written)))))
              (by omega) (by omega) fun _ => by
                rw [setSlot_self]
                exact checksum
          refine ⟨out.trans (Io.write_out_eq wrote), slot, ?_,
            fun active => ?_⟩
          · rw [slots]
            exact Function.update_idem _ _ _
          · rw [whole active, setSlot_self]
            rfl

theorem createLd_genuine (some_ : 0 < size.toNat) (genuine : s.Genuine known)
    (new : known (buttonBlob env size dataId)) :
    (s.createLd env size dataId).1.io.out = s.io.out ∧
      (s.createLd env size dataId).1.Genuine known := by
  unfold createLd
  split
  · exact ⟨rfl, genuine⟩
  · next t idx allocated =>
    have changed : t.io = s.io ∧
        ∃ slot, t.slots = Function.update s.slots idx slot := by
      unfold allocLargeDataSlot at allocated
      split at allocated
      · cases allocated
      · split at allocated
        · cases allocated
        · cases allocated
          exact ⟨rfl, _, rfl⟩
    obtain ⟨sameIo, before, slots⟩ := changed
    obtain ⟨out, slot, written, whole⟩ := @createLdLoop_slots env idx
      size.toNat some_ ((size.toNat + 1023) / 1024) 0
      (t.setSlot idx (createdSlot env (t.slots idx) size dataId)) (by omega)
      (by omega) fun absurd => by omega
    refine ⟨out.trans (congrArg Io.out sameIo), ?_⟩
    have all : _ = Function.update s.slots idx slot :=
      written.trans (by
        rw [setSlot, slots, Function.update_idem, Function.update_idem])
    apply genuine.update all
    intro active
    rw [whole active, setSlot_self]
    exact new

theorem defaultButton2Handler_genuine (genuine : s.Genuine known)
    (new : env.deviceType = .sensor → ∀ dataId ∈ [(1 : UInt16), 2],
      known (buttonBlob env buttonBlobSize dataId)) :
    (s.defaultButton2Handler env).io.out = s.io.out ∧
      (s.defaultButton2Handler env).Genuine known := by
  have some_ : 0 < buttonBlobSize.toNat := by decide
  have flagged {t : LdPlane} (genuine : t.Genuine known)
      (idx : Fin ldReceiverSlotCount) :
      (t.setSlot idx { t.slots idx with upstreamReady := true }).Genuine
        known :=
    genuine.update rfl fun active => genuine idx active
  unfold defaultButton2Handler
  split
  · next role =>
    have first := createLd_genuine some_ genuine
      (new role 1 (by decide))
    split
    · next t created =>
      rw [created] at first
      exact first
    · next t idx1 created =>
      rw [created] at first
      have second := createLd_genuine some_ first.2 (new role 2 (by decide))
      split
      · next u again =>
        rw [again] at second
        exact ⟨second.1.trans first.1, second.2⟩
      · next u idx2 again =>
        rw [again] at second
        exact ⟨second.1.trans first.1, flagged (flagged second.2 idx1) idx2⟩
  · exact ⟨rfl, genuine⟩

theorem defaultButton2Handler_out :
    (s.defaultButton2Handler env).io.out = s.io.out :=
  (@defaultButton2Handler_genuine s env (fun _ => True)
    (fun _ _ => trivial) fun _ _ _ => trivial).1

end LdPlane

end BlobButton

section ConfigButton

/-- What the compiler decides about `sensor_config_t`: the width of its enum
and the padding of the structure inside. -/
structure SensorConfigLayout where
  flagsWidth : Nat
  padding : UInt8 × UInt8

namespace Env

variable (env : Env)

/-- The configuration for testing, with its CRC-16 behind everything else. -/
def sensorConfig (layout : SensorConfigLayout) : List UInt8 :=
  let front :=
    [20, 60, 0] ++ List.replicate layout.flagsWidth 0 ++
      [30, 15, 70, 30, 28, 18, 65, 35, 0xE8, 0x03, 40, layout.padding.1,
        0xF4, 0x01, 0xFF, layout.padding.2]
  front ++ [(env.crc16 front).toUInt8, (env.crc16 front >>> 8).toUInt8]

def dummySn : UInt64 := ((19152 : UInt64) <<< 40) ||| 0x00DEADBEEF

/-- The device with the serial number for testing, and the hop number of the
way to it. -/
def buttonTarget : Option (MeshEntry × UInt8) :=
  match env.findMesh fun entry => entry.serialNum = dummySn with
  | none => none
  | some i =>
      let entry := env.meshDevices i
      let hopNum :=
        if entry.deviceType = DeviceType.sensor.code then
          match env.findMesh fun other =>
              other.deviceId = entry.connectedDeviceId with
          | some j => (env.meshDevices j).hopNum
          | none => entry.hopNum
        else
          entry.hopNum
      if entry.deviceId = 0xFFFF ∨ hopNum = 0xFF then
        none
      else
        some (entry, hopNum)

end Env

namespace ConfigPlane

/-- The configuration of `default_button2_handler`, which keeps the id that
its slot had before. -/
def buttonConfig (env : Env) (layout : SensorConfigLayout) (configId : UInt16) :
    ConfigCommand where
  sn := Env.dummySn
  config :=
    { dataId := configId
      dataLen := UInt16.ofNat (env.sensorConfig layout).length
      dataCrc32 := env.crc.ieee (env.sensorConfig layout) }
  payload := env.sensorConfig layout

/-- Slot zero, the one for testing. -/
def buttonSlot : Fin configSlotCount := ⟨0, configSlotCount_pos⟩

variable (s : ConfigPlane) (env : Env) (layout : SensorConfigLayout)

/-- The slot with the configuration for testing. -/
def testSlot (slot : ConfigSlot) (entry : MeshEntry) : ConfigSlot :=
  { slot with
    dstDeviceId := entry.deviceId
    dstDeviceType := entry.deviceType
    configLen := UInt8.ofNat (env.sensorConfig layout).length
    configCrc32 := env.crc.ieee (env.sensorConfig layout) }

/-- `default_button2_handler`, of user button 3, on a gateway; without a target
the slot stays in use as it was. -/
def defaultButton2Handler : ConfigPlane :=
  if env.deviceType = .gateway then
    let taken := { s.slots buttonSlot with active := true, isSent := true }
    let s := s.setSlot buttonSlot taken
    match env.buttonTarget with
    | none => s
    | some (entry, hopNum) =>
        let slot := testSlot env layout taken entry
        match s.io.write (configSlotPsramAddr buttonSlot)
            (env.sensorConfig layout) with
        | (io, some _) =>
            { s with io := io }.setSlot buttonSlot { slot with active := false }
        | (io, none) =>
            (env.routeDiscoveries
              { deviceId := slot.dstDeviceId
                deviceType := slot.dstDeviceType
                hopNum := hopNum
                dataType := dataTypeConfig
                dataId := UInt16.ofNat buttonSlot.val }).foldl put
              ({ s with io := io }.setSlot buttonSlot slot)
  else
    s

variable {s env layout} {known : ConfigIdentity → Prop}

theorem testSlot_identity (slot : ConfigSlot) (entry : MeshEntry) :
    (testSlot env layout slot entry).identity =
      (buttonConfig env layout slot.configId).identity := by
  simp [testSlot, ConfigSlot.identity, ConfigCommand.identity, buttonConfig]

/-- The handler asks for routes only, and keeps to what is known. -/
theorem defaultButton2Handler_passes (genuine : s.Genuine known)
    (new : env.deviceType = .gateway →
      known (buttonConfig env layout (s.slots buttonSlot).configId).identity) :
    (s.defaultButton2Handler env layout).Genuine known ∧
      ∀ action ∈ (s.defaultButton2Handler env layout).io.out,
        action ∈ s.io.out ∨ ∃ pkt, action = .request (.routeDiscovery pkt) := by
  unfold defaultButton2Handler
  split
  · next role =>
    have taken := Passes.flagSlot
      { s.slots buttonSlot with active := true, isSent := true } genuine rfl
    dsimp only
    split
    · exact ⟨taken.genuine, fun action sent => .inl sent⟩
    · next entry hopNum found =>
      have identity := @testSlot_identity env layout
        { s.slots buttonSlot with active := true, isSent := true } entry
      have filled (io : Io) (slot : ConfigSlot)
          (same : slot.identity = (buttonConfig env layout
            (s.slots buttonSlot).configId).identity) :
          Genuine known (setSlot { s.setSlot buttonSlot
            { s.slots buttonSlot with active := true, isSent := true } with
              io := io } buttonSlot slot) := by
        have stored : Genuine known { s.setSlot buttonSlot
            { s.slots buttonSlot with active := true, isSent := true } with
              io := io } :=
          taken.genuine
        exact (Passes.setSlot stored fun _ => same ▸ new role).genuine
      split
      · next io errno wrote =>
        exact ⟨filled io _ identity, fun action sent =>
          .inl (Io.write_out_eq wrote ▸ sent)⟩
      · next io wrote =>
        refine ⟨(putAll_passes (filled io _ identity)
          fun action member => ?_).genuine, fun action sent => ?_⟩
        · obtain ⟨pkt, rfl⟩ := Env.mem_routeDiscoveries member
          rfl
        · rw [foldl_put_out] at sent
          rcases List.mem_append.mp sent with before | member
          · exact .inl (Io.write_out_eq wrote ▸ before)
          · exact .inr (Env.mem_routeDiscoveries member)
  · exact ⟨genuine, fun action sent => .inl sent⟩

end ConfigPlane

end ConfigButton

end DectMesh
