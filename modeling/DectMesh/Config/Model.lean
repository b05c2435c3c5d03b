import DectMesh.AtText
import DectMesh.Board
import DectMesh.Route
import DectMesh.Library.Trace

/-!
# The configuration plane

A configuration is pushed from the gateway's host to one sensor: the gateway
keeps it in a slot, the anchors on the route keep a copy each, and the sensor
hands it to its own host.  The tables, the packet handlers, the ticks and the
host commands follow `config.c`; the answer to a route follows
`mesh_routing.c`.
-/

namespace DectMesh

def configSlotCount : Nat := maxDevices
def processConfigSlots : Nat := 8
def gatewayConfigTimeoutMs : Nat := 2 * 60 * 1000
def sensorConfigTimeoutMs : Nat := 30 * 1000
def sensorConfigMaxRetries : Nat := 3

theorem configSlotCount_pos : 0 < configSlotCount := by decide

/-- `struct config_slot`. -/
structure ConfigSlot where
  active : Bool := false
  isSent : Bool := false
  isApplied : Bool := false
  isTransfered : Bool := false
  dstDeviceId : UInt16 := 0
  dstDeviceType : UInt8 := 0
  configId : UInt16 := 0
  configLen : UInt8 := 0
  configCrc32 : UInt32 := 0
  timeout : NbTimeout := {}

/-- The static variables of `config.c` and `pending_ack`, with the devices
they are used with. -/
structure ConfigPlane where
  slots : Fin configSlotCount → ConfigSlot := fun _ => {}
  activeConfigCount : UInt16 := 0
  pendingAck : AtPendingAck := {}
  io : Io := {}

/-- `config_slot_psram_addr`. -/
def configSlotPsramAddr (idx : Fin configSlotCount) : Nat :=
  psramConfigBase + idx.val * maxConfigSize

def configRegionEnd : Nat :=
  psramConfigBase + configSlotCount * maxConfigSize

def allConfigSlots : List (Fin configSlotCount) :=
  List.finRange configSlotCount

namespace ConfigSlot

variable (slot : ConfigSlot)

/-- The slot `config_slot_free` leaves behind. -/
def freed : ConfigSlot :=
  { slot with
    active := false
    isSent := false
    isApplied := false
    isTransfered := false }

/-- The test both stores make before they take a configuration over. -/
def holdsSame (crc32 : UInt32) (len : Nat) : Bool :=
  slot.configCrc32 = crc32 ∧ slot.configLen.toNat = len

/-- The packet for a slot's configuration; its payload is read apart. -/
def packet (payload : List UInt8) : Config where
  dstDeviceId := slot.dstDeviceId
  dstDeviceType := slot.dstDeviceType
  dataType := dataTypeConfig
  dataId := slot.configId
  routeInfo := fun _ => {}
  configLen := slot.configLen
  configCrc32 := slot.configCrc32
  config := Buffer.ofData maxConfigSize payload

/-- Start a timeout for a slot that was sent. -/
def startTimeout (now durationMs maxRetries : Nat) : ConfigSlot :=
  { slot with timeout := (NbTimeout.init durationMs maxRetries).start now }

end ConfigSlot

namespace ConfigPlane

variable (s : ConfigPlane)

section Tables

def setSlot (idx : Fin configSlotCount) (slot : ConfigSlot) : ConfigPlane :=
  { s with slots := Function.update s.slots idx slot }

def put (action : Action) : ConfigPlane :=
  { s with io := s.io.put action }

def sendLine (text : AtLine) : ConfigPlane :=
  { s with io := s.io.sendLine text }

/-- `find_config_slot`. -/
@[irreducible]
def findConfigSlot (dstDeviceId : UInt16) : Option (Fin configSlotCount) :=
  Fin.find? fun i =>
    (s.slots i).active ∧ (s.slots i).dstDeviceId = dstDeviceId

@[simp]
theorem findConfigSlot_put (action : Action) (dstDeviceId : UInt16) :
    (s.put action).findConfigSlot dstDeviceId =
      s.findConfigSlot dstDeviceId := by
  unfold findConfigSlot
  rfl

/-- The slot `alloc_config_slot` picks. -/
@[irreducible]
def freeSlot : Option (Fin configSlotCount) :=
  Fin.find? fun i => !(s.slots i).active

/-- `alloc_config_slot`; it does not activate the slot. -/
def allocConfigSlot : Option (ConfigPlane × Fin configSlotCount) :=
  match s.freeSlot with
  | none => none
  | some idx =>
      some
        ({ s with
            activeConfigCount :=
              if s.activeConfigCount.toNat < 65535 then
                s.activeConfigCount + 1
              else
                s.activeConfigCount
          }.setSlot idx
            { s.slots idx with
              isSent := false, isApplied := false, isTransfered := false },
          idx)

variable {s} in
theorem allocConfigSlot_none (none_ : s.allocConfigSlot = none) :
    s.freeSlot = none := by
  cases free : s.freeSlot with
  | none => rfl
  | some idx =>
      rw [allocConfigSlot, free] at none_
      cases none_

variable {s} in
theorem allocConfigSlot_allocated {s' : ConfigPlane} {idx : Fin configSlotCount}
    (allocated : s.allocConfigSlot = some (s', idx)) :
    s.freeSlot = some idx ∧
      s' = { s with
        activeConfigCount :=
          if s.activeConfigCount.toNat < 65535 then
            s.activeConfigCount + 1
          else
            s.activeConfigCount
      }.setSlot idx
        { s.slots idx with
          isSent := false, isApplied := false, isTransfered := false } := by
  cases free : s.freeSlot with
  | none =>
      rw [allocConfigSlot, free] at allocated
      cases allocated
  | some found =>
      rw [allocConfigSlot, free] at allocated
      cases allocated
      exact ⟨rfl, rfl⟩

/-- `config_slot_free`. -/
def configSlotFree (idx : Fin configSlotCount) : ConfigPlane :=
  { s with
    activeConfigCount :=
      if 0 < s.activeConfigCount then
        s.activeConfigCount - 1
      else
        s.activeConfigCount
  }.setSlot idx (s.slots idx).freed

/-- An access to `config_slot[idx]` with the result of a search. -/
def slotIndex : Option (Fin configSlotCount) →
    Except Fault (Fin configSlotCount)
  | some idx => .ok idx
  | none => .error ⟨.configSlot, -1⟩

end Tables

section Send

variable (env : Env)

/-- `send_config`. -/
def sendConfig (pkt : Config) (dstId : UInt16) (priority : UInt8) :
    ConfigPlane :=
  s.put (.request (.config { pkt with
    hdr := { pkt.hdr with
      deviceType := env.deviceType.code
      priority := priority
      deviceId := dstId } }))

/-- `send_config_received`, always to the parent. -/
def sendConfigReceived (pkt : ConfigReceived) : ConfigPlane :=
  s.put (.request (.configReceived { pkt with
    hdr := { pkt.hdr with
      deviceType := env.deviceType.code
      priority := packetPriorityHigh
      deviceId := env.parent.deviceId } }))

/-- `send_cmd_configres`; with an empty mesh table the loop does nothing. -/
def sendCmdConfigres (deviceId : UInt16) (status : UInt8) : ConfigPlane :=
  match s.findConfigSlot deviceId with
  | none => s
  | some idx =>
      if env.meshCount = 0 then
        s
      else
        match env.findMesh fun entry => entry.deviceId = deviceId with
        | some i =>
            (s.sendLine (.configRes (env.meshDevices i).serialNum
              (s.slots idx).configId status)).setSlot idx
                { s.slots idx with isApplied := true }
        | none => s.configSlotFree idx

end Send

section Store

variable (env : Env)

/-- The slot `validate_config` fills; `is_transfered` keeps its value. -/
def receivedSlot (slot : ConfigSlot) (pkt : Config) : ConfigSlot :=
  { slot with
    active := true
    isSent := false
    isApplied := false
    dstDeviceId := pkt.dstDeviceId
    dstDeviceType := pkt.dstDeviceType
    configId := pkt.dataId
    configLen := pkt.configLen
    configCrc32 := pkt.configCrc32 }

/-- The rest of `validate_config` once it has a slot. -/
def storeConfig (idx : Fin configSlotCount) (pkt : Config) :
    ConfigPlane × UInt8 :=
  let payload := pkt.config.bytes.take pkt.configLen.toNat
  let s := s.setSlot idx (receivedSlot (s.slots idx) pkt)
  if env.crc.ieee payload ≠ pkt.configCrc32 then
    (s.configSlotFree idx, statusCrcFail)
  else
    match s.io.write (configSlotPsramAddr idx) payload with
    | (io, some _) => ({ s with io := io }.configSlotFree idx, statusFailure)
    | (io, none) => ({ s with io := io }, statusSuccess)

/-- `validate_config`, with its status and the slot it found or filled. -/
def validateConfig (pkt : Config) :
    ConfigPlane × UInt8 × Option (Fin configSlotCount) :=
  if pkt.dstDeviceId ≠ env.deviceId ∧ env.deviceType = .sensor then
    (s, statusFailure, none)
  else
    match s.findConfigSlot pkt.dstDeviceId with
    | some idx =>
        if (s.slots idx).holdsSame pkt.configCrc32 pkt.configLen.toNat then
          (s, statusAlreadyExists, some idx)
        else
          let outcome := s.storeConfig env idx pkt
          (outcome.1, outcome.2, some idx)
    | none =>
        match s.allocConfigSlot with
        | none => (s, statusResourceUnavailable, none)
        | some (s, idx) =>
            let outcome := s.storeConfig env idx pkt
            (outcome.1, outcome.2, some idx)

/-- The ways `validate_config` may end. -/
inductive Validation (env : Env) (s : ConfigPlane) (pkt : Config) :
    ConfigPlane × UInt8 × Option (Fin configSlotCount) → Prop
  | foreign
      (sensor : env.deviceType = .sensor)
      (other : pkt.dstDeviceId ≠ env.deviceId) :
      Validation env s pkt (s, statusFailure, none)
  | known {idx : Fin configSlotCount}
      (found : s.findConfigSlot pkt.dstDeviceId = some idx)
      (same : (s.slots idx).holdsSame pkt.configCrc32
        pkt.configLen.toNat = true) :
      Validation env s pkt (s, statusAlreadyExists, some idx)
  | full
      (missing : s.findConfigSlot pkt.dstDeviceId = none)
      (none_ : s.freeSlot = none) :
      Validation env s pkt (s, statusResourceUnavailable, none)
  | replaced {s' : ConfigPlane} {status : UInt8} {idx : Fin configSlotCount}
      (own : env.deviceType = .sensor → pkt.dstDeviceId = env.deviceId)
      (found : s.findConfigSlot pkt.dstDeviceId = some idx)
      (other : (s.slots idx).holdsSame pkt.configCrc32
        pkt.configLen.toNat = false)
      (stored : s.storeConfig env idx pkt = (s', status)) :
      Validation env s pkt (s', status, some idx)
  | placed {base s' : ConfigPlane} {status : UInt8}
      {idx : Fin configSlotCount}
      (own : env.deviceType = .sensor → pkt.dstDeviceId = env.deviceId)
      (missing : s.findConfigSlot pkt.dstDeviceId = none)
      (allocated : s.allocConfigSlot = some (base, idx))
      (stored : base.storeConfig env idx pkt = (s', status)) :
      Validation env s pkt (s', status, some idx)

theorem validateConfig_validation (env : Env) (s : ConfigPlane)
    (pkt : Config) : Validation env s pkt (s.validateConfig env pkt) := by
  unfold validateConfig
  split
  · next foreign => exact .foreign foreign.2 foreign.1
  · next local_ =>
    have own : env.deviceType = .sensor → pkt.dstDeviceId = env.deviceId := by
      intro sensor
      by_contra other
      exact local_ ⟨other, sensor⟩
    split
    · next idx found =>
      split
      · next same => exact .known found same
      · next other => exact .replaced own found (by simpa using other) rfl
    · next missing =>
      split
      · next none_ => exact .full missing (allocConfigSlot_none none_)
      · next base idx allocated => exact .placed own missing allocated rfl

end Store

section Handlers

variable (env : Env)

/-- Send a slot on and start its timeout. -/
def forwardConfig
    (idx : Fin configSlotCount) (pkt : Config) (dstId : UInt16)
    (durationMs maxRetries : Nat) : ConfigPlane :=
  let s := s.sendConfig env pkt dstId packetPriorityHigh
  s.setSlot idx
    { (s.slots idx).startTimeout env.now durationMs maxRetries with
      isSent := true }

/-- What `handle_config` does on an anchor with a stored configuration, with
the status of its answer. -/
def relayConfig (idx : Fin configSlotCount) (pkt : Config) :
    ConfigPlane × UInt8 :=
  if pkt.dstDeviceType = DeviceType.sensor.code ∧ lastHop pkt.routeInfo then
    match env.findSensor pkt.dstDeviceId with
    | some _ =>
        (s.forwardConfig env idx
          { pkt with routeInfo := endRoute pkt.routeInfo } pkt.dstDeviceId
          (30 * 1000) 3, statusSuccess)
    | none =>
        -- an empty sensor table leaves the status of the answer at zero
        (s, if env.sensorCount = 0 then statusSuccess else statusNotFound)
  else
    -- `!= 0xFFFF || != 0` holds of every id, so the source's last branch
    -- (INVALID_PARAMETER) is never taken
    let route := shiftRoute pkt.routeInfo
    (s.forwardConfig env idx { pkt with routeInfo := route }
      (route firstHop).deviceId (60 * 1000) 0, statusSuccess)

/-- `handle_config`; `srcId` is the sender of the packet. -/
def handleConfig (pkt : Config) (srcId : UInt16) : ConfigPlane :=
  let ack (status : UInt8) : Action :=
    .reply (.configAck
      { hdr := env.replyHeader status srcId pkt.hdr.priority
          pkt.hdr.trackingId
        dstDeviceId := pkt.dstDeviceId
        dstDeviceType := pkt.dstDeviceType
        dataType := pkt.dataType
        dataId := pkt.dataId })
  if !env.accepts pkt.hdr then
    s
  else if pkt.configLen = 0 ∨ maxConfigSize < pkt.configLen.toNat then
    s.put (ack statusInvalidParameter)
  else
    match env.deviceType with
    | .gateway | .unknown => s
    | .anchor =>
        if isUpstreamType pkt.hdr.deviceType then
          match s.validateConfig env pkt with
          | (s, status, some idx) =>
              if status ≠ statusSuccess then
                s.put (ack status)
              else
                let outcome := s.relayConfig env idx pkt
                outcome.1.put (ack outcome.2)
          | (s, status, none) => s.put (ack status)
        else
          s
    | .sensor =>
        if isUpstreamType pkt.hdr.deviceType then
          match s.validateConfig env pkt with
          | (s, status, some idx) =>
              let s := s.put (ack status)
              if status = statusAlreadyExists ∧ (s.slots idx).isApplied then
                s.sendConfigReceived env
                  { hdr := { status := statusAlreadyExists }
                    dstDeviceId := pkt.dstDeviceId
                    dstDeviceType := pkt.dstDeviceType
                    dataType := dataTypeConfig
                    dataId := pkt.dataId }
              else
                s
          | (s, status, none) => s.put (ack status)
        else
          s

/-- The packet reaches `validate_config`. -/
def Validated (env : Env) (pkt : Config) : Prop :=
  env.accepts pkt.hdr = true ∧ pkt.configLen ≠ 0 ∧
    pkt.configLen.toNat ≤ maxConfigSize ∧
      (env.deviceType = .anchor ∨ env.deviceType = .sensor) ∧
        isUpstreamType pkt.hdr.deviceType = true

instance Validated.decidable (env : Env) (pkt : Config) :
    Decidable (Validated env pkt) :=
  inferInstanceAs (Decidable (_ ∧ _ ∧ _ ∧ _ ∧ _))

/-- The answer to a configuration. -/
def configAnswer (pkt : Config) (srcId : UInt16) (status : UInt8) : Action :=
  .reply (.configAck
    { hdr := env.replyHeader status srcId pkt.hdr.priority pkt.hdr.trackingId
      dstDeviceId := pkt.dstDeviceId
      dstDeviceType := pkt.dstDeviceType
      dataType := pkt.dataType
      dataId := pkt.dataId })

/-- What a `CONFIG` can do: nothing, be answered, be relayed on an anchor, or
be confirmed once more on a sensor that has applied it. -/
inductive ConfigTaken (pkt : Config) (srcId : UInt16) : ConfigPlane → Prop where
  | ignored (other : ¬ Validated env pkt) : ConfigTaken pkt srcId s
  | unranged (length : pkt.configLen = 0 ∨ maxConfigSize < pkt.configLen.toNat) :
      ConfigTaken pkt srcId
        (s.put (configAnswer env pkt srcId statusInvalidParameter))
  | answered {t : ConfigPlane} {status : UInt8}
      {found : Option (Fin configSlotCount)} (valid : Validated env pkt)
      (validated : s.validateConfig env pkt = (t, status, found))
      (unrelayed : env.deviceType = .anchor → status = statusSuccess →
        found = none) :
      ConfigTaken pkt srcId (t.put (configAnswer env pkt srcId status))
  | relayed {t : ConfigPlane} {idx : Fin configSlotCount}
      (anchor : env.deviceType = .anchor) (valid : Validated env pkt)
      (validated : s.validateConfig env pkt = (t, statusSuccess, some idx)) :
      ConfigTaken pkt srcId
        ((t.relayConfig env idx pkt).1.put
          (configAnswer env pkt srcId (t.relayConfig env idx pkt).2))
  | confirmed {t : ConfigPlane} {idx : Fin configSlotCount}
      (sensor : env.deviceType = .sensor) (valid : Validated env pkt)
      (validated :
        s.validateConfig env pkt = (t, statusAlreadyExists, some idx))
      (applied : (t.slots idx).isApplied = true) :
      ConfigTaken pkt srcId
        ((t.put (configAnswer env pkt srcId statusAlreadyExists)
          ).sendConfigReceived env
          { hdr := { status := statusAlreadyExists }
            dstDeviceId := pkt.dstDeviceId
            dstDeviceType := pkt.dstDeviceType
            dataType := dataTypeConfig
            dataId := pkt.dataId })

variable {s env} in
theorem handleConfig_taken {pkt : Config} {srcId : UInt16} {s' : ConfigPlane}
    (handled : s.handleConfig env pkt srcId = s') :
    s.ConfigTaken env pkt srcId s' := by
  subst handled
  unfold handleConfig
  dsimp only
  split
  · next rejected => exact .ignored fun valid => by simp [valid.1] at rejected
  · next accepted =>
    have accepted : env.accepts pkt.hdr = true := by simpa using accepted
    split
    · next length => exact .unranged length
    · next ranged =>
      rw [not_or, Nat.not_lt] at ranged
      split
      · next role => exact .ignored fun valid => by simp [Validated, role] at valid
      · next role => exact .ignored fun valid => by simp [Validated, role] at valid
      · next anchor =>
        split
        · next upstream =>
          have valid : Validated env pkt :=
            ⟨accepted, ranged.1, ranged.2, .inl anchor, upstream⟩
          split
          · next validated =>
            split
            · next failed =>
              exact .answered valid validated fun _ success =>
                absurd success failed
            · next success =>
              rw [not_not] at success
              subst success
              exact .relayed anchor valid validated
          · next validated => exact .answered valid validated fun _ _ => rfl
        · next other => exact .ignored fun valid => other valid.2.2.2.2
      · next sensor =>
        have unrelayed {P : Prop} (anchor : env.deviceType = .anchor) : P := by
          rw [sensor] at anchor
          cases anchor
        split
        · next upstream =>
          have valid : Validated env pkt :=
            ⟨accepted, ranged.1, ranged.2, .inr sensor, upstream⟩
          split
          · next validated =>
            split
            · next known =>
              obtain ⟨rfl, applied⟩ := known
              exact .confirmed sensor valid validated applied
            · exact .answered valid validated unrelayed
          · next validated => exact .answered valid validated unrelayed
        · next other => exact .ignored fun valid => other valid.2.2.2.2

/-- The two statuses under which a `CONFIG_ACK` counts as accepted. -/
def acceptedStatus (status : UInt8) : Bool :=
  status = statusSuccess ∨ status = statusAlreadyExists

/-- `handle_config_ack`.  On an anchor the result of the search is used as an
index without a test. -/
def handleConfigAck (pkt : ConfigAck) : Except Fault ConfigPlane :=
  if !env.accepts pkt.hdr then
    .ok s
  else
    let s := s.put (.untrack pkt.hdr.trackingId)
    match env.deviceType with
    | .gateway =>
        if isDownstreamType pkt.hdr.deviceType ∧
            acceptedStatus pkt.hdr.status then
          match s.findConfigSlot pkt.dstDeviceId with
          | none => .ok s
          | some idx =>
              if pkt.dataId ≠ (s.slots idx).configId then
                .ok (s.setSlot idx { s.slots idx with active := false })
              else
                .ok s
        else
          .ok s
    | .anchor =>
        if isDownstreamType pkt.hdr.deviceType then
          match slotIndex (s.findConfigSlot pkt.dstDeviceId) with
          | .error fault => .error fault
          | .ok idx =>
              if acceptedStatus pkt.hdr.status then
                .ok (s.setSlot idx
                  { (s.slots idx).startTimeout env.now (30 * 1000) 0 with
                    isTransfered := true })
              else
                .ok (s.configSlotFree idx)
        else
          .ok s
    | .sensor | .unknown => .ok s

/-- What a `CONFIG_ACK` can do: nothing, remove its tracker entry only, take
the slot of another configuration out of use, or settle the slot on an
anchor. -/
inductive AckTaken (pkt : ConfigAck) : ConfigPlane → Prop where
  | ignored : AckTaken pkt s
  | untracked : AckTaken pkt (s.put (.untrack pkt.hdr.trackingId))
  | disowned (idx : Fin configSlotCount) (role : env.deviceType = .gateway)
      (accepted : env.accepts pkt.hdr = true)
      (answer : isDownstreamType pkt.hdr.deviceType = true ∧
        acceptedStatus pkt.hdr.status = true)
      (found : s.findConfigSlot pkt.dstDeviceId = some idx)
      (other : pkt.dataId ≠ (s.slots idx).configId) :
      AckTaken pkt ((s.put (.untrack pkt.hdr.trackingId)).setSlot idx
        { s.slots idx with active := false })
  | transfered (idx : Fin configSlotCount) (role : env.deviceType = .anchor) :
      AckTaken pkt ((s.put (.untrack pkt.hdr.trackingId)).setSlot idx
        { (s.slots idx).startTimeout env.now (30 * 1000) 0 with
          isTransfered := true })
  | freed (idx : Fin configSlotCount) (role : env.deviceType = .anchor)
      (found : s.findConfigSlot pkt.dstDeviceId = some idx) :
      AckTaken pkt ((s.put (.untrack pkt.hdr.trackingId)).configSlotFree idx)

variable {s env} in
theorem handleConfigAck_taken {pkt : ConfigAck} {s' : ConfigPlane}
    (handled : s.handleConfigAck env pkt = .ok s') :
    s.AckTaken env pkt s' := by
  unfold handleConfigAck at handled
  dsimp only at handled
  split at handled
  · cases handled
    exact .ignored
  · next accepted =>
    have accepted : env.accepts pkt.hdr = true := by simpa using accepted
    split at handled
    · next role =>
      split at handled
      · next answer =>
        split at handled
        · cases handled
          exact .untracked
        · next idx found =>
          split at handled
          · next other =>
            cases handled
            rw [findConfigSlot_put] at found
            exact .disowned idx role accepted answer found other
          · cases handled
            exact .untracked
      · cases handled
        exact .untracked
    · next role =>
      rw [findConfigSlot_put] at handled
      cases found : s.findConfigSlot pkt.dstDeviceId with
      | none =>
          rw [found] at handled
          split at handled
          · cases handled
          · cases handled
            exact .untracked
      | some idx =>
          rw [found] at handled
          split at handled
          · dsimp only [slotIndex] at handled
            split at handled
            · cases handled
              exact .transfered idx role
            · cases handled
              exact .freed idx role found
          · cases handled
            exact .untracked
    · cases handled
      exact .untracked
    · cases handled
      exact .untracked

/-- `handle_config_received`. -/
def handleConfigReceived (pkt : ConfigReceived) (srcId : UInt16) :
    ConfigPlane :=
  let ack : Action :=
    .reply (.configReceivedAck
      { hdr := env.replyHeader statusSuccess srcId pkt.hdr.priority
          pkt.hdr.trackingId
        dstDeviceId := pkt.dstDeviceId
        dstDeviceType := pkt.dstDeviceType
        dataType := pkt.dataType
        dataId := pkt.dataId })
  if !env.accepts pkt.hdr then
    s
  else
    match env.deviceType with
    | .gateway =>
        if isDownstreamType pkt.hdr.deviceType then
          (s.sendCmdConfigres env pkt.dstDeviceId pkt.hdr.status).put ack
        else
          s
    | .anchor =>
        if isDownstreamType pkt.hdr.deviceType then
          (s.sendConfigReceived env
            { pkt with hdr := { status := pkt.hdr.status } }).put ack
        else
          s
    | .sensor | .unknown => s

/-- `handle_config_received_ack`; an anchor passes the answer on under the
tracking id it came with. -/
def handleConfigReceivedAck (pkt : ConfigReceivedAck) : ConfigPlane :=
  if !env.accepts pkt.hdr then
    s
  else
    let s := s.put (.untrack pkt.hdr.trackingId)
    match env.deviceType with
    | .anchor =>
        if isUpstreamType pkt.hdr.deviceType then
          s.put (.reply (.configReceivedAck { pkt with
            hdr := env.replyHeader 0 env.parent.deviceId pkt.hdr.priority
              pkt.hdr.trackingId }))
        else
          s
    | .gateway | .sensor | .unknown => s

/-- What a `CONFIG_RECEIVED` can do: nothing, tell the host of a gateway, or be
passed on by an anchor. -/
inductive ReceivedTaken (pkt : ConfigReceived) (srcId : UInt16) :
    ConfigPlane → Prop where
  | ignored : ReceivedTaken pkt srcId s
  | told (role : env.deviceType = .gateway)
      (accepted : env.accepts pkt.hdr = true)
      (downstream : isDownstreamType pkt.hdr.deviceType = true) :
      ReceivedTaken pkt srcId
        ((s.sendCmdConfigres env pkt.dstDeviceId pkt.hdr.status).put
          (.reply (.configReceivedAck
            { hdr := env.replyHeader statusSuccess srcId pkt.hdr.priority
                pkt.hdr.trackingId
              dstDeviceId := pkt.dstDeviceId
              dstDeviceType := pkt.dstDeviceType
              dataType := pkt.dataType
              dataId := pkt.dataId })))
  | passed (role : env.deviceType = .anchor)
      (accepted : env.accepts pkt.hdr = true)
      (downstream : isDownstreamType pkt.hdr.deviceType = true) :
      ReceivedTaken pkt srcId
        ((s.sendConfigReceived env
          { pkt with hdr := { status := pkt.hdr.status } }).put
          (.reply (.configReceivedAck
            { hdr := env.replyHeader statusSuccess srcId pkt.hdr.priority
                pkt.hdr.trackingId
              dstDeviceId := pkt.dstDeviceId
              dstDeviceType := pkt.dstDeviceType
              dataType := pkt.dataType
              dataId := pkt.dataId })))

variable {s env} in
theorem handleConfigReceived_taken {pkt : ConfigReceived} {srcId : UInt16}
    {s' : ConfigPlane} (handled : s.handleConfigReceived env pkt srcId = s') :
    s.ReceivedTaken env pkt srcId s' := by
  subst handled
  unfold handleConfigReceived
  dsimp only
  split
  · exact .ignored
  · next accepted =>
    have accepted : env.accepts pkt.hdr = true := by simpa using accepted
    split
    · next role =>
      split
      · next downstream => exact .told role accepted downstream
      · exact .ignored
    · next role =>
      split
      · next downstream => exact .passed role accepted downstream
      · exact .ignored
    · exact .ignored
    · exact .ignored

/-- What the answer to it can do: nothing, remove its tracker entry, and be
passed on by an anchor. -/
inductive ReceivedAckTaken (pkt : ConfigReceivedAck) : ConfigPlane → Prop where
  | ignored : ReceivedAckTaken pkt s
  | untracked : ReceivedAckTaken pkt (s.put (.untrack pkt.hdr.trackingId))
  | passed (role : env.deviceType = .anchor) :
      ReceivedAckTaken pkt ((s.put (.untrack pkt.hdr.trackingId)).put
        (.reply (.configReceivedAck { pkt with
          hdr := env.replyHeader 0 env.parent.deviceId pkt.hdr.priority
            pkt.hdr.trackingId })))

variable {s env} in
theorem handleConfigReceivedAck_taken {pkt : ConfigReceivedAck}
    {s' : ConfigPlane} (handled : s.handleConfigReceivedAck env pkt = s') :
    s.ReceivedAckTaken env pkt s' := by
  subst handled
  unfold handleConfigReceivedAck
  dsimp only
  split
  · exact .ignored
  · split
    · next role =>
      split
      · exact .passed role
      · exact .untracked
    · exact .untracked
    · exact .untracked
    · exact .untracked

end Handlers

section Routing

variable (env : Env)

/-- `build_config_pkt`; `data_id` of the route is a slot index that nothing
checks, and neither the slot's activity nor its device is. -/
def buildConfigPkt (pkt : RouteInfo) : Except Fault (ConfigPlane × Config) :=
  if inside : pkt.dataId.toNat < configSlotCount then
    let idx : Fin configSlotCount := ⟨pkt.dataId.toNat, inside⟩
    let slot := s.slots idx
    let built (payload : List UInt8) : Config :=
      { slot.packet payload with
        dstDeviceId := pkt.deviceId
        dstDeviceType := pkt.deviceType
        dataType := pkt.dataType }
    if slot.isTransfered then
      .ok (s, { ConfigSlot.packet {} [] with dataType := 0 })
    else
      match s.io.read (configSlotPsramAddr idx) slot.configLen.toNat with
      | (io, .error _) =>
          .ok ({ s with io := io }, { built [] with configLen := 0 })
      | (io, .ok payload) =>
          .ok
            ({ s with io := io }.setSlot idx
              { slot with isTransfered := true },
            { built payload with routeInfo := reverseRoute pkt.routeInfo })
  else
    .error ⟨.configSlot, pkt.dataId.toNat⟩

/-- The part of `handle_route_info` for a configuration, on a gateway. -/
def sendRoutedConfig (pkt : RouteInfo) (srcId : UInt16) :
    Except Fault ConfigPlane :=
  let ack (status : UInt8) : Action :=
    .reply (.routeInfoAck
      { hdr := env.replyHeader status srcId packetPriorityHigh
          pkt.hdr.trackingId
        deviceId := pkt.deviceId
        deviceType := pkt.deviceType
        dataType := pkt.dataType
        dataId := pkt.dataId })
  if !env.accepts pkt.hdr ∨ pkt.hdr.status ≠ statusSuccess ∨
      env.deviceType ≠ .gateway ∨
      pkt.hdr.deviceType ≠ DeviceType.anchor.code ∨
      pkt.dataType ≠ dataTypeConfig then
    .ok s
  else
    match s.buildConfigPkt pkt with
    | .error fault => .error fault
    | .ok (s, built) =>
        if built.configLen = 0 then
          .ok (s.put (ack statusFailure))
        else
          .ok ((s.sendConfig env built (built.routeInfo firstHop).deviceId
            statusSuccess).put (ack pkt.hdr.status))

end Routing

section Ticks

variable (env : Env)

/-- The first loop of `gateway_config_tick`, for one slot. -/
def reportTimeout (idx : Fin configSlotCount) : ConfigPlane :=
  let slot := s.slots idx
  if slot.active ∧ slot.isSent ∧ !slot.isApplied ∧
      slot.timeout.expired env.now then
    s.sendCmdConfigres env slot.dstDeviceId statusTimeout
  else
    s

/-- The end of `gateway_config_tick` for a slot that was sent. -/
def markSent (idx : Fin configSlotCount) : ConfigPlane :=
  s.setSlot idx
    { (s.slots idx).startTimeout env.now gatewayConfigTimeoutMs 0 with
      isSent := true }

/-- The second loop of `gateway_config_tick`, for one pending slot. -/
def gatewaySendSlot (idx : Fin configSlotCount) : ConfigPlane :=
  let slot := s.slots idx
  let hopNum := env.findHopNum slot.dstDeviceId slot.dstDeviceType
  if hopNum = 0xFF then
    (s.sendCmdConfigres env slot.dstDeviceId statusNoRoute).configSlotFree idx
  else if hopNum = 0 then
    match s.io.read (configSlotPsramAddr idx) slot.configLen.toNat with
    | (io, .error _) => { s with io := io }
    | (io, .ok payload) =>
        ({ s with io := io }.sendConfig env (slot.packet payload)
          slot.dstDeviceId packetPriorityHigh).markSent env idx
  else
    ((env.routeDiscoveries
      { deviceId := slot.dstDeviceId
        deviceType := slot.dstDeviceType
        hopNum := hopNum
        dataType := dataTypeConfig
        dataId := UInt16.ofNat idx.val }).foldl put s).markSent env idx

/-- The second loop of `gateway_config_tick`, with the number of slots it may
still process. -/
def gatewaySendLoop : Nat → List (Fin configSlotCount) → ConfigPlane →
    ConfigPlane
  | 0, _, s => s
  | _ + 1, [], s => s
  | budget + 1, idx :: rest, s =>
      if (s.slots idx).active ∧ !(s.slots idx).isSent then
        gatewaySendLoop budget rest (s.gatewaySendSlot env idx)
      else
        gatewaySendLoop (budget + 1) rest s

/-- What every round keeps, the loop keeps. -/
theorem gatewaySendLoop_invariant (P : ConfigPlane → Prop)
    (round : ∀ s idx, P s → (s.slots idx).active = true →
      (s.slots idx).isSent = false → P (s.gatewaySendSlot env idx))
    (budget : Nat) (slots : List (Fin configSlotCount)) {s : ConfigPlane}
    (holds : P s) : P (gatewaySendLoop env budget slots s) := by
  induction slots generalizing budget s with
  | nil => cases budget <;> exact holds
  | cons idx rest ih =>
      cases budget with
      | zero => exact holds
      | succ budget =>
          unfold gatewaySendLoop
          split
          · next waits =>
            exact ih budget (round s idx holds waits.1 (by simpa using waits.2))
          · exact ih (budget + 1) holds

/-- `gateway_config_tick`. -/
def gatewayConfigTick : ConfigPlane :=
  gatewaySendLoop env processConfigSlots allConfigSlots
    (allConfigSlots.foldl (fun s idx => s.reportTimeout env idx) s)

/-- Count a retry of a slot whose timeout expired: without one left the slot
is freed, otherwise it is sent again. -/
def retrySlot (idx : Fin configSlotCount) : ConfigPlane :=
  let slot := s.slots idx
  match slot.timeout.retry env.now with
  | (timeout, true) =>
      (s.setSlot idx { slot with timeout := timeout }).configSlotFree idx
  | (timeout, false) =>
      s.setSlot idx { slot with timeout := timeout, isSent := false }

/-- The first loop of `anchor_config_tick`, for one slot: after the first test
the slot may be inactive for the second. -/
def expireRelayed (idx : Fin configSlotCount) : ConfigPlane :=
  let slot := s.slots idx
  if slot.active ∧ slot.isTransfered then
    if slot.timeout.expired env.now then s.configSlotFree idx else s
  else if slot.active ∧ slot.isSent ∧ slot.timeout.expired env.now then
    s.retrySlot env idx
  else
    s

/-- The second loop of `anchor_config_tick`, for one slot. -/
def anchorSendSlot (idx : Fin configSlotCount) : ConfigPlane :=
  let slot := s.slots idx
  if slot.active ∧ !slot.isSent ∧ !slot.isTransfered then
    match env.findSensor slot.dstDeviceId with
    | none => s
    | some _ =>
        match s.io.read (configSlotPsramAddr idx) slot.configLen.toNat with
        | (io, .error _) => { s with io := io }
        | (io, .ok payload) =>
            ({ s with io := io }.setSlot idx { slot with isSent := true }
              ).sendConfig env (slot.packet payload) slot.dstDeviceId
                packetPriorityHigh
  else
    s

/-- `anchor_config_tick`. -/
def anchorConfigTick : ConfigPlane :=
  allConfigSlots.foldl (fun s idx => s.anchorSendSlot env idx)
    (allConfigSlots.foldl (fun s idx => s.expireRelayed env idx) s)

/-- The first loop of `sensor_config_tick`, for one slot. -/
def expireUnconfirmed (idx : Fin configSlotCount) : ConfigPlane :=
  let slot := s.slots idx
  if slot.active ∧ slot.isSent then
    if slot.isApplied then
      s.setSlot idx { slot with timeout := slot.timeout.reset }
    else if slot.timeout.expired env.now then
      s.retrySlot env idx
    else
      s
  else
    s

/-- The second loop of `sensor_config_tick`, for one pending slot. -/
def sensorSendSlot (idx : Fin configSlotCount) : ConfigPlane :=
  let slot := s.slots idx
  match s.io.read (configSlotPsramAddr idx) slot.configLen.toNat with
  | (io, .error _) => { s with io := io }
  | (io, .ok payload) =>
      match io.txWrite (.config env.serialNumber slot.configId slot.configLen
          slot.configCrc32 payload) with
      | (io, false) => { s with io := io }
      | (io, true) =>
          let slot :=
            if slot.timeout.isActive then
              slot
            else
              slot.startTimeout env.now sensorConfigTimeoutMs
                sensorConfigMaxRetries
          { s with io := io }.setSlot idx { slot with isSent := true }

/-- The second loop of `sensor_config_tick`, with the number of slots it may
still process. -/
def sensorSendLoop : Nat → List (Fin configSlotCount) → ConfigPlane →
    ConfigPlane
  | 0, _, s => s
  | _ + 1, [], s => s
  | budget + 1, idx :: rest, s =>
      if (s.slots idx).active ∧ !(s.slots idx).isSent ∧
          !(s.slots idx).isApplied then
        sensorSendLoop budget rest (s.sensorSendSlot env idx)
      else
        sensorSendLoop (budget + 1) rest s

theorem sensorSendLoop_invariant (P : ConfigPlane → Prop)
    (round : ∀ s idx, P s → (s.slots idx).active = true →
      P (s.sensorSendSlot env idx))
    (budget : Nat) (slots : List (Fin configSlotCount)) {s : ConfigPlane}
    (holds : P s) : P (sensorSendLoop env budget slots s) := by
  induction slots generalizing budget s with
  | nil => cases budget <;> exact holds
  | cons idx rest ih =>
      cases budget with
      | zero => exact holds
      | succ budget =>
          unfold sensorSendLoop
          split
          · next waits => exact ih budget (round s idx holds waits.1)
          · exact ih (budget + 1) holds

/-- `sensor_config_tick`. -/
def sensorConfigTick : ConfigPlane :=
  sensorSendLoop env processConfigSlots allConfigSlots
    (allConfigSlots.foldl (fun s idx => s.expireUnconfirmed env idx) s)

/-- `config_tick`. -/
def configTick : ConfigPlane :=
  if s.activeConfigCount = 0 then
    s
  else
    match env.deviceType with
    | .gateway => s.gatewayConfigTick env
    | .anchor => s.anchorConfigTick env
    | .sensor => s.sensorConfigTick env
    | .unknown => s

/-- `config_init`; the config ids and the count of active slots keep their
values. -/
def configInit : ConfigPlane :=
  { s with
    slots := fun idx =>
      { (s.slots idx).freed with
        dstDeviceId := 0, dstDeviceType := 0, configLen := 0
        configCrc32 := 0 } }

end Ticks

section Host

variable (env : Env)

/-- The slot `config_slot_release_by_id` acts on. -/
@[irreducible]
def findSentSlot (configId : UInt16) : Option (Fin configSlotCount) :=
  Fin.find? fun i =>
    (s.slots i).active ∧ (s.slots i).isSent ∧ (s.slots i).configId = configId

/-- `config_slot_release_by_id`. -/
def configSlotReleaseById (configId : UInt16) (status : UInt8) : ConfigPlane :=
  match s.findSentSlot configId with
  | none => s
  | some idx =>
      let slot := s.slots idx
      let s := s.sendConfigReceived env
        { hdr := { status := status }
          dstDeviceId := slot.dstDeviceId
          dstDeviceType := slot.dstDeviceType
          dataType := dataTypeConfig
          dataId := slot.configId }
      if status = statusSuccess then
        s.setSlot idx { slot with isApplied := true }
      else
        (s.setSlot idx { slot with isApplied := false }).configSlotFree idx

/-- The status `dispatch` passes on for the host's answer: after `ERROR` it is
the C constant `false`. -/
def answerStatus (ok : Bool) : UInt8 :=
  if ok then statusSuccess else UInt8.ofNat false.toNat

/-- `dispatch` for the lines `OK` and `ERROR`, as far as a pending
configuration is concerned. -/
def hostAnswer (ok : Bool) : ConfigPlane :=
  let pending := s.pendingAck
  let s :=
    if pending.dataType = dataTypeConfig then
      s.configSlotReleaseById env pending.id (answerStatus ok)
    else
      s
  { s with pendingAck := { s.pendingAck with dataType := 0 } }

/-- `cmd_config_ack`, the handler of the host's `#CONFIG` line. -/
def cmdConfigAck (args : List Char) : ConfigPlane :=
  match fieldHexU64 args 0, fieldHexU64 args 1 with
  | some sn, some id =>
      if 0xFFFF < id.toNat ∨ sn ≠ env.serialNumber then
        s
      else
        { s with
          pendingAck :=
            { dataType := dataTypeConfig, sn := sn, id := id.toUInt16 } }
  | _, _ => s

/-- The slot `validate_at_config` looks for. -/
@[irreducible]
def findDeviceSlot (deviceId : UInt16) (deviceType : UInt8) :
    Option (Fin configSlotCount) :=
  Fin.find? fun i =>
    (s.slots i).active ∧ (s.slots i).dstDeviceId = deviceId ∧
      (s.slots i).dstDeviceType = deviceType

/-- The slot `validate_at_config` fills. -/
def pushedSlot (slot : ConfigSlot) (config : SlmAtStructure) : ConfigSlot :=
  { slot with
    dstDeviceId := config.deviceId
    dstDeviceType := config.deviceType
    configId := config.dataId
    configLen := config.dataLen.toUInt8
    configCrc32 := config.dataCrc32 }

/-- The slot `validate_at_config` marks pending before it looks into it. -/
def pendingSlot (slot : ConfigSlot) : ConfigSlot :=
  { slot with
    active := true
    isSent := false
    isApplied := false
    isTransfered := false }

/-- The rest of `validate_at_config` once it has a slot: a slot with the same
checksum and length keeps its device, id and payload. -/
def storePush
    (idx : Fin configSlotCount) (config : SlmAtStructure)
    (data : List UInt8) : ConfigPlane × Option Errno :=
  let slot := pendingSlot (s.slots idx)
  if slot.holdsSame config.dataCrc32 config.dataLen.toNat then
    (s.setSlot idx slot, none)
  else
    let s := s.setSlot idx (pushedSlot slot config)
    match s.io.write (configSlotPsramAddr idx) data with
    | (io, some _) => ({ s with io := io }.configSlotFree idx, some .eio)
    | (io, none) => ({ s with io := io }, none)

/-- `validate_at_config`. -/
def validateAtConfig (config : SlmAtStructure) (data : List UInt8) :
    ConfigPlane × Option Errno :=
  if config.dataLen = 0 ∨ maxConfigSize < config.dataLen.toNat then
    (s, some .einval)
  else
    match s.findDeviceSlot config.deviceId config.deviceType with
    | some idx => s.storePush idx config data
    | none =>
        match s.allocConfigSlot with
        | none => (s, some .enomem)
        | some (s, idx) => s.storePush idx config data

/-- What `cmd_config` takes out of its arguments. -/
structure ConfigCommand where
  sn : UInt64
  config : SlmAtStructure
  payload : List UInt8

/-- The parsing of `cmd_config`; the device is not known yet. -/
def parseConfig (args : List Char) : Option ConfigCommand :=
  (fieldHexU64 args 0).bind fun sn =>
  (fieldHexU64 args 1).bind fun id =>
  (fieldHexU64 args 2).bind fun len =>
  (fieldHexU64 args 3).bind fun crc =>
    if 0xFFFF < id.toNat ∨ len = 0 ∨ maxConfigSize < len.toNat ∨
        0xFFFFFFFF < crc.toNat then
      none
    else
      (fieldGet args 4).bind fun hex =>
        if hex.length ≠ len.toUInt16.toNat * 2 then
          none
        else
          (hexDecode hex maxConfigSize).bind fun payload =>
            if payload.length ≠ len.toUInt16.toNat then
              none
            else
              some
                { sn := sn
                  config :=
                    { dataId := id.toUInt16
                      dataLen := len.toUInt16
                      dataCrc32 := crc.toUInt32 }
                  payload := payload }

/-- The checks of `cmd_config` before it stores anything: the command with the
device it is for. -/
def admitConfig (args : List Char) : Option ConfigCommand :=
  if env.deviceType ≠ .gateway then
    none
  else
    match parseConfig args with
    | none => none
    | some command =>
        if env.crc.ieee command.payload ≠ command.config.dataCrc32 then
          none
        else
          match env.findMesh fun entry => entry.serialNum = command.sn with
          | none => none
          | some i =>
              let entry := env.meshDevices i
              if env.findHopNum entry.deviceId entry.deviceType = 0xFF then
                none
              else
                some { command with
                  config := { command.config with
                    deviceId := entry.deviceId
                    deviceType := entry.deviceType } }

/-- What `cmd_config` stores, and the command it answers with `OK`. -/
def storeCommand (args : List Char) : ConfigPlane × Option ConfigCommand :=
  match admitConfig env args with
  | none => (s, none)
  | some command =>
      match s.validateAtConfig command.config command.payload with
      | (s, some _) => (s, none)
      | (s, none) => (s, some command)

/-- `cmd_config`, the handler of `AT#CONFIG=`. -/
def cmdConfig (args : List Char) : ConfigPlane :=
  match s.storeCommand env args with
  | (s, none) => s.sendLine .error
  | (s, some command) =>
      (s.sendLine (.configAccepted command.sn command.config.dataId
        command.config.dataLen command.config.dataCrc32)).sendLine .ok

end Host

end ConfigPlane

/-- What a board's configuration plane reacts to. -/
inductive ConfigEvent where
  | config (pkt : Config) (srcId : UInt16)
  | configAck (pkt : ConfigAck)
  | configReceived (pkt : ConfigReceived) (srcId : UInt16)
  | configReceivedAck (pkt : ConfigReceivedAck)
  | routeInfo (pkt : RouteInfo) (srcId : UInt16)
  | tick
  /-- A gateway's `AT#CONFIG=` with its arguments. -/
  | cmdConfig (args : List Char)
  /-- A sensor's `#CONFIG` line with its arguments. -/
  | cmdConfigAck (args : List Char)
  /-- The host's `OK` or `ERROR`. -/
  | hostAnswer (ok : Bool)
  /-- A host line of another plane replaces the pending answer. -/
  | otherPending (pending : AtPendingAck)
  /-- `config_init`, in the error recovery. -/
  | restart
  /-- The other modules use the PSRAM outside the configuration region, and
  the UART and the SPI bus have whatever outcomes are coming. -/
  | elsewhere (psram : Psram) (uart : List UartOutcome)

namespace ConfigPlane

/-- The actions of the previous event have been performed. -/
def clearOut (s : ConfigPlane) : ConfigPlane :=
  { s with io := { s.io with out := [] } }

/-- One event of a configuration plane. -/
def step (s : ConfigPlane) (env : Env) :
    ConfigEvent → Except Fault ConfigPlane
  | .config pkt srcId => .ok (s.clearOut.handleConfig env pkt srcId)
  | .configAck pkt => s.clearOut.handleConfigAck env pkt
  | .configReceived pkt srcId =>
      .ok (s.clearOut.handleConfigReceived env pkt srcId)
  | .configReceivedAck pkt => .ok (s.clearOut.handleConfigReceivedAck env pkt)
  | .routeInfo pkt srcId => s.clearOut.sendRoutedConfig env pkt srcId
  | .tick => .ok (s.clearOut.configTick env)
  | .cmdConfig args => .ok (s.clearOut.cmdConfig env args)
  | .cmdConfigAck args =>
      .ok
        (if env.deviceType = .sensor then
          s.clearOut.cmdConfigAck env args
        else
          s.clearOut)
  | .hostAnswer ok => .ok (s.clearOut.hostAnswer env ok)
  | .otherPending pending => .ok { s.clearOut with pendingAck := pending }
  | .restart => .ok s.clearOut.configInit
  | .elsewhere psram uart =>
      .ok { s.clearOut with io := { psram := psram, uart := uart } }

end ConfigPlane

end DectMesh
