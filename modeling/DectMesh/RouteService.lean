import DectMesh.Config.Push
import DectMesh.RoundTrip

/-!
# Routes and slots

A `ROUTE_INFO` names the slot of the gateway it is meant for by a bare number
that went to the anchors and back.  This module compares what the gateway
sends then with what its host pushed and confirmed.
-/

namespace DectMesh

open ByteStore

/-- An `AT#CONFIG` that the gateway answered with `OK`. -/
structure PushedConfig where
  deviceId : UInt16
  configId : UInt16
  payload : List UInt8
  deriving DecidableEq

/-- The two planes of a gateway that a route can name a slot of, with all
configurations that its host pushed, and the report slots whose report its
host has answered with `OK`. -/
structure RouteService where
  config : ConfigPlane := {}
  report : ReportPlane := {}
  pushes : List PushedConfig := []
  answered : Fin dataSlotCount → Bool := fun _ => false

inductive RouteServiceEvent where
  | config (event : Env × ConfigEvent)
  | report (event : Env × ReportEvent)

namespace RouteService

variable (s : RouteService)

/-- The host's `OK` is for the report in slot `idx`. -/
def hostAccepts (idx : Fin dataSlotCount) : ReportEvent → Bool
  | .release deviceId reportId true =>
      deviceId ≠ 0xFFFF ∧ s.report.findSentSlot deviceId reportId = some idx
  | _ => false

def step : RouteServiceEvent → Except Fault RouteService
  | .config event =>
      match s.config.step event.1 event.2 with
      | .error fault => .error fault
      | .ok config =>
          .ok { s with
            config := config
            pushes :=
              match s.config.acceptedPush event.1 event.2 with
              | none => s.pushes
              | some command =>
                  { deviceId := command.config.deviceId
                    configId := command.config.dataId
                    payload := command.payload } :: s.pushes }
  | .report event =>
      match s.report.step event.1 event.2 with
      | .error fault => .error fault
      | .ok report =>
          .ok { s with
            report := report
            answered := fun idx =>
              (report.slots idx).active &&
                (s.answered idx || s.hostAccepts idx event.2) }

/-- A gateway whose other modules stay out of the configurations' memory, and
no `AT#CONFIG` of which was refused because of the PSRAM. -/
def Admits : RouteServiceEvent → Prop
  | .config (env, event) =>
      env.deviceType = .gateway ∧
        (match event with
          | .elsewhere psram _ =>
              AgreeOn psram.mem s.config.io.psram.mem psramConfigBase
                configRegionEnd
          | .cmdConfig args =>
              ∀ command, ConfigPlane.admitConfig env args = some command →
                (s.config.clearOut.validateAtConfig command.config
                  command.payload).2 ≠ some .eio
          | _ => True)
  | .report _ => True

section Answer

variable (env : Env) (pkt : RouteInfo) (srcId : UInt16)

/-- `handle_route_info` on a gateway; what else was put out has been sent. -/
def handleRouteInfo : Except Fault RouteService :=
  let s := { s with config := s.config.clearOut, report := s.report.clearOut }
  if pkt.dataType = dataTypeConfig then
    match s.config.sendRoutedConfig env pkt srcId with
    | .error fault => .error fault
    | .ok config => .ok { s with config := config }
  else if pkt.dataType = dataTypeReport then
    match s.report.sendRoutedReport env pkt srcId with
    | .error fault => .error fault
    | .ok report => .ok { s with report := report }
  else if !env.accepts pkt.hdr ∨ pkt.hdr.status ≠ statusSuccess ∨
      env.deviceType ≠ .gateway ∨
      pkt.hdr.deviceType ≠ DeviceType.anchor.code then
    .ok s
  else
    .ok { s with
      config := s.config.put (.reply (.routeInfoAck
        { hdr := env.replyHeader pkt.hdr.status srcId packetPriorityHigh
            pkt.hdr.trackingId
          deviceId := pkt.deviceId
          deviceType := pkt.deviceType
          dataType := pkt.dataType
          dataId := pkt.dataId })) }

/-- A `CONFIG` that was sent has the id and the bytes that the host pushed for
the packet's device, and comes out of an active slot for that device. -/
def BoundConfig (sent : Config) : Prop :=
  ∃ inside : pkt.dataId.toNat < configSlotCount,
    let idx : Fin configSlotCount := ⟨pkt.dataId.toNat, inside⟩
    (s.config.slots idx).active = true ∧
      (s.config.slots idx).dstDeviceId = pkt.deviceId ∧
        sent.dstDeviceId = pkt.deviceId ∧
          sent.dataId = (s.config.slots idx).configId ∧
            ∃ push ∈ s.pushes, push.deviceId = pkt.deviceId ∧
              push.configId = sent.dataId ∧
                sent.config.bytes.take sent.configLen.toNat = push.payload

/-- A `REPORT_RECEIVED` that was sent is for an active report of the packet's
device that the host has answered with `OK`. -/
def BoundReport (sent : ReportReceived) : Prop :=
  ∃ inside : pkt.dataId.toNat < dataSlotCount,
    let idx : Fin dataSlotCount := ⟨pkt.dataId.toNat, inside⟩
    (s.report.slots idx).active = true ∧
      (s.report.slots idx).genDeviceId = pkt.deviceId ∧
        sent.genDeviceId = pkt.deviceId ∧
          sent.dataId = (s.report.slots idx).dataId ∧ s.answered idx = true

/-- The answer stays inside the tables, what it sends is bound to the right
slot, and where it sends nothing no slot changes. -/
def BoundAnswer : Prop :=
  ∃ after, s.handleRouteInfo env pkt srcId = .ok after ∧
    (∀ sent ∈ configsOf after.config.io.out, s.BoundConfig pkt sent) ∧
      (∀ sent ∈ receivedOf after.report.io.out, s.BoundReport pkt sent) ∧
        (configsOf after.config.io.out = [] →
          after.config.slots = s.config.slots) ∧
          (receivedOf after.report.io.out = [] →
            after.report.slots = s.report.slots)

/-- The packet is meant for this gateway and comes from an anchor. -/
def Served : Prop :=
  env.accepts pkt.hdr = true ∧ pkt.hdr.status = statusSuccess ∧
    env.deviceType = .gateway ∧ pkt.hdr.deviceType = DeviceType.anchor.code

/-- The slot that the packet names is an active configuration for its device,
or has been sent before, or cannot be read. -/
def ConfigAddressed : Prop :=
  ∃ inside : pkt.dataId.toNat < configSlotCount,
    let idx : Fin configSlotCount := ⟨pkt.dataId.toNat, inside⟩
    (s.config.slots idx).isTransfered = true ∨
      (s.config.io.read (configSlotPsramAddr idx)
        (s.config.slots idx).configLen.toNat).2.isOk = false ∨
      (s.config.slots idx).active = true ∧
        (s.config.slots idx).dstDeviceId = pkt.deviceId ∧
          (s.config.slots idx).configLen ≠ 0

/-- The slot that the packet names is an active report of its device that the
host has answered, or has been answered to before. -/
def ReportAddressed : Prop :=
  ∃ inside : pkt.dataId.toNat < dataSlotCount,
    let idx : Fin dataSlotCount := ⟨pkt.dataId.toNat, inside⟩
    (s.report.slots idx).isTransfered = true ∨
      (s.report.slots idx).active = true ∧
        (s.report.slots idx).genDeviceId = pkt.deviceId ∧
          (s.report.slots idx).dataId ≠ 0 ∧ s.answered idx = true

end Answer

end RouteService

/-- Every configuration in a slot, active or not, was pushed as it is. -/
def PushedSlots (pushes : List PushedConfig) (s : ConfigPlane) : Prop :=
  ∀ idx, (s.slots idx).configLen ≠ 0 →
    (s.slots idx).configLen.toNat ≤ maxConfigSize ∧
      ({ deviceId := (s.slots idx).dstDeviceId
         configId := (s.slots idx).configId
         payload := s.payload idx } : PushedConfig) ∈ pushes

/-- The device, the id and the bytes of every slot stay. -/
structure SameBytes (s s' : ConfigPlane) : Prop where
  dstDeviceId : ∀ idx, (s'.slots idx).dstDeviceId = (s.slots idx).dstDeviceId
  configId : ∀ idx, (s'.slots idx).configId = (s.slots idx).configId
  configLen : ∀ idx, (s'.slots idx).configLen = (s.slots idx).configLen
  mem : s'.io.psram.mem = s.io.psram.mem

namespace SameBytes

variable {env : Env} {s s' s'' : ConfigPlane}

theorem refl (s : ConfigPlane) : SameBytes s s :=
  ⟨fun _ => rfl, fun _ => rfl, fun _ => rfl, rfl⟩

theorem trans (left : SameBytes s s') (right : SameBytes s' s'') :
    SameBytes s s'' where
  dstDeviceId idx := (right.dstDeviceId idx).trans (left.dstDeviceId idx)
  configId idx := (right.configId idx).trans (left.configId idx)
  configLen idx := (right.configLen idx).trans (left.configLen idx)
  mem := right.mem.trans left.mem

theorem ofContent (same : SameContent s s') : SameBytes s s' where
  dstDeviceId idx := (same.fields idx).2.1
  configId idx := (same.fields idx).2.2.2.1
  configLen idx := (same.fields idx).2.2.2.2.1
  mem := same.mem

theorem setSlot
    {idx : Fin configSlotCount} {slot : ConfigSlot}
    (device : slot.dstDeviceId = (s.slots idx).dstDeviceId)
    (id : slot.configId = (s.slots idx).configId)
    (length : slot.configLen = (s.slots idx).configLen) :
    SameBytes s (s.setSlot idx slot) := by
  refine ⟨fun other => ?_, fun other => ?_, fun other => ?_, rfl⟩ <;>
  · by_cases same : other = idx
    · subst same
      simp [ConfigPlane.setSlot, device, id, length]
    · simp [ConfigPlane.setSlot, Function.update_of_ne same]

/-- A freed slot keeps what it held. -/
theorem configSlotFree (s : ConfigPlane) (idx : Fin configSlotCount) :
    SameBytes s (s.configSlotFree idx) := by
  have count : SameBytes s { s with activeConfigCount :=
      if 0 < s.activeConfigCount then
        s.activeConfigCount - 1
      else
        s.activeConfigCount } :=
    ⟨fun _ => rfl, fun _ => rfl, fun _ => rfl, rfl⟩
  exact count.trans (setSlot rfl rfl rfl)

theorem foldl
    {Item : Type} {act : ConfigPlane → Item → ConfigPlane}
    (one : ∀ s item, SameBytes s (act s item)) (items : List Item)
    (s : ConfigPlane) : SameBytes s (items.foldl act s) := by
  induction items generalizing s with
  | nil => exact .refl s
  | cons item rest ih => exact (one s item).trans (ih _)

theorem pushed
    {pushes : List PushedConfig} (same : SameBytes s s')
    (pushed : PushedSlots pushes s) : PushedSlots pushes s' := by
  intro idx nonempty
  unfold ConfigPlane.payload
  rw [same.dstDeviceId, same.configId, same.configLen, same.mem]
  rw [same.configLen] at nonempty
  exact pushed idx nonempty

theorem sendCmdConfigres (deviceId : UInt16) (status : UInt8)
    (s : ConfigPlane) :
    SameBytes s (s.sendCmdConfigres env deviceId status) := by
  unfold ConfigPlane.sendCmdConfigres
  split
  · exact .refl s
  · split
    · exact .refl s
    · split
      · exact (ofContent (.sendLine s _)).trans (setSlot rfl rfl rfl)
      · exact .configSlotFree s _

theorem reportTimeout (s : ConfigPlane) (idx : Fin configSlotCount) :
    SameBytes s (s.reportTimeout env idx) := by
  unfold ConfigPlane.reportTimeout
  dsimp only
  split
  · exact .sendCmdConfigres _ _ s
  · exact .refl s

theorem gatewaySendSlot (s : ConfigPlane) (idx : Fin configSlotCount) :
    SameBytes s (s.gatewaySendSlot env idx) := by
  unfold ConfigPlane.gatewaySendSlot
  dsimp only
  split
  · exact (SameBytes.sendCmdConfigres _ _ s).trans (.configSlotFree _ _)
  · split
    · split
      · next reading => exact ofContent (.read reading)
      · next reading =>
        exact ofContent (((SameContent.read reading).trans
          (ConfigPlane.sendConfig_same _ _ _ _)).trans
            (ConfigPlane.markSent_same _ _))
    · exact ofContent ((ConfigPlane.foldl_put_same _ s).trans
        (ConfigPlane.markSent_same _ _))

theorem gatewaySendLoop
    (budget : Nat) (slots : List (Fin configSlotCount)) (s : ConfigPlane) :
    SameBytes s (ConfigPlane.gatewaySendLoop env budget slots s) := by
  apply ConfigPlane.gatewaySendLoop_invariant _ (SameBytes s) _ _ _ (.refl s)
  intro t idx before _ _
  exact before.trans (.gatewaySendSlot t idx)

theorem configTick (role : env.deviceType = .gateway) (s : ConfigPlane) :
    SameBytes s (s.configTick env) := by
  unfold ConfigPlane.configTick
  rw [role]
  split
  · exact .refl s
  · exact (SameBytes.foldl (fun s idx => .reportTimeout s idx) _ s).trans
      (.gatewaySendLoop _ _ _)

theorem handleConfigAck
    {pkt : ConfigAck} (role : env.deviceType = .gateway)
    (handled : s.handleConfigAck env pkt = .ok s') : SameBytes s s' := by
  have untracked : SameBytes s (s.put (.untrack pkt.hdr.trackingId)) :=
    ofContent (.put s _)
  cases ConfigPlane.handleConfigAck_taken handled with
  | ignored => exact .refl s
  | untracked => exact untracked
  | disowned idx role accepted answer found other =>
      exact untracked.trans (setSlot rfl rfl rfl)
  | transfered idx anchor => cases role.symm.trans anchor
  | freed idx anchor found => cases role.symm.trans anchor

theorem handleConfigReceived
    (role : env.deviceType = .gateway) (pkt : ConfigReceived)
    (srcId : UInt16) (s : ConfigPlane) :
    SameBytes s (s.handleConfigReceived env pkt srcId) := by
  generalize handled : s.handleConfigReceived env pkt srcId = s'
  cases ConfigPlane.handleConfigReceived_taken handled with
  | ignored => exact .refl s
  | told => exact (SameBytes.sendCmdConfigres _ _ s).trans (ofContent (.put _ _))
  | passed anchor => cases role.symm.trans anchor

theorem hostAnswer (ok : Bool) (s : ConfigPlane) :
    SameBytes s (s.hostAnswer env ok) := by
  have release (configId : UInt16) (status : UInt8) :
      SameBytes s (s.configSlotReleaseById env configId status) := by
    unfold ConfigPlane.configSlotReleaseById
    split
    · exact .refl s
    · have sent (pkt : ConfigReceived) :
          SameBytes s (s.sendConfigReceived env pkt) :=
        ofContent (.put s _)
      dsimp only
      split
      · exact (sent _).trans (setSlot rfl rfl rfl)
      · refine SameBytes.trans ?_ (.configSlotFree _ _)
        exact (sent _).trans (setSlot rfl rfl rfl)
  unfold ConfigPlane.hostAnswer
  dsimp only
  split
  · have same := release s.pendingAck.id (ConfigPlane.answerStatus ok)
    exact ⟨same.dstDeviceId, same.configId, same.configLen, same.mem⟩
  · exact ⟨fun _ => rfl, fun _ => rfl, fun _ => rfl, rfl⟩

end SameBytes

section Pushes

variable {env : Env} {s s' : ConfigPlane} {pushes : List PushedConfig}

theorem PushedSlots.more
    (pushed : PushedSlots pushes s) (push : PushedConfig) :
    PushedSlots (push :: pushes) s := fun idx nonempty =>
  ⟨(pushed idx nonempty).1, List.mem_cons_of_mem push (pushed idx nonempty).2⟩

/-- A push that was stored is one of the pushes, and the other slots keep
their bytes. -/
theorem storePush_pushed
    {idx : Fin configSlotCount} {config : SlmAtStructure}
    {payload : List UInt8} (pushed : PushedSlots pushes s)
    (lengths :
      payload.length = config.dataLen.toNat ∧
        config.dataLen.toNat ≤ maxConfigSize)
    (stored : s.storePush idx config payload = (s', none)) :
    PushedSlots
      ({ deviceId := config.deviceId, configId := config.dataId
         payload := payload } :: pushes) s' := by
  have size : maxConfigSize = 128 := rfl
  unfold ConfigPlane.storePush at stored
  dsimp only at stored
  split at stored
  · cases stored
    have same : SameBytes s
        (s.setSlot idx (ConfigPlane.pendingSlot (s.slots idx))) :=
      .setSlot rfl rfl rfl
    exact same.pushed (pushed.more _)
  · split at stored
    · cases stored
    · next io wrote =>
      cases stored
      have mem := Io.write_stored wrote
      have narrowed : config.dataLen.toUInt8.toNat = config.dataLen.toNat := by
        rw [UInt16.toNat_toUInt8]
        omega
      intro other nonempty
      unfold ConfigPlane.payload
      by_cases same : other = idx
      · subst same
        have bytes : slice io.psram.mem (configSlotPsramAddr other)
            config.dataLen.toUInt8.toNat = payload := by
          rw [mem, narrowed, ← lengths.1]
          exact slice_splice _ _ _
        simp only [ConfigPlane.setSlot, Function.update_self,
          ConfigPlane.pushedSlot, bytes]
        exact ⟨by omega, List.mem_cons_self⟩
      · simp only [ConfigPlane.setSlot, Function.update_of_ne same]
          at nonempty ⊢
        obtain ⟨short, member⟩ := pushed other nonempty
        rw [mem, ConfigPlane.slice_splice_other _ same (by omega) short]
        exact ⟨short, List.mem_cons_of_mem _ member⟩

/-- Only a failing write of the PSRAM makes `validate_at_config` report it. -/
theorem storePush_eio
    {idx : Fin configSlotCount} {config : SlmAtStructure}
    {payload : List UInt8} {errno : Errno}
    (failed : s.storePush idx config payload = (s', some errno)) :
    errno = .eio := by
  unfold ConfigPlane.storePush at failed
  dsimp only at failed
  split at failed
  · cases failed
  · split at failed
    · cases failed
      rfl
    · cases failed

theorem cmdConfig_pushed
    {args : List Char} (pushed : PushedSlots pushes s)
    (writes : ∀ command, ConfigPlane.admitConfig env args = some command →
      (s.validateAtConfig command.config command.payload).2 ≠ some .eio) :
    PushedSlots
      (match (s.storeCommand env args).2 with
        | none => pushes
        | some command =>
            { deviceId := command.config.deviceId
              configId := command.config.dataId
              payload := command.payload } :: pushes)
      (s.cmdConfig env args) := by
  unfold ConfigPlane.cmdConfig ConfigPlane.storeCommand
  cases admitted : ConfigPlane.admitConfig env args with
  | none => exact (SameBytes.ofContent (.sendLine s _)).pushed pushed
  | some command =>
      have lengths := ConfigPlane.admitConfig_length admitted
      have written := writes command admitted
      have target {t : ConfigPlane} {idx : Fin configSlotCount}
          (before : PushedSlots pushes t)
          (uses : s.validateAtConfig command.config command.payload =
            t.storePush idx command.config command.payload) :
          ∃ after, s.validateAtConfig command.config command.payload =
              (after, none) ∧
            PushedSlots
              ({ deviceId := command.config.deviceId
                 configId := command.config.dataId
                 payload := command.payload } :: pushes) after := by
        cases stored : t.storePush idx command.config command.payload with
        | mk after result =>
          cases result with
          | none =>
              exact ⟨after, uses.trans stored,
                storePush_pushed before lengths stored⟩
          | some errno =>
              rw [uses, stored, storePush_eio stored] at written
              exact absurd rfl written
      have outcome :
          (∃ errno, s.validateAtConfig command.config command.payload =
            (s, some errno)) ∨
          ∃ after, s.validateAtConfig command.config command.payload =
              (after, none) ∧
            PushedSlots
              ({ deviceId := command.config.deviceId
                 configId := command.config.dataId
                 payload := command.payload } :: pushes) after := by
        cases bad : decide (command.config.dataLen = 0 ∨
            maxConfigSize < command.config.dataLen.toNat) with
        | true =>
            refine .inl ⟨.einval, ?_⟩
            unfold ConfigPlane.validateAtConfig
            rw [if_pos (of_decide_eq_true bad)]
        | false =>
            have good := of_decide_eq_false bad
            cases found : s.findDeviceSlot command.config.deviceId
                command.config.deviceType with
            | some idx =>
                refine .inr (@target s idx pushed ?_)
                unfold ConfigPlane.validateAtConfig
                rw [if_neg good, found]
            | none =>
                cases allocated : s.allocConfigSlot with
                | none =>
                    refine .inl ⟨.enomem, ?_⟩
                    unfold ConfigPlane.validateAtConfig
                    rw [if_neg good, found, allocated]
                | some result =>
                    obtain ⟨t, idx⟩ := result
                    have same :=
                      (ConfigPlane.allocConfigSlot_some allocated).2.1
                    refine .inr (@target t idx
                      ((SameBytes.ofContent same).pushed pushed) ?_)
                    unfold ConfigPlane.validateAtConfig
                    rw [if_neg good, found, allocated]
      rcases outcome with ⟨errno, refused⟩ | ⟨after, accepted, kept⟩
      · dsimp only
        rw [refused]
        exact (SameBytes.ofContent (.sendLine s _)).pushed pushed
      · dsimp only
        rw [accepted]
        exact (SameBytes.ofContent ((SameContent.sendLine after _).trans
          (.sendLine _ _))).pushed kept

end Pushes

section Runs

variable {s s' : RouteService}

/-- One event keeps what is known of the configurations. -/
theorem RouteService.step_pushed
    {event : RouteServiceEvent} (pushed : PushedSlots s.pushes s.config)
    (admitted : s.Admits event) (stepped : s.step event = .ok s') :
    PushedSlots s'.pushes s'.config := by
  cases event with
  | report event =>
      simp only [step] at stepped
      split at stepped
      · cases stepped
      · cases stepped
        exact pushed
  | config event =>
      obtain ⟨env, event⟩ := event
      obtain ⟨role, allowed⟩ := admitted
      have cleared : PushedSlots s.pushes s.config.clearOut := pushed
      simp only [step] at stepped
      split at stepped
      · cases stepped
      · next config moved =>
        cases stepped
        have same (bytes : SameBytes s.config.clearOut config)
            (other : s.config.acceptedPush env event = none) :
            PushedSlots
              (match s.config.acceptedPush env event with
                | none => s.pushes
                | some command =>
                    { deviceId := command.config.deviceId
                      configId := command.config.dataId
                      payload := command.payload } :: s.pushes) config := by
          rw [other]
          exact bytes.pushed cleared
        cases event with
        | config pkt srcId =>
            cases moved
            exact same (.ofContent
              (ConfigPlane.handleConfig_gateway_same role)) rfl
        | configAck pkt => exact same (.handleConfigAck role moved) rfl
        | configReceived pkt srcId =>
            cases moved
            exact same (.handleConfigReceived role pkt srcId _) rfl
        | configReceivedAck pkt =>
            cases moved
            exact same (.ofContent
              (ConfigPlane.handleConfigReceivedAck_same pkt)) rfl
        | routeInfo pkt srcId =>
            exact same (.ofContent
              (ConfigPlane.sendRoutedConfig_same moved)) rfl
        | tick =>
            cases moved
            exact same (.configTick role _) rfl
        | cmdConfig args =>
            cases moved
            exact cmdConfig_pushed cleared allowed
        | cmdConfigAck args =>
            simp only [ConfigPlane.step, role] at moved
            cases moved
            exact same (.refl _) rfl
        | hostAnswer ok =>
            cases moved
            exact same (.hostAnswer ok _) rfl
        | otherPending pending =>
            cases moved
            exact same ⟨fun _ => rfl, fun _ => rfl, fun _ => rfl, rfl⟩ rfl
        | restart =>
            cases moved
            intro idx nonempty
            exact absurd rfl nonempty
        | elsewhere psram uart =>
            cases moved
            intro idx nonempty
            obtain ⟨short, member⟩ := pushed idx nonempty
            refine ⟨short, ?_⟩
            have inside := ConfigPlane.configSlot_inside idx
            have bytes : slice psram.mem (configSlotPsramAddr idx)
                (s.config.slots idx).configLen.toNat = s.config.payload idx :=
              slice_congr allowed inside.1 (by omega)
            unfold ConfigPlane.payload
            dsimp only [ConfigPlane.clearOut]
            rw [bytes]
            exact member

theorem RouteService.pushed
    {configIo reportIo : Io}
    (reach : Trace.Reach RouteService.step RouteService.Admits
      { config := { io := configIo }, report := { io := reportIo } } s) :
    PushedSlots s.pushes s.config := by
  apply reach.invariant
  · intro idx nonempty
    exact absurd rfl nonempty
  · intro before event after pushed admitted stepped
    exact before.step_pushed pushed admitted stepped

end Runs

section Answers

variable {s : RouteService} {env : Env} {pkt : RouteInfo} {srcId : UInt16}

/-- A packet that is not served changes nothing. -/
theorem RouteService.handleRouteInfo_unserved
    (unserved : ¬ RouteService.Served env pkt) :
    s.handleRouteInfo env pkt srcId =
      .ok { s with
        config := s.config.clearOut
        report := s.report.clearOut } := by
  have refused : !env.accepts pkt.hdr ∨ pkt.hdr.status ≠ statusSuccess ∨
      env.deviceType ≠ .gateway ∨
      pkt.hdr.deviceType ≠ DeviceType.anchor.code := by
    by_contra served
    simp only [not_or, not_not, Bool.not_eq_true', Bool.not_eq_false] at served
    exact unserved served
  unfold RouteService.handleRouteInfo
  unfold ConfigPlane.sendRoutedConfig ReportPlane.sendRoutedReport
  rcases refused with refused | refused | refused | refused <;>
    simp [refused]

theorem RouteService.boundAnswer_unserved
    (unserved : ¬ RouteService.Served env pkt) : s.BoundAnswer env pkt srcId := by
  have idle := @RouteService.handleRouteInfo_unserved s env pkt srcId unserved
  refine ⟨_, idle, ?_, ?_, fun _ => rfl, fun _ => rfl⟩
  · intro sent member
    cases member
  · intro sent member
    cases member

/-- Where a route names no data the gateway only acknowledges. -/
theorem RouteService.boundAnswer_other
    (served : RouteService.Served env pkt)
    (config : pkt.dataType ≠ dataTypeConfig)
    (report : pkt.dataType ≠ dataTypeReport) :
    s.BoundAnswer env pkt srcId := by
  obtain ⟨accepted, success, role, sender⟩ := served
  have answer : ∃ ack, s.handleRouteInfo env pkt srcId =
      .ok { s with
        config := s.config.clearOut.put (.reply (.routeInfoAck ack))
        report := s.report.clearOut } := by
    unfold RouteService.handleRouteInfo
    simp only [if_neg config, if_neg report, accepted, success, role, sender]
    exact ⟨_, rfl⟩
  obtain ⟨ack, answer⟩ := answer
  refine ⟨_, answer, ?_, ?_, fun _ => rfl, fun _ => rfl⟩
  · intro sent member
    cases member
  · intro sent member
    cases member

section Configs

variable {plane : ConfigPlane}

theorem buildConfigPkt_outside
    (outside : ¬ pkt.dataId.toNat < configSlotCount) :
    ∃ fault, plane.buildConfigPkt pkt = .error fault := by
  unfold ConfigPlane.buildConfigPkt
  rw [dif_neg outside]
  exact ⟨_, rfl⟩

variable {idx : Fin configSlotCount} (named : pkt.dataId.toNat = idx.val)

include named

theorem buildConfigPkt_transfered
    (transfered : (plane.slots idx).isTransfered = true) :
    ∃ built, plane.buildConfigPkt pkt = .ok (plane, built) ∧
      built.configLen = 0 := by
  have inside : pkt.dataId.toNat < configSlotCount := named ▸ idx.isLt
  obtain rfl : idx = ⟨pkt.dataId.toNat, inside⟩ := Fin.ext named.symm
  unfold ConfigPlane.buildConfigPkt
  rw [dif_pos inside]
  dsimp only
  rw [if_pos transfered]
  exact ⟨_, rfl, rfl⟩

theorem buildConfigPkt_unreadable
    (fresh : (plane.slots idx).isTransfered = false)
    (unreadable : (plane.io.read (configSlotPsramAddr idx)
      (plane.slots idx).configLen.toNat).2.isOk = false) :
    ∃ io built, plane.buildConfigPkt pkt =
        .ok ({ plane with io := io }, built) ∧
      io.out = plane.io.out ∧ built.configLen = 0 := by
  have inside : pkt.dataId.toNat < configSlotCount := named ▸ idx.isLt
  obtain rfl : idx = ⟨pkt.dataId.toNat, inside⟩ := Fin.ext named.symm
  unfold ConfigPlane.buildConfigPkt
  rw [dif_pos inside]
  dsimp only
  rw [if_neg (by simp [fresh])]
  split
  · next io errno reading =>
    exact ⟨io, _, rfl, Io.read_out_eq reading, rfl⟩
  · next io payload reading =>
    rw [reading] at unreadable
    cases unreadable

theorem buildConfigPkt_read
    (fresh : (plane.slots idx).isTransfered = false)
    (readable : (plane.io.read (configSlotPsramAddr idx)
      (plane.slots idx).configLen.toNat).2.isOk = true) :
    ∃ io, plane.buildConfigPkt pkt =
        .ok ({ plane with io := io }.setSlot idx
            { plane.slots idx with isTransfered := true },
          { (plane.slots idx).packet (plane.payload idx) with
            dstDeviceId := pkt.deviceId
            dstDeviceType := pkt.deviceType
            dataType := pkt.dataType
            routeInfo := reverseRoute pkt.routeInfo }) ∧
      io.out = plane.io.out := by
  have inside : pkt.dataId.toNat < configSlotCount := named ▸ idx.isLt
  obtain rfl : idx = ⟨pkt.dataId.toNat, inside⟩ := Fin.ext named.symm
  unfold ConfigPlane.buildConfigPkt
  rw [dif_pos inside]
  dsimp only
  rw [if_neg (by simp [fresh])]
  split
  · next io errno reading =>
    rw [reading] at readable
    cases readable
  · next io payload reading =>
    rw [Io.read_bytes reading]
    exact ⟨io, rfl, Io.read_out_eq reading⟩

end Configs

/-- Without a configuration to send a gateway only acknowledges. -/
theorem RouteService.handleRouteInfo_silent
    {config : ConfigPlane} {built : Config}
    (served : RouteService.Served env pkt)
    (kind : pkt.dataType = dataTypeConfig)
    (builds : s.config.clearOut.buildConfigPkt pkt = .ok (config, built))
    (none : built.configLen = 0) :
    ∃ ack, s.handleRouteInfo env pkt srcId =
      .ok { s with
        config := config.put (.reply (.routeInfoAck ack))
        report := s.report.clearOut } := by
  obtain ⟨accepted, success, role, sender⟩ := served
  unfold RouteService.handleRouteInfo
  rw [if_pos kind]
  dsimp only
  unfold ConfigPlane.sendRoutedConfig
  dsimp only
  rw [if_neg (by simp [accepted, success, role, sender, kind]), builds]
  dsimp only
  rw [if_pos none]
  exact ⟨_, rfl⟩

theorem RouteService.handleRouteInfo_sends
    {config : ConfigPlane} {built : Config}
    (served : RouteService.Served env pkt)
    (kind : pkt.dataType = dataTypeConfig)
    (builds : s.config.clearOut.buildConfigPkt pkt = .ok (config, built))
    (some : built.configLen ≠ 0) :
    ∃ dstId ack, s.handleRouteInfo env pkt srcId =
      .ok { s with
        config := (config.sendConfig env built dstId statusSuccess).put
          (.reply (.routeInfoAck ack))
        report := s.report.clearOut } := by
  obtain ⟨accepted, success, role, sender⟩ := served
  unfold RouteService.handleRouteInfo
  rw [if_pos kind]
  dsimp only
  unfold ConfigPlane.sendRoutedConfig
  dsimp only
  rw [if_neg (by simp [accepted, success, role, sender, kind]), builds]
  dsimp only
  rw [if_neg some]
  exact ⟨_, _, rfl⟩

theorem configsOf_sendConfig
    {plane : ConfigPlane} {built : Config} {dstId : UInt16} {ack : RouteInfoAck}
    (out : plane.io.out = []) :
    configsOf ((plane.sendConfig env built dstId statusSuccess).put
        (.reply (.routeInfoAck ack))).io.out =
      [{ built with hdr := { built.hdr with
          deviceType := env.deviceType.code
          priority := statusSuccess
          deviceId := dstId } }] := by
  simp [configsOf, ConfigPlane.put, ConfigPlane.sendConfig, Io.put, out]

/-- A route that names no slot of the array faults. -/
theorem RouteService.not_boundAnswer_config
    (served : RouteService.Served env pkt)
    (kind : pkt.dataType = dataTypeConfig)
    (outside : ¬ pkt.dataId.toNat < configSlotCount) :
    ¬ s.BoundAnswer env pkt srcId := by
  rintro ⟨after, answer, -⟩
  obtain ⟨fault, faults⟩ :=
    @buildConfigPkt_outside pkt s.config.clearOut outside
  obtain ⟨accepted, success, role, sender⟩ := served
  unfold RouteService.handleRouteInfo at answer
  rw [if_pos kind] at answer
  dsimp only at answer
  unfold ConfigPlane.sendRoutedConfig at answer
  dsimp only at answer
  rw [if_neg (by simp [accepted, success, role, sender, kind]),
    faults] at answer
  cases answer

/-- An answer without a configuration is bound if the slots stay. -/
theorem RouteService.boundAnswer_silent
    {config : ConfigPlane} {built : Config}
    (served : RouteService.Served env pkt)
    (kind : pkt.dataType = dataTypeConfig)
    (builds : s.config.clearOut.buildConfigPkt pkt = .ok (config, built))
    (none : built.configLen = 0) (out : config.io.out = []) :
    s.BoundAnswer env pkt srcId ↔ config.slots = s.config.slots := by
  obtain ⟨ack, answer⟩ :=
    @RouteService.handleRouteInfo_silent s env pkt srcId _ _ served kind builds
      none
  have nothing : configsOf (config.put (.reply (.routeInfoAck ack))).io.out =
      [] := by
    simp [configsOf, ConfigPlane.put, Io.put, out]
  constructor
  · rintro ⟨after, same, -, -, slots, -⟩
    rw [answer] at same
    cases same
    exact slots nothing
  · intro slots
    refine ⟨_, answer, ?_, ?_, fun _ => slots, fun _ => rfl⟩
    · intro sent member
      rw [nothing] at member
      cases member
    · intro sent member
      cases member

/-- One with a configuration is bound if its slot is one of the device. -/
theorem RouteService.boundAnswer_sends
    {idx : Fin configSlotCount} {io : Io}
    (served : RouteService.Served env pkt)
    (kind : pkt.dataType = dataTypeConfig)
    (pushed : PushedSlots s.pushes s.config)
    (named : pkt.dataId.toNat = idx.val)
    (nonempty : (s.config.slots idx).configLen ≠ 0)
    (builds : s.config.clearOut.buildConfigPkt pkt =
      .ok ({ s.config.clearOut with io := io }.setSlot idx
          { s.config.slots idx with isTransfered := true },
        { (s.config.slots idx).packet (s.config.payload idx) with
          dstDeviceId := pkt.deviceId
          dstDeviceType := pkt.deviceType
          dataType := pkt.dataType
          routeInfo := reverseRoute pkt.routeInfo }))
    (out : io.out = []) :
    s.BoundAnswer env pkt srcId ↔
      (s.config.slots idx).active = true ∧
        (s.config.slots idx).dstDeviceId = pkt.deviceId := by
  have inside : pkt.dataId.toNat < configSlotCount := named ▸ idx.isLt
  obtain rfl : idx = ⟨pkt.dataId.toNat, inside⟩ := Fin.ext named.symm
  obtain ⟨dstId, ack, answer⟩ :=
    @RouteService.handleRouteInfo_sends s env pkt srcId _ _ served kind builds
      nonempty
  constructor
  · rintro ⟨after, same, bound, -⟩
    rw [answer] at same
    cases same
    rw [configsOf_sendConfig out] at bound
    obtain ⟨_, active, device, -⟩ := bound _ List.mem_cons_self
    exact ⟨active, device⟩
  · rintro ⟨active, device⟩
    obtain ⟨short, member⟩ := pushed _ nonempty
    refine ⟨_, answer, ?_, ?_, ?_, fun _ => rfl⟩
    · rw [configsOf_sendConfig out]
      intro sent here
      rw [List.mem_singleton.mp here]
      refine ⟨inside, active, device, rfl, rfl, _, member, device, rfl, ?_⟩
      have length : (s.config.payload ⟨pkt.dataId.toNat, inside⟩).length =
          (s.config.slots ⟨pkt.dataId.toNat, inside⟩).configLen.toNat :=
        slice_length _ _ _
      have taken := @Buffer.take_ofData maxConfigSize
        (s.config.payload ⟨pkt.dataId.toNat, inside⟩) (by omega)
      rw [length] at taken
      exact taken
    · intro sent here
      cases here
    · rw [configsOf_sendConfig out]
      intro none
      cases none

/-- A configuration that is sent is bound to the right slot exactly when the
slot that the route names is one of its device. -/
theorem RouteService.boundAnswer_config
    (served : RouteService.Served env pkt)
    (kind : pkt.dataType = dataTypeConfig)
    (pushed : PushedSlots s.pushes s.config) :
    s.BoundAnswer env pkt srcId ↔ s.ConfigAddressed pkt := by
  by_cases inside : pkt.dataId.toNat < configSlotCount
  swap
  · exact iff_of_false
      (RouteService.not_boundAnswer_config served kind inside)
      fun addressed => inside addressed.1
  let idx : Fin configSlotCount := ⟨pkt.dataId.toNat, inside⟩
  have named : pkt.dataId.toNat = idx.val := rfl
  cases transfered : (s.config.slots idx).isTransfered with
  | true =>
      obtain ⟨built, builds, none⟩ :=
        @buildConfigPkt_transfered pkt s.config.clearOut idx named transfered
      exact iff_of_true
        ((RouteService.boundAnswer_silent served kind builds none rfl).mpr rfl)
        ⟨inside, .inl transfered⟩
  | false =>
      cases readable : (s.config.io.read (configSlotPsramAddr idx)
          (s.config.slots idx).configLen.toNat).2.isOk with
      | false =>
          obtain ⟨io, built, builds, out, none⟩ :=
            @buildConfigPkt_unreadable pkt s.config.clearOut idx named
              transfered readable
          exact iff_of_true
            ((RouteService.boundAnswer_silent served kind builds none out).mpr
              rfl)
            ⟨inside, .inr (.inl readable)⟩
      | true =>
          obtain ⟨io, builds, out⟩ :=
            @buildConfigPkt_read pkt s.config.clearOut idx named transfered
              readable
          have addressed : s.ConfigAddressed pkt ↔
              (s.config.slots idx).active = true ∧
                (s.config.slots idx).dstDeviceId = pkt.deviceId ∧
                  (s.config.slots idx).configLen ≠ 0 := by
            constructor
            · rintro ⟨_, bad | bad | good⟩
              · rw [transfered] at bad
                cases bad
              · rw [readable] at bad
                cases bad
              · exact good
            · exact fun good => ⟨inside, .inr (.inr good)⟩
          rw [addressed]
          by_cases empty : (s.config.slots idx).configLen = 0
          · -- an empty slot is marked as sent though nothing is
            rw [RouteService.boundAnswer_silent served kind builds empty out]
            refine iff_of_false (fun slots => ?_) fun good => good.2.2 empty
            have marked := congrFun slots idx
            simp only [ConfigPlane.setSlot, Function.update_self] at marked
            have flag := congrArg ConfigSlot.isTransfered marked
            rw [transfered] at flag
            cases flag
          · rw [RouteService.boundAnswer_sends served kind pushed named empty
              builds out]
            simp only [empty, ne_eq, not_false_eq_true, and_true]

section Reports

variable {plane : ReportPlane} {idx : Fin dataSlotCount}

theorem buildReportReceivedPkt_transfered
    (named : pkt.dataId.toNat = idx.val)
    (transfered : (plane.slots idx).isTransfered = true) :
    ∃ built, plane.buildReportReceivedPkt pkt = .ok (plane, built) ∧
      built.dataId = 0 := by
  have inside : pkt.dataId.toNat < dataSlotCount := named ▸ idx.isLt
  obtain rfl : idx = ⟨pkt.dataId.toNat, inside⟩ := Fin.ext named.symm
  unfold ReportPlane.buildReportReceivedPkt
  rw [dif_pos inside]
  dsimp only
  rw [if_pos transfered]
  exact ⟨_, rfl, rfl⟩

theorem buildReportReceivedPkt_fresh
    (named : pkt.dataId.toNat = idx.val)
    (fresh : (plane.slots idx).isTransfered = false) :
    plane.buildReportReceivedPkt pkt =
      .ok (plane.setSlot idx { plane.slots idx with isTransfered := true },
        { genDeviceId := pkt.deviceId
          dataId := (plane.slots idx).dataId
          hdr := { status := statusSuccess }
          routeInfo := reverseRoute pkt.routeInfo }) := by
  have inside : pkt.dataId.toNat < dataSlotCount := named ▸ idx.isLt
  obtain rfl : idx = ⟨pkt.dataId.toNat, inside⟩ := Fin.ext named.symm
  unfold ReportPlane.buildReportReceivedPkt
  rw [dif_pos inside]
  dsimp only
  rw [if_neg (by simp [fresh])]

/-- What a gateway does with a route for a report, once it has its packet. -/
theorem RouteService.handleRouteInfo_report
    {report : ReportPlane} {built : ReportReceived}
    (served : RouteService.Served env pkt)
    (kind : pkt.dataType = dataTypeReport)
    (builds : s.report.clearOut.buildReportReceivedPkt pkt =
      .ok (report, built)) :
    ∃ after, s.handleRouteInfo env pkt srcId = .ok after ∧
      after.config = s.config.clearOut ∧ after.report.slots = report.slots ∧
        (report.io.out = [] →
          receivedOf after.report.io.out =
            if built.dataId = 0 then [] else
              [{ built with hdr := { built.hdr with
                  deviceType := env.deviceType.code
                  priority := packetPriorityHigh
                  trackingId := 0
                  deviceId := (built.routeInfo firstHop).deviceId } }]) := by
  obtain ⟨accepted, success, role, sender⟩ := served
  have other : pkt.dataType ≠ dataTypeConfig := by
    rw [kind]
    decide
  unfold RouteService.handleRouteInfo
  rw [if_neg other, if_pos kind]
  dsimp only
  unfold ReportPlane.sendRoutedReport
  dsimp only
  rw [if_neg (by simp [accepted, success, role, sender, kind]), builds]
  dsimp only
  by_cases none : built.dataId = 0
  · rw [if_pos none]
    refine ⟨_, rfl, rfl, rfl, fun out => ?_⟩
    rw [if_pos none]
    simp [receivedOf, ReportPlane.put, Io.put, out]
  · rw [if_neg none]
    refine ⟨_, rfl, rfl, rfl, fun out => ?_⟩
    rw [if_neg none]
    simp [receivedOf, ReportPlane.put, ReportPlane.sendReportReceived, Io.put,
      out]

theorem RouteService.not_boundAnswer_report
    (served : RouteService.Served env pkt)
    (kind : pkt.dataType = dataTypeReport)
    (outside : ¬ pkt.dataId.toNat < dataSlotCount) :
    ¬ s.BoundAnswer env pkt srcId := by
  rintro ⟨after, answer, -⟩
  obtain ⟨accepted, success, role, sender⟩ := served
  have other : pkt.dataType ≠ dataTypeConfig := by
    rw [kind]
    decide
  unfold RouteService.handleRouteInfo at answer
  rw [if_neg other, if_pos kind] at answer
  dsimp only at answer
  unfold ReportPlane.sendRoutedReport
    ReportPlane.buildReportReceivedPkt at answer
  dsimp only at answer
  rw [if_neg (by simp [accepted, success, role, sender, kind]),
    dif_neg outside] at answer
  cases answer

/-- The answer for a report that was sent before is only the acknowledgement. -/
theorem RouteService.boundAnswer_transfered
    {idx : Fin dataSlotCount} (served : RouteService.Served env pkt)
    (kind : pkt.dataType = dataTypeReport)
    (named : pkt.dataId.toNat = idx.val)
    (transfered : (s.report.slots idx).isTransfered = true) :
    s.BoundAnswer env pkt srcId := by
  obtain ⟨built, builds, none⟩ :=
    @buildReportReceivedPkt_transfered pkt s.report.clearOut idx named
      transfered
  obtain ⟨after, answer, config, slots, sent⟩ :=
    @RouteService.handleRouteInfo_report s env pkt srcId _ _ served kind builds
  have nothing := sent rfl
  rw [if_pos none] at nothing
  refine ⟨after, answer, ?_, ?_, fun _ => ?_, fun _ => slots⟩
  · rw [config]
    intro sent member
    cases member
  · rw [nothing]
    intro sent member
    cases member
  · rw [config]
    rfl

/-- That for another one is bound if its slot is one of the device and was
answered. -/
theorem RouteService.boundAnswer_fresh
    {idx : Fin dataSlotCount} (served : RouteService.Served env pkt)
    (kind : pkt.dataType = dataTypeReport)
    (named : pkt.dataId.toNat = idx.val)
    (fresh : (s.report.slots idx).isTransfered = false) :
    s.BoundAnswer env pkt srcId ↔
      (s.report.slots idx).active = true ∧
        (s.report.slots idx).genDeviceId = pkt.deviceId ∧
          (s.report.slots idx).dataId ≠ 0 ∧ s.answered idx = true := by
  have inside : pkt.dataId.toNat < dataSlotCount := named ▸ idx.isLt
  obtain rfl : idx = ⟨pkt.dataId.toNat, inside⟩ := Fin.ext named.symm
  have builds :=
    @buildReportReceivedPkt_fresh pkt s.report.clearOut _ named fresh
  obtain ⟨after, answer, config, slots, sent⟩ :=
    @RouteService.handleRouteInfo_report s env pkt srcId _ _ served kind builds
  have packets := sent rfl
  have same : s.report.clearOut.slots = s.report.slots := rfl
  dsimp only at packets
  rw [same] at packets
  constructor
  · rintro ⟨found, equal, -, bound, -, unchanged⟩
    rw [answer] at equal
    cases equal
    by_cases empty : (s.report.slots ⟨pkt.dataId.toNat, inside⟩).dataId = 0
    · -- an empty slot is marked as sent though nothing is
      exfalso
      rw [if_pos empty] at packets
      have marked := congrFun (slots.symm.trans (unchanged packets))
        ⟨pkt.dataId.toNat, inside⟩
      simp only [ReportPlane.setSlot, Function.update_self] at marked
      have flag := congrArg ReportSlot.isTransfered marked
      rw [fresh] at flag
      cases flag
    · rw [if_neg empty] at packets
      rw [packets] at bound
      obtain ⟨_, active, device, -, -, accepted⟩ := bound _ List.mem_cons_self
      exact ⟨active, device, empty, accepted⟩
  · rintro ⟨active, device, nonempty, accepted⟩
    rw [if_neg nonempty] at packets
    refine ⟨after, answer, ?_, ?_, fun _ => ?_, ?_⟩
    · rw [config]
      intro sent member
      cases member
    · rw [packets]
      intro sent member
      rw [List.mem_singleton.mp member]
      exact ⟨inside, active, device, rfl, rfl, accepted⟩
    · rw [config]
      rfl
    · rw [packets]
      intro none
      cases none

/-- A `REPORT_RECEIVED` that is sent is bound to the right slot exactly when
the slot that the route names is one of its device and was answered. -/
theorem RouteService.boundAnswer_report
    (served : RouteService.Served env pkt)
    (kind : pkt.dataType = dataTypeReport) :
    s.BoundAnswer env pkt srcId ↔ s.ReportAddressed pkt := by
  by_cases inside : pkt.dataId.toNat < dataSlotCount
  swap
  · exact iff_of_false
      (RouteService.not_boundAnswer_report served kind inside)
      fun addressed => inside addressed.1
  let idx : Fin dataSlotCount := ⟨pkt.dataId.toNat, inside⟩
  have named : pkt.dataId.toNat = idx.val := rfl
  cases transfered : (s.report.slots idx).isTransfered with
  | true =>
      exact iff_of_true
        (RouteService.boundAnswer_transfered served kind named transfered)
        ⟨inside, .inl transfered⟩
  | false =>
      rw [RouteService.boundAnswer_fresh served kind named transfered]
      constructor
      · exact fun good => ⟨inside, .inr good⟩
      · rintro ⟨_, bad | good⟩
        · rw [transfered] at bad
          cases bad
        · exact good

end Reports

/-- The condition on the slot that a `ROUTE_INFO` names. -/
def RouteService.Addressed
    (s : RouteService) (env : Env) (pkt : RouteInfo) : Prop :=
  RouteService.Served env pkt →
    (pkt.dataType = dataTypeConfig → s.ConfigAddressed pkt) ∧
      (pkt.dataType = dataTypeReport → s.ReportAddressed pkt)

/-- In every run of a gateway in which the PSRAM takes every `AT#CONFIG`, a
`ROUTE_INFO` is answered out of the right slot, and changes none otherwise,
exactly when it is meant for others, names no data, or names a live slot of
its device. -/
theorem RouteService.boundAnswer_iff
    {configIo reportIo : Io}
    (reach : Trace.Reach RouteService.step RouteService.Admits
      { config := { io := configIo }, report := { io := reportIo } } s) :
    s.BoundAnswer env pkt srcId ↔ s.Addressed env pkt := by
  by_cases served : RouteService.Served env pkt
  swap
  · exact iff_of_true (RouteService.boundAnswer_unserved served)
      fun bad => absurd bad served
  by_cases config : pkt.dataType = dataTypeConfig
  · rw [RouteService.boundAnswer_config served config (RouteService.pushed reach)]
    constructor
    · refine fun addressed _ => ⟨fun _ => addressed, fun report => ?_⟩
      rw [config] at report
      cases report
    · exact fun addressed => (addressed served).1 config
  · by_cases report : pkt.dataType = dataTypeReport
    · rw [RouteService.boundAnswer_report served report]
      constructor
      · exact fun addressed _ =>
          ⟨fun bad => absurd bad config, fun _ => addressed⟩
      · exact fun addressed => (addressed served).2 report
    · exact iff_of_true (RouteService.boundAnswer_other served config report)
        fun _ => ⟨fun bad => absurd bad config, fun bad => absurd bad report⟩

end Answers

section Samples

/-- An anchor's answer to a discovery of device `deviceId`, for slot 0. -/
def routeFor (deviceId : UInt16) : RouteInfo :=
  { hdr := { deviceType := 2, deviceId := 1, status := statusSuccess }
    deviceId := deviceId, deviceType := 3, dataType := dataTypeConfig
    dataId := 0, routeInfo := fun _ => {} }

/-- The answer for the device that the configuration was pushed for. -/
theorem boundAnswer_own :
    Trace.Ends RouteService.step {} [.config (pushGateway, firstPush)]
      fun s => s.BoundAnswer pushGateway (routeFor 5) 2 := by
  obtain ⟨s, executed, active, device, length⟩ :
      Trace.Ends RouteService.step {} [.config (pushGateway, firstPush)]
        fun s => (s.config.slots ⟨0, by decide⟩).active = true ∧
          (s.config.slots ⟨0, by decide⟩).dstDeviceId = 5 ∧
            (s.config.slots ⟨0, by decide⟩).configLen ≠ 0 := by
    decide +kernel
  refine ⟨s, executed, ?_⟩
  have admitted : RouteService.Admits {} (.config (pushGateway, firstPush)) := by
    refine ⟨rfl, fun command parsed bad => ?_⟩
    have taken : (ConfigPlane.admitConfig pushGateway
        "\"A\",\"1\",\"1\",\"4C667A2E\",\"07\"".toList).all
          (fun command =>
            ((({} : RouteService).config.clearOut.validateAtConfig
              command.config command.payload).2 != some .eio)) = true := by
      decide +kernel
    rw [parsed] at taken
    simp [bad] at taken
  simp only [Trace.run] at executed
  split at executed
  · next stored storing =>
    rw [Except.ok.injEq] at executed
    subst executed
    have reach : Trace.Reach RouteService.step RouteService.Admits
        { config := { io := {} }, report := { io := {} } } stored :=
      .next .refl admitted storing
    refine (RouteService.boundAnswer_iff reach).mpr fun _ => ⟨fun _ => ?_, ?_⟩
    · exact ⟨by decide, .inr (.inr ⟨active, device, length⟩)⟩
    · intro report
      cases report
  · cases executed

/-- An answer about another device takes the configuration to that device. -/
theorem boundAnswer_foreign :
    Trace.Ends RouteService.step {} [.config (pushGateway, firstPush)]
      fun s => ¬ s.BoundAnswer pushGateway (routeFor 6) 2 := by
  obtain ⟨s, executed, device, sends⟩ :
      Trace.Ends RouteService.step {} [.config (pushGateway, firstPush)]
        fun s => (s.config.slots ⟨0, by decide⟩).dstDeviceId = 5 ∧
          (s.handleRouteInfo pushGateway (routeFor 6) 2).toOption.any
            (fun after => configsOf after.config.io.out ≠ []) = true := by
    decide +kernel
  refine ⟨s, executed, ?_⟩
  rintro ⟨after, answer, bound, -⟩
  rw [answer] at sends
  obtain ⟨sent, member⟩ :=
    List.exists_mem_of_ne_nil _ (by simpa [Except.toOption] using sends)
  obtain ⟨_, _, own, _⟩ := bound sent member
  have wrong : (5 : UInt16) = 6 := device.symm.trans own
  cases wrong

end Samples

end DectMesh
