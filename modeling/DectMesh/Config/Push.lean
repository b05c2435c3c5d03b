import DectMesh.Config.Store

/-!
# Configuration pushes on the gateway

The most recent push to every device is kept until its result line was put
out, unless one of the branches that give a slot up is taken.
-/

namespace DectMesh

open ByteStore

/-- An `AT#CONFIG` that was answered `OK`; `reported` tells whether a result
line with its id was put out since. -/
structure ConfigPush where
  configId : UInt16
  payload : List UInt8
  reported : Bool := false
  deriving DecidableEq

/-- The most recent push to every device. -/
abbrev LatestPushes := UInt16 → UInt8 → Option ConfigPush

/-- A result line for the device and the id is among the actions. -/
def reportsPush
    (env : Env) (out : List Action) (deviceId configId : UInt16) : Bool :=
  match env.findMesh fun entry => entry.deviceId = deviceId with
  | none => false
  | some i =>
      out.any fun action =>
        match action with
        | .line (.configRes sn id _) =>
            sn = (env.meshDevices i).serialNum ∧ id = configId
        | _ => false

namespace ConfigPlane

variable (s : ConfigPlane) (env : Env)

/-- Some active slot of the device has the push's id and bytes. -/
def Holds (deviceId : UInt16) (deviceType : UInt8) (push : ConfigPush) :
    Prop :=
  ∃ idx,
    (s.slots idx).active = true ∧
      (s.slots idx).dstDeviceId = deviceId ∧
      (s.slots idx).dstDeviceType = deviceType ∧
      (s.slots idx).configId = push.configId ∧
      s.payload idx = push.payload

/-- The command that an event answers with `OK`. -/
def acceptedPush : ConfigEvent → Option ConfigCommand
  | .cmdConfig args => (s.clearOut.storeCommand env args).2
  | _ => none

end ConfigPlane

/-- A gateway's configuration plane with the latest pushes to every device. -/
structure PushRun where
  plane : ConfigPlane
  latest : LatestPushes

/-- The latest pushes after an event: result lines are noted, and an accepted
command becomes the latest push to its device. -/
def PushRun.note
    (run : PushRun) (env : Env) (event : ConfigEvent) (after : ConfigPlane) :
    LatestPushes := fun deviceId deviceType =>
  let noted :=
    (run.latest deviceId deviceType).map fun push =>
      { push with
        reported :=
          push.reported ||
            reportsPush env after.io.out deviceId push.configId }
  match run.plane.acceptedPush env event with
  | none => noted
  | some command =>
      if command.config.deviceId = deviceId ∧
          command.config.deviceType = deviceType then
        some
          { configId := command.config.dataId, payload := command.payload }
      else
        noted

def pushStep (run : PushRun) (event : Env × ConfigEvent) :
    Except Fault PushRun :=
  match run.plane.step event.1 event.2 with
  | .error fault => .error fault
  | .ok after =>
      .ok { plane := after, latest := run.note event.1 event.2 after }

section Conditions

variable (env : Env)

/-- `send_cmd_configres` does not free the slot: its loop finds the device, or
does not run at all. -/
def ConfigPlane.KnownDevice (deviceId : UInt16) : Prop :=
  env.meshCount = 0 ∨
    (env.findMesh fun entry => entry.deviceId = deviceId).isSome = true

/-- `send_cmd_configres` puts its line out. -/
def ConfigPlane.LineReaches (s : ConfigPlane) (deviceId : UInt16) : Prop :=
  (env.findMesh fun entry => entry.deviceId = deviceId).isSome = true ∧
    s.io.uart.head? ≠ some .dropped

/-- The slot `validate_at_config` uses. -/
def ConfigPlane.pushTarget
    (s : ConfigPlane) (config : SlmAtStructure) :
    Option (Fin configSlotCount) :=
  match s.findDeviceSlot config.deviceId config.deviceType with
  | some idx => some idx
  | none => s.freeSlot

/-- A command that does not destroy an earlier push or get lost itself. -/
structure KeepsCommand
    (s : ConfigPlane) (command : ConfigPlane.ConfigCommand) : Prop where
  /-- no slot holds the device under another device type -/
  oneType :
    ∀ idx, (s.slots idx).active = true →
      (s.slots idx).dstDeviceId = command.config.deviceId →
        (s.slots idx).dstDeviceType = command.config.deviceType
  /-- where the write is skipped, the slot already holds this very push -/
  skipped :
    ∀ idx, s.pushTarget command.config = some idx →
      (s.slots idx).holdsSame command.config.dataCrc32
          command.config.dataLen.toNat = true →
        (s.slots idx).dstDeviceId = command.config.deviceId ∧
          (s.slots idx).dstDeviceType = command.config.deviceType ∧
          (s.slots idx).configId = command.config.dataId ∧
          s.payload idx = command.payload
  /-- a slot in use is not lost to a failing write -/
  written :
    ∀ idx,
      s.findDeviceSlot command.config.deviceId command.config.deviceType =
          some idx →
        (s.slots idx).holdsSame command.config.dataCrc32
            command.config.dataLen.toNat = false →
          (s.io.write (configSlotPsramAddr idx) command.payload).2 = none

/-- In the second loop of the tick, every slot without a route is freed only
after its result line was put out. -/
def SendLoopReports : Nat → List (Fin configSlotCount) → ConfigPlane → Prop
  | 0, _, _ => True
  | _ + 1, [], _ => True
  | budget + 1, idx :: rest, s =>
      if (s.slots idx).active ∧ !(s.slots idx).isSent then
        (env.findHopNum (s.slots idx).dstDeviceId
              (s.slots idx).dstDeviceType = 0xFF →
            s.LineReaches env (s.slots idx).dstDeviceId) ∧
          SendLoopReports budget rest (s.gatewaySendSlot env idx)
      else
        SendLoopReports (budget + 1) rest s

instance SendLoopReports.decidable (env : Env) :
    ∀ budget slots s, Decidable (SendLoopReports env budget slots s)
  | 0, slots, _ => .isTrue (by cases slots <;> trivial)
  | _ + 1, [], _ => .isTrue trivial
  | budget + 1, idx :: rest, s =>
      have := decidable env budget rest (s.gatewaySendSlot env idx)
      have := decidable env (budget + 1) rest s
      have : Decidable (s.LineReaches env (s.slots idx).dstDeviceId) :=
        inferInstanceAs (Decidable (_ ∧ _))
      inferInstanceAs (Decidable
        (if (s.slots idx).active ∧ !(s.slots idx).isSent then
          (_ = _ → s.LineReaches env (s.slots idx).dstDeviceId) ∧
            SendLoopReports env budget rest (s.gatewaySendSlot env idx)
        else
          SendLoopReports env (budget + 1) rest s))

/-- A slot whose push was sent and not yet reported, with its time over. -/
def ConfigPlane.TimedOut (s : ConfigPlane) (idx : Fin configSlotCount) : Prop :=
  (s.slots idx).active = true ∧ (s.slots idx).isSent = true ∧
    (s.slots idx).isApplied = false ∧
    (s.slots idx).timeout.expired env.now = true

/-- A tick that frees no slot without a result line. -/
structure KeepsTick (s : ConfigPlane) : Prop where
  timedOut :
    ∀ idx, s.TimedOut env idx →
      ConfigPlane.KnownDevice env (s.slots idx).dstDeviceId
  noRoute :
    SendLoopReports env processConfigSlots allConfigSlots
      (allConfigSlots.foldl (fun s idx => s.reportTimeout env idx) s)

/-- The event does not take a branch that gives a push up. -/
def KeepsPush (s : ConfigPlane) : ConfigEvent → Prop
  | .cmdConfig args =>
      ∀ command, ConfigPlane.admitConfig env args = some command →
        KeepsCommand s.clearOut command
  | .configAck pkt =>
      env.accepts pkt.hdr = true → isDownstreamType pkt.hdr.deviceType = true →
        ConfigPlane.acceptedStatus pkt.hdr.status = true →
          ∀ idx, s.clearOut.findConfigSlot pkt.dstDeviceId = some idx →
            pkt.dataId = (s.slots idx).configId
  | .configReceived pkt _ =>
      env.accepts pkt.hdr = true → isDownstreamType pkt.hdr.deviceType = true →
        ∀ idx, s.clearOut.findConfigSlot pkt.dstDeviceId = some idx →
          ConfigPlane.KnownDevice env pkt.dstDeviceId
  | .tick => s.activeConfigCount ≠ 0 → KeepsTick env s.clearOut
  | _ => True

/-- What surrounds a gateway's configuration plane between the restarts: the
other modules stay out of its memory, and no other host line leaves a pending
answer of type `DATA_TYPE_CONFIG`. -/
def GatewayEvent (s : ConfigPlane) : ConfigEvent → Prop
  | .restart => False
  | .otherPending pending => pending.dataType ≠ dataTypeConfig
  | .elsewhere psram _ =>
      AgreeOn psram.mem s.io.psram.mem psramConfigBase configRegionEnd
  | _ => True

end Conditions

/-- The invariant of a gateway while it handles an event. -/
structure PushesKept
    (env : Env) (latest : LatestPushes) (s : ConfigPlane) : Prop where
  distinct :
    ∀ left right, (s.slots left).active = true →
      (s.slots right).active = true →
        (s.slots left).dstDeviceId = (s.slots right).dstDeviceId →
          left = right
  short :
    ∀ idx, (s.slots idx).active = true →
      (s.slots idx).configLen.toNat ≤ maxConfigSize
  pending : s.pendingAck.dataType ≠ dataTypeConfig
  kept :
    ∀ deviceId deviceType push, latest deviceId deviceType = some push →
      push.reported = true ∨
        reportsPush env s.io.out deviceId push.configId = true ∨
        s.Holds deviceId deviceType push

section Reports

variable {env : Env} {deviceId configId : UInt16} {out out' : List Action}

theorem reportsPush_mono
    (more : ∀ action ∈ out, action ∈ out')
    (reported : reportsPush env out deviceId configId = true) :
    reportsPush env out' deviceId configId = true := by
  unfold reportsPush at reported ⊢
  split at reported
  · cases reported
  · rw [List.any_eq_true] at reported ⊢
    obtain ⟨action, member, shown⟩ := reported
    exact ⟨action, more action member, shown⟩

/-- A result line reports its push. -/
theorem reportsPush_of_line
    {i : Fin maxDevices} {status : UInt8}
    (known : (env.findMesh fun entry => entry.deviceId = deviceId) = some i)
    (member :
      .line (.configRes (env.meshDevices i).serialNum configId status) ∈ out) :
    reportsPush env out deviceId configId = true := by
  unfold reportsPush
  rw [known]
  exact List.any_eq_true.mpr ⟨_, member, by simp⟩

end Reports

section Invariant

variable {env : Env} {latest : LatestPushes} {s s' : ConfigPlane}

theorem ConfigPlane.Holds.congr
    {deviceId : UInt16} {deviceType : UInt8} {push : ConfigPush}
    (holds : s.Holds deviceId deviceType push) (same : SameContent s s') :
    s'.Holds deviceId deviceType push := by
  obtain ⟨idx, active, device, kind, id, bytes⟩ := holds
  obtain ⟨sameActive, sameDevice, sameKind, sameId, _⟩ := same.fields idx
  exact ⟨idx, sameActive.trans active, sameDevice.trans device,
    sameKind.trans kind, sameId.trans id, (same.payload idx).trans bytes⟩

/-- Progress flags and outputs are not part of the invariant. -/
theorem PushesKept.congr
    (inv : PushesKept env latest s) (same : SameContent s s') :
    PushesKept env latest s' where
  distinct := by
    intro left right leftActive rightActive device
    obtain ⟨sameLeft, sameLeftDevice, _⟩ := same.fields left
    obtain ⟨sameRight, sameRightDevice, _⟩ := same.fields right
    rw [sameLeft] at leftActive
    rw [sameRight] at rightActive
    rw [sameLeftDevice, sameRightDevice] at device
    exact inv.distinct left right leftActive rightActive device
  short := by
    intro idx active
    obtain ⟨sameActive, _, _, _, sameLength, _⟩ := same.fields idx
    rw [sameActive] at active
    rw [sameLength]
    exact inv.short idx active
  pending := by
    rw [same.pending]
    exact inv.pending
  kept := by
    intro deviceId deviceType push sent
    rcases inv.kept deviceId deviceType push sent with
      reported | reported | holds
    · exact .inl reported
    · exact .inr (.inl (reportsPush_mono same.out reported))
    · exact .inr (.inr (holds.congr same))

/-- A slot may be given up once its push is reported. -/
theorem PushesKept.freed
    {idx : Fin configSlotCount} (inv : PushesKept env latest s)
    (reported : (s.slots idx).active = true →
      reportsPush env s.io.out (s.slots idx).dstDeviceId
        (s.slots idx).configId = true) :
    PushesKept env latest (s.configSlotFree idx) := by
  have freed : ((s.configSlotFree idx).slots idx).active = false := by
    simp [ConfigPlane.configSlotFree, ConfigPlane.setSlot, ConfigSlot.freed]
  have others (other : Fin configSlotCount) (different : other ≠ idx) :
      (s.configSlotFree idx).slots other = s.slots other := by
    simp [ConfigPlane.configSlotFree, ConfigPlane.setSlot,
      Function.update_of_ne different]
  constructor
  · intro left right leftActive rightActive device
    have leftOther : left ≠ idx := by
      rintro rfl
      rw [freed] at leftActive
      cases leftActive
    have rightOther : right ≠ idx := by
      rintro rfl
      rw [freed] at rightActive
      cases rightActive
    rw [others left leftOther] at leftActive device
    rw [others right rightOther] at rightActive device
    exact inv.distinct left right leftActive rightActive device
  · intro other active
    have different : other ≠ idx := by
      rintro rfl
      rw [freed] at active
      cases active
    rw [others other different] at active ⊢
    exact inv.short other active
  · exact inv.pending
  · intro deviceId deviceType push sent
    rcases inv.kept deviceId deviceType push sent with
      done | done | ⟨other, active, device, kind, id, bytes⟩
    · exact .inl done
    · exact .inr (.inl done)
    · by_cases same : other = idx
      · subst same
        have shown := reported active
        rw [device, id] at shown
        exact .inr (.inl shown)
      · refine .inr (.inr ⟨other, ?_⟩)
        unfold ConfigPlane.payload
        rw [others other same]
        exact ⟨active, device, kind, id, bytes⟩

end Invariant

namespace ConfigPlane

variable {env : Env} {latest : LatestPushes} {s s' : ConfigPlane}

section Results

/-- The result line for a known device leaves its slot in place. -/
theorem sendCmdConfigres_same
    {deviceId : UInt16} {status : UInt8} (known : KnownDevice env deviceId) :
    SameContent s (s.sendCmdConfigres env deviceId status) := by
  unfold sendCmdConfigres
  split
  · exact .refl s
  · next idx found =>
    split
    · exact .refl s
    · next some_ =>
      split
      · exact (SameContent.sendLine s _).trans (.setSlot rfl)
      · next unknown =>
        rcases known with empty | known
        · exact absurd empty some_
        · rw [unknown] at known
          cases known

/-- A slot is afterwards as before, or applied, or free. -/
theorem sendCmdConfigres_slots
    (deviceId : UInt16) (status : UInt8) (other : Fin configSlotCount) :
    (s.sendCmdConfigres env deviceId status).slots other = s.slots other ∨
      ((s.sendCmdConfigres env deviceId status).slots other).isApplied =
        true ∨
      ((s.sendCmdConfigres env deviceId status).slots other).active =
        false := by
  unfold sendCmdConfigres
  split
  · exact .inl rfl
  · next idx found =>
    by_cases same : other = idx
    · subst same
      split
      · exact .inl rfl
      · split
        · exact .inr (.inl (by simp [setSlot]))
        · exact .inr (.inr (by
            simp [configSlotFree, setSlot, ConfigSlot.freed]))
    · split
      · exact .inl rfl
      · split
        · exact .inl (by simp [setSlot, Function.update_of_ne same, sendLine])
        · exact .inl (by
            simp [configSlotFree, setSlot, Function.update_of_ne same])

/-- A result line that is not dropped reports the push of its device. -/
theorem sendCmdConfigres_reports
    {deviceId : UInt16} {status : UInt8} {idx : Fin configSlotCount}
    (found : s.findConfigSlot deviceId = some idx)
    (reaches : s.LineReaches env deviceId) :
    reportsPush env (s.sendCmdConfigres env deviceId status).io.out deviceId
      (s.slots idx).configId = true := by
  obtain ⟨known, notDropped⟩ := reaches
  obtain ⟨i, device⟩ := Option.isSome_iff_exists.mp known
  have nonempty : env.meshCount ≠ 0 := by
    intro empty
    have inside := (Env.findMesh_some device).1
    omega
  apply reportsPush_of_line device
  unfold sendCmdConfigres
  rw [found]
  simp only [nonempty, if_false, device]
  unfold setSlot sendLine
  exact (Io.txWrite_shown notDropped _) ▸
    List.mem_append_right _ List.mem_cons_self

end Results

section Ticks

theorem reportTimeout_same
    {idx : Fin configSlotCount}
    (known : s.TimedOut env idx →
      KnownDevice env (s.slots idx).dstDeviceId) :
    SameContent s (s.reportTimeout env idx) := by
  unfold reportTimeout
  dsimp only
  split
  · next due =>
    apply sendCmdConfigres_same
    apply known
    simpa [TimedOut] using due
  · exact .refl s

/-- A slot that is still due after a round of the loop was due before. -/
theorem reportTimeout_timedOut
    {idx other : Fin configSlotCount}
    (due : (s.reportTimeout env idx).TimedOut env other) :
    (s.reportTimeout env idx).slots other = s.slots other := by
  unfold reportTimeout at due ⊢
  dsimp only at due ⊢
  split
  · next overdue =>
    rw [if_pos overdue] at due
    rcases sendCmdConfigres_slots (s.slots idx).dstDeviceId statusTimeout
        other with same | applied | free
    · exact same
    · rw [due.2.2.1] at applied
      cases applied
    · rw [due.1] at free
      cases free
  · rfl

theorem reportTimeouts_kept
    (slots : List (Fin configSlotCount)) (inv : PushesKept env latest s)
    (known : ∀ idx, s.TimedOut env idx →
      KnownDevice env (s.slots idx).dstDeviceId) :
    PushesKept env latest
      (slots.foldl (fun s idx => s.reportTimeout env idx) s) := by
  induction slots generalizing s with
  | nil => exact inv
  | cons idx rest inductionHypothesis =>
      apply inductionHypothesis (inv.congr (reportTimeout_same (known idx)))
      intro other due
      have same := reportTimeout_timedOut due
      have before : s.TimedOut env other := by
        unfold TimedOut at due ⊢
        rw [same] at due
        exact due
      rw [same]
      exact known other before

/-- The slot of an active push is the one its result line is about. -/
theorem findConfigSlot_active
    {idx : Fin configSlotCount} (inv : PushesKept env latest s)
    (active : (s.slots idx).active = true) :
    s.findConfigSlot (s.slots idx).dstDeviceId = some idx := by
  cases found : s.findConfigSlot (s.slots idx).dstDeviceId with
  | none => exact absurd rfl (findConfigSlot_none found idx active)
  | some other =>
      obtain ⟨otherActive, device⟩ := findConfigSlot_some found
      rw [inv.distinct other idx otherActive active device]

theorem gatewaySendSlot_kept
    {idx : Fin configSlotCount} (inv : PushesKept env latest s)
    (active : (s.slots idx).active = true)
    (noRoute :
      env.findHopNum (s.slots idx).dstDeviceId
          (s.slots idx).dstDeviceType = 0xFF →
        s.LineReaches env (s.slots idx).dstDeviceId) :
    PushesKept env latest (s.gatewaySendSlot env idx) := by
  unfold gatewaySendSlot
  dsimp only
  split
  · next missing =>
    have reaches := noRoute missing
    have same : SameContent s
        (s.sendCmdConfigres env (s.slots idx).dstDeviceId statusNoRoute) :=
      sendCmdConfigres_same (.inr reaches.1)
    have shown := @sendCmdConfigres_reports env s _ statusNoRoute idx
      (findConfigSlot_active inv active) reaches
    obtain ⟨_, device, _, id, _⟩ := same.fields idx
    apply (inv.congr same).freed
    intro _
    rw [device, id]
    exact shown
  · split
    · split
      · next reading => exact inv.congr (.read reading)
      · next reading =>
        exact inv.congr (((SameContent.read reading).trans
          (sendConfig_same _ _ _ _)).trans (markSent_same idx _))
    · exact inv.congr ((foldl_put_same _ s).trans (markSent_same idx _))

theorem gatewaySendLoop_kept :
    ∀ (budget : Nat) (slots : List (Fin configSlotCount))
      {s : ConfigPlane},
      PushesKept env latest s → SendLoopReports env budget slots s →
        PushesKept env latest (gatewaySendLoop env budget slots s)
  | 0, _, _, inv, _ => by
      unfold gatewaySendLoop
      exact inv
  | _ + 1, [], _, inv, _ => by
      unfold gatewaySendLoop
      exact inv
  | budget + 1, idx :: rest, s, inv, reports => by
      unfold gatewaySendLoop
      unfold SendLoopReports at reports
      split
      · next pending =>
        rw [if_pos pending] at reports
        exact gatewaySendLoop_kept budget rest
          (gatewaySendSlot_kept inv pending.1 reports.1) reports.2
      · next skipped =>
        rw [if_neg skipped] at reports
        exact gatewaySendLoop_kept (budget + 1) rest inv reports

attribute [irreducible] SendLoopReports

theorem gatewayConfigTick_kept
    (inv : PushesKept env latest s) (keeps : KeepsTick env s) :
    PushesKept env latest (s.gatewayConfigTick env) := by
  have expired := reportTimeouts_kept allConfigSlots inv keeps.timedOut
  unfold gatewayConfigTick
  exact gatewaySendLoop_kept processConfigSlots allConfigSlots expired
    keeps.noRoute

theorem configTick_kept
    (role : env.deviceType = .gateway) (inv : PushesKept env latest s)
    (keeps : s.activeConfigCount ≠ 0 → KeepsTick env s) :
    PushesKept env latest (s.configTick env) := by
  unfold configTick
  rw [role]
  split
  · exact inv
  · next pending => exact gatewayConfigTick_kept inv (keeps pending)

end Ticks

section Packets

/-- A gateway takes no configuration from the radio. -/
theorem handleConfig_gateway_same
    {pkt : Config} {srcId : UInt16} (role : env.deviceType = .gateway) :
    SameContent s (s.handleConfig env pkt srcId) := by
  have never (valid : Validated env pkt) : False := by
    simp [Validated, role] at valid
  generalize handled : s.handleConfig env pkt srcId = s'
  cases handleConfig_taken handled with
  | ignored => exact .refl s
  | unranged => exact .put s _
  | answered valid => exact (never valid).elim
  | relayed _ valid => exact (never valid).elim
  | confirmed _ valid => exact (never valid).elim

theorem handleConfigAck_kept
    {pkt : ConfigAck} (role : env.deviceType = .gateway)
    (inv : PushesKept env latest s)
    (keeps : env.accepts pkt.hdr = true →
      isDownstreamType pkt.hdr.deviceType = true →
        acceptedStatus pkt.hdr.status = true →
          ∀ idx, s.findConfigSlot pkt.dstDeviceId = some idx →
            pkt.dataId = (s.slots idx).configId)
    (handled : s.handleConfigAck env pkt = .ok s') :
    PushesKept env latest s' := by
  cases handleConfigAck_taken handled with
  | ignored => exact inv
  | untracked => exact inv.congr (.put s (.untrack pkt.hdr.trackingId))
  | disowned idx _ accepted answer found other =>
      exact absurd (keeps accepted answer.1 answer.2 idx found) other
  | transfered idx anchor => cases role.symm.trans anchor
  | freed idx anchor found => cases role.symm.trans anchor

theorem handleConfigReceived_kept
    {pkt : ConfigReceived} {srcId : UInt16}
    (role : env.deviceType = .gateway) (inv : PushesKept env latest s)
    (keeps : env.accepts pkt.hdr = true →
      isDownstreamType pkt.hdr.deviceType = true →
        ∀ idx, s.findConfigSlot pkt.dstDeviceId = some idx →
          KnownDevice env pkt.dstDeviceId) :
    PushesKept env latest (s.handleConfigReceived env pkt srcId) := by
  generalize handled : s.handleConfigReceived env pkt srcId = s'
  cases handleConfigReceived_taken handled with
  | ignored => exact inv
  | told _ accepted downstream =>
      cases found : s.findConfigSlot pkt.dstDeviceId with
      | none =>
          have unchanged :
              s.sendCmdConfigres env pkt.dstDeviceId pkt.hdr.status = s := by
            unfold sendCmdConfigres
            rw [found]
          rw [unchanged]
          exact inv.congr (.put s _)
      | some idx =>
          have known := keeps accepted downstream idx found
          exact inv.congr ((sendCmdConfigres_same known).trans (.put _ _))
  | passed anchor => cases role.symm.trans anchor

theorem handleConfigReceivedAck_same (pkt : ConfigReceivedAck) :
    SameContent s (s.handleConfigReceivedAck env pkt) := by
  generalize handled : s.handleConfigReceivedAck env pkt = s'
  cases handleConfigReceivedAck_taken handled with
  | ignored => exact .refl s
  | untracked => exact .put s _
  | passed => exact (SameContent.put s _).trans (.put _ _)

end Packets

section Commands

/-- The latest pushes to the other devices. -/
def otherPushes
    (latest : LatestPushes) (config : SlmAtStructure) : LatestPushes :=
  fun deviceId deviceType =>
    if config.deviceId = deviceId ∧ config.deviceType = deviceType then
      none
    else
      latest deviceId deviceType

theorem parseConfig_length
    {args : List Char} {command : ConfigCommand}
    (parsed : parseConfig args = some command) :
    command.payload.length = command.config.dataLen.toNat ∧
      command.config.dataLen.toNat ≤ maxConfigSize := by
  simp only [parseConfig, Option.bind_eq_some_iff] at parsed
  obtain ⟨sn, _, id, _, len, _, crc, _, rest⟩ := parsed
  split at rest
  · cases rest
  · next bounds =>
    simp only [Option.bind_eq_some_iff] at rest
    obtain ⟨hex, _, rest⟩ := rest
    split at rest
    · cases rest
    · simp only [Option.bind_eq_some_iff] at rest
      obtain ⟨payload, _, rest⟩ := rest
      split at rest
      · cases rest
      · next length =>
        cases rest
        have size : maxConfigSize = 128 := rfl
        have narrowed : len.toUInt16.toNat = len.toNat % 65536 :=
          UInt64.toNat_toUInt16 len
        refine ⟨Decidable.not_not.mp length, ?_⟩
        dsimp only
        rw [narrowed]
        omega

theorem admitConfig_length
    {args : List Char} {command : ConfigCommand}
    (admitted : admitConfig env args = some command) :
    command.payload.length = command.config.dataLen.toNat ∧
      command.config.dataLen.toNat ≤ maxConfigSize := by
  unfold admitConfig at admitted
  split at admitted
  · cases admitted
  · split at admitted
    · cases admitted
    · next parsed =>
      have lengths := parseConfig_length parsed
      split at admitted
      · cases admitted
      · split at admitted
        · cases admitted
        · dsimp only at admitted
          split at admitted
          · cases admitted
          · cases admitted
            exact lengths

variable {idx : Fin configSlotCount} {config : SlmAtStructure}
variable {payload : List UInt8}

/-- A push took a slot over that was free or held the same device. -/
theorem PushesKept.replaced
    {slot : ConfigSlot} (inv : PushesKept env latest s)
    (target : (s.slots idx).active = true →
      (s.slots idx).dstDeviceId = config.deviceId ∧
        (s.slots idx).dstDeviceType = config.deviceType)
    (alone : ∀ other, other ≠ idx → (s.slots other).active = true →
      (s.slots other).dstDeviceId ≠ config.deviceId)
    (slots : s'.slots = Function.update s.slots idx slot)
    (device : slot.dstDeviceId = config.deviceId)
    (length : slot.configLen.toNat ≤ maxConfigSize)
    (pending : s'.pendingAck = s.pendingAck)
    (out : s'.io.out = s.io.out)
    (others : ∀ other, other ≠ idx → (s.slots other).active = true →
      slice s'.io.psram.mem (configSlotPsramAddr other)
        (s.slots other).configLen.toNat = s.payload other) :
    PushesKept env (otherPushes latest config) s' where
  distinct := by
    intro left right leftActive rightActive same
    rw [slots] at leftActive rightActive same
    by_cases leftHere : left = idx
    · by_cases rightHere : right = idx
      · rw [leftHere, rightHere]
      · subst leftHere
        rw [Function.update_of_ne rightHere] at rightActive same
        rw [Function.update_self, device] at same
        exact absurd same.symm (alone right rightHere rightActive)
    · rw [Function.update_of_ne leftHere] at leftActive same
      by_cases rightHere : right = idx
      · subst rightHere
        rw [Function.update_self, device] at same
        exact absurd same (alone left leftHere leftActive)
      · rw [Function.update_of_ne rightHere] at rightActive same
        exact inv.distinct left right leftActive rightActive same
  short := by
    intro other active
    rw [slots] at active ⊢
    by_cases here : other = idx
    · subst here
      rw [Function.update_self]
      exact length
    · rw [Function.update_of_ne here] at active ⊢
      exact inv.short other active
  pending := by
    rw [pending]
    exact inv.pending
  kept := by
    intro deviceId deviceType push sent
    unfold otherPushes at sent
    split at sent
    · cases sent
    · next different =>
      rcases inv.kept deviceId deviceType push sent with
        done | done | ⟨other, active, otherDevice, otherKind, id, bytes⟩
      · exact .inl done
      · exact .inr (.inl (out ▸ done))
      · by_cases here : other = idx
        · subst here
          obtain ⟨sameDevice, sameKind⟩ := target active
          exact absurd ⟨sameDevice.symm.trans otherDevice,
            sameKind.symm.trans otherKind⟩ different
        · refine .inr (.inr ⟨other, ?_⟩)
          unfold payload
          rw [slots, Function.update_of_ne here, others other here active]
          exact ⟨active, otherDevice, otherKind, id, bytes⟩

/-- A stored push is held by its slot. -/
theorem storePush_kept
    (inv : PushesKept env latest s)
    (target : (s.slots idx).active = true →
      (s.slots idx).dstDeviceId = config.deviceId ∧
        (s.slots idx).dstDeviceType = config.deviceType)
    (alone : ∀ other, other ≠ idx → (s.slots other).active = true →
      (s.slots other).dstDeviceId ≠ config.deviceId)
    (skipped :
      (s.slots idx).holdsSame config.dataCrc32 config.dataLen.toNat = true →
        (s.slots idx).dstDeviceId = config.deviceId ∧
          (s.slots idx).dstDeviceType = config.deviceType ∧
          (s.slots idx).configId = config.dataId ∧
          s.payload idx = payload)
    (lengths :
      payload.length = config.dataLen.toNat ∧
        config.dataLen.toNat ≤ maxConfigSize)
    (stored : s.storePush idx config payload = (s', none)) :
    PushesKept env (otherPushes latest config) s' ∧
      s'.Holds config.deviceId config.deviceType
        { configId := config.dataId, payload := payload } := by
  have size : maxConfigSize = 128 := rfl
  unfold storePush at stored
  dsimp only at stored
  split at stored
  · next same =>
    have same : (s.slots idx).holdsSame config.dataCrc32
        config.dataLen.toNat = true := same
    obtain ⟨device, kind, id, bytes⟩ := skipped same
    have length : (s.slots idx).configLen.toNat = config.dataLen.toNat := by
      simp [ConfigSlot.holdsSame] at same
      exact same.2
    simp only [Prod.mk.injEq, and_true] at stored
    subst stored
    constructor
    · refine PushesKept.replaced inv target alone rfl device ?_ rfl rfl
        (fun _ _ _ => rfl)
      change (s.slots idx).configLen.toNat ≤ maxConfigSize
      omega
    · refine ⟨idx, ?_⟩
      unfold ConfigPlane.payload at bytes ⊢
      simp [setSlot, pendingSlot, device, kind, id, bytes]
  · split at stored
    · cases stored
    · next io wrote =>
      simp only [Prod.mk.injEq, and_true] at stored
      subst stored
      have mem := Io.write_stored wrote
      have narrowed : config.dataLen.toUInt8.toNat = config.dataLen.toNat := by
        rw [UInt16.toNat_toUInt8]
        omega
      constructor
      · refine PushesKept.replaced inv target alone rfl rfl ?_ rfl
          (Io.write_out_eq wrote) ?_
        · change config.dataLen.toUInt8.toNat ≤ maxConfigSize
          omega
        · intro other different active
          have short := inv.short other active
          unfold ConfigPlane.payload
          rw [mem]
          exact slice_splice_other _ different (by omega) short
      · refine ⟨idx, ?_⟩
        have bytes : slice io.psram.mem (configSlotPsramAddr idx)
            config.dataLen.toUInt8.toNat = payload := by
          rw [mem, narrowed, ← lengths.1]
          exact slice_splice _ _ _
        have slots : Function.update s.slots idx
            (pushedSlot (pendingSlot (s.slots idx)) config) idx =
              pushedSlot (pendingSlot (s.slots idx)) config :=
          Function.update_self ..
        unfold ConfigPlane.payload setSlot
        dsimp only
        rw [slots]
        exact ⟨rfl, rfl, rfl, rfl, bytes⟩

/-- A push that could not be written leaves the other slots alone. -/
theorem storePush_failed
    {errno : Errno} (inv : PushesKept env latest s)
    (free : (s.slots idx).active = false)
    (lengths :
      payload.length = config.dataLen.toNat ∧
        config.dataLen.toNat ≤ maxConfigSize)
    (failed : s.storePush idx config payload = (s', some errno)) :
    PushesKept env latest s' := by
  unfold storePush at failed
  dsimp only at failed
  split at failed
  · cases failed
  · split at failed
    · next io errno wrote =>
      simp only [Prod.mk.injEq] at failed
      obtain ⟨rfl, _⟩ := failed
      obtain ⟨written, mem⟩ := Io.write_failed wrote
      have slots : (ConfigPlane.configSlotFree
          { s.setSlot idx (pushedSlot (pendingSlot (s.slots idx)) config) with
            io := io } idx).slots =
          Function.update s.slots idx
            (pushedSlot (pendingSlot (s.slots idx)) config).freed := by
        simp [configSlotFree, setSlot]
      have unheld (other : Fin configSlotCount)
          (active : (Function.update s.slots idx
            (pushedSlot (pendingSlot (s.slots idx)) config).freed
              other).active = true) : other ≠ idx := by
        rintro rfl
        simp [ConfigSlot.freed] at active
      constructor
      · intro left right leftActive rightActive same
        rw [slots] at leftActive rightActive same
        have leftOther := unheld left leftActive
        have rightOther := unheld right rightActive
        rw [Function.update_of_ne leftOther] at leftActive same
        rw [Function.update_of_ne rightOther] at rightActive same
        exact inv.distinct left right leftActive rightActive same
      · intro other active
        rw [slots] at active ⊢
        have different := unheld other active
        rw [Function.update_of_ne different] at active ⊢
        exact inv.short other active
      · exact inv.pending
      · intro deviceId deviceType push sent
        rcases inv.kept deviceId deviceType push sent with
          done | done | ⟨other, active, device, kind, id, bytes⟩
        · exact .inl done
        · refine .inr (.inl ?_)
          have out := Io.write_out_eq wrote
          exact (congrArg (fun actions =>
            reportsPush env actions deviceId push.configId) out).trans done
        · have different : other ≠ idx := by
            rintro rfl
            rw [free] at active
            cases active
          have short := inv.short other active
          refine .inr (.inr ⟨other, ?_⟩)
          unfold ConfigPlane.payload at bytes ⊢
          rw [slots, Function.update_of_ne different]
          refine ⟨active, device, kind, id, ?_⟩
          have same : slice io.psram.mem (configSlotPsramAddr other)
              (s.slots other).configLen.toNat =
              slice s.io.psram.mem (configSlotPsramAddr other)
                (s.slots other).configLen.toNat := by
            rw [mem]
            apply slice_splice_other _ different _ short
            rw [List.length_take]
            omega
          exact same.trans bytes
    · cases failed

/-- What a push that was stored, or refused, leaves behind. -/
def PushOutcome
    (env : Env) (latest : LatestPushes) (command : ConfigCommand)
    (s : ConfigPlane) : Option Errno → Prop
  | none =>
      PushesKept env (otherPushes latest command.config) s ∧
        s.Holds command.config.deviceId command.config.deviceType
          { configId := command.config.dataId, payload := command.payload }
  | some _ => PushesKept env latest s

theorem validateAtConfig_kept
    {command : ConfigCommand} (inv : PushesKept env latest s)
    (keeps : KeepsCommand s command)
    (lengths :
      command.payload.length = command.config.dataLen.toNat ∧
        command.config.dataLen.toNat ≤ maxConfigSize) :
    PushOutcome env latest command
      (s.validateAtConfig command.config command.payload).1
      (s.validateAtConfig command.config command.payload).2 := by
  unfold validateAtConfig
  split
  · exact inv
  · split
    · next idx found =>
      obtain ⟨active, device, kind⟩ := findDeviceSlot_some found
      have isTarget : s.pushTarget command.config = some idx := by
        unfold pushTarget
        rw [found]
      cases stored : s.storePush idx command.config command.payload with
      | mk after result =>
        cases result with
        | none =>
            refine storePush_kept inv (fun _ => ⟨device, kind⟩) ?_
              (keeps.skipped idx isTarget) lengths stored
            intro other different otherActive same
            exact different (inv.distinct other idx otherActive active
              (same.trans device.symm))
        | some errno =>
            exfalso
            have written := keeps.written idx found
            unfold storePush at stored
            dsimp only at stored
            split at stored
            · cases stored
            · next other =>
              have other : ¬ (s.slots idx).holdsSame
                  command.config.dataCrc32
                    command.config.dataLen.toNat = true := other
              split at stored
              · next wrote =>
                have ok := written (by simpa using other)
                have failed := congrArg Prod.snd wrote
                exact absurd (failed.symm.trans ok) (by simp)
              · cases stored
    · next missing =>
      split
      · exact inv
      · next allocated idx allocation =>
        obtain ⟨free, same, io⟩ := allocConfigSlot_some allocation
        have inactive : (s.slots idx).active = false := freeSlot_some free
        have isTarget : s.pushTarget command.config = some idx := by
          unfold pushTarget
          rw [missing]
          exact free
        have inv := inv.congr same
        obtain ⟨sameActive, sameDevice, sameKind, sameId, sameLength,
          sameCrc⟩ := same.fields idx
        rw [inactive] at sameActive
        cases stored : allocated.storePush idx command.config
            command.payload with
        | mk after result =>
          cases result with
          | none =>
              refine storePush_kept inv ?_ ?_ ?_ lengths stored
              · intro active
                rw [sameActive] at active
                cases active
              · intro other different active device
                obtain ⟨otherActive, otherDevice, _⟩ := same.fields other
                rw [otherActive] at active
                rw [otherDevice] at device
                exact findDeviceSlot_none missing other active device
                  (keeps.oneType other active device)
              · intro holds
                have held : (s.slots idx).holdsSame command.config.dataCrc32
                    command.config.dataLen.toNat = true := by
                  unfold ConfigSlot.holdsSame at holds ⊢
                  rw [sameCrc, sameLength] at holds
                  exact holds
                rw [sameDevice, sameKind, sameId, same.payload idx]
                exact keeps.skipped idx isTarget held
          | some errno => exact storePush_failed inv sameActive lengths stored

/-- Every `AT#CONFIG`: an accepted one is held, a refused one changes
nothing that is kept. -/
theorem cmdConfig_kept
    {args : List Char} (inv : PushesKept env latest s)
    (keeps : ∀ command, admitConfig env args = some command →
      KeepsCommand s command) :
    match (s.storeCommand env args).2 with
    | none => PushesKept env latest (s.cmdConfig env args)
    | some command =>
        PushOutcome env latest command (s.cmdConfig env args) none := by
  unfold cmdConfig storeCommand
  cases admitted : admitConfig env args with
  | none => exact inv.congr (.sendLine s _)
  | some command =>
      have outcome := validateAtConfig_kept inv (keeps command admitted)
        (admitConfig_length admitted)
      dsimp only
      cases stored : s.validateAtConfig command.config command.payload with
      | mk after result =>
        rw [stored] at outcome
        cases result with
        | some errno => exact PushesKept.congr outcome (.sendLine after _)
        | none =>
            obtain ⟨kept, holds⟩ := outcome
            have same : SameContent after
                ((after.sendLine (.configAccepted command.sn
                  command.config.dataId command.config.dataLen
                  command.config.dataCrc32)).sendLine .ok) :=
              (SameContent.sendLine after _).trans (.sendLine _ _)
            exact ⟨kept.congr same, holds.congr same⟩

end Commands

section Steps

variable {event : ConfigEvent}

theorem hostAnswer_kept
    (inv : PushesKept env latest s) (ok : Bool) :
    PushesKept env latest (s.hostAnswer env ok) := by
  unfold hostAnswer
  dsimp only
  rw [if_neg inv.pending]
  have none_ : (0 : UInt8) ≠ dataTypeConfig := by decide
  exact { inv with pending := none_, kept := inv.kept }

/-- One event of a gateway that gives no push up. -/
theorem step_kept
    (role : env.deviceType = .gateway)
    (inv : PushesKept env latest s.clearOut)
    (allowed : GatewayEvent s event) (keeps : KeepsPush env s event)
    (stepped : s.step env event = .ok s') :
    match s.acceptedPush env event with
    | none => PushesKept env latest s'
    | some command => PushOutcome env latest command s' none := by
  cases event with
  | config pkt srcId =>
      cases stepped
      exact inv.congr (handleConfig_gateway_same role)
  | configAck pkt => exact handleConfigAck_kept role inv keeps stepped
  | configReceived pkt srcId =>
      cases stepped
      exact handleConfigReceived_kept role inv keeps
  | configReceivedAck pkt =>
      cases stepped
      exact inv.congr (handleConfigReceivedAck_same pkt)
  | routeInfo pkt srcId => exact inv.congr (sendRoutedConfig_same stepped)
  | tick =>
      cases stepped
      exact configTick_kept role inv keeps
  | cmdConfig args =>
      cases stepped
      exact cmdConfig_kept inv keeps
  | cmdConfigAck args =>
      simp only [step, role] at stepped
      cases stepped
      exact inv
  | hostAnswer ok =>
      cases stepped
      exact hostAnswer_kept inv ok
  | otherPending pending =>
      cases stepped
      exact { inv with pending := allowed, kept := inv.kept }
  | restart => exact absurd allowed (by simp [GatewayEvent])
  | elsewhere psram uart =>
      cases stepped
      refine { inv with kept := ?_ }
      intro deviceId deviceType push sent
      rcases inv.kept deviceId deviceType push sent with
        done | done | ⟨idx, active, device, kind, id, bytes⟩
      · exact .inl done
      · exact .inr (.inl done)
      · refine .inr (.inr ⟨idx, active, device, kind, id, ?_⟩)
        have short := inv.short idx active
        obtain ⟨lower, upper⟩ := configSlot_inside idx
        rw [← bytes]
        exact slice_congr allowed lower
          (Nat.le_trans (Nat.add_le_add_left short _) upper)

end Steps

end ConfigPlane

section Runs

/-- A gateway at boot: the static tables are zero. -/
def PushRun.boot (io : Io) : PushRun where
  plane := { io := io }
  latest := fun _ _ => none

/-- The events of one gateway that give no push up. -/
def PushEvents (board : Board) (run : PushRun) (event : Env × ConfigEvent) :
    Prop :=
  event.1.toBoard = board ∧ GatewayEvent run.plane event.2 ∧
    KeepsPush event.1 run.plane event.2

/-- Once an event is over, a push is reported or held. -/
theorem PushesKept.noted
    {env : Env} {latest : LatestPushes} {s : ConfigPlane}
    (inv : PushesKept env latest s) {deviceId : UInt16} {deviceType : UInt8}
    {push : ConfigPush}
    (sent :
      (latest deviceId deviceType).map (fun push =>
        { push with
          reported :=
            push.reported || reportsPush env s.io.out deviceId push.configId }) =
        some push) :
    push.reported = true ∨ s.Holds deviceId deviceType push := by
  obtain ⟨before, known, rfl⟩ := Option.map_eq_some_iff.mp sent
  rcases inv.kept deviceId deviceType before known with done | done | holds
  · exact .inl (by simp [done])
  · exact .inl (by simp [done])
  · exact .inr holds

theorem pushStep_kept
    {run after : PushRun} {env : Env} {event : ConfigEvent}
    (role : env.deviceType = .gateway)
    (inv : ∀ env, PushesKept env run.latest run.plane.clearOut)
    (allowed : GatewayEvent run.plane event)
    (keeps : KeepsPush env run.plane event)
    (stepped : pushStep run (env, event) = .ok after) :
    ∀ env, PushesKept env after.latest after.plane.clearOut := by
  intro later
  unfold pushStep at stepped
  dsimp only at stepped
  split at stepped
  · cases stepped
  · next plane moved =>
    cases stepped
    have kept := ConfigPlane.step_kept role (inv env) allowed keeps moved
    cases accepted : run.plane.acceptedPush env event with
    | none =>
        rw [accepted] at kept
        refine { kept with kept := ?_ }
        intro deviceId deviceType push sent
        have noted : run.note env event plane deviceId deviceType = some push :=
          sent
        unfold PushRun.note at noted
        rw [accepted] at noted
        rcases kept.noted noted with reported | holds
        · exact .inl reported
        · exact .inr (.inr holds)
    | some command =>
        rw [accepted] at kept
        obtain ⟨kept, newest⟩ := kept
        refine { kept with kept := ?_ }
        intro deviceId deviceType push sent
        have noted : run.note env event plane deviceId deviceType = some push :=
          sent
        unfold PushRun.note at noted
        rw [accepted] at noted
        dsimp only at noted
        split at noted
        · next same =>
          obtain ⟨rfl, rfl⟩ := same
          cases noted
          exact .inr (.inr newest)
        · next different =>
          have unchanged : ConfigPlane.otherPushes run.latest command.config
              deviceId deviceType = run.latest deviceId deviceType :=
            if_neg different
          rw [← unchanged] at noted
          rcases kept.noted noted with reported | holds
          · exact .inl reported
          · exact .inr (.inr holds)

/-- In every run of a gateway in which no event gives a push up, the most
recent push to a device is held with its own id and bytes, or its result was
put out. -/
theorem latestPush_kept
    {board : Board} {io : Io} {run : PushRun}
    (role : board.deviceType = .gateway)
    (reach : Trace.Reach pushStep (PushEvents board) (.boot io) run)
    {deviceId : UInt16} {deviceType : UInt8} {push : ConfigPush}
    (sent : run.latest deviceId deviceType = some push) :
    push.reported = true ∨ run.plane.Holds deviceId deviceType push := by
  have inv : ∀ env, PushesKept env run.latest run.plane.clearOut := by
    apply reach.invariant
    · intro env
      have none_ : (0 : UInt8) ≠ dataTypeConfig := by decide
      constructor
      · intro _ _ active
        cases active
      · intro _ active
        cases active
      · exact none_
      · intro _ _ _ sent
        cases sent
    · rintro before ⟨env, event⟩ after inv ⟨same, allowed, keeps⟩ stepped
      have gateway : env.deviceType = .gateway := same ▸ role
      exact pushStep_kept gateway inv allowed keeps stepped
  have kept := (inv { board with }).kept deviceId deviceType push sent
  rcases kept with reported | reported | holds
  · exact .inl reported
  · unfold reportsPush at reported
    split at reported <;> cases reported
  · exact .inr holds

end Runs

section Samples

/-- A gateway with address 1 and the sensor 5 next to it. -/
def pushGateway : Env :=
  { deviceType := .gateway, deviceId := 1, crc := Checksum.crc32Ieee
    meshCount := 1
    meshDevices := fun _ =>
      { deviceType := 3, deviceId := 5, serialNum := 0xA
        connectedDeviceId := 1 } }

/-- `AT#CONFIG` for the one-byte configuration `07` with id 1. -/
def firstPush : ConfigEvent :=
  .cmdConfig "\"A\",\"1\",\"1\",\"4C667A2E\",\"07\"".toList

/-- `AT#CONFIG` for the one-byte configuration `08` with id 2. -/
def secondPush : ConfigEvent :=
  .cmdConfig "\"A\",\"2\",\"1\",\"DCD967BF\",\"08\"".toList

/-- The sensor's answer to the `CONFIG` with id 1. -/
def firstAck : ConfigEvent :=
  .configAck
    { hdr := { deviceType := 3, deviceId := 1, status := statusSuccess }
      dstDeviceId := 5, dstDeviceType := 3, dataType := dataTypeConfig
      dataId := 1 }

/-- The first push is sent, acknowledged, and still held. -/
theorem latestPush_kept_first :
    Trace.Ends pushStep (.boot {})
      [(pushGateway, firstPush), (pushGateway, .tick), (pushGateway, firstAck)]
      fun run => run.latest 5 3 = some { configId := 1, payload := [7] } ∧
        run.plane.Holds 5 3 { configId := 1, payload := [7] } := by
  obtain ⟨one, first, waits, routed, two, second, named, run, third, sent⟩ :
      Trace.Ends pushStep (.boot {}) [(pushGateway, firstPush)] fun one =>
        (∀ idx, (one.plane.clearOut.slots idx).isSent = false) ∧
        SendLoopReports pushGateway processConfigSlots allConfigSlots
          (allConfigSlots.foldl (fun s idx => s.reportTimeout pushGateway idx)
            one.plane.clearOut) ∧
        Trace.Ends pushStep one [(pushGateway, .tick)] fun two =>
          (∀ idx, two.plane.clearOut.findConfigSlot 5 = some idx →
            (two.plane.slots idx).configId = 1) ∧
          Trace.Ends pushStep two [(pushGateway, firstAck)] fun run =>
            run.latest 5 3 = some { configId := 1, payload := [7] } := by
    decide +kernel
  rw [Trace.run_single] at first second third
  have pushes : PushEvents pushGateway.toBoard (.boot {})
      (pushGateway, firstPush) := by
    refine ⟨rfl, trivial, fun command admitted => ?_⟩
    have fits : 0 < command.config.dataLen.toNat := by
      have parsed : (ConfigPlane.admitConfig pushGateway
          "\"A\",\"1\",\"1\",\"4C667A2E\",\"07\"".toList).all
            (fun command => 0 < command.config.dataLen.toNat) = true := by
        decide +kernel
      rw [admitted] at parsed
      simpa using parsed
    have idle (idx : Fin configSlotCount) :
        ((PushRun.boot {}).plane.clearOut.slots idx).active = false := rfl
    constructor
    · intro idx active
      rw [idle idx] at active
      cases active
    · intro idx _ same
      simp [ConfigSlot.holdsSame, PushRun.boot, ConfigPlane.clearOut] at same
      omega
    · intro idx found
      have active := (ConfigPlane.findDeviceSlot_some found).1
      rw [idle idx] at active
      cases active
  have ticks : PushEvents pushGateway.toBoard one (pushGateway, .tick) := by
    refine ⟨rfl, trivial, fun _ => ⟨fun idx timedOut => ?_, routed⟩⟩
    obtain ⟨-, isSent, -⟩ := timedOut
    rw [waits idx] at isSent
    cases isSent
  have answers : PushEvents pushGateway.toBoard two (pushGateway, firstAck) :=
    ⟨rfl, trivial, fun _ _ _ idx found => (named idx found).symm⟩
  have reach : Trace.Reach pushStep (PushEvents pushGateway.toBoard)
      (.boot {}) run :=
    .next (.next (.next .refl pushes first) ticks second) answers third
  have held : run.plane.Holds 5 3 { configId := 1, payload := [7] } := by
    rcases latestPush_kept rfl reach sent with reported | holds
    · cases reported
    · exact holds
  refine ⟨run, ?_, sent, held⟩
  simp only [Trace.run, first, second, third]

/-- A late answer to an earlier push deactivates the slot of the newer one. -/
theorem latestPush_lost :
    Trace.Ends pushStep (.boot {})
      [(pushGateway, firstPush), (pushGateway, .tick),
        (pushGateway, secondPush), (pushGateway, firstAck)]
      fun run =>
        ∃ push, run.latest 5 3 = some push ∧ push.reported = false ∧
          ¬ run.plane.Holds 5 3 push := by
  obtain ⟨run, executed, sent, idle⟩ :
      Trace.Ends pushStep (.boot {})
        [(pushGateway, firstPush), (pushGateway, .tick),
          (pushGateway, secondPush), (pushGateway, firstAck)]
        fun run =>
          run.latest 5 3 = some { configId := 2, payload := [8] } ∧
            ∀ idx, (run.plane.slots idx).active = false := by
    decide +kernel
  refine ⟨run, executed, _, sent, rfl, ?_⟩
  rintro ⟨idx, active, _⟩
  rw [idle idx] at active
  cases active

end Samples

end DectMesh
