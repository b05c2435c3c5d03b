import DectMesh.Config.Destinations
import DectMesh.Config.Intact

/-!
# Where a configuration comes from

The counterpart for configurations.  A slot may be sent on for another device
than it was filled for, also once it was given up, so what every hop keeps is
the id, the length and the checksum.
-/

namespace DectMesh

open ConfigPlane

/-- What every hop keeps of a configuration. -/
structure ConfigIdentity where
  configId : UInt16
  configLen : UInt8
  configCrc32 : UInt32
  deriving DecidableEq

def ConfigSlot.identity (slot : ConfigSlot) : ConfigIdentity where
  configId := slot.configId
  configLen := slot.configLen
  configCrc32 := slot.configCrc32

def Config.identity (pkt : Config) : ConfigIdentity where
  configId := pkt.dataId
  configLen := pkt.configLen
  configCrc32 := pkt.configCrc32

/-- The configuration that the host of a gateway pushes. -/
def ConfigPlane.ConfigCommand.identity (command : ConfigPlane.ConfigCommand) :
    ConfigIdentity where
  configId := command.config.dataId
  configLen := command.config.dataLen.toUInt8
  configCrc32 := command.config.dataCrc32

/-- It is known of a configuration, unless it is empty. -/
def ConfigIdentity.Known (known : ConfigIdentity → Prop)
    (entry : ConfigIdentity) : Prop :=
  entry.configLen ≠ 0 → known entry

/-- It is known of what an event brings in. -/
def ConfigEvent.Genuine (known : ConfigIdentity → Prop) (env : Env) :
    ConfigEvent → Prop
  | .config pkt _ => pkt.identity.Known known
  | .cmdConfig args =>
      ∀ command, ConfigPlane.admitConfig env args = some command →
        known command.identity
  | _ => True

namespace ConfigPlane

variable {known wider : ConfigIdentity → Prop} {env : Env}
variable {s s' s'' : ConfigPlane}

/-- What is known of the configuration in every slot, in use or not. -/
def Genuine (known : ConfigIdentity → Prop) (s : ConfigPlane) : Prop :=
  ∀ idx, (s.slots idx).identity.Known known

/-- What is passed on is an answer, or a configuration it is known of. -/
def Vouched (known : ConfigIdentity → Prop) : Action → Prop
  | .request (.config pkt) => pkt.identity.Known known
  | .request (.configReceived _) => True
  | action => action.routedTo = none

/-- An operation keeps to what is known. -/
structure Passes (known : ConfigIdentity → Prop) (s s' : ConfigPlane) :
    Prop where
  genuine : s'.Genuine known
  out : ∀ action ∈ s'.io.out, action ∈ s.io.out ∨ Vouched known action

theorem Genuine.mono (genuine : s.Genuine known)
    (implies : ∀ entry, known entry → wider entry) : s.Genuine wider :=
  fun idx some_ => implies _ (genuine idx some_)

theorem Genuine.congr (genuine : s.Genuine known)
    (slots : ∀ idx, (s'.slots idx).identity = (s.slots idx).identity) :
    s'.Genuine known := by
  intro idx
  rw [slots]
  exact genuine idx

namespace Passes

theorem of_same (genuine : s.Genuine known)
    (slots : ∀ idx, (s'.slots idx).identity = (s.slots idx).identity)
    (out : s'.io.out = s.io.out) : Passes known s s' where
  genuine := genuine.congr slots
  out := fun _ sent => .inl (out ▸ sent)

theorem refl (genuine : s.Genuine known) : Passes known s s :=
  .of_same genuine (fun _ => rfl) rfl

theorem trans (first : Passes known s s') (second : Passes known s' s'') :
    Passes known s s'' where
  genuine := second.genuine
  out := by
    intro action sent
    rcases second.out action sent with before | new
    · exact first.out action before
    · exact .inr new

theorem put {action : Action} (genuine : s.Genuine known)
    (vouched : Vouched known action) : Passes known s (s.put action) where
  genuine := genuine
  out := by
    intro other sent
    rcases List.mem_append.mp sent with before | added
    · exact .inl before
    · cases List.mem_singleton.mp added
      exact .inr vouched

/-- A slot is replaced by one that it is known of. -/
theorem setSlot {idx : Fin configSlotCount} {slot : ConfigSlot}
    (genuine : s.Genuine known) (new : slot.identity.Known known) :
    Passes known s (s.setSlot idx slot) where
  genuine := by
    intro other
    by_cases same : other = idx
    · subst same
      rw [show (s.setSlot other slot).slots other = slot from
        Function.update_self _ _ _]
      exact new
    · rw [show (s.setSlot idx slot).slots other = s.slots other from
        Function.update_of_ne same _ _]
      exact genuine other
  out := fun _ sent => .inl sent

/-- The flags and the timeout of a slot change. -/
theorem flagSlot {idx : Fin configSlotCount} (slot : ConfigSlot)
    (genuine : s.Genuine known)
    (same : slot.identity = (s.slots idx).identity) :
    Passes known s (s.setSlot idx slot) :=
  .setSlot genuine (same ▸ genuine idx)

theorem configSlotFree (genuine : s.Genuine known)
    (idx : Fin configSlotCount) : Passes known s (s.configSlotFree idx) where
  genuine := (flagSlot (s.slots idx).freed genuine rfl).genuine
  out := fun _ sent => .inl sent

theorem read {io : Io} {addr length : Nat}
    {outcome : Except Errno (List UInt8)} (genuine : s.Genuine known)
    (done : s.io.read addr length = (io, outcome)) :
    Passes known s { s with io := io } := by
  refine .of_same genuine (fun _ => rfl) ?_
  exact congrArg (fun result => result.1.out) done.symm

theorem write {io : Io} {addr : Nat} {src : List UInt8}
    {outcome : Option Errno} (genuine : s.Genuine known)
    (done : s.io.write addr src = (io, outcome)) :
    Passes known s { s with io := io } := by
  refine .of_same genuine (fun _ => rfl) ?_
  exact congrArg (fun result => result.1.out) done.symm

theorem txWrite (genuine : s.Genuine known) (text : AtLine) :
    Passes known s { s with io := (s.io.txWrite text).1 } where
  genuine := genuine
  out := by
    intro action sent
    have there : action ∈ (s.io.txWrite text).1.out := sent
    rcases s.io.txWrite_out text with added | ⟨nothing, -⟩
    · rw [added, List.mem_append, List.mem_singleton] at there
      rcases there with before | rfl
      · exact .inl before
      · exact .inr rfl
    · rw [nothing] at there
      exact .inl there

theorem foldl {Item : Type} {round : ConfigPlane → Item → ConfigPlane}
    (each : ∀ t item, Genuine known t → Passes known t (round t item))
    (items : List Item) (genuine : s.Genuine known) :
    Passes known s (items.foldl round s) := by
  induction items generalizing s with
  | nil => exact .refl genuine
  | cons item rest ih =>
      have first := each s item genuine
      exact first.trans (ih first.genuine)

end Passes

section Handlers

theorem sendConfig_passes {pkt : Config} {dstId : UInt16} {priority : UInt8}
    (genuine : s.Genuine known) (new : pkt.identity.Known known) :
    Passes known s (s.sendConfig env pkt dstId priority) :=
  .put genuine new

theorem sendConfigReceived_passes {pkt : ConfigReceived}
    (genuine : s.Genuine known) :
    Passes known s (s.sendConfigReceived env pkt) :=
  .put genuine trivial

theorem sendCmdConfigres_passes (deviceId : UInt16) (status : UInt8)
    (genuine : s.Genuine known) :
    Passes known s (s.sendCmdConfigres env deviceId status) := by
  unfold sendCmdConfigres
  split
  · exact .refl genuine
  · split
    · exact .refl genuine
    · split
      · exact (Passes.txWrite genuine _).trans (.flagSlot _ genuine rfl)
      · exact .configSlotFree genuine _

theorem storeConfig_passes {pkt : Config} (idx : Fin configSlotCount)
    (genuine : s.Genuine known) (new : pkt.identity.Known known) :
    Passes known s (s.storeConfig env idx pkt).1 := by
  have filled : Passes known s
      (s.setSlot idx (receivedSlot (s.slots idx) pkt)) := .setSlot genuine new
  unfold storeConfig
  dsimp only
  split
  · exact filled.trans (.configSlotFree filled.genuine idx)
  · split
    · next wrote =>
      have written := filled.trans (.write filled.genuine wrote)
      exact written.trans (.configSlotFree written.genuine idx)
    · next wrote => exact filled.trans (.write filled.genuine wrote)

theorem allocConfigSlot_passes {idx : Fin configSlotCount}
    (genuine : s.Genuine known)
    (allocated : s.allocConfigSlot = some (s', idx)) : Passes known s s' := by
  obtain ⟨-, rfl⟩ := allocConfigSlot_allocated allocated
  exact
    { genuine := (Passes.flagSlot { s.slots idx with
        isSent := false, isApplied := false, isTransfered := false }
          genuine rfl).genuine
      out := fun _ sent => .inl sent }

theorem validateConfig_passes {pkt : Config} (genuine : s.Genuine known)
    (new : pkt.identity.Known known) :
    Passes known s (s.validateConfig env pkt).1 := by
  have validation := validateConfig_validation env s pkt
  generalize s.validateConfig env pkt = outcome at validation ⊢
  cases validation with
  | foreign => exact .refl genuine
  | known => exact .refl genuine
  | full => exact .refl genuine
  | @replaced _ _ idx _ _ _ stored =>
      have passes := @storeConfig_passes known env s pkt idx genuine new
      rw [stored] at passes
      exact passes
  | @placed base _ _ idx _ _ allocated stored =>
      have first := allocConfigSlot_passes genuine allocated
      have passes := @storeConfig_passes known env base pkt idx first.genuine new
      rw [stored] at passes
      exact first.trans passes

theorem forwardConfig_passes {pkt : Config} (idx : Fin configSlotCount)
    (dstId : UInt16) (durationMs maxRetries : Nat)
    (genuine : s.Genuine known) (new : pkt.identity.Known known) :
    Passes known s
      (s.forwardConfig env idx pkt dstId durationMs maxRetries) :=
  (sendConfig_passes genuine new).trans (.flagSlot _ genuine rfl)

theorem relayConfig_passes {pkt : Config} (idx : Fin configSlotCount)
    (genuine : s.Genuine known) (new : pkt.identity.Known known) :
    Passes known s (s.relayConfig env idx pkt).1 := by
  unfold relayConfig
  split
  · split
    · exact forwardConfig_passes idx _ _ _ genuine new
    · exact .refl genuine
  · exact forwardConfig_passes idx _ _ _ genuine new

theorem handleConfig_passes {pkt : Config} {srcId : UInt16}
    (genuine : s.Genuine known) (new : pkt.identity.Known known) :
    Passes known s (s.handleConfig env pkt srcId) := by
  have validated := @validateConfig_passes known env s pkt genuine new
  have acked {t : ConfigPlane} (passes : Passes known s t) (status : UInt8) :
      Passes known s (t.put (configAnswer env pkt srcId status)) :=
    passes.trans (.put passes.genuine rfl)
  generalize handled : s.handleConfig env pkt srcId = s'
  cases handleConfig_taken handled with
  | ignored => exact .refl genuine
  | unranged => exact acked (.refl genuine) _
  | answered _ outcome =>
      rw [outcome] at validated
      exact acked validated _
  | relayed _ _ outcome =>
      rw [outcome] at validated
      exact acked (validated.trans
        (relayConfig_passes _ validated.genuine new)) _
  | confirmed _ _ outcome =>
      rw [outcome] at validated
      have answered := acked validated statusAlreadyExists
      exact answered.trans (sendConfigReceived_passes answered.genuine)

theorem handleConfigAck_passes {pkt : ConfigAck} (genuine : s.Genuine known)
    (handled : s.handleConfigAck env pkt = .ok s') : Passes known s s' := by
  have untracked : Passes known s (s.put (.untrack pkt.hdr.trackingId)) :=
    .put genuine rfl
  cases handleConfigAck_taken handled with
  | ignored => exact .refl genuine
  | untracked => exact untracked
  | disowned idx role accepted answer found other =>
      exact untracked.trans (.flagSlot _ untracked.genuine rfl)
  | transfered idx role =>
      exact untracked.trans (.flagSlot _ untracked.genuine rfl)
  | freed idx role found =>
      exact untracked.trans (.configSlotFree untracked.genuine _)

theorem handleConfigReceived_passes {pkt : ConfigReceived} {srcId : UInt16}
    (genuine : s.Genuine known) :
    Passes known s (s.handleConfigReceived env pkt srcId) := by
  generalize handled : s.handleConfigReceived env pkt srcId = s'
  cases handleConfigReceived_taken handled with
  | ignored => exact .refl genuine
  | told =>
      have told := @sendCmdConfigres_passes known env s pkt.dstDeviceId
        pkt.hdr.status genuine
      exact told.trans (.put told.genuine rfl)
  | passed =>
      have passed := @sendConfigReceived_passes known env s
        { pkt with hdr := { status := pkt.hdr.status } } genuine
      exact passed.trans (.put passed.genuine rfl)

theorem handleConfigReceivedAck_passes {pkt : ConfigReceivedAck}
    (genuine : s.Genuine known) :
    Passes known s (s.handleConfigReceivedAck env pkt) := by
  have untracked : Passes known s (s.put (.untrack pkt.hdr.trackingId)) :=
    .put genuine rfl
  generalize handled : s.handleConfigReceivedAck env pkt = s'
  cases handleConfigReceivedAck_taken handled with
  | ignored => exact .refl genuine
  | untracked => exact untracked
  | passed => exact untracked.trans (.put untracked.genuine rfl)

/-- What a gateway sends along a route comes out of a slot, in use or not. -/
theorem sendRoutedConfig_passes {pkt : RouteInfo} {srcId : UInt16}
    (genuine : s.Genuine known)
    (sent : s.sendRoutedConfig env pkt srcId = .ok s') :
    Passes known s s' := by
  unfold sendRoutedConfig at sent
  dsimp only at sent
  split at sent
  · cases sent
    exact .refl genuine
  · split at sent
    · cases sent
    · next after built found =>
      have taken : Passes known s after ∧ built.identity.Known known := by
        unfold buildConfigPkt at found
        dsimp only at found
        split at found
        · next inside =>
          split at found
          · cases found
            exact ⟨.refl genuine, fun some_ => absurd rfl some_⟩
          · split at found
            · next read =>
              cases found
              exact ⟨.read genuine read, fun some_ => absurd rfl some_⟩
            · next read =>
              cases found
              have loaded := Passes.read genuine read
              exact ⟨loaded.trans (.flagSlot _ loaded.genuine rfl),
                genuine ⟨pkt.dataId.toNat, inside⟩⟩
        · cases found
      obtain ⟨passes, new⟩ := taken
      split at sent
      · cases sent
        exact passes.trans (.put passes.genuine rfl)
      · cases sent
        have passed := passes.trans (@sendConfig_passes known env after built
          (built.routeInfo firstHop).deviceId statusSuccess passes.genuine new)
        exact passed.trans (.put passed.genuine rfl)

end Handlers

section Ticks

theorem putAll_passes {actions : List Action} (genuine : s.Genuine known)
    (quiet : ∀ action ∈ actions, Vouched known action) :
    Passes known s (actions.foldl ConfigPlane.put s) := by
  induction actions generalizing s with
  | nil => exact .refl genuine
  | cons action rest ih =>
      have first := Passes.put genuine (quiet action List.mem_cons_self)
      exact first.trans (ih first.genuine fun other member =>
        quiet other (List.mem_cons_of_mem _ member))

theorem gatewaySendSlot_passes (idx : Fin configSlotCount)
    (genuine : s.Genuine known) :
    Passes known s (s.gatewaySendSlot env idx) := by
  unfold gatewaySendSlot
  dsimp only
  split
  · have told := @sendCmdConfigres_passes known env s
      (s.slots idx).dstDeviceId statusNoRoute genuine
    exact told.trans (.configSlotFree told.genuine idx)
  · split
    · split
      · next read => exact .read genuine read
      · next io payload read =>
        have loaded := Passes.read genuine read
        have sent := loaded.trans (@sendConfig_passes known env _
          ((s.slots idx).packet payload) (s.slots idx).dstDeviceId
          packetPriorityHigh loaded.genuine (genuine idx))
        exact sent.trans (.flagSlot _ sent.genuine rfl)
    · have searched (pkt : RouteDiscovery) : Passes known s
          ((env.routeDiscoveries pkt).foldl ConfigPlane.put s) := by
        refine putAll_passes genuine fun action member => ?_
        obtain ⟨sent, rfl⟩ := Env.mem_routeDiscoveries member
        rfl
      exact (searched _).trans (.flagSlot _ (searched _).genuine rfl)

theorem gatewaySendLoop_passes (budget : Nat)
    (slots : List (Fin configSlotCount)) (genuine : s.Genuine known) :
    Passes known s (gatewaySendLoop env budget slots s) := by
  apply gatewaySendLoop_invariant _ (Passes known s) _ _ _ (.refl genuine)
  intro t idx before _ _
  exact before.trans (gatewaySendSlot_passes idx before.genuine)

theorem retrySlot_passes (idx : Fin configSlotCount)
    (genuine : s.Genuine known) :
    Passes known s (s.retrySlot env idx) := by
  unfold retrySlot
  dsimp only
  split
  · next timeout _ =>
    have counted : Passes known s
        (s.setSlot idx { s.slots idx with timeout := timeout }) :=
      .flagSlot _ genuine rfl
    exact counted.trans (.configSlotFree counted.genuine idx)
  · exact .flagSlot _ genuine rfl

theorem anchorSendSlot_passes (idx : Fin configSlotCount)
    (genuine : s.Genuine known) :
    Passes known s (s.anchorSendSlot env idx) := by
  unfold anchorSendSlot
  dsimp only
  split
  · split
    · exact .refl genuine
    · split
      · next read => exact .read genuine read
      · next io payload read =>
        have loaded := Passes.read genuine read
        have marked := loaded.trans (@Passes.flagSlot known _ idx
          { s.slots idx with isSent := true } loaded.genuine rfl)
        exact marked.trans (sendConfig_passes marked.genuine (genuine idx))
  · exact .refl genuine

theorem sensorSendSlot_passes (idx : Fin configSlotCount)
    (genuine : s.Genuine known) :
    Passes known s (s.sensorSendSlot env idx) := by
  unfold sensorSendSlot
  dsimp only
  split
  · next read => exact .read genuine read
  · next io payload read =>
    have loaded := Passes.read genuine read
    have told := loaded.trans (Passes.txWrite loaded.genuine (.config
      env.serialNumber (s.slots idx).configId (s.slots idx).configLen
      (s.slots idx).configCrc32 payload))
    split
    · next after lost =>
      rw [lost] at told
      exact told
    · next after shown =>
      rw [shown] at told
      refine told.trans (.flagSlot _ told.genuine ?_)
      split <;> rfl

theorem sensorSendLoop_passes (budget : Nat)
    (slots : List (Fin configSlotCount)) (genuine : s.Genuine known) :
    Passes known s (sensorSendLoop env budget slots s) := by
  apply sensorSendLoop_invariant _ (Passes known s) _ _ _ (.refl genuine)
  intro t idx before _
  exact before.trans (sensorSendSlot_passes idx before.genuine)

theorem configTick_passes (genuine : s.Genuine known) :
    Passes known s (s.configTick env) := by
  unfold configTick
  split
  · exact .refl genuine
  · split
    · have expired : Passes known s (allConfigSlots.foldl
          (fun s idx => s.reportTimeout env idx) s) := by
        refine .foldl (fun t idx genuine => ?_) _ genuine
        unfold reportTimeout
        dsimp only
        split
        · exact sendCmdConfigres_passes _ _ genuine
        · exact .refl genuine
      exact expired.trans (gatewaySendLoop_passes _ _ expired.genuine)
    · have expired : Passes known s (allConfigSlots.foldl
          (fun s idx => s.expireRelayed env idx) s) := by
        refine .foldl (fun t idx genuine => ?_) _ genuine
        unfold expireRelayed
        dsimp only
        split
        · split
          · exact .configSlotFree genuine idx
          · exact .refl genuine
        · split
          · exact retrySlot_passes idx genuine
          · exact .refl genuine
      exact expired.trans (.foldl (fun t idx genuine =>
        anchorSendSlot_passes idx genuine) _ expired.genuine)
    · have expired : Passes known s (allConfigSlots.foldl
          (fun s idx => s.expireUnconfirmed env idx) s) := by
        refine .foldl (fun t idx genuine => ?_) _ genuine
        unfold expireUnconfirmed
        dsimp only
        split
        · split
          · exact .flagSlot _ genuine rfl
          · split
            · exact retrySlot_passes idx genuine
            · exact .refl genuine
        · exact .refl genuine
      exact expired.trans (sensorSendLoop_passes _ _ expired.genuine)
    · exact .refl genuine

end Ticks

section Host

/-- `cmd_config` checks the bytes of a push. -/
theorem admitConfig_checksum {args : List Char} {command : ConfigCommand}
    (admitted : admitConfig env args = some command) :
    env.crc.ieee command.payload = command.config.dataCrc32 := by
  unfold admitConfig at admitted
  split at admitted
  · cases admitted
  · split at admitted
    · cases admitted
    · split at admitted
      · cases admitted
      · next checked =>
        split at admitted
        · cases admitted
        · dsimp only at admitted
          split at admitted
          · cases admitted
          · cases admitted
            exact not_not.mp checked

theorem storePush_passes {config : SlmAtStructure} {data : List UInt8}
    (idx : Fin configSlotCount) (genuine : s.Genuine known)
    (new : known
      { configId := config.dataId
        configLen := config.dataLen.toUInt8
        configCrc32 := config.dataCrc32 }) :
    Passes known s (s.storePush idx config data).1 := by
  unfold storePush
  dsimp only
  split
  · exact .flagSlot _ genuine rfl
  · have filled : Passes known s
        (s.setSlot idx (pushedSlot (pendingSlot (s.slots idx)) config)) :=
      .setSlot genuine fun _ => new
    split
    · next wrote =>
      have written := filled.trans (.write filled.genuine wrote)
      exact written.trans (.configSlotFree written.genuine idx)
    · next wrote => exact filled.trans (.write filled.genuine wrote)

theorem cmdConfig_passes {args : List Char} (genuine : s.Genuine known)
    (new : (ConfigEvent.cmdConfig args).Genuine known env) :
    Passes known s (s.cmdConfig env args) := by
  have stored : Passes known s (s.storeCommand env args).1 := by
    unfold storeCommand
    split
    · exact .refl genuine
    · next command admitted =>
      have pushed : Passes known s
          (s.validateAtConfig command.config command.payload).1 := by
        unfold validateAtConfig
        split
        · exact .refl genuine
        · split
          · exact storePush_passes _ genuine (new command admitted)
          · split
            · exact .refl genuine
            · next t idx allocated =>
              have first := allocConfigSlot_passes genuine allocated
              exact first.trans (storePush_passes idx first.genuine
                (new command admitted))
      split
      · next outcome =>
        rw [outcome] at pushed
        exact pushed
      · next outcome =>
        rw [outcome] at pushed
        exact pushed
  unfold cmdConfig
  split
  · next outcome =>
    rw [outcome] at stored
    exact stored.trans (.txWrite stored.genuine .error)
  · next after command outcome =>
    rw [outcome] at stored
    have first := stored.trans (.txWrite stored.genuine (.configAccepted
      command.sn command.config.dataId command.config.dataLen
      command.config.dataCrc32))
    exact first.trans (.txWrite first.genuine .ok)

theorem hostAnswer_passes {ok : Bool} (genuine : s.Genuine known) :
    Passes known s (s.hostAnswer env ok) := by
  have released : Passes known s
      (s.configSlotReleaseById env s.pendingAck.id (answerStatus ok)) := by
    unfold configSlotReleaseById
    split
    · exact .refl genuine
    · next idx _ =>
      have told := @sendConfigReceived_passes known env s
        { hdr := { status := answerStatus ok }
          dstDeviceId := (s.slots idx).dstDeviceId
          dstDeviceType := (s.slots idx).dstDeviceType
          dataType := dataTypeConfig
          dataId := (s.slots idx).configId } genuine
      dsimp only
      split
      · exact told.trans (.flagSlot _ told.genuine rfl)
      · have marked := told.trans (@Passes.flagSlot known _ idx
          { s.slots idx with isApplied := false } told.genuine rfl)
        exact marked.trans (.configSlotFree marked.genuine idx)
  unfold hostAnswer
  dsimp only
  split
  · exact released.trans (.of_same released.genuine (fun _ => rfl) rfl)
  · exact .of_same genuine (fun _ => rfl) rfl

end Host

/-- One event keeps to what is known. -/
theorem step_passes {event : ConfigEvent} (stepped : s.step env event = .ok s')
    (new : event.Genuine known env) (genuine : s.Genuine known) :
    s'.Genuine known ∧ ∀ action ∈ s'.io.out, Vouched known action := by
  have cleared : s.clearOut.Genuine known := genuine
  have passes : Passes known s.clearOut s' := by
    cases event with
    | config pkt srcId =>
        cases stepped
        exact handleConfig_passes cleared new
    | configAck pkt => exact handleConfigAck_passes cleared stepped
    | configReceived pkt srcId =>
        cases stepped
        exact handleConfigReceived_passes cleared
    | configReceivedAck pkt =>
        cases stepped
        exact handleConfigReceivedAck_passes cleared
    | routeInfo pkt srcId => exact sendRoutedConfig_passes cleared stepped
    | tick =>
        cases stepped
        exact configTick_passes cleared
    | cmdConfig args =>
        cases stepped
        exact cmdConfig_passes cleared new
    | cmdConfigAck args =>
        cases stepped
        split
        · unfold cmdConfigAck
          split
          · split
            · exact .refl cleared
            · exact .of_same cleared (fun _ => rfl) rfl
          · exact .refl cleared
        · exact .refl cleared
    | hostAnswer ok =>
        cases stepped
        exact hostAnswer_passes cleared
    | otherPending pending =>
        cases stepped
        exact .of_same cleared (fun _ => rfl) rfl
    | restart =>
        cases stepped
        refine ⟨fun idx some_ => absurd rfl some_, fun _ sent => .inl sent⟩
    | elsewhere psram uart =>
        cases stepped
        exact .of_same cleared (fun _ => rfl) rfl
  exact ⟨passes.genuine, fun action sent =>
    (passes.out action sent).resolve_left fun before => by cases before⟩

end ConfigPlane

end DectMesh
