import DectMesh.Config.Intact

/-!
# Accepted pushes

What `validate_at_config` leaves behind when it accepts a request and when it
refuses one.  The branch that skips the write takes over whatever the slot held
last, so an accepted request is stored exactly when that was the request
itself.
-/

namespace DectMesh

open ByteStore

/-- The slot is in use for just this request. -/
structure ConfigSlot.ForRequest
    (slot : ConfigSlot) (config : SlmAtStructure) : Prop where
  active : slot.active = true
  device : slot.dstDeviceId = config.deviceId
  kind : slot.dstDeviceType = config.deviceType
  id : slot.configId = config.dataId
  length : slot.configLen.toNat = config.dataLen.toNat
  crc32 : slot.configCrc32 = config.dataCrc32

namespace ConfigPlane

variable {env : Env} {s s' : ConfigPlane}

/-- The lengths `validate_at_config` lets through. -/
def Ranged (config : SlmAtStructure) : Prop :=
  config.dataLen ≠ 0 ∧ config.dataLen.toNat ≤ maxConfigSize

/-- The slot holds the request and waits to be sent; the others are as
before. -/
structure Stores
    (s s' : ConfigPlane) (config : SlmAtStructure) (data : List UInt8)
    (idx : Fin configSlotCount) : Prop where
  request : (s'.slots idx).ForRequest config
  unsent : (s'.slots idx).isSent = false
  unapplied : (s'.slots idx).isApplied = false
  untransfered : (s'.slots idx).isTransfered = false
  bytes : s'.payload idx = data
  others : ∀ other, other ≠ idx → s'.slots other = s.slots other ∧
    ((s.slots other).active = true → s'.payload other = s.payload other)

/-- No slot is in use for the request, and those of other devices are as
before. -/
structure Refuses
    (s s' : ConfigPlane) (config : SlmAtStructure) : Prop where
  absent : ∀ idx, ¬ (s'.slots idx).ForRequest config
  others : ∀ idx, (s.slots idx).active = true →
    ((s.slots idx).dstDeviceId ≠ config.deviceId ∨
      (s.slots idx).dstDeviceType ≠ config.deviceType) →
        s'.slots idx = s.slots idx ∧ s'.payload idx = s.payload idx

/-- The answer of `validate_at_config` is true of the slots it leaves; the
index it returns is that of `pushTarget`. -/
def AnswersTruly
    (s : ConfigPlane) (config : SlmAtStructure) (data : List UInt8) : Prop :=
  match s.validateAtConfig config data with
  | (s', none) => ∃ idx, s.pushTarget config = some idx ∧
      Stores s s' config data idx
  | (s', some _) => Refuses s s' config

/-- What the slot for a request held does no harm: where the write is skipped,
it is this very request, and where the write fails, no other slot holds it. -/
structure Harmless
    (s : ConfigPlane) (config : SlmAtStructure) (data : List UInt8)
    (idx : Fin configSlotCount) : Prop where
  skipped :
    (s.slots idx).holdsSame config.dataCrc32 config.dataLen.toNat = true →
      (s.slots idx).dstDeviceId = config.deviceId ∧
        (s.slots idx).dstDeviceType = config.deviceType ∧
        (s.slots idx).configId = config.dataId ∧
        s.payload idx = data
  failed :
    (s.slots idx).holdsSame config.dataCrc32 config.dataLen.toNat = false →
      (s.io.write (configSlotPsramAddr idx) data).2 ≠ none →
        ∀ other, other ≠ idx → ¬ (s.slots other).ForRequest config

section Outcomes

variable {config : SlmAtStructure} {data : List UInt8}

/-- The ways `validate_at_config` may end. -/
inductive Pushed
    (s : ConfigPlane) (config : SlmAtStructure) (data : List UInt8) :
    ConfigPlane × Option Errno → Prop
  | outOfRange (range : ¬ Ranged config) : Pushed s config data (s, some .einval)
  | full (range : Ranged config) (target : s.pushTarget config = none) :
      Pushed s config data (s, some .enomem)
  | skipped {s' : ConfigPlane} {idx : Fin configSlotCount}
      (range : Ranged config) (target : s.pushTarget config = some idx)
      (same : (s.slots idx).holdsSame config.dataCrc32
        config.dataLen.toNat = true)
      (slots : s'.slots =
        Function.update s.slots idx (pendingSlot (s.slots idx)))
      (io : s'.io = s.io) :
      Pushed s config data (s', none)
  | written {s' : ConfigPlane} {idx : Fin configSlotCount}
      (range : Ranged config) (target : s.pushTarget config = some idx)
      (other : (s.slots idx).holdsSame config.dataCrc32
        config.dataLen.toNat = false)
      (wrote : s.io.write (configSlotPsramAddr idx) data = (s'.io, none))
      (slots : s'.slots = Function.update s.slots idx
        (pushedSlot (pendingSlot (s.slots idx)) config)) :
      Pushed s config data (s', none)
  | lost {s' : ConfigPlane} {idx : Fin configSlotCount} {errno : Errno}
      (range : Ranged config) (target : s.pushTarget config = some idx)
      (other : (s.slots idx).holdsSame config.dataCrc32
        config.dataLen.toNat = false)
      (wrote : s.io.write (configSlotPsramAddr idx) data =
        (s'.io, some errno))
      (slots : s'.slots = Function.update s.slots idx
        (pushedSlot (pendingSlot (s.slots idx)) config).freed) :
      Pushed s config data (s', some .eio)

/-- `base` is the plane after the search for a slot: the flags of the slot may
have been cleared already. -/
theorem storePush_pushed {base : ConfigPlane} {idx : Fin configSlotCount}
    (range : Ranged config) (target : s.pushTarget config = some idx)
    (io : base.io = s.io)
    (slots : ∀ slot, Function.update base.slots idx slot =
      Function.update s.slots idx slot)
    (pending : pendingSlot (base.slots idx) = pendingSlot (s.slots idx)) :
    Pushed s config data (base.storePush idx config data) := by
  unfold storePush
  dsimp only
  rw [pending]
  split
  · next same =>
    exact .skipped range target same (slots _) io
  · next other =>
    have other : (s.slots idx).holdsSame config.dataCrc32
        config.dataLen.toNat = false := by
      rw [Bool.not_eq_true] at other
      exact other
    split
    · next after errno wrote =>
      have wrote : base.io.write (configSlotPsramAddr idx) data =
          (after, some errno) := wrote
      rw [io] at wrote
      refine .lost range target other wrote ?_
      simp only [configSlotFree, setSlot, Function.update_self,
        Function.update_idem]
      exact slots _
    · next after wrote =>
      have wrote : base.io.write (configSlotPsramAddr idx) data =
          (after, none) := wrote
      rw [io] at wrote
      exact .written range target other wrote (slots _)

theorem validateAtConfig_pushed
    (s : ConfigPlane) (config : SlmAtStructure) (data : List UInt8) :
    Pushed s config data (s.validateAtConfig config data) := by
  unfold validateAtConfig
  split
  · next refused =>
    refine .outOfRange fun range => ?_
    rcases refused with empty | long
    · exact range.1 empty
    · exact absurd range.2 (Nat.not_le.mpr long)
  · next allowed =>
    rw [not_or, Nat.not_lt] at allowed
    split
    · next idx found =>
      have target : s.pushTarget config = some idx := by
        rw [pushTarget, found]
      exact storePush_pushed allowed target rfl (fun _ => rfl) rfl
    · next missing =>
      split
      · next none_ =>
        refine .full allowed ?_
        rw [pushTarget, missing]
        exact allocConfigSlot_none none_
      · next base idx allocated =>
        obtain ⟨free, rfl⟩ := allocConfigSlot_allocated allocated
        have target : s.pushTarget config = some idx := by
          rw [pushTarget, missing]
          exact free
        refine storePush_pushed allowed target rfl (fun slot => ?_) ?_
        · exact Function.update_idem _ _ _
        · simp [setSlot, pendingSlot]

end Outcomes

section Lengths

/-- The slots in use have lengths that were let through. -/
def Sized (s : ConfigPlane) : Prop :=
  ∀ idx, (s.slots idx).active = true →
    1 ≤ (s.slots idx).configLen.toNat ∧
      (s.slots idx).configLen.toNat ≤ maxConfigSize

theorem Sized.shrinks (sized : s.Sized) (shrinks : Shrinks s s') :
    s'.Sized := by
  intro idx active
  have held := shrinks idx (s'.entry idx) (ledger_some.mpr ⟨active, rfl⟩)
  obtain ⟨before, same⟩ := ledger_some.mp held
  have len : (s.slots idx).configLen = (s'.slots idx).configLen :=
    congrArg ConfigEntry.configLen same
  rw [← len]
  exact sized idx before

theorem sendCmdConfigres_shrinks (deviceId : UInt16) (status : UInt8)
    (s : ConfigPlane) :
    Shrinks s (s.sendCmdConfigres env deviceId status) := by
  unfold sendCmdConfigres
  split
  · exact .refl s
  · split
    · exact .refl s
    · split
      · exact .of_same ((SameContent.sendLine s _).trans (.setSlot rfl))
      · exact .configSlotFree _ s

theorem reportTimeout_shrinks (idx : Fin configSlotCount) (s : ConfigPlane) :
    Shrinks s (s.reportTimeout env idx) := by
  unfold reportTimeout
  dsimp only
  split
  · exact sendCmdConfigres_shrinks _ _ s
  · exact .refl s

theorem gatewaySendSlot_shrinks (idx : Fin configSlotCount)
    (s : ConfigPlane) : Shrinks s (s.gatewaySendSlot env idx) := by
  unfold gatewaySendSlot
  dsimp only
  split
  · exact (sendCmdConfigres_shrinks _ _ s).trans (.configSlotFree idx _)
  · split
    · split
      · next reading => exact .of_same (.read reading)
      · next reading =>
        exact .of_same (((SameContent.read reading).trans
          (sendConfig_same _ _ _ _)).trans (markSent_same idx _))
    · exact .of_same ((foldl_put_same _ s).trans (markSent_same idx _))

theorem gatewaySendLoop_shrinks (list : List (Fin configSlotCount))
    (budget : Nat) (s : ConfigPlane) :
    Shrinks s (gatewaySendLoop env budget list s) := by
  apply gatewaySendLoop_invariant _ (Shrinks s) _ _ _ (.refl s)
  intro t idx before _ _
  exact before.trans (gatewaySendSlot_shrinks idx t)

theorem gatewayTick_shrinks (role : env.deviceType = .gateway)
    (s : ConfigPlane) : Shrinks s (s.configTick env) := by
  have reported (list : List (Fin configSlotCount)) (s : ConfigPlane) :
      Shrinks s (list.foldl (fun s idx => s.reportTimeout env idx) s) := by
    induction list generalizing s with
    | nil => exact .refl s
    | cons idx rest ih => exact (reportTimeout_shrinks idx s).trans (ih _)
  unfold configTick
  split
  · exact .refl s
  · rw [role]
    exact (reported _ s).trans (gatewaySendLoop_shrinks _ _ _)

theorem gatewayReceived_shrinks (pkt : ConfigReceived) (srcId : UInt16)
    (s : ConfigPlane) : Shrinks s (s.handleConfigReceived env pkt srcId) := by
  generalize handled : s.handleConfigReceived env pkt srcId = s'
  cases handleConfigReceived_taken handled with
  | ignored => exact .refl s
  | told => exact (sendCmdConfigres_shrinks _ _ s).trans (.of_same (.put _ _))
  | passed => exact .of_same ((sendConfigReceived_same _ s).trans (.put _ _))

variable {config : SlmAtStructure} {data : List UInt8}

theorem Ranged.narrowed (range : Ranged config) :
    config.dataLen.toUInt8.toNat = config.dataLen.toNat := by
  have size : maxConfigSize = 128 := rfl
  have long := range.2
  rw [UInt16.toNat_toUInt8]
  omega

theorem Sized.pushed (sized : s.Sized) {result : Option Errno}
    (pushed : Pushed s config data (s', result)) : s'.Sized := by
  have update {idx : Fin configSlotCount} {slot : ConfigSlot}
      (slots : s'.slots = Function.update s.slots idx slot)
      (length : slot.active = true → 1 ≤ slot.configLen.toNat ∧
        slot.configLen.toNat ≤ maxConfigSize) : s'.Sized := by
    intro other active
    rw [slots] at active ⊢
    by_cases here : other = idx
    · subst here
      rw [Function.update_self] at active ⊢
      exact length active
    · rw [Function.update_of_ne here] at active ⊢
      exact sized other active
  have positive (range : Ranged config) : 1 ≤ config.dataLen.toNat := by
    refine Nat.pos_of_ne_zero fun zero => range.1 ?_
    exact UInt16.toNat_inj.mp zero
  cases pushed with
  | outOfRange => exact sized
  | full => exact sized
  | @skipped _ idx range _ same slots =>
      refine update slots fun _ => ?_
      have length : (s.slots idx).configLen.toNat = config.dataLen.toNat := by
        simp [ConfigSlot.holdsSame] at same
        exact same.2
      have kept : (pendingSlot (s.slots idx)).configLen.toNat =
          config.dataLen.toNat := length
      rw [kept]
      exact ⟨positive range, range.2⟩
  | @written _ idx range _ _ _ slots =>
      refine update slots fun _ => ?_
      have kept : (pushedSlot (pendingSlot (s.slots idx)) config).configLen =
          config.dataLen.toUInt8 := rfl
      rw [kept, range.narrowed]
      exact ⟨positive range, range.2⟩
  | lost _ _ _ _ slots => exact update slots fun active => by cases active

theorem Sized.cmdConfig (sized : s.Sized) (args : List Char) :
    (s.cmdConfig env args).Sized := by
  have stored : (s.storeCommand env args).1.Sized := by
    unfold storeCommand
    split
    · exact sized
    · next command _ =>
      have pushed := validateAtConfig_pushed s command.config command.payload
      split
      · next outcome =>
        rw [outcome] at pushed
        exact sized.pushed pushed
      · next outcome =>
        rw [outcome] at pushed
        exact sized.pushed pushed
  unfold ConfigPlane.cmdConfig
  split
  · next outcome =>
    rw [outcome] at stored
    exact stored
  · next outcome =>
    rw [outcome] at stored
    exact stored

/-- Every event of a gateway keeps the lengths of the slots in use. -/
theorem Sized.gatewayStep (sized : s.Sized) {event : ConfigEvent}
    (role : env.deviceType = .gateway)
    (stepped : s.step env event = .ok s') : s'.Sized := by
  have cleared : s.clearOut.Sized := sized
  cases event with
  | config pkt srcId =>
      cases stepped
      exact cleared.shrinks (.of_same (handleConfig_gateway_same role))
  | configAck pkt =>
      have stepped : s.clearOut.handleConfigAck env pkt = .ok s' := stepped
      exact cleared.shrinks (handleConfigAck_shrinks stepped)
  | configReceived pkt srcId =>
      cases stepped
      exact cleared.shrinks (gatewayReceived_shrinks pkt srcId _)
  | configReceivedAck pkt =>
      cases stepped
      exact cleared.shrinks (.of_same (handleConfigReceivedAck_same pkt))
  | routeInfo pkt srcId =>
      have stepped : s.clearOut.sendRoutedConfig env pkt srcId = .ok s' :=
        stepped
      exact cleared.shrinks (.of_same (sendRoutedConfig_same stepped))
  | tick =>
      cases stepped
      exact cleared.shrinks (gatewayTick_shrinks role _)
  | cmdConfig args =>
      cases stepped
      exact cleared.cmdConfig args
  | cmdConfigAck args =>
      cases stepped
      rw [if_neg (by rw [role]; decide)]
      exact cleared
  | hostAnswer ok =>
      cases stepped
      exact cleared.shrinks (hostAnswer_shrinks ok _)
  | otherPending pending =>
      cases stepped
      exact cleared
  | restart =>
      cases stepped
      intro idx active
      cases active
  | elsewhere psram uart =>
      cases stepped
      exact cleared

end Lengths

section Answers

variable {config : SlmAtStructure} {data : List UInt8}

theorem pushTarget_some {idx : Fin configSlotCount}
    (target : s.pushTarget config = some idx) :
    (s.slots idx).active = true → (s.slots idx).dstDeviceId = config.deviceId ∧
      (s.slots idx).dstDeviceType = config.deviceType := by
  intro active
  unfold pushTarget at target
  split at target
  · next found =>
    cases target
    exact (findDeviceSlot_some found).2
  · rw [freeSlot_some target] at active
    cases active

/-- A request that finds no slot is held by none. -/
theorem pushTarget_none (target : s.pushTarget config = none)
    (idx : Fin configSlotCount) : ¬ (s.slots idx).ForRequest config := by
  intro held
  unfold pushTarget at target
  split at target
  · cases target
  · next missing =>
    exact findDeviceSlot_none missing idx held.active held.device held.kind

/-- There is one slot the request may be about. -/
theorem asked_iff {idx : Fin configSlotCount} {P : Fin configSlotCount → Prop}
    (range : Ranged config) (target : s.pushTarget config = some idx) :
    (Ranged config → ∀ idx, s.pushTarget config = some idx → P idx) ↔
      P idx := by
  constructor
  · intro all
    exact all range idx target
  · intro holds _ other found
    rw [target] at found
    cases found
    exact holds

theorem skipped_iff {idx : Fin configSlotCount}
    (target : s.pushTarget config = some idx)
    (same : (s.slots idx).holdsSame config.dataCrc32
      config.dataLen.toNat = true)
    (slots : s'.slots =
      Function.update s.slots idx (pendingSlot (s.slots idx)))
    (io : s'.io = s.io) :
    (∃ idx, s.pushTarget config = some idx ∧ Stores s s' config data idx) ↔
      Harmless s config data idx := by
  have own : s'.slots idx = pendingSlot (s.slots idx) := by
    rw [slots, Function.update_self]
  have bytes : s'.payload idx = s.payload idx := by
    unfold payload
    rw [own, io]
    rfl
  constructor
  · rintro ⟨found, isTarget, stores⟩
    rw [target] at isTarget
    cases isTarget
    have request := stores.request
    rw [own] at request
    refine ⟨fun _ => ⟨request.device, request.kind, request.id, ?_⟩, ?_⟩
    · rw [← bytes]
      exact stores.bytes
    · intro different
      rw [same] at different
      cases different
  · intro harmless
    obtain ⟨device, kind, id, held⟩ := harmless.skipped same
    simp only [ConfigSlot.holdsSame, decide_eq_true_eq] at same
    obtain ⟨crc32, len⟩ := same
    refine ⟨idx, target, ?_⟩
    constructor
    · rw [own]
      exact ⟨rfl, device, kind, id, len, crc32⟩
    · rw [own]
      rfl
    · rw [own]
      rfl
    · rw [own]
      rfl
    · exact bytes.trans held
    · intro other different
      have kept : s'.slots other = s.slots other := by
        rw [slots, Function.update_of_ne different]
      refine ⟨kept, fun _ => ?_⟩
      unfold payload
      rw [kept, io]

/-- A request that was written is stored. -/
theorem written_stores {idx : Fin configSlotCount} (sized : s.Sized)
    (range : Ranged config) (length : data.length = config.dataLen.toNat)
    (wrote : s.io.write (configSlotPsramAddr idx) data = (s'.io, none))
    (slots : s'.slots = Function.update s.slots idx
      (pushedSlot (pendingSlot (s.slots idx)) config)) :
    Stores s s' config data idx := by
  have mem := Io.write_stored wrote
  have own : s'.slots idx = pushedSlot (pendingSlot (s.slots idx)) config := by
    rw [slots, Function.update_self]
  have len : (s'.slots idx).configLen.toNat = data.length := by
    rw [own, length]
    exact range.narrowed
  constructor
  · rw [own]
    exact ⟨rfl, rfl, rfl, rfl, range.narrowed, rfl⟩
  · rw [own]
    rfl
  · rw [own]
    rfl
  · rw [own]
    rfl
  · unfold payload
    rw [len, mem]
    exact slice_splice _ _ _
  · intro other different
    have kept : s'.slots other = s.slots other := by
      rw [slots, Function.update_of_ne different]
    refine ⟨kept, fun active => ?_⟩
    unfold payload
    rw [kept, mem]
    exact slice_splice_other _ different (length ▸ range.2)
      (sized other active).2

theorem lost_iff {idx : Fin configSlotCount} {errno : Errno}
    (sized : s.Sized) (range : Ranged config)
    (target : s.pushTarget config = some idx)
    (length : data.length = config.dataLen.toNat)
    (different : (s.slots idx).holdsSame config.dataCrc32
      config.dataLen.toNat = false)
    (wrote : s.io.write (configSlotPsramAddr idx) data =
      (s'.io, some errno))
    (slots : s'.slots = Function.update s.slots idx
      (pushedSlot (pendingSlot (s.slots idx)) config).freed) :
    Refuses s s' config ↔ Harmless s config data idx := by
  have kept {other : Fin configSlotCount} (apart : other ≠ idx) :
      s'.slots other = s.slots other := by
    rw [slots, Function.update_of_ne apart]
  constructor
  · intro refuses
    refine ⟨fun same => ?_, fun _ _ other apart held => ?_⟩
    · rw [different] at same
      cases same
    · rw [← kept apart] at held
      exact refuses.absent other held
  · intro harmless
    have failed : (s.io.write (configSlotPsramAddr idx) data).2 ≠ none := by
      rw [wrote]
      exact Option.some_ne_none errno
    constructor
    · intro other held
      by_cases here : other = idx
      · subst here
        have active := held.active
        rw [slots, Function.update_self] at active
        cases active
      · rw [kept here] at held
        exact harmless.failed different failed other here held
    · intro other active foreign
      have apart : other ≠ idx := by
        rintro rfl
        obtain ⟨device, kind⟩ := pushTarget_some target active
        rcases foreign with otherDevice | otherKind
        · exact otherDevice device
        · exact otherKind kind
      refine ⟨kept apart, ?_⟩
      obtain ⟨written, mem⟩ := Io.write_failed wrote
      unfold payload
      rw [kept apart, mem]
      refine slice_splice_other _ apart ?_ (sized other active).2
      rw [List.length_take, length]
      exact (Nat.min_le_right _ _).trans range.2

/-- The answer is true exactly when what the slot held does no harm. -/
theorem answersTruly_iff (sized : s.Sized)
    (length : data.length = config.dataLen.toNat) :
    s.AnswersTruly config data ↔
      (Ranged config →
        ∀ idx, s.pushTarget config = some idx →
          Harmless s config data idx) := by
  have pushed := validateAtConfig_pushed s config data
  unfold AnswersTruly
  generalize s.validateAtConfig config data = outcome at pushed
  cases pushed with
  | outOfRange range =>
      refine ⟨fun _ allowed => absurd allowed range, fun _ => ⟨?_, ?_⟩⟩
      · intro idx held
        obtain ⟨low, high⟩ := sized idx held.active
        rw [held.length] at low high
        refine range ⟨fun zero => ?_, high⟩
        rw [zero] at low
        exact absurd low (by decide)
      · exact fun _ _ _ => ⟨rfl, rfl⟩
  | full range target =>
      refine ⟨fun _ _ idx found => ?_, fun _ => ⟨?_, ?_⟩⟩
      · rw [target] at found
        cases found
      · exact pushTarget_none target
      · exact fun _ _ _ => ⟨rfl, rfl⟩
  | @skipped after idx range target same slots io =>
      dsimp only
      rw [asked_iff range target]
      exact skipped_iff target same slots io
  | @written after idx range target different wrote slots =>
      dsimp only
      rw [asked_iff range target]
      refine ⟨fun _ => ⟨fun same => ?_, fun _ failed => ?_⟩, fun _ => ?_⟩
      · rw [different] at same
        cases same
      · rw [wrote] at failed
        exact absurd rfl failed
      · exact ⟨idx, target, written_stores sized range length wrote slots⟩
  | @lost after idx errno range target different wrote slots =>
      dsimp only
      rw [asked_iff range target]
      exact lost_iff sized range target length different wrote slots

end Answers

section Runs

/-- The events of a board that keeps its role and its address. -/
def OnBoard (board : Board) (_ : ConfigPlane)
    (occurrence : Env × ConfigEvent) : Prop :=
  occurrence.1.toBoard = board

/-- In every state a gateway reaches, `validate_at_config` answers a request
truly exactly when the slot it uses does not already hold another
configuration of the same checksum and length, and no failing write leaves the
request in a second slot. -/
theorem pushes_answeredTruly
    {board : Board} {io : Io} {config : SlmAtStructure} {data : List UInt8}
    (role : board.deviceType = .gateway)
    (reach : Trace.Reach counterStep (OnBoard board) { io := io } s)
    (length : data.length = config.dataLen.toNat) :
    s.AnswersTruly config data ↔
      (Ranged config →
        ∀ idx, s.pushTarget config = some idx →
          Harmless s config data idx) := by
  have sized : s.Sized := by
    apply reach.invariant
    · intro idx active
      cases active
    · rintro before ⟨env, event⟩ after sized same stepped
      have gateway : env.deviceType = .gateway := by
        rw [← role, ← same]
      exact sized.gatewayStep gateway stepped
  exact answersTruly_iff sized length

/-- A request for the sensor 6: the one-byte configuration `07` with id 3. -/
def requestForSix : SlmAtStructure where
  deviceId := 6
  deviceType := 3
  dataId := 3
  dataLen := 1
  dataCrc32 := 0x4C667A2E

/-- The sensor 5 is in the mesh but connected to no one. -/
def lostSensor : Env :=
  { pushGateway with
    meshDevices := fun _ =>
      { deviceType := 3, deviceId := 5, serialNum := 0xA
        connectedDeviceId := 0xFFFF } }

/-- The slot of a push that was given up is used again for another sensor and
another configuration. -/
theorem pushes_answeredTruly_reused :
    Trace.Ends counterStep {}
      [(pushGateway, firstPush), (lostSensor, .tick)] fun s =>
        (s.slots ⟨0, by decide⟩).configLen = 1 ∧
          s.AnswersTruly { requestForSix with dataCrc32 := 0xDCD967BF } [8] := by
  obtain ⟨s, executed, reused, target, different, written⟩ :
      Trace.Ends counterStep {}
        [(pushGateway, firstPush), (lostSensor, .tick)] fun s =>
          (s.slots ⟨0, by decide⟩).configLen = 1 ∧
            s.pushTarget requestForSix = some ⟨0, by decide⟩ ∧
            (s.slots ⟨0, by decide⟩).holdsSame 0xDCD967BF 1 = false ∧
            (s.io.write (configSlotPsramAddr ⟨0, by decide⟩) [8]).2 = none := by
    decide +kernel
  have reach : Trace.Reach counterStep (OnBoard pushGateway.toBoard)
      { io := {} } s := by
    refine .of_run (fun event member before => ?_) executed
    simp only [List.mem_cons, List.not_mem_nil, or_false] at member
    rcases member with rfl | rfl <;> rfl
  refine ⟨s, executed, reused, (pushes_answeredTruly rfl reach rfl).mpr
    fun _ idx there => ?_⟩
  cases Option.some.inj (there.symm.trans target)
  constructor
  · intro same
    cases different.symm.trans same
  · intro _ failed
    exact absurd written failed

/-- Once the push to the sensor 5 was given up, the same configuration for the
sensor 6 is accepted, but the slot is again one for the sensor 5. -/
theorem pushes_misaddressed :
    Trace.Ends counterStep {}
      [(pushGateway, firstPush), (lostSensor, .tick)] fun s =>
        pushGateway.crc.ieee [7] = requestForSix.dataCrc32 ∧
          (s.validateAtConfig requestForSix [7]).2 = none ∧
            ¬ s.AnswersTruly requestForSix [7] := by
  obtain ⟨s, executed, checksum, accepted, elsewhere⟩ :
      Trace.Ends counterStep {}
        [(pushGateway, firstPush), (lostSensor, .tick)] fun s =>
          pushGateway.crc.ieee [7] = requestForSix.dataCrc32 ∧
            (s.validateAtConfig requestForSix [7]).2 = none ∧
              ∀ idx, ((s.validateAtConfig requestForSix [7]).1.slots
                idx).dstDeviceId ≠ 6 := by
    decide +kernel
  refine ⟨s, executed, checksum, accepted, fun truly => ?_⟩
  unfold AnswersTruly at truly
  split at truly
  · next outcome =>
    obtain ⟨idx, -, stores⟩ := truly
    rw [outcome] at elsewhere
    exact elsewhere idx stores.request.device
  · next outcome =>
    rw [outcome] at accepted
    cases accepted

end Runs

end ConfigPlane

end DectMesh
