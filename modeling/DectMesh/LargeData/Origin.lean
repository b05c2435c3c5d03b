import DectMesh.Attribution
import DectMesh.Emission
import DectMesh.LargeData.Destinations
import DectMesh.LargeData.Metadata

/-!
# Where a blob comes from

The counterpart for large data.  A sensor cuts a blob anew once its host has
staged it, so what every hop keeps is the device, the id, the size and the
checksum.
-/

namespace DectMesh

open ByteStore LdPlane

/-- What every hop keeps of a blob. -/
structure LdIdentity where
  genDeviceId : UInt16
  dataId : UInt8
  totalSize : UInt32
  crc32 : UInt32
  deriving DecidableEq

def LdMeta.identity (entry : LdMeta) : LdIdentity where
  genDeviceId := entry.genDeviceId
  dataId := entry.dataId
  totalSize := entry.totalSize
  crc32 := entry.crc32

/-- The blob that the host of a sensor announces. -/
def LdPlane.LdInitCommand.identity (env : Env)
    (command : LdPlane.LdInitCommand) : LdIdentity where
  genDeviceId := env.deviceId
  dataId := command.id.toUInt8
  totalSize := command.total.toUInt32
  crc32 := command.crc32.toUInt32

namespace LdPlane

variable {env : Env} {s s' : LdPlane}

section Orders

/-- The announcement of a slot in use. -/
def AnnouncesSlot (s : LdPlane) (action : Action) : Prop :=
  ∃ pkt idx, action = .request (.largeDataInit pkt) ∧
    (s.slots idx).active = true ∧
      pkt.metadata.identity = (s.slots idx).metadata.identity

theorem AnnouncesSlot.congr {action : Action}
    (announces : s'.AnnouncesSlot action) (same : SameStore s s') :
    s.AnnouncesSlot action := by
  obtain ⟨pkt, idx, sent, active, equal⟩ := announces
  have still : (s'.slots idx).active = (s.slots idx).active :=
    (congrArg LdSlot.active (same.slots idx) :)
  have metadata : (s'.slots idx).metadata = (s.slots idx).metadata :=
    (congrArg LdSlot.metadata (same.slots idx) :)
  exact ⟨pkt, idx, sent, still ▸ active, metadata ▸ equal⟩

/-- The senders announce slots in use. -/
theorem senderLoop_emits (retry : Bool)
    (senders : List (Fin ldSenderSlotCount)) :
    Io.Emits s.AnnouncesSlot s.io (senderLoop env retry senders s).io := by
  induction senders generalizing s with
  | nil => exact .refl _
  | cons senderIdx rest ih =>
      unfold senderLoop
      split
      · have expired : (s.expireSender env retry senderIdx).io = s.io := by
          unfold expireSender
          dsimp only
          split
          · split
            · rfl
            · split <;> rfl
          · rfl
        have later := @ih (s.expireSender env retry senderIdx)
        rw [expired] at later
        exact later.mono fun action announces =>
          announces.congr (expireSender_same retry senderIdx)
      · split
        · exact .refl _
        · next idx found =>
          obtain ⟨active, ready, -⟩ := findPending_some found
          split
          · exact .of_out (congrArg Io.out (freeLargeDataSlot_io _ _ _))
          · have first : Io.Emits s.AnnouncesSlot s.io
                (s.startSender env senderIdx idx).io :=
              .put (.inr ⟨_, idx, rfl, active, rfl⟩)
            exact first.trans (ih.mono fun action announces =>
              announces.congr (startSender_same senderIdx idx))

/-- Whatever the plane passes on is the announcement of a slot in use. -/
theorem step_orders {event : LdEvent} (stepped : s.step env event = .ok s')
    {action : Action} (sent : action ∈ s'.io.out) :
    action.routedTo = none ∨ s.AnnouncesSlot action := by
  by_cases ticked : event = .tick
  · have emits : Io.Emits s.clearOut.AnnouncesSlot s.clearOut.io s'.io := by
      subst ticked
      have stepped : s.clearOut.largeDataTick env = .ok s' := stepped
      unfold largeDataTick at stepped
      split at stepped
      · exact .of_routed rfl (gatewayLoop_routed _ stepped)
      · cases stepped
        exact senderLoop_emits true _
      · cases stepped
        exact senderLoop_emits false _
      · cases stepped
        exact .refl _
    exact (emits action sent).resolve_left fun before => by cases before
  · left
    by_contra passed
    obtain ⟨dst, receiver⟩ := Option.ne_none_iff_exists'.mp passed
    have routed : dst ∈ s'.io.routed :=
      List.mem_filterMap.mpr ⟨action, sent, receiver⟩
    have up := (step_receives stepped dst routed).1
    cases event with
    | tick => exact ticked rfl
    | _ => exact up

end Orders

/-- What is known of the blob of every slot in use. -/
def Genuine (known : LdIdentity → Prop) (s : LdPlane) : Prop :=
  ∀ idx, (s.slots idx).active = true →
    known (s.slots idx).metadata.identity

end LdPlane

/-- It is known of what an event brings in. -/
def LdEvent.Genuine (known : LdIdentity → Prop) (env : Env) : LdEvent → Prop
  | .largeDataInit pkt _ => known pkt.metadata.identity
  | .cmdLdInit args =>
      ∀ command, LdAcceptedCommand env (.cmdLdInit args) command →
        known (command.identity env)
  | _ => True

section Keeping

variable {known wider : LdIdentity → Prop} {env : Env} {event : LdEvent}
variable {s s' : LdPlane}

theorem LdPlane.Genuine.mono (genuine : s.Genuine known)
    (implies : ∀ entry, known entry → wider entry) : s.Genuine wider :=
  fun idx active => implies _ (genuine idx active)

theorem LdPlane.Genuine.congr (genuine : s.Genuine known)
    (slots : ∀ idx, (s'.slots idx).content = (s.slots idx).content) :
    s'.Genuine known := by
  intro idx active
  have before : (s.slots idx).active = true :=
    (congrArg LdSlot.active (slots idx)).symm.trans active
  have metadata : (s'.slots idx).metadata = (s.slots idx).metadata :=
    (congrArg LdSlot.metadata (slots idx) :)
  rw [metadata]
  exact genuine idx before

theorem LdPlane.Genuine.update {idx : Fin ldReceiverSlotCount}
    {slot : LdSlot} (genuine : s.Genuine known)
    (slots : s'.slots = Function.update s.slots idx slot)
    (changed : slot.active = true → known slot.metadata.identity) :
    s'.Genuine known := by
  rw [LdPlane.Genuine, slots]
  exact (Function.forall_update_iff s.slots
    fun _ slot => slot.active = true → known slot.metadata.identity).mpr
      ⟨changed, fun other _ => genuine other⟩

/-- Only a new blob brings a new identity. -/
theorem LdMove.keepsGenuine (move : LdMove env event s s')
    (new : event.Genuine known env) (genuine : s.Genuine known) :
    s'.Genuine known := by
  have gone {t : LdPlane} {idx : Fin ldReceiverSlotCount} {slot : LdSlot}
      (slots : t.slots = Function.update s.slots idx slot)
      (free : slot.active = false) : t.Genuine known := by
    refine genuine.update slots fun active => ?_
    rw [free] at active
    cases active
  have replaced {t' : LdPlane} {idx : Fin ldReceiverSlotCount}
      {slot : LdSlot} (active : (s.slots idx).active = true)
      (slots : t'.slots = Function.update s.slots idx slot)
      (same : slot.metadata.identity = (s.slots idx).metadata.identity) :
      t'.Genuine known :=
    genuine.update slots fun _ => same ▸ genuine idx active
  cases move with
  | quiet same => exact genuine.congr same.slots
  | acknowledged received complete same => exact genuine.congr same.slots
  | freed => exact gone (freeLargeDataSlot_slots _ _ _) rfl
  | accepted init =>
      obtain ⟨srcId, rfl⟩ := init.received
      exact genuine.update rfl fun _ => new
  | storeFailed => exact genuine
  | stored role received storable => exact replaced storable.active rfl rfl
  | completed role received storable => exact replaced storable.active rfl rfl
  | rejected =>
      exact gone ((freeLargeDataSlot_slots _ _ _).trans
        (Function.update_idem _ _ _)) rfl
  | hostAllocated accepted =>
      obtain ⟨args, rfl, parsed⟩ := accepted.received
      exact genuine.update rfl fun _ => new _ accepted
  | hostLost => exact gone (freeLargeDataSlot_slots _ _ _) rfl
  | hostStored stageable => exact replaced stageable.active rfl rfl
  | hostCompleted stageable => exact replaced stageable.active rfl rfl
  | hostRejected =>
      exact gone ((freeLargeDataSlot_slots _ _ _).trans
        (Function.update_idem _ _ _)) rfl
  | restarted restart =>
      intro idx active
      cases active
  | elsewhere other slots => exact genuine.congr fun idx => by rw [slots]

theorem LdPlane.step_genuine (allowed : s.Elsewhere event)
    (stepped : s.step env event = .ok s') (new : event.Genuine known env)
    (genuine : s.Genuine known) : s'.Genuine known := by
  have moves := step_moves allowed stepped
  clear stepped
  induction moves with
  | refl => exact genuine.congr fun _ => rfl
  | tail _ move ih => exact move.keepsGenuine new ih

end Keeping

section Lines

variable {env : Env} {s s' : LdPlane}

/-- The line tells the host about this slot. -/
def LdPlane.LineOf (env : Env) (s : LdPlane) (idx : Fin ldReceiverSlotCount)
    (text : AtLine) : Prop :=
  ∃ serialNum, text = ldInitLine env
    (gatewaySender (s.senders theSender) (s.slots idx)) (s.slots idx) serialNum

/-- Every line of a gateway's tick tells the host about a slot with a verified
blob, as it stands before the tick. -/
theorem LdPlane.tick_lines (role : env.deviceType = .gateway)
    (ticked : s.step env .tick = .ok s') {text : AtLine}
    (written : .line text ∈ s'.io.out) :
    ∃ idx, (s.slots idx).active = true ∧ (s.slots idx).upstreamReady = true ∧
      s.LineOf env idx text := by
  have stepped : s.clearOut.largeDataTick env = .ok s' := ticked
  unfold largeDataTick at stepped
  rw [role] at stepped
  have gateway : s.clearOut.gatewayLargeDataTick env = .ok s' := stepped
  by_cases picks : ∃ idx, s.clearOut.PicksUp idx
  · obtain ⟨idx, picks⟩ := picks
    obtain ⟨active, ready, -⟩ := findPending_some picks.2
    by_cases searched :
        0 < env.meshCount ∧ ¬ env.Lists (s.clearOut.slots idx).genDeviceId
    · obtain ⟨_, after, -, ends, same, -⟩ :=
        gatewayTick_unlisted picks searched.1 searched.2
      cases ends.symm.trans gateway
      rw [same] at written
      cases written
    · obtain ⟨entry, -, line | ⟨nothing, -⟩⟩ :=
        gatewayTick_searched picks searched gateway
      · rw [line] at written
        cases List.mem_singleton.mp written
        exact ⟨idx, active, ready, entry.serialNum, rfl⟩
      · rw [nothing] at written
        cases written
  · cases gatewayTick_idle (fun idx there => picks ⟨idx, there⟩) gateway
    cases written

end Lines

end DectMesh
