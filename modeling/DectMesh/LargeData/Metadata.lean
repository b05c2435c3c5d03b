import DectMesh.Library.Ledger
import DectMesh.LargeData.Delivered

/-!
# What a hop keeps of the announcement of a blob

The counterpart for large data: the slots in use are the announcements that
were answered with `SUCCESS`, and what an anchor announces next is its slot
but for the time.
-/

namespace DectMesh

/-- The metadata of a blob. -/
structure LdMeta where
  genDeviceId : UInt16
  dataId : UInt8
  reportTimeMs : UInt64
  totalSize : UInt32
  pageCount : UInt8
  lastChunkSize : UInt16
  crc32 : UInt32
  priority : UInt8
  deriving DecidableEq

def LdMeta.key (entry : LdMeta) : UInt16 × UInt8 :=
  (entry.genDeviceId, entry.dataId)

/-- The metadata an announcement carries. -/
def LargeDataInit.metadata (pkt : LargeDataInit) : LdMeta where
  genDeviceId := pkt.genDeviceId
  dataId := pkt.dataId
  reportTimeMs := pkt.reportTimeMs
  totalSize := pkt.totalSize
  pageCount := pkt.pageCount
  lastChunkSize := pkt.lastChunkSize
  crc32 := pkt.crc32
  priority := pkt.hdr.priority

/-- The metadata a slot holds. -/
def LdSlot.metadata (slot : LdSlot) : LdMeta where
  genDeviceId := slot.genDeviceId
  dataId := slot.dataId
  reportTimeMs := slot.reportTimeMs
  totalSize := slot.totalSize
  pageCount := slot.pageCount
  lastChunkSize := slot.lastChunkSize
  crc32 := slot.crc32
  priority := slot.priority

/-- The metadata of the slots in use. -/
def LdPlane.ledger (s : LdPlane) (idx : Fin ldReceiverSlotCount) :
    Option LdMeta :=
  if (s.slots idx).active then some (s.slots idx).metadata else none

/-- The announcement that an event answered with `SUCCESS`. -/
def LdEvent.accepted (event : LdEvent) (out : List Action) : Option LdMeta :=
  match event with
  | .largeDataInit pkt _ =>
      if (initAcks out).any (·.hdr.status = statusSuccess) then
        some pkt.metadata
      else
        none
  | _ => none

/-- A receiver, and the last announcement of each blob that it accepted. -/
structure LdRelay where
  plane : LdPlane
  accepted : UInt16 × UInt8 → Option LdMeta := fun _ => none

namespace LdRelay

/-- One event, with the announcement it accepted. -/
def note (relay : LdRelay) (event : LdEvent) (out : List Action) :
    UInt16 × UInt8 → Option LdMeta :=
  match event.accepted out with
  | some entry => Function.update relay.accepted entry.key (some entry)
  | none => relay.accepted

def step (relay : LdRelay) (event : Env × LdEvent) : Except Fault LdRelay :=
  match relay.plane.step event.1 event.2 with
  | .error fault => .error fault
  | .ok plane =>
      .ok { plane := plane, accepted := relay.note event.2 plane.io.out }

/-- The steps of a gateway or an anchor. -/
def OnReceiver (board : Board) (relay : LdRelay) (event : Env × LdEvent) :
    Prop :=
  LdOnBoard board relay.plane event ∧ board.deviceType ≠ .sensor

end LdRelay

open LdPlane

section Keeping

variable {env : Env} {event : LdEvent} {s s' : LdPlane}

theorem ldLedger_some {idx : Fin ldReceiverSlotCount} {entry : LdMeta} :
    s.ledger idx = some entry ↔
      (s.slots idx).active = true ∧ (s.slots idx).metadata = entry := by
  unfold LdPlane.ledger
  split
  · next active => simp [active]
  · next idle => simp [idle]

/-- One slot was replaced. -/
theorem ldLedger_update {idx : Fin ldReceiverSlotCount} {slot : LdSlot}
    (slots : s'.slots = Function.update s.slots idx slot) :
    s'.ledger = Function.update s.ledger idx
      (if slot.active then some slot.metadata else none) := by
  funext other
  unfold LdPlane.ledger
  rw [slots]
  by_cases same : other = idx
  · rw [same, Function.update_self, Function.update_self]
  · rw [Function.update_of_ne same, Function.update_of_ne same]

/-- The ledger sees nothing of the flags of a slot's way upstream. -/
theorem ldLedger_content {idx : Fin ldReceiverSlotCount}
    (same : (s'.slots idx).content = (s.slots idx).content) :
    s'.ledger idx = s.ledger idx := by
  have active : (s'.slots idx).active = (s.slots idx).active :=
    (congrArg LdSlot.active same :)
  have metadata : (s'.slots idx).metadata = (s.slots idx).metadata :=
    (congrArg LdSlot.metadata same :)
  unfold LdPlane.ledger
  rw [active, metadata]

/-- Only announcements bring new metadata to a gateway or an anchor. -/
theorem LdMove.keepsLedger (move : LdMove env event s s')
    (role : env.deviceType ≠ .sensor)
    (other : ∀ pkt srcId, event ≠ .largeDataInit pkt srcId)
    (idx : Fin ldReceiverSlotCount) (entry : LdMeta)
    (held : s'.ledger idx = some entry) : s.ledger idx = some entry := by
  have unchanged (same : (s'.slots idx).content = (s.slots idx).content) :
      s.ledger idx = some entry := (ldLedger_content same).symm.trans held
  have replaced {there : Fin ldReceiverSlotCount} {slot : LdSlot}
      (slots : s'.slots = Function.update s.slots there slot)
      (kept : slot.active = true → (s.slots there).active = true ∧
        slot.metadata = (s.slots there).metadata) :
      s.ledger idx = some entry := by
    rw [ldLedger_update slots] at held
    by_cases same : idx = there
    · rw [same, Function.update_self] at held
      split at held
      · next active =>
        obtain ⟨before, equal⟩ := kept active
        rw [same]
        exact ldLedger_some.mpr ⟨before, equal ▸ Option.some.inj held⟩
      · cases held
    · rwa [Function.update_of_ne same] at held
  have gone {there : Fin ldReceiverSlotCount} {slot : LdSlot}
      (slots : s'.slots = Function.update s.slots there slot)
      (free : slot.active = false) : s.ledger idx = some entry := by
    refine replaced slots fun active => ?_
    rw [free] at active
    cases active
  cases move with
  | quiet same => exact unchanged (same.slots idx)
  | acknowledged received acknowledged same => exact unchanged (same.slots idx)
  | freed => exact gone (freeLargeDataSlot_slots _ _ _) rfl
  | accepted init =>
      obtain ⟨srcId, received⟩ := init.received
      exact absurd received (other _ srcId)
  | storeFailed => exact unchanged rfl
  | stored => exact replaced rfl fun active => ⟨active, rfl⟩
  | completed => exact replaced rfl fun active => ⟨active, rfl⟩
  | rejected =>
      exact gone ((freeLargeDataSlot_slots _ _ _).trans
        (Function.update_idem _ _ _)) rfl
  | hostAllocated command => exact absurd command.role role
  | hostLost stageable => exact absurd stageable.role role
  | hostStored stageable => exact absurd stageable.role role
  | hostCompleted stageable => exact absurd stageable.role role
  | hostRejected stageable => exact absurd stageable.role role
  | restarted => cases held
  | elsewhere _ slots => exact unchanged (by rw [slots])

theorem ldStep_keepsLedger (role : env.deviceType ≠ .sensor)
    (other : ∀ pkt srcId, event ≠ .largeDataInit pkt srcId)
    (allowed : s.Elsewhere event) (stepped : s.step env event = .ok s')
    (idx : Fin ldReceiverSlotCount) (entry : LdMeta)
    (held : s'.ledger idx = some entry) : s.ledger idx = some entry := by
  have moves := LdPlane.step_moves allowed stepped
  clear stepped
  induction moves with
  | refl => exact held
  | tail _ move ih => exact ih (move.keepsLedger role other idx entry held)

/-- `validate_large_data_slot` copies what it accepts into a slot under a new
key, and changes nothing otherwise. -/
theorem LdPlane.Validated.ledger {pkt : LargeDataInit} {status : UInt8}
    (validated : Validated env s pkt s' status) :
    (status = statusSuccess ∧
      ∃ idx,
        (∀ other held, s.ledger other = some held →
          held.key ≠ pkt.metadata.key) ∧
        s'.ledger = Function.update s.ledger idx (some pkt.metadata)) ∨
      status ≠ statusSuccess ∧ s'.ledger = s.ledger := by
  cases validated with
  | @taken idx range idle missing free fits =>
      refine .inl ⟨rfl, idx, ?_, ?_⟩
      · intro other held there same
        obtain ⟨active, rfl⟩ := ldLedger_some.mp there
        have keys : (s.slots other).genDeviceId = pkt.genDeviceId ∧
            (s.slots other).dataId = pkt.dataId := by
          simpa [LdMeta.key, LdSlot.metadata, LargeDataInit.metadata]
            using same
        exact findLargeDataSlot_none missing other active keys.1 keys.2
      · exact @ldLedger_update s _ idx (acceptedSlot env
          (allocatedSlot (s.slots idx) range) pkt) rfl
  | busy => exact .inr ⟨by decide, rfl⟩
  | complete => exact .inr ⟨by decide, rfl⟩
  | known => exact .inr ⟨by decide, rfl⟩
  | full => exact .inr ⟨by decide, rfl⟩

/-- The answer to an announcement tells whether it was accepted. -/
theorem handleLargeDataInit_ledger {pkt : LargeDataInit} {srcId : UInt16}
    (silent : s.io.out = []) :
    ((LdEvent.largeDataInit pkt srcId).accepted
        (s.handleLargeDataInit env pkt srcId).io.out = some pkt.metadata ∧
      ∃ idx,
        (∀ other held, s.ledger other = some held →
          held.key ≠ pkt.metadata.key) ∧
        (s.handleLargeDataInit env pkt srcId).ledger =
          Function.update s.ledger idx (some pkt.metadata)) ∨
      (LdEvent.largeDataInit pkt srcId).accepted
          (s.handleLargeDataInit env pkt srcId).io.out = none ∧
        (s.handleLargeDataInit env pkt srcId).ledger = s.ledger := by
  generalize handled : s.handleLargeDataInit env pkt srcId = t
  have answered {t : LdPlane} {status : UInt8} (quiet : t.io = s.io) :
      (LdEvent.largeDataInit pkt srcId).accepted
          (t.put (initAnswer env pkt srcId status)).io.out =
        if status = statusSuccess then some pkt.metadata else none := by
    rw [put, Io.put_out, quiet, silent]
    simp [LdEvent.accepted, initAcks, initAnswer, Env.replyHeader]
  cases handleLargeDataInit_taken handled with
  | ignored =>
      rw [silent]
      exact .inr ⟨rfl, rfl⟩
  | malformed => exact .inr ⟨answered rfl, rfl⟩
  | answered considers outcome =>
      have validated := validateLargeDataSlot_validated outcome
      rw [answered validated.io]
      rcases validated.ledger with ⟨success, copied⟩ | ⟨refused, same⟩
      · exact .inl ⟨if_pos success, copied⟩
      · exact .inr ⟨if_neg refused, same⟩

end Keeping

section Sending

variable {env : Env} {s s' : LdPlane}

/-- The announcement of a ready slot, but for its time. -/
def LdPlane.AnnouncesReady (env : Env) (s : LdPlane) (pkt : LargeDataInit) :
    Prop :=
  ∃ idx entry, s.ledger idx = some entry ∧
    (s.slots idx).upstreamReady = true ∧
      pkt.metadata = { entry with reportTimeMs := UInt64.ofNat env.now }

theorem LdPlane.AnnouncesReady.congr {pkt : LargeDataInit}
    (announces : AnnouncesReady env s' pkt) (same : SameStore s s') :
    AnnouncesReady env s pkt := by
  obtain ⟨idx, entry, held, ready, equal⟩ := announces
  have still : (s'.slots idx).upstreamReady = (s.slots idx).upstreamReady :=
    (congrArg LdSlot.upstreamReady (same.slots idx) :)
  exact ⟨idx, entry, (ldLedger_content (same.slots idx)).symm.trans held,
    still ▸ ready, equal⟩

/-- What the loop announces is a ready slot of the state it started in. -/
theorem senderLoop_announcesReady (retry : Bool) {pkt : LargeDataInit}
    (senders : List (Fin ldSenderSlotCount)) (s : LdPlane)
    (sent : .request (.largeDataInit pkt) ∈
      (senderLoop env retry senders s).io.out) :
    .request (.largeDataInit pkt) ∈ s.io.out ∨ AnnouncesReady env s pkt := by
  induction senders generalizing s with
  | nil => exact .inl sent
  | cons senderIdx rest ih =>
      unfold senderLoop at sent
      split at sent
      · have io : (s.expireSender env retry senderIdx).io = s.io := by
          unfold LdPlane.expireSender
          dsimp only
          split
          · split
            · rfl
            · split
              · rfl
              · rfl
          · rfl
        rcases ih _ sent with before | later
        · rw [io] at before
          exact .inl before
        · exact .inr (later.congr (expireSender_same retry senderIdx))
      · split at sent
        · exact .inl sent
        · next idx found =>
          obtain ⟨active, ready, -⟩ := findPending_some found
          split at sent
          · rw [freeLargeDataSlot_io] at sent
            exact .inl sent
          · rcases ih _ sent with before | later
            · have added : .request (.largeDataInit pkt) ∈
                  s.io.out ++ [Action.request (.largeDataInit
                    { hdr :=
                        { deviceType := env.deviceType.code
                          priority := (s.slots idx).priority
                          deviceId := env.parent.deviceId }
                      genDeviceId := (s.slots idx).genDeviceId
                      dataId := (s.slots idx).dataId
                      reportTimeMs := UInt64.ofNat env.now
                      totalSize := (s.slots idx).totalSize
                      pageCount := (s.slots idx).pageCount.toUInt16.toUInt8
                      lastChunkSize := (s.slots idx).lastChunkSize
                      crc32 := (s.slots idx).crc32 })] := before
              rcases List.mem_append.mp added with earlier | new
              · exact .inl earlier
              · cases List.mem_singleton.mp new
                refine .inr ⟨idx, (s.slots idx).metadata,
                  ldLedger_some.mpr ⟨active, rfl⟩, ready, ?_⟩
                simp [LargeDataInit.metadata, LdSlot.metadata]
            · exact .inr (later.congr (startSender_same senderIdx idx))

theorem ldTick_sent (role : env.deviceType = .anchor)
    (ticked : s.step env .tick = .ok s') {pkt : LargeDataInit}
    (sent : .request (.largeDataInit pkt) ∈ s'.io.out) :
    AnnouncesReady env s pkt := by
  have stepped : s.clearOut.largeDataTick env = .ok s' := ticked
  unfold LdPlane.largeDataTick at stepped
  rw [role, Except.ok.injEq] at stepped
  rw [← stepped] at sent
  rcases senderLoop_announcesReady true _ _ sent with before | announces
  · cases before
  · exact announces.congr (.ofSlots rfl rfl rfl rfl)

end Sending

section Runs

variable {board : Board} {io : Io} {relay relay' : LdRelay}

open Ledger

theorem LdRelay.step_faithful {event : Env × LdEvent}
    (faithful : Faithful LdMeta.key relay.accepted relay.plane.ledger)
    (admitted : relay.OnReceiver board event)
    (stepped : relay.step event = .ok relay') :
    Faithful LdMeta.key relay'.accepted relay'.plane.ledger := by
  obtain ⟨env, event⟩ := event
  obtain ⟨⟨onBoard, allowed⟩, role⟩ := admitted
  subst onBoard
  unfold LdRelay.step at stepped
  split at stepped
  · cases stepped
  · next plane moved =>
    cases stepped
    by_cases isInit : ∃ pkt srcId, event = .largeDataInit pkt srcId
    · obtain ⟨pkt, srcId, rfl⟩ := isInit
      cases moved
      rcases @handleLargeDataInit_ledger env relay.plane.clearOut pkt srcId
        rfl with ⟨noted, idx, fresh, copied⟩ | ⟨noted, same⟩
      · dsimp only
        rw [LdRelay.note, noted, copied]
        exact faithful.accept (.inr fresh)
      · dsimp only
        rw [LdRelay.note, noted, same]
        exact faithful
    · push Not at isInit
      have noted : event.accepted plane.io.out = none := by
        cases event with
        | largeDataInit pkt srcId => exact absurd rfl (isInit pkt srcId)
        | _ => rfl
      dsimp only
      rw [LdRelay.note, noted]
      exact faithful.shrink (ldStep_keepsLedger role isInit allowed moved)

/-- In every run of a gateway or an anchor, every slot in use is the last
announcement that was accepted for its blob. -/
theorem LdRelay.reach_faithful
    (reach : Trace.Reach LdRelay.step (LdRelay.OnReceiver board)
      { plane := .boot io } relay) :
    Faithful LdMeta.key relay.accepted relay.plane.ledger := by
  apply reach.invariant
  · exact Faithful.empty _ _
  · intro before event after faithful admitted stepped
    exact before.step_faithful faithful admitted stepped

end Runs

end DectMesh
