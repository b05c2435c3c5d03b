import DectMesh.Library.Ledger
import DectMesh.Report.Delivered
import DectMesh.Report.Scheduling

/-!
# What a hop keeps of an announcement

An accepted `REPORT_INIT` is copied into a slot, the slot into a sender and
the sender into the next `REPORT_INIT`.  The slots of a gateway or an anchor
stay equal to the announcements that were answered with `SUCCESS`; the next
announcement is equal to the slot but for its time.
-/

namespace DectMesh

/-- The metadata of a report. -/
structure ReportMeta where
  genDeviceId : UInt16
  dataId : UInt8
  reportTimeMs : UInt64
  totalSize : UInt16
  chunkCount : UInt8
  lastChunkSize : UInt8
  crc32 : UInt32
  priority : UInt8
  deriving DecidableEq

def ReportMeta.key (entry : ReportMeta) : UInt16 × UInt8 :=
  (entry.genDeviceId, entry.dataId)

/-- The metadata an announcement carries. -/
def ReportInit.metadata (pkt : ReportInit) : ReportMeta where
  genDeviceId := pkt.genDeviceId
  dataId := pkt.dataId
  reportTimeMs := pkt.reportTimeMs
  totalSize := pkt.totalSize
  chunkCount := pkt.chunkCount
  lastChunkSize := pkt.lastChunkSize
  crc32 := pkt.crc32
  priority := pkt.hdr.priority

/-- The metadata a slot holds. -/
def ReportSlot.metadata (slot : ReportSlot) : ReportMeta where
  genDeviceId := slot.genDeviceId
  dataId := slot.dataId
  reportTimeMs := slot.reportTimeMs
  totalSize := slot.totalSize
  chunkCount := slot.chunkCount
  lastChunkSize := slot.lastChunkSize
  crc32 := slot.crc32
  priority := slot.priority

/-- The metadata of the slots in use. -/
def ReportPlane.ledger (s : ReportPlane) (idx : Fin dataSlotCount) :
    Option ReportMeta :=
  if (s.slots idx).active then some (s.slots idx).metadata else none

/-- The announcement that an event answered with `SUCCESS`. -/
def ReportEvent.accepted (event : ReportEvent) (out : List Action) :
    Option ReportMeta :=
  match event with
  | .reportInit pkt _ =>
      if (reportInitAcks out).any (·.hdr.status = statusSuccess) then
        some pkt.metadata
      else
        none
  | _ => none

/-- A receiver, and the last announcement of each report that it accepted. -/
structure ReportRelay where
  plane : ReportPlane := {}
  accepted : UInt16 × UInt8 → Option ReportMeta := fun _ => none

namespace ReportRelay

/-- One event, with the announcement it accepted. -/
def note (relay : ReportRelay) (event : ReportEvent) (out : List Action) :
    UInt16 × UInt8 → Option ReportMeta :=
  match event.accepted out with
  | some entry => Function.update relay.accepted entry.key (some entry)
  | none => relay.accepted

def step (relay : ReportRelay) (event : Env × ReportEvent) :
    Except Fault ReportRelay :=
  match relay.plane.step event.1 event.2 with
  | .error fault => .error fault
  | .ok plane =>
      .ok { plane := plane, accepted := relay.note event.2 plane.io.out }

/-- The steps of a gateway or an anchor. -/
def OnReceiver (board : Board) (relay : ReportRelay)
    (event : Env × ReportEvent) : Prop :=
  OnBoard board relay.plane event ∧ board.deviceType ≠ .sensor

end ReportRelay

open ReportPlane

section Keeping

variable {env : Env} {event : ReportEvent} {s s' : ReportPlane}

theorem ledger_some {idx : Fin dataSlotCount} {entry : ReportMeta} :
    s.ledger idx = some entry ↔
      (s.slots idx).active = true ∧ (s.slots idx).metadata = entry := by
  unfold ledger
  split
  · next active => simp [active]
  · next idle => simp [idle]

/-- One slot was replaced. -/
theorem ledger_update {idx : Fin dataSlotCount} {slot : ReportSlot}
    (slots : s'.slots = Function.update s.slots idx slot) :
    s'.ledger = Function.update s.ledger idx
      (if slot.active then some slot.metadata else none) := by
  funext other
  unfold ledger
  rw [slots]
  by_cases same : other = idx
  · rw [same, Function.update_self, Function.update_self]
  · rw [Function.update_of_ne same, Function.update_of_ne same]

/-- Only announcements bring new metadata to a gateway or an anchor. -/
theorem ReportMove.keepsLedger (move : ReportMove env event s s')
    (role : env.deviceType ≠ .sensor)
    (other : ∀ pkt srcId, event ≠ .reportInit pkt srcId)
    (idx : Fin dataSlotCount) (entry : ReportMeta)
    (held : s'.ledger idx = some entry) : s.ledger idx = some entry := by
  have unchanged (slots : s'.slots = s.slots) : s.ledger idx = some entry := by
    unfold ledger at held ⊢
    rwa [slots] at held
  have replaced {there : Fin dataSlotCount} {slot : ReportSlot}
      (slots : s'.slots = Function.update s.slots there slot)
      (kept : slot.active = true → (s.slots there).active = true ∧
        slot.metadata = (s.slots there).metadata) :
      s.ledger idx = some entry := by
    rw [ledger_update slots] at held
    by_cases same : idx = there
    · rw [same, Function.update_self] at held
      split at held
      · next active =>
        obtain ⟨before, equal⟩ := kept active
        rw [same]
        exact ledger_some.mpr ⟨before, equal ▸ Option.some.inj held⟩
      · cases held
    · rwa [Function.update_of_ne same] at held
  have gone {there : Fin dataSlotCount} {slot : ReportSlot}
      (slots : s'.slots = Function.update s.slots there slot)
      (free : slot.active = false) : s.ledger idx = some entry := by
    refine replaced slots fun active => ?_
    rw [free] at active
    cases active
  cases move with
  | quiet same => exact unchanged same.slots
  | sentChunk => exact unchanged rfl
  | freed => exact gone (reportSlotFree_slots _ _ _) rfl
  | stopped => exact unchanged rfl
  | advanced => exact unchanged rfl
  | retried => exact replaced rfl fun active => ⟨active, rfl⟩
  | started => exact replaced rfl fun active => ⟨active, rfl⟩
  | accepted init =>
      obtain ⟨srcId, received⟩ := init.received
      exact absurd received (other _ srcId)
  | storeFailed => exact unchanged rfl
  | stored => exact replaced rfl fun active => ⟨active, rfl⟩
  | completed => exact replaced rfl fun active => ⟨active, rfl⟩
  | rejected =>
      exact gone ((reportSlotFree_slots _ _ _).trans
        (Function.update_idem _ _ _)) rfl
  | forwarded => exact replaced rfl fun active => ⟨active, rfl⟩
  | transfered => exact replaced rfl fun active => ⟨active, rfl⟩
  | hostStored command => exact absurd command.role role
  | hostLost command => exact absurd command.role role
  | restarted => cases held
  | elsewhere _ slots => exact unchanged slots

theorem step_keepsLedger (role : env.deviceType ≠ .sensor)
    (other : ∀ pkt srcId, event ≠ .reportInit pkt srcId)
    (allowed : s.Elsewhere event) (stepped : s.step env event = .ok s')
    (idx : Fin dataSlotCount) (entry : ReportMeta)
    (held : s'.ledger idx = some entry) : s.ledger idx = some entry := by
  have moves := step_moves allowed stepped
  clear stepped
  induction moves with
  | refl => exact held
  | tail _ move ih => exact ih (move.keepsLedger role other idx entry held)

/-- Where an announcement is put: in the slot of its key, or in a free slot. -/
def Place (s : ReportPlane) (idx : Fin dataSlotCount) (entry : ReportMeta) :
    Prop :=
  (∃ old, s.ledger idx = some old ∧ old.key = entry.key) ∨
    ∀ other held, s.ledger other = some held → held.key ≠ entry.key

/-- `validate_slot` copies what it accepts, and changes nothing otherwise. -/
theorem ReportPlane.Validated.ledger {pkt : ReportInit} {status : UInt8}
    (validated : Validated env s pkt s' status) :
    (status = statusSuccess ∧ ∃ idx, Place s idx pkt.metadata ∧
      s'.ledger = Function.update s.ledger idx (some pkt.metadata)) ∨
      status ≠ statusSuccess ∧ s'.ledger = s.ledger := by
  cases validated with
  | @again idx found waits =>
      obtain ⟨active, gen, id⟩ := findSlot_some found
      have copied : (s.setSlot idx (acceptedSlot env (s.slots idx) pkt)).ledger =
          Function.update s.ledger idx (some pkt.metadata) :=
        @ledger_update s _ idx (acceptedSlot env (s.slots idx) pkt) rfl
      refine .inl ⟨rfl, idx, .inl ⟨_, ledger_some.mpr ⟨active, rfl⟩, ?_⟩,
        copied⟩
      simp [ReportMeta.key, ReportSlot.metadata, ReportInit.metadata, gen, id]
  | @fresh idx missing free =>
      refine .inl ⟨rfl, idx, .inr ?_, ?_⟩
      · intro other held there same
        obtain ⟨active, rfl⟩ := ledger_some.mp there
        have keys : (s.slots other).genDeviceId = pkt.genDeviceId ∧
            (s.slots other).dataId = pkt.dataId := by
          simpa [ReportMeta.key, ReportSlot.metadata, ReportInit.metadata]
            using same
        exact findSlot_none missing other active keys.1 keys.2
      · refine @ledger_update s _ idx
          (acceptedSlot env (clearedSlot (s.slots idx)) pkt) ?_
        rw [setSlot_slots, updateReportCount_slots]
  | ready => exact .inr ⟨by decide, rfl⟩
  | full => exact .inr ⟨by decide, rfl⟩

/-- The answer to an announcement tells whether it was accepted. -/
theorem handleReportInit_ledger {pkt : ReportInit} {srcId : UInt16}
    (silent : s.io.out = []) :
    ((ReportEvent.reportInit pkt srcId).accepted
        (s.handleReportInit env pkt srcId).io.out = some pkt.metadata ∧
      ∃ idx, Place s idx pkt.metadata ∧
        (s.handleReportInit env pkt srcId).ledger =
          Function.update s.ledger idx (some pkt.metadata)) ∨
      (ReportEvent.reportInit pkt srcId).accepted
          (s.handleReportInit env pkt srcId).io.out = none ∧
        (s.handleReportInit env pkt srcId).ledger = s.ledger := by
  generalize handled : s.handleReportInit env pkt srcId = t
  have answered {t : ReportPlane} {status : UInt8} (quiet : t.io = s.io) :
      (ReportEvent.reportInit pkt srcId).accepted
          (t.put (initAnswer env pkt srcId status)).io.out =
        if status = statusSuccess then some pkt.metadata else none := by
    rw [put_io, Io.put_out, quiet, silent]
    simp [ReportEvent.accepted, reportInitAcks, initAnswer, Env.replyHeader]
  cases handleReportInit_taken handled with
  | ignored =>
      rw [silent]
      exact .inr ⟨rfl, rfl⟩
  | malformed => exact .inr ⟨answered rfl, rfl⟩
  | answered role below sizes validated =>
      rw [answered validated.io]
      rcases validated.ledger with ⟨success, copied⟩ | ⟨refused, same⟩
      · exact .inl ⟨if_pos success, copied⟩
      · exact .inr ⟨if_neg refused, same⟩

end Keeping

section Sending

variable {env : Env} {s s' : ReportPlane}

/-- The next announcement is the slot's metadata with the time of the tick. -/
theorem ReportPlane.Start.announced_metadata {start : Start} {pkt : ReportInit}
    (sent : start.announced env = .request (.reportInit pkt)) :
    pkt.metadata =
      { (start.moment.slots start.slot).metadata with
        reportTimeMs := UInt64.ofNat env.now } := by
  cases sent
  rfl

theorem tick_sent (role : env.deviceType = .anchor)
    (ticked : s.step env .tick = .ok s') {pkt : ReportInit}
    (sent : .request (.reportInit pkt) ∈ s'.io.out) :
    ∃ idx entry, s.ledger idx = some entry ∧
      (s.slots idx).upstreamReady = true ∧
        pkt.metadata =
          { entry with reportTimeMs := UInt64.ofNat env.now } := by
  have stepped : s.clearOut.reportTick env = .ok s' := ticked
  unfold reportTick at stepped
  dsimp only at stepped
  rw [role, Except.ok.injEq] at stepped
  have out : (senderLoop env false (List.finRange maxAnchors)
      (expireSlots env allSlots s.clearOut)).io.out = _ :=
    senderLoop_out false (List.finRange maxAnchors) _
  rw [expireSlots_io] at out
  rw [← stepped, anchorReportTick, out] at sent
  obtain ⟨start, started, announced⟩ := List.mem_map.mp sent
  obtain ⟨unmoved, pending, -⟩ := loopStarts_moment started
  have kept := (unmoved.slots start.slot)
  have active : ((expireSlots env allSlots s.clearOut).slots
      start.slot).active = true := (unmoved.fields start.slot).1 ▸ pending.1
  have shrunk := @expireSlots_shrunk env allSlots s.clearOut start.slot active
  have same := kept.trans shrunk
  have metadata : (start.moment.slots start.slot).metadata =
      (s.slots start.slot).metadata :=
    (congrArg ReportSlot.metadata same :)
  refine ⟨start.slot, (s.slots start.slot).metadata, ?_, ?_, ?_⟩
  · exact ledger_some.mpr
      ⟨(congrArg ReportSlot.active same :).symm.trans pending.1, rfl⟩
  · exact (congrArg ReportSlot.upstreamReady same :).symm.trans pending.2.1
  · rw [Start.announced_metadata announced, metadata]

end Sending

section Runs

variable {board : Board} {io : Io} {relay relay' : ReportRelay}

open Ledger

theorem ReportRelay.step_faithful {event : Env × ReportEvent}
    (faithful : Faithful ReportMeta.key relay.accepted relay.plane.ledger)
    (admitted : relay.OnReceiver board event)
    (stepped : relay.step event = .ok relay') :
    Faithful ReportMeta.key relay'.accepted relay'.plane.ledger := by
  obtain ⟨env, event⟩ := event
  obtain ⟨⟨onBoard, allowed⟩, role⟩ := admitted
  subst onBoard
  unfold ReportRelay.step at stepped
  split at stepped
  · cases stepped
  · next plane moved =>
    cases stepped
    by_cases isInit : ∃ pkt srcId, event = .reportInit pkt srcId
    · obtain ⟨pkt, srcId, rfl⟩ := isInit
      cases moved
      rcases @handleReportInit_ledger env relay.plane.clearOut pkt srcId rfl with
        ⟨noted, idx, place, copied⟩ | ⟨noted, same⟩
      · dsimp only
        rw [ReportRelay.note, noted, copied]
        exact faithful.accept place
      · dsimp only
        rw [ReportRelay.note, noted, same]
        exact faithful
    · push Not at isInit
      have noted : event.accepted plane.io.out = none := by
        cases event with
        | reportInit pkt srcId => exact absurd rfl (isInit pkt srcId)
        | _ => rfl
      dsimp only
      rw [ReportRelay.note, noted]
      exact faithful.shrink (step_keepsLedger role isInit allowed moved)

/-- In every run of a gateway or an anchor, every slot in use is the last
announcement that was accepted for its report. -/
theorem ReportRelay.reach_faithful
    (reach : Trace.Reach ReportRelay.step (ReportRelay.OnReceiver board)
      { plane := .boot io } relay) :
    Faithful ReportMeta.key relay.accepted relay.plane.ledger := by
  apply reach.invariant
  · exact Faithful.empty _ _
  · intro before event after faithful admitted stepped
    exact before.step_faithful faithful admitted stepped

end Runs

end DectMesh
