import DectMesh.Report.Fidelity
import DectMesh.Report.InFlight

/-!
# Handing a report over

A sender forgets its report when a `REPORT_CHUNK_ACK` arrives after its last
chunk went out.  All chunks go out at once, so the acknowledgement may be that
of any chunk: this module follows the acknowledgements of a receiver to its
neighbour and asks when the receiver holds the report by then.
-/

namespace DectMesh

open ByteStore

/-- What an announcement says of the content of a report. -/
structure ReportDetails where
  totalSize : UInt16
  chunkCount : UInt8
  crc32 : UInt32
  deriving DecidableEq

def ReportSlot.details (slot : ReportSlot) : ReportDetails :=
  { totalSize := slot.totalSize, chunkCount := slot.chunkCount
    crc32 := slot.crc32 }

def ReportSender.details (sender : ReportSender) : ReportDetails :=
  { totalSize := sender.totalSize, chunkCount := sender.chunkCount
    crc32 := sender.crc32 }

/-- An acknowledgement; `last` is what was announced of the report, if the
receiver took it up since the transfer started and was missing only the chunk
that it answers. -/
structure ChunkAnswer where
  ack : ReportChunkAck
  last : Option ReportDetails
  deriving DecidableEq

/-- A sender and a receiver, with the acknowledgements in the air.  Of the
transfer that the sender last started under a key: the chunks that arrived
since, the slots that were taken up since, and which report was verified. -/
structure Handover where
  child : ReportPlane
  parent : ReportPlane
  air : List ChunkAnswer := []
  heard : UInt16 → UInt8 → Fin dataMaxChunks → Bool := fun _ _ _ => false
  taken : Fin dataSlotCount → Bool := fun _ => false
  verified : UInt16 → UInt8 → ReportDetails → Bool := fun _ _ _ => false

inductive HandoverEvent where
  | child (event : Env × ReportEvent)
  | parent (event : Env × ReportEvent)
  /-- An acknowledgement arrives; it may arrive again. -/
  | deliver (position : Nat) (env : Env)
  | lose (position : Nat)

namespace ReportPlane

variable (s s' : ReportPlane)

instance (genDeviceId : UInt16) (dataId : UInt8) (i : Fin maxAnchors) :
    Decidable (s.Sending genDeviceId dataId i) :=
  inferInstanceAs (Decidable (_ ∧ _ ∧ _))

/-- A transfer of the key starts. -/
def Starts (genDeviceId : UInt16) (dataId : UInt8) : Prop :=
  ∃ i, s'.Sending genDeviceId dataId i ∧ ¬ s.Sending genDeviceId dataId i

instance (genDeviceId : UInt16) (dataId : UInt8) :
    Decidable (s.Starts s' genDeviceId dataId) :=
  inferInstanceAs (Decidable (∃ _, _))

/-- A slot of the key becomes ready with this report: all its chunks have been
heard, and what is stored has the announced checksum. -/
def Verifies
    (crc : Checksum) (heard : UInt16 → UInt8 → Fin dataMaxChunks → Bool)
    (genDeviceId : UInt16) (dataId : UInt8) (details : ReportDetails) : Prop :=
  ∃ idx, (s.slots idx).upstreamReady = false ∧
    (s'.slots idx).active = true ∧ (s'.slots idx).upstreamReady = true ∧
      (s'.slots idx).genDeviceId = genDeviceId ∧
        (s'.slots idx).dataId = dataId ∧
          (s'.slots idx).details = details ∧
            (∀ chunk : Fin dataMaxChunks,
              chunk.val < details.chunkCount.toNat →
                heard genDeviceId dataId chunk = true) ∧
              (0 < details.totalSize.toNat →
                crc.ieee (slice s'.io.psram.mem (slotPsramAddr idx)
                  details.totalSize.toNat) = details.crc32)

instance
    (crc : Checksum) (heard : UInt16 → UInt8 → Fin dataMaxChunks → Bool)
    (genDeviceId : UInt16) (dataId : UInt8) (details : ReportDetails) :
    Decidable (s.Verifies s' crc heard genDeviceId dataId details) :=
  inferInstanceAs (Decidable (∃ _, _))

/-- The report of which the event brings the only missing chunk, if its slot
was taken up. -/
def bringsLast (taken : Fin dataSlotCount → Bool) :
    ReportEvent → Option ReportDetails
  | .reportChunk pkt _ =>
      match s.findSlot pkt.genDeviceId pkt.dataId with
      | some idx =>
          if taken idx ∧ (s.slots idx).receivedCount + 1 =
              (s.slots idx).chunkCount then
            some (s.slots idx).details
          else
            none
      | none => none
  | _ => none

/-- `handle_report_chunk_ack` takes its branch `Transfer complete`. -/
def Completes (env : Env) (pkt : ReportChunkAck) (srcId : UInt16) : Prop :=
  env.accepts pkt.hdr = true ∧
    ∃ i, s.findSenderSlot pkt.genDeviceId pkt.dataId = some i ∧
      (s.senders i).dstId = srcId ∧
        (s.senders i).chunkCount ≤ (s.senders i).nextChunk ∧
          pkt.hdr.status = statusSuccess

instance (env : Env) (pkt : ReportChunkAck) (srcId : UInt16) :
    Decidable (s.Completes env pkt srcId) :=
  inferInstanceAs (Decidable (_ ∧ ∃ _, _))

/-- The entry of the key sends this report, and so does the slot that goes
with it hold this one. -/
def GivesUp
    (genDeviceId : UInt16) (dataId : UInt8) (details : ReportDetails) : Prop :=
  (∃ i, s.findSenderSlot genDeviceId dataId = some i ∧
    (s.senders i).details = details) ∧
    ∀ idx, s.findSlot genDeviceId dataId = some idx →
      (s.slots idx).details = details

instance
    (genDeviceId : UInt16) (dataId : UInt8) (details : ReportDetails) :
    Decidable (s.GivesUp genDeviceId dataId details) :=
  inferInstanceAs (Decidable ((∃ _, _) ∧ _))

end ReportPlane

namespace ReportEvent

/-- The event is chunk `chunk` of the key. -/
def bringsChunk
    (genDeviceId : UInt16) (dataId : UInt8) (chunk : Fin dataMaxChunks) :
    ReportEvent → Bool
  | .reportChunk pkt _ =>
      pkt.genDeviceId = genDeviceId ∧ pkt.dataId = dataId ∧
        pkt.chunkIndex.toNat = chunk.val
  | _ => false

/-- The event announces the report of a slot, which is empty then. -/
def takesUp (slot : ReportSlot) : ReportEvent → Bool
  | .reportInit pkt _ =>
      slot.active ∧ slot.genDeviceId = pkt.genDeviceId ∧
        slot.dataId = pkt.dataId ∧ ∀ chunk, slot.received chunk = false
  | _ => false

end ReportEvent

/-- The chunk acknowledgements among the actions. -/
def reportChunkAcks (actions : List Action) : List ReportChunkAck :=
  actions.filterMap fun
    | .reply (.reportChunkAck ack) => some ack
    | _ => none

namespace Handover

variable (link : Handover)

/-- The sender moves; what is known of a key is forgotten when a transfer of
it starts. -/
def moveChild (child : ReportPlane) : Handover :=
  let keeps (genDeviceId : UInt16) (dataId : UInt8) : Bool :=
    !decide (link.child.Starts child genDeviceId dataId)
  { link with
    child := child
    air := link.air.map fun answer =>
      { answer with
        last :=
          if keeps answer.ack.genDeviceId answer.ack.dataId then answer.last
          else none }
    heard := fun genDeviceId dataId chunk =>
      link.heard genDeviceId dataId chunk && keeps genDeviceId dataId
    taken := fun idx =>
      link.taken idx && keeps (link.parent.slots idx).genDeviceId
        (link.parent.slots idx).dataId
    verified := fun genDeviceId dataId details =>
      link.verified genDeviceId dataId details && keeps genDeviceId dataId }

/-- The receiver moves on an event. -/
def moveParent (event : Env × ReportEvent) (parent : ReportPlane) : Handover :=
  let heard (genDeviceId : UInt16) (dataId : UInt8)
      (chunk : Fin dataMaxChunks) : Bool :=
    link.heard genDeviceId dataId chunk ||
      event.2.bringsChunk genDeviceId dataId chunk
  { link with
    parent := parent
    air := link.air ++ (reportChunkAcks parent.io.out).map fun ack =>
      { ack := ack, last := link.parent.bringsLast link.taken event.2 }
    heard := heard
    taken := fun idx => link.taken idx || event.2.takesUp (parent.slots idx)
    verified := fun genDeviceId dataId details =>
      link.verified genDeviceId dataId details ||
        decide (link.parent.Verifies parent event.1.crc heard genDeviceId
          dataId details) }

/-- One event of a sender and its receiver `parentId`. -/
def step (parentId : UInt16) (link : Handover) :
    HandoverEvent → Except Fault Handover
  | .child event =>
      match reportStep link.child event with
      | .error fault => .error fault
      | .ok child => .ok (link.moveChild child)
  | .parent event =>
      match reportStep link.parent event with
      | .error fault => .error fault
      | .ok parent => .ok (link.moveParent event parent)
  | .deliver position env =>
      match link.air[position]? with
      | none => .ok link
      | some answer =>
          match reportStep link.child
              (env, .reportChunkAck answer.ack parentId) with
          | .error fault => .error fault
          | .ok child => .ok (link.moveChild child)
  | .lose position => .ok { link with air := link.air.eraseIdx position }

/-- Every acknowledgement of a last chunk tells the truth. -/
def Backed : Prop :=
  ∀ answer ∈ link.air, ∀ details, answer.last = some details →
    answer.ack.hdr.status = statusSuccess →
      link.verified answer.ack.genDeviceId answer.ack.dataId details = true

end Handover

/-- What the chunks of a slot say of what was heard. -/
structure SlotGathers
    (heard : UInt16 → UInt8 → Fin dataMaxChunks → Bool) (taken : Bool)
    (slot : ReportSlot) : Prop where
  tally : SlotTally slot
  heard :
    taken = true → slot.upstreamReady = false →
      ∀ chunk, slot.received chunk = true →
        heard slot.genDeviceId slot.dataId chunk = true

/-- The chunks of a slot that was taken up have been heard. -/
def Gathers
    (heard : UInt16 → UInt8 → Fin dataMaxChunks → Bool)
    (taken : Fin dataSlotCount → Bool) (s : ReportPlane) : Prop :=
  ∀ idx, (s.slots idx).active = true →
    SlotGathers heard (taken idx) (s.slots idx)

section Gathering

variable {env : Env} {event : ReportEvent} {s s' : ReportPlane}
variable {heard : UInt16 → UInt8 → Fin dataMaxChunks → Bool}
variable {taken : Fin dataSlotCount → Bool}

theorem Gathers.keep
    (gathers : Gathers heard taken s) (slots : s'.slots = s.slots) :
    Gathers heard taken s' := by
  intro idx
  rw [slots]
  exact gathers idx

theorem Gathers.update
    {idx : Fin dataSlotCount} {slot : ReportSlot}
    (gathers : Gathers heard taken s)
    (slots : s'.slots = Function.update s.slots idx slot)
    (here : slot.active = true → SlotGathers heard (taken idx) slot) :
    Gathers heard taken s' := by
  intro other active
  rw [slots] at active ⊢
  by_cases same : other = idx
  · subst same
    rw [Function.update_self] at active ⊢
    exact here active
  · rw [Function.update_of_ne same] at active ⊢
    exact gathers other active

/-- A report that is complete needs no more chunks. -/
theorem SlotGathers.ofReady
    {slot : ReportSlot} {taken : Bool} (tally : SlotTally slot)
    (ready : slot.upstreamReady = true) : SlotGathers heard taken slot where
  tally := tally
  heard := by
    intro _ notReady
    rw [ready] at notReady
    cases notReady

theorem SlotGathers.flagged
    {slot : ReportSlot} {taken : Bool}
    (gathers : SlotGathers heard taken slot) (isSent isTransfered : Bool) :
    SlotGathers heard taken
      { slot with isSent := isSent, isTransfered := isTransfered } :=
  ⟨⟨gathers.tally.flags, gathers.tally.counted, gathers.tally.complete⟩,
    gathers.heard⟩

/-- A chunk sets its flag when it arrives, and an announcement clears all. -/
theorem ReportMove.gathers
    (move : ReportMove env event s s')
    (arrives : ∀ genDeviceId dataId chunk,
      event.bringsChunk genDeviceId dataId chunk = true →
        heard genDeviceId dataId chunk = true)
    (gathers : Gathers heard taken s) : Gathers heard taken s' := by
  cases move with
  | quiet same => exact gathers.keep same.slots
  | sentChunk reason sending inRange mem out => exact gathers.keep rfl
  | freed reason =>
      apply gathers.update (s.reportSlotFree_slots _ _)
      simp [ReportPlane.freedSlot]
  | stopped reason => exact gathers.keep rfl
  | advanced below => exact gathers.keep rfl
  | @retried senderIdx idx timeout sending active gen id =>
      exact gathers.update rfl fun _ => (gathers idx active).flagged _ _
  | @started senderIdx idx role ticked idle active ready =>
      exact gathers.update rfl fun _ => (gathers idx active).flagged _ _
  | accepted init target notReady =>
      refine gathers.update rfl fun _ => ⟨⟨?_, ?_, ?_⟩, ?_⟩ <;>
        simp [ReportPlane.acceptedSlot, notReady]
  | storeFailed role received storable mem out => exact gathers.keep rfl
  | @stored idx chunk pkt io srcId role received storable mem out partly =>
      obtain ⟨active, gen, id⟩ := ReportPlane.findSlot_some storable.found
      have before := gathers idx active
      refine gathers.update rfl fun _ =>
        ⟨storedSlot_tally storable before.tally, fun fresh unready other flag => ?_⟩
      by_cases same : other = chunk
      · apply arrives
        subst received
        simp [ReportEvent.bringsChunk, ReportPlane.storedSlot, gen, id, same,
          storable.index]
      · simp only [ReportPlane.storedSlot, Function.update_of_ne same] at flag
        exact before.heard fresh unready other flag
  | @completed idx chunk pkt io srcId role received storable mem out full =>
      have active := (ReportPlane.findSlot_some storable.found).1
      exact gathers.update rfl fun _ =>
        .ofReady (readySlot_tally storable (gathers idx active).tally full) rfl
  | rejected role received storable mem out =>
      apply gathers.update
        ((ReportPlane.reportSlotFree_slots _ _ _).trans
          (Function.update_idem _ _ _))
      simp [ReportPlane.freedSlot]
  | @forwarded idx role =>
      exact gathers.update rfl fun active => (gathers idx active).flagged _ _
  | @transfered idx =>
      exact gathers.update rfl fun active => (gathers idx active).flagged _ _
  | hostStored accepted target mem out =>
      refine gathers.update rfl fun _ => .ofReady ⟨?_, ?_, ?_⟩ rfl <;>
        simp [ReportPlane.hostSlot]
  | hostLost accepted target mem out failed =>
      apply gathers.update
        ((ReportPlane.reportSlotFree_slots _ _ _).trans
          (Function.update_idem _ _ _))
      simp [ReportPlane.freedSlot]
  | restarted restart =>
      intro idx active
      simp [ReportPlane.reportInit] at active
  | elsewhere other slots senders region out => exact gathers.keep slots

theorem ReportPlane.step_gathers
    (stepped : s.step env event = .ok s')
    (arrives : ∀ genDeviceId dataId chunk,
      event.bringsChunk genDeviceId dataId chunk = true →
        heard genDeviceId dataId chunk = true)
    (gathers : Gathers heard taken s) : Gathers heard taken s' := by
  have byMoves (allowed : s.Elsewhere event) : Gathers heard taken s' := by
    have moves := ReportPlane.step_moves allowed stepped
    clear stepped
    induction moves with
    | refl => exact gathers.keep rfl
    | tail _ move ih => exact move.gathers arrives ih
  cases event with
  | elsewhere psram uart =>
      cases stepped
      exact gathers.keep rfl
  | _ => exact byMoves trivial

end Gathering

section Receiver

variable {env : Env} {s s' : ReportPlane}
variable {heard heard' : UInt16 → UInt8 → Fin dataMaxChunks → Bool}
variable {taken : Fin dataSlotCount → Bool}

/-- Storing a chunk puts nothing out. -/
theorem validateReportChunk_out
    {pkt : ReportChunk} {status : UInt8}
    (validated : s.validateReportChunk env pkt = .ok (s', status)) :
    s'.io.out = s.io.out := by
  unfold ReportPlane.validateReportChunk at validated
  split at validated
  · cases validated
    rfl
  · next idx found =>
    dsimp only at validated
    split at validated
    · cases validated
      rfl
    · split at validated
      · cases validated
      · split at validated
        · cases validated
          rfl
        · split at validated
          · next io errno wrote =>
            cases validated
            exact Io.write_out_eq wrote
          · next io wrote =>
            have out := Io.write_out_eq wrote
            split at validated
            · unfold ReportPlane.verifyReport at validated
              dsimp only at validated
              split at validated
              · cases validated
                simpa using out
              · split at validated
                · cases validated
                  simpa using out
                · cases validated
                  simpa using out
            · cases validated
              exact out

/-- `STATUS_SUCCESS` of `verify_report` means that the checksum agreed. -/
theorem verifyReport_success
    {idx : Fin dataSlotCount}
    (verified : s.verifyReport env idx = (s', statusSuccess)) :
    s'.slots idx = ReportPlane.readySlot env (s.slots idx) ∧
      (0 < (s.slots idx).totalSize.toNat →
        env.crc.ieee (slice s'.io.psram.mem (slotPsramAddr idx)
          (s.slots idx).totalSize.toNat) = (s.slots idx).crc32) := by
  unfold ReportPlane.verifyReport at verified
  dsimp only at verified
  have failed {after : ReportPlane} {P : Prop}
      (same : (after, statusCrcFail) = (s', statusSuccess)) : P :=
    absurd (congrArg Prod.snd same) (by decide : statusCrcFail ≠ statusSuccess)
  split at verified
  · exact failed verified
  · next psram crc same =>
    split at verified
    · next equal =>
      cases verified
      refine ⟨Function.update_self idx _ _, fun positive => ?_⟩
      have spec := Psram.stagedCrc_spec env.crc
        (show 0 < crcVerifyStageSize by decide) s.io.psram
        (slotPsramAddr idx) positive (Nat.le_refl _)
      have result := spec.2 crc (congrArg Prod.snd same)
      have mem : psram.mem = s.io.psram.mem := by
        rw [← spec.1]
        exact (congrArg (fun outcome => outcome.1.mem) same).symm
      rw [ReportPlane.setSlot_io]
      dsimp only
      rw [mem]
      exact result.symm.trans equal
    · exact failed verified

/-- `STATUS_SUCCESS` for the last missing chunk means a verified report. -/
theorem validateReportChunk_last
    {pkt : ReportChunk} {srcId : UInt16} {details : ReportDetails}
    (gathers : Gathers heard taken s)
    (validated : s.validateReportChunk env pkt = .ok (s', statusSuccess))
    (last : s.bringsLast taken (.reportChunk pkt srcId) = some details)
    (kept : ∀ genDeviceId dataId chunk,
      heard genDeviceId dataId chunk = true →
        heard' genDeviceId dataId chunk = true)
    (arrives : ∀ chunk : Fin dataMaxChunks,
      pkt.chunkIndex.toNat = chunk.val →
        heard' pkt.genDeviceId pkt.dataId chunk = true) :
    s.Verifies s' env.crc heard' pkt.genDeviceId pkt.dataId details := by
  have refused {after : ReportPlane} {status : UInt8} {P : Prop}
      (same : Except.ok (after, status) =
        (.ok (s', statusSuccess) : Except Fault (ReportPlane × UInt8)))
      (other : status ≠ statusSuccess) : P :=
    absurd (congrArg Prod.snd (Except.ok.inj same)) other
  unfold ReportPlane.validateReportChunk at validated
  unfold ReportPlane.bringsLast at last
  split at validated
  · exact refused validated (by decide)
  · next idx found =>
    obtain ⟨active, gen, id⟩ := ReportPlane.findSlot_some found
    simp only [found, Option.ite_none_right_eq_some] at last
    obtain ⟨⟨fresh, full⟩, same⟩ := last
    cases same
    dsimp only at validated
    split at validated
    · exact refused validated (by decide)
    · next inRange =>
      split at validated
      · cases validated
      · next chunk inside =>
        split at validated
        · exact refused validated (by decide)
        · next missing =>
          have storable : StorableChunk s idx chunk pkt :=
            { found := found
              index := ReportPlane.receivedIndex_val inside
              inRange := UInt8.not_le.mp inRange
              missing := by simpa using missing }
          have before := gathers idx active
          have unready := storable.notReady before.tally
          have ready : SlotTally (ReportPlane.readySlot env
              (ReportPlane.storedSlot env (s.slots idx) chunk)) :=
            readySlot_tally storable before.tally full
          split at validated
          · exact refused validated (by decide)
          · next io wrote =>
            obtain ⟨slot, checksum⟩ :=
              verifyReport_success (Except.ok.inj validated)
            simp only [ReportPlane.setSlot_slots, Function.update_self]
              at slot checksum
            refine ⟨idx, unready, ?_⟩
            rw [slot]
            refine ⟨active, rfl, gen, id, rfl, fun other below => ?_, checksum⟩
            -- the chunk that just came, or one that came before
            have flag := ready.complete rfl other below
            by_cases this : other = chunk
            · exact arrives other (this ▸ storable.index)
            · simp only [ReportPlane.readySlot, ReportPlane.storedSlot,
                Function.update_of_ne this] at flag
              have early := before.heard fresh unready other flag
              rw [gen, id] at early
              exact kept _ _ _ early

/-- An acknowledgement of a chunk is sent for the chunk that was handled. -/
theorem reportChunkAcks_mem
    {event : ReportEvent} {ack : ReportChunkAck} {details : ReportDetails}
    (gathers : Gathers heard taken s)
    (stepped : s.step env event = .ok s')
    (last : s.bringsLast taken event = some details)
    (member : ack ∈ reportChunkAcks s'.io.out)
    (success : ack.hdr.status = statusSuccess)
    (kept : ∀ genDeviceId dataId chunk,
      heard genDeviceId dataId chunk = true →
        heard' genDeviceId dataId chunk = true)
    (arrives : ∀ genDeviceId dataId chunk,
      event.bringsChunk genDeviceId dataId chunk = true →
        heard' genDeviceId dataId chunk = true) :
    s.Verifies s' env.crc heard' ack.genDeviceId ack.dataId details := by
  cases event with
  | reportChunk pkt srcId =>
      rcases ReportPlane.handleReportChunk_answered stepped with
        rfl | ⟨after, status, -, validated, rfl⟩
      · cases member
      · have out : after.io.out = [] := validateReportChunk_out validated
        simp only [reportChunkAcks, ReportPlane.put, Io.put, out,
          List.nil_append, List.filterMap_cons, List.filterMap_nil,
          List.mem_singleton] at member
        subst member
        rw [show status = statusSuccess from success] at validated
        have found := @ReportPlane.findSlot_congr s s.clearOut rfl
          pkt.genDeviceId pkt.dataId
        have here : s.clearOut.bringsLast taken (.reportChunk pkt srcId) =
            some details := by
          simp only [ReportPlane.bringsLast, found]
          exact last
        have cleared : Gathers heard taken s.clearOut := gathers.keep rfl
        have heardNow : ∀ chunk : Fin dataMaxChunks,
            pkt.chunkIndex.toNat = chunk.val →
              heard' pkt.genDeviceId pkt.dataId chunk = true := by
          intro chunk index
          apply arrives
          simp [ReportEvent.bringsChunk, index]
        obtain ⟨idx, verifies⟩ :=
          validateReportChunk_last cleared validated here kept heardNow
        exact ⟨idx, verifies⟩
  | _ => cases last

end Receiver

section Runs

variable {link after : Handover} {parentId : UInt16}

/-- What the receiver's slots and the acknowledgements in the air say. -/
structure Handover.Sound (link : Handover) : Prop where
  gathers : Gathers link.heard link.taken link.parent
  backed : link.Backed

theorem Handover.Sound.moveChild
    (sound : link.Sound) (child : ReportPlane) : (link.moveChild child).Sound where
  gathers := by
    intro idx active
    have before := sound.gathers idx active
    refine ⟨before.tally, fun taken unready chunk flag => ?_⟩
    simp only [Handover.moveChild, Bool.and_eq_true] at taken ⊢
    exact ⟨before.heard taken.1 unready chunk flag, taken.2⟩
  backed := by
    intro answer member details last success
    obtain ⟨old, present, rfl⟩ := List.mem_map.mp member
    simp only [Option.ite_none_right_eq_some] at last
    simp only [Handover.moveChild, Bool.and_eq_true]
    exact ⟨sound.backed old present details last.2 success, last.1⟩

theorem Handover.Sound.moveParent
    {event : Env × ReportEvent} {parent : ReportPlane} (sound : link.Sound)
    (moved : reportStep link.parent event = .ok parent) :
    (link.moveParent event parent).Sound := by
  have kept : ∀ genDeviceId dataId chunk,
      link.heard genDeviceId dataId chunk = true →
        (link.moveParent event parent).heard genDeviceId dataId chunk =
          true := by
    intro genDeviceId dataId chunk heard
    simp [Handover.moveParent, heard]
  have arrives : ∀ genDeviceId dataId chunk,
      event.2.bringsChunk genDeviceId dataId chunk = true →
        (link.moveParent event parent).heard genDeviceId dataId chunk =
          true := by
    intro genDeviceId dataId chunk brings
    simp [Handover.moveParent, brings]
  have widened :
      Gathers (link.moveParent event parent).heard link.taken link.parent := by
    intro idx active
    have before := sound.gathers idx active
    exact ⟨before.tally, fun taken unready chunk flag =>
      kept _ _ _ (before.heard taken unready chunk flag)⟩
  constructor
  · intro idx active
    have slot := ReportPlane.step_gathers moved arrives widened idx active
    refine ⟨slot.tally, fun taken unready chunk flag => ?_⟩
    simp only [Handover.moveParent, Bool.or_eq_true] at taken
    rcases taken with before | fresh
    · exact slot.heard before unready chunk flag
    · -- a slot that was just announced holds nothing
      have empty : ∀ chunk, (parent.slots idx).received chunk = false := by
        unfold ReportEvent.takesUp at fresh
        split at fresh
        · exact (of_decide_eq_true fresh).2.2.2
        · cases fresh
      exact absurd ((empty chunk).symm.trans flag) Bool.false_ne_true
  · intro answer member details last success
    simp only [Handover.moveParent, Bool.or_eq_true, decide_eq_true_eq]
    rcases List.mem_append.mp member with old | new
    · exact .inl (sound.backed answer old details last success)
    · obtain ⟨ack, sent, rfl⟩ := List.mem_map.mp new
      exact .inr (reportChunkAcks_mem sound.gathers moved last sent success kept
        arrives)

theorem Handover.Sound.step
    {event : HandoverEvent} (sound : link.Sound)
    (stepped : link.step parentId event = .ok after) : after.Sound := by
  cases event with
  | child event =>
      simp only [Handover.step] at stepped
      split at stepped
      · cases stepped
      · next child moved =>
        cases stepped
        exact sound.moveChild child
  | parent event =>
      simp only [Handover.step] at stepped
      split at stepped
      · cases stepped
      · next parent moved =>
        cases stepped
        exact sound.moveParent moved
  | deliver position env =>
      simp only [Handover.step] at stepped
      split at stepped
      · cases stepped
        exact sound
      · split at stepped
        · cases stepped
        · next child moved =>
          cases stepped
          exact sound.moveChild child
  | lose position =>
      cases stepped
      exact ⟨sound.gathers, fun answer member =>
        sound.backed answer (List.mem_of_mem_eraseIdx member)⟩

/-- `Completes` selects the branch that ends the transfer. -/
theorem handleReportChunkAck_completes
    {env : Env} {s : ReportPlane} {pkt : ReportChunkAck} {srcId : UInt16}
    (completes : s.Completes env pkt srcId) :
    ∃ i, s.findSenderSlot pkt.genDeviceId pkt.dataId = some i ∧
      s.handleReportChunkAck env pkt srcId =
        .ok ((s.put (.untrack pkt.hdr.trackingId)).completeTransfer i) := by
  obtain ⟨accepted, i, found, dst, sent, success⟩ := completes
  obtain ⟨active, gen, id⟩ := ReportPlane.findSenderSlot_some found
  refine ⟨i, found, ?_⟩
  unfold ReportPlane.handleReportChunkAck
  simp only [accepted, ReportPlane.findSenderSlot_put, found,
    ReportPlane.senderIndex_indexByte_some, Bool.not_true, Bool.false_eq_true,
    if_false]
  rw [if_neg (by
    simp only [not_or, not_not, Bool.not_eq_true', Bool.not_eq_false]
    exact ⟨active, gen, id, dst⟩), if_pos ⟨sent, success⟩]

/-- In every run, when the acknowledgement of the last missing chunk ends a
transfer and the sender gives its report up, the receiver has heard all chunks
of this report since the transfer started and has verified them. -/
theorem handover_verified
    {childIo parentIo : Io} {position : Nat} {env : Env}
    {answer : ChunkAnswer} {details : ReportDetails}
    (reach : Trace.Reach (Handover.step parentId) (fun _ _ => True)
      { child := .boot childIo, parent := .boot parentIo } link)
    (arrives : link.air[position]? = some answer)
    (completes : link.child.Completes env answer.ack parentId)
    (gives : link.child.GivesUp answer.ack.genDeviceId answer.ack.dataId
      details)
    (last : answer.last = some details) :
    (∃ i, link.child.handleReportChunkAck env answer.ack parentId =
        .ok ((link.child.put (.untrack answer.ack.hdr.trackingId)
          ).completeTransfer i) ∧ (link.child.senders i).details = details) ∧
      link.verified answer.ack.genDeviceId answer.ack.dataId details =
        true := by
  have sound : link.Sound := by
    apply reach.invariant
    · constructor
      · intro idx active
        simp [ReportPlane.boot] at active
      · intro answer member
        cases member
    · intro before event after sound _ stepped
      exact sound.step stepped
  obtain ⟨i, found, handled⟩ := handleReportChunkAck_completes completes
  obtain ⟨⟨j, here, sends⟩, -⟩ := gives
  cases here.symm.trans found
  obtain ⟨-, -, -, -, -, success⟩ := completes
  exact ⟨⟨i, handled, sends⟩,
    sound.backed answer (List.mem_of_getElem? arrives) details last success⟩

end Runs

section Samples

/-- The gateway above the sample sensor. -/
def sampleReceiver : Env :=
  { deviceType := .gateway, deviceId := 1, crc := Checksum.crc32Ieee }

/-- The sensor announces its report 1. -/
def announcement
    (totalSize : UInt16) (chunkCount lastChunkSize : UInt8) (crc32 : UInt32) :
    ReportEvent :=
  .reportInit
    { hdr := { deviceType := 3, deviceId := 1 }
      genDeviceId := 5, dataId := 1, reportTimeMs := 0
      totalSize := totalSize, chunkCount := chunkCount
      lastChunkSize := lastChunkSize, crc32 := crc32 } 5

/-- What the gateway answers to the first chunk of report 1. -/
def firstAnswer : ReportChunkAck :=
  { hdr := { deviceType := 1, deviceId := 5 }
    genDeviceId := 5, dataId := 1, chunkIndex := 0 }

/-- `AT#REPORT` for 200 zero bytes with id 1. -/
def longReport : List Char :=
  "\"A\",\"1\",\"C8\",\"0\",\"C971A876\",\"".toList ++
    List.replicate 400 '0' ++ "\"".toList

example : longReport.length = 430 := by
  decide +kernel

theorem longReport_crc :
    Checksum.crc32Ieee.ieee (List.replicate 200 0) = 0xC971A876 :=
  @Checksum.crc32Ieee_zeros 4 (by decide)

/-- The content of this report. -/
def longDetails : ReportDetails :=
  { totalSize := 200, chunkCount := 2, crc32 := 0xC971A876 }

/-- The sensor announces a report of two chunks, and the gateway receives the
first. -/
def firstOfTwo (crc : Checksum) : List HandoverEvent :=
  let sensor : Env := { sampleSensor with crc := crc }
  let gateway : Env := { sampleReceiver with crc := crc }
  [.child (sensor, .cmdReport longReport), .child (sensor, .tick),
    .parent (gateway, announcement 200 2 20 0xC971A876),
    .child (sensor, initAck 1),
    .parent (gateway,
      .reportChunk (sampleChunk 1 (List.replicate 180 0)) 5)]

/-- Both chunks arrive, and the acknowledgement of the first is lost. -/
def bothOfTwo (crc : Checksum) : List HandoverEvent :=
  let gateway : Env := { sampleReceiver with crc := crc }
  firstOfTwo crc ++
    [.parent (gateway,
      .reportChunk { sampleChunk 1 (List.replicate 20 0) with
        chunkIndex := 1 } 5), .lose 0]

/-- What the gateway answers to the second chunk. -/
def secondAnswer : ReportChunkAck := { firstAnswer with chunkIndex := 1 }

theorem handover_verified_second :
    Trace.Ends (Handover.step 1) { child := .boot {}, parent := .boot {} }
      (bothOfTwo Checksum.crc32Ieee)
      fun link =>
        (∃ i, link.child.handleReportChunkAck sampleSensor secondAnswer 1 =
          .ok ((link.child.put (.untrack 0)).completeTransfer i) ∧
            (link.child.senders i).details = longDetails) ∧
        link.verified 5 1 longDetails = true := by
  obtain ⟨link, executed, arrives, completes, gives⟩ :
      Trace.Ends (Handover.step 1) { child := .boot {}, parent := .boot {} }
        (bothOfTwo Checksum.crc32Ieee)
        fun link =>
          link.air[0]? =
              some { ack := secondAnswer, last := some longDetails } ∧
            link.child.Completes sampleSensor secondAnswer 1 ∧
              link.child.GivesUp 5 1 longDetails := by
    rw [← Checksum.withValue_eq longReport_crc]
    decide +kernel
  have reach : Trace.Reach (Handover.step 1) (fun _ _ => True)
      { child := .boot {}, parent := .boot {} } link :=
    .of_run (fun _ _ _ => trivial) executed
  exact ⟨link, executed, handover_verified reach arrives completes gives rfl⟩

/-- The acknowledgement of the first of two chunks ends the transfer, and the
sensor gives its slot up: the gateway holds no complete report. -/
theorem handover_early :
    Trace.Ends (Handover.step 1) { child := .boot {}, parent := .boot {} }
      (firstOfTwo Checksum.crc32Ieee)
      fun link =>
        link.air[0]? = some { ack := firstAnswer, last := none } ∧
          link.child.Completes sampleSensor firstAnswer 1 ∧
            (link.child.slots ⟨0, by decide⟩).active = true ∧
              (∀ idx, (link.parent.slots idx).upstreamReady = false) ∧
                link.verified 5 1 longDetails = false ∧
                  Trace.Ends (Handover.step 1) link [.deliver 0 sampleSensor]
                    fun after =>
                      (after.child.slots ⟨0, by decide⟩).active = false ∧
                        after.verified 5 1 longDetails = false := by
  rw [← Checksum.withValue_eq longReport_crc]
  decide +kernel

end Samples

end DectMesh
