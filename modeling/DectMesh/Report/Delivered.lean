import DectMesh.Library.Link
import DectMesh.Report.Isolation

/-!
# What `STATUS_ALREADY_EXISTS` promises

The counterpart for reports: a receiver answers an announcement with
`STATUS_ALREADY_EXISTS` because it holds a verified report with that key, and
the sender forgets its own.
-/

namespace DectMesh

open ByteStore

/-- The size and the checksum each key stands for. -/
abbrev ReportContent := UInt16 → UInt8 → UInt16 × UInt32

/-- A slot without the flags of its way upstream. -/
def ReportSlot.content (slot : ReportSlot) : ReportSlot :=
  { slot with isSent := false, isTransfered := false }

/-- A new report with the content of its key. -/
def ReportEvent.Conforms (content : ReportContent) (env : Env) :
    ReportEvent → Prop
  | .reportInit pkt _ =>
      content pkt.genDeviceId pkt.dataId = (pkt.totalSize, pkt.crc32)
  | .cmdReport args =>
      ∀ command, ReportPlane.parseReport args = some command →
        content env.deviceId command.report.dataId.toUInt8 =
          (command.report.dataLen, command.report.dataCrc32)
  | _ => True

namespace ReportPlane

variable (s : ReportPlane)

/-- Every slot in use has the content of its key. -/
def Conforms (content : ReportContent) : Prop :=
  ∀ idx, (s.slots idx).active = true →
    content (s.slots idx).genDeviceId (s.slots idx).dataId =
      ((s.slots idx).totalSize, (s.slots idx).crc32)

/-- The slot holds a verified report with this key. -/
def Ready (genDeviceId : UInt16) (dataId : UInt8) (idx : Fin dataSlotCount) :
    Prop :=
  (s.slots idx).active = true ∧ (s.slots idx).upstreamReady = true ∧
    (s.slots idx).genDeviceId = genDeviceId ∧ (s.slots idx).dataId = dataId

/-- The event makes the plane forget a verified report with this key: its
timer has expired, or the next hop has it. -/
def Discards (env : Env) (genDeviceId : UInt16) (dataId : UInt8) :
    ReportEvent → Prop
  | .restart => True
  | .tick =>
      ∃ idx, s.Ready genDeviceId dataId idx ∧
        (s.slots idx).idleTimeout.expired env.now = true
  | .reportInitAck pkt _ =>
      pkt.hdr.status = statusAlreadyExists ∧
        pkt.genDeviceId = genDeviceId ∧ pkt.dataId = dataId
  | .reportChunkAck pkt _ =>
      pkt.hdr.status = statusSuccess ∧ pkt.genDeviceId = genDeviceId ∧
        pkt.dataId = dataId
  | _ => False

/-- The plane holds a verified report with this key, size and checksum. -/
def HoldsReport (crc : Checksum) (genDeviceId : UInt16) (dataId : UInt8)
    (totalSize : UInt16) (crc32 : UInt32) : Prop :=
  ∃ idx, s.Ready genDeviceId dataId idx ∧
    (s.slots idx).totalSize = totalSize ∧ (s.slots idx).crc32 = crc32 ∧
      crc.ieee (slice s.io.psram.mem (slotPsramAddr idx) totalSize.toNat) =
        crc32

end ReportPlane

section Steps

variable {content : ReportContent} {env : Env} {event : ReportEvent}
variable {s s' : ReportPlane}

theorem ReportPlane.Conforms.congr
    (conforms : s.Conforms content) (slots : s'.slots = s.slots) :
    s'.Conforms content := by
  intro idx active
  rw [slots] at active ⊢
  exact conforms idx active

theorem ReportPlane.Conforms.update
    {idx : Fin dataSlotCount} {slot : ReportSlot}
    (conforms : s.Conforms content)
    (slots : s'.slots = Function.update s.slots idx slot)
    (changed : slot.active = true →
      content slot.genDeviceId slot.dataId = (slot.totalSize, slot.crc32)) :
    s'.Conforms content := by
  rw [ReportPlane.Conforms, slots]
  exact (Function.forall_update_iff s.slots
    fun _ slot => slot.active = true → content slot.genDeviceId slot.dataId =
      (slot.totalSize, slot.crc32)).mpr
      ⟨changed, fun other _ => conforms other⟩

/-- Only a new report brings a new content. -/
theorem ReportMove.keepsConforms
    (move : ReportMove env event s s') (new : event.Conforms content env)
    (conforms : s.Conforms content) : s'.Conforms content := by
  have storable {idx : Fin dataSlotCount} {chunk : Fin dataMaxChunks}
      {pkt : ReportChunk} (storable : StorableChunk s idx chunk pkt) :
      (s.slots idx).active = true :=
    (ReportPlane.findSlot_some storable.found).1
  cases move with
  | quiet same => exact conforms.congr same.slots
  | sentChunk => exact conforms.congr rfl
  | freed reason =>
      refine conforms.update (ReportPlane.reportSlotFree_slots _ _ _) ?_
      simp [ReportPlane.freedSlot]
  | stopped => exact conforms.congr rfl
  | advanced below => exact conforms.congr rfl
  | retried sending active => exact conforms.update rfl (conforms _)
  | started role ticked idle active => exact conforms.update rfl (conforms _)
  | accepted init target =>
      obtain ⟨srcId, rfl⟩ := init.received
      exact conforms.update rfl fun _ => new
  | storeFailed => exact conforms.congr rfl
  | stored role received chunk =>
      exact conforms.update rfl fun _ => conforms _ (storable chunk)
  | completed role received chunk =>
      exact conforms.update rfl fun _ => conforms _ (storable chunk)
  | rejected role received chunk =>
      refine conforms.update
        ((ReportPlane.reportSlotFree_slots _ _ _).trans
          (Function.update_idem _ _ _)) ?_
      simp [ReportPlane.freedSlot]
  | forwarded => exact conforms.update rfl (conforms _)
  | transfered => exact conforms.update rfl (conforms _)
  | hostStored accepted target =>
      obtain ⟨args, rfl, parsed⟩ := accepted.parsed
      exact conforms.update rfl fun _ => new _ parsed
  | hostLost accepted target =>
      refine conforms.update
        ((ReportPlane.reportSlotFree_slots _ _ _).trans
          (Function.update_idem _ _ _)) ?_
      simp [ReportPlane.freedSlot]
  | restarted restart =>
      intro idx active
      cases active
  | elsewhere other slots => exact conforms.congr slots

theorem ReportMoves.keepsConforms
    (moves : ReportMoves env event s s') (new : event.Conforms content env)
    (conforms : s.Conforms content) : s'.Conforms content := by
  induction moves with
  | refl => exact conforms
  | tail _ move inductionHypothesis =>
      exact move.keepsConforms new inductionHypothesis

/-- The event gives no reason to give this slot up, or to fill it anew. -/
structure KeepsSlot (env : Env) (event : ReportEvent) (slot : ReportSlot) :
    Prop where
  noRestart : event ≠ .restart
  timer : event = .tick → slot.idleTimeout.expired env.now = false
  valid : env.deviceType = .sensor → event ≠ .tick
  initAck : ∀ pkt srcId, event = .reportInitAck pkt srcId →
    pkt.hdr.status = statusAlreadyExists →
      pkt.genDeviceId = slot.genDeviceId → pkt.dataId ≠ slot.dataId
  chunkAck : ∀ pkt srcId, event = .reportChunkAck pkt srcId →
    pkt.hdr.status = statusSuccess →
      pkt.genDeviceId = slot.genDeviceId → pkt.dataId ≠ slot.dataId
  host : env.deviceType = .sensor → ∀ args, event ≠ .cmdReport args
  init : slot.upstreamReady = false →
    ∀ pkt srcId, event ≠ .reportInit pkt srcId

theorem KeepsSlot.congr
    {slot slot' : ReportSlot} (keeps : KeepsSlot env event slot)
    (same : slot'.content = slot.content) : KeepsSlot env event slot' := by
  have here : KeepsSlot env event slot.content := { keeps with }
  rw [← same] at here
  exact { here with }

/-- A slot in use that the event does not concern keeps its content. -/
theorem ReportMove.keepsSlot
    {idx : Fin dataSlotCount}
    (move : ReportMove env event s s') (active : (s.slots idx).active = true)
    (filled : ∀ pkt srcId chunk, event = .reportChunk pkt srcId →
      ¬ StorableChunk s idx chunk pkt)
    (keeps : KeepsSlot env event (s.slots idx)) :
    (s'.slots idx).content = (s.slots idx).content := by
  have unchanged (slots : s'.slots = s.slots) :
      (s'.slots idx).content = (s.slots idx).content := by
    rw [slots]
  have elsewhere {other : Fin dataSlotCount} {slot : ReportSlot}
      (slots : s'.slots = Function.update s.slots other slot)
      (different : idx ≠ other) :
      (s'.slots idx).content = (s.slots idx).content := by
    rw [slots, Function.update_of_ne different]
  have flagged {other : Fin dataSlotCount} {slot : ReportSlot}
      (slots : s'.slots = Function.update s.slots other slot)
      (same : slot.content = (s.slots other).content) :
      (s'.slots idx).content = (s.slots idx).content := by
    by_cases here : idx = other
    · subst here
      rw [slots, Function.update_self, same]
    · exact elsewhere slots here
  have notStorable {other : Fin dataSlotCount} {chunk : Fin dataMaxChunks}
      {pkt : ReportChunk} {srcId : UInt16}
      (received : event = .reportChunk pkt srcId)
      (storable : StorableChunk s other chunk pkt) : idx ≠ other := by
    rintro rfl
    exact filled pkt srcId chunk received storable
  cases move with
  | quiet same => exact unchanged same.slots
  | sentChunk => exact unchanged rfl
  | freed reason =>
      refine elsewhere (ReportPlane.reportSlotFree_slots _ _ _) ?_
      rintro rfl
      cases reason with
      | idle ticked slotActive expired =>
          rw [keeps.timer ticked] at expired
          cases expired
      | alreadyExists received status found =>
          obtain ⟨_, gen, id⟩ := ReportPlane.findSlot_some found
          exact keeps.initAck _ _ received status gen.symm id.symm
      | complete received status sender allSent from_ found =>
          obtain ⟨_, gen, id⟩ := ReportPlane.findSlot_some found
          exact keeps.chunkAck _ _ received status gen.symm id.symm
      | invalid role ticked => exact keeps.valid role ticked
  | stopped => exact unchanged rfl
  | advanced below => exact unchanged rfl
  | retried sending slotActive => exact flagged rfl rfl
  | started role ticked idle slotActive => exact flagged rfl rfl
  | accepted init target notReady =>
      refine elsewhere rfl ?_
      rintro rfl
      obtain ⟨srcId, received⟩ := init.received
      cases target with
      | existing found => exact keeps.init notReady _ _ received
      | fresh missing free =>
          rw [ReportPlane.freeSlot_some free] at active
          cases active
  | storeFailed => exact unchanged rfl
  | stored role received chunk =>
      exact elsewhere rfl (notStorable received chunk)
  | completed role received chunk =>
      exact elsewhere rfl (notStorable received chunk)
  | rejected role received chunk =>
      exact elsewhere
        ((ReportPlane.reportSlotFree_slots _ _ _).trans
          (Function.update_idem _ _ _))
        (notStorable received chunk)
  | forwarded => exact flagged rfl rfl
  | transfered => exact flagged rfl rfl
  | hostStored accepted =>
      obtain ⟨args, received, _⟩ := accepted.parsed
      exact absurd received (keeps.host accepted.role args)
  | hostLost accepted =>
      obtain ⟨args, received, _⟩ := accepted.parsed
      exact absurd received (keeps.host accepted.role args)
  | restarted restart => exact absurd restart keeps.noRestart
  | elsewhere other slots => exact unchanged slots

theorem ReportMoves.keepsSlot
    {idx : Fin dataSlotCount}
    (moves : ReportMoves env event s s')
    (active : (s.slots idx).active = true)
    (noChunk : ∀ pkt srcId, event ≠ .reportChunk pkt srcId)
    (keeps : KeepsSlot env event (s.slots idx)) :
    (s'.slots idx).content = (s.slots idx).content := by
  induction moves with
  | refl => rfl
  | @tail middle after _ move inductionHypothesis =>
      have still : (middle.slots idx).active = true :=
        (congrArg ReportSlot.active inductionHypothesis :).trans active
      exact (move.keepsSlot still
        (fun pkt srcId _ received => absurd received (noChunk pkt srcId))
        (keeps.congr inductionHypothesis)).trans inductionHypothesis

/-- One event keeps a verified report that it does not make the plane
forget. -/
theorem ReportPlane.step_keepsReady
    {genDeviceId : UInt16} {dataId : UInt8} {idx : Fin dataSlotCount}
    (role : env.deviceType ≠ .sensor) (allowed : s.Elsewhere event)
    (stored : Stored env.crc s) (ready : s.Ready genDeviceId dataId idx)
    (kept : ¬ s.Discards env genDeviceId dataId event)
    (stepped : s.step env event = .ok s') :
    s'.Ready genDeviceId dataId idx := by
  obtain ⟨active, verified, gen, id⟩ := ready
  have keeps : KeepsSlot env event (s.slots idx) :=
    { noRestart := by
        rintro rfl
        exact kept trivial
      timer := by
        rintro rfl
        by_contra expired
        exact kept ⟨idx, ⟨active, verified, gen, id⟩, by simpa using expired⟩
      valid := fun sensor => absurd sensor role
      initAck := by
        rintro pkt srcId rfl status pktGen pktId
        exact kept ⟨status, pktGen.trans gen, pktId.trans id⟩
      chunkAck := by
        rintro pkt srcId rfl status pktGen pktId
        exact kept ⟨status, pktGen.trans gen, pktId.trans id⟩
      host := fun sensor => absurd sensor role
      init := by
        intro notReady
        rw [verified] at notReady
        cases notReady }
  have same : (s'.slots idx).content = (s.slots idx).content := by
    by_cases isChunk : ∃ pkt srcId, event = .reportChunk pkt srcId
    · obtain ⟨pkt, srcId, rfl⟩ := isChunk
      obtain ⟨middle, first, after⟩ := handleReportChunk_outcome rfl stepped
      rw [after.slots]
      rcases first with rfl | move
      · rfl
      · refine move.move.keepsSlot active ?_ keeps
        intro other from_ chunk _ storable
        have open_ := storable.notReady (stored idx active).tally
        rw [show s.clearOut.slots = s.slots from rfl, verified] at open_
        cases open_
    · push Not at isChunk
      exact (step_moves allowed stepped).keepsSlot active isChunk keeps
  exact ⟨(congrArg ReportSlot.active same :).trans active,
    (congrArg ReportSlot.upstreamReady same :).trans verified,
    (congrArg ReportSlot.genDeviceId same :).trans gen,
    (congrArg ReportSlot.dataId same :).trans id⟩

/-- An acknowledgement frees a slot by an `ALREADY_EXISTS` for its key. -/
theorem ReportPlane.step_initAck_frees
    {ack : ReportInitAck} {srcId : UInt16} {idx : Fin dataSlotCount}
    (stepped : s.step env (.reportInitAck ack srcId) = .ok s')
    (before : (s.slots idx).active = true)
    (after : (s'.slots idx).active = false) :
    ack.hdr.status = statusAlreadyExists ∧
      ack.genDeviceId = (s.slots idx).genDeviceId ∧
        ack.dataId = (s.slots idx).dataId := by
  by_contra other
  have keeps : KeepsSlot env (.reportInitAck ack srcId) (s.slots idx) :=
    { noRestart := by simp
      timer := by simp
      valid := by simp
      initAck := by
        rintro pkt from_ received status gen id
        cases received
        exact other ⟨status, gen, id⟩
      chunkAck := by simp
      host := by simp
      init := by simp }
  have same := (@step_moves env (.reportInitAck ack srcId) s s' trivial
    stepped).keepsSlot before (by simp) keeps
  have still : (s'.slots idx).active = true :=
    (congrArg ReportSlot.active same :).trans before
  rw [still] at after
  cases after

/-- The answers to announcements among the actions of an event. -/
def reportInitAcks (out : List Action) : List ReportInitAck :=
  out.filterMap fun action =>
    match action with
    | .reply (.reportInitAck ack) => some ack
    | _ => none

/-- An announcement is answered `STATUS_ALREADY_EXISTS` from a ready slot. -/
theorem ReportPlane.Validated.alreadyExists {pkt : ReportInit} {status : UInt8}
    (validated : Validated env s pkt s' status)
    (exists_ : status = statusAlreadyExists) :
    s' = s ∧ ∃ idx, s.Ready pkt.genDeviceId pkt.dataId idx := by
  cases validated with
  | @ready idx found verified =>
      obtain ⟨active, keyed⟩ := findSlot_some found
      exact ⟨rfl, idx, active, verified, keyed⟩
  | _ => cases exists_

theorem handleReportInit_alreadyExists
    {pkt : ReportInit} {srcId : UInt16} {ack : ReportInitAck}
    (silent : s.io.out = [])
    (answered :
      ack ∈ reportInitAcks (s.handleReportInit env pkt srcId).io.out)
    (exists_ : ack.hdr.status = statusAlreadyExists) :
    ∃ idx, (s.handleReportInit env pkt srcId).Ready ack.genDeviceId
      ack.dataId idx := by
  generalize handled : s.handleReportInit env pkt srcId = t at answered ⊢
  have answer {t : ReportPlane} {status : UInt8} (quiet : t.io = s.io)
      (answered : ack ∈ reportInitAcks
        (t.put (ReportPlane.initAnswer env pkt srcId status)).io.out) :
      status = statusAlreadyExists ∧ ack.genDeviceId = pkt.genDeviceId ∧
        ack.dataId = pkt.dataId := by
    rw [ReportPlane.put_io, Io.put_out, quiet, silent] at answered
    cases List.mem_singleton.mp answered
    exact ⟨exists_, rfl, rfl⟩
  cases ReportPlane.handleReportInit_taken handled with
  | ignored =>
      rw [silent] at answered
      cases answered
  | malformed => cases (answer rfl answered).1
  | answered role below sizes validated =>
      obtain ⟨status, gen, id⟩ := answer validated.io answered
      obtain ⟨same, holds⟩ := validated.alreadyExists status
      rw [gen, id, same]
      exact holds

end Steps

section Runs

variable {content : ReportContent} {childBoard parentBoard : Board}

/-- A sender and its next hop. -/
abbrev ReportLink := Link.State ReportPlane ReportPlane ReportInitAck

abbrev ReportLinkEvent := Link.Event (Env × ReportEvent) (Env × ReportEvent) Env

/-- Only `handle_report_init` sends a `REPORT_INIT_ACK`; it arrives with the
address of the next hop. -/
def reportParties (parentId : UInt16) :
    Link.Parties ReportPlane ReportPlane (Env × ReportEvent)
      (Env × ReportEvent) ReportInitAck Env Fault where
  childStep := reportStep
  parentStep := reportStep
  answers := fun event parent =>
    match event.2 with
    | .reportInit _ _ => reportInitAcks parent.io.out
    | _ => []
  receive := fun env ack => (env, .reportInitAck ack parentId)

/-- The counterpart of `LdHonest`; every chunk stored by the next hop ends
inside its slot. -/
def ReportHonest (content : ReportContent) (childBoard parentBoard : Board)
    (link : ReportLink) : ReportLinkEvent → Prop
  | .child event =>
      OnBoard childBoard link.child event ∧
        event.2.Conforms content event.1 ∧
        ∀ ack srcId, event.2 ≠ .reportInitAck ack srcId
  | .parent event =>
      IsolatedRun parentBoard link.parent event ∧
        event.2.Conforms content event.1 ∧
        ∀ ack ∈ link.air, ack.hdr.status = statusAlreadyExists →
          ¬ link.parent.Discards event.1 ack.genDeviceId ack.dataId event.2
  | .deliver _ env => env.toBoard = childBoard
  | .lose _ => True

/-- What an answer in flight promises. -/
def ReportPromised (parent : ReportPlane) (ack : ReportInitAck) : Prop :=
  ack.hdr.status = statusAlreadyExists →
    ∃ idx, parent.Ready ack.genDeviceId ack.dataId idx

theorem reportHonest_sound
    (role : parentBoard.deviceType = .gateway ∨
      parentBoard.deviceType = .anchor) :
    Link.Sound (reportParties parentBoard.deviceId)
      (ReportHonest content childBoard parentBoard)
      (fun child => child.Conforms content)
      (fun parent => parent.Conforms content ∧ Stored parentBoard.crc parent)
      ReportPromised := by
  have notSensor : parentBoard.deviceType ≠ .sensor := by
    rcases role with gateway | anchor
    · exact fun sensor => absurd (gateway.symm.trans sensor) (by decide)
    · exact fun sensor => absurd (anchor.symm.trans sensor) (by decide)
  constructor
  · rintro link ⟨env, event⟩ child conforms ⟨⟨_, allowed⟩, new, _⟩ stepped
    have cleared : link.child.clearOut.Conforms content := conforms.congr rfl
    exact (ReportPlane.step_moves allowed stepped).keepsConforms new cleared
  · rintro link position env ack child conforms _ stepped
    have cleared : link.child.clearOut.Conforms content := conforms.congr rfl
    exact (@ReportPlane.step_moves env (.reportInitAck ack _) link.child child
      trivial stepped).keepsConforms trivial cleared
  · rintro link ⟨env, event⟩ parent ⟨conforms, stored⟩
      ⟨⟨⟨rfl, allowed⟩, inside⟩, new, _⟩ stepped
    have cleared : link.parent.clearOut.Conforms content := conforms.congr rfl
    exact ⟨(ReportPlane.step_moves allowed stepped).keepsConforms new cleared,
      ReportPlane.step_stored inside allowed stepped stored⟩
  · rintro link ⟨env, event⟩ parent ack ⟨_, stored⟩
      ⟨⟨⟨rfl, allowed⟩, inside⟩, _, keeps⟩ stepped member promised exists_
    obtain ⟨idx, ready⟩ := promised exists_
    exact ⟨idx, ReportPlane.step_keepsReady notSensor allowed stored ready
      (keeps ack member exists_) stepped⟩
  · rintro link ⟨env, event⟩ parent ack _ _ stepped answered exists_
    cases event with
    | reportInit pkt srcId =>
        cases stepped
        exact handleReportInit_alreadyExists rfl answered exists_
    | _ => cases answered

/-- What a ready slot with the content of its key holds. -/
theorem ReportPlane.Ready.holds
    {parent : ReportPlane} {crc : Checksum} {genDeviceId : UInt16}
    {dataId : UInt8} {idx : Fin dataSlotCount}
    {totalSize : UInt16} {crc32 : UInt32}
    (ready : parent.Ready genDeviceId dataId idx)
    (conforms : parent.Conforms content) (stored : Stored crc parent)
    (expected : content genDeviceId dataId = (totalSize, crc32)) :
    parent.HoldsReport crc genDeviceId dataId totalSize crc32 := by
  obtain ⟨active, verified, gen, id⟩ := ready
  have held := conforms idx active
  rw [gen, id, expected, Prod.mk.injEq] at held
  refine ⟨idx, ⟨active, verified, gen, id⟩, held.1.symm, held.2.symm, ?_⟩
  rw [held.1, held.2]
  exact (stored idx active).checksum verified

/-- The counterpart of `LdAnswersHonest`: the sender frees its slot. -/
def ReportAnswersHonest (content : ReportContent) (parentBoard : Board)
    (link : ReportLink) : Prop :=
  (∀ env pkt,
    content pkt.genDeviceId pkt.dataId = (pkt.totalSize, pkt.crc32) →
      (link.parent.validateSlot env pkt).2 = statusAlreadyExists →
        link.parent.HoldsReport parentBoard.crc pkt.genDeviceId pkt.dataId
          pkt.totalSize pkt.crc32) ∧
    ∀ (position : Nat) env ack child idx,
      link.air[position]? = some ack →
        link.child.step env (.reportInitAck ack parentBoard.deviceId) =
          .ok child →
          (link.child.slots idx).active = true →
            (child.slots idx).active = false →
              link.parent.HoldsReport parentBoard.crc
                (link.child.slots idx).genDeviceId
                (link.child.slots idx).dataId
                (link.child.slots idx).totalSize
                (link.child.slots idx).crc32

theorem reportAnswers_honest
    {childIo parentIo : Io} {link : ReportLink}
    (role : parentBoard.deviceType = .gateway ∨
      parentBoard.deviceType = .anchor)
    (reach : Trace.Reach (Link.step (reportParties parentBoard.deviceId))
      (ReportHonest content childBoard parentBoard)
      ⟨.boot childIo, .boot parentIo, []⟩ link) :
    ReportAnswersHonest content parentBoard link := by
  have empty (io : Io) : (ReportPlane.boot io).Conforms content := by
    intro idx active
    cases active
  have invariant := (reportHonest_sound role).reach (empty childIo)
    ⟨empty parentIo, reach_stored (.refl)⟩ reach
  obtain ⟨conforms, stored⟩ := invariant.parent
  constructor
  · intro env pkt expected exists_
    obtain ⟨_, idx, ready⟩ :=
      (ReportPlane.validateSlot_validated rfl).alreadyExists exists_
    exact ready.holds conforms stored expected
  · intro position env ack child idx inFlight stepped before after
    obtain ⟨exists_, gen, id⟩ :=
      ReportPlane.step_initAck_frees stepped before after
    obtain ⟨held, ready⟩ :=
      invariant.air ack (List.mem_of_getElem? inFlight) exists_
    rw [gen, id] at ready
    exact ready.holds conforms stored (invariant.child idx before)

end Runs

end DectMesh
