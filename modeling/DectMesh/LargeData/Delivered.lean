import DectMesh.LargeData.Integrity
import DectMesh.Library.Link

/-!
# What `STATUS_COMPLETE` promises

A receiver answers an announcement with `STATUS_COMPLETE` because it holds a
blob with the key of the announcement.  As long as a key stands for one
content, that blob is the announced one, and the sender may forget it.
-/

namespace DectMesh

open ByteStore

/-- The size and the checksum each key stands for. -/
abbrev LdContent := UInt16 → UInt8 → UInt32 × UInt32

/-- A new blob with the content of its key. -/
def LdEvent.Conforms (content : LdContent) (env : Env) : LdEvent → Prop
  | .largeDataInit pkt _ =>
      content pkt.genDeviceId pkt.dataId = (pkt.totalSize, pkt.crc32)
  | .cmdLdInit args =>
      ∀ command, LdPlane.parseLdInit args = some command →
        content env.deviceId command.id.toUInt8 =
          (command.total.toUInt32, command.crc32.toUInt32)
  | _ => True

namespace LdPlane

variable (s : LdPlane)

/-- Every slot in use has the content of its key. -/
def Conforms (content : LdContent) : Prop :=
  ∀ idx, (s.slots idx).active = true →
    content (s.slots idx).genDeviceId (s.slots idx).dataId =
      ((s.slots idx).totalSize, (s.slots idx).crc32)

/-- The slot holds a verified blob with this key. -/
def Ready (genDeviceId : UInt16) (dataId : UInt8)
    (idx : Fin ldReceiverSlotCount) : Prop :=
  (s.slots idx).active = true ∧ (s.slots idx).upstreamReady = true ∧
    (s.slots idx).genDeviceId = genDeviceId ∧ (s.slots idx).dataId = dataId

/-- The event makes the plane forget a verified blob with this key. -/
def Discards (env : Env) (genDeviceId : UInt16) (dataId : UInt8) :
    LdEvent → Prop
  | .restart => True
  | .tick =>
      ∃ idx, s.Ready genDeviceId dataId idx ∧ LdGivenUp env (s.slots idx)
  | _ => False

/-- The plane holds a verified blob with this key, size and checksum. -/
def HoldsBlob (crc : Checksum) (genDeviceId : UInt16) (dataId : UInt8)
    (totalSize crc32 : UInt32) : Prop :=
  ∃ idx, s.Ready genDeviceId dataId idx ∧
    (s.slots idx).totalSize = totalSize ∧ (s.slots idx).crc32 = crc32 ∧
      crc.ieee (slice s.io.psram.mem (s.slots idx).baseAddr.toNat
        totalSize.toNat) = crc32

end LdPlane

section Steps

variable {content : LdContent} {env : Env} {event : LdEvent}
variable {s s' : LdPlane}

theorem LdPlane.Conforms.congr
    (conforms : s.Conforms content)
    (slots : ∀ idx, (s'.slots idx).content = (s.slots idx).content) :
    s'.Conforms content := by
  intro idx active
  have same := slots idx
  have before : (s.slots idx).active = true :=
    (congrArg LdSlot.active same).symm.trans active
  have gen : (s'.slots idx).genDeviceId = (s.slots idx).genDeviceId :=
    (congrArg LdSlot.genDeviceId same :)
  have id : (s'.slots idx).dataId = (s.slots idx).dataId :=
    (congrArg LdSlot.dataId same :)
  have size : (s'.slots idx).totalSize = (s.slots idx).totalSize :=
    (congrArg LdSlot.totalSize same :)
  have crc32 : (s'.slots idx).crc32 = (s.slots idx).crc32 :=
    (congrArg LdSlot.crc32 same :)
  rw [gen, id, size, crc32]
  exact conforms idx before

theorem LdPlane.Conforms.update
    {idx : Fin ldReceiverSlotCount} {slot : LdSlot}
    (conforms : s.Conforms content)
    (slots : s'.slots = Function.update s.slots idx slot)
    (changed : slot.active = true →
      content slot.genDeviceId slot.dataId = (slot.totalSize, slot.crc32)) :
    s'.Conforms content := by
  rw [LdPlane.Conforms, slots]
  exact (Function.forall_update_iff s.slots
    fun _ slot => slot.active = true → content slot.genDeviceId slot.dataId =
      (slot.totalSize, slot.crc32)).mpr
      ⟨changed, fun other _ => conforms other⟩

/-- Only a new blob brings a new content. -/
theorem LdMove.keepsConforms
    (move : LdMove env event s s') (new : event.Conforms content env)
    (conforms : s.Conforms content) : s'.Conforms content := by
  cases move with
  | quiet same => exact conforms.congr same.slots
  | acknowledged received complete same => exact conforms.congr same.slots
  | freed ticked active ready reason =>
      refine conforms.update (freeLargeDataSlot_slots _ _ _) ?_
      simp [LdSlot.freed]
  | accepted init =>
      obtain ⟨srcId, rfl⟩ := init.received
      exact conforms.update rfl fun _ => new
  | storeFailed role received storable => exact conforms
  | stored role received storable =>
      exact conforms.update rfl fun _ => conforms _ storable.active
  | completed role received storable =>
      exact conforms.update rfl fun _ => conforms _ storable.active
  | rejected role received storable =>
      refine conforms.update
        ((freeLargeDataSlot_slots _ _ _).trans (Function.update_idem _ _ _)) ?_
      simp [LdSlot.freed]
  | hostAllocated accepted =>
      obtain ⟨args, rfl, parsed⟩ := accepted.received
      exact conforms.update rfl fun _ => new _ parsed
  | hostLost stageable =>
      refine conforms.update (freeLargeDataSlot_slots _ _ _) ?_
      simp [LdSlot.freed]
  | hostStored stageable =>
      exact conforms.update rfl fun _ => conforms _ stageable.active
  | hostCompleted stageable =>
      exact conforms.update rfl fun _ => conforms _ stageable.active
  | hostRejected stageable =>
      refine conforms.update
        ((freeLargeDataSlot_slots _ _ _).trans (Function.update_idem _ _ _)) ?_
      simp [LdSlot.freed]
  | restarted restart =>
      intro idx active
      cases active
  | elsewhere other slots =>
      exact conforms.congr fun idx => by rw [slots]

theorem LdMoves.keepsConforms
    (moves : LdMoves env event s s') (new : event.Conforms content env)
    (conforms : s.Conforms content) : s'.Conforms content := by
  induction moves with
  | refl => exact conforms
  | tail _ move inductionHypothesis =>
      exact move.keepsConforms new inductionHypothesis

theorem LdGivenUp.congr
    {slot slot' : LdSlot} (same : slot'.content = slot.content)
    (givenUp : LdGivenUp env slot) : LdGivenUp env slot' := by
  have gen : slot'.genDeviceId = slot.genDeviceId :=
    (congrArg LdSlot.genDeviceId same :)
  cases givenUp with
  | unknown role devices missing =>
      exact .unknown role devices (by rw [gen]; exact missing)
  | invalid role details =>
      have detailsHere : LdPlane.invalidDetails slot'.content = true := by
        rw [same]
        exact details
      exact .invalid role detailsHere

/-- The slot of a verified blob that nothing gives up stays as it is. -/
theorem LdMove.keepsReady
    {idx : Fin ldReceiverSlotCount}
    (move : LdMove env event s s') (role : env.deviceType ≠ .sensor)
    (noRestart : event ≠ .restart) (integrity : LdIntegrity env.crc s)
    (active : (s.slots idx).active = true)
    (ready : (s.slots idx).upstreamReady = true)
    (kept : event = .tick → ¬ LdGivenUp env (s.slots idx)) :
    (s'.slots idx).content = (s.slots idx).content := by
  have elsewhere {other : Fin ldReceiverSlotCount} {slot : LdSlot}
      (slots : s'.slots = Function.update s.slots other slot)
      (different : idx ≠ other) :
      (s'.slots idx).content = (s.slots idx).content := by
    rw [slots, Function.update_of_ne different]
  have notStorable {other : Fin ldReceiverSlotCount} {bit : Fin ldBitmapBits}
      {pkt : LargeDataChunk} (storable : LdStorableChunk s other bit pkt) :
      idx ≠ other := by
    rintro rfl
    have open_ := storable.notReady (integrity.slots idx active)
    rw [ready] at open_
    cases open_
  have notFree {other : Fin ldReceiverSlotCount}
      (free : s.freeSlot = some other) : idx ≠ other := by
    rintro rfl
    rw [LdPlane.freeSlot_some free] at active
    cases active
  cases move with
  | quiet same => exact same.slots idx
  | acknowledged received complete same => exact same.slots idx
  | freed ticked slotActive slotReady reason =>
      refine elsewhere (freeLargeDataSlot_slots _ _ _) ?_
      rintro rfl
      exact kept ticked reason
  | accepted init idle missing free => exact elsewhere rfl (notFree free)
  | storeFailed role received storable => rfl
  | stored role received storable => exact elsewhere rfl (notStorable storable)
  | completed role received storable =>
      exact elsewhere rfl (notStorable storable)
  | rejected role received storable =>
      exact elsewhere
        ((freeLargeDataSlot_slots _ _ _).trans (Function.update_idem _ _ _))
        (notStorable storable)
  | hostAllocated accepted => exact absurd accepted.role role
  | hostLost stageable | hostStored stageable | hostCompleted stageable
  | hostRejected stageable => exact absurd stageable.role role
  | restarted restart => exact absurd restart noRestart
  | elsewhere other slots => rw [slots]

theorem LdMoves.keepsReady
    {idx : Fin ldReceiverSlotCount}
    (moves : LdMoves env event s s') (role : env.deviceType ≠ .sensor)
    (noRestart : event ≠ .restart) (integrity : LdIntegrity env.crc s)
    (active : (s.slots idx).active = true)
    (ready : (s.slots idx).upstreamReady = true)
    (kept : event = .tick → ¬ LdGivenUp env (s.slots idx)) :
    (s'.slots idx).content = (s.slots idx).content := by
  have both : LdIntegrity env.crc s' ∧
      (s'.slots idx).content = (s.slots idx).content := by
    induction moves with
    | refl => exact ⟨integrity, rfl⟩
    | @tail middle after _ move inductionHypothesis =>
        obtain ⟨intact, same⟩ := inductionHypothesis
        have still : (middle.slots idx).active = true :=
          (congrArg LdSlot.active same :).trans active
        have stillReady : (middle.slots idx).upstreamReady = true :=
          (congrArg LdSlot.upstreamReady same :).trans ready
        refine ⟨move.keepsIntegrity role intact, ?_⟩
        refine (move.keepsReady role noRestart intact still stillReady ?_).trans
          same
        intro ticked givenUp
        refine kept ticked (LdGivenUp.congr ?_ givenUp)
        exact same.symm
  exact both.2

/-- An announcement is answered `STATUS_COMPLETE` from a slot that is ready. -/
theorem LdPlane.Validated.complete_ready {pkt : LargeDataInit} {status : UInt8}
    (validated : Validated env s pkt s' status)
    (complete : status = statusComplete) :
    s' = s ∧ ∃ idx, s.Ready pkt.genDeviceId pkt.dataId idx := by
  cases validated with
  | @complete idx found ready =>
      obtain ⟨active, keyed⟩ := findLargeDataSlot_some found
      exact ⟨rfl, idx, active, ready, keyed⟩
  | _ => cases complete

/-- The answers to announcements among the actions of an event. -/
def initAcks (out : List Action) : List LargeDataInitAck :=
  out.filterMap fun action =>
    match action with
    | .reply (.largeDataInitAck ack) => some ack
    | _ => none

theorem handleLargeDataInit_complete
    {pkt : LargeDataInit} {srcId : UInt16} {ack : LargeDataInitAck}
    (silent : s.io.out = [])
    (answered : ack ∈ initAcks (s.handleLargeDataInit env pkt srcId).io.out)
    (complete : ack.hdr.status = statusComplete) :
    ∃ idx, (s.handleLargeDataInit env pkt srcId).Ready ack.genDeviceId
      ack.dataId idx := by
  generalize handled : s.handleLargeDataInit env pkt srcId = t at answered ⊢
  have answer {t : LdPlane} {status : UInt8} (quiet : t.io = s.io)
      (answered : ack ∈ initAcks
        (t.put (LdPlane.initAnswer env pkt srcId status)).io.out) :
      status = statusComplete ∧ ack.genDeviceId = pkt.genDeviceId ∧
        ack.dataId = pkt.dataId := by
    rw [LdPlane.put, Io.put_out, quiet, silent] at answered
    cases List.mem_singleton.mp answered
    exact ⟨complete, rfl, rfl⟩
  cases LdPlane.handleLargeDataInit_taken handled with
  | ignored =>
      rw [silent] at answered
      cases answered
  | malformed => cases (answer rfl answered).1
  | answered considers outcome =>
      have validated := LdPlane.validateLargeDataSlot_validated outcome
      obtain ⟨status, gen, id⟩ := answer validated.io answered
      obtain ⟨same, holds⟩ := validated.complete_ready status
      rw [gen, id, same]
      exact holds

theorem sendNextLoop_slots
    (dstId : UInt16) (senderIdx : Fin ldSenderSlotCount) :
    ∀ (rounds i : Nat) (s : LdPlane),
      (LdPlane.sendNextLoop env dstId senderIdx rounds i s).1.slots = s.slots
  | 0, _, _ => rfl
  | rounds + 1, i, s => by
      have first (linear : Nat) (page chunk : UInt8) :
          (s.readAndSendChunk env dstId senderIdx page chunk
            linear).1.slots = s.slots := by
        unfold LdPlane.readAndSendChunk
        dsimp only
        split <;> rfl
      unfold LdPlane.sendNextLoop
      dsimp only
      split
      · rfl
      · split
        · next after errno same =>
          exact (congrArg (·.1.slots) same).symm.trans (first _ _ _)
        · next after same =>
          exact (sendNextLoop_slots dstId senderIdx rounds (i + 1) _).trans
            ((congrArg (·.1.slots) same).symm.trans (first _ _ _))

/-- `is_transfered` is set by a `STATUS_COMPLETE` for the key of the slot. -/
theorem handleLargeDataInitAck_transfered
    {pkt : LargeDataInitAck} {srcId : UInt16} {idx : Fin ldReceiverSlotCount}
    (handled : s.handleLargeDataInitAck env pkt srcId = .ok s')
    (before : (s.slots idx).isTransfered = false)
    (after : (s'.slots idx).isTransfered = true) :
    pkt.hdr.status = statusComplete ∧ (s.slots idx).active = true ∧
      (s.slots idx).genDeviceId = pkt.genDeviceId ∧
        (s.slots idx).dataId = pkt.dataId := by
  have unchanged (same : s'.slots idx = s.slots idx) : False := by
    rw [same, before] at after
    cases after
  cases LdPlane.handleLargeDataInitAck_taken handled with
  | ignored => exact (unchanged rfl).elim
  | untracked => exact (unchanged rfl).elim
  | @answered senderIdx found _ _ _ _ slot =>
      obtain ⟨active, foundGen, foundId⟩ := LdPlane.findLargeDataSlot_some slot
      generalize same : (s.put (.untrack pkt.hdr.trackingId)).answerInitAck
        env pkt srcId senderIdx found = t at after unchanged
      unfold LdPlane.answerInitAck at same
      dsimp only at same
      split at same
      · subst same
        by_cases here : idx = found
        · subst here
          simp [LdPlane.setSlot, LdPlane.setSender, LdPlane.put, before]
            at after
        · exact (unchanged (by
            simp [LdPlane.setSlot, LdPlane.setSender, LdPlane.put,
              Function.update_of_ne here])).elim
      · split at same
        · split at same
          · exact (unchanged (by rw [← same]; rfl)).elim
          · refine (unchanged ?_).elim
            rw [← same]
            exact congrFun (sendNextLoop_slots srcId senderIdx _ _ _) idx
        · split at same
          · next complete =>
            subst same
            by_cases here : idx = found
            · subst here
              exact ⟨complete, active, foundGen, foundId⟩
            · exact (unchanged (by
                simp [LdPlane.setSlot, LdPlane.freeSenderSlot,
                  LdPlane.setSender, LdPlane.put,
                  Function.update_of_ne here])).elim
          · exact (unchanged (by rw [← same]; rfl)).elim

end Steps

section Runs

variable {content : LdContent} {childBoard parentBoard : Board}

/-- A sender and its next hop. -/
abbrev LdLink := Link.State LdPlane LdPlane LargeDataInitAck

abbrev LdLinkEvent := Link.Event (Env × LdEvent) (Env × LdEvent) Env

/-- Only `handle_large_data_init` sends a `LARGE_DATA_INIT_ACK`; it arrives
with the address of the next hop. -/
def ldParties (parentId : UInt16) :
    Link.Parties LdPlane LdPlane (Env × LdEvent) (Env × LdEvent)
      LargeDataInitAck Env Fault where
  childStep := ldStep
  parentStep := ldStep
  answers := fun event parent =>
    match event.2 with
    | .largeDataInit _ _ => initAcks parent.io.out
    | _ => []
  receive := fun env ack => (env, .largeDataInitAck ack parentId)

/-- Any events of both devices, where new blobs have the content of their key,
the answers of the next hop arrive through the air, and the next hop does not
forget a blob while an answer that promises it is in flight. -/
def LdHonest (content : LdContent) (childBoard parentBoard : Board)
    (link : LdLink) : LdLinkEvent → Prop
  | .child event =>
      LdOnBoard childBoard link.child event ∧
        event.2.Conforms content event.1 ∧
        ∀ ack srcId, event.2 ≠ .largeDataInitAck ack srcId
  | .parent event =>
      LdOnBoard parentBoard link.parent event ∧
        event.2.Conforms content event.1 ∧
        ∀ ack ∈ link.air, ack.hdr.status = statusComplete →
          ¬ link.parent.Discards event.1 ack.genDeviceId ack.dataId event.2
  | .deliver _ env => env.toBoard = childBoard
  | .lose _ => True

/-- What an answer in flight promises. -/
def LdPromised (parent : LdPlane) (ack : LargeDataInitAck) : Prop :=
  ack.hdr.status = statusComplete →
    ∃ idx, parent.Ready ack.genDeviceId ack.dataId idx

theorem ldHonest_sound
    (role : parentBoard.deviceType = .gateway ∨
      parentBoard.deviceType = .anchor) :
    Link.Sound (ldParties parentBoard.deviceId)
      (LdHonest content childBoard parentBoard)
      (fun child => child.Conforms content)
      (fun parent => parent.Conforms content ∧
        LdIntegrity parentBoard.crc parent)
      LdPromised := by
  have notSensor : parentBoard.deviceType ≠ .sensor := by
    rcases role with gateway | anchor
    · exact fun sensor => absurd (gateway.symm.trans sensor) (by decide)
    · exact fun sensor => absurd (anchor.symm.trans sensor) (by decide)
  constructor
  · rintro link ⟨env, event⟩ child conforms ⟨⟨_, allowed⟩, new, _⟩ stepped
    exact (LdPlane.step_moves allowed stepped).keepsConforms new conforms
  · rintro link position env ack child conforms _ stepped
    exact (@LdPlane.step_moves env (.largeDataInitAck ack _) link.child child
      trivial stepped).keepsConforms trivial conforms
  · rintro link ⟨env, event⟩ parent ⟨conforms, integrity⟩
      ⟨⟨rfl, allowed⟩, new, _⟩ stepped
    have cleared : LdIntegrity env.crc link.parent.clearOut :=
      ⟨{ integrity.allocated with }, integrity.slots⟩
    have moves := LdPlane.step_moves allowed stepped
    exact ⟨moves.keepsConforms new conforms,
      moves.keepsIntegrity notSensor cleared⟩
  · rintro link ⟨env, event⟩ parent ack ⟨_, integrity⟩
      ⟨⟨rfl, allowed⟩, _, keeps⟩ stepped member promised complete
    obtain ⟨idx, active, ready, gen, id⟩ := promised complete
    have kept := keeps ack member complete
    have cleared : LdIntegrity env.crc link.parent.clearOut :=
      ⟨{ integrity.allocated with }, integrity.slots⟩
    have same := (LdPlane.step_moves allowed stepped).keepsReady notSensor
      (by rintro rfl; exact kept trivial) cleared active ready
      (by
        rintro rfl givenUp
        exact kept ⟨idx, ⟨active, ready, gen, id⟩, givenUp⟩)
    exact ⟨idx, (congrArg LdSlot.active same :).trans active,
      (congrArg LdSlot.upstreamReady same :).trans ready,
      (congrArg LdSlot.genDeviceId same :).trans gen,
      (congrArg LdSlot.dataId same :).trans id⟩
  · rintro link ⟨env, event⟩ parent ack _ _ stepped answered complete
    cases event with
    | largeDataInit pkt srcId =>
        cases stepped
        exact handleLargeDataInit_complete rfl answered complete
    | _ => cases answered

/-- What a ready slot with the content of its key holds. -/
theorem LdPlane.Ready.holds
    {parent : LdPlane} {crc : Checksum} {genDeviceId : UInt16}
    {dataId : UInt8} {idx : Fin ldReceiverSlotCount}
    {totalSize crc32 : UInt32}
    (ready : parent.Ready genDeviceId dataId idx)
    (conforms : parent.Conforms content) (integrity : LdIntegrity crc parent)
    (expected : content genDeviceId dataId = (totalSize, crc32)) :
    parent.HoldsBlob crc genDeviceId dataId totalSize crc32 := by
  obtain ⟨active, verified, gen, id⟩ := ready
  have held := conforms idx active
  rw [gen, id, expected, Prod.mk.injEq] at held
  refine ⟨idx, ⟨active, verified, gen, id⟩, held.1.symm, held.2.symm, ?_⟩
  rw [held.1, held.2]
  exact (integrity.slots idx active).checksum verified

/-- `STATUS_COMPLETE` answers an announcement only if the receiver holds the
announced blob, and whenever an answer in flight makes the sender mark a slot
as transferred, the receiver holds the blob of that slot. -/
def LdAnswersHonest (content : LdContent) (parentBoard : Board)
    (link : LdLink) : Prop :=
  (∀ env pkt,
    content pkt.genDeviceId pkt.dataId = (pkt.totalSize, pkt.crc32) →
      (link.parent.validateLargeDataSlot env pkt).2 = statusComplete →
        link.parent.HoldsBlob parentBoard.crc pkt.genDeviceId pkt.dataId
          pkt.totalSize pkt.crc32) ∧
    ∀ (position : Nat) env ack child idx,
      link.air[position]? = some ack →
        link.child.step env (.largeDataInitAck ack parentBoard.deviceId) =
          .ok child →
          (link.child.slots idx).isTransfered = false →
            (child.slots idx).isTransfered = true →
              link.parent.HoldsBlob parentBoard.crc
                (link.child.slots idx).genDeviceId
                (link.child.slots idx).dataId
                (link.child.slots idx).totalSize
                (link.child.slots idx).crc32

theorem ldAnswers_honest
    {childIo parentIo : Io} {link : LdLink}
    (role : parentBoard.deviceType = .gateway ∨
      parentBoard.deviceType = .anchor)
    (reach : Trace.Reach (Link.step (ldParties parentBoard.deviceId))
      (LdHonest content childBoard parentBoard)
      ⟨.boot childIo, .boot parentIo, []⟩ link) :
    LdAnswersHonest content parentBoard link := by
  have empty (io : Io) : (LdPlane.boot io).Conforms content := by
    intro idx active
    cases active
  have invariant := (ldHonest_sound role).reach (empty childIo)
    ⟨empty parentIo, reach_integrity role .refl⟩ reach
  obtain ⟨conforms, integrity⟩ := invariant.parent
  constructor
  · intro env pkt expected complete
    obtain ⟨_, idx, ready⟩ :=
      (LdPlane.validateLargeDataSlot_validated rfl).complete_ready complete
    exact ready.holds conforms integrity expected
  · intro position env ack child idx inFlight stepped before after
    obtain ⟨complete, active, gen, id⟩ :=
      handleLargeDataInitAck_transfered stepped before after
    obtain ⟨held, ready⟩ :=
      invariant.air ack (List.mem_of_getElem? inFlight) complete
    rw [← gen, ← id] at ready
    exact ready.holds conforms integrity (invariant.child idx active)

end Runs

end DectMesh
