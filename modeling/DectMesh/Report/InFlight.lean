import DectMesh.Report.Isolation

/-!
# Reports in flight

A slot that is marked as sent needs a sender entry that can still retry it.
On a sensor or an anchor the two are changed together, except where a chunk
cannot be sent and where a key is used again too early.
-/

namespace DectMesh

namespace ReportPlane

variable (s : ReportPlane)

/-- A sender entry works on this key. -/
def Sending (genDeviceId : UInt16) (dataId : UInt8) (i : Fin maxAnchors) :
    Prop :=
  (s.senders i).active = true ∧ (s.senders i).genDeviceId = genDeviceId ∧
    (s.senders i).dataId = dataId

/-- No slot waits to be sent under a key that is being sent. -/
def FreshPending : Prop :=
  ∀ idx i, (s.slots idx).active = true → (s.slots idx).upstreamReady = true →
    (s.slots idx).isSent = false →
      ¬ s.Sending (s.slots idx).genDeviceId (s.slots idx).dataId i

/-- The reads of `send_next_chunk` once `rounds` of its iterations are left
and chunk `idx` comes next. -/
def chunkReads (sender : ReportSender) : Nat → UInt8 → List (Nat × Nat)
  | 0, _ => []
  | rounds + 1, idx =>
      if sender.chunkCount ≤ idx then
        []
      else
        (chunkReadAddr idx, (chunkSizeFor sender idx).toNat) ::
          chunkReads sender rounds (idx + 1)

/-- The event lets every chunk that it asks for be sent, and starts no second
transfer of a key. -/
def KeepsFlight (env : Env) : ReportEvent → Prop
  | .reportInitAck pkt srcId =>
      env.accepts pkt.hdr = true → pkt.hdr.status = statusSuccess →
        ∀ i, s.findSenderSlot pkt.genDeviceId pkt.dataId = some i →
          (s.senders i).dstId = srcId →
            s.io.psram.Reads
              (chunkReads (s.senders i)
                (((s.senders i).totalSize.toNat + sendDataMax - 1) /
                  sendDataMax)
                (s.senders i).nextChunk)
  | .reportChunkAck pkt srcId =>
      env.accepts pkt.hdr = true →
        pkt.hdr.status = statusFailure ∨
          pkt.hdr.status = statusInvalidParameter →
            ∀ i, s.findSenderSlot pkt.genDeviceId pkt.dataId = some i →
              (s.senders i).dstId = srcId →
                pkt.chunkIndex < (s.senders i).chunkCount ∧
                  s.io.psram.Reads
                    [(chunkReadAddr pkt.chunkIndex,
                      (chunkSizeFor (s.senders i) pkt.chunkIndex).toNat)]
  | .tick => s.FreshPending
  | _ => True

end ReportPlane

/-- Slots have different keys, senders have different keys, and every slot
that is marked as sent has its sender. -/
structure ReportFlight (s : ReportPlane) : Prop where
  keys :
    ∀ left right, (s.slots left).active = true →
      (s.slots right).active = true →
        (s.slots left).genDeviceId = (s.slots right).genDeviceId →
          (s.slots left).dataId = (s.slots right).dataId → left = right
  senders :
    ∀ i j genDeviceId dataId, s.Sending genDeviceId dataId i →
      s.Sending genDeviceId dataId j → i = j
  sent :
    ∀ idx, (s.slots idx).active = true → (s.slots idx).isSent = true →
      ∃ i, s.Sending (s.slots idx).genDeviceId (s.slots idx).dataId i

/-- What the invariant reads of a slot. -/
def ReportSlot.flight (slot : ReportSlot) : Bool × Bool × UInt16 × UInt8 :=
  (slot.active, slot.isSent, slot.genDeviceId, slot.dataId)

section Steps

variable {env : Env} {event : ReportEvent} {s s' : ReportPlane}

/-- Every sender that is active now was active before, on the same key. -/
def FewerSenders (s s' : ReportPlane) : Prop :=
  ∀ i genDeviceId dataId, s'.Sending genDeviceId dataId i →
    s.Sending genDeviceId dataId i

/-- The rule for steps that start no transfer.  Every slot in use was there
before with its key, or its key is new; if it is marked as sent, its sender is
still there. -/
theorem ReportFlight.step
    (flight : ReportFlight s) (fewer : FewerSenders s s')
    (slots : ∀ idx, (s'.slots idx).active = true →
      (s.slots idx).active = true ∧
          (s'.slots idx).genDeviceId = (s.slots idx).genDeviceId ∧
            (s'.slots idx).dataId = (s.slots idx).dataId ∨
        ∀ other, other ≠ idx → (s'.slots other).active = true →
          (s'.slots other).genDeviceId = (s'.slots idx).genDeviceId →
            (s'.slots other).dataId ≠ (s'.slots idx).dataId)
    (sent : ∀ idx, (s'.slots idx).active = true →
      (s'.slots idx).isSent = true →
        ∃ i, s'.Sending (s'.slots idx).genDeviceId (s'.slots idx).dataId i) :
    ReportFlight s' where
  keys := by
    intro left right leftActive rightActive gen id
    rcases slots left leftActive with ⟨leftBefore, leftGen, leftId⟩ | fresh
    · rcases slots right rightActive with
        ⟨rightBefore, rightGen, rightId⟩ | fresh
      · rw [leftGen, rightGen] at gen
        rw [leftId, rightId] at id
        exact flight.keys left right leftBefore rightBefore gen id
      · by_contra different
        exact fresh left different leftActive gen id
    · by_contra different
      exact fresh right (Ne.symm different) rightActive gen.symm id.symm
  senders := by
    intro i j genDeviceId dataId left right
    exact flight.senders i j genDeviceId dataId (fewer _ _ _ left)
      (fewer _ _ _ right)
  sent := sent

/-- No sender changed, and the slots did at most lose their mark. -/
theorem ReportFlight.congr
    (flight : ReportFlight s)
    (slots : ∀ idx, (s'.slots idx).flight = (s.slots idx).flight)
    (senders : ∀ i genDeviceId dataId,
      s'.Sending genDeviceId dataId i ↔ s.Sending genDeviceId dataId i) :
    ReportFlight s' := by
  have active (idx : Fin dataSlotCount) :
      (s'.slots idx).active = (s.slots idx).active :=
    congrArg Prod.fst (slots idx)
  have marked (idx : Fin dataSlotCount) :
      (s'.slots idx).isSent = (s.slots idx).isSent :=
    congrArg (fun view => view.2.1) (slots idx)
  have gen (idx : Fin dataSlotCount) :
      (s'.slots idx).genDeviceId = (s.slots idx).genDeviceId :=
    congrArg (fun view => view.2.2.1) (slots idx)
  have id (idx : Fin dataSlotCount) :
      (s'.slots idx).dataId = (s.slots idx).dataId :=
    congrArg (fun view => view.2.2.2) (slots idx)
  apply flight.step
  · exact fun i genDeviceId dataId sending =>
      (senders i genDeviceId dataId).mp sending
  · intro idx isActive
    exact .inl ⟨active idx ▸ isActive, gen idx, id idx⟩
  · intro idx isActive isMarked
    obtain ⟨i, sending⟩ :=
      flight.sent idx (active idx ▸ isActive) (marked idx ▸ isMarked)
    rw [gen, id]
    exact ⟨i, (senders i _ _).mpr sending⟩

/-- One slot changed its marks or left; a sender of its key may be gone. -/
theorem ReportFlight.settle
    {idx : Fin dataSlotCount} {slot : ReportSlot}
    (flight : ReportFlight s) (active : (s.slots idx).active = true)
    (slots : s'.slots = Function.update s.slots idx slot)
    (gen : slot.genDeviceId = (s.slots idx).genDeviceId)
    (id : slot.dataId = (s.slots idx).dataId)
    (settled : slot.active = true → slot.isSent = false)
    (fewer : FewerSenders s s')
    (kept : ∀ i genDeviceId dataId, s.Sending genDeviceId dataId i →
      s'.Sending genDeviceId dataId i ∨
        genDeviceId = (s.slots idx).genDeviceId ∧
          dataId = (s.slots idx).dataId) :
    ReportFlight s' := by
  apply flight.step fewer
  · intro other otherActive
    by_cases same : other = idx
    · subst same
      rw [slots, Function.update_self]
      exact .inl ⟨active, gen, id⟩
    · rw [slots, Function.update_of_ne same] at otherActive ⊢
      exact .inl ⟨otherActive, rfl, rfl⟩
  · intro other otherActive marked
    by_cases same : other = idx
    · subst same
      rw [slots, Function.update_self] at otherActive marked
      rw [settled otherActive] at marked
      cases marked
    · rw [slots, Function.update_of_ne same] at otherActive marked ⊢
      obtain ⟨i, sending⟩ := flight.sent other otherActive marked
      rcases kept i _ _ sending with still | ⟨sameGen, sameId⟩
      · exact ⟨i, still⟩
      · exact absurd
          (flight.keys other idx otherActive active sameGen sameId) same

/-- A slot is given up, and every sender stays. -/
theorem ReportFlight.dropped
    {idx : Fin dataSlotCount} {slot : ReportSlot} (flight : ReportFlight s)
    (slots : s'.slots = Function.update s.slots idx slot)
    (inactive : slot.active = false) (senders : s'.senders = s.senders) :
    ReportFlight s' := by
  have same (i : Fin maxAnchors) (genDeviceId : UInt16) (dataId : UInt8) :
      s'.Sending genDeviceId dataId i ↔ s.Sending genDeviceId dataId i := by
    rw [ReportPlane.Sending, ReportPlane.Sending, senders]
  apply flight.step (fun i gen id => (same i gen id).mp)
  · intro other active
    by_cases here : other = idx
    · rw [slots, here, Function.update_self, inactive] at active
      cases active
    · rw [slots, Function.update_of_ne here] at active ⊢
      exact .inl ⟨active, rfl, rfl⟩
  · intro other active marked
    by_cases here : other = idx
    · rw [slots, here, Function.update_self, inactive] at active
      cases active
    · rw [slots, Function.update_of_ne here] at active marked ⊢
      obtain ⟨i, sending⟩ := flight.sent other active marked
      exact ⟨i, (same i _ _).mpr sending⟩

/-- A slot is filled anew: it had the same key and the same mark, or its key
is not in use and it is not marked. -/
theorem ReportFlight.fill
    {idx : Fin dataSlotCount} {base slot : ReportSlot}
    {genDeviceId : UInt16} {dataId : UInt8}
    (flight : ReportFlight s) (target : Target s genDeviceId dataId idx base)
    (slots : s'.slots = Function.update s.slots idx slot)
    (gen : slot.genDeviceId = genDeviceId) (id : slot.dataId = dataId)
    (marked : slot.isSent = base.isSent)
    (senders : s'.senders = s.senders) : ReportFlight s' := by
  have same (i : Fin maxAnchors) (gen' : UInt16) (id' : UInt8) :
      s'.Sending gen' id' i ↔ s.Sending gen' id' i := by
    unfold ReportPlane.Sending
    rw [senders]
  apply flight.step (fun i gen' id' => (same i gen' id').mp)
  · intro other otherActive
    by_cases here : other = idx
    · subst here
      cases target with
      | existing found =>
          obtain ⟨active, foundGen, foundId⟩ := ReportPlane.findSlot_some found
          rw [slots, Function.update_self]
          exact .inl ⟨active, gen.trans foundGen.symm, id.trans foundId.symm⟩
      | fresh missing free =>
          right
          intro next different nextActive nextGen
          rw [slots, Function.update_of_ne different] at nextActive nextGen ⊢
          rw [Function.update_self] at nextGen ⊢
          rw [id]
          exact ReportPlane.findSlot_none missing next nextActive
            (nextGen.trans gen)
    · rw [slots, Function.update_of_ne here] at otherActive ⊢
      exact .inl ⟨otherActive, rfl, rfl⟩
  · intro other otherActive isMarked
    by_cases here : other = idx
    · subst here
      rw [slots, Function.update_self] at isMarked ⊢
      rw [marked] at isMarked
      cases target with
      | existing found =>
          obtain ⟨active, foundGen, foundId⟩ := ReportPlane.findSlot_some found
          obtain ⟨i, sending⟩ := flight.sent other active isMarked
          rw [foundGen, foundId] at sending
          rw [gen, id]
          exact ⟨i, (same i _ _).mpr sending⟩
      | fresh missing free => cases isMarked
    · rw [slots, Function.update_of_ne here] at otherActive isMarked ⊢
      obtain ⟨i, sending⟩ := flight.sent other otherActive isMarked
      exact ⟨i, (same i _ _).mpr sending⟩

theorem FreeReason.active
    {idx : Fin dataSlotCount} {senderIdx : UInt8}
    (reason : FreeReason env event s idx senderIdx) :
    (s.slots idx).active = true := by
  cases reason with
  | idle ticked active expired => exact active
  | alreadyExists received status found =>
      exact (ReportPlane.findSlot_some found).1
  | complete received status sender allSent from_ found =>
      exact (ReportPlane.findSlot_some found).1
  | invalid role ticked active unsent details => exact active

/-- A sender that is given up with a slot works on the slot's key. -/
theorem FreeReason.sameKey
    {idx : Fin dataSlotCount} {senderIdx : UInt8} {i : Fin maxAnchors}
    (reason : FreeReason env event s idx senderIdx)
    (here : i.val = senderIdx.toNat) :
    (s.senders i).genDeviceId = (s.slots idx).genDeviceId ∧
      (s.senders i).dataId = (s.slots idx).dataId := by
  have small : i.val < 8 := i.isLt
  have outside : (255 : UInt8).toNat = 255 := rfl
  have narrow (j : Fin maxAnchors)
      (same : i.val = (UInt8.ofNat j.val).toNat) : i = j := by
    have below : j.val < 8 := j.isLt
    have value : (UInt8.ofNat j.val).toNat = j.val :=
      UInt8.toNat_ofNat_of_lt' (by
        have size : UInt8.size = 256 := rfl
        omega)
    exact Fin.ext (same.trans value)
  cases reason with
  | idle ticked active expired => omega
  | @alreadyExists pkt srcId received status found =>
      obtain ⟨-, slotGen, slotId⟩ := ReportPlane.findSlot_some found
      cases sender : s.findSenderSlot pkt.genDeviceId pkt.dataId with
      | none =>
          rw [sender, indexByte, outside] at here
          omega
      | some j =>
          rw [sender, indexByte] at here
          obtain ⟨-, gen, id⟩ := ReportPlane.findSenderSlot_some sender
          rw [narrow j here, gen, id, slotGen, slotId]
          exact ⟨rfl, rfl⟩
  | @complete j pkt srcId received status sender allSent from_ found =>
      obtain ⟨-, slotGen, slotId⟩ := ReportPlane.findSlot_some found
      obtain ⟨-, gen, id⟩ := ReportPlane.findSenderSlot_some sender
      rw [narrow j here, gen, id, slotGen, slotId]
      exact ⟨rfl, rfl⟩
  | invalid role ticked active unsent details => omega

/-- Deactivating one sender. -/
theorem FewerSenders.stop
    (i : Fin maxAnchors) {sender : ReportSender}
    (senders : s'.senders = Function.update s.senders i sender)
    (stopped : sender.active = false) : FewerSenders s s' := by
  intro j genDeviceId dataId sending
  rw [ReportPlane.Sending, senders] at sending
  by_cases same : j = i
  · subst same
    rw [Function.update_self, stopped] at sending
    cases sending.1
  · rw [Function.update_of_ne same] at sending
    exact sending

/-- The other senders stay. -/
theorem ReportPlane.Sending.other
    {i j : Fin maxAnchors} {sender : ReportSender}
    {genDeviceId : UInt16} {dataId : UInt8}
    (sending : s.Sending genDeviceId dataId j)
    (senders : s'.senders = Function.update s.senders i sender)
    (different : j ≠ i) : s'.Sending genDeviceId dataId j := by
  rw [ReportPlane.Sending, senders, Function.update_of_ne different]
  exact sending

theorem freed_fewer
    (idx : Fin dataSlotCount) (senderIdx : UInt8) :
    FewerSenders s (s.reportSlotFree idx senderIdx) := by
  intro j genDeviceId dataId sending
  rw [ReportPlane.Sending, ReportPlane.reportSlotFree_senders] at sending
  split at sending
  · cases sending.1
  · exact sending

theorem freed_kept
    {idx : Fin dataSlotCount} {senderIdx : UInt8}
    (reason : FreeReason env event s idx senderIdx)
    (j : Fin maxAnchors) (genDeviceId : UInt16) (dataId : UInt8)
    (sending : s.Sending genDeviceId dataId j) :
    (s.reportSlotFree idx senderIdx).Sending genDeviceId dataId j ∨
      genDeviceId = (s.slots idx).genDeviceId ∧
        dataId = (s.slots idx).dataId := by
  rw [ReportPlane.Sending, ReportPlane.reportSlotFree_senders]
  split
  · next here =>
    obtain ⟨gen, id⟩ := reason.sameKey here
    exact .inr ⟨sending.2.1.symm.trans gen, sending.2.2.symm.trans id⟩
  · exact .inl sending

/-- A transfer starts under a key that no other sender works on. -/
theorem ReportFlight.started
    {senderIdx : Fin maxAnchors} {idx : Fin dataSlotCount}
    (flight : ReportFlight s) (fresh : s.FreshPending)
    (idle : (s.senders senderIdx).active = false)
    (active : (s.slots idx).active = true)
    (ready : (s.slots idx).upstreamReady = true)
    (unsent : (s.slots idx).isSent = false) :
    ReportFlight ((s.setSender senderIdx (s.senderFor env idx)).setSlot idx
      { s.slots idx with isSent := true }) := by
  have alone (j : Fin maxAnchors)
      (sending : s.Sending (s.slots idx).genDeviceId (s.slots idx).dataId j) :
      False := fresh idx j active ready unsent sending
  have senders : ((s.setSender senderIdx (s.senderFor env idx)).setSlot idx
      { s.slots idx with isSent := true }).senders =
        Function.update s.senders senderIdx (s.senderFor env idx) := rfl
  have slots : ((s.setSender senderIdx (s.senderFor env idx)).setSlot idx
      { s.slots idx with isSent := true }).slots =
        Function.update s.slots idx { s.slots idx with isSent := true } := rfl
  have before (j : Fin maxAnchors) (genDeviceId : UInt16) (dataId : UInt8)
      (sending : ((s.setSender senderIdx (s.senderFor env idx)).setSlot idx
        { s.slots idx with isSent := true }).Sending genDeviceId dataId j) :
      s.Sending genDeviceId dataId j ∧ j ≠ senderIdx ∨
        j = senderIdx ∧ genDeviceId = (s.slots idx).genDeviceId ∧
          dataId = (s.slots idx).dataId := by
    rw [ReportPlane.Sending, senders] at sending
    by_cases same : j = senderIdx
    · subst same
      rw [Function.update_self] at sending
      exact .inr ⟨rfl, sending.2.1.symm, sending.2.2.symm⟩
    · rw [Function.update_of_ne same] at sending
      exact .inl ⟨sending, same⟩
  have sameKeys (other : Fin dataSlotCount) :
      (Function.update s.slots idx { s.slots idx with isSent := true }
          other).active = (s.slots other).active ∧
        (Function.update s.slots idx { s.slots idx with isSent := true }
          other).genDeviceId = (s.slots other).genDeviceId ∧
        (Function.update s.slots idx { s.slots idx with isSent := true }
          other).dataId = (s.slots other).dataId := by
    by_cases same : other = idx
    · subst same
      rw [Function.update_self]
      exact ⟨rfl, rfl, rfl⟩
    · rw [Function.update_of_ne same]
      exact ⟨rfl, rfl, rfl⟩
  constructor
  · intro left right leftActive rightActive gen id
    rw [slots] at leftActive rightActive gen id
    rw [(sameKeys left).1] at leftActive
    rw [(sameKeys right).1] at rightActive
    rw [(sameKeys left).2.1, (sameKeys right).2.1] at gen
    rw [(sameKeys left).2.2, (sameKeys right).2.2] at id
    exact flight.keys left right leftActive rightActive gen id
  · intro i j genDeviceId dataId left right
    rcases before i _ _ left with ⟨leftOld, -⟩ | ⟨rfl, gen, id⟩
    · rcases before j _ _ right with ⟨rightOld, -⟩ | ⟨rfl, gen, id⟩
      · exact flight.senders i j _ _ leftOld rightOld
      · exact (alone i (gen ▸ id ▸ leftOld)).elim
    · rcases before j _ _ right with ⟨rightOld, -⟩ | ⟨rfl, -, -⟩
      · exact (alone j (gen ▸ id ▸ rightOld)).elim
      · rfl
  · intro other otherActive marked
    rw [slots] at otherActive marked ⊢
    rw [(sameKeys other).2.1, (sameKeys other).2.2]
    by_cases same : other = idx
    · subst same
      refine ⟨senderIdx, ?_⟩
      rw [ReportPlane.Sending, senders, Function.update_self]
      exact ⟨rfl, rfl, rfl⟩
    · rw [Function.update_of_ne same] at otherActive marked
      obtain ⟨i, sending⟩ := flight.sent other otherActive marked
      refine ⟨i, sending.other senders fun here => ?_⟩
      rw [← here, sending.1] at idle
      cases idle

/-- No slot with the key of a stopped sender is marked as sent. -/
theorem ReportFlight.stopped
    {senderIdx : Fin maxAnchors} {timeout : NbTimeout}
    (flight : ReportFlight s)
    (reason : s.findSlot (s.senders senderIdx).genDeviceId
        (s.senders senderIdx).dataId = none ∨
      (s.senders senderIdx).active = false) :
    ReportFlight (s.setSender senderIdx
      { s.senders senderIdx with active := false, timeout := timeout }) := by
  apply flight.step
  · exact .stop senderIdx rfl rfl
  · exact fun idx active => .inl ⟨active, rfl, rfl⟩
  · intro idx active marked
    obtain ⟨i, sending⟩ := flight.sent idx active marked
    refine ⟨i, sending.other rfl fun here => ?_⟩
    rcases reason with missing | inactive
    · refine ReportPlane.findSlot_none missing idx active ?_ ?_
      · rw [← here]
        exact sending.2.1.symm
      · rw [← here]
        exact sending.2.2.symm
    · rw [← here, sending.1] at inactive
      cases inactive

/-- The moves keep the invariant, as long as no chunk is lost and transfers
start under fresh keys. -/
theorem ReportMove.keepsFlight
    (notGateway : env.deviceType ≠ .gateway)
    (nothingSent : ∀ sender chunkIdx, ¬ SendReason event sender chunkIdx)
    (fresh : event = .tick → s.FreshPending)
    (flight : ReportFlight s) (move : ReportMove env event s s') :
    ReportFlight s' := by
  cases move with
  | quiet same =>
      refine flight.congr (fun idx => by rw [same.slots]) fun i gen id => ?_
      rw [ReportPlane.Sending, ReportPlane.Sending, same.senders]
  | sentChunk reason => exact absurd reason (nothingSent _ _)
  | @freed idx senderIdx reason =>
      exact flight.settle reason.active (ReportPlane.reportSlotFree_slots ..)
        rfl rfl (fun active => by cases active) (freed_fewer idx senderIdx)
        (freed_kept reason)
  | @stopped senderIdx timeout reason =>
      cases reason with
      | lost reason => exact absurd reason (nothingSent _ _)
      | noSlot missing => exact flight.stopped (.inl missing)
      | idle inactive => exact flight.stopped (.inr inactive)
  | @advanced senderIdx below =>
      refine flight.congr (fun _ => rfl) fun i gen id => ?_
      by_cases same : i = senderIdx
      · subst same
        simp [ReportPlane.Sending, ReportPlane.setSender]
      · simp [ReportPlane.Sending, ReportPlane.setSender, same]
  | @retried senderIdx idx timeout sending active gen id =>
      refine flight.settle active rfl rfl rfl (fun _ => rfl) ?_ ?_
      · exact .stop senderIdx rfl rfl
      · intro i genDeviceId dataId other
        by_cases same : i = senderIdx
        · right
          rw [← same] at gen id
          exact ⟨other.2.1.symm.trans gen, other.2.2.symm.trans id⟩
        · exact .inl (other.other rfl same)
  | started role ticked idle active ready unsent =>
      exact flight.started (fresh ticked) idle active ready unsent
  | accepted init target notReady =>
      exact flight.fill target rfl rfl rfl rfl rfl
  | storeFailed role received storable mem out =>
      exact flight.congr (fun _ => rfl) fun _ _ _ => .rfl
  | @stored idx chunk pkt io srcId role received storable mem out partly =>
      refine flight.congr (fun other => ?_) fun _ _ _ => .rfl
      by_cases same : other = idx
      · subst same
        simp [ReportSlot.flight, ReportPlane.storedSlot]
      · simp [ReportSlot.flight, same]
  | @completed idx chunk pkt io srcId role received storable mem out full =>
      refine flight.congr (fun other => ?_) fun _ _ _ => .rfl
      by_cases same : other = idx
      · subst same
        simp [ReportSlot.flight, ReportPlane.storedSlot, ReportPlane.readySlot]
      · simp [ReportSlot.flight, same]
  | @rejected idx chunk pkt io srcId role received storable mem out =>
      exact @ReportFlight.dropped s _ idx (ReportPlane.freedSlot
        (ReportPlane.storedSlot env (s.slots idx) chunk)) flight
        (by simp) rfl (by simp)
  | forwarded role => exact absurd role notGateway
  | @transfered idx =>
      refine flight.congr (fun other => ?_) fun _ _ _ => .rfl
      by_cases same : other = idx
      · subst same
        simp [ReportSlot.flight]
      · simp [ReportSlot.flight, same]
  | hostStored accepted target mem out =>
      exact flight.fill target rfl rfl rfl rfl rfl
  | @hostLost idx base command io written accepted target mem out failed =>
      exact @ReportFlight.dropped s _ idx (ReportPlane.freedSlot
        (ReportPlane.hostSlot env base command.report command.priority))
        flight (by simp) rfl (by simp)
  | restarted restart =>
      constructor
      · intro left right leftActive
        cases leftActive
      · intro i j gen id left
        cases left.1
      · intro idx active
        cases active
  | elsewhere other slots senders region out =>
      refine flight.congr (fun idx => by rw [slots]) fun i gen id => ?_
      rw [ReportPlane.Sending, ReportPlane.Sending, senders]

/-- Fewer senders and no new slot to send: nothing to send twice. -/
theorem ReportPlane.FreshPending.step
    (fresh : s.FreshPending) (fewer : FewerSenders s s')
    (pending : ∀ idx, (s'.slots idx).active = true →
      (s'.slots idx).upstreamReady = true → (s'.slots idx).isSent = false →
        (s.slots idx).active = true ∧ (s.slots idx).upstreamReady = true ∧
          (s.slots idx).isSent = false ∧
            (s'.slots idx).genDeviceId = (s.slots idx).genDeviceId ∧
              (s'.slots idx).dataId = (s.slots idx).dataId) :
    s'.FreshPending := by
  intro idx i active ready unsent sending
  obtain ⟨wasActive, wasReady, wasUnsent, gen, id⟩ :=
    pending idx active ready unsent
  rw [gen, id] at sending
  exact fresh idx i wasActive wasReady wasUnsent (fewer i _ _ sending)

theorem ReportMove.keepsFresh
    (notGateway : env.deviceType ≠ .gateway) (ticked : event = .tick)
    (flight : ReportFlight s) (fresh : s.FreshPending)
    (move : ReportMove env event s s') : s'.FreshPending := by
  cases move with
  | quiet same =>
      refine fresh.step (fun i gen id sending => ?_) fun idx => ?_
      · rw [ReportPlane.Sending, same.senders] at sending
        exact sending
      · rw [same.slots]
        exact fun active ready unsent => ⟨active, ready, unsent, rfl, rfl⟩
  | sentChunk reason =>
      exact fresh
  | @freed idx senderIdx reason =>
      refine fresh.step (freed_fewer idx senderIdx) fun other => ?_
      rw [ReportPlane.reportSlotFree_slots]
      by_cases same : other = idx
      · rw [same, Function.update_self]
        intro active
        cases active
      · rw [Function.update_of_ne same]
        exact fun active ready unsent => ⟨active, ready, unsent, rfl, rfl⟩
  | @stopped senderIdx timeout reason =>
      exact fresh.step (.stop senderIdx rfl rfl)
        fun idx active ready unsent => ⟨active, ready, unsent, rfl, rfl⟩
  | @advanced senderIdx below =>
      refine fresh.step (fun i gen id sending => ?_)
        fun idx active ready unsent => ⟨active, ready, unsent, rfl, rfl⟩
      by_cases same : i = senderIdx
      · subst same
        simpa [ReportPlane.Sending, ReportPlane.setSender] using sending
      · simpa [ReportPlane.Sending, ReportPlane.setSender, same] using sending
  | @retried senderIdx idx timeout sending active gen id =>
      -- the only sender of the slot that may be sent again has stopped
      intro other i otherActive ready unsent still
      have stopped := (FewerSenders.stop senderIdx rfl rfl : FewerSenders s
        ((s.setSlot idx { s.slots idx with isSent := false }).setSender
          senderIdx { s.senders senderIdx with
            active := false
            timeout := timeout })) i _ _ still
      by_cases same : other = idx
      · subst same
        simp only [ReportPlane.setSender_slots, ReportPlane.setSlot_slots,
          Function.update_self] at stopped
        have here : i = senderIdx :=
          flight.senders i senderIdx _ _ stopped ⟨sending, gen, id⟩
        subst here
        have inactive := still.1
        simp at inactive
      · simp only [ReportPlane.setSender_slots, ReportPlane.setSlot_slots,
          Function.update_of_ne same] at otherActive ready unsent stopped
        exact fresh other i otherActive ready unsent stopped
  | @started senderIdx idx role _ idle active ready unsent gen id size count =>
      intro other i otherActive otherReady otherUnsent sending
      by_cases same : other = idx
      · subst same
        simp at otherUnsent
      · simp only [ReportPlane.setSlot_slots, ReportPlane.setSender_slots,
          Function.update_of_ne same]
          at otherActive otherReady otherUnsent sending
        by_cases here : i = senderIdx
        · subst here
          simp only [ReportPlane.Sending, ReportPlane.setSlot_senders,
            ReportPlane.setSender_senders, Function.update_self,
            ReportPlane.senderFor] at sending
          exact same (flight.keys other idx otherActive active
            sending.2.1.symm sending.2.2.symm)
        · simp only [ReportPlane.Sending, ReportPlane.setSlot_senders,
            ReportPlane.setSender_senders,
            Function.update_of_ne here] at sending
          exact fresh other i otherActive otherReady otherUnsent sending
  | accepted init target notReady =>
      obtain ⟨srcId, received⟩ := init.received
      rw [ticked] at received
      cases received
  | storeFailed role received storable mem out => exact fresh
  | stored role received storable mem out partly =>
      rw [ticked] at received
      cases received
  | completed role received storable mem out full =>
      rw [ticked] at received
      cases received
  | rejected role received storable mem out =>
      rw [ticked] at received
      cases received
  | forwarded role => exact absurd role notGateway
  | @transfered idx =>
      refine fresh.step (fun _ _ _ sending => sending) fun other => ?_
      by_cases same : other = idx
      · subst same
        simp +contextual
      · simp +contextual [same]
  | hostStored accepted target mem out =>
      obtain ⟨args, received, -⟩ := accepted.parsed
      rw [ticked] at received
      cases received
  | hostLost accepted target mem out failed =>
      obtain ⟨args, received, -⟩ := accepted.parsed
      rw [ticked] at received
      cases received
  | restarted restart =>
      rw [ticked] at restart
      cases restart
  | elsewhere other slots senders region out =>
      rw [ticked] at other
      cases other

theorem ReportMoves.keepsFlight
    (notGateway : env.deviceType ≠ .gateway)
    (nothingSent : ∀ sender chunkIdx, ¬ SendReason event sender chunkIdx)
    (fresh : event = .tick → s.FreshPending) (flight : ReportFlight s)
    (moves : ReportMoves env event s s') : ReportFlight s' := by
  have both : ReportFlight s' ∧ (event = .tick → s'.FreshPending) := by
    induction moves with
    | refl => exact ⟨flight, fresh⟩
    | tail _ move ih =>
        exact ⟨move.keepsFlight notGateway nothingSent ih.2 ih.1,
          fun ticked => move.keepsFresh notGateway ticked ih.1 (ih.2 ticked)⟩
  exact both.1

end Steps

section Sending

variable {env : Env} {s s' : ReportPlane}

/-- The same slots, and the same senders on the same keys. -/
structure SameFlight (s s' : ReportPlane) : Prop where
  slots : s'.slots = s.slots
  senders : ∀ i genDeviceId dataId,
    s'.Sending genDeviceId dataId i ↔ s.Sending genDeviceId dataId i

theorem SameFlight.refl (s : ReportPlane) : SameFlight s s :=
  ⟨rfl, fun _ _ _ => .rfl⟩

theorem SameFlight.flight
    (same : SameFlight s s') (flight : ReportFlight s) : ReportFlight s' :=
  flight.congr (fun idx => by rw [same.slots]) same.senders

/-- A chunk that can be read is sent. -/
theorem readAndSendChunk_read
    {senderIdx : Fin maxAnchors} {chunkIdx : UInt8}
    (readable : (s.io.psram.read (ReportPlane.chunkReadAddr chunkIdx)
      (ReportPlane.chunkSizeFor (s.senders senderIdx)
        chunkIdx).toNat).2.isOk = true)
    (dstId : UInt16) :
    (s.readAndSendChunk env dstId senderIdx chunkIdx).2 = none ∧
      (s.readAndSendChunk env dstId senderIdx chunkIdx).1.slots = s.slots ∧
      (s.readAndSendChunk env dstId senderIdx chunkIdx).1.senders =
        s.senders ∧
      (s.readAndSendChunk env dstId senderIdx chunkIdx).1.io.psram =
        (s.io.psram.read (ReportPlane.chunkReadAddr chunkIdx)
          (ReportPlane.chunkSizeFor (s.senders senderIdx)
            chunkIdx).toNat).1 := by
  unfold ReportPlane.readAndSendChunk
  dsimp only
  split
  · next io errno lost =>
    rw [show (s.io.psram.read (ReportPlane.chunkReadAddr chunkIdx)
      (ReportPlane.chunkSizeFor (s.senders senderIdx) chunkIdx).toNat).2 =
        .error errno from congrArg Prod.snd lost] at readable
    cases readable
  · next io data read =>
    exact ⟨rfl, rfl, rfl, (congrArg (fun outcome => outcome.1.psram) read).symm⟩

theorem chunkReads_congr
    {left right : ReportSender} (count : left.chunkCount = right.chunkCount)
    (last : left.lastChunkSize = right.lastChunkSize) (rounds : Nat)
    (idx : UInt8) :
    ReportPlane.chunkReads left rounds idx =
      ReportPlane.chunkReads right rounds idx := by
  induction rounds generalizing idx with
  | zero => rfl
  | succ rounds ih =>
      simp only [ReportPlane.chunkReads, ReportPlane.chunkSizeFor, count, last,
        ih]

theorem sendNextChunkLoop_read
    (dstId : UInt16) (senderIdx : Fin maxAnchors) (rounds : Nat)
    (s : ReportPlane)
    (readable : s.io.psram.Reads
      (ReportPlane.chunkReads (s.senders senderIdx) rounds
        (s.senders senderIdx).nextChunk)) :
    SameFlight s
      (ReportPlane.sendNextChunkLoop env dstId senderIdx rounds s).1 := by
  induction rounds generalizing s with
  | zero => exact .refl s
  | succ rounds ih =>
      simp only [ReportPlane.sendNextChunkLoop]
      simp only [ReportPlane.chunkReads] at readable
      split
      · exact .refl s
      · next more =>
        rw [if_neg more] at readable
        obtain ⟨first, later⟩ := readable
        obtain ⟨sent, slots, senders, psram⟩ :=
          @readAndSendChunk_read env s senderIdx
            (s.senders senderIdx).nextChunk first dstId
        split
        · next after errno lost =>
          rw [lost] at sent
          cases sent
        · next after same =>
          rw [same] at slots senders psram
          simp only at slots senders psram
          have rest := ih
            (after.setSender senderIdx
              { after.senders senderIdx with
                nextChunk := (s.senders senderIdx).nextChunk + 1 }) (by
            rw [ReportPlane.setSender_senders, Function.update_self,
              @chunkReads_congr _ (s.senders senderIdx)
                (by rw [senders]) (by rw [senders])]
            simpa [psram] using later)
          refine ⟨rest.slots.trans slots, fun i gen id =>
            (rest.senders i gen id).trans ?_⟩
          rw [ReportPlane.Sending, ReportPlane.Sending,
            ReportPlane.setSender_senders, senders]
          by_cases here : i = senderIdx
          · subst here
            rw [Function.update_self]
          · rw [Function.update_of_ne here]

theorem repeatChunk_read
    {senderIdx : Fin maxAnchors} {chunkIdx : UInt8} (srcId : UInt16)
    (inRange : chunkIdx < (s.senders senderIdx).chunkCount)
    (readable : s.io.psram.Reads [(ReportPlane.chunkReadAddr chunkIdx,
      (ReportPlane.chunkSizeFor (s.senders senderIdx) chunkIdx).toNat)]) :
    SameFlight s (s.repeatChunk env srcId senderIdx chunkIdx) := by
  obtain ⟨sent, slots, senders, -⟩ :=
    @readAndSendChunk_read env s senderIdx chunkIdx readable.1 srcId
  have resent : s.resendChunk env srcId senderIdx chunkIdx =
      s.readAndSendChunk env srcId senderIdx chunkIdx :=
    if_neg (UInt8.not_le.mpr inRange)
  unfold ReportPlane.repeatChunk
  rw [resent]
  split
  · next after errno lost =>
    rw [lost] at sent
    cases sent
  · next after same =>
    rw [same] at slots senders
    refine ⟨slots, fun i gen id => ?_⟩
    rw [ReportPlane.Sending, ReportPlane.Sending, senders]

/-- An accepted announcement whose chunks can be read. -/
theorem handleReportInitAck_sent
    {pkt : ReportInitAck} {srcId : UInt16}
    (status : pkt.hdr.status = statusSuccess)
    (keeps : s.KeepsFlight env (.reportInitAck pkt srcId))
    (handled : s.handleReportInitAck env pkt srcId = .ok s') :
    SameFlight s s' := by
  have untracked : SameFlight s (s.put (.untrack pkt.hdr.trackingId)) :=
    ⟨rfl, fun _ _ _ => .rfl⟩
  have distinct : statusAlreadyExists ≠ statusSuccess := by decide
  cases ReportPlane.handleReportInitAck_taken handled with
  | ignored => exact .refl s
  | untracked => exact untracked
  | @sends idx role accepted success found from_ =>
      have sent := @sendNextChunkLoop_read env srcId idx _
        (s.put (.untrack pkt.hdr.trackingId))
        (keeps accepted success idx found from_)
      exact ⟨sent.slots, sent.senders⟩
  | frees role exists_ found => exact absurd (exists_.symm.trans status) distinct

/-- A refused chunk that exists and can be read is sent again. -/
theorem handleReportChunkAck_resent
    {pkt : ReportChunkAck} {srcId : UInt16}
    (status : pkt.hdr.status = statusFailure ∨
      pkt.hdr.status = statusInvalidParameter)
    (keeps : s.KeepsFlight env (.reportChunkAck pkt srcId))
    (handled : s.handleReportChunkAck env pkt srcId = .ok s') :
    SameFlight s s' := by
  have untracked : SameFlight s (s.put (.untrack pkt.hdr.trackingId)) :=
    ⟨rfl, fun _ _ _ => .rfl⟩
  cases ReportPlane.handleReportChunkAck_taken handled with
  | ignored => exact .refl s
  | untracked => exact untracked
  | completes found from_ allSent success =>
      rw [success] at status
      exact absurd status (by decide)
  | restarts found lost =>
      rcases status with same | same
      · rw [same] at lost
        exact absurd lost (by decide)
      · rw [same] at lost
        exact absurd lost (by decide)
  | @repeats idx accepted found from_ refused =>
      obtain ⟨inRange, readable⟩ := keeps accepted status idx found from_
      have resent := @repeatChunk_read env
        (s.put (.untrack pkt.hdr.trackingId)) idx pkt.chunkIndex srcId
        inRange readable
      exact ⟨resent.slots, resent.senders⟩

/-- The condition does not look at what the previous event put out. -/
theorem keepsFlight_clearOut
    {event : ReportEvent} (keeps : s.KeepsFlight env event) :
    s.clearOut.KeepsFlight env event := by
  have found (genDeviceId : UInt16) (dataId : UInt8) :
      s.clearOut.findSenderSlot genDeviceId dataId =
        s.findSenderSlot genDeviceId dataId := by
    unfold ReportPlane.findSenderSlot
    rfl
  cases event with
  | reportInitAck pkt srcId =>
      simp only [ReportPlane.KeepsFlight, found]
      exact keeps
  | reportChunkAck pkt srcId =>
      simp only [ReportPlane.KeepsFlight, found]
      exact keeps
  | tick => exact keeps
  | _ => trivial

end Sending

/-- An event that meets the condition keeps the invariant. -/
theorem ReportPlane.step_flight
    {env : Env} {event : ReportEvent} {s s' : ReportPlane}
    (notGateway : env.deviceType ≠ .gateway) (allowed : s.Elsewhere event)
    (keeps : s.KeepsFlight env event) (flight : ReportFlight s)
    (stepped : s.step env event = .ok s') : ReportFlight s' := by
  have cleared : ReportFlight s.clearOut :=
    (⟨rfl, fun _ _ _ => .rfl⟩ : SameFlight s s.clearOut).flight flight
  have moved (nothingSent : ∀ sender chunkIdx,
      ¬ SendReason event sender chunkIdx)
      (fresh : event = .tick → s.clearOut.FreshPending) : ReportFlight s' :=
    ReportMoves.keepsFlight notGateway nothingSent fresh cleared
      (ReportPlane.step_moves allowed stepped)
  have keeps := keepsFlight_clearOut keeps
  cases event with
  | reportInitAck pkt srcId =>
      by_cases success : pkt.hdr.status = statusSuccess
      · exact (handleReportInitAck_sent success keeps stepped).flight cleared
      · refine moved (fun sender chunkIdx reason => ?_) fun ticked => ?_
        · cases reason with
          | announced received status => cases received; exact success status
          | refused received => cases received
        · cases ticked
  | reportChunkAck pkt srcId =>
      by_cases refused : pkt.hdr.status = statusFailure ∨
          pkt.hdr.status = statusInvalidParameter
      · exact (handleReportChunkAck_resent refused keeps stepped).flight
          cleared
      · refine moved (fun sender chunkIdx reason => ?_) fun ticked => ?_
        · cases reason with
          | announced received => cases received
          | refused received status => cases received; exact refused status
        · cases ticked
  | tick =>
      refine moved (fun sender chunkIdx reason => ?_) fun _ => keeps
      cases reason with
      | announced received => cases received
      | refused received => cases received
  | _ =>
      refine moved (fun sender chunkIdx reason => ?_) fun ticked => ?_
      · cases reason with
        | announced received => cases received
        | refused received => cases received
      · cases ticked

end DectMesh
