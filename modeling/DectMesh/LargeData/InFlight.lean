import DectMesh.LargeData.Integrity

/-!
# Large data in flight

The same question as for reports: a slot that is marked as sent, and not yet
transferred, needs a sender entry that can still retry it.
-/

namespace DectMesh

/-- The slot is marked as sent, and nobody confirmed it. -/
def LdSlot.InFlight (slot : LdSlot) : Prop :=
  slot.isSent = true ∧ slot.isTransfered = false

namespace LdPlane

variable (s : LdPlane)

@[simp]
theorem setSlot_slots (idx : Fin ldReceiverSlotCount) (slot : LdSlot) :
    (s.setSlot idx slot).slots = Function.update s.slots idx slot := rfl

@[simp]
theorem setSlot_senders (idx : Fin ldReceiverSlotCount) (slot : LdSlot) :
    (s.setSlot idx slot).senders = s.senders := rfl

@[simp]
theorem setSender_slots (idx : Fin ldSenderSlotCount) (sender : LdSender) :
    (s.setSender idx sender).slots = s.slots := rfl

@[simp]
theorem setSender_senders (idx : Fin ldSenderSlotCount) (sender : LdSender) :
    (s.setSender idx sender).senders =
      Function.update s.senders idx sender := rfl

/-- A sender entry works on this key. -/
def Sending (genDeviceId : UInt16) (dataId : UInt8)
    (i : Fin ldSenderSlotCount) : Prop :=
  (s.senders i).active = true ∧ (s.senders i).genDeviceId = genDeviceId ∧
    (s.senders i).dataId = dataId

/-- The reads of `send_next_large_data_chunk` from chunk `linear` on, once
`rounds` of its iterations are left. -/
def chunkReads (sender : LdSender) : Nat → Nat → List (Nat × Nat)
  | 0, _ => []
  | rounds + 1, linear =>
      if sender.totalChunks.toNat ≤ linear then
        []
      else
        (sender.baseAddr.toNat + linear * ldChunkSize,
            (chunkSizeFor sender (UInt16.ofNat linear)).toNat) ::
          chunkReads sender rounds (linear + 1)

/-- The event lets every chunk that it asks for be read, reuses no slot with
the marks of a transfer that was cut off, and on a sensor no sender expires
whose slot is in flight. -/
def KeepsFlight (env : Env) : LdEvent → Prop
  | .largeDataInit pkt _ =>
      env.accepts pkt.hdr = true → s.ldBusy = false →
        s.findLargeDataSlot pkt.genDeviceId pkt.dataId = none →
          ∀ idx, s.freeSlot = some idx → ¬ (s.slots idx).InFlight
  | .largeDataInitAck pkt srcId =>
      env.accepts pkt.hdr = true →
        pkt.hdr.status = statusSuccess ∨
          pkt.hdr.status = statusAlreadyExists →
            ∀ i, s.findSenderSlot pkt.genDeviceId pkt.dataId = some i →
              (s.senders i).dstId = srcId →
                s.io.psram.Reads
                  (chunkReads (s.senders i) (maxTxQueueProcessPerCycle / 2)
                    (s.senders i).nextChunk.toNat)
  | .largeDataChunkAck pkt srcId =>
      env.accepts pkt.hdr = true →
        pkt.hdr.status = statusFailure ∨
          pkt.hdr.status = statusInvalidParameter →
            ∀ i, s.findSenderSlot pkt.genDeviceId pkt.dataId = some i →
              (s.senders i).dstId = srcId →
                s.io.psram.Reads
                  [((s.senders i).baseAddr.toNat +
                      linearIndex pkt.pageIndex pkt.chunkIndex * ldChunkSize,
                    (chunkSizeFor (s.senders i)
                      (UInt16.ofNat
                        (linearIndex pkt.pageIndex pkt.chunkIndex))).toNat)]
  | .tick =>
      env.deviceType = .sensor →
        ∀ i, (s.senders i).active = true →
          (s.senders i).timeout.expired env.now = true →
            ∀ idx, (s.slots idx).active = true → (s.slots idx).InFlight →
              ¬ s.Sending (s.slots idx).genDeviceId (s.slots idx).dataId i
  | _ => True

end LdPlane

/-- Slots have different keys, and every slot in flight has its sender. -/
structure LdFlight (s : LdPlane) : Prop where
  keys :
    ∀ left right, (s.slots left).active = true →
      (s.slots right).active = true →
        (s.slots left).genDeviceId = (s.slots right).genDeviceId →
          (s.slots left).dataId = (s.slots right).dataId → left = right
  sent :
    ∀ idx, (s.slots idx).active = true → (s.slots idx).InFlight →
      ∃ i, s.Sending (s.slots idx).genDeviceId (s.slots idx).dataId i

/-- A slot in use was in use before, under the same key. -/
def LdSlot.Stays (before after : LdSlot) : Prop :=
  before.active = true ∧ after.genDeviceId = before.genDeviceId ∧
    after.dataId = before.dataId

/-- No transfer starts or stops: slots may leave and lose their marks, and
the senders keep their keys. -/
structure LdSettles (s s' : LdPlane) : Prop where
  slots : ∀ idx, (s'.slots idx).active = true →
    (s.slots idx).Stays (s'.slots idx) ∧
      ((s'.slots idx).InFlight → (s.slots idx).InFlight)
  senders : ∀ i genDeviceId dataId,
    s.Sending genDeviceId dataId i → s'.Sending genDeviceId dataId i

section Rules

variable {s s' s'' : LdPlane}

/-- The keys of the slots that stay are still different. -/
theorem LdFlight.stay
    (flight : LdFlight s)
    (slots : ∀ idx, (s'.slots idx).active = true →
      (s.slots idx).Stays (s'.slots idx)) :
    ∀ left right, (s'.slots left).active = true →
      (s'.slots right).active = true →
        (s'.slots left).genDeviceId = (s'.slots right).genDeviceId →
          (s'.slots left).dataId = (s'.slots right).dataId →
            left = right := by
  intro left right leftActive rightActive gen id
  obtain ⟨leftBefore, leftGen, leftId⟩ := slots left leftActive
  obtain ⟨rightBefore, rightGen, rightId⟩ := slots right rightActive
  rw [leftGen, rightGen] at gen
  rw [leftId, rightId] at id
  exact flight.keys left right leftBefore rightBefore gen id

theorem LdSettles.flight
    (settles : LdSettles s s') (flight : LdFlight s) : LdFlight s' where
  keys := flight.stay fun idx active => (settles.slots idx active).1
  sent := by
    intro idx active inFlight
    obtain ⟨⟨before, gen, id⟩, marked⟩ := settles.slots idx active
    obtain ⟨i, sending⟩ := flight.sent idx before (marked inFlight)
    rw [gen, id]
    exact ⟨i, settles.senders i _ _ sending⟩

/-- A sender stops, and the slot it worked on is no longer in flight. -/
theorem LdFlight.stop
    {senderIdx : Fin ldSenderSlotCount} (flight : LdFlight s)
    (slots : ∀ idx, (s'.slots idx).active = true →
      (s.slots idx).Stays (s'.slots idx) ∧
        ((s'.slots idx).InFlight → (s.slots idx).InFlight ∧
          ¬ s.Sending (s.slots idx).genDeviceId (s.slots idx).dataId
            senderIdx))
    (others : ∀ i, i ≠ senderIdx → ∀ genDeviceId dataId,
      s.Sending genDeviceId dataId i → s'.Sending genDeviceId dataId i) :
    LdFlight s' where
  keys := flight.stay fun idx active => (slots idx active).1
  sent := by
    intro idx active inFlight
    obtain ⟨⟨before, gen, id⟩, marked⟩ := slots idx active
    obtain ⟨wasInFlight, elsewhere⟩ := marked inFlight
    obtain ⟨i, sending⟩ := flight.sent idx before wasInFlight
    have other : i ≠ senderIdx := by
      rintro rfl
      exact elsewhere sending
    rw [gen, id]
    exact ⟨i, others i other _ _ sending⟩

/-- A sender stops, and no slot has its key. -/
theorem LdFlight.retire
    {senderIdx : Fin ldSenderSlotCount} {genDeviceId : UInt16}
    {dataId : UInt8} (flight : LdFlight s)
    (key : ∀ gen id, s.Sending gen id senderIdx →
      gen = genDeviceId ∧ id = dataId)
    (slots : s'.slots = s.slots)
    (missing : s'.findLargeDataSlot genDeviceId dataId = none)
    (others : ∀ i, i ≠ senderIdx → ∀ gen id,
      s.Sending gen id i → s'.Sending gen id i) :
    LdFlight s' := by
  refine flight.stop (fun idx active => ?_) others
  have different := LdPlane.findLargeDataSlot_none missing idx active
  rw [slots] at active different ⊢
  refine ⟨⟨active, rfl, rfl⟩, fun inFlight => ⟨inFlight, ?_⟩⟩
  intro sending
  obtain ⟨gen, id⟩ := key _ _ sending
  exact different gen id

/-- A sender stops, and the slot of its key loses the mark. -/
theorem LdFlight.retireSlot
    {before : LdPlane} {senderIdx : Fin ldSenderSlotCount}
    {genDeviceId : UInt16} {dataId : UInt8} {found : Fin ldReceiverSlotCount}
    (flight : LdFlight s) (slot : LdSlot)
    (key : ∀ gen id, s.Sending gen id senderIdx →
      gen = genDeviceId ∧ id = dataId)
    (same : before.slots = s.slots)
    (search : before.findLargeDataSlot genDeviceId dataId = some found)
    (gen : slot.genDeviceId = (s.slots found).genDeviceId)
    (id : slot.dataId = (s.slots found).dataId) (unmarked : ¬ slot.InFlight)
    (slots : s'.slots = Function.update s.slots found slot)
    (others : ∀ i, i ≠ senderIdx → ∀ gen id,
      s.Sending gen id i → s'.Sending gen id i) :
    LdFlight s' := by
  obtain ⟨foundActive, foundGen, foundId⟩ :=
    LdPlane.findLargeDataSlot_some search
  rw [same] at foundActive foundGen foundId
  refine flight.stop (fun idx active => ?_) others
  rw [slots] at active ⊢
  by_cases here : idx = found
  · subst here
    rw [Function.update_self] at active ⊢
    exact ⟨⟨foundActive, gen, id⟩, fun inFlight => absurd inFlight unmarked⟩
  · rw [Function.update_of_ne here] at active ⊢
    refine ⟨⟨active, rfl, rfl⟩, fun inFlight => ⟨inFlight, ?_⟩⟩
    intro sending
    obtain ⟨gen, id⟩ := key _ _ sending
    exact here (flight.keys idx found active foundActive
      (gen.trans foundGen.symm) (id.trans foundId.symm))

/-- A slot that a sender works on is marked as sent. -/
theorem LdFlight.mark
    {senderIdx : Fin ldSenderSlotCount} {idx : Fin ldReceiverSlotCount}
    (flight : LdFlight s)
    (slots : ∀ other, (s'.slots other).active = true →
      (s.slots other).Stays (s'.slots other) ∧
        (other ≠ idx → (s'.slots other).InFlight → (s.slots other).InFlight))
    (kept : ∀ i genDeviceId dataId,
      s.Sending genDeviceId dataId i → s'.Sending genDeviceId dataId i)
    (sending : s'.Sending (s'.slots idx).genDeviceId (s'.slots idx).dataId
      senderIdx) :
    LdFlight s' where
  keys := flight.stay fun other active => (slots other active).1
  sent := by
    intro other active inFlight
    obtain ⟨⟨before, gen, id⟩, marked⟩ := slots other active
    by_cases same : other = idx
    · rw [same]
      exact ⟨senderIdx, sending⟩
    · obtain ⟨i, was⟩ := flight.sent other before (marked same inFlight)
      rw [gen, id]
      exact ⟨i, kept i _ _ was⟩

/-- A free slot takes a key that no slot has, without the mark. -/
theorem LdFlight.fill
    {idx : Fin ldReceiverSlotCount} {slot : LdSlot} (flight : LdFlight s)
    (missing : s.findLargeDataSlot slot.genDeviceId slot.dataId = none)
    (unmarked : ¬ slot.InFlight)
    (slots : s'.slots = Function.update s.slots idx slot)
    (senders : s'.senders = s.senders) : LdFlight s' where
  keys := by
    have fresh (other : Fin ldReceiverSlotCount)
        (active : (s.slots other).active = true)
        (gen : (s.slots other).genDeviceId = slot.genDeviceId)
        (id : (s.slots other).dataId = slot.dataId) : False :=
      LdPlane.findLargeDataSlot_none missing other active gen id
    intro left right leftActive rightActive gen id
    rw [slots] at leftActive rightActive gen id
    by_cases here : left = idx
    · subst here
      by_cases there : right = left
      · exact there.symm
      · rw [Function.update_of_ne there] at rightActive gen id
        rw [Function.update_self] at gen id
        exact (fresh right rightActive gen.symm id.symm).elim
    · rw [Function.update_of_ne here] at leftActive gen id
      by_cases there : right = idx
      · subst there
        rw [Function.update_self] at gen id
        exact (fresh left leftActive gen id).elim
      · rw [Function.update_of_ne there] at rightActive gen id
        exact flight.keys left right leftActive rightActive gen id
  sent := by
    intro other active inFlight
    rw [slots] at active inFlight ⊢
    by_cases same : other = idx
    · subst same
      rw [Function.update_self] at inFlight
      exact absurd inFlight unmarked
    · rw [Function.update_of_ne same] at active inFlight ⊢
      obtain ⟨i, sending⟩ := flight.sent other active inFlight
      refine ⟨i, ?_⟩
      rw [LdPlane.Sending, senders]
      exact sending

namespace LdSettles

theorem ofEq (slots : s'.slots = s.slots) (senders : s'.senders = s.senders) :
    LdSettles s s' where
  slots := by
    intro idx active
    rw [slots] at active ⊢
    exact ⟨⟨active, rfl, rfl⟩, id⟩
  senders := by
    intro i genDeviceId dataId sending
    rw [LdPlane.Sending, senders]
    exact sending

theorem refl (s : LdPlane) : LdSettles s s :=
  ofEq rfl rfl

theorem trans (left : LdSettles s s') (right : LdSettles s' s'') :
    LdSettles s s'' where
  slots := by
    intro idx active
    obtain ⟨⟨middle, rightGen, rightId⟩, rightMark⟩ := right.slots idx active
    obtain ⟨⟨before, leftGen, leftId⟩, leftMark⟩ := left.slots idx middle
    exact ⟨⟨before, rightGen.trans leftGen, rightId.trans leftId⟩,
      fun inFlight => leftMark (rightMark inFlight)⟩
  senders := fun i genDeviceId dataId sending =>
    right.senders i _ _ (left.senders i _ _ sending)

theorem put (action : Action) : LdSettles s (s.put action) :=
  ofEq rfl rfl

theorem sendLine (text : AtLine) : LdSettles s (s.sendLine text) :=
  ofEq rfl rfl

/-- One slot is written: it leaves, or it keeps its key and gets no mark. -/
theorem setSlot
    {idx : Fin ldReceiverSlotCount} {slot : LdSlot}
    (kept : slot.active = true →
      (s.slots idx).Stays slot ∧
        (slot.InFlight → (s.slots idx).InFlight)) :
    LdSettles s (s.setSlot idx slot) where
  slots := by
    intro other active
    rw [LdPlane.setSlot_slots] at active ⊢
    by_cases same : other = idx
    · subst same
      rw [Function.update_self] at active ⊢
      exact kept active
    · rw [Function.update_of_ne same] at active ⊢
      exact ⟨⟨active, rfl, rfl⟩, id⟩
  senders := fun _ _ _ sending => sending

/-- One sender is written: it keeps its key. -/
theorem setSender
    {senderIdx : Fin ldSenderSlotCount} {sender : LdSender}
    (active : sender.active = (s.senders senderIdx).active)
    (gen : sender.genDeviceId = (s.senders senderIdx).genDeviceId)
    (id : sender.dataId = (s.senders senderIdx).dataId) :
    LdSettles s (s.setSender senderIdx sender) where
  slots := fun idx isActive => ⟨⟨isActive, rfl, rfl⟩, fun inFlight => inFlight⟩
  senders := by
    intro i genDeviceId dataId sending
    rw [LdPlane.Sending, LdPlane.setSender_senders]
    by_cases same : i = senderIdx
    · subst same
      rw [Function.update_self, active, gen, id]
      exact sending
    · rw [Function.update_of_ne same]
      exact sending

/-- A slot is freed, and no sender. -/
theorem freeLargeDataSlot (idx : Fin ldReceiverSlotCount) :
    LdSettles s (s.freeLargeDataSlot idx 255) := by
  have flags : LdSettles s
      { s with
        isLdSlotEmpty :=
          PageMap.mark s.isLdSlotEmpty (s.slots idx).pages true } :=
    ofEq rfl rfl
  unfold LdPlane.freeLargeDataSlot
  rw [dif_neg (by decide)]
  refine flags.trans (setSlot fun active => ?_)
  cases active

end LdSettles

end Rules

section Sending

variable {env : Env} {s s' : LdPlane}

/-- What sending chunks does: nothing but a sender that may be gone. -/
structure LdSentChunks (senderIdx : Fin ldSenderSlotCount) (s s' : LdPlane)
    (result : Option Errno) : Prop where
  slots : s'.slots = s.slots
  others : ∀ i, i ≠ senderIdx → s'.senders i = s.senders i
  gen : (s'.senders senderIdx).genDeviceId =
    (s.senders senderIdx).genDeviceId
  id : (s'.senders senderIdx).dataId = (s.senders senderIdx).dataId
  active : result = none →
    (s'.senders senderIdx).active = (s.senders senderIdx).active

theorem LdSentChunks.settles
    {senderIdx : Fin ldSenderSlotCount}
    (sent : LdSentChunks senderIdx s s' none) : LdSettles s s' where
  slots := by
    intro idx active
    rw [sent.slots] at active ⊢
    exact ⟨⟨active, rfl, rfl⟩, fun inFlight => inFlight⟩
  senders := by
    intro i genDeviceId dataId sending
    by_cases same : i = senderIdx
    · subst same
      rw [LdPlane.Sending, sent.active rfl, sent.gen, sent.id]
      exact sending
    · rw [LdPlane.Sending, sent.others i same]
      exact sending

theorem readAndSendChunk_sent
    (dstId : UInt16) (senderIdx : Fin ldSenderSlotCount)
    (pageIdx chunkIdx : UInt8) (linear : Nat) :
    LdSentChunks senderIdx s
      (s.readAndSendChunk env dstId senderIdx pageIdx chunkIdx linear).1
      (s.readAndSendChunk env dstId senderIdx pageIdx chunkIdx linear).2 := by
  unfold LdPlane.readAndSendChunk
  dsimp only
  split
  · exact
      { slots := rfl
        others := fun i other => Function.update_of_ne other _ _
        gen := by simp [LdPlane.freeSenderSlot]
        id := by simp [LdPlane.freeSenderSlot]
        active := fun failed => by cases failed }
  · exact
      { slots := rfl
        others := fun i other => Function.update_of_ne other _ _
        gen := by simp [LdPlane.put]
        id := by simp [LdPlane.put]
        active := fun _ => by simp [LdPlane.put] }

theorem sendNextLoop_sent
    (dstId : UInt16) (senderIdx : Fin ldSenderSlotCount) (rounds i : Nat)
    (s : LdPlane) :
    LdSentChunks senderIdx s
      (LdPlane.sendNextLoop env dstId senderIdx rounds i s).1
      (LdPlane.sendNextLoop env dstId senderIdx rounds i s).2 := by
  induction rounds generalizing i s with
  | zero => exact ⟨rfl, fun _ _ => rfl, rfl, rfl, fun _ => rfl⟩
  | succ rounds ih =>
      have first (linear : Nat) :=
        @readAndSendChunk_sent env s dstId senderIdx
          (UInt8.ofNat (linear / ldChunksPerPage))
          (UInt8.ofNat (linear % ldChunksPerPage)) linear
      simp only [LdPlane.sendNextLoop]
      split
      · exact ⟨rfl, fun _ _ => rfl, rfl, rfl, fun _ => rfl⟩
      · split
        · next after errno same =>
          have sent := first ((s.senders senderIdx).nextChunk.toNat + i)
          rw [same] at sent
          exact sent
        · next after same =>
          have sent := first ((s.senders senderIdx).nextChunk.toNat + i)
          rw [same] at sent
          have rest := ih (i + 1) after
          exact
            { slots := rest.slots.trans sent.slots
              others := fun j other =>
                (rest.others j other).trans (sent.others j other)
              gen := rest.gen.trans sent.gen
              id := rest.id.trans sent.id
              active := fun success =>
                (rest.active success).trans (sent.active rfl) }

/-- A chunk that can be read is sent. -/
theorem ldReadAndSendChunk_read
    {senderIdx : Fin ldSenderSlotCount} {linear : Nat}
    (readable : (s.io.psram.read
      ((s.senders senderIdx).baseAddr.toNat + linear * ldChunkSize)
      (LdPlane.chunkSizeFor (s.senders senderIdx)
        (UInt16.ofNat linear)).toNat).2.isOk = true)
    (dstId : UInt16) (pageIdx chunkIdx : UInt8) :
    ∃ timeout,
      (s.readAndSendChunk env dstId senderIdx pageIdx chunkIdx linear).2 =
          none ∧
        (s.readAndSendChunk env dstId senderIdx pageIdx chunkIdx
            linear).1.senders =
          Function.update s.senders senderIdx
            { s.senders senderIdx with timeout := timeout } ∧
        (s.readAndSendChunk env dstId senderIdx pageIdx chunkIdx
            linear).1.io.psram =
          (s.io.psram.read
            ((s.senders senderIdx).baseAddr.toNat + linear * ldChunkSize)
            (LdPlane.chunkSizeFor (s.senders senderIdx)
              (UInt16.ofNat linear)).toNat).1 := by
  unfold LdPlane.readAndSendChunk
  dsimp only
  split
  · next io errno lost =>
    rw [show (s.io.psram.read
      ((s.senders senderIdx).baseAddr.toNat + linear * ldChunkSize)
      (LdPlane.chunkSizeFor (s.senders senderIdx)
        (UInt16.ofNat linear)).toNat).2 =
        .error errno from congrArg Prod.snd lost] at readable
    cases readable
  · next io data read =>
    exact ⟨_, rfl, rfl,
      (congrArg (fun outcome => outcome.1.psram) read).symm⟩

/-- The reads depend on the layout of the blob only. -/
theorem ldChunkReads_timeout
    (sender : LdSender) (timeout : NbTimeout) (rounds linear : Nat) :
    LdPlane.chunkReads { sender with timeout := timeout } rounds linear =
      LdPlane.chunkReads sender rounds linear := by
  induction rounds generalizing linear with
  | zero => rfl
  | succ rounds ih =>
      simp only [LdPlane.chunkReads, LdPlane.chunkSizeFor, ih]

theorem sendNextLoop_read
    (dstId : UInt16) (senderIdx : Fin ldSenderSlotCount) (rounds i : Nat)
    (s : LdPlane)
    (readable : s.io.psram.Reads
      (LdPlane.chunkReads (s.senders senderIdx) rounds
        ((s.senders senderIdx).nextChunk.toNat + i))) :
    (LdPlane.sendNextLoop env dstId senderIdx rounds i s).2 = none := by
  induction rounds generalizing i s with
  | zero => rfl
  | succ rounds ih =>
      simp only [LdPlane.sendNextLoop]
      simp only [LdPlane.chunkReads] at readable
      split
      · rfl
      · next more =>
        rw [if_neg more] at readable
        obtain ⟨first, later⟩ := readable
        obtain ⟨timeout, sent, senders, psram⟩ :=
          @ldReadAndSendChunk_read env s senderIdx
            ((s.senders senderIdx).nextChunk.toNat + i) first dstId
            (UInt8.ofNat
              (((s.senders senderIdx).nextChunk.toNat + i) / ldChunksPerPage))
            (UInt8.ofNat
              (((s.senders senderIdx).nextChunk.toNat + i) % ldChunksPerPage))
        split
        · next after errno lost =>
          rw [lost] at sent
          cases sent
        · next after same =>
          rw [same] at senders psram
          simp only at senders psram
          apply ih
          rw [senders, Function.update_self, ldChunkReads_timeout, psram,
            ← Nat.add_assoc]
          exact later

theorem LdSentChunks.keyOf
    {senderIdx : Fin ldSenderSlotCount} {result : Option Errno}
    (sent : LdSentChunks senderIdx s s' result) (genDeviceId : UInt16)
    (dataId : UInt8) (sending : s.Sending genDeviceId dataId senderIdx) :
    genDeviceId = (s'.senders senderIdx).genDeviceId ∧
      dataId = (s'.senders senderIdx).dataId := by
  rw [sent.gen, sent.id]
  exact ⟨sending.2.1.symm, sending.2.2.symm⟩

/-- The sender entry goes, and no slot of its key stays in flight. -/
theorem restartTransfer_flight
    {senderIdx : Fin ldSenderSlotCount} {result : Option Errno}
    (flight : LdFlight s) (sent : LdSentChunks senderIdx s s' result) :
    LdFlight (s'.restartTransfer senderIdx) := by
  have others (i : Fin ldSenderSlotCount) (other : i ≠ senderIdx)
      (genDeviceId : UInt16) (dataId : UInt8)
      (sending : s.Sending genDeviceId dataId i) :
      (s'.freeSenderSlot senderIdx).Sending genDeviceId dataId i := by
    rw [LdPlane.Sending, LdPlane.freeSenderSlot, LdPlane.setSender_senders,
      Function.update_of_ne other, sent.others i other]
    exact sending
  have freed : (s'.freeSenderSlot senderIdx).slots = s.slots := sent.slots
  unfold LdPlane.restartTransfer
  dsimp only
  split
  · next missing =>
    exact flight.retire sent.keyOf freed missing others
  · next found search =>
    refine flight.retireSlot { s'.slots found with isSent := false }
      sent.keyOf freed search ?_ ?_ ?_ ?_ others
    · rw [← sent.slots]
    · rw [← sent.slots]
    · exact fun inFlight => by cases inFlight.1
    · rw [← sent.slots]
      rfl

/-- One more answer never cuts a transfer off. -/
theorem advanceTransfer_flight
    {srcId : UInt16} {senderIdx : Fin ldSenderSlotCount}
    (flight : LdFlight s) :
    LdFlight (s.advanceTransfer env srcId senderIdx) := by
  have settles : LdSettles s (s.setSender senderIdx
      { s.senders senderIdx with
        nextChunk := (s.senders senderIdx).nextChunk + 1 }) :=
    .setSender rfl rfl rfl
  have counted := settles.flight flight
  have sent := @sendNextLoop_sent env srcId senderIdx
    (maxTxQueueProcessPerCycle / 2) 0
    (s.setSender senderIdx
      { s.senders senderIdx with
        nextChunk := (s.senders senderIdx).nextChunk + 1 })
  unfold LdPlane.advanceTransfer LdPlane.sendNextLargeDataChunk
  dsimp only
  split
  · exact counted
  · split
    · next after same =>
      rw [same] at sent
      exact sent.settles.flight counted
    · next after errno same =>
      rw [same] at sent
      exact restartTransfer_flight counted sent

/-- Every blob that is announced again is answered, and its chunks are read
or its sender stays. -/
theorem answerInitAck_flight
    {pkt : LargeDataInitAck} {srcId : UInt16}
    {senderIdx : Fin ldSenderSlotCount} {idx : Fin ldReceiverSlotCount}
    (flight : LdFlight s)
    (search : s.findLargeDataSlot (s.senders senderIdx).genDeviceId
      (s.senders senderIdx).dataId = some idx)
    (readable : pkt.hdr.status = statusSuccess ∨
      pkt.hdr.status = statusAlreadyExists →
        (s.senders senderIdx).dstId = srcId →
          s.io.psram.Reads
            (LdPlane.chunkReads (s.senders senderIdx)
              (maxTxQueueProcessPerCycle / 2)
              (s.senders senderIdx).nextChunk.toNat)) :
    LdFlight (s.answerInitAck env pkt srcId senderIdx idx) := by
  obtain ⟨found, -, -⟩ := LdPlane.findLargeDataSlot_some search
  unfold LdPlane.answerInitAck
  dsimp only
  split
  · -- busy: the slot may be sent again once the sender expires
    have waiting : LdSettles s (s.setSender senderIdx
        { s.senders senderIdx with
          timeout := (NbTimeout.init ldSenderTimeoutMs 0).start env.now }) :=
      .setSender rfl rfl rfl
    refine (waiting.trans (.setSlot fun _ => ?_)).flight flight
    exact ⟨⟨found, rfl, rfl⟩, fun inFlight => by cases inFlight.1⟩
  · split
    · next success =>
      split
      · exact flight
      · next mine =>
        simp only [not_or, not_not] at mine
        have sent := @sendNextLoop_sent env srcId senderIdx
          (maxTxQueueProcessPerCycle / 2) 0 s
        rw [@sendNextLoop_read env srcId senderIdx _ 0 s
          (readable success mine.2.1)] at sent
        exact sent.settles.flight flight
    · split
      · have key (gen : UInt16) (id : UInt8)
            (sending : s.Sending gen id senderIdx) :
            gen = (s.senders senderIdx).genDeviceId ∧
              id = (s.senders senderIdx).dataId :=
          ⟨sending.2.1.symm, sending.2.2.symm⟩
        refine flight.retireSlot { s.slots idx with isTransfered := true }
          key rfl search ?_ ?_ ?_ ?_ ?_
        · rfl
        · rfl
        · exact fun inFlight => by cases inFlight.2
        · rfl
        · intro i other gen id sending
          rw [LdPlane.Sending, LdPlane.setSlot_senders, LdPlane.freeSenderSlot,
            LdPlane.setSender_senders, Function.update_of_ne other]
          exact sending
      · exact flight

theorem handleLargeDataInitAck_flight
    {pkt : LargeDataInitAck} {srcId : UInt16} (flight : LdFlight s)
    (keeps : s.KeepsFlight env (.largeDataInitAck pkt srcId))
    (handled : s.handleLargeDataInitAck env pkt srcId = .ok s') :
    LdFlight s' := by
  have untracked : LdFlight (s.put (.untrack pkt.hdr.trackingId)) :=
    (LdSettles.put _).flight flight
  cases LdPlane.handleLargeDataInitAck_taken handled with
  | ignored => exact flight
  | untracked => exact untracked
  | @answered senderIdx idx role accepted upstream found slot =>
      obtain ⟨-, gen, id⟩ := LdPlane.findSenderSlot_some found
      have search : (s.put (.untrack pkt.hdr.trackingId)).findLargeDataSlot
          (s.senders senderIdx).genDeviceId (s.senders senderIdx).dataId =
            some idx := by
        rw [gen, id]
        exact (LdPlane.findLargeDataSlot_congr (by rfl) _ _).trans slot
      exact answerInitAck_flight untracked search fun status mine =>
        keeps accepted status senderIdx found mine

/-- The last acknowledgement marks the slot of a sender that is there. -/
theorem finishTransfer_flight
    {senderIdx : Fin ldSenderSlotCount}
    (working : (s.senders senderIdx).active = true) (flight : LdFlight s) :
    LdFlight (s.finishTransfer env senderIdx) := by
  have restarted : LdSettles s (s.setSender senderIdx
      { s.senders senderIdx with
        timeout := (NbTimeout.init ldSenderTimeoutMs 0).start env.now }) :=
    .setSender rfl rfl rfl
  unfold LdPlane.finishTransfer
  dsimp only
  split
  · exact restarted.flight flight
  · next idx search =>
    obtain ⟨active, gen, id⟩ := LdPlane.findLargeDataSlot_some search
    refine @LdFlight.mark s _ senderIdx idx flight (fun other isActive => ?_)
      restarted.senders ?_
    · by_cases same : other = idx
      · rw [same] at isActive ⊢
        simp only [LdPlane.setSlot_slots, LdPlane.setSender_slots,
          Function.update_self, ne_eq, not_true_eq_false, false_implies,
          and_true]
        exact ⟨active, rfl, rfl⟩
      · simp only [LdPlane.setSlot_slots, LdPlane.setSender_slots,
          Function.update_of_ne same] at isActive ⊢
        exact ⟨⟨isActive, rfl, rfl⟩, fun _ inFlight => inFlight⟩
    · simp only [LdPlane.Sending, LdPlane.setSlot_senders,
        LdPlane.setSender_senders, LdPlane.setSlot_slots,
        Function.update_self]
      exact ⟨working, gen.symm, id.symm⟩

theorem continueTransfer_flight
    {pkt : LargeDataChunkAck} {srcId : UInt16}
    {senderIdx : Fin ldSenderSlotCount} (flight : LdFlight s)
    (readable : pkt.hdr.status = statusFailure ∨
      pkt.hdr.status = statusInvalidParameter →
        s.io.psram.Reads
          [((s.senders senderIdx).baseAddr.toNat +
              LdPlane.linearIndex pkt.pageIndex pkt.chunkIndex * ldChunkSize,
            (LdPlane.chunkSizeFor (s.senders senderIdx)
              (UInt16.ofNat (LdPlane.linearIndex pkt.pageIndex
                pkt.chunkIndex))).toNat)]) :
    LdFlight (s.continueTransfer env pkt srcId senderIdx) := by
  have kept : LdSentChunks senderIdx s s none :=
    ⟨rfl, fun _ _ => rfl, rfl, rfl, fun _ => rfl⟩
  have resent := @readAndSendChunk_sent env s srcId senderIdx pkt.pageIndex
    pkt.chunkIndex (LdPlane.linearIndex pkt.pageIndex pkt.chunkIndex)
  unfold LdPlane.continueTransfer LdPlane.resendLargeDataChunk
  split
  · exact flight
  · exact flight
  all_goals
    split
    · split
      · exact restartTransfer_flight flight kept
      · split
        · next refused =>
          obtain ⟨timeout, success, -, -⟩ := @ldReadAndSendChunk_read env s
            senderIdx (LdPlane.linearIndex pkt.pageIndex pkt.chunkIndex)
            (readable refused).1 srcId pkt.pageIndex pkt.chunkIndex
          split
          · next after errno same =>
            rw [same] at success
            cases success
          · next after same =>
            rw [same] at resent
            exact advanceTransfer_flight (resent.settles.flight flight)
        · exact advanceTransfer_flight flight
    · exact flight

theorem handleLargeDataChunkAck_flight
    {pkt : LargeDataChunkAck} {srcId : UInt16} (flight : LdFlight s)
    (keeps : s.KeepsFlight env (.largeDataChunkAck pkt srcId))
    (handled : s.handleLargeDataChunkAck env pkt srcId = .ok s') :
    LdFlight s' := by
  have untracked : LdFlight (s.put (.untrack pkt.hdr.trackingId)) :=
    (LdSettles.put _).flight flight
  cases LdPlane.handleLargeDataChunkAck_taken handled with
  | ignored => exact flight
  | untracked => exact untracked
  | @finishes senderIdx found =>
      have working : ((s.put (.untrack pkt.hdr.trackingId)).senders
          senderIdx).active = true := (LdPlane.findSenderSlot_some found).1
      exact finishTransfer_flight working untracked
  | continues accepted found from_ =>
      exact continueTransfer_flight untracked fun refused =>
        keeps accepted refused _ found from_

end Sending

section Receiving

variable {env : Env} {s s' : LdPlane}

/-- An announcement that is accepted takes a free slot as it was left. -/
theorem validated_flight
    {pkt : LargeDataInit} {status : UInt8} (flight : LdFlight s)
    (unmarked : s.ldBusy = false →
      s.findLargeDataSlot pkt.genDeviceId pkt.dataId = none →
        ∀ idx, s.freeSlot = some idx → ¬ (s.slots idx).InFlight)
    (validated : LdPlane.Validated env s pkt s' status) : LdFlight s' := by
  cases validated with
  | @taken idx range idle missing free fits =>
      exact @LdFlight.fill s _ idx (LdPlane.acceptedSlot env
        (LdPlane.allocatedSlot (s.slots idx) range) pkt) flight missing
        (unmarked idle missing idx free) rfl rfl
  | _ => exact flight

theorem handleLargeDataInit_flight
    {pkt : LargeDataInit} {srcId : UInt16} (flight : LdFlight s)
    (keeps : s.KeepsFlight env (.largeDataInit pkt srcId)) :
    LdFlight (s.handleLargeDataInit env pkt srcId) := by
  generalize handled : s.handleLargeDataInit env pkt srcId = t
  cases LdPlane.handleLargeDataInit_taken handled with
  | ignored => exact flight
  | malformed => exact (LdSettles.put _).flight flight
  | answered considers validated =>
      exact (LdSettles.put _).flight
        (validated_flight flight (keeps considers.accepted)
          (LdPlane.validateLargeDataSlot_validated validated))

theorem verifyCrc32_settles (idx : Fin ldReceiverSlotCount) :
    LdSettles s (s.verifyCrc32 env idx).1 := by
  obtain ⟨psram, after, -⟩ := (@LdPlane.verifyCrc32_spec env s idx).1
  rw [after]
  exact .ofEq rfl rfl

/-- A slot in use keeps its key and its marks. -/
theorem LdSettles.keep
    {idx : Fin ldReceiverSlotCount} {slot : LdSlot}
    (active : (s.slots idx).active = true)
    (gen : slot.genDeviceId = (s.slots idx).genDeviceId)
    (id : slot.dataId = (s.slots idx).dataId)
    (sent : slot.isSent = (s.slots idx).isSent)
    (transfered : slot.isTransfered = (s.slots idx).isTransfered) :
    LdSettles s (s.setSlot idx slot) := by
  refine .setSlot fun _ => ⟨⟨active, gen, id⟩, fun inFlight => ?_⟩
  rw [LdSlot.InFlight, ← sent, ← transfered]
  exact inFlight

theorem completeSlot_settles
    {idx : Fin ldReceiverSlotCount} (active : (s.slots idx).active = true) :
    LdSettles s (s.completeSlot env idx).1 := by
  have verified := @verifyCrc32_settles env s idx
  obtain ⟨psram, after, -⟩ := (@LdPlane.verifyCrc32_spec env s idx).1
  unfold LdPlane.completeSlot
  split
  · next middle same =>
    rw [same] at verified
    have freed := verified.trans (LdSettles.freeLargeDataSlot idx)
    exact ⟨freed.slots, freed.senders⟩
  · next middle same =>
    rw [same] at verified after
    have still : (middle.slots idx).active = true := by
      rw [show middle = _ from after]
      exact active
    have ready : LdSettles middle
        (middle.setSlot idx (LdPlane.readySlot (middle.slots idx))) :=
      .keep still rfl rfl rfl rfl
    exact ⟨(verified.trans ready).slots, (verified.trans ready).senders⟩

theorem validateLargeDataChunk_settles
    {pkt : LargeDataChunk} {status : UInt8}
    (handled : s.validateLargeDataChunk env pkt = .ok (s', status)) :
    LdSettles s s' := by
  unfold LdPlane.validateLargeDataChunk at handled
  split at handled
  · cases handled
    exact .refl s
  · next idx search =>
    obtain ⟨active, -, -⟩ := LdPlane.findLargeDataSlot_some search
    dsimp only at handled
    split at handled
    · cases handled
      exact .refl s
    · split at handled
      · cases handled
      · next bit inside =>
        split at handled
        · cases handled
          exact .refl s
        · split at handled
          · cases handled
            exact .ofEq rfl rfl
          · next io wrote =>
            have written : LdSettles s { s with io := io } := .ofEq rfl rfl
            have stored : LdSettles { s with io := io }
                (LdPlane.setSlot { s with io := io } idx
                  (LdPlane.storedSlot env (s.slots idx) bit)) :=
              .keep active rfl rfl rfl rfl
            split at handled
            · have completed := @completeSlot_settles env
                (LdPlane.setSlot { s with io := io } idx
                  (LdPlane.storedSlot env (s.slots idx) bit)) idx (by
                rw [LdPlane.setSlot_slots, Function.update_self]
                exact active)
              simp only [Except.ok.injEq] at handled
              rw [handled] at completed
              exact (written.trans stored).trans completed
            · cases handled
              exact written.trans stored

theorem handleLargeDataChunk_settles
    {pkt : LargeDataChunk} {srcId : UInt16}
    (handled : s.handleLargeDataChunk env pkt srcId = .ok s') :
    LdSettles s s' := by
  have answered {after : LdPlane} {status : UInt8}
      (accepted : s.validateLargeDataChunk env pkt = .ok (after, status))
      (action : Action) : LdSettles s (after.put action) :=
    (validateLargeDataChunk_settles accepted).trans (.put action)
  unfold LdPlane.handleLargeDataChunk at handled
  split at handled
  · cases handled
    exact .refl s
  · split at handled
    · split at handled
      · split at handled
        · cases handled
        · next after status accepted =>
          cases handled
          exact answered accepted _
      · cases handled
        exact .refl s
    · split at handled
      · split at handled
        · cases handled
        · next after status accepted =>
          cases handled
          exact answered accepted _
      · cases handled
        exact .refl s
    · cases handled
      exact .refl s
    · cases handled
      exact .refl s

end Receiving

section Ticks

variable {env : Env} {s s' : LdPlane}

/-- The expiry of a sender: the anchor marks the slot for a retry, and on the
sensor no slot may be in flight under its key. -/
theorem expireSender_flight
    {retry : Bool} {senderIdx : Fin ldSenderSlotCount} (flight : LdFlight s)
    (settled : retry = false →
      (s.senders senderIdx).timeout.expired env.now = true →
        ∀ idx, (s.slots idx).active = true → (s.slots idx).InFlight →
          ¬ s.Sending (s.slots idx).genDeviceId (s.slots idx).dataId
            senderIdx) :
    LdFlight (s.expireSender env retry senderIdx) := by
  have others (slots : Fin ldReceiverSlotCount → LdSlot) (sender : LdSender)
      (i : Fin ldSenderSlotCount) (other : i ≠ senderIdx) (gen : UInt16)
      (id : UInt8) (sending : s.Sending gen id i) :
      (LdPlane.setSender { s with slots := slots } senderIdx sender).Sending
        gen id i := by
    rw [LdPlane.Sending, LdPlane.setSender_senders,
      Function.update_of_ne other]
    exact sending
  have key (gen : UInt16) (id : UInt8)
      (sending : s.Sending gen id senderIdx) :
      gen = (s.senders senderIdx).genDeviceId ∧
        id = (s.senders senderIdx).dataId :=
    ⟨sending.2.1.symm, sending.2.2.symm⟩
  unfold LdPlane.expireSender
  dsimp only
  split
  · next expired =>
    split
    · next missing =>
      refine flight.retire key rfl ?_ (others s.slots _)
      rw [← missing]
      unfold LdPlane.findLargeDataSlot
      rfl
    · next found search =>
      cases retry with
      | false =>
          refine flight.stop (fun idx active => ?_) (others s.slots _)
          exact ⟨⟨active, rfl, rfl⟩, fun inFlight =>
            ⟨inFlight, settled rfl expired idx active inFlight⟩⟩
      | true =>
          exact flight.retireSlot { s.slots found with isSent := false }
            key rfl search rfl rfl (fun inFlight => by cases inFlight.1) rfl
            (others _ _)
  · exact flight

/-- An idle sender takes a slot, which is marked as sent. -/
theorem startSender_flight
    {senderIdx : Fin ldSenderSlotCount} {idx : Fin ldReceiverSlotCount}
    (flight : LdFlight s) (idle : (s.senders senderIdx).active = false)
    (active : (s.slots idx).active = true) :
    LdFlight (s.startSender env senderIdx idx) := by
  have slots : (s.startSender env senderIdx idx).slots =
      Function.update s.slots idx { s.slots idx with isSent := true } := rfl
  have senders : (s.startSender env senderIdx idx).senders =
      Function.update s.senders senderIdx
        (LdPlane.senderFor env (s.slots idx)) := rfl
  refine @LdFlight.mark s _ senderIdx idx flight (fun other isActive => ?_)
    (fun i gen id sending => ?_) ?_
  · rw [slots] at isActive ⊢
    by_cases same : other = idx
    · rw [same] at isActive ⊢
      rw [Function.update_self]
      exact ⟨⟨active, rfl, rfl⟩, fun different => absurd rfl different⟩
    · rw [Function.update_of_ne same] at isActive ⊢
      exact ⟨⟨isActive, rfl, rfl⟩, fun _ inFlight => inFlight⟩
  · have other : i ≠ senderIdx := by
      rintro rfl
      exact absurd (sending.1.symm.trans idle) (by decide)
    rw [LdPlane.Sending, senders, Function.update_of_ne other]
    exact sending
  · rw [LdPlane.Sending, senders, slots, Function.update_self,
      Function.update_self]
    exact ⟨rfl, rfl, rfl⟩

/-- The table has one sender, so one round is the whole loop. -/
theorem senderLoop_flight
    {retry : Bool} (senderIdx : Fin ldSenderSlotCount) (flight : LdFlight s)
    (settled : retry = false → (s.senders senderIdx).active = true →
      (s.senders senderIdx).timeout.expired env.now = true →
        ∀ idx, (s.slots idx).active = true → (s.slots idx).InFlight →
          ¬ s.Sending (s.slots idx).genDeviceId (s.slots idx).dataId
            senderIdx) :
    LdFlight (LdPlane.senderLoop env retry [senderIdx] s) := by
  simp only [LdPlane.senderLoop]
  split
  · next working =>
    exact expireSender_flight flight fun quiet => settled quiet working
  · next idle =>
    split
    · exact flight
    · next idx pending =>
      obtain ⟨active, -, -⟩ := LdPlane.findPending_some pending
      split
      · exact (LdSettles.freeLargeDataSlot idx).flight flight
      · exact startSender_flight flight (by simpa using idle) active

theorem largeDataTick_flight
    (notGateway : env.deviceType ≠ .gateway) (flight : LdFlight s)
    (keeps : s.KeepsFlight env .tick)
    (ticked : s.largeDataTick env = .ok s') : LdFlight s' := by
  unfold LdPlane.largeDataTick at ticked
  split at ticked
  · next role => exact absurd role notGateway
  · cases ticked
    exact senderLoop_flight ⟨0, by decide⟩ flight fun quiet => by cases quiet
  · next role =>
    cases ticked
    exact senderLoop_flight ⟨0, by decide⟩ flight fun _ => keeps role _
  · cases ticked
    exact flight

end Ticks

section Host

variable {env : Env} {s s' : LdPlane}

theorem cmdLdInit_flight (args : List Char) (flight : LdFlight s) :
    LdFlight (s.cmdLdInit env args) := by
  have answered (text : AtLine) : LdFlight (s.sendLine text) :=
    (LdSettles.sendLine text).flight flight
  unfold LdPlane.cmdLdInit
  split
  · exact answered _
  · split
    · exact answered _
    · split
      · exact answered _
      · next command parsed =>
        split
        · exact answered _
        · split
          · exact answered _
          · split
            · exact answered _
            · split
              · exact answered _
              · next missing =>
                split
                · exact answered _
                · next after idx allocated =>
                  obtain ⟨range, free, fits, rfl⟩ :=
                    LdPlane.allocLargeDataSlot_some allocated
                  dsimp only
                  refine ((LdSettles.sendLine _).trans
                    (LdSettles.sendLine _)).flight ?_
                  refine @LdFlight.fill s _ idx (LdPlane.hostSlot env
                    (LdPlane.allocatedSlot (s.slots idx) range) command)
                    flight missing (fun inFlight => by cases inFlight.1) ?_ rfl
                  simp [Function.update_idem]

theorem stageChunk_settles
    {idx : Fin ldReceiverSlotCount} {linear : Nat} {payload : List UInt8}
    (active : (s.slots idx).active = true) :
    LdSettles s (s.stageChunk env idx linear payload) := by
  unfold LdPlane.stageChunk
  dsimp only
  split
  · next io errno wrote =>
    have written : LdSettles s { s with io := io } := .ofEq rfl rfl
    exact (written.trans (.freeLargeDataSlot idx)).trans (.sendLine _)
  · next io wrote =>
    have written : LdSettles s { s with io := io } := .ofEq rfl rfl
    have staged : LdSettles { s with io := io }
        (LdPlane.setSlot { s with io := io } idx
          ((s.slots idx).staged env)) :=
      .keep active rfl rfl rfl rfl
    have stored := written.trans staged
    split
    · have verified := @verifyCrc32_settles env
        (LdPlane.setSlot { s with io := io } idx
          ((s.slots idx).staged env)) idx
      obtain ⟨psram, after, -⟩ := (@LdPlane.verifyCrc32_spec env
        (LdPlane.setSlot { s with io := io } idx
          ((s.slots idx).staged env)) idx).1
      unfold LdSlot.staged at verified after
      split
      · next middle same =>
        rw [same] at verified
        exact ((stored.trans verified).trans (.freeLargeDataSlot idx)).trans
          (.sendLine _)
      · next middle same =>
        rw [same] at verified after
        have still : (middle.slots idx).active = true := by
          rw [show middle = _ from after]
          simp only [LdPlane.setSlot_slots, Function.update_self]
          exact active
        have ready : LdSettles middle
            (middle.setSlot idx (LdPlane.stagedSlot (middle.slots idx))) :=
          .keep still rfl rfl rfl rfl
        exact ((stored.trans verified).trans ready).trans (.sendLine _)
    · exact stored.trans (.sendLine _)

theorem cmdLdChunk_settles (args : List Char) :
    LdSettles s (s.cmdLdChunk env args) := by
  unfold LdPlane.cmdLdChunk
  split
  · exact .sendLine _
  · split
    · exact .sendLine _
    · split
      · exact .sendLine _
      · split
        · exact .sendLine _
        · split
          · exact .sendLine _
          · split
            · exact .sendLine _
            · next idx search =>
              dsimp only
              split
              · exact .sendLine _
              · split
                · exact .sendLine _
                · split
                  · exact .sendLine _
                  · exact stageChunk_settles
                      (LdPlane.findLargeDataSlot_some search).1

theorem atSendNextChunk_settles
    (senderIdx : Fin ldSenderSlotCount) (page chunk : Nat) :
    LdSettles s (s.atSendNextChunk senderIdx page chunk) := by
  unfold LdPlane.atSendNextChunk
  dsimp only
  split
  · exact .refl s
  · split
    · exact .ofEq rfl rfl
    · next io payload same =>
      have read : LdSettles s { s with io := io } := .ofEq rfl rfl
      exact read.trans (.sendLine _)

theorem cmdLdInitAck_settles (args : List Char) :
    LdSettles s (s.cmdLdInitAck env args).1 := by
  unfold LdPlane.cmdLdInitAck
  split
  · dsimp only
    split
    · exact .refl s
    · split
      · exact .refl s
      · split
        · exact .ofEq rfl rfl
        · exact .ofEq rfl rfl
  · exact .refl s

theorem cmdLdInitReady_settles : LdSettles s s.cmdLdInitReady := by
  unfold LdPlane.cmdLdInitReady
  split
  · exact .refl s
  · exact atSendNextChunk_settles _ _ _

/-- The sender of a blob that was handed over goes, and the slot of its key is
transferred. -/
theorem cmdLdChunkReady_flight
    (flight : LdFlight s) (ready : s.cmdLdChunkReady = .ok s') :
    LdFlight s' := by
  unfold LdPlane.cmdLdChunkReady at ready
  split at ready
  · cases ready
  · next senderIdx cached =>
    have key (gen : UInt16) (id : UInt8)
        (sending : s.Sending gen id senderIdx) :
        gen = (s.senders senderIdx).genDeviceId ∧
          id = (s.senders senderIdx).dataId :=
      ⟨sending.2.1.symm, sending.2.2.symm⟩
    have others (i : Fin ldSenderSlotCount) (other : i ≠ senderIdx)
        (gen : UInt16) (id : UInt8) (sending : s.Sending gen id i) :
        (s.freeSenderSlot senderIdx).Sending gen id i := by
      rw [LdPlane.Sending, LdPlane.freeSenderSlot,
        LdPlane.setSender_senders, Function.update_of_ne other]
      exact sending
    have freed : (s.freeSenderSlot senderIdx).slots = s.slots := rfl
    dsimp only at ready
    split at ready
    · split at ready
      · next missing =>
        cases ready
        exact flight.retire key freed missing others
      · next found search =>
        cases ready
        exact flight.retireSlot { s.slots found with isTransfered := true }
          key freed search rfl rfl (fun inFlight => by cases inFlight.2) rfl
          others
    · cases ready
      have counted : LdSettles s (s.setSender senderIdx
          { s.senders senderIdx with
            nextChunk := (s.senders senderIdx).nextChunk + 1 }) :=
        .setSender rfl rfl rfl
      exact (counted.trans (atSendNextChunk_settles _ _ _)).flight flight

end Host

/-- The condition does not look at what the previous event put out. -/
theorem ldKeepsFlight_clearOut
    {env : Env} {event : LdEvent} {s : LdPlane}
    (keeps : s.KeepsFlight env event) : s.clearOut.KeepsFlight env event := by
  have sender (genDeviceId : UInt16) (dataId : UInt8) :
      s.clearOut.findSenderSlot genDeviceId dataId =
        s.findSenderSlot genDeviceId dataId := by
    unfold LdPlane.findSenderSlot
    rfl
  have slot (genDeviceId : UInt16) (dataId : UInt8) :
      s.clearOut.findLargeDataSlot genDeviceId dataId =
        s.findLargeDataSlot genDeviceId dataId := by
    unfold LdPlane.findLargeDataSlot
    rfl
  have free : s.clearOut.freeSlot = s.freeSlot := by
    unfold LdPlane.freeSlot
    rfl
  cases event with
  | largeDataInit pkt srcId =>
      simp only [LdPlane.KeepsFlight, slot, free]
      exact keeps
  | largeDataInitAck pkt srcId =>
      simp only [LdPlane.KeepsFlight, sender]
      exact keeps
  | largeDataChunkAck pkt srcId =>
      simp only [LdPlane.KeepsFlight, sender]
      exact keeps
  | tick => exact keeps
  | _ => trivial

/-- An event that meets the condition keeps the invariant. -/
theorem LdPlane.step_flight
    {env : Env} {event : LdEvent} {s s' : LdPlane}
    (notGateway : env.deviceType ≠ .gateway)
    (keeps : s.KeepsFlight env event) (flight : LdFlight s)
    (stepped : s.step env event = .ok s') : LdFlight s' := by
  have cleared : LdFlight s.clearOut :=
    (LdSettles.ofEq rfl rfl : LdSettles s s.clearOut).flight flight
  have keeps := ldKeepsFlight_clearOut keeps
  cases event with
  | largeDataInit pkt srcId =>
      cases stepped
      exact handleLargeDataInit_flight cleared keeps
  | largeDataInitAck pkt srcId =>
      exact handleLargeDataInitAck_flight cleared keeps stepped
  | largeDataChunk pkt srcId =>
      exact (handleLargeDataChunk_settles stepped).flight cleared
  | largeDataChunkAck pkt srcId =>
      exact handleLargeDataChunkAck_flight cleared keeps stepped
  | tick => exact largeDataTick_flight notGateway cleared keeps stepped
  | cmdLdInit args =>
      cases stepped
      exact cmdLdInit_flight args cleared
  | cmdLdChunk args =>
      cases stepped
      exact (cmdLdChunk_settles args).flight cleared
  | cmdLdInitAck args =>
      cases stepped
      exact (cmdLdInitAck_settles args).flight cleared
  | cmdLdInitReady =>
      cases stepped
      exact cmdLdInitReady_settles.flight cleared
  | cmdLdChunkAck args =>
      obtain ⟨_, -, rfl⟩ := exists_of_map_ok stepped
      exact cleared
  | cmdLdChunkReady => exact cmdLdChunkReady_flight cleared stepped
  | restart =>
      cases stepped
      constructor
      · intro left right active
        cases active
      · intro idx active
        cases active
  | elsewhere psram uart =>
      cases stepped
      exact ⟨flight.keys, flight.sent⟩

end DectMesh
