import DectMesh.Report.Isolation

/-!
# Forwarding of reports

A sensor or an anchor moves a report upstream from the slot its sender entry
was created from.  The invariant below ties every active sender entry to that
slot; it makes the announced checksum the checksum of the staged bytes.  The
chunks themselves are read at slot zero's address, so they carry the staged
bytes exactly where slot zero happens to hold the same ones.
-/

namespace DectMesh

open ByteStore

/-- The chunk count and the last chunk size follow from the total size. -/
structure Geometry (totalSize : UInt16) (chunkCount lastChunkSize : UInt8) :
    Prop where
  count :
    chunkCount.toNat = (totalSize.toNat + sendDataMax - 1) / sendDataMax
  last :
    lastChunkSize.toNat =
      totalSize.toNat - (chunkCount.toNat - 1) * sendDataMax

/-- The entry transfers what the slot holds. -/
structure Carries (sender : ReportSender) (slot : ReportSlot) : Prop where
  active : slot.active = true
  ready : slot.upstreamReady = true
  sent : slot.isSent = true
  gen : sender.genDeviceId = slot.genDeviceId
  id : sender.dataId = slot.dataId
  totalSize : sender.totalSize = slot.totalSize
  chunkCount : sender.chunkCount = slot.chunkCount
  lastChunkSize : sender.lastChunkSize = slot.lastChunkSize
  crc32 : sender.crc32 = slot.crc32

/-- An entry that goes on with the transfer it had. -/
structure Continues (before after : ReportSender) : Prop where
  active : before.active = true
  gen : after.genDeviceId = before.genDeviceId
  id : after.dataId = before.dataId
  totalSize : after.totalSize = before.totalSize
  chunkCount : after.chunkCount = before.chunkCount
  lastChunkSize : after.lastChunkSize = before.lastChunkSize
  crc32 : after.crc32 = before.crc32
  origin : after.origin = before.origin

theorem Continues.refl
    {sender : ReportSender} (active : sender.active = true) :
    Continues sender sender :=
  ⟨active, rfl, rfl, rfl, rfl, rfl, rfl, rfl⟩

theorem Carries.continued
    {before after : ReportSender} {slot : ReportSlot}
    (carried : Carries before slot) (continues : Continues before after) :
    Carries after slot where
  active := carried.active
  ready := carried.ready
  sent := carried.sent
  gen := continues.gen.trans carried.gen
  id := continues.id.trans carried.id
  totalSize := continues.totalSize.trans carried.totalSize
  chunkCount := continues.chunkCount.trans carried.chunkCount
  lastChunkSize := continues.lastChunkSize.trans carried.lastChunkSize
  crc32 := continues.crc32.trans carried.crc32

/-- The invariant of forwarding. -/
structure Forwarding (board : Board) (s : ReportPlane) : Prop where
  stored : Stored board.crc s
  geometry :
    ∀ idx, (s.slots idx).active = true →
      Geometry (s.slots idx).totalSize (s.slots idx).chunkCount
        (s.slots idx).lastChunkSize
  keys :
    ∀ left right, (s.slots left).active = true →
      (s.slots right).active = true →
        (s.slots left).genDeviceId = (s.slots right).genDeviceId →
          (s.slots left).dataId = (s.slots right).dataId → left = right
  timers :
    ∀ idx, board.deviceType = .sensor ∨
        ((s.slots idx).active = true ∧ (s.slots idx).upstreamReady = true) →
      (s.slots idx).idleTimeout.deadlineMs = 0
  carries :
    ∀ i, (s.senders i).active = true →
      Carries (s.senders i) (s.slots (s.senders i).origin)
  single :
    ∀ i j, (s.senders i).active = true → (s.senders j).active = true →
      (s.senders i).origin = (s.senders j).origin → i = j

namespace Forwarding

variable {board : Board} {s s' : ReportPlane}

/-- The only active slot with a sender's key is the one it came from. -/
theorem origin_eq
    (inv : Forwarding board s) {i : Fin maxAnchors} {idx : Fin dataSlotCount}
    (sending : (s.senders i).active = true)
    (active : (s.slots idx).active = true)
    (gen : (s.senders i).genDeviceId = (s.slots idx).genDeviceId)
    (id : (s.senders i).dataId = (s.slots idx).dataId) :
    (s.senders i).origin = idx := by
  have carried := inv.carries i sending
  exact inv.keys _ _ carried.active active (carried.gen.symm.trans gen)
    (carried.id.symm.trans id)

/-- Two active entries with one key are one entry. -/
theorem sender_eq
    (inv : Forwarding board s) {i j : Fin maxAnchors}
    (left : (s.senders i).active = true) (right : (s.senders j).active = true)
    (gen : (s.senders i).genDeviceId = (s.senders j).genDeviceId)
    (id : (s.senders i).dataId = (s.senders j).dataId) : i = j := by
  have carried := inv.carries j right
  exact inv.single i j left right
    (inv.origin_eq left carried.active (gen.trans carried.gen)
      (id.trans carried.id))

/-- A slot that is not ready, or not marked as sent, has no entry. -/
theorem origin_ne
    (inv : Forwarding board s) {i : Fin maxAnchors} {idx : Fin dataSlotCount}
    (sending : (s.senders i).active = true)
    (waiting : (s.slots idx).active = false ∨
      (s.slots idx).upstreamReady = false ∨ (s.slots idx).isSent = false) :
    (s.senders i).origin ≠ idx := by
  rintro rfl
  have carried := inv.carries i sending
  rcases waiting with inactive | unready | unsent
  · exact Bool.false_ne_true (inactive.symm.trans carried.active)
  · exact Bool.false_ne_true (unready.symm.trans carried.ready)
  · exact Bool.false_ne_true (unsent.symm.trans carried.sent)

/-- Consistent slots store their chunks inside their regions. -/
theorem storesInside (inv : Forwarding board s) (event : ReportEvent) :
    StoresInside s event := by
  intro pkt srcId idx chunk _ storable
  have active := (ReportPlane.findSlot_some storable.found).1
  have bound := (inv.stored idx active).totalSize
  have geometry := inv.geometry idx active
  have below := UInt8.lt_iff_toNat_lt.mp storable.inRange
  have count := geometry.count
  have last := geometry.last
  unfold maxReportSize at bound ⊢
  unfold ReportPlane.storedChunkSize
  split
  · unfold sendDataMax at *
    omega
  · rw [sendDataMax_toNat]
    unfold sendDataMax at *
    omega

/-- No slot changed, and no entry started. -/
theorem keepSlots
    (inv : Forwarding board s) (stored : Stored board.crc s')
    (slots : s'.slots = s.slots)
    (senders : ∀ i, (s'.senders i).active = true →
      Continues (s.senders i) (s'.senders i)) :
    Forwarding board s' where
  stored := stored
  geometry := slots ▸ inv.geometry
  keys := slots ▸ inv.keys
  timers := slots ▸ inv.timers
  carries := by
    intro i sending
    have continues := senders i sending
    rw [slots, continues.origin]
    exact (inv.carries i continues.active).continued continues
  single := by
    intro i j left right same
    have first := senders i left
    have second := senders j right
    rw [first.origin, second.origin] at same
    exact inv.single i j first.active second.active same

/-- Packets and counters are not part of it. -/
theorem ofSame (inv : Forwarding board s) (same : SameTables s s') :
    Forwarding board s' := by
  have stored : Stored board.crc s' :=
    inv.stored.keep same.slots fun _ _ => same.mem ▸ AgreeOn.refl _ _ _
  apply inv.keepSlots stored same.slots
  rw [same.senders]
  exact fun _ sending => .refl sending

/-- One slot changed, and no entry started. -/
theorem updateSlot
    {idx : Fin dataSlotCount} {slot : ReportSlot}
    (inv : Forwarding board s) (stored : Stored board.crc s')
    (slots : s'.slots = Function.update s.slots idx slot)
    (senders : ∀ i, (s'.senders i).active = true →
      Continues (s.senders i) (s'.senders i))
    (geometry : slot.active = true →
      Geometry slot.totalSize slot.chunkCount slot.lastChunkSize)
    (keys : slot.active = true → ∀ other, other ≠ idx →
      (s.slots other).active = true →
        (s.slots other).genDeviceId = slot.genDeviceId →
          (s.slots other).dataId ≠ slot.dataId)
    (timers : board.deviceType = .sensor ∨
        (slot.active = true ∧ slot.upstreamReady = true) →
      slot.idleTimeout.deadlineMs = 0)
    (carries : ∀ i, (s'.senders i).active = true →
      (s.senders i).origin = idx → Carries (s'.senders i) slot) :
    Forwarding board s' where
  stored := stored
  geometry := by
    intro other active
    rw [slots] at active ⊢
    by_cases same : other = idx
    · subst same
      rw [Function.update_self] at active ⊢
      exact geometry active
    · rw [Function.update_of_ne same] at active ⊢
      exact inv.geometry other active
  keys := by
    intro left right leftActive rightActive gen id
    rw [slots] at leftActive rightActive gen id
    by_cases leftSame : left = idx
    · by_cases rightSame : right = idx
      · exact leftSame.trans rightSame.symm
      · subst leftSame
        rw [Function.update_self] at leftActive gen id
        rw [Function.update_of_ne rightSame] at rightActive gen id
        exact absurd id.symm
          (keys leftActive right rightSame rightActive gen.symm)
    · rw [Function.update_of_ne leftSame] at leftActive gen id
      by_cases rightSame : right = idx
      · subst rightSame
        rw [Function.update_self] at rightActive gen id
        exact absurd id (keys rightActive left leftSame leftActive gen)
      · rw [Function.update_of_ne rightSame] at rightActive gen id
        exact inv.keys left right leftActive rightActive gen id
  timers := by
    intro other running
    rw [slots] at running ⊢
    by_cases same : other = idx
    · subst same
      rw [Function.update_self] at running ⊢
      exact timers running
    · rw [Function.update_of_ne same] at running ⊢
      exact inv.timers other running
  carries := by
    intro i sending
    have continues := senders i sending
    rw [slots, continues.origin]
    by_cases same : (s.senders i).origin = idx
    · rw [same, Function.update_self]
      exact carries i sending same
    · rw [Function.update_of_ne same]
      exact (inv.carries i continues.active).continued continues
  single := by
    intro i j left right same
    have first := senders i left
    have second := senders j right
    rw [first.origin, second.origin] at same
    exact inv.single i j first.active second.active same

/-- One slot is freed, and no entry came from it. -/
theorem freeSlot
    {idx : Fin dataSlotCount} {slot : ReportSlot}
    (inv : Forwarding board s) (stored : Stored board.crc s')
    (slots : s'.slots =
      Function.update s.slots idx (ReportPlane.freedSlot slot))
    (senders : ∀ i, (s'.senders i).active = true →
      Continues (s.senders i) (s'.senders i))
    (unused : ∀ i, (s'.senders i).active = true →
      (s.senders i).origin ≠ idx) : Forwarding board s' := by
  apply inv.updateSlot stored slots senders
  · simp [ReportPlane.freedSlot]
  · simp [ReportPlane.freedSlot]
  · exact fun _ => rfl
  · exact fun i sending origin => absurd origin (unused i sending)

/-- No other slot has the key of a slot in use. -/
theorem otherKeys
    {idx : Fin dataSlotCount} (inv : Forwarding board s)
    (active : (s.slots idx).active = true) (other : Fin dataSlotCount)
    (different : other ≠ idx) (otherActive : (s.slots other).active = true)
    (gen : (s.slots other).genDeviceId = (s.slots idx).genDeviceId) :
    (s.slots other).dataId ≠ (s.slots idx).dataId := fun id =>
  different (inv.keys other idx otherActive active gen id)

/-- After the initialisation nothing is left to be carried. -/
theorem restart (inv : Forwarding board s) (stored : Stored board.crc s')
    (initialised : s' = s.reportInit) : Forwarding board s' := by
  subst initialised
  constructor
  · exact stored
  · simp [ReportPlane.reportInit]
  · simp [ReportPlane.reportInit]
  · rintro idx (sensor | ⟨active, _⟩)
    · exact inv.timers idx (.inl sensor)
    · cases active
  · simp [ReportPlane.reportInit]
  · simp [ReportPlane.reportInit]

end Forwarding

/-- The condition on announcements: an anchor is given consistent sizes. -/
def InitsConsistent (env : Env) (event : ReportEvent) : Prop :=
  ∀ pkt, AcceptedInit env event pkt →
    Geometry pkt.totalSize pkt.chunkCount pkt.lastChunkSize

/-- The condition on the host: while a report is being sent, a command with its
id repeats its bytes, and the repetition is stored. -/
def ResubmitsSame (s : ReportPlane) (env : Env) (event : ReportEvent) : Prop :=
  ∀ command, AcceptedCommand env event command →
    ∀ i, (s.senders i).active = true →
      (s.senders i).genDeviceId = env.deviceId →
        (s.senders i).dataId = command.report.dataId.toUInt8 →
          command.payload =
              slotBytes s.io.psram.mem (s.senders i).origin
                (s.slots (s.senders i).origin) ∧
            (s.io.psram.write (slotPsramAddr (s.senders i).origin)
              command.payload).2 = none

section Moves

variable {env : Env} {event : ReportEvent} {s s' : ReportPlane}

/-- The entries left after a slot was freed were there before. -/
theorem reportSlotFree_continues
    {idx : Fin dataSlotCount} {senderIdx : UInt8} {i : Fin maxAnchors}
    (sending : ((s.reportSlotFree idx senderIdx).senders i).active = true) :
    i.val ≠ senderIdx.toNat ∧
      Continues (s.senders i) ((s.reportSlotFree idx senderIdx).senders i) := by
  rw [ReportPlane.reportSlotFree_senders] at sending ⊢
  split at sending
  · cases sending
  · next different =>
    rw [if_neg different]
    exact ⟨different, .refl sending⟩

theorem continues_setSender
    {senderIdx : Fin maxAnchors} {sender : ReportSender}
    (continues : sender.active = true →
      Continues (s.senders senderIdx) sender)
    {i : Fin maxAnchors}
    (sending : (Function.update s.senders senderIdx sender i).active = true) :
    Continues (s.senders i) (Function.update s.senders senderIdx sender i) := by
  by_cases same : i = senderIdx
  · subst same
    rw [Function.update_self] at sending ⊢
    exact continues sending
  · rw [Function.update_of_ne same] at sending ⊢
    exact .refl sending

/-- No entry is left behind when its slot is freed. -/
theorem FreeReason.noSender
    {idx : Fin dataSlotCount} {senderIdx : UInt8}
    (reason : FreeReason env event s idx senderIdx)
    (inv : Forwarding env.toBoard s) {i : Fin maxAnchors}
    (sending : (s.senders i).active = true)
    (kept : i.val ≠ senderIdx.toNat) :
    (s.senders i).origin ≠ idx := by
  intro origin
  have carried := inv.carries i sending
  rw [origin] at carried
  cases reason with
  | idle ticked active expired =>
      have stopped := inv.timers idx (.inr ⟨active, carried.ready⟩)
      rw [NbTimeout.expired_of_deadline_zero stopped] at expired
      cases expired
  | alreadyExists received status found =>
      obtain ⟨_, gen, id⟩ := ReportPlane.findSlot_some found
      have senderGen := carried.gen.trans gen
      have senderId := carried.id.trans id
      revert kept
      cases search : s.findSenderSlot _ _ with
      | none =>
          exact absurd senderId
            (ReportPlane.findSenderSlot_none search i sending senderGen)
      | some j =>
          intro kept
          obtain ⟨other, otherGen, otherId⟩ :=
            ReportPlane.findSenderSlot_some search
          have same := inv.sender_eq sending other
            (senderGen.trans otherGen.symm) (senderId.trans otherId.symm)
          apply kept
          rw [same]
          have small : j.val < 256 := Nat.lt_trans j.isLt (by decide)
          simp [indexByte, Nat.mod_eq_of_lt small]
  | @complete j pkt srcId received status sender allSent from_ found =>
      obtain ⟨_, gen, id⟩ := ReportPlane.findSlot_some found
      obtain ⟨other, otherGen, otherId⟩ :=
        ReportPlane.findSenderSlot_some sender
      have same := inv.sender_eq sending other
        ((carried.gen.trans gen).trans otherGen.symm)
        ((carried.id.trans id).trans otherId.symm)
      apply kept
      rw [same]
      have small : j.val < 256 := Nat.lt_trans j.isLt (by decide)
      simp [Nat.mod_eq_of_lt small]
  | invalid role ticked active unsent details =>
      exact inv.origin_ne sending (.inr (.inr unsent)) origin

/-- A slot that takes a new report keeps the keys distinct. -/
theorem Target.keys
    {genDeviceId : UInt16} {dataId : UInt8} {idx : Fin dataSlotCount}
    {base : ReportSlot}
    (target : Target s genDeviceId dataId idx base)
    (inv : Forwarding env.toBoard s) (other : Fin dataSlotCount)
    (different : other ≠ idx) (active : (s.slots other).active = true)
    (gen : (s.slots other).genDeviceId = genDeviceId) :
    (s.slots other).dataId ≠ dataId := by
  cases target with
  | existing found =>
      obtain ⟨present, foundGen, foundId⟩ := ReportPlane.findSlot_some found
      intro same
      exact different (inv.keys other idx active present
        (gen.trans foundGen.symm) (same.trans foundId.symm))
  | fresh missing free =>
      exact ReportPlane.findSlot_none missing other active gen

theorem hostGeometry
    {command : ReportPlane.ReportCommand} {base : ReportSlot}
    (accepted : AcceptedCommand env event command) :
    Geometry
      (ReportPlane.hostSlot env base command.report command.priority).totalSize
      (ReportPlane.hostSlot env base command.report command.priority).chunkCount
      (ReportPlane.hostSlot env base command.report
        command.priority).lastChunkSize where
  count := hostChunkCount_toNat accepted.fits
  last := by
    obtain ⟨args, _, parsed⟩ := accepted.parsed
    obtain ⟨length, positive, bound⟩ := ReportPlane.parseReport_some parsed
    have count := hostChunkCount_toNat accepted.fits
    simp only [ReportPlane.hostSlot, count]
    rw [UInt8.toNat_ofNat']
    unfold maxReportSize at bound
    unfold sendDataMax
    split <;> omega

/-- Equal sizes have equal geometries. -/
theorem Geometry.unique
    {totalSize : UInt16} {chunkCount chunkCount' : UInt8}
    {lastChunkSize lastChunkSize' : UInt8}
    (left : Geometry totalSize chunkCount lastChunkSize)
    (right : Geometry totalSize chunkCount' lastChunkSize') :
    chunkCount = chunkCount' ∧ lastChunkSize = lastChunkSize' := by
  have count : chunkCount = chunkCount' :=
    UInt8.toNat_inj.mp (left.count.trans right.count.symm)
  subst count
  exact ⟨rfl,
    UInt8.toNat_inj.mp (left.last.trans right.last.symm)⟩

/-- A transfer that starts is the first one of its slot. -/
theorem Forwarding.start
    {senderIdx : Fin maxAnchors} {idx : Fin dataSlotCount}
    (inv : Forwarding env.toBoard s)
    (stored : Stored env.crc
      ((s.setSender senderIdx (s.senderFor env idx)).setSlot idx
        { s.slots idx with isSent := true }))
    (active : (s.slots idx).active = true)
    (ready : (s.slots idx).upstreamReady = true)
    (unsent : (s.slots idx).isSent = false) :
    Forwarding env.toBoard
      ((s.setSender senderIdx (s.senderFor env idx)).setSlot idx
        { s.slots idx with isSent := true }) := by
  have flagged : Forwarding env.toBoard
      (s.setSlot idx { s.slots idx with isSent := true }) := by
    have same : Stored env.crc
        (s.setSlot idx { s.slots idx with isSent := true }) :=
      fun other otherActive => stored other otherActive
    apply inv.updateSlot same rfl
    · exact fun _ sending => .refl sending
    · exact inv.geometry idx
    · intro _ other different otherActive gen id
      exact different (inv.keys other idx otherActive active gen id)
    · exact inv.timers idx
    · intro i sending origin
      exact absurd origin (inv.origin_ne sending (.inr (.inr unsent)))
  have fresh (i : Fin maxAnchors) (sending : (s.senders i).active = true) :
      (s.senders i).origin ≠ idx :=
    inv.origin_ne sending (.inr (.inr unsent))
  constructor
  · exact stored
  · exact flagged.geometry
  · exact flagged.keys
  · exact flagged.timers
  · intro i sending
    by_cases same : i = senderIdx
    · subst same
      simp only [ReportPlane.setSlot_senders, ReportPlane.setSender_senders,
        ReportPlane.setSlot_slots, ReportPlane.setSender_slots,
        Function.update_self, ReportPlane.senderFor]
      exact ⟨active, ready, rfl, rfl, rfl, rfl, rfl, rfl, rfl⟩
    · simp only [ReportPlane.setSlot_senders, ReportPlane.setSender_senders,
        Function.update_of_ne same] at sending ⊢
      exact flagged.carries i sending
  · intro i j left right origins
    simp only [ReportPlane.setSlot_senders, ReportPlane.setSender_senders]
      at left right origins
    by_cases first : i = senderIdx
    · by_cases second : j = senderIdx
      · exact first.trans second.symm
      · subst first
        rw [Function.update_of_ne second] at right
        rw [Function.update_self, Function.update_of_ne second] at origins
        exact absurd origins.symm (fresh j right)
    · rw [Function.update_of_ne first] at left origins
      by_cases second : j = senderIdx
      · subst second
        rw [Function.update_self] at origins
        exact absurd origins (fresh i left)
      · rw [Function.update_of_ne second] at right origins
        exact inv.single i j left right origins

/-- Taking a new report into a slot that is not ready breaks no transfer. -/
theorem Target.waiting
    {genDeviceId : UInt16} {dataId : UInt8} {idx : Fin dataSlotCount}
    {base : ReportSlot}
    (target : Target s genDeviceId dataId idx base)
    (notReady : base.upstreamReady = false) :
    (s.slots idx).active = false ∨ (s.slots idx).upstreamReady = false ∨
      (s.slots idx).isSent = false := by
  cases target with
  | existing found => exact .inr (.inl notReady)
  | fresh missing free => exact .inl (ReportPlane.freeSlot_some free)

/-- A slot that a transfer came from is only taken again under its own key. -/
theorem Target.reused
    {genDeviceId : UInt16} {dataId : UInt8} {idx : Fin dataSlotCount}
    {base : ReportSlot} {i : Fin maxAnchors}
    (target : Target s genDeviceId dataId idx base)
    (inv : Forwarding env.toBoard s) (sending : (s.senders i).active = true)
    (origin : (s.senders i).origin = idx) :
    base = s.slots idx ∧ (s.senders i).genDeviceId = genDeviceId ∧
      (s.senders i).dataId = dataId ∧ Carries (s.senders i) (s.slots idx) := by
  have carried := inv.carries i sending
  rw [origin] at carried
  cases target with
  | existing found =>
      obtain ⟨_, gen, id⟩ := ReportPlane.findSlot_some found
      exact ⟨rfl, carried.gen.trans gen, carried.id.trans id, carried⟩
  | fresh missing free =>
      exact absurd carried.active
        (by simp [ReportPlane.freeSlot_some free])

/-- The entry of a slot that is stored again with the same contents. -/
theorem ResubmitsSame.carries
    {command : ReportPlane.ReportCommand} {idx : Fin dataSlotCount}
    {base : ReportSlot} {i : Fin maxAnchors}
    (same : ResubmitsSame s env event)
    (accepted : AcceptedCommand env event command)
    (target : Target s env.deviceId command.report.dataId.toUInt8 idx base)
    (inv : Forwarding env.toBoard s) (sending : (s.senders i).active = true)
    (origin : (s.senders i).origin = idx) :
    Carries (s.senders i)
      (ReportPlane.hostSlot env base command.report command.priority) := by
  obtain ⟨rfl, gen, id, carried⟩ := target.reused inv sending origin
  obtain ⟨repeated, _⟩ := same command accepted i sending gen id
  rw [origin] at repeated
  have size : command.report.dataLen = (s.senders i).totalSize := by
    obtain ⟨args, _, parsed⟩ := accepted.parsed
    have length := (ReportPlane.parseReport_some parsed).1
    rw [repeated, slotBytes, slice_length] at length
    exact (UInt16.toNat_inj.mp length).trans carried.totalSize.symm
  have checksum : command.report.dataCrc32 = (s.senders i).crc32 := by
    have held := (inv.stored idx carried.active).checksum carried.ready
    rw [← repeated] at held
    exact (accepted.checksum.symm.trans held).trans carried.crc32.symm
  have geometry := inv.geometry idx carried.active
  have host := @hostGeometry env event command (s.slots idx) accepted
  rw [← carried.totalSize, ← carried.chunkCount, ← carried.lastChunkSize,
    ← size] at geometry
  obtain ⟨count, last⟩ := geometry.unique host
  exact
    { active := rfl
      ready := rfl
      sent := carried.sent
      gen := gen
      id := id
      totalSize := size.symm
      chunkCount := count
      lastChunkSize := last
      crc32 := checksum.symm }

/-- Every move of a sensor or an anchor keeps the invariant. -/
theorem ReportMove.keepsForwarding
    (move : ReportMove env event s s')
    (role : env.deviceType ≠ .gateway)
    (consistent : InitsConsistent env event)
    (same : ResubmitsSame s env event)
    (inv : Forwarding env.toBoard s) : Forwarding env.toBoard s' := by
  have stored : Stored env.crc s' :=
    move.keepsStored (inv.storesInside event) inv.stored
  have kept : ∀ i, (s.senders i).active = true →
      Continues (s.senders i) (s.senders i) :=
    fun _ sending => .refl sending
  cases move with
  | quiet unchanged => exact inv.ofSame unchanged
  | sentChunk reason sending inRange mem out =>
      exact inv.keepSlots stored rfl kept
  | freed reason =>
      apply inv.freeSlot stored (s.reportSlotFree_slots _ _)
      · exact fun i sending => (reportSlotFree_continues sending).2
      · intro i sending
        obtain ⟨different, continues⟩ := reportSlotFree_continues sending
        exact reason.noSender inv continues.active different
  | stopped =>
      apply inv.keepSlots stored rfl
      exact fun i sending => continues_setSender (by simp) sending
  | @advanced senderIdx below =>
      apply inv.keepSlots stored rfl
      intro i sending
      apply continues_setSender _ sending
      exact fun active => ⟨active, rfl, rfl, rfl, rfl, rfl, rfl, rfl⟩
  | @retried senderIdx idx timeout sending active gen id =>
      apply inv.updateSlot stored rfl
      · exact fun i sending => continues_setSender (by simp) sending
      · exact inv.geometry idx
      · exact fun _ => inv.otherKeys active
      · exact inv.timers idx
      · intro i after origin
        have continues : Continues (s.senders i) _ :=
          continues_setSender (by simp) after
        have ended : i = senderIdx :=
          inv.single i senderIdx continues.active sending
            (origin.trans (inv.origin_eq sending active gen id).symm)
        subst ended
        simp at after
  | started _ _ _ active ready unsent =>
      exact inv.start stored active ready unsent
  | @accepted idx base pkt init target notReady =>
      apply inv.updateSlot stored rfl kept
      · exact fun _ => consistent pkt init
      · exact fun _ other different otherActive otherGen =>
          target.keys inv other different otherActive otherGen
      · rintro (sensor | ⟨_, ready⟩)
        · rcases init.role with gateway | anchor
          · exact absurd gateway role
          · exact absurd (sensor.symm.trans anchor) (by decide)
        · exact absurd (notReady.symm.trans ready) Bool.false_ne_true
      · intro i sending origin
        exact absurd origin (inv.origin_ne sending (target.waiting notReady))
  | storeFailed _ _ storable mem out => exact inv.keepSlots stored rfl kept
  | @stored idx chunk pkt io srcId receiver received storable mem out partly =>
      have active := (ReportPlane.findSlot_some storable.found).1
      have unready := storable.notReady (inv.stored idx active).tally
      apply inv.updateSlot stored rfl kept
      · exact fun _ => inv.geometry idx active
      · exact fun _ => inv.otherKeys active
      · rintro (sensor | ⟨_, ready⟩)
        · rcases receiver with gateway | anchor
          · exact absurd gateway role
          · exact absurd (sensor.symm.trans anchor) (by decide)
        · exact absurd (unready.symm.trans ready) Bool.false_ne_true
      · intro i sending origin
        exact absurd origin (inv.origin_ne sending (.inr (.inl unready)))
  | @completed idx chunk pkt io srcId receiver received storable mem out full
      checksum =>
      have active := (ReportPlane.findSlot_some storable.found).1
      have unready := storable.notReady (inv.stored idx active).tally
      apply inv.updateSlot stored rfl kept
      · exact fun _ => inv.geometry idx active
      · exact fun _ => inv.otherKeys active
      · intro _
        simp [ReportPlane.readySlot, role]
      · intro i sending origin
        exact absurd origin (inv.origin_ne sending (.inr (.inl unready)))
  | @rejected idx chunk pkt io srcId receiver received storable mem out =>
      have active := (ReportPlane.findSlot_some storable.found).1
      have unready := storable.notReady (inv.stored idx active).tally
      apply inv.freeSlot stored
        ((ReportPlane.reportSlotFree_slots _ _ _).trans
          (Function.update_idem _ _ _))
      · exact fun i sending => (reportSlotFree_continues sending).2
      · intro i sending
        have continues := (reportSlotFree_continues sending).2
        exact inv.origin_ne continues.active (.inr (.inl unready))
  | forwarded gateway => exact absurd gateway role
  | @transfered idx =>
      apply inv.updateSlot stored rfl kept
      · exact inv.geometry idx
      · exact fun active => inv.otherKeys active
      · exact inv.timers idx
      · intro i sending origin
        have carried := inv.carries i sending
        rw [origin] at carried
        exact { carried with }
  | @hostStored idx base command io accepted target mem out =>
      apply inv.updateSlot stored rfl kept
      · exact fun _ => hostGeometry accepted
      · exact fun _ other different otherActive otherGen =>
          target.keys inv other different otherActive otherGen
      · intro _
        have stopped := inv.timers idx (.inl accepted.role)
        cases target with
        | existing found => exact stopped
        | fresh missing free => exact stopped
      · exact fun i sending origin =>
          same.carries accepted target inv sending origin
  | @hostLost idx base command io written accepted target mem out failed =>
      apply inv.freeSlot stored
        ((ReportPlane.reportSlotFree_slots _ _ _).trans
          (Function.update_idem _ _ _))
      · exact fun i sending => (reportSlotFree_continues sending).2
      · intro i after origin
        have continues := (reportSlotFree_continues after).2
        obtain ⟨_, gen, id, _⟩ := target.reused inv continues.active origin
        obtain ⟨_, written⟩ :=
          same command accepted i continues.active gen id
        rw [origin] at written
        exact absurd written failed
  | restarted restart => exact inv.restart stored rfl
  | elsewhere other slots senders region out =>
      apply inv.keepSlots stored slots
      rw [senders]
      exact kept

/-- Only a host report meets the condition on the host. -/
theorem resubmitsSame_of_other
    (other : ∀ args, event ≠ .cmdReport args) : ResubmitsSame s env event := by
  intro command accepted
  obtain ⟨args, received, _⟩ := accepted.parsed
  exact absurd received (other args)

theorem ReportMoves.keepsForwarding
    (moves : ReportMoves env event s s')
    (role : env.deviceType ≠ .gateway)
    (consistent : InitsConsistent env event)
    (other : ∀ args, event ≠ .cmdReport args)
    (inv : Forwarding env.toBoard s) : Forwarding env.toBoard s' := by
  induction moves with
  | refl => exact inv
  | tail _ move inductionHypothesis =>
      exact move.keepsForwarding role consistent
        (resubmitsSame_of_other other) inductionHypothesis

/-- Every event of a sensor or an anchor keeps the invariant. -/
theorem ReportPlane.step_forwarding
    (role : env.deviceType ≠ .gateway)
    (allowed : s.Elsewhere event)
    (consistent : InitsConsistent env event)
    (same : ResubmitsSame s env event)
    (stepped : s.step env event = .ok s')
    (inv : Forwarding env.toBoard s) : Forwarding env.toBoard s' := by
  have cleared : Forwarding env.toBoard s.clearOut :=
    { inv with stored := inv.stored }
  by_cases host : ∃ args, event = .cmdReport args
  · obtain ⟨args, rfl⟩ := host
    cases stepped
    have outcome :
        OneMove env (.cmdReport args) s.clearOut
          (s.clearOut.cmdReport env args) :=
      cmdReport_oneMove rfl
    obtain ⟨middle, first, rest⟩ := outcome
    have between : Forwarding env.toBoard middle := by
      rcases first with rfl | move
      · exact cleared
      · exact move.keepsForwarding role consistent same cleared
    exact between.ofSame rest
  · push Not at host
    exact (step_moves allowed stepped).keepsForwarding role consistent host
      cleared

end Moves

end DectMesh
