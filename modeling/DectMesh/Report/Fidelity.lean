import DectMesh.Report.Forwarding

/-!
# Which bytes a forwarded report consists of

The staged bytes of a transfer stay as they are while it lasts, and their
checksum is the announced one.  What the chunk packets carry is another
matter: they are read at slot zero's address.
-/

namespace DectMesh

open ByteStore

/-- The bytes chunk `chunkIdx` of a transfer is staged in. -/
def stagedChunk (mem : Store) (sender : ReportSender) (chunkIdx : UInt8) :
    List UInt8 :=
  slice mem (slotPsramAddr sender.origin + chunkIdx.toNat * sendDataMax)
    (ReportPlane.chunkSizeFor sender chunkIdx).toNat

/-- The bytes a chunk packet carries for a transfer. -/
def carriedChunk (sender : ReportSender) (pkt : ReportChunk) : List UInt8 :=
  pkt.data.bytes.take (ReportPlane.chunkSizeFor sender pkt.chunkIndex).toNat

/-- Slot zero holds the bytes chunk `chunkIdx` of a transfer is staged in. -/
def SlotZeroHolds (mem : Store) (sender : ReportSender) (chunkIdx : UInt8) :
    Prop :=
  slice mem (slotPsramAddr slotZero + chunkIdx.toNat * sendDataMax)
    (ReportPlane.chunkSizeFor sender chunkIdx).toNat =
      stagedChunk mem sender chunkIdx

/-- The announcement of a transfer. -/
structure Announces (pkt : ReportInit) (sender : ReportSender) : Prop where
  gen : pkt.genDeviceId = sender.genDeviceId
  id : pkt.dataId = sender.dataId
  totalSize : pkt.totalSize = sender.totalSize
  chunkCount : pkt.chunkCount = sender.chunkCount
  lastChunkSize : pkt.lastChunkSize = sender.lastChunkSize
  crc32 : pkt.crc32 = sender.crc32

/-- A chunk packet of an active transfer. -/
structure ChunkOf (s : ReportPlane) (i : Fin maxAnchors) (pkt : ReportChunk) :
    Prop where
  sending : (s.senders i).active = true
  gen : pkt.genDeviceId = (s.senders i).genDeviceId
  id : pkt.dataId = (s.senders i).dataId
  inRange : pkt.chunkIndex < (s.senders i).chunkCount
  data :
    pkt.data = Buffer.ofData sendDataMax
      (slice s.io.psram.mem (ReportPlane.chunkReadAddr pkt.chunkIndex)
        (ReportPlane.chunkSizeFor (s.senders i) pkt.chunkIndex).toNat)

/-- The concatenated chunks of a transfer are its slot. -/
theorem stagedChunks_eq
    {mem : Store} {sender : ReportSender} {slot : ReportSlot}
    (carried : Carries sender slot)
    (geometry :
      Geometry slot.totalSize slot.chunkCount slot.lastChunkSize)
    (positive : 0 < slot.totalSize.toNat) :
    ((List.range sender.chunkCount.toNat).flatMap fun index =>
      stagedChunk mem sender (UInt8.ofNat index)) =
        slotBytes mem sender.origin slot := by
  obtain ⟨full, count⟩ :
      ∃ full, sender.chunkCount.toNat = full + 1 := by
    have counted := geometry.count
    rw [← carried.chunkCount] at counted
    unfold sendDataMax at counted
    exact Nat.exists_eq_succ_of_ne_zero (by omega)
  have small := sender.chunkCount.toNat_lt
  have before :
      ((List.range full).flatMap fun index =>
        stagedChunk mem sender (UInt8.ofNat index)) =
          slice mem (slotPsramAddr sender.origin) (full * sendDataMax) := by
    rw [← slice_blocks]
    apply List.flatMap_congr
    intro index member
    have below := List.mem_range.mp member
    have value : (UInt8.ofNat index).toNat = index := by
      simp
      omega
    unfold stagedChunk ReportPlane.chunkSizeFor
    rw [value, if_neg (by omega), sendDataMax_toNat]
  have value : (UInt8.ofNat full).toNat = full := by
    simp
    omega
  have last :
      stagedChunk mem sender (UInt8.ofNat full) =
        slice mem (slotPsramAddr sender.origin + full * sendDataMax)
          (slot.totalSize.toNat - full * sendDataMax) := by
    unfold stagedChunk ReportPlane.chunkSizeFor
    rw [value, if_pos count.symm, carried.lastChunkSize, geometry.last,
      ← carried.chunkCount, count, Nat.add_sub_cancel]
  have total :
      slot.totalSize.toNat =
        full * sendDataMax + (slot.totalSize.toNat - full * sendDataMax) := by
    have counted := geometry.count
    rw [← carried.chunkCount, count] at counted
    unfold sendDataMax at counted ⊢
    omega
  rw [count, List.range_succ, List.flatMap_append, before, slotBytes, total,
    slice_add]
  simp [last]

section Emission

variable {env : Env} {event : ReportEvent} {s s' s'' : ReportPlane}

/-- The events that may write the report region. -/
def MayWrite : ReportEvent → Prop
  | .reportChunk _ _ | .cmdReport _ | .elsewhere _ _ => True
  | _ => False

theorem ReportMove.mem_eq
    (move : ReportMove env event s s') (reads : ¬ MayWrite event) :
    s'.io.psram.mem = s.io.psram.mem := by
  cases move with
  | quiet same => exact same.mem
  | sentChunk reason sending inRange mem out =>
      rw [ReportPlane.put_io, Io.put_psram, mem]
  | freed reason => simp
  | stopped | advanced | retried | started | accepted => rfl
  | storeFailed role received =>
      subst received
      exact absurd trivial reads
  | stored role received =>
      subst received
      exact absurd trivial reads
  | completed role received =>
      subst received
      exact absurd trivial reads
  | rejected role received =>
      subst received
      exact absurd trivial reads
  | forwarded | transfered => rfl
  | hostStored accepted =>
      obtain ⟨args, rfl, _⟩ := accepted.parsed
      exact absurd trivial reads
  | hostLost accepted =>
      obtain ⟨args, rfl, _⟩ := accepted.parsed
      exact absurd trivial reads
  | restarted restart => rfl
  | elsewhere other =>
      subst other
      exact absurd trivial reads

theorem SendReason.reads
    {sender : ReportSender} {chunkIdx : UInt8}
    (reason : SendReason event sender chunkIdx) :
    ¬ MayWrite event ∧ event ≠ .tick := by
  cases reason with
  | announced received => simp [received, MayWrite]
  | refused received => simp [received, MayWrite]

/-- Only the tick starts transfers. -/
theorem ReportMove.continues
    (move : ReportMove env event s s') (notTick : event ≠ .tick)
    {i : Fin maxAnchors} (sending : (s'.senders i).active = true) :
    Continues (s.senders i) (s'.senders i) := by
  cases move with
  | quiet same =>
      rw [same.senders] at sending ⊢
      exact .refl sending
  | freed reason => exact (reportSlotFree_continues sending).2
  | stopped => exact continues_setSender (by simp) sending
  | @advanced senderIdx below =>
      apply continues_setSender _ sending
      exact fun active => ⟨active, rfl, rfl, rfl, rfl, rfl, rfl, rfl⟩
  | retried => exact continues_setSender (by simp) sending
  | started role ticked => exact absurd ticked notTick
  | rejected => exact (reportSlotFree_continues sending).2
  | hostLost => exact (reportSlotFree_continues sending).2
  | restarted restart => cases sending
  | elsewhere other slots senders =>
      rw [senders] at sending ⊢
      exact .refl sending
  | sentChunk | accepted | storeFailed | stored | completed | forwarded
  | transfered | hostStored => exact .refl sending

theorem ReportPlane.SentChunk.congr
    {pkt : ReportChunk} (sent : s'.SentChunk pkt)
    (out : s'.io.out = s.io.out) : s.SentChunk pkt := by
  rw [SentChunk, out] at sent
  exact sent

/-- A chunk packet that a move puts out belongs to a transfer. -/
theorem ReportMove.sentChunk_of
    (move : ReportMove env event s s') {pkt : ReportChunk}
    (sent : s'.SentChunk pkt) :
    s.SentChunk pkt ∨
      ((¬ MayWrite event ∧ event ≠ .tick) ∧ ∃ i, ChunkOf s i pkt) := by
  cases move with
  | quiet same => exact .inl (same.chunks pkt sent)
  | @sentChunk senderIdx chunkIdx dstId io reason sending inRange mem out =>
      simp only [ReportPlane.SentChunk, ReportPlane.put_io, Io.put_out,
        List.mem_append, List.mem_singleton, Action.request.injEq,
        Packet.reportChunk.injEq, out] at sent
      rcases sent with earlier | rfl
      · exact .inl earlier
      · exact .inr ⟨reason.reads, senderIdx, sending, rfl, rfl, inRange, rfl⟩
  | freed reason => exact .inl (sent.congr (by simp))
  | storeFailed role received storable mem out
  | stored role received storable mem out
  | completed role received storable mem out
  | hostStored accepted target mem out => exact .inl (sent.congr out)
  | rejected role received storable mem out =>
      exact .inl (sent.congr (by simpa using out))
  | hostLost accepted target mem out =>
      exact .inl (sent.congr (by simpa using out))
  | elsewhere other slots senders region out =>
      rw [ReportPlane.SentChunk, out] at sent
      cases sent
  | stopped | advanced | retried | started | accepted | forwarded
  | transfered | restarted => exact .inl sent

theorem ChunkOf.earlier
    {i : Fin maxAnchors} {pkt : ReportChunk}
    (chunk : ChunkOf s' i pkt)
    (continues : Continues (s.senders i) (s'.senders i))
    (mem : s'.io.psram.mem = s.io.psram.mem) : ChunkOf s i pkt where
  sending := continues.active
  gen := chunk.gen.trans continues.gen
  id := chunk.id.trans continues.id
  inRange := continues.chunkCount ▸ chunk.inRange
  data := by
    rw [chunk.data, mem]
    unfold ReportPlane.chunkSizeFor
    rw [continues.chunkCount, continues.lastChunkSize]

theorem ReportMoves.mem_eq
    (moves : ReportMoves env event s s') (reads : ¬ MayWrite event) :
    s'.io.psram.mem = s.io.psram.mem := by
  induction moves with
  | refl => rfl
  | tail _ move inductionHypothesis =>
      exact (move.mem_eq reads).trans inductionHypothesis

theorem Continues.trans
    {first second third : ReportSender}
    (left : Continues first second) (right : Continues second third) :
    Continues first third where
  active := left.active
  gen := right.gen.trans left.gen
  id := right.id.trans left.id
  totalSize := right.totalSize.trans left.totalSize
  chunkCount := right.chunkCount.trans left.chunkCount
  lastChunkSize := right.lastChunkSize.trans left.lastChunkSize
  crc32 := right.crc32.trans left.crc32
  origin := right.origin.trans left.origin

theorem ReportMoves.continues
    (moves : ReportMoves env event s s') (notTick : event ≠ .tick)
    {i : Fin maxAnchors} (sending : (s'.senders i).active = true) :
    Continues (s.senders i) (s'.senders i) := by
  induction moves with
  | refl => exact .refl sending
  | tail _ move inductionHypothesis =>
      have later := move.continues notTick sending
      exact (inductionHypothesis later.active).trans later

theorem ReportMoves.sentChunk_of
    (moves : ReportMoves env event s s') {pkt : ReportChunk}
    (sent : s'.SentChunk pkt) :
    s.SentChunk pkt ∨ ∃ i, ChunkOf s i pkt := by
  induction moves with
  | refl => exact .inl sent
  | tail before move inductionHypothesis =>
      rcases move.sentChunk_of sent with earlier | ⟨⟨reads, notTick⟩, i, chunk⟩
      · exact inductionHypothesis earlier
      · have continues :=
          ReportMoves.continues before notTick chunk.sending
        exact .inr ⟨i, chunk.earlier continues (ReportMoves.mem_eq before reads)⟩

/-- Every chunk packet of an event belongs to a transfer that was active
before it. -/
theorem ReportPlane.step_sentChunk
    (allowed : s.Elsewhere event) (stepped : s.step env event = .ok s')
    {pkt : ReportChunk} (sent : s'.SentChunk pkt) :
    ∃ i, ChunkOf s i pkt := by
  rcases (step_moves allowed stepped).sentChunk_of sent with earlier | chunk
  · cases earlier
  · obtain ⟨i, chunk⟩ := chunk
    exact ⟨i, { chunk with }⟩

end Emission

section Announcements

variable {env : Env} {s s' : ReportPlane}

namespace ReportPlane

theorem expireSlots_io :
    ∀ (slots : List (Fin dataSlotCount)) (s : ReportPlane),
      (expireSlots env slots s).io = s.io
  | [], s => rfl
  | idx :: rest, s => by
      unfold expireSlots
      split
      · rw [expireSlots_io rest, reportSlotFree_io]
      · exact expireSlots_io rest s

theorem expireSender_io (idx : Fin maxAnchors) :
    (s.expireSender env idx).io = s.io := by
  unfold expireSender
  dsimp only
  split
  · split <;> rfl
  · rfl

theorem expireSender_senders
    {idx other : Fin maxAnchors} (different : other ≠ idx) :
    (s.expireSender env idx).senders other = s.senders other := by
  unfold expireSender
  dsimp only
  split
  · split <;> simp [Function.update_of_ne different]
  · rfl

theorem startSender_senders
    (senderIdx : Fin maxAnchors) (idx : Fin dataSlotCount) :
    (s.startSender env senderIdx idx).senders =
      Function.update s.senders senderIdx (s.senderFor env idx) := by
  simp [startSender, sendReportInit]

/-- The loop leaves the entries alone that it does not come to. -/
theorem senderLoop_senders
    {freeInvalid : Bool} {other : Fin maxAnchors} :
    ∀ (senders : List (Fin maxAnchors)) (s : ReportPlane),
      other ∉ senders →
        (senderLoop env freeInvalid senders s).senders other =
          s.senders other
  | [], s, _ => rfl
  | senderIdx :: rest, s, missing => by
      simp only [List.mem_cons, not_or] at missing
      obtain ⟨different, later⟩ := missing
      unfold senderLoop
      dsimp only
      split
      · rw [senderLoop_senders rest _ later, expireSender_senders different]
      · split
        · rfl
        · split
          · split
            · simp
            · simp
          · rw [senderLoop_senders rest _ later, startSender_senders,
              Function.update_of_ne different]

/-- Every announcement of the loop is one of a transfer it started. -/
theorem senderLoop_announces
    {freeInvalid : Bool} {pkt : ReportInit} :
    ∀ (senders : List (Fin maxAnchors)) (s : ReportPlane),
      senders.Nodup →
        .request (.reportInit pkt) ∈
            (senderLoop env freeInvalid senders s).io.out →
          .request (.reportInit pkt) ∈ s.io.out ∨
            ∃ i, ((senderLoop env freeInvalid senders s).senders i).active =
                true ∧
              Announces pkt ((senderLoop env freeInvalid senders s).senders i)
  | [], s, _, sent => .inl sent
  | senderIdx :: rest, s, nodup, sent => by
      obtain ⟨missing, nodupRest⟩ := List.nodup_cons.mp nodup
      unfold senderLoop at sent ⊢
      dsimp only at sent ⊢
      split at sent
      · next sending =>
        rw [if_pos sending]
        have later := senderLoop_announces rest _ nodupRest sent
        rw [expireSender_io] at later
        exact later
      · next idle =>
        rw [if_neg idle]
        split at sent
        · exact .inl sent
        · next idx found =>
          split at sent
          · split at sent
            · exact .inl (by simpa using sent)
            · exact .inl (by simpa using sent)
          · next details =>
            rw [if_neg details]
            rcases senderLoop_announces rest _ nodupRest sent with
              earlier | later
            · simp only [startSender, sendReportInit, setSlot_io, put_io,
                setSender_io, Io.put_out, List.mem_append,
                List.mem_singleton, Action.request.injEq,
                Packet.reportInit.injEq] at earlier
              rcases earlier with before | rfl
              · exact .inl before
              · refine .inr ⟨senderIdx, ?_⟩
                rw [senderLoop_senders rest _ missing, startSender_senders,
                  Function.update_self]
                exact ⟨rfl, rfl, rfl, rfl, rfl, rfl, rfl⟩
            · exact .inr later

/-- Every announcement of a tick is one of a transfer it started. -/
theorem tick_announces
    (role : env.deviceType = .sensor ∨ env.deviceType = .anchor)
    (ticked : s.step env .tick = .ok s') {pkt : ReportInit}
    (sent : .request (.reportInit pkt) ∈ s'.io.out) :
    ∃ i, (s'.senders i).active = true ∧ Announces pkt (s'.senders i) := by
  have none : .request (.reportInit pkt) ∉
      (expireSlots env allSlots s.clearOut).io.out := by
    rw [expireSlots_io]
    simp [clearOut]
  have nodup : (List.finRange maxAnchors).Nodup := List.nodup_finRange _
  simp only [step, reportTick] at ticked
  rcases role with sensor | anchor
  · simp only [sensor, Except.ok.injEq] at ticked
    subst ticked
    exact (senderLoop_announces _ _ nodup sent).resolve_left none
  · simp only [anchor, Except.ok.injEq] at ticked
    subst ticked
    exact (senderLoop_announces _ _ nodup sent).resolve_left none

end ReportPlane

end Announcements

section Staged

variable {env : Env} {event : ReportEvent} {s s' : ReportPlane}

/-- A storable chunk goes into a slot that no transfer came from. -/
theorem storableChunk_agree
    {i : Fin maxAnchors} {idx : Fin dataSlotCount}
    {chunk : Fin dataMaxChunks} {pkt : ReportChunk} {srcId : UInt16}
    {block : List UInt8}
    (inv : Forwarding env.toBoard s)
    (sending : (s.senders i).active = true)
    (received : event = .reportChunk pkt srcId)
    (storable : StorableChunk s idx chunk pkt)
    (prefix_ : block.length ≤ (chunkBytes s idx pkt).length) :
    AgreeOn (splice s.io.psram.mem (chunkWriteAddr idx pkt) block)
      s.io.psram.mem (slotPsramAddr (s.senders i).origin)
      (slotPsramAddr (s.senders i).origin + maxReportSize) := by
  have active := (ReportPlane.findSlot_some storable.found).1
  have unready := storable.notReady (inv.stored idx active).tally
  have different := inv.origin_ne sending (.inr (.inl unready))
  obtain ⟨lower, upper⟩ :=
    chunkWrite_inside (inv.storesInside event) received storable
  exact agreeOn_other _ different lower (by omega)

/-- No move touches the staged bytes of an active transfer. -/
theorem ReportMove.keepsStaged
    (move : ReportMove env event s s')
    (same : ResubmitsSame s env event)
    (inv : Forwarding env.toBoard s)
    {i : Fin maxAnchors} (sending : (s.senders i).active = true) :
    AgreeOn s'.io.psram.mem s.io.psram.mem
      (slotPsramAddr (s.senders i).origin)
      (slotPsramAddr (s.senders i).origin + maxReportSize) := by
  by_cases writes : MayWrite event
  · cases move with
    | storeFailed role received storable mem out =>
        rw [mem]
        apply storableChunk_agree inv sending received storable
        rw [List.length_take]
        exact Nat.min_le_right _ _
    | stored role received storable mem out
    | completed role received storable mem out =>
        rw [ReportPlane.setSlot_io, mem]
        exact storableChunk_agree inv sending received storable
          (Nat.le_refl _)
    | rejected role received storable mem out =>
        rw [ReportPlane.reportSlotFree_io, ReportPlane.setSlot_io, mem]
        exact storableChunk_agree inv sending received storable
          (Nat.le_refl _)
    | @hostStored idx base command io accepted target mem out =>
        rw [ReportPlane.setSlot_io, mem]
        by_cases origin : (s.senders i).origin = idx
        · obtain ⟨_, gen, id, _⟩ := target.reused inv sending origin
          obtain ⟨repeated, _⟩ := same command accepted i sending gen id
          rw [repeated, ← origin, slotBytes, splice_slice]
          exact AgreeOn.refl _ _ _
        · apply agreeOn_other _ origin (Nat.le_refl _)
          simpa using command_inside accepted idx command.payload.length
    | @hostLost idx base command io written accepted target mem out failed =>
        rw [ReportPlane.reportSlotFree_io, ReportPlane.setSlot_io, mem]
        have different : (s.senders i).origin ≠ idx := by
          intro origin
          obtain ⟨_, gen, id, _⟩ := target.reused inv sending origin
          obtain ⟨_, stored⟩ := same command accepted i sending gen id
          rw [origin] at stored
          exact failed stored
        exact agreeOn_other _ different (Nat.le_refl _)
          (command_inside accepted idx written)
    | elsewhere other slots senders region out =>
        obtain ⟨lower, upper⟩ := slotRegion_inside (s.senders i).origin
        exact region.mono lower upper
    | quiet unchanged => exact unchanged.mem ▸ AgreeOn.refl _ _ _
    | sentChunk reason => exact absurd writes reason.reads.1
    | freed reason =>
        rw [ReportPlane.reportSlotFree_io]
        exact AgreeOn.refl _ _ _
    | stopped | advanced | retried | started | accepted | forwarded
    | transfered | restarted => exact AgreeOn.refl _ _ _
  · rw [move.mem_eq writes]
    exact AgreeOn.refl _ _ _

/-- No event touches the staged bytes of an active transfer. -/
theorem ReportPlane.step_staged
    (allowed : s.Elsewhere event)
    (same : ResubmitsSame s env event)
    (stepped : s.step env event = .ok s')
    (inv : Forwarding env.toBoard s)
    {i : Fin maxAnchors} (sending : (s.senders i).active = true) :
    AgreeOn s'.io.psram.mem s.io.psram.mem
      (slotPsramAddr (s.senders i).origin)
      (slotPsramAddr (s.senders i).origin + maxReportSize) := by
  have cleared : Forwarding env.toBoard s.clearOut :=
    { inv with stored := inv.stored }
  have single (outcome : OneMove env event s.clearOut s') :
      AgreeOn s'.io.psram.mem s.io.psram.mem
        (slotPsramAddr (s.senders i).origin)
        (slotPsramAddr (s.senders i).origin + maxReportSize) := by
    obtain ⟨middle, first, rest⟩ := outcome
    rw [rest.mem]
    rcases first with rfl | move
    · exact AgreeOn.refl _ _ _
    · exact move.keepsStaged same cleared sending
  by_cases writes : MayWrite event
  · cases event with
    | reportChunk pkt srcId =>
        exact single (handleReportChunk_outcome rfl stepped).oneMove
    | cmdReport args =>
        cases stepped
        exact single (cmdReport_oneMove rfl)
    | elsewhere psram uart =>
        cases stepped
        obtain ⟨lower, upper⟩ := slotRegion_inside (s.senders i).origin
        exact AgreeOn.mono allowed lower upper
    | _ => cases writes
  · have unchanged :=
      ReportMoves.mem_eq (step_moves allowed stepped) writes
    rw [unchanged]
    exact AgreeOn.refl _ _ _

end Staged

section Runs

/-- A run of a board whose neighbours announce consistent sizes and whose host
repeats a report unchanged while it is being sent. -/
def ForwardingRun
    (board : Board) (s : ReportPlane) (event : Env × ReportEvent) : Prop :=
  OnBoard board s event ∧ InitsConsistent event.1 event.2 ∧
    ResubmitsSame s event.1 event.2

theorem reach_forwarding
    {board : Board} {io : Io} {s : ReportPlane}
    (role : board.deviceType = .sensor ∨ board.deviceType = .anchor)
    (reach : Trace.Reach reportStep (ForwardingRun board) (.boot io) s) :
    Forwarding board s := by
  apply reach.invariant
  · constructor <;> simp [Stored, ReportPlane.boot]
  · rintro before ⟨env, event⟩ after inv ⟨⟨rfl, allowed⟩, consistent, same⟩
      stepped
    have notGateway : env.deviceType ≠ .gateway := by
      rcases role with sensor | anchor
      · exact fun gateway => absurd (sensor.symm.trans gateway) (by decide)
      · exact fun gateway => absurd (anchor.symm.trans gateway) (by decide)
    exact ReportPlane.step_forwarding notGateway allowed consistent same
      stepped inv

/-- The size of a chunk fits the data field of its packet. -/
theorem chunkSizeFor_le
    {board : Board} {s : ReportPlane} (inv : Forwarding board s)
    {i : Fin maxAnchors} (sending : (s.senders i).active = true)
    (chunkIdx : UInt8) :
    (ReportPlane.chunkSizeFor (s.senders i) chunkIdx).toNat ≤ sendDataMax := by
  have carried := inv.carries i sending
  have geometry := inv.geometry _ carried.active
  have positive := (inv.stored _ carried.active).totalSize.1
  have count := geometry.count
  have last := geometry.last
  unfold ReportPlane.chunkSizeFor
  split
  · rw [carried.lastChunkSize, last]
    unfold sendDataMax at *
    omega
  · rw [sendDataMax_toNat]

/-- In every run of a sensor or an anchor: the chunks a transfer is staged in
are, in order, the bytes with the announced size and checksum, and stay so
while the transfer lasts; every announcement is the one of a transfer; and a
chunk packet carries its staged chunk exactly when slot zero holds it. -/
theorem reportForwarding_faithful
    {board : Board} {io : Io} {s : ReportPlane}
    (role : board.deviceType = .sensor ∨ board.deviceType = .anchor)
    (reach : Trace.Reach reportStep (ForwardingRun board) (.boot io) s) :
    (∀ i, (s.senders i).active = true →
      ∃ staged,
        staged = ((List.range (s.senders i).chunkCount.toNat).flatMap
          fun index =>
            stagedChunk s.io.psram.mem (s.senders i) (UInt8.ofNat index)) ∧
        staged.length = (s.senders i).totalSize.toNat ∧
        board.crc.ieee staged = (s.senders i).crc32) ∧
      ∀ env event s', ForwardingRun board s (env, event) →
        s.step env event = .ok s' →
          (∀ pkt, event = .tick →
            .request (.reportInit pkt) ∈ s'.io.out →
              ∃ i, (s'.senders i).active = true ∧
                Announces pkt (s'.senders i)) ∧
          (∀ i, (s.senders i).active = true →
            AgreeOn s'.io.psram.mem s.io.psram.mem
              (slotPsramAddr (s.senders i).origin)
              (slotPsramAddr (s.senders i).origin + maxReportSize)) ∧
          ∀ pkt, s'.SentChunk pkt →
            ∃ i, (s.senders i).active = true ∧
              pkt.genDeviceId = (s.senders i).genDeviceId ∧
              pkt.dataId = (s.senders i).dataId ∧
              pkt.chunkIndex < (s.senders i).chunkCount ∧
              (carriedChunk (s.senders i) pkt =
                  stagedChunk s.io.psram.mem (s.senders i) pkt.chunkIndex ↔
                SlotZeroHolds s.io.psram.mem (s.senders i)
                  pkt.chunkIndex) := by
  have inv := reach_forwarding role reach
  constructor
  · intro i sending
    have carried := inv.carries i sending
    have held := inv.stored _ carried.active
    refine ⟨_, rfl, ?_⟩
    rw [stagedChunks_eq carried (inv.geometry _ carried.active)
      held.totalSize.1]
    constructor
    · rw [slotBytes, slice_length, carried.totalSize]
    · rw [held.checksum carried.ready, carried.crc32]
  · rintro env event s' ⟨⟨rfl, allowed⟩, consistent, same⟩ stepped
    refine ⟨?_, ?_, ?_⟩
    · rintro pkt rfl sent
      exact ReportPlane.tick_announces role stepped sent
    · exact fun i sending =>
        ReportPlane.step_staged allowed same stepped inv sending
    · intro pkt sent
      obtain ⟨i, chunk⟩ := ReportPlane.step_sentChunk allowed stepped sent
      refine ⟨i, chunk.sending, chunk.gen, chunk.id, chunk.inRange, ?_⟩
      have size := chunkSizeFor_le inv chunk.sending pkt.chunkIndex
      have carried :
          carriedChunk (s.senders i) pkt =
            slice s.io.psram.mem (ReportPlane.chunkReadAddr pkt.chunkIndex)
              (ReportPlane.chunkSizeFor (s.senders i)
                pkt.chunkIndex).toNat := by
        unfold carriedChunk
        rw [chunk.data]
        have whole := @Buffer.take_ofData sendDataMax
          (slice s.io.psram.mem (ReportPlane.chunkReadAddr pkt.chunkIndex)
            (ReportPlane.chunkSizeFor (s.senders i) pkt.chunkIndex).toNat)
          (by simpa using size)
        simpa using whole
      rw [carried]
      rfl

end Runs

section Samples

/-- A sensor with address 5 below the gateway with address 1. -/
def sampleSensor : Env :=
  { deviceType := .sensor, deviceId := 5, crc := Checksum.crc32Ieee
    serialNumber := 0xA, connectedDeviceId := 1, infraCount := 1
    infraDevices := fun _ => { deviceType := 1, deviceId := 1, hopNum := 0 } }

/-- `AT#REPORT` for the one-byte report `07` with id 1. -/
def firstReport : List Char :=
  "\"A\",\"1\",\"1\",\"0\",\"4C667A2E\",\"07\"".toList

/-- `AT#REPORT` for the one-byte report `08` with id 2. -/
def secondReport : List Char :=
  "\"A\",\"2\",\"1\",\"0\",\"DCD967BF\",\"08\"".toList

/-- The gateway accepts report `id`. -/
def initAck (id : UInt8) : ReportEvent :=
  .reportInitAck
    { hdr := { deviceType := 1, deviceId := 5, status := statusSuccess }
      genDeviceId := 5, dataId := id } 1

/-- The chunk of report `id` with the payload `data`. -/
def sampleChunk (id : UInt8) (data : List UInt8) : ReportChunk :=
  ReportPlane.chunkPacket sampleSensor
    { genDeviceId := 5, dataId := id } 1 0 data

/-- Without transfers there is nothing a host report could disturb. -/
theorem resubmitsSame_of_idle
    {s : ReportPlane} {env : Env} {event : ReportEvent}
    (idle : ∀ i, (s.senders i).active = false) :
    ResubmitsSame s env event := by
  intro command accepted i sending
  exact absurd (idle i) (by simp [sending])

/-- The transfer of the first report, staged in slot zero. -/
theorem reportForwarding_faithful_first :
    Trace.Ends reportStep (.boot {})
      [(sampleSensor, .cmdReport firstReport), (sampleSensor, .tick)]
      fun s =>
        ∃ staged,
          staged =
            ((List.range
              (s.senders ⟨0, by decide⟩).chunkCount.toNat).flatMap
                fun index =>
                  stagedChunk s.io.psram.mem (s.senders ⟨0, by decide⟩)
                    (UInt8.ofNat index)) ∧
          staged.length = (s.senders ⟨0, by decide⟩).totalSize.toNat ∧
          Checksum.crc32Ieee.ieee staged =
            (s.senders ⟨0, by decide⟩).crc32 := by
  obtain ⟨s, executed, active⟩ :
      Trace.Ends reportStep (.boot {})
        [(sampleSensor, .cmdReport firstReport), (sampleSensor, .tick)]
        fun s => (s.senders ⟨0, by decide⟩).active = true := by
    decide +kernel
  refine ⟨s, executed, ?_⟩
  simp only [Trace.run] at executed
  split at executed
  · next stored storing =>
    split at executed
    · next started starting =>
      rw [Except.ok.injEq] at executed
      subst executed
      have sensorInit (event : ReportEvent) :
          InitsConsistent sampleSensor event := by
        intro pkt init
        exact absurd init.role (by decide)
      have command : ForwardingRun sampleSensor.toBoard (.boot {})
          (sampleSensor, .cmdReport firstReport) :=
        ⟨⟨rfl, trivial⟩, sensorInit _, resubmitsSame_of_idle fun _ => rfl⟩
      have tick : ForwardingRun sampleSensor.toBoard stored
          (sampleSensor, .tick) :=
        ⟨⟨rfl, trivial⟩, sensorInit _, resubmitsSame_of_other (by simp)⟩
      have reach : Trace.Reach reportStep
          (ForwardingRun sampleSensor.toBoard) (.boot {}) started :=
        .next (.next .refl command storing) tick starting
      exact (reportForwarding_faithful (.inl rfl) reach).1 _ active
    · cases executed
  · cases executed

/-- The second of two pending reports is sent with the first one's byte. -/
theorem reportForwarding_slotZero :
    Trace.Ends reportStep (.boot {})
      [(sampleSensor, .cmdReport firstReport),
        (sampleSensor, .cmdReport secondReport), (sampleSensor, .tick)]
      fun s =>
        (s.senders ⟨1, by decide⟩).active = true ∧
          (s.senders ⟨1, by decide⟩).dataId = 2 ∧
          (s.senders ⟨1, by decide⟩).origin = ⟨1, by decide⟩ ∧
          Trace.Ends reportStep s [(sampleSensor, initAck 2)]
            fun s' =>
              s'.SentChunk (sampleChunk 2 [7]) ∧
                carriedChunk (s.senders ⟨1, by decide⟩)
                    (sampleChunk 2 [7]) ≠
                  stagedChunk s.io.psram.mem (s.senders ⟨1, by decide⟩) 0 := by
  decide +kernel

end Samples

end DectMesh
