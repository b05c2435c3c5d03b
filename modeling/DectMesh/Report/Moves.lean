import Mathlib.Logic.Relation
import DectMesh.Report.Run

/-!
# What one step of the report plane can do

Every event is a sequence of the moves below.  A move names the table entry it
changes, the value it leaves there and the guard under which the code takes
it, so an invariant of the plane is proved once per move and holds of every
handler, tick and command.
-/

namespace DectMesh

open ByteStore

/-- Why the code gives a slot up, and the sender index it passes along. -/
inductive FreeReason (env : Env) (event : ReportEvent) (s : ReportPlane) :
    Fin dataSlotCount → UInt8 → Prop
  /-- The idle timeout of an active slot has expired. -/
  | idle {idx : Fin dataSlotCount}
      (ticked : event = .tick)
      (active : (s.slots idx).active = true)
      (expired : (s.slots idx).idleTimeout.expired env.now = true) :
      FreeReason env event s idx 255
  /-- The next hop answered the `REPORT_INIT` with `ALREADY_EXISTS`. -/
  | alreadyExists {idx : Fin dataSlotCount} {pkt : ReportInitAck}
      {srcId : UInt16}
      (received : event = .reportInitAck pkt srcId)
      (status : pkt.hdr.status = statusAlreadyExists)
      (found : s.findSlot pkt.genDeviceId pkt.dataId = some idx) :
      FreeReason env event s idx
        (indexByte (s.findSenderSlot pkt.genDeviceId pkt.dataId))
  /-- `Transfer complete`. -/
  | complete {idx : Fin dataSlotCount} {senderIdx : Fin maxAnchors}
      {pkt : ReportChunkAck} {srcId : UInt16}
      (received : event = .reportChunkAck pkt srcId)
      (status : pkt.hdr.status = statusSuccess)
      (sender : s.findSenderSlot pkt.genDeviceId pkt.dataId = some senderIdx)
      (allSent :
        (s.senders senderIdx).chunkCount ≤ (s.senders senderIdx).nextChunk)
      (from_ : (s.senders senderIdx).dstId = srcId)
      (found : s.findSlot pkt.genDeviceId pkt.dataId = some idx) :
      FreeReason env event s idx (UInt8.ofNat senderIdx.val)
  /-- The sensor's tick met a slot without valid details. -/
  | invalid {idx : Fin dataSlotCount}
      (role : env.deviceType = .sensor) (ticked : event = .tick)
      (active : (s.slots idx).active = true)
      (unsent : (s.slots idx).isSent = false)
      (details :
        (s.slots idx).genDeviceId = 0 ∨ (s.slots idx).dataId = 0 ∨
          (s.slots idx).totalSize = 0 ∨ (s.slots idx).chunkCount = 0) :
      FreeReason env event s idx 255

/-- A chunk packet that `validate_report_chunk` is ready to store. -/
structure StorableChunk
    (s : ReportPlane) (idx : Fin dataSlotCount) (chunk : Fin dataMaxChunks)
    (pkt : ReportChunk) : Prop where
  found : s.findSlot pkt.genDeviceId pkt.dataId = some idx
  index : pkt.chunkIndex.toNat = chunk.val
  inRange : pkt.chunkIndex < (s.slots idx).chunkCount
  missing : (s.slots idx).received chunk = false

/-- The bytes a storable chunk puts into its slot. -/
def chunkBytes
    (s : ReportPlane) (idx : Fin dataSlotCount) (pkt : ReportChunk) :
    List UInt8 :=
  pkt.data.bytes.take
    (ReportPlane.storedChunkSize (s.slots idx) pkt.chunkIndex).toNat

def chunkWriteAddr (idx : Fin dataSlotCount) (pkt : ReportChunk) : Nat :=
  slotPsramAddr idx + pkt.chunkIndex.toNat * sendDataMax

/-- The slot a new report goes into: the one with its key, or a cleared one. -/
inductive Target
    (s : ReportPlane) (genDeviceId : UInt16) (dataId : UInt8)
    (idx : Fin dataSlotCount) : ReportSlot → Prop
  | existing (found : s.findSlot genDeviceId dataId = some idx) :
      Target s genDeviceId dataId idx (s.slots idx)
  | fresh
      (missing : s.findSlot genDeviceId dataId = none)
      (free : s.freeSlot = some idx) :
      Target s genDeviceId dataId idx (ReportPlane.clearedSlot (s.slots idx))

/-- A host report that passed every check of `cmd_report`. -/
structure AcceptedCommand (env : Env) (event : ReportEvent)
    (command : ReportPlane.ReportCommand) : Prop where
  role : env.deviceType = .sensor
  parsed :
    ∃ args, event = .cmdReport args ∧
      ReportPlane.parseReport args = some command
  connected : env.connectedDeviceId ≠ 0xFFFF
  checksum : env.crc.ieee command.payload = command.report.dataCrc32
  serial : command.serialNum = env.serialNumber
  nonempty : command.report.dataLen ≠ 0
  fits : command.report.dataLen.toNat ≤ maxReportSize

/-- The checks of `handle_report_init`. -/
structure AcceptedInit (env : Env) (event : ReportEvent) (pkt : ReportInit) :
    Prop where
  role : env.deviceType = .gateway ∨ env.deviceType = .anchor
  received : ∃ srcId, event = .reportInit pkt srcId
  totalSize : 0 < pkt.totalSize.toNat ∧ pkt.totalSize.toNat ≤ maxReportSize
  chunkCount : 0 < pkt.chunkCount.toNat ∧ pkt.chunkCount.toNat ≤ dataMaxChunks
  lastChunkSize :
    0 < pkt.lastChunkSize.toNat ∧ pkt.lastChunkSize.toNat ≤ sendDataMax

/-- A chunk packet was put out. -/
def ReportPlane.SentChunk (s : ReportPlane) (pkt : ReportChunk) : Prop :=
  .request (.reportChunk pkt) ∈ s.io.out

instance ReportPlane.SentChunk.decidable
    (s : ReportPlane) (pkt : ReportChunk) : Decidable (s.SentChunk pkt) :=
  inferInstanceAs (Decidable (_ ∈ _))

/-- Two states with the same tables and the same memory, the second without
new chunk packets: other packets, lines and counters may differ. -/
structure SameTables (s s' : ReportPlane) : Prop where
  slots : s'.slots = s.slots
  senders : s'.senders = s.senders
  mem : s'.io.psram.mem = s.io.psram.mem
  chunks : ∀ pkt, s'.SentChunk pkt → s.SentChunk pkt

/-- Why a chunk of a transfer is sent. -/
inductive SendReason (event : ReportEvent) (sender : ReportSender)
    (chunkIdx : UInt8) : Prop
  /-- The next hop accepted the announcement: the chunks from `next_chunk`. -/
  | announced {pkt : ReportInitAck} {srcId : UInt16}
      (received : event = .reportInitAck pkt srcId)
      (status : pkt.hdr.status = statusSuccess)
      (gen : sender.genDeviceId = pkt.genDeviceId)
      (id : sender.dataId = pkt.dataId)
      (pending : sender.nextChunk ≤ chunkIdx)
  /-- The next hop refused the chunk: that chunk again. -/
  | refused {pkt : ReportChunkAck} {srcId : UInt16}
      (received : event = .reportChunkAck pkt srcId)
      (status : pkt.hdr.status = statusFailure ∨
        pkt.hdr.status = statusInvalidParameter)
      (gen : sender.genDeviceId = pkt.genDeviceId)
      (id : sender.dataId = pkt.dataId)
      (index : chunkIdx = pkt.chunkIndex)

/-- Why a sender entry is given up while its slot keeps its marks. -/
inductive StopReason (event : ReportEvent) (s : ReportPlane)
    (senderIdx : Fin maxAnchors) : Prop
  /-- A chunk that had to be sent could not be read, or does not exist. -/
  | lost {chunkIdx : UInt8}
      (reason : SendReason event (s.senders senderIdx) chunkIdx)
  /-- Its slot is gone. -/
  | noSlot
      (missing :
        s.findSlot (s.senders senderIdx).genDeviceId
          (s.senders senderIdx).dataId = none)
  /-- It was given up before. -/
  | idle (inactive : (s.senders senderIdx).active = false)

/-- The moves of the report plane. -/
inductive ReportMove (env : Env) (event : ReportEvent) (s : ReportPlane) :
    ReportPlane → Prop
  /-- Packets, lines, counters: the tables and the memory stay. -/
  | quiet {s' : ReportPlane} (same : SameTables s s') :
      ReportMove env event s s'
  | sentChunk {senderIdx : Fin maxAnchors} {chunkIdx : UInt8} {dstId : UInt16}
      {io : Io}
      (reason : SendReason event (s.senders senderIdx) chunkIdx)
      (sending : (s.senders senderIdx).active = true)
      (inRange : chunkIdx < (s.senders senderIdx).chunkCount)
      (mem : io.psram.mem = s.io.psram.mem) (out : io.out = s.io.out) :
      ReportMove env event s
        ({ s with io := io }.put (.request (.reportChunk
          (ReportPlane.chunkPacket env (s.senders senderIdx) dstId chunkIdx
            (slice s.io.psram.mem (ReportPlane.chunkReadAddr chunkIdx)
              (ReportPlane.chunkSizeFor (s.senders senderIdx)
                chunkIdx).toNat)))))
  | freed {idx : Fin dataSlotCount} {senderIdx : UInt8}
      (reason : FreeReason env event s idx senderIdx) :
      ReportMove env event s (s.reportSlotFree idx senderIdx)
  | stopped {senderIdx : Fin maxAnchors} {timeout : NbTimeout}
      (reason : StopReason event s senderIdx) :
      ReportMove env event s
        (s.setSender senderIdx
          { s.senders senderIdx with active := false, timeout := timeout })
  | advanced {senderIdx : Fin maxAnchors}
      (below :
        (s.senders senderIdx).nextChunk < (s.senders senderIdx).chunkCount) :
      ReportMove env event s
        (s.setSender senderIdx
          { s.senders senderIdx with
            nextChunk := (s.senders senderIdx).nextChunk + 1 })
  /-- A transfer ends and its slot may be sent again. -/
  | retried {senderIdx : Fin maxAnchors} {idx : Fin dataSlotCount}
      {timeout : NbTimeout}
      (sending : (s.senders senderIdx).active = true)
      (active : (s.slots idx).active = true)
      (gen : (s.senders senderIdx).genDeviceId = (s.slots idx).genDeviceId)
      (id : (s.senders senderIdx).dataId = (s.slots idx).dataId) :
      ReportMove env event s
        ((s.setSlot idx { s.slots idx with isSent := false }).setSender
          senderIdx
          { s.senders senderIdx with active := false, timeout := timeout })
  | started {senderIdx : Fin maxAnchors} {idx : Fin dataSlotCount}
      (role : env.deviceType = .anchor ∨ env.deviceType = .sensor)
      (ticked : event = .tick)
      (idle : (s.senders senderIdx).active = false)
      (active : (s.slots idx).active = true)
      (ready : (s.slots idx).upstreamReady = true)
      (unsent : (s.slots idx).isSent = false)
      (gen : (s.slots idx).genDeviceId ≠ 0) (id : (s.slots idx).dataId ≠ 0)
      (size : (s.slots idx).totalSize ≠ 0)
      (count : (s.slots idx).chunkCount ≠ 0) :
      ReportMove env event s
        ((s.setSender senderIdx (s.senderFor env idx)).setSlot idx
          { s.slots idx with isSent := true })
  | accepted {idx : Fin dataSlotCount} {base : ReportSlot} {pkt : ReportInit}
      (init : AcceptedInit env event pkt)
      (target : Target s pkt.genDeviceId pkt.dataId idx base)
      (notReady : base.upstreamReady = false) :
      ReportMove env event s
        (s.setSlot idx (ReportPlane.acceptedSlot env base pkt))
  | storeFailed {idx : Fin dataSlotCount} {chunk : Fin dataMaxChunks}
      {pkt : ReportChunk} {io : Io} {srcId : UInt16} {written : Nat}
      (role : env.deviceType = .gateway ∨ env.deviceType = .anchor)
      (received : event = .reportChunk pkt srcId)
      (storable : StorableChunk s idx chunk pkt)
      (mem : io.psram.mem = splice s.io.psram.mem (chunkWriteAddr idx pkt)
        ((chunkBytes s idx pkt).take written))
      (out : io.out = s.io.out) :
      ReportMove env event s { s with io := io }
  | stored {idx : Fin dataSlotCount} {chunk : Fin dataMaxChunks}
      {pkt : ReportChunk} {io : Io} {srcId : UInt16}
      (role : env.deviceType = .gateway ∨ env.deviceType = .anchor)
      (received : event = .reportChunk pkt srcId)
      (storable : StorableChunk s idx chunk pkt)
      (mem : io.psram.mem = splice s.io.psram.mem (chunkWriteAddr idx pkt)
        (chunkBytes s idx pkt))
      (out : io.out = s.io.out)
      (partly : (s.slots idx).receivedCount + 1 ≠ (s.slots idx).chunkCount) :
      ReportMove env event s
        ({ s with io := io }.setSlot idx (ReportPlane.storedSlot env (s.slots idx) chunk))
  | completed {idx : Fin dataSlotCount} {chunk : Fin dataMaxChunks}
      {pkt : ReportChunk} {io : Io} {srcId : UInt16}
      (role : env.deviceType = .gateway ∨ env.deviceType = .anchor)
      (received : event = .reportChunk pkt srcId)
      (storable : StorableChunk s idx chunk pkt)
      (mem : io.psram.mem = splice s.io.psram.mem (chunkWriteAddr idx pkt)
        (chunkBytes s idx pkt))
      (out : io.out = s.io.out)
      (full : (s.slots idx).receivedCount + 1 = (s.slots idx).chunkCount)
      (checksum : 0 < (s.slots idx).totalSize.toNat →
        env.crc.ieee (slice io.psram.mem (slotPsramAddr idx)
          (s.slots idx).totalSize.toNat) = (s.slots idx).crc32) :
      ReportMove env event s
        ({ s with io := io }.setSlot idx
          (ReportPlane.readySlot env (ReportPlane.storedSlot env (s.slots idx) chunk)))
  | rejected {idx : Fin dataSlotCount} {chunk : Fin dataMaxChunks}
      {pkt : ReportChunk} {io : Io} {srcId : UInt16}
      (role : env.deviceType = .gateway ∨ env.deviceType = .anchor)
      (received : event = .reportChunk pkt srcId)
      (storable : StorableChunk s idx chunk pkt)
      (mem : io.psram.mem = splice s.io.psram.mem (chunkWriteAddr idx pkt)
        (chunkBytes s idx pkt))
      (out : io.out = s.io.out) :
      ReportMove env event s
        ({ s with io := io }.setSlot idx
          (ReportPlane.storedSlot env (s.slots idx) chunk)
            |>.reportSlotFree idx 255)
  | forwarded {idx : Fin dataSlotCount}
      (role : env.deviceType = .gateway) :
      ReportMove env event s
        (s.setSlot idx { s.slots idx with isSent := true })
  | transfered {idx : Fin dataSlotCount} :
      ReportMove env event s
        (s.setSlot idx { s.slots idx with isTransfered := true })
  | hostStored {idx : Fin dataSlotCount} {base : ReportSlot}
      {command : ReportPlane.ReportCommand} {io : Io}
      (accepted : AcceptedCommand env event command)
      (target : Target s env.deviceId command.report.dataId.toUInt8 idx base)
      (mem : io.psram.mem = splice s.io.psram.mem (slotPsramAddr idx)
        command.payload)
      (out : io.out = s.io.out) :
      ReportMove env event s
        ({ s with io := io }.setSlot idx
          (ReportPlane.hostSlot env base command.report command.priority))
  | hostLost {idx : Fin dataSlotCount} {base : ReportSlot}
      {command : ReportPlane.ReportCommand} {io : Io} {written : Nat}
      (accepted : AcceptedCommand env event command)
      (target : Target s env.deviceId command.report.dataId.toUInt8 idx base)
      (mem : io.psram.mem = splice s.io.psram.mem (slotPsramAddr idx)
        (command.payload.take written))
      (out : io.out = s.io.out)
      (failed :
        (s.io.psram.write (slotPsramAddr idx) command.payload).2 ≠ none) :
      ReportMove env event s
        ({ s with io := io }.setSlot idx
          (ReportPlane.hostSlot env base command.report command.priority)
            |>.reportSlotFree idx 255)
  | restarted (restart : event = .restart) :
      ReportMove env event s s.reportInit
  | elsewhere {s' : ReportPlane} {psram : Psram} {uart : List UartOutcome}
      (other : event = .elsewhere psram uart)
      (slots : s'.slots = s.slots) (senders : s'.senders = s.senders)
      (region : AgreeOn s'.io.psram.mem s.io.psram.mem dataPsramBase
        ReportPlane.reportRegionEnd)
      (out : s'.io.out = []) :
      ReportMove env event s s'

/-- A sequence of moves. -/
abbrev ReportMoves (env : Env) (event : ReportEvent) :
    ReportPlane → ReportPlane → Prop :=
  Relation.ReflTransGen (ReportMove env event)

namespace SameTables

variable {env : Env} {event : ReportEvent} {s s' s'' : ReportPlane}

theorem moves (same : SameTables s s') : ReportMoves env event s s' :=
  .single (.quiet same)

theorem refl (s : ReportPlane) : SameTables s s :=
  ⟨rfl, rfl, rfl, fun _ sent => sent⟩

theorem trans (left : SameTables s s') (right : SameTables s' s'') :
    SameTables s s'' where
  slots := right.slots.trans left.slots
  senders := right.senders.trans left.senders
  mem := right.mem.trans left.mem
  chunks := fun pkt sent => left.chunks pkt (right.chunks pkt sent)

/-- Only the devices and the counters changed, and no packet was added. -/
theorem ofOut
    (slots : s'.slots = s.slots) (senders : s'.senders = s.senders)
    (mem : s'.io.psram.mem = s.io.psram.mem) (out : s'.io.out = s.io.out) :
    SameTables s s' where
  slots := slots
  senders := senders
  mem := mem
  chunks := by
    intro pkt sent
    rw [ReportPlane.SentChunk, out] at sent
    exact sent

/-- A packet other than a chunk was put out. -/
theorem put
    {action : Action} (other : ∀ pkt, action ≠ .request (.reportChunk pkt)) :
    SameTables s (s.put action) where
  slots := rfl
  senders := rfl
  mem := rfl
  chunks := by
    intro pkt sent
    simp only [ReportPlane.SentChunk, ReportPlane.put_io, Io.put_out,
      List.mem_append, List.mem_singleton] at sent
    rcases sent with before | new
    · exact before
    · exact absurd new.symm (other pkt)

/-- A line for the host is no chunk packet. -/
theorem txWrite
    {io io' : Io} {text : AtLine} {written : Bool}
    (wrote : io.txWrite text = (io', written)) :
    SameTables { s with io := io } { s with io := io' } where
  slots := rfl
  senders := rfl
  mem := by
    have unchanged := io.txWrite_psram text
    rw [wrote] at unchanged
    exact congrArg Psram.mem unchanged
  chunks := by
    intro pkt sent
    have outcome := io.txWrite_out text
    rw [wrote] at outcome
    change .request (.reportChunk pkt) ∈ io'.out at sent
    change .request (.reportChunk pkt) ∈ io.out
    rcases outcome with added | ⟨same, _⟩
    · rw [added] at sent
      simpa using sent
    · rw [same] at sent
      exact sent

end SameTables

namespace ReportPlane

variable {env : Env} {event : ReportEvent} {s s' : ReportPlane}

theorem putMoves
    (action : Action)
    (other : ∀ pkt, action ≠ .request (.reportChunk pkt) := by simp) :
    ReportMoves env event s (s.put action) :=
  (SameTables.put other).moves

theorem freeSenderMoves
    {senderIdx : Fin maxAnchors} (reason : StopReason event s senderIdx) :
    ReportMoves env event s (s.freeSenderSlot senderIdx) :=
  .single (@ReportMove.stopped env event s senderIdx
    (s.senders senderIdx).timeout reason)

section Sending

theorem readAndSendChunk_moves
    {senderIdx : Fin maxAnchors} {chunkIdx : UInt8} (dstId : UInt16)
    (reason : SendReason event (s.senders senderIdx) chunkIdx)
    (sending : (s.senders senderIdx).active = true)
    (inRange : chunkIdx < (s.senders senderIdx).chunkCount) :
    ReportMoves env event s
      (s.readAndSendChunk env dstId senderIdx chunkIdx).1 := by
  unfold readAndSendChunk
  dsimp only
  split
  · next io errno same =>
    have read : SameTables s { s with io := io } :=
      .ofOut rfl rfl (Io.read_mem_eq same) (Io.read_out_eq same)
    exact read.moves.trans (freeSenderMoves (.lost reason))
  · next io data same =>
    rw [Io.read_bytes same]
    exact .single (.sentChunk reason sending inRange (Io.read_mem_eq same)
      (Io.read_out_eq same))

/-- A chunk that could not be read ends its transfer. -/
theorem readAndSendChunk_lost
    {senderIdx : Fin maxAnchors} {chunkIdx : UInt8} {dstId : UInt16}
    {errno : Errno}
    (lost : s.readAndSendChunk env dstId senderIdx chunkIdx =
      (s', some errno)) :
    (s'.senders senderIdx).active = false := by
  unfold readAndSendChunk at lost
  dsimp only at lost
  split at lost
  · cases lost
    simp [freeSenderSlot]
  · cases lost

/-- A chunk that was sent leaves the sender entries as they were. -/
theorem readAndSendChunk_senders
    {senderIdx : Fin maxAnchors} {chunkIdx : UInt8} {dstId : UInt16}
    (sent : s.readAndSendChunk env dstId senderIdx chunkIdx = (s', none)) :
    s'.senders = s.senders := by
  unfold readAndSendChunk at sent
  dsimp only at sent
  split at sent
  · simp at sent
  · simp only [Prod.mk.injEq, and_true] at sent
    exact sent ▸ rfl

theorem sendNextChunkLoop_moves
    {senderIdx : Fin maxAnchors} {pkt : ReportInitAck} (srcId : UInt16)
    (received : event = .reportInitAck pkt srcId)
    (status : pkt.hdr.status = statusSuccess) :
    ∀ (rounds : Nat) (s : ReportPlane),
      (s.senders senderIdx).active = true →
        (s.senders senderIdx).genDeviceId = pkt.genDeviceId →
          (s.senders senderIdx).dataId = pkt.dataId →
            ReportMoves env event s
              (sendNextChunkLoop env srcId senderIdx rounds s).1
  | 0, s, _, _, _ => .refl
  | rounds + 1, s, sending, gen, id => by
      simp only [sendNextChunkLoop]
      split
      · exact .refl
      · next inRange =>
        have below := UInt8.not_le.mp inRange
        have first : ReportMoves env event s
            (s.readAndSendChunk env srcId senderIdx
              (s.senders senderIdx).nextChunk).1 :=
          readAndSendChunk_moves srcId
            (.announced received status gen id (UInt8.le_refl _)) sending below
        split
        · next after errno same =>
          rw [same] at first
          exact first
        · next after same =>
          rw [same] at first
          have senders := readAndSendChunk_senders same
          have advanced :
              ReportMove env event after
                (after.setSender senderIdx
                  { after.senders senderIdx with
                    nextChunk := (after.senders senderIdx).nextChunk + 1 }) :=
            .advanced (senders ▸ below)
          rw [senders] at advanced
          rw [senders]
          refine (first.tail advanced).trans
            (sendNextChunkLoop_moves srcId received status rounds _ ?_ ?_ ?_)
          · simp [sending]
          · simp [gen]
          · simp [id]

theorem sendNextChunk_moves
    {senderIdx : Fin maxAnchors} {pkt : ReportInitAck} {srcId : UInt16}
    (received : event = .reportInitAck pkt srcId)
    (status : pkt.hdr.status = statusSuccess)
    (sending : (s.senders senderIdx).active = true)
    (gen : (s.senders senderIdx).genDeviceId = pkt.genDeviceId)
    (id : (s.senders senderIdx).dataId = pkt.dataId) :
    ReportMoves env event s (s.sendNextChunk env srcId senderIdx).1 :=
  sendNextChunkLoop_moves srcId received status _ s sending gen id

theorem resendChunk_moves
    {senderIdx : Fin maxAnchors} {chunkIdx : UInt8} (dstId : UInt16)
    (reason : SendReason event (s.senders senderIdx) chunkIdx)
    (sending : (s.senders senderIdx).active = true) :
    ReportMoves env event s
      (s.resendChunk env dstId senderIdx chunkIdx).1 := by
  unfold resendChunk
  split
  · exact .refl
  · next inRange =>
    exact readAndSendChunk_moves dstId reason sending (UInt8.not_le.mp inRange)

end Sending

section Receiving

/-- The counters and the slots are changed apart. -/
theorem updateReportCount_setSlot (s : ReportPlane) (priority : UInt8)
    (isIncrement : Bool) (idx : Fin dataSlotCount) (slot : ReportSlot) :
    (s.setSlot idx slot).updateReportCount priority isIncrement =
      (s.updateReportCount priority isIncrement).setSlot idx slot := by
  unfold updateReportCount setSlot
  split_ifs <;> rfl

theorem setSlot_setSlot (s : ReportPlane) (idx : Fin dataSlotCount)
    (first second : ReportSlot) :
    (s.setSlot idx first).setSlot idx second = s.setSlot idx second := by
  unfold setSlot
  rw [Function.update_idem]

/-- What `validate_slot` can do: it accepts into the slot of the key or into a
free one, or it changes nothing. -/
inductive Validated (env : Env) (s : ReportPlane) (pkt : ReportInit) :
    ReportPlane → UInt8 → Prop
  | again {idx : Fin dataSlotCount}
      (found : s.findSlot pkt.genDeviceId pkt.dataId = some idx)
      (waits : (s.slots idx).upstreamReady = false) :
      Validated env s pkt (s.setSlot idx (acceptedSlot env (s.slots idx) pkt))
        statusSuccess
  | fresh {idx : Fin dataSlotCount}
      (missing : s.findSlot pkt.genDeviceId pkt.dataId = none)
      (free : s.freeSlot = some idx) :
      Validated env s pkt
        ((s.updateReportCount pkt.hdr.priority true).setSlot idx
          (acceptedSlot env (clearedSlot (s.slots idx)) pkt))
        statusSuccess
  | ready {idx : Fin dataSlotCount}
      (found : s.findSlot pkt.genDeviceId pkt.dataId = some idx)
      (verified : (s.slots idx).upstreamReady = true) :
      Validated env s pkt s statusAlreadyExists
  | full (missing : s.findSlot pkt.genDeviceId pkt.dataId = none)
      (busy : s.freeSlot = none) :
      Validated env s pkt s statusResourceUnavailable

theorem validateSlot_again {pkt : ReportInit} {idx : Fin dataSlotCount}
    (found : s.findSlot pkt.genDeviceId pkt.dataId = some idx)
    (waits : (s.slots idx).upstreamReady = false) :
    s.validateSlot env pkt =
      (s.setSlot idx (acceptedSlot env (s.slots idx) pkt), statusSuccess) := by
  simp [validateSlot, found, waits]

theorem validateSlot_fresh {pkt : ReportInit} {idx : Fin dataSlotCount}
    (missing : s.findSlot pkt.genDeviceId pkt.dataId = none)
    (free : s.freeSlot = some idx) :
    s.validateSlot env pkt =
      ((s.updateReportCount pkt.hdr.priority true).setSlot idx
        (acceptedSlot env (clearedSlot (s.slots idx)) pkt), statusSuccess) := by
  simp [validateSlot, missing, free, clearSlot, updateReportCount_setSlot,
    setSlot_setSlot]

theorem validateSlot_ready {pkt : ReportInit} {idx : Fin dataSlotCount}
    (found : s.findSlot pkt.genDeviceId pkt.dataId = some idx)
    (verified : (s.slots idx).upstreamReady = true) :
    s.validateSlot env pkt = (s, statusAlreadyExists) := by
  simp [validateSlot, found, verified]

theorem validateSlot_validated {pkt : ReportInit} {status : UInt8}
    (validated : s.validateSlot env pkt = (s', status)) :
    Validated env s pkt s' status := by
  cases found : s.findSlot pkt.genDeviceId pkt.dataId with
  | some idx =>
      cases verified : (s.slots idx).upstreamReady with
      | true =>
          rw [validateSlot_ready found verified] at validated
          cases validated
          exact .ready found verified
      | false =>
          rw [validateSlot_again found verified] at validated
          cases validated
          exact .again found verified
  | none =>
      cases free : s.freeSlot with
      | some idx =>
          rw [validateSlot_fresh found free] at validated
          cases validated
          exact .fresh found free
      | none =>
          simp only [validateSlot, found, free] at validated
          cases validated
          exact .full found free

theorem Validated.io {pkt : ReportInit} {status : UInt8}
    (validated : Validated env s pkt s' status) : s'.io = s.io := by
  cases validated with
  | fresh => simp
  | _ => rfl

/-- A packet from downstream for this board. -/
def FromBelow (env : Env) (hdr : PacketHeader) : Prop :=
  env.accepts hdr = true ∧ isDownstreamType hdr.deviceType = true

/-- The sizes pass the checks of `handle_report_init`. -/
def WellSized (pkt : ReportInit) : Prop :=
  ¬ (pkt.totalSize = 0 ∨ maxReportSize < pkt.totalSize.toNat ∨
    pkt.chunkCount = 0 ∨ dataMaxChunks < pkt.chunkCount.toNat ∨
    pkt.lastChunkSize = 0 ∨ sendDataMax < pkt.lastChunkSize.toNat)

/-- The answer to an announcement. -/
def initAnswer (env : Env) (pkt : ReportInit) (srcId : UInt16)
    (status : UInt8) : Action :=
  .reply (.reportInitAck
    { hdr := env.replyHeader status srcId pkt.hdr.priority pkt.hdr.trackingId
      genDeviceId := pkt.genDeviceId
      dataId := pkt.dataId })

/-- What an announcement can do. -/
inductive InitTaken (env : Env) (s : ReportPlane) (pkt : ReportInit)
    (srcId : UInt16) : ReportPlane → Prop
  | ignored : InitTaken env s pkt srcId s
  | malformed :
      InitTaken env s pkt srcId
        (s.put (initAnswer env pkt srcId statusInvalidParameter))
  | answered {t : ReportPlane} {status : UInt8}
      (role : env.deviceType = .gateway ∨ env.deviceType = .anchor)
      (below : FromBelow env pkt.hdr) (sizes : WellSized pkt)
      (validated : Validated env s pkt t status) :
      InitTaken env s pkt srcId (t.put (initAnswer env pkt srcId status))

theorem handleReportInit_taken {pkt : ReportInit} {srcId : UInt16}
    (handled : s.handleReportInit env pkt srcId = s') :
    InitTaken env s pkt srcId s' := by
  subst handled
  unfold handleReportInit
  dsimp only
  split
  · exact .ignored
  · next accepted =>
    have accepted : env.accepts pkt.hdr = true := by simpa using accepted
    split
    · exact .malformed
    · next sizes =>
      split
      · next role =>
        split
        · next below =>
          exact .answered (.inl role) ⟨accepted, below⟩ sizes
            (validateSlot_validated rfl)
        · exact .ignored
      · next role =>
        split
        · next below =>
          exact .answered (.inr role) ⟨accepted, below⟩ sizes
            (validateSlot_validated rfl)
        · exact .ignored
      · exact .ignored
      · exact .ignored

theorem handleReportInit_answer {pkt : ReportInit} {srcId : UInt16}
    {status : UInt8}
    (role : env.deviceType = .gateway ∨ env.deviceType = .anchor)
    (below : FromBelow env pkt.hdr) (sizes : WellSized pkt)
    (validated : s.validateSlot env pkt = (s', status)) :
    s.handleReportInit env pkt srcId =
      s'.put (initAnswer env pkt srcId status) := by
  unfold handleReportInit
  dsimp only
  rw [below.1, Bool.not_true, if_neg Bool.false_ne_true, if_neg sizes]
  rcases role with gateway | anchor
  · rw [gateway]
    dsimp only
    rw [if_pos below.2, validated]
    rfl
  · rw [anchor]
    dsimp only
    rw [if_pos below.2, validated]
    rfl

theorem Validated.moves {pkt : ReportInit} {status : UInt8}
    (validated : Validated env s pkt s' status)
    (init : AcceptedInit env event pkt) : ReportMoves env event s s' := by
  cases validated with
  | again found waits => exact .single (.accepted init (.existing found) waits)
  | fresh missing free =>
      exact (Relation.ReflTransGen.single
        (.accepted init (.fresh missing free) rfl)).tail
          (.quiet (.ofOut (by simp) (by simp) (by simp) (by simp)))
  | ready => exact .refl
  | full => exact .refl

theorem handleReportInit_moves
    (pkt : ReportInit) (srcId : UInt16)
    (received : event = .reportInit pkt srcId) :
    ReportMoves env event s (s.handleReportInit env pkt srcId) := by
  generalize handled : s.handleReportInit env pkt srcId = t
  have answer (status : UInt8) (chunk : ReportChunk) :
      initAnswer env pkt srcId status ≠ .request (.reportChunk chunk) :=
    Action.noConfusion
  cases handleReportInit_taken handled with
  | ignored => exact .refl
  | malformed => exact putMoves _ (answer _)
  | answered role below sizes validated =>
      simp only [WellSized, not_or, Nat.not_lt, ← UInt16.toNat_inj,
        ← UInt8.toNat_inj] at sizes
      have positive16 : (0 : UInt16).toNat = 0 := rfl
      have positive8 : (0 : UInt8).toNat = 0 := rfl
      have init : AcceptedInit env event pkt :=
        { role := role
          received := ⟨srcId, received⟩
          totalSize := by omega
          chunkCount := by omega
          lastChunkSize := by omega }
      exact (validated.moves init).trans (putMoves _ (answer _))

/-- At most one move that changes the tables or the memory. -/
def OneMove (env : Env) (event : ReportEvent) (s s' : ReportPlane) : Prop :=
  ∃ middle, (middle = s ∨ ReportMove env event s middle) ∧
    SameTables middle s'

theorem OneMove.refl : OneMove env event s s :=
  ⟨s, .inl rfl, .refl s⟩

theorem OneMove.then
    {s'' : ReportPlane} (first : OneMove env event s s')
    (same : SameTables s' s'') : OneMove env event s s'' := by
  obtain ⟨middle, move, rest⟩ := first
  exact ⟨middle, move, rest.trans same⟩

theorem OneMove.moves (outcome : OneMove env event s s') :
    ReportMoves env event s s' := by
  obtain ⟨middle, first, same⟩ := outcome
  rcases first with rfl | move
  · exact same.moves
  · exact (Relation.ReflTransGen.single move).trans same.moves

/-- A move that stores a prefix of a chunk in the region of its slot. -/
structure ChunkMove (env : Env) (event : ReportEvent) (s s' : ReportPlane) :
    Prop where
  move : ReportMove env event s s'
  write :
    ∃ pkt srcId idx chunk count,
      event = .reportChunk pkt srcId ∧ StorableChunk s idx chunk pkt ∧
        s'.io.psram.mem = splice s.io.psram.mem (chunkWriteAddr idx pkt)
          ((chunkBytes s idx pkt).take count)

/-- What handling one chunk amounts to: at most one move that changes the
tables or the memory. -/
def ChunkOutcome (env : Env) (event : ReportEvent) (s s' : ReportPlane) :
    Prop :=
  ∃ middle, (middle = s ∨ ChunkMove env event s middle) ∧ SameTables middle s'

theorem ChunkOutcome.refl : ChunkOutcome env event s s :=
  ⟨s, .inl rfl, .refl s⟩

theorem ChunkOutcome.put
    {action : Action} (outcome : ChunkOutcome env event s s')
    (other : ∀ pkt, action ≠ .request (.reportChunk pkt)) :
    ChunkOutcome env event s (s'.put action) := by
  obtain ⟨middle, first, same⟩ := outcome
  exact ⟨middle, first, same.trans (.put other)⟩

theorem ChunkOutcome.oneMove (outcome : ChunkOutcome env event s s') :
    OneMove env event s s' := by
  obtain ⟨middle, first, same⟩ := outcome
  exact ⟨middle, first.imp id ChunkMove.move, same⟩

/-- A whole chunk was written. -/
private theorem ChunkMove.ofWhole
    {pkt : ReportChunk} {srcId : UInt16} {idx : Fin dataSlotCount}
    {chunk : Fin dataMaxChunks} {io : Io}
    (move : ReportMove env event s s')
    (received : event = .reportChunk pkt srcId)
    (storable : StorableChunk s idx chunk pkt)
    (mem : io.psram.mem = splice s.io.psram.mem (chunkWriteAddr idx pkt)
      (chunkBytes s idx pkt))
    (same : s'.io.psram.mem = io.psram.mem) :
    ChunkMove env event s s' where
  move := move
  write :=
    ⟨pkt, srcId, idx, chunk, (chunkBytes s idx pkt).length, received, storable,
      by rw [List.take_length, same, mem]⟩

/-- Reading a whole report back and judging it. -/
theorem verifyReport_outcome
    {idx : Fin dataSlotCount} {chunk : Fin dataMaxChunks} {pkt : ReportChunk}
    {srcId : UInt16} {io : Io}
    (role : env.deviceType = .gateway ∨ env.deviceType = .anchor)
    (received : event = .reportChunk pkt srcId)
    (storable : StorableChunk s idx chunk pkt)
    (mem : io.psram.mem = splice s.io.psram.mem (chunkWriteAddr idx pkt)
      (chunkBytes s idx pkt))
    (out : io.out = s.io.out)
    (full : (s.slots idx).receivedCount + 1 = (s.slots idx).chunkCount) :
    ChunkOutcome env event s
      (verifyReport ({ s with io := io }.setSlot idx
        (storedSlot env (s.slots idx) chunk)) env idx).1 := by
  have rejected {psram : Psram} (unchanged : psram.mem = io.psram.mem) :
      ChunkOutcome env event s
        (reportSlotFree
          { { s with io := io }.setSlot idx
              (storedSlot env (s.slots idx) chunk) with
            io := { io with psram := psram } } idx 255) := by
    have move : ReportMove env event s _ :=
      .rejected role received storable mem out
    refine ⟨_, .inr (.ofWhole move received storable mem ?_),
      .ofOut ?_ ?_ ?_ ?_⟩
    · simp
    · simp
    · funext i
      simp [reportSlotFree_senders]
    · simpa using unchanged
    · simp
  unfold verifyReport
  simp only [setSlot_slots, Function.update_self, setSlot_io]
  have size :
      (storedSlot env (s.slots idx) chunk).totalSize =
        (s.slots idx).totalSize := rfl
  rw [size]
  have stage : 0 < crcVerifyStageSize := by decide
  have spec (positive : 0 < (s.slots idx).totalSize.toNat) :=
    Psram.stagedCrc_spec env.crc stage io.psram (slotPsramAddr idx) positive
      (Nat.le_refl _)
  have unchanged :
      (Psram.stagedCrc env.crc crcVerifyStageSize
        (s.slots idx).totalSize.toNat true 0 io.psram (slotPsramAddr idx)
        (s.slots idx).totalSize.toNat).1.mem = io.psram.mem := by
    rcases Nat.eq_zero_or_pos (s.slots idx).totalSize.toNat with empty | positive
    · rw [empty]
      rfl
    · exact (spec positive).1
  split
  · next psram errno same =>
    rw [same] at unchanged
    exact rejected unchanged
  · next psram crc same =>
    rw [same] at unchanged
    split
    · next equal =>
      have checksum (positive : 0 < (s.slots idx).totalSize.toNat) :
          env.crc.ieee (slice io.psram.mem (slotPsramAddr idx)
            (s.slots idx).totalSize.toNat) = (s.slots idx).crc32 := by
        rw [← (spec positive).2 crc (by rw [same]), equal]
        rfl
      have move : ReportMove env event s _ :=
        .completed role received storable mem out full checksum
      exact ⟨_, .inr (.ofWhole move received storable mem rfl),
        .ofOut (by simp) (by simp) (by simpa using unchanged) (by simp)⟩
    · exact rejected unchanged

/-- An index inside the flags is the number it stands for. -/
theorem receivedIndex_val
    {chunkIndex : UInt8} {chunk : Fin dataMaxChunks}
    (inside : receivedIndex chunkIndex = .ok chunk) :
    chunkIndex.toNat = chunk.val := by
  unfold receivedIndex at inside
  split at inside
  · cases inside
    rfl
  · cases inside

theorem validateReportChunk_outcome
    {pkt : ReportChunk} {srcId : UInt16} {status : UInt8}
    (role : env.deviceType = .gateway ∨ env.deviceType = .anchor)
    (received : event = .reportChunk pkt srcId)
    (accepted : s.validateReportChunk env pkt = .ok (s', status)) :
    ChunkOutcome env event s s' := by
  unfold validateReportChunk at accepted
  split at accepted
  · cases accepted
    exact .refl
  · next idx found =>
    dsimp only at accepted
    split at accepted
    · cases accepted
      exact .refl
    · next inRange =>
      split at accepted
      · cases accepted
      · next chunk chunkIndex =>
        split at accepted
        · cases accepted
          exact .refl
        · next missing =>
          have storable : StorableChunk s idx chunk pkt :=
            { found := found
              index := receivedIndex_val chunkIndex
              inRange := UInt8.not_le.mp inRange
              missing := by simpa using missing }
          split at accepted
          · next io errno same =>
            cases accepted
            obtain ⟨written, after⟩ := Io.write_failed same
            have move : ReportMove env event s _ :=
              .storeFailed role received storable after (Io.write_out_eq same)
            exact ⟨_, .inr ⟨move, pkt, srcId, idx, chunk, written, received,
              storable, after⟩, .refl _⟩
          · next io same =>
            have after : io.psram.mem =
                splice s.io.psram.mem (chunkWriteAddr idx pkt)
                  (chunkBytes s idx pkt) :=
              Io.write_stored same
            split at accepted
            · next full =>
              have verified :=
                verifyReport_outcome role received storable after
                  (Io.write_out_eq same) full
              simp only [Except.ok.injEq] at accepted
              rw [accepted] at verified
              exact verified
            · next partly =>
              cases accepted
              have move : ReportMove env event s _ :=
                .stored role received storable after (Io.write_out_eq same)
                  partly
              exact ⟨_, .inr (.ofWhole move received storable after rfl),
                .refl _⟩

/-- A chunk is ignored, or validated and answered. -/
theorem handleReportChunk_answered
    {pkt : ReportChunk} {srcId : UInt16}
    (handled : s.handleReportChunk env pkt srcId = .ok s') :
    s' = s ∨
      ∃ after status,
        (env.deviceType = .gateway ∨ env.deviceType = .anchor) ∧
          s.validateReportChunk env pkt = .ok (after, status) ∧
            s' = after.put (.reply (.reportChunkAck
              { hdr := env.replyHeader status srcId pkt.hdr.priority
                  pkt.hdr.trackingId
                genDeviceId := pkt.genDeviceId
                dataId := pkt.dataId
                chunkIndex := pkt.chunkIndex })) := by
  unfold handleReportChunk at handled
  split at handled
  · cases handled
    exact .inl rfl
  · split at handled
    · next role =>
      split at handled
      · split at handled
        · cases handled
        · next after status validated =>
          cases handled
          exact .inr ⟨after, status, .inl role, validated, rfl⟩
      · cases handled
        exact .inl rfl
    · next role =>
      split at handled
      · split at handled
        · cases handled
        · next after status validated =>
          cases handled
          exact .inr ⟨after, status, .inr role, validated, rfl⟩
      · cases handled
        exact .inl rfl
    · cases handled
      exact .inl rfl
    · cases handled
      exact .inl rfl

theorem handleReportChunk_outcome
    {pkt : ReportChunk} {srcId : UInt16}
    (received : event = .reportChunk pkt srcId)
    (handled : s.handleReportChunk env pkt srcId = .ok s') :
    ChunkOutcome env event s s' := by
  rcases handleReportChunk_answered handled with
    rfl | ⟨after, status, role, validated, rfl⟩
  · exact .refl
  · exact (validateReportChunk_outcome role received validated).put (by simp)

end Receiving

section Acknowledgements

/-- What the answer to an announcement can do: nothing, remove its tracker
entry only, start the chunks, or free the slot of the report. -/
inductive InitAckTaken (env : Env) (s : ReportPlane) (pkt : ReportInitAck)
    (srcId : UInt16) : ReportPlane → Prop
  | ignored : InitAckTaken env s pkt srcId s
  | untracked :
      InitAckTaken env s pkt srcId (s.put (.untrack pkt.hdr.trackingId))
  | sends {idx : Fin maxAnchors}
      (role : env.deviceType = .sensor ∨ env.deviceType = .anchor)
      (accepted : env.accepts pkt.hdr = true)
      (success : pkt.hdr.status = statusSuccess)
      (found : s.findSenderSlot pkt.genDeviceId pkt.dataId = some idx)
      (from_ : (s.senders idx).dstId = srcId) :
      InitAckTaken env s pkt srcId
        ((s.put (.untrack pkt.hdr.trackingId)).sendNextChunk env srcId idx).1
  | frees {idx : Fin dataSlotCount}
      (role : env.deviceType = .sensor ∨ env.deviceType = .anchor)
      (exists_ : pkt.hdr.status = statusAlreadyExists)
      (found : s.findSlot pkt.genDeviceId pkt.dataId = some idx) :
      InitAckTaken env s pkt srcId
        ((s.put (.untrack pkt.hdr.trackingId)).reportSlotFree idx
          (indexByte (s.findSenderSlot pkt.genDeviceId pkt.dataId)))

theorem answerInitAck_taken {pkt : ReportInitAck} {srcId : UInt16}
    (role : env.deviceType = .sensor ∨ env.deviceType = .anchor)
    (accepted : env.accepts pkt.hdr = true)
    (answered : (s.put (.untrack pkt.hdr.trackingId)).answerInitAck env pkt
      srcId = .ok s') :
    InitAckTaken env s pkt srcId s' := by
  unfold answerInitAck at answered
  dsimp only at answered
  rw [findSenderSlot_put] at answered
  split at answered
  · next success =>
    split at answered
    · cases answered
    · next idx inside =>
      split at answered
      · cases answered
        exact .untracked
      · next mine =>
        cases answered
        simp only [not_or, not_not] at mine
        exact .sends role accepted success (senderIndex_indexByte_ok inside)
          mine.2.1
  · split at answered
    · next exists_ =>
      split at answered
      · cases answered
        exact .untracked
      · next idx found =>
        cases answered
        have here : s.findSlot pkt.genDeviceId pkt.dataId = some idx :=
          (@findSlot_congr s (s.put (.untrack pkt.hdr.trackingId)) rfl _
            _).symm.trans found
        exact .frees role exists_ here
    · cases answered
      exact .untracked

theorem handleReportInitAck_taken {pkt : ReportInitAck} {srcId : UInt16}
    (handled : s.handleReportInitAck env pkt srcId = .ok s') :
    InitAckTaken env s pkt srcId s' := by
  unfold handleReportInitAck at handled
  split at handled
  · cases handled
    exact .ignored
  · next accepted =>
    have accepted : env.accepts pkt.hdr = true := by simpa using accepted
    dsimp only at handled
    split at handled
    · cases handled
      exact .untracked
    · cases handled
      exact .untracked
    · next role =>
      split at handled
      · exact answerInitAck_taken (.inl role) accepted handled
      · cases handled
        exact .untracked
    · next role =>
      split at handled
      · exact answerInitAck_taken (.inr role) accepted handled
      · cases handled
        exact .untracked

theorem handleReportInitAck_moves
    {pkt : ReportInitAck} {srcId : UInt16}
    (received : event = .reportInitAck pkt srcId)
    (handled : s.handleReportInitAck env pkt srcId = .ok s') :
    ReportMoves env event s s' := by
  have untracked :
      ReportMoves env event s (s.put (.untrack pkt.hdr.trackingId)) :=
    putMoves _
  cases handleReportInitAck_taken handled with
  | ignored => exact .refl
  | untracked => exact untracked
  | sends role accepted success found from_ =>
      obtain ⟨active, gen, id⟩ := findSenderSlot_some found
      exact untracked.trans
        (sendNextChunk_moves received success active gen id)
  | frees role exists_ found =>
      rw [← findSenderSlot_put s (.untrack pkt.hdr.trackingId)]
      rw [← @findSlot_congr s (s.put (.untrack pkt.hdr.trackingId)) rfl]
        at found
      exact untracked.tail (.freed (.alreadyExists received exists_ found))

theorem completeTransfer_moves
    {pkt : ReportChunkAck} {srcId : UInt16} {idx : Fin maxAnchors}
    (received : event = .reportChunkAck pkt srcId)
    (status : pkt.hdr.status = statusSuccess)
    (sender : s.findSenderSlot pkt.genDeviceId pkt.dataId = some idx)
    (allSent : (s.senders idx).chunkCount ≤ (s.senders idx).nextChunk)
    (from_ : (s.senders idx).dstId = srcId) :
    ReportMoves env event s (s.completeTransfer idx) := by
  obtain ⟨_, gen, id⟩ := findSenderSlot_some sender
  unfold completeTransfer
  dsimp only
  split
  · next missing => exact freeSenderMoves (.noSlot missing)
  · next slotIdx found =>
    rw [gen, id] at found
    have small : idx.val < 256 := Nat.lt_trans idx.isLt (by decide)
    have value : (UInt8.ofNat idx.val).toNat = idx.val := by
      simp [Nat.mod_eq_of_lt small]
    exact (Relation.ReflTransGen.single
      (.freed (.complete received status sender allSent from_ found))).trans
        (freeSenderMoves (.idle (by simp [reportSlotFree_senders, value])))

theorem restartTransfer_moves
    {idx : Fin maxAnchors} (sending : (s.senders idx).active = true) :
    ReportMoves env event s (s.restartTransfer idx) := by
  unfold restartTransfer
  dsimp only
  split
  · exact .refl
  · next slotIdx found =>
    obtain ⟨active, gen, id⟩ := findSlot_some found
    exact .single (@ReportMove.retried env event s idx slotIdx
      (s.senders idx).timeout sending active gen.symm id.symm)

theorem repeatChunk_moves
    {idx : Fin maxAnchors} {chunkIdx : UInt8} (srcId : UInt16)
    (reason : SendReason event (s.senders idx) chunkIdx)
    (sending : (s.senders idx).active = true) :
    ReportMoves env event s (s.repeatChunk env srcId idx chunkIdx) := by
  have resent :
      ReportMoves env event s (s.resendChunk env srcId idx chunkIdx).1 :=
    resendChunk_moves srcId reason sending
  unfold repeatChunk
  split
  · next after errno same =>
    rw [same] at resent
    refine resent.trans (freeSenderMoves ?_)
    unfold resendChunk at same
    split at same
    · cases same
      exact .lost reason
    · exact .idle (readAndSendChunk_lost same)
  · next after same =>
    rw [same] at resent
    exact resent

/-- What the answer to a chunk can do: nothing, remove its tracker entry only,
end the transfer, start it again, or repeat the chunk. -/
inductive ChunkAckTaken (env : Env) (s : ReportPlane) (pkt : ReportChunkAck)
    (srcId : UInt16) : ReportPlane → Prop
  | ignored : ChunkAckTaken env s pkt srcId s
  | untracked :
      ChunkAckTaken env s pkt srcId (s.put (.untrack pkt.hdr.trackingId))
  | completes {idx : Fin maxAnchors}
      (found : s.findSenderSlot pkt.genDeviceId pkt.dataId = some idx)
      (from_ : (s.senders idx).dstId = srcId)
      (allSent : (s.senders idx).chunkCount ≤ (s.senders idx).nextChunk)
      (success : pkt.hdr.status = statusSuccess) :
      ChunkAckTaken env s pkt srcId
        ((s.put (.untrack pkt.hdr.trackingId)).completeTransfer idx)
  | restarts {idx : Fin maxAnchors}
      (found : s.findSenderSlot pkt.genDeviceId pkt.dataId = some idx)
      (lost : pkt.hdr.status = statusNotFound ∨
        pkt.hdr.status = statusResourceUnavailable ∨
          pkt.hdr.status = statusCrcFail) :
      ChunkAckTaken env s pkt srcId
        ((s.put (.untrack pkt.hdr.trackingId)).restartTransfer idx)
  | repeats {idx : Fin maxAnchors}
      (accepted : env.accepts pkt.hdr = true)
      (found : s.findSenderSlot pkt.genDeviceId pkt.dataId = some idx)
      (from_ : (s.senders idx).dstId = srcId)
      (refused : pkt.hdr.status = statusFailure ∨
        pkt.hdr.status = statusInvalidParameter) :
      ChunkAckTaken env s pkt srcId
        ((s.put (.untrack pkt.hdr.trackingId)).repeatChunk env srcId idx
          pkt.chunkIndex)

theorem handleReportChunkAck_taken {pkt : ReportChunkAck} {srcId : UInt16}
    (handled : s.handleReportChunkAck env pkt srcId = .ok s') :
    ChunkAckTaken env s pkt srcId s' := by
  unfold handleReportChunkAck at handled
  split at handled
  · cases handled
    exact .ignored
  · next accepted =>
    have accepted : env.accepts pkt.hdr = true := by simpa using accepted
    dsimp only at handled
    rw [findSenderSlot_put] at handled
    split at handled
    · cases handled
    · next idx inside =>
      have found := senderIndex_indexByte_ok inside
      split at handled
      · cases handled
        exact .untracked
      · next mine =>
        simp only [not_or, not_not] at mine
        have from_ : (s.senders idx).dstId = srcId := mine.2.2.2
        split at handled
        · next done =>
          cases handled
          exact .completes found from_ done.1 done.2
        · cases handled
          unfold continueTransfer
          split
          · exact .untracked
          · exact .untracked
          all_goals
            split_ifs with _ lost refused
            · exact .restarts found lost
            · exact .repeats accepted found from_ refused
            · exact .untracked
            · exact .untracked

theorem handleReportChunkAck_moves
    {pkt : ReportChunkAck} {srcId : UInt16}
    (received : event = .reportChunkAck pkt srcId)
    (handled : s.handleReportChunkAck env pkt srcId = .ok s') :
    ReportMoves env event s s' := by
  have untracked :
      ReportMoves env event s (s.put (.untrack pkt.hdr.trackingId)) :=
    putMoves _
  cases handleReportChunkAck_taken handled with
  | ignored => exact .refl
  | untracked => exact untracked
  | completes found from_ allSent success =>
      rw [← findSenderSlot_put s (.untrack pkt.hdr.trackingId)]
        at found
      exact untracked.trans
        (completeTransfer_moves received success found allSent from_)
  | restarts found lost =>
      exact untracked.trans
        (restartTransfer_moves (findSenderSlot_some found).1)
  | repeats accepted found from_ refused =>
      obtain ⟨active, gen, id⟩ := findSenderSlot_some found
      exact untracked.trans
        (repeatChunk_moves srcId (.refused received refused gen id rfl) active)

theorem handleReportReceived_moves (pkt : ReportReceived) (srcId : UInt16) :
    ReportMoves env event s (s.handleReportReceived env pkt srcId) := by
  unfold handleReportReceived sendReportReceived
  dsimp only
  split
  · exact .refl
  · split
    · exact .refl
    · exact .refl
    · split
      · split
        · split
          · exact (putMoves _).trans (putMoves _)
          · exact putMoves _
        · exact (putMoves _).trans (putMoves _)
      · exact .refl
    · split
      · exact putMoves _
      · exact .refl

theorem handleReportReceivedAck_moves (pkt : ReportReceivedAck) :
    ReportMoves env event s (s.handleReportReceivedAck env pkt) := by
  unfold handleReportReceivedAck
  split
  · exact .refl
  · exact putMoves _

end Acknowledgements

section Ticks

theorem expireSlots_moves (isTick : event = .tick) :
    ∀ (slots : List (Fin dataSlotCount)) (s : ReportPlane),
      ReportMoves env event s (expireSlots env slots s)
  | [], s => .refl
  | idx :: rest, s => by
      unfold expireSlots
      split
      · next idle =>
        exact (Relation.ReflTransGen.single
          (.freed (.idle isTick idle.1 idle.2))).trans
            (expireSlots_moves isTick rest _)
      · exact expireSlots_moves isTick rest s

theorem expireForwarded_moves (isTick : event = .tick) :
    ∀ (slots : List (Fin dataSlotCount)) (s : ReportPlane),
      ReportMoves env event s (expireForwarded env slots s)
  | [], s => .refl
  | idx :: rest, s => by
      unfold expireForwarded
      split
      · next idle =>
        exact (Relation.ReflTransGen.single
          (.freed (.idle isTick idle.1 idle.2.2.2))).trans
            (expireForwarded_moves isTick rest _)
      · exact expireForwarded_moves isTick rest s

theorem forwardToHost_moves
    (role : env.deviceType = .gateway) (slots : List (Fin dataSlotCount))
    {s : ReportPlane} (forwarded : forwardToHost env slots s = .ok s') :
    ReportMoves env event s s' := by
  induction slots generalizing s with
  | nil =>
      simp only [forwardToHost, Except.ok.injEq] at forwarded
      exact forwarded ▸ .refl
  | cons idx rest inductionHypothesis =>
      have skipped {io : Io} (same : SameTables s { s with io := io })
          (later : forwardToHost env rest { s with io := io } = .ok s') :
          ReportMoves env event s s' :=
        same.moves.trans (inductionHypothesis later)
      simp only [forwardToHost] at forwarded
      split at forwarded
      · split at forwarded
        · next io errno same =>
          have read : SameTables s { s with io := io } :=
            .ofOut rfl rfl (Io.read_mem_eq same) (Io.read_out_eq same)
          exact skipped read forwarded
        · next io payload same =>
          have read : SameTables s { s with io := io } :=
            .ofOut rfl rfl (Io.read_mem_eq same) (Io.read_out_eq same)
          split at forwarded
          · cases forwarded
          · next entry _ =>
            split at forwarded
            · exact skipped read forwarded
            · split at forwarded
              · next after written =>
                exact skipped (read.trans (.txWrite written)) forwarded
              · next after written =>
                simp only [Except.ok.injEq] at forwarded
                subst forwarded
                have wrote : SameTables s { s with io := after } :=
                  read.trans (.txWrite written)
                exact wrote.moves.tail (.forwarded role)
      · exact inductionHypothesis forwarded

theorem expireSender_moves
    {idx : Fin maxAnchors} (sending : (s.senders idx).active = true) :
    ReportMoves env event s (s.expireSender env idx) := by
  unfold expireSender
  dsimp only
  split
  · split
    · next missing => exact .single (.stopped (.noSlot missing))
    · next slotIdx found =>
      obtain ⟨active, gen, id⟩ := findSlot_some found
      exact .single (.retried sending active gen.symm id.symm)
  · exact .refl

theorem findPending_some
    {idx : Fin dataSlotCount}
    (found : s.pendingPriority.bind s.findPending = some idx) :
    (s.slots idx).active = true ∧ (s.slots idx).upstreamReady = true ∧
      (s.slots idx).isSent = false ∧
        s.pendingPriority = some (s.slots idx).priority := by
  obtain ⟨priority, selected, pending⟩ := Option.bind_eq_some_iff.mp found
  have member := Fin.eq_true_of_find?_eq_some pending
  simp only [decide_eq_true_eq, Bool.not_eq_true'] at member
  exact ⟨member.1, member.2.1, member.2.2.1, by rw [selected, member.2.2.2]⟩

/-- Starting a transfer puts out an announcement besides its move. -/
theorem startSender_same
    (env : Env) (s : ReportPlane) (senderIdx : Fin maxAnchors)
    (idx : Fin dataSlotCount) :
    SameTables
      ((s.setSender senderIdx (s.senderFor env idx)).setSlot idx
        { s.slots idx with isSent := true })
      (s.startSender env senderIdx idx) where
  slots := by simp [startSender, sendReportInit]
  senders := by simp [startSender, sendReportInit]
  mem := by simp [startSender, sendReportInit]
  chunks := by simp [startSender, sendReportInit, SentChunk]

theorem senderLoop_moves
    {freeInvalid : Bool}
    (role : env.deviceType = .anchor ∨ env.deviceType = .sensor)
    (invalidRole : freeInvalid = true → env.deviceType = .sensor)
    (ticked : event = .tick) :
    ∀ (senders : List (Fin maxAnchors)) (s : ReportPlane),
      ReportMoves env event s (senderLoop env freeInvalid senders s)
  | [], s => .refl
  | senderIdx :: rest, s => by
      unfold senderLoop
      dsimp only
      split
      · next sending =>
        exact (expireSender_moves sending).trans
          (senderLoop_moves role invalidRole ticked rest _)
      · next idle =>
        split
        · exact .refl
        · next idx found =>
          obtain ⟨active, ready, unsent, _⟩ := findPending_some found
          have counted :
              ReportMoves env event s
                (s.updateReportCount (s.slots idx).priority false) :=
            (SameTables.ofOut (by simp) (by simp) (by simp) (by simp)).moves
          split
          · next details =>
            split
            · next freed =>
              exact counted.tail (.freed
                (.invalid (invalidRole freed) ticked (by simpa using active)
                  (by simpa using unsent) (by simpa using details)))
            · exact counted
          · next details =>
            simp only [not_or] at details
            obtain ⟨gen, id, size, count⟩ := details
            have inactive : (s.senders senderIdx).active = false := by
              simpa using idle
            have started :
                ReportMoves env event s (s.startSender env senderIdx idx) :=
              (Relation.ReflTransGen.single
                (.started role ticked inactive active ready
                  unsent gen id size count)).tail
                    (.quiet (startSender_same env s senderIdx idx))
            exact started.trans
              (senderLoop_moves role invalidRole ticked rest _)

theorem reportTick_moves
    (isTick : event = .tick) (ticked : s.reportTick env = .ok s') :
    ReportMoves env event s s' := by
  have expired : ReportMoves env event s (expireSlots env allSlots s) :=
    expireSlots_moves isTick allSlots s
  unfold reportTick at ticked
  dsimp only at ticked
  split at ticked
  · next role =>
    exact (expired.trans (expireForwarded_moves isTick _ _)).trans
      (forwardToHost_moves role _ ticked)
  · next role =>
    cases ticked
    exact expired.trans
      (senderLoop_moves (.inl role) (by simp) isTick _ _)
  · next role =>
    cases ticked
    exact expired.trans
      (senderLoop_moves (.inr role) (fun _ => role) isTick _ _)
  · cases ticked
    exact expired

end Ticks

section Host

theorem sendLine_same (s : ReportPlane) (text : AtLine) :
    SameTables s (s.sendLine text) :=
  @SameTables.txWrite s s.io _ text _ rfl

theorem storeReport_oneMove
    {idx : Fin dataSlotCount} {base : ReportSlot} {command : ReportCommand}
    {s₀ : ReportPlane}
    (accepted : AcceptedCommand env event command)
    (target :
      Target s env.deviceId command.report.dataId.toUInt8 idx base)
    (prepared :
      s₀.slots = Function.update s.slots idx base ∧
        s₀.senders = s.senders ∧ s₀.io = s.io) :
    OneMove env event s
      (s₀.storeReport env idx command.report command.priority
        command.payload).1 := by
  obtain ⟨slots, senders, io⟩ := prepared
  unfold storeReport
  simp only [updateReportCount_io, setSlot_io, io]
  split
  · next after same =>
    have stored : ReportMove env event s _ :=
      .hostStored accepted target (Io.write_stored same) (Io.write_out_eq same)
    exact ⟨_, .inr stored,
      .ofOut (by simp [slots]) (by simp [senders]) rfl rfl⟩
  · next after errno same =>
    obtain ⟨written, contents⟩ := Io.write_failed same
    have failed :
        (s.io.psram.write (slotPsramAddr idx) command.payload).2 ≠ none := by
      rw [show (s.io.psram.write (slotPsramAddr idx) command.payload).2 =
        some errno from congrArg Prod.snd same]
      simp
    have lost : ReportMove env event s _ :=
      .hostLost accepted target contents (Io.write_out_eq same) failed
    refine ⟨_, .inr lost, .ofOut ?_ ?_ ?_ ?_⟩
    · simp [slots]
    · funext i
      simp [reportSlotFree_senders, senders]
    · simp
    · simp

theorem validateAtReport_oneMove
    {command : ReportCommand} (accepted : AcceptedCommand env event command) :
    OneMove env event s
      (s.validateAtReport env command.report command.priority
        command.payload).1 := by
  unfold validateAtReport
  split
  · exact .refl
  · split
    · next idx found =>
      exact storeReport_oneMove accepted (.existing found) ⟨by simp, rfl, rfl⟩
    · next missing =>
      split
      · exact .refl
      · next idx free =>
        exact storeReport_oneMove accepted (.fresh missing free)
          ⟨rfl, rfl, rfl⟩

/-- The range checks and the lengths `parseReport` guarantees. -/
theorem parseReport_some
    {args : List Char} {command : ReportCommand}
    (parsed : parseReport args = some command) :
    command.report.dataLen.toNat = command.payload.length ∧
      0 < command.payload.length ∧
        command.payload.length ≤ maxReportSize := by
  simp only [parseReport, Option.bind_eq_some_iff] at parsed
  obtain ⟨sn, _, id, _, len, _, prio, _, crc, _, ranged⟩ := parsed
  split at ranged
  · cases ranged
  · next ranges =>
    obtain ⟨hex, _, decoded⟩ := Option.bind_eq_some_iff.mp ranged
    split at decoded
    · cases decoded
    · obtain ⟨payload, _, built⟩ := Option.bind_eq_some_iff.mp decoded
      split at built
      · cases built
      · next exactLength =>
        simp only [Option.some.injEq] at built
        subst built
        simp only [not_or, Nat.not_lt, not_not, ← UInt64.toNat_inj]
          at ranges exactLength
        have zero : (0 : UInt64).toNat = 0 := rfl
        have bound : maxReportSize = 256 := rfl
        have bounds : 0 < payload.length ∧ payload.length ≤ 256 := by omega
        refine ⟨?_, bounds⟩
        simp only [UInt64.toNat_toUInt16]
        omega

theorem cmdReport_oneMove
    {args : List Char} (received : event = .cmdReport args) :
    OneMove env event s (s.cmdReport env args) := by
  unfold cmdReport
  split
  · exact OneMove.refl.then (sendLine_same s _)
  · next role =>
    split
    · exact OneMove.refl.then (sendLine_same s _)
    · next connected =>
      split
      · exact OneMove.refl.then (sendLine_same s _)
      · next command parsed =>
        split
        · exact OneMove.refl.then (sendLine_same s _)
        · next checksum =>
          split
          · exact OneMove.refl.then (sendLine_same s _)
          · next serial =>
            obtain ⟨len, positive, bound⟩ := parseReport_some parsed
            have accepted : AcceptedCommand env event command :=
              { role := not_not.mp role
                parsed := ⟨args, received, parsed⟩
                connected := connected
                checksum := not_not.mp checksum
                serial := not_not.mp serial
                nonempty := by
                  intro empty
                  rw [empty] at len
                  exact absurd len (by simp; omega)
                fits := by omega }
            have validated : OneMove env event s
                (s.validateAtReport env command.report command.priority
                  command.payload).1 :=
              validateAtReport_oneMove accepted
            split
            · next after errno same =>
              rw [same] at validated
              exact validated.then (sendLine_same _ _)
            · next after same =>
              rw [same] at validated
              exact (validated.then (sendLine_same _ _)).then
                (sendLine_same _ _)

theorem findSentSlot_some
    {deviceId reportId : UInt16} {idx : Fin dataSlotCount}
    (found : s.findSentSlot deviceId reportId = some idx) :
    (s.slots idx).genDeviceId = deviceId ∧ (s.slots idx).active = true ∧
      (s.slots idx).isSent = true ∧
        (s.slots idx).dataId.toUInt16 = reportId := by
  simpa using Fin.eq_true_of_find?_eq_some found

theorem discoverRoute_moves (pkt : RouteDiscovery) :
    ReportMoves env event s (s.discoverRoute env pkt) := by
  have discovery := fun action => @Env.mem_routeDiscoveries env pkt action
  unfold discoverRoute
  generalize env.routeDiscoveries pkt = actions at discovery
  induction actions generalizing s with
  | nil => exact .refl
  | cons head rest inductionHypothesis =>
      obtain ⟨sent, rfl⟩ := discovery head List.mem_cons_self
      exact (putMoves _).trans (inductionHypothesis fun action member =>
        discovery action (List.mem_cons_of_mem _ member))

theorem reportSlotReleaseById_moves
    {deviceId reportId : UInt16} {isSuccess : Bool}
    (released :
      s.reportSlotReleaseById env deviceId reportId isSuccess = .ok s') :
    ReportMoves env event s s' := by
  unfold reportSlotReleaseById at released
  split at released
  · cases released
    exact .refl
  · split at released
    · cases released
      exact .refl
    · next idx found =>
      dsimp only at released
      split at released
      · split at released
        · cases released
          exact .refl
        · split at released
          · cases released
            exact putMoves _
          · cases released
            exact discoverRoute_moves _
      · split at released
        · cases released
        · next senderIdx inside =>
          obtain ⟨sending, gen, id⟩ :=
            findSenderSlot_some (senderIndex_indexByte_ok inside)
          obtain ⟨_, active, _, _⟩ := findSentSlot_some found
          cases released
          exact .single (@ReportMove.retried env event s senderIdx idx
            (s.senders senderIdx).timeout sending active gen id)

end Host

/-- Every event of a run is a sequence of moves. -/
theorem step_moves
    (allowed : s.Elsewhere event) (stepped : s.step env event = .ok s') :
    ReportMoves env event s.clearOut s' := by
  cases event with
  | reportInit pkt srcId =>
      cases stepped
      exact handleReportInit_moves pkt srcId rfl
  | reportInitAck pkt srcId => exact handleReportInitAck_moves rfl stepped
  | reportChunk pkt srcId =>
      exact (handleReportChunk_outcome rfl stepped).oneMove.moves
  | reportChunkAck pkt srcId => exact handleReportChunkAck_moves rfl stepped
  | reportReceived pkt srcId =>
      cases stepped
      exact handleReportReceived_moves pkt srcId
  | reportReceivedAck pkt =>
      cases stepped
      exact handleReportReceivedAck_moves pkt
  | routeInfo pkt =>
      simp only [step, buildReportReceivedPkt] at stepped
      split at stepped
      · split at stepped
        · cases stepped
          exact .refl
        · cases stepped
          exact .single .transfered
      · cases stepped
  | tick => exact reportTick_moves rfl stepped
  | cmdReport args =>
      cases stepped
      exact (cmdReport_oneMove rfl).moves
  | release deviceId reportId isSuccess =>
      simp only [step] at stepped
      exact reportSlotReleaseById_moves stepped
  | restart =>
      cases stepped
      exact .single (.restarted rfl)
  | elsewhere psram uart =>
      cases stepped
      exact .single (.elsewhere rfl rfl rfl allowed rfl)

end ReportPlane

end DectMesh
