import Mathlib.Logic.Relation
import DectMesh.Library.ByteStore
import DectMesh.LargeData.Run

/-!
# What one step does to the large-data store

The store consists of the slots without their progress flags, the page flags
and the memory.  Most of the large-data plane never touches it; the moves
below are all that does.
-/

namespace DectMesh

open ByteStore

/-- A slot without the flags of its way upstream. -/
def LdSlot.content (slot : LdSlot) : LdSlot :=
  { slot with isSent := false, isTransfered := false }

/-- The same store. -/
structure SameStore (s s' : LdPlane) : Prop where
  slots : ∀ idx, (s'.slots idx).content = (s.slots idx).content
  pages : s'.isLdSlotEmpty = s.isLdSlotEmpty
  busy : s'.ldBusy = s.ldBusy
  mem : s'.io.psram.mem = s.io.psram.mem

/-- The checks of `handle_large_data_init`. -/
structure LdAcceptedInit (env : Env) (event : LdEvent) (pkt : LargeDataInit) :
    Prop where
  role : env.deviceType = .gateway ∨ env.deviceType = .anchor
  received : ∃ srcId, event = .largeDataInit pkt srcId
  totalSize : 0 < pkt.totalSize.toNat ∧ pkt.totalSize.toNat ≤ ldMaxTransferSize
  pageCount : 0 < pkt.pageCount.toNat
  lastChunkSize :
    0 < pkt.lastChunkSize.toNat ∧ pkt.lastChunkSize.toNat ≤ ldChunkSize

/-- A chunk packet that `validate_large_data_chunk` is ready to store. -/
structure LdStorableChunk
    (s : LdPlane) (idx : Fin ldReceiverSlotCount) (bit : Fin ldBitmapBits)
    (pkt : LargeDataChunk) : Prop where
  found : s.findLargeDataSlot pkt.genDeviceId pkt.dataId = some idx
  linear : LdPlane.linearIndex pkt.pageIndex pkt.chunkIndex = bit.val
  page : pkt.pageIndex < (s.slots idx).pageCount
  chunk : pkt.chunkIndex.toNat < ldChunksPerPage
  below : bit.val < (s.slots idx).totalChunks.toNat
  missing : (s.slots idx).bitmap bit = false

/-- The bytes a storable chunk puts into its slot. -/
def ldChunkBytes (slot : LdSlot) (bit : Fin ldBitmapBits)
    (pkt : LargeDataChunk) : List UInt8 :=
  pkt.data.bytes.take (LdPlane.storedChunkSize slot bit.val).toNat

def ldChunkAddr (slot : LdSlot) (bit : Fin ldBitmapBits) : Nat :=
  slot.baseAddr.toNat + bit.val * ldChunkSize

/-- An `AT#LDINIT` that passed every check of `cmd_ld_init`. -/
structure LdAcceptedCommand (env : Env) (event : LdEvent)
    (command : LdPlane.LdInitCommand) : Prop where
  role : env.deviceType = .sensor
  received :
    ∃ args, event = .cmdLdInit args ∧ LdPlane.parseLdInit args = some command
  inRange : command.inRange = true

/-- A payload that `cmd_ld_chunk` is ready to stage. -/
structure LdStageable (env : Env) (event : LdEvent) (s : LdPlane)
    (idx : Fin ldReceiverSlotCount) (linear : Nat) (payload : List UInt8) :
    Prop where
  role : env.deviceType = .sensor
  received : ∃ args, event = .cmdLdChunk args
  active : (s.slots idx).active = true
  below : linear < (s.slots idx).totalChunks.toNat
  size : payload.length = LdPlane.expectedSize (s.slots idx) linear
  pending : (s.slots idx).receivedCount.toNat ≤ linear

/-- The slot once a payload of the host was stored. -/
def LdSlot.staged (slot : LdSlot) (env : Env) : LdSlot :=
  { slot with
    receivedCount := slot.receivedCount + 1
    idleTimeout := slot.idleTimeout.start env.now }

/-- A `LARGE_DATA_INIT_ACK` that takes the `STATUS_COMPLETE` branch. -/
structure LdAcknowledged (env : Env) (s : LdPlane) (pkt : LargeDataInitAck) :
    Prop where
  role : env.deviceType = .sensor ∨ env.deviceType = .anchor
  accepted : env.accepts pkt.hdr = true
  upstream : isUpstreamType pkt.hdr.deviceType = true
  complete : pkt.hdr.status = statusComplete
  sender : (s.findSenderSlot pkt.genDeviceId pkt.dataId).isSome = true
  slot : (s.findLargeDataSlot pkt.genDeviceId pkt.dataId).isSome = true

/-- A slot with the key of a blob that is ready to be sent. -/
def LdReadyKey (s : LdPlane) (idx : Fin ldReceiverSlotCount) : Prop :=
  ∃ ready,
    (s.slots ready).active = true ∧ (s.slots ready).upstreamReady = true ∧
      (s.slots ready).genDeviceId = (s.slots idx).genDeviceId ∧
        (s.slots ready).dataId = (s.slots idx).dataId

/-- Why a tick gives up a slot that is ready to be sent. -/
inductive LdGivenUp (env : Env) (slot : LdSlot) : Prop
  /-- The gateway does not know the device. -/
  | unknown (role : env.deviceType = .gateway) (devices : 0 < env.meshCount)
      (missing :
        (env.findMesh fun entry => entry.deviceId = slot.genDeviceId) = none)
  | invalid (role : env.deviceType ≠ .gateway)
      (details : LdPlane.invalidDetails slot = true)

/-- The moves of the large-data store. -/
inductive LdMove (env : Env) (event : LdEvent) (s : LdPlane) :
    LdPlane → Prop
  | quiet {s' : LdPlane} (same : SameStore s s') : LdMove env event s s'
  | acknowledged {s' : LdPlane} {pkt : LargeDataInitAck} {srcId : UInt16}
      (received : event = .largeDataInitAck pkt srcId)
      (acknowledged : LdAcknowledged env s pkt)
      (same : SameStore { s with ldBusy := false } s') :
      LdMove env event s s'
  | freed {idx : Fin ldReceiverSlotCount} {senderIdx : UInt8}
      (ticked : event = .tick)
      (active : (s.slots idx).active = true) (ready : LdReadyKey s idx)
      (reason : LdGivenUp env (s.slots idx)) :
      LdMove env event s (s.freeLargeDataSlot idx senderIdx)
  | accepted {idx : Fin ldReceiverSlotCount} {range : PageRange}
      {pkt : LargeDataInit}
      (init : LdAcceptedInit env event pkt)
      (idle : s.ldBusy = false)
      (missing : s.findLargeDataSlot pkt.genDeviceId pkt.dataId = none)
      (free : s.freeSlot = some idx)
      (fits : s.findPages pkt.totalSize = some range) :
      LdMove env event s
        { s with
          slots := Function.update s.slots idx
            (LdPlane.acceptedSlot env
              (LdPlane.allocatedSlot (s.slots idx) range) pkt)
          isLdSlotEmpty := PageMap.mark s.isLdSlotEmpty range false
          ldBusy := true }
  | storeFailed {idx : Fin ldReceiverSlotCount} {bit : Fin ldBitmapBits}
      {pkt : LargeDataChunk} {io : Io} {srcId : UInt16} {written : Nat}
      (role : env.deviceType = .gateway ∨ env.deviceType = .anchor)
      (received : event = .largeDataChunk pkt srcId)
      (storable : LdStorableChunk s idx bit pkt)
      (mem : io.psram.mem = splice s.io.psram.mem
        (ldChunkAddr (s.slots idx) bit)
        ((ldChunkBytes (s.slots idx) bit pkt).take written)) :
      LdMove env event s { s with io := io }
  | stored {idx : Fin ldReceiverSlotCount} {bit : Fin ldBitmapBits}
      {pkt : LargeDataChunk} {io : Io} {srcId : UInt16}
      (role : env.deviceType = .gateway ∨ env.deviceType = .anchor)
      (received : event = .largeDataChunk pkt srcId)
      (storable : LdStorableChunk s idx bit pkt)
      (mem : io.psram.mem = splice s.io.psram.mem
        (ldChunkAddr (s.slots idx) bit) (ldChunkBytes (s.slots idx) bit pkt))
      (partly :
        ¬ (s.slots idx).totalChunks ≤ (s.slots idx).receivedCount + 1) :
      LdMove env event s
        ({ s with io := io }.setSlot idx
          (LdPlane.storedSlot env (s.slots idx) bit))
  | completed {idx : Fin ldReceiverSlotCount} {bit : Fin ldBitmapBits}
      {pkt : LargeDataChunk} {io : Io} {srcId : UInt16}
      (role : env.deviceType = .gateway ∨ env.deviceType = .anchor)
      (received : event = .largeDataChunk pkt srcId)
      (storable : LdStorableChunk s idx bit pkt)
      (mem : io.psram.mem = splice s.io.psram.mem
        (ldChunkAddr (s.slots idx) bit) (ldChunkBytes (s.slots idx) bit pkt))
      (full : (s.slots idx).totalChunks ≤ (s.slots idx).receivedCount + 1)
      (checksum : 0 < (s.slots idx).totalSize.toNat →
        env.crc.ieee (slice io.psram.mem (s.slots idx).baseAddr.toNat
          (s.slots idx).totalSize.toNat) = (s.slots idx).crc32) :
      LdMove env event s
        { { s with io := io }.setSlot idx
            (LdPlane.readySlot
              (LdPlane.storedSlot env (s.slots idx) bit)) with
          ldBusy := false }
  | rejected {idx : Fin ldReceiverSlotCount} {bit : Fin ldBitmapBits}
      {pkt : LargeDataChunk} {io : Io} {srcId : UInt16}
      (role : env.deviceType = .gateway ∨ env.deviceType = .anchor)
      (received : event = .largeDataChunk pkt srcId)
      (storable : LdStorableChunk s idx bit pkt)
      (mem : io.psram.mem = splice s.io.psram.mem
        (ldChunkAddr (s.slots idx) bit) (ldChunkBytes (s.slots idx) bit pkt))
      (full : (s.slots idx).totalChunks ≤ (s.slots idx).receivedCount + 1) :
      LdMove env event s
        { ({ s with io := io }.setSlot idx
            (LdPlane.storedSlot env (s.slots idx) bit)).freeLargeDataSlot
              idx 255 with
          ldBusy := false }
  | hostAllocated {idx : Fin ldReceiverSlotCount} {range : PageRange}
      {command : LdPlane.LdInitCommand}
      (accepted : LdAcceptedCommand env event command)
      (missing :
        s.findLargeDataSlot env.deviceId command.id.toUInt8 = none)
      (free : s.freeSlot = some idx)
      (fits : s.findPages command.total.toUInt32 = some range) :
      LdMove env event s
        { s with
          slots := Function.update s.slots idx
            (LdPlane.hostSlot env
              (LdPlane.allocatedSlot (s.slots idx) range) command)
          isLdSlotEmpty := PageMap.mark s.isLdSlotEmpty range false }
  | hostLost {idx : Fin ldReceiverSlotCount} {linear : Nat}
      {payload : List UInt8} {io : Io} {written : Nat}
      (stageable : LdStageable env event s idx linear payload)
      (mem : io.psram.mem = splice s.io.psram.mem
        ((s.slots idx).baseAddr.toNat + linear * atDataPayloadMax)
        (payload.take written)) :
      LdMove env event s ({ s with io := io }.freeLargeDataSlot idx 255)
  | hostStored {idx : Fin ldReceiverSlotCount} {linear : Nat}
      {payload : List UInt8} {io : Io}
      (stageable : LdStageable env event s idx linear payload)
      (mem : io.psram.mem = splice s.io.psram.mem
        ((s.slots idx).baseAddr.toNat + linear * atDataPayloadMax) payload)
      (partly :
        ¬ (s.slots idx).totalChunks ≤ (s.slots idx).receivedCount + 1) :
      LdMove env event s
        ({ s with io := io }.setSlot idx ((s.slots idx).staged env))
  | hostCompleted {idx : Fin ldReceiverSlotCount} {linear : Nat}
      {payload : List UInt8} {io : Io}
      (stageable : LdStageable env event s idx linear payload)
      (mem : io.psram.mem = splice s.io.psram.mem
        ((s.slots idx).baseAddr.toNat + linear * atDataPayloadMax) payload)
      (full : (s.slots idx).totalChunks ≤ (s.slots idx).receivedCount + 1)
      (checksum : 0 < (s.slots idx).totalSize.toNat →
        env.crc.ieee (slice io.psram.mem (s.slots idx).baseAddr.toNat
          (s.slots idx).totalSize.toNat) = (s.slots idx).crc32) :
      LdMove env event s
        ({ s with io := io }.setSlot idx
          (LdPlane.stagedSlot ((s.slots idx).staged env)))
  | hostRejected {idx : Fin ldReceiverSlotCount} {linear : Nat}
      {payload : List UInt8} {io : Io}
      (stageable : LdStageable env event s idx linear payload)
      (mem : io.psram.mem = splice s.io.psram.mem
        ((s.slots idx).baseAddr.toNat + linear * atDataPayloadMax) payload)
      (full : (s.slots idx).totalChunks ≤ (s.slots idx).receivedCount + 1) :
      LdMove env event s
        (({ s with io := io }.setSlot idx
          ((s.slots idx).staged env)).freeLargeDataSlot idx 255)
  | restarted (restart : event = .restart) :
      LdMove env event s s.largeDataInit
  | elsewhere {s' : LdPlane} {psram : Psram} {uart : List UartOutcome}
      (other : event = .elsewhere psram uart)
      (slots : s'.slots = s.slots)
      (pages : s'.isLdSlotEmpty = s.isLdSlotEmpty)
      (busy : s'.ldBusy = s.ldBusy)
      (region : AgreeOn s'.io.psram.mem s.io.psram.mem psramLargeDataBase
        LdPlane.ldRegionEnd) :
      LdMove env event s s'

abbrev LdMoves (env : Env) (event : LdEvent) : LdPlane → LdPlane → Prop :=
  Relation.ReflTransGen (LdMove env event)

namespace SameStore

variable {env : Env} {event : LdEvent} {s s' s'' : LdPlane}

theorem moves (same : SameStore s s') : LdMoves env event s s' :=
  .single (.quiet same)

theorem refl (s : LdPlane) : SameStore s s :=
  ⟨fun _ => rfl, rfl, rfl, rfl⟩

theorem trans (left : SameStore s s') (right : SameStore s' s'') :
    SameStore s s'' where
  slots := fun idx => (right.slots idx).trans (left.slots idx)
  pages := right.pages.trans left.pages
  busy := right.busy.trans left.busy
  mem := right.mem.trans left.mem

/-- The slots did not change at all. -/
theorem ofSlots
    (slots : s'.slots = s.slots)
    (pages : s'.isLdSlotEmpty = s.isLdSlotEmpty)
    (busy : s'.ldBusy = s.ldBusy)
    (mem : s'.io.psram.mem = s.io.psram.mem) : SameStore s s' where
  slots := fun idx => by rw [slots]
  pages := pages
  busy := busy
  mem := mem

theorem setSender
    (idx : Fin ldSenderSlotCount) (sender : LdSender) :
    SameStore s (s.setSender idx sender) :=
  ofSlots rfl rfl rfl rfl

theorem put (action : Action) : SameStore s (s.put action) :=
  ofSlots rfl rfl rfl rfl

/-- Only progress flags of one slot changed. -/
theorem setSlot
    {idx : Fin ldReceiverSlotCount} {slot : LdSlot}
    (same : slot.content = (s.slots idx).content) :
    SameStore s (s.setSlot idx slot) where
  slots := by
    intro other
    by_cases equal : other = idx
    · subst equal
      simpa [LdPlane.setSlot] using same
    · simp [LdPlane.setSlot, Function.update_of_ne equal]
  pages := rfl
  busy := rfl
  mem := rfl

theorem setSent (idx : Fin ldReceiverSlotCount) (isSent : Bool) :
    SameStore s (s.setSlot idx { s.slots idx with isSent := isSent }) :=
  setSlot rfl

theorem sendLine (text : AtLine) : SameStore s (s.sendLine text) :=
  ofSlots rfl rfl rfl (congrArg Psram.mem (Io.sendLine_psram s.io text))

theorem read
    {addr length : Nat} {io : Io} {result : Except Errno (List UInt8)}
    (same : s.io.read addr length = (io, result)) :
    SameStore s { s with io := io } :=
  ofSlots rfl rfl rfl (Io.read_mem_eq same)

end SameStore

namespace LdPlane

variable {env : Env} {event : LdEvent} {s s' : LdPlane}

/-- The search looks at the slots only. -/
theorem findLargeDataSlot_congr
    (same : s'.slots = s.slots) (genDeviceId : UInt16) (dataId : UInt8) :
    s'.findLargeDataSlot genDeviceId dataId =
      s.findLargeDataSlot genDeviceId dataId := by
  unfold findLargeDataSlot
  rw [same]

theorem findLargeDataSlot_some
    {genDeviceId : UInt16} {dataId : UInt8} {idx : Fin ldReceiverSlotCount}
    (found : s.findLargeDataSlot genDeviceId dataId = some idx) :
    (s.slots idx).active = true ∧ (s.slots idx).genDeviceId = genDeviceId ∧
      (s.slots idx).dataId = dataId := by
  unfold findLargeDataSlot at found
  simpa using Fin.eq_true_of_find?_eq_some found

theorem findLargeDataSlot_none
    {genDeviceId : UInt16} {dataId : UInt8}
    (missing : s.findLargeDataSlot genDeviceId dataId = none)
    (idx : Fin ldReceiverSlotCount) (active : (s.slots idx).active = true)
    (gen : (s.slots idx).genDeviceId = genDeviceId) :
    (s.slots idx).dataId ≠ dataId := by
  unfold findLargeDataSlot at missing
  simp only [Fin.find?_eq_none_iff] at missing
  have different := missing idx
  simp only [active, gen, true_and, decide_eq_false_iff_not] at different
  exact different

theorem freeSlot_some
    {idx : Fin ldReceiverSlotCount} (found : s.freeSlot = some idx) :
    (s.slots idx).active = false := by
  unfold freeSlot at found
  simpa using Fin.eq_true_of_find?_eq_some found

theorem findPending_some
    {idx : Fin ldReceiverSlotCount} (found : s.findPending = some idx) :
    (s.slots idx).active = true ∧ (s.slots idx).upstreamReady = true ∧
      (s.slots idx).isSent = false := by
  unfold findPending at found
  simpa using Fin.eq_true_of_find?_eq_some found

theorem allocLargeDataSlot_some
    {size : UInt32} {idx : Fin ldReceiverSlotCount}
    (allocated : s.allocLargeDataSlot size = some (s', idx)) :
    ∃ range, s.freeSlot = some idx ∧ s.findPages size = some range ∧
      s' = { s with
        slots := Function.update s.slots idx
          (allocatedSlot (s.slots idx) range)
        isLdSlotEmpty := PageMap.mark s.isLdSlotEmpty range false } := by
  unfold allocLargeDataSlot at allocated
  split at allocated
  · cases allocated
  · next free =>
    split at allocated
    · cases allocated
    · next range fits =>
      cases allocated
      exact ⟨range, free, fits, rfl⟩

section Sending

theorem readAndSendChunk_same
    (dstId : UInt16) (senderIdx : Fin ldSenderSlotCount)
    (pageIdx chunkIdx : UInt8) (linear : Nat) :
    SameStore s
      (s.readAndSendChunk env dstId senderIdx pageIdx chunkIdx linear).1 := by
  unfold readAndSendChunk
  dsimp only
  split
  · next io errno same =>
    exact (SameStore.read same).trans (.setSender _ _)
  · next io data same =>
    exact ((SameStore.read same).trans (.setSender _ _)).trans (.put _)

theorem sendNextLoop_same
    (dstId : UInt16) (senderIdx : Fin ldSenderSlotCount) :
    ∀ (rounds i : Nat) (s : LdPlane),
      SameStore s (sendNextLoop env dstId senderIdx rounds i s).1
  | 0, _, s => .refl s
  | rounds + 1, i, s => by
      have first (linear : Nat) :=
        @readAndSendChunk_same env s dstId senderIdx
          (UInt8.ofNat (linear / ldChunksPerPage))
          (UInt8.ofNat (linear % ldChunksPerPage)) linear
      unfold sendNextLoop
      dsimp only
      split
      · exact .refl s
      · split
        · next after errno same =>
          have sent := first ((s.senders senderIdx).nextChunk.toNat + i)
          rw [same] at sent
          exact sent
        · next after same =>
          have sent := first ((s.senders senderIdx).nextChunk.toNat + i)
          rw [same] at sent
          exact sent.trans (sendNextLoop_same dstId senderIdx rounds (i + 1) _)

theorem sendNextLargeDataChunk_same
    (dstId : UInt16) (senderIdx : Fin ldSenderSlotCount) :
    SameStore s (s.sendNextLargeDataChunk env dstId senderIdx).1 :=
  sendNextLoop_same dstId senderIdx _ _ s

theorem resendLargeDataChunk_same
    (dstId : UInt16) (pageIdx chunkIdx : UInt8)
    (senderIdx : Fin ldSenderSlotCount) :
    SameStore s
      (s.resendLargeDataChunk env dstId pageIdx chunkIdx senderIdx).1 :=
  readAndSendChunk_same dstId senderIdx pageIdx chunkIdx _

theorem restartTransfer_same (senderIdx : Fin ldSenderSlotCount) :
    SameStore s (s.restartTransfer senderIdx) := by
  unfold restartTransfer freeSenderSlot
  dsimp only
  split
  · exact .setSender _ _
  · exact (SameStore.setSender _ _).trans (.setSlot rfl)

theorem advanceTransfer_same
    (srcId : UInt16) (senderIdx : Fin ldSenderSlotCount) :
    SameStore s (s.advanceTransfer env srcId senderIdx) := by
  unfold advanceTransfer
  dsimp only
  split
  · exact .setSender _ _
  · have sent :=
      @sendNextLargeDataChunk_same env
        (s.setSender senderIdx
          { s.senders senderIdx with
            nextChunk := (s.senders senderIdx).nextChunk + 1 })
        srcId senderIdx
    split
    · next after same =>
      rw [same] at sent
      exact (SameStore.setSender _ _).trans sent
    · next after errno same =>
      rw [same] at sent
      exact ((SameStore.setSender _ _).trans sent).trans
        (restartTransfer_same senderIdx)

end Sending

section Acknowledgements

/-- Only `STATUS_COMPLETE` clears the busy flag. -/
theorem answerInitAck_same
    (pkt : LargeDataInitAck) (srcId : UInt16)
    (senderIdx : Fin ldSenderSlotCount) (idx : Fin ldReceiverSlotCount) :
    SameStore s (s.answerInitAck env pkt srcId senderIdx idx) ∨
      pkt.hdr.status = statusComplete ∧
        SameStore { s with ldBusy := false }
          (s.answerInitAck env pkt srcId senderIdx idx) := by
  unfold answerInitAck
  dsimp only
  split
  · exact .inl ((SameStore.setSender _ _).trans (.setSlot rfl))
  · split
    · split
      · exact .inl (.refl s)
      · exact .inl (sendNextLargeDataChunk_same srcId senderIdx)
    · split
      · next complete =>
        have flagged : SameStore s
            ((s.freeSenderSlot senderIdx).setSlot idx
              { s.slots idx with isTransfered := true }) :=
          (SameStore.setSender _ _).trans (.setSlot rfl)
        exact .inr ⟨complete, flagged.slots, flagged.pages, rfl, flagged.mem⟩
      · exact .inl (.refl s)

theorem findSenderSlot_some
    {dstId : UInt16} {dataId : UInt8} {senderIdx : Fin ldSenderSlotCount}
    (found : s.findSenderSlot dstId dataId = some senderIdx) :
    (s.senders senderIdx).active = true ∧
      (s.senders senderIdx).genDeviceId = dstId ∧
        (s.senders senderIdx).dataId = dataId := by
  unfold findSenderSlot at found
  simpa using Fin.eq_true_of_find?_eq_some found

theorem findSenderSlot_congr
    (same : s'.senders = s.senders) (genDeviceId : UInt16) (dataId : UInt8) :
    s'.findSenderSlot genDeviceId dataId =
      s.findSenderSlot genDeviceId dataId := by
  unfold findSenderSlot
  rw [same]

theorem findSenderSlot_put
    (action : Action) (genDeviceId : UInt16) (dataId : UInt8) :
    (s.put action).findSenderSlot genDeviceId dataId =
      s.findSenderSlot genDeviceId dataId :=
  findSenderSlot_congr (by rfl) genDeviceId dataId

/-- Only a found sender passes for an index of the one-entry table. -/
theorem senderIndex_ok
    {found : Option (Fin ldSenderSlotCount)}
    {senderIdx : Fin ldSenderSlotCount}
    (inside : senderIndex (ldIndexByte found) = .ok senderIdx) :
    found = some senderIdx := by
  cases found with
  | none =>
      unfold senderIndex ldIndexByte at inside
      rw [dif_neg (by decide)] at inside
      cases inside
  | some other =>
      have one : ldSenderSlotCount = 1 := rfl
      exact congrArg some (Fin.ext (by omega))

/-- What the answer to an announcement can do: nothing, remove its tracker
entry only, or drive the sender of a blob that has a slot. -/
inductive InitAckTaken (env : Env) (s : LdPlane) (pkt : LargeDataInitAck)
    (srcId : UInt16) : LdPlane → Prop
  | ignored : InitAckTaken env s pkt srcId s
  | untracked :
      InitAckTaken env s pkt srcId (s.put (.untrack pkt.hdr.trackingId))
  | answered {senderIdx : Fin ldSenderSlotCount}
      {idx : Fin ldReceiverSlotCount}
      (role : env.deviceType = .sensor ∨ env.deviceType = .anchor)
      (accepted : env.accepts pkt.hdr = true)
      (upstream : isUpstreamType pkt.hdr.deviceType = true)
      (found : s.findSenderSlot pkt.genDeviceId pkt.dataId = some senderIdx)
      (slot : s.findLargeDataSlot pkt.genDeviceId pkt.dataId = some idx) :
      InitAckTaken env s pkt srcId
        ((s.put (.untrack pkt.hdr.trackingId)).answerInitAck env pkt srcId
          senderIdx idx)

theorem handleLargeDataInitAck_taken {pkt : LargeDataInitAck} {srcId : UInt16}
    (handled : s.handleLargeDataInitAck env pkt srcId = .ok s') :
    InitAckTaken env s pkt srcId s' := by
  unfold handleLargeDataInitAck at handled
  split at handled
  · cases handled
    exact .ignored
  · next accepted =>
    have accepted : env.accepts pkt.hdr = true := by simpa using accepted
    dsimp only at handled
    rw [findSenderSlot_put] at handled
    split at handled
    · cases handled
      exact .untracked
    · cases handled
      exact .untracked
    all_goals
      next role =>
      split at handled
      · next upstream =>
        split at handled
        · cases handled
        · next senderIdx sender =>
          have found := senderIndex_ok sender
          obtain ⟨_, gen, id⟩ := findSenderSlot_some found
          split at handled
          · cases handled
            exact .untracked
          · next slot =>
            cases handled
            have here := (@findLargeDataSlot_congr s
              (s.put (.untrack pkt.hdr.trackingId)) rfl _ _).symm.trans slot
            rw [show (s.put _).senders = s.senders from rfl, gen, id] at here
            exact .answered (by simp [role]) accepted upstream found here
      · cases handled
        exact .untracked

theorem handleLargeDataInitAck_outcome
    {pkt : LargeDataInitAck} {srcId : UInt16}
    (handled : s.handleLargeDataInitAck env pkt srcId = .ok s') :
    SameStore s s' ∨
      LdAcknowledged env s pkt ∧ SameStore { s with ldBusy := false } s' := by
  have untracked : SameStore s (s.put (.untrack pkt.hdr.trackingId)) :=
    .put _
  cases handleLargeDataInitAck_taken handled with
  | ignored => exact .inl (.refl s)
  | untracked => exact .inl untracked
  | answered role accepted upstream found slot =>
      rcases answerInitAck_same pkt srcId _ _ with
        unchanged | ⟨complete, cleared⟩
      · exact .inl (untracked.trans unchanged)
      · refine .inr ⟨?_, SameStore.trans ?_ cleared⟩
        · exact
            { role := role
              accepted := accepted
              upstream := upstream
              complete := complete
              sender := by simp [found]
              slot := by simp [slot] }
        · exact .ofSlots rfl rfl rfl rfl

theorem handleLargeDataInitAck_moves
    {pkt : LargeDataInitAck} {srcId : UInt16}
    (received : event = .largeDataInitAck pkt srcId)
    (handled : s.handleLargeDataInitAck env pkt srcId = .ok s') :
    LdMoves env event s s' := by
  rcases handleLargeDataInitAck_outcome handled with
    same | ⟨complete, same⟩
  · exact same.moves
  · exact .single (.acknowledged received complete same)

theorem finishTransfer_same (senderIdx : Fin ldSenderSlotCount) :
    SameStore s (s.finishTransfer env senderIdx) := by
  unfold finishTransfer
  dsimp only
  split
  · exact .setSender _ _
  · exact (SameStore.setSender _ _).trans (.setSlot rfl)

theorem continueTransfer_same
    (pkt : LargeDataChunkAck) (srcId : UInt16)
    (senderIdx : Fin ldSenderSlotCount) :
    SameStore s (s.continueTransfer env pkt srcId senderIdx) := by
  have resent :=
    @resendLargeDataChunk_same env s srcId pkt.pageIndex pkt.chunkIndex
      senderIdx
  unfold continueTransfer
  split
  · exact .refl s
  · exact .refl s
  all_goals
    split
    · split
      · exact restartTransfer_same senderIdx
      · split
        · split
          · next after errno same =>
            rw [same] at resent
            exact resent.trans (.setSender _ _)
          · next after same =>
            rw [same] at resent
            exact resent.trans (advanceTransfer_same srcId senderIdx)
        · exact advanceTransfer_same srcId senderIdx
    · exact .refl s

/-- What the answer to a chunk can do: nothing, remove its tracker entry only,
finish the transfer, or go on with it. -/
inductive ChunkAckTaken (env : Env) (s : LdPlane) (pkt : LargeDataChunkAck)
    (srcId : UInt16) : LdPlane → Prop
  | ignored : ChunkAckTaken env s pkt srcId s
  | untracked :
      ChunkAckTaken env s pkt srcId (s.put (.untrack pkt.hdr.trackingId))
  | finishes {senderIdx : Fin ldSenderSlotCount}
      (found : s.findSenderSlot pkt.genDeviceId pkt.dataId = some senderIdx)
      (last : isLastChunk (s.senders senderIdx) pkt = true) :
      ChunkAckTaken env s pkt srcId
        ((s.put (.untrack pkt.hdr.trackingId)).finishTransfer env senderIdx)
  | continues {senderIdx : Fin ldSenderSlotCount}
      (accepted : env.accepts pkt.hdr = true)
      (found : s.findSenderSlot pkt.genDeviceId pkt.dataId = some senderIdx)
      (from_ : (s.senders senderIdx).dstId = srcId)
      (going : isLastChunk (s.senders senderIdx) pkt = false) :
      ChunkAckTaken env s pkt srcId
        ((s.put (.untrack pkt.hdr.trackingId)).continueTransfer env pkt srcId
          senderIdx)

theorem handleLargeDataChunkAck_taken
    {pkt : LargeDataChunkAck} {srcId : UInt16}
    (handled : s.handleLargeDataChunkAck env pkt srcId = .ok s') :
    ChunkAckTaken env s pkt srcId s' := by
  unfold handleLargeDataChunkAck at handled
  split at handled
  · cases handled
    exact .ignored
  · next accepted =>
    have accepted : env.accepts pkt.hdr = true := by simpa using accepted
    dsimp only at handled
    rw [findSenderSlot_put] at handled
    split at handled
    · cases handled
    · next senderIdx sender =>
      have found := senderIndex_ok sender
      split at handled
      · cases handled
        exact .untracked
      · next mine =>
        simp only [not_or, not_not] at mine
        split at handled
        · next last =>
          cases handled
          exact .finishes found last
        · next going =>
          cases handled
          exact .continues accepted found mine.2.1
            (Bool.eq_false_iff.mpr going)

theorem handleLargeDataChunkAck_same
    {pkt : LargeDataChunkAck} {srcId : UInt16}
    (handled : s.handleLargeDataChunkAck env pkt srcId = .ok s') :
    SameStore s s' := by
  have untracked : SameStore s (s.put (.untrack pkt.hdr.trackingId)) :=
    .put _
  cases handleLargeDataChunkAck_taken handled with
  | ignored => exact .refl s
  | untracked => exact untracked
  | finishes => exact untracked.trans (finishTransfer_same _)
  | continues => exact untracked.trans (continueTransfer_same _ _ _)

end Acknowledgements

section Receiving

/-- What `validate_large_data_slot` can do: take a free slot and its pages, or
change nothing. -/
inductive Validated (env : Env) (s : LdPlane) (pkt : LargeDataInit) :
    LdPlane → UInt8 → Prop
  | busy (busy : s.ldBusy = true) : Validated env s pkt s statusBusy
  | complete {idx : Fin ldReceiverSlotCount}
      (found : s.findLargeDataSlot pkt.genDeviceId pkt.dataId = some idx)
      (ready : (s.slots idx).upstreamReady = true) :
      Validated env s pkt s statusComplete
  | known {idx : Fin ldReceiverSlotCount}
      (found : s.findLargeDataSlot pkt.genDeviceId pkt.dataId = some idx)
      (open_ : (s.slots idx).upstreamReady = false) :
      Validated env s pkt s statusAlreadyExists
  | full (missing : s.findLargeDataSlot pkt.genDeviceId pkt.dataId = none)
      (none_ : s.allocLargeDataSlot pkt.totalSize = none) :
      Validated env s pkt s statusResourceUnavailable
  | taken {idx : Fin ldReceiverSlotCount} {range : PageRange}
      (idle : s.ldBusy = false)
      (missing : s.findLargeDataSlot pkt.genDeviceId pkt.dataId = none)
      (free : s.freeSlot = some idx)
      (fits : s.findPages pkt.totalSize = some range) :
      Validated env s pkt
        { s with
          slots := Function.update s.slots idx
            (acceptedSlot env (allocatedSlot (s.slots idx) range) pkt)
          isLdSlotEmpty := PageMap.mark s.isLdSlotEmpty range false
          ldBusy := true } statusSuccess

theorem validateLargeDataSlot_validated {pkt : LargeDataInit} {status : UInt8}
    (validated : s.validateLargeDataSlot env pkt = (s', status)) :
    Validated env s pkt s' status := by
  unfold validateLargeDataSlot at validated
  split at validated
  · next busy =>
    cases validated
    exact .busy busy
  · next idle =>
    have idle : s.ldBusy = false := by simpa using idle
    split at validated
    · next idx found =>
      split at validated
      · next ready =>
        cases validated
        exact .complete found ready
      · next open_ =>
        cases validated
        exact .known found (by simpa using open_)
    · next missing =>
      split at validated
      · next none_ =>
        cases validated
        exact .full missing none_
      · next after idx allocated =>
        obtain ⟨range, free, fits, rfl⟩ := allocLargeDataSlot_some allocated
        cases validated
        simpa [setSlot] using Validated.taken idle missing free fits

theorem Validated.io {pkt : LargeDataInit} {status : UInt8}
    (validated : Validated env s pkt s' status) : s'.io = s.io := by
  cases validated <;> rfl

theorem validateLargeDataSlot_io (env : Env) (pkt : LargeDataInit) :
    (s.validateLargeDataSlot env pkt).1.io = s.io :=
  (validateLargeDataSlot_validated rfl).io

/-- A receiver of blobs takes the packet from downstream. -/
structure Hears (env : Env) (pkt : LargeDataInit) : Prop where
  role : env.deviceType = .gateway ∨ env.deviceType = .anchor
  accepted : env.accepts pkt.hdr = true
  below : isDownstreamType pkt.hdr.deviceType = true

/-- The sizes pass the checks of `handle_large_data_init`. -/
def WellSized (pkt : LargeDataInit) : Prop :=
  ¬ (pkt.totalSize = 0 ∨ ldMaxTransferSize < pkt.totalSize.toNat ∨
    pkt.pageCount = 0 ∨ pkt.lastChunkSize = 0 ∨
      ldChunkSize < pkt.lastChunkSize.toNat)

/-- An announcement that gets as far as `validate_large_data_slot`. -/
structure Considers (env : Env) (pkt : LargeDataInit) : Prop
    extends Hears env pkt where
  sizes : WellSized pkt

/-- The answer to an announcement. -/
def initAnswer (env : Env) (pkt : LargeDataInit) (srcId : UInt16)
    (status : UInt8) : Action :=
  .reply (.largeDataInitAck
    { hdr := env.replyHeader status srcId packetPriorityHigh
        pkt.hdr.trackingId
      genDeviceId := pkt.genDeviceId
      dataId := pkt.dataId })

/-- What an announcement can do. -/
inductive InitTaken (env : Env) (s : LdPlane) (pkt : LargeDataInit)
    (srcId : UInt16) : LdPlane → Prop
  | ignored (other : ¬ Hears env pkt) : InitTaken env s pkt srcId s
  | malformed (sizes : ¬ WellSized pkt) :
      InitTaken env s pkt srcId
        (s.put (initAnswer env pkt srcId statusInvalidParameter))
  | answered {t : LdPlane} {status : UInt8} (considers : Considers env pkt)
      (validated : s.validateLargeDataSlot env pkt = (t, status)) :
      InitTaken env s pkt srcId (t.put (initAnswer env pkt srcId status))

theorem handleLargeDataInit_taken {pkt : LargeDataInit} {srcId : UInt16}
    (handled : s.handleLargeDataInit env pkt srcId = s') :
    InitTaken env s pkt srcId s' := by
  subst handled
  unfold handleLargeDataInit
  dsimp only
  split
  · next rejected =>
    exact .ignored fun hears => by simp [hears.accepted] at rejected
  · next accepted =>
    have accepted : env.accepts pkt.hdr = true := by simpa using accepted
    split
    · next sizes => exact .malformed (not_not.mpr sizes)
    · next sizes =>
      split
      · next role =>
        split
        · next below =>
          exact .answered ⟨⟨.inl role, accepted, below⟩, sizes⟩ rfl
        · next other => exact .ignored fun hears => other hears.below
      · next role =>
        split
        · next below =>
          exact .answered ⟨⟨.inr role, accepted, below⟩, sizes⟩ rfl
        · next other => exact .ignored fun hears => other hears.below
      · next role =>
        exact .ignored fun hears => by simpa [role] using hears.role
      · next role =>
        exact .ignored fun hears => by simpa [role] using hears.role

theorem handleLargeDataInit_answer {pkt : LargeDataInit} {srcId : UInt16}
    (considers : Considers env pkt) :
    s.handleLargeDataInit env pkt srcId =
      (s.validateLargeDataSlot env pkt).1.put
        (initAnswer env pkt srcId (s.validateLargeDataSlot env pkt).2) := by
  generalize handled : s.handleLargeDataInit env pkt srcId = t
  cases handleLargeDataInit_taken handled with
  | ignored other => exact absurd considers.toHears other
  | malformed sizes => exact absurd considers.sizes sizes
  | answered _ validated => rw [validated]

theorem handleLargeDataInit_moves
    (pkt : LargeDataInit) (srcId : UInt16)
    (received : event = .largeDataInit pkt srcId) :
    LdMoves env event s (s.handleLargeDataInit env pkt srcId) := by
  generalize handled : s.handleLargeDataInit env pkt srcId = t
  cases handleLargeDataInit_taken handled with
  | ignored => exact .refl
  | malformed => exact (SameStore.put _).moves
  | answered considers validated =>
      have sizes := considers.sizes
      simp only [WellSized, not_or, Nat.not_lt, ← UInt32.toNat_inj,
        ← UInt16.toNat_inj, ← UInt8.toNat_inj] at sizes
      have zero32 : (0 : UInt32).toNat = 0 := rfl
      have zero16 : (0 : UInt16).toNat = 0 := rfl
      have zero8 : (0 : UInt8).toNat = 0 := rfl
      have init : LdAcceptedInit env event pkt :=
        { role := considers.role
          received := ⟨srcId, received⟩
          totalSize := by omega
          pageCount := by omega
          lastChunkSize := by omega }
      refine Relation.ReflTransGen.trans ?_ (SameStore.put _).moves
      cases validateLargeDataSlot_validated validated with
      | taken idle missing free fits =>
          exact .single (.accepted init idle missing free fits)
      | _ => exact .refl

/-- What handling one chunk amounts to: at most one move that is not quiet. -/
def ChunkOutcome (env : Env) (event : LdEvent) (s s' : LdPlane) : Prop :=
  ∃ middle, (middle = s ∨ LdMove env event s middle) ∧ SameStore middle s'

theorem ChunkOutcome.refl : ChunkOutcome env event s s :=
  ⟨s, .inl rfl, .refl s⟩

theorem ChunkOutcome.moves (outcome : ChunkOutcome env event s s') :
    LdMoves env event s s' := by
  obtain ⟨middle, first, same⟩ := outcome
  rcases first with rfl | move
  · exact same.moves
  · exact (Relation.ReflTransGen.single move).trans same.moves

/-- The checksum loop reads the blob and leaves the store alone. -/
theorem verifyCrc32_spec (idx : Fin ldReceiverSlotCount) :
    (∃ psram, (s.verifyCrc32 env idx).1 =
        { s with io := { s.io with psram := psram } } ∧
          psram.mem = s.io.psram.mem) ∧
      ((s.verifyCrc32 env idx).2 = true →
        0 < (s.slots idx).totalSize.toNat →
          env.crc.ieee (slice s.io.psram.mem (s.slots idx).baseAddr.toNat
            (s.slots idx).totalSize.toNat) = (s.slots idx).crc32) := by
  have stage : 0 < ldCrcVerifyStageSize := by decide
  have spec (positive : 0 < (s.slots idx).totalSize.toNat) :=
    Psram.stagedCrc_spec env.crc stage s.io.psram
      (s.slots idx).baseAddr.toNat positive (Nat.le_refl _)
  have unchanged :
      (Psram.stagedCrc env.crc ldCrcVerifyStageSize
        (s.slots idx).totalSize.toNat true 0 s.io.psram
        (s.slots idx).baseAddr.toNat (s.slots idx).totalSize.toNat).1.mem =
          s.io.psram.mem := by
    rcases Nat.eq_zero_or_pos (s.slots idx).totalSize.toNat with
      empty | positive
    · rw [empty]
      rfl
    · exact (spec positive).1
  unfold verifyCrc32
  dsimp only
  split
  · next psram errno same =>
    rw [same] at unchanged
    exact ⟨⟨psram, rfl, unchanged⟩, fun verified => by cases verified⟩
  · next psram crc same =>
    rw [same] at unchanged
    refine ⟨⟨psram, rfl, unchanged⟩, ?_⟩
    intro verified positive
    have computed := (spec positive).2 crc (by rw [same])
    rw [← computed]
    simpa using verified

theorem completeSlot_outcome
    {idx : Fin ldReceiverSlotCount} {bit : Fin ldBitmapBits}
    {pkt : LargeDataChunk} {io : Io} {srcId : UInt16}
    (role : env.deviceType = .gateway ∨ env.deviceType = .anchor)
    (received : event = .largeDataChunk pkt srcId)
    (storable : LdStorableChunk s idx bit pkt)
    (mem : io.psram.mem = splice s.io.psram.mem
      (ldChunkAddr (s.slots idx) bit) (ldChunkBytes (s.slots idx) bit pkt))
    (full : (s.slots idx).totalChunks ≤ (s.slots idx).receivedCount + 1) :
    ChunkOutcome env event s
      (completeSlot ({ s with io := io }.setSlot idx
        (storedSlot env (s.slots idx) bit)) env idx).1 := by
  obtain ⟨⟨psram, after, unchanged⟩, checksum⟩ :=
    @verifyCrc32_spec env
      ({ s with io := io }.setSlot idx (storedSlot env (s.slots idx) bit)) idx
  unfold completeSlot
  split
  · next verified same =>
    rw [same] at after
    have move : LdMove env event s _ :=
      .rejected role received storable mem full
    refine ⟨_, .inr move, ?_⟩
    dsimp only at after
    rw [after]
    exact .ofSlots rfl rfl rfl unchanged
  · next verified same =>
    rw [same] at after checksum
    have stored :
        0 < (s.slots idx).totalSize.toNat →
          env.crc.ieee (slice io.psram.mem (s.slots idx).baseAddr.toNat
            (s.slots idx).totalSize.toNat) = (s.slots idx).crc32 := by
      simpa [setSlot, storedSlot] using checksum rfl
    have move : LdMove env event s _ :=
      .completed role received storable mem full stored
    refine ⟨_, .inr move, ?_⟩
    dsimp only at after
    rw [after]
    refine .ofSlots ?_ rfl rfl unchanged
    simp [setSlot]

theorem validateLargeDataChunk_outcome
    {pkt : LargeDataChunk} {srcId : UInt16} {status : UInt8}
    (role : env.deviceType = .gateway ∨ env.deviceType = .anchor)
    (received : event = .largeDataChunk pkt srcId)
    (accepted : s.validateLargeDataChunk env pkt = .ok (s', status)) :
    ChunkOutcome env event s s' := by
  unfold validateLargeDataChunk at accepted
  split at accepted
  · cases accepted
    exact .refl
  · next idx found =>
    dsimp only at accepted
    split at accepted
    · cases accepted
      exact .refl
    · next inRange =>
      simp only [not_or, UInt8.not_le, Nat.not_le] at inRange
      obtain ⟨page, chunk, below⟩ := inRange
      split at accepted
      · cases accepted
      · next bit inside =>
        have linear : linearIndex pkt.pageIndex pkt.chunkIndex = bit.val := by
          unfold bitIndex at inside
          split at inside
          · simp only [Except.ok.injEq] at inside
            exact congrArg Fin.val inside
          · cases inside
        rw [linear] at below accepted
        split at accepted
        · cases accepted
          exact .refl
        · next missing =>
          have storable : LdStorableChunk s idx bit pkt :=
            { found := found
              linear := linear
              page := page
              chunk := chunk
              below := below
              missing := by simpa using missing }
          split at accepted
          · next io errno wrote =>
            cases accepted
            obtain ⟨written, mem⟩ := Io.write_failed wrote
            have move : LdMove env event s { s with io := io } :=
              .storeFailed role received storable mem
            exact ⟨_, .inr move, .refl _⟩
          · next io wrote =>
            have mem := Io.write_stored wrote
            split at accepted
            · next full =>
              simp only [Except.ok.injEq] at accepted
              have outcome :=
                completeSlot_outcome role received storable mem full
              rw [accepted] at outcome
              exact outcome
            · next partly =>
              cases accepted
              have move : LdMove env event s _ :=
                .stored role received storable mem partly
              exact ⟨_, .inr move, .refl _⟩

theorem handleLargeDataChunk_outcome
    {pkt : LargeDataChunk} {srcId : UInt16}
    (received : event = .largeDataChunk pkt srcId)
    (handled : s.handleLargeDataChunk env pkt srcId = .ok s') :
    ChunkOutcome env event s s' := by
  have answered
      (role : env.deviceType = .gateway ∨ env.deviceType = .anchor)
      {after : LdPlane} {status : UInt8}
      (accepted : s.validateLargeDataChunk env pkt = .ok (after, status))
      (action : Action) : ChunkOutcome env event s (after.put action) := by
    obtain ⟨middle, first, same⟩ :=
      validateLargeDataChunk_outcome role received accepted
    exact ⟨middle, first, same.trans (.put action)⟩
  unfold handleLargeDataChunk at handled
  split at handled
  · cases handled
    exact .refl
  · split at handled
    · next role =>
      split at handled
      · split at handled
        · cases handled
        · next after status accepted =>
          cases handled
          exact answered (.inl role) accepted _
      · cases handled
        exact .refl
    · next role =>
      split at handled
      · split at handled
        · cases handled
        · next after status accepted =>
          cases handled
          exact answered (.inr role) accepted _
      · cases handled
        exact .refl
    · cases handled
      exact .refl
    · cases handled
      exact .refl

end Receiving

section Ticks

theorem sendAtLargeDataInit_moves
    {senderIdx : Fin ldSenderSlotCount} {idx : Fin ldReceiverSlotCount}
    {written : Bool} (ticked : event = .tick)
    (role : env.deviceType = .gateway)
    (ready : (s.slots idx).active = true ∧ (s.slots idx).upstreamReady = true)
    (gen : (s.senders senderIdx).genDeviceId = (s.slots idx).genDeviceId)
    (id : (s.senders senderIdx).dataId = (s.slots idx).dataId)
    (sent : s.sendAtLargeDataInit env senderIdx idx = .ok (s', written)) :
    LdMoves env event s s' := by
  unfold sendAtLargeDataInit at sent
  dsimp only at sent
  split at sent
  · next unknown =>
    split at sent
    · cases sent
      exact .refl
    · next found search =>
      cases sent
      obtain ⟨active, foundGen, foundId⟩ := findLargeDataSlot_some search
      refine .single (.freed ticked active ⟨idx, ready.1, ready.2,
        (foundGen.trans gen).symm, (foundId.trans id).symm⟩ ?_)
      exact .unknown role unknown.1 (by rw [foundGen]; exact unknown.2)
  · split at sent
    · cases sent
    · cases sent
      exact (SameStore.sendLine _).moves

theorem gatewayLoop_moves
    (received : event = .tick) (role : env.deviceType = .gateway)
    (senders : List (Fin ldSenderSlotCount)) {s s' : LdPlane}
    (ticked : gatewayLoop env senders s = .ok s') :
    LdMoves env event s s' := by
  induction senders generalizing s with
  | nil =>
      cases ticked
      exact .refl
  | cons senderIdx rest inductionHypothesis =>
      unfold gatewayLoop at ticked
      split at ticked
      · cases ticked
        exact .refl
      · split at ticked
        · cases ticked
          exact .refl
        · next idx pending =>
          dsimp only at ticked
          obtain ⟨active, ready, _⟩ := findPending_some pending
          have prepared : LdMoves env event s
              (s.setSender senderIdx
                (gatewaySender (s.senders senderIdx) (s.slots idx))) :=
            (SameStore.setSender _ _).moves
          have moved {after : LdPlane} {written : Bool}
              (sent : (s.setSender senderIdx
                (gatewaySender (s.senders senderIdx)
                  (s.slots idx))).sendAtLargeDataInit env senderIdx idx =
                    .ok (after, written)) : LdMoves env event s after := by
            apply prepared.trans
            exact sendAtLargeDataInit_moves received role ⟨active, ready⟩
              (by simp [setSender, gatewaySender])
              (by simp [setSender, gatewaySender]) sent
          split at ticked
          · cases ticked
          · next after sent =>
            cases ticked
            exact (moved sent).trans (SameStore.setSender _ _).moves
          · next after sent =>
            have flagged : LdMoves env event after
                (after.setSlot idx { after.slots idx with isSent := true }) :=
              (SameStore.setSent idx true).moves
            exact ((moved sent).trans flagged).trans
              (inductionHypothesis ticked)

theorem expireSender_same
    (retry : Bool) (senderIdx : Fin ldSenderSlotCount) :
    SameStore s (s.expireSender env retry senderIdx) := by
  unfold expireSender
  dsimp only
  split
  · split
    · exact .setSender _ _
    · split
      · exact (SameStore.setSent _ false).trans (.setSender _ _)
      · exact .setSender _ _
  · exact .refl s

theorem startSender_same
    (senderIdx : Fin ldSenderSlotCount) (idx : Fin ldReceiverSlotCount) :
    SameStore s (s.startSender env senderIdx idx) := by
  unfold startSender sendLargeDataInit
  exact ((SameStore.setSender _ _).trans (.put _)).trans (.setSlot rfl)

theorem senderLoop_moves
    (received : event = .tick) (role : env.deviceType ≠ .gateway)
    (retry : Bool) :
    ∀ (senders : List (Fin ldSenderSlotCount)) (s : LdPlane),
      LdMoves env event s (senderLoop env retry senders s)
  | [], s => .refl
  | senderIdx :: rest, s => by
      unfold senderLoop
      split
      · exact (expireSender_same retry senderIdx).moves.trans
          (senderLoop_moves received role retry rest _)
      · split
        · exact .refl
        · next idx pending =>
          split
          · next details =>
            obtain ⟨active, ready, _⟩ := findPending_some pending
            exact .single (.freed received active
              ⟨idx, active, ready, rfl, rfl⟩ (.invalid role details))
          · exact (startSender_same senderIdx idx).moves.trans
              (senderLoop_moves received role retry rest _)

theorem largeDataTick_moves
    (received : event = .tick) (ticked : s.largeDataTick env = .ok s') :
    LdMoves env event s s' := by
  unfold largeDataTick at ticked
  split at ticked
  · next role => exact gatewayLoop_moves received role _ ticked
  · next role =>
    cases ticked
    exact senderLoop_moves received (by simp [role]) _ _ _
  · next role =>
    cases ticked
    exact senderLoop_moves received (by simp [role]) _ _ _
  · cases ticked
    exact .refl

end Ticks

section Host

/-- What an announcement of the host amounts to: one move and an answer. -/
theorem cmdLdInit_outcome
    {args : List Char} (received : event = .cmdLdInit args) :
    ChunkOutcome env event s (s.cmdLdInit env args) := by
  have answered (text : AtLine) :
      ChunkOutcome env event s (s.sendLine text) :=
    ⟨s, .inl rfl, .sendLine text⟩
  unfold cmdLdInit
  split
  · exact answered _
  · next role =>
    split
    · exact answered _
    · split
      · exact answered _
      · next command parsed =>
        split
        · exact answered _
        · split
          · exact answered _
          · split
            · exact answered _
            · next inRange =>
              split
              · exact answered _
              · next missing =>
                split
                · exact answered _
                · next after idx allocated =>
                  obtain ⟨range, free, fits, rfl⟩ :=
                    allocLargeDataSlot_some allocated
                  have accepted : LdAcceptedCommand env event command :=
                    { role := not_not.mp role
                      received := ⟨args, received, parsed⟩
                      inRange := by simpa using inRange }
                  have move : LdMove env event s _ :=
                    .hostAllocated accepted missing free fits
                  refine ⟨_, .inr move, ?_⟩
                  simp only [setSlot, Function.update_idem,
                    Function.update_self]
                  exact (SameStore.sendLine _).trans (.sendLine _)

/-- What staging one payload amounts to: one move and an answer. -/
theorem stageChunk_outcome
    {idx : Fin ldReceiverSlotCount} {linear : Nat} {payload : List UInt8}
    (stageable : LdStageable env event s idx linear payload) :
    ChunkOutcome env event s (s.stageChunk env idx linear payload) := by
  unfold stageChunk
  dsimp only
  split
  · next io errno wrote =>
    obtain ⟨written, mem⟩ := Io.write_failed wrote
    have move : LdMove env event s _ := .hostLost stageable mem
    exact ⟨_, .inr move, .sendLine _⟩
  · next io wrote =>
    have mem := Io.write_stored wrote
    split
    · next full =>
      obtain ⟨⟨psram, after, unchanged⟩, checksum⟩ :=
        @verifyCrc32_spec env
          ({ s with io := io }.setSlot idx ((s.slots idx).staged env)) idx
      unfold LdSlot.staged at after checksum
      split
      · next verified same =>
        rw [same] at after
        have move : LdMove env event s _ := .hostRejected stageable mem full
        refine ⟨_, .inr move, SameStore.trans ?_ (.sendLine _)⟩
        dsimp only at after
        rw [after]
        exact .ofSlots rfl rfl rfl unchanged
      · next verified same =>
        rw [same] at after checksum
        have stored :
            0 < (s.slots idx).totalSize.toNat →
              env.crc.ieee (slice io.psram.mem (s.slots idx).baseAddr.toNat
                (s.slots idx).totalSize.toNat) = (s.slots idx).crc32 := by
          simpa [setSlot] using checksum rfl
        have move : LdMove env event s _ :=
          .hostCompleted stageable mem full stored
        refine ⟨_, .inr move, SameStore.trans ?_ (.sendLine _)⟩
        dsimp only at after
        rw [after]
        refine .ofSlots ?_ rfl rfl unchanged
        simp [setSlot, LdSlot.staged]
    · next partly =>
      have move : LdMove env event s _ := .hostStored stageable mem partly
      exact ⟨_, .inr move, .sendLine _⟩

theorem cmdLdChunk_outcome
    {args : List Char} (received : event = .cmdLdChunk args) :
    ChunkOutcome env event s (s.cmdLdChunk env args) := by
  have answered (text : AtLine) :
      ChunkOutcome env event s (s.sendLine text) :=
    ⟨s, .inl rfl, .sendLine text⟩
  unfold cmdLdChunk
  split
  · exact answered _
  · next role =>
    split
    · exact answered _
    · next command parsed =>
      split
      · exact answered _
      · split
        · exact answered _
        · split
          · exact answered _
          · split
            · exact answered _
            · next idx found =>
              dsimp only
              split
              · exact answered _
              · next inRange =>
                split
                · exact answered _
                · next size =>
                  split
                  · exact answered _
                  · next pending =>
                    exact stageChunk_outcome
                      { role := not_not.mp role
                        received := ⟨args, received⟩
                        active := (findLargeDataSlot_some found).1
                        below := Nat.not_le.mp inRange
                        size := not_not.mp size
                        pending := Nat.not_lt.mp pending }

theorem atSendNextChunk_same
    (senderIdx : Fin ldSenderSlotCount) (page chunk : Nat) :
    SameStore s (s.atSendNextChunk senderIdx page chunk) := by
  unfold atSendNextChunk
  dsimp only
  split
  · exact .refl s
  · split
    · next io errno same => exact .read same
    · next io payload same => exact (SameStore.read same).trans (.sendLine _)

theorem cmdLdInitAck_same (args : List Char) :
    SameStore s (s.cmdLdInitAck env args).1 := by
  unfold cmdLdInitAck
  split
  · dsimp only
    split
    · exact .refl s
    · split
      · exact .refl s
      · split
        · exact .ofSlots rfl rfl rfl rfl
        · exact .ofSlots rfl rfl rfl rfl
  · exact .refl s

theorem cmdLdInitReady_same : SameStore s s.cmdLdInitReady := by
  unfold cmdLdInitReady
  split
  · exact .refl s
  · exact atSendNextChunk_same _ _ _

theorem cmdLdChunkReady_same (ready : s.cmdLdChunkReady = .ok s') :
    SameStore s s' := by
  unfold cmdLdChunkReady at ready
  split at ready
  · cases ready
  · dsimp only at ready
    split at ready
    · split at ready
      · cases ready
        exact .setSender _ _
      · cases ready
        exact (SameStore.setSender _ _).trans (.setSlot rfl)
    · cases ready
      exact (SameStore.setSender _ _).trans (atSendNextChunk_same _ _ _)

end Host

/-- Every event of a run is a sequence of moves. -/
theorem step_moves
    (allowed : s.Elsewhere event) (stepped : s.step env event = .ok s') :
    LdMoves env event s.clearOut s' := by
  cases event with
  | largeDataInit pkt srcId =>
      cases stepped
      exact handleLargeDataInit_moves pkt srcId rfl
  | largeDataInitAck pkt srcId =>
      exact handleLargeDataInitAck_moves rfl stepped
  | largeDataChunk pkt srcId =>
      exact (handleLargeDataChunk_outcome rfl stepped).moves
  | largeDataChunkAck pkt srcId =>
      exact (handleLargeDataChunkAck_same stepped).moves
  | tick => exact largeDataTick_moves rfl stepped
  | cmdLdInit args =>
      cases stepped
      exact (cmdLdInit_outcome rfl).moves
  | cmdLdChunk args =>
      cases stepped
      exact (cmdLdChunk_outcome rfl).moves
  | cmdLdInitAck args =>
      cases stepped
      exact (cmdLdInitAck_same args).moves
  | cmdLdInitReady =>
      cases stepped
      exact cmdLdInitReady_same.moves
  | cmdLdChunkAck args =>
      obtain ⟨_, -, rfl⟩ := exists_of_map_ok stepped
      exact .refl
  | cmdLdChunkReady => exact (cmdLdChunkReady_same stepped).moves
  | restart =>
      cases stepped
      exact .single (.restarted rfl)
  | elsewhere psram uart =>
      cases stepped
      exact .single (.elsewhere rfl rfl rfl rfl allowed)

end LdPlane

end DectMesh
