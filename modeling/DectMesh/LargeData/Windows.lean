import DectMesh.LargeData.Sending
import DectMesh.LargeData.Steady

/-!
# The windows of a transfer

`send_next_large_data_chunk` sends four chunks at a time, and `next_chunk`
counts the acknowledgements, whatever they acknowledge.  The windows of a
transfer cover its chunks in order as long as every acknowledgement that is
counted comes after the first window, and the last chunk is acknowledged after
the window it is in.
-/

namespace DectMesh

open ByteStore

/-- The window number `round` of a transfer. -/
def window (total round : Nat) : List Nat :=
  List.range' (4 * round) (min 4 (total - 4 * round))

namespace LdPlane

variable (s : LdPlane)

/-- The size of chunk `linear` of a slot. -/
def slotChunkSize (slot : LdSlot) (linear : Nat) : Nat :=
  if linear + 1 = slot.totalChunks.toNat then
    slot.lastChunkSize.toNat
  else
    ldChunkSize

/-- The packet carries a chunk of the slot it names, out of its pages. -/
def Carries (pkt : LargeDataChunk) : Prop :=
  ∃ idx, (s.slots idx).active = true ∧ (s.slots idx).upstreamReady = true ∧
    (s.slots idx).genDeviceId = pkt.genDeviceId ∧
    (s.slots idx).dataId = pkt.dataId ∧
    pkt.linear < (s.slots idx).totalChunks.toNat ∧
    pkt.data = Buffer.ofData sendLargeDataMax
      (slice s.io.psram.mem
        ((s.slots idx).baseAddr.toNat + pkt.linear * ldChunkSize)
        (slotChunkSize (s.slots idx) pkt.linear))

end LdPlane

/-- A board, and what the transfer in progress has sent: its windows, and the
chunks that a repeated `LARGE_DATA_INIT_ACK` made it send again. -/
structure TransferLog where
  plane : LdPlane
  windows : List (List Nat)
  restarted : List Nat

namespace TransferLog

def boot (io : Io) : TransferLog where
  plane := .boot io
  windows := []
  restarted := []

/-- A window that is not empty is one more window. -/
def grow (windows : List (List Nat)) (sent : List Nat) : List (List Nat) :=
  if sent = [] then windows else windows ++ [sent]

variable (log : TransferLog)

/-- The chunks sent so far, those aside that were asked for again. -/
def sent : List Nat := log.windows.flatten ++ log.restarted

/-- What is sent in an event.  The first window answers a
`LARGE_DATA_INIT_ACK`; later ones that do so start again where the transfer
is.  A chunk that a `LARGE_DATA_CHUNK_ACK` asks for again precedes the
window. -/
def record (event : LdEvent) (chunks : List Nat) :
    List (List Nat) × List Nat :=
  if ∃ i, (log.plane.senders i).active = true then
    match event with
    | .largeDataInitAck _ _ =>
        if log.windows = [] then
          (grow [] chunks, log.restarted)
        else
          (log.windows, log.restarted ++ chunks)
    | .largeDataChunkAck pkt _ =>
        (grow log.windows
          (if LdPlane.AsksAgain pkt then chunks.drop 1 else chunks),
          log.restarted)
    | _ => (log.windows, log.restarted)
  else
    ([], [])

def step (event : Env × LdEvent) : Except Fault TransferLog :=
  (ldStep log.plane event).map fun plane =>
    let recorded := log.record event.2
      ((chunkPackets plane.io.out).map LargeDataChunk.linear)
    { plane := plane, windows := recorded.1, restarted := recorded.2 }

end TransferLog

/-- What an acknowledgement that reaches its transfer has to observe. -/
structure AckInTurn (log : TransferLog) (i : Fin ldSenderSlotCount)
    (pkt : LargeDataChunkAck) : Prop where
  last : LdPlane.isLastChunk (log.plane.senders i) pkt = true →
    (log.plane.senders i).totalChunks.toNat - 1 ∈ log.sent
  counted : LdPlane.isLastChunk (log.plane.senders i) pkt = false →
    isUpstreamType pkt.hdr.deviceType = true →
      ¬ LdPlane.AsksRestart pkt →
        log.windows ≠ [] ∧ (log.plane.senders i).nextChunk ≠ 0xFFFF ∧
          (LdPlane.AsksAgain pkt →
            LdPlane.linearIndex pkt.pageIndex pkt.chunkIndex <
              (log.plane.senders i).totalChunks.toNat)

/-- The events of a board that hands nothing over to a host, and initialises
its tables between the transfers only. -/
def Undisturbed (log : TransferLog) (event : Env × LdEvent) : Prop :=
  match event.2 with
  | .largeDataChunkAck pkt srcId =>
      ∀ i, log.plane.Reaches event.1 pkt srcId i → AckInTurn log i pkt
  | .restart => ∀ i, (log.plane.senders i).active = false
  | .cmdLdInitAck _ | .cmdLdInitReady | .cmdLdChunkAck _ | .cmdLdChunkReady =>
      False
  | _ => True

def AcksInTurn (board : Board) (log : TransferLog) (event : Env × LdEvent) :
    Prop :=
  LdOnBoard board log.plane event ∧ Undisturbed log event

section Blocks

variable {total count linear next : Nat} {windows : List (List Nat)}
variable {restarted sent : List Nat}

theorem mem_window {round : Nat} :
    linear ∈ window total round ↔
      4 * round ≤ linear ∧ linear < 4 * round + 4 ∧ linear < total := by
  unfold window
  rw [List.mem_range'_1]
  omega

theorem mem_windows :
    linear ∈ ((List.range count).map (window total)).flatten ↔
      linear < total ∧ linear / 4 < count := by
  simp only [List.mem_flatten, List.mem_map, List.mem_range]
  constructor
  · rintro ⟨block, ⟨round, below, rfl⟩, member⟩
    rw [mem_window] at member
    omega
  · rintro ⟨inside, below⟩
    refine ⟨_, ⟨linear / 4, below, rfl⟩, mem_window.mpr ?_⟩
    omega

/-- The windows of a transfer that has counted `next` acknowledgements. -/
structure InWindows (total next : Nat) (windows : List (List Nat))
    (restarted : List Nat) : Prop where
  consecutive : ∃ count, windows = (List.range count).map (window total) ∧
    (count = 0 ∧ next = 0 ∨ count = min (next / 4 + 1) ((total + 3) / 4))
  closed : ∀ linear ∈ restarted, ∀ before ≤ linear,
    before ∈ windows.flatten ++ restarted

theorem InWindows.init : InWindows total 0 [] [] where
  consecutive := ⟨0, rfl, .inl ⟨rfl, rfl⟩⟩
  closed := fun _ member => by cases member

/-- The window after those that were sent is one more of them. -/
theorem grow_windows :
    TransferLog.grow ((List.range count).map (window total))
        (window total count) =
      (List.range
        (if 4 * count < total then count + 1 else count)).map
          (window total) := by
  unfold TransferLog.grow
  by_cases more : 4 * count < total
  · have filled : window total count ≠ [] := by
      unfold window
      rw [ne_eq, List.range'_eq_nil_iff]
      omega
    rw [if_neg filled, if_pos more, List.range_succ, List.map_append]
    rfl
  · have empty : window total count = [] := by
      unfold window
      rw [List.range'_eq_nil_iff]
      omega
    rw [if_pos empty, if_neg more]

theorem InWindows.more (held : InWindows total next windows restarted)
    {windows' : List (List Nat)} {next' count : Nat}
    (blocks : windows' = (List.range count).map (window total))
    (counted : count = 0 ∧ next' = 0 ∨
      count = min (next' / 4 + 1) ((total + 3) / 4))
    (grown : ∀ linear ∈ windows.flatten, linear ∈ windows'.flatten) :
    InWindows total next' windows' restarted where
  consecutive := ⟨count, blocks, counted⟩
  closed := by
    intro linear member before below
    rcases List.mem_append.mp (held.closed linear member before below) with
      sent | again
    · exact List.mem_append.mpr (.inl (grown _ sent))
    · exact List.mem_append.mpr (.inr again)

theorem mem_grow (member : linear ∈ windows.flatten) :
    linear ∈ (TransferLog.grow windows sent).flatten := by
  unfold TransferLog.grow
  split
  · exact member
  · rw [List.flatten_append]
    exact List.mem_append.mpr (.inl member)

/-- The first window answers the first `LARGE_DATA_INIT_ACK`. -/
theorem InWindows.first (held : InWindows total next [] restarted)
    (which : sent = [] ∨
      sent = List.range' next (min 4 (total - next))) :
    InWindows total next (TransferLog.grow [] sent) restarted := by
  rcases which with rfl | rfl
  · exact held
  · obtain ⟨count, blocks, counted⟩ := held.consecutive
    have none : count = 0 := by
      have empty := congrArg List.length blocks
      rw [List.length_map, List.length_range] at empty
      exact empty.symm
    subst none
    by_cases zero : next = 0
    · subst zero
      have grown := @grow_windows total 0
      rw [Nat.mul_zero] at grown
      refine held.more grown (.inr ?_) fun _ member => by cases member
      split
      · omega
      · omega
    · have finished : min 4 (total - next) = 0 := by omega
      rw [finished]
      exact held

/-- A later `LARGE_DATA_INIT_ACK` starts again where the transfer is. -/
theorem InWindows.again (held : InWindows total next windows restarted)
    (started : windows ≠ [])
    (which : sent = [] ∨
      sent = List.range' next (min 4 (total - next))) :
    InWindows total next windows (restarted ++ sent) where
  consecutive := held.consecutive
  closed := by
    intro linear member before below
    rw [← List.append_assoc]
    rcases List.mem_append.mp member with earlier | now
    · exact List.mem_append.mpr (.inl (held.closed _ earlier _ below))
    · rcases which with rfl | rfl
      · cases now
      · have bounds := List.mem_range'_1.mp now
        by_cases here : next ≤ before
        · refine List.mem_append.mpr (.inr (List.mem_range'_1.mpr ?_))
          omega
        · obtain ⟨count, blocks, counted⟩ := held.consecutive
          have positive : count ≠ 0 := by
            rintro rfl
            exact started blocks
          refine List.mem_append.mpr (.inl (List.mem_append.mpr (.inl ?_)))
          rw [blocks, mem_windows]
          omega

/-- Every fourth acknowledgement that is counted sends the next window. -/
theorem InWindows.onward (held : InWindows total next windows restarted)
    (started : windows ≠ []) :
    InWindows total (next + 1)
      (TransferLog.grow windows
        (if (next + 1) % 4 = 0 then
          List.range' (next + 1) (min 4 (total - (next + 1)))
        else
          []))
      restarted := by
  obtain ⟨count, blocks, counted⟩ := held.consecutive
  have positive : count ≠ 0 := by
    rintro rfl
    exact started blocks
  have reached : count = min (next / 4 + 1) ((total + 3) / 4) := by
    rcases counted with ⟨zero, -⟩ | reached
    · exact absurd zero positive
    · exact reached
  by_cases due : (next + 1) % 4 = 0
  · rw [if_pos due]
    by_cases more : next + 1 < total
    · have place : next + 1 = 4 * count := by omega
      rw [place]
      have grown := @grow_windows total count
      rw [← blocks, if_pos (by omega)] at grown
      refine held.more grown (.inr ?_) fun _ member => mem_grow member
      omega
    · have finished : min 4 (total - (next + 1)) = 0 := by omega
      rw [finished]
      refine held.more blocks (.inr ?_) fun _ member => member
      omega
  · rw [if_neg due]
    refine held.more blocks (.inr ?_) fun _ member => member
    omega

/-- With the last chunk, every chunk was sent. -/
theorem InWindows.all (held : InWindows total next windows restarted)
    (last : total - 1 ∈ windows.flatten ++ restarted)
    (below : linear < total) : linear ∈ windows.flatten ++ restarted := by
  rcases List.mem_append.mp last with sent | again
  · obtain ⟨count, blocks, -⟩ := held.consecutive
    rw [blocks, mem_windows] at sent
    refine List.mem_append.mpr (.inl ?_)
    rw [blocks, mem_windows]
    omega
  · exact held.closed _ again linear (by omega)

end Blocks

/-- A transfer out of the slot it was started for. -/
structure LdSlot.Feeds (slot : LdSlot) (sender : LdSender) : Prop where
  active : slot.active = true
  ready : slot.upstreamReady = true
  gen : slot.genDeviceId = sender.genDeviceId
  id : slot.dataId = sender.dataId
  totalChunks : slot.totalChunks = sender.totalChunks
  lastChunkSize : slot.lastChunkSize = sender.lastChunkSize
  baseAddr : slot.baseAddr = sender.baseAddr

section Transfers

variable {env : Env} {s s' : LdPlane} {i : Fin ldSenderSlotCount}
variable {packets : List LargeDataChunk} {next : UInt16} {sent : List Nat}

theorem LdSlot.Feeds.congr {slot slot' : LdSlot} {sender : LdSender}
    (feeds : slot.Feeds sender) (same : slot'.content = slot.content)
    (timeout : NbTimeout) :
    slot'.Feeds { sender with nextChunk := next, timeout := timeout } where
  active := (congrArg LdSlot.active same :).trans feeds.active
  ready := (congrArg LdSlot.upstreamReady same :).trans feeds.ready
  gen := (congrArg LdSlot.genDeviceId same :).trans feeds.gen
  id := (congrArg LdSlot.dataId same :).trans feeds.id
  totalChunks := (congrArg LdSlot.totalChunks same :).trans feeds.totalChunks
  lastChunkSize :=
    (congrArg LdSlot.lastChunkSize same :).trans feeds.lastChunkSize
  baseAddr := (congrArg LdSlot.baseAddr same :).trans feeds.baseAddr

/-- What the sender reads for a chunk is the chunk of its slot. -/
theorem LdSlot.Feeds.slice {slot : LdSlot} {sender : LdSender} {mem : Store}
    {linear : Nat} (feeds : slot.Feeds sender)
    (below : linear < sender.totalChunks.toNat) :
    radioSlice sender mem linear =
      ByteStore.slice mem (slot.baseAddr.toNat + linear * ldChunkSize)
        (LdPlane.slotChunkSize slot linear) := by
  have full : (UInt16.ofNat ldChunkSize).toNat = ldChunkSize := by decide
  have one : (1 : UInt16).toNat = 1 := rfl
  have small := sender.totalChunks.toNat_lt
  have least : (1 : UInt16) ≤ sender.totalChunks := by
    rw [UInt16.le_iff_toNat_le]
    omega
  have position : UInt16.ofNat linear = sender.totalChunks - 1 ↔
      linear + 1 = sender.totalChunks.toNat := by
    rw [← UInt16.toNat_inj, UInt16.toNat_ofNat',
      UInt16.toNat_sub_of_le _ _ least]
    omega
  unfold radioSlice LdPlane.chunkSizeFor LdPlane.slotChunkSize
  rw [feeds.baseAddr, feeds.totalChunks, feeds.lastChunkSize]
  by_cases last : linear + 1 = sender.totalChunks.toNat
  · rw [if_pos (position.mpr last), if_pos last]
  · rw [if_neg (mt position.mp last), if_neg last, full]

/-- The sender is at work on its slot, and its windows are in order. -/
structure TransferSound (s : LdPlane) (windows : List (List Nat))
    (restarted : List Nat) (i : Fin ldSenderSlotCount) : Prop where
  feeds : ∃ idx, (s.slots idx).Feeds (s.senders i)
  windows : InWindows (s.senders i).totalChunks.toNat
    (s.senders i).nextChunk.toNat windows restarted

/-- The packets of a step of a transfer carry the chunks of its slot. -/
theorem Advances.carries (advances : Advances i s s' packets next sent)
    (quiet : chunkPackets s.io.out = [])
    (feeds : ∃ idx, (s.slots idx).Feeds (s.senders i)) :
    ∀ pkt ∈ chunkPackets s'.io.out, s'.Carries pkt := by
  intro pkt member
  rw [advances.out, quiet, List.nil_append] at member
  have here := advances.carried pkt member
  obtain ⟨idx, feeds⟩ := feeds
  have same := advances.content idx
  have there := @LdSlot.Feeds.congr 0 _ _ _ feeds same {}
  refine ⟨idx, there.active, there.ready, there.gen.trans here.gen.symm,
    there.id.trans here.id.symm, ?_, ?_⟩
  · rw [there.totalChunks]
    exact here.below
  · rw [here.data, feeds.slice here.below, advances.mem]
    have base := (congrArg LdSlot.baseAddr same :)
    have total := (congrArg LdSlot.totalChunks same :)
    have last := (congrArg LdSlot.lastChunkSize same :)
    simp only [LdSlot.content] at base total last
    unfold LdPlane.slotChunkSize
    rw [base, total, last]

/-- A step of a transfer keeps it on its slot. -/
theorem Advances.feeds (advances : Advances i s s' packets next sent)
    (feeds : ∃ idx, (s.slots idx).Feeds (s.senders i))
    (active : (s'.senders i).active = true) :
    ∃ idx, (s'.slots idx).Feeds (s'.senders i) := by
  obtain ⟨idx, feeds⟩ := feeds
  obtain ⟨⟨timeout, same⟩, -⟩ := advances.going active
  refine ⟨idx, ?_⟩
  rw [same]
  exact feeds.congr (advances.content idx) timeout

namespace LdPlane

theorem idle_notFound {gen : UInt16} {id : UInt8}
    {senderIdx : Fin ldSenderSlotCount} (idle : (s.senders i).active = false)
    (found : s.findSenderSlot gen id = some senderIdx) : False := by
  have active := (findSenderSlot_some found).1
  rw [one_sender senderIdx i, idle] at active
  cases active

/-- Without a transfer, its answers do nothing. -/
theorem handleLargeDataInitAck_idle
    {pkt : LargeDataInitAck} {srcId : UInt16}
    (idle : (s.senders i).active = false)
    (handled : s.handleLargeDataInitAck env pkt srcId = .ok s') :
    Bystander s s' := by
  cases handleLargeDataInitAck_taken handled with
  | ignored => exact .refl s
  | untracked => exact .put rfl
  | answered _ _ _ found => exact (idle_notFound idle found).elim

theorem handleLargeDataChunkAck_idle
    {pkt : LargeDataChunkAck} {srcId : UInt16}
    (idle : (s.senders i).active = false)
    (handled : s.handleLargeDataChunkAck env pkt srcId = .ok s') :
    Bystander s s' := by
  cases handleLargeDataChunkAck_taken handled with
  | ignored => exact .refl s
  | untracked => exact .put rfl
  | finishes found => exact (idle_notFound idle found).elim
  | continues _ found => exact (idle_notFound idle found).elim

theorem expireSender_advances (retry : Bool) :
    Advances i s (s.expireSender env retry i) [] (s.senders i).nextChunk [] := by
  refine .ofSame (expireSender_same retry i).slots ?_ ?_
  · unfold expireSender
    dsimp only
    split
    · split
      · rfl
      · split <;> rfl
    · rfl
  · unfold expireSender
    dsimp only
    split
    · exact fun active => by simp [setSender] at active
    · exact fun _ => ⟨_, rfl⟩

/-- A transfer that starts sends its announcement only. -/
theorem startSender_starts (idx : Fin ldReceiverSlotCount)
    (active : (s.slots idx).active = true)
    (ready : (s.slots idx).upstreamReady = true) :
    chunkPackets (s.startSender env i idx).io.out = chunkPackets s.io.out ∧
      TransferSound (s.startSender env i idx) [] [] i := by
  refine ⟨?_, ⟨idx, ?_⟩, ?_⟩
  · change chunkPackets (s.io.out ++ [_]) = _
    rw [chunkPackets_append]
    exact List.append_nil _
  · have content := (@startSender_same env s i idx).slots idx
    have sender : (s.startSender env i idx).senders i =
        senderFor env (s.slots idx) := by
      simp [startSender, setSlot, sendLargeDataInit, put, setSender]
    rw [sender]
    have here : (s.slots idx).Feeds (senderFor env (s.slots idx)) :=
      ⟨active, ready, rfl, rfl, rfl, rfl, rfl⟩
    exact here.congr content _
  · have sender : (s.startSender env i idx).senders i =
        senderFor env (s.slots idx) := by
      simp [startSender, setSlot, sendLargeDataInit, put, setSender]
    rw [sender]
    exact .init

/-- The loop of the ticks over the one sender. -/
theorem senderLoop_ticks (retry : Bool) :
    ((s.senders i).active = true ∧
      Advances i s (senderLoop env retry [i] s) [] (s.senders i).nextChunk
        []) ∨
    ((s.senders i).active = false ∧
      chunkPackets (senderLoop env retry [i] s).io.out =
        chunkPackets s.io.out ∧
      (((senderLoop env retry [i] s).senders i).active = true →
        TransferSound (senderLoop env retry [i] s) [] [] i)) := by
  simp only [senderLoop]
  cases active : (s.senders i).active with
  | true =>
      rw [if_pos rfl]
      exact .inl ⟨rfl, expireSender_advances retry⟩
  | false =>
      rw [if_neg (by simp)]
      refine .inr ⟨rfl, ?_⟩
      have still {t : LdPlane} (same : Bystander s t) :
          chunkPackets t.io.out = chunkPackets s.io.out ∧
            ((t.senders i).active = true → TransferSound t [] [] i) := by
        refine ⟨same.chunks, fun working => ?_⟩
        rw [same.senders, active] at working
        cases working
      split
      · exact still (.refl s)
      · next idx pending =>
        obtain ⟨held, ready, -⟩ := findPending_some pending
        split
        · exact still (.freed idx)
        · obtain ⟨chunks, sound⟩ := @startSender_starts env s i idx held ready
          exact ⟨chunks, fun _ => sound⟩

theorem largeDataTick_ticks
    (role : env.deviceType = .sensor ∨ env.deviceType = .anchor)
    (ticked : s.largeDataTick env = .ok s') :
    ((s.senders i).active = true ∧
      Advances i s s' [] (s.senders i).nextChunk []) ∨
    ((s.senders i).active = false ∧
      chunkPackets s'.io.out = chunkPackets s.io.out ∧
      ((s'.senders i).active = true → TransferSound s' [] [] i)) := by
  have here : (⟨0, by decide⟩ : Fin ldSenderSlotCount) = i := one_sender _ _
  have loop (retry : Bool) : senderLoop env retry
      (List.finRange ldSenderSlotCount) s = senderLoop env retry [i] s := by
    rw [← here]
    rfl
  unfold largeDataTick at ticked
  rcases role with sensor | anchor
  · rw [sensor] at ticked
    cases ticked
    unfold sensorLargeDataTick
    rw [loop]
    exact senderLoop_ticks false
  · rw [anchor] at ticked
    cases ticked
    unfold anchorLargeDataTick
    rw [loop]
    exact senderLoop_ticks true

end LdPlane

end Transfers

section Runs

variable {board : Board} {log log' : TransferLog} {event : Env × LdEvent}
variable {i : Fin ldSenderSlotCount}

theorem chunkPackets_clearOut (s : LdPlane) :
    chunkPackets s.clearOut.io.out = [] := rfl

theorem TransferLog.step_eq (moved : log.step event = .ok log') :
    ldStep log.plane event = .ok log'.plane ∧
      (log'.windows, log'.restarted) = log.record event.2
        ((chunkPackets log'.plane.io.out).map LargeDataChunk.linear) := by
  unfold TransferLog.step at moved
  cases stepped : ldStep log.plane event with
  | error fault =>
      rw [stepped] at moved
      cases moved
  | ok plane =>
      rw [stepped] at moved
      cases moved
      exact ⟨rfl, rfl⟩

/-- After a step: a transfer is in order, and what was sent carries the chunks
of its slot. -/
def KeepsTransfer (log : TransferLog) (i : Fin ldSenderSlotCount) : Prop :=
  ((log.plane.senders i).active = true →
    TransferSound log.plane log.windows log.restarted i) ∧
    ∀ pkt ∈ chunkPackets log.plane.io.out, log.plane.Carries pkt

/-- Between two transfers nothing is sent. -/
theorem keepsTransfer_idle
    (idle : (log.plane.senders i).active = false)
    (recorded : (log'.windows, log'.restarted) = log.record event.2
      ((chunkPackets log'.plane.io.out).map LargeDataChunk.linear))
    (silent : chunkPackets log'.plane.io.out = [])
    (started : (log'.plane.senders i).active = true →
      TransferSound log'.plane [] [] i) : KeepsTransfer log' i := by
  have none : ¬ ∃ j, (log.plane.senders j).active = true := by
    rintro ⟨j, active⟩
    rw [one_sender j i, idle] at active
    cases active
  unfold TransferLog.record at recorded
  rw [if_neg none, Prod.mk.injEq] at recorded
  refine ⟨fun active => ?_, fun pkt member => ?_⟩
  · rw [recorded.1, recorded.2]
    exact started active
  · rw [silent] at member
    cases member

theorem keepsTransfer_bystander
    (sound : TransferSound log.plane log.windows log.restarted i)
    (windows : log'.windows = log.windows)
    (restarted : log'.restarted = log.restarted)
    (bystander : Bystander log.plane.clearOut log'.plane)
    (stays : ∀ idx, (log.plane.slots idx).active = true →
      (log.plane.slots idx).upstreamReady = true →
        (log'.plane.slots idx).content = (log.plane.slots idx).content) :
    KeepsTransfer log' i := by
  have senders : log'.plane.senders = log.plane.senders := bystander.senders
  refine ⟨fun _ => ⟨?_, ?_⟩, fun pkt member => ?_⟩
  · obtain ⟨idx, feeds⟩ := sound.feeds
    refine ⟨idx, ?_⟩
    rw [senders]
    exact feeds.congr (stays idx feeds.active feeds.ready)
      (log.plane.senders i).timeout
  · rw [senders, windows, restarted]
    exact sound.windows
  · rw [bystander.chunks, chunkPackets_clearOut] at member
    cases member

theorem keepsTransfer_advances {packets : List LargeDataChunk}
    {next : UInt16} {sent : List Nat}
    (sound : TransferSound log.plane log.windows log.restarted i)
    (advances : Advances i log.plane.clearOut log'.plane packets next sent)
    (windows : packets.map LargeDataChunk.linear = sent →
      InWindows (log.plane.senders i).totalChunks.toNat next.toNat
        log'.windows log'.restarted) :
    KeepsTransfer log' i := by
  refine ⟨fun active => ⟨advances.feeds sound.feeds active, ?_⟩,
    advances.carries rfl sound.feeds⟩
  obtain ⟨⟨timeout, same⟩, linear⟩ := advances.going active
  rw [same]
  exact windows linear

theorem keepsTransfer_initAck {env : Env} {pkt : LargeDataInitAck}
    {srcId : UInt16} (active : (log.plane.senders i).active = true)
    (sound : TransferSound log.plane log.windows log.restarted i)
    (small : (log.plane.senders i).totalChunks.toNat ≤ 8192)
    (recorded : (log'.windows, log'.restarted) =
      log.record (.largeDataInitAck pkt srcId)
        ((chunkPackets log'.plane.io.out).map LargeDataChunk.linear))
    (handled : log.plane.clearOut.handleLargeDataInitAck env pkt srcId =
      .ok log'.plane) : KeepsTransfer log' i := by
  obtain ⟨packets, sent, which, advances⟩ :=
    @LdPlane.handleLargeDataInitAck_advances env log.plane.clearOut
      log'.plane i pkt srcId small handled
  have chunks : chunkPackets log'.plane.io.out = packets := advances.out
  refine keepsTransfer_advances sound advances fun linear => ?_
  unfold TransferLog.record at recorded
  rw [if_pos ⟨i, active⟩, chunks, linear] at recorded
  dsimp only at recorded
  by_cases first : log.windows = []
  · rw [if_pos first, Prod.mk.injEq] at recorded
    rw [recorded.1, recorded.2]
    have held := sound.windows
    rw [first] at held
    exact held.first which
  · rw [if_neg first, Prod.mk.injEq] at recorded
    rw [recorded.1, recorded.2]
    exact sound.windows.again first which

theorem drop_asked {asks : Prop} [Decidable asks] (chunk : Nat)
    (window : List Nat) :
    (if asks then
        ((if asks then [chunk] else []) ++ window).drop 1
      else
        (if asks then [chunk] else []) ++ window) = window := by
  by_cases again : asks
  · rw [if_pos again, if_pos again]
    rfl
  · rw [if_neg again, if_neg again]
    rfl

theorem keepsTransfer_chunkAck {env : Env} {pkt : LargeDataChunkAck}
    {srcId : UInt16}
    (role : env.deviceType = .sensor ∨ env.deviceType = .anchor)
    (active : (log.plane.senders i).active = true)
    (sound : TransferSound log.plane log.windows log.restarted i)
    (small : (log.plane.senders i).totalChunks.toNat ≤ 8192)
    (inTurn : ∀ j, log.plane.Reaches env pkt srcId j → AckInTurn log j pkt)
    (recorded : (log'.windows, log'.restarted) =
      log.record (.largeDataChunkAck pkt srcId)
        ((chunkPackets log'.plane.io.out).map LargeDataChunk.linear))
    (handled : log.plane.clearOut.handleLargeDataChunkAck env pkt srcId =
      .ok log'.plane) : KeepsTransfer log' i := by
  have reaches (there : log.plane.clearOut.Reaches env pkt srcId i) :
      log.plane.Reaches env pkt srcId i := by
    refine ⟨there.accepted, ?_, there.source⟩
    rw [← there.found]
    unfold LdPlane.findSenderSlot
    rfl
  unfold TransferLog.record at recorded
  rw [if_pos ⟨i, active⟩, Prod.mk.injEq] at recorded
  rcases @LdPlane.handleLargeDataChunkAck_advances env log.plane.clearOut
    log'.plane i pkt srcId role small (fun there going upstream goes asks =>
      ((inTurn i (reaches there)).counted going upstream goes).2.2 asks)
    handled with stays | counted
  · have chunks : chunkPackets log'.plane.io.out = [] := stays.out
    refine keepsTransfer_advances sound stays fun _ => ?_
    rw [recorded.1, recorded.2, chunks]
    have nothing : (if LdPlane.AsksAgain pkt then
        (([] : List LargeDataChunk).map LargeDataChunk.linear).drop 1
      else
        ([] : List LargeDataChunk).map LargeDataChunk.linear) = [] := by
      split <;> rfl
    rw [nothing]
    exact sound.windows
  · obtain ⟨there, going, upstream, goes, packets, advances⟩ := counted
    have chunks : chunkPackets log'.plane.io.out = packets := advances.out
    obtain ⟨started, more, -⟩ :=
      (inTurn i (reaches there)).counted going upstream goes
    have next : ((log.plane.senders i).nextChunk + 1).toNat =
        (log.plane.senders i).nextChunk.toNat + 1 := by
      have one : (1 : UInt16).toNat = 1 := rfl
      have bound := (log.plane.senders i).nextChunk.toNat_lt
      have last : (log.plane.senders i).nextChunk.toNat ≠ 65535 :=
        fun same => more (UInt16.toNat_inj.mp same)
      rw [UInt16.toNat_add, one]
      omega
    refine keepsTransfer_advances sound advances fun linear => ?_
    rw [recorded.1, recorded.2, chunks, linear, drop_asked]
    have window : windowFrom (log.plane.senders i)
        ((log.plane.senders i).nextChunk + 1) =
          if ((log.plane.senders i).nextChunk.toNat + 1) % 4 = 0 then
            List.range' ((log.plane.senders i).nextChunk.toNat + 1)
              (min 4 ((log.plane.senders i).totalChunks.toNat -
                ((log.plane.senders i).nextChunk.toNat + 1)))
          else
            [] := by
      unfold windowFrom
      rw [next]
    have onward := sound.windows.onward started
    rw [← window, ← next] at onward
    exact onward

/-- Every admitted step keeps the transfer of a sensor or an anchor. -/
theorem keepsTransfer_step
    (role : board.deviceType = .sensor ∨ board.deviceType = .anchor)
    (admitted : AcksInTurn board log event)
    (steady : LdSteady log.plane event log'.plane)
    (moved : ldStep log.plane event = .ok log'.plane)
    (recorded : (log'.windows, log'.restarted) = log.record event.2
      ((chunkPackets log'.plane.io.out).map LargeDataChunk.linear))
    (sound : (log.plane.senders i).active = true →
      TransferSound log.plane log.windows log.restarted i) :
    KeepsTransfer log' i := by
  obtain ⟨env, event⟩ := event
  obtain ⟨⟨rfl, -⟩, undisturbed⟩ := admitted
  have bystander (known : event ≠ .restart ∧ event ≠ .tick)
      (unrecorded : ∀ chunks,
        log.record event chunks =
          if ∃ j, (log.plane.senders j).active = true then
            (log.windows, log.restarted)
          else
            ([], []))
      (same : Bystander log.plane.clearOut log'.plane) :
      KeepsTransfer log' i := by
    have senders : log'.plane.senders = log.plane.senders := same.senders
    cases active : (log.plane.senders i).active with
    | true =>
        dsimp only at recorded
        rw [unrecorded, if_pos ⟨i, active⟩, Prod.mk.injEq] at recorded
        exact keepsTransfer_bystander (sound active) recorded.1 recorded.2 same
          (steady.stays known.1 known.2)
    | false =>
        refine keepsTransfer_idle active recorded same.chunks fun working => ?_
        rw [senders, active] at working
        cases working
  have few (active : (log.plane.senders i).active = true) :
      (log.plane.senders i).totalChunks.toNat ≤ 8192 := by
    obtain ⟨idx, feeds⟩ := (sound active).feeds
    have bits : ldBitmapBits = 1144 := rfl
    have few := steady.few idx feeds.active feeds.ready
    rw [feeds.totalChunks] at few
    omega
  have idleAck (idle : (log.plane.senders i).active = false)
      (same : Bystander log.plane.clearOut log'.plane) :
      KeepsTransfer log' i := by
    refine keepsTransfer_idle idle recorded same.chunks fun working => ?_
    rw [congrFun same.senders i] at working
    exact absurd (idle.symm.trans working) (by decide)
  cases event with
  | largeDataInit pkt srcId =>
      refine bystander (by simp) (fun _ => rfl) ?_
      rw [← Except.ok.inj moved]
      exact LdPlane.handleLargeDataInit_bystander pkt srcId
  | largeDataChunk pkt srcId =>
      exact bystander (by simp) (fun _ => rfl)
        (LdPlane.handleLargeDataChunk_bystander moved)
  | cmdLdInit args =>
      refine bystander (by simp) (fun _ => rfl) ?_
      rw [← Except.ok.inj moved]
      exact LdPlane.cmdLdInit_bystander args
  | cmdLdChunk args =>
      refine bystander (by simp) (fun _ => rfl) ?_
      rw [← Except.ok.inj moved]
      exact LdPlane.cmdLdChunk_bystander args
  | elsewhere psram uart =>
      refine bystander (by simp) (fun _ => rfl) ?_
      rw [← Except.ok.inj moved]
      exact .ofOut rfl rfl rfl rfl
  | largeDataInitAck pkt srcId =>
      cases active : (log.plane.senders i).active with
      | true =>
          exact keepsTransfer_initAck active (sound active) (few active)
            recorded moved
      | false =>
          exact idleAck active
            (@LdPlane.handleLargeDataInitAck_idle env log.plane.clearOut _ i
              pkt srcId active moved)
  | largeDataChunkAck pkt srcId =>
      cases active : (log.plane.senders i).active with
      | true =>
          exact keepsTransfer_chunkAck role active (sound active) (few active)
            undisturbed recorded moved
      | false =>
          exact idleAck active
            (@LdPlane.handleLargeDataChunkAck_idle env log.plane.clearOut _ i
              pkt srcId active moved)
  | tick =>
      rcases @LdPlane.largeDataTick_ticks env log.plane.clearOut log'.plane i
        role moved with ⟨active, advances⟩ | ⟨idle, silent, started⟩
      · refine keepsTransfer_advances (sound active) advances fun _ => ?_
        unfold TransferLog.record at recorded
        rw [if_pos ⟨i, active⟩, Prod.mk.injEq] at recorded
        rw [recorded.1, recorded.2]
        exact (sound active).windows
      · exact keepsTransfer_idle idle recorded silent started
  | restart =>
      have idle := undisturbed i
      have restarted : log.plane.clearOut.largeDataInit = log'.plane :=
        Except.ok.inj moved
      refine keepsTransfer_idle idle recorded ?_ fun working => ?_
      · rw [← restarted]
        rfl
      · rw [← restarted] at working
        exact absurd (idle.symm.trans working) (by decide)
  | cmdLdInitAck args | cmdLdInitReady | cmdLdChunkAck args
  | cmdLdChunkReady => exact undisturbed.elim

/-- In every run of a sensor or an anchor whose acknowledgements come in turn:
the windows of the transfer are the blocks of four chunks from the first on,
every chunk that is sent is one of its slot, and the transfer is complete
only after every chunk was sent. -/
theorem largeDataWindows_inOrder {io : Io}
    (role : board.deviceType = .sensor ∨ board.deviceType = .anchor)
    (reach : Trace.Reach TransferLog.step (AcksInTurn board) (.boot io) log) :
    (∀ i, (log.plane.senders i).active = true → ∃ count,
      count ≤ ((log.plane.senders i).totalChunks.toNat + 3) / 4 ∧
        log.windows = (List.range count).map
          (window (log.plane.senders i).totalChunks.toNat)) ∧
      ∀ event log', AcksInTurn board log event →
        log.step event = .ok log' →
          (∀ pkt ∈ chunkPackets log'.plane.io.out, log'.plane.Carries pkt) ∧
          ∀ i pkt srcId, event.2 = .largeDataChunkAck pkt srcId →
            log.plane.Reaches event.1 pkt srcId i →
              LdPlane.isLastChunk (log.plane.senders i) pkt = true →
                ∀ linear < (log.plane.senders i).totalChunks.toNat,
                  linear ∈ log.sent := by
  have plane {state : TransferLog}
      (reach : Trace.Reach TransferLog.step (AcksInTurn board) (.boot io)
        state) :
      Trace.Reach ldStep (LdOnBoard board) (.boot io) state.plane :=
    reach.map TransferLog.plane id fun before event after admitted moved =>
      ⟨admitted.1, (TransferLog.step_eq moved).1⟩
  have keeps {before after : TransferLog} {event : Env × LdEvent}
      (i : Fin ldSenderSlotCount)
      (reached : Trace.Reach TransferLog.step (AcksInTurn board) (.boot io)
        before)
      (sound : (before.plane.senders i).active = true →
        TransferSound before.plane before.windows before.restarted i)
      (admitted : AcksInTurn board before event)
      (moved : before.step event = .ok after) : KeepsTransfer after i := by
    obtain ⟨stepped, recorded⟩ := TransferLog.step_eq moved
    exact keepsTransfer_step role admitted
      (reach_steady role (plane reached) admitted.1 stepped) stepped recorded
      sound
  have sound (i : Fin ldSenderSlotCount) :
      (log.plane.senders i).active = true →
        TransferSound log.plane log.windows log.restarted i := by
    induction reach with
    | refl => exact fun active => by cases active
    | next reached admitted moved inductionHypothesis =>
        exact (keeps i reached inductionHypothesis admitted moved).1
  refine ⟨fun i active => ?_, fun event log' admitted moved => ⟨?_, ?_⟩⟩
  · obtain ⟨count, blocks, counted⟩ := (sound i active).windows.consecutive
    exact ⟨count, by omega, blocks⟩
  · exact (keeps ⟨0, by decide⟩ reach (sound _) admitted moved).2
  · rintro i pkt srcId received reaches finished linear below
    have undisturbed := admitted.2
    unfold Undisturbed at undisturbed
    rw [received] at undisturbed
    have active := (LdPlane.findSenderSlot_some reaches.found).1
    exact (sound i active).windows.all
      ((undisturbed i reaches).last finished) below

end Runs

section Samples

/-- The gateway takes the announcement of the blob. -/
def windowsInitAck : Env × LdEvent :=
  (ldAnchor, .largeDataInitAck
    { hdr := { deviceType := 1, deviceId := 2, status := statusSuccess }
      genDeviceId := 5, dataId := 1 } 1)

/-- The answer of the gateway to the first chunk of a page. -/
def windowsAck (status pageIndex : UInt8) : LargeDataChunkAck where
  hdr := { deviceType := 1, deviceId := 2, status := status }
  genDeviceId := 5
  dataId := 1
  pageIndex := pageIndex
  chunkIndex := 0

/-- A blob of 200 zero bytes arrives, its second chunk first. -/
def twoChunks : List (Env × LdEvent) :=
  (ldAnchor, .largeDataInit
    { hdr := { deviceType := 3, deviceId := 2 }
      genDeviceId := 5, dataId := 1, reportTimeMs := 0, totalSize := 200
      pageCount := 1, lastChunkSize := 20, crc32 := 0xC971A876 } 5) ::
  [1, 0].map fun linear : Nat =>
    (ldAnchor, .largeDataChunk
      { hdr := { deviceType := 3, deviceId := 2 }
        genDeviceId := 5, dataId := 1, pageIndex := 0
        chunkIndex := UInt8.ofNat linear
        data := Buffer.ofData sendLargeDataMax
          (List.replicate (if linear = 1 then 20 else 180) 0) } 5)

theorem twoChunks_crc :
    Checksum.crc32Ieee.ieee (List.replicate 200 0) = 0xC971A876 :=
  @Checksum.crc32Ieee_zeros 4 (by decide)

/-- The gateway has chunk `linear`. -/
def chunkTaken (linear : UInt8) : LargeDataChunkAck :=
  { windowsAck statusSuccess 0 with chunkIndex := linear }

/-- The first chunk is acknowledged, then the second. -/
theorem largeDataWindows_inOrder_twoChunks :
    Trace.Ends TransferLog.step (.boot {})
      (twoChunks ++ [(ldAnchor, .tick), windowsInitAck]) fun before =>
      ∃ log, before.step (ldAnchor, .largeDataChunkAck (chunkTaken 0) 1) =
          .ok log ∧
        log.windows = [[0, 1]] ∧
        ∃ log', log.step (ldAnchor, .largeDataChunkAck (chunkTaken 1) 1) =
            .ok log' ∧
          (∀ pkt ∈ chunkPackets log'.plane.io.out,
            log'.plane.Carries pkt) ∧
          ∀ linear < 2, linear ∈ log.sent := by
  obtain ⟨before, executed, going, opened, begun, log, moved, windows, found,
      source, total, last, log', ended, -⟩ :
      Trace.Ends TransferLog.step (.boot {})
        (twoChunks ++ [(ldAnchor, .tick), windowsInitAck]) fun before =>
        LdPlane.isLastChunk (before.plane.senders ⟨0, by decide⟩)
            (chunkTaken 0) = false ∧
          before.windows ≠ [] ∧
          (before.plane.senders ⟨0, by decide⟩).nextChunk ≠ 0xFFFF ∧
          Trace.Ends TransferLog.step before
            [(ldAnchor, .largeDataChunkAck (chunkTaken 0) 1)] fun log =>
            log.windows = [[0, 1]] ∧
              log.plane.findSenderSlot 5 1 = some ⟨0, by decide⟩ ∧
              (log.plane.senders ⟨0, by decide⟩).dstId = 1 ∧
              (log.plane.senders ⟨0, by decide⟩).totalChunks.toNat = 2 ∧
              LdPlane.isLastChunk (log.plane.senders ⟨0, by decide⟩)
                (chunkTaken 1) = true ∧
              Trace.Ends TransferLog.step log
                [(ldAnchor, .largeDataChunkAck (chunkTaken 1) 1)]
                fun _ => True := by
    unfold twoChunks windowsInitAck ldAnchor
    rw [← Checksum.withValue_eq twoChunks_crc]
    decide +kernel
  rw [Trace.run_single] at moved ended
  have admitted : ∀ event ∈ twoChunks ++ [(ldAnchor, .tick), windowsInitAck],
      ∀ before, AcksInTurn ldAnchor.toBoard before event := by
    intro event member before
    simp only [twoChunks, List.mem_append, List.mem_cons, List.mem_map,
      List.not_mem_nil, or_false] at member
    rcases member with (rfl | ⟨linear, -, rfl⟩) | rfl | rfl <;>
      exact ⟨⟨rfl, trivial⟩, trivial⟩
  have first : AcksInTurn ldAnchor.toBoard before (ldAnchor,
      .largeDataChunkAck (chunkTaken 0) 1) := by
    refine ⟨⟨rfl, trivial⟩, fun i _ => ?_⟩
    rw [one_sender i ⟨0, by decide⟩]
    refine ⟨fun ends => ?_, fun _ _ _ => ⟨opened, begun, fun again => ?_⟩⟩
    · rw [going] at ends
      cases ends
    · exact absurd again (by decide)
  have second : AcksInTurn ldAnchor.toBoard log (ldAnchor,
      .largeDataChunkAck (chunkTaken 1) 1) := by
    refine ⟨⟨rfl, trivial⟩, fun i _ => ?_⟩
    rw [one_sender i ⟨0, by decide⟩]
    refine ⟨fun _ => ?_, fun going => ?_⟩
    · rw [total, TransferLog.sent, windows]
      simp
    · rw [last] at going
      cases going
  have reaches : log.plane.Reaches ldAnchor (chunkTaken 1) 1
      ⟨0, by decide⟩ := ⟨by decide, found, source⟩
  obtain ⟨carries, all⟩ := (largeDataWindows_inOrder (.inr rfl)
    (.next (Trace.Reach.of_run admitted executed) first moved)).2 _ log'
    second ended
  have all := all _ _ 1 rfl reaches last
  rw [total] at all
  exact ⟨before, executed, log, moved, windows, log', ended, carries, all⟩

/-- Before any chunk was sent, an acknowledgement of the last one completes
the transfer, and one that asks for a chunk of page 1 is answered with the
33rd chunk of a blob of one chunk. -/
theorem largeDataWindows_skipped :
    Trace.Ends TransferLog.step (.boot {})
      [serviceInit, serviceChunk, (ldAnchor, .tick)] fun log =>
        log.plane.Reaches ldAnchor (windowsAck statusSuccess 0) 1
            ⟨0, by decide⟩ ∧
          LdPlane.isLastChunk (log.plane.senders ⟨0, by decide⟩)
            (windowsAck statusSuccess 0) = true ∧
          (log.plane.senders ⟨0, by decide⟩).totalChunks.toNat = 1 ∧
          0 ∉ log.sent ∧
          Trace.Ends TransferLog.step log
            [(ldAnchor, .largeDataChunkAck (windowsAck statusFailure 1) 1)]
            fun log' =>
              (chunkPackets log'.plane.io.out).map LargeDataChunk.linear =
                [32] ∧
              ¬ ∀ pkt ∈ chunkPackets log'.plane.io.out,
                log'.plane.Carries pkt := by
  obtain ⟨log, executed, accepted, found, source, last, total, unsent, log',
      moved, chunks, few⟩ :
      Trace.Ends TransferLog.step (.boot {})
        [serviceInit, serviceChunk, (ldAnchor, .tick)] fun log =>
          ldAnchor.accepts (windowsAck statusSuccess 0).hdr = true ∧
          log.plane.findSenderSlot 5 1 = some ⟨0, by decide⟩ ∧
          (log.plane.senders ⟨0, by decide⟩).dstId = 1 ∧
          LdPlane.isLastChunk (log.plane.senders ⟨0, by decide⟩)
            (windowsAck statusSuccess 0) = true ∧
          (log.plane.senders ⟨0, by decide⟩).totalChunks.toNat = 1 ∧
          0 ∉ log.sent ∧
          Trace.Ends TransferLog.step log
            [(ldAnchor, .largeDataChunkAck (windowsAck statusFailure 1) 1)]
            fun log' =>
              (chunkPackets log'.plane.io.out).map LargeDataChunk.linear =
                [32] ∧
              ∀ idx, (log'.plane.slots idx).totalChunks.toNat ≤ 1 := by
    decide +kernel
  refine ⟨log, executed, ⟨accepted, found, source⟩, last, total, unsent, log',
    moved, chunks, fun carries => ?_⟩
  obtain ⟨pkt, member, linear⟩ : ∃ pkt ∈ chunkPackets log'.plane.io.out,
      pkt.linear = 32 := by
    have inside : 32 ∈ (chunkPackets log'.plane.io.out).map
        LargeDataChunk.linear := by
      rw [chunks]
      exact List.mem_singleton_self _
    exact List.mem_map.mp inside
  obtain ⟨idx, -, -, -, -, below, -⟩ := carries pkt member
  have bound := few idx
  omega

end Samples

end DectMesh
