import DectMesh.LargeData.Destinations
import DectMesh.LargeData.Framings

/-!
# What a sender sends

The chunks that an acknowledgement makes a sender send, and what it leaves of
the transfer.
-/

namespace DectMesh

open ByteStore

def LargeDataChunk.linear (pkt : LargeDataChunk) : Nat :=
  LdPlane.linearIndex pkt.pageIndex pkt.chunkIndex

namespace LdPlane

/-- The status makes the sender send the named chunk again. -/
def AsksAgain (pkt : LargeDataChunkAck) : Prop :=
  pkt.hdr.status = statusFailure ∨ pkt.hdr.status = statusInvalidParameter

/-- The status makes the sender start the transfer again. -/
def AsksRestart (pkt : LargeDataChunkAck) : Prop :=
  pkt.hdr.status = statusNotFound ∨
    pkt.hdr.status = statusResourceUnavailable ∨
      pkt.hdr.status = statusCrcFail

instance (pkt : LargeDataChunkAck) : Decidable (AsksAgain pkt) :=
  inferInstanceAs (Decidable (_ ∨ _))

instance (pkt : LargeDataChunkAck) : Decidable (AsksRestart pkt) :=
  inferInstanceAs (Decidable (_ ∨ _ ∨ _))

/-- The acknowledgement reaches the transfer of a sender. -/
structure Reaches (s : LdPlane) (env : Env) (pkt : LargeDataChunkAck)
    (srcId : UInt16) (i : Fin ldSenderSlotCount) : Prop where
  accepted : env.accepts pkt.hdr = true
  found : s.findSenderSlot pkt.genDeviceId pkt.dataId = some i
  source : (s.senders i).dstId = srcId

end LdPlane

variable {env : Env} {s s' s'' : LdPlane} {i : Fin ldSenderSlotCount}
variable {packets more : List LargeDataChunk} {result : Option Errno}

/-- What sending chunks of one sender does: only its timeout changes, and
where a chunk cannot be read it is not active any more. -/
structure Emits (i : Fin ldSenderSlotCount) (s s' : LdPlane)
    (packets : List LargeDataChunk) (result : Option Errno) : Prop where
  slots : s'.slots = s.slots
  mem : s'.io.psram.mem = s.io.psram.mem
  out : chunkPackets s'.io.out = chunkPackets s.io.out ++ packets
  kept : result = none →
    ∃ timeout, s'.senders i = { s.senders i with timeout := timeout }
  lost : result ≠ none → (s'.senders i).active = false

/-- The packet for chunk `linear` out of the pages of the sender. -/
def chunkAt (env : Env) (dstId : UInt16) (sender : LdSender) (mem : Store)
    (linear : Nat) : LargeDataChunk :=
  LdPlane.chunkPacket env sender dstId
    (UInt8.ofNat (linear / ldChunksPerPage))
    (UInt8.ofNat (linear % ldChunksPerPage)) (radioSlice sender mem linear)

theorem Emits.nothing : Emits i s s [] none :=
  ⟨rfl, rfl, (List.append_nil _).symm, fun _ => ⟨_, rfl⟩,
    fun failed => absurd rfl failed⟩

theorem Emits.trans (first : Emits i s s' packets none)
    (second : Emits i s' s'' more result) :
    Emits i s s'' (packets ++ more) result where
  slots := second.slots.trans first.slots
  mem := second.mem.trans first.mem
  out := by rw [second.out, first.out, List.append_assoc]
  kept := by
    intro success
    obtain ⟨timeout, same⟩ := first.kept rfl
    obtain ⟨later, sameLater⟩ := second.kept success
    exact ⟨later, by rw [sameLater, same]⟩
  lost := second.lost

namespace LdPlane

/-- One chunk is sent, unless it cannot be read. -/
theorem readAndSendChunk_emits {dstId : UInt16} {page chunk : UInt8}
    {linear : Nat}
    (sent : s.readAndSendChunk env dstId i page chunk linear = (s', result)) :
    Emits i s s'
      (if result = none then
        [chunkPacket env (s.senders i) dstId page chunk
          (radioSlice (s.senders i) s.io.psram.mem linear)]
      else
        []) result := by
  unfold readAndSendChunk at sent
  dsimp only at sent
  split at sent
  · next io errno read =>
    cases sent
    exact
      { slots := rfl
        mem := Io.read_mem_eq read
        out := (congrArg chunkPackets (Io.read_out_eq read)).trans
          (List.append_nil _).symm
        kept := fun success => by cases success
        lost := fun _ => by simp [freeSenderSlot, setSender] }
  · next io data read =>
    cases sent
    refine
      { slots := rfl
        mem := ?_
        out := ?_
        kept := fun _ =>
          ⟨(s.senders i).timeout.start env.now, by simp [put, setSender]⟩
        lost := fun failed => absurd rfl failed }
    · change io.psram.mem = _
      exact Io.read_mem_eq read
    · change chunkPackets (io.out ++ [_]) = _
      rw [chunkPackets, List.filterMap_append, Io.read_out_eq read,
        Io.read_bytes read]
      rfl

/-- The rest of a window is sent, up to a chunk that cannot be read. -/
theorem sendNextLoop_emits (dstId : UInt16) {sender : LdSender}
    {mem : Store} :
    ∀ (rounds offset : Nat) (s : LdPlane) (timeout : NbTimeout),
      s.senders i = { sender with timeout := timeout } →
        s.io.psram.mem = mem →
        ∃ count,
          count ≤ min rounds
            (sender.totalChunks.toNat - (sender.nextChunk.toNat + offset)) ∧
          ((sendNextLoop env dstId i rounds offset s).2 = none →
            count = min rounds
              (sender.totalChunks.toNat -
                (sender.nextChunk.toNat + offset))) ∧
          Emits i s (sendNextLoop env dstId i rounds offset s).1
            ((List.range' (sender.nextChunk.toNat + offset) count).map
              (chunkAt env dstId sender mem))
            (sendNextLoop env dstId i rounds offset s).2
  | 0, offset, s, timeout, here, contents =>
      ⟨0, Nat.zero_le _, fun _ => (Nat.zero_min _).symm, .nothing⟩
  | rounds + 1, offset, s, timeout, here, contents => by
      rw [sendNextLoop, here]
      dsimp only
      by_cases done :
          sender.totalChunks.toNat ≤ sender.nextChunk.toNat + offset
      · rw [if_pos done]
        exact ⟨0, Nat.zero_le _, fun _ => by omega, .nothing⟩
      · rw [if_neg done]
        rcases sent : s.readAndSendChunk env dstId i
          (UInt8.ofNat ((sender.nextChunk.toNat + offset) / ldChunksPerPage))
          (UInt8.ofNat ((sender.nextChunk.toNat + offset) % ldChunksPerPage))
          (sender.nextChunk.toNat + offset) with ⟨after, _ | errno⟩
        · have first := readAndSendChunk_emits sent
          rw [if_pos rfl, here, contents] at first
          obtain ⟨later, same⟩ := first.kept rfl
          have sender' : after.senders i = { sender with timeout := later } := by
            rw [same, here]
          obtain ⟨count, most, whole, rest⟩ := sendNextLoop_emits dstId rounds
            (offset + 1) after later sender' (first.mem.trans contents)
          refine ⟨count + 1, by omega, fun success => ?_, ?_⟩
          · have full := whole success
            omega
          · rw [List.range'_succ, List.map_cons]
            exact first.trans rest
        · exact ⟨0, Nat.zero_le _, (fun success => by cases success),
            readAndSendChunk_emits sent⟩

end LdPlane

/-- A packet with a chunk of the sender's blob. -/
structure FromSender (sender : LdSender) (mem : Store) (pkt : LargeDataChunk) :
    Prop where
  gen : pkt.genDeviceId = sender.genDeviceId
  id : pkt.dataId = sender.dataId
  below : pkt.linear < sender.totalChunks.toNat
  data : pkt.data =
    Buffer.ofData sendLargeDataMax (radioSlice sender mem pkt.linear)

theorem chunkAt_linear {dstId : UInt16} {sender : LdSender} {mem : Store}
    {linear : Nat} (small : linear < 8192) :
    (chunkAt env dstId sender mem linear).linear = linear := by
  have perPage : ldChunksPerPage = 32 := rfl
  change (UInt8.ofNat (linear / ldChunksPerPage)).toNat * ldChunksPerPage +
    (UInt8.ofNat (linear % ldChunksPerPage)).toNat = linear
  rw [UInt8.toNat_ofNat', UInt8.toNat_ofNat', perPage]
  omega

theorem chunkAt_from {dstId : UInt16} {sender : LdSender} {mem : Store}
    {linear : Nat} (below : linear < sender.totalChunks.toNat)
    (small : sender.totalChunks.toNat ≤ 8192) :
    FromSender sender mem (chunkAt env dstId sender mem linear) := by
  have place := @chunkAt_linear env dstId sender mem linear (by omega)
  refine ⟨rfl, rfl, by rw [place]; exact below, ?_⟩
  rw [place]
  rfl

/-- A step of the transfer of one sender: its packets, the acknowledgements it
has counted, and the chunks it has sent, as long as the sender is active. -/
structure Advances (i : Fin ldSenderSlotCount) (s s' : LdPlane)
    (packets : List LargeDataChunk) (next : UInt16) (sent : List Nat) :
    Prop where
  content : ∀ idx, (s'.slots idx).content = (s.slots idx).content
  mem : s'.io.psram.mem = s.io.psram.mem
  out : chunkPackets s'.io.out = chunkPackets s.io.out ++ packets
  carried : ∀ pkt ∈ packets, FromSender (s.senders i) s.io.psram.mem pkt
  going : (s'.senders i).active = true →
    (∃ timeout, s'.senders i =
      { s.senders i with nextChunk := next, timeout := timeout }) ∧
      packets.map LargeDataChunk.linear = sent

/-- The chunks that are sent when `next` acknowledgements are counted. -/
def windowFrom (sender : LdSender) (next : UInt16) : List Nat :=
  if next.toNat % 4 = 0 then
    List.range' next.toNat (min 4 (sender.totalChunks.toNat - next.toNat))
  else
    []

/-- The sender goes on, or is not active any more. -/
theorem Advances.ofSame
    (content : ∀ idx, (s'.slots idx).content = (s.slots idx).content)
    (io : s'.io = s.io)
    (sender : (s'.senders i).active = true →
      ∃ timeout, s'.senders i = { s.senders i with timeout := timeout }) :
    Advances i s s' [] (s.senders i).nextChunk [] where
  content := content
  mem := by rw [io]
  out := by rw [io, List.append_nil]
  carried := fun _ member => by cases member
  going := fun active => ⟨sender active, rfl⟩

/-- An action before the step that is no chunk. -/
theorem Advances.ofPut {action : Action} {next : UInt16} {sent : List Nat}
    (plain : action.Plain)
    (rest : Advances i (s.put action) s' packets next sent) :
    Advances i s s' packets next sent where
  content := rest.content
  mem := rest.mem
  out := by rw [rest.out, (Bystander.put plain).chunks]
  carried := rest.carried
  going := rest.going

/-- There is one sender entry. -/
theorem one_sender (i j : Fin ldSenderSlotCount) : i = j := by
  have count : ldSenderSlotCount = 1 := rfl
  omega

/-- A sender that cannot read its chunk is not active any more. -/
theorem Advances.lostSender {errno : Errno} {next : UInt16}
    {sent : List Nat} (emits : Emits i s s' [] (some errno)) :
    Advances i s (s'.freeSenderSlot i) [] next sent where
  content := fun idx => congrArg LdSlot.content (congrFun emits.slots idx)
  mem := emits.mem
  out := emits.out
  carried := fun _ member => by cases member
  going := fun active => by simp [LdPlane.freeSenderSlot, LdPlane.setSender] at active

namespace LdPlane

theorem setSent_content (idx : Fin ldReceiverSlotCount) (isSent : Bool)
    (other : Fin ldReceiverSlotCount) :
    ((s.setSlot idx { s.slots idx with isSent := isSent }).slots other).content =
      (s.slots other).content :=
  (SameStore.setSent idx isSent).slots other

theorem finishTransfer_advances :
    Advances i s (s.finishTransfer env i) [] (s.senders i).nextChunk [] := by
  unfold finishTransfer
  dsimp only
  split
  · exact .ofSame (fun _ => rfl) rfl fun _ =>
      ⟨_, by simp [setSender]; rfl⟩
  · exact .ofSame (fun other => setSent_content _ _ other) rfl fun _ =>
      ⟨_, by simp [setSender, setSlot]; rfl⟩

theorem restartTransfer_content (idx : Fin ldReceiverSlotCount) :
    ((s.restartTransfer i).slots idx).content = (s.slots idx).content := by
  unfold restartTransfer
  dsimp only
  split
  · rfl
  · exact setSent_content _ _ idx

theorem restartTransfer_stopped :
    ((s.restartTransfer i).senders i).active = false := by
  unfold restartTransfer
  dsimp only
  split
  · simp [freeSenderSlot, setSender]
  · simp [freeSenderSlot, setSender, setSlot]

/-- A window out of the pages of the sender. -/
theorem sendNextLargeDataChunk_advances {dstId : UInt16}
    (small : (s.senders i).totalChunks.toNat ≤ 8192) :
    ∃ packets,
      Emits i s (s.sendNextLargeDataChunk env dstId i).1 packets
        (s.sendNextLargeDataChunk env dstId i).2 ∧
      (∀ pkt ∈ packets, FromSender (s.senders i) s.io.psram.mem pkt) ∧
      ((s.sendNextLargeDataChunk env dstId i).2 = none →
        packets.map LargeDataChunk.linear =
          List.range' (s.senders i).nextChunk.toNat
            (min 4 ((s.senders i).totalChunks.toNat -
              (s.senders i).nextChunk.toNat))) := by
  obtain ⟨count, most, whole, emits⟩ :=
    @sendNextLoop_emits env i dstId (s.senders i) s.io.psram.mem 4 0 s
      (s.senders i).timeout rfl rfl
  rw [Nat.add_zero] at most whole emits
  refine ⟨_, emits, ?_, ?_⟩
  · intro pkt member
    obtain ⟨linear, inside, rfl⟩ := List.mem_map.mp member
    have bounds := List.mem_range'_1.mp inside
    exact chunkAt_from (by omega) small
  · intro success
    rw [← whole success, List.map_map]
    refine (List.map_congr_left fun linear inside => ?_).trans (List.map_id _)
    have bounds := List.mem_range'_1.mp inside
    exact chunkAt_linear (by omega)

/-- The sender entry is given up. -/
theorem restartTransfer_advances {next : UInt16} {sent : List Nat}
    (emits : Emits i s s' packets result)
    (carried : ∀ pkt ∈ packets,
      FromSender (s.senders i) s.io.psram.mem pkt) :
    Advances i s (s'.restartTransfer i) packets next sent where
  content := by
    intro idx
    rw [restartTransfer_content, emits.slots]
  mem := (congrArg (·.psram.mem) (restartTransfer_io i)).trans emits.mem
  out := (congrArg (fun io => chunkPackets io.out)
    (restartTransfer_io i)).trans emits.out
  carried := carried
  going := by
    intro active
    rw [restartTransfer_stopped] at active
    cases active

/-- One more acknowledgement is counted. -/
theorem advanceTransfer_advances {srcId : UInt16}
    (small : (s.senders i).totalChunks.toNat ≤ 8192) :
    ∃ packets,
      Advances i s (s.advanceTransfer env srcId i) packets
        ((s.senders i).nextChunk + 1)
        (windowFrom (s.senders i) ((s.senders i).nextChunk + 1)) := by
  unfold advanceTransfer windowFrom
  dsimp only
  by_cases due : ((s.senders i).nextChunk + 1).toNat % 4 = 0
  · rw [if_neg (not_not.mpr due), if_pos due]
    generalize starts : s.setSender i { s.senders i with
      nextChunk := (s.senders i).nextChunk + 1 } = t
    have counted : t.senders i =
        { s.senders i with nextChunk := (s.senders i).nextChunk + 1 } := by
      rw [← starts]
      simp [setSender]
    have slots : t.slots = s.slots := by
      rw [← starts]
      rfl
    have io : t.io = s.io := by
      rw [← starts]
      rfl
    obtain ⟨packets, emits, carried, whole⟩ :=
      @sendNextLargeDataChunk_advances env t i srcId
        (by rw [counted]; exact small)
    rw [counted, io] at carried
    rw [counted] at whole
    refine ⟨packets, ?_⟩
    rcases sent : t.sendNextLargeDataChunk env srcId i with ⟨after, _ | errno⟩
    · rw [sent] at emits whole
      obtain ⟨timeout, kept⟩ := emits.kept rfl
      dsimp only
      exact
        { content := fun idx => by rw [emits.slots, slots]
          mem := by rw [emits.mem, io]
          out := by rw [emits.out, io]
          carried := fun pkt member =>
            { carried pkt member with }
          going := fun _ =>
            ⟨⟨timeout, by rw [kept, counted]⟩, whole rfl⟩ }
    · rw [sent] at emits
      dsimp only
      have stopped := @restartTransfer_advances _ _ i packets _ 0 []
        emits (by rw [counted, io]; exact carried)
      exact
        { content := fun idx => by rw [stopped.content, slots]
          mem := by rw [stopped.mem, io]
          out := by rw [stopped.out, io]
          carried := fun pkt member => { carried pkt member with }
          going := fun active => by
            rw [restartTransfer_stopped] at active
            cases active }
  · rw [if_pos due, if_neg due]
    exact ⟨[], fun _ => rfl, rfl, (List.append_nil _).symm,
      (fun _ member => by cases member),
      fun _ => ⟨⟨(s.senders i).timeout, by simp [setSender]⟩, rfl⟩⟩

/-- A chunk that was asked for again precedes what is sent next. -/
theorem resent {dstId : UInt16} {page chunk : UInt8} {next : UInt16}
    {sent : List Nat}
    (emits : Emits i s s'
      [chunkPacket env (s.senders i) dstId page chunk
        (radioSlice (s.senders i) s.io.psram.mem (linearIndex page chunk))]
      none)
    (below : linearIndex page chunk < (s.senders i).totalChunks.toNat)
    (rest : Advances i s' s'' more next sent) :
    Advances i s s''
      ([chunkPacket env (s.senders i) dstId page chunk
        (radioSlice (s.senders i) s.io.psram.mem (linearIndex page chunk))] ++
          more)
      next ([linearIndex page chunk] ++ sent) := by
  obtain ⟨timeout, here⟩ := emits.kept rfl
  refine
    { content := fun idx => by rw [rest.content, emits.slots]
      mem := by rw [rest.mem, emits.mem]
      out := by rw [rest.out, emits.out, List.append_assoc]
      carried := ?_
      going := ?_ }
  · intro pkt member
    rcases List.mem_append.mp member with first | later
    · rw [List.mem_singleton.mp first]
      exact ⟨rfl, rfl, below, rfl⟩
    · have carried := rest.carried pkt later
      rw [here, emits.mem] at carried
      exact { carried with }
  · intro active
    obtain ⟨⟨later, kept⟩, linear⟩ := rest.going active
    exact ⟨⟨later, by rw [kept, here]⟩, congrArg ([_] ++ ·) linear⟩

/-- What `handle_large_data_chunk_ack` does with a transfer that goes on. -/
theorem continueTransfer_cases {pkt : LargeDataChunkAck} {srcId : UInt16}
    (role : env.deviceType = .sensor ∨ env.deviceType = .anchor) :
    s.continueTransfer env pkt srcId i = s ∨
    s.continueTransfer env pkt srcId i = s.restartTransfer i ∨
    (isUpstreamType pkt.hdr.deviceType = true ∧ ¬ AsksRestart pkt ∧
      ((¬ AsksAgain pkt ∧
        s.continueTransfer env pkt srcId i = s.advanceTransfer env srcId i) ∨
      (AsksAgain pkt ∧ ∃ after result,
        s.resendLargeDataChunk env srcId pkt.pageIndex pkt.chunkIndex i =
            (after, result) ∧
          s.continueTransfer env pkt srcId i =
            if result = none then
              after.advanceTransfer env srcId i
            else
              after.freeSenderSlot i))) := by
  unfold continueTransfer
  rcases role with role | role
  all_goals
    rw [role]
    dsimp only
    split
    · next upstream =>
      split
      · exact .inr (.inl rfl)
      · next restart =>
        refine .inr (.inr ⟨upstream, restart, ?_⟩)
        split
        · next again =>
          refine .inr ⟨again, ?_⟩
          split
          · next after errno sent => exact ⟨after, some errno, sent, rfl⟩
          · next after sent => exact ⟨after, none, sent, rfl⟩
        · next again => exact .inl ⟨again, rfl⟩
    · exact .inl rfl

/-- The transfer goes on: an acknowledgement from above that asks for no new
start is counted, after the chunk that it may ask for again. -/
theorem continueTransfer_advances {pkt : LargeDataChunkAck} {srcId : UInt16}
    (role : env.deviceType = .sensor ∨ env.deviceType = .anchor)
    (small : (s.senders i).totalChunks.toNat ≤ 8192)
    (inRange : isUpstreamType pkt.hdr.deviceType = true → ¬ AsksRestart pkt →
      AsksAgain pkt → linearIndex pkt.pageIndex pkt.chunkIndex <
        (s.senders i).totalChunks.toNat) :
    Advances i s (s.continueTransfer env pkt srcId i) []
        (s.senders i).nextChunk [] ∨
      (isUpstreamType pkt.hdr.deviceType = true ∧ ¬ AsksRestart pkt ∧
        ∃ packets,
          Advances i s (s.continueTransfer env pkt srcId i) packets
            ((s.senders i).nextChunk + 1)
            ((if AsksAgain pkt then
              [linearIndex pkt.pageIndex pkt.chunkIndex]
            else
              []) ++
              windowFrom (s.senders i) ((s.senders i).nextChunk + 1))) := by
  rcases @continueTransfer_cases env s i pkt srcId role with
    same | restarts | ⟨upstream, goes, ⟨again, same⟩ | ⟨again, rest⟩⟩
  · rw [same]
    exact .inl (.ofSame (fun _ => rfl) rfl fun _ => ⟨_, rfl⟩)
  · rw [restarts]
    exact .inl (restartTransfer_advances .nothing
      fun _ member => by cases member)
  · rw [same, if_neg again]
    exact .inr ⟨upstream, goes, advanceTransfer_advances small⟩
  · obtain ⟨after, result, resends, same⟩ := rest
    rw [same, if_pos again]
    refine .inr ⟨upstream, goes, ?_⟩
    unfold resendLargeDataChunk at resends
    have emits := readAndSendChunk_emits resends
    cases result with
    | none =>
        rw [if_pos rfl] at emits
        obtain ⟨timeout, here⟩ := emits.kept rfl
        obtain ⟨packets, rest⟩ := @advanceTransfer_advances env after i srcId
          (by rw [here]; exact small)
        rw [here] at rest
        exact ⟨_, resent emits (inRange upstream goes again) rest⟩
    | some errno =>
        rw [if_neg (by simp)] at emits
        exact ⟨[], .lostSender emits⟩

/-- A `LARGE_DATA_CHUNK_ACK` gives the transfer up, leaves it where it is, or
is counted. -/
theorem handleLargeDataChunkAck_advances
    {pkt : LargeDataChunkAck} {srcId : UInt16}
    (role : env.deviceType = .sensor ∨ env.deviceType = .anchor)
    (small : (s.senders i).totalChunks.toNat ≤ 8192)
    (inRange : s.Reaches env pkt srcId i →
      isLastChunk (s.senders i) pkt = false →
        isUpstreamType pkt.hdr.deviceType = true → ¬ AsksRestart pkt →
          AsksAgain pkt → linearIndex pkt.pageIndex pkt.chunkIndex <
            (s.senders i).totalChunks.toNat)
    (handled : s.handleLargeDataChunkAck env pkt srcId = .ok s') :
    Advances i s s' [] (s.senders i).nextChunk [] ∨
      (s.Reaches env pkt srcId i ∧
        isLastChunk (s.senders i) pkt = false ∧
          isUpstreamType pkt.hdr.deviceType = true ∧ ¬ AsksRestart pkt ∧
            ∃ packets,
              Advances i s s' packets ((s.senders i).nextChunk + 1)
                ((if AsksAgain pkt then
                  [linearIndex pkt.pageIndex pkt.chunkIndex]
                else
                  []) ++
                  windowFrom (s.senders i) ((s.senders i).nextChunk + 1))) := by
  have quiet : Advances i s s [] (s.senders i).nextChunk [] :=
    .ofSame (fun _ => rfl) rfl fun _ => ⟨_, rfl⟩
  have untrack : (Action.untrack pkt.hdr.trackingId).Plain := rfl
  cases handleLargeDataChunkAck_taken handled with
  | ignored => exact .inl quiet
  | untracked =>
      exact .inl (.ofPut untrack (.ofSame (fun _ => rfl) rfl
        fun _ => ⟨_, rfl⟩))
  | @finishes senderIdx =>
      cases one_sender senderIdx i
      exact .inl (.ofPut untrack finishTransfer_advances)
  | @continues senderIdx accepted found from_ going =>
      cases one_sender senderIdx i
      have reaches : s.Reaches env pkt srcId i := ⟨accepted, found, from_⟩
      rcases @continueTransfer_advances env
        (s.put (.untrack pkt.hdr.trackingId)) i pkt srcId role
        small (inRange reaches going) with stays | counted
      · exact .inl (.ofPut untrack stays)
      · obtain ⟨upstream, goes, packets, advances⟩ := counted
        exact .inr ⟨reaches, going, upstream, goes, packets,
          .ofPut untrack advances⟩

/-- The window that starts where the transfer is. -/
def windowHere (sender : LdSender) : List Nat :=
  List.range' sender.nextChunk.toNat
    (min 4 (sender.totalChunks.toNat - sender.nextChunk.toNat))

theorem answerInitAck_advances
    {pkt : LargeDataInitAck} {srcId : UInt16} {idx : Fin ldReceiverSlotCount}
    (small : (s.senders i).totalChunks.toNat ≤ 8192) :
    ∃ packets sent, (sent = [] ∨ sent = windowHere (s.senders i)) ∧
      Advances i s (s.answerInitAck env pkt srcId i idx) packets
        (s.senders i).nextChunk sent := by
  have nothing {t : LdPlane}
      (advances : Advances i s t [] (s.senders i).nextChunk []) :
      ∃ packets sent, (sent = [] ∨ sent = windowHere (s.senders i)) ∧
        Advances i s t packets (s.senders i).nextChunk sent :=
    ⟨[], [], .inl rfl, advances⟩
  unfold answerInitAck
  dsimp only
  split
  · exact nothing (.ofSame (fun other => setSent_content _ _ other) rfl
      fun _ => ⟨_, by simp [setSender, setSlot]; rfl⟩)
  · split
    · split
      · exact nothing (.ofSame (fun _ => rfl) rfl fun _ => ⟨_, rfl⟩)
      · obtain ⟨packets, emits, carried, whole⟩ :=
          @sendNextLargeDataChunk_advances env s i srcId small
        refine ⟨packets, windowHere (s.senders i), .inr rfl,
          { content := fun idx => congrArg LdSlot.content
              (congrFun emits.slots idx)
            mem := emits.mem
            out := emits.out
            carried := carried
            going := ?_ }⟩
        intro active
        rcases result : (s.sendNextLargeDataChunk env srcId i).2 with
          _ | errno
        · exact ⟨emits.kept result, whole result⟩
        · have stopped := emits.lost (by rw [result]; simp)
          rw [stopped] at active
          cases active
    · split
      · refine nothing (.ofSame (fun other => ?_) rfl fun active => ?_)
        · exact (@SameStore.setSlot (s.freeSenderSlot i) idx
            { s.slots idx with isTransfered := true } rfl).slots other
        · simp [freeSenderSlot, setSender, setSlot] at active
      · exact nothing (.ofSame (fun _ => rfl) rfl fun _ => ⟨_, rfl⟩)

theorem handleLargeDataInitAck_advances
    {pkt : LargeDataInitAck} {srcId : UInt16}
    (small : (s.senders i).totalChunks.toNat ≤ 8192)
    (handled : s.handleLargeDataInitAck env pkt srcId = .ok s') :
    ∃ packets sent, (sent = [] ∨ sent = windowHere (s.senders i)) ∧
      Advances i s s' packets (s.senders i).nextChunk sent := by
  have untrack : (Action.untrack pkt.hdr.trackingId).Plain := rfl
  cases handleLargeDataInitAck_taken handled with
  | ignored =>
      exact ⟨[], [], .inl rfl, .ofSame (fun _ => rfl) rfl fun _ => ⟨_, rfl⟩⟩
  | untracked =>
      exact ⟨[], [], .inl rfl, .ofPut untrack (.ofSame (fun _ => rfl) rfl
        fun _ => ⟨_, rfl⟩)⟩
  | @answered senderIdx idx =>
      cases one_sender senderIdx i
      obtain ⟨packets, sent, which, advances⟩ :=
        @answerInitAck_advances env (s.put (.untrack pkt.hdr.trackingId))
          i pkt srcId idx small
      exact ⟨packets, sent, which, .ofPut untrack advances⟩

end LdPlane

end DectMesh
