import DectMesh.LargeData.Staging

/-!
# The framings of one blob

A blob travels in payloads of 472 bytes on the serial lines and in chunks of
180 bytes on the radio.  Whatever slot holds it, each framing is cut out of the
same pages and puts the same bytes together.
-/

namespace DectMesh

open ByteStore

section Slices

variable {store : Store} {addr size length count : Nat} {cut : Nat → Nat}

/-- The first blocks of a blob make one slice. -/
theorem slices_first
    (positive : 0 < size) (enough : (length + size - 1) / size = count)
    (cuts : ∀ index, index < count →
      cut index = min size (length - index * size)) {taken : Nat}
    (inside : taken ≤ count) :
    ((List.range taken).map fun index =>
      slice store (addr + index * size) (cut index)).flatten =
        slice store addr (min (taken * size) length) := by
  induction taken with
  | zero => simp
  | succ taken ih =>
      have fits : (taken + 1) * size ≤ length + size - 1 := by
        rw [← Nat.le_div_iff_mul_le positive, enough]
        exact inside
      rw [Nat.succ_mul] at fits ⊢
      have whole : min (taken * size) length = taken * size := by omega
      have next : min (taken * size + size) length =
          taken * size + cut taken := by
        rw [cuts taken inside]
        omega
      rw [List.range_succ, List.map_append, List.flatten_append,
        ih (by omega), whole, next, slice_add]
      simp

/-- All blocks of a blob make one slice. -/
theorem slices_flatten
    (positive : 0 < size) (enough : (length + size - 1) / size = count)
    (cuts : ∀ index, index < count →
      cut index = min size (length - index * size)) :
    ((List.range count).map fun index =>
      slice store (addr + index * size) (cut index)).flatten =
        slice store addr length := by
  have covers : length + size - 1 < count * size + size := by
    rw [← enough]
    exact Nat.lt_div_mul_add positive
  rw [slices_first positive enough cuts (Nat.le_refl count)]
  congr 1
  omega

end Slices

section Radio

variable {crc : Checksum} {blob : List UInt8} {slot : LdSlot} {mem : Store}

/-- A ready slot is offered as it is. -/
theorem LdSlot.Holds.offers
    (holds : slot.Holds crc mem blob) (nonempty : 1 ≤ blob.length)
    (bound : blob.length ≤ ldMaxTransferSize) (env : Env) :
    (LdPlane.senderFor env slot).Offers crc blob where
  nonempty := nonempty
  bound := bound
  totalSize := holds.totalSize
  totalChunks := holds.totalChunks
  pageCount := by
    rw [LdPlane.senderFor, UInt8.toNat_toUInt16]
    exact holds.pageCount
  lastChunkSize := holds.lastChunkSize
  crc32 := holds.crc32

/-- A transfer is set up: the sender entry describes the blob, and its pages
hold it. -/
structure LdPlane.Sends (s : LdPlane) (crc : Checksum)
    (senderIdx : Fin ldSenderSlotCount) (blob : List UInt8) : Prop where
  offers : (s.senders senderIdx).Offers crc blob
  stored :
    slice s.io.psram.mem (s.senders senderIdx).baseAddr.toNat blob.length = blob
  inside : (s.senders senderIdx).baseAddr.toNat + blob.length ≤ psramSize
  reliable : s.io.psram.Reliable

/-- The bytes `send_next_large_data_chunk` reads for chunk `linear`. -/
def radioSlice (sender : LdSender) (mem : Store) (linear : Nat) : List UInt8 :=
  slice mem (sender.baseAddr.toNat + linear * ldChunkSize)
    (LdPlane.chunkSizeFor sender (UInt16.ofNat linear)).toNat

/-- The header of the chunks that go to `dstId`. -/
def chunkHeader (env : Env) (sender : LdSender) (dstId : UInt16) :
    PacketHeader where
  deviceType := env.deviceType.code
  priority := sender.priority
  deviceId := dstId

variable {env : Env} {s : LdPlane} {sender : LdSender}
variable {senderIdx : Fin ldSenderSlotCount} {dstId : UInt16}

/-- A chunk that is read from the pages is the chunk of the blob. -/
theorem chunkPacket_eq
    {linear : Nat} (offers : sender.Offers crc blob)
    (stored : slice mem sender.baseAddr.toNat blob.length = blob)
    (below : linear < (blob.length + 179) / 180) :
    LdPlane.chunkPacket env sender dstId
        (UInt8.ofNat (linear / ldChunksPerPage))
        (UInt8.ofNat (linear % ldChunksPerPage))
        (radioSlice sender mem linear) =
      sender.chunk (chunkHeader env sender dstId) blob linear := by
  have size : ldChunkSize = 180 := rfl
  have cut := offers.chunkSize below
  have read : radioSlice sender mem linear =
      (blob.drop (linear * ldChunkSize)).take
        (LdPlane.chunkSizeFor sender (UInt16.ofNat linear)).toNat := by
    have dropped := @slice_drop mem sender.baseAddr.toNat
      (linear * ldChunkSize) blob.length (by rw [size]; omega)
    have taken := @slice_take mem
      (sender.baseAddr.toNat + linear * ldChunkSize)
      (LdPlane.chunkSizeFor sender (UInt16.ofNat linear)).toNat
      (blob.length - linear * ldChunkSize) (by rw [cut, size]; omega)
    rw [stored] at dropped
    rw [← dropped] at taken
    exact taken.symm
  rw [read]
  rfl

/-- One chunk is read and sent. -/
theorem readAndSendChunk_reliable
    {timeout : NbTimeout} {page chunk : UInt8} {linear : Nat}
    (here : s.senders senderIdx = { sender with timeout := timeout })
    (contents : s.io.psram.mem = mem) (reliable : s.io.psram.Reliable)
    (fits : sender.baseAddr.toNat + linear * ldChunkSize +
      (LdPlane.chunkSizeFor sender (UInt16.ofNat linear)).toNat ≤ psramSize) :
    ∃ s' timeout',
      s.readAndSendChunk env dstId senderIdx page chunk linear = (s', none) ∧
        s'.senders senderIdx = { sender with timeout := timeout' } ∧
          s'.io.psram.mem = mem ∧ s'.io.psram.Reliable ∧
            s'.io.out = s.io.out ++ [.request (.largeDataChunk
              (LdPlane.chunkPacket env sender dstId page chunk
                (radioSlice sender mem linear)))] := by
  obtain ⟨success, later⟩ := reliable.read fits
  have same := Psram.read_mem s.io.psram
    (sender.baseAddr.toNat + linear * ldChunkSize)
    (LdPlane.chunkSizeFor sender (UInt16.ofNat linear)).toNat
  have reading : s.io.read (sender.baseAddr.toNat + linear * ldChunkSize)
      (LdPlane.chunkSizeFor sender (UInt16.ofNat linear)).toNat =
        ((s.io.read (sender.baseAddr.toNat + linear * ldChunkSize)
          (LdPlane.chunkSizeFor sender (UInt16.ofNat linear)).toNat).1,
          .ok (radioSlice sender mem linear)) := by
    rw [contents] at success
    exact Prod.ext rfl success
  have cut : LdPlane.chunkSizeFor { sender with timeout := timeout }
      (UInt16.ofNat linear) =
        LdPlane.chunkSizeFor sender (UInt16.ofNat linear) := rfl
  unfold LdPlane.readAndSendChunk
  rw [here]
  dsimp only
  rw [cut, reading]
  refine ⟨_, timeout.start env.now, rfl, ?_, ?_, ?_, ?_⟩
  · simp [LdPlane.put, LdPlane.setSender]
  · exact same.trans contents
  · exact later
  · rfl

/-- The rest of a window is sent. -/
theorem sendNextLoop_out
    (offers : sender.Offers crc blob)
    (stored : slice mem sender.baseAddr.toNat blob.length = blob)
    (inside : sender.baseAddr.toNat + blob.length ≤ psramSize) :
    ∀ (rounds i : Nat) (s : LdPlane) (timeout : NbTimeout),
      s.senders senderIdx = { sender with timeout := timeout } →
        s.io.psram.mem = mem → s.io.psram.Reliable →
          (LdPlane.sendNextLoop env dstId senderIdx rounds i s).2 = none ∧
            (LdPlane.sendNextLoop env dstId senderIdx rounds i s).1.io.out =
              s.io.out ++
                (List.range' (sender.nextChunk.toNat + i)
                  (min rounds ((blob.length + 179) / 180 -
                    (sender.nextChunk.toNat + i)))).map fun linear =>
                  .request (.largeDataChunk
                    (sender.chunk (chunkHeader env sender dstId) blob linear))
  | 0, i, s, timeout, here, contents, reliable => by
      simp [LdPlane.sendNextLoop]
  | rounds + 1, i, s, timeout, here, contents, reliable => by
      have total := offers.totalChunks
      rw [LdPlane.sendNextLoop, here]
      dsimp only
      by_cases done : sender.totalChunks.toNat ≤ sender.nextChunk.toNat + i
      · rw [if_pos done]
        have none : (blob.length + 179) / 180 -
            (sender.nextChunk.toNat + i) = 0 := by omega
        simp [none]
      · have below : sender.nextChunk.toNat + i < (blob.length + 179) / 180 := by
          omega
        have cut := offers.chunkSize below
        have size : ldChunkSize = 180 := rfl
        obtain ⟨s', timeout', sent, here', contents', reliable', out⟩ :=
          @readAndSendChunk_reliable mem env s sender senderIdx dstId timeout
            (UInt8.ofNat ((sender.nextChunk.toNat + i) / ldChunksPerPage))
            (UInt8.ofNat ((sender.nextChunk.toNat + i) % ldChunksPerPage))
            (sender.nextChunk.toNat + i) here contents reliable
            (by rw [cut, size]; omega)
        rw [chunkPacket_eq offers stored below] at out
        obtain ⟨success, rest⟩ := sendNextLoop_out offers stored inside rounds
          (i + 1) s' timeout' here' contents' reliable'
        rw [if_neg done, sent]
        refine ⟨success, ?_⟩
        have more : min (rounds + 1) ((blob.length + 179) / 180 -
            (sender.nextChunk.toNat + i)) =
              min rounds ((blob.length + 179) / 180 -
                (sender.nextChunk.toNat + (i + 1))) + 1 := by omega
        rw [rest, out, more, List.range'_succ, List.map_cons,
          List.append_assoc, List.singleton_append, ← Nat.add_assoc]

/-- The windows of the radio cover the blob, chunk after chunk. -/
theorem sendNextLargeDataChunk_out (sends : s.Sends crc senderIdx blob) :
    (s.sendNextLargeDataChunk env dstId senderIdx).2 = none ∧
      (s.sendNextLargeDataChunk env dstId senderIdx).1.io.out =
        s.io.out ++
          (List.range' (s.senders senderIdx).nextChunk.toNat
            (min 4 ((blob.length + 179) / 180 -
              (s.senders senderIdx).nextChunk.toNat))).map fun linear =>
            .request (.largeDataChunk
              ((s.senders senderIdx).chunk
                (chunkHeader env (s.senders senderIdx) dstId) blob linear)) :=
  sendNextLoop_out sends.offers sends.stored sends.inside 4 0 s _ rfl rfl
    sends.reliable

/-- What is read for the chunks of a transfer is the blob. -/
theorem radioSlices_flatten (sends : s.Sends crc senderIdx blob) :
    ((List.range (s.senders senderIdx).totalChunks.toNat).map
      (radioSlice (s.senders senderIdx) s.io.psram.mem)).flatten = blob := by
  have total := sends.offers.totalChunks
  have flat := @slices_flatten s.io.psram.mem
    (s.senders senderIdx).baseAddr.toNat ldChunkSize blob.length
    (s.senders senderIdx).totalChunks.toNat _ (by decide) total.symm
    fun index below => sends.offers.chunkSize (total ▸ below)
  rw [sends.stored] at flat
  exact flat

end Radio

section NextHop

variable {crc : Checksum} {blob : List UInt8} {sender : LdSender}
variable {env : Env} {s : LdPlane}

/-- The next hop is free to take the blob. -/
structure LdPlane.Takes (s : LdPlane) (env : Env) (sender : LdSender)
    (hdr : PacketHeader) : Prop where
  role : env.deviceType = .gateway ∨ env.deviceType = .anchor
  accepted : env.accepts hdr = true
  below : isDownstreamType hdr.deviceType = true
  idle : s.ldBusy = false
  fresh : s.findLargeDataSlot sender.genDeviceId sender.dataId = none
  free : ∃ idx, (s.slots idx).active = false
  room : ∃ start, s.Room sender.totalSize start
  reliable : s.io.psram.Reliable

/-- The announcement finds a slot. -/
theorem validateLargeDataSlot_taken
    {hdr : PacketHeader} (reportTimeMs : UInt64)
    (offers : sender.Offers crc blob) (takes : s.Takes env sender hdr) :
    (s.validateLargeDataSlot env (sender.announcement hdr reportTimeMs)).2 =
      statusSuccess := by
  have nonempty := offers.nonempty
  have total := offers.totalSize
  have fresh : s.findLargeDataSlot
      (sender.announcement hdr reportTimeMs).genDeviceId
      (sender.announcement hdr reportTimeMs).dataId = none := takes.fresh
  unfold LdPlane.validateLargeDataSlot
  rw [if_neg (by simp [takes.idle]), fresh]
  dsimp only
  rcases allocated : s.allocLargeDataSlot
      (sender.announcement hdr reportTimeMs).totalSize with _ | ⟨after, idx⟩
  · rw [allocLargeDataSlot_none (by
      simp only [LdSender.announcement]
      omega)] at allocated
    obtain ⟨slot, inactive⟩ := takes.free
    obtain ⟨start, run⟩ := takes.room
    rcases allocated with full | none
    · rw [full slot] at inactive
      cases inactive
    · exact absurd run (none start)
  · rfl

/-- `handle_large_data_init` of the next hop answers `STATUS_SUCCESS`. -/
theorem handleLargeDataInit_taken
    {hdr : PacketHeader} (reportTimeMs : UInt64) (srcId : UInt16)
    (offers : sender.Offers crc blob) (takes : s.Takes env sender hdr) :
    s.handleLargeDataInit env (sender.announcement hdr reportTimeMs) srcId =
      (s.validateLargeDataSlot env
        (sender.announcement hdr reportTimeMs)).1.put
          (.reply (.largeDataInitAck
            { hdr := env.replyHeader statusSuccess srcId packetPriorityHigh
                hdr.trackingId
              genDeviceId := sender.genDeviceId
              dataId := sender.dataId })) := by
  have limit : ldMaxTransferSize = 204800 := rfl
  have size : ldChunkSize = 180 := rfl
  have nonempty := offers.nonempty
  have bound := offers.bound
  have total := offers.totalSize
  have pages := offers.pageCount
  have last := offers.lastChunkSize
  have success := validateLargeDataSlot_taken reportTimeMs offers takes
  have pageCount : sender.pageCount.toUInt8.toNat =
      ((blob.length + 179) / 180 + 31) / 32 := by
    rw [UInt16.toNat_toUInt8, pages]
    omega
  have valid : ¬ ((sender.announcement hdr reportTimeMs).totalSize = 0 ∨
      ldMaxTransferSize <
          (sender.announcement hdr reportTimeMs).totalSize.toNat ∨
        (sender.announcement hdr reportTimeMs).pageCount = 0 ∨
          (sender.announcement hdr reportTimeMs).lastChunkSize = 0 ∨
            ldChunkSize <
              (sender.announcement hdr reportTimeMs).lastChunkSize.toNat) := by
    dsimp only [LdSender.announcement]
    rw [← UInt32.toNat_inj, ← UInt8.toNat_inj, ← UInt16.toNat_inj, total,
      pageCount, last]
    change ¬ (_ = 0 ∨ _ ∨ _ = 0 ∨ _ = 0 ∨ _)
    omega
  have considers : LdPlane.Considers env
      (sender.announcement hdr reportTimeMs) :=
    ⟨⟨takes.role, takes.accepted, takes.below⟩, valid⟩
  rw [LdPlane.handleLargeDataInit_answer considers, success]
  rfl

/-- A slot with all its chunks holds the blob. -/
theorem LdReassembling.holds
    {idx : Fin ldReceiverSlotCount} {seen : List Nat}
    (state : LdReassembling crc sender blob idx seen s)
    (offers : sender.Offers crc blob)
    (all : ∀ linear, linear < (blob.length + 179) / 180 → linear ∈ seen) :
    (s.slots idx).Holds crc s.io.psram.mem blob where
  active := state.active
  ready := state.ready.mpr all
  stored := state.blob_stored all
  inside := state.inside
  totalSize := by rw [state.totalSize, offers.totalSize]
  totalChunks := by rw [state.totalChunks, offers.totalChunks]
  pageCount := by
    have limit : ldMaxTransferSize = 204800 := rfl
    have bound := offers.bound
    rw [state.pageCount, UInt16.toNat_toUInt8, offers.pageCount]
    omega
  lastChunkSize := by rw [state.lastChunkSize, offers.lastChunkSize]
  crc32 := by rw [state.crc32, offers.crc32]

/-- Different chunks are all new. -/
theorem statuses_eq_replicate
    {arrivals : List LdArrival} {statuses : List UInt8}
    (distinct : (arrivals.map LdArrival.linear).Nodup)
    (count : statuses.length = arrivals.length)
    (answers : ∀ k arrival, arrivals[k]? = some arrival →
      statuses[k]? = some
        (if arrival.linear ∈ ([] : List Nat) ∨
            ∃ earlier ∈ arrivals.take k, earlier.linear = arrival.linear
          then statusAlreadyExists else statusSuccess)) :
    statuses = List.replicate arrivals.length statusSuccess := by
  have apart : arrivals.Pairwise fun earlier later =>
      earlier.linear ≠ later.linear :=
    List.pairwise_map.mp distinct
  apply List.ext_getElem
  · simp [count]
  · intro k inside _
    have within : k < arrivals.length := count ▸ inside
    have answer := answers k _ (List.getElem?_eq_getElem within)
    have fresh : ¬ (arrivals[k].linear ∈ ([] : List Nat) ∨
        ∃ earlier ∈ arrivals.take k,
          earlier.linear = arrivals[k].linear) := by
      rintro (member | ⟨earlier, member, same⟩)
      · cases member
      · obtain ⟨j, small, rfl⟩ := List.getElem_of_mem member
        rw [List.length_take] at small
        rw [List.getElem_take] at same
        exact List.pairwise_iff_getElem.mp apart j k (by omega) within
          (by omega) same
    rw [if_neg fresh, List.getElem?_eq_getElem inside, Option.some.injEq]
      at answer
    rw [answer, List.getElem_replicate]

/-- The next hop accepts the announcement and, in whatever order, every chunk,
and then holds the blob itself. -/
theorem nextHop_accepts
    {hdr : PacketHeader} (reportTimeMs : UInt64) (srcId : UInt16)
    (offers : sender.Offers crc blob) (takes : s.Takes env sender hdr)
    {arrivals : List LdArrival}
    (allowed : ∀ arrival ∈ arrivals, arrival.env.crc = crc ∧
      arrival.linear < (blob.length + 179) / 180)
    (distinct : (arrivals.map LdArrival.linear).Nodup) :
    ∃ after final : LdPlane, s.handleLargeDataInit env
          (sender.announcement hdr reportTimeMs) srcId =
        after.put (.reply (.largeDataInitAck
          { hdr := env.replyHeader statusSuccess srcId packetPriorityHigh
              hdr.trackingId
            genDeviceId := sender.genDeviceId
            dataId := sender.dataId })) ∧
      after.validateChunks (arrivals.map fun arrival =>
          (arrival.env, sender.chunk arrival.hdr blob arrival.linear)) =
        .ok (final, List.replicate arrivals.length statusSuccess) ∧
      ((∀ linear, linear < (blob.length + 179) / 180 →
          linear ∈ arrivals.map LdArrival.linear) →
        ∃ idx, final.findLargeDataSlot sender.genDeviceId sender.dataId =
            some idx ∧
          (final.slots idx).Holds crc final.io.psram.mem blob ∧
            final.io.psram.Reliable) := by
  have success := validateLargeDataSlot_taken reportTimeMs offers takes
  obtain ⟨idx, started⟩ := LdReassembling.start offers takes.reliable
    (Prod.ext rfl success)
  obtain ⟨final, statuses, received, state, count, answers⟩ :=
    LdReassembling.run offers allowed started
  have accepted := statuses_eq_replicate distinct count answers
  refine ⟨_, final, handleLargeDataInit_taken reportTimeMs srcId offers takes,
    accepted ▸ received, fun all => ⟨idx, ?_, ?_, state.reliable⟩⟩
  · exact LdPlane.findLargeDataSlot_of_only state.active state.gen state.id
      state.only
  · refine state.holds offers fun linear below => ?_
    simpa using all linear below

end NextHop

section Gateway

variable {crc : Checksum} {blob : List UInt8} {slot : LdSlot} {s : LdPlane}
variable {sender : LdSender} {senderIdx : Fin ldSenderSlotCount}

/-- The bytes `at_send_next_chunk` reads for payload `linear`. -/
def serialSlice (sender : LdSender) (mem : Store) (linear : Nat) :
    List UInt8 :=
  slice mem (sender.baseAddr.toNat + linear * atDataPayloadMax)
    (if linear + 1 = sender.totalChunks.toNat then
      sender.lastChunkSize.toNat
    else
      atDataPayloadMax)

/-- The serial framing of a slot that holds a blob. -/
structure LdSender.Serves (sender : LdSender) (mem : Store)
    (blob : List UInt8) : Prop where
  active : sender.active = true
  totalChunks : sender.totalChunks.toNat = serialCount blob
  pageCount : sender.pageCount.toNat = (serialCount blob + 31) / 32
  lastChunkSize :
    sender.lastChunkSize.toNat =
      blob.length - (serialCount blob - 1) * 472
  stored : slice mem sender.baseAddr.toNat blob.length = blob
  inside : sender.baseAddr.toNat + blob.length ≤ psramSize

/-- `gateway_large_data_tick` cuts the blob of a slot for the serial line. -/
theorem LdSlot.Holds.serves
    {mem : Store} (holds : slot.Holds crc mem blob)
    (bound : blob.length ≤ ldMaxTransferSize) (before : LdSender)
    (nextChunk : UInt16) :
    { LdPlane.gatewaySender before slot with
      nextChunk := nextChunk }.Serves mem blob := by
  have payloadMax : atDataPayloadMax = 472 := rfl
  have perPage : ldChunksPerPage = 32 := rfl
  have limit : ldMaxTransferSize = 204800 := rfl
  have total := holds.totalSize
  have most := serialCount_le bound
  have exact_ : serialCount blob = (blob.length + 471) / 472 := rfl
  have chunks : (UInt16.ofNat (chunksOf slot.totalSize atDataPayloadMax)).toNat =
      serialCount blob := by
    rw [UInt16.toNat_ofNat', chunksOf, total, payloadMax]
    omega
  constructor
  any_goals dsimp only [LdPlane.gatewaySender]
  · exact chunks
  · rw [UInt16.toNat_ofNat', chunks, perPage]
    omega
  · rw [UInt16.toNat_ofNat', chunks, total, payloadMax]
    omega
  · exact holds.stored
  · exact holds.inside

/-- Every payload but the last has 472 bytes. -/
theorem LdSender.Serves.cut
    {mem : Store} {linear : Nat} (serves : sender.Serves mem blob)
    (below : linear < serialCount blob) :
    (if linear + 1 = sender.totalChunks.toNat then
      sender.lastChunkSize.toNat
    else
      atDataPayloadMax) = min atDataPayloadMax (blob.length - linear * 472) := by
  have payloadMax : atDataPayloadMax = 472 := rfl
  have exact_ : serialCount blob = (blob.length + 471) / 472 := rfl
  rw [serves.totalChunks, serves.lastChunkSize, payloadMax]
  split
  · next last =>
    rw [← last]
    omega
  · omega

/-- The payloads of the serial framing make the blob. -/
theorem serialSlices_flatten
    {mem : Store} (serves : sender.Serves mem blob) :
    ((List.range sender.totalChunks.toNat).map
      (serialSlice sender mem)).flatten = blob := by
  have total := serves.totalChunks
  have flat := @slices_flatten mem sender.baseAddr.toNat atDataPayloadMax
    blob.length sender.totalChunks.toNat _ (by decide) total.symm
    fun index below => serves.cut (total ▸ below)
  rw [serves.stored] at flat
  exact flat

/-- `at_send_next_chunk` writes the payload of its page and chunk. -/
theorem atSendNextChunk_serves
    {linear : Nat}
    (serves : (s.senders senderIdx).Serves s.io.psram.mem blob)
    (reliable : s.io.psram.Reliable)
    (pending : (s.senders senderIdx).nextChunk.toNat < serialCount blob)
    (below : linear < serialCount blob) :
    ∃ psram, psram.mem = s.io.psram.mem ∧ psram.Reliable ∧
      s.atSendNextChunk senderIdx (linear / ldChunksPerPage)
          (linear % ldChunksPerPage) =
        ({ s with io := { s.io with psram := psram } } : LdPlane).sendLine
          (.ld s.deviceIdCache (s.senders senderIdx).dataId
            (linear / ldChunksPerPage) (linear % ldChunksPerPage)
            (serialSlice (s.senders senderIdx) s.io.psram.mem linear)) := by
  have payloadMax : atDataPayloadMax = 472 := rfl
  have perPage : ldChunksPerPage = 32 := rfl
  have exact_ : serialCount blob = (blob.length + 471) / 472 := rfl
  have inside := serves.inside
  have cut := serves.cut below
  have position : linear / 32 * 32 + linear % 32 = linear := by omega
  obtain ⟨success, later⟩ := @Psram.Reliable.read s.io.psram reliable
    ((s.senders senderIdx).baseAddr.toNat + linear * atDataPayloadMax)
    (if linear + 1 = (s.senders senderIdx).totalChunks.toNat then
      (s.senders senderIdx).lastChunkSize.toNat
    else
      atDataPayloadMax) (by
        rw [cut, payloadMax]
        omega)
  have proceeds : ¬ ((!(s.senders senderIdx).active) = true ∨
      (s.senders senderIdx).pageCount.toNat ≤ linear / ldChunksPerPage ∨
        ldChunksPerPage ≤ linear % ldChunksPerPage ∨
          (s.senders senderIdx).totalChunks.toNat ≤
            linear / ldChunksPerPage * ldChunksPerPage +
              linear % ldChunksPerPage ∨
            (s.senders senderIdx).totalChunks ≤
              (s.senders senderIdx).nextChunk) := by
    rw [serves.active, UInt16.le_iff_toNat_le, serves.totalChunks,
      serves.pageCount, perPage]
    simp only [Bool.not_true, Bool.false_eq_true, false_or]
    omega
  refine ⟨_, Psram.read_mem _ _ _, later, ?_⟩
  unfold LdPlane.atSendNextChunk
  dsimp only
  rw [if_neg proceeds, perPage, position]
  have reading : s.io.read
      ((s.senders senderIdx).baseAddr.toNat + linear * atDataPayloadMax)
      (if linear + 1 = (s.senders senderIdx).totalChunks.toNat then
        (s.senders senderIdx).lastChunkSize.toNat
      else
        atDataPayloadMax) =
      (_, .ok (serialSlice (s.senders senderIdx) s.io.psram.mem linear)) :=
    Prod.ext rfl success
  rw [reading]
  rfl

end Gateway

section Agreement

variable (blob : List UInt8)

/-- The host stages the blob on a sensor that is paired and has room for it:
every line fits the command buffer, and the sensor that reads the lines in
order ends with the blob in one slot. -/
def StagedByHost : Prop :=
  ∀ (board : Board) (sn : UInt64) (id : UInt8) (s : LdPlane),
    board.deviceType = .sensor → board.crc = Checksum.crc32Ieee →
      board.crc16 = Checksum.crc16Ccitt → s.io.psram.Reliable →
        s.findLargeDataSlot board.deviceId id = none →
          (∃ idx, (s.slots idx).active = false) →
            (∃ start, s.Room (UInt32.ofNat blob.length) start) →
              ∃ init lines events,
                sendLargeData sn.toNat id.toNat blob = some (init, lines) ∧
                  (∀ line ∈ init :: lines,
                    line.length < slmUartAtCommandLen) ∧
                    List.Forall₂ SensorReads (init :: lines) events ∧
                      ∀ env envs, (∀ each ∈ env :: envs,
                          OnSensor board sn each) →
                        env.connectedDeviceId ≠ 0xFFFF →
                          envs.length = lines.length →
                            ∃ idx, Trace.Ends ldStep s
                              ((env :: envs).zip events)
                              (LdStaged board id blob idx)

/-- The windows of the radio send the chunks of the blob, which are read from
the slot and together are the blob; their indices fit a byte. -/
def SentByRadio : Prop :=
  ∀ (crc : Checksum) (env : Env) (s : LdPlane)
    (idx : Fin ldReceiverSlotCount) (senderIdx : Fin ldSenderSlotCount)
    (dstId : UInt16),
    (s.slots idx).Holds crc s.io.psram.mem blob → s.io.psram.Reliable →
      ∀ nextChunk timeout, s.senders senderIdx =
          { LdPlane.senderFor env (s.slots idx) with
            nextChunk := nextChunk, timeout := timeout } →
        ((List.range (s.senders senderIdx).totalChunks.toNat).map
            (radioSlice (s.senders senderIdx) s.io.psram.mem)).flatten =
          blob ∧
          (s.sendNextLargeDataChunk env dstId senderIdx).2 = none ∧
            (s.sendNextLargeDataChunk env dstId senderIdx).1.io.out =
              s.io.out ++ (List.range' nextChunk.toNat
                (min 4 ((s.senders senderIdx).totalChunks.toNat -
                  nextChunk.toNat))).map (fun linear =>
                .request (.largeDataChunk
                  (LdPlane.chunkPacket env (s.senders senderIdx) dstId
                    (UInt8.ofNat (linear / ldChunksPerPage))
                    (UInt8.ofNat (linear % ldChunksPerPage))
                    (radioSlice (s.senders senderIdx) s.io.psram.mem
                      linear)))) ∧
              ∀ linear, linear < (s.senders senderIdx).totalChunks.toNat →
                LdPlane.linearIndex (UInt8.ofNat (linear / ldChunksPerPage))
                  (UInt8.ofNat (linear % ldChunksPerPage)) = linear

/-- The next hop accepts the announcement of the slot and each of its chunks,
in whatever order, and holds the blob once it has them all. -/
def TakenByNextHop : Prop :=
  ∀ (crc : Checksum) (child : Env) (slot : LdSlot) (mem : Store) (env : Env)
    (s : LdPlane) (hdr : PacketHeader) (reportTimeMs : UInt64)
    (srcId : UInt16),
    slot.Holds crc mem blob →
      s.Takes env (LdPlane.senderFor child slot) hdr →
        ∀ chunks : List (Env × Nat),
          (∀ chunk ∈ chunks, chunk.1.crc = crc ∧
            chunk.2 < slot.totalChunks.toNat) →
            (chunks.map Prod.snd).Nodup →
              ∃ after final : LdPlane,
                s.handleLargeDataInit env
                    ((LdPlane.senderFor child slot).announcement hdr
                      reportTimeMs) srcId =
                  after.put (.reply (.largeDataInitAck
                    { hdr := env.replyHeader statusSuccess srcId
                        packetPriorityHigh hdr.trackingId
                      genDeviceId := slot.genDeviceId
                      dataId := slot.dataId })) ∧
                after.validateChunks (chunks.map fun chunk =>
                    (chunk.1, LdPlane.chunkPacket child
                      (LdPlane.senderFor child slot) child.parent.deviceId
                      (UInt8.ofNat (chunk.2 / ldChunksPerPage))
                      (UInt8.ofNat (chunk.2 % ldChunksPerPage))
                      (radioSlice (LdPlane.senderFor child slot) mem
                        chunk.2))) =
                  .ok (final, List.replicate chunks.length statusSuccess) ∧
                ((∀ linear, linear < slot.totalChunks.toNat →
                    linear ∈ chunks.map Prod.snd) →
                  ∃ idx, final.findLargeDataSlot slot.genDeviceId slot.dataId =
                      some idx ∧
                    (final.slots idx).Holds crc final.io.psram.mem blob ∧
                      final.io.psram.Reliable)

/-- A gateway writes the payloads of the blob to its host, which are read from
the slot and together are the blob; the indices fit a byte and each line the
command buffer. -/
def SentToHost : Prop :=
  ∀ (crc : Checksum) (s : LdPlane) (idx : Fin ldReceiverSlotCount)
    (senderIdx : Fin ldSenderSlotCount) (before : LdSender),
    (s.slots idx).Holds crc s.io.psram.mem blob → s.io.psram.Reliable →
      ∀ nextChunk, s.senders senderIdx =
          { LdPlane.gatewaySender before (s.slots idx) with
            nextChunk := nextChunk } →
        (s.senders senderIdx).pageCount.toNat ≤ 0xFF ∧
          ((List.range (s.senders senderIdx).totalChunks.toNat).map
              (serialSlice (s.senders senderIdx) s.io.psram.mem)).flatten =
            blob ∧
            ∀ linear, linear < (s.senders senderIdx).totalChunks.toNat →
              linear / ldChunksPerPage ≤ 0xFF ∧
                (ldText s.deviceIdCache (s.senders senderIdx).dataId
                  (linear / ldChunksPerPage) (linear % ldChunksPerPage)
                  (serialSlice (s.senders senderIdx) s.io.psram.mem
                    linear)).length ≤ slmUartAtCommandLen ∧
                  (nextChunk < (s.senders senderIdx).totalChunks →
                    ∃ psram, psram.mem = s.io.psram.mem ∧ psram.Reliable ∧
                      s.atSendNextChunk senderIdx (linear / ldChunksPerPage)
                          (linear % ldChunksPerPage) =
                        ({ s with io :=
                            { s.io with psram := psram } } : LdPlane).sendLine
                          (.ld s.deviceIdCache (s.senders senderIdx).dataId
                            (linear / ldChunksPerPage)
                            (linear % ldChunksPerPage)
                            (serialSlice (s.senders senderIdx)
                              s.io.psram.mem linear)))

variable {blob}

theorem stagedByHost
    (nonempty : 1 ≤ blob.length) (bound : blob.length ≤ ldMaxTransferSize) :
    StagedByHost blob := by
  intro board sn id s role crc crc16 reliable fresh free room
  have small := id.toNat_lt
  refine ⟨_, _, .cmdLdInit (initArgs sn id blob) ::
    chunkEvents sn id blob 0 (serialCount blob),
    sendLargeData_eq nonempty bound (by omega), ?_, ?_, ?_⟩
  · intro line member
    rcases List.mem_cons.mp member with rfl | member
    · exact initLine_length bound
    · obtain ⟨index, inside, rfl⟩ := List.mem_map.mp member
      exact chunkLine_length bound (List.mem_range.mp inside)
  · refine .cons initLine_read ?_
    rw [chunkEvents, ← List.range_eq_range', List.forall₂_map_left_iff,
      List.forall₂_map_right_iff, List.forall₂_same]
    exact fun index _ => chunkLine_read
  · intro env envs onSensor paired each
    rw [List.length_map, List.length_range] at each
    have staged := sendLargeData_staged role crc crc16 nonempty bound reliable
      fresh free room (onSensor env List.mem_cons_self) paired
      (fun other member => onSensor other (List.mem_cons_of_mem _ member)) each
    rw [each] at staged
    exact staged

theorem sentByRadio
    (nonempty : 1 ≤ blob.length) (bound : blob.length ≤ ldMaxTransferSize) :
    SentByRadio blob := by
  intro crc env s idx senderIdx dstId holds reliable nextChunk timeout here
  have limit : ldMaxTransferSize = 204800 := rfl
  have offers : (s.senders senderIdx).Offers crc blob := by
    rw [here]
    exact { holds.offers nonempty bound env with }
  have sends : s.Sends crc senderIdx blob :=
    { offers := offers
      stored := by
        rw [here]
        exact holds.stored
      inside := by
        rw [here]
        exact holds.inside
      reliable := reliable }
  obtain ⟨success, out⟩ := @sendNextLargeDataChunk_out crc blob env s senderIdx
    dstId sends
  have first : (s.senders senderIdx).nextChunk = nextChunk := by
    rw [here]
  rw [first, ← offers.totalChunks] at out
  refine ⟨radioSlices_flatten sends, success, ?_, ?_⟩
  · rw [out]
    congr 1
    refine List.map_congr_left fun linear member => ?_
    have inside := List.mem_range'_1.mp member
    have total := offers.totalChunks
    rw [chunkPacket_eq offers sends.stored (by omega)]
  · intro linear below
    have total := offers.totalChunks
    exact LdReassembling.linearIndex_chunk (by omega)

theorem takenByNextHop
    (nonempty : 1 ≤ blob.length) (bound : blob.length ≤ ldMaxTransferSize) :
    TakenByNextHop blob := by
  intro crc child slot mem env s hdr reportTimeMs srcId holds takes chunks
    allowed distinct
  have offers := holds.offers nonempty bound child
  have total := holds.totalChunks
  obtain ⟨after, final, answered, accepted, complete⟩ :=
    @nextHop_accepts crc blob _ env s hdr reportTimeMs srcId offers takes
      (chunks.map fun chunk => ⟨chunk.1,
        chunkHeader child (LdPlane.senderFor child slot) child.parent.deviceId,
        chunk.2⟩)
      (by
        intro arrival member
        obtain ⟨chunk, inside, rfl⟩ := List.mem_map.mp member
        rw [← total]
        exact allowed chunk inside)
      (by
        rw [List.map_map]
        exact distinct)
  rw [List.map_map, List.length_map] at accepted
  rw [List.map_map] at complete
  refine ⟨after, final, answered, ?_, ?_⟩
  · rw [← accepted]
    congr 1
    refine List.map_congr_left fun chunk member => ?_
    have below := (allowed chunk member).2
    rw [chunkPacket_eq offers holds.stored (by omega)]
    rfl
  · intro all
    exact complete fun linear below => all linear (by omega)

theorem sentToHost (bound : blob.length ≤ ldMaxTransferSize) :
    SentToHost blob := by
  intro crc s idx senderIdx before holds reliable nextChunk here
  have serves : (s.senders senderIdx).Serves s.io.psram.mem blob := by
    rw [here]
    exact holds.serves bound before nextChunk
  have most := serialCount_le bound
  have perPage : ldChunksPerPage = 32 := rfl
  have payloadMax : atDataPayloadMax = 472 := rfl
  have total := serves.totalChunks
  refine ⟨?_, serialSlices_flatten serves, ?_⟩
  · rw [serves.pageCount]
    omega
  · intro linear below
    rw [total] at below
    refine ⟨by rw [perPage]; omega, ?_, ?_⟩
    · refine ldText_length (by rw [perPage]; omega) (by rw [perPage]; omega) ?_
      rw [serialSlice, slice_length, serves.cut below]
      exact Nat.min_le_left _ _
    · intro pending
      refine atSendNextChunk_serves serves reliable ?_ below
      rw [UInt16.lt_iff_toNat_lt, total] at pending
      rw [here]
      exact pending

/-- The three framings of a blob of up to 200 KiB agree: the serial lines of
the host put it into a slot, the chunks of the radio take it out of a slot and
into the slot of the next hop, and the serial lines of the gateway take it out
again, with every index and every line inside its field. -/
theorem largeDataFramings_agree
    (nonempty : 1 ≤ blob.length) (bound : blob.length ≤ ldMaxTransferSize) :
    StagedByHost blob ∧ SentByRadio blob ∧ TakenByNextHop blob ∧
      SentToHost blob :=
  ⟨stagedByHost nonempty bound, sentByRadio nonempty bound,
    takenByNextHop nonempty bound, sentToHost bound⟩

/-- 500 bytes: two serial payloads and three radio chunks. -/
def ldFramedBlob : List UInt8 := List.replicate 500 7

theorem ldFramedBlob_length : ldFramedBlob.length = 500 :=
  List.length_replicate

/-- Sensor 5, paired with anchor 2. -/
def ldSensor : Env :=
  { deviceType := .sensor, deviceId := 5, crc := Checksum.crc32Ieee
    connectedDeviceId := 2 }

/-- The host stages the 500 bytes on sensor 5 with one announcement and two
payloads. -/
theorem largeDataFramings_agree_500 :
    ∃ init first second events idx,
      sendLargeData ldSensor.serialNumber.toNat 3 ldFramedBlob =
          some (init, [first, second]) ∧
        List.Forall₂ SensorReads [init, first, second] events ∧
          Trace.Ends ldStep (.boot {})
            ([ldSensor, ldSensor, ldSensor].zip events)
            (LdStaged ldSensor.toBoard 3 ldFramedBlob idx) := by
  have length := ldFramedBlob_length
  have agree := @largeDataFramings_agree ldFramedBlob
    (by rw [length]; decide) (by rw [length]; decide)
  obtain ⟨init, lines, events, built, -, read, runs⟩ :=
    agree.1 ldSensor.toBoard ldSensor.serialNumber 3 (.boot {}) rfl rfl rfl
      ⟨rfl, fun outcome member => by cases member⟩ (by decide +kernel)
      ⟨⟨0, by decide⟩, rfl⟩ ⟨0, by
        rw [length]
        exact ⟨by decide, by decide, fun page _ => rfl⟩⟩
  have parts := built.symm.trans
    (@sendLargeData_eq ldFramedBlob ldSensor.serialNumber.toNat 3
      (by rw [length]; decide) (by rw [length]; decide) (by decide))
  have count : serialCount ldFramedBlob = 2 := by
    rw [serialCount, length]
  rw [count, Option.some.injEq, Prod.mk.injEq] at parts
  obtain ⟨rfl, rfl⟩ := parts
  obtain ⟨idx, staged⟩ := runs ldSensor [ldSensor, ldSensor]
    (fun each member => ⟨by simp_all, by simp_all⟩) (by decide) rfl
  exact ⟨_, _, _, events, idx, built, read, staged⟩

end Agreement

end DectMesh
