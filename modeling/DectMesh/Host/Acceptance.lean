import DectMesh.Attribution
import DectMesh.LargeData.Framings

/-!
# Lines of a gateway that its host accepts

What waits in the slots of a gateway reaches the host: the ticks and the answers
to the host write its lines, and the parsers of the host get out of each line
what the slot holds.
-/

namespace DectMesh

open ByteStore

section Reports

variable {env : Env} {s s' t : ReportPlane} {idx : Fin dataSlotCount}

namespace ReportPlane

/-- The slot waits with a verified report of these bytes. -/
structure Waiting (s : ReportPlane) (idx : Fin dataSlotCount)
    (payload : List UInt8) : Prop where
  unsent : s.Unsent idx
  fits : payload.length ≤ maxReportSize
  size : (s.slots idx).totalSize.toNat = payload.length
  stored : slice s.io.psram.mem (slotPsramAddr idx) payload.length = payload
  crc32 : (s.slots idx).crc32 = Checksum.crc32Ieee.ieee payload

/-- The line of this slot. -/
def hostLine (s : ReportPlane) (idx : Fin dataSlotCount) (serialNum : UInt64)
    (payload : List UInt8) : AtLine :=
  .report serialNum (s.slots idx).dataId (s.slots idx).reportTimeMs
    (s.slots idx).totalSize (s.slots idx).crc32 payload

/-- Its characters. -/
def hostText (s : ReportPlane) (idx : Fin dataSlotCount) (serialNum : UInt64)
    (payload : List UInt8) : List Char :=
  reportText serialNum (s.slots idx).dataId (s.slots idx).reportTimeMs
    (s.slots idx).totalSize (s.slots idx).crc32 payload

/-- The loop ends with the round that writes a line. -/
theorem ComesTo.ends {slots : List (Fin dataSlotCount)}
    (comes : ComesTo env slots s idx t)
    (served : forwardSlot env idx t = .ok (s', false)) :
    forwardToHost env slots s = .ok s' := by
  induction comes with
  | first =>
      rw [forwardToHost_cons, served]
      rfl
  | later passed _ ih =>
      rw [forwardToHost_cons, passed]
      exact ih served

/-- The round of a waiting report writes its line. -/
theorem Waiting.served
    {payload : List UInt8} (waiting : t.Waiting idx payload)
    (listed : env.Lists (t.slots idx).genDeviceId)
    (readable : (t.io.read (slotPsramAddr idx) payload.length).2.isOk = true)
    (taken : t.io.uart.head? = none ∨ t.io.uart.head? = some .sent) :
    ∃ s' serialNum, env.Names (t.slots idx).genDeviceId serialNum ∧
      forwardSlot env idx t = .ok (s', false) ∧
        s'.io.out =
          t.io.out ++ [.line (t.hostLine idx serialNum payload)] := by
  obtain ⟨entry, found, names⟩ := Env.meshDevice_listed listed
  rcases read : t.io.read (slotPsramAddr idx) payload.length with
    ⟨io, errno | bytes⟩
  · rw [read] at readable
    cases readable
  · have same : bytes = payload := (Io.read_bytes read).trans waiting.stored
    subst same
    have out := Io.read_out_eq read
    have uart : io.uart = t.io.uart :=
      congrArg (fun outcome => outcome.1.uart) read.symm
    have room : ¬ slmUartAtCommandLen ≤
        reportHeaderLength + (t.slots idx).totalSize.toNat * 2 + 3 := by
      have most : maxReportSize = 256 := rfl
      have length : slmUartAtCommandLen = 1024 := rfl
      have header : reportHeaderLength = 76 := rfl
      have fits := waiting.fits
      rw [waiting.size]
      omega
    have written (text : AtLine) : (io.txWrite text).2 = true ∧
        (io.txWrite text).1.out = io.out ++ [.line text] := by
      unfold Io.txWrite
      rw [uart]
      split
      · next coming =>
        rw [coming] at taken
        rcases taken with none_ | sent
        · cases none_
        · cases sent
      · next coming =>
        rw [coming] at taken
        rcases taken with none_ | sent
        · cases none_
        · cases sent
      · exact ⟨rfl, rfl⟩
    rw [← waiting.size] at read
    have round_ := @forwardSlot_read t env idx io bytes waiting.unsent read
    rw [found] at round_
    dsimp only [Except.bind] at round_
    rw [if_neg room, if_pos (written _).1] at round_
    refine ⟨_, entry.serialNum, names, round_, ?_⟩
    have line := (written (t.hostLine idx entry.serialNum bytes)).2
    rw [out] at line
    exact line

end ReportPlane

end Reports

section Blobs

variable {env : Env} {s : LdPlane} {idx : Fin ldReceiverSlotCount}
variable {blob : List UInt8}

open LdPlane

/-- The tick that picks a blob announces it. -/
theorem LdPlane.PicksUp.announced
    (picks : s.PicksUp idx) (listed : env.Lists (s.slots idx).genDeviceId)
    (taken : s.io.uart.head? ≠ some .dropped) :
    ∃ s' serialNum, env.Names (s.slots idx).genDeviceId serialNum ∧
      s.gatewayLargeDataTick env = .ok s' ∧
        s'.io.out = s.io.out ++ [.line (ldInitLine env
          (gatewaySender (s.senders theSender) (s.slots idx)) (s.slots idx)
          serialNum)] := by
  obtain ⟨entry, found, names⟩ := Env.meshDevice_listed listed
  have ticked := @gatewayTick_picks s env idx picks
  rw [sendAtLargeDataInit_searched fun both => both.2 listed, found] at ticked
  refine ⟨_, entry.serialNum, names, ticked, ?_⟩
  have shown := s.io.txWrite_shown taken (ldInitLine env
    (gatewaySender (s.senders theSender) (s.slots idx)) (s.slots idx)
    entry.serialNum)
  rw [← shown]
  dsimp only
  split <;> rfl

/-- The bytes of a serial payload are those of the blob. -/
theorem LdSender.Serves.payload
    {mem : Store} {sender : LdSender} {linear : Nat}
    (serves : sender.Serves mem blob) (below : linear < serialCount blob) :
    serialSlice sender mem linear = serialPayload blob linear := by
  have payloadMax : atDataPayloadMax = 472 := rfl
  have count : serialCount blob = (blob.length + 471) / 472 := rfl
  rw [serialSlice, serves.cut below, serialPayload, payloadMax]
  rw [← serves.stored, slice_length, slice_drop _ _ (by omega)]
  by_cases long : 472 ≤ blob.length - linear * 472
  · rw [slice_take _ _ long, Nat.min_eq_left long]
  · rw [Nat.min_eq_right (by omega), List.take_of_length_le]
    rw [slice_length]
    omega

end Blobs

section Accepted

variable (env : Env)

/-- A tick of a gateway that comes to a waiting report writes its `AT#REPORT`,
and the host gets the report out of it. -/
def ReportsAccepted : Prop :=
  ∀ (s t : ReportPlane) idx payload,
    s.TickComesTo env idx t → t.Waiting idx payload →
      env.Lists (t.slots idx).genDeviceId →
        (t.io.read (slotPsramAddr idx) payload.length).2.isOk = true →
          t.io.uart.head? = none ∨ t.io.uart.head? = some .sent →
            ∃ s' serialNum, env.Names (t.slots idx).genDeviceId serialNum ∧
              s.gatewayReportTick env = .ok s' ∧
                s'.io.out = t.io.out ++
                  [.line (t.hostLine idx serialNum payload)] ∧
                (t.hostText idx serialNum payload).length <
                  slmUartAtCommandLen ∧
                parseAtReport (t.hostText idx serialNum payload) =
                  some
                    { sn := serialNum.toNat
                      dataId := (t.slots idx).dataId.toNat
                      timestamp := (t.slots idx).reportTimeMs.toNat
                      dataLen := payload.length
                      crc32 := (t.slots idx).crc32.toNat
                      payload := payload }

/-- The tick that picks a blob writes its `AT#LDINIT`, and the host gets the
framing of the blob out of it. -/
def LdInitAccepted : Prop :=
  ∀ (s : LdPlane) idx blob,
    s.PicksUp idx → (s.slots idx).Holds Checksum.crc32Ieee s.io.psram.mem blob →
      0 < blob.length → blob.length ≤ ldMaxTransferSize →
        env.Lists (s.slots idx).genDeviceId →
          s.io.uart.head? ≠ some .dropped →
            ∃ s' serialNum totalSize totalChunks lastChunkSize crc16,
              env.Names (s.slots idx).genDeviceId serialNum ∧
              s.gatewayLargeDataTick env = .ok s' ∧
                s'.io.out = s.io.out ++
                  [.line (.ldInit serialNum (s.slots idx).dataId
                    (s.slots idx).reportTimeMs totalSize totalChunks
                    lastChunkSize (s.slots idx).crc32 crc16)] ∧
                (ldInitText serialNum (s.slots idx).dataId
                    (s.slots idx).reportTimeMs totalSize totalChunks
                    lastChunkSize (s.slots idx).crc32 crc16).length <
                  slmUartAtCommandLen ∧
                parseAtLdInit (ldInitText serialNum (s.slots idx).dataId
                    (s.slots idx).reportTimeMs totalSize totalChunks
                    lastChunkSize (s.slots idx).crc32 crc16) =
                  some
                    { sn := serialNum.toNat
                      dataId := (s.slots idx).dataId.toNat
                      timestamp := (s.slots idx).reportTimeMs.toNat
                      totalSize := blob.length
                      totalChunks := serialCount blob
                      lastChunkSize :=
                        blob.length - (serialCount blob - 1) * 472
                      crc32 := (Checksum.crc32Ieee.ieee blob).toNat
                      crc16 := crc16.toNat }

/-- Every chunk of an announced blob is written as `AT#LD`, and the host gets
its place and its bytes out of the line. -/
def LdChunksAccepted : Prop :=
  ∀ (s : LdPlane) idx senderIdx before nextChunk blob linear,
    (s.slots idx).Holds Checksum.crc32Ieee s.io.psram.mem blob →
      blob.length ≤ ldMaxTransferSize → s.io.psram.Reliable →
        s.senders senderIdx =
            { LdPlane.gatewaySender before (s.slots idx) with
              nextChunk := nextChunk } →
          nextChunk.toNat < serialCount blob → linear < serialCount blob →
            s.io.uart.head? ≠ some .dropped →
              (s.atSendNextChunk senderIdx (linear / 32) (linear % 32)).io.out =
                s.io.out ++ [.line (.ld s.deviceIdCache (s.slots idx).dataId
                  (linear / 32) (linear % 32) (serialPayload blob linear))] ∧
                (ldText s.deviceIdCache (s.slots idx).dataId (linear / 32)
                    (linear % 32) (serialPayload blob linear)).length ≤
                  slmUartAtCommandLen ∧
                parseAtLd (ldText s.deviceIdCache (s.slots idx).dataId
                    (linear / 32) (linear % 32) (serialPayload blob linear)) =
                  some
                    { sn := s.deviceIdCache.toNat
                      dataId := (s.slots idx).dataId.toNat
                      page := linear / 32, chunk := linear % 32
                      linear := linear
                      payload := serialPayload blob linear }

variable {env}

theorem reportsAccepted : ReportsAccepted env := by
  intro s t idx payload comes waiting listed readable taken
  obtain ⟨s', serialNum, names, served, line⟩ :=
    waiting.served listed readable taken
  refine ⟨s', serialNum, names, comes.ends served, line,
    reportText_length waiting.fits, ?_⟩
  have parsed := @parseAtReport_reportText serialNum
    (t.slots idx).reportTimeMs (t.slots idx).dataId (t.slots idx).totalSize
    payload waiting.size.symm
  rw [waiting.size, ← waiting.crc32] at parsed
  exact parsed

theorem ldInitAccepted (crc16 : env.crc16 = Checksum.crc16Ccitt) :
    LdInitAccepted env := by
  intro s idx blob picks holds nonempty bound listed taken
  obtain ⟨s', serialNum, names, ticked, line⟩ := picks.announced listed taken
  have serves := holds.serves bound (s.senders theSender) 0
  have total : (LdPlane.gatewaySender (s.senders theSender)
      (s.slots idx)).totalSize.toNat = blob.length := holds.totalSize
  refine ⟨s', serialNum, _, _, _, _, names, ticked, line, ldInitText_length,
    ?_⟩
  rw [parseAtLdInit_ldInitText (by rw [crc16]; rfl), total,
    serves.totalChunks, serves.lastChunkSize, holds.crc32]

theorem ldChunksAccepted : LdChunksAccepted := by
  intro s idx senderIdx before nextChunk blob linear holds bound reliable here
    pending below taken
  have serves : (s.senders senderIdx).Serves s.io.psram.mem blob := by
    rw [here]
    exact holds.serves bound before nextChunk
  have id : (s.senders senderIdx).dataId = (s.slots idx).dataId := by
    rw [here]
    rfl
  have waits : (s.senders senderIdx).nextChunk.toNat < serialCount blob := by
    rw [here]
    exact pending
  obtain ⟨psram, -, -, sent⟩ :=
    atSendNextChunk_serves serves reliable waits below
  rw [id, serves.payload below] at sent
  refine ⟨?_, ?_, ?_⟩
  · rw [show linear / 32 = linear / ldChunksPerPage from rfl,
      show linear % 32 = linear % ldChunksPerPage from rfl, sent]
    exact @Io.txWrite_shown { s.io with psram := psram } taken _
  · have most := serialCount_le bound
    have length := @serialPayload_length blob linear
    have payloadMax : atDataPayloadMax = 472 := rfl
    exact ldText_length (by omega) (by omega) (by omega)
  · rw [parseAtLd_ldText]
    have place : linear / 32 * 32 + linear % 32 = linear := by omega
    rw [show hostChunksPerPage = 32 from rfl, place]

end Accepted

/-- The parsers of the host accept every report, announcement and chunk that a
gateway writes, and get out of it what the slot holds. -/
theorem deviceLines_accepted
    (env : Env) (crc16 : env.crc16 = Checksum.crc16Ccitt) :
    ReportsAccepted env ∧ LdInitAccepted env ∧ LdChunksAccepted :=
  ⟨reportsAccepted, ldInitAccepted crc16, ldChunksAccepted⟩

section Samples

/-- A gateway whose mesh table lists devices 3 and 5. -/
def listingGateway : Env := { removedDevice with meshCount := 2 }

/-- A report of device 5: the byte 7. -/
def sevenReport : ReportPlane where
  slots := fun idx =>
    if idx.val = 0 then
      { active := true, upstreamReady := true, genDeviceId := 5, dataId := 1
        reportTimeMs := 99, totalSize := 1, crc32 := 0x4C667A2E }
    else
      {}
  io := { psram := { mem := fun _ => 7 } }

/-- A blob of device 5: 500 times the byte 7. -/
def sevenBlob : LdPlane where
  slots := fun idx =>
    if idx.val = 0 then
      { active := true, upstreamReady := true, genDeviceId := 5, dataId := 3
        totalSize := 500, pageCount := 1, totalChunks := 3
        lastChunkSize := 140, baseAddr := 0x200000
        crc32 := Checksum.crc32Ieee.ieee ldFramedBlob }
    else
      {}
  deviceIdCache := 5
  io := { psram := { mem := fun _ => 7 } }

theorem listingGateway_names {serialNum : UInt64}
    (names : listingGateway.Names 5 serialNum) : serialNum = 9 := by
  obtain ⟨i, inside, device, serial⟩ := names
  by_cases first : i.val = 0
  · simp [listingGateway, removedDevice, first] at device
  · simp [listingGateway, removedDevice, first] at serial
    exact serial.symm

theorem listingGateway_lists : listingGateway.Lists 5 :=
  ⟨⟨1, by decide⟩, by decide, rfl⟩

/-- No report is with the host yet. -/
theorem sevenReport_fresh (slots : List (Fin dataSlotCount)) :
    ReportPlane.expireForwarded listingGateway slots sevenReport =
      sevenReport := by
  induction slots with
  | nil => rfl
  | cons idx rest ih =>
      have fresh : (sevenReport.slots idx).isSent = false := by
        unfold sevenReport
        dsimp only
        split <;> rfl
      rw [ReportPlane.expireForwarded, if_neg (by simp [fresh]), ih]

theorem sevenBlob_holds :
    (sevenBlob.slots ⟨0, by decide⟩).Holds Checksum.crc32Ieee
      sevenBlob.io.psram.mem ldFramedBlob := by
  have length := ldFramedBlob_length
  refine ⟨rfl, rfl, ?_, ?_, ?_, ?_, ?_, ?_, rfl⟩
  · rw [length]
    decide +kernel
  all_goals
    rw [length]
    decide

/-- The report and the blob in full: the two ticks and the second chunk. -/
theorem deviceLines_accepted_sevens :
    (∃ s', sevenReport.gatewayReportTick listingGateway = .ok s' ∧
      s'.io.out = [.line (.report 9 1 99 1 0x4C667A2E [7])] ∧
        parseAtReport (reportText 9 1 99 1 0x4C667A2E [7]) =
          some
            { sn := 9, dataId := 1, timestamp := 99, dataLen := 1
              crc32 := 0x4C667A2E, payload := [7] }) ∧
      (∃ s' totalSize totalChunks lastChunkSize crc16,
        sevenBlob.gatewayLargeDataTick listingGateway = .ok s' ∧
          s'.io.out = [.line (.ldInit 9 3 0 totalSize totalChunks lastChunkSize
            (Checksum.crc32Ieee.ieee ldFramedBlob) crc16)] ∧
          parseAtLdInit (ldInitText 9 3 0 totalSize totalChunks lastChunkSize
              (Checksum.crc32Ieee.ieee ldFramedBlob) crc16) =
            some
              { sn := 9, dataId := 3, timestamp := 0, totalSize := 500
                totalChunks := 2, lastChunkSize := 28
                crc32 := (Checksum.crc32Ieee.ieee ldFramedBlob).toNat
                crc16 := crc16.toNat }) ∧
      parseAtLd (ldText 5 3 0 1 (List.replicate 28 7)) =
        some
          { sn := 5, dataId := 3, page := 0, chunk := 1, linear := 1
            payload := List.replicate 28 7 } := by
  obtain ⟨reports, inits, chunks⟩ := deviceLines_accepted listingGateway rfl
  have holds := sevenBlob_holds
  have taken : sevenBlob.io.uart.head? ≠ some .dropped := by rintro ⟨⟩
  have length := ldFramedBlob_length
  have count : serialCount ldFramedBlob = 2 := by
    rw [serialCount, length]
  refine ⟨?_, ?_, ?_⟩
  · have comes : sevenReport.TickComesTo listingGateway slotZero sevenReport := by
      unfold ReportPlane.TickComesTo
      have slots : allSlots = slotZero :: allSlots.tail := by decide +kernel
      rw [sevenReport_fresh, slots]
      exact .first
    obtain ⟨s', serialNum, names, ticked, line, -, parsed⟩ :=
      reports sevenReport sevenReport slotZero [7] comes
        ⟨⟨rfl, rfl, rfl⟩, by decide, rfl, by decide +kernel, by decide +kernel⟩
        listingGateway_lists (by decide +kernel) (.inl rfl)
    cases listingGateway_names names
    exact ⟨s', ticked, line, parsed⟩
  · obtain ⟨s', serialNum, totalSize, totalChunks, lastChunkSize, crc16, names,
      ticked, line, -, parsed⟩ :=
      inits sevenBlob ⟨0, by decide⟩ ldFramedBlob
        ⟨rfl, by decide +kernel⟩ holds (by rw [length]; decide)
        (by rw [length]; decide) listingGateway_lists taken
    cases listingGateway_names names
    rw [length, count] at parsed
    exact ⟨s', totalSize, totalChunks, lastChunkSize, crc16, ticked, line,
      parsed⟩
  · obtain ⟨-, -, parsed⟩ := chunks (sevenBlob.prepared ⟨0, by decide⟩)
      ⟨0, by decide⟩ theSender
      (sevenBlob.senders theSender) 0 ldFramedBlob 1 holds
      (by rw [length]; decide) ⟨rfl, List.forall_mem_nil _⟩ LdPlane.prepared_sender
      (by rw [count]; decide) (by rw [count]; decide) taken
    have bytes : serialPayload ldFramedBlob 1 = List.replicate 28 7 := by
      decide +kernel
    rw [bytes] at parsed
    exact parsed

end Samples

end DectMesh
