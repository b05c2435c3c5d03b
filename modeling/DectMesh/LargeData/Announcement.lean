import DectMesh.LargeData.Delivered
import DectMesh.LargeData.InFlight
import DectMesh.LargeData.Reassembly
import DectMesh.LargeData.Reception

/-!
# Announcements of blobs

What `handle_large_data_init` answers, and what a repeated announcement does
to the transfer it belongs to: `validate_large_data_slot` looks at the busy
flag before it looks for the slot.
-/

namespace DectMesh

namespace LdPlane

variable (s : LdPlane) (env : Env) (pkt : LargeDataInit) (srcId : UInt16)

section Answers

variable {s env pkt srcId}

theorem initAnswer_inj {left right : UInt8}
    (same : initAnswer env pkt srcId left = initAnswer env pkt srcId right) :
    left = right := by
  simpa [initAnswer, Env.replyHeader] using same

/-- Sizes out of range are answered before anything is looked up. -/
theorem handleLargeDataInit_invalid (hears : Hears env pkt)
    (sizes : ¬ WellSized pkt) :
    s.handleLargeDataInit env pkt srcId =
      s.put (initAnswer env pkt srcId statusInvalidParameter) := by
  generalize handled : s.handleLargeDataInit env pkt srcId = t
  cases handleLargeDataInit_taken handled with
  | ignored other => exact absurd hears other
  | malformed => rfl
  | answered considers => exact absurd considers.sizes sizes

/-- An announcement that gets as far as `validate_large_data_slot` is not
answered like one that does not. -/
theorem Validated.considered {t : LdPlane} {status : UInt8}
    (validated : Validated env s pkt t status) :
    status ≠ statusInvalidParameter := by
  cases validated <;> decide

end Answers

/-- The transfer of this announcement is being received. -/
def Holds : Prop :=
  ∃ idx, s.findLargeDataSlot pkt.genDeviceId pkt.dataId = some idx ∧
    (s.slots idx).upstreamReady = false

/-- A repeated announcement is answered `STATUS_ALREADY_EXISTS` and changes
nothing; whoever receives this answer neither marks a slot for another start
nor gives up a transfer whose next chunks can be read. -/
structure Resumes (after : LdPlane) : Prop where
  answer : after.io.out = [initAnswer env pkt srcId statusAlreadyExists]
  kept : after.clearOut = s.clearOut
  upstream : ∀ ack ∈ initAcks after.io.out,
    ∀ (childEnv : Env) (child child' : LdPlane) (parentId : UInt16),
      child.handleLargeDataInitAck childEnv ack parentId = .ok child' →
        child'.slots = child.slots ∧
          ∀ i, (child.senders i).active = true →
            child.io.psram.Reads (chunkReads (child.senders i)
              (maxTxQueueProcessPerCycle / 2)
              (child.senders i).nextChunk.toNat) →
              (child'.senders i).active = true

section Repetition

variable {s env pkt srcId}

/-- `STATUS_ALREADY_EXISTS` lets the sender go on. -/
theorem handleLargeDataInitAck_goesOn {s' : LdPlane} {pkt : LargeDataInitAck}
    (status : pkt.hdr.status = statusAlreadyExists)
    (handled : s.handleLargeDataInitAck env pkt srcId = .ok s') :
    s'.slots = s.slots ∧
      ∀ i, (s.senders i).active = true →
        s.io.psram.Reads (chunkReads (s.senders i)
          (maxTxQueueProcessPerCycle / 2) (s.senders i).nextChunk.toNat) →
          (s'.senders i).active = true := by
  have goesOn (senderIdx : Fin ldSenderSlotCount)
      (idx : Fin ldReceiverSlotCount) (t : LdPlane)
      (slots : t.slots = s.slots) (senders : t.senders = s.senders)
      (psram : t.io.psram = s.io.psram) :
      (t.answerInitAck env pkt srcId senderIdx idx).slots = s.slots ∧
        ∀ i, (s.senders i).active = true →
          s.io.psram.Reads (chunkReads (s.senders i)
            (maxTxQueueProcessPerCycle / 2) (s.senders i).nextChunk.toNat) →
            ((t.answerInitAck env pkt srcId senderIdx idx).senders i).active =
              true := by
    have notBusy : ¬ statusAlreadyExists = statusBusy := by decide
    unfold answerInitAck
    dsimp only
    rw [status, if_neg notBusy, if_pos (.inr rfl)]
    split
    · exact ⟨slots, fun i active _ => senders ▸ active⟩
    · have sent := @sendNextLoop_sent env srcId senderIdx
        (maxTxQueueProcessPerCycle / 2) 0 t
      refine ⟨sent.slots.trans slots, fun i active readable => ?_⟩
      rw [← senders, ← psram] at readable
      rw [← senders] at active
      by_cases same : i = senderIdx
      · subst same
        have reads := @sendNextLoop_read env srcId i
          (maxTxQueueProcessPerCycle / 2) 0 t readable
        exact (sent.active reads).trans active
      · exact (congrArg LdSender.active (sent.others i same)).trans active
  cases handleLargeDataInitAck_taken handled with
  | ignored => exact ⟨rfl, fun _ active _ => active⟩
  | untracked => exact ⟨rfl, fun _ active _ => active⟩
  | answered => exact goesOn _ _ _ rfl rfl rfl

/-- The announcement of a transfer that is being received is answered by the
busy flag alone. -/
theorem validateLargeDataSlot_held (held : s.Holds pkt) :
    s.validateLargeDataSlot env pkt =
      (s, if s.ldBusy then statusBusy else statusAlreadyExists) := by
  obtain ⟨idx, found, notReady⟩ := held
  unfold validateLargeDataSlot
  split
  · next busy => rfl
  · next idle =>
    rw [found]
    dsimp only
    rw [notReady]
    rfl

end Repetition

/-- A gateway or an anchor that is told again of a transfer it is receiving
lets the sender go on if and only if its busy flag is clear and the sizes are
in range; and as long as only the end of receptions clears the flag, it is set
whenever a transfer is being received. -/
theorem ldInit_resumed (s : LdPlane) (pkt : LargeDataInit) :
    (∀ (env : Env) (srcId : UInt16),
      Hears env pkt → s.Holds pkt →
        (s.Resumes env pkt srcId (s.clearOut.handleLargeDataInit env pkt srcId) ↔
          s.ldBusy = false ∧ WellSized pkt)) ∧
      ∀ (board : Board) (io : Io),
        board.deviceType = .gateway ∨ board.deviceType = .anchor →
          Trace.Reach ldStep (LdKeepsBusy board) (.boot io) s →
            s.Holds pkt → s.ldBusy = true := by
  constructor
  · intro env srcId hears held
    have cleared : s.clearOut.Holds pkt := by
      obtain ⟨idx, found, notReady⟩ := held
      exact ⟨idx, (findLargeDataSlot_congr (by rfl) _ _).trans found, notReady⟩
    by_cases sizes : WellSized pkt
    · have considers : Considers env pkt := { hears with sizes := sizes }
      rw [handleLargeDataInit_answer considers,
        validateLargeDataSlot_held cleared]
      have flag : s.clearOut.ldBusy = s.ldBusy := rfl
      rw [flag]
      cases busy : s.ldBusy with
      | false =>
          refine iff_of_true ⟨rfl, rfl, ?_⟩ ⟨rfl, sizes⟩
          intro ack member childEnv child child' parentId handled
          have only : initAcks [initAnswer env pkt srcId statusAlreadyExists] =
              [_] := rfl
          have same := List.mem_singleton.mp (only ▸ member)
          subst same
          exact handleLargeDataInitAck_goesOn rfl handled
      | true =>
          refine iff_of_false ?_ (fun both => Bool.noConfusion both.1)
          intro resumes
          have busyAnswer : statusBusy = statusAlreadyExists :=
            initAnswer_inj (List.singleton_inj.mp resumes.answer)
          exact absurd busyAnswer (by decide)
    · rw [handleLargeDataInit_invalid hears sizes]
      refine iff_of_false ?_ (fun both => sizes both.2)
      intro resumes
      have refused : statusInvalidParameter = statusAlreadyExists :=
        initAnswer_inj (List.singleton_inj.mp resumes.answer)
      exact absurd refused (by decide)
  · intro board io role reach held
    obtain ⟨idx, found, notReady⟩ := held
    exact (reach_reception role reach).busy.mpr
      ⟨idx, (findLargeDataSlot_some found).1, notReady⟩

/-- Sensor 6 announces a one-byte blob to anchor 2. -/
def repeatedInit : LargeDataInit where
  hdr := { deviceType := 3, deviceId := 2 }
  genDeviceId := 6
  dataId := 1
  reportTimeMs := 0
  totalSize := 1
  pageCount := 1
  lastChunkSize := 1
  crc32 := 0x4C667A2E

/-- Sensor 5 announces it to gateway 1. -/
def sampleInit : LargeDataInit where
  hdr := { deviceType := 3, deviceId := 1 }
  genDeviceId := 5
  dataId := 1
  reportTimeMs := 0
  totalSize := 1
  pageCount := 1
  lastChunkSize := 1
  crc32 := 0x4C667A2E

/-- The anchor receives a blob of sensor 5 and starts to send it, hears the
announcement of sensor 6, and finds its own transfer complete. -/
def clearedBusy : List (Env × LdEvent) :=
  [ (ldAnchor, ldAnnounce 2 5),
    (ldAnchor, .largeDataChunk
      { hdr := { deviceType := 3, deviceId := 2 }
        genDeviceId := 5, dataId := 1, pageIndex := 0, chunkIndex := 0
        data := Buffer.ofData sendLargeDataMax [7] } 5),
    (ldAnchor, .tick), (ldAnchor, .largeDataInit repeatedInit 6),
    (ldAnchor, ldSampleComplete) ]

theorem ldInit_resumed_cleared :
    Trace.Ends ldStep (.boot {}) clearedBusy (fun s =>
        s.Resumes ldAnchor repeatedInit 6
          (s.clearOut.handleLargeDataInit ldAnchor repeatedInit 6)) ∧
      Trace.Ends ldStep (.boot {}) [(ldGateway, ldSampleInit)]
        (fun s => s.ldBusy = true) := by
  constructor
  · obtain ⟨s, executed, idle, found, notReady⟩ :
        Trace.Ends ldStep (.boot {}) clearedBusy fun s =>
          s.ldBusy = false ∧ s.findLargeDataSlot 6 1 = some ⟨1, by decide⟩ ∧
            (s.slots ⟨1, by decide⟩).upstreamReady = false := by
      unfold findLargeDataSlot
      decide +kernel
    have hears : Hears ldAnchor repeatedInit :=
      ⟨.inr rfl, by decide, by decide⟩
    have sizes : WellSized repeatedInit := by
      unfold WellSized
      decide
    exact ⟨s, executed, ((ldInit_resumed s repeatedInit).1 ldAnchor 6 hears
      ⟨_, found, notReady⟩).mpr ⟨idle, sizes⟩⟩
  · obtain ⟨s, executed, found, notReady⟩ :
        Trace.Ends ldStep (.boot {}) [(ldGateway, ldSampleInit)] fun s =>
          s.findLargeDataSlot 5 1 = some ⟨0, by decide⟩ ∧
            (s.slots ⟨0, by decide⟩).upstreamReady = false := by
      unfold findLargeDataSlot
      decide +kernel
    have admitted :
        ∀ event ∈ [(ldGateway, ldSampleInit)],
          ∀ before, LdKeepsBusy ldGateway.toBoard before event := by
      intro event member before
      rw [List.mem_singleton] at member
      subst member
      exact ⟨⟨rfl, trivial⟩, trivial⟩
    have held : s.Holds sampleInit := ⟨_, found, notReady⟩
    exact ⟨s, executed, (ldInit_resumed s sampleInit).2 ldGateway.toBoard {}
      (.inl rfl) (.of_run admitted executed) held⟩

/-- A gateway that is told twice of the blob it is receiving answers
`STATUS_BUSY`, and an anchor that gets this answer for the transfer it just
started marks the blob for another start. -/
theorem ldInit_repeatedBusy :
    Trace.Ends ldStep (.boot {}) [(ldGateway, ldSampleInit)]
        (fun s => s.Holds sampleInit ∧
          ¬ s.Resumes ldGateway sampleInit 5
            (s.clearOut.handleLargeDataInit ldGateway sampleInit 5)) ∧
      Trace.Ends ldStep (.boot {}) (clearedBusy.take 3)
        (fun s => (s.slots ⟨0, by decide⟩).isSent = true) ∧
      Trace.Ends ldStep (.boot {})
        (clearedBusy.take 3 ++
          [(ldAnchor, .largeDataInitAck
            { hdr := { deviceType := 1, deviceId := 2, status := statusBusy }
              genDeviceId := 5, dataId := 1 } 1)])
        fun s => (s.slots ⟨0, by decide⟩).isSent = false := by
  refine ⟨?_, by decide +kernel, by decide +kernel⟩
  obtain ⟨s, executed, found, notReady, answer⟩ :
      Trace.Ends ldStep (.boot {}) [(ldGateway, ldSampleInit)] fun s =>
        s.findLargeDataSlot 5 1 = some ⟨0, by decide⟩ ∧
          (s.slots ⟨0, by decide⟩).upstreamReady = false ∧
          (s.clearOut.handleLargeDataInit ldGateway sampleInit 5).io.out =
            [initAnswer ldGateway sampleInit 5 statusBusy] := by
    unfold findLargeDataSlot
    decide +kernel
  refine ⟨s, executed, ⟨_, found, notReady⟩, fun resumes => ?_⟩
  have same : statusBusy = statusAlreadyExists :=
    initAnswer_inj (List.singleton_inj.mp (answer.symm.trans resumes.answer))
  exact absurd same (by decide)

end LdPlane

end DectMesh
