import DectMesh.Delivered
import DectMesh.LargeData.InFlight
import DectMesh.Report.Fidelity
import DectMesh.Report.InFlight

/-!
# In flight

Both planes of a sensor or an anchor: what is marked as sent has a sender left
to retry it, as long as no step cuts a transfer off.
-/

namespace DectMesh

/-- A run in which every step of the report plane meets the condition. -/
def ReportFlightRun
    (board : Board) (s : ReportPlane) (event : Env × ReportEvent) : Prop :=
  OnBoard board s event ∧ s.KeepsFlight event.1 event.2

/-- A run in which every step of the large-data plane meets the condition. -/
def LdFlightRun
    (board : Board) (s : LdPlane) (event : Env × LdEvent) : Prop :=
  LdOnBoard board s event ∧ s.KeepsFlight event.1 event.2

/-- Every slot that is marked as sent has an active sender with its key, and
no two report senders work on one key. -/
structure NoOrphans (report : ReportPlane) (ld : LdPlane) : Prop where
  reports :
    ∀ idx, (report.slots idx).active = true →
      (report.slots idx).upstreamReady = true →
        (report.slots idx).isSent = true →
          ∃ i, report.Sending (report.slots idx).genDeviceId
            (report.slots idx).dataId i
  blobs :
    ∀ idx, (ld.slots idx).active = true →
      (ld.slots idx).upstreamReady = true →
        (ld.slots idx).isTransfered = false →
          (ld.slots idx).isSent = true →
            ∃ i, ld.Sending (ld.slots idx).genDeviceId
              (ld.slots idx).dataId i
  senders :
    ∀ i j, (report.senders i).active = true →
      (report.senders j).active = true →
        (report.senders i).genDeviceId = (report.senders j).genDeviceId →
          (report.senders i).dataId = (report.senders j).dataId → i = j

theorem reach_reportFlight
    {board : Board} {io : Io} {s : ReportPlane}
    (notGateway : board.deviceType ≠ .gateway)
    (reach : Trace.Reach reportStep (ReportFlightRun board) (.boot io) s) :
    ReportFlight s := by
  apply reach.invariant
  · constructor
    · intro left right active
      cases active
    · intro i j gen id sending
      cases sending.1
    · intro idx active
      cases active
  · rintro before ⟨env, event⟩ after flight ⟨⟨rfl, allowed⟩, keeps⟩ stepped
    exact ReportPlane.step_flight notGateway allowed keeps flight stepped

theorem reach_ldFlight
    {board : Board} {io : Io} {s : LdPlane}
    (notGateway : board.deviceType ≠ .gateway)
    (reach : Trace.Reach ldStep (LdFlightRun board) (.boot io) s) :
    LdFlight s := by
  apply reach.invariant
  · constructor
    · intro left right active
      cases active
    · intro idx active
      cases active
  · rintro before ⟨env, event⟩ after flight ⟨⟨rfl, -⟩, keeps⟩ stepped
    exact LdPlane.step_flight notGateway keeps flight stepped

/-- In every run of a sensor or an anchor whose steps meet the condition,
nothing stays marked as in flight without a sender. -/
theorem flights_attended
    {board : Board} {reportIo ldIo : Io} {report : ReportPlane} {ld : LdPlane}
    (role : board.deviceType = .sensor ∨ board.deviceType = .anchor)
    (reportReach : Trace.Reach reportStep (ReportFlightRun board)
      (.boot reportIo) report)
    (ldReach : Trace.Reach ldStep (LdFlightRun board) (.boot ldIo) ld) :
    NoOrphans report ld := by
  have notGateway : board.deviceType ≠ .gateway := by
    rcases role with sensor | anchor
    · exact fun gateway => absurd (sensor.symm.trans gateway) (by decide)
    · exact fun gateway => absurd (anchor.symm.trans gateway) (by decide)
  have reports := reach_reportFlight notGateway reportReach
  have blobs := reach_ldFlight notGateway ldReach
  constructor
  · intro idx active _ sent
    exact reports.sent idx active sent
  · intro idx active _ pending sent
    exact blobs.sent idx active ⟨sent, pending⟩
  · intro i j left right gen id
    exact reports.senders i j _ _ ⟨left, rfl, rfl⟩
      ⟨right, gen.symm, id.symm⟩

section Samples

/-- Anchor 2 takes in a one-byte report of sensor 5. -/
def anchorReport : List (Env × ReportEvent) :=
  let hdr : PacketHeader := { deviceType := 3, deviceId := 2 }
  [ (ldAnchor, .reportInit
      { hdr := hdr, genDeviceId := 5, dataId := 1, reportTimeMs := 0
        totalSize := 1, chunkCount := 1, lastChunkSize := 1
        crc32 := Checksum.crc32Ieee.ieee [7] } 5),
    (ldAnchor, .reportChunk
      { hdr := hdr, genDeviceId := 5, dataId := 1, chunkIndex := 0
        data := Buffer.ofData sendDataMax [7] } 5) ]

/-- Anchor 2 takes in a one-byte blob of sensor 5. -/
def anchorBlob : List (Env × LdEvent) :=
  [ (ldAnchor, .largeDataInit (relayedInit 3 2 7) 5),
    (ldAnchor, .largeDataChunk (relayedChunk 3 2 7) 5) ]

/-- Anchor 2 passes on a report and a blob; both are in flight, and both have
their sender. -/
theorem flights_attended_anchor :
    ∃ report ld,
      Trace.run reportStep (.boot {}) (anchorReport ++ [(ldAnchor, .tick)]) =
          .ok report ∧
        Trace.run ldStep (.boot {}) (anchorBlob ++ [(ldAnchor, .tick)]) =
          .ok ld ∧
        (report.slots ⟨0, by decide⟩).isSent = true ∧
          (ld.slots ⟨0, by decide⟩).isSent = true ∧ NoOrphans report ld := by
  obtain ⟨stored, storing, idle, report, ticking, reportSent⟩ :
      Trace.Ends reportStep (.boot {}) anchorReport fun s =>
        (∀ i, (s.senders i).active = false) ∧
          Trace.Ends reportStep s [(ldAnchor, .tick)]
            fun s => (s.slots ⟨0, by decide⟩).isSent = true := by
    decide +kernel
  obtain ⟨announced, announcing, ld, carrying, ldSent⟩ :
      Trace.Ends ldStep (.boot {})
        [(ldAnchor, .largeDataInit (relayedInit 3 2 7) 5)] fun s =>
          Trace.Ends ldStep s
            [(ldAnchor, .largeDataChunk (relayedChunk 3 2 7) 5),
              (ldAnchor, .tick)]
            fun s => (s.slots ⟨0, by decide⟩).isSent = true := by
    decide +kernel
  have received : Trace.Reach reportStep (ReportFlightRun ldAnchor.toBoard)
      (.boot {}) stored := by
    refine .of_run (fun event member before => ?_) storing
    simp only [anchorReport, List.mem_cons, List.not_mem_nil,
      or_false] at member
    rcases member with rfl | rfl
    · exact ⟨⟨rfl, trivial⟩, trivial⟩
    · exact ⟨⟨rfl, trivial⟩, trivial⟩
  have reportReach : Trace.Reach reportStep
      (ReportFlightRun ldAnchor.toBoard) (.boot {}) report := by
    refine received.next ?_ ((Trace.run_single _ _).symm.trans ticking)
    refine ⟨⟨rfl, trivial⟩, fun idx i _ _ _ sending => ?_⟩
    exact absurd (sending.1.symm.trans (idle i)) (by decide)
  have opened : Trace.Reach ldStep (LdFlightRun ldAnchor.toBoard)
      (.boot {}) announced := by
    refine Trace.Reach.refl.next ?_
      ((Trace.run_single _ _).symm.trans announcing)
    exact ⟨⟨rfl, trivial⟩, fun _ _ _ _ _ inFlight => by cases inFlight.1⟩
  have ldReach : Trace.Reach ldStep (LdFlightRun ldAnchor.toBoard)
      (.boot {}) ld := by
    refine opened.trans (.of_run (fun event member before => ?_) carrying)
    simp only [List.mem_cons, List.not_mem_nil, or_false] at member
    rcases member with rfl | rfl
    · exact ⟨⟨rfl, trivial⟩, trivial⟩
    · exact ⟨⟨rfl, trivial⟩, fun sensor => by cases sensor⟩
  refine ⟨report, ld, ?_, ?_, reportSent, ldSent,
    flights_attended (.inr rfl) reportReach ldReach⟩
  · rw [Trace.run_append, storing]
    exact ticking
  · rw [show anchorBlob ++ [(ldAnchor, LdEvent.tick)] =
      [(ldAnchor, .largeDataInit (relayedInit 3 2 7) 5)] ++
        [(ldAnchor, .largeDataChunk (relayedChunk 3 2 7) 5),
          (ldAnchor, .tick)] from rfl, Trace.run_append, announcing]
    exact carrying

/-- The gateway refuses chunk `chunkIndex` of the report. -/
def refusal (chunkIndex : UInt8) : ReportEvent :=
  .reportChunkAck
    { hdr := { deviceType := 1, deviceId := 5, status := statusFailure }
      genDeviceId := 5, dataId := 1, chunkIndex := chunkIndex } 1

/-- `AT#LDINIT` and `AT#LD` for the one-byte blob `07`. -/
def blobInit : List Char :=
  "\"A\",\"1\",\"1\",\"1\",\"1\",\"4C667A2E\",\"6303\"".toList

def blobChunk : List Char :=
  "\"A\",\"1\",\"0\",\"0\",\"9117\",\"07\"".toList

/-- A sensor whose report chunk is refused under an index that it does not
have, and whose blob is never answered: both slots stay marked as sent, and
no sender is active. -/
theorem flights_orphaned :
    Trace.Ends reportStep (.boot {})
        [(sampleSensor, .cmdReport firstReport), (sampleSensor, .tick),
          (sampleSensor, initAck 1), (sampleSensor, refusal 1)]
        (fun s =>
          (s.slots ⟨0, by decide⟩).active = true ∧
            (s.slots ⟨0, by decide⟩).upstreamReady = true ∧
              (s.slots ⟨0, by decide⟩).isSent = true ∧
                ∀ i, (s.senders i).active = false) ∧
      Trace.Ends ldStep (.boot {})
        [(sampleSensor, .cmdLdInit blobInit),
          (sampleSensor, .cmdLdChunk blobChunk), (sampleSensor, .tick),
          ({ sampleSensor with now := 40000 }, .tick)]
        fun s =>
          (s.slots ⟨0, by decide⟩).active = true ∧
            (s.slots ⟨0, by decide⟩).upstreamReady = true ∧
              (s.slots ⟨0, by decide⟩).isTransfered = false ∧
                (s.slots ⟨0, by decide⟩).isSent = true ∧
                  ∀ i, (s.senders i).active = false := by
  constructor
  · decide +kernel
  · decide +kernel

end Samples

end DectMesh
