import Mathlib.Logic.Relation
import DectMesh.LargeData.Metadata
import DectMesh.Report.Handover
import DectMesh.Report.Metadata

/-!
# Metadata over several hops

An anchor announces upstream what was announced to it, with its own uptime in
the place of the report time.  Where the two agree at every hop, the gateway
records what the sensor announced.
-/

namespace DectMesh

section Hops

/-- Some anchor accepted the first announcement and sent the second one for
it, at the time that the first one carries. -/
def ReportHop (first second : ReportMeta) : Prop :=
  ∃ (board : Board) (io : Io) (relay relay' : ReportRelay) (env : Env)
    (pkt : ReportInit),
    board.deviceType = .anchor ∧
      Trace.Reach ReportRelay.step (ReportRelay.OnReceiver board)
        { plane := .boot io } relay ∧
      env.toBoard = board ∧ relay.step (env, .tick) = .ok relay' ∧
      .request (.reportInit pkt) ∈ relay'.plane.io.out ∧
      pkt.metadata = second ∧ relay.accepted second.key = some first ∧
      UInt64.ofNat env.now = first.reportTimeMs

/-- The counterpart for blobs. -/
def LdHop (first second : LdMeta) : Prop :=
  ∃ (board : Board) (io : Io) (relay relay' : LdRelay) (env : Env)
    (pkt : LargeDataInit),
    board.deviceType = .anchor ∧
      Trace.Reach LdRelay.step (LdRelay.OnReceiver board)
        { plane := .boot io } relay ∧
      env.toBoard = board ∧ relay.step (env, .tick) = .ok relay' ∧
      .request (.largeDataInit pkt) ∈ relay'.plane.io.out ∧
      pkt.metadata = second ∧ relay.accepted second.key = some first ∧
      UInt64.ofNat env.now = first.reportTimeMs

end Hops

section Anchors

variable {board : Board} {io : Io} {env : Env}

/-- What an anchor announces is the accepted announcement with the time of
the tick. -/
theorem reportRelay_sent {relay relay' : ReportRelay}
    (role : board.deviceType = .anchor)
    (reach : Trace.Reach ReportRelay.step (ReportRelay.OnReceiver board)
      { plane := .boot io } relay)
    (onBoard : env.toBoard = board)
    (stepped : relay.step (env, .tick) = .ok relay') {pkt : ReportInit}
    (sent : .request (.reportInit pkt) ∈ relay'.plane.io.out) :
    ∃ entry, relay.accepted pkt.metadata.key = some entry ∧
      pkt.metadata =
        { entry with reportTimeMs := UInt64.ofNat env.now } := by
  subst onBoard
  have faithful := relay.reach_faithful reach
  unfold ReportRelay.step at stepped
  split at stepped
  · cases stepped
  · next plane moved =>
    cases stepped
    obtain ⟨idx, entry, held, -, equal⟩ := tick_sent role moved sent
    refine ⟨entry, ?_, equal⟩
    rw [equal]
    exact faithful.recorded idx entry held

theorem ldRelay_sent {relay relay' : LdRelay}
    (role : board.deviceType = .anchor)
    (reach : Trace.Reach LdRelay.step (LdRelay.OnReceiver board)
      { plane := .boot io } relay)
    (onBoard : env.toBoard = board)
    (stepped : relay.step (env, .tick) = .ok relay') {pkt : LargeDataInit}
    (sent : .request (.largeDataInit pkt) ∈ relay'.plane.io.out) :
    ∃ entry, relay.accepted pkt.metadata.key = some entry ∧
      pkt.metadata =
        { entry with reportTimeMs := UInt64.ofNat env.now } := by
  subst onBoard
  have faithful := relay.reach_faithful reach
  unfold LdRelay.step at stepped
  split at stepped
  · cases stepped
  · next plane moved =>
    cases stepped
    obtain ⟨idx, entry, held, -, equal⟩ := ldTick_sent role moved sent
    refine ⟨entry, ?_, equal⟩
    rw [equal]
    exact faithful.recorded idx entry held

theorem ReportHop.same {first second : ReportMeta}
    (hop : ReportHop first second) : second = first := by
  obtain ⟨board, io, relay, relay', env, pkt, role, reach, onBoard, stepped,
    sent, rfl, accepted, onTime⟩ := hop
  obtain ⟨entry, recorded, equal⟩ :=
    reportRelay_sent role reach onBoard stepped sent
  rw [accepted, Option.some.injEq] at recorded
  rw [equal, ← recorded, onTime]

theorem LdHop.same {first second : LdMeta} (hop : LdHop first second) :
    second = first := by
  obtain ⟨board, io, relay, relay', env, pkt, role, reach, onBoard, stepped,
    sent, rfl, accepted, onTime⟩ := hop
  obtain ⟨entry, recorded, equal⟩ :=
    ldRelay_sent role reach onBoard stepped sent
  rw [accepted, Option.some.injEq] at recorded
  rw [equal, ← recorded, onTime]

end Anchors

section Chains

open Relation

theorem ReportHop.chain {first last : ReportMeta}
    (chain : ReflTransGen ReportHop first last) : last = first := by
  induction chain with
  | refl => rfl
  | tail _ hop ih => exact hop.same.trans ih

theorem LdHop.chain {first last : LdMeta}
    (chain : ReflTransGen LdHop first last) : last = first := by
  induction chain with
  | refl => rfl
  | tail _ hop ih => exact hop.same.trans ih

/-- In every run of an anchor, each `REPORT_INIT` and `LARGE_DATA_INIT` that a
tick sends is the accepted announcement of its transfer but for the time, and
equal to it exactly when the uptime is the announced time; where this holds at
every hop, a receiver at the end of the chain records what was announced at
its start. -/
theorem relays_keepMetadata {board : Board} {io : Io}
    {reports : ReportRelay} {blobs : LdRelay}
    (reachReports : Trace.Reach ReportRelay.step
      (ReportRelay.OnReceiver board) { plane := .boot io } reports)
    (reachBlobs : Trace.Reach LdRelay.step
      (LdRelay.OnReceiver board) { plane := .boot io } blobs) :
    (board.deviceType = .anchor → ∀ env reports' pkt, env.toBoard = board →
      reports.step (env, .tick) = .ok reports' →
        .request (.reportInit pkt) ∈ reports'.plane.io.out →
          ∃ entry, reports.accepted pkt.metadata.key = some entry ∧
            pkt.metadata = { entry with
              reportTimeMs := pkt.metadata.reportTimeMs } ∧
            (pkt.metadata = entry ↔
              UInt64.ofNat env.now = entry.reportTimeMs)) ∧
      (board.deviceType = .anchor → ∀ env blobs' pkt, env.toBoard = board →
        blobs.step (env, .tick) = .ok blobs' →
          .request (.largeDataInit pkt) ∈ blobs'.plane.io.out →
            ∃ entry, blobs.accepted pkt.metadata.key = some entry ∧
              pkt.metadata = { entry with
                reportTimeMs := pkt.metadata.reportTimeMs } ∧
              (pkt.metadata = entry ↔
                UInt64.ofNat env.now = entry.reportTimeMs)) ∧
      (∀ first last, ReflTransGen ReportHop first last →
        reports.accepted last.key = some last →
          ∀ idx entry, reports.plane.ledger idx = some entry →
            entry.key = last.key → entry = first) ∧
      ∀ first last, ReflTransGen LdHop first last →
        blobs.accepted last.key = some last →
          ∀ idx entry, blobs.plane.ledger idx = some entry →
            entry.key = last.key → entry = first := by
  refine ⟨?_, ?_, ?_, ?_⟩
  · intro role env reports' pkt onBoard stepped sent
    obtain ⟨entry, accepted, equal⟩ :=
      reportRelay_sent role reachReports onBoard stepped sent
    refine ⟨entry, accepted, by rw [equal], ?_⟩
    constructor
    · intro same
      rw [← same, equal]
    · intro onTime
      rw [equal, onTime]
  · intro role env blobs' pkt onBoard stepped sent
    obtain ⟨entry, accepted, equal⟩ :=
      ldRelay_sent role reachBlobs onBoard stepped sent
    refine ⟨entry, accepted, by rw [equal], ?_⟩
    constructor
    · intro same
      rw [← same, equal]
    · intro onTime
      rw [equal, onTime]
  · intro first last chain accepted idx entry held sameKey
    have recorded := (reports.reach_faithful reachReports).recorded idx entry
      held
    rw [sameKey, accepted, Option.some.injEq] at recorded
    rw [← recorded]
    exact ReportHop.chain chain
  · intro first last chain accepted idx entry held sameKey
    have recorded := (blobs.reach_faithful reachBlobs).recorded idx entry held
    rw [sameKey, accepted, Option.some.injEq] at recorded
    rw [← recorded]
    exact LdHop.chain chain

/-- An anchor with address 1 below gateway 9. -/
def relayAnchor : Env :=
  { deviceType := .anchor, deviceId := 1, crc := Checksum.crc32Ieee
    infraCount := 1
    infraDevices := fun _ => { deviceType := 1, deviceId := 9, hopNum := 0 } }

/-- Report 1 of sensor 5, announced with the report time zero, arrives. -/
def arrivedReport : List (Env × ReportEvent) :=
  [(relayAnchor, announcement 1 1 1 0x4C667A2E),
    (relayAnchor, .reportChunk (sampleChunk 1 [7]) 5)]

/-- What the anchor announces upstream at a time. -/
def relayedReport (now : Nat) : ReportInit :=
  { hdr := { deviceType := 2, deviceId := 9 }
    genDeviceId := 5, dataId := 1, reportTimeMs := UInt64.ofNat now
    totalSize := 1, chunkCount := 1, lastChunkSize := 1, crc32 := 0x4C667A2E }

/-- The announced metadata of report 1. -/
def arrivedMeta : ReportMeta :=
  { genDeviceId := 5, dataId := 1, reportTimeMs := 0, totalSize := 1
    chunkCount := 1, lastChunkSize := 1, crc32 := 0x4C667A2E, priority := 0 }

theorem relays_keepMetadata_onTime :
    Trace.Ends ReportRelay.step { plane := .boot {} } arrivedReport
      fun reports => reports.accepted (5, 1) = some arrivedMeta ∧
        (relayedReport 0).metadata = arrivedMeta := by
  obtain ⟨reports, executed, accepted, reports', stepped, sent⟩ :
      Trace.Ends ReportRelay.step { plane := .boot {} } arrivedReport
        fun reports => reports.accepted (5, 1) = some arrivedMeta ∧
          Trace.Ends ReportRelay.step reports [(relayAnchor, .tick)]
            fun reports' => .request (.reportInit (relayedReport 0)) ∈
              reports'.plane.io.out := by
    decide +kernel
  have reach : Trace.Reach ReportRelay.step
      (ReportRelay.OnReceiver relayAnchor.toBoard) { plane := .boot {} }
        reports := by
    refine .of_run (fun event member before => ?_) executed
    simp only [arrivedReport, List.mem_cons, List.not_mem_nil, or_false]
      at member
    rcases member with rfl | rfl
    · exact ⟨⟨rfl, trivial⟩, by decide⟩
    · exact ⟨⟨rfl, trivial⟩, by decide⟩
  rw [Trace.run_single] at stepped
  obtain ⟨entry, recorded, -, onTime⟩ :=
    (relays_keepMetadata reach (@Trace.Reach.refl _ _ _ LdRelay.step _
      { plane := .boot {} })).1 rfl relayAnchor reports' (relayedReport 0) rfl
        stepped sent
  have same : entry = arrivedMeta :=
    Option.some.inj (recorded.symm.trans accepted)
  subst same
  exact ⟨reports, executed, accepted, onTime.mpr rfl⟩

/-- Seventy milliseconds later the anchor announces the report with its own
uptime. -/
theorem relays_changeTime :
    Trace.Ends ReportRelay.step { plane := .boot {} } arrivedReport
      fun reports => reports.accepted (5, 1) = some arrivedMeta ∧
        Trace.Ends ReportRelay.step reports
          [({ relayAnchor with now := 70 }, .tick)] fun reports' =>
            .request (.reportInit (relayedReport 70)) ∈
                reports'.plane.io.out ∧
              (relayedReport 70).metadata ≠ arrivedMeta := by
  decide +kernel

end Chains

end DectMesh
