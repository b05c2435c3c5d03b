import DectMesh.LargeData.Delivered
import DectMesh.LargeData.Reception
import DectMesh.Report.Delivered

/-!
# Already delivered

Both planes: while a key stands for one content, and the next hop keeps what
its answers promise, nothing is taken for delivered that is not.
-/

namespace DectMesh

/-- In every run of two neighbours in which every announcement and every host
command carries the content of its key, `STATUS_COMPLETE` and
`STATUS_ALREADY_EXISTS` answer only announcements of what the receiver holds,
verified, and whenever they end a transfer the receiver holds the sender's
data. -/
theorem alreadyDelivered_honest
    {ldContent : LdContent} {reportContent : ReportContent}
    {childBoard parentBoard : Board}
    {childIo parentIo : Io} {ldLink : LdLink} {reportLink : ReportLink}
    (role : parentBoard.deviceType = .gateway ∨
      parentBoard.deviceType = .anchor)
    (ldReach : Trace.Reach (Link.step (ldParties parentBoard.deviceId))
      (LdHonest ldContent childBoard parentBoard)
      ⟨.boot childIo, .boot parentIo, []⟩ ldLink)
    (reportReach :
      Trace.Reach (Link.step (reportParties parentBoard.deviceId))
        (ReportHonest reportContent childBoard parentBoard)
        ⟨.boot childIo, .boot parentIo, []⟩ reportLink) :
    LdAnswersHonest ldContent parentBoard ldLink ∧
      ReportAnswersHonest reportContent parentBoard reportLink :=
  ⟨ldAnswers_honest role ldReach, reportAnswers_honest role reportReach⟩

section Samples

/-- A one-byte blob of sensor 5 on its way from a device of type `hop` to
`dstId`. -/
def relayedInit (hop : UInt8) (dstId : UInt16) (byte : UInt8) :
    LargeDataInit where
  hdr := { deviceType := hop, deviceId := dstId }
  genDeviceId := 5
  dataId := 1
  reportTimeMs := 0
  totalSize := 1
  pageCount := 1
  lastChunkSize := 1
  crc32 := Checksum.crc32Ieee.ieee [byte]

def relayedChunk (hop : UInt8) (dstId : UInt16) (byte : UInt8) :
    LargeDataChunk where
  hdr := { deviceType := hop, deviceId := dstId }
  genDeviceId := 5
  dataId := 1
  pageIndex := 0
  chunkIndex := 0
  data := Buffer.ofData sendLargeDataMax [byte]

/-- Anchor 2 receives the blob and announces it to gateway 1, which receives
it too. -/
def relayEvents : List LdLinkEvent :=
  [ .child (ldAnchor, .largeDataInit (relayedInit 3 2 7) 5),
    .child (ldAnchor, .largeDataChunk (relayedChunk 3 2 7) 5),
    .child (ldAnchor, .tick),
    .parent (ldGateway, .largeDataInit (relayedInit 2 1 7) 2),
    .parent (ldGateway, .largeDataChunk (relayedChunk 2 1 7) 2) ]

/-- The second answer of the gateway. -/
def completeAck : LargeDataInitAck where
  hdr := { deviceType := 1, deviceId := 2, status := statusComplete }
  genDeviceId := 5
  dataId := 1

/-- Announced again, the blob is answered `STATUS_COMPLETE`; the anchor marks
its slot, and the gateway holds the blob. -/
theorem alreadyDelivered_honest_oneByte :
    Trace.Ends (Link.step (ldParties 1)) ⟨.boot {}, .boot {}, []⟩
      (relayEvents ++
        [.parent (ldGateway, .largeDataInit (relayedInit 2 1 7) 2)])
      fun link =>
        ∃ child, link.child.step ldAnchor (.largeDataInitAck completeAck 1) =
            .ok child ∧
          (child.slots ⟨0, by decide⟩).isTransfered = true ∧
            link.parent.HoldsBlob Checksum.crc32Ieee
              (link.child.slots ⟨0, by decide⟩).genDeviceId
              (link.child.slots ⟨0, by decide⟩).dataId
              (link.child.slots ⟨0, by decide⟩).totalSize
              (link.child.slots ⟨0, by decide⟩).crc32 := by
  obtain ⟨link, executed, inFlight, before, child, stepped, after⟩ :
      Trace.Ends (Link.step (ldParties 1)) ⟨.boot {}, .boot {}, []⟩
        (relayEvents ++
          [.parent (ldGateway, .largeDataInit (relayedInit 2 1 7) 2)])
        fun link =>
          link.air[1]? = some completeAck ∧
            (link.child.slots ⟨0, by decide⟩).isTransfered = false ∧
              Trace.Ends ldStep link.child
                [(ldAnchor, .largeDataInitAck completeAck 1)]
                fun child =>
                  (child.slots ⟨0, by decide⟩).isTransfered = true := by
    decide +kernel
  have admitted :
      ∀ event ∈ relayEvents ++
          [.parent (ldGateway, .largeDataInit (relayedInit 2 1 7) 2)],
        ∀ before, LdHonest
          (fun _ _ => (1, Checksum.crc32Ieee.ieee [7])) ldAnchor.toBoard
          ldGateway.toBoard before event := by
    intro event member before
    simp only [relayEvents, List.cons_append, List.nil_append, List.mem_cons,
      List.not_mem_nil, or_false] at member
    rcases member with rfl | rfl | rfl | rfl | rfl | rfl
    · exact ⟨⟨rfl, trivial⟩, rfl, by simp⟩
    · exact ⟨⟨rfl, trivial⟩, trivial, by simp⟩
    · exact ⟨⟨rfl, trivial⟩, trivial, by simp⟩
    · exact ⟨⟨rfl, trivial⟩, rfl, fun _ _ _ discards => discards⟩
    · exact ⟨⟨rfl, trivial⟩, trivial, fun _ _ _ discards => discards⟩
    · exact ⟨⟨rfl, trivial⟩, rfl, fun _ _ _ discards => discards⟩
  have honest :=
    (@alreadyDelivered_honest (fun _ _ => (1, Checksum.crc32Ieee.ieee [7]))
      (fun _ _ => (0, 0)) ldAnchor.toBoard ldGateway.toBoard {} {} link _
      (.inl rfl) (.of_run admitted executed) .refl).1.2
  have answered :
      link.child.step ldAnchor (.largeDataInitAck completeAck 1) =
        .ok child :=
    (Trace.run_single _ _).symm.trans stepped
  exact ⟨link, executed, child, answered, after,
    honest 1 ldAnchor completeAck child _ inFlight answered before after⟩

/-- The anchor restarts and receives a different blob under the same key: the
gateway answers `STATUS_COMPLETE` for the old one, and the anchor marks the
new one as transferred. -/
theorem alreadyDelivered_stale :
    Trace.Ends (Link.step (ldParties 1)) ⟨.boot {}, .boot {}, []⟩
      (relayEvents ++
        [ .lose 0,
          .child (ldAnchor, .restart),
          .child (ldAnchor, .largeDataInit (relayedInit 3 2 8) 5),
          .child (ldAnchor, .largeDataChunk (relayedChunk 3 2 8) 5),
          .child ({ ldAnchor with now := 40000 }, .tick),
          .child ({ ldAnchor with now := 40001 }, .tick) ])
      fun link =>
        .request (.largeDataInit
          { relayedInit 2 1 8 with reportTimeMs := 40001 }) ∈
            link.child.io.out ∧
        (link.parent.validateLargeDataSlot ldGateway (relayedInit 2 1 8)).2 =
          statusComplete ∧
        Trace.Ends (Link.step (ldParties 1)) link
          [ .parent (ldGateway, .largeDataInit (relayedInit 2 1 8) 2),
            .deliver 0 ldAnchor ]
          fun after =>
            (link.child.slots ⟨0, by decide⟩).isTransfered = false ∧
              (after.child.slots ⟨0, by decide⟩).isTransfered = true ∧
                (after.child.slots ⟨0, by decide⟩).crc32 ≠
                  (after.parent.slots ⟨0, by decide⟩).crc32 ∧
                  ∀ idx, idx ≠ ⟨0, by decide⟩ →
                    (after.parent.slots idx).active = false := by
  decide +kernel

end Samples

end DectMesh
