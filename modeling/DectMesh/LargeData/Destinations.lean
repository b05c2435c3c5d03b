import DectMesh.LargeData.Bystanders

/-!
# Where large data goes

Only the ticks of sensor and anchor announce a blob, and only to the parent.
-/

namespace DectMesh

namespace LdPlane

variable {env : Env} {s s' : LdPlane}

/-- The event makes the board send to `infra_devices[0]`. -/
def SendsUp (env : Env) (s : LdPlane) : LdEvent → Prop
  | .tick =>
      (env.deviceType = .anchor ∨ env.deviceType = .sensor) ∧
        ∃ idx, (s.slots idx).active = true ∧
          (s.slots idx).upstreamReady = true
  | _ => False

section Quiet

theorem put_quiet {action : Action} (silent : action.routedTo = none) :
    (s.put action).io.routed = s.io.routed := by
  have added := @Io.put_routed s.io action
  rw [silent] at added
  exact added.trans (List.append_nil _)

theorem sendLine_routed (text : AtLine) :
    (s.sendLine text).io.routed = s.io.routed := Io.sendLine_routed text

theorem readAndSendChunk_routed (dstId : UInt16)
    (senderIdx : Fin ldSenderSlotCount) (pageIdx chunkIdx : UInt8)
    (linear : Nat) :
    (s.readAndSendChunk env dstId senderIdx pageIdx chunkIdx
      linear).1.io.routed = s.io.routed := by
  unfold readAndSendChunk
  dsimp only
  split
  · next io _ read =>
    exact congrArg (fun outcome => outcome.1.routed) read.symm
  · next io data read =>
    have loaded : io.routed = s.io.routed :=
      congrArg (fun outcome => outcome.1.routed) read.symm
    exact (put_quiet rfl).trans loaded

theorem sendNextLargeDataChunk_routed (dstId : UInt16)
    (senderIdx : Fin ldSenderSlotCount) :
    (s.sendNextLargeDataChunk env dstId senderIdx).1.io.routed =
      s.io.routed := by
  have loop (rounds i : Nat) (t : LdPlane) :
      (sendNextLoop env dstId senderIdx rounds i t).1.io.routed =
        t.io.routed := by
    induction rounds generalizing i t with
    | zero => rfl
    | succ rounds ih =>
        have sent (linear : Nat) := @readAndSendChunk_routed env t dstId
          senderIdx (UInt8.ofNat (linear / ldChunksPerPage))
          (UInt8.ofNat (linear % ldChunksPerPage)) linear
        unfold sendNextLoop
        dsimp only
        split
        · rfl
        · have sent := sent ((t.senders senderIdx).nextChunk.toNat + i)
          split
          · next after _ chunk =>
            rw [chunk] at sent
            exact sent
          · next after chunk =>
            rw [chunk] at sent
            exact (ih _ _).trans sent
  exact loop _ _ s

theorem restartTransfer_io (senderIdx : Fin ldSenderSlotCount) :
    (s.restartTransfer senderIdx).io = s.io := by
  unfold restartTransfer
  dsimp only
  split <;> rfl

theorem advanceTransfer_routed (srcId : UInt16)
    (senderIdx : Fin ldSenderSlotCount) :
    (s.advanceTransfer env srcId senderIdx).io.routed = s.io.routed := by
  unfold advanceTransfer
  dsimp only
  split
  · rfl
  · have sent := @sendNextLargeDataChunk_routed env
      (s.setSender senderIdx
        { s.senders senderIdx with
          nextChunk := (s.senders senderIdx).nextChunk + 1 })
      srcId senderIdx
    split
    · next after done =>
      rw [done] at sent
      exact sent
    · next after _ failed =>
      rw [failed] at sent
      exact (congrArg Io.routed (restartTransfer_io senderIdx)).trans sent

theorem handleLargeDataInitAck_routed {pkt : LargeDataInitAck}
    {srcId : UInt16}
    (handled : s.handleLargeDataInitAck env pkt srcId = .ok s') :
    s'.io.routed = s.io.routed := by
  have untracked : (s.put (.untrack pkt.hdr.trackingId)).io.routed =
      s.io.routed := put_quiet rfl
  have answered (t : LdPlane) (senderIdx : Fin ldSenderSlotCount)
      (idx : Fin ldReceiverSlotCount) :
      (t.answerInitAck env pkt srcId senderIdx idx).io.routed =
        t.io.routed := by
    unfold answerInitAck
    dsimp only
    split
    · rfl
    · split
      · split
        · rfl
        · exact sendNextLargeDataChunk_routed _ _
      · split <;> rfl
  cases handleLargeDataInitAck_taken handled with
  | ignored => rfl
  | untracked => exact untracked
  | answered => exact (answered _ _ _).trans untracked

theorem handleLargeDataChunkAck_routed {pkt : LargeDataChunkAck}
    {srcId : UInt16}
    (handled : s.handleLargeDataChunkAck env pkt srcId = .ok s') :
    s'.io.routed = s.io.routed := by
  have untracked : (s.put (.untrack pkt.hdr.trackingId)).io.routed =
      s.io.routed := put_quiet rfl
  have finished (t : LdPlane) (senderIdx : Fin ldSenderSlotCount) :
      (t.finishTransfer env senderIdx).io = t.io := by
    unfold finishTransfer
    dsimp only
    split <;> rfl
  have continued (t : LdPlane) (senderIdx : Fin ldSenderSlotCount) :
      (t.continueTransfer env pkt srcId senderIdx).io.routed =
        t.io.routed := by
    have resent := @readAndSendChunk_routed env t srcId senderIdx
      pkt.pageIndex pkt.chunkIndex (linearIndex pkt.pageIndex pkt.chunkIndex)
    unfold continueTransfer resendLargeDataChunk
    split
    · rfl
    · rfl
    all_goals
      split
      · split
        · exact congrArg Io.routed (restartTransfer_io senderIdx)
        · split
          · split
            · next failed =>
              rw [failed] at resent
              exact resent
            · next done =>
              rw [done] at resent
              exact (advanceTransfer_routed _ _).trans resent
          · exact advanceTransfer_routed _ _
      · rfl
  cases handleLargeDataChunkAck_taken handled with
  | ignored => rfl
  | untracked => exact untracked
  | finishes => exact (congrArg Io.routed (finished _ _)).trans untracked
  | continues => exact (continued _ _).trans untracked

theorem atSendNextChunk_routed (senderIdx : Fin ldSenderSlotCount)
    (page chunk : Nat) :
    (s.atSendNextChunk senderIdx page chunk).io.routed = s.io.routed := by
  unfold atSendNextChunk
  dsimp only
  split
  · rfl
  · split
    · next io _ read =>
      exact congrArg (fun outcome => outcome.1.routed) read.symm
    · next io _ read =>
      have loaded : io.routed = s.io.routed :=
        congrArg (fun outcome => outcome.1.routed) read.symm
      exact (sendLine_routed _).trans loaded

theorem cmdLdInitAck_io (args : List Char) :
    (s.cmdLdInitAck env args).1.io = s.io := by
  unfold cmdLdInitAck
  dsimp only
  split
  · split
    · rfl
    · split
      · rfl
      · split <;> rfl
  · rfl

theorem cmdLdChunkReady_routed (ready : s.cmdLdChunkReady = .ok s') :
    s'.io.routed = s.io.routed := by
  unfold cmdLdChunkReady at ready
  dsimp only at ready
  split at ready
  · cases ready
  · split at ready
    · split at ready
      · cases ready
        rfl
      · cases ready
        rfl
    · cases ready
      exact atSendNextChunk_routed _ _ _

theorem gatewayLoop_routed (senders : List (Fin ldSenderSlotCount))
    (looped : gatewayLoop env senders s = .ok s') :
    s'.io.routed = s.io.routed := by
  have announced {t t' : LdPlane} {senderIdx : Fin ldSenderSlotCount}
      {idx : Fin ldReceiverSlotCount} {sent : Bool}
      (done : t.sendAtLargeDataInit env senderIdx idx = .ok (t', sent)) :
      t'.io.routed = t.io.routed := by
    unfold sendAtLargeDataInit at done
    dsimp only at done
    split at done
    · split at done
      · cases done
        rfl
      · cases done
        exact congrArg Io.routed (freeLargeDataSlot_io _ _ _)
    · split at done
      · cases done
      · cases done
        exact Io.txWrite_routed _
  induction senders generalizing s with
  | nil =>
      cases looped
      rfl
  | cons senderIdx rest ih =>
      unfold gatewayLoop at looped
      dsimp only at looped
      split at looped
      · cases looped
        rfl
      · split at looped
        · cases looped
          rfl
        · split at looped
          · cases looped
          · next done =>
            cases looped
            have sent := announced done
            exact sent
          · next done =>
            have sent := announced done
            exact (ih looped).trans sent

end Quiet

section Sends

theorem senderLoop_adds (retry : Bool) {known : UInt16 → Prop}
    (senders : List (Fin ldSenderSlotCount))
    (allowed : ∀ idx, (s.slots idx).active = true →
      (s.slots idx).upstreamReady = true → known env.parent.deviceId) :
    Io.Adds known s.io (senderLoop env retry senders s).io := by
  have stillReady {t t' : LdPlane} (same : SameStore t t')
      (ready : ∀ idx, (t.slots idx).active = true →
        (t.slots idx).upstreamReady = true → known env.parent.deviceId) :
      ∀ idx, (t'.slots idx).active = true →
        (t'.slots idx).upstreamReady = true → known env.parent.deviceId := by
    intro idx active upstream
    have before : (t'.slots idx).active = (t.slots idx).active :=
      (congrArg LdSlot.active (same.slots idx) :)
    have still : (t'.slots idx).upstreamReady = (t.slots idx).upstreamReady :=
      (congrArg LdSlot.upstreamReady (same.slots idx) :)
    exact ready idx (before ▸ active) (still ▸ upstream)
  induction senders generalizing s with
  | nil => exact .refl _
  | cons senderIdx rest ih =>
      unfold senderLoop
      split
      · have expired : (s.expireSender env retry senderIdx).io = s.io := by
          unfold expireSender
          dsimp only
          split
          · split
            · rfl
            · split <;> rfl
          · rfl
        exact (Io.Adds.of_same (congrArg Io.routed expired)).trans
          (ih (stillReady (expireSender_same retry senderIdx) allowed))
      · split
        · exact .refl _
        · next idx found =>
          obtain ⟨active, ready, -⟩ := findPending_some found
          split
          · exact .of_same
              (congrArg Io.routed (freeLargeDataSlot_io _ _ _))
          · have started : Io.Adds known s.io
                (s.startSender env senderIdx idx).io := by
              refine Io.Adds.put fun dst sent => ?_
              cases sent
              exact allowed idx active ready
            exact started.trans
              (ih (stillReady (startSender_same senderIdx idx) allowed))

/-- Every packet that is passed on goes to the parent. -/
theorem step_receives {event : LdEvent}
    (stepped : s.step env event = .ok s') :
    ∀ dst ∈ s'.io.routed,
      s.SendsUp env event ∧ dst = env.parent.deviceId := by
  have received (adds : Io.Adds
      (fun dst => s.SendsUp env event ∧ dst = env.parent.deviceId)
      s.clearOut.io s'.io) : ∀ dst ∈ s'.io.routed,
        s.SendsUp env event ∧ dst = env.parent.deviceId := by
    intro dst sent
    rcases adds dst sent with before | new
    · cases before
    · exact new
  apply received
  cases event with
  | largeDataInit pkt srcId =>
      cases stepped
      exact .of_same (handleLargeDataInit_bystander _ _).routed
  | largeDataInitAck pkt srcId =>
      exact .of_same (handleLargeDataInitAck_routed stepped)
  | largeDataChunk pkt srcId =>
      exact .of_same (handleLargeDataChunk_bystander stepped).routed
  | largeDataChunkAck pkt srcId =>
      exact .of_same (handleLargeDataChunkAck_routed stepped)
  | tick =>
      have ticked : s.clearOut.largeDataTick env = .ok s' := stepped
      unfold largeDataTick at ticked
      split at ticked
      · exact .of_same (gatewayLoop_routed _ ticked)
      · next anchor =>
        cases ticked
        exact senderLoop_adds true _ fun idx active ready =>
          ⟨⟨.inl anchor, idx, active, ready⟩, rfl⟩
      · next sensor =>
        cases ticked
        exact senderLoop_adds false _ fun idx active ready =>
          ⟨⟨.inr sensor, idx, active, ready⟩, rfl⟩
      · cases ticked
        exact .refl _
  | cmdLdInit args =>
      cases stepped
      exact .of_same (cmdLdInit_bystander args).routed
  | cmdLdChunk args =>
      cases stepped
      exact .of_same (cmdLdChunk_bystander args).routed
  | cmdLdInitAck args =>
      cases stepped
      exact .of_same (congrArg Io.routed (cmdLdInitAck_io args))
  | cmdLdInitReady =>
      cases stepped
      refine .of_same ?_
      unfold cmdLdInitReady
      split
      · rfl
      · exact atSendNextChunk_routed _ _ _
  | cmdLdChunkAck args =>
      obtain ⟨_, -, rfl⟩ := exists_of_map_ok stepped
      exact .refl _
  | cmdLdChunkReady => exact .of_same (cmdLdChunkReady_routed stepped)
  | restart =>
      cases stepped
      exact .refl _
  | elsewhere psram uart =>
      cases stepped
      exact .refl _

end Sends

end LdPlane

end DectMesh
