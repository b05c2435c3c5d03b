import DectMesh.Config.Destinations
import DectMesh.Report.Scheduling
import DectMesh.Routing

/-!
# Where a report goes

Announcements go to the parent when a tick starts a transfer, confirmations to
the next hop of their route.
-/

namespace DectMesh

namespace ReportPlane

variable {env : Env} {s s' : ReportPlane}

/-- The event makes the board send to `infra_devices[0]`. -/
def SendsUp (env : Env) (s : ReportPlane) : ReportEvent → Prop
  | .tick =>
      (env.deviceType = .anchor ∨ env.deviceType = .sensor) ∧
        loopStarts env (List.finRange maxAnchors)
          (expireSlots env allSlots s) ≠ []
  | _ => False

/-- The event makes the board send to this device without a look at its
tables. -/
def NextHop (env : Env) (s : ReportPlane) (dst : UInt16) :
    ReportEvent → Prop
  | .reportReceived pkt _ =>
      env.deviceType = .anchor ∧ env.accepts pkt.hdr = true ∧
        isUpstreamType pkt.hdr.deviceType = true ∧
          ¬ (lastHop pkt.routeInfo = true ∧
            (pkt.routeInfo firstHop).deviceId = env.deviceId) ∧
              dst = (shiftRoute pkt.routeInfo firstHop).deviceId
  | .release deviceId reportId isSuccess =>
      deviceId ≠ 0xFFFF ∧ isSuccess = true ∧
        ∃ idx, s.findSentSlot deviceId reportId = some idx ∧
          env.findHopNum (s.slots idx).genDeviceId DeviceType.sensor.code =
            0 ∧ dst = (s.slots idx).genDeviceId
  | _ => False

/-- The receivers that an event may have: the parent, the next hop and stored
sensors. -/
def Receives (env : Env) (s : ReportPlane) (event : ReportEvent)
    (dst : UInt16) : Prop :=
  s.SendsUp env event ∧ dst = env.parent.deviceId ∨
    s.NextHop env dst event ∨ env.findSensor dst ≠ none

section Quiet

theorem put_quiet {action : Action} (silent : action.routedTo = none) :
    (s.put action).io.routed = s.io.routed := by
  rw [put_io, Io.put_routed, silent]
  exact List.append_nil _

theorem readAndSendChunk_routed (dstId : UInt16)
    (senderIdx : Fin maxAnchors) (chunkIdx : UInt8) :
    (s.readAndSendChunk env dstId senderIdx chunkIdx).1.io.routed =
      s.io.routed := by
  unfold readAndSendChunk
  dsimp only
  split
  · next io _ read =>
    exact congrArg (fun outcome => outcome.1.routed) read.symm
  · next io data read =>
    have loaded : io.routed = s.io.routed :=
      congrArg (fun outcome => outcome.1.routed) read.symm
    exact (put_quiet (s := { s with io := io }) rfl).trans loaded

theorem sendNextChunk_routed (dstId : UInt16) (senderIdx : Fin maxAnchors) :
    (s.sendNextChunk env dstId senderIdx).1.io.routed = s.io.routed := by
  have loop (rounds : Nat) (t : ReportPlane) :
      (sendNextChunkLoop env dstId senderIdx rounds t).1.io.routed =
        t.io.routed := by
    induction rounds generalizing t with
    | zero => rfl
    | succ rounds ih =>
        have sent := @readAndSendChunk_routed env t dstId senderIdx
          (t.senders senderIdx).nextChunk
        unfold sendNextChunkLoop
        dsimp only
        split
        · rfl
        · split
          · next after _ chunk =>
            rw [chunk] at sent
            exact sent
          · next after chunk =>
            rw [chunk] at sent
            exact (ih _).trans sent
  exact loop _ s

theorem resendChunk_routed (dstId : UInt16) (senderIdx : Fin maxAnchors)
    (chunkIdx : UInt8) :
    (s.resendChunk env dstId senderIdx chunkIdx).1.io.routed =
      s.io.routed := by
  unfold resendChunk
  split
  · rfl
  · exact readAndSendChunk_routed _ _ _

theorem handleReportInit_routed {pkt : ReportInit} {srcId : UInt16} :
    (s.handleReportInit env pkt srcId).io.routed = s.io.routed := by
  generalize handled : s.handleReportInit env pkt srcId = t
  cases handleReportInit_taken handled with
  | ignored => rfl
  | malformed => exact put_quiet rfl
  | answered role below sizes validated =>
      exact (put_quiet rfl).trans (congrArg Io.routed validated.io)

theorem handleReportInitAck_routed {pkt : ReportInitAck} {srcId : UInt16}
    (handled : s.handleReportInitAck env pkt srcId = .ok s') :
    s'.io.routed = s.io.routed := by
  have untracked : (s.put (.untrack pkt.hdr.trackingId)).io.routed =
      s.io.routed := put_quiet rfl
  cases handleReportInitAck_taken handled with
  | ignored => rfl
  | untracked => exact untracked
  | sends => exact (sendNextChunk_routed _ _).trans untracked
  | frees =>
      exact (congrArg Io.routed (reportSlotFree_io _ _ _)).trans untracked

theorem handleReportChunk_routed {pkt : ReportChunk} {srcId : UInt16}
    (handled : s.handleReportChunk env pkt srcId = .ok s') :
    s'.io.routed = s.io.routed := by
  have verified (t : ReportPlane) (idx : Fin dataSlotCount) :
      (t.verifyReport env idx).1.io.routed = t.io.routed := by
    unfold verifyReport
    dsimp only
    split
    · rw [reportSlotFree_io]
      rfl
    · split
      · rfl
      · rw [reportSlotFree_io]
        rfl
  have validated {t : ReportPlane} {status : UInt8}
      (done : s.validateReportChunk env pkt = .ok (t, status)) :
      t.io.routed = s.io.routed := by
    unfold validateReportChunk at done
    dsimp only at done
    split at done
    · cases done
      rfl
    · split at done
      · cases done
        rfl
      · split at done
        · cases done
        · split at done
          · cases done
            rfl
          · split at done
            · next io _ wrote =>
              cases done
              exact congrArg (fun outcome => outcome.1.routed) wrote.symm
            · next io wrote =>
              have stored : io.routed = s.io.routed :=
                congrArg (fun outcome => outcome.1.routed) wrote.symm
              split at done
              · have outcome := Except.ok.inj done
                have whole := congrArg (fun pair => pair.1.io.routed) outcome
                exact whole.symm.trans ((verified _ _).trans stored)
              · cases done
                exact stored
  rcases handleReportChunk_answered handled with
    rfl | ⟨after, status, -, done, rfl⟩
  · rfl
  · exact (put_quiet rfl).trans (validated done)

theorem handleReportChunkAck_routed {pkt : ReportChunkAck} {srcId : UInt16}
    (handled : s.handleReportChunkAck env pkt srcId = .ok s') :
    s'.io.routed = s.io.routed := by
  have untracked : (s.put (.untrack pkt.hdr.trackingId)).io.routed =
      s.io.routed := put_quiet rfl
  have repeated (t : ReportPlane) (idx : Fin maxAnchors) (chunkIdx : UInt8) :
      (t.repeatChunk env srcId idx chunkIdx).io.routed = t.io.routed := by
    have resent := @resendChunk_routed env t srcId idx chunkIdx
    unfold repeatChunk
    split
    · next failed =>
      rw [failed] at resent
      exact resent
    · next done =>
      rw [done] at resent
      exact resent
  have restarted (t : ReportPlane) (idx : Fin maxAnchors) :
      (t.restartTransfer idx).io = t.io := by
    unfold restartTransfer
    dsimp only
    split <;> rfl
  have completed (t : ReportPlane) (idx : Fin maxAnchors) :
      (t.completeTransfer idx).io = t.io := by
    unfold completeTransfer
    dsimp only
    split
    · rfl
    · exact reportSlotFree_io _ _ _
  cases handleReportChunkAck_taken handled with
  | ignored => rfl
  | untracked => exact untracked
  | completes => exact (congrArg Io.routed (completed _ _)).trans untracked
  | restarts => exact (congrArg Io.routed (restarted _ _)).trans untracked
  | repeats => exact (repeated _ _ _).trans untracked

theorem forwardToHost_routed (slots : List (Fin dataSlotCount))
    (ok : forwardToHost env slots s = .ok s') :
    s'.io.routed = s.io.routed := by
  induction slots generalizing s with
  | nil =>
      cases ok
      rfl
  | cons idx rest ih =>
      unfold forwardToHost at ok
      dsimp only at ok
      split at ok
      · split at ok
        · next io _ read =>
          have loaded : io.routed = s.io.routed :=
            congrArg (fun outcome => outcome.1.routed) read.symm
          exact (ih ok).trans loaded
        · next io payload read =>
          have loaded : io.routed = s.io.routed :=
            congrArg (fun outcome => outcome.1.routed) read.symm
          split at ok
          · cases ok
          · split at ok
            · exact (ih ok).trans loaded
            · split at ok
              · next after wrote =>
                have sent : after.routed = s.io.routed := by
                  rw [← loaded, ← io.txWrite_routed, wrote]
                exact (ih ok).trans sent
              · next after wrote =>
                have sent : after.routed = s.io.routed := by
                  rw [← loaded, ← io.txWrite_routed, wrote]
                cases ok
                exact sent
      · exact ih ok

theorem expireSlots_quiet (slots : List (Fin dataSlotCount))
    (s : ReportPlane) : (expireSlots env slots s).io = s.io := by
  induction slots generalizing s with
  | nil => rfl
  | cons idx rest ih =>
      unfold expireSlots
      split
      · rw [ih, reportSlotFree_io]
      · rw [ih]

/-- Storing a report of the board itself puts nothing out. -/
theorem validateAtReport_out (report : SlmAtStructure) (priority : UInt8)
    (data : List UInt8) :
    (s.validateAtReport env report priority data).1.io.out = s.io.out := by
  have stored (t : ReportPlane) (idx : Fin dataSlotCount) :
      (t.storeReport env idx report priority data).1.io.out = t.io.out := by
    unfold storeReport
    simp only [updateReportCount_io, setSlot_io]
    split
    · next io wrote => exact Io.write_out_eq wrote
    · next io errno wrote =>
      rw [reportSlotFree_io]
      exact Io.write_out_eq wrote
  unfold validateAtReport
  split
  · rfl
  · split
    · exact stored s _
    · split
      · rfl
      · exact (stored _ _).trans rfl

theorem cmdReport_routed (args : List Char) :
    (s.cmdReport env args).io.routed = s.io.routed := by
  unfold cmdReport
  split
  · exact Io.sendLine_routed _
  · split
    · exact Io.sendLine_routed _
    · split
      · exact Io.sendLine_routed _
      · next command _ =>
        have quiet : (s.validateAtReport env command.report
            command.priority command.payload).1.io.routed = s.io.routed :=
          congrArg (List.filterMap Action.routedTo)
            (validateAtReport_out _ _ _)
        split
        · exact Io.sendLine_routed _
        · split
          · exact Io.sendLine_routed _
          · split
            · next failed =>
              rw [failed] at quiet
              exact (Io.sendLine_routed _).trans quiet
            · next done =>
              rw [done] at quiet
              exact (Io.sendLine_routed _).trans
                ((Io.sendLine_routed _).trans quiet)

end Quiet

section Sends

theorem sendReportReceived_adds {known : UInt16 → Prop}
    {pkt : ReportReceived} {dstId : UInt16} (allowed : known dstId) :
    Io.Adds known s.io (s.sendReportReceived env pkt dstId).io := by
  refine Io.Adds.put fun dst sent => ?_
  cases sent
  exact allowed

theorem handleReportReceived_adds {pkt : ReportReceived} {srcId : UInt16} :
    Io.Adds (s.Receives env (.reportReceived pkt srcId)) s.io
      (s.handleReportReceived env pkt srcId).io := by
  have acked {io io' : Io} (adds : Io.Adds
      (s.Receives env (.reportReceived pkt srcId)) io io')
      (ack : ReportReceivedAck) :
      Io.Adds (s.Receives env (.reportReceived pkt srcId)) io
        (io'.put (.reply (.reportReceivedAck ack))) :=
    adds.trans (.put fun dst sent => by cases sent)
  unfold handleReportReceived
  dsimp only
  split
  · exact .refl _
  · next ignored =>
    have taken : env.accepts pkt.hdr = true := by simpa using ignored
    split
    · exact .refl _
    · exact .refl _
    · next anchor =>
      split
      · next upstream =>
        split
        · split
          · next found =>
            refine acked (sendReportReceived_adds (.inr (.inr ?_))) _
            rw [found]
            simp
          · exact acked (.refl _) _
        · next other =>
          exact acked (sendReportReceived_adds (.inr (.inl
            ⟨anchor, taken, upstream, other, rfl⟩))) _
      · exact .refl _
    · split
      · exact acked (.refl _) _
      · exact .refl _

theorem reportTick_adds (ticked : s.reportTick env = .ok s') :
    Io.Adds (s.Receives env .tick) s.io s'.io := by
  have expired : (expireSlots env allSlots s).io = s.io :=
    expireSlots_quiet allSlots s
  have started (freeInvalid : Bool)
      (role : env.deviceType = .anchor ∨ env.deviceType = .sensor) :
      Io.Adds (s.Receives env .tick) s.io
        (senderLoop env freeInvalid (List.finRange maxAnchors)
          (expireSlots env allSlots s)).io := by
    intro dst sent
    rw [Io.routed, senderLoop_out, expired, List.filterMap_append,
      List.mem_append] at sent
    rcases sent with before | new
    · exact .inl before
    · obtain ⟨action, member, receiver⟩ := List.mem_filterMap.mp new
      obtain ⟨start, listed, rfl⟩ := List.mem_map.mp member
      have some_ : loopStarts env (List.finRange maxAnchors)
          (expireSlots env allSlots s) ≠ [] := List.ne_nil_of_mem listed
      cases receiver
      exact .inr (.inl ⟨⟨role, some_⟩, rfl⟩)
  unfold reportTick at ticked
  dsimp only at ticked
  split at ticked
  · refine .of_same ?_
    rw [forwardToHost_routed _ ticked, expireForwarded_io, expired]
  · next anchor =>
    cases ticked
    exact started false (.inl anchor)
  · next sensor =>
    cases ticked
    exact started true (.inr sensor)
  · cases ticked
    exact .of_same (congrArg Io.routed expired)

theorem reportSlotReleaseById_adds {deviceId reportId : UInt16}
    {isSuccess : Bool}
    (released : s.reportSlotReleaseById env deviceId reportId isSuccess =
      .ok s') :
    Io.Adds (s.Receives env (.release deviceId reportId isSuccess)) s.io
      s'.io := by
  have discovered (actions : List Action)
      (quiet : ∀ action ∈ actions, action.routedTo = none)
      (t : ReportPlane) : (actions.foldl put t).io.routed = t.io.routed := by
    induction actions generalizing t with
    | nil => rfl
    | cons action rest ih =>
        have first : (t.put action).io.routed = t.io.routed :=
          put_quiet (quiet action List.mem_cons_self)
        exact (ih (fun other member =>
          quiet other (List.mem_cons_of_mem _ member)) _).trans first
  unfold reportSlotReleaseById at released
  dsimp only at released
  split at released
  · cases released
    exact .refl _
  · next known =>
    split at released
    · cases released
      exact .refl _
    · next idx found =>
      split at released
      · next success =>
        split at released
        · cases released
          exact .refl _
        · split at released
          · next near =>
            cases released
            exact sendReportReceived_adds (.inr (.inl
              ⟨known, success, idx, found, near, rfl⟩))
          · cases released
            refine .of_same (discovered _ ?_ s)
            intro action member
            obtain ⟨sent, rfl⟩ := Env.mem_routeDiscoveries member
            rfl
      · split at released
        · cases released
        · cases released
          exact .refl _

/-- Every packet that is passed on goes to the parent, to the next hop or to a
stored sensor. -/
theorem step_receives {event : ReportEvent}
    (stepped : s.step env event = .ok s') :
    ∀ dst ∈ s'.io.routed, s.clearOut.Receives env event dst := by
  have received (adds : Io.Adds (s.clearOut.Receives env event) s.clearOut.io
      s'.io) : ∀ dst ∈ s'.io.routed, s.clearOut.Receives env event dst := by
    intro dst sent
    rcases adds dst sent with before | new
    · cases before
    · exact new
  apply received
  cases event with
  | reportInit pkt srcId =>
      cases stepped
      exact .of_same handleReportInit_routed
  | reportInitAck pkt srcId =>
      exact .of_same (handleReportInitAck_routed stepped)
  | reportChunk pkt srcId => exact .of_same (handleReportChunk_routed stepped)
  | reportChunkAck pkt srcId =>
      exact .of_same (handleReportChunkAck_routed stepped)
  | reportReceived pkt srcId =>
      cases stepped
      exact handleReportReceived_adds
  | reportReceivedAck pkt =>
      cases stepped
      refine .of_same ?_
      unfold handleReportReceivedAck
      split
      · rfl
      · exact put_quiet rfl
  | routeInfo pkt =>
      have built : (s.clearOut.buildReportReceivedPkt pkt).map
          (fun outcome => outcome.1) = .ok s' := stepped
      unfold buildReportReceivedPkt at built
      dsimp only at built
      split at built
      · split at built
        · cases built
          exact .refl _
        · cases built
          exact .refl _
      · cases built
  | tick => exact reportTick_adds stepped
  | cmdReport args =>
      cases stepped
      exact .of_same (cmdReport_routed args)
  | release deviceId reportId isSuccess =>
      exact reportSlotReleaseById_adds stepped
  | restart =>
      cases stepped
      exact .refl _
  | elsewhere psram uart =>
      cases stepped
      exact .refl _

end Sends

section Routes

/-- A `ROUTE_INFO` for a report makes the board send to this device. -/
def RouteHop (env : Env) (s : ReportPlane) (pkt : RouteInfo) (dst : UInt16) :
    Prop :=
  env.deviceType = .gateway ∧ env.accepts pkt.hdr = true ∧
    pkt.hdr.status = statusSuccess ∧
      pkt.hdr.deviceType = DeviceType.anchor.code ∧
        pkt.dataType = dataTypeReport ∧
          (∃ inside : pkt.dataId.toNat < dataSlotCount,
            (s.slots ⟨pkt.dataId.toNat, inside⟩).isTransfered = false ∧
              (s.slots ⟨pkt.dataId.toNat, inside⟩).dataId ≠ 0) ∧
            dst = (reverseRoute pkt.routeInfo firstHop).deviceId

theorem sendRoutedReport_adds {pkt : RouteInfo} {srcId : UInt16}
    (sent : s.sendRoutedReport env pkt srcId = .ok s') :
    Io.Adds (s.RouteHop env pkt) s.io s'.io := by
  have acked {io io' : Io} (adds : Io.Adds (s.RouteHop env pkt) io io')
      (ack : RouteInfoAck) :
      Io.Adds (s.RouteHop env pkt) io
        (io'.put (.reply (.routeInfoAck ack))) :=
    adds.trans (.put fun dst sent => by cases sent)
  unfold sendRoutedReport at sent
  dsimp only at sent
  split at sent
  · cases sent
    exact .refl _
  · next taken =>
    simp only [not_or, Bool.not_eq_true', Bool.not_eq_false, not_not] at taken
    obtain ⟨accepted, status, gateway, fromAnchor, report⟩ := taken
    split at sent
    · cases sent
    · next after built found =>
      unfold buildReportReceivedPkt at found
      dsimp only at found
      split at found
      · next inside =>
        split at found
        · cases found
          cases sent
          exact acked (.refl _) _
        · next waiting =>
          cases found
          split at sent
          · cases sent
            exact acked (.refl _) _
          · next named =>
            cases sent
            refine acked (sendReportReceived_adds ?_) _
            exact ⟨gateway, accepted, status, fromAnchor, report,
              ⟨inside, Bool.not_eq_true _ ▸ waiting, named⟩, rfl⟩
      · cases found

end Routes

end ReportPlane

end DectMesh
