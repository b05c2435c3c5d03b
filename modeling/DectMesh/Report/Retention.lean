import DectMesh.Report.Counters
import DectMesh.Report.Delivered
import DectMesh.Report.Handover

/-!
# How long a gateway keeps a verified report

The timer that recognises duplicates starts when a report is verified, and the
first loop of `report_tick` frees every slot whose timer has expired, also one
that the host has not been given.
-/

namespace DectMesh

namespace ReportPlane

variable {env : Env} {event : ReportEvent} {s s' : ReportPlane}

/-- The slot holds a verified report that was not written to the host. -/
def Unsent (s : ReportPlane) (idx : Fin dataSlotCount) : Prop :=
  (s.slots idx).active = true ∧ (s.slots idx).upstreamReady = true ∧
    (s.slots idx).isSent = false

instance Unsent.decidable (s : ReportPlane) (idx : Fin dataSlotCount) :
    Decidable (s.Unsent idx) :=
  inferInstanceAs (Decidable (_ ∧ _ ∧ _))

/-- A gateway has nobody to send reports to. -/
def NoSenders (s : ReportPlane) : Prop :=
  ∀ i, (s.senders i).active = false

/-- The steps that keep what was not written to the host: the timer of such a
slot has not expired when a tick comes. -/
def UnsentKept (env : Env) (s : ReportPlane) : ReportEvent → Prop
  | .tick => ∀ idx, s.Unsent idx →
      (s.slots idx).idleTimeout.expired env.now = false
  | .restart => ∀ idx, ¬ s.Unsent idx
  | _ => True

/-- The steps of a gateway. -/
def OnGateway (board : Board) (s : ReportPlane)
    (event : Env × ReportEvent) : Prop :=
  OnBoard board s event ∧ board.deviceType = .gateway

end ReportPlane

open ReportPlane

section Steps

variable {env : Env} {event : ReportEvent} {s s' : ReportPlane}

/-- Only the ticks of anchors and sensors activate a sender. -/
theorem ReportMove.noSenders (move : ReportMove env event s s')
    (role : env.deviceType = .gateway) (none : s.NoSenders) : s'.NoSenders := by
  have replaced {senderIdx : Fin maxAnchors} {sender : ReportSender}
      (idle : sender.active = false) (i : Fin maxAnchors) :
      (Function.update s.senders senderIdx sender i).active = false := by
    by_cases same : i = senderIdx
    · rw [same, Function.update_self]
      exact idle
    · rw [Function.update_of_ne same]
      exact none i
  intro i
  cases move with
  | quiet same =>
      rw [same.senders]
      exact none i
  | sentChunk => exact none i
  | freed reason =>
      rw [reportSlotFree_senders]
      split
      · rfl
      · exact none i
  | stopped => exact replaced rfl i
  | advanced =>
      refine replaced ?_ i
      exact none _
  | retried => exact replaced rfl i
  | started otherRole =>
      rw [role] at otherRole
      rcases otherRole with anchor | sensor
      · cases anchor
      · cases sensor
  | accepted => exact none i
  | storeFailed => exact none i
  | stored => exact none i
  | completed => exact none i
  | rejected =>
      rw [reportSlotFree_noSender]
      exact none i
  | forwarded => exact none i
  | transfered => exact none i
  | hostStored => exact none i
  | hostLost =>
      rw [reportSlotFree_noSender]
      exact none i
  | restarted => rfl
  | elsewhere other slots senders =>
      rw [senders]
      exact none i

theorem step_noSenders (role : env.deviceType = .gateway)
    (allowed : s.Elsewhere event) (stepped : s.step env event = .ok s')
    (none : s.NoSenders) : s'.NoSenders := by
  have moves := step_moves allowed stepped
  clear stepped
  induction moves with
  | refl => exact none
  | tail _ move ih => exact move.noSenders role ih

/-- Without senders a chunk acknowledgement changes no table. -/
theorem handleReportChunkAck_idle {pkt : ReportChunkAck} {srcId : UInt16}
    (none : s.NoSenders)
    (ok : s.handleReportChunkAck env pkt srcId = .ok s') :
    s'.slots = s.slots := by
  have idle {idx : Fin maxAnchors}
      (found : s.findSenderSlot pkt.genDeviceId pkt.dataId = some idx) :
      s'.slots = s.slots := by
    have active := (findSenderSlot_some found).1
    rw [none idx] at active
    cases active
  cases handleReportChunkAck_taken ok with
  | ignored => rfl
  | untracked => rfl
  | completes found => exact idle found
  | restarts found => exact idle found
  | repeats _ found => exact idle found

theorem handleReportInitAck_gateway {pkt : ReportInitAck} {srcId : UInt16}
    (role : env.deviceType = .gateway)
    (ok : s.handleReportInitAck env pkt srcId = .ok s') :
    s'.slots = s.slots := by
  cases handleReportInitAck_taken ok with
  | ignored => rfl
  | untracked => rfl
  | sends other => simp [role] at other
  | frees other => simp [role] at other

/-- One step of a gateway keeps a verified report whose time is not over. -/
theorem step_readyKept {idx : Fin dataSlotCount}
    (role : env.deviceType = .gateway) (allowed : s.Elsewhere event)
    (none : s.NoSenders) (tally : SlotTally (s.slots idx))
    (active : (s.slots idx).active = true)
    (ready : (s.slots idx).upstreamReady = true)
    (timer : event = .tick →
      (s.slots idx).idleTimeout.expired env.now = false)
    (noRestart : event ≠ .restart) (stepped : s.step env event = .ok s') :
    (s'.slots idx).content = (s.slots idx).content := by
  have notSensor : env.deviceType ≠ .sensor := by
    rw [role]
    decide
  by_cases initAck : ∃ pkt srcId, event = .reportInitAck pkt srcId
  · obtain ⟨pkt, srcId, rfl⟩ := initAck
    rw [handleReportInitAck_gateway role stepped]
    rfl
  by_cases chunkAck : ∃ pkt srcId, event = .reportChunkAck pkt srcId
  · obtain ⟨pkt, srcId, rfl⟩ := chunkAck
    have cleared : s.clearOut.NoSenders := none
    rw [handleReportChunkAck_idle cleared stepped]
    rfl
  push Not at initAck chunkAck
  have keeps : KeepsSlot env event (s.slots idx) :=
    { noRestart := noRestart
      timer := timer
      valid := fun sensor => absurd sensor notSensor
      initAck := fun pkt srcId received => absurd received (initAck pkt srcId)
      chunkAck := fun pkt srcId received =>
        absurd received (chunkAck pkt srcId)
      host := fun sensor => absurd sensor notSensor
      init := by
        intro notReady
        rw [ready] at notReady
        cases notReady }
  by_cases isChunk : ∃ pkt srcId, event = .reportChunk pkt srcId
  · obtain ⟨pkt, srcId, rfl⟩ := isChunk
    obtain ⟨middle, first, after⟩ := handleReportChunk_outcome rfl stepped
    rw [after.slots]
    rcases first with rfl | move
    · rfl
    · refine move.move.keepsSlot active ?_ keeps
      intro other from_ chunk _ storable
      -- every chunk of a ready slot was received
      have open_ := storable.notReady tally
      rw [show s.clearOut.slots = s.slots from rfl, ready] at open_
      cases open_
  · push Not at isChunk
    exact (step_moves allowed stepped).keepsSlot active isChunk keeps

/-- One step of a gateway keeps a report that the host was not given. -/
theorem step_unsentKept {idx : Fin dataSlotCount}
    (role : env.deviceType = .gateway) (allowed : s.Elsewhere event)
    (none : s.NoSenders) (tally : SlotTally (s.slots idx))
    (held : s.Unsent idx) (kept : UnsentKept env s event)
    (stepped : s.step env event = .ok s') :
    (s'.slots idx).content = (s.slots idx).content := by
  refine step_readyKept role allowed none tally held.1 held.2.1 ?_ ?_ stepped
  · rintro rfl
    exact kept idx held
  · rintro rfl
    exact kept idx held

/-- A step that does not meet the condition discards such a report. -/
theorem step_unsentLost (role : env.deviceType = .gateway)
    (broken : ¬ UnsentKept env s event) (stepped : s.step env event = .ok s') :
    ∃ idx, s.Unsent idx ∧ (s'.slots idx).active = false := by
  cases event with
  | tick =>
      simp only [UnsentKept, not_forall, Bool.not_eq_false] at broken
      obtain ⟨idx, held, expired⟩ := broken
      refine ⟨idx, held, Bool.eq_false_iff.mpr fun active => ?_⟩
      have ticked : s.clearOut.reportTick env = .ok s' := stepped
      unfold reportTick at ticked
      dsimp only at ticked
      rw [role] at ticked
      have first := @expireSlots_shrunk env allSlots s.clearOut
      have later : Shrunk (expireSlots env allSlots s.clearOut) s' :=
        (expireForwarded_shrunk _ _).trans
          (.of_unmoved (forwardToHost_unmoved _ ticked))
      have still := later idx active
      simp only [ReportSlot.mk.injEq] at still
      have live := still.1 ▸ active
      have same := first idx live
      simp only [ReportSlot.mk.injEq] at same
      obtain ⟨-, -, -, -, -, -, -, -, -, -, -, -, -, -, timeout⟩ := same
      have waits := expireSlots_waiting allSlots s.clearOut idx
        (.inl (mem_allSlots idx)) live
      rw [timeout] at waits
      exact Bool.false_ne_true (waits.symm.trans expired)
  | restart =>
      simp only [UnsentKept, not_forall, not_not] at broken
      obtain ⟨idx, held⟩ := broken
      cases stepped
      exact ⟨idx, held, rfl⟩
  | _ => exact absurd trivial broken

end Steps

section Runs

variable {board : Board} {io : Io} {s s' : ReportPlane}

/-- What holds of a gateway in every state. -/
structure GatewaySound (s : ReportPlane) : Prop where
  senders : s.NoSenders
  tally : ∀ idx, (s.slots idx).active = true → SlotTally (s.slots idx)

theorem GatewaySound.step {event : Env × ReportEvent} (sound : GatewaySound s)
    (admitted : OnGateway board s event)
    (stepped : reportStep s event = .ok s') : GatewaySound s' := by
  obtain ⟨⟨same, allowed⟩, role⟩ := admitted
  subst same
  have gathers : Gathers (fun _ _ _ => true) (fun _ => false) s :=
    fun idx active => ⟨sound.tally idx active, fun fresh => by cases fresh⟩
  have after := step_gathers stepped (fun _ _ _ _ => rfl) gathers
  exact ⟨step_noSenders role allowed stepped sound.senders,
    fun idx active => (after idx active).tally⟩

theorem gatewaySound_boot (io : Io) : GatewaySound (.boot io) := by
  refine ⟨fun _ => rfl, fun idx active => ?_⟩
  cases active

/-- In every run of a gateway, a verified report stays in its slot while the
host was not given it, as long as the steps meet the condition; and a step that
does not meet it discards such a report. -/
theorem unsentReports_kept
    (reach : Trace.Reach reportStep (OnGateway board) (.boot io) s) :
    (∀ idx, s.Unsent idx → ∀ s',
      Trace.Reach reportStep
          (fun before event => OnGateway board before event ∧
            UnsentKept event.1 before event.2 ∧
              (before.slots idx).isSent = false) s s' →
        (s'.slots idx).content = (s.slots idx).content) ∧
      ∀ event s', OnGateway board s event → reportStep s event = .ok s' →
        ¬ UnsentKept event.1 s event.2 →
          ∃ idx, s.Unsent idx ∧ (s'.slots idx).active = false := by
  have sound : GatewaySound s := by
    apply reach.invariant
    · exact gatewaySound_boot io
    · intro before event after sound admitted stepped
      exact sound.step admitted stepped
  constructor
  · intro idx held s' run
    have kept : GatewaySound s' ∧
        (s'.slots idx).content = (s.slots idx).content := by
      apply run.invariant
      · exact ⟨sound, rfl⟩
      · rintro before event after ⟨soundBefore, same⟩
          ⟨admitted, kept, unsent⟩ stepped
        refine ⟨soundBefore.step admitted stepped, ?_⟩
        obtain ⟨⟨onBoard, allowed⟩, role⟩ := admitted
        subst onBoard
        have active : (before.slots idx).active = true :=
          (congrArg ReportSlot.active same :).trans held.1
        have ready : (before.slots idx).upstreamReady = true :=
          (congrArg ReportSlot.upstreamReady same :).trans held.2.1
        exact (step_unsentKept role allowed soundBefore.senders
          (soundBefore.tally idx active) ⟨active, ready, unsent⟩ kept
          stepped).trans same
    exact kept.2
  · rintro ⟨env, event⟩ s' ⟨⟨onBoard, allowed⟩, role⟩ stepped broken
    subst onBoard
    exact step_unsentLost role broken stepped

/-- The one-byte report of sensor 5 arrives. -/
def verifiedReport : List (Env × ReportEvent) :=
  [(sampleReceiver, announcement 1 1 1 0x4C667A2E),
    (sampleReceiver, .reportChunk (sampleChunk 1 [7]) 5)]

theorem unsentReports_kept_waiting :
    Trace.Ends reportStep (.boot { uart := [.dropped] }) verifiedReport
      fun s => Trace.Ends reportStep s
        [({ sampleReceiver with now := 10 }, .tick)] fun s' =>
          (s'.slots slotZero).content = (s.slots slotZero).content := by
  obtain ⟨s, executed, held, kept, s', stepped, -⟩ :
      Trace.Ends reportStep (.boot { uart := [.dropped] }) verifiedReport
        fun s =>
          s.Unsent slotZero ∧
            (∀ idx, s.Unsent idx →
              (s.slots idx).idleTimeout.expired 10 = false) ∧
              Trace.Ends reportStep s
                [({ sampleReceiver with now := 10 }, .tick)] fun _ => True := by
    decide +kernel
  have reach : Trace.Reach reportStep (OnGateway sampleReceiver.toBoard)
      (.boot { uart := [.dropped] }) s := by
    refine .of_run (fun event member before => ?_) executed
    simp only [verifiedReport, List.mem_cons, List.not_mem_nil, or_false]
      at member
    rcases member with rfl | rfl
    · exact ⟨⟨rfl, trivial⟩, rfl⟩
    · exact ⟨⟨rfl, trivial⟩, rfl⟩
  rw [Trace.run_single] at stepped
  refine ⟨s, executed, s', (Trace.run_single _ _).trans stepped, ?_⟩
  have onGateway : OnGateway sampleReceiver.toBoard s
      ({ sampleReceiver with now := 10 }, .tick) := ⟨⟨rfl, trivial⟩, rfl⟩
  exact (unsentReports_kept reach).1 slotZero held s'
    (.next .refl ⟨onGateway, kept, held.2.2⟩ stepped)

/-- The line of the report is lost in the UART, and thirty seconds after the
report was verified the tick frees it. -/
theorem unsentReports_lost :
    Trace.Ends reportStep (.boot { uart := [.dropped] })
      (verifiedReport ++ [({ sampleReceiver with now := 10 }, .tick)]) fun s =>
        s.Unsent slotZero ∧
          Trace.Ends reportStep s
            [({ sampleReceiver with now := 30000 }, .tick)] fun s' =>
              (s'.slots slotZero).active = false ∧ s'.io.out = [] := by
  decide +kernel

end Runs

end DectMesh
