import DectMesh.Report.Metadata
import DectMesh.Report.Retention

/-!
# Duplicates of a verified report

For thirty seconds after a report was verified, a gateway answers everything
that arrives of it with `ALREADY_EXISTS`, and writes it to the host once more
for each `ERROR` of the host.
-/

namespace DectMesh

open ByteStore

namespace ReportPlane

/-- What a host `ERROR` leaves behind: the slot may be written again. -/
def withdraw (s : ReportPlane) (deviceId reportId : UInt16) : ReportPlane :=
  if deviceId = 0xFFFF then
    s
  else
    match s.findSentSlot deviceId reportId with
    | none => s
    | some idx => s.setSlot idx { s.slots idx with isSent := false }

/-- The lines that the second loop of `gateway_report_tick` puts out, each with
its slot. -/
def hostLines (env : Env) : List (Fin dataSlotCount) → ReportPlane →
    List (Fin dataSlotCount × AtLine)
  | [], _ => []
  | idx :: rest, s =>
      let slot := s.slots idx
      if slot.active ∧ slot.upstreamReady ∧ !slot.isSent then
        match s.io.read (slotPsramAddr idx) slot.totalSize.toNat with
        | (io, .error _) => hostLines env rest { s with io := io }
        | (io, .ok payload) =>
            match env.meshDevice (env.meshIndex slot.genDeviceId) with
            | .error _ => []
            | .ok entry =>
                if slmUartAtCommandLen ≤
                    reportHeaderLength + slot.totalSize.toNat * 2 + 3 then
                  hostLines env rest { s with io := io }
                else
                  let line : AtLine :=
                    .report entry.serialNum slot.dataId slot.reportTimeMs
                      slot.totalSize slot.crc32 payload
                  match io.txWrite line with
                  | (after, false) =>
                      if io.uart.head? = some .late then
                        (idx, line) :: hostLines env rest { s with io := after }
                      else
                        hostLines env rest { s with io := after }
                  | (_, true) => [(idx, line)]
      else
        hostLines env rest s

/-- The lines of a gateway's tick. -/
def tickLines (s : ReportPlane) (env : Env) : List (Fin dataSlotCount × AtLine) :=
  hostLines env allSlots
    (expireForwarded env allSlots (expireSlots env allSlots s.clearOut))

/-- How many lines of a step are for a report. -/
def linesFor (s : ReportPlane) (genDeviceId : UInt16) (dataId : UInt8)
    (event : Env × ReportEvent) : Nat :=
  match event.2 with
  | .tick =>
      (s.tickLines event.1).countP fun entry =>
        (s.slots entry.1).genDeviceId = genDeviceId ∧
          (s.slots entry.1).dataId = dataId
  | _ => 0

end ReportPlane

open ReportPlane Ledger

/-- A step of a gateway.  After a host `ERROR` the access to `report_sender`
with the index 255 of the failed lookup has no effect. -/
def gatewayStep (s : ReportPlane) (event : Env × ReportEvent) :
    Except Fault ReportPlane :=
  match event.2 with
  | .release deviceId reportId false =>
      .ok (s.clearOut.withdraw deviceId reportId)
  | _ => reportStep s event

/-- A host `ERROR` to a report. -/
def ReportEvent.refuses (genDeviceId : UInt16) (dataId : UInt8) :
    ReportEvent → Bool
  | .release deviceId reportId false =>
      deviceId = genDeviceId ∧ reportId = dataId.toUInt16
  | _ => false

/-- A gateway with the lines written for a report and the host's `ERROR`s. -/
structure ReportWatch where
  plane : ReportPlane
  lines : Nat := 0
  errors : Nat := 0

def ReportWatch.step (genDeviceId : UInt16) (dataId : UInt8)
    (watch : ReportWatch) (event : Env × ReportEvent) :
    Except Fault ReportWatch :=
  match gatewayStep watch.plane event with
  | .error fault => .error fault
  | .ok plane =>
      .ok
        { plane := plane
          lines := watch.lines + watch.plane.linesFor genDeviceId dataId event
          errors := watch.errors +
            (event.2.refuses genDeviceId dataId).toNat }

namespace ReportPlane

/-- The steps during the window that starts at `verified`. -/
def InWindow (board : Board) (verified : Nat) (s : ReportPlane)
    (event : Env × ReportEvent) : Prop :=
  OnGateway board s event ∧ event.2 ≠ .restart ∧
    (event.2 = .tick → event.1.now < verified + dataDupTimeoutMs)

/-- Chunks are stored inside their slots, and no write to the UART reports an
error for a line that it took. -/
def Undisturbed (s : ReportPlane) (event : ReportEvent) : Prop :=
  StoresInside s event ∧ (event = .tick → .late ∉ s.io.uart)

variable {env : Env} {event : ReportEvent} {s s' : ReportPlane}

section HostLines

theorem withdraw_cases (s : ReportPlane) (deviceId reportId : UInt16) :
    s.withdraw deviceId reportId = s ∨
      ∃ idx, s.findSentSlot deviceId reportId = some idx ∧
        s.withdraw deviceId reportId =
          s.setSlot idx { s.slots idx with isSent := false } := by
  unfold withdraw
  split
  · exact .inl rfl
  · split
    · exact .inl rfl
    · next idx found => exact .inr ⟨idx, found, rfl⟩

/-- The loop puts these lines out. -/
theorem forwardToHost_out (slots : List (Fin dataSlotCount))
    (ok : forwardToHost env slots s = .ok s') :
    s'.io.out =
      s.io.out ++ (hostLines env slots s).map fun entry => .line entry.2 := by
  induction slots generalizing s with
  | nil =>
      cases ok
      simp [hostLines]
  | cons idx rest ih =>
      unfold forwardToHost at ok
      unfold hostLines
      dsimp only at ok ⊢
      split at ok
      · next waiting =>
        rw [if_pos waiting]
        rcases read : s.io.read (slotPsramAddr idx)
          (s.slots idx).totalSize.toNat with ⟨io, errno | payload⟩
        · rw [read] at ok
          dsimp only at ok ⊢
          rw [ih ok, Io.read_out_eq read]
        · rw [read] at ok
          dsimp only at ok ⊢
          rcases found : env.meshDevice
            (env.meshIndex (s.slots idx).genDeviceId) with fault | entry
          · rw [found] at ok
            cases ok
          · rw [found] at ok
            dsimp only at ok ⊢
            split at ok
            · next long =>
              rw [if_pos long, ih ok, Io.read_out_eq read]
            · next short =>
              rw [if_neg short]
              rcases wrote : io.txWrite (.report entry.serialNum
                (s.slots idx).dataId (s.slots idx).reportTimeMs
                (s.slots idx).totalSize (s.slots idx).crc32 payload) with
                ⟨after, failed | taken⟩
              · rw [wrote] at ok
                dsimp only at ok ⊢
                rw [ih ok]
                unfold Io.txWrite at wrote
                split at wrote
                · next coming uart =>
                  cases wrote
                  simp [uart, Io.read_out_eq read]
                · next coming uart =>
                  cases wrote
                  simp [uart, Io.read_out_eq read]
                · cases wrote
              · rw [wrote] at ok
                cases ok
                unfold Io.txWrite at wrote
                split at wrote
                · cases wrote
                · cases wrote
                · cases wrote
                  simp [Io.read_out_eq read]
      · next busy =>
        rw [if_neg busy]
        exact ih ok

/-- Unless a write reports an error for a line that it took, at most one line
is put out, and its slot is marked. -/
theorem forwardToHost_sent (slots : List (Fin dataSlotCount))
    (clean : .late ∉ s.io.uart) (ok : forwardToHost env slots s = .ok s') :
    (hostLines env slots s = [] ∧ s'.slots = s.slots) ∨
      ∃ idx line, hostLines env slots s = [(idx, line)] ∧ s.Unsent idx ∧
        s'.slots =
          Function.update s.slots idx { s.slots idx with isSent := true } := by
  induction slots generalizing s with
  | nil =>
      cases ok
      exact .inl ⟨rfl, rfl⟩
  | cons idx rest ih =>
      have later {io : Io} (clean : .late ∉ io.uart)
          (ok : forwardToHost env rest { s with io := io } = .ok s') :
          (hostLines env rest { s with io := io } = [] ∧ s'.slots = s.slots) ∨
            ∃ idx line, hostLines env rest { s with io := io } =
                [(idx, line)] ∧ s.Unsent idx ∧
              s'.slots = Function.update s.slots idx
                { s.slots idx with isSent := true } :=
        ih (s := { s with io := io }) clean ok
      unfold forwardToHost at ok
      unfold hostLines
      dsimp only at ok ⊢
      split at ok
      · next waiting =>
        rw [if_pos waiting]
        rcases read : s.io.read (slotPsramAddr idx)
          (s.slots idx).totalSize.toNat with ⟨io, errno | payload⟩
        · rw [read] at ok
          have uart : io.uart = s.io.uart :=
            congrArg (fun outcome => outcome.1.uart) read.symm
          exact later (uart ▸ clean) ok
        · rw [read] at ok
          have uart : io.uart = s.io.uart :=
            congrArg (fun outcome => outcome.1.uart) read.symm
          rw [← uart] at clean
          dsimp only at ok ⊢
          rcases found : env.meshDevice
            (env.meshIndex (s.slots idx).genDeviceId) with fault | entry
          · rw [found] at ok
            cases ok
          · rw [found] at ok
            dsimp only at ok ⊢
            split at ok
            · next long =>
              rw [if_pos long]
              exact later clean ok
            · next short =>
              rw [if_neg short]
              rcases wrote : io.txWrite (.report entry.serialNum
                (s.slots idx).dataId (s.slots idx).reportTimeMs
                (s.slots idx).totalSize (s.slots idx).crc32 payload) with
                ⟨after, failed | taken⟩
              · rw [wrote] at ok
                dsimp only at ok ⊢
                unfold Io.txWrite at wrote
                split at wrote
                · next coming late =>
                  rw [late] at clean
                  exact absurd List.mem_cons_self clean
                · next coming dropped =>
                  cases wrote
                  rw [dropped, if_neg (by simp)]
                  refine later (fun member => clean ?_) ok
                  rw [dropped]
                  exact List.mem_cons_of_mem _ member
                · cases wrote
              · rw [wrote] at ok
                cases ok
                obtain ⟨active, ready, unsent⟩ := waiting
                exact .inr ⟨idx, _, rfl, ⟨active, ready, by simpa using unsent⟩,
                  rfl⟩
      · next busy =>
        rw [if_neg busy]
        exact ih clean ok

end HostLines

section Sound

/-- The sizes that `handle_report_init` lets in. -/
def Sized (s : ReportPlane) (idx : Fin dataSlotCount) : Prop :=
  (s.slots idx).chunkCount.toNat ≤ dataMaxChunks ∧
    (s.slots idx).totalSize.toNat ≤ maxReportSize

/-- What holds of a gateway in every state, its keys and sizes included. -/
structure GatewayKept (s : ReportPlane) : Prop where
  sound : GatewaySound s
  record : ∃ record, Faithful ReportMeta.key record s.ledger
  sized : ∀ idx, (s.slots idx).active = true → s.Sized idx

theorem gatewayKept_boot (io : Io) : GatewayKept (.boot io) := by
  refine ⟨gatewaySound_boot io, ⟨fun _ => none, Faithful.empty _ _⟩, ?_⟩
  intro idx active
  cases active

/-- Two slots in use do not hold the same report. -/
theorem GatewayKept.distinct (kept : GatewayKept s)
    {left right : Fin dataSlotCount} (activeLeft : (s.slots left).active = true)
    (activeRight : (s.slots right).active = true)
    (gen : (s.slots left).genDeviceId = (s.slots right).genDeviceId)
    (id : (s.slots left).dataId = (s.slots right).dataId) : left = right := by
  obtain ⟨record, faithful⟩ := kept.record
  refine faithful.distinct left right _ _ (ledger_some.mpr ⟨activeLeft, rfl⟩)
    (ledger_some.mpr ⟨activeRight, rfl⟩) ?_
  simp [ReportMeta.key, ReportSlot.metadata, gen, id]

/-- The lookup finds the slot of a verified report. -/
theorem GatewayKept.findSlot (kept : GatewayKept s) {genDeviceId : UInt16}
    {dataId : UInt8} {idx : Fin dataSlotCount}
    (ready : s.Ready genDeviceId dataId idx) :
    s.findSlot genDeviceId dataId = some idx := by
  obtain ⟨active, -, gen, id⟩ := ready
  cases found : s.findSlot genDeviceId dataId with
  | none => exact absurd id (findSlot_none found idx active gen)
  | some other =>
      obtain ⟨activeOther, genOther, idOther⟩ := findSlot_some found
      rw [kept.distinct activeOther active (genOther.trans gen.symm)
        (idOther.trans id.symm)]

/-- Announcements of other sizes are refused. -/
theorem move_sized (move : ReportMove env event s s')
    (role : env.deviceType ≠ .sensor)
    (sized : ∀ idx, (s.slots idx).active = true → s.Sized idx)
    (idx : Fin dataSlotCount) (active : (s'.slots idx).active = true) :
    s'.Sized idx := by
  have unchanged (slots : s'.slots = s.slots) : s'.Sized idx := by
    unfold Sized
    rw [slots] at active ⊢
    exact sized idx active
  have replaced {there : Fin dataSlotCount} {slot : ReportSlot}
      (slots : s'.slots = Function.update s.slots there slot)
      (bounded : slot.active = true →
        slot.chunkCount.toNat ≤ dataMaxChunks ∧
          slot.totalSize.toNat ≤ maxReportSize) : s'.Sized idx := by
    unfold Sized
    rw [slots] at active ⊢
    by_cases same : idx = there
    · rw [same, Function.update_self] at active ⊢
      exact bounded active
    · rw [Function.update_of_ne same] at active ⊢
      exact sized idx active
  have storable {there : Fin dataSlotCount} {chunk : Fin dataMaxChunks}
      {pkt : ReportChunk} (storable : StorableChunk s there chunk pkt) :
      s.Sized there :=
    sized there (findSlot_some storable.found).1
  cases move with
  | quiet same => exact unchanged same.slots
  | sentChunk => exact unchanged rfl
  | freed =>
      refine replaced (reportSlotFree_slots _ _ _) fun idle => ?_
      cases idle
  | stopped => exact unchanged rfl
  | advanced => exact unchanged rfl
  | retried sending held => exact replaced rfl fun _ => sized _ held
  | started other ticked idle held => exact replaced rfl fun _ => sized _ held
  | accepted init =>
      exact replaced rfl fun _ => ⟨init.chunkCount.2, init.totalSize.2⟩
  | storeFailed => exact unchanged rfl
  | stored other received chunk =>
      exact replaced rfl fun _ => storable chunk
  | completed other received chunk =>
      exact replaced rfl fun _ => storable chunk
  | rejected =>
      refine replaced ((reportSlotFree_slots _ _ _).trans
        (Function.update_idem _ _ _)) fun idle => ?_
      cases idle
  | forwarded => exact replaced rfl fun held => sized _ held
  | transfered => exact replaced rfl fun held => sized _ held
  | hostStored command => exact absurd command.role role
  | hostLost command => exact absurd command.role role
  | restarted => cases active
  | elsewhere other slots => exact unchanged slots

theorem step_sized (role : env.deviceType ≠ .sensor)
    (allowed : s.Elsewhere event) (stepped : s.step env event = .ok s')
    (sized : ∀ idx, (s.slots idx).active = true → s.Sized idx) :
    ∀ idx, (s'.slots idx).active = true → s'.Sized idx := by
  have moves := step_moves allowed stepped
  clear stepped
  induction moves with
  | refl => exact sized
  | tail _ move ih => exact move_sized move role ih

/-- A host `ERROR` or an ordinary step. -/
theorem gatewayStep_cases {event : Env × ReportEvent}
    (stepped : gatewayStep s event = .ok s') :
    (∃ deviceId reportId, event.2 = .release deviceId reportId false ∧
      s' = s.clearOut.withdraw deviceId reportId) ∨
      (∀ deviceId reportId, event.2 ≠ .release deviceId reportId false) ∧
        s.step event.1 event.2 = .ok s' := by
  unfold gatewayStep at stepped
  split at stepped
  · next deviceId reportId same =>
    cases stepped
    exact .inl ⟨deviceId, reportId, same, rfl⟩
  · next other => exact .inr ⟨fun deviceId reportId same =>
      other deviceId reportId same, stepped⟩

/-- Where the step of a gateway does not fault, it is this one. -/
theorem gatewayStep_of_ok {event : Env × ReportEvent} (none : s.NoSenders)
    (stepped : reportStep s event = .ok s') : gatewayStep s event = .ok s' := by
  obtain ⟨env, event⟩ := event
  unfold gatewayStep
  split
  · next deviceId reportId same =>
    dsimp only at same
    subst same
    have released : s.clearOut.reportSlotReleaseById env deviceId reportId
        false = .ok s' := stepped
    unfold reportSlotReleaseById at released
    unfold withdraw
    split at released
    · next broadcast =>
      rw [if_pos broadcast]
      exact released
    · next other =>
      rw [if_neg other]
      cases found : s.clearOut.findSentSlot deviceId reportId with
      | none =>
        rw [found] at released
        exact released
      | some idx =>
        simp only [found, Bool.false_eq_true, if_false] at released
        split at released
        · cases released
        · next senderIdx inside =>
          have active :=
            (findSenderSlot_some (senderIndex_indexByte_ok inside)).1
          have idle : (s.senders senderIdx).active = false := none senderIdx
          exact absurd (idle.symm.trans active) (by decide)
  · exact stepped

/-- Otherwise the fault is the access to `report_sender` with index 255. -/
theorem gatewayStep_of_fault {event : Env × ReportEvent} {fault : Fault}
    (none : s.NoSenders) (faulted : reportStep s event = .error fault)
    (stepped : gatewayStep s event = .ok s') :
    fault = ⟨.reportSender, 255⟩ := by
  obtain ⟨env, event⟩ := event
  unfold gatewayStep at stepped
  split at stepped
  · next deviceId reportId same =>
    dsimp only at same
    subst same
    have released : s.clearOut.reportSlotReleaseById env deviceId reportId
        false = .error fault := faulted
    unfold reportSlotReleaseById at released
    split at released
    · cases released
    · split at released
      · cases released
      · next idx found =>
        simp only [Bool.false_eq_true, if_false] at released
        split at released
        · next failed outside =>
          cases released
          cases search : (s.clearOut.setSlot idx
              { s.clearOut.slots idx with isSent := false }).findSenderSlot
              (s.clearOut.slots idx).genDeviceId
              (s.clearOut.slots idx).dataId with
          | none =>
              rw [search] at outside
              cases outside
              rfl
          | some senderIdx =>
              have active := (findSenderSlot_some search).1
              have idle : (s.senders senderIdx).active = false := none senderIdx
              exact absurd (idle.symm.trans active) (by decide)
        · cases released
  · rw [faulted] at stepped
    cases stepped

theorem withdraw_other (s : ReportPlane) (deviceId reportId : UInt16)
    (idx : Fin dataSlotCount) :
    ∃ isSent, (s.withdraw deviceId reportId).slots idx =
      { s.slots idx with isSent := isSent } := by
  rcases withdraw_cases s deviceId reportId with same | ⟨there, -, moved⟩
  · rw [same]
    exact ⟨(s.slots idx).isSent, rfl⟩
  · rw [moved, setSlot_slots]
    by_cases here : idx = there
    · rw [here, Function.update_self]
      exact ⟨false, rfl⟩
    · rw [Function.update_of_ne here]
      exact ⟨(s.slots idx).isSent, rfl⟩

theorem withdraw_io (s : ReportPlane) (deviceId reportId : UInt16) :
    (s.withdraw deviceId reportId).io = s.io := by
  rcases withdraw_cases s deviceId reportId with same | ⟨there, -, moved⟩
  · rw [same]
  · rw [moved, setSlot_io]

theorem withdraw_senders (s : ReportPlane) (deviceId reportId : UInt16) :
    (s.withdraw deviceId reportId).senders = s.senders := by
  rcases withdraw_cases s deviceId reportId with same | ⟨there, -, moved⟩
  · rw [same]
  · rw [moved, setSlot_senders]

theorem GatewayKept.withdraw (kept : GatewayKept s)
    (deviceId reportId : UInt16) :
    GatewayKept (s.clearOut.withdraw deviceId reportId) := by
  have flagged := s.clearOut.withdraw_other deviceId reportId
  refine ⟨⟨?_, fun idx active => ?_⟩, ?_, fun idx active => ?_⟩
  · unfold NoSenders
    rw [withdraw_senders]
    exact kept.sound.senders
  · obtain ⟨isSent, slot⟩ := flagged idx
    rw [slot] at active ⊢
    have tally := kept.sound.tally idx active
    exact ⟨tally.flags, tally.counted, tally.complete⟩
  · obtain ⟨record, faithful⟩ := kept.record
    refine ⟨record, faithful.shrink fun idx entry held => ?_⟩
    obtain ⟨active, rfl⟩ := ledger_some.mp held
    obtain ⟨isSent, slot⟩ := flagged idx
    rw [slot] at active ⊢
    exact ledger_some.mpr ⟨active, rfl⟩
  · obtain ⟨isSent, slot⟩ := flagged idx
    unfold Sized
    rw [slot] at active ⊢
    exact kept.sized idx active

theorem GatewayKept.step {board : Board} {event : Env × ReportEvent}
    (kept : GatewayKept s) (admitted : OnGateway board s event)
    (stepped : gatewayStep s event = .ok s') : GatewayKept s' := by
  rcases gatewayStep_cases stepped with
    ⟨deviceId, reportId, -, rfl⟩ | ⟨-, moved⟩
  · exact kept.withdraw deviceId reportId
  · have ordinary : reportStep s event = .ok s' := moved
    obtain ⟨⟨onBoard, allowed⟩, role⟩ := admitted
    have gateway : event.1.deviceType = .gateway := onBoard ▸ role
    have notSensor : event.1.deviceType ≠ .sensor := by
      rw [gateway]
      decide
    refine ⟨kept.sound.step ⟨⟨onBoard, allowed⟩, role⟩ ordinary, ?_,
      step_sized notSensor allowed moved kept.sized⟩
    obtain ⟨record, faithful⟩ := kept.record
    have relayed : ReportRelay.step { plane := s, accepted := record } event =
        .ok { plane := s'
              accepted := ReportRelay.note { plane := s, accepted := record }
                event.2 s'.io.out } := by
      unfold ReportRelay.step
      dsimp only
      rw [moved]
    have receiver : board.deviceType ≠ .sensor := by
      rw [role]
      decide
    exact ⟨_, ReportRelay.step_faithful faithful
      ⟨⟨onBoard, allowed⟩, receiver⟩ relayed⟩

theorem reach_gatewayKept {board : Board} {io : Io}
    (reach : Trace.Reach gatewayStep (OnGateway board) (.boot io) s) :
    GatewayKept s := by
  apply reach.invariant
  · exact gatewayKept_boot io
  · intro before event after kept admitted stepped
    exact kept.step admitted stepped

end Sound

section Verifying

variable {genDeviceId : UInt16} {dataId : UInt8} {idx : Fin dataSlotCount}
variable {pkt : ReportChunk} {srcId : UInt16}

/-- The chunk that completes a report starts the time during which duplicates
are recognised. -/
theorem move_verifies (move : ReportMove env (.reportChunk pkt srcId) s s')
    (role : env.deviceType = .gateway)
    (before : ¬ s.Ready genDeviceId dataId idx)
    (after : s'.Ready genDeviceId dataId idx) :
    (s'.slots idx).idleTimeout.deadlineMs = env.now + dataDupTimeoutMs := by
  obtain ⟨active, ready, gen, id⟩ := after
  have unchanged (slots : s'.slots = s.slots) : False := by
    rw [slots] at active ready gen id
    exact before ⟨active, ready, gen, id⟩
  have flagged {there : Fin dataSlotCount} {slot : ReportSlot}
      (slots : s'.slots = Function.update s.slots there slot)
      (same : slot.content = (s.slots there).content) : False := by
    have content : (s'.slots idx).content = (s.slots idx).content := by
      by_cases here : idx = there
      · rw [slots, here, Function.update_self, same]
      · rw [slots, Function.update_of_ne here]
    exact before
      ⟨(congrArg ReportSlot.active content :).symm.trans active,
        (congrArg ReportSlot.upstreamReady content :).symm.trans ready,
        (congrArg ReportSlot.genDeviceId content :).symm.trans gen,
        (congrArg ReportSlot.dataId content :).symm.trans id⟩
  have notReady {there : Fin dataSlotCount} {slot : ReportSlot}
      (slots : s'.slots = Function.update s.slots there slot)
      (open_ : slot.active = true → slot.upstreamReady = true →
        (s.slots there).upstreamReady = true ∧
          (s.slots there).active = true ∧
          slot.genDeviceId = (s.slots there).genDeviceId ∧
            slot.dataId = (s.slots there).dataId) : False := by
    rw [slots] at active ready gen id
    by_cases here : idx = there
    · rw [here, Function.update_self] at active ready gen id
      obtain ⟨held, used, sameGen, sameId⟩ := open_ active ready
      rw [here] at before
      exact before ⟨used, held, sameGen ▸ gen, sameId ▸ id⟩
    · rw [Function.update_of_ne here] at active ready gen id
      exact before ⟨active, ready, gen, id⟩
  cases move with
  | quiet same => exact (unchanged same.slots).elim
  | sentChunk => exact (unchanged rfl).elim
  | freed =>
      refine (notReady (reportSlotFree_slots _ _ _) fun idle => ?_).elim
      cases idle
  | stopped => exact (unchanged rfl).elim
  | advanced => exact (unchanged rfl).elim
  | retried => exact (flagged rfl rfl).elim
  | started => exact (flagged rfl rfl).elim
  | accepted init =>
      obtain ⟨srcId, received⟩ := init.received
      cases received
  | storeFailed => exact (unchanged rfl).elim
  | @stored there chunk _ _ _ _ received storable =>
      refine (notReady rfl fun held open_ => ?_).elim
      exact ⟨open_, held, rfl, rfl⟩
  | @completed there chunk pkt' io srcId' other received storable =>
      by_cases here : idx = there
      · rw [here, setSlot_slots, Function.update_self]
        simp [readySlot, role, NbTimeout.start, NbTimeout.init]
      · refine absurd ?_ before
        rw [setSlot_slots, Function.update_of_ne here] at active ready gen id
        exact ⟨active, ready, gen, id⟩
  | rejected =>
      refine (notReady ((reportSlotFree_slots _ _ _).trans
        (Function.update_idem _ _ _)) fun idle => ?_).elim
      cases idle
  | forwarded => exact (flagged rfl rfl).elim
  | transfered => exact (flagged rfl rfl).elim
  | hostStored command =>
      obtain ⟨args, received, -⟩ := command.parsed
      cases received
  | hostLost command =>
      obtain ⟨args, received, -⟩ := command.parsed
      cases received
  | restarted => cases active
  | elsewhere other => cases other

theorem step_verifies (role : env.deviceType = .gateway)
    (stepped : s.step env (.reportChunk pkt srcId) = .ok s')
    (before : ¬ s.Ready genDeviceId dataId idx)
    (after : s'.Ready genDeviceId dataId idx) :
    (s'.slots idx).idleTimeout.deadlineMs = env.now + dataDupTimeoutMs := by
  obtain ⟨middle, first, same⟩ := handleReportChunk_outcome rfl stepped
  have there : middle.Ready genDeviceId dataId idx := by
    unfold Ready at after ⊢
    rw [same.slots] at after
    exact after
  rw [same.slots]
  rcases first with rfl | move
  · exact absurd there before
  · exact move_verifies move.move role before there

end Verifying

section Window

variable {genDeviceId : UInt16} {dataId : UInt8} {idx : Fin dataSlotCount}

/-- An announcement leaves the slots of verified reports alone. -/
theorem handleReportInit_ready (pkt : ReportInit) (srcId : UInt16)
    (active : (s.slots idx).active = true)
    (ready : (s.slots idx).upstreamReady = true) :
    (s.handleReportInit env pkt srcId).slots idx = s.slots idx := by
  generalize handled : s.handleReportInit env pkt srcId = t
  cases handleReportInit_taken handled with
  | ignored => rfl
  | malformed => rfl
  | answered role below sizes validated =>
      rw [put_slots]
      cases validated with
      | again found waits =>
          refine Function.update_of_ne (fun same => ?_) _ _
          rw [← same, ready] at waits
          cases waits
      | @fresh there missing free =>
          have different : idx ≠ there := by
            rintro rfl
            rw [freeSlot_some free] at active
            cases active
          simp [Function.update_of_ne different]
      | ready => rfl
      | full => rfl

/-- And so does a chunk. -/
theorem handleReportChunk_ready {pkt : ReportChunk} {srcId : UInt16}
    (tally : SlotTally (s.slots idx))
    (ready : (s.slots idx).upstreamReady = true)
    (handled : s.handleReportChunk env pkt srcId = .ok s') :
    s'.slots idx = s.slots idx := by
  rcases handleReportChunk_answered handled with
    rfl | ⟨after, status, -, validated, rfl⟩
  · rfl
  · rw [put_slots]
    unfold validateReportChunk at validated
    split at validated
    · cases validated
      rfl
    · next there found =>
      dsimp only at validated
      split at validated
      · cases validated
        rfl
      · next inRange =>
        split at validated
        · cases validated
        · next chunk index =>
          split at validated
          · cases validated
            rfl
          · next missing =>
            have different : idx ≠ there := by
              rintro rfl
              have storable : StorableChunk s idx chunk pkt :=
                { found := found
                  index := receivedIndex_val index
                  inRange := UInt8.not_le.mp inRange
                  missing := by simpa using missing }
              rw [storable.notReady tally] at ready
              cases ready
            split at validated
            · cases validated
              rfl
            · split at validated
              · unfold verifyReport at validated
                dsimp only at validated
                split at validated
                · cases validated
                  simp [reportSlotFree_slots, Function.update_of_ne different]
                · split at validated
                  · cases validated
                    simp [Function.update_of_ne different]
                  · cases validated
                    simp [reportSlotFree_slots,
                      Function.update_of_ne different]
              · cases validated
                simp [Function.update_of_ne different]

theorem handleReportReceived_gateway (role : env.deviceType = .gateway)
    (pkt : ReportReceived) (srcId : UInt16) (s : ReportPlane) :
    s.handleReportReceived env pkt srcId = s := by
  unfold handleReportReceived
  dsimp only
  rw [role]
  split
  · rfl
  · rfl

theorem foldl_put_slots (actions : List Action) (s : ReportPlane) :
    (actions.foldl put s).slots = s.slots := by
  induction actions generalizing s with
  | nil => rfl
  | cons action rest ih => exact ih (s.put action)

theorem release_slots {deviceId reportId : UInt16}
    (released : s.reportSlotReleaseById env deviceId reportId true = .ok s') :
    s'.slots = s.slots := by
  unfold reportSlotReleaseById at released
  split at released
  · cases released
    rfl
  · split at released
    · cases released
      rfl
    · dsimp only at released
      rw [if_pos rfl] at released
      split at released
      · cases released
        rfl
      · split at released
        · cases released
          rfl
        · cases released
          exact foldl_put_slots _ s

/-- Only ticks and host `ERROR`s change whether a verified report was sent. -/
theorem step_sentKept (role : env.deviceType = .gateway)
    (none : s.NoSenders) (tally : SlotTally (s.slots idx))
    (active : (s.slots idx).active = true)
    (ready : (s.slots idx).upstreamReady = true)
    (noTick : event ≠ .tick) (noRestart : event ≠ .restart)
    (noError : ∀ deviceId reportId, event ≠ .release deviceId reportId false)
    (stepped : s.step env event = .ok s') :
    (s'.slots idx).isSent = (s.slots idx).isSent := by
  cases event with
  | reportInit pkt srcId =>
      cases stepped
      have same : (s.clearOut.handleReportInit env pkt srcId).slots idx =
          s.clearOut.slots idx := handleReportInit_ready pkt srcId active ready
      rw [same]
      rfl
  | reportInitAck pkt srcId =>
      rw [handleReportInitAck_gateway role stepped]
      rfl
  | reportChunk pkt srcId =>
      have handled : s.clearOut.handleReportChunk env pkt srcId = .ok s' :=
        stepped
      have same := @handleReportChunk_ready env s.clearOut s' idx pkt srcId
        tally ready handled
      rw [same]
      rfl
  | reportChunkAck pkt srcId =>
      have cleared : s.clearOut.NoSenders := none
      rw [handleReportChunkAck_idle cleared stepped]
      rfl
  | reportReceived pkt srcId =>
      cases stepped
      rw [handleReportReceived_gateway role]
      rfl
  | reportReceivedAck pkt =>
      cases stepped
      unfold handleReportReceivedAck
      split
      · rfl
      · rfl
  | routeInfo pkt =>
      simp only [step, buildReportReceivedPkt] at stepped
      split at stepped
      · next inside =>
        split at stepped
        · cases stepped
          rfl
        · cases stepped
          by_cases here : idx = ⟨pkt.dataId.toNat, inside⟩
          · rw [setSlot_slots, here, Function.update_self]
            rfl
          · rw [setSlot_slots, Function.update_of_ne here]
            rfl
      · cases stepped
  | tick => exact absurd rfl noTick
  | cmdReport args =>
      cases stepped
      have other : env.deviceType ≠ .sensor := by
        rw [role]
        decide
      unfold cmdReport
      rw [if_pos other]
      rfl
  | release deviceId reportId isSuccess =>
      cases isSuccess with
      | false => exact absurd rfl (noError deviceId reportId)
      | true =>
          have released : s.clearOut.reportSlotReleaseById env deviceId
              reportId true = .ok s' := stepped
          rw [release_slots released]
          rfl
  | restart => exact absurd rfl noRestart
  | elsewhere psram uart =>
      cases stepped
      rfl

/-- No step changes the bytes of a verified report, if chunks are stored inside
their slots. -/
theorem step_bytesKept (role : env.deviceType = .gateway)
    (allowed : s.Elsewhere event) (inside : StoresInside s event)
    (tally : SlotTally (s.slots idx))
    (ready : (s.slots idx).upstreamReady = true)
    (stepped : s.step env event = .ok s') :
    AgreeOn s'.io.psram.mem s.io.psram.mem (slotPsramAddr idx)
      (slotPsramAddr idx + maxReportSize) := by
  by_cases writes : MayWrite event
  · cases event with
    | reportChunk pkt srcId =>
        obtain ⟨middle, first, same⟩ := handleReportChunk_outcome rfl stepped
        rw [same.mem]
        rcases first with rfl | move
        · exact AgreeOn.refl _ _ _
        · obtain ⟨_, _, there, chunk, count, received, storable, mem⟩ :=
            move.write
          cases received
          have cleared : StoresInside s.clearOut (.reportChunk pkt srcId) :=
            inside.congr rfl
          obtain ⟨lower, upper⟩ := chunkWrite_inside cleared rfl storable
          have different : idx ≠ there := by
            rintro rfl
            have open_ := storable.notReady tally
            rw [show s.clearOut.slots = s.slots from rfl, ready] at open_
            cases open_
          rw [mem]
          refine agreeOn_other _ different lower ?_
          rw [List.length_take]
          omega
    | cmdReport args =>
        cases stepped
        have other : env.deviceType ≠ .sensor := by
          rw [role]
          decide
        unfold cmdReport
        rw [if_pos other]
        have same : (s.clearOut.sendLine .error).io.psram.mem =
            s.io.psram.mem := by
          simp [sendLine, clearOut]
        rw [same]
        exact AgreeOn.refl _ _ _
    | elsewhere psram uart =>
        cases stepped
        obtain ⟨lower, upper⟩ := slotRegion_inside idx
        exact AgreeOn.mono allowed lower upper
    | _ => cases writes
  · have unchanged := ReportMoves.mem_eq (step_moves allowed stepped) writes
    rw [unchanged]
    exact AgreeOn.refl _ _ _

theorem expireSlots_kept (slots : List (Fin dataSlotCount)) (s : ReportPlane)
    (active : ((expireSlots env slots s).slots idx).active = true) :
    (expireSlots env slots s).slots idx = s.slots idx := by
  induction slots generalizing s with
  | nil => rfl
  | cons first rest ih =>
      unfold expireSlots at active ⊢
      split
      · next idle =>
        rw [if_pos idle] at active
        have same := ih _ active
        rw [same, reportSlotFree_slots] at active
        rw [same, reportSlotFree_slots]
        by_cases here : idx = first
        · rw [here, Function.update_self] at active
          cases active
        · rw [Function.update_of_ne here]
      · next busy =>
        rw [if_neg busy] at active
        exact ih s active

theorem expireForwarded_kept (slots : List (Fin dataSlotCount))
    (s : ReportPlane)
    (active : ((expireForwarded env slots s).slots idx).active = true) :
    (expireForwarded env slots s).slots idx = s.slots idx := by
  induction slots generalizing s with
  | nil => rfl
  | cons first rest ih =>
      unfold expireForwarded at active ⊢
      split
      · next idle =>
        rw [if_pos idle] at active
        have same := ih _ active
        rw [same, reportSlotFree_slots] at active
        rw [same, reportSlotFree_slots]
        by_cases here : idx = first
        · rw [here, Function.update_self] at active
          cases active
        · rw [Function.update_of_ne here]
      · next busy =>
        rw [if_neg busy] at active
        exact ih s active

/-- The lines that the slot may still be written in. -/
def pendingLines (slot : ReportSlot) : Nat := if slot.isSent then 0 else 1

/-- What the second loop of a gateway's tick starts from. -/
def unexpired (s : ReportPlane) (env : Env) : ReportPlane :=
  expireForwarded env allSlots (expireSlots env allSlots s.clearOut)

theorem unexpired_kept
    (active : ((s.unexpired env).slots idx).active = true) :
    (s.unexpired env).slots idx = s.slots idx := by
  have same := expireForwarded_kept allSlots _ active
  unfold unexpired at active ⊢
  rw [same] at active ⊢
  exact expireSlots_kept allSlots s.clearOut active

theorem unexpired_uart : (s.unexpired env).io.uart = s.io.uart := by
  unfold unexpired
  rw [expireForwarded_io, expireSlots_io]
  rfl

theorem gatewayTick_loop (role : env.deviceType = .gateway)
    (ticked : s.step env .tick = .ok s') :
    forwardToHost env allSlots (s.unexpired env) = .ok s' := by
  have stepped : s.clearOut.reportTick env = .ok s' := ticked
  unfold reportTick at stepped
  dsimp only at stepped
  rw [role] at stepped
  exact stepped

/-- A tick writes a report at most once, and not if it was sent. -/
theorem tick_counted (kept : GatewayKept s) (role : env.deviceType = .gateway)
    (held : s.Ready genDeviceId dataId idx) (clean : .late ∉ s.io.uart)
    (ticked : s.step env .tick = .ok s')
    (still : (s'.slots idx).active = true) :
    s.linesFor genDeviceId dataId (env, .tick) + pendingLines (s'.slots idx) ≤
      pendingLines (s.slots idx) := by
  obtain ⟨active, -, gen, id⟩ := held
  have loop := gatewayTick_loop role ticked
  have sent : (s.unexpired env).io.uart = s.io.uart := unexpired_uart
  rw [← sent] at clean
  have lines : s.linesFor genDeviceId dataId (env, .tick) =
      (hostLines env allSlots (s.unexpired env)).countP fun entry =>
        (s.slots entry.1).genDeviceId = genDeviceId ∧
          (s.slots entry.1).dataId = dataId := rfl
  rw [lines]
  rcases forwardToHost_sent allSlots clean loop with
    ⟨none, slots⟩ | ⟨there, line, one, unsent, slots⟩
  · rw [none]
    rw [slots] at still ⊢
    rw [unexpired_kept still]
    simp
  · have before := unexpired_kept unsent.1
    rw [one]
    by_cases here : idx = there
    · subst here
      have waits : (s.slots idx).isSent = false := before ▸ unsent.2.2
      rw [slots, Function.update_self]
      simp [pendingLines, waits, gen, id]
    · rw [slots, Function.update_of_ne here] at still ⊢
      rw [unexpired_kept still]
      have activeThere : (s.slots there).active = true := before ▸ unsent.1
      have other : ¬ ((s.slots there).genDeviceId = genDeviceId ∧
          (s.slots there).dataId = dataId) := by
        rintro ⟨genThere, idThere⟩
        exact here (kept.distinct active activeThere (gen.trans genThere.symm)
          (id.trans idThere.symm))
      simp [other]

/-- What holds during the window of a report that was verified at a time. -/
structure Held (verified : Nat) (genDeviceId : UInt16) (dataId : UInt8)
    (idx : Fin dataSlotCount) (bytes : List UInt8) (watch : ReportWatch) :
    Prop where
  kept : GatewayKept watch.plane
  ready : watch.plane.Ready genDeviceId dataId idx
  timer : (watch.plane.slots idx).idleTimeout.deadlineMs =
    verified + dataDupTimeoutMs
  bytes : slotBytes watch.plane.io.psram.mem idx (watch.plane.slots idx) = bytes
  lines : watch.lines + pendingLines (watch.plane.slots idx) ≤ 1 + watch.errors

variable {board : Board} {verified : Nat} {bytes : List UInt8}
variable {watch after : ReportWatch} {event : Env × ReportEvent}

/-- The timer does not expire during the window. -/
theorem Held.contentKept {plane : ReportPlane}
    (held : Held verified genDeviceId dataId idx bytes watch)
    (inWindow : InWindow board verified watch.plane event)
    (moved : gatewayStep watch.plane event = .ok plane) :
    (plane.slots idx).content = (watch.plane.slots idx).content := by
  obtain ⟨⟨⟨onBoard, allowed⟩, role⟩, noRestart, early⟩ := inWindow
  obtain ⟨active, ready, -, -⟩ := held.ready
  have gateway : event.1.deviceType = .gateway := onBoard ▸ role
  rcases gatewayStep_cases moved with
    ⟨deviceId, reportId, -, rfl⟩ | ⟨-, ordinary⟩
  · obtain ⟨isSent, slot⟩ :=
      watch.plane.clearOut.withdraw_other deviceId reportId idx
    rw [slot]
    rfl
  · refine step_readyKept gateway allowed held.kept.sound.senders
      (held.kept.sound.tally idx active) active ready ?_ noRestart ordinary
    intro ticked
    have below := early ticked
    simp only [NbTimeout.expired, held.timer, decide_eq_false_iff_not,
      not_and, not_le]
    exact fun _ => below

/-- The bytes stay where they are. -/
theorem Held.regionKept {plane : ReportPlane}
    (held : Held verified genDeviceId dataId idx bytes watch)
    (inWindow : InWindow board verified watch.plane event)
    (inside : StoresInside watch.plane event.2)
    (moved : gatewayStep watch.plane event = .ok plane) :
    AgreeOn plane.io.psram.mem watch.plane.io.psram.mem (slotPsramAddr idx)
      (slotPsramAddr idx + maxReportSize) := by
  obtain ⟨⟨⟨onBoard, allowed⟩, role⟩, -, -⟩ := inWindow
  obtain ⟨active, ready, -, -⟩ := held.ready
  have gateway : event.1.deviceType = .gateway := onBoard ▸ role
  rcases gatewayStep_cases moved with
    ⟨deviceId, reportId, -, rfl⟩ | ⟨-, ordinary⟩
  · rw [withdraw_io]
    exact AgreeOn.refl _ _ _
  · exact step_bytesKept gateway allowed inside
      (held.kept.sound.tally idx active) ready ordinary

/-- Every line uses up the mark that a host `ERROR` takes back. -/
theorem Held.counted {plane : ReportPlane}
    (held : Held verified genDeviceId dataId idx bytes watch)
    (inWindow : InWindow board verified watch.plane event)
    (undisturbed : Undisturbed watch.plane event.2)
    (moved : gatewayStep watch.plane event = .ok plane)
    (still : (plane.slots idx).active = true) :
    watch.plane.linesFor genDeviceId dataId event +
        pendingLines (plane.slots idx) ≤
      pendingLines (watch.plane.slots idx) +
        (event.2.refuses genDeviceId dataId).toNat := by
  obtain ⟨env, event⟩ := event
  obtain ⟨⟨⟨onBoard, allowed⟩, role⟩, noRestart, -⟩ := inWindow
  obtain ⟨active, ready, gen, id⟩ := held.ready
  have gateway : env.deviceType = .gateway := onBoard ▸ role
  rcases gatewayStep_cases moved with
    ⟨deviceId, reportId, release, rfl⟩ | ⟨noError, ordinary⟩
  · dsimp only at release
    subst release
    have none : watch.plane.linesFor genDeviceId dataId
        (env, .release deviceId reportId false) = 0 := rfl
    rw [none]
    have unchanged : watch.plane.clearOut.slots idx = watch.plane.slots idx :=
      rfl
    rcases withdraw_cases watch.plane.clearOut deviceId reportId with
      same | ⟨there, found, changed⟩
    · rw [same, unchanged]
      omega
    · by_cases here : idx = there
      · subst here
        obtain ⟨genThere, -, -, idThere⟩ := findSentSlot_some found
        rw [unchanged] at genThere idThere
        have refused : ReportEvent.refuses genDeviceId dataId
            (.release deviceId reportId false) = true := by
          simp [ReportEvent.refuses, ← genThere, ← idThere, gen, id]
        rw [refused, Bool.toNat_true]
        have few : pendingLines
            ((watch.plane.clearOut.withdraw deviceId reportId).slots idx) ≤
              1 := by
          unfold pendingLines
          split
          · exact Nat.zero_le 1
          · exact Nat.le_refl 1
        omega
      · rw [changed, setSlot_slots, Function.update_of_ne here, unchanged]
        omega
  · by_cases ticked : event = .tick
    · subst ticked
      have counted := tick_counted held.kept gateway held.ready
        (undisturbed.2 rfl) ordinary still
      omega
    · have none : watch.plane.linesFor genDeviceId dataId (env, event) = 0 := by
        unfold linesFor
        split
        · next same => exact absurd same ticked
        · rfl
      have sent := step_sentKept gateway held.kept.sound.senders
        (held.kept.sound.tally idx active) active ready ticked noRestart
        noError ordinary
      rw [none]
      unfold pendingLines
      rw [sent]
      omega

theorem Held.step (held : Held verified genDeviceId dataId idx bytes watch)
    (inWindow : InWindow board verified watch.plane event)
    (undisturbed : Undisturbed watch.plane event.2)
    (stepped : watch.step genDeviceId dataId event = .ok after) :
    Held verified genDeviceId dataId idx bytes after := by
  obtain ⟨active, ready, gen, id⟩ := held.ready
  unfold ReportWatch.step at stepped
  split at stepped
  · cases stepped
  · next plane moved =>
    cases stepped
    have content := held.contentKept inWindow moved
    have kept := held.kept.step inWindow.1 moved
    have stillActive : (plane.slots idx).active = true :=
      (congrArg ReportSlot.active content :).trans active
    have size : (plane.slots idx).totalSize =
        (watch.plane.slots idx).totalSize :=
      (congrArg ReportSlot.totalSize content :)
    refine ⟨kept, ⟨stillActive, ?_, ?_, ?_⟩, ?_, ?_, ?_⟩
    · exact (congrArg ReportSlot.upstreamReady content :).trans ready
    · exact (congrArg ReportSlot.genDeviceId content :).trans gen
    · exact (congrArg ReportSlot.dataId content :).trans id
    · exact (congrArg (fun slot => slot.idleTimeout.deadlineMs) content
        :).trans held.timer
    · have region := held.regionKept inWindow undisturbed.1 moved
      dsimp only
      rw [← held.bytes, slotBytes, slotBytes, size]
      exact slice_congr region (Nat.le_refl _)
        (Nat.add_le_add_left (held.kept.sized idx active).2 _)
    · have lines := held.lines
      have counted := held.counted inWindow undisturbed moved stillActive
      dsimp only
      omega

theorem Held.countKept (held : Held verified genDeviceId dataId idx bytes watch)
    (inWindow : InWindow board verified watch.plane event)
    (stepped : watch.step genDeviceId dataId event = .ok after) :
    (after.plane.slots idx).chunkCount =
      (watch.plane.slots idx).chunkCount := by
  unfold ReportWatch.step at stepped
  split at stepped
  · cases stepped
  · next plane moved =>
    cases stepped
    exact (congrArg ReportSlot.chunkCount (held.contentKept inWindow moved) :)

end Window

section Answers

variable {genDeviceId : UInt16} {dataId : UInt8} {idx : Fin dataSlotCount}

/-- The answer to a chunk. -/
def chunkAnswer (env : Env) (pkt : ReportChunk) (srcId : UInt16)
    (status : UInt8) : Action :=
  .reply (.reportChunkAck
    { hdr := env.replyHeader status srcId pkt.hdr.priority pkt.hdr.trackingId
      genDeviceId := pkt.genDeviceId
      dataId := pkt.dataId
      chunkIndex := pkt.chunkIndex })

theorem reportInit_repeated {pkt : ReportInit} {srcId : UInt16}
    (kept : GatewayKept s) (role : env.deviceType = .gateway)
    (held : s.Ready pkt.genDeviceId pkt.dataId idx)
    (below : FromBelow env pkt.hdr) (sizes : WellSized pkt) :
    gatewayStep s (env, .reportInit pkt srcId) =
      .ok (s.clearOut.put
        (initAnswer env pkt srcId statusAlreadyExists)) := by
  have found : s.clearOut.findSlot pkt.genDeviceId pkt.dataId = some idx :=
    (@findSlot_congr s s.clearOut rfl _ _).trans (kept.findSlot held)
  have validated : s.clearOut.validateSlot env pkt =
      (s.clearOut, statusAlreadyExists) :=
    validateSlot_ready found held.2.1
  exact congrArg Except.ok
    (handleReportInit_answer (.inl role) below sizes validated)

theorem reportChunk_repeated {pkt : ReportChunk} {srcId : UInt16}
    (kept : GatewayKept s) (role : env.deviceType = .gateway)
    (held : s.Ready pkt.genDeviceId pkt.dataId idx)
    (below : FromBelow env pkt.hdr)
    (valid : pkt.chunkIndex < (s.slots idx).chunkCount) :
    gatewayStep s (env, .reportChunk pkt srcId) =
      .ok (s.clearOut.put
        (chunkAnswer env pkt srcId statusAlreadyExists)) := by
  have found : s.clearOut.findSlot pkt.genDeviceId pkt.dataId = some idx :=
    (@findSlot_congr s s.clearOut rfl _ _).trans (kept.findSlot held)
  have count := (kept.sized idx held.1).1
  have order := UInt8.lt_iff_toNat_lt.mp valid
  have inside : pkt.chunkIndex.toNat < dataMaxChunks := by omega
  have inRange : ¬ (s.clearOut.slots idx).chunkCount ≤ pkt.chunkIndex :=
    UInt8.not_le.mpr valid
  have received : (s.clearOut.slots idx).received
      ⟨pkt.chunkIndex.toNat, inside⟩ = true :=
    (kept.sound.tally idx held.1).complete held.2.1 _ order
  have validated : s.clearOut.validateReportChunk env pkt =
      .ok (s.clearOut, statusAlreadyExists) := by
    unfold validateReportChunk
    rw [found]
    dsimp only
    rw [if_neg inRange, receivedIndex, dif_pos inside]
    dsimp only
    rw [if_pos received]
  have handled : s.clearOut.handleReportChunk env pkt srcId =
      .ok (s.clearOut.put
        (chunkAnswer env pkt srcId statusAlreadyExists)) := by
    unfold handleReportChunk
    rw [below.1, Bool.not_true, if_neg Bool.false_ne_true, role]
    dsimp only
    rw [if_pos below.2, validated]
    rfl
  exact handled

end Answers

section Runs

variable {board : Board} {io : Io} {genDeviceId : UInt16} {dataId : UInt8}
variable {idx : Fin dataSlotCount} {pkt : ReportChunk} {srcId : UInt16}

/-- A gateway verified a report at `env.now`.  During the thirty seconds that
follow, as long as chunks are stored inside their slots and no UART write
reports an error for a line that it took: repeated announcements and chunks
are answered `ALREADY_EXISTS`, the bytes stay, and the report is written to the
host at most once more than the host answers `ERROR` to it. -/
theorem duplicates_suppressed {first : ReportPlane} {watch : ReportWatch}
    (reach : Trace.Reach gatewayStep (OnGateway board) (.boot io) s)
    (onGateway : OnGateway board s (env, .reportChunk pkt srcId))
    (verified : gatewayStep s (env, .reportChunk pkt srcId) = .ok first)
    (before : ¬ s.Ready genDeviceId dataId idx)
    (ready : first.Ready genDeviceId dataId idx)
    (window : Trace.Reach (ReportWatch.step genDeviceId dataId)
      (fun watch event => InWindow board env.now watch.plane event ∧
        Undisturbed watch.plane event.2) { plane := first } watch) :
    (∀ env pkt srcId, env.toBoard = board → pkt.genDeviceId = genDeviceId →
      pkt.dataId = dataId → FromBelow env pkt.hdr → WellSized pkt →
        gatewayStep watch.plane (env, .reportInit pkt srcId) =
          .ok (watch.plane.clearOut.put
            (initAnswer env pkt srcId statusAlreadyExists))) ∧
      (∀ env pkt srcId, env.toBoard = board → pkt.genDeviceId = genDeviceId →
        pkt.dataId = dataId → FromBelow env pkt.hdr →
          pkt.chunkIndex < (first.slots idx).chunkCount →
            gatewayStep watch.plane (env, .reportChunk pkt srcId) =
              .ok (watch.plane.clearOut.put
                (chunkAnswer env pkt srcId statusAlreadyExists))) ∧
      slotBytes watch.plane.io.psram.mem idx (watch.plane.slots idx) =
        slotBytes first.io.psram.mem idx (first.slots idx) ∧
      watch.lines ≤ 1 + watch.errors := by
  have keptFirst := (reach_gatewayKept reach).step onGateway verified
  obtain ⟨⟨onBoard, -⟩, role⟩ := onGateway
  have gateway : env.deviceType = .gateway := onBoard ▸ role
  have stepped : s.step env (.reportChunk pkt srcId) = .ok first := verified
  have start : Held env.now genDeviceId dataId idx
      (slotBytes first.io.psram.mem idx (first.slots idx))
      { plane := first } := by
    refine ⟨keptFirst, ready, step_verifies gateway stepped before ready, rfl,
      ?_⟩
    dsimp only
    unfold pendingLines
    split
    · omega
    · omega
  have held : Held env.now genDeviceId dataId idx
        (slotBytes first.io.psram.mem idx (first.slots idx)) watch ∧
      (watch.plane.slots idx).chunkCount = (first.slots idx).chunkCount := by
    apply window.invariant
    · exact ⟨start, rfl⟩
    · rintro before event after ⟨held, count⟩ ⟨inWindow, undisturbed⟩ moved
      refine ⟨held.step inWindow undisturbed moved, ?_⟩
      exact (held.countKept inWindow moved).trans count
  obtain ⟨held, count⟩ := held
  refine ⟨?_, ?_, held.bytes, ?_⟩
  · rintro env pkt srcId rfl rfl rfl below sizes
    exact reportInit_repeated held.kept role held.ready below sizes
  · rintro env pkt srcId rfl rfl rfl below valid
    exact reportChunk_repeated held.kept role held.ready below (count ▸ valid)
  · have lines := held.lines
    omega

theorem duplicates_suppressed_once :
    Trace.Ends gatewayStep (.boot {})
      [(sampleReceiver, announcement 1 1 1 0x4C667A2E)] fun s =>
        Trace.Ends gatewayStep s
          [(sampleReceiver, .reportChunk (sampleChunk 1 [7]) 5)] fun first =>
            Trace.Ends (ReportWatch.step 5 1) { plane := first }
              [({ sampleReceiver with now := 10 }, .tick)] fun watch =>
                watch.lines ≤ 1 + watch.errors := by
  obtain ⟨s, announced, open_, first, verified, ready, quiet, watch, ticked,
      -⟩ :
      Trace.Ends gatewayStep (.boot {})
        [(sampleReceiver, announcement 1 1 1 0x4C667A2E)] fun s =>
          (s.slots slotZero).upstreamReady = false ∧
            Trace.Ends gatewayStep s
              [(sampleReceiver, .reportChunk (sampleChunk 1 [7]) 5)]
              fun first =>
                ((first.slots slotZero).active = true ∧
                  (first.slots slotZero).upstreamReady = true ∧
                  (first.slots slotZero).genDeviceId = 5 ∧
                  (first.slots slotZero).dataId = 1) ∧
                first.io.uart = [] ∧
                Trace.Ends (ReportWatch.step 5 1) { plane := first }
                  [({ sampleReceiver with now := 10 }, .tick)]
                  fun _ => True := by
    decide +kernel
  have reach : Trace.Reach gatewayStep (OnGateway sampleReceiver.toBoard)
      (.boot {}) s := by
    refine .of_run (fun event member before => ?_) announced
    cases List.mem_singleton.mp member
    exact ⟨⟨rfl, trivial⟩, rfl⟩
  have before : ¬ s.Ready 5 1 slotZero := by
    rintro ⟨-, verified, -⟩
    rw [open_] at verified
    cases verified
  refine ⟨s, announced, first, verified, watch, ticked, ?_⟩
  rw [Trace.run_single] at verified ticked
  have window : InWindow sampleReceiver.toBoard sampleReceiver.now first
      ({ sampleReceiver with now := 10 }, .tick) :=
    ⟨⟨⟨rfl, trivial⟩, rfl⟩, by simp, fun _ => by decide⟩
  have undisturbed : Undisturbed first .tick := by
    refine ⟨storesInside_of_other (by simp), fun _ => ?_⟩
    rw [quiet]
    exact List.not_mem_nil
  exact (duplicates_suppressed reach ⟨⟨rfl, trivial⟩, rfl⟩ verified before ready
    (.next .refl ⟨window, undisturbed⟩ ticked)).2.2.2

set_option maxRecDepth 4000 in
/-- A chunk of another report overwrites a verified one; and a line for which
the UART reports an error after it took it is written again. -/
theorem duplicates_disturbed :
    (Trace.Ends gatewayStep (.boot {})
      (overlapInits ++ [(sampleGateway, .reportChunk smallChunk 6)])
      fun first =>
        (first.slots ⟨1, by decide⟩).upstreamReady = true ∧
          Trace.Ends (ReportWatch.step 6 1) { plane := first }
            [(sampleGateway, .reportChunk largeChunk 5)] fun watch =>
              slotBytes watch.plane.io.psram.mem ⟨1, by decide⟩
                  (watch.plane.slots ⟨1, by decide⟩) ≠
                slotBytes first.io.psram.mem ⟨1, by decide⟩
                  (first.slots ⟨1, by decide⟩)) ∧
      Trace.Ends gatewayStep (.boot { uart := [.late] }) verifiedReport
        fun first =>
          (first.slots slotZero).upstreamReady = true ∧
            Trace.Ends (ReportWatch.step 5 1) { plane := first }
              [({ sampleReceiver with now := 10 }, .tick),
                ({ sampleReceiver with now := 20 }, .tick)] fun watch =>
                  watch.lines = 2 ∧ watch.errors = 0 := by
  decide +kernel

end Runs

end ReportPlane

end DectMesh
