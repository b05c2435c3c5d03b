import DectMesh.Attribution
import DectMesh.Emission
import DectMesh.Report.Destinations
import DectMesh.Report.Metadata

/-!
# Where the metadata of a report comes from

A slot is filled by an accepted announcement or by the host of a sensor, and
announced by a tick.  So whatever is known of every announcement a board hears
and of every report its host submits is known of every slot it fills, of every
announcement it makes and of every line it writes to its host.
-/

namespace DectMesh

open ByteStore ReportPlane

/-- The metadata that every hop keeps. -/
def ReportMeta.untimed (entry : ReportMeta) : ReportMeta :=
  { entry with reportTimeMs := 0 }

/-- The metadata of a report as its sensor submits it. -/
def ReportPlane.ReportCommand.metadata (env : Env)
    (command : ReportPlane.ReportCommand) : ReportMeta :=
  (ReportPlane.hostSlot env {} command.report command.priority).metadata

namespace ReportPlane

variable {env : Env} {s s' : ReportPlane}

section Orders

/-- The announcement of a slot in use. -/
def AnnouncesSlot (s : ReportPlane) (action : Action) : Prop :=
  ∃ pkt idx, action = .request (.reportInit pkt) ∧
    (s.slots idx).active = true ∧
      pkt.metadata.untimed = (s.slots idx).metadata.untimed

/-- What the report plane passes on: announcements of its slots, and the
host's answer. -/
def Orders (s : ReportPlane) (action : Action) : Prop :=
  s.AnnouncesSlot action ∨ ∃ pkt, action = .request (.reportReceived pkt)

variable {allowed : Action → Prop}

theorem sendReportReceived_emits {pkt : ReportReceived} {dstId : UInt16}
    (received : ∀ pkt, allowed (.request (.reportReceived pkt))) :
    Io.Emits allowed s.io (s.sendReportReceived env pkt dstId).io :=
  .put (.inr (received _))

theorem handleReportReceived_emits {pkt : ReportReceived} {srcId : UInt16}
    (received : ∀ pkt, allowed (.request (.reportReceived pkt))) :
    Io.Emits allowed s.io (s.handleReportReceived env pkt srcId).io := by
  unfold handleReportReceived
  dsimp only
  split
  · exact .refl _
  · split
    · exact .refl _
    · exact .refl _
    · split
      · split
        · split
          · exact (sendReportReceived_emits received).trans (.put (.inl rfl))
          · exact .put (.inl rfl)
        · exact (sendReportReceived_emits received).trans (.put (.inl rfl))
      · exact .refl _
    · split
      · exact .put (.inl rfl)
      · exact .refl _

theorem reportSlotReleaseById_emits {deviceId reportId : UInt16}
    {isSuccess : Bool}
    (received : ∀ pkt, allowed (.request (.reportReceived pkt)))
    (released : s.reportSlotReleaseById env deviceId reportId isSuccess =
      .ok s') : Io.Emits allowed s.io s'.io := by
  have discovered (actions : List Action)
      (quiet : ∀ action ∈ actions, action.routedTo = none)
      (t : ReportPlane) : Io.Emits allowed t.io (actions.foldl put t).io := by
    induction actions generalizing t with
    | nil => exact .refl _
    | cons action rest ih =>
        have first : Io.Emits allowed t.io (t.put action).io :=
          .put (.inl (quiet action List.mem_cons_self))
        exact first.trans (ih (fun other member =>
          quiet other (List.mem_cons_of_mem _ member)) _)
  unfold reportSlotReleaseById at released
  dsimp only at released
  split at released
  · cases released
    exact .refl _
  · split at released
    · cases released
      exact .refl _
    · split at released
      · split at released
        · cases released
          exact .refl _
        · split at released
          · cases released
            exact sendReportReceived_emits received
          · cases released
            refine discovered _ ?_ s
            intro action member
            obtain ⟨sent, rfl⟩ := Env.mem_routeDiscoveries member
            rfl
      · split at released
        · cases released
        · cases released
          exact .refl _

/-- The senders announce slots in use. -/
theorem senderLoop_emits {freeInvalid : Bool}
    (announces : ∀ action, s.AnnouncesSlot action → allowed action) :
    Io.Emits allowed s.io (senderLoop env freeInvalid
      (List.finRange maxAnchors) (expireSlots env allSlots s)).io := by
  intro action sent
  rw [senderLoop_out, expireSlots_quiet] at sent
  rcases List.mem_append.mp sent with before | new
  · exact .inl before
  · obtain ⟨start, started, rfl⟩ := List.mem_map.mp new
    obtain ⟨unmoved, pending, -⟩ := loopStarts_moment started
    have active : ((expireSlots env allSlots s).slots start.slot).active =
        true := (unmoved.fields start.slot).1 ▸ pending.1
    have same := (unmoved.slots start.slot).trans
      (@expireSlots_shrunk env allSlots s start.slot active)
    have metadata : (start.moment.slots start.slot).metadata =
        (s.slots start.slot).metadata :=
      (congrArg ReportSlot.metadata same :)
    refine .inr (.inr (announces _ ⟨_, start.slot, rfl,
      (congrArg ReportSlot.active same :).symm.trans pending.1, ?_⟩))
    rw [← metadata]
    rfl

/-- Whatever the report plane passes on is the announcement of a slot in use,
or the host's answer. -/
theorem step_orders {event : ReportEvent} (stepped : s.step env event = .ok s')
    {action : Action} (sent : action ∈ s'.io.out) :
    action.routedTo = none ∨ s.Orders action := by
  have received (pkt : ReportReceived) :
      s.clearOut.Orders (.request (.reportReceived pkt)) := .inr ⟨pkt, rfl⟩
  have quiet (same : s'.io.routed = s.clearOut.io.routed) :
      Io.Emits s.clearOut.Orders s.clearOut.io s'.io := .of_routed rfl same
  have emits : Io.Emits s.clearOut.Orders s.clearOut.io s'.io := by
    cases event with
    | reportInit pkt srcId =>
        cases stepped
        exact quiet handleReportInit_routed
    | reportInitAck pkt srcId =>
        exact quiet (handleReportInitAck_routed stepped)
    | reportChunk pkt srcId => exact quiet (handleReportChunk_routed stepped)
    | reportChunkAck pkt srcId =>
        exact quiet (handleReportChunkAck_routed stepped)
    | reportReceived pkt srcId =>
        cases stepped
        exact handleReportReceived_emits received
    | reportReceivedAck pkt =>
        cases stepped
        unfold handleReportReceivedAck
        split
        · exact .refl _
        · exact .put (.inl rfl)
    | routeInfo pkt =>
        have built : (s.clearOut.buildReportReceivedPkt pkt).map
            (fun outcome => outcome.1) = .ok s' := stepped
        unfold buildReportReceivedPkt at built
        dsimp only at built
        split at built
        · split at built
          · cases built
            exact .refl _
          · cases built
            exact .refl _
        · cases built
    | tick =>
        have ticked : s.clearOut.reportTick env = .ok s' := stepped
        unfold reportTick at ticked
        dsimp only at ticked
        split at ticked
        · refine quiet ?_
          rw [forwardToHost_routed _ ticked, expireForwarded_io,
            expireSlots_quiet]
        · cases ticked
          exact senderLoop_emits fun _ announces => .inl announces
        · cases ticked
          exact senderLoop_emits fun _ announces => .inl announces
        · cases ticked
          exact quiet (congrArg Io.routed (expireSlots_quiet _ _))
    | cmdReport args =>
        cases stepped
        exact quiet (cmdReport_routed args)
    | release deviceId reportId isSuccess =>
        have released : s.clearOut.reportSlotReleaseById env deviceId reportId
            isSuccess = .ok s' := stepped
        exact reportSlotReleaseById_emits received released
    | restart =>
        cases stepped
        exact .refl _
    | elsewhere psram uart =>
        cases stepped
        exact .refl _
  exact (emits action sent).resolve_left fun before => by cases before

end Orders

section Genuine

/-- What is known of the metadata of every slot in use. -/
def Genuine (known : ReportMeta → Prop) (s : ReportPlane) : Prop :=
  ∀ idx, (s.slots idx).active = true → known (s.slots idx).metadata.untimed

end Genuine

end ReportPlane

/-- It is known of what an event brings in. -/
def ReportEvent.Genuine (known : ReportMeta → Prop) (env : Env) :
    ReportEvent → Prop
  | .reportInit pkt _ => known pkt.metadata.untimed
  | .cmdReport args =>
      ∀ command, AcceptedCommand env (.cmdReport args) command →
        known (command.metadata env).untimed
  | _ => True

section Keeping

variable {known wider : ReportMeta → Prop} {env : Env} {event : ReportEvent}
variable {s s' : ReportPlane}

theorem ReportPlane.Genuine.mono (genuine : s.Genuine known)
    (implies : ∀ entry, known entry → wider entry) : s.Genuine wider :=
  fun idx active => implies _ (genuine idx active)

theorem ReportPlane.Genuine.congr (genuine : s.Genuine known)
    (slots : s'.slots = s.slots) : s'.Genuine known := by
  intro idx active
  rw [slots] at active ⊢
  exact genuine idx active

theorem ReportPlane.Genuine.update {idx : Fin dataSlotCount}
    {slot : ReportSlot} (genuine : s.Genuine known)
    (slots : s'.slots = Function.update s.slots idx slot)
    (changed : slot.active = true → known slot.metadata.untimed) :
    s'.Genuine known := by
  rw [ReportPlane.Genuine, slots]
  exact (Function.forall_update_iff s.slots
    fun _ slot => slot.active = true → known slot.metadata.untimed).mpr
      ⟨changed, fun other _ => genuine other⟩

/-- Only a new report brings new metadata. -/
theorem ReportMove.keepsGenuine (move : ReportMove env event s s')
    (new : event.Genuine known env) (genuine : s.Genuine known) :
    s'.Genuine known := by
  have storable {idx : Fin dataSlotCount} {chunk : Fin dataMaxChunks}
      {pkt : ReportChunk} (storable : StorableChunk s idx chunk pkt) :
      (s.slots idx).active = true :=
    (ReportPlane.findSlot_some storable.found).1
  cases move with
  | quiet same => exact genuine.congr same.slots
  | sentChunk => exact genuine.congr rfl
  | freed reason =>
      refine genuine.update (ReportPlane.reportSlotFree_slots _ _ _) ?_
      simp [ReportPlane.freedSlot]
  | stopped => exact genuine.congr rfl
  | advanced below => exact genuine.congr rfl
  | retried sending active => exact genuine.update rfl (genuine _)
  | started role ticked idle active => exact genuine.update rfl (genuine _)
  | accepted init target =>
      obtain ⟨srcId, rfl⟩ := init.received
      exact genuine.update rfl fun _ => new
  | storeFailed => exact genuine.congr rfl
  | stored role received chunk =>
      exact genuine.update rfl fun _ => genuine _ (storable chunk)
  | completed role received chunk =>
      exact genuine.update rfl fun _ => genuine _ (storable chunk)
  | rejected role received chunk =>
      refine genuine.update
        ((ReportPlane.reportSlotFree_slots _ _ _).trans
          (Function.update_idem _ _ _)) ?_
      simp [ReportPlane.freedSlot]
  | forwarded => exact genuine.update rfl (genuine _)
  | transfered => exact genuine.update rfl (genuine _)
  | hostStored accepted target =>
      obtain ⟨args, rfl, parsed⟩ := accepted.parsed
      exact genuine.update rfl fun _ => new _ accepted
  | hostLost accepted target =>
      refine genuine.update
        ((ReportPlane.reportSlotFree_slots _ _ _).trans
          (Function.update_idem _ _ _)) ?_
      simp [ReportPlane.freedSlot]
  | restarted restart =>
      intro idx active
      cases active
  | elsewhere other slots => exact genuine.congr slots

theorem ReportMoves.keepsGenuine (moves : ReportMoves env event s s')
    (new : event.Genuine known env) (genuine : s.Genuine known) :
    s'.Genuine known := by
  induction moves with
  | refl => exact genuine
  | tail _ move ih => exact move.keepsGenuine new ih

theorem ReportPlane.step_genuine (allowed : s.Elsewhere event)
    (stepped : s.step env event = .ok s') (new : event.Genuine known env)
    (genuine : s.Genuine known) : s'.Genuine known :=
  (step_moves allowed stepped).keepsGenuine new (genuine.congr rfl)

end Keeping

section Lines

variable {env : Env} {s s' : ReportPlane}

/-- The line tells the host about this slot. -/
def ReportPlane.LineOf (s : ReportPlane) (idx : Fin dataSlotCount)
    (text : AtLine) : Prop :=
  ∃ serialNum, text = .report serialNum (s.slots idx).dataId
    (s.slots idx).reportTimeMs (s.slots idx).totalSize (s.slots idx).crc32
    (slotBytes s.io.psram.mem idx (s.slots idx))

/-- Every line of the loop tells the host about a verified report that it does
not have. -/
theorem ReportPlane.forwardToHost_lines {slots : List (Fin dataSlotCount)}
    (forwarded : forwardToHost env slots s = .ok s') {text : AtLine}
    (written : .line text ∈ s'.io.out) :
    .line text ∈ s.io.out ∨ ∃ idx, s.Unsent idx ∧ s.LineOf idx text := by
  induction slots generalizing s with
  | nil =>
      cases forwarded
      exact .inl written
  | cons idx rest ih =>
      have onward {io : Io} (mem : io.psram.mem = s.io.psram.mem)
          (forwarded : forwardToHost env rest { s with io := io } = .ok s') :
          .line text ∈ io.out ∨
            ∃ idx, s.Unsent idx ∧ s.LineOf idx text := by
        rcases ih forwarded with before | ⟨other, unsent, serialNum, same⟩
        · exact .inl before
        · refine .inr ⟨other, unsent, serialNum, ?_⟩
          rw [same, mem]
      rw [forwardToHost] at forwarded
      split at forwarded
      · next waiting =>
        have unsent : s.Unsent idx := by simpa [Unsent] using waiting
        split at forwarded
        · next io errno read =>
          rw [← Io.read_out_eq read]
          exact onward (Io.read_mem_eq read) forwarded
        · next io payload read =>
          have mem := Io.read_mem_eq read
          rw [← Io.read_out_eq read]
          split at forwarded
          · cases forwarded
          · next entry device =>
            split at forwarded
            · exact onward mem forwarded
            · have outcome := io.txWrite_out (.report entry.serialNum
                (s.slots idx).dataId (s.slots idx).reportTimeMs
                (s.slots idx).totalSize (s.slots idx).crc32 payload)
              have same := io.txWrite_psram (.report entry.serialNum
                (s.slots idx).dataId (s.slots idx).reportTimeMs
                (s.slots idx).totalSize (s.slots idx).crc32 payload)
              have own : s.LineOf idx (.report entry.serialNum
                  (s.slots idx).dataId (s.slots idx).reportTimeMs
                  (s.slots idx).totalSize (s.slots idx).crc32 payload) := by
                refine ⟨entry.serialNum, ?_⟩
                rw [Io.read_bytes read]
                rfl
              have shown {io' : Io} (member : .line text ∈ io'.out)
                  (outcome : io'.out = io.out ++ [.line (.report
                    entry.serialNum (s.slots idx).dataId
                    (s.slots idx).reportTimeMs (s.slots idx).totalSize
                    (s.slots idx).crc32 payload)] ∨ io'.out = io.out) :
                  .line text ∈ io.out ∨
                    ∃ idx, s.Unsent idx ∧ s.LineOf idx text := by
                rcases outcome with added | nothing
                · rw [added, List.mem_append, List.mem_singleton] at member
                  rcases member with before | new
                  · exact .inl before
                  · cases new
                    exact .inr ⟨idx, unsent, own⟩
                · rw [nothing] at member
                  exact .inl member
              split at forwarded
              · next after lost =>
                rw [lost] at outcome same
                rcases onward ((congrArg Psram.mem same).trans mem) forwarded
                  with before | new
                · exact shown before (outcome.imp id And.left)
                · exact .inr new
              · next after sent =>
                rw [sent] at outcome
                cases forwarded
                exact shown written (outcome.imp id And.left)
      · exact ih forwarded

/-- Every `AT#REPORT` of a tick tells the host about a slot with a verified
report, as it stands before the tick. -/
theorem ReportPlane.tick_lines (role : env.deviceType = .gateway)
    (ticked : s.step env .tick = .ok s') {text : AtLine}
    (written : .line text ∈ s'.io.out) :
    ∃ idx, (s.slots idx).active = true ∧ (s.slots idx).upstreamReady = true ∧
      s.LineOf idx text := by
  have stepped : s.clearOut.reportTick env = .ok s' := ticked
  unfold reportTick at stepped
  dsimp only at stepped
  rw [role] at stepped
  have looped : forwardToHost env allSlots (expireForwarded env allSlots
      (expireSlots env allSlots s.clearOut)) = .ok s' := stepped
  rcases forwardToHost_lines looped written with
    before | ⟨idx, unsent, serialNum, own⟩
  · rw [expireForwarded_io, expireSlots_quiet] at before
    cases before
  · have kept := expireForwarded_kept allSlots _ unsent.1
    have first := unsent.1
    rw [kept] at first
    have same := kept.trans (expireSlots_kept allSlots _ first)
    obtain ⟨active, ready, -⟩ := unsent
    rw [same] at active ready own
    rw [expireForwarded_io, expireSlots_quiet] at own
    exact ⟨idx, active, ready, serialNum, own⟩

end Lines

section Geometry

/-- Chunks of this count and size make up the report. -/
structure ReportMeta.Consistent (entry : ReportMeta) : Prop where
  nonempty : 0 < entry.totalSize.toNat
  fits : entry.totalSize.toNat ≤ maxReportSize
  some_ : 0 < entry.chunkCount.toNat
  covered : entry.totalSize.toNat =
    (entry.chunkCount.toNat - 1) * sendDataMax + entry.lastChunkSize.toNat
  bounded : entry.lastChunkSize.toNat ≤ sendDataMax

/-- A sensor cuts what its host submits into chunks that make it up. -/
theorem AcceptedCommand.consistent {env : Env} {event : ReportEvent}
    {command : ReportPlane.ReportCommand}
    (accepted : AcceptedCommand env event command) :
    (command.metadata env).Consistent := by
  have small : command.report.dataLen.toNat ≤ 256 := accepted.fits
  have some_ : 0 < command.report.dataLen.toNat := by
    rw [Nat.pos_iff_ne_zero, ← UInt16.toNat_zero, Ne, UInt16.toNat_inj]
    exact accepted.nonempty
  have count : (command.metadata env).chunkCount.toNat =
      (command.report.dataLen.toNat + 180 - 1) / 180 :=
    UInt8.toNat_ofNat_of_lt' (by
      change (command.report.dataLen.toNat + 180 - 1) / 180 < 256
      omega)
  have last : (command.metadata env).lastChunkSize.toNat =
      if command.report.dataLen.toNat % 180 ≠ 0 then
        command.report.dataLen.toNat % 180
      else
        180 :=
    UInt8.toNat_ofNat_of_lt' (by
      change (if command.report.dataLen.toNat % 180 ≠ 0 then
        command.report.dataLen.toNat % 180 else 180) < 256
      split <;> omega)
  have total : (command.metadata env).totalSize = command.report.dataLen := rfl
  have chunk : sendDataMax = 180 := rfl
  constructor
  · exact some_
  · exact small
  · rw [count]
    omega
  · rw [total, count, last, chunk]
    split <;> omega
  · rw [last, chunk]
    split <;> omega

/-- With consistent metadata in all slots, every chunk is stored inside its
slot. -/
theorem ReportPlane.Genuine.storesInside {s : ReportPlane}
    (genuine : s.Genuine ReportMeta.Consistent) (event : ReportEvent) :
    StoresInside s event := by
  intro pkt srcId idx chunk received storable
  have consistent :=
    genuine idx (ReportPlane.findSlot_some storable.found).1
  have fits : (s.slots idx).totalSize.toNat ≤ 256 := consistent.fits
  have covered : (s.slots idx).totalSize.toNat =
      ((s.slots idx).chunkCount.toNat - 1) * 180 +
        (s.slots idx).lastChunkSize.toNat := consistent.covered
  have below := UInt8.lt_iff_toNat_lt.mp storable.inRange
  have maximum : maxReportSize = 256 := rfl
  have size : sendDataMax = 180 := rfl
  have full : (UInt8.ofNat 180).toNat = 180 := rfl
  unfold storedChunkSize
  rw [maximum, size]
  split
  · omega
  · rw [full]
    omega

end Geometry


end DectMesh
