import DectMesh.Config.Model
import DectMesh.LargeData.Moves
import DectMesh.Report.Moves

/-!
# Lookups that find nothing

The handlers of acknowledgements, and the release of a report by the host,
search a table and use the index they found.  Most of them narrow "not found"
to an unsigned byte before they test it; what they do then is the subject of
this module.
-/

namespace DectMesh

/-- The data planes of one board. -/
structure Planes where
  report : ReportPlane := {}
  ld : LdPlane := {}
  config : ConfigPlane := {}

/-- What makes a board look up a sender or a configuration. -/
inductive LookupEvent where
  | reportInitAck (pkt : ReportInitAck) (srcId : UInt16)
  | reportChunkAck (pkt : ReportChunkAck) (srcId : UInt16)
  | largeDataInitAck (pkt : LargeDataInitAck) (srcId : UInt16)
  | largeDataChunkAck (pkt : LargeDataChunkAck) (srcId : UInt16)
  | configAck (pkt : ConfigAck)
  /-- A host answer that `dispatch` matched with a pending report. -/
  | release (deviceId reportId : UInt16) (isSuccess : Bool)

namespace Planes

variable (s : Planes)

/-- The handler of the event. -/
def handle (env : Env) : LookupEvent → Except Fault Planes
  | .reportInitAck pkt srcId =>
      (s.report.handleReportInitAck env pkt srcId).map fun report =>
        { s with report := report }
  | .reportChunkAck pkt srcId =>
      (s.report.handleReportChunkAck env pkt srcId).map fun report =>
        { s with report := report }
  | .largeDataInitAck pkt srcId =>
      (s.ld.handleLargeDataInitAck env pkt srcId).map fun ld =>
        { s with ld := ld }
  | .largeDataChunkAck pkt srcId =>
      (s.ld.handleLargeDataChunkAck env pkt srcId).map fun ld =>
        { s with ld := ld }
  | .configAck pkt =>
      (s.config.handleConfigAck env pkt).map fun config =>
        { s with config := config }
  | .release deviceId reportId isSuccess =>
      (s.report.reportSlotReleaseById env deviceId reportId isSuccess).map
        fun report => { s with report := report }

/-- The search of the handler finds no entry. -/
def Misses : LookupEvent → Prop
  | .reportInitAck pkt _ =>
      s.report.findSenderSlot pkt.genDeviceId pkt.dataId = none
  | .reportChunkAck pkt _ =>
      s.report.findSenderSlot pkt.genDeviceId pkt.dataId = none
  | .largeDataInitAck pkt _ =>
      s.ld.findSenderSlot pkt.genDeviceId pkt.dataId = none
  | .largeDataChunkAck pkt _ =>
      s.ld.findSenderSlot pkt.genDeviceId pkt.dataId = none
  | .configAck pkt => s.config.findConfigSlot pkt.dstDeviceId = none
  | .release deviceId reportId isSuccess =>
      deviceId ≠ 0xFFFF ∧ isSuccess = false ∧
        ∃ idx, s.report.findSentSlot deviceId reportId = some idx ∧
          s.report.findSenderSlot (s.report.slots idx).genDeviceId
            (s.report.slots idx).dataId = none

/-- The five tables are as they were. -/
structure SameTables (s s' : Planes) : Prop where
  reportSlots : s'.report.slots = s.report.slots
  reportSenders : s'.report.senders = s.report.senders
  ldSlots : s'.ld.slots = s.ld.slots
  ldSenders : s'.ld.senders = s.ld.senders
  configSlots : s'.config.slots = s.config.slots

/-- The handler uses indices inside the tables, and leaves the tables alone
when its search finds nothing. -/
def IndexSafe (env : Env) (event : LookupEvent) : Prop :=
  ∃ s', s.handle env event = .ok s' ∧ (s.Misses event → SameTables s s')

/-- The handler gets as far as to use the index of its search. -/
def UsesIndex (env : Env) : LookupEvent → Prop
  | .reportInitAck pkt _ =>
      env.accepts pkt.hdr = true ∧
        (env.deviceType = .sensor ∨ env.deviceType = .anchor) ∧
          isUpstreamType pkt.hdr.deviceType = true ∧
            (pkt.hdr.status = statusSuccess ∨
              pkt.hdr.status = statusAlreadyExists ∧
                s.report.findSlot pkt.genDeviceId pkt.dataId ≠ none)
  | .reportChunkAck pkt _ => env.accepts pkt.hdr = true
  | .largeDataInitAck pkt _ =>
      env.accepts pkt.hdr = true ∧
        (env.deviceType = .sensor ∨ env.deviceType = .anchor) ∧
          isUpstreamType pkt.hdr.deviceType = true
  | .largeDataChunkAck pkt _ => env.accepts pkt.hdr = true
  | .configAck pkt =>
      env.accepts pkt.hdr = true ∧ env.deviceType = .anchor ∧
        isDownstreamType pkt.hdr.deviceType = true
  | .release _ _ _ => True

end Planes

section Reports

variable {env : Env} {s : ReportPlane}

/-- A sender that was found is used, and nothing fails. -/
theorem reportInitAck_found
    {pkt : ReportInitAck} {srcId : UInt16} {idx : Fin maxAnchors}
    (found : s.findSenderSlot pkt.genDeviceId pkt.dataId = some idx) :
    ∃ s', s.handleReportInitAck env pkt srcId = .ok s' := by
  have answered : ∃ s', (s.put (.untrack pkt.hdr.trackingId)).answerInitAck
      env pkt srcId = .ok s' := by
    simp only [ReportPlane.answerInitAck, ReportPlane.findSenderSlot_put,
      found, ReportPlane.senderIndex_indexByte_some]
    split
    · split
      · exact ⟨_, rfl⟩
      · exact ⟨_, rfl⟩
    · split
      · split
        · exact ⟨_, rfl⟩
        · exact ⟨_, rfl⟩
      · exact ⟨_, rfl⟩
  unfold ReportPlane.handleReportInitAck
  split
  · exact ⟨_, rfl⟩
  · dsimp only
    split
    · exact ⟨_, rfl⟩
    · exact ⟨_, rfl⟩
    · split
      · exact answered
      · exact ⟨_, rfl⟩
    · split
      · exact answered
      · exact ⟨_, rfl⟩

theorem reportChunkAck_found
    {pkt : ReportChunkAck} {srcId : UInt16} {idx : Fin maxAnchors}
    (found : s.findSenderSlot pkt.genDeviceId pkt.dataId = some idx) :
    ∃ s', s.handleReportChunkAck env pkt srcId = .ok s' := by
  unfold ReportPlane.handleReportChunkAck
  simp only [ReportPlane.findSenderSlot_put, found,
    ReportPlane.senderIndex_indexByte_some]
  split
  · exact ⟨_, rfl⟩
  · split
    · exact ⟨_, rfl⟩
    · split
      · exact ⟨_, rfl⟩
      · exact ⟨_, rfl⟩

/-- Without a sender the announcement's answer is dropped, fails, or frees a
slot. -/
theorem reportInitAck_missing
    {planes : Planes} {pkt : ReportInitAck} {srcId : UInt16}
    (missing : planes.report.findSenderSlot pkt.genDeviceId pkt.dataId =
      none) :
    (∃ s', planes.report.handleReportInitAck env pkt srcId = .ok s' ∧
        s'.slots = planes.report.slots ∧
          s'.senders = planes.report.senders) ↔
      ¬ planes.UsesIndex env (.reportInitAck pkt srcId) := by
  have search : (planes.report.put (.untrack pkt.hdr.trackingId)).findSlot
      pkt.genDeviceId pkt.dataId =
        planes.report.findSlot pkt.genDeviceId pkt.dataId :=
    @ReportPlane.findSlot_congr planes.report
      (planes.report.put (.untrack pkt.hdr.trackingId)) rfl _ _
  have answered :
      (∃ s', (planes.report.put (.untrack pkt.hdr.trackingId)).answerInitAck
          env pkt srcId = .ok s' ∧ s'.slots = planes.report.slots ∧
            s'.senders = planes.report.senders) ↔
        ¬ (pkt.hdr.status = statusSuccess ∨
          pkt.hdr.status = statusAlreadyExists ∧
            planes.report.findSlot pkt.genDeviceId pkt.dataId ≠ none) := by
    simp only [ReportPlane.answerInitAck, ReportPlane.findSenderSlot_put,
      missing, ReportPlane.senderIndex_indexByte_none, search]
    by_cases success : pkt.hdr.status = statusSuccess
    · simp [success]
    · by_cases exists_ : pkt.hdr.status = statusAlreadyExists
      · rw [if_neg success, if_pos exists_]
        cases found : planes.report.findSlot pkt.genDeviceId pkt.dataId with
        | none => simp [success, ReportPlane.put]
        | some idx =>
            -- the slot of a report nobody sends is freed
            obtain ⟨active, -, -⟩ := ReportPlane.findSlot_some found
            simp only [exists_, ne_eq, reduceCtorEq, not_false_eq_true,
              and_self, or_true, not_true_eq_false, iff_false, not_exists]
            rintro s' ⟨handled, slots, -⟩
            cases handled
            have after := congrFun slots idx
            rw [ReportPlane.reportSlotFree_slots, Function.update_self]
              at after
            rw [← after] at active
            cases active
      · rw [if_neg success, if_neg exists_]
        simp [success, exists_, ReportPlane.put]
  have untracked :
      ∃ s', (Except.ok (planes.report.put (.untrack pkt.hdr.trackingId)) :
          Except Fault ReportPlane) = .ok s' ∧
        s'.slots = planes.report.slots ∧
          s'.senders = planes.report.senders :=
    ⟨_, rfl, rfl, rfl⟩
  unfold ReportPlane.handleReportInitAck
  simp only [Planes.UsesIndex]
  split
  · next rejected =>
    refine iff_of_true ⟨_, rfl, rfl, rfl⟩ fun uses => ?_
    simp [uses.1] at rejected
  · next accepted =>
    have accepted : env.accepts pkt.hdr = true := by simpa using accepted
    split
    · next role =>
      exact iff_of_true untracked fun uses => by simp [role] at uses
    · next role =>
      exact iff_of_true untracked fun uses => by simp [role] at uses
    · next role =>
      split
      · next upstream =>
        rw [answered]
        simp [accepted, role, upstream]
      · next other =>
        exact iff_of_true untracked fun uses => other uses.2.2.1
    · next role =>
      split
      · next upstream =>
        rw [answered]
        simp [accepted, role, upstream]
      · next other =>
        exact iff_of_true untracked fun uses => other uses.2.2.1

theorem reportChunkAck_missing
    {pkt : ReportChunkAck} {srcId : UInt16}
    (missing : s.findSenderSlot pkt.genDeviceId pkt.dataId = none) :
    (∃ s', s.handleReportChunkAck env pkt srcId = .ok s' ∧
        s'.slots = s.slots ∧ s'.senders = s.senders) ↔
      ¬ env.accepts pkt.hdr = true := by
  unfold ReportPlane.handleReportChunkAck
  simp only [ReportPlane.findSenderSlot_put, missing,
    ReportPlane.senderIndex_indexByte_none]
  split
  · next rejected =>
    exact iff_of_true ⟨_, rfl, rfl, rfl⟩ (by simpa using rejected)
  · next accepted =>
    refine iff_of_false ?_ (by simpa using accepted)
    rintro ⟨s', handled, -⟩
    cases handled

theorem release_found
    {deviceId reportId : UInt16} {isSuccess : Bool}
    (found : ∀ idx, deviceId ≠ 0xFFFF → isSuccess = false →
      s.findSentSlot deviceId reportId = some idx →
        ∃ i, s.findSenderSlot (s.slots idx).genDeviceId
          (s.slots idx).dataId = some i) :
    ∃ s', s.reportSlotReleaseById env deviceId reportId isSuccess =
      .ok s' := by
  unfold ReportPlane.reportSlotReleaseById
  split
  · exact ⟨_, rfl⟩
  · next known =>
    split
    · exact ⟨_, rfl⟩
    · next idx search =>
      dsimp only
      split
      · split
        · exact ⟨_, rfl⟩
        · split
          · exact ⟨_, rfl⟩
          · exact ⟨_, rfl⟩
      · next failed =>
        obtain ⟨i, sender⟩ := found idx known (by simpa using failed) search
        rw [show (s.setSlot idx
          { s.slots idx with isSent := false }).findSenderSlot
            (s.slots idx).genDeviceId (s.slots idx).dataId = some i by
          rw [← sender]
          unfold ReportPlane.findSenderSlot
          rfl, ReportPlane.senderIndex_indexByte_some]
        exact ⟨_, rfl⟩

theorem release_missing
    {deviceId reportId : UInt16} {idx : Fin dataSlotCount}
    (known : deviceId ≠ 0xFFFF)
    (search : s.findSentSlot deviceId reportId = some idx)
    (missing : s.findSenderSlot (s.slots idx).genDeviceId
      (s.slots idx).dataId = none) :
    s.reportSlotReleaseById env deviceId reportId false =
      .error ⟨.reportSender, 255⟩ := by
  unfold ReportPlane.reportSlotReleaseById
  rw [if_neg known, search]
  simp only [Bool.false_eq_true, if_false]
  rw [show (s.setSlot idx
    { s.slots idx with isSent := false }).findSenderSlot
      (s.slots idx).genDeviceId (s.slots idx).dataId = none by
    rw [← missing]
    unfold ReportPlane.findSenderSlot
    rfl, ReportPlane.senderIndex_indexByte_none]

end Reports

section LargeData

variable {env : Env} {s : LdPlane}

theorem LdPlane.senderIndex_some (idx : Fin ldSenderSlotCount) :
    LdPlane.senderIndex (ldIndexByte (some idx)) = .ok idx := by
  have one : ldSenderSlotCount = 1 := rfl
  have zero : idx = ⟨0, by decide⟩ := Fin.ext (by omega)
  rw [zero]
  rfl

theorem LdPlane.senderIndex_none :
    LdPlane.senderIndex (ldIndexByte none) = .error ⟨.ldSender, 255⟩ :=
  rfl

theorem largeDataInitAck_found
    {pkt : LargeDataInitAck} {srcId : UInt16} {idx : Fin ldSenderSlotCount}
    (found : s.findSenderSlot pkt.genDeviceId pkt.dataId = some idx) :
    ∃ s', s.handleLargeDataInitAck env pkt srcId = .ok s' := by
  unfold LdPlane.handleLargeDataInitAck
  simp only [LdPlane.findSenderSlot_put, found, LdPlane.senderIndex_some]
  split
  · exact ⟨_, rfl⟩
  · split
    · exact ⟨_, rfl⟩
    · exact ⟨_, rfl⟩
    all_goals
      split
      · split
        · exact ⟨_, rfl⟩
        · exact ⟨_, rfl⟩
      · exact ⟨_, rfl⟩

theorem largeDataInitAck_missing
    {pkt : LargeDataInitAck} {srcId : UInt16}
    (missing : s.findSenderSlot pkt.genDeviceId pkt.dataId = none) :
    (∃ s', s.handleLargeDataInitAck env pkt srcId = .ok s' ∧
        s'.slots = s.slots ∧ s'.senders = s.senders) ↔
      ¬ (env.accepts pkt.hdr = true ∧
        (env.deviceType = .sensor ∨ env.deviceType = .anchor) ∧
          isUpstreamType pkt.hdr.deviceType = true) := by
  have untracked :
      ∃ s', (Except.ok (s.put (.untrack pkt.hdr.trackingId)) :
          Except Fault LdPlane) = .ok s' ∧
        s'.slots = s.slots ∧ s'.senders = s.senders :=
    ⟨_, rfl, rfl, rfl⟩
  unfold LdPlane.handleLargeDataInitAck
  simp only [LdPlane.findSenderSlot_put, missing, LdPlane.senderIndex_none]
  split
  · next rejected =>
    refine iff_of_true ⟨_, rfl, rfl, rfl⟩ fun uses => ?_
    simp [uses.1] at rejected
  · next accepted =>
    have accepted : env.accepts pkt.hdr = true := by simpa using accepted
    split
    · next role =>
      exact iff_of_true untracked fun uses => by simp [role] at uses
    · next role =>
      exact iff_of_true untracked fun uses => by simp [role] at uses
    all_goals
      next role =>
      split
      · next upstream =>
        refine iff_of_false ?_ (not_not.mpr ⟨accepted, by simp [role],
          upstream⟩)
        rintro ⟨s', handled, -⟩
        cases handled
      · next other =>
        exact iff_of_true untracked fun uses => other uses.2.2

theorem largeDataChunkAck_found
    {pkt : LargeDataChunkAck} {srcId : UInt16} {idx : Fin ldSenderSlotCount}
    (found : s.findSenderSlot pkt.genDeviceId pkt.dataId = some idx) :
    ∃ s', s.handleLargeDataChunkAck env pkt srcId = .ok s' := by
  unfold LdPlane.handleLargeDataChunkAck
  simp only [LdPlane.findSenderSlot_put, found, LdPlane.senderIndex_some]
  split
  · exact ⟨_, rfl⟩
  · split
    · exact ⟨_, rfl⟩
    · split
      · exact ⟨_, rfl⟩
      · exact ⟨_, rfl⟩

theorem largeDataChunkAck_missing
    {pkt : LargeDataChunkAck} {srcId : UInt16}
    (missing : s.findSenderSlot pkt.genDeviceId pkt.dataId = none) :
    (∃ s', s.handleLargeDataChunkAck env pkt srcId = .ok s' ∧
        s'.slots = s.slots ∧ s'.senders = s.senders) ↔
      ¬ env.accepts pkt.hdr = true := by
  unfold LdPlane.handleLargeDataChunkAck
  simp only [LdPlane.findSenderSlot_put, missing, LdPlane.senderIndex_none]
  split
  · next rejected =>
    exact iff_of_true ⟨_, rfl, rfl, rfl⟩ (by simpa using rejected)
  · next accepted =>
    refine iff_of_false ?_ (by simpa using accepted)
    rintro ⟨s', handled, -⟩
    cases handled

end LargeData

section Configurations

variable {env : Env} {s : ConfigPlane}

theorem configAck_found
    {pkt : ConfigAck} {idx : Fin configSlotCount}
    (found : s.findConfigSlot pkt.dstDeviceId = some idx) :
    ∃ s', s.handleConfigAck env pkt = .ok s' := by
  unfold ConfigPlane.handleConfigAck
  simp only [ConfigPlane.findConfigSlot_put, found, ConfigPlane.slotIndex]
  split
  · exact ⟨_, rfl⟩
  · split
    · split
      · split
        · exact ⟨_, rfl⟩
        · exact ⟨_, rfl⟩
      · exact ⟨_, rfl⟩
    · split
      · split
        · exact ⟨_, rfl⟩
        · exact ⟨_, rfl⟩
      · exact ⟨_, rfl⟩
    · exact ⟨_, rfl⟩
    · exact ⟨_, rfl⟩

theorem configAck_missing
    {pkt : ConfigAck} (missing : s.findConfigSlot pkt.dstDeviceId = none) :
    (∃ s', s.handleConfigAck env pkt = .ok s' ∧ s'.slots = s.slots) ↔
      ¬ (env.accepts pkt.hdr = true ∧ env.deviceType = .anchor ∧
        isDownstreamType pkt.hdr.deviceType = true) := by
  unfold ConfigPlane.handleConfigAck
  simp only [ConfigPlane.findConfigSlot_put, missing, ConfigPlane.slotIndex]
  split
  · next rejected =>
    refine iff_of_true ⟨_, rfl, rfl⟩ fun uses => ?_
    simp [uses.1] at rejected
  · next accepted =>
    have accepted : env.accepts pkt.hdr = true := by simpa using accepted
    split
    · next role =>
      refine iff_of_true ?_ fun uses => by simp [role] at uses
      split
      · exact ⟨_, rfl, rfl⟩
      · exact ⟨_, rfl, rfl⟩
    · next role =>
      split
      · next downstream =>
        refine iff_of_false ?_ (not_not.mpr ⟨accepted, role, downstream⟩)
        rintro ⟨s', handled, -⟩
        cases handled
      · next other =>
        exact iff_of_true ⟨_, rfl, rfl⟩ fun uses => other uses.2.2
    · next role =>
      exact iff_of_true ⟨_, rfl, rfl⟩ fun uses => by simp [role] at uses
    · next role =>
      exact iff_of_true ⟨_, rfl, rfl⟩ fun uses => by simp [role] at uses

end Configurations

namespace Planes

variable {env : Env} {s : Planes}

/-- What one plane's handler does, said of all planes. -/
theorem indexSafe_report
    {event : LookupEvent} {result : Except Fault ReportPlane}
    (handled : s.handle env event =
      result.map fun report => { s with report := report })
    (missing : s.Misses event) :
    s.IndexSafe env event ↔
      ∃ report, result = .ok report ∧ report.slots = s.report.slots ∧
        report.senders = s.report.senders := by
  constructor
  · rintro ⟨s', same, kept⟩
    have tables := kept missing
    rw [handled] at same
    cases result with
    | error fault => cases same
    | ok report =>
        cases same
        exact ⟨report, rfl, tables.reportSlots, tables.reportSenders⟩
  · rintro ⟨report, rfl, slots, senders⟩
    exact ⟨_, handled, fun _ => ⟨slots, senders, rfl, rfl, rfl⟩⟩

theorem indexSafe_ld
    {event : LookupEvent} {result : Except Fault LdPlane}
    (handled : s.handle env event = result.map fun ld => { s with ld := ld })
    (missing : s.Misses event) :
    s.IndexSafe env event ↔
      ∃ ld, result = .ok ld ∧ ld.slots = s.ld.slots ∧
        ld.senders = s.ld.senders := by
  constructor
  · rintro ⟨s', same, kept⟩
    have tables := kept missing
    rw [handled] at same
    cases result with
    | error fault => cases same
    | ok ld =>
        cases same
        exact ⟨ld, rfl, tables.ldSlots, tables.ldSenders⟩
  · rintro ⟨ld, rfl, slots, senders⟩
    exact ⟨_, handled, fun _ => ⟨rfl, rfl, slots, senders, rfl⟩⟩

theorem indexSafe_config
    {event : LookupEvent} {result : Except Fault ConfigPlane}
    (handled : s.handle env event =
      result.map fun config => { s with config := config })
    (missing : s.Misses event) :
    s.IndexSafe env event ↔
      ∃ config, result = .ok config ∧ config.slots = s.config.slots := by
  constructor
  · rintro ⟨s', same, kept⟩
    have tables := kept missing
    rw [handled] at same
    cases result with
    | error fault => cases same
    | ok config =>
        cases same
        exact ⟨config, rfl, tables.configSlots⟩
  · rintro ⟨config, rfl, slots⟩
    exact ⟨_, handled, fun _ => ⟨rfl, rfl, rfl, rfl, slots⟩⟩

/-- A handler whose search finds an entry uses indices inside the tables. -/
theorem indexSafe_found
    {event : LookupEvent} (found : ¬ s.Misses event) :
    s.IndexSafe env event := by
  have handled : ∃ s', s.handle env event = .ok s' := by
    cases event with
    | reportInitAck pkt srcId =>
        obtain ⟨idx, same⟩ := Option.ne_none_iff_exists'.mp found
        obtain ⟨report, ok⟩ := @reportInitAck_found env s.report pkt srcId
          idx same
        exact ⟨_, congrArg (Except.map _) ok⟩
    | reportChunkAck pkt srcId =>
        obtain ⟨idx, same⟩ := Option.ne_none_iff_exists'.mp found
        obtain ⟨report, ok⟩ := @reportChunkAck_found env s.report pkt srcId
          idx same
        exact ⟨_, congrArg (Except.map _) ok⟩
    | largeDataInitAck pkt srcId =>
        obtain ⟨idx, same⟩ := Option.ne_none_iff_exists'.mp found
        obtain ⟨ld, ok⟩ := @largeDataInitAck_found env s.ld pkt srcId idx same
        exact ⟨_, congrArg (Except.map _) ok⟩
    | largeDataChunkAck pkt srcId =>
        obtain ⟨idx, same⟩ := Option.ne_none_iff_exists'.mp found
        obtain ⟨ld, ok⟩ := @largeDataChunkAck_found env s.ld pkt srcId idx
          same
        exact ⟨_, congrArg (Except.map _) ok⟩
    | configAck pkt =>
        obtain ⟨idx, same⟩ := Option.ne_none_iff_exists'.mp found
        obtain ⟨config, ok⟩ := @configAck_found env s.config pkt idx same
        exact ⟨_, congrArg (Except.map _) ok⟩
    | release deviceId reportId isSuccess =>
        obtain ⟨report, ok⟩ := @release_found env s.report deviceId reportId
          isSuccess (by
            intro idx known failed search
            by_contra missing
            refine found ⟨known, failed, idx, search, ?_⟩
            exact Option.eq_none_iff_forall_not_mem.mpr
              fun i sender => missing ⟨i, sender⟩)
        exact ⟨_, congrArg (Except.map _) ok⟩
  obtain ⟨s', ok⟩ := handled
  exact ⟨s', ok, fun missing => absurd missing found⟩

/-- A handler is safe exactly if its search finds an entry, or it returns
before it uses the index. -/
theorem indexSafe_iff (env : Env) (s : Planes) (event : LookupEvent) :
    s.IndexSafe env event ↔ (s.Misses event → ¬ s.UsesIndex env event) := by
  by_cases missing : s.Misses event
  · rw [forall_prop_of_true missing]
    cases event with
    | reportInitAck pkt srcId =>
        exact (indexSafe_report rfl missing).trans
          (reportInitAck_missing missing)
    | reportChunkAck pkt srcId =>
        exact (indexSafe_report rfl missing).trans
          (reportChunkAck_missing missing)
    | largeDataInitAck pkt srcId =>
        exact (indexSafe_ld rfl missing).trans
          (largeDataInitAck_missing missing)
    | largeDataChunkAck pkt srcId =>
        exact (indexSafe_ld rfl missing).trans
          (largeDataChunkAck_missing missing)
    | configAck pkt =>
        exact (indexSafe_config rfl missing).trans
          (configAck_missing missing)
    | release deviceId reportId isSuccess =>
        obtain ⟨known, rfl, idx, search, sender⟩ := missing
        refine iff_of_false ?_ fun unused => unused trivial
        rintro ⟨s', handled, -⟩
        rw [handle, release_missing known search sender] at handled
        cases handled
  · exact iff_of_true (indexSafe_found missing)
      fun misses => absurd misses missing

/-- On a board that was just switched on, an anchor that gets a `CONFIG_ACK`
and a sensor that gets a `REPORT_CHUNK_ACK` index their tables with what their
search did not find. -/
theorem indexSafe_boot :
    ¬ ({} : Planes).IndexSafe
        { deviceType := .anchor, deviceId := 2, crc := Checksum.crc32Ieee }
        (.configAck
          { hdr := { deviceType := 3, deviceId := 2 }
            dstDeviceId := 5, dstDeviceType := 3, dataType := dataTypeConfig
            dataId := 1 }) ∧
      ¬ ({} : Planes).IndexSafe
        { deviceType := .sensor, deviceId := 5, crc := Checksum.crc32Ieee }
        (.reportChunkAck
          { hdr := { deviceType := 1, deviceId := 5 }
            genDeviceId := 5, dataId := 1, chunkIndex := 0 } 1) := by
  have faulty {env : Env} {event : LookupEvent}
      (failed : (({} : Planes).handle env event).isOk = false) :
      ¬ ({} : Planes).IndexSafe env event := by
    rintro ⟨s', handled, -⟩
    rw [handled] at failed
    cases failed
  constructor
  · exact faulty (by decide +kernel)
  · exact faulty (by decide +kernel)

end Planes

end DectMesh
