import DectMesh.Library.Tally
import DectMesh.Report.Moves

/-!
# The counters of report priorities

`high_prio_report_count` and its two siblings against the slots: freeing an
active slot and filling a free one keep them exact, whatever a slot does
between the two as long as its priority stays in its class.
-/

namespace DectMesh

open Tally

/-- `update_report_count` has a counter for the priority. -/
def countedPriority (priority : UInt8) : Bool :=
  priority = packetPriorityHigh ∨ priority = packetPriorityMedium ∨
    priority = packetPriorityLow

/-- An active slot of the priority. -/
def ReportSlot.ofPriority (priority : UInt8) (slot : ReportSlot) : Bool :=
  slot.active ∧ slot.priority = priority

namespace ReportPlane

variable {env : Env} {s s' s'' : ReportPlane}

/-- The counter that `update_report_count` changes for a priority. -/
def prioCount (s : ReportPlane) (priority : UInt8) : UInt16 :=
  if priority = packetPriorityHigh then
    s.highPrioCount
  else if priority = packetPriorityMedium then
    s.medPrioCount
  else
    s.lowPrioCount

/-- The number of active slots of a priority. -/
def prioSlots (s : ReportPlane) (priority : UInt8) : Nat :=
  tally (ReportSlot.ofPriority priority) s.slots

/-- The three counters are exact. -/
def Exact (s : ReportPlane) : Prop :=
  ∀ priority, countedPriority priority = true →
    (s.prioCount priority).toNat = s.prioSlots priority

/-- The slots differ in their mark of being sent only, and the counters do not
differ. -/
structure Unmoved (s s' : ReportPlane) : Prop where
  slots : ∀ idx, { s'.slots idx with isSent := false } =
    { s.slots idx with isSent := false }
  high : s'.highPrioCount = s.highPrioCount
  med : s'.medPrioCount = s.medPrioCount
  low : s'.lowPrioCount = s.lowPrioCount

section Counting

theorem prioSlots_le (s : ReportPlane) (priority : UInt8) :
    s.prioSlots priority ≤ 512 := by
  have bound := @tally_le _ _ _ (ReportSlot.ofPriority priority) s.slots
  rw [Fintype.card_fin] at bound
  exact bound

/-- `update_report_count` changes the counter of its priority only. -/
theorem prioCount_update (s : ReportPlane) (changed : UInt8)
    (isIncrement : Bool) {priority : UInt8}
    (counted : countedPriority priority = true) :
    (s.updateReportCount changed isIncrement).prioCount priority =
      if changed = priority then
        stepCount (s.prioCount priority) isIncrement
      else
        s.prioCount priority := by
  have classes : priority = packetPriorityHigh ∨
      priority = packetPriorityMedium ∨ priority = packetPriorityLow := by
    simpa [countedPriority] using counted
  have highMedium : packetPriorityHigh ≠ packetPriorityMedium := by decide
  have highLow : packetPriorityHigh ≠ packetPriorityLow := by decide
  have mediumLow : packetPriorityMedium ≠ packetPriorityLow := by decide
  unfold updateReportCount prioCount
  rcases classes with rfl | rfl | rfl
  · split_ifs <;> simp_all
  · split_ifs <;> simp_all
  · split_ifs <;> simp_all

/-- The counters see of the slots their activity and their priority. -/
theorem Exact.congr (exact_ : s.Exact)
    (slots : ∀ idx, (s'.slots idx).active = (s.slots idx).active ∧
      (s'.slots idx).priority = (s.slots idx).priority)
    (counts : ∀ priority, s'.prioCount priority = s.prioCount priority) :
    s'.Exact := by
  intro priority counted
  have same : s'.prioSlots priority = s.prioSlots priority := by
    refine tally_congr fun idx => ?_
    rw [ReportSlot.ofPriority, ReportSlot.ofPriority, (slots idx).1,
      (slots idx).2]
  rw [counts, same]
  exact exact_ priority counted

namespace Unmoved

theorem refl (s : ReportPlane) : Unmoved s s := ⟨fun _ => rfl, rfl, rfl, rfl⟩

theorem trans (first : Unmoved s s') (second : Unmoved s' s'') :
    Unmoved s s'' where
  slots := fun idx => (second.slots idx).trans (first.slots idx)
  high := second.high.trans first.high
  med := second.med.trans first.med
  low := second.low.trans first.low

/-- What may be read of a slot besides its mark. -/
theorem fields (unmoved : Unmoved s s') (idx : Fin dataSlotCount) :
    (s'.slots idx).active = (s.slots idx).active ∧
      (s'.slots idx).upstreamReady = (s.slots idx).upstreamReady ∧
      (s'.slots idx).genDeviceId = (s.slots idx).genDeviceId ∧
      (s'.slots idx).dataId = (s.slots idx).dataId ∧
      (s'.slots idx).priority = (s.slots idx).priority ∧
      (s'.slots idx).totalSize = (s.slots idx).totalSize ∧
      (s'.slots idx).chunkCount = (s.slots idx).chunkCount ∧
      (s'.slots idx).idleTimeout = (s.slots idx).idleTimeout := by
  have same := unmoved.slots idx
  simp only [ReportSlot.mk.injEq] at same
  simp only [same, and_self]

theorem exact (unmoved : Unmoved s s') (exact_ : s.Exact) : s'.Exact := by
  refine exact_.congr (fun idx => ?_) fun priority => ?_
  · exact ⟨(unmoved.fields idx).1, (unmoved.fields idx).2.2.2.2.1⟩
  · unfold prioCount
    rw [unmoved.high, unmoved.med, unmoved.low]

theorem of_slots (slots : s'.slots = s.slots)
    (high : s'.highPrioCount = s.highPrioCount)
    (med : s'.medPrioCount = s.medPrioCount)
    (low : s'.lowPrioCount = s.lowPrioCount) : Unmoved s s' :=
  ⟨fun _ => by rw [slots], high, med, low⟩

theorem put (s : ReportPlane) (action : Action) : Unmoved s (s.put action) :=
  .of_slots rfl rfl rfl rfl

theorem setSender (s : ReportPlane) (idx : Fin maxAnchors)
    (sender : ReportSender) : Unmoved s (s.setSender idx sender) :=
  .of_slots rfl rfl rfl rfl

theorem withIo (s : ReportPlane) (io : Io) : Unmoved s { s with io := io } :=
  .of_slots rfl rfl rfl rfl

theorem mark (s : ReportPlane) (idx : Fin dataSlotCount) (isSent : Bool) :
    Unmoved s (s.setSlot idx { s.slots idx with isSent := isSent }) := by
  refine ⟨fun other => ?_, rfl, rfl, rfl⟩
  rw [setSlot_slots]
  by_cases same : other = idx
  · rw [same, Function.update_self]
  · rw [Function.update_of_ne same]

end Unmoved

/-- A slot changes in place and stays in its class. -/
theorem Exact.replace (exact_ : s.Exact) {idx : Fin dataSlotCount}
    {slot : ReportSlot}
    (class_ : ∀ priority, countedPriority priority = true →
      slot.ofPriority priority = (s.slots idx).ofPriority priority) :
    (s.setSlot idx slot).Exact := by
  intro priority counted
  have same : (s.setSlot idx slot).prioSlots priority =
      s.prioSlots priority := by
    refine tally_congr fun other => ?_
    rw [setSlot_slots]
    by_cases equal : other = idx
    · rw [equal, Function.update_self]
      exact class_ priority counted
    · rw [Function.update_of_ne equal]
  rw [same]
  exact exact_ priority counted

theorem stepCount_increment {count : UInt16} (small : count.toNat < 65535) :
    (stepCount count true).toNat = count.toNat + 1 := by
  have one : (1 : UInt16).toNat = 1 := rfl
  rw [stepCount, if_pos rfl, if_pos small, UInt16.toNat_add, one]
  omega

theorem stepCount_decrement (count : UInt16) :
    (stepCount count false).toNat = count.toNat - 1 := by
  have one : (1 : UInt16).toNat = 1 := rfl
  rw [stepCount, if_neg Bool.false_ne_true]
  split
  · next positive =>
    have enough : (1 : UInt16) ≤ count := by
      rw [UInt16.le_iff_toNat_le, one]
      exact positive
    rw [UInt16.toNat_sub_of_le _ _ enough, one]
  · omega

/-- `report_slot_free` on an active slot. -/
theorem Exact.free (exact_ : s.Exact) {idx : Fin dataSlotCount}
    (active : (s.slots idx).active = true) (senderIdx : UInt8) :
    (s.reportSlotFree idx senderIdx).Exact := by
  intro priority counted
  have counts : (s.reportSlotFree idx senderIdx).prioCount priority =
      (s.updateReportCount (s.slots idx).priority false).prioCount
        priority := by
    unfold reportSlotFree
    dsimp only
    split <;> rfl
  have before := exact_ priority counted
  have changed := @tally_update _ _ _ (ReportSlot.ofPriority priority) s.slots
    _ idx (freedSlot (s.slots idx))
  have gone : (freedSlot (s.slots idx)).ofPriority priority = false := by
    simp [ReportSlot.ofPriority, freedSlot]
  have held : (s.slots idx).ofPriority priority =
      decide ((s.slots idx).priority = priority) := by
    simp [ReportSlot.ofPriority, active]
  rw [gone, held, Bool.toNat_false] at changed
  unfold prioSlots at before ⊢
  rw [reportSlotFree_slots, counts, prioCount_update s _ _ counted]
  split
  · next same =>
    rw [decide_eq_true same, Bool.toNat_true] at changed
    rw [stepCount_decrement, before]
    omega
  · next different =>
    rw [decide_eq_false different, Bool.toNat_false] at changed
    rw [before]
    omega

/-- A slot that is in no class is filled and counted. -/
theorem Exact.fill (exact_ : s.Exact) {idx : Fin dataSlotCount}
    (free : ∀ priority, countedPriority priority = true →
      (s.slots idx).ofPriority priority = false)
    {slot : ReportSlot} (active : slot.active = true) :
    ((s.updateReportCount slot.priority true).setSlot idx slot).Exact := by
  intro priority counted
  have before := exact_ priority counted
  have few := s.prioSlots_le priority
  have idle := free priority counted
  have held : slot.ofPriority priority =
      decide (slot.priority = priority) := by
    simp [ReportSlot.ofPriority, active]
  have changed := tally_update_of_not slot idle
  have counts : ((s.updateReportCount slot.priority true).setSlot idx
      slot).prioCount priority =
        (s.updateReportCount slot.priority true).prioCount priority := rfl
  rw [counts, prioCount_update s _ _ counted]
  unfold prioSlots at before few ⊢
  rw [setSlot_slots, updateReportCount_slots, changed, held]
  split
  · next same =>
    have small : (s.prioCount priority).toNat < 65535 := by omega
    rw [decide_eq_true same, Bool.toNat_true, stepCount_increment small,
      before]
  · next different =>
    rw [decide_eq_false different, Bool.toNat_false, before, Nat.add_zero]

theorem not_ofPriority {slot : ReportSlot} (free : slot.active = false)
    (priority : UInt8) : slot.ofPriority priority = false := by
  simp [ReportSlot.ofPriority, free]

end Counting

section Packets

/-- A repeated announcement of a report that is still being received keeps
the class of its priority. -/
def PriorityRepeated (env : Env) (s : ReportPlane) (pkt : ReportInit) : Prop :=
  env.deviceType = .gateway ∨ env.deviceType = .anchor →
    env.accepts pkt.hdr = true → isDownstreamType pkt.hdr.deviceType = true →
      ∀ idx, s.findSlot pkt.genDeviceId pkt.dataId = some idx →
        (s.slots idx).upstreamReady = false →
          (s.slots idx).priority = pkt.hdr.priority ∨
            countedPriority (s.slots idx).priority = false ∧
              countedPriority pkt.hdr.priority = false

theorem sameClass {priority left right : UInt8}
    (counted : countedPriority priority = true)
    (class_ : left = right ∨
      countedPriority left = false ∧ countedPriority right = false) :
    left = priority ↔ right = priority := by
  rcases class_ with rfl | ⟨leftFree, rightFree⟩
  · exact Iff.rfl
  · constructor
    · rintro rfl
      rw [counted] at leftFree
      cases leftFree
    · rintro rfl
      rw [counted] at rightFree
      cases rightFree

theorem Validated.exact {pkt : ReportInit} {status : UInt8}
    (validated : Validated env s pkt s' status) (exact_ : s.Exact)
    (repeated : ∀ idx, s.findSlot pkt.genDeviceId pkt.dataId = some idx →
      (s.slots idx).upstreamReady = false →
        (s.slots idx).priority = pkt.hdr.priority ∨
          countedPriority (s.slots idx).priority = false ∧
            countedPriority pkt.hdr.priority = false) :
    s'.Exact := by
  cases validated with
  | @again idx found waits =>
      have active := (findSlot_some found).1
      refine exact_.replace fun priority counted => ?_
      have class_ := sameClass counted (repeated idx found waits)
      simp [ReportSlot.ofPriority, acceptedSlot, active, class_]
  | fresh missing free =>
      exact exact_.fill (fun priority _ =>
        not_ofPriority (freeSlot_some free) priority) rfl
  | ready => exact exact_
  | full => exact exact_

theorem Exact.handleReportInit (exact_ : s.Exact) {pkt : ReportInit}
    (srcId : UInt16) (repeated : PriorityRepeated env s pkt) :
    (s.handleReportInit env pkt srcId).Exact := by
  generalize handled : s.handleReportInit env pkt srcId = t
  cases handleReportInit_taken handled with
  | ignored => exact exact_
  | malformed => exact (Unmoved.put s _).exact exact_
  | answered role below sizes validated =>
      exact (Unmoved.put _ _).exact
        (validated.exact exact_ (repeated role below.1 below.2))

theorem readAndSendChunk_unmoved (dstId : UInt16) (senderIdx : Fin maxAnchors)
    (chunkIdx : UInt8) (s : ReportPlane) :
    Unmoved s (s.readAndSendChunk env dstId senderIdx chunkIdx).1 := by
  unfold readAndSendChunk
  dsimp only
  split
  · exact (Unmoved.withIo s _).trans (.setSender _ _ _)
  · exact (Unmoved.withIo s _).trans (.put _ _)

theorem sendNextChunkLoop_unmoved (dstId : UInt16)
    (senderIdx : Fin maxAnchors) (rounds : Nat) (s : ReportPlane) :
    Unmoved s (sendNextChunkLoop env dstId senderIdx rounds s).1 := by
  induction rounds generalizing s with
  | zero => exact .refl s
  | succ rounds ih =>
      unfold sendNextChunkLoop
      dsimp only
      split
      · exact .refl s
      · have sent := @readAndSendChunk_unmoved env dstId senderIdx
          (s.senders senderIdx).nextChunk s
        split
        · next outcome =>
          rw [outcome] at sent
          exact sent
        · next outcome =>
          rw [outcome] at sent
          exact (sent.trans (.setSender _ _ _)).trans (ih _)

theorem handleReportInitAck_exact (exact_ : s.Exact) {pkt : ReportInitAck}
    {srcId : UInt16} (ok : s.handleReportInitAck env pkt srcId = .ok s') :
    s'.Exact := by
  have untracked := (Unmoved.put s (.untrack pkt.hdr.trackingId)).exact exact_
  cases handleReportInitAck_taken ok with
  | ignored => exact exact_
  | untracked => exact untracked
  | sends => exact (sendNextChunkLoop_unmoved _ _ _ _).exact untracked
  | frees role exists_ found => exact untracked.free (findSlot_some found).1 _

theorem verifyReport_exact (exact_ : s.Exact) {idx : Fin dataSlotCount}
    (active : (s.slots idx).active = true) :
    (s.verifyReport env idx).1.Exact := by
  have freed (io : Io) : ({ s with io := io }.reportSlotFree idx 255).Exact := by
    have opened := (Unmoved.withIo s io).exact exact_
    exact opened.free active 255
  unfold verifyReport
  dsimp only
  split
  · exact freed _
  · split
    · exact ((Unmoved.withIo s _).exact exact_).replace fun _ _ => rfl
    · exact freed _

theorem validateReportChunk_exact (exact_ : s.Exact) {pkt : ReportChunk}
    {status : UInt8} (ok : s.validateReportChunk env pkt = .ok (s', status)) :
    s'.Exact := by
  unfold validateReportChunk at ok
  split at ok
  · cases ok
    exact exact_
  · next idx found =>
    have active := (findSlot_some found).1
    dsimp only at ok
    split at ok
    · cases ok
      exact exact_
    · split at ok
      · cases ok
      · next chunk inside =>
        split at ok
        · cases ok
          exact exact_
        · split at ok
          · cases ok
            exact (Unmoved.withIo s _).exact exact_
          · next io written =>
            have stored : ({ s with io := io }.setSlot idx
                (storedSlot env (s.slots idx) chunk)).Exact :=
              ((Unmoved.withIo s io).exact exact_).replace fun _ _ => rfl
            split at ok
            · rw [Except.ok.injEq] at ok
              have after := @verifyReport_exact env _ stored idx
                (by simp [storedSlot, active])
              rw [ok] at after
              exact after
            · cases ok
              exact stored

theorem handleReportChunk_exact (exact_ : s.Exact) {pkt : ReportChunk}
    {srcId : UInt16} (ok : s.handleReportChunk env pkt srcId = .ok s') :
    s'.Exact := by
  rcases handleReportChunk_answered ok with
    rfl | ⟨after, status, -, validated, rfl⟩
  · exact exact_
  · exact (Unmoved.put _ _).exact (validateReportChunk_exact exact_ validated)

theorem restartTransfer_unmoved (idx : Fin maxAnchors) (s : ReportPlane) :
    Unmoved s (s.restartTransfer idx) := by
  unfold restartTransfer
  dsimp only
  split
  · exact .refl s
  · exact (Unmoved.mark s _ _).trans (.setSender _ _ _)

theorem repeatChunk_unmoved (srcId : UInt16) (idx : Fin maxAnchors)
    (chunkIdx : UInt8) (s : ReportPlane) :
    Unmoved s (s.repeatChunk env srcId idx chunkIdx) := by
  have resent : Unmoved s (s.resendChunk env srcId idx chunkIdx).1 := by
    unfold resendChunk
    split
    · exact .refl s
    · exact readAndSendChunk_unmoved _ _ _ s
  unfold repeatChunk
  split
  · next outcome =>
    rw [outcome] at resent
    exact resent.trans (.setSender _ _ _)
  · next outcome =>
    rw [outcome] at resent
    exact resent

theorem handleReportChunkAck_exact (exact_ : s.Exact) {pkt : ReportChunkAck}
    {srcId : UInt16} (ok : s.handleReportChunkAck env pkt srcId = .ok s') :
    s'.Exact := by
  have untracked := (Unmoved.put s (.untrack pkt.hdr.trackingId)).exact exact_
  cases handleReportChunkAck_taken ok with
  | ignored => exact exact_
  | untracked => exact untracked
  | completes =>
      unfold completeTransfer
      dsimp only
      split
      · exact (Unmoved.setSender _ _ _).exact untracked
      · next slotIdx found =>
        exact (Unmoved.setSender _ _ _).exact
          (untracked.free (findSlot_some found).1 _)
  | restarts => exact (restartTransfer_unmoved _ _).exact untracked
  | repeats => exact (repeatChunk_unmoved _ _ _ _).exact untracked

theorem handleReportReceived_unmoved (pkt : ReportReceived) (srcId : UInt16)
    (s : ReportPlane) : Unmoved s (s.handleReportReceived env pkt srcId) := by
  unfold handleReportReceived
  dsimp only
  split
  · exact .refl s
  · split
    · exact .refl s
    · exact .refl s
    · split
      · split
        · split
          · exact (Unmoved.put s _).trans (.put _ _)
          · exact .put s _
        · exact (Unmoved.put s _).trans (.put _ _)
      · exact .refl s
    · split
      · exact .put s _
      · exact .refl s

end Packets

section Ticks

/-- Details that the ticks do not send. -/
def InvalidDetails (slot : ReportSlot) : Prop :=
  slot.genDeviceId = 0 ∨ slot.dataId = 0 ∨ slot.totalSize = 0 ∨
    slot.chunkCount = 0

/-- Of the ready slots of a counted priority, only one that is alone in its
priority may have invalid details, and only on a sensor. -/
def DetailsValid (env : Env) (s : ReportPlane) : Prop :=
  ∀ idx, (s.slots idx).active = true → (s.slots idx).upstreamReady = true →
    (s.slots idx).idleTimeout.expired env.now = false →
      countedPriority (s.slots idx).priority = true →
        InvalidDetails (s.slots idx) →
          env.deviceType = .sensor ∧
            ∀ other, (s.slots other).active = true →
              (s.slots other).priority = (s.slots idx).priority → other = idx

/-- Nothing became active during a tick, and what is active kept its
details. -/
def Shrunk (s s' : ReportPlane) : Prop :=
  ∀ idx, (s'.slots idx).active = true →
    { s'.slots idx with isSent := false } =
      { s.slots idx with isSent := false }

theorem Shrunk.of_unmoved (unmoved : Unmoved s s') : Shrunk s s' :=
  fun idx _ => unmoved.slots idx

theorem Shrunk.trans (first : Shrunk s s') (second : Shrunk s' s'') :
    Shrunk s s'' := by
  intro idx active
  have later := second idx active
  have held : (s'.slots idx).active = true := by
    simp only [ReportSlot.mk.injEq] at later
    exact later.1 ▸ active
  exact later.trans (first idx held)

theorem Shrunk.free (idx : Fin dataSlotCount) (senderIdx : UInt8)
    (s : ReportPlane) : Shrunk s (s.reportSlotFree idx senderIdx) := by
  intro other active
  rw [reportSlotFree_slots] at active ⊢
  by_cases same : other = idx
  · rw [same, Function.update_self] at active
    cases active
  · rw [Function.update_of_ne same]

theorem DetailsValid.shrunk (valid : DetailsValid env s)
    (shrunk : Shrunk s s') : DetailsValid env s' := by
  intro idx active ready waits counted details
  have same := shrunk idx active
  simp only [ReportSlot.mk.injEq] at same
  obtain ⟨active_, ready_, -, -, gen_, id_, priority_, -, total_, chunks_, -,
    -, -, -, timeout_⟩ := same
  rw [InvalidDetails, gen_, id_, total_, chunks_] at details
  rw [ready_] at ready
  rw [timeout_] at waits
  rw [priority_] at counted
  rw [active_] at active
  obtain ⟨role, alone⟩ := valid idx active ready waits counted details
  refine ⟨role, fun other held equal => ?_⟩
  have kept := shrunk other held
  simp only [ReportSlot.mk.injEq] at kept
  rw [kept.1] at held
  rw [kept.2.2.2.2.2.2.1, priority_] at equal
  exact alone other held equal

theorem expireSlots_shrunk (slots : List (Fin dataSlotCount))
    (s : ReportPlane) : Shrunk s (expireSlots env slots s) := by
  induction slots generalizing s with
  | nil => exact .of_unmoved (.refl s)
  | cons idx rest ih =>
      unfold expireSlots
      split
      · exact (Shrunk.free idx 255 s).trans (ih _)
      · exact ih s

theorem expireForwarded_shrunk (slots : List (Fin dataSlotCount))
    (s : ReportPlane) : Shrunk s (expireForwarded env slots s) := by
  induction slots generalizing s with
  | nil => exact .of_unmoved (.refl s)
  | cons idx rest ih =>
      unfold expireForwarded
      split
      · exact (Shrunk.free idx 255 s).trans (ih _)
      · exact ih s

theorem expireSlots_exact (slots : List (Fin dataSlotCount))
    (exact_ : s.Exact) : (expireSlots env slots s).Exact := by
  induction slots generalizing s with
  | nil => exact exact_
  | cons idx rest ih =>
      unfold expireSlots
      split
      · next idle => exact ih (exact_.free idle.1 255)
      · exact ih exact_

theorem expireForwarded_exact (slots : List (Fin dataSlotCount))
    (exact_ : s.Exact) : (expireForwarded env slots s).Exact := by
  induction slots generalizing s with
  | nil => exact exact_
  | cons idx rest ih =>
      unfold expireForwarded
      split
      · next idle => exact ih (exact_.free idle.1 255)
      · exact ih exact_

theorem forwardToHost_unmoved (slots : List (Fin dataSlotCount))
    (ok : forwardToHost env slots s = .ok s') : Unmoved s s' := by
  induction slots generalizing s with
  | nil =>
      cases ok
      exact .refl _
  | cons idx rest ih =>
      have skipped {io : Io} (later : forwardToHost env rest
          { s with io := io } = .ok s') : Unmoved s s' :=
        (Unmoved.withIo s io).trans (ih later)
      simp only [forwardToHost] at ok
      split at ok
      · split at ok
        · exact skipped ok
        · split at ok
          · cases ok
          · split at ok
            · exact skipped ok
            · split at ok
              · exact skipped ok
              · next io written =>
                cases ok
                exact (Unmoved.withIo s io).trans
                  (.mark { s with io := io } idx true)
      · exact ih ok

theorem expireSender_unmoved (idx : Fin maxAnchors) (s : ReportPlane) :
    Unmoved s (s.expireSender env idx) := by
  unfold expireSender
  dsimp only
  split
  · split
    · exact .setSender _ _ _
    · exact (Unmoved.mark s _ _).trans (.setSender _ _ _)
  · exact .refl s

theorem startSender_unmoved (senderIdx : Fin maxAnchors)
    (idx : Fin dataSlotCount) (s : ReportPlane) :
    Unmoved s (s.startSender env senderIdx idx) := by
  unfold startSender
  dsimp only
  exact ((Unmoved.setSender s _ _).trans (.put _ _)).trans (.mark _ _ _)

theorem pendingPriority_counted {priority : UInt8}
    (selected : s.pendingPriority = some priority) :
    countedPriority priority = true := by
  unfold pendingPriority at selected
  split_ifs at selected
  · cases selected
    decide
  · cases selected
    decide
  · cases selected
    decide

/-- A sensor counts a slot with invalid details down twice; the second time
the counter is zero if it was alone. -/
theorem freeInvalid_exact (exact_ : s.Exact) {idx : Fin dataSlotCount}
    (active : (s.slots idx).active = true)
    (alone : ∀ other, (s.slots other).active = true →
      (s.slots other).priority = (s.slots idx).priority → other = idx) :
    ((s.updateReportCount (s.slots idx).priority false).reportSlotFree idx
      255).Exact := by
  have freed := exact_.free active 255
  intro priority counted
  have after := freed priority counted
  have slots : ((s.updateReportCount (s.slots idx).priority
      false).reportSlotFree idx 255).prioSlots priority =
        (s.reportSlotFree idx 255).prioSlots priority := by
    unfold prioSlots
    rw [reportSlotFree_slots, reportSlotFree_slots, updateReportCount_slots]
  have counts (s : ReportPlane) : (s.reportSlotFree idx 255).prioCount
      priority = (s.updateReportCount (s.slots idx).priority false).prioCount
        priority := by
    unfold reportSlotFree
    dsimp only
    split <;> rfl
  rw [counts, prioCount_update _ _ _ counted] at after
  rw [slots, counts, updateReportCount_slots, prioCount_update _ _ _ counted,
    prioCount_update _ _ _ counted, ← after]
  split
  · next same =>
    -- alone in its priority, the slot leaves none behind
    have none : (s.reportSlotFree idx 255).prioSlots priority = 0 := by
      refine tally_eq_zero.mpr fun other => ?_
      by_contra held
      rw [Bool.not_eq_false] at held
      simp only [ReportSlot.ofPriority, Bool.decide_and, Bool.and_eq_true,
        decide_eq_true_eq] at held
      have kept := Shrunk.free idx 255 s other held.1
      simp only [ReportSlot.mk.injEq] at kept
      have equal := alone other (kept.1 ▸ held.1)
        (kept.2.2.2.2.2.2.1.symm.trans (held.2.trans same.symm))
      rw [equal, reportSlotFree_slots, Function.update_self] at held
      cases held.1
    rw [none, if_pos same] at after
    rw [stepCount_decrement, after]
  · rfl

theorem senderLoop_exact {freeInvalid : Bool}
    (role : env.deviceType = .sensor → freeInvalid = true)
    (senders : List (Fin maxAnchors)) (exact_ : s.Exact)
    (valid : DetailsValid env s)
    (waiting : ∀ idx, (s.slots idx).active = true →
      (s.slots idx).idleTimeout.expired env.now = false) :
    (senderLoop env freeInvalid senders s).Exact := by
  induction senders generalizing s with
  | nil => exact exact_
  | cons senderIdx rest ih =>
      have onward {s' : ReportPlane} (unmoved : Unmoved s s') :
          (senderLoop env freeInvalid rest s').Exact := by
        refine ih (unmoved.exact exact_)
          (valid.shrunk (.of_unmoved unmoved)) fun idx active => ?_
        obtain ⟨active_, -, -, -, -, -, -, timeout_⟩ := unmoved.fields idx
        rw [timeout_]
        exact waiting idx (active_ ▸ active)
      unfold senderLoop
      dsimp only
      split
      · exact onward (expireSender_unmoved _ s)
      · split
        · exact exact_
        · next idx found =>
          obtain ⟨active, ready, unsent, selected⟩ := findPending_some found
          split
          · next details =>
            obtain ⟨sensor, alone⟩ := valid idx active ready
              (waiting idx active) (pendingPriority_counted selected) details
            rw [role sensor, if_pos rfl]
            exact freeInvalid_exact exact_ active alone
          · exact onward (startSender_unmoved _ _ s)

/-- After the first loop of `report_tick` no active slot is out of time. -/
theorem expireSlots_waiting (slots : List (Fin dataSlotCount))
    (s : ReportPlane) (idx : Fin dataSlotCount)
    (listed : idx ∈ slots ∨
      ((s.slots idx).active = true →
        (s.slots idx).idleTimeout.expired env.now = false))
    (active : ((expireSlots env slots s).slots idx).active = true) :
    ((expireSlots env slots s).slots idx).idleTimeout.expired env.now =
      false := by
  induction slots generalizing s with
  | nil =>
      rcases listed with none | waits
      · cases none
      · exact waits active
  | cons first rest ih =>
      unfold expireSlots at active ⊢
      split
      · next idle =>
        rw [if_pos idle] at active
        refine ih _ ?_ active
        by_cases same : idx = first
        · refine .inr fun held => ?_
          rw [reportSlotFree_slots, same, Function.update_self] at held
          cases held
        · refine listed.imp (fun member => ?_) fun waits => ?_
          · exact (List.mem_cons.mp member).resolve_left same
          · rw [reportSlotFree_slots, Function.update_of_ne same]
            exact waits
      · next busy =>
        rw [if_neg busy] at active
        refine ih _ ?_ active
        by_cases same : idx = first
        · refine .inr fun held => ?_
          rw [same] at held ⊢
          by_contra late
          rw [Bool.not_eq_false] at late
          exact busy ⟨held, late⟩
        · refine listed.imp (fun member => ?_) id
          exact (List.mem_cons.mp member).resolve_left same

theorem mem_allSlots (idx : Fin dataSlotCount) : idx ∈ allSlots := by
  unfold allSlots
  exact List.mem_finRange idx

theorem reportTick_exact (exact_ : s.Exact)
    (valid : env.deviceType = .anchor ∨ env.deviceType = .sensor →
      DetailsValid env s)
    (ok : s.reportTick env = .ok s') : s'.Exact := by
  have expired := @expireSlots_exact env s allSlots exact_
  have shrunk := @expireSlots_shrunk env allSlots s
  have waiting := fun idx =>
    @expireSlots_waiting env allSlots s idx (.inl (mem_allSlots idx))
  unfold reportTick at ok
  dsimp only at ok
  split at ok
  · exact (forwardToHost_unmoved _ ok).exact (expireForwarded_exact _ expired)
  · next role =>
    cases ok
    refine senderLoop_exact (fun sensor => ?_) _ expired
      ((valid (.inl role)).shrunk shrunk) waiting
    rw [role] at sensor
    cases sensor
  · next role =>
    cases ok
    exact senderLoop_exact (fun _ => rfl) _ expired
      ((valid (.inr role)).shrunk shrunk) waiting
  · cases ok
    exact expired

end Ticks

section Host

/-- A repeated `AT#REPORT` finds no report of a counted priority under its
id. -/
def ResubmitsUncounted (env : Env) (s : ReportPlane) (args : List Char) :
    Prop :=
  ∀ command, AcceptedCommand env (.cmdReport args) command →
    ∀ idx, s.findSlot env.deviceId command.report.dataId.toUInt8 = some idx →
      countedPriority (s.slots idx).priority = false

theorem storeReport_exact (exact_ : s.Exact) {idx : Fin dataSlotCount}
    (free : ∀ priority, countedPriority priority = true →
      (s.slots idx).ofPriority priority = false)
    (report : SlmAtStructure) (priority : UInt8) (data : List UInt8) :
    (s.storeReport env idx report priority data).1.Exact := by
  have filled : ((s.setSlot idx (hostSlot env (s.slots idx) report
      priority)).updateReportCount priority true).Exact := by
    rw [updateReportCount_setSlot]
    exact exact_.fill free rfl
  unfold storeReport
  dsimp only
  split
  · exact (Unmoved.withIo _ _).exact filled
  · refine Exact.free ((Unmoved.withIo _ _).exact filled) ?_ 255
    simp [hostSlot]

theorem validateAtReport_exact (exact_ : s.Exact) {command : ReportCommand}
    (resubmitted : ∀ idx,
      s.findSlot env.deviceId command.report.dataId.toUInt8 = some idx →
        countedPriority (s.slots idx).priority = false) :
    (s.validateAtReport env command.report command.priority
      command.payload).1.Exact := by
  unfold validateAtReport
  split
  · exact exact_
  · split
    · next idx found =>
      refine storeReport_exact exact_ (fun priority counted => ?_) _ _ _
      simp only [ReportSlot.ofPriority, Bool.decide_and, Bool.and_eq_false_iff,
        decide_eq_false_iff_not]
      refine .inr fun same => ?_
      have uncounted := resubmitted idx found
      rw [same, counted] at uncounted
      cases uncounted
    · split
      · exact exact_
      · next idx free =>
        have idle := freeSlot_some free
        have cleared : (s.clearSlot idx).Exact :=
          exact_.replace fun _ _ => rfl
        refine storeReport_exact cleared (fun priority _ => ?_) _ _ _
        refine not_ofPriority ?_ priority
        simp [clearSlot, clearedSlot, idle]

theorem sendLine_unmoved (text : AtLine) (s : ReportPlane) :
    Unmoved s (s.sendLine text) :=
  .of_slots rfl rfl rfl rfl

theorem cmdReport_exact (exact_ : s.Exact) {args : List Char}
    (resubmitted : ResubmitsUncounted env s args) :
    (s.cmdReport env args).Exact := by
  have refused : (s.sendLine .error).Exact := (sendLine_unmoved _ s).exact exact_
  unfold cmdReport
  split
  · exact refused
  · next role =>
    split
    · exact refused
    · next connected =>
      split
      · exact refused
      · next command parsed =>
        split
        · exact refused
        · next checksum =>
          split
          · exact refused
          · next serial =>
            have validated : (s.validateAtReport env command.report
                command.priority command.payload).1.Exact := by
              by_cases ranged : command.report.dataLen = 0 ∨
                  maxReportSize < command.report.dataLen.toNat
              · unfold validateAtReport
                rw [if_pos ranged]
                exact exact_
              · rw [not_or, Nat.not_lt] at ranged
                exact validateAtReport_exact exact_ (resubmitted command
                  { role := not_not.mp role
                    parsed := ⟨args, rfl, parsed⟩
                    connected := connected
                    checksum := not_not.mp checksum
                    serial := not_not.mp serial
                    nonempty := ranged.1
                    fits := ranged.2 })
            split
            · next outcome =>
              rw [outcome] at validated
              exact (sendLine_unmoved _ _).exact validated
            · next outcome =>
              rw [outcome] at validated
              exact ((sendLine_unmoved _ _).trans
                (sendLine_unmoved _ _)).exact validated

theorem foldl_put_unmoved (actions : List Action) (s : ReportPlane) :
    Unmoved s (actions.foldl ReportPlane.put s) := by
  induction actions generalizing s with
  | nil => exact .refl s
  | cons action rest ih => exact (Unmoved.put s action).trans (ih _)

theorem reportSlotReleaseById_unmoved {deviceId reportId : UInt16}
    {isSuccess : Bool}
    (ok : s.reportSlotReleaseById env deviceId reportId isSuccess = .ok s') :
    Unmoved s s' := by
  unfold reportSlotReleaseById at ok
  split at ok
  · cases ok
    exact .refl _
  · split at ok
    · cases ok
      exact .refl _
    · next idx found =>
      dsimp only at ok
      split at ok
      · split at ok
        · cases ok
          exact .refl _
        · split at ok
          · cases ok
            exact .put s _
          · cases ok
            exact foldl_put_unmoved _ s
      · split at ok
        · cases ok
        · cases ok
          exact (Unmoved.mark s idx false).trans (.setSender _ _ _)

theorem buildReportReceivedPkt_exact (exact_ : s.Exact) {pkt : RouteInfo}
    (ok : (s.buildReportReceivedPkt pkt).map (fun outcome => outcome.1) =
      .ok s') :
    s'.Exact := by
  unfold buildReportReceivedPkt at ok
  split at ok
  · dsimp only at ok
    split at ok
    · cases ok
      exact exact_
    · cases ok
      exact exact_.replace fun _ _ => rfl
  · cases ok

end Host

section Runs

/-- The steps that keep the counters exact. -/
def PriorityKept (env : Env) (s : ReportPlane) : ReportEvent → Prop
  | .reportInit pkt _ => PriorityRepeated env s pkt
  | .tick =>
      env.deviceType = .anchor ∨ env.deviceType = .sensor → DetailsValid env s
  | .cmdReport args => ResubmitsUncounted env s args
  | .restart =>
      ∀ idx, (s.slots idx).active = true →
        countedPriority (s.slots idx).priority = false
  | _ => True

theorem Exact.step (exact_ : s.Exact) {event : ReportEvent}
    (kept : PriorityKept env s event)
    (stepped : s.step env event = .ok s') : s'.Exact := by
  have cleared : s.clearOut.Exact := (Unmoved.withIo s _).exact exact_
  have sameSearch (genDeviceId : UInt16) (dataId : UInt8) :
      s.findSlot genDeviceId dataId =
        s.clearOut.findSlot genDeviceId dataId :=
    (@findSlot_congr s s.clearOut rfl genDeviceId dataId).symm
  cases event with
  | reportInit pkt srcId =>
      cases stepped
      refine cleared.handleReportInit srcId ?_
      intro role accepted downstream idx found
      exact kept role accepted downstream idx ((sameSearch _ _).trans found)
  | reportInitAck pkt srcId =>
      exact handleReportInitAck_exact cleared stepped
  | reportChunk pkt srcId =>
      exact handleReportChunk_exact cleared stepped
  | reportChunkAck pkt srcId =>
      exact handleReportChunkAck_exact cleared stepped
  | reportReceived pkt srcId =>
      cases stepped
      exact (handleReportReceived_unmoved pkt srcId _).exact cleared
  | reportReceivedAck pkt =>
      cases stepped
      unfold handleReportReceivedAck
      split
      · exact cleared
      · exact (Unmoved.put _ _).exact cleared
  | routeInfo pkt => exact buildReportReceivedPkt_exact cleared stepped
  | tick => exact reportTick_exact cleared kept stepped
  | cmdReport args =>
      cases stepped
      refine cmdReport_exact cleared fun command accepted idx found => ?_
      exact kept command accepted idx ((sameSearch _ _).trans found)
  | release deviceId reportId isSuccess =>
      have released : s.clearOut.reportSlotReleaseById env deviceId reportId
        isSuccess = .ok s' := stepped
      exact (reportSlotReleaseById_unmoved released).exact cleared
  | restart =>
      cases stepped
      have uncounted : ∀ idx, (s.slots idx).active = true →
        countedPriority (s.slots idx).priority = false := kept
      intro priority counted
      have before := exact_ priority counted
      have none : s.prioSlots priority = 0 := by
        refine tally_eq_zero.mpr fun idx => ?_
        simp only [ReportSlot.ofPriority, Bool.decide_and,
          Bool.and_eq_false_iff, decide_eq_false_iff_not]
        by_contra held
        rw [not_or, not_not, not_not] at held
        have free := uncounted idx held.1
        rw [held.2, counted] at free
        cases free
      have after : s.clearOut.reportInit.prioSlots priority = 0 :=
        tally_eq_zero.mpr fun idx => not_ofPriority rfl priority
      rw [after, ← none]
      exact before
  | elsewhere psram uart =>
      cases stepped
      exact (Unmoved.withIo _ _).exact exact_

/-- One event with the surroundings it happens in. -/
def countersStep (s : ReportPlane) (occurrence : Env × ReportEvent) :
    Except Fault ReportPlane :=
  s.step occurrence.1 occurrence.2

/-- In every run of a board of any role whose steps keep them, the three
counters are the numbers of active slots of their priorities. -/
theorem reportCounters_exact {io : Io}
    (reach : Trace.Reach countersStep
      (fun s occurrence => PriorityKept occurrence.1 s occurrence.2)
      { io := io } s) :
    s.highPrioCount.toNat = s.prioSlots packetPriorityHigh ∧
      s.medPrioCount.toNat = s.prioSlots packetPriorityMedium ∧
        s.lowPrioCount.toNat = s.prioSlots packetPriorityLow := by
  have exact_ : s.Exact := by
    apply reach.invariant
    · intro priority _
      have none : ({ io := io } : ReportPlane).prioSlots priority = 0 :=
        tally_eq_zero.mpr fun _ => rfl
      rw [none]
      unfold prioCount
      split_ifs <;> rfl
    · intro before occurrence after exact_ kept stepped
      exact exact_.step kept stepped
  refine ⟨?_, ?_, ?_⟩
  · exact exact_ packetPriorityHigh (by decide)
  · exact exact_ packetPriorityMedium (by decide)
  · exact exact_ packetPriorityLow (by decide)

/-- A gateway with address 1. -/
def countingGateway : Env :=
  { deviceType := .gateway, deviceId := 1, crc := Checksum.crc32Ieee }

/-- The announcement of a one-byte report of sensor 5. -/
def priorityInit (priority : UInt8) : ReportEvent :=
  .reportInit
    { hdr := { deviceType := 3, deviceId := 1, priority := priority }
      genDeviceId := 5, dataId := 1, reportTimeMs := 0, totalSize := 1
      chunkCount := 1, lastChunkSize := 1, crc32 := 0 } 5

theorem reportCounters_exact_first :
    Trace.Ends countersStep {}
      [(countingGateway, priorityInit packetPriorityLow)] fun s =>
        s.lowPrioCount.toNat = s.prioSlots packetPriorityLow := by
  obtain ⟨s, executed, -⟩ :
      Trace.Ends countersStep {}
        [(countingGateway, priorityInit packetPriorityLow)] fun s =>
          s.lowPrioCount = 1 := by
    decide +kernel
  have single := executed
  rw [Trace.run_single] at single
  have kept : PriorityKept countingGateway {}
      (priorityInit packetPriorityLow) := by
    intro _ _ _ idx found
    cases (findSlot_some found).1
  have reach : Trace.Reach countersStep
      (fun s occurrence => PriorityKept occurrence.1 s occurrence.2)
      { io := {} } s := .next .refl kept single
  exact ⟨s, executed, (reportCounters_exact reach).2.2⟩

/-- A repeated announcement with another priority moves the slot to another
class, and no counter. -/
theorem reportCounters_drift :
    Trace.Ends countersStep {}
      [(countingGateway, priorityInit packetPriorityLow),
        (countingGateway, priorityInit packetPriorityHigh)] fun s =>
        s.highPrioCount.toNat ≠ s.prioSlots packetPriorityHigh := by
  obtain ⟨s, executed, zero, held⟩ :
      Trace.Ends countersStep {}
        [(countingGateway, priorityInit packetPriorityLow),
          (countingGateway, priorityInit packetPriorityHigh)] fun s =>
          s.highPrioCount = 0 ∧
            (s.slots slotZero).ofPriority packetPriorityHigh = true := by
    decide +kernel
  have drift : s.highPrioCount.toNat ≠ s.prioSlots packetPriorityHigh := by
    rw [zero]
    exact Nat.ne_of_lt (tally_pos held)
  exact ⟨s, executed, drift⟩

end Runs

end ReportPlane

end DectMesh
