import DectMesh.Report.Counters
import DectMesh.Report.Fidelity

/-!
# Which reports a tick of an anchor or a sensor sends

The loop over the senders asks the priority counters which class comes next.
They count the slots in use, and not those that wait: a class with a report in
flight and none that waits keeps the classes below it from being sent.
-/

namespace DectMesh

open Tally

namespace ReportPlane

variable {env : Env} {s s' : ReportPlane}

/-- A report waits to be sent and has the details the ticks ask for. -/
def Pending (s : ReportPlane) (idx : Fin dataSlotCount) : Prop :=
  (s.slots idx).active = true ∧ (s.slots idx).upstreamReady = true ∧
    (s.slots idx).isSent = false ∧ ¬ InvalidDetails (s.slots idx)

instance InvalidDetails.decidable (slot : ReportSlot) :
    Decidable (InvalidDetails slot) :=
  inferInstanceAs (Decidable (_ ∨ _ ∨ _ ∨ _))

instance Pending.decidable (s : ReportPlane) (idx : Fin dataSlotCount) :
    Decidable (s.Pending idx) :=
  inferInstanceAs (Decidable (_ ∧ _ ∧ _ ∧ _))

/-- A transfer that the loop starts, and the state in which it does. -/
structure Start where
  moment : ReportPlane
  sender : Fin maxAnchors
  slot : Fin dataSlotCount

/-- What a started transfer puts out. -/
def Start.announced (env : Env) (start : Start) : Action :=
  .request (.reportInit
    { hdr :=
        { deviceType := env.deviceType.code
          priority := (start.moment.slots start.slot).priority
          deviceId := env.parent.deviceId }
      genDeviceId := (start.moment.slots start.slot).genDeviceId
      dataId := (start.moment.slots start.slot).dataId
      reportTimeMs := UInt64.ofNat env.now
      totalSize := (start.moment.slots start.slot).totalSize
      chunkCount := (start.moment.slots start.slot).chunkCount
      lastChunkSize := (start.moment.slots start.slot).lastChunkSize
      crc32 := (start.moment.slots start.slot).crc32 })

/-- The transfers that the loop over the senders starts. -/
def loopStarts (env : Env) : List (Fin maxAnchors) → ReportPlane → List Start
  | [], _ => []
  | senderIdx :: rest, s =>
      if (s.senders senderIdx).active then
        loopStarts env rest (s.expireSender env senderIdx)
      else
        match s.pendingPriority.bind s.findPending with
        | none => []
        | some idx =>
            if InvalidDetails (s.slots idx) then
              []
            else
              ⟨s, senderIdx, idx⟩ ::
                loopStarts env rest (s.startSender env senderIdx idx)

/-- The tick of a board that has somebody upstream. -/
def senderTick (s : ReportPlane) (env : Env) : ReportPlane :=
  match env.deviceType with
  | .anchor => s.anchorReportTick env
  | .sensor => s.sensorReportTick env
  | .gateway | .unknown => s

def tickStarts (s : ReportPlane) (env : Env) : List Start :=
  loopStarts env (List.finRange maxAnchors) s

/-- The timeout handling of the loop, for the listed senders. -/
def expireSenders (env : Env) : List (Fin maxAnchors) → ReportPlane → ReportPlane
  | [], s => s
  | idx :: rest, s =>
      if (s.senders idx).active then
        expireSenders env rest (s.expireSender env idx)
      else
        expireSenders env rest s

/-- After the timeout handling a sender is idle and a report waits. -/
def WorkLeft (env : Env) (s : ReportPlane) : Prop :=
  (∃ i, ((expireSenders env (List.finRange maxAnchors) s).senders i).active =
    false) ∧
    ∃ idx, (expireSenders env (List.finRange maxAnchors) s).Pending idx

instance WorkLeft.decidable (env : Env) (s : ReportPlane) :
    Decidable (WorkLeft env s) :=
  inferInstanceAs (Decidable (_ ∧ _))

/-- The timeout of one of the listed senders lets the slot be sent again. -/
def Released (env : Env) (s : ReportPlane) (listed : Fin maxAnchors → Prop)
    (idx : Fin dataSlotCount) : Prop :=
  ∃ i, listed i ∧ (s.senders i).active = true ∧
    (s.senders i).timeout.expired env.now = true ∧
      s.findSlot (s.senders i).genDeviceId (s.senders i).dataId = some idx

/-- A ready report of the priority that is not being sent when the loop comes
to the sender. -/
def WaitsFor (env : Env) (s : ReportPlane) (sender : Fin maxAnchors)
    (priority : UInt8) (idx : Fin dataSlotCount) : Prop :=
  (s.slots idx).active = true ∧ (s.slots idx).upstreamReady = true ∧
    (s.slots idx).priority = priority ∧
      ((s.slots idx).isSent = false ∨ Released env s (· < sender) idx)

/-- The highest priority of the slots in use, if it is one of the three. -/
def TopPriority (s : ReportPlane) (priority : UInt8) : Prop :=
  countedPriority priority = true ∧
    (∃ idx, (s.slots idx).active = true ∧ (s.slots idx).priority = priority) ∧
      ∀ idx, (s.slots idx).active = true → priority ≤ (s.slots idx).priority

/-- When the loop comes to the first sender that is idle before the tick, some
report of the highest priority in use waits, and the first that does has valid
details. -/
def Serves (env : Env) (s : ReportPlane) : Prop :=
  ∃ sender priority idx,
    ((s.senders sender).active = false ∧
      ∀ other < sender, (s.senders other).active = true) ∧
      s.TopPriority priority ∧ WaitsFor env s sender priority idx ∧
        (∀ other < idx, ¬ WaitsFor env s sender priority other) ∧
          ¬ InvalidDetails (s.slots idx)

section Selection

/-- A counter is positive when a slot of its priority is in use. -/
theorem prioCount_pos (exact_ : s.Exact) {priority : UInt8}
    (counted : countedPriority priority = true) :
    0 < (s.prioCount priority).toNat ↔
      ∃ idx, (s.slots idx).active = true ∧
        (s.slots idx).priority = priority := by
  rw [exact_ priority counted]
  constructor
  · intro positive
    by_contra none
    have zero : s.prioSlots priority = 0 := by
      refine tally_eq_zero.mpr fun idx => ?_
      rw [ReportSlot.ofPriority, decide_eq_false_iff_not]
      exact fun held => none ⟨idx, held⟩
    exact Nat.ne_of_gt positive zero
  · rintro ⟨idx, active, same⟩
    have held : (s.slots idx).ofPriority priority = true := by
      simp [ReportSlot.ofPriority, active, same]
    exact tally_pos held

/-- With exact counters the tick selects the highest priority in use. -/
theorem pendingPriority_iff (exact_ : s.Exact) {priority : UInt8} :
    s.pendingPriority = some priority ↔ s.TopPriority priority := by
  have high := @prioCount_pos s exact_ packetPriorityHigh (by decide)
  have medium := @prioCount_pos s exact_ packetPriorityMedium (by decide)
  have low := @prioCount_pos s exact_ packetPriorityLow (by decide)
  rw [show s.prioCount packetPriorityHigh = s.highPrioCount from rfl] at high
  rw [show s.prioCount packetPriorityMedium = s.medPrioCount from rfl]
    at medium
  rw [show s.prioCount packetPriorityLow = s.lowPrioCount from rfl] at low
  have below {class_ : UInt8} (small : class_ < packetPriorityLow) :
      class_ = packetPriorityHigh ∨ class_ = packetPriorityMedium := by
    rw [UInt8.lt_iff_toNat_lt] at small
    have bound : packetPriorityLow.toNat = 2 := rfl
    have options : class_.toNat = 0 ∨ class_.toNat = 1 := by omega
    exact options.imp UInt8.toNat_inj.mp UInt8.toNat_inj.mp
  unfold pendingPriority
  constructor
  · intro selected
    split_ifs at selected with noHigh noMedium noLow
    · cases selected
      refine ⟨by decide, high.mp noHigh, fun idx _ => ?_⟩
      exact UInt8.le_iff_toNat_le.mpr (Nat.zero_le _)
    · cases selected
      refine ⟨by decide, medium.mp noMedium, fun idx active => ?_⟩
      by_contra smaller
      rw [UInt8.not_le] at smaller
      rcases below (UInt8.lt_trans smaller (by decide)) with same | same
      · exact noHigh (high.mpr ⟨idx, active, same⟩)
      · rw [same] at smaller
        exact absurd smaller (by decide)
    · cases selected
      refine ⟨by decide, low.mp noLow, fun idx active => ?_⟩
      by_contra smaller
      rw [UInt8.not_le] at smaller
      rcases below smaller with same | same
      · exact noHigh (high.mpr ⟨idx, active, same⟩)
      · exact noMedium (medium.mpr ⟨idx, active, same⟩)
  · rintro ⟨counted, inUse, least⟩
    have absent {class_ : UInt8} (smaller : ¬ priority ≤ class_) :
        ¬ ∃ idx, (s.slots idx).active = true ∧
          (s.slots idx).priority = class_ := by
      rintro ⟨idx, active, rfl⟩
      exact smaller (least idx active)
    have classes : priority = packetPriorityHigh ∨
        priority = packetPriorityMedium ∨ priority = packetPriorityLow := by
      simpa [countedPriority] using counted
    rcases classes with rfl | rfl | rfl
    · rw [if_pos (high.mpr inUse)]
    · rw [if_neg (mt high.mp (absent (by decide))), if_pos (medium.mpr inUse)]
    · rw [if_neg (mt high.mp (absent (by decide))),
        if_neg (mt medium.mp (absent (by decide))), if_pos (low.mpr inUse)]

theorem pendingPriority_congr (unmoved : Unmoved s s') :
    s'.pendingPriority = s.pendingPriority := by
  unfold pendingPriority
  rw [unmoved.high, unmoved.med, unmoved.low]

theorem findSlot_unmoved (unmoved : Unmoved s s') (genDeviceId : UInt16)
    (dataId : UInt8) :
    s'.findSlot genDeviceId dataId = s.findSlot genDeviceId dataId := by
  unfold findSlot
  congr 1
  funext idx
  obtain ⟨active, -, gen, id, -⟩ := unmoved.fields idx
  rw [active, gen, id]

end Selection

section Starting

/-- Every transfer that the loop starts is announced, and nothing else is. -/
theorem senderLoop_out (freeInvalid : Bool) (senders : List (Fin maxAnchors))
    (s : ReportPlane) :
    (senderLoop env freeInvalid senders s).io.out =
      s.io.out ++ (loopStarts env senders s).map (Start.announced env) := by
  induction senders generalizing s with
  | nil => simp [senderLoop, loopStarts]
  | cons senderIdx rest ih =>
      unfold senderLoop loopStarts
      dsimp only
      split
      · rw [ih, expireSender_io]
      · cases found : s.pendingPriority.bind s.findPending with
        | none => simp
        | some idx =>
          dsimp only
          by_cases details : InvalidDetails (s.slots idx)
          · have invalid : (s.slots idx).genDeviceId = 0 ∨
                (s.slots idx).dataId = 0 ∨ (s.slots idx).totalSize = 0 ∨
                  (s.slots idx).chunkCount = 0 := details
            rw [if_pos invalid, if_pos details]
            split
            · simp
            · simp
          · have valid : ¬ ((s.slots idx).genDeviceId = 0 ∨
                (s.slots idx).dataId = 0 ∨ (s.slots idx).totalSize = 0 ∨
                  (s.slots idx).chunkCount = 0) := details
            rw [if_neg valid, if_neg details, ih, List.map_cons,
              ← List.singleton_append, ← List.append_assoc]
            rfl

theorem senderTick_out (role : env.deviceType = .anchor ∨
    env.deviceType = .sensor) (s : ReportPlane) :
    (s.senderTick env).io.out =
      s.io.out ++ (s.tickStarts env).map (Start.announced env) := by
  unfold senderTick
  rcases role with anchor | sensor
  · rw [anchor]
    exact senderLoop_out _ _ s
  · rw [sensor]
    exact senderLoop_out _ _ s

/-- Every transfer is started for a pending report of the selected class. -/
theorem loopStarts_moment {senders : List (Fin maxAnchors)} {start : Start}
    (started : start ∈ loopStarts env senders s) :
    Unmoved s start.moment ∧ start.moment.Pending start.slot ∧
      start.moment.pendingPriority =
        some (start.moment.slots start.slot).priority := by
  induction senders generalizing s with
  | nil => cases started
  | cons senderIdx rest ih =>
      have onward {s' : ReportPlane} (unmoved : Unmoved s s')
          (later : start ∈ loopStarts env rest s') :
          Unmoved s start.moment ∧ start.moment.Pending start.slot ∧
            start.moment.pendingPriority =
              some (start.moment.slots start.slot).priority := by
        obtain ⟨still, pending⟩ := ih later
        exact ⟨unmoved.trans still, pending⟩
      unfold loopStarts at started
      split at started
      · exact onward (expireSender_unmoved senderIdx s) started
      · split at started
        · cases started
        · next idx found =>
          split at started
          · cases started
          · next details =>
            obtain ⟨active, ready, unsent, selected⟩ := findPending_some found
            rcases List.mem_cons.mp started with rfl | later
            · exact ⟨.refl s, ⟨active, ready, unsent, details⟩, selected⟩
            · exact onward (startSender_unmoved _ _ s) later

end Starting

section Serving

theorem expireSenders_unmoved (senders : List (Fin maxAnchors))
    (s : ReportPlane) : Unmoved s (expireSenders env senders s) := by
  induction senders generalizing s with
  | nil => exact .refl s
  | cons idx rest ih =>
      unfold expireSenders
      split
      · exact (expireSender_unmoved idx s).trans (ih _)
      · exact ih s

theorem expireSenders_senders {senders : List (Fin maxAnchors)}
    {other : Fin maxAnchors} (missing : other ∉ senders) (s : ReportPlane) :
    (expireSenders env senders s).senders other = s.senders other := by
  induction senders generalizing s with
  | nil => rfl
  | cons idx rest ih =>
      rw [List.mem_cons, not_or] at missing
      unfold expireSenders
      split
      · rw [ih missing.2, expireSender_senders missing.1]
      · exact ih missing.2 s

/-- The timeout of an active sender releases the slot it was created from. -/
theorem expireSender_unsent {i : Fin maxAnchors}
    {idx : Fin dataSlotCount} :
    ((s.expireSender env i).slots idx).isSent = false ↔
      (s.slots idx).isSent = false ∨
        (s.senders i).timeout.expired env.now = true ∧
          s.findSlot (s.senders i).genDeviceId (s.senders i).dataId =
            some idx := by
  unfold expireSender
  dsimp only
  split
  · next expired =>
    split
    · next missing =>
      rw [missing]
      simp
    · next slotIdx found =>
      rw [found]
      by_cases same : idx = slotIdx
      · simp [same, expired]
      · have other : slotIdx ≠ idx := fun equal => same equal.symm
        simp [Function.update_of_ne same, other]
  · next waits =>
    simp [waits]

theorem expireSenders_unsent {senders : List (Fin maxAnchors)}
    (nodup : senders.Nodup) {idx : Fin dataSlotCount} (s : ReportPlane) :
    ((expireSenders env senders s).slots idx).isSent = false ↔
      (s.slots idx).isSent = false ∨ Released env s (· ∈ senders) idx := by
  induction senders generalizing s with
  | nil => simp [expireSenders, Released]
  | cons i rest ih =>
      obtain ⟨missing, nodupRest⟩ := List.nodup_cons.mp nodup
      have later {s' : ReportPlane} (unmoved : Unmoved s s')
          (senders : ∀ j ∈ rest, s'.senders j = s.senders j) :
          Released env s' (· ∈ rest) idx ↔ Released env s (· ∈ rest) idx := by
        refine exists_congr fun j => and_congr_right fun member => ?_
        rw [senders j member, findSlot_unmoved unmoved]
      have split_ : Released env s (· ∈ i :: rest) idx ↔
          ((s.senders i).active = true ∧
            (s.senders i).timeout.expired env.now = true ∧
              s.findSlot (s.senders i).genDeviceId (s.senders i).dataId =
                some idx) ∨
            Released env s (· ∈ rest) idx := by
        simp only [Released, List.mem_cons, or_and_right, exists_or,
          exists_eq_left]
      unfold expireSenders
      split
      · next active =>
        rw [ih nodupRest, expireSender_unsent,
          later (expireSender_unmoved i s) fun j member =>
            expireSender_senders (ne_of_mem_of_not_mem member missing),
          split_, or_assoc]
        simp only [active, true_and]
      · next idle =>
        rw [Bool.not_eq_true] at idle
        rw [ih nodupRest, split_]
        simp only [idle, Bool.false_eq_true, false_and, false_or]

/-- The loop comes to the first idle sender with the timeouts of those before
it handled. -/
theorem loopStarts_skip {busy rest : List (Fin maxAnchors)}
    (nodup : busy.Nodup) (active : ∀ i ∈ busy, (s.senders i).active = true) :
    loopStarts env (busy ++ rest) s =
      loopStarts env rest (expireSenders env busy s) := by
  induction busy generalizing s with
  | nil => rfl
  | cons i later ih =>
      obtain ⟨missing, nodupLater⟩ := List.nodup_cons.mp nodup
      have here := active i List.mem_cons_self
      rw [List.cons_append, loopStarts, if_pos here, expireSenders,
        if_pos here]
      refine ih nodupLater fun j member => ?_
      rw [expireSender_senders (ne_of_mem_of_not_mem member missing)]
      exact active j (List.mem_cons_of_mem i member)

/-- The senders before one in the loop. -/
theorem senders_split (sender : Fin maxAnchors) :
    ∃ before rest, List.finRange maxAnchors = before ++ sender :: rest ∧
      before.Nodup ∧ ∀ i, i ∈ before ↔ i < sender := by
  obtain ⟨before, rest, split_⟩ :=
    List.append_of_mem (List.mem_finRange sender)
  have ordered := List.pairwise_lt_finRange maxAnchors
  have nodup := List.nodup_finRange maxAnchors
  rw [split_] at ordered nodup
  rw [List.pairwise_append] at ordered
  obtain ⟨-, tail, smaller⟩ := ordered
  refine ⟨before, rest, split_, (List.nodup_append.mp nodup).1, fun i => ?_⟩
  constructor
  · intro member
    exact smaller i member sender List.mem_cons_self
  · intro below
    have listed := List.mem_finRange i
    rw [split_, List.mem_append, List.mem_cons] at listed
    rcases listed with member | same | after
    · exact member
    · exact absurd same (Fin.ne_of_lt below)
    · have above := List.rel_of_pairwise_cons tail after
      exact absurd below (Fin.not_lt.mpr (Fin.le_of_lt above))

/-- What the loop selects for the first sender that was idle. -/
theorem loopStarts_first {sender : Fin maxAnchors}
    (idle : (s.senders sender).active = false)
    (rest : List (Fin maxAnchors)) :
    loopStarts env (sender :: rest) s ≠ [] ↔
      ∃ priority idx, s.pendingPriority = some priority ∧
        s.findPending priority = some idx ∧
          ¬ InvalidDetails (s.slots idx) := by
  rw [loopStarts, if_neg (by simp [idle])]
  cases selected : s.pendingPriority with
  | none => simp
  | some priority =>
      cases found : s.findPending priority with
      | none => simp [found]
      | some idx =>
          simp only [Option.bind_some, found, Option.some.injEq,
            exists_eq_left', exists_and_left]
          split
          · next details => simp [details]
          · next details => simp [details]

/-- A transfer is started exactly when the selected class has one to start. -/
theorem tickStarts_iff (exact_ : s.Exact) :
    s.tickStarts env ≠ [] ↔ Serves env s := by
  have first {sender : Fin maxAnchors}
      (idle : (s.senders sender).active = false)
      (busy : ∀ other < sender, (s.senders other).active = true) :
      s.tickStarts env ≠ [] ↔
        ∃ priority idx, s.TopPriority priority ∧
          WaitsFor env s sender priority idx ∧
            (∀ other < idx, ¬ WaitsFor env s sender priority other) ∧
              ¬ InvalidDetails (s.slots idx) := by
    obtain ⟨before, rest, split_, nodup, listed⟩ := senders_split sender
    have unmoved := @expireSenders_unmoved env before s
    have missing : sender ∉ before := by
      rw [listed]
      exact Fin.lt_irrefl sender
    have still : ((expireSenders env before s).senders sender).active =
        false := by
      rw [expireSenders_senders missing]
      exact idle
    rw [tickStarts, split_, loopStarts_skip nodup
      (fun i member => busy i ((listed i).mp member)),
      loopStarts_first still]
    refine exists_congr fun priority => exists_congr fun idx => ?_
    have waiting (other : Fin dataSlotCount) :
        ((((expireSenders env before s).slots other).active = true ∧
          ((expireSenders env before s).slots other).upstreamReady = true ∧
            (!((expireSenders env before s).slots other).isSent) = true ∧
              ((expireSenders env before s).slots other).priority =
                priority) ↔ WaitsFor env s sender priority other) := by
      obtain ⟨active, ready, -, -, same, -⟩ := unmoved.fields other
      have released : Released env s (· ∈ before) other ↔
          Released env s (· < sender) other :=
        exists_congr fun i => and_congr_left fun _ => listed i
      rw [active, ready, same, Bool.not_eq_true', expireSenders_unsent nodup,
        released, WaitsFor]
      tauto
    have valid : InvalidDetails ((expireSenders env before s).slots idx) ↔
        InvalidDetails (s.slots idx) := by
      obtain ⟨-, -, gen, id, -, size, chunks, -⟩ := unmoved.fields idx
      rw [InvalidDetails, gen, id, size, chunks, InvalidDetails]
    rw [pendingPriority_congr unmoved, pendingPriority_iff exact_, findPending,
      Fin.find?_eq_some_iff, valid]
    simp only [decide_eq_true_eq, decide_eq_false_iff_not, waiting, and_assoc]
  constructor
  · intro started
    have someIdle : ∃ sender, (s.senders sender).active = false ∧
        ∀ other < sender, (s.senders other).active = true := by
      by_contra none
      push Not at none
      have busy (i : Fin maxAnchors) : (s.senders i).active = true := by
        induction i using WellFoundedLT.induction with
        | _ i before =>
          by_contra idle
          obtain ⟨other, below, free⟩ := none i (Bool.eq_false_iff.mpr idle)
          exact free (before other below)
      apply started
      have all := @loopStarts_skip env s (List.finRange maxAnchors) []
        (List.nodup_finRange maxAnchors) fun i _ => busy i
      rw [List.append_nil] at all
      exact all
    obtain ⟨sender, idle, busy⟩ := someIdle
    obtain ⟨priority, idx, top, waits, least, valid⟩ :=
      (first idle busy).mp started
    exact ⟨sender, priority, idx, ⟨idle, busy⟩, top, waits, least, valid⟩
  · rintro ⟨sender, priority, idx, ⟨idle, busy⟩, top, waits, least, valid⟩
    exact (first idle busy).mpr ⟨priority, idx, top, waits, least, valid⟩

/-- With exact counters, a tick of an anchor or a sensor starts transfers for
pending reports of the highest priority only; where a sender is idle and a
report waits, it starts one exactly if the highest priority in use has one. -/
theorem senderTick_serves
    (role : env.deviceType = .anchor ∨ env.deviceType = .sensor)
    (exact_ : s.Exact) :
    (s.senderTick env).io.out =
        s.io.out ++ (s.tickStarts env).map (Start.announced env) ∧
      (∀ start ∈ s.tickStarts env, start.moment.Pending start.slot ∧
        ∀ other, start.moment.Pending other →
          (start.moment.slots start.slot).priority ≤
            (start.moment.slots other).priority) ∧
        ((WorkLeft env s → s.tickStarts env ≠ []) ↔
          (WorkLeft env s → Serves env s)) := by
  refine ⟨senderTick_out role s, fun start started => ?_, ?_⟩
  · obtain ⟨unmoved, pending, selected⟩ := loopStarts_moment started
    have top := (pendingPriority_iff (unmoved.exact exact_)).mp selected
    exact ⟨pending, fun other waits => top.2.2 other waits.1⟩
  · exact imp_congr_right fun _ => tickStarts_iff exact_

theorem exact_of_counts
    (high : s.highPrioCount.toNat = s.prioSlots packetPriorityHigh)
    (medium : s.medPrioCount.toNat = s.prioSlots packetPriorityMedium)
    (low : s.lowPrioCount.toNat = s.prioSlots packetPriorityLow) :
    s.Exact := by
  intro priority counted
  have classes : priority = packetPriorityHigh ∨
      priority = packetPriorityMedium ∨ priority = packetPriorityLow := by
    simpa [countedPriority] using counted
  rcases classes with rfl | rfl | rfl
  · exact high
  · exact medium
  · exact low

/-- `AT#REPORT` for the one-byte report `08` with id 2 and medium priority. -/
def mediumReport : List Char :=
  "\"A\",\"2\",\"1\",\"1\",\"DCD967BF\",\"08\"".toList

theorem senderTick_serves_medium :
    Trace.Ends reportStep (.boot {}) [(sampleSensor, .cmdReport mediumReport)]
      fun s =>
        (s.senderTick sampleSensor).io.out =
          s.io.out ++
            (s.tickStarts sampleSensor).map (Start.announced sampleSensor) := by
  obtain ⟨s, executed, high, medium, low⟩ :
      Trace.Ends reportStep (.boot {})
        [(sampleSensor, .cmdReport mediumReport)] fun s =>
          s.highPrioCount.toNat = s.prioSlots packetPriorityHigh ∧
            s.medPrioCount.toNat = s.prioSlots packetPriorityMedium ∧
              s.lowPrioCount.toNat = s.prioSlots packetPriorityLow := by
    decide +kernel
  have served := @senderTick_serves sampleSensor s (.inr rfl)
    (exact_of_counts high medium low)
  exact ⟨s, executed, served.1⟩

/-- While a report of high priority is in flight, a tick with seven idle
senders does not start the one of medium priority. -/
theorem senderTick_blocked :
    Trace.Ends reportStep (.boot {})
      [(sampleSensor, .cmdReport firstReport), (sampleSensor, .tick),
        (sampleSensor, .cmdReport mediumReport)] fun s =>
          s.Exact ∧ WorkLeft sampleSensor s ∧
            s.tickStarts sampleSensor = [] := by
  obtain ⟨s, executed, high, medium, low, waits, none⟩ :
      Trace.Ends reportStep (.boot {})
        [(sampleSensor, .cmdReport firstReport), (sampleSensor, .tick),
          (sampleSensor, .cmdReport mediumReport)] fun s =>
            s.highPrioCount.toNat = s.prioSlots packetPriorityHigh ∧
              s.medPrioCount.toNat = s.prioSlots packetPriorityMedium ∧
                s.lowPrioCount.toNat = s.prioSlots packetPriorityLow ∧
                  WorkLeft sampleSensor s ∧
                    (s.tickStarts sampleSensor).isEmpty = true := by
    decide +kernel
  exact ⟨s, executed, exact_of_counts high medium low, waits,
    List.isEmpty_iff.mp none⟩

end Serving

end ReportPlane

end DectMesh
