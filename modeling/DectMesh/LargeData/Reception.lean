import DectMesh.LargeData.Pages

/-!
# The busy flag of the receiver

On a gateway or an anchor `ld_busy` says whether a blob is being received, as
long as it is not cleared for an own transfer, and the tables are not
initialised again, while it is set.
-/

namespace DectMesh

namespace LdPlane

variable (s : LdPlane)

/-- A blob is being received into the slot. -/
def Receiving (idx : Fin ldReceiverSlotCount) : Prop :=
  (s.slots idx).active = true ∧ (s.slots idx).upstreamReady = false

/-- The event does not clear, or keep, the flag for the wrong reason. -/
def KeepsBusy (env : Env) : LdEvent → Prop
  | .restart => s.ldBusy = false
  | .largeDataInitAck pkt _ => LdAcknowledged env s pkt → s.ldBusy = false
  | _ => True

end LdPlane

/-- The flag is exact, and the slots in use have different keys. -/
structure LdReception (s : LdPlane) : Prop where
  keys :
    ∀ left right, (s.slots left).active = true →
      (s.slots right).active = true →
        (s.slots left).genDeviceId = (s.slots right).genDeviceId →
          (s.slots left).dataId = (s.slots right).dataId → left = right
  single :
    ∀ left right, s.Receiving left → s.Receiving right → left = right
  busy : s.ldBusy = true ↔ ∃ idx, s.Receiving idx

section Steps

variable {env : Env} {event : LdEvent} {s s' : LdPlane}

/-- The invariant reads four fields of every slot. -/
theorem LdReception.congr
    (reception : LdReception s)
    (slots : ∀ idx,
      (s'.slots idx).active = (s.slots idx).active ∧
        (s'.slots idx).upstreamReady = (s.slots idx).upstreamReady ∧
          (s'.slots idx).genDeviceId = (s.slots idx).genDeviceId ∧
            (s'.slots idx).dataId = (s.slots idx).dataId)
    (busy : s'.ldBusy = s.ldBusy) : LdReception s' := by
  have receiving (idx : Fin ldReceiverSlotCount) :
      s'.Receiving idx ↔ s.Receiving idx := by
    obtain ⟨active, ready, _⟩ := slots idx
    unfold LdPlane.Receiving
    rw [active, ready]
  constructor
  · intro left right
    obtain ⟨leftActive, _, leftGen, leftId⟩ := slots left
    obtain ⟨rightActive, _, rightGen, rightId⟩ := slots right
    rw [leftActive, leftGen, leftId, rightActive, rightGen, rightId]
    exact reception.keys left right
  · intro left right leftOpen rightOpen
    exact reception.single left right ((receiving left).mp leftOpen)
      ((receiving right).mp rightOpen)
  · rw [busy, reception.busy]
    exact exists_congr fun idx => (receiving idx).symm

/-- Progress flags are not part of it. -/
theorem LdReception.quiet
    (reception : LdReception s) (same : SameStore s s') :
    LdReception s' := by
  apply reception.congr _ same.busy
  intro idx
  have content := same.slots idx
  have active := congrArg LdSlot.active content
  have ready := congrArg LdSlot.upstreamReady content
  have gen := congrArg LdSlot.genDeviceId content
  have id := congrArg LdSlot.dataId content
  exact ⟨active, ready, gen, id⟩

/-- An idle receiver. -/
theorem LdReception.idle
    (reception : LdReception s) (notBusy : s.ldBusy = false)
    (idx : Fin ldReceiverSlotCount) : ¬ s.Receiving idx := by
  intro open_
  have busy := reception.busy.mpr ⟨idx, open_⟩
  rw [notBusy] at busy
  cases busy

/-- One slot changed, and its key is its own. -/
theorem LdReception.update
    {idx : Fin ldReceiverSlotCount} {slot : LdSlot}
    (reception : LdReception s)
    (slots : s'.slots = Function.update s.slots idx slot)
    (key : slot.active = true → ∀ other, other ≠ idx →
      (s.slots other).active = true →
        (s.slots other).genDeviceId = slot.genDeviceId →
          (s.slots other).dataId ≠ slot.dataId)
    (single : slot.active = true → slot.upstreamReady = false →
      ∀ other, other ≠ idx → ¬ s.Receiving other)
    (busy : s'.ldBusy = true ↔
      (slot.active = true ∧ slot.upstreamReady = false) ∨
        ∃ other, other ≠ idx ∧ s.Receiving other) :
    LdReception s' := by
  have here : s'.Receiving idx ↔
      slot.active = true ∧ slot.upstreamReady = false := by
    unfold LdPlane.Receiving
    rw [slots, Function.update_self]
  have elsewhere (other : Fin ldReceiverSlotCount) (different : other ≠ idx) :
      s'.Receiving other ↔ s.Receiving other := by
    unfold LdPlane.Receiving
    rw [slots, Function.update_of_ne different]
  constructor
  · intro left right leftActive rightActive gen id
    rw [slots] at leftActive rightActive gen id
    by_cases leftHere : left = idx
    · by_cases rightHere : right = idx
      · rw [leftHere, rightHere]
      · subst leftHere
        rw [Function.update_self] at leftActive gen id
        rw [Function.update_of_ne rightHere] at rightActive gen id
        exact absurd id.symm (key leftActive right rightHere rightActive
          gen.symm)
    · rw [Function.update_of_ne leftHere] at leftActive gen id
      by_cases rightHere : right = idx
      · subst rightHere
        rw [Function.update_self] at rightActive gen id
        exact absurd id (key rightActive left leftHere leftActive gen)
      · rw [Function.update_of_ne rightHere] at rightActive gen id
        exact reception.keys left right leftActive rightActive gen id
  · intro left right leftOpen rightOpen
    by_cases leftHere : left = idx
    · by_cases rightHere : right = idx
      · rw [leftHere, rightHere]
      · rw [leftHere, here] at leftOpen
        rw [elsewhere right rightHere] at rightOpen
        exact absurd rightOpen (single leftOpen.1 leftOpen.2 right rightHere)
    · rw [elsewhere left leftHere] at leftOpen
      by_cases rightHere : right = idx
      · rw [rightHere, here] at rightOpen
        exact absurd leftOpen (single rightOpen.1 rightOpen.2 left leftHere)
      · rw [elsewhere right rightHere] at rightOpen
        exact reception.single left right leftOpen rightOpen
  · rw [busy]
    constructor
    · rintro (now | ⟨other, different, open_⟩)
      · exact ⟨idx, here.mpr now⟩
      · exact ⟨other, (elsewhere other different).mpr open_⟩
    · rintro ⟨other, open_⟩
      by_cases same : other = idx
      · rw [same] at open_
        exact .inl (here.mp open_)
      · exact .inr ⟨other, same, (elsewhere other same).mp open_⟩

/-- A chunk is stored into the slot that is being received. -/
theorem LdStorableChunk.receiving
    {crc : Checksum} {idx : Fin ldReceiverSlotCount}
    {bit : Fin ldBitmapBits} {pkt : LargeDataChunk}
    (storable : LdStorableChunk s idx bit pkt)
    (integrity : LdIntegrity crc s) : s.Receiving idx :=
  ⟨storable.active,
    storable.notReady (integrity.slots idx storable.active)⟩

/-- Every move of a gateway or an anchor other than the two clearing ones
keeps the flag exact. -/
theorem LdMove.keepsReception
    (move : LdMove env event s s') (role : env.deviceType ≠ .sensor)
    (integrity : LdIntegrity env.crc s) (reception : LdReception s)
    (noRestart : event ≠ .restart)
    (noAck : ∀ pkt srcId, event ≠ .largeDataInitAck pkt srcId) :
    LdReception s' := by
  cases move with
  | quiet same => exact reception.quiet same
  | acknowledged received complete same =>
      exact absurd received (noAck _ _)
  | @freed idx senderIdx ticked active ready reason =>
      obtain ⟨other, otherActive, otherReady, gen, id⟩ := ready
      have same := reception.keys other idx otherActive active gen id
      subst same
      have closed : ¬ s.Receiving other := by
        rintro ⟨_, notReady⟩
        rw [otherReady] at notReady
        cases notReady
      refine reception.update (freeLargeDataSlot_slots _ _ _) ?_ ?_ ?_
      · simp [LdSlot.freed]
      · simp [LdSlot.freed]
      · have busy :
            (s.freeLargeDataSlot other senderIdx).ldBusy = s.ldBusy := by
          unfold LdPlane.freeLargeDataSlot
          dsimp only
          split <;> rfl
        rw [busy, reception.busy]
        constructor
        · rintro ⟨left, open_⟩
          refine .inr ⟨left, ?_, open_⟩
          rintro rfl
          exact closed open_
        · rintro (⟨freed, _⟩ | ⟨left, _, open_⟩)
          · cases freed
          · exact ⟨left, open_⟩
  | @accepted idx range pkt init idle missing free fits =>
      have closed := reception.idle idle
      refine reception.update rfl ?_ ?_ ?_
      · intro _ other different active gen
        exact LdPlane.findLargeDataSlot_none missing other active gen
      · exact fun _ _ other _ => closed other
      · simp [LdPlane.acceptedSlot]
  | storeFailed receiver received storable mem =>
      exact { reception with }
  | @stored idx bit pkt io srcId receiver received storable mem partly =>
      have open_ := storable.receiving integrity
      refine reception.update rfl ?_ ?_ ?_
      · intro _ other different active gen id
        exact different (reception.keys other idx active open_.1 gen id)
      · intro _ _ other different otherOpen
        exact different (reception.single other idx otherOpen open_)
      · refine iff_of_true ?_ (.inl open_)
        exact reception.busy.mpr ⟨idx, open_⟩
  | @completed idx bit pkt io srcId receiver received storable mem full
      checksum =>
      have open_ := storable.receiving integrity
      refine reception.update rfl ?_ ?_ ?_
      · intro _ other different active gen id
        exact different (reception.keys other idx active open_.1 gen id)
      · simp [LdPlane.readySlot]
      · refine iff_of_false (by simp) ?_
        rintro (⟨_, closed⟩ | ⟨other, different, otherOpen⟩)
        · cases closed
        · exact different (reception.single other idx otherOpen open_)
  | @rejected idx bit pkt io srcId receiver received storable mem full =>
      have open_ := storable.receiving integrity
      refine reception.update
        ((freeLargeDataSlot_slots _ _ _).trans (Function.update_idem _ _ _))
        ?_ ?_ ?_
      · simp [LdSlot.freed]
      · simp [LdSlot.freed]
      · refine iff_of_false (by simp) ?_
        rintro (⟨freed, _⟩ | ⟨other, different, otherOpen⟩)
        · cases freed
        · exact different (reception.single other idx otherOpen open_)
  | hostAllocated accepted => exact absurd accepted.role role
  | hostLost stageable | hostStored stageable | hostCompleted stageable
  | hostRejected stageable => exact absurd stageable.role role
  | restarted restart => exact absurd restart noRestart
  | elsewhere other slots pages busy region =>
      apply reception.congr _ busy
      intro idx
      rw [slots]
      exact ⟨rfl, rfl, rfl, rfl⟩

theorem LdMoves.keepsReception
    (moves : LdMoves env event s s') (role : env.deviceType ≠ .sensor)
    (noRestart : event ≠ .restart)
    (noAck : ∀ pkt srcId, event ≠ .largeDataInitAck pkt srcId)
    (integrity : LdIntegrity env.crc s) (reception : LdReception s) :
    LdReception s' := by
  have both : LdIntegrity env.crc s' ∧ LdReception s' := by
    induction moves with
    | refl => exact ⟨integrity, reception⟩
    | tail _ move before =>
        exact ⟨move.keepsIntegrity role before.1,
          move.keepsReception role before.1 before.2 noRestart noAck⟩
  exact both.2

/-- The recovery closes the one reception there may be. -/
theorem LdReception.restarted (idle : s.ldBusy = false) :
    LdReception s.largeDataInit where
  keys := by
    intro left right active
    cases active
  single := by
    intro left right leftOpen
    cases leftOpen.1
  busy := by
    refine iff_of_false ?_ ?_
    · simp [LdPlane.largeDataInit, idle]
    · rintro ⟨idx, open_⟩
      cases open_.1

/-- An event that respects the flag keeps it exact. -/
theorem LdPlane.step_keepsReception
    (role : env.deviceType ≠ .sensor) (allowed : s.Elsewhere event)
    (keeps : s.KeepsBusy env event)
    (integrity : LdIntegrity env.crc s) (reception : LdReception s)
    (stepped : s.step env event = .ok s') : LdReception s' := by
  have cleared : LdIntegrity env.crc s.clearOut :=
    ⟨{ integrity.allocated with }, integrity.slots⟩
  have quietly : LdReception s.clearOut := { reception with }
  by_cases restart : event = .restart
  · subst restart
    cases stepped
    exact LdReception.restarted keeps
  · by_cases ack : ∃ pkt srcId, event = .largeDataInitAck pkt srcId
    · obtain ⟨pkt, srcId, rfl⟩ := ack
      rcases LdPlane.handleLargeDataInitAck_outcome stepped with
        same | ⟨complete, same⟩
      · exact quietly.quiet same
      · have idle : s.ldBusy = false := keeps { complete with
          sender := by
            have sender := complete.sender
            unfold LdPlane.findSenderSlot at sender ⊢
            exact sender
          slot := by
            have slot := complete.slot
            unfold LdPlane.findLargeDataSlot at slot ⊢
            exact slot }
        have already : LdReception { s.clearOut with ldBusy := false } :=
          { quietly with
            busy := by
              rw [← idle]
              exact reception.busy }
        exact already.quiet same
    · refine (LdPlane.step_moves allowed stepped).keepsReception role restart
        ?_ cleared quietly
      exact fun pkt srcId received => ack ⟨pkt, srcId, received⟩

end Steps

section Runs

/-- The events of a board that leave the flag alone while it is set. -/
def LdKeepsBusy (board : Board) (s : LdPlane) (event : Env × LdEvent) : Prop :=
  LdOnBoard board s event ∧ s.KeepsBusy event.1 event.2

theorem reach_reception
    {board : Board} {io : Io} {s : LdPlane}
    (role : board.deviceType = .gateway ∨ board.deviceType = .anchor)
    (reach : Trace.Reach ldStep (LdKeepsBusy board) (.boot io) s) :
    LdReception s := by
  have both : LdIntegrity board.crc s ∧ LdReception s := by
    apply reach.invariant
    · refine ⟨reach_integrity role .refl, ?_⟩
      exact @LdReception.restarted (LdPlane.boot io) rfl
    · rintro before ⟨env, event⟩ after ⟨integrity, reception⟩
        ⟨⟨rfl, allowed⟩, keeps⟩ stepped
      have notSensor : env.deviceType ≠ .sensor := by
        rcases role with gateway | anchor
        · exact fun sensor => absurd (gateway.symm.trans sensor) (by decide)
        · exact fun sensor => absurd (anchor.symm.trans sensor) (by decide)
      have cleared : LdIntegrity env.crc before.clearOut :=
        ⟨{ integrity.allocated with }, integrity.slots⟩
      exact ⟨(LdPlane.step_moves allowed stepped).keepsIntegrity notSensor
          cleared,
        LdPlane.step_keepsReception notSensor allowed keeps integrity
          reception stepped⟩
  exact both.2

/-- In every run of a gateway or an anchor that restarts the plane, and takes
the end of an own transfer, only while nothing is being received: the flag is
set exactly while a slot is being received into, there is at most one such
slot, and without one no announcement is answered `STATUS_BUSY`. -/
theorem ldBusy_exact
    {board : Board} {io : Io} {s : LdPlane}
    (role : board.deviceType = .gateway ∨ board.deviceType = .anchor)
    (reach : Trace.Reach ldStep (LdKeepsBusy board) (.boot io) s) :
    (s.ldBusy = true ↔
        ∃ idx, (s.slots idx).active = true ∧
          (s.slots idx).upstreamReady = false) ∧
      (∀ left right,
        (s.slots left).active = true → (s.slots left).upstreamReady = false →
          (s.slots right).active = true →
            (s.slots right).upstreamReady = false → left = right) ∧
      ∀ env pkt,
        (∀ idx, (s.slots idx).active = true →
          (s.slots idx).upstreamReady = true) →
            (s.validateLargeDataSlot env pkt).2 ≠ statusBusy := by
  have reception := reach_reception role reach
  refine ⟨reception.busy, ?_, ?_⟩
  · intro left right leftActive leftOpen rightActive rightOpen
    exact reception.single left right ⟨leftActive, leftOpen⟩
      ⟨rightActive, rightOpen⟩
  · intro env pkt idle
    have notBusy : s.ldBusy = false := by
      by_contra busy
      obtain ⟨idx, active, notReady⟩ :=
        reception.busy.mp (by simpa using busy)
      rw [idle idx active] at notReady
      cases notReady
    obtain ⟨after, status, validated⟩ : ∃ after status,
        s.validateLargeDataSlot env pkt = (after, status) := ⟨_, _, rfl⟩
    rw [validated]
    cases LdPlane.validateLargeDataSlot_validated validated with
    | busy busy => simp [busy] at notBusy
    | complete => exact (by decide : statusComplete ≠ statusBusy)
    | known => exact (by decide : statusAlreadyExists ≠ statusBusy)
    | full => exact (by decide : statusResourceUnavailable ≠ statusBusy)
    | taken => exact (by decide : statusSuccess ≠ statusBusy)

end Runs

section Samples

/-- After the start no blob is expected. -/
example : (LdPlane.boot {}).ldBusy = false := by
  decide +kernel

/-- The flag while the one-byte blob is expected. -/
theorem ldBusy_exact_oneByte :
    Trace.Ends ldStep (.boot {}) [(ldGateway, ldSampleInit)]
      fun s =>
        s.ldBusy = true ∧
          ∃ idx, (s.slots idx).active = true ∧
            (s.slots idx).upstreamReady = false := by
  obtain ⟨s, executed, busy⟩ :
      Trace.Ends ldStep (.boot {}) [(ldGateway, ldSampleInit)]
        fun s => s.ldBusy = true := by
    decide +kernel
  have admitted :
      ∀ event ∈ [(ldGateway, ldSampleInit)],
        ∀ before, LdKeepsBusy ldGateway.toBoard before event := by
    intro event member before
    rw [List.mem_singleton] at member
    subst member
    exact ⟨⟨rfl, trivial⟩, trivial⟩
  have exact_ := (ldBusy_exact (.inl rfl) (.of_run admitted executed)).1
  exact ⟨s, executed, busy, exact_.mp busy⟩

/-- An anchor with address 2 below gateway 1. -/
def ldAnchor : Env :=
  { deviceType := .anchor, deviceId := 2, crc := Checksum.crc32Ieee
    infraDevices := fun _ =>
      { deviceType := DeviceType.gateway.code, deviceId := 1 }
    infraCount := 1 }

/-- Sensor `sensorId` announces the one-byte blob `07` to `dstId`. -/
def ldAnnounce (dstId sensorId : UInt16) : LdEvent :=
  .largeDataInit
    { hdr := { deviceType := 3, deviceId := dstId }
      genDeviceId := sensorId, dataId := 1, reportTimeMs := 0, totalSize := 1
      pageCount := 1, lastChunkSize := 1, crc32 := 0x4C667A2E } sensorId

/-- The gateway already holds the blob of sensor 5. -/
def ldSampleComplete : LdEvent :=
  .largeDataInitAck
    { hdr := { deviceType := 1, deviceId := 2, status := statusComplete }
      genDeviceId := 5, dataId := 1 } 1

/-- The recovery of a gateway leaves the flag set without a reception, and
the end of an anchor's own transfer clears it during one: the next
announcement opens a second. -/
theorem ldBusy_drifts :
    Trace.Ends ldStep (.boot {})
        [(ldGateway, ldSampleInit), (ldGateway, .restart)]
        (fun s =>
          s.ldBusy = true ∧ ∀ idx, (s.slots idx).active = false) ∧
      Trace.Ends ldStep (.boot {})
        [(ldAnchor, ldAnnounce 2 5),
          (ldAnchor, .largeDataChunk
            { hdr := { deviceType := 3, deviceId := 2 }
              genDeviceId := 5, dataId := 1, pageIndex := 0, chunkIndex := 0
              data := Buffer.ofData sendLargeDataMax [7] } 5),
          (ldAnchor, .tick), (ldAnchor, ldAnnounce 2 6),
          (ldAnchor, ldSampleComplete), (ldAnchor, ldAnnounce 2 7)]
        fun s =>
          (s.slots ⟨1, by decide⟩).active = true ∧
            (s.slots ⟨1, by decide⟩).upstreamReady = false ∧
              (s.slots ⟨2, by decide⟩).active = true ∧
                (s.slots ⟨2, by decide⟩).upstreamReady = false := by
  constructor
  · decide +kernel
  · decide +kernel

end Samples

end DectMesh
