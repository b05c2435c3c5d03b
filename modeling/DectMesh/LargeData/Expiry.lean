import DectMesh.LargeData.Reception

/-!
# Slots of abandoned transfers

Every slot that is being received into carries an idle timeout, which each
chunk starts again.  No tick of `large_data.c` looks at it, unlike the ticks of
`data.c`: a transfer whose sender is gone keeps its slot, its pages and the
busy flag.
-/

namespace DectMesh

namespace LdPlane

/-- The slots in use have different keys. -/
def Keyed (s : LdPlane) : Prop :=
  ∀ left right, (s.slots left).active = true →
    (s.slots right).active = true →
      (s.slots left).genDeviceId = (s.slots right).genDeviceId →
        (s.slots left).dataId = (s.slots right).dataId → left = right

/-- What a tick owes the slots that are being received into: none of them is
due afterwards, and one that was due has given back its pages and, on a
receiver of blobs, the busy flag. -/
structure Reclaims (env : Env) (s s' : LdPlane) : Prop where
  none : ∀ idx, s'.Receiving idx →
    (s'.slots idx).idleTimeout.expired env.now = false
  freed : ∀ idx, s.Receiving idx →
    (s.slots idx).idleTimeout.expired env.now = true →
      (∀ page : Fin ldMaxPageCount, (s.slots idx).pages.Covers page.val →
        s'.isLdSlotEmpty page = true) ∧
      (env.deviceType = .gateway ∨ env.deviceType = .anchor →
        s'.ldBusy = false)

/-- What a tick leaves as it is. -/
structure Waits (s s' : LdPlane) : Prop where
  receiving : ∀ idx, s.Receiving idx →
    (s'.slots idx).content = (s.slots idx).content
  active : ∀ idx, (s'.slots idx).active = true →
    (s'.slots idx).content = (s.slots idx).content
  busy : s'.ldBusy = s.ldBusy

section Keys

variable {s s' : LdPlane} {idx : Fin ldReceiverSlotCount} {slot : LdSlot}

/-- Only the key and the use of a slot matter. -/
theorem Keyed.congr (keyed : s.Keyed)
    (same : ∀ idx, (s'.slots idx).content = (s.slots idx).content) :
    s'.Keyed := by
  have active (idx : Fin ldReceiverSlotCount) :
      (s'.slots idx).active = (s.slots idx).active :=
    (congrArg LdSlot.active (same idx) :)
  have gen (idx : Fin ldReceiverSlotCount) :
      (s'.slots idx).genDeviceId = (s.slots idx).genDeviceId :=
    (congrArg LdSlot.genDeviceId (same idx) :)
  have id (idx : Fin ldReceiverSlotCount) :
      (s'.slots idx).dataId = (s.slots idx).dataId :=
    (congrArg LdSlot.dataId (same idx) :)
  intro left right
  rw [active, active, gen, gen, id, id]
  exact keyed left right

/-- One slot changed, and its key is its own. -/
theorem Keyed.update (keyed : s.Keyed)
    (slots : s'.slots = Function.update s.slots idx slot)
    (fresh : slot.active = true → ∀ other, other ≠ idx →
      (s.slots other).active = true →
        (s.slots other).genDeviceId = slot.genDeviceId →
          (s.slots other).dataId ≠ slot.dataId) : s'.Keyed := by
  intro left right leftActive rightActive gen id
  rw [slots] at leftActive rightActive gen id
  by_cases leftHere : left = idx
  · by_cases rightHere : right = idx
    · rw [leftHere, rightHere]
    · rw [leftHere, Function.update_self] at leftActive gen id
      rw [Function.update_of_ne rightHere] at rightActive gen id
      exact absurd id.symm
        (fresh leftActive right rightHere rightActive gen.symm)
  · rw [Function.update_of_ne leftHere] at leftActive gen id
    by_cases rightHere : right = idx
    · rw [rightHere, Function.update_self] at rightActive gen id
      exact absurd id (fresh rightActive left leftHere leftActive gen)
    · rw [Function.update_of_ne rightHere] at rightActive gen id
      exact keyed left right leftActive rightActive gen id

/-- One slot changed and kept its key, or is no longer in use. -/
theorem Keyed.keep (keyed : s.Keyed)
    (slots : s'.slots = Function.update s.slots idx slot)
    (same : slot.active = true → (s.slots idx).active = true ∧
      slot.genDeviceId = (s.slots idx).genDeviceId ∧
        slot.dataId = (s.slots idx).dataId) : s'.Keyed := by
  refine keyed.update slots fun active other different used gen id => ?_
  obtain ⟨before, sameGen, sameId⟩ := same active
  exact different (keyed other idx used before (gen.trans sameGen)
    (id.trans sameId))

end Keys

end LdPlane

section Steps

variable {env : Env} {event : LdEvent} {s s' : LdPlane}

/-- A slot is only allocated for a key that is not in use. -/
theorem LdMove.keepsKeyed (move : LdMove env event s s') (keyed : s.Keyed) :
    s'.Keyed := by
  cases move with
  | quiet same => exact keyed.congr same.slots
  | acknowledged received complete same => exact keyed.congr same.slots
  | freed ticked active ready reason =>
      exact keyed.keep (freeLargeDataSlot_slots _ _ _) (by simp [LdSlot.freed])
  | accepted init idle missing free fits =>
      exact keyed.update rfl fun _ other _ used gen =>
        LdPlane.findLargeDataSlot_none missing other used gen
  | storeFailed => exact keyed
  | stored receiver received storable =>
      exact keyed.keep rfl fun _ => ⟨storable.active, rfl, rfl⟩
  | completed receiver received storable =>
      exact keyed.keep rfl fun _ => ⟨storable.active, rfl, rfl⟩
  | rejected =>
      refine keyed.keep
        ((freeLargeDataSlot_slots _ _ _).trans (Function.update_idem _ _ _)) ?_
      simp [LdSlot.freed]
  | hostAllocated accepted missing free fits =>
      exact keyed.update rfl fun _ other _ used gen =>
        LdPlane.findLargeDataSlot_none missing other used gen
  | hostLost =>
      exact keyed.keep (freeLargeDataSlot_slots _ _ _) (by simp [LdSlot.freed])
  | hostStored stageable =>
      exact keyed.keep rfl fun _ => ⟨stageable.active, rfl, rfl⟩
  | hostCompleted stageable =>
      exact keyed.keep rfl fun _ => ⟨stageable.active, rfl, rfl⟩
  | hostRejected =>
      refine keyed.keep
        ((freeLargeDataSlot_slots _ _ _).trans (Function.update_idem _ _ _)) ?_
      simp [LdSlot.freed]
  | restarted =>
      intro left right active
      cases active
  | elsewhere other slots =>
      intro left right
      rw [slots]
      exact keyed left right

theorem LdMoves.keepsKeyed (moves : LdMoves env event s s')
    (keyed : s.Keyed) : s'.Keyed := by
  induction moves with
  | refl => exact keyed
  | tail _ move before => exact move.keepsKeyed before

/-- In every run of every board. -/
theorem reach_keyed {board : Board} {io : Io}
    (reach : Trace.Reach ldStep (LdOnBoard board) (.boot io) s) :
    s.Keyed := by
  apply reach.invariant
  · intro left right active
    cases active
  · intro before event after keyed admitted stepped
    exact (LdPlane.step_moves admitted.2 stepped).keepsKeyed keyed

end Steps

section Ticks

variable {env : Env} {s s' s'' : LdPlane}

namespace LdPlane

theorem Waits.refl (s : LdPlane) : Waits s s :=
  ⟨fun _ _ => rfl, fun _ _ => rfl, rfl⟩

theorem receiving_of_content {idx : Fin ldReceiverSlotCount}
    (same : (s'.slots idx).content = (s.slots idx).content) :
    s'.Receiving idx ↔ s.Receiving idx := by
  have active : (s'.slots idx).active = (s.slots idx).active :=
    (congrArg LdSlot.active same :)
  have ready : (s'.slots idx).upstreamReady = (s.slots idx).upstreamReady :=
    (congrArg LdSlot.upstreamReady same :)
  unfold Receiving
  rw [active, ready]

theorem Waits.trans (first : Waits s s') (second : Waits s' s'') :
    Waits s s'' where
  receiving := by
    intro idx open_
    have same := first.receiving idx open_
    exact (second.receiving idx ((receiving_of_content same).mpr open_)).trans
      same
  active := by
    intro idx active
    have same := second.active idx active
    have before : (s'.slots idx).active = true :=
      (congrArg LdSlot.active same :).symm.trans active
    exact same.trans (first.active idx before)
  busy := second.busy.trans first.busy

theorem Waits.ofSame (same : SameStore s s') : Waits s s' :=
  ⟨fun idx _ => same.slots idx, fun idx _ => same.slots idx, same.busy⟩

end LdPlane

/-- A tick frees slots that are ready to be sent, and no others. -/
theorem LdMove.waits (move : LdMove env .tick s s') (keyed : s.Keyed) :
    s.Waits s' := by
  cases move with
  | quiet same => exact .ofSame same
  | acknowledged received => cases received
  | @freed idx senderIdx ticked active ready reason =>
      obtain ⟨other, otherActive, otherReady, gen, id⟩ := ready
      have same := keyed other idx otherActive active gen id
      subst same
      refine ⟨fun left open_ => ?_, fun left used => ?_, ?_⟩
      · have different : left ≠ other := by
          rintro rfl
          rw [open_.2] at otherReady
          cases otherReady
        rw [freeLargeDataSlot_slots, Function.update_of_ne different]
      · have different : left ≠ other := by
          rintro rfl
          rw [freeLargeDataSlot_slots, Function.update_self] at used
          cases used
        rw [freeLargeDataSlot_slots, Function.update_of_ne different]
      · unfold LdPlane.freeLargeDataSlot
        dsimp only
        split <;> rfl
  | accepted init =>
      obtain ⟨_, received⟩ := init.received
      cases received
  | storeFailed _ received | stored _ received | completed _ received
  | rejected _ received => cases received
  | hostAllocated accepted =>
      obtain ⟨_, received, _⟩ := accepted.received
      cases received
  | hostLost stageable | hostStored stageable | hostCompleted stageable
  | hostRejected stageable =>
      obtain ⟨_, received⟩ := stageable.received
      cases received
  | restarted restart => cases restart
  | elsewhere other => cases other

theorem LdMoves.waits (moves : LdMoves env .tick s s') (keyed : s.Keyed) :
    s.Waits s' := by
  have both : s'.Keyed ∧ s.Waits s' := by
    induction moves with
    | refl => exact ⟨keyed, .refl s⟩
    | tail _ move before =>
        exact ⟨move.keepsKeyed before.1,
          before.2.trans (move.waits before.1)⟩
  exact both.2

namespace LdPlane

theorem tick_waits (keyed : s.Keyed) (stepped : s.step env .tick = .ok s') :
    s.Waits s' := by
  have allowed : s.Elsewhere .tick := trivial
  have moves := step_moves allowed stepped
  have cleared : s.clearOut.Keyed := keyed
  have waits : s.clearOut.Waits s' := moves.waits cleared
  exact ⟨waits.receiving, waits.active, waits.busy⟩

/-- A tick reclaims what is due only where nothing is. -/
theorem reclaims_iff (waits : s.Waits s') :
    Reclaims env s s' ↔ ∀ idx, s.Receiving idx →
      (s.slots idx).idleTimeout.expired env.now = false := by
  have timer {idx : Fin ldReceiverSlotCount}
      (same : (s'.slots idx).content = (s.slots idx).content) :
      (s'.slots idx).idleTimeout = (s.slots idx).idleTimeout :=
    (congrArg LdSlot.idleTimeout same :)
  constructor
  · intro reclaims idx open_
    have same := waits.receiving idx open_
    rw [← timer same]
    exact reclaims.none idx ((receiving_of_content same).mpr open_)
  · intro early
    constructor
    · intro idx open_
      have same := waits.active idx open_.1
      rw [timer same]
      exact early idx ((receiving_of_content same).mp open_)
    · intro idx open_ due
      rw [early idx open_] at due
      cases due

end LdPlane

end Ticks

section Runs

variable {board : Board} {io : Io} {s t : LdPlane}

/-- The ticks of one board. -/
def LdTicks (board : Board) (_ : LdPlane) (event : Env × LdEvent) : Prop :=
  event.1.toBoard = board ∧ event.2 = .tick

/-- In every state that a board reaches, a tick has reclaimed what is due if
and only if no slot that is being received into was due; and however many
ticks follow, such a slot stays, and the busy flag with it. -/
theorem ldTick_reclaims
    (reach : Trace.Reach ldStep (LdOnBoard board) (.boot io) s) :
    (∀ env s', env.toBoard = board → s.step env .tick = .ok s' →
      (LdPlane.Reclaims env s s' ↔ ∀ idx, s.Receiving idx →
        (s.slots idx).idleTimeout.expired env.now = false)) ∧
      (Trace.Reach ldStep (LdTicks board) s t →
        (∀ idx, s.Receiving idx → t.Receiving idx) ∧ t.ldBusy = s.ldBusy) := by
  have keyed := reach_keyed reach
  constructor
  · intro env s' _ stepped
    exact LdPlane.reclaims_iff (LdPlane.tick_waits keyed stepped)
  · intro ticks
    have both : t.Keyed ∧ s.Waits t := by
      apply ticks.invariant
      · exact ⟨keyed, .refl s⟩
      · rintro before ⟨env, event⟩ after ⟨keyed, waits⟩ ⟨-, ticked⟩ stepped
        dsimp only at ticked
        subst ticked
        have allowed : before.Elsewhere .tick := trivial
        exact ⟨(LdPlane.step_moves allowed stepped).keepsKeyed keyed,
          waits.trans (LdPlane.tick_waits keyed stepped)⟩
    refine ⟨fun idx open_ => ?_, both.2.busy⟩
    exact (LdPlane.receiving_of_content (both.2.receiving idx open_)).mpr open_

end Runs

section Samples

/-- The gateway of the other samples, `now` milliseconds after boot. -/
def ldGatewayAt (now : Nat) : Env := { ldGateway with now := now }

theorem ldTick_reclaims_early :
    Trace.Ends ldStep (.boot {}) [(ldGateway, ldSampleInit)] fun s =>
      ∃ s', s.step (ldGatewayAt 29999) .tick = .ok s' ∧
        LdPlane.Reclaims (ldGatewayAt 29999) s s' ∧
        s'.Receiving ⟨0, by decide⟩ := by
  obtain ⟨s, executed, early, ⟨s', ticked, -⟩, open_⟩ :
      Trace.Ends ldStep (.boot {}) [(ldGateway, ldSampleInit)] fun s =>
        (∀ idx, (s.slots idx).active = true ∧
          (s.slots idx).upstreamReady = false →
            (s.slots idx).idleTimeout.expired 29999 = false) ∧
          Trace.Ends ldStep s [(ldGatewayAt 29999, .tick)] (fun _ => True) ∧
          ((s.slots ⟨0, by decide⟩).active = true ∧
            (s.slots ⟨0, by decide⟩).upstreamReady = false) := by
    decide +kernel
  rw [Trace.run_single] at ticked
  have admitted : ∀ event ∈ [(ldGateway, ldSampleInit)],
      ∀ before, LdOnBoard ldGateway.toBoard before event := by
    intro event member before
    rw [List.mem_singleton] at member
    subst member
    exact ⟨rfl, trivial⟩
  have reach := Trace.Reach.of_run admitted executed
  have ticks : Trace.Reach ldStep (LdTicks ldGateway.toBoard) s s' :=
    .next .refl ⟨rfl, rfl⟩ ticked
  refine ⟨s, executed, s', ticked, ?_, ?_⟩
  · exact ((ldTick_reclaims (t := s) reach).1 (ldGatewayAt 29999) s' rfl
      ticked).mpr early
  · exact ((ldTick_reclaims reach).2 ticks).1 _ open_

/-- The sender disappears after its announcement; a minute later the slot is
still there, and the announcement of another sensor is answered
`STATUS_BUSY`. -/
theorem ldTick_abandoned :
    Trace.Ends ldStep (.boot {}) [(ldGateway, ldSampleInit)] (fun s =>
        ∃ s', s.step (ldGatewayAt 60000) .tick = .ok s' ∧
          ¬ LdPlane.Reclaims (ldGatewayAt 60000) s s') ∧
      Trace.Ends ldStep (.boot {})
        [(ldGateway, ldSampleInit), (ldGatewayAt 60000, .tick),
          (ldGatewayAt 60001, ldAnnounce 1 6)]
        fun s => s.io.out = [.reply (.largeDataInitAck
          { hdr := ldGateway.replyHeader statusBusy 6 packetPriorityHigh 0
            genDeviceId := 6, dataId := 1 })] := by
  refine ⟨?_, by decide +kernel⟩
  obtain ⟨s, executed, s', ticked, active, notReady, due⟩ :
      Trace.Ends ldStep (.boot {}) [(ldGateway, ldSampleInit)] fun s =>
        Trace.Ends ldStep s [(ldGatewayAt 60000, .tick)] fun s' =>
          (s'.slots ⟨0, by decide⟩).active = true ∧
            (s'.slots ⟨0, by decide⟩).upstreamReady = false ∧
            (s'.slots ⟨0, by decide⟩).idleTimeout.expired 60000 = true := by
    decide +kernel
  rw [Trace.run_single] at ticked
  refine ⟨s, executed, s', ticked, fun reclaims => ?_⟩
  have early := reclaims.none ⟨0, by decide⟩ ⟨active, notReady⟩
  exact Bool.noConfusion (early.symm.trans due)

end Samples

end DectMesh
