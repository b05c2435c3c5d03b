import DectMesh.LargeData.Service

/-!
# Ready slots stay as they are

A slot that is ready for the next hop is complete, so no chunk is stored in it
and the pages of a transfer do not change.
-/

namespace DectMesh

variable {env : Env} {event : LdEvent} {s s' : LdPlane}

/-- What a sensor has taken over from its host is complete. -/
def LdComplete (s : LdPlane) : Prop :=
  ∀ idx, (s.slots idx).active = true → (s.slots idx).upstreamReady = true →
    (s.slots idx).totalChunks.toNat ≤ ldBitmapBits ∧
      (s.slots idx).totalChunks.toNat ≤ (s.slots idx).receivedCount.toNat

theorem LdStageable.notReady {idx : Fin ldReceiverSlotCount} {linear : Nat}
    {payload : List UInt8} (complete : LdComplete s)
    (stageable : LdStageable env event s idx linear payload) :
    (s.slots idx).upstreamReady = false := by
  cases ready : (s.slots idx).upstreamReady with
  | false => rfl
  | true =>
      have received := (complete idx stageable.active ready).2
      have below := stageable.below
      have pending := stageable.pending
      omega

/-- A slot that is not ready replaces another. -/
theorem LdComplete.update {idx : Fin ldReceiverSlotCount} {slot : LdSlot}
    (complete : LdComplete s)
    (slots : s'.slots = Function.update s.slots idx slot)
    (filled : slot.active = true → slot.upstreamReady = true →
      slot.totalChunks.toNat ≤ ldBitmapBits ∧
        slot.totalChunks.toNat ≤ slot.receivedCount.toNat) :
    LdComplete s' := by
  intro other
  rw [slots]
  by_cases same : other = idx
  · rw [same, Function.update_self]
    exact filled
  · rw [Function.update_of_ne same]
    exact complete other

theorem LdComplete.congr (complete : LdComplete s)
    (same : ∀ idx, (s'.slots idx).content = (s.slots idx).content) :
    LdComplete s' := by
  intro idx active ready
  have active' := (congrArg LdSlot.active (same idx) :)
  have ready' := (congrArg LdSlot.upstreamReady (same idx) :)
  have total := (congrArg LdSlot.totalChunks (same idx) :)
  have received := (congrArg LdSlot.receivedCount (same idx) :)
  have here := complete idx (active'.symm.trans active)
    (ready'.symm.trans ready)
  simp only [LdSlot.content] at total received
  rw [total, received]
  exact here

/-- The radio chunks of a blob that was staged. -/
theorem stagedSlot_complete {slot : LdSlot}
    (size : slot.totalSize.toNat ≤ ldMaxTransferSize) :
    (LdPlane.stagedSlot slot).totalChunks.toNat ≤ ldBitmapBits ∧
      (LdPlane.stagedSlot slot).totalChunks.toNat ≤
        (LdPlane.stagedSlot slot).receivedCount.toNat := by
  have few := chunksOf_le size
  have bits : ldBitmapBits = 1144 := rfl
  have small : (UInt16.ofNat (chunksOf slot.totalSize ldChunkSize)).toNat =
      chunksOf slot.totalSize ldChunkSize :=
    UInt16.toNat_ofNat_of_lt' (by
      have size : UInt16.size = 65536 := rfl
      omega)
  refine ⟨?_, Nat.le_refl _⟩
  change (UInt16.ofNat (chunksOf slot.totalSize ldChunkSize)).toNat ≤ _
  rw [small]
  exact few

/-- On a sensor a blob that is complete stays so, and stays as it is unless a
tick gives it up. -/
theorem LdMove.keepsComplete (move : LdMove env event s s')
    (role : env.deviceType = .sensor) (allocated : LdAllocated s)
    (complete : LdComplete s) : LdComplete s' := by
  have foreign {P : Prop}
      (other : env.deviceType = .gateway ∨ env.deviceType = .anchor) : P := by
    rw [role] at other
    simp at other
  cases move with
  | quiet same => exact complete.congr same.slots
  | acknowledged received acknowledged same => exact complete.congr same.slots
  | freed ticked active ready reason =>
      exact complete.update (freeLargeDataSlot_slots _ _ _)
        fun active => by cases active
  | accepted init => exact foreign init.role
  | storeFailed role | stored role | completed role | rejected role =>
      exact foreign role
  | hostAllocated accepted =>
      exact complete.update rfl fun _ ready => by cases ready
  | hostLost stageable =>
      exact complete.update (freeLargeDataSlot_slots _ _ _)
        fun active => by cases active
  | hostStored stageable =>
      refine complete.update rfl fun _ ready => ?_
      have notReady := stageable.notReady complete
      change (s.slots _).upstreamReady = true at ready
      rw [notReady] at ready
      cases ready
  | @hostCompleted idx linear payload io stageable =>
      exact complete.update rfl fun _ _ =>
        @stagedSlot_complete ((s.slots idx).staged env)
          (allocated.size idx stageable.active).2
  | hostRejected stageable =>
      exact complete.update
        ((freeLargeDataSlot_slots _ _ _).trans (Function.update_idem _ _ _))
        fun active => by cases active
  | restarted restart => exact fun idx active => by cases active
  | elsewhere other slots => exact complete.congr fun idx => by rw [slots]

theorem LdMove.keepsStaged {idx : Fin ldReceiverSlotCount}
    (move : LdMove env event s s') (role : env.deviceType = .sensor)
    (noRestart : event ≠ .restart) (noTick : event ≠ .tick)
    (complete : LdComplete s) (active : (s.slots idx).active = true)
    (ready : (s.slots idx).upstreamReady = true) :
    (s'.slots idx).content = (s.slots idx).content := by
  have foreign {P : Prop}
      (other : env.deviceType = .gateway ∨ env.deviceType = .anchor) : P := by
    rw [role] at other
    simp at other
  have elsewhere {other : Fin ldReceiverSlotCount} {slot : LdSlot}
      (slots : s'.slots = Function.update s.slots other slot)
      (different : idx ≠ other) :
      (s'.slots idx).content = (s.slots idx).content := by
    rw [slots, Function.update_of_ne different]
  have notStageable {other : Fin ldReceiverSlotCount} {linear : Nat}
      {payload : List UInt8}
      (stageable : LdStageable env event s other linear payload) :
      idx ≠ other := by
    rintro rfl
    rw [stageable.notReady complete] at ready
    cases ready
  cases move with
  | quiet same => exact same.slots idx
  | acknowledged received acknowledged same => exact same.slots idx
  | freed ticked => exact absurd ticked noTick
  | accepted init => exact foreign init.role
  | storeFailed role | stored role | completed role | rejected role =>
      exact foreign role
  | hostAllocated accepted missing free =>
      refine elsewhere rfl ?_
      rintro rfl
      rw [LdPlane.freeSlot_some free] at active
      cases active
  | hostLost stageable =>
      exact elsewhere (freeLargeDataSlot_slots _ _ _) (notStageable stageable)
  | hostStored stageable => exact elsewhere rfl (notStageable stageable)
  | hostCompleted stageable => exact elsewhere rfl (notStageable stageable)
  | hostRejected stageable =>
      exact elsewhere
        ((freeLargeDataSlot_slots _ _ _).trans (Function.update_idem _ _ _))
        (notStageable stageable)
  | restarted restart => exact absurd restart noRestart
  | elsewhere other slots => rw [slots]

theorem LdMoves.keepsComplete (moves : LdMoves env event s s')
    (role : env.deviceType = .sensor) (allocated : LdAllocated s)
    (complete : LdComplete s) : LdAllocated s' ∧ LdComplete s' := by
  induction moves with
  | refl => exact ⟨allocated, complete⟩
  | tail _ move inductionHypothesis =>
      obtain ⟨exact_, whole⟩ := inductionHypothesis
      exact ⟨move.keepsAllocated exact_,
        move.keepsComplete role exact_ whole⟩

theorem LdMoves.keepsStaged {idx : Fin ldReceiverSlotCount}
    (moves : LdMoves env event s s') (role : env.deviceType = .sensor)
    (noRestart : event ≠ .restart) (noTick : event ≠ .tick)
    (allocated : LdAllocated s) (complete : LdComplete s)
    (active : (s.slots idx).active = true)
    (ready : (s.slots idx).upstreamReady = true) :
    (s'.slots idx).content = (s.slots idx).content := by
  induction moves with
  | refl => rfl
  | @tail middle after before move inductionHypothesis =>
      have whole := (LdMoves.keepsComplete before role allocated complete).2
      have same := inductionHypothesis
      refine (move.keepsStaged role noRestart noTick whole ?_ ?_).trans same
      · exact (congrArg LdSlot.active same :).trans active
      · exact (congrArg LdSlot.upstreamReady same :).trans ready

theorem reach_complete {board : Board} {io : Io} {s : LdPlane}
    (role : board.deviceType = .sensor)
    (reach : Trace.Reach ldStep (LdOnBoard board) (.boot io) s) :
    LdAllocated s ∧ LdComplete s := by
  apply reach.invariant
  · exact ⟨{ allocated_largeDataInit (LdPlane.boot io) with },
      fun idx active => by cases active⟩
  · rintro before ⟨env, event⟩ after ⟨allocated, complete⟩ ⟨rfl, allowed⟩ moved
    have cleared : LdAllocated before.clearOut := { allocated with }
    exact LdMoves.keepsComplete (LdPlane.step_moves allowed moved) role cleared
      complete

/-- What a sensor or an anchor may send is at most as long as a blob, and
only a tick or a restart takes it away. -/
structure LdSteady (s : LdPlane) (event : Env × LdEvent) (s' : LdPlane) :
    Prop where
  few : ∀ idx, (s.slots idx).active = true →
    (s.slots idx).upstreamReady = true →
      (s.slots idx).totalChunks.toNat ≤ ldBitmapBits
  stays : event.2 ≠ .restart → event.2 ≠ .tick →
    ∀ idx, (s.slots idx).active = true →
      (s.slots idx).upstreamReady = true →
        (s'.slots idx).content = (s.slots idx).content

theorem reach_steady {board : Board} {io : Io} {s s' : LdPlane}
    {event : Env × LdEvent}
    (role : board.deviceType = .sensor ∨ board.deviceType = .anchor)
    (reach : Trace.Reach ldStep (LdOnBoard board) (.boot io) s)
    (admitted : LdOnBoard board s event)
    (moved : ldStep s event = .ok s') : LdSteady s event s' := by
  obtain ⟨env, event⟩ := event
  obtain ⟨rfl, allowed⟩ := admitted
  have moves := LdPlane.step_moves allowed moved
  rcases role with sensor | anchor
  · obtain ⟨allocated, complete⟩ := reach_complete sensor reach
    have cleared : LdAllocated s.clearOut := { allocated with }
    exact
      { few := fun idx active ready => (complete idx active ready).1
        stays := fun noRestart noTick idx active ready =>
          @LdMoves.keepsStaged env event s.clearOut s' idx moves sensor
            noRestart noTick cleared complete active ready }
  · have integrity := reach_integrity (.inr anchor) reach
    have cleared : LdIntegrity env.crc s.clearOut :=
      ⟨{ integrity.allocated with }, integrity.slots⟩
    have notSensor : env.deviceType ≠ .sensor := by
      rw [anchor]
      decide
    exact
      { few := fun idx active _ => by
          rw [(integrity.slots idx active).totalChunks]
          exact chunksOf_le (integrity.allocated.size idx active).2
        stays := fun noRestart noTick idx active ready =>
          @LdMoves.keepsReady env event s.clearOut s' idx moves notSensor
            noRestart cleared active ready
            fun ticked => absurd ticked noTick }

end DectMesh
