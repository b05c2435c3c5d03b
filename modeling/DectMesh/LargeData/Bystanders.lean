import DectMesh.Config.Destinations
import DectMesh.LargeData.Delivered

/-!
# What leaves the transfers alone

The handlers of announcements and chunks and the commands of a host send no
chunk and pass nothing on.
-/

namespace DectMesh

/-- The chunks among the actions of an event. -/
def chunkPackets (out : List Action) : List LargeDataChunk :=
  out.filterMap fun
    | .request (.largeDataChunk pkt) => some pkt
    | _ => none

theorem chunkPackets_append (before more : List Action) :
    chunkPackets (before ++ more) = chunkPackets before ++ chunkPackets more :=
  List.filterMap_append

/-- No chunk of a blob, neither for the next hop nor for the host, and nothing
that is passed on. -/
def Action.Plain : Action → Prop
  | .request (.largeDataChunk _) => False
  | .line (.ld ..) => False
  | action => action.routedTo = none

theorem Action.Plain.silent {action : Action} (plain : action.Plain) :
    action.routedTo = none := by
  unfold Action.Plain at plain
  split at plain
  · exact plain.elim
  · rfl
  · exact plain

variable {env : Env} {s s' s'' : LdPlane}

/-- What does not concern the senders: they and the name under which a blob is
forwarded stay, no chunk is sent, and no blob counts as transferred. -/
structure Bystander (s s' : LdPlane) : Prop where
  senders : s'.senders = s.senders
  plain : ∃ more, s'.io.out = s.io.out ++ more ∧
    ∀ action ∈ more, action.Plain
  name : s'.deviceIdCache = s.deviceIdCache
  transfered : ∀ idx, (s'.slots idx).isTransfered = true →
    (s.slots idx).isTransfered = true

namespace Bystander

theorem chunks (same : Bystander s s') :
    chunkPackets s'.io.out = chunkPackets s.io.out := by
  obtain ⟨more, out, plain⟩ := same.plain
  have silent : chunkPackets more = [] := by
    refine List.filterMap_eq_nil_iff.mpr fun action member => ?_
    have quiet := plain action member
    split
    · exact quiet.elim
    · rfl
  rw [out, chunkPackets_append, silent, List.append_nil]

theorem routed (same : Bystander s s') : s'.io.routed = s.io.routed := by
  obtain ⟨more, out, plain⟩ := same.plain
  have silent : more.filterMap Action.routedTo = [] :=
    List.filterMap_eq_nil_iff.mpr fun action member =>
      (plain action member).silent
  rw [Io.routed, out, List.filterMap_append, silent, List.append_nil]
  rfl

theorem trans (first : Bystander s s') (second : Bystander s' s'') :
    Bystander s s'' where
  senders := second.senders.trans first.senders
  plain := by
    obtain ⟨more, out, plain⟩ := first.plain
    obtain ⟨later, outLater, plainLater⟩ := second.plain
    refine ⟨more ++ later, ?_, fun action member => ?_⟩
    · rw [outLater, out, List.append_assoc]
    · rcases List.mem_append.mp member with here | there
      · exact plain action here
      · exact plainLater action there
  name := second.name.trans first.name
  transfered := fun idx marked =>
    first.transfered idx (second.transfered idx marked)

/-- Input that leaves the actions alone, and all slots but one. -/
theorem ofUpdate {idx : Fin ldReceiverSlotCount} {slot : LdSlot}
    (senders : s'.senders = s.senders) (out : s'.io.out = s.io.out)
    (name : s'.deviceIdCache = s.deviceIdCache)
    (slots : s'.slots = Function.update s.slots idx slot)
    (transfered : slot.isTransfered = true →
      (s.slots idx).isTransfered = true) : Bystander s s' where
  senders := senders
  plain := ⟨[], by rw [out, List.append_nil], fun _ member => by cases member⟩
  name := name
  transfered := by
    intro other marked
    rw [slots] at marked
    by_cases same : other = idx
    · rw [same, Function.update_self] at marked
      rw [same]
      exact transfered marked
    · rw [Function.update_of_ne same] at marked
      exact marked

theorem ofOut (senders : s'.senders = s.senders)
    (out : s'.io.out = s.io.out) (name : s'.deviceIdCache = s.deviceIdCache)
    (slots : s'.slots = s.slots) : Bystander s s' where
  senders := senders
  plain := ⟨[], by rw [out, List.append_nil], fun _ member => by cases member⟩
  name := name
  transfered := fun idx marked => by rw [← slots]; exact marked

theorem refl (s : LdPlane) : Bystander s s := .ofOut rfl rfl rfl rfl

theorem put {action : Action} (plain : action.Plain) :
    Bystander s (s.put action) := by
  refine ⟨rfl, ⟨[action], rfl, fun other member => ?_⟩, rfl, fun _ => id⟩
  rw [List.mem_singleton.mp member]
  exact plain

theorem sendLine {text : AtLine} (plain : (Action.line text).Plain) :
    Bystander s (s.sendLine text) := by
  rcases Io.txWrite_out s.io text with put | ⟨lost, -⟩
  · refine ⟨rfl, ⟨[.line text], put, fun other member => ?_⟩, rfl,
      fun _ => id⟩
    rw [List.mem_singleton.mp member]
    exact plain
  · exact .ofOut rfl lost rfl rfl

theorem freed (idx : Fin ldReceiverSlotCount) :
    Bystander s (s.freeLargeDataSlot idx 255) := by
  refine ofUpdate ?_ (by rw [freeLargeDataSlot_io]) ?_
    (freeLargeDataSlot_slots _ _ _) id
  · unfold LdPlane.freeLargeDataSlot
    dsimp only
    rw [dif_neg (by decide)]
    rfl
  · unfold LdPlane.freeLargeDataSlot
    dsimp only
    rw [dif_neg (by decide)]
    rfl

theorem verified {idx : Fin ldReceiverSlotCount} {passed : Bool}
    (same : s.verifyCrc32 env idx = (s', passed)) : Bystander s s' := by
  obtain ⟨psram, after, -⟩ := (@LdPlane.verifyCrc32_spec env s idx).1
  rw [same] at after
  dsimp only at after
  rw [after]
  exact ofOut rfl rfl rfl rfl

end Bystander

namespace LdPlane

theorem Validated.bystander {pkt : LargeDataInit} {status : UInt8}
    (validated : Validated env s pkt s' status) : Bystander s s' := by
  cases validated with
  | taken => exact .ofUpdate rfl rfl rfl rfl id
  | _ => exact .refl s

theorem handleLargeDataInit_bystander (pkt : LargeDataInit)
    (srcId : UInt16) : Bystander s (s.handleLargeDataInit env pkt srcId) := by
  generalize handled : s.handleLargeDataInit env pkt srcId = t
  cases handleLargeDataInit_taken handled with
  | ignored => exact .refl s
  | malformed => exact .put rfl
  | answered considers validated =>
      exact (validateLargeDataSlot_validated validated).bystander.trans
        (.put rfl)

theorem completeSlot_bystander (idx : Fin ldReceiverSlotCount) :
    Bystander s (s.completeSlot env idx).1 := by
  unfold completeSlot
  split
  · next after same =>
    exact (Bystander.verified same).trans
      ((Bystander.freed idx).trans (.ofOut rfl rfl rfl rfl))
  · next after same =>
    exact (Bystander.verified same).trans (.ofUpdate rfl rfl rfl rfl id)

theorem validateLargeDataChunk_bystander {pkt : LargeDataChunk}
    {status : UInt8}
    (handled : s.validateLargeDataChunk env pkt = .ok (s', status)) :
    Bystander s s' := by
  unfold validateLargeDataChunk at handled
  split at handled
  · cases handled
    exact .refl s
  · dsimp only at handled
    split at handled
    · cases handled
      exact .refl s
    · split at handled
      · cases handled
      · split at handled
        · cases handled
          exact .refl s
        · split at handled
          · next io errno wrote =>
            cases handled
            exact .ofOut rfl
              (congrArg (fun outcome => outcome.1.out) wrote).symm rfl rfl
          · next io wrote =>
            have stored (idx : Fin ldReceiverSlotCount)
                (bit : Fin ldBitmapBits) :
                Bystander s ({ s with io := io }.setSlot idx
                  (storedSlot env (s.slots idx) bit)) :=
              .ofUpdate rfl (congrArg (fun outcome => outcome.1.out) wrote).symm
                rfl rfl id
            split at handled
            · simp only [Except.ok.injEq] at handled
              have completed := congrArg Prod.fst handled
              dsimp only at completed
              rw [← completed]
              exact (stored _ _).trans (completeSlot_bystander _)
            · cases handled
              exact stored _ _

theorem handleLargeDataChunk_bystander {pkt : LargeDataChunk}
    {srcId : UInt16} (handled : s.handleLargeDataChunk env pkt srcId = .ok s') :
    Bystander s s' := by
  unfold handleLargeDataChunk at handled
  split at handled
  · cases handled
    exact .refl s
  · split at handled
    all_goals
      try
        split at handled
        · split at handled
          · cases handled
          · next after status valid =>
            cases handled
            exact (validateLargeDataChunk_bystander valid).trans (.put rfl)
        · cases handled
          exact .refl s
    all_goals
      cases handled
      exact .refl s

theorem cmdLdInit_bystander (args : List Char) :
    Bystander s (s.cmdLdInit env args) := by
  unfold cmdLdInit
  split
  · exact .sendLine rfl
  · split
    · exact .sendLine rfl
    · split
      · exact .sendLine rfl
      · split
        · exact .sendLine rfl
        · split
          · exact .sendLine rfl
          · split
            · exact .sendLine rfl
            · split
              · exact .sendLine rfl
              · split
                · exact .sendLine rfl
                · next after idx allocated =>
                  obtain ⟨range, free, fits, rfl⟩ :=
                    allocLargeDataSlot_some allocated
                  refine Bystander.trans ?_ (.sendLine rfl)
                  refine Bystander.trans ?_ (.sendLine rfl)
                  exact .ofUpdate rfl rfl rfl (Function.update_idem _ _ _)
                    fun marked => by cases marked

theorem stageChunk_bystander (idx : Fin ldReceiverSlotCount) (linear : Nat)
    (payload : List UInt8) :
    Bystander s (s.stageChunk env idx linear payload) := by
  unfold stageChunk
  dsimp only
  split
  · next io errno wrote =>
    have written : Bystander s { s with io := io } :=
      .ofOut rfl (congrArg (fun outcome => outcome.1.out) wrote).symm rfl rfl
    exact written.trans ((Bystander.freed idx).trans (.sendLine rfl))
  · next io wrote =>
    have written : Bystander s ({ s with io := io }.setSlot idx
        { s.slots idx with
          receivedCount := (s.slots idx).receivedCount + 1
          idleTimeout := (s.slots idx).idleTimeout.start env.now }) :=
      .ofUpdate rfl (congrArg (fun outcome => outcome.1.out) wrote).symm rfl
        rfl id
    split
    · split
      · next after same =>
        exact (written.trans (.verified same)).trans
          ((Bystander.freed idx).trans (.sendLine rfl))
      · next after same =>
        refine (written.trans (.verified same)).trans
          (Bystander.trans ?_ (.sendLine rfl))
        exact .ofUpdate rfl rfl rfl rfl id
    · exact written.trans (.sendLine rfl)

theorem cmdLdChunk_bystander (args : List Char) :
    Bystander s (s.cmdLdChunk env args) := by
  unfold cmdLdChunk
  split
  · exact .sendLine rfl
  · split
    · exact .sendLine rfl
    · split
      · exact .sendLine rfl
      · split
        · exact .sendLine rfl
        · split
          · exact .sendLine rfl
          · split
            · exact .sendLine rfl
            · dsimp only
              split
              · exact .sendLine rfl
              · split
                · exact .sendLine rfl
                · split
                  · exact .sendLine rfl
                  · exact stageChunk_bystander _ _ _

end LdPlane

end DectMesh
