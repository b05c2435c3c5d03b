import DectMesh.Library.Trace
import DectMesh.Mesh.Selection
import DectMesh.Mesh.Tables

/-!
# Which candidates are confirmed

Each collection window starts a round, in which its candidates are confirmed
in the order of their distance and signal.  The index of the next one is the
difference of two variables that are also changed when a selection is stopped
and when a new window opens, so that not every request for the next candidate
finds one.
-/

namespace DectMesh

/-- Closer to the gateway first, then the stronger signal. -/
def BetterFirst (left right : Candidate) : Prop :=
  left.hopNum < right.hopNum ∨
    left.hopNum = right.hopNum ∧ right.rssi2 ≤ left.rssi2

/-- A call of `select_and_confirm`, with what it finds. -/
structure Call where
  idx : Int
  count : Int
  collecting : Bool
  candidate : Candidate
  deriving DecidableEq

/-- The candidates that a window left, and the calls since it ended. -/
structure Round where
  window : List Candidate := []
  calls : List Call := []

/-- The calls take the candidates of the window from its front. -/
structure Round.Orderly (round : Round) : Prop where
  inside : ∀ call ∈ round.calls, 0 ≤ call.idx ∧ call.idx < call.count
  quiet : ∀ call ∈ round.calls, call.collecting = false
  chosen : round.calls.map Call.candidate <+: round.window
  sorted : round.window.Pairwise BetterFirst
  distinct : (round.window.map Candidate.senderId).Nodup

namespace Selection

/-- The start of a collection window. -/
def opened (sel : Selection) : Selection :=
  if sel.collecting then sel else { sel with collecting := true, count := 0 }

/-- The candidates that were collected. -/
def collected (sel : Selection) : List Candidate :=
  sel.candidates.take sel.count.toNat

/-- A candidate in the window that is open. -/
def filled (sel : Selection) (candidate : Candidate) : Selection :=
  if sel.count.toNat < maxPairResponseCandidates then
    if sel.collected.any
        fun known => known.senderId = candidate.senderId then
      sel
    else
      { sel with
        candidates := sel.collected ++
          candidate :: sel.candidates.drop (sel.count.toNat + 1)
        count := sel.count.toNat + 1 }
  else
    sel

/-- After a call: the selection may be stopped, or go on to the next one. -/
def called (sel : Selection) (stopped again : Bool) : Selection :=
  { sel with
    count := if stopped then 0 else sel.count
    idx := sel.idx - 1
    asked := again }

/-- The end of a window with room for some candidates. -/
def closed (sel : Selection) (available : Int) : Selection where
  candidates :=
    BubbleSort.sort MeshPlane.swapCandidates sel.collected ++
      sel.candidates.drop sel.count.toNat
  count := if available ≤ 0 then 0 else min sel.count available
  idx := if available ≤ 0 then 0 else min sel.count available
  collecting := false
  asked := if available ≤ 0 then sel.asked else true

/-- The candidates that are left belong to a selection that was stopped, or a
new window was opened since. -/
def Overtaken (sel : Selection) : Prop :=
  0 < sel.idx ∧ (sel.collecting = true ∨ sel.count < sel.idx)

instance (sel : Selection) : Decidable sel.Overtaken :=
  inferInstanceAs (Decidable (_ ∧ _))

/-- What is known of the selection and of the round that it is in. -/
structure Tracks (sel : Selection) (round : Round) : Prop where
  orderly : round.Orderly
  left : 0 ≤ sel.idx
  filling : sel.collecting = true →
    0 ≤ sel.count ∧ sel.count.toNat ≤ sel.candidates.length ∧
      (sel.collected.map Candidate.senderId).Nodup
  aligned : sel.collecting = false → 0 < sel.idx → sel.idx ≤ sel.count →
    sel.collected = round.window ∧ sel.count = round.window.length ∧
      (round.calls.length : Int) = sel.count - sel.idx
  asked : sel.asked = true → ¬ sel.Overtaken

section Sorting

/-- What `sort_infra_devices` would see of a candidate. -/
def asInfra (candidate : Candidate) : InfraRecord where
  hopNum := candidate.hopNum
  rssi2 := candidate.rssi2

theorem sort_better (candidates : List Candidate) :
    (BubbleSort.sort MeshPlane.swapCandidates candidates).Pairwise
      BetterFirst :=
  @Storage.sort_closerFirst _ MeshPlane.swapCandidates asInfra (fun _ _ => rfl)
    candidates

end Sorting

namespace Tracks

variable {sel : Selection} {round : Round}

theorem start : Tracks ⟨[], 0, 0, false, false⟩ {} where
  orderly :=
    { inside := by simp
      quiet := by simp
      chosen := List.prefix_refl _
      sorted := .nil
      distinct := .nil }
  left := Int.le_refl 0
  filling collecting := by cases collecting
  aligned _ left _ := absurd left (Int.lt_irrefl 0)
  asked asked := by cases asked

/-- A window may open when nobody asked for a candidate that is left. -/
theorem opened
    (tracks : Tracks sel round)
    (waits : sel.collecting = false → ¬ (sel.asked = true ∧ 0 < sel.idx)) :
    Tracks sel.opened round := by
  unfold Selection.opened
  split
  · exact tracks
  · next closed =>
    have idle : sel.collecting = false := by simpa using closed
    refine ⟨tracks.orderly, tracks.left, fun _ => ?_, nofun, ?_⟩
    · simp [collected]
    · exact fun asked overtaken => waits idle ⟨asked, overtaken.1⟩

theorem filled
    (tracks : Tracks sel round) (collecting : sel.collecting = true)
    (candidate : Candidate) : Tracks (sel.filled candidate) round := by
  obtain ⟨positive, within, distinct⟩ := tracks.filling collecting
  unfold Selection.filled
  split
  · split
    · exact tracks
    · next fresh =>
      refine ⟨tracks.orderly, tracks.left, fun _ => ?_, ?_, ?_⟩
      · have length : sel.collected.length = sel.count.toNat := by
          rw [collected, List.length_take, Nat.min_eq_left within]
        have next : (sel.count.toNat + 1 : Int).toNat =
            sel.count.toNat + 1 := by omega
        refine ⟨by dsimp only; omega, ?_, ?_⟩
        · dsimp only
          rw [next, List.length_append, length, List.length_cons]
          omega
        · have taken : (sel.collected ++
              candidate :: sel.candidates.drop (sel.count.toNat + 1)).take
                (sel.count.toNat + 1) = sel.collected ++ [candidate] := by
            rw [List.take_append, length]
            simp [length]
          simp only [collected] at taken ⊢
          rw [next, taken, List.map_append, List.map_singleton]
          refine List.nodup_append.mpr ⟨distinct, List.nodup_singleton _, ?_⟩
          intro id known other single
          rw [List.mem_singleton.mp single]
          rintro rfl
          obtain ⟨entry, member, same⟩ := List.mem_map.mp known
          exact fresh (List.any_eq_true.mpr ⟨entry, member, by simpa using same⟩)
      · intro idle
        rw [collecting] at idle
        cases idle
      · intro asked overtaken
        exact tracks.asked asked ⟨overtaken.1, .inl collecting⟩
  · exact tracks

/-- The next candidate may be asked for unless the selection is overtaken. -/
theorem ask
    (tracks : Tracks sel round) (current : ¬ sel.Overtaken) :
    Tracks { sel with asked := true } round :=
  ⟨tracks.orderly, tracks.left, tracks.filling, tracks.aligned,
    fun _ => current⟩

/-- The call that takes the next candidate. -/
theorem called
    (tracks : Tracks sel round) (asked : sel.asked = true)
    (left : 0 < sel.idx) {stopped again : Bool}
    (stops : stopped = true → again = false) {call : Call}
    (idx : call.idx = sel.count - sel.idx) (count : call.count = sel.count)
    (collecting : call.collecting = sel.collecting)
    (candidate : 0 ≤ call.idx →
      call.candidate = sel.candidates[call.idx.toNat]?.getD {}) :
    Tracks (sel.called stopped again)
      { round with calls := round.calls ++ [call] } := by
  have current := tracks.asked asked
  have idle : sel.collecting = false := by
    by_contra busy
    exact current ⟨left, .inl (by simpa using busy)⟩
  have within : sel.idx ≤ sel.count := by
    by_contra beyond
    exact current ⟨left, .inr (by omega)⟩
  obtain ⟨window, size, done⟩ := tracks.aligned idle left within
  have next : call.idx.toNat = round.calls.length := by omega
  have inside : round.calls.length < round.window.length := by omega
  have found : call.candidate = round.window[round.calls.length] := by
    have cell : sel.candidates[round.calls.length]? =
        some round.window[round.calls.length] := by
      rw [← List.getElem?_eq_getElem inside]
      simp only [← window, collected, List.getElem?_take]
      rw [if_pos (by omega)]
    rw [candidate (by omega), next, cell]
    rfl
  refine ⟨⟨?_, ?_, ?_, tracks.orderly.sorted, tracks.orderly.distinct⟩, ?_, ?_,
    ?_, ?_⟩
  · intro other member
    rcases List.mem_append.mp member with earlier | now
    · exact tracks.orderly.inside other earlier
    · rw [List.mem_singleton.mp now]
      omega
  · intro other member
    rcases List.mem_append.mp member with earlier | now
    · exact tracks.orderly.quiet other earlier
    · rw [List.mem_singleton.mp now, collecting]
      exact idle
  · have before := List.prefix_iff_eq_take.mp tracks.orderly.chosen
    rw [List.length_map] at before
    rw [List.map_append, before, List.map_singleton, found,
      List.take_concat_get' _ _ inside]
    exact List.take_prefix _ _
  · dsimp only [Selection.called]
    omega
  · intro busy
    exact absurd (idle.symm.trans busy) (by decide)
  · intro _ more under
    have runs : stopped = false := by
      by_contra stop
      simp only [Bool.not_eq_false] at stop
      simp only [Selection.called, stop, if_true] at more under
      omega
    simp only [Selection.called, runs, Bool.false_eq_true, if_false]
      at more under ⊢
    refine ⟨window, size, ?_⟩
    simp only [List.length_append, List.length_singleton]
    omega
  · rintro goes ⟨more, busy | beyond⟩
    · exact absurd (idle.symm.trans busy) (by decide)
    · have runs : stopped = false := by
        by_contra stop
        simp only [Bool.not_eq_false] at stop
        have silent := stops stop
        rw [show again = true from goes] at silent
        cases silent
      simp only [Selection.called, runs, Bool.false_eq_true, if_false]
        at more beyond
      omega

/-- A window that ends starts a round of its own. -/
theorem closed
    (tracks : Tracks sel round) (collecting : sel.collecting = true)
    (available : Int) :
    Tracks (sel.closed available)
      { window := (sel.closed available).collected } := by
  obtain ⟨positive, within, distinct⟩ := tracks.filling collecting
  have least : 0 ≤ (sel.closed available).count ∧
      (sel.closed available).count ≤ sel.count := by
    unfold Selection.closed
    dsimp only
    split
    · omega
    · omega
  have length : sel.collected.length = sel.count.toNat := by
    rw [collected, List.length_take, Nat.min_eq_left within]
  have size : (BubbleSort.sort MeshPlane.swapCandidates sel.collected).length =
      sel.count.toNat := by
    rw [(BubbleSort.sort_perm _ _).length_eq, length]
  have window : (sel.closed available).collected =
      (BubbleSort.sort MeshPlane.swapCandidates sel.collected).take
        (sel.closed available).count.toNat := by
    rw [collected, Selection.closed, List.take_append_of_le_length]
    rw [size]
    exact Int.toNat_le_toNat least.2
  refine ⟨⟨by simp, by simp, List.nil_prefix, ?_, ?_⟩, ?_, nofun, ?_, ?_⟩
  · rw [window]
    exact (sort_better _).sublist (List.take_sublist _ _)
  · rw [window, List.map_take]
    refine List.Nodup.sublist (List.take_sublist _ _) ?_
    exact ((BubbleSort.sort_perm _ _).map Candidate.senderId).nodup_iff.mpr
      distinct
  · exact least.1
  · intro _ _ _
    refine ⟨rfl, ?_, ?_⟩
    · rw [window, List.length_take, size]
      omega
    · exact (Int.sub_self _).symm
  · rintro - ⟨-, busy | beyond⟩
    · cases busy
    · exact absurd beyond (Int.lt_irrefl _)

end Tracks

end Selection

namespace MeshPlane

variable {env : MeshEnv} {s s' : MeshPlane}

/-- An anchor or a sensor that needs no repair with the sender. -/
def Unpaired (env : MeshEnv) (s : MeshPlane) (pkt : PairResponse)
    (srcId : UInt16) : Prop :=
  match env.deviceType with
  | .anchor =>
      s.checkStorage (isUpstreamType pkt.hdr.deviceType) srcId ≠
        statusAlreadyExists
  | .sensor =>
      isUpstreamType pkt.hdr.deviceType = true ∧
        s.checkInfraStorage srcId true ≠ statusAlreadyExists ∧
          pkt.hdr.status ≠ statusAlreadyExists
  | .gateway | .unknown => False

/-- The response makes its sender a candidate. -/
def Offers (env : MeshEnv) (s : MeshPlane) (pkt : PairResponse)
    (srcId : UInt16) : Prop :=
  env.accepts pkt.hdr = true ∧
    ¬ (s.hopNum = 0xFF ∧
      (pkt.hopNum = 0xFF ∨ maxDepth ≤ pkt.hopNum.toNat)) ∧
    (pkt.hdr.status = statusSuccess ∨ pkt.hdr.status = statusAlreadyExists) ∧
    s.Unpaired env pkt srcId

/-- The ping names this board and asks it for the next candidate. -/
def AsksNext (env : MeshEnv) (pkt : PingDevice) : Prop :=
  env.accepts pkt.hdr = true ∧ pkt.dstDeviceId = env.deviceId ∧
    keepsDevice pkt.hdr.status = true

/-- What `mesh_pairing_tick` calls `select_and_confirm` with. -/
def call (env : MeshEnv) (s : MeshPlane) : Option Call :=
  if env.deviceType ≠ .gateway ∧ s.processNextRequest ∧
      0 < s.respCandidateIdx then
    some
      { idx := s.respCandidateCount - s.respCandidateIdx
        count := s.respCandidateCount
        collecting := s.collecting
        candidate :=
          s.candidateAt env (s.respCandidateCount - s.respCandidateIdx) }
  else
    none

section Moves

theorem addCandidate_selection (candidate : Candidate) :
    (s.addCandidate env candidate).selection =
      s.selection.opened.filled candidate := by
  unfold addCandidate Selection.opened Selection.filled
  by_cases collecting : s.collecting = true
  · have busy : s.selection.collecting = true := collecting
    simp only [collecting, busy, if_true]
    rw [apply_ite selection, apply_ite selection]
    rfl
  · have idle : ¬ s.selection.collecting = true := collecting
    simp only [collecting, idle, Bool.false_eq_true, if_false]
    rw [apply_ite selection, apply_ite selection]
    rfl

theorem handlePairResponse_selection
    (pkt : PairResponse) (srcId : UInt16) (rssi2 : Int16) :
    ¬ s.Offers env pkt srcId ∧
        (s.handlePairResponse env pkt srcId rssi2).selection = s.selection ∨
      s.Offers env pkt srcId ∧
        ∃ candidate, (s.handlePairResponse env pkt srcId rssi2).selection =
          s.selection.opened.filled candidate := by
  unfold handlePairResponse
  split
  · next ignored =>
    refine .inl ⟨fun offers => ?_, rfl⟩
    rw [offers.1] at ignored
    cases ignored
  · next accepted =>
    split
    · next cut => exact .inl ⟨fun offers => offers.2.1 cut, rfl⟩
    · next linked =>
      dsimp only
      split
      · next refused =>
        refine .inl ⟨fun offers => ?_, rfl⟩
        exact offers.2.2.1.elim refused.1 refused.2
      · next status =>
        have paired : pkt.hdr.status = statusSuccess ∨
            pkt.hdr.status = statusAlreadyExists := by
          by_contra neither
          exact status (not_or.mp neither)
        have offered (fresh : s.Unpaired env pkt srcId) :
            s.Offers env pkt srcId :=
          ⟨by simpa using accepted, linked, paired, fresh⟩
        split
        · next isGateway =>
          refine .inl ⟨fun offers => ?_, rfl⟩
          have fresh := offers.2.2.2
          simp only [Unpaired, isGateway] at fresh
        · next isUnknown =>
          refine .inl ⟨fun offers => ?_, rfl⟩
          have fresh := offers.2.2.2
          simp only [Unpaired, isUnknown] at fresh
        · next isAnchor =>
          split
          · next known =>
            refine .inl ⟨fun offers => ?_, rfl⟩
            have fresh := offers.2.2.2
            simp only [Unpaired, isAnchor] at fresh
            exact fresh known
          · next unknown =>
            refine .inr ⟨offered ?_, _, addCandidate_selection _⟩
            simp only [Unpaired, isAnchor]
            exact unknown
        · next isSensor =>
          split
          · next downstream =>
            refine .inl ⟨fun offers => ?_, rfl⟩
            have fresh := offers.2.2.2
            simp only [Unpaired, isSensor] at fresh
            rw [fresh.1] at downstream
            cases downstream
          · next upstream =>
            split
            · next known =>
              refine .inl ⟨fun offers => ?_, rfl⟩
              have fresh := offers.2.2.2
              simp only [Unpaired, isSensor] at fresh
              exact known.elim fresh.2.1 fresh.2.2
            · next unknown =>
              refine .inr ⟨offered ?_, _, addCandidate_selection _⟩
              simp only [Unpaired, isSensor]
              exact ⟨by simpa using upstream, not_or.mp unknown⟩

theorem handlePingDevice_selection
    (pkt : PingDevice) (srcId : UInt16) (rssi2 : Int16) :
    ¬ AsksNext env pkt ∧
        (plane (s.handlePingDevice env pkt srcId rssi2)).selection =
          s.selection ∨
      AsksNext env pkt ∧
        (plane (s.handlePingDevice env pkt srcId rssi2)).selection =
          { s.selection with asked := true } := by
  have before := @pinged_selection env s pkt
  rw [handlePingDevice_eq]
  split
  · next ignored =>
    refine .inl ⟨fun asks => ?_, rfl⟩
    rw [asks.1] at ignored
    cases ignored
  · next accepted =>
    split
    · next other =>
      exact .inl ⟨fun asks => other asks.2.1,
        (answerPing_spares pkt srcId rssi2).selection.trans before⟩
    · next own =>
      split
      · next keeps =>
        refine .inr ⟨⟨by simpa using accepted, not_not.mp own, keeps⟩, ?_⟩
        have asked := (@answerPing_spares env
          { s.pinged env pkt with processNextRequest := true } pkt srcId
          rssi2).selection
        rw [asked, ← before]
        rfl
      · next evicts => exact .inl ⟨fun asks => evicts asks.2.2, before⟩

theorem selectAndConfirm_selection
    (quiet : s.processNextRequest = false) (idx : Int) :
    ∃ stopped again, (stopped = true → again = false) ∧
      (s.selectAndConfirm env idx).selection =
        { s.selection with
          count := if stopped then 0 else s.selection.count
          asked := again } := by
  unfold selectAndConfirm
  dsimp only
  split
  · exact ⟨true, false, fun _ => rfl, by simp [selection, quiet]⟩
  · split
    · exact ⟨false, true, nofun, rfl⟩
    · split
      · exact ⟨true, false, fun _ => rfl,
          by simp [selection, sendPairConfirm, put, quiet]⟩
      · exact ⟨false, false, fun _ => rfl,
          by simp [selection, sendPairConfirm, put, quiet]⟩

theorem confirmNext_selection (role : env.deviceType ≠ .gateway) :
    (s.call env = none ∧ (s.confirmNext env).selection = s.selection) ∨
      ∃ call stopped again, s.call env = some call ∧
        (stopped = true → again = false) ∧
          (s.confirmNext env).selection =
            s.selection.called stopped again := by
  unfold confirmNext call
  by_cases asked : s.processNextRequest = true ∧ 0 < s.respCandidateIdx
  · obtain ⟨stopped, again, stops, chosen⟩ :=
      @selectAndConfirm_selection env { s with processNextRequest := false }
        rfl (s.respCandidateCount - s.respCandidateIdx)
    refine .inr ⟨_, stopped, again, if_pos ⟨role, asked⟩, stops, ?_⟩
    rw [if_pos asked]
    exact congrArg (fun sel : Selection => { sel with idx := sel.idx - 1 })
      chosen
  · exact .inl ⟨if_neg fun called => asked called.2,
      by rw [if_neg asked]⟩

theorem closeCollection_selection :
    (s.closeCollection env).selection = s.selection ∨
      s.collecting = true ∧
        (s.closeCollection env).selection = s.selection.closed
          ((maxAnchors : Int) - s.storage.infra.count) := by
  unfold closeCollection
  split
  · next ended =>
    refine .inr ⟨ended.1, ?_⟩
    by_cases full : (maxAnchors : Int) - s.storage.infra.count ≤ 0
    · refine (congrArg selection (if_pos full)).trans ?_
      simp only [Selection.closed, if_pos full]
      rfl
    · refine (congrArg selection (if_neg full)).trans ?_
      simp only [Selection.closed, if_neg full]
      rfl
  · exact .inl rfl

end Moves

/-- The event does not ask for a candidate that is left of a selection that
was stopped or overtaken, and no window opens between such a request and the
tick that serves it. -/
def AsksInTime (env : MeshEnv) (s : MeshPlane) : Event → Prop
  | .pingDevice pkt _ _ => AsksNext env pkt → ¬ s.selection.Overtaken
  | .pairResponse pkt srcId _ =>
      s.Offers env pkt srcId → s.collecting = false →
        ¬ (s.processNextRequest = true ∧ 0 < s.respCandidateIdx)
  | _ => True

section Handling

variable {round : Round} {event : Event}

/-- An event that is no tick. -/
theorem handle_tracks
    (tracks : s.selection.Tracks round) (prompt : s.AsksInTime env event)
    (quiet : event ≠ .meshTick) (up : s.handle env event = .ok s') :
    s'.selection.Tracks round := by
  have kept (same : (plane (s.handle env event)).selection = s.selection) :
      s'.selection.Tracks round := by
    rw [up] at same
    exact same ▸ tracks
  have spared (spares : event.Spared) : s'.selection.Tracks round :=
    kept (handle_spares spares).selection
  cases event with
  | meshTick => exact absurd rfl quiet
  | pairResponse pkt srcId rssi2 =>
      rcases @handlePairResponse_selection env s pkt srcId rssi2 with
        ⟨-, same⟩ | ⟨offers, candidate, moved⟩
      · exact kept same
      · cases up
        rw [moved]
        have opened := tracks.opened (prompt offers)
        refine opened.filled ?_ candidate
        unfold Selection.opened
        split
        · next busy => exact busy
        · rfl
  | pingDevice pkt srcId rssi2 =>
      rcases @handlePingDevice_selection env s pkt srcId rssi2 with
        ⟨-, same⟩ | ⟨asks, moved⟩
      · exact kept same
      · have after : (plane (s.handlePingDevice env pkt srcId rssi2)) = s' :=
          congrArg plane up
        rw [after] at moved
        rw [moved]
        exact tracks.ask (prompt asks)
  | pairConfirm pkt srcId rssi2 =>
      exact kept (handlePairConfirm_selection pkt srcId rssi2)
  | repairRequest pkt srcId rssi2 =>
      exact kept (handleRepairRequest_selection pkt srcId rssi2)
  | _ => exact spared trivial

/-- The round after a tick. -/
def nextRound (env : MeshEnv) (s : MeshPlane) (round : Round) : Round :=
  { round with calls := round.calls ++ (s.call env).toList }

/-- The tick makes the next call, and then may end the window. -/
theorem meshTick_tracks (tracks : s.selection.Tracks round) :
    (s.nextRound env round).Orderly ∧
      (s.collecting = true ∧ (s.meshTick env).collecting = false ∧
          (s.meshTick env).selection.Tracks
            { window := (s.meshTick env).selection.collected } ∨
        (s.meshTick env).collecting = s.collecting ∧
          (s.meshTick env).selection.Tracks (s.nextRound env round)) := by
  have same := (@meshTick_spares env s).selection
  have collecting : (s.meshTick env).collecting =
      (s.meshPairingTick env).collecting := congrArg Selection.collecting same
  rw [same, collecting]
  unfold meshPairingTick
  by_cases role : env.deviceType = .gateway
  · have none : s.call env = none := if_neg fun called => called.1 role
    have idle : s.nextRound env round = round := by
      simp [nextRound, none]
    rw [if_pos role, idle]
    exact ⟨tracks.orderly, .inr ⟨rfl, tracks⟩⟩
  · rw [if_neg role]
    obtain ⟨next, kept⟩ : (s.confirmNext env).selection.Tracks
        (s.nextRound env round) ∧
          (s.confirmNext env).collecting = s.collecting := by
      rcases @confirmNext_selection env s role with
        ⟨none, moved⟩ | ⟨call, stopped, again, called, stops, moved⟩
      · have idle : s.nextRound env round = round := by
          simp [nextRound, none]
        rw [idle, moved]
        exact ⟨tracks, congrArg Selection.collecting moved⟩
      · refine ⟨?_, congrArg Selection.collecting moved⟩
        rw [moved, nextRound, called, Option.toList_some]
        unfold MeshPlane.call at called
        split at called
        · next asked =>
          cases called
          refine tracks.called asked.2.1 asked.2.2 stops rfl rfl rfl ?_
          intro inside
          unfold candidateAt
          exact if_neg (Int.not_lt.mpr inside)
        · cases called
    refine ⟨next.orderly, ?_⟩
    rcases @closeCollection_selection env (s.confirmNext env) with
      moved | ⟨busy, moved⟩
    · refine .inr ⟨(congrArg Selection.collecting moved).trans kept, ?_⟩
      rw [moved]
      exact next
    · refine .inl ⟨kept ▸ busy, congrArg Selection.collecting moved, ?_⟩
      rw [moved]
      exact next.closed busy _

end Handling

/-- A board that starts has no candidates. -/
theorem boot_selection (env : MeshEnv) (rom : Eeprom) :
    (plane (boot env rom)).selection = ⟨[], 0, 0, false, false⟩ :=
  (boot_spares env rom).selection

end MeshPlane

open MeshPlane

/-- A board, the round it is in, and the rounds before. -/
structure SelectionLog where
  board : Condition
  round : Round := {}
  past : List Round := []

namespace SelectionLog

variable (log : SelectionLog)

/-- A tick of a board that is up. -/
def tick (env : MeshEnv) (s after : MeshPlane) : SelectionLog :=
  let round := s.nextRound env log.round
  if s.collecting = true ∧ after.collecting = false then
    { board := .ok after
      round := { window := after.selection.collected }
      past := log.past ++ [round] }
  else
    { log with board := .ok after, round := round }

def next (occurrence : Occurrence) : SelectionLog :=
  let after := MeshPlane.next log.board occurrence
  match log.board, occurrence.event with
  | .ok s, some .meshTick =>
      log.tick occurrence.env (s.begin occurrence.failures) (plane after)
  | .error _, none =>
      { board := after, round := {}, past := log.past ++ [log.round] }
  | _, _ => { log with board := after }

def step (occurrence : Occurrence) : Except Empty SelectionLog :=
  .ok (log.next occurrence)

/-- In every round the calls were in order. -/
structure Orderly : Prop where
  round : log.round.Orderly
  past : ∀ round ∈ log.past, round.Orderly

/-- A board that is up asks for candidates in time. -/
def AsksInTime (occurrence : Occurrence) : Prop :=
  ∀ s event, log.board = .ok s → occurrence.event = some event →
    (s.begin occurrence.failures).AsksInTime occurrence.env event

variable {log} {log' : SelectionLog}

/-- What every run keeps. -/
structure Sound (log : SelectionLog) : Prop where
  orderly : log.Orderly
  tracks : ∀ s, log.board = .ok s → s.selection.Tracks log.round

theorem past_orderly {round : Round} (orderly : log.Orderly)
    (last : round.Orderly) :
    ∀ earlier ∈ log.past ++ [round], earlier.Orderly := by
  intro earlier member
  rcases List.mem_append.mp member with old | new
  · exact orderly.past earlier old
  · exact List.mem_singleton.mp new ▸ last

theorem Sound.tick
    (sound : log.Sound) {env : MeshEnv} {s : MeshPlane}
    (tracks : s.selection.Tracks log.round) :
    (log.tick env s (s.meshTick env)).Sound := by
  obtain ⟨orderly, moved⟩ := @meshTick_tracks env s log.round tracks
  unfold SelectionLog.tick
  dsimp only
  split
  · next ended =>
    have after : (s.meshTick env).selection.Tracks
        { window := (s.meshTick env).selection.collected } := by
      rcases moved with ⟨-, -, after⟩ | ⟨same, -⟩
      · exact after
      · rw [ended.1, ended.2] at same
        cases same
    refine ⟨⟨after.orderly, past_orderly sound.orderly orderly⟩, ?_⟩
    rintro s' ⟨⟩
    exact after
  · next going =>
    have after : (s.meshTick env).selection.Tracks
        (s.nextRound env log.round) := by
      rcases moved with ⟨busy, done, -⟩ | ⟨-, after⟩
      · exact absurd ⟨busy, done⟩ going
      · exact after
    refine ⟨⟨orderly, sound.orderly.past⟩, ?_⟩
    rintro s' ⟨⟩
    exact after

theorem Sound.next
    (sound : log.Sound) {occurrence : Occurrence}
    (prompt : log.AsksInTime occurrence) : (log.next occurrence).Sound := by
  rcases up : log.board with last | s
  · cases started : occurrence.event with
    | none =>
        have fresh := boot_selection occurrence.env
          (last.begin occurrence.failures).storage.eeprom
        simp only [SelectionLog.next, up, started, MeshPlane.next]
        refine ⟨⟨Selection.Tracks.start.orderly,
          past_orderly sound.orderly sound.orderly.round⟩, ?_⟩
        intro s' same
        dsimp only at same ⊢
        rw [same] at fresh
        rw [show s'.selection = _ from fresh]
        exact .start
    | some event =>
        simp only [SelectionLog.next, up, started, MeshPlane.next]
        refine ⟨⟨sound.orderly.round, sound.orderly.past⟩, ?_⟩
        intro s' none
        cases none
  · have tracks : (s.begin occurrence.failures).selection.Tracks log.round :=
      sound.tracks s up
    cases started : occurrence.event with
    | none =>
        simp only [SelectionLog.next, up, started, MeshPlane.next]
        refine ⟨⟨sound.orderly.round, sound.orderly.past⟩, ?_⟩
        rintro s' ⟨⟩
        exact tracks
    | some event =>
        have asks := prompt s event up started
        by_cases ticks : event = .meshTick
        · subst ticks
          simp only [SelectionLog.next, up, started, MeshPlane.next]
          exact sound.tick tracks
        · have moved : log.next occurrence =
              { log with
                board := (s.begin occurrence.failures).handle occurrence.env
                  event } := by
            simp only [SelectionLog.next, up, started, MeshPlane.next]
            cases event with
            | meshTick => exact absurd rfl ticks
            | _ => rfl
          rw [moved]
          refine ⟨⟨sound.orderly.round, sound.orderly.past⟩, ?_⟩
          intro s' handled
          exact handle_tracks tracks asks ticks handled

/-- In every run that asks for candidates in time, `select_and_confirm` is
called with an index of the last window only, in its order and once for each
candidate, and never while another window is open. -/
theorem selection_orderly
    {start : MeshPlane}
    (reach : Trace.Reach SelectionLog.step AsksInTime
      { board := .error start } log) :
    log.Orderly := by
  have sound : log.Sound := by
    apply reach.invariant
    · exact ⟨⟨Selection.Tracks.start.orderly, by simp⟩, nofun⟩
    · intro before occurrence after held prompt moved
      rw [← Except.ok.inj moved]
      exact held.next prompt
  exact sound.orderly

section Samples

/-- The events of the list are in time, one after the other. -/
def AllInTime : SelectionLog → List Occurrence → Prop
  | _, [] => True
  | log, occurrence :: rest =>
      log.AsksInTime occurrence ∧ AllInTime (log.next occurrence) rest

theorem reach_of_all :
    ∀ {events : List Occurrence} {log : SelectionLog}, AllInTime log events →
      Trace.Reach SelectionLog.step AsksInTime log
        (events.foldl SelectionLog.next log)
  | [], _, _ => .refl
  | _ :: _, _, ⟨first, later⟩ =>
      Trace.Reach.trans (.next .refl first rfl) (reach_of_all later)

theorem asks_of_tick
    {occurrence : Occurrence}
    (tick : occurrence.event = none ∨ occurrence.event = some .meshTick) :
    log.AsksInTime occurrence := by
  intro s event _ received
  rcases tick with none | tick
  · cases none.symm.trans received
  · cases tick.symm.trans received
    trivial

/-- A response is in time when no candidates are left. -/
theorem asks_of_response
    {occurrence : Occurrence} {pkt : PairResponse} {srcId : UInt16}
    {rssi2 : Int16}
    (response : occurrence.event = some (.pairResponse pkt srcId rssi2))
    (done : ¬ 0 < (plane log.board).selection.idx) :
    log.AsksInTime occurrence := by
  intro s event up received
  rw [up] at done
  cases response.symm.trans received
  exact fun _ _ asked => done asked.2

theorem asks_of_ping
    {occurrence : Occurrence} {pkt : PingDevice} {srcId : UInt16}
    {rssi2 : Int16}
    (ping : occurrence.event = some (.pingDevice pkt srcId rssi2))
    (current : ¬ (plane log.board).selection.Overtaken) :
    log.AsksInTime occurrence := by
  intro s event up received
  rw [up] at current
  cases ping.symm.trans received
  exact fun _ => current

def boardSeven (role : DeviceType) (now : Nat) (event : Option Event) :
    Occurrence where
  env := { deviceType := role, deviceId := 7, now := now }
  event := event

/-- The gateway or an anchor answers a pair request of board 7. -/
def respond (role : DeviceType) (srcId : UInt16) (hopNum : UInt8) : Event :=
  .pairResponse
    { hdr :=
        { deviceType := role.code, deviceId := 7, status := statusSuccess }
      hopNum := hopNum }
    srcId 0

/-- A ping that tells of board 7. -/
def pingSeven : Event :=
  .pingDevice
    { hdr :=
        { deviceType := DeviceType.gateway.code
          deviceId := 7
          status := statusSuccess }
      dstDeviceId := 7
      hopNum := 0
      version := firmwareVersion
      totalDevices := 2
      timestamp := 0 }
    1 0

/-- The board hears of two neighbours and calls for the nearer one; the ping
asks for the next one. -/
def sampleEvents (role : DeviceType) : List Occurrence :=
  [boardSeven role 0 none, boardSeven role 10 (some (respond .anchor 2 1)),
    boardSeven role 20 (some (respond .gateway 1 0)),
    boardSeven role 4000 (some .meshTick),
    boardSeven role 4010 (some .meshTick),
    boardSeven role 5000 (some pingSeven),
    boardSeven role 5010 (some .meshTick)]

def sampleLog (role : DeviceType) : SelectionLog :=
  (sampleEvents role).foldl SelectionLog.next { board := .error {} }

/-- Before the first event nobody is called for. -/
example : ({ board := .error {} } : SelectionLog).round.calls = [] := by
  decide +kernel

/-- An anchor calls for both. -/
theorem selection_orderly_twice :
    (sampleLog .anchor).round.calls.length = 2 ∧
      (sampleLog .anchor).Orderly :=
  ⟨by decide +kernel,
    selection_orderly (reach_of_all
      ⟨asks_of_tick (.inl rfl),
        asks_of_response rfl (by decide +kernel),
        asks_of_response rfl (by decide +kernel),
        asks_of_tick (.inr rfl), asks_of_tick (.inr rfl),
        asks_of_ping rfl (by decide +kernel), asks_of_tick (.inr rfl),
        trivial⟩)⟩

/-- A sensor stops after the first one, and the ping makes it read in front of
the array. -/
theorem selection_negative :
    ¬ ∀ (role : DeviceType) (start : MeshPlane) (log : SelectionLog),
      role = .anchor ∨ role = .sensor →
        Trace.Reach SelectionLog.step
          (fun _ occurrence => occurrence.env.deviceType = role)
          { board := .error start } log →
        log.Orderly := by
  intro always
  have run : Trace.run SelectionLog.step { board := .error {} }
      (sampleEvents .sensor) = .ok (sampleLog .sensor) := rfl
  have orderly := always .sensor {} (sampleLog .sensor) (.inr rfl)
    (Trace.Reach.of_run (fun occurrence member _ => by
      simp only [sampleEvents, List.mem_cons, List.not_mem_nil, or_false]
        at member
      rcases member with rfl | rfl | rfl | rfl | rfl | rfl | rfl <;> rfl) run)
  have negative : ∃ call ∈ (sampleLog .sensor).round.calls, call.idx < 0 := by
    decide +kernel
  obtain ⟨call, member, below⟩ := negative
  have inside := (orderly.round.inside call member).1
  omega

end Samples

end SelectionLog

end DectMesh
