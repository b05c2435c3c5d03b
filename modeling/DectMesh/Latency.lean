import DectMesh.Frames

/-!
# How long a frame waits

Frames of the highest priority leave in the order they came in, eight in each
`MAIN_SUB_TX_PROCESS`, and nothing that is enqueued later gets in front of
them.
-/

namespace DectMesh

open ClassQueues LiveNet

section Loop

theorem queuePrioHigh_first (prio : Fin 3) : queuePrioHigh ≤ prio :=
  Nat.zero_le _

/-- Without a failure the loop sends the first frames of the highest
priority. -/
theorem Firmware.txLoop_high {deviceId : UInt16} {count : Nat}
    {failures : List Bool} (smooth : true ∉ failures) (queues : TxQueues) :
    ((txLoop deviceId count failures queues).1.queues queuePrioHigh).items =
        (queues.queues queuePrioHigh).items.drop count ∧
      (∀ item ∈ (queues.queues queuePrioHigh).items.take count,
        transmit deviceId item.frame 0 ∈
          (txLoop deviceId count failures queues).2.1) ∧
      (txLoop deviceId count failures queues).2.2 = true := by
  induction count generalizing failures queues with
  | zero => exact ⟨rfl, fun _ member => (nomatch member), rfl⟩
  | succ count ih =>
      have works : failures.headD false = false := by
        cases failures with
        | nil => rfl
        | cons first rest =>
            cases first with
            | false => rfl
            | true => exact absurd List.mem_cons_self smooth
      have later : true ∉ failures.tail :=
        fun member => smooth (List.mem_of_mem_tail member)
      unfold txLoop
      split
      · next nothing =>
        have empty := Logged.get_none nothing queuePrioHigh
        rw [empty]
        exact ⟨rfl, fun _ member => (nomatch member), rfl⟩
      · next item rest got =>
        obtain ⟨tail, head⟩ := Logged.get_first queuePrioHigh_first got
        obtain ⟨left, sent, whole⟩ := ih later rest
        rw [works, if_neg Bool.false_ne_true]
        dsimp only
        rw [left, tail, List.drop_tail]
        refine ⟨rfl, fun other member => ?_, whole⟩
        cases waiting : (queues.queues queuePrioHigh).items with
        | nil =>
            rw [waiting] at member
            cases member
        | cons first behind =>
            rw [waiting] at member tail head
            rcases List.mem_cons.mp member with same | member
            · rw [same, head first rfl]
              exact List.mem_cons_self
            · apply List.mem_cons_of_mem
              apply sent
              rw [tail]
              exact member

end Loop

namespace Firmware

variable {board : Board} {fw after : Firmware}
variable {occurrence : LiveOccurrence} {event : LiveEvent}

/-- What waits in front keeps its place. -/
def Behind (fw after : Firmware) : Prop :=
  ∃ more, (after.tx.queues queuePrioHigh).items =
    (fw.tx.queues queuePrioHigh).items ++ more

theorem Behind.of_tx (same : after.tx = fw.tx) : fw.Behind after :=
  ⟨[], by rw [same, List.append_nil]⟩

theorem Behind.trans {last : Firmware} (first : fw.Behind after)
    (second : after.Behind last) : fw.Behind last := by
  obtain ⟨more, front⟩ := first
  obtain ⟨others, whole⟩ := second
  exact ⟨more ++ others, by rw [whole, front, List.append_assoc]⟩

theorem place_behind (order : Enqueued) : fw.Behind (fw.place board order) := by
  unfold place
  split
  · exact Logged.put_behind _ _ _ _
  · exact Logged.put_behind _ _ _ _
  · split
    · exact .of_tx rfl
    · exact .of_tx rfl

theorem foldl_place_behind (orders : List Enqueued) :
    fw.Behind (orders.foldl (place board) fw) := by
  induction orders generalizing fw with
  | nil => exact .of_tx rfl
  | cons order rest ih => exact (place_behind order).trans ih

theorem placeAll_behind (early : Nat) (starts : Bool) (orders : List Enqueued) :
    fw.Behind (fw.placeAll board early starts orders) := by
  have first : fw.Behind ((orders.take early).foldl (place board) fw) :=
    foldl_place_behind _
  unfold placeAll
  cases starts with
  | false => exact first.trans (foldl_place_behind _)
  | true =>
      have begun : fw.Behind
          ((orders.take early).foldl (place board) fw).trackerInit := first
      exact begun.trans (foldl_place_behind _)

/-- A handler that does not end in a reboot. -/
theorem handle_behind (moved : fw.handle board occurrence event = .ok after)
    (up : after.live.mesh.isOk = true) : fw.Behind after := by
  unfold handle at moved
  dsimp only at moved
  split at moved
  · cases moved
  · next live stepped =>
    split at moved
    · cases moved
      have placed := @placeAll_behind board
        (fw.noted board live (fw.occurs occurrence event))
        (LiveNode.early board fw.live (fw.occurs occurrence event))
        (LiveNode.startsTracker event) live.out
      exact placed
    · next down =>
      cases moved
      have same := (@placeAll_frame board
        (fw.noted board live (fw.occurs occurrence event))
        (LiveNode.early board fw.live (fw.occurs occurrence event))
        (LiveNode.startsTracker event) live.out).1
      unfold rebooted at up
      dsimp only at up
      rw [same] at up
      exact absurd up down

theorem onPdc_behind {data : List UInt8} {rssi2 : Int16}
    (moved : fw.onPdc board data rssi2 occurrence = .ok after)
    (up : after.live.mesh.isOk = true) : fw.Behind after := by
  unfold onPdc at moved
  dsimp only at moved
  split at moved
  · cases moved
    exact .of_tx rfl
  · split at moved
    · cases moved
      exact .of_tx rfl
    · split at moved
      · cases moved
        exact .of_tx rfl
      · have behind := handle_behind moved up
        exact behind

theorem processRx_behind {item : RxDataItem}
    (moved : fw.processRx board item occurrence = .ok after)
    (up : after.live.mesh.isOk = true) : fw.Behind after := by
  unfold processRx at moved
  split at moved
  · cases moved
    exact .of_tx rfl
  · split at moved
    · exact handle_behind moved up
    · split at moved
      · cases moved
        exact .of_tx rfl
      · cases moved
        exact .of_tx rfl

theorem rxProcess_behind {count : Nat} {round : Nat → MainSubState}
    {behind : MainSubState}
    (moved : fw.rxProcess board count round behind occurrence = .ok after)
    (up : after.live.mesh.isOk = true) : fw.Behind after := by
  unfold rxProcess at moved
  split at moved
  · split at moved
    · cases moved
      exact .of_tx rfl
    · have behind := processRx_behind moved up
      exact behind
  · cases moved
    exact .of_tx rfl

theorem mainSubTick_behind {tick : MainTick}
    (moved : fw.mainSubTick board tick occurrence = .ok after)
    (up : after.live.mesh.isOk = true) : fw.Behind after := by
  cases tick with
  | mesh | knownDevices | config | report | largeData =>
      have behind := handle_behind moved up
      exact behind
  | tracker i =>
      unfold mainSubTick trackerVisit at moved
      dsimp only at moved
      split at moved
      · cases moved
        exact .of_tx rfl
      · have behind := handle_behind moved up
        exact behind
      · split at moved
        · cases moved
          exact .of_tx rfl
        · cases moved
          exact Logged.put_behind _ _ _ _

theorem mainSubInit_behind {config report ld : Io}
    (moved : fw.mainSubInit board config report ld occurrence = .ok after)
    (up : after.live.mesh.isOk = true) : fw.Behind after := by
  unfold mainSubInit at moved
  dsimp only at moved
  split at moved
  · split at moved
    · cases moved
      exact .of_tx rfl
    · have behind := handle_behind moved up
      exact behind
  · split at moved
    · cases moved
      exact .of_tx rfl
    · have behind := handle_behind moved up
      exact behind

/-- Only `MAIN_SUB_TX_PROCESS` takes frames out. -/
theorem step_behind {air sent : List Transmission} {event : FirmwareEvent}
    (other : ∀ failures, event = .transmit failures → fw.state ≠ .txProcess)
    (moved : fw.step board air event = .ok (after, sent))
    (up : after.live.mesh.isOk = true) : fw.Behind after := by
  cases event with
  | elapse ms =>
      cases moved
      exact .of_tx rfl
  | pcc position =>
      dsimp only [step] at moved
      split at moved <;>
      · cases moved
        exact .of_tx rfl
  | pdc padding rssi2 occurrence =>
      dsimp only [step] at moved
      split at moved
      · cases moved
        exact .of_tx rfl
      · exact onPdc_behind (of_map moved).1 up
  | init config report ld occurrence =>
      dsimp only [step] at moved
      split at moved
      · exact mainSubInit_behind (of_map moved).1 up
      · cases moved
        exact .of_tx rfl
  | receive started =>
      dsimp only [step] at moved
      split at moved <;>
      · cases moved
        exact .of_tx rfl
  | rx occurrence =>
      dsimp only [step] at moved
      split at moved
      · exact rxProcess_behind (of_map moved).1 up
      · exact rxProcess_behind (of_map moved).1 up
      · cases moved
        exact .of_tx rfl
  | operationDone =>
      dsimp only [step] at moved
      split at moved <;>
      · cases moved
        exact .of_tx rfl
  | tick occurrence =>
      dsimp only [step] at moved
      split at moved
      · exact mainSubTick_behind (of_map moved).1 up
      · cases moved
        exact .of_tx rfl
  | transmit failures =>
      dsimp only [step] at moved
      split at moved
      · next here => exact absurd here (other failures rfl)
      · cases moved
        exact .of_tx rfl
  | recover =>
      dsimp only [step] at moved
      split at moved <;>
      · cases moved
        exact .of_tx rfl
  | host occurrence =>
      dsimp only [step] at moved
      split at moved
      · exact handle_behind (of_map moved).1 up
      · cases moved
        exact .of_tx rfl
  | button occurrence => exact handle_behind (of_map moved).1 up

end Firmware

namespace FirmwareNet

/-- `MAIN_SUB_TX_PROCESS` of this board. -/
def isPass (id : UInt16) (net : FirmwareNet) : UInt16 × FirmwareEvent → Bool
  | (other, .transmit _) => other = id ∧ (net.boards id).state = .txProcess
  | _ => false

/-- No transmission of this board fails. -/
def Smooth (id : UInt16) : UInt16 × FirmwareEvent → Prop
  | (other, .transmit failures) => other = id → true ∉ failures
  | _ => True

/-- Runs in which a board stays up and its transmissions succeed, with the
number of its `MAIN_SUB_TX_PROCESS`. -/
inductive Passes (roster : Roster) (id : UInt16) (start : FirmwareNet) :
    Nat → FirmwareNet → Prop
  | none : Passes roster id start 0 start
  | next {count : Nat} {before after : FirmwareNet}
      {event : UInt16 × FirmwareEvent} :
      Passes roster id start count before →
      Smooth id event →
      before.step roster event = .ok after →
      (after.boards id).live.mesh.isOk = true →
      Passes roster id start (count + (isPass id before event).toNat) after

variable {roster : Roster} {id : UInt16} {start net after : FirmwareNet}

/-- Of the frames that waited at the start, the first `8 * count` are on the
air, and the others still wait in front. -/
def Advanced (roster : Roster) (id : UInt16) (start : FirmwareNet)
    (count : Nat) (net : FirmwareNet) : Prop :=
  let waiting := ((start.boards id).tx.queues queuePrioHigh).items
  (∃ more, ((net.boards id).tx.queues queuePrioHigh).items =
    waiting.drop (maxTxQueueProcessPerCycle * count) ++ more) ∧
    ∀ item ∈ waiting.take (maxTxQueueProcessPerCycle * count),
      transmit (roster.board id).deviceId item.frame 0 ∈ net.air

theorem advanced_start : Advanced roster id start 0 start := by
  refine ⟨⟨[], ?_⟩, fun item member => ?_⟩
  · exact (List.append_nil _).symm
  · cases member

/-- A pass sends the next eight. -/
theorem Advanced.pass {count : Nat} {failures : List Bool}
    (advanced : Advanced roster id start count net)
    (smooth : true ∉ failures) :
    Advanced roster id start (count + 1)
      { boards := Function.update net.boards id
          ((net.boards id).txProcess (roster.board id) failures).1
        air := net.air ++
          ((net.boards id).txProcess (roster.board id) failures).2 } := by
  obtain ⟨⟨more, waits⟩, sent⟩ := advanced
  obtain ⟨left, goes, -⟩ := @Firmware.txLoop_high
    (roster.board id).deviceId maxTxQueueProcessPerCycle failures smooth
      (net.boards id).tx
  have count_succ : maxTxQueueProcessPerCycle * (count + 1) =
      maxTxQueueProcessPerCycle * count + maxTxQueueProcessPerCycle :=
    Nat.mul_succ _ _
  constructor
  · refine ⟨more.drop (maxTxQueueProcessPerCycle -
      (List.drop (maxTxQueueProcessPerCycle * count)
        ((start.boards id).tx.queues queuePrioHigh).items).length), ?_⟩
    dsimp only
    rw [Function.update_self]
    unfold Firmware.txProcess
    dsimp only
    rw [left, waits, List.drop_append, List.drop_drop, count_succ]
  · intro item member
    rw [count_succ, List.take_add] at member
    rcases List.mem_append.mp member with before | now
    · exact List.mem_append_left _ (sent item before)
    · apply List.mem_append_right
      unfold Firmware.txProcess
      dsimp only
      apply goes
      rw [waits, List.take_append]
      exact List.mem_append_left _ now

/-- Another step takes nothing out. -/
theorem Advanced.wait {count : Nat} {fw : Firmware}
    {frames : List Transmission}
    (advanced : Advanced roster id start count net) {other : UInt16}
    (behind : other = id → (net.boards id).Behind fw) :
    Advanced roster id start count
      { boards := Function.update net.boards other fw
        air := net.air ++ frames } := by
  obtain ⟨⟨more, waits⟩, sent⟩ := advanced
  refine ⟨?_, fun item member =>
    List.mem_append_left _ (sent item member)⟩
  by_cases same : other = id
  · obtain ⟨others, front⟩ := behind same
    subst same
    dsimp only
    rw [Function.update_self, front, waits, List.append_assoc]
    exact ⟨_, rfl⟩
  · dsimp only
    rw [Function.update_of_ne (Ne.symm same)]
    exact ⟨more, waits⟩

theorem isPass_iff {event : UInt16 × FirmwareEvent} :
    isPass id net event = true ↔ ∃ failures,
      event = (id, .transmit failures) ∧
        (net.boards id).state = .txProcess := by
  constructor
  · intro pass
    obtain ⟨other, event⟩ := event
    cases event with
    | transmit failures =>
        obtain ⟨rfl, here⟩ := of_decide_eq_true pass
        exact ⟨failures, rfl, here⟩
    | _ => cases pass
  · rintro ⟨failures, rfl, here⟩
    exact decide_eq_true ⟨rfl, here⟩

theorem Passes.advanced {count : Nat}
    (passes : Passes roster id start count net) :
    Advanced roster id start count net := by
  induction passes with
  | none => exact advanced_start
  | @next count before after event _ smooth stepped up advanced =>
      cases pass : isPass id before event with
      | true =>
          obtain ⟨failures, rfl, here⟩ := isPass_iff.mp pass
          unfold FirmwareNet.step Firmware.step at stepped
          rw [here] at stepped
          cases stepped
          exact advanced.pass (smooth rfl)
      | false =>
          unfold FirmwareNet.step at stepped
          split at stepped
          · cases stepped
          · next fw frames moved =>
            cases stepped
            apply advanced.wait
            rintro own
            rw [own] at moved up
            dsimp only at up
            rw [Function.update_self] at up
            refine Firmware.step_behind ?_ moved up
            intro failures same here
            have passed : isPass id before event = true :=
              isPass_iff.mpr ⟨failures, Prod.ext own same, here⟩
            rw [passed] at pass
            cases pass

/-- While a board stays up and its transmissions succeed, a frame of the
highest priority is on the air after one `MAIN_SUB_TX_PROCESS` for every eight
places from the front of its queue up to its own, whatever is enqueued
meanwhile. -/
theorem high_transmitted {count : Nat}
    (passes : Passes roster id start count net) {place : Nat}
    {item : TxDataItem}
    (waits : ((start.boards id).tx.queues queuePrioHigh).items[place]? =
      some item)
    (enough : place < maxTxQueueProcessPerCycle * count) :
    transmit (roster.board id).deviceId item.frame 0 ∈ net.air := by
  apply passes.advanced.2
  apply List.mem_of_getElem?
  rw [List.getElem?_take_of_lt enough]
  exact waits

/-- An event that sends nothing, behind which the board is still up. -/
def quiet (roster : Roster) (id : UInt16) (net : FirmwareNet) :
    UInt16 × FirmwareEvent → Bool
  | (_, .transmit _) => false
  | event => (net.step roster event).toOption.all fun after =>
      (after.boards id).live.mesh.isOk

theorem Passes.quiet {count : Nat} {events : List (UInt16 × FirmwareEvent)}
    (passes : Passes roster id start count net)
    (executed : Trace.run (Trace.guarded (quiet roster id) (step roster)) net
      events = .ok after) :
    Passes roster id start count after := by
  have reach : Trace.Reach (step roster)
      (fun before event => Smooth id event ∧ isPass id before event = false ∧
        ∀ after, before.step roster event = .ok after →
          (after.boards id).live.mesh.isOk = true) net after := by
    refine .of_guarded (fun before event allowed => ?_) executed
    obtain ⟨other, event⟩ := event
    cases event with
    | transmit failures => cases allowed
    | _ =>
        refine ⟨trivial, rfl, fun after moved => ?_⟩
        simp only [FirmwareNet.quiet, moved] at allowed
        exact allowed
  apply reach.invariant passes
  rintro before event after passes ⟨smooth, idle, up⟩ moved
  have next := passes.next smooth moved (up after moved)
  rwa [idle] at next

/-- Eight frames of one byte wait behind the request of the sensor. -/
def eightBehind (net : FirmwareNet) : FirmwareNet :=
  let fw := net.boards 5
  { net with
    boards := Function.update net.boards 5
      { fw with
        tx := (List.range 8).foldl (fun tx byte =>
          txQueuePut tx [UInt8.ofNat byte] 0) fw.tx } }

/-- The last of them leaves in the second `MAIN_SUB_TX_PROCESS`. -/
theorem high_transmitted_ninth :
    ∃ start net : FirmwareNet,
      ((start.boards 5).tx.queues queuePrioHigh).items[8]? =
          some (.ofData [7]) ∧
        transmit 5 [7] 0 ∈ net.air := by
  obtain ⟨up, -, waits, here₁, one, first, up₁, two, waiting, here₂, net,
      second, up₂⟩ :
      Trace.Ends (step pairRoster) (off (fun _ => {}) fun _ => {})
        requestEnqueued fun up =>
          (((eightBehind up).boards 5).tx.queues
            queuePrioHigh).items[8]? = some (.ofData [7]) ∧
          ((eightBehind up).boards 5).state = .txProcess ∧
          Trace.Ends (step pairRoster) (eightBehind up) [(5, .transmit [])]
            fun one => (one.boards 5).live.mesh.isOk = true ∧
              Trace.Ends (Trace.guarded (quiet pairRoster 5) (step pairRoster))
                one (requestEnqueued.drop 1) fun two =>
                  (two.boards 5).state = .txProcess ∧
                  Trace.Ends (step pairRoster) two [(5, .transmit [])]
                    fun net => (net.boards 5).live.mesh.isOk = true := by
    decide +kernel
  rw [Trace.run_single] at first second
  have pass {net : FirmwareNet} (here : (net.boards 5).state = .txProcess) :
      isPass 5 net (5, .transmit []) = true :=
    isPass_iff.mpr ⟨[], rfl, here⟩
  have smooth : Smooth 5 (5, .transmit []) := fun _ => List.not_mem_nil
  have once : Passes pairRoster 5 (eightBehind up) _ one :=
    .next .none smooth first up₁
  have passes := (once.quiet waiting).next smooth second up₂
  rw [pass here₁, pass here₂] at passes
  exact ⟨eightBehind up, net, waits,
    high_transmitted passes waits (by decide)⟩

end FirmwareNet

end DectMesh
