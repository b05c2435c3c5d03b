import DectMesh.Authenticity
import DectMesh.MainSub
import DectMesh.Tracker.Ids

/-!
# Frames

A network of boards with their queues, trackers and radios, byte by byte, is a
network as `LiveNet` has it: what a handler is given under the name of a board
is what that board enqueued, whatever the queues, the retries and the radio
did in between.
-/

namespace DectMesh

open ClassQueues LiveNet

section FrameOf

/-- These bytes are a packet that this board sent. -/
def FrameOf (sent : List (UInt16 × AirPacket)) (srcId : UInt16)
    (bytes : List UInt8) : Prop :=
  ∃ pkt, (srcId, pkt) ∈ sent ∧ bytes = pkt.encode

variable {sent later : List (UInt16 × AirPacket)} {id srcId : UInt16}
variable {bytes : List UInt8}

theorem FrameOf.mono (frame : FrameOf sent srcId bytes)
    (more : sent ⊆ later) : FrameOf later srcId bytes := by
  obtain ⟨pkt, member, same⟩ := frame
  exact ⟨pkt, more member, same⟩

theorem FrameOf.length_le (frame : FrameOf sent srcId bytes) :
    bytes.length ≤ 192 := by
  obtain ⟨pkt, -, rfl⟩ := frame
  exact pkt.encode_length_le

theorem FrameOf.fits (frame : FrameOf sent srcId bytes) :
    bytes.length ≤ queueDataMax :=
  le_trans frame.length_le (by decide)

end FrameOf

/-- A transmission of a packet that the board it names sent, with as many
subslots as it needs. -/
def Transmission.Genuine (t : Transmission)
    (sent : List (UInt16 × AirPacket)) : Prop :=
  FrameOf sent t.transmitterId t.data ∧
    t.packetLength = subslots 0 t.data.length

theorem Transmission.Genuine.mono {t : Transmission}
    {sent later : List (UInt16 × AirPacket)} (genuine : t.Genuine sent)
    (more : sent ⊆ later) : t.Genuine later :=
  ⟨genuine.1.mono more, genuine.2⟩

namespace TrackerLog

/-- The payload noted for an entry in use has the length of the entry, and
this property. -/
def Carried (log : TrackerLog) (P : List UInt8 → Prop) : Prop :=
  ∀ i, (log.tracker.indexPool i).active = true →
    (log.tracker.indexPool i).payloadLen = (log.notes i).payload.length ∧
      P (log.notes i).payload

variable {log log' : TrackerLog} {P Q : List UInt8 → Prop}

theorem Carried.mono (carried : log.Carried P)
    (weaker : ∀ payload, P payload → Q payload) : log.Carried Q :=
  fun i active => ⟨(carried i active).1, weaker _ (carried i active).2⟩

theorem Carried.boot (crc : List UInt8 → UInt16) (psram : Psram) :
    (TrackerLog.boot crc psram).Carried P :=
  fun _ active => nomatch active

/-- Entries went out of use at most. -/
theorem Carried.quiet (carried : log.Carried P)
    (each : ∀ i, log'.tracker.indexPool i = log.tracker.indexPool i ∨
      (log'.tracker.indexPool i).active = false)
    (notes : log'.notes = log.notes) : log'.Carried P := by
  intro i active
  rw [notes]
  rcases each i with same | off
  · rw [same] at active ⊢
    exact carried i active
  · rw [off] at active
    cases active

theorem Carried.removeByTrackingId (carried : log.Carried P)
    (trackingId : UInt8) :
    (log.handle (.removeByTrackingId trackingId)).Carried P :=
  carried.quiet (Tracker.removeFound_each _) rfl

theorem Carried.enlist (carried : log.Carried P) (trackingId : UInt8)
    (allocation : Nat) {request : TrackerRequest}
    (short : request.payload.length ≤ trackerPayloadMax)
    (holds : P request.payload) :
    (log.enlist trackingId allocation request).Carried P := by
  cases free : log.tracker.freeEntry with
  | none =>
      rw [enlist_full free]
      exact carried
  | some i =>
      rw [enlist_free free]
      intro j
      dsimp only
      rw [Tracker.trackerAdd_indexPool _ _ _ free]
      by_cases same : j = i
      · subst same
        rw [Function.update_self, Function.update_self]
        intro _
        refine ⟨?_, holds⟩
        exact congrArg List.length (List.take_of_length_le short)
      · rw [Function.update_of_ne same, Function.update_of_ne same]
        exact carried j

theorem Carried.send (carried : log.Carried P) {request : TrackerRequest}
    (short : request.payload.length ≤ trackerPayloadMax)
    (holds : P request.payload) : (log.handle (.send request)).Carried P := by
  have allocated : log.allocate.Carried P :=
    carried.quiet (fun _ => .inl rfl) rfl
  exact allocated.enlist _ _ short holds

theorem Carried.visit (carried : log.Carried P) (i : Fin trackerMaxEntries) :
    (log.visit i).Carried P := by
  obtain ⟨tracker, -, notes⟩ := @visit_tracker log i
  intro j active
  rw [tracker] at active ⊢
  rw [notes, Tracker.visit_payloadLen]
  exact carried j (Tracker.visit_active active)

/-- What a faithful entry enqueues again was noted for it. -/
theorem Carried.resent (carried : log.Carried P)
    {i : Fin trackerMaxEntries}
    (short : ∀ payload, P payload → payload.length ≤ trackerPayloadMax)
    (faithful : log.tracker.Faithful i (log.notes i).payload)
    {entry : DataTracker} {exhausted : Bool} {payload : List UInt8}
    (fired : log.fired i = some (entry, exhausted))
    (again : Tracker.resent entry exhausted = some payload) : P payload := by
  have due : log.tracker.Due log.now i := by
    by_contra early
    unfold TrackerLog.fired at fired
    rw [Tracker.visit_quiet early] at fired
    cases fired
  obtain ⟨length, holds⟩ := carried i due.1
  have keeps : log.tracker.Keeps i (log.notes i).payload :=
    ⟨length, short _ holds, faithful⟩
  rw [keeps.resent fired again]
  exact holds

theorem send_next (request : TrackerRequest) :
    (log.handle (.send request)).tracker.nextTrackingId =
      nextTrackingId log.tracker.nextTrackingId := by
  change (log.allocate.enlist _ _ request).tracker.nextTrackingId =
    log.allocate.tracker.nextTrackingId
  cases free : log.allocate.tracker.freeEntry with
  | none => rw [enlist_full free]
  | some i => exact (enlist_entry free _ _ request).1

end TrackerLog

namespace Firmware

/-- Its handlers and its counter of ids. -/
def node (fw : Firmware) : LiveNode where
  live := fw.live
  nextTrackingId := fw.tracker.tracker.nextTrackingId

/-- Whatever the board holds for the radio it sent itself, and whatever it
holds from the radio was sent by the board that it names. -/
structure Sound (fw : Firmware) (id : UInt16)
    (sent : List (UInt16 × AirPacket)) : Prop where
  rx : fw.rx.Conserved
  received : ∀ prio item, (prio, item) ∈ fw.rx.accepted →
    ∃ frame rest, FrameOf sent item.senderId frame ∧
      item.data.bytes = frame ++ rest
  tx : fw.tx.Conserved
  enqueued : ∀ prio item, (prio, item) ∈ fw.tx.accepted →
    FrameOf sent id item.frame
  arriving : ∀ t, fw.radio.arriving = some t →
    fw.radio.lastSenderId = t.transmitterId ∧
      FrameOf sent t.transmitterId t.data
  tracked : fw.tracker.Carried (FrameOf sent id)

variable {fw : Firmware} {id : UInt16}
variable {sent later : List (UInt16 × AirPacket)}

theorem Sound.mono (sound : fw.Sound id sent) (more : sent ⊆ later) :
    fw.Sound id later where
  rx := sound.rx
  received := by
    intro prio item member
    obtain ⟨frame, rest, own, same⟩ := sound.received prio item member
    exact ⟨frame, rest, own.mono more, same⟩
  tx := sound.tx
  enqueued := fun prio item member =>
    (sound.enqueued prio item member).mono more
  arriving := fun t here =>
    ⟨(sound.arriving t here).1, (sound.arriving t here).2.mono more⟩
  tracked := sound.tracked.mono fun _ own => own.mono more

/-- Something of its own is enqueued for the radio. -/
theorem Sound.txQueuePut (sound : fw.Sound id sent) {frame : List UInt8}
    (own : FrameOf sent id frame) (prio : UInt8) :
    ({ fw with tx := txQueuePut fw.tx frame prio } : Firmware).Sound id sent :=
  { sound with
    tx := sound.tx.put _ _
    enqueued := by
      intro prio item member
      rcases Logged.mem_put member with before | same
      · exact sound.enqueued prio item before
      · rw [same, TxDataItem.ofData_frame own.fits]
        exact own }

/-- The tracker changes. -/
theorem Sound.tracks (sound : fw.Sound id sent) {tracker : TrackerLog}
    (tracked : tracker.Carried (FrameOf sent id)) :
    ({ fw with tracker := tracker } : Firmware).Sound id sent :=
  { sound with tracked := tracked }

/-- What only the handlers and the main thread know does not matter. -/
theorem Sound.congr {other : Firmware} (sound : fw.Sound id sent)
    (rx : other.rx = fw.rx) (tx : other.tx = fw.tx)
    (radio : other.radio = fw.radio) (tracker : other.tracker = fw.tracker) :
    other.Sound id sent := by
  cases other
  cases fw
  cases rx
  cases tx
  cases radio
  cases tracker
  exact ⟨sound.rx, sound.received, sound.tx, sound.enqueued, sound.arriving,
    sound.tracked⟩

theorem Sound.rebooted (sound : fw.Sound id sent) :
    fw.rebooted.Sound id sent where
  rx := Logged.empty_conserved
  received := fun _ _ member => nomatch member
  tx := Logged.empty_conserved
  enqueued := fun _ _ member => nomatch member
  arriving := fun _ here => nomatch here
  tracked := sound.tracked

theorem Sound.off (rom : Eeprom) (psram : Psram) :
    (Firmware.off rom psram).Sound id sent where
  rx := Logged.empty_conserved
  received := fun _ _ member => nomatch member
  tx := Logged.empty_conserved
  enqueued := fun _ _ member => nomatch member
  arriving := fun _ here => nomatch here
  tracked := .boot _ _

section Place

variable {board : Board} {order : Enqueued} {orders : List Enqueued}

@[simp]
theorem place_live : (fw.place board order).live = fw.live := by
  unfold place
  split
  · rfl
  · rfl
  · split <;> rfl

@[simp]
theorem place_log : (fw.place board order).log = fw.log := by
  unfold place
  split
  · rfl
  · rfl
  · split <;> rfl

/-- What is sent is enqueued, and kept if the tracker repeats it. -/
theorem Sound.place (sound : fw.Sound id sent)
    (own : ∀ pkt ∈ (stampAll fw.tracker.tracker.nextTrackingId [order]).2,
      (id, pkt) ∈ sent) : (fw.place board order).Sound id sent := by
  unfold stampAll stampAll at own
  unfold Firmware.place
  cases ordered : order.packet with
  | none =>
      dsimp only
      split
      · exact sound.tracks (sound.tracked.removeByTrackingId _)
      · exact sound
  | some entry =>
      obtain ⟨pkt, fresh⟩ := entry
      rw [ordered] at own
      cases fresh with
      | false =>
          have frame : FrameOf sent id pkt.encode :=
            ⟨pkt, own pkt List.mem_cons_self, rfl⟩
          exact sound.txQueuePut frame _
      | true =>
          have frame : FrameOf sent id
              (pkt.stamp fw.tracker.tracker.nextTrackingId).encode :=
            ⟨_, own _ List.mem_cons_self, rfl⟩
          have short := le_trans frame.length_le
            (show 192 ≤ trackerPayloadMax by decide)
          dsimp only
          split
          · exact (sound.txQueuePut frame _).tracks
              (sound.tracked.send short frame)
          · exact (sound.txQueuePut frame _).tracks
              (sound.tracked.quiet (fun _ => .inl rfl) rfl)

theorem place_next :
    (fw.place board order).tracker.tracker.nextTrackingId =
      (stampAll fw.tracker.tracker.nextTrackingId [order]).1 := by
  unfold Firmware.place stampAll
  cases ordered : order.packet with
  | none =>
      dsimp only
      split
      · exact TrackerLog.removeFound_next _ _
      · rfl
  | some entry =>
      obtain ⟨pkt, fresh⟩ := entry
      cases fresh with
      | false => rfl
      | true =>
          dsimp only
          split
          · exact TrackerLog.send_next _
          · rfl

theorem stampAll_cons (next : UInt8) :
    stampAll next (order :: orders) =
      ((stampAll (stampAll next [order]).1 orders).1,
        (stampAll next [order]).2 ++
          (stampAll (stampAll next [order]).1 orders).2) := by
  rw [stampAll, stampAll]
  cases order.packet with
  | none => rfl
  | some entry =>
      obtain ⟨pkt, fresh⟩ := entry
      cases fresh <;> rfl

theorem foldl_place_frame (fw : Firmware) (orders : List Enqueued) :
    (orders.foldl (Firmware.place board) fw).live = fw.live ∧
      (orders.foldl (Firmware.place board) fw).log = fw.log ∧
      (orders.foldl (Firmware.place board) fw).tracker.tracker.nextTrackingId =
        (stampAll fw.tracker.tracker.nextTrackingId orders).1 := by
  induction orders generalizing fw with
  | nil => exact ⟨rfl, rfl, rfl⟩
  | cons order rest ih =>
      rw [List.foldl_cons, stampAll_cons]
      obtain ⟨live, log, next⟩ := ih (fw.place board order)
      rw [live, log, next, place_live, place_log, place_next]
      exact ⟨rfl, rfl, rfl⟩

theorem Sound.foldl_place (sound : fw.Sound id sent)
    (own : ∀ pkt ∈ (stampAll fw.tracker.tracker.nextTrackingId orders).2,
      (id, pkt) ∈ sent) :
    (orders.foldl (Firmware.place board) fw).Sound id sent := by
  induction orders generalizing fw with
  | nil => exact sound
  | cons order rest ih =>
      rw [stampAll_cons] at own
      rw [List.foldl_cons]
      have first : (fw.place board order).Sound id sent :=
        sound.place fun pkt member =>
          own pkt (List.mem_append_left _ member)
      refine ih first fun pkt member => ?_
      rw [place_next] at member
      exact own pkt (List.mem_append_right _ member)

theorem Sound.trackerInit (sound : fw.Sound id sent) :
    fw.trackerInit.Sound id sent :=
  sound.tracks (.boot _ _)

variable {early : Nat} {starts : Bool}

theorem placeAll_frame (fw : Firmware) (early : Nat) (starts : Bool)
    (orders : List Enqueued) :
    (fw.placeAll board early starts orders).live = fw.live ∧
      (fw.placeAll board early starts orders).log = fw.log ∧
      (fw.placeAll board early starts orders).tracker.tracker.nextTrackingId =
        (stampRun early starts fw.tracker.tracker.nextTrackingId
          orders).1 := by
  obtain ⟨live, log, next⟩ :=
    @foldl_place_frame board fw (orders.take early)
  unfold Firmware.placeAll stampRun
  dsimp only
  cases starts with
  | false =>
      rw [if_neg Bool.false_ne_true, if_neg Bool.false_ne_true, ← live, ← log,
        ← next]
      exact foldl_place_frame _ _
  | true =>
      rw [if_pos rfl, if_pos rfl, ← live, ← log]
      exact foldl_place_frame (Firmware.trackerInit _) _

theorem Sound.placeAll (sound : fw.Sound id sent)
    (own : ∀ pkt ∈ (stampRun early starts fw.tracker.tracker.nextTrackingId
      orders).2, (id, pkt) ∈ sent) :
    (fw.placeAll board early starts orders).Sound id sent := by
  have first : ((orders.take early).foldl (Firmware.place board) fw).Sound id
      sent :=
    sound.foldl_place fun pkt member =>
      own pkt (List.mem_append_left _ member)
  have next := (@foldl_place_frame board fw (orders.take early)).2.2
  unfold Firmware.placeAll
  cases starts with
  | false =>
      apply first.foldl_place
      intro pkt member
      rw [next] at member
      exact own pkt (List.mem_append_right _ member)
  | true =>
      apply first.trackerInit.foldl_place
      intro pkt member
      exact own pkt (List.mem_append_right _ member)

end Place

section Handle

variable {roster : Roster} {image : LiveNet} {after : Firmware}
variable {occurrence : LiveOccurrence} {event : LiveEvent}

/-- The network in which this board took a step that it took. -/
structure Took (roster : Roster) (image next : LiveNet) (id : UInt16)
    (fw : Firmware) (occurrence : LiveOccurrence) (after : Firmware) :
    Prop where
  handled : image.handle roster id occurrence = .ok next
  node : next.nodes id = after.node
  others : ∀ other, other ≠ id → next.nodes other = image.nodes other
  more : image.sent ⊆ next.sent
  sound : after.Sound id next.sent
  log : ∀ entry ∈ next.log, entry ∈ image.log ∨ entry.id = id ∧
    entry ∈ after.log
  kept : fw.log ⊆ after.log

/-- A handler that runs on the board runs in the network. -/
theorem handle_took (sound : fw.Sound id image.sent)
    (node : image.nodes id = fw.node)
    (moved : fw.handle (roster.board id) occurrence event = .ok after) :
    ∃ image', Took roster image image' id fw (fw.occurs occurrence event)
      after := by
  unfold Firmware.handle at moved
  dsimp only at moved
  split at moved
  · cases moved
  · next stepped handled =>
    let stamped := stampRun
      (LiveNode.early (roster.board id) fw.live (fw.occurs occurrence event))
      (LiveNode.startsTracker event) fw.tracker.tracker.nextTrackingId
      stepped.out
    let entry : Handled :=
      { id := id
        before := fw.live
        occurrence := fw.occurs occurrence event }
    let node' : LiveNode := { live := stepped, nextTrackingId := stamped.1 }
    let sent := image.sent ++ stamped.2.map fun pkt => (id, pkt)
    have nodeMoved : (image.nodes id).step (roster.board id)
        (fw.occurs occurrence event) = .ok (node', stamped.2) := by
      rw [node]
      unfold LiveNode.step
      dsimp only [Firmware.node]
      rw [handled]
      rfl
    have imageMoved : image.handle roster id (fw.occurs occurrence event) =
        .ok {
          nodes := Function.update image.nodes id node'
          sent := sent
          log := image.log ++ [entry] } := by
      unfold LiveNet.handle
      rw [nodeMoved, node]
      rfl
    have more : image.sent ⊆ sent := List.subset_append_left _ _
    obtain ⟨placedLive, placedLog, placedNext⟩ :=
      @placeAll_frame (roster.board id)
        (fw.noted (roster.board id) stepped (fw.occurs occurrence event))
        (LiveNode.early (roster.board id) fw.live
          (fw.occurs occurrence event))
        (LiveNode.startsTracker event) stepped.out
    have placed : ((fw.noted (roster.board id) stepped
        (fw.occurs occurrence event)).placeAll (roster.board id)
          (LiveNode.early (roster.board id) fw.live
            (fw.occurs occurrence event))
          (LiveNode.startsTracker event) stepped.out).Sound id sent := by
      apply Sound.placeAll
      · exact (sound.mono more).congr rfl rfl rfl rfl
      · intro pkt member
        exact List.mem_append_right _ (List.mem_map_of_mem member)
    generalize Firmware.placeAll _ _ _ _ stepped.out = board at *
    have same : after.live = stepped ∧ after.log = board.log ∧
        after.tracker.tracker = board.tracker.tracker ∧
          after.Sound id sent := by
      cases moved
      split
      · exact ⟨placedLive, rfl, rfl, placed⟩
      · exact ⟨placedLive, rfl, rfl, placed.rebooted⟩
    obtain ⟨afterLive, afterLog, afterTracker, afterSound⟩ := same
    have logged : after.log = fw.log ++ [entry] := by
      rw [afterLog, placedLog]
      unfold noted
      rw [roster.addressed]
    refine ⟨_, imageMoved, ?_, ?_, more, afterSound, ?_, ?_⟩
    · dsimp only [Firmware.node]
      rw [Function.update_self, afterLive, afterTracker, placedNext]
      rfl
    · intro other different
      exact Function.update_of_ne different _ _
    · intro found member
      rcases List.mem_append.mp member with before | last
      · exact .inl before
      · cases List.mem_singleton.mp last
        refine .inr ⟨rfl, ?_⟩
        rw [logged]
        exact List.mem_append_right _ List.mem_cons_self
    · rw [logged]
      exact List.subset_append_left _ _

end Handle

theorem of_map {outcome : Except Fault Firmware} {sent : List Transmission}
    (moved : outcome.map (·, ([] : List Transmission)) = .ok (fw, sent)) :
    outcome = .ok fw ∧ sent = [] := by
  cases outcome with
  | error fault => cases moved
  | ok after =>
      cases moved
      exact ⟨rfl, rfl⟩

section Follow

variable {roster : Roster} {image next : LiveNet} {after : Firmware}
variable {occurrence : LiveOccurrence} {event : LiveEvent}
variable {record : List Handled}

/-- The network goes on while a board with this record becomes this one. -/
structure Follows (roster : Roster) (image next : LiveNet) (id : UInt16)
    (after : Firmware) (record : List Handled) : Prop where
  reach : Trace.Reach (LiveNet.step roster) LiveNet.Admits image next
  node : next.nodes id = after.node
  others : ∀ other, other ≠ id → next.nodes other = image.nodes other
  more : image.sent ⊆ next.sent
  sound : after.Sound id next.sent
  log : ∀ entry ∈ next.log, entry ∈ image.log ∨ entry.id = id ∧
    entry ∈ after.log
  kept : record ⊆ after.log

/-- No handler ran. -/
theorem Follows.quiet (sound : after.Sound id image.sent)
    (node : image.nodes id = after.node) :
    Follows roster image image id after after.log where
  reach := .refl
  node := node
  others := fun _ _ => rfl
  more := List.Subset.refl _
  sound := sound
  log := fun _ member => .inl member
  kept := List.Subset.refl _

/-- A handler of the board's own ran. -/
theorem Took.act (took : Took roster image next id fw occurrence after)
    (own : occurrence.event.isLocal = true)
    (apart : LiveNet.Separate (image.nodes id).live occurrence.event) :
    Follows roster image next id after fw.log := by
  have admitted : image.Admits (.act id occurrence) := ⟨own, apart⟩
  have acted : image.step roster (.act id occurrence) = .ok next :=
    took.handled
  exact { took with reach := .next .refl admitted acted }

/-- A packet was handled that some board sent. -/
theorem Took.hear (took : Took roster image next id fw occurrence after)
    {srcId : UInt16} {rssi2 : Int16} {pkt : AirPacket}
    (member : (srcId, pkt) ∈ image.sent)
    (received : pkt.received srcId rssi2 = some occurrence.event) :
    Follows roster image next id after fw.log := by
  obtain ⟨position, here⟩ := List.mem_iff_getElem?.mp member
  have heard : image.step roster (.hear id position rssi2 occurrence) =
      .ok next := by
    unfold LiveNet.step
    dsimp only
    rw [here]
    dsimp only
    rw [received]
    exact took.handled
  have admitted : image.Admits (.hear id position rssi2 occurrence) := trivial
  exact { took with reach := .next .refl admitted heard }

/-- A handler of the board's own that keeps to its part of the PSRAM. -/
theorem handle_follows (sound : fw.Sound id image.sent)
    (node : image.nodes id = fw.node)
    (moved : fw.handle (roster.board id) occurrence event = .ok after)
    (own : event.isLocal = true) (apart : LiveNet.Separate fw.live event) :
    ∃ next, Follows roster image next id after fw.log := by
  have live : (image.nodes id).live = fw.live := by
    rw [node]
    rfl
  obtain ⟨next, took⟩ := handle_took sound node moved
  refine ⟨next, took.act own ?_⟩
  rw [live]
  exact apart

section Receive

theorem Sound.rxQueuePut (sound : fw.Sound id sent) {srcId : UInt16}
    {frame : List UInt8} (genuine : FrameOf sent srcId frame)
    (rssi2 : Int16) (padding : List UInt8) (prio : UInt8) :
    ({ fw with
        rx := DectMesh.rxQueuePut fw.rx
          (.ofEvent srcId rssi2 (frame ++ padding)) prio } :
      Firmware).Sound id sent :=
  { sound with
    rx := sound.rx.put _ _
    received := by
      intro prio item member
      rcases Logged.mem_put member with before | same
      · exact sound.received prio item before
      · rw [same]
        obtain ⟨rest, front⟩ :=
          RxDataItem.ofEvent_data srcId rssi2 padding genuine.fits
        exact ⟨frame, rest, genuine, front⟩ }

theorem onPdc_follows (sound : fw.Sound id image.sent)
    (node : image.nodes id = fw.node) {t : Transmission}
    (arriving : fw.radio.arriving = some t) {padding : List UInt8}
    {rssi2 : Int16}
    (moved : fw.onPdc (roster.board id) (t.data ++ padding) rssi2 occurrence =
      .ok after) :
    ∃ next, Follows roster image next id after fw.log := by
  obtain ⟨srcId, genuine⟩ := sound.arriving t arriving
  rw [← srcId] at genuine
  have enqueued := sound.rxQueuePut genuine rssi2 padding
  unfold Firmware.onPdc at moved
  dsimp only at moved
  split at moved
  · cases moved
    exact ⟨image, .quiet sound node⟩
  · next packetType rest data =>
    split at moved
    · cases moved
      exact ⟨image, .quiet (enqueued _) node⟩
    · split at moved
      · cases moved
        exact ⟨image, .quiet sound node⟩
      · have either : ∀ known : Bool, ({ fw with
            rx := if known then DectMesh.rxQueuePut fw.rx (RxDataItem.ofEvent
              fw.radio.lastSenderId rssi2 (t.data ++ padding))
                ((RxDataItem.ofEvent fw.radio.lastSenderId rssi2
                  (t.data ++ padding)).data.bytes.getD 2 0)
            else fw.rx } : Firmware).Sound id image.sent := by
          intro known
          cases known with
          | false => exact sound
          | true => exact enqueued _
        have follows := handle_follows (either _) node moved rfl trivial
        exact follows

/-- The packet of an item is handled as that of the board it names. -/
theorem processRx_follows (sound : fw.Sound id image.sent)
    (node : image.nodes id = fw.node) {item : RxDataItem}
    {frame rest : List UInt8} (genuine : FrameOf image.sent item.senderId frame)
    (data : item.data.bytes = frame ++ rest)
    (moved : fw.processRx (roster.board id) item occurrence = .ok after) :
    ∃ next, Follows roster image next id after fw.log := by
  obtain ⟨pkt, member, rfl⟩ := genuine
  have cast := pkt.processRx_encode rest
  unfold Firmware.processRx at moved
  rw [data, cast] at moved
  split at moved
  · cases moved
    exact ⟨image, .quiet sound node⟩
  · next found handed =>
    split at handed
    · cases handed
    · cases handed
      split at moved
      · next event received =>
        obtain ⟨next, took⟩ := handle_took sound node moved
        exact ⟨next, took.hear member received⟩
      · split at moved
        · cases moved
          refine ⟨image, .quiet ?_ ?_⟩
          · exact sound.tracks (sound.tracked.removeByTrackingId _)
          · rw [node]
            exact congrArg (LiveNode.mk fw.live)
              (TrackerLog.removeFound_next _ _).symm
        · cases moved
          exact ⟨image, .quiet sound node⟩

theorem rxProcess_follows (sound : fw.Sound id image.sent)
    (node : image.nodes id = fw.node) {count : Nat}
    {round : Nat → MainSubState} {behind : MainSubState}
    (moved : fw.rxProcess (roster.board id) count round behind occurrence =
      .ok after) :
    ∃ next, Follows roster image next id after fw.log := by
  unfold Firmware.rxProcess at moved
  split at moved
  · split at moved
    · cases moved
      exact ⟨image, .quiet (sound.congr rfl rfl rfl rfl) node⟩
    · next item rx got =>
      obtain ⟨prio, accepted⟩ := sound.rx.mem_accepted got
      obtain ⟨frame, rest, genuine, data⟩ :=
        sound.received prio item accepted
      have taken : ({ fw with rx := rx, state := round (count + 1) } :
          Firmware).Sound id image.sent :=
        { sound with
          rx := sound.rx.get got
          received := by
            rw [Logged.get_accepted got]
            exact sound.received }
      have follows := processRx_follows taken node genuine data moved
      exact follows
  · cases moved
    exact ⟨image, .quiet (sound.congr rfl rfl rfl rfl) node⟩

end Receive

section Ticks

theorem trackerVisit_follows (sound : fw.Sound id image.sent)
    (node : image.nodes id = fw.node) {i : Fin trackerMaxEntries}
    (faithful : fw.tracker.tracker.Faithful i (fw.tracker.notes i).payload)
    (moved : fw.trackerVisit (roster.board id) i occurrence = .ok after) :
    ∃ next, Follows roster image next id after fw.log := by
  have visited : ({ fw with tracker := fw.tracker.visit i } :
      Firmware).Sound id image.sent := sound.tracks (sound.tracked.visit i)
  have visitedNode : image.nodes id =
      ({ fw with tracker := fw.tracker.visit i } : Firmware).node := by
    rw [node]
    dsimp only [Firmware.node]
    rw [(@TrackerLog.visit_tracker fw.tracker i).1, TrackerLog.visit_next]
  unfold Firmware.trackerVisit at moved
  dsimp only at moved
  split at moved
  · cases moved
    exact ⟨image, .quiet visited visitedNode⟩
  · have follows := handle_follows visited visitedNode moved rfl trivial
    exact follows
  · next entry fired =>
    split at moved
    · cases moved
      exact ⟨image, .quiet visited visitedNode⟩
    · next payload again =>
      cases moved
      have own : FrameOf image.sent id payload :=
        sound.tracked.resent
          (fun _ frame => le_trans frame.length_le (by decide)) faithful
          fired again
      exact ⟨image, .quiet (visited.txQueuePut own _) visitedNode⟩

theorem mainSubTick_follows (sound : fw.Sound id image.sent)
    (node : image.nodes id = fw.node) {tick : MainTick}
    (faithful : ∀ i, tick = .tracker i →
      fw.tracker.tracker.Faithful i (fw.tracker.notes i).payload)
    (moved : fw.mainSubTick (roster.board id) tick occurrence = .ok after) :
    ∃ next, Follows roster image next id after fw.log := by
  have advanced : ({ fw with state := tick.next } : Firmware).Sound id
      image.sent := sound.congr rfl rfl rfl rfl
  cases tick with
  | tracker i =>
      have follows :=
        trackerVisit_follows advanced node (faithful i rfl) moved
      exact follows
  | mesh | knownDevices | config | report | largeData =>
      have follows := handle_follows advanced node moved rfl trivial
      exact follows

end Ticks

section Transmit

/-- What the loop takes was enqueued, and all it sends. -/
theorem txLoop_sound {deviceId : UInt16} {count : Nat} {failures : List Bool}
    {queues : TxQueues} (conserved : queues.Conserved)
    (enqueued : ∀ prio item, (prio, item) ∈ queues.accepted →
      FrameOf sent deviceId item.frame) :
    (txLoop deviceId count failures queues).1.Conserved ∧
      (txLoop deviceId count failures queues).1.accepted = queues.accepted ∧
      ∀ t ∈ (txLoop deviceId count failures queues).2.1, t.Genuine sent := by
  induction count generalizing failures queues with
  | zero => exact ⟨conserved, rfl, fun _ member => nomatch member⟩
  | succ count ih =>
      unfold txLoop
      split
      · exact ⟨conserved, rfl, fun _ member => nomatch member⟩
      · next item rest got =>
        have later := conserved.get got
        have same := Logged.get_accepted got
        obtain ⟨prio, accepted⟩ := conserved.mem_accepted got
        split
        · exact ⟨later, same, fun _ member => nomatch member⟩
        · rw [← same] at enqueued accepted
          obtain ⟨whole, unchanged, sends⟩ :=
            @ih failures.tail rest later enqueued
          refine ⟨whole, unchanged.trans same, fun t member => ?_⟩
          rcases List.mem_cons.mp member with first | behind
          · rw [first]
            refine ⟨?_, rfl⟩
            rw [transmit_transmitterId]
            exact enqueued prio item accepted
          · exact sends t behind

theorem txProcess_follows (sound : fw.Sound id image.sent)
    (node : image.nodes id = fw.node) {failures : List Bool}
    {frames : List Transmission}
    (ran : fw.txProcess (roster.board id) failures = (after, frames)) :
    Follows roster image image id after fw.log ∧
      ∀ t ∈ frames, t.Genuine image.sent := by
  have own := roster.addressed id
  have enqueued := sound.enqueued
  rw [← own] at enqueued
  obtain ⟨conserved, same, sends⟩ :=
    @txLoop_sound image.sent (roster.board id).deviceId
      maxTxQueueProcessPerCycle failures fw.tx sound.tx enqueued
  unfold Firmware.txProcess at ran
  cases ran
  refine ⟨.quiet ?_ node, sends⟩
  exact { sound with
    tx := conserved
    enqueued := fun prio item member =>
      sound.enqueued prio item (same ▸ member) }

end Transmit

theorem mainSubInit_follows (sound : fw.Sound id image.sent)
    (node : image.nodes id = fw.node) {config report ld : Io}
    (moved : fw.mainSubInit (roster.board id) config report ld occurrence =
      .ok after) :
    ∃ next, Follows roster image next id after fw.log := by
  have ready : ({ fw with
      state := Firmware.initialized (roster.board id) } : Firmware).Sound id
        image.sent := sound.congr rfl rfl rfl rfl
  unfold Firmware.mainSubInit at moved
  dsimp only at moved
  split at moved
  · split at moved
    · cases moved
      exact ⟨image, .quiet sound node⟩
    · have follows := handle_follows ready node moved rfl trivial
      exact follows
  · split at moved
    · cases moved
      exact ⟨image, .quiet sound node⟩
    · have follows := handle_follows ready node moved rfl trivial
      exact follows

end Follow

end Firmware

namespace LiveEvent

/-- What the host does is an event of its board. -/
theorem isHost_isLocal {event : LiveEvent} (host : event.isHost = true) :
    event.isLocal = true := by
  unfold LiveEvent.isHost at host
  split at host
  all_goals first
    | rfl
    | cases host

/-- What a button does is as well, and stays out of the PSRAM of others. -/
theorem isButton_isLocal {event : LiveEvent} (button : event.isButton = true) :
    event.isLocal = true ∧ ∀ b, LiveNet.Separate b event := by
  unfold LiveEvent.isButton at button
  split at button
  all_goals first
    | exact ⟨rfl, fun _ => trivial⟩
    | cases button

end LiveEvent

namespace FirmwareNet

variable {roster : Roster} {net after : FirmwareNet} {image : LiveNet}

/-- The network of the handlers in which the boards are as they are here, and
everything on the way was sent by the board whose name it bears. -/
structure Matches (net : FirmwareNet) (image : LiveNet) : Prop where
  node : ∀ id, image.nodes id = (net.boards id).node
  sound : ∀ id, (net.boards id).Sound id image.sent
  air : ∀ t ∈ net.air, t.Genuine image.sent
  log : ∀ entry ∈ image.log, entry ∈ (net.boards entry.id).log

theorem matches_off (rom : UInt16 → Eeprom) (psram : UInt16 → Psram) :
    (off rom psram).Matches (.off rom) where
  node := fun _ => rfl
  sound := fun id => .off (rom id) (psram id)
  air := fun _ member => nomatch member
  log := fun _ member => nomatch member

/-- What a board did, seen from the network. -/
theorem Matches.follows {next : LiveNet} {id : UInt16} {fw : Firmware}
    {sent : List Transmission} (before : net.Matches image)
    (follows : Firmware.Follows roster image next id fw (net.boards id).log)
    (frames : ∀ t ∈ sent, t.Genuine next.sent) :
    ({ boards := Function.update net.boards id fw
       air := net.air ++ sent } : FirmwareNet).Matches next where
  node := by
    intro other
    dsimp only
    by_cases same : other = id
    · subst same
      rw [Function.update_self]
      exact follows.node
    · rw [Function.update_of_ne same, follows.others other same]
      exact before.node other
  sound := by
    intro other
    dsimp only
    by_cases same : other = id
    · subst same
      rw [Function.update_self]
      exact follows.sound
    · rw [Function.update_of_ne same]
      exact (before.sound other).mono follows.more
  air := by
    intro t member
    rcases List.mem_append.mp member with old | new
    · exact (before.air t old).mono follows.more
    · exact frames t new
  log := by
    intro entry member
    dsimp only
    rcases follows.log entry member with old | ⟨same, new⟩
    · have kept := before.log entry old
      by_cases same : entry.id = id
      · rw [same, Function.update_self]
        rw [same] at kept
        exact follows.kept kept
      · rw [Function.update_of_ne same]
        exact kept
    · rw [same, Function.update_self]
      exact new

/-- Every step of a board is one of the network, or none. -/
theorem Matches.step (before : net.Matches image)
    {event : UInt16 × FirmwareEvent} (admitted : net.Admits event)
    (stepped : net.step roster event = .ok after) :
    ∃ next, Trace.Reach (LiveNet.step roster) LiveNet.Admits image next ∧
      after.Matches next := by
  obtain ⟨id, event⟩ := event
  have sound := before.sound id
  have node := before.node id
  have idle : ∃ next, Firmware.Follows roster image next id (net.boards id)
      (net.boards id).log := ⟨image, .quiet sound node⟩
  -- a step that puts nothing on the air
  have silent {fw : Firmware} (follows : ∃ next,
      Firmware.Follows roster image next id fw (net.boards id).log) :
      ∃ next, Trace.Reach (LiveNet.step roster) LiveNet.Admits image next ∧
        ({ boards := Function.update net.boards id fw
           air := net.air ++ [] } : FirmwareNet).Matches next := by
    obtain ⟨next, took⟩ := follows
    exact ⟨next, took.reach, before.follows took fun _ none => nomatch none⟩
  unfold FirmwareNet.step at stepped
  split at stepped
  · cases stepped
  · next fw sent moved =>
    cases stepped
    cases event with
    | elapse ms =>
        cases moved
        exact silent ⟨image, .quiet (sound.tracks (sound.tracked.quiet
          (fun _ => .inl rfl) rfl)) node⟩
    | pcc position =>
        dsimp only [Firmware.step] at moved
        split at moved
        · cases moved
          exact silent idle
        · next t here =>
          cases moved
          have frame := (before.air t (List.mem_of_getElem? here)).1
          refine silent ⟨image, .quiet ?_ node⟩
          exact { sound with
            arriving := by
              intro arriving same
              cases same
              exact ⟨rfl, frame⟩ }
    | pdc padding rssi2 occurrence =>
        dsimp only [Firmware.step] at moved
        split at moved
        · cases moved
          exact silent idle
        · next t arriving =>
          obtain ⟨ran, rfl⟩ := Firmware.of_map moved
          exact silent (Firmware.onPdc_follows sound node arriving ran)
    | init config report ld occurrence =>
        dsimp only [Firmware.step] at moved
        split at moved
        · obtain ⟨ran, rfl⟩ := Firmware.of_map moved
          exact silent (Firmware.mainSubInit_follows sound node ran)
        · cases moved
          exact silent idle
    | receive started =>
        dsimp only [Firmware.step] at moved
        split at moved
        · cases moved
          exact silent ⟨image, .quiet (sound.congr rfl rfl rfl rfl) node⟩
        · cases moved
          exact silent idle
    | rx occurrence =>
        dsimp only [Firmware.step] at moved
        split at moved
        · obtain ⟨ran, rfl⟩ := Firmware.of_map moved
          exact silent (Firmware.rxProcess_follows sound node ran)
        · obtain ⟨ran, rfl⟩ := Firmware.of_map moved
          exact silent (Firmware.rxProcess_follows sound node ran)
        · cases moved
          exact silent idle
    | operationDone =>
        dsimp only [Firmware.step] at moved
        split at moved
        · cases moved
          exact silent ⟨image, .quiet (sound.congr rfl rfl rfl rfl) node⟩
        · cases moved
          exact silent idle
    | tick occurrence =>
        dsimp only [Firmware.step] at moved
        split at moved
        · next tick here =>
          obtain ⟨ran, rfl⟩ := Firmware.of_map moved
          refine silent (Firmware.mainSubTick_follows sound node ?_ ran)
          rintro i rfl
          exact admitted i here
        · cases moved
          exact silent idle
    | transmit failures =>
        dsimp only [Firmware.step] at moved
        split at moved
        · obtain ⟨took, frames⟩ :=
            Firmware.txProcess_follows sound node (Except.ok.inj moved)
          exact ⟨image, .refl, before.follows took frames⟩
        · cases moved
          exact silent idle
    | recover =>
        dsimp only [Firmware.step] at moved
        split at moved
        · cases moved
          exact silent ⟨image, .quiet (sound.congr rfl rfl rfl rfl) node⟩
        · cases moved
          exact silent idle
    | host occurrence =>
        dsimp only [Firmware.step] at moved
        split at moved
        · obtain ⟨ran, rfl⟩ := Firmware.of_map moved
          obtain ⟨host, apart⟩ := admitted
          exact silent (Firmware.handle_follows sound node ran
            (LiveEvent.isHost_isLocal host) apart)
        · cases moved
          exact silent idle
    | button occurrence =>
        obtain ⟨ran, rfl⟩ := Firmware.of_map moved
        obtain ⟨own, apart⟩ := LiveEvent.isButton_isLocal admitted
        exact silent (Firmware.handle_follows sound node ran own (apart _))

/-- Every run of boards with queues, trackers and radios is one of the
network of their handlers. -/
theorem reach_matches {rom : UInt16 → Eeprom} {psram : UInt16 → Psram}
    (reach : Trace.Reach (step roster) Admits (off rom psram) net) :
    ∃ image, Trace.Reach (LiveNet.step roster) LiveNet.Admits (.off rom)
      image ∧ net.Matches image := by
  apply reach.simulated (matches_off rom psram)
  intro before event after image related _ admitted stepped
  exact related.step admitted stepped

end FirmwareNet

section Ordered

/-- A handler that this board ran ordered the packet, but for its tracking
id. -/
def Ordered (roster : Roster) (log : List Handled) (srcId : UInt16)
    (pkt : AirPacket) : Prop :=
  ∃ entry ∈ log, entry.id = srcId ∧ ∃ after,
    entry.before.step (roster.board srcId) entry.occurrence = .ok after ∧
      ∃ order ∈ after.out, ∃ ordered fresh,
        order.packet = some (ordered, fresh) ∧
          (pkt = ordered ∨ ∃ id, pkt = ordered.stamp id)

variable {roster : Roster} {net after : LiveNet} {srcId : UInt16}
variable {pkt : AirPacket}

theorem Ordered.mono {log later : List Handled}
    (ordered : Ordered roster log srcId pkt)
    (more : ∀ entry ∈ log, entry.id = srcId → entry ∈ later) :
    Ordered roster later srcId pkt := by
  obtain ⟨entry, member, own, rest⟩ := ordered
  exact ⟨entry, more entry member own, own, rest⟩

theorem LiveNet.handle_ordered {id : UInt16} {occurrence : LiveOccurrence}
    (before : ∀ sent ∈ net.sent, Ordered roster net.log sent.1 sent.2)
    (moved : net.handle roster id occurrence = .ok after) :
    ∀ sent ∈ after.sent, Ordered roster after.log sent.1 sent.2 := by
  unfold LiveNet.handle at moved
  split at moved
  · cases moved
  · next node stamped stepped =>
    cases moved
    rintro ⟨srcId, pkt⟩ member
    rcases List.mem_append.mp member with old | new
    · exact (before _ old).mono fun entry inside _ =>
        List.mem_append_left _ inside
    · obtain ⟨own, inside, same⟩ := List.mem_map.mp new
      cases same
      unfold LiveNode.step at stepped
      split at stepped
      · cases stepped
      · next live lived =>
        cases stepped
        obtain ⟨order, given, ordered, fresh, packet, stamps⟩ :=
          mem_stampRun inside
        exact ⟨_, List.mem_append_right _ List.mem_cons_self, rfl, live,
          lived, order, given, ordered, fresh, packet, stamps⟩

/-- In the network of the handlers, nothing is sent that no handler of the
board ordered. -/
theorem LiveNet.reach_ordered {rom : UInt16 → Eeprom}
    (reach : Trace.Reach (LiveNet.step roster) LiveNet.Admits (.off rom) net) :
    ∀ sent ∈ net.sent, Ordered roster net.log sent.1 sent.2 := by
  apply reach.invariant
  · intro sent member
    cases member
  · intro before event after hold _ stepped
    unfold LiveNet.step at stepped
    split at stepped
    · exact handle_ordered hold stepped
    · split at stepped
      · cases stepped
        exact hold
      · split at stepped
        · cases stepped
          exact hold
        · exact handle_ordered hold stepped

end Ordered

namespace FirmwareNet

variable {roster : Roster} {net : FirmwareNet}
variable {rom : UInt16 → Eeprom} {psram : UInt16 → Psram}

theorem Matches.ordered {image : LiveNet} (related : net.Matches image)
    (reach : Trace.Reach (LiveNet.step roster) LiveNet.Admits (.off rom) image)
    {srcId : UInt16} {bytes : List UInt8}
    (frame : FrameOf image.sent srcId bytes) :
    ∃ pkt, bytes = pkt.encode ∧
      Ordered roster (net.boards srcId).log srcId pkt := by
  obtain ⟨pkt, member, same⟩ := frame
  have ordered := LiveNet.reach_ordered reach _ member
  refine ⟨pkt, same, ordered.mono fun entry inside own => ?_⟩
  have kept := related.log entry inside
  rw [own] at kept
  exact kept

section Sample

/-- No event of the host or of a button, and the tracker reads what it
stored. -/
def calm (net : FirmwareNet) (event : UInt16 × FirmwareEvent) : Bool :=
  match event.2 with
  | .host _ | .button _ => false
  | .tick _ =>
      match (net.boards event.1).state with
      | .ticking (.tracker i) =>
          (net.boards event.1).tracker.tracker.Faithful i
            ((net.boards event.1).tracker.notes i).payload
      | _ => true
  | _ => true

theorem admits_of_calm (net : FirmwareNet) (event : UInt16 × FirmwareEvent)
    (isCalm : calm net event = true) : net.Admits event := by
  obtain ⟨id, event⟩ := event
  cases event with
  | host occurrence => cases isCalm
  | button occurrence => cases isCalm
  | tick occurrence =>
      intro i here
      unfold calm at isCalm
      dsimp only at isCalm
      rw [here] at isCalm
      exact of_decide_eq_true isCalm
  | _ => trivial

/-- Nothing is random, nothing fails. -/
def still : LiveOccurrence where
  event := .reboot

/-- Sensor 5 starts without neighbours, and its main loop comes to
`MAIN_SUB_TX_PROCESS`. -/
def requestEnqueued : List (UInt16 × FirmwareEvent) :=
  [(5, .init {} {} {} still), (5, .receive true), (5, .operationDone),
    (5, .rx still)] ++ List.replicate 133 (5, .tick still)

example : requestEnqueued.length = 137 := by
  decide +kernel

/-- The gateway hears the request that the sensor sends. -/
def requestHeard : List (UInt16 × FirmwareEvent) :=
  (1, .init {} {} {} still) :: requestEnqueued ++
    [(5, .transmit []), (1, .receive true), (1, .pcc 0),
      (1, .pdc [0, 0] 0 still)]

end Sample

/-- Boards with queues, trackers and radios do what the network of their
handlers can do: the same handlers run on the same boards in some order, each
on a packet that the board it is taken for sent. -/
theorem runs_match
    (reach : Trace.Reach (step roster) Admits (off rom psram) net) :
    ∃ image, Trace.Reach (LiveNet.step roster) LiveNet.Admits (.off rom)
        image ∧
      (∀ id, (image.nodes id).live = (net.boards id).live) ∧
      (∀ t ∈ net.air, t.Genuine image.sent) ∧
      ∀ entry ∈ image.log, entry ∈ (net.boards entry.id).log := by
  obtain ⟨image, reached, related⟩ := reach_matches reach
  refine ⟨image, reached, fun id => ?_, related.air, related.log⟩
  rw [related.node id]
  rfl

theorem runs_match_request :
    ∃ net, Trace.run (Trace.guarded calm (step pairRoster))
        (off (fun _ => {}) fun _ => {}) requestHeard = .ok net ∧
      net.air.length = 1 ∧
      ∃ image, Trace.Reach (LiveNet.step pairRoster) LiveNet.Admits
          (.off fun _ => {}) image ∧
        (∀ id, (image.nodes id).live = (net.boards id).live) ∧
        (∀ t ∈ net.air, t.Genuine image.sent) ∧
        ∀ entry ∈ image.log, entry ∈ (net.boards entry.id).log := by
  obtain ⟨net, executed, sent⟩ :
      Trace.Ends (Trace.guarded calm (step pairRoster))
        (off (fun _ => {}) fun _ => {}) requestHeard fun net =>
          net.air.length = 1 := by
    decide +kernel
  exact ⟨net, executed, sent,
    runs_match (Trace.Reach.of_guarded admits_of_calm executed)⟩

/-- What goes over the air and what a board takes out of its queues is, byte
for byte, what a handler of the board it is taken for ordered; a transmission
fits into the subslots it asks for. -/
theorem frames_ordered
    (reach : Trace.Reach (step roster) Admits (off rom psram) net) :
    (∀ t ∈ net.air, (∃ pkt, t.data = pkt.encode ∧
      Ordered roster (net.boards t.transmitterId).log t.transmitterId pkt) ∧
        1 ≤ t.packetLength.toNat ∧ t.packetLength.toNat ≤ 15 ∧
          t.data.length ≤ 14 * t.packetLength.toNat) ∧
      ∀ id item rx, rxQueueGet (net.boards id).rx = some (item, rx) →
        ∀ pkt, processRx item.data.bytes = some pkt →
          Ordered roster (net.boards item.senderId).log item.senderId pkt := by
  obtain ⟨image, reached, related⟩ := reach_matches reach
  constructor
  · intro t member
    obtain ⟨frame, asked⟩ := related.air t member
    rw [asked]
    exact ⟨related.ordered reached frame, subslots_fit frame.fits⟩
  · intro id item rx got pkt cast
    obtain ⟨prio, accepted⟩ := (related.sound id).rx.mem_accepted got
    obtain ⟨frame, rest, genuine, data⟩ :=
      (related.sound id).received prio item accepted
    obtain ⟨sent, same, ordered⟩ := related.ordered reached genuine
    rw [data, same, sent.processRx_encode] at cast
    split at cast
    · cases cast
    · cases cast
      exact ordered

theorem frames_ordered_request :
    ∃ net item rx pkt, Trace.run (Trace.guarded calm (step pairRoster))
        (off (fun _ => {}) fun _ => {}) requestHeard = .ok net ∧
      rxQueueGet (net.boards 1).rx = some (item, rx) ∧
      processRx item.data.bytes = some pkt ∧
      Ordered pairRoster (net.boards item.senderId).log item.senderId
        pkt := by
  obtain ⟨net, executed, enqueued⟩ :
      Trace.Ends (Trace.guarded calm (step pairRoster))
        (off (fun _ => {}) fun _ => {}) requestHeard fun net =>
          ((rxQueueGet (net.boards 1).rx).bind fun taken =>
            processRx taken.1.data.bytes).isSome := by
    decide +kernel
  obtain ⟨pkt, found⟩ := Option.isSome_iff_exists.mp enqueued
  obtain ⟨⟨item, rx⟩, got, cast⟩ := Option.bind_eq_some_iff.mp found
  have ordered := frames_ordered
    (Trace.Reach.of_guarded admits_of_calm executed)
  exact ⟨net, item, rx, pkt, executed, got, cast,
    ordered.2 1 item rx got pkt cast⟩

end FirmwareNet

end DectMesh
