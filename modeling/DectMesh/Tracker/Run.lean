import DectMesh.Library.Trace
import DectMesh.Tracker.Model

/-!
# Runs of the tracker

The calls of the other modules, the rounds of the ticks, and the time that
passes between them.  Beside the tracker a log keeps what the code does not:
which entry a slot holds, what was given for it, and when it fired.
-/

namespace DectMesh

/-- What happens to the tracker between two rounds of its tick: in the main
loop, or in the callback. -/
inductive TrackerCall where
  /-- `k_uptime_get` goes on. -/
  | elapse (ms : Nat)
  /-- `tracker_next_id` for a packet that is not tracked. -/
  | nextId
  /-- `tracker_add` under any id. -/
  | add (trackingId : UInt8) (request : TrackerRequest)
  /-- A `send_*` helper: `tracker_next_id`, and `tracker_add` under this id. -/
  | send (request : TrackerRequest)
  | removeByTrackingId (trackingId : UInt8)
  | removeByDst (dstId : UInt16) (packetType : UInt8)
  | removeByDevice (dstId : UInt16)
  | updatePayload (trackingId : UInt8) (payload : List UInt8)
  deriving DecidableEq

inductive TrackerEvent where
  | call (call : TrackerCall)
  /-- The loop of `tracker_tick` comes to this entry. -/
  | visit (i : Fin trackerMaxEntries)
  deriving DecidableEq

/-- What was noted of the entry in a slot: its place in the order in which
entries were added, how many ids were given out before its own, and the
payload last given for it. -/
structure TrackerNote where
  serial : Nat := 0
  allocation : Nat := 0
  payload : List UInt8 := []
  deriving DecidableEq

/-- One call of the callback. -/
structure Firing where
  serial : Nat
  time : Nat
  exhausted : Bool
  deriving DecidableEq

/-- A tracker with its log.  `added` are the entries in their order, each with
the uptime at which it was added, `firings` the calls of the callback, the
last one first, `gone` the entries that were removed, and `repeats` the
packets enqueued again, each after the payload last given for its entry. -/
structure TrackerLog where
  tracker : Tracker
  now : Nat := 0
  issued : Nat := 0
  added : List (Nat × TrackerRequest) := []
  notes : Fin trackerMaxEntries → TrackerNote := fun _ => {}
  firings : List Firing := []
  gone : List Nat := []
  repeats : List (List UInt8 × List UInt8) := []

namespace TrackerLog

/-- After `tracker_init`. -/
def boot (crc : List UInt8 → UInt16) (psram : Psram) : TrackerLog where
  tracker := { crc := crc, psram := psram }

variable (log : TrackerLog)

/-- `tracker_add`; without a free entry nothing is noted. -/
def enlist (trackingId : UInt8) (allocation : Nat) (request : TrackerRequest) :
    TrackerLog :=
  match log.tracker.freeEntry with
  | none => log
  | some i =>
      { log with
        tracker := (log.tracker.trackerAdd log.now trackingId request).1
        added := log.added ++ [(log.now, request)]
        notes := Function.update log.notes i
          { serial := log.added.length
            allocation := allocation
            payload := request.payload } }

theorem enlist_full {log : TrackerLog} (full : log.tracker.freeEntry = none)
    (trackingId : UInt8) (allocation : Nat) (request : TrackerRequest) :
    log.enlist trackingId allocation request = log := by
  rw [enlist, full]

theorem enlist_free {log : TrackerLog} {i : Fin trackerMaxEntries}
    (free : log.tracker.freeEntry = some i) (trackingId : UInt8)
    (allocation : Nat) (request : TrackerRequest) :
    log.enlist trackingId allocation request =
      { log with
        tracker := (log.tracker.trackerAdd log.now trackingId request).1
        added := log.added ++ [(log.now, request)]
        notes := Function.update log.notes i
          { serial := log.added.length
            allocation := allocation
            payload := request.payload } } := by
  rw [enlist, free]

/-- A removal that leaves this tracker. -/
def remove (tracker : Tracker) : TrackerLog :=
  { log with
    tracker := tracker
    gone := log.gone ++
      ((List.finRange trackerMaxEntries).filter fun i =>
        (log.tracker.indexPool i).active ∧ !(tracker.indexPool i).active).map
          fun i => (log.notes i).serial }

/-- `tracker_next_id`. -/
def allocate : TrackerLog :=
  { log with
    tracker := log.tracker.trackerNextId.1
    issued := log.issued + 1 }

/-- The payload given for the entry that a search found. -/
def noteUpdate (found : Option (Fin trackerMaxEntries))
    (payload : List UInt8) : Fin trackerMaxEntries → TrackerNote :=
  match found with
  | none => log.notes
  | some i =>
      Function.update log.notes i { log.notes i with payload := payload }

def handle : TrackerCall → TrackerLog
  | .elapse ms => { log with now := log.now + ms }
  | .nextId => log.allocate
  | .add trackingId request => log.enlist trackingId 0 request
  | .send request =>
      log.allocate.enlist log.tracker.trackerNextId.2 log.issued request
  | .removeByTrackingId trackingId =>
      log.remove (log.tracker.trackerRemoveByTrackingId trackingId)
  | .removeByDst dstId packetType =>
      log.remove (log.tracker.trackerRemoveByDst dstId packetType)
  | .removeByDevice dstId =>
      log.remove (log.tracker.trackerRemoveByDevice dstId)
  | .updatePayload trackingId payload =>
      { log with
        tracker := (log.tracker.trackerUpdatePayload trackingId payload).1
        notes := log.noteUpdate (log.tracker.findTrackingId trackingId)
          payload }

/-- What a round gives the callback, if anything. -/
def fired (i : Fin trackerMaxEntries) : Option (DataTracker × Bool) :=
  (log.tracker.visit log.now i).2

/-- One round of the loop of `tracker_tick`, with what
`tracker_default_expired_cb` enqueues. -/
def visit (i : Fin trackerMaxEntries) : TrackerLog :=
  match log.fired i with
  | none => { log with tracker := (log.tracker.visit log.now i).1 }
  | some (entry, exhausted) =>
      { log with
        tracker := (log.tracker.visit log.now i).1
        firings :=
          { serial := (log.notes i).serial
            time := log.now
            exhausted := exhausted } :: log.firings
        repeats := log.repeats ++
          ((Tracker.resent entry exhausted).map fun bytes =>
            ((log.notes i).payload, bytes)).toList }

def after : TrackerEvent → TrackerLog
  | .call call => log.handle call
  | .visit i => log.visit i

/-- No event of the tracker is a fault. -/
def step (event : TrackerEvent) : Except Empty TrackerLog :=
  .ok (log.after event)

/-- Any run: the calls and the rounds come in any order. -/
def Anything (_ : TrackerLog) (_ : TrackerEvent) : Prop := True

/-- One round with what the callback calls then. -/
def round
    (callback : Fin trackerMaxEntries → DataTracker → Bool → List TrackerCall)
    (log : TrackerLog) (i : Fin trackerMaxEntries) : TrackerLog :=
  match log.fired i with
  | none => log.visit i
  | some (entry, exhausted) =>
      (callback i entry exhausted).foldl handle (log.visit i)

/-- `tracker_tick`, with a callback that may call the tracker. -/
def trackerTick
    (callback : Fin trackerMaxEntries → DataTracker → Bool → List TrackerCall) :
    TrackerLog :=
  (List.finRange trackerMaxEntries).foldl (round callback) log

theorem reach_after (log : TrackerLog) (event : TrackerEvent) :
    Trace.Reach step Anything log (log.after event) :=
  .next .refl trivial rfl

/-- Calls that a run may make, one after the other, are a run. -/
theorem calls_reach {admits : TrackerLog → TrackerEvent → Prop}
    (calls : List TrackerCall) (log : TrackerLog)
    (admitted : ∀ call ∈ calls, ∀ log, admits log (.call call)) :
    Trace.Reach step admits log (calls.foldl handle log) := by
  induction calls generalizing log with
  | nil => exact .refl
  | cons call rest ih =>
      have first : Trace.Reach step admits log (log.handle call) :=
        .next .refl (admitted call List.mem_cons_self log) rfl
      exact first.trans (ih (log.handle call) fun other member =>
        admitted other (List.mem_cons_of_mem call member))

end TrackerLog

end DectMesh
