import DectMesh.Library.RecordStore
import DectMesh.Psram
import DectMesh.Queue
import DectMesh.Timeout

/-!
# The tracker

`tracker.c`: the packets that wait for an answer.  What is needed to find an
entry stands in RAM; the packet itself stands in the PSRAM, in a slot of its
entry, with a CRC-16 behind it.
-/

namespace DectMesh

open ByteStore

def trackerMaxEntries : Nat := 128
def trackerPayloadMax : Nat := queueDataMax
def trackerSlotSize : Nat := trackerPayloadMax + 2
def psramTrackerBase : Nat := 0x000000

/-- `struct tracker_index`. -/
structure TrackerIndex where
  dstId : UInt16 := 0
  prevId : UInt16 := 0
  trackingId : UInt8 := 0
  packetType : UInt8 := 0
  timeout : NbTimeout := {}
  active : Bool := false
  payloadLen : Nat := 0
  deriving DecidableEq

/-- `struct data_tracker`, which the callback gets; of the payload only what
was read. -/
structure DataTracker extends TrackerIndex where
  payload : List UInt8 := []
  deriving DecidableEq

/-- The arguments of `tracker_add`, without the id. -/
structure TrackerRequest where
  dstId : UInt16 := 0
  prevId : UInt16 := 0
  packetType : UInt8 := 0
  timeoutMs : Nat
  maxRetries : Nat
  payload : List UInt8 := []
  deriving DecidableEq

/-- Zephyr's `crc16_ccitt` with the seed `0xFFFF`. -/
def Tracker.crc16Ccitt (data : List UInt8) : UInt16 :=
  data.foldl
    (fun seed byte =>
      let e := seed.toUInt8 ^^^ byte
      let f := (e ^^^ (e <<< 4)).toUInt16
      (seed >>> 8) ^^^ (f <<< 8) ^^^ (f <<< 3) ^^^ (f >>> 4))
    0xFFFF

/-- The variables of `tracker.c`, and the memory behind them.  Nothing is
assumed of `crc`. -/
structure Tracker where
  crc : List UInt8 → UInt16 := Tracker.crc16Ccitt
  indexPool : Fin trackerMaxEntries → TrackerIndex := fun _ => {}
  nextTrackingId : UInt8 := 1
  psram : Psram := {}

namespace Tracker

variable (s : Tracker)

def setIndex (i : Fin trackerMaxEntries) (index : TrackerIndex) : Tracker :=
  { s with indexPool := Function.update s.indexPool i index }

section Payload

/-- `psram_slot_addr`. -/
def psramSlotAddr (i : Fin trackerMaxEntries) : Nat :=
  psramTrackerBase + i.val * trackerSlotSize

/-- What `psram_payload_write` writes. -/
def sealed (payload : List UInt8) : List UInt8 :=
  payload ++ RecordStore.littleEndian 2 (s.crc payload).toNat

/-- `psram_payload_write`. -/
def psramPayloadWrite (i : Fin trackerMaxEntries) (payload : List UInt8) :
    Tracker × Option Errno :=
  ({ s with psram := (s.psram.write (psramSlotAddr i) (s.sealed payload)).1 },
    (s.psram.write (psramSlotAddr i) (s.sealed payload)).2)

/-- `psram_payload_read`; the callers tell no error from another. -/
def psramPayloadRead (i : Fin trackerMaxEntries) (len : Nat) :
    Tracker × Option (List UInt8) :=
  match s.psram.read (psramSlotAddr i) (len + 2) with
  | (psram, .error _) => ({ s with psram := psram }, none)
  | (psram, .ok data) =>
      ({ s with psram := psram },
        if data = s.sealed (data.take len) then some (data.take len) else none)

end Payload

section Entries

/-- `tracker_next_id`. -/
def trackerNextId : Tracker × UInt8 :=
  ({ s with nextTrackingId :=
      if 255 ≤ s.nextTrackingId + 1 then 1 else s.nextTrackingId + 1 },
    s.nextTrackingId)

/-- The first entry out of use. -/
@[irreducible]
def freeEntry : Option (Fin trackerMaxEntries) :=
  Fin.find? fun i => (s.indexPool i).active = false

/-- The first entry in use with this tracking id. -/
@[irreducible]
def findTrackingId (trackingId : UInt8) : Option (Fin trackerMaxEntries) :=
  Fin.find? fun i =>
    (s.indexPool i).active ∧ (s.indexPool i).trackingId = trackingId

/-- The first entry in use for a packet of this kind to this device. -/
@[irreducible]
def findDst (dstId : UInt16) (packetType : UInt8) :
    Option (Fin trackerMaxEntries) :=
  Fin.find? fun i =>
    (s.indexPool i).active ∧ (s.indexPool i).dstId = dstId ∧
      (s.indexPool i).packetType = packetType

/-- The entry `tracker_add` writes, at uptime `now`. -/
def added (now : Nat) (trackingId : UInt8) (request : TrackerRequest) :
    TrackerIndex where
  dstId := request.dstId
  prevId := request.prevId
  trackingId := trackingId
  packetType := request.packetType
  timeout := (NbTimeout.init request.timeoutMs request.maxRetries).start now
  active := true
  payloadLen := (request.payload.take trackerPayloadMax).length

/-- `tracker_add`; the result of the write of the payload is not looked at. -/
def trackerAdd (now : Nat) (trackingId : UInt8) (request : TrackerRequest) :
    Tracker × Option (Fin trackerMaxEntries) :=
  match s.freeEntry with
  | none => (s, none)
  | some i =>
      let s := s.setIndex i (added now trackingId request)
      if request.payload = [] then
        (s, some i)
      else
        ((s.psramPayloadWrite i (request.payload.take trackerPayloadMax)).1,
          some i)

/-- An entry that was removed. -/
def removed (index : TrackerIndex) : TrackerIndex :=
  { index with active := false, timeout := index.timeout.stop }

/-- Remove the entry a search found. -/
def removeFound : Option (Fin trackerMaxEntries) → Tracker
  | none => s
  | some i => s.setIndex i (removed (s.indexPool i))

/-- `tracker_remove_by_tracking_id`. -/
def trackerRemoveByTrackingId (trackingId : UInt8) : Tracker :=
  s.removeFound (s.findTrackingId trackingId)

/-- `tracker_remove_by_dst`. -/
def trackerRemoveByDst (dstId : UInt16) (packetType : UInt8) : Tracker :=
  s.removeFound (s.findDst dstId packetType)

/-- `tracker_remove_by_device`. -/
def trackerRemoveByDevice (dstId : UInt16) : Tracker :=
  { s with indexPool := fun i =>
      if (s.indexPool i).active ∧ (s.indexPool i).dstId = dstId then
        removed (s.indexPool i)
      else
        s.indexPool i }

/-- `tracker_update_payload`. -/
def trackerUpdatePayload (trackingId : UInt8) (payload : List UInt8) :
    Tracker × Option Errno :=
  match s.findTrackingId trackingId with
  | none => (s, some .enoent)
  | some i =>
      let payload := payload.take trackerPayloadMax
      (s.setIndex i { s.indexPool i with payloadLen := payload.length })
        |>.psramPayloadWrite i payload

end Entries

section Tick

/-- An entry after a round in which it fired. -/
def retried (now : Nat) (index : TrackerIndex) : TrackerIndex :=
  { index with
    timeout := (index.timeout.retry now).1
    active := !(index.timeout.retry now).2 }

/-- The entry with its payload, or without one that cannot be read. -/
def loaded (index : TrackerIndex) : Option (List UInt8) → DataTracker
  | some payload => { index with payload := payload }
  | none => { index with payloadLen := 0, payload := [] }

/-- The loop body of `tracker_tick` up to the callback, with what the callback
gets: the entry, and whether it is exhausted. -/
def visit (now : Nat) (i : Fin trackerMaxEntries) :
    Tracker × Option (DataTracker × Bool) :=
  let index := s.indexPool i
  if index.active ∧ index.timeout.expired now then
    let exhausted := (index.timeout.retry now).2
    let index := retried now index
    let s := s.setIndex i index
    if index.payloadLen = 0 then
      (s, some ({ index with payload := [] }, exhausted))
    else
      let (s, payload) := s.psramPayloadRead i index.payloadLen
      (s, some (loaded index payload, exhausted))
  else
    (s, none)

/-- The packet that `tracker_default_expired_cb` enqueues again. -/
def resent (entry : DataTracker) (exhausted : Bool) : Option (List UInt8) :=
  if exhausted ∨ entry.payloadLen = 0 then none else some entry.payload

end Tick

section Facts

variable {s} {i : Fin trackerMaxEntries}

@[simp]
theorem setIndex_indexPool (i : Fin trackerMaxEntries) (index : TrackerIndex) :
    (s.setIndex i index).indexPool = Function.update s.indexPool i index := rfl

@[simp]
theorem psramPayloadWrite_indexPool (payload : List UInt8) :
    (s.psramPayloadWrite i payload).1.indexPool = s.indexPool := rfl

@[simp]
theorem psramPayloadRead_indexPool (len : Nat) :
    (s.psramPayloadRead i len).1.indexPool = s.indexPool := by
  unfold psramPayloadRead
  split <;> rfl

theorem freeEntry_some (free : s.freeEntry = some i) :
    (s.indexPool i).active = false := by
  unfold freeEntry at free
  simpa using Fin.eq_true_of_find?_eq_some free

theorem findTrackingId_some {trackingId : UInt8}
    (found : s.findTrackingId trackingId = some i) :
    (s.indexPool i).active = true ∧
      (s.indexPool i).trackingId = trackingId := by
  unfold findTrackingId at found
  simpa using Fin.eq_true_of_find?_eq_some found

theorem findTrackingId_none {trackingId : UInt8}
    (missing : s.findTrackingId trackingId = none)
    (active : (s.indexPool i).active = true) :
    (s.indexPool i).trackingId ≠ trackingId := by
  unfold findTrackingId at missing
  simp only [Fin.find?_eq_none_iff] at missing
  simpa [active] using missing i

theorem trackerAdd_indexPool (now : Nat) (trackingId : UInt8)
    (request : TrackerRequest) (free : s.freeEntry = some i) :
    (s.trackerAdd now trackingId request).1.indexPool =
      Function.update s.indexPool i (added now trackingId request) := by
  rw [trackerAdd, free]
  dsimp only
  split <;> rfl

theorem trackerUpdatePayload_indexPool {trackingId : UInt8}
    {payload : List UInt8} (found : s.findTrackingId trackingId = some i) :
    (s.trackerUpdatePayload trackingId payload).1.indexPool =
      Function.update s.indexPool i
        { s.indexPool i with
          payloadLen := (payload.take trackerPayloadMax).length } := by
  rw [trackerUpdatePayload, found]
  rfl

/-- A removal leaves an entry as it is, or puts it out of use. -/
theorem removeFound_each (found : Option (Fin trackerMaxEntries))
    (i : Fin trackerMaxEntries) :
    (s.removeFound found).indexPool i = s.indexPool i ∨
      ((s.removeFound found).indexPool i).active = false := by
  cases found with
  | none => exact .inl rfl
  | some j =>
      unfold removeFound
      rw [setIndex_indexPool]
      by_cases same : i = j
      · subst same
        rw [Function.update_self]
        exact .inr rfl
      · rw [Function.update_of_ne same]
        exact .inl rfl

theorem removeByDevice_each (dstId : UInt16)
    (i : Fin trackerMaxEntries) :
    (s.trackerRemoveByDevice dstId).indexPool i = s.indexPool i ∨
      ((s.trackerRemoveByDevice dstId).indexPool i).active = false := by
  unfold trackerRemoveByDevice
  dsimp only
  split
  · exact .inr rfl
  · exact .inl rfl

/-- The entry is in use and its timeout is over. -/
def Due (s : Tracker) (now : Nat) (i : Fin trackerMaxEntries) : Prop :=
  (s.indexPool i).active = true ∧ (s.indexPool i).timeout.expired now = true

theorem visit_quiet {now : Nat} (early : ¬ s.Due now i) :
    s.visit now i = (s, none) := by
  unfold visit
  exact if_neg early

/-- A round in which the entry fires. -/
theorem visit_due {now : Nat} (due : s.Due now i) :
    let index := retried now (s.indexPool i)
    let exhausted := ((s.indexPool i).timeout.retry now).2
    let read := (s.setIndex i index).psramPayloadRead i index.payloadLen
    s.visit now i =
      if index.payloadLen = 0 then
        (s.setIndex i index,
          some ({ index with payload := [] }, exhausted))
      else
        (read.1, some (loaded index read.2, exhausted)) := by
  unfold visit
  exact if_pos due

theorem visit_indexPool {now : Nat} (due : s.Due now i) :
    (s.visit now i).1.indexPool =
      Function.update s.indexPool i (retried now (s.indexPool i)) := by
  rw [visit_due due]
  split
  · rfl
  · exact psramPayloadRead_indexPool _

theorem visit_fires {now : Nat} (due : s.Due now i) :
    ∃ entry, (s.visit now i).2 =
      some (entry, ((s.indexPool i).timeout.retry now).2) := by
  rw [visit_due due]
  split
  · exact ⟨_, rfl⟩
  · exact ⟨_, rfl⟩

end Facts

end Tracker

end DectMesh
