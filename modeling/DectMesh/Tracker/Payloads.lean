import DectMesh.Tracker.Run

/-!
# The packets sent again

What a tick enqueues again comes out of the PSRAM slot of the entry, if the
CRC-16 behind it matches.  A write that fails leaves what an earlier entry
stored there.
-/

namespace DectMesh

open ByteStore

namespace Tracker

variable {s : Tracker} {i j : Fin trackerMaxEntries}

/-- The first bytes of a slot. -/
def stored (s : Tracker) (i : Fin trackerMaxEntries) (len : Nat) :
    List UInt8 :=
  slice s.psram.mem (psramSlotAddr i) (len + 2)

/-- What the slot holds is this payload, or fails its CRC-16. -/
def Faithful (s : Tracker) (i : Fin trackerMaxEntries)
    (payload : List UInt8) : Prop :=
  let bytes := s.stored i payload.length
  bytes = s.sealed (bytes.take payload.length) →
    bytes.take payload.length = payload

instance {payload : List UInt8} : Decidable (s.Faithful i payload) :=
  inferInstanceAs (Decidable (_ → _))

@[simp]
theorem sealed_length (payload : List UInt8) :
    (s.sealed payload).length = payload.length + 2 := by
  rw [Tracker.sealed, List.length_append, RecordStore.littleEndian_length]

/-- An entry without a payload has nothing to mistake. -/
theorem faithful_nil : s.Faithful i [] := by
  intro consistent
  exact List.take_zero

/-- Only the memory counts, and the CRC-16. -/
theorem Faithful.congr {t : Tracker} {payload : List UInt8}
    (faithful : s.Faithful i payload) (crc : t.crc = s.crc)
    (stored : t.stored i payload.length = s.stored i payload.length) :
    t.Faithful i payload := by
  intro consistent
  unfold Tracker.sealed at consistent
  rw [stored, crc] at consistent
  rw [stored]
  exact faithful consistent

/-- No slot reaches into another. -/
theorem slot_apart (apart : j ≠ i) {first second : Nat}
    (fits : first ≤ trackerSlotSize) (fits' : second ≤ trackerSlotSize) :
    psramSlotAddr j + first ≤ psramSlotAddr i ∨
      psramSlotAddr i + second ≤ psramSlotAddr j := by
  have size : trackerSlotSize = 202 := rfl
  have different : j.val ≠ i.val := fun same => apart (Fin.ext same)
  unfold psramSlotAddr
  rw [size] at fits fits' ⊢
  omega

/-- A write to one slot leaves the others alone. -/
theorem stored_other (apart : j ≠ i) {payload : List UInt8} {len : Nat}
    (fits : payload.length ≤ trackerPayloadMax)
    (fits' : len ≤ trackerPayloadMax) :
    (s.psramPayloadWrite i payload).1.stored j len = s.stored j len := by
  obtain ⟨count, bound, mem, -⟩ := (Psram.write_spec s.psram
    (psramSlotAddr i) (s.sealed payload)).written
  have size : trackerSlotSize = trackerPayloadMax + 2 := rfl
  rw [sealed_length] at bound
  unfold stored psramPayloadWrite
  dsimp only
  rw [mem]
  apply slice_splice_of_disjoint
  rw [List.length_take, sealed_length]
  exact slot_apart apart (by omega) (by omega)

/-- A write that succeeds is read back. -/
theorem stored_written {payload : List UInt8}
    (wrote : (s.psramPayloadWrite i payload).2 = none) :
    (s.psramPayloadWrite i payload).1.stored i payload.length =
      s.sealed payload := by
  unfold stored psramPayloadWrite at *
  dsimp only at *
  rw [Psram.write_mem wrote, ← sealed_length (s := s) payload]
  exact slice_splice ..

theorem written_faithful {payload : List UInt8}
    (wrote : (s.psramPayloadWrite i payload).2 = none) :
    (s.psramPayloadWrite i payload).1.Faithful i payload := by
  intro consistent
  rw [stored_written wrote]
  exact List.take_left

/-- What is read from a faithful slot is the payload. -/
theorem Faithful.read {payload found : List UInt8}
    (faithful : s.Faithful i payload)
    (read : (s.psramPayloadRead i payload.length).2 = some found) :
    found = payload := by
  unfold psramPayloadRead at read
  rcases outcome : s.psram.read (psramSlotAddr i) (payload.length + 2) with
    ⟨psram, errno | data⟩
  · rw [outcome] at read
    cases read
  · rw [outcome] at read
    dsimp only at read
    split at read
    · next consistent =>
      cases read
      have bytes : data = s.stored i payload.length :=
        Psram.read_bytes (congrArg Prod.snd outcome)
      rw [bytes] at consistent ⊢
      exact faithful consistent
    · cases read

@[simp]
theorem psramPayloadRead_mem (len : Nat) :
    (s.psramPayloadRead i len).1.psram.mem = s.psram.mem := by
  have mem := Psram.read_mem s.psram (psramSlotAddr i) (len + 2)
  unfold psramPayloadRead
  split
  · next psram errno outcome =>
    rw [outcome] at mem
    exact mem
  · next psram data outcome =>
    rw [outcome] at mem
    exact mem

@[simp]
theorem psramPayloadRead_crc (len : Nat) :
    (s.psramPayloadRead i len).1.crc = s.crc := by
  unfold psramPayloadRead
  split
  · rfl
  · rfl

@[simp]
theorem removeFound_crc (found : Option (Fin trackerMaxEntries)) :
    (s.removeFound found).crc = s.crc := by
  cases found with
  | none => rfl
  | some i => rfl

@[simp]
theorem removeFound_psram (found : Option (Fin trackerMaxEntries)) :
    (s.removeFound found).psram = s.psram := by
  cases found with
  | none => rfl
  | some i => rfl

/-- The entry is that of this payload, as far as its slot can be read. -/
structure Keeps (s : Tracker) (i : Fin trackerMaxEntries)
    (payload : List UInt8) : Prop where
  length : (s.indexPool i).payloadLen = payload.length
  fits : payload.length ≤ trackerPayloadMax
  faithful : s.Faithful i payload

/-- The slot can take this payload: it is not too long, and if the write fails
then what is left in the slot does not pass for another payload. -/
def Stores (s : Tracker) (i : Fin trackerMaxEntries) (payload : List UInt8) :
    Prop :=
  payload.length ≤ trackerPayloadMax ∧
    ((s.psramPayloadWrite i payload).2 = none ∨
      (s.psramPayloadWrite i payload).1.Faithful i payload)

instance {payload : List UInt8} : Decidable (s.Stores i payload) :=
  inferInstanceAs (Decidable (_ ∧ (_ ∨ _)))

theorem Stores.faithful {payload : List UInt8}
    (stores : s.Stores i payload) :
    (s.psramPayloadWrite i payload).1.Faithful i payload := by
  rcases stores.2 with wrote | left
  · exact written_faithful wrote
  · exact left

theorem Stores.take {payload : List UInt8} (stores : s.Stores i payload) :
    payload.take trackerPayloadMax = payload :=
  List.take_of_length_le stores.1

theorem Keeps.congr {t : Tracker} {payload : List UInt8}
    (keeps : s.Keeps i payload)
    (length : (t.indexPool i).payloadLen = (s.indexPool i).payloadLen)
    (crc : t.crc = s.crc)
    (stored : t.stored i payload.length = s.stored i payload.length) :
    t.Keeps i payload where
  length := length.trans keeps.length
  fits := keeps.fits
  faithful := keeps.faithful.congr crc stored

/-- The slot that is written. -/
theorem write_keeps {index : TrackerIndex} {payload : List UInt8}
    (length : index.payloadLen = payload.length)
    (stores : s.Stores i payload) :
    ((s.setIndex i index).psramPayloadWrite i payload).1.Keeps i payload where
  length := by
    rw [psramPayloadWrite_indexPool, setIndex_indexPool, Function.update_self]
    exact length
  fits := stores.1
  faithful := stores.faithful.congr rfl rfl

/-- The other slots. -/
theorem write_other (apart : j ≠ i) {index : TrackerIndex}
    {payload other : List UInt8} (fits : payload.length ≤ trackerPayloadMax)
    (keeps : s.Keeps j other) :
    ((s.setIndex i index).psramPayloadWrite i payload).1.Keeps j other := by
  refine keeps.congr ?_ rfl ?_
  · rw [psramPayloadWrite_indexPool, setIndex_indexPool,
      Function.update_of_ne apart]
  · exact stored_other (s := s.setIndex i index) apart fits keeps.fits

theorem take_fits (payload : List UInt8) :
    (payload.take trackerPayloadMax).length ≤ trackerPayloadMax :=
  List.length_take_le _ _

section Add

variable {request : TrackerRequest}

theorem trackerAdd_keeps (free : s.freeEntry = some i) (now : Nat)
    (trackingId : UInt8) (stores : s.Stores i request.payload) :
    (s.trackerAdd now trackingId request).1.Keeps i request.payload := by
  have length : (added now trackingId request).payloadLen =
      request.payload.length := congrArg List.length stores.take
  unfold trackerAdd
  rw [free]
  dsimp only
  split
  · next empty =>
    rw [empty] at length ⊢
    constructor
    · rw [setIndex_indexPool, Function.update_self]
      exact length
    · exact Nat.zero_le _
    · exact faithful_nil
  · rw [stores.take]
    exact write_keeps length stores

theorem trackerAdd_other (free : s.freeEntry = some i) (apart : j ≠ i)
    (now : Nat) (trackingId : UInt8) {other : List UInt8}
    (keeps : s.Keeps j other) :
    (s.trackerAdd now trackingId request).1.Keeps j other := by
  unfold trackerAdd
  rw [free]
  dsimp only
  split
  · refine keeps.congr ?_ rfl rfl
    rw [setIndex_indexPool, Function.update_of_ne apart]
  · exact write_other apart (take_fits _) keeps

end Add

section Update

variable {trackingId : UInt8} {payload : List UInt8}

theorem trackerUpdatePayload_keeps
    (found : s.findTrackingId trackingId = some i)
    (stores : s.Stores i payload) :
    (s.trackerUpdatePayload trackingId payload).1.Keeps i payload := by
  unfold trackerUpdatePayload
  rw [found]
  dsimp only
  rw [stores.take]
  exact write_keeps rfl stores

theorem trackerUpdatePayload_other
    (found : s.findTrackingId trackingId = some i) (apart : j ≠ i)
    {other : List UInt8} (keeps : s.Keeps j other) :
    (s.trackerUpdatePayload trackingId payload).1.Keeps j other := by
  unfold trackerUpdatePayload
  rw [found]
  exact write_other apart (take_fits _) keeps

end Update

section Visit

variable {now : Nat} {payload : List UInt8}

/-- A round reads and writes no payload. -/
theorem visit_stored (now : Nat) (i j : Fin trackerMaxEntries) (len : Nat) :
    (s.visit now i).1.stored j len = s.stored j len ∧
      (s.visit now i).1.crc = s.crc := by
  by_cases due : s.Due now i
  · rw [visit_due due]
    split
    · exact ⟨rfl, rfl⟩
    · constructor
      · unfold stored
        rw [psramPayloadRead_mem]
        rfl
      · exact psramPayloadRead_crc _
  · rw [visit_quiet due]
    exact ⟨rfl, rfl⟩

theorem visit_payloadLen (now : Nat) (i j : Fin trackerMaxEntries) :
    ((s.visit now i).1.indexPool j).payloadLen =
      (s.indexPool j).payloadLen := by
  by_cases due : s.Due now i
  · rw [visit_indexPool due]
    by_cases same : j = i
    · subst same
      rw [Function.update_self]
      rfl
    · rw [Function.update_of_ne same]
  · rw [visit_quiet due]

theorem Keeps.visit (keeps : s.Keeps j payload) (now : Nat)
    (i : Fin trackerMaxEntries) : (s.visit now i).1.Keeps j payload :=
  keeps.congr (visit_payloadLen now i j) (visit_stored now i j 0).2
    (visit_stored now i j _).1

/-- An entry in use after a round was in use before. -/
theorem visit_active (active : ((s.visit now i).1.indexPool j).active = true) :
    (s.indexPool j).active = true := by
  by_cases due : s.Due now i
  · rw [visit_indexPool due] at active
    by_cases same : j = i
    · exact same ▸ due.1
    · rw [Function.update_of_ne same] at active
      exact active
  · rw [visit_quiet due] at active
    exact active

/-- What is enqueued again is the payload of the entry. -/
theorem Keeps.resent {entry : DataTracker} {exhausted : Bool}
    {bytes : List UInt8} (keeps : s.Keeps i payload)
    (fires : (s.visit now i).2 = some (entry, exhausted))
    (sent : Tracker.resent entry exhausted = some bytes) :
    bytes = payload := by
  have due : s.Due now i := by
    by_contra early
    rw [visit_quiet early] at fires
    cases fires
  rw [visit_due due] at fires
  have length : (retried now (s.indexPool i)).payloadLen = payload.length :=
    keeps.length
  rw [length] at fires
  unfold Tracker.resent at sent
  split at sent
  · cases sent
  · next kept =>
    cases sent
    split at fires
    · next empty =>
      cases fires
      exact absurd (.inr (length.trans empty)) kept
    · have faithful : (s.setIndex i
          (retried now (s.indexPool i))).Faithful i payload :=
        keeps.faithful.congr rfl rfl
      cases read : ((s.setIndex i (retried now
          (s.indexPool i))).psramPayloadRead i payload.length).2 with
      | none =>
          rw [read] at fires
          cases fires
          exact absurd (.inr rfl) kept
      | some found =>
          rw [read] at fires
          cases fires
          exact faithful.read read

end Visit

end Tracker

namespace TrackerLog

variable {log log' : TrackerLog}

/-- A payload that the event stores, if it stores one, can be stored in the
slot it goes to. -/
def StoresSafely (log : TrackerLog) : TrackerEvent → Prop
  | .call (.add _ request) | .call (.send request) =>
      ∀ i, log.tracker.freeEntry = some i →
        log.tracker.Stores i request.payload
  | .call (.updatePayload trackingId payload) =>
      ∀ i, log.tracker.findTrackingId trackingId = some i →
        log.tracker.Stores i payload
  | _ => True

/-- Every entry in use is that of the payload given for it, and so was every
packet enqueued again. -/
structure Kept (log : TrackerLog) : Prop where
  keeps : ∀ i, (log.tracker.indexPool i).active = true →
    log.tracker.Keeps i (log.notes i).payload
  repeated : ∀ sent ∈ log.repeats, sent.2 = sent.1

theorem Kept.boot (crc : List UInt8 → UInt16) (psram : Psram) :
    Kept (.boot crc psram) where
  keeps := fun _ active => by cases active
  repeated := fun _ member => by cases member

/-- Nothing is stored: entries went out of use at most. -/
theorem Kept.quiet (kept : Kept log)
    (each : ∀ i, log'.tracker.indexPool i = log.tracker.indexPool i ∨
      (log'.tracker.indexPool i).active = false)
    (crc : log'.tracker.crc = log.tracker.crc)
    (psram : log'.tracker.psram = log.tracker.psram)
    (notes : log'.notes = log.notes) (repeats : log'.repeats = log.repeats) :
    Kept log' where
  keeps := by
    intro i active
    rcases each i with same | off
    · rw [same] at active
      rw [notes]
      refine (kept.keeps i active).congr ?_ crc ?_
      · rw [same]
      · unfold Tracker.stored
        rw [psram]
    · rw [off] at active
      cases active
  repeated := by
    rw [repeats]
    exact kept.repeated

theorem Kept.allocate (kept : Kept log) : Kept log.allocate :=
  kept.quiet (fun _ => .inl rfl) rfl rfl rfl rfl

/-- A slot is written, for the payload that is noted. -/
theorem Kept.store (kept : Kept log) {i : Fin trackerMaxEntries}
    {note : TrackerNote}
    (notes : log'.notes = Function.update log.notes i note)
    (repeats : log'.repeats = log.repeats)
    (written : log'.tracker.Keeps i note.payload)
    (active : ∀ j ≠ i, (log'.tracker.indexPool j).active =
      (log.tracker.indexPool j).active)
    (other : ∀ j ≠ i, ∀ payload, log.tracker.Keeps j payload →
      log'.tracker.Keeps j payload) : Kept log' where
  keeps := by
    intro j inUse
    rw [notes]
    by_cases same : j = i
    · subst same
      rw [Function.update_self]
      exact written
    · rw [Function.update_of_ne same]
      rw [active j same] at inUse
      exact other j same _ (kept.keeps j inUse)
  repeated := by
    rw [repeats]
    exact kept.repeated

theorem Kept.enlist (kept : Kept log) (trackingId : UInt8) (allocation : Nat)
    {request : TrackerRequest}
    (safe : ∀ i, log.tracker.freeEntry = some i →
      log.tracker.Stores i request.payload) :
    Kept (log.enlist trackingId allocation request) := by
  unfold TrackerLog.enlist
  cases free : log.tracker.freeEntry with
  | none => exact kept
  | some i =>
      refine kept.store rfl rfl ?_ ?_ ?_
      · exact Tracker.trackerAdd_keeps free _ _ (safe i free)
      · intro j apart
        rw [Tracker.trackerAdd_indexPool _ _ _ free,
          Function.update_of_ne apart]
      · intro j apart payload keeps
        exact Tracker.trackerAdd_other free apart _ _ keeps

theorem Kept.updatePayload (kept : Kept log) {trackingId : UInt8}
    {payload : List UInt8}
    (safe : ∀ i, log.tracker.findTrackingId trackingId = some i →
      log.tracker.Stores i payload) :
    Kept (log.handle (.updatePayload trackingId payload)) := by
  cases found : log.tracker.findTrackingId trackingId with
  | none =>
      refine kept.quiet ?_ ?_ ?_ ?_ rfl
      · intro i
        simp only [handle, Tracker.trackerUpdatePayload, found, true_or]
      · simp only [handle, Tracker.trackerUpdatePayload, found]
      · simp only [handle, Tracker.trackerUpdatePayload, found]
      · simp only [handle, noteUpdate, found]
  | some i =>
      have notes : (log.handle (.updatePayload trackingId payload)).notes =
          Function.update log.notes i
            { log.notes i with payload := payload } := by
        simp only [handle, noteUpdate, found]
      refine kept.store notes rfl ?_ ?_ ?_
      · exact Tracker.trackerUpdatePayload_keeps found (safe i found)
      · intro j apart
        dsimp only [handle]
        rw [Tracker.trackerUpdatePayload_indexPool found,
          Function.update_of_ne apart]
      · intro j apart other keeps
        exact Tracker.trackerUpdatePayload_other found apart keeps

theorem Kept.remove (kept : Kept log) {tracker : Tracker}
    (each : ∀ i, tracker.indexPool i = log.tracker.indexPool i ∨
      (tracker.indexPool i).active = false)
    (crc : tracker.crc = log.tracker.crc)
    (psram : tracker.psram = log.tracker.psram) : Kept (log.remove tracker) :=
  kept.quiet each crc psram rfl rfl

theorem Kept.visit (kept : Kept log) (i : Fin trackerMaxEntries) :
    Kept (log.visit i) := by
  have keeps (j : Fin trackerMaxEntries)
      (active : ((log.tracker.visit log.now i).1.indexPool j).active =
        true) :
      (log.tracker.visit log.now i).1.Keeps j (log.notes j).payload :=
    (kept.keeps j (Tracker.visit_active active)).visit log.now i
  cases outcome : log.fired i with
  | none =>
      unfold TrackerLog.visit
      rw [outcome]
      exact ⟨keeps, kept.repeated⟩
  | some fired =>
      obtain ⟨entry, exhausted⟩ := fired
      unfold TrackerLog.visit
      rw [outcome]
      refine ⟨keeps, fun sent member => ?_⟩
      rcases List.mem_append.mp member with before | now
      · exact kept.repeated sent before
      · cases sends : Tracker.resent entry exhausted with
        | none =>
            rw [sends] at now
            cases now
        | some bytes =>
            rw [sends] at now
            rw [List.mem_singleton.mp now]
            have due : log.tracker.Due log.now i := by
              by_contra early
              unfold TrackerLog.fired at outcome
              rw [Tracker.visit_quiet early] at outcome
              cases outcome
            exact (kept.keeps i due.1).resent outcome sends

theorem Kept.step (kept : Kept log) {event : TrackerEvent}
    (safe : log.StoresSafely event) : Kept (log.after event) := by
  cases event with
  | visit i => exact kept.visit i
  | call call =>
      cases call with
      | elapse ms => exact kept.quiet (fun _ => .inl rfl) rfl rfl rfl rfl
      | nextId => exact kept.allocate
      | add trackingId request => exact kept.enlist trackingId 0 safe
      | send request =>
          apply kept.allocate.enlist
          intro i free
          have same : log.tracker.freeEntry = some i := by
            rw [← free]
            unfold Tracker.freeEntry
            rfl
          exact safe i same
      | removeByTrackingId trackingId =>
          exact kept.remove (Tracker.removeFound_each _)
            (Tracker.removeFound_crc _) (Tracker.removeFound_psram _)
      | removeByDst dstId packetType =>
          exact kept.remove (Tracker.removeFound_each _)
            (Tracker.removeFound_crc _) (Tracker.removeFound_psram _)
      | removeByDevice dstId =>
          exact kept.remove (Tracker.removeByDevice_each dstId) rfl rfl
      | updatePayload trackingId payload => exact kept.updatePayload safe

/-- In a run that stores every payload, or leaves nothing in its slot that
passes for another one, what is enqueued again is the payload last given. -/
theorem retransmissions_repeat {crc : List UInt8 → UInt16} {psram : Psram}
    (run : Trace.Reach step StoresSafely (boot crc psram) log) :
    ∀ sent ∈ log.repeats, sent.2 = sent.1 := by
  have kept : Kept log := by
    apply run.invariant (Kept.boot crc psram)
    intro before event after hold safe outcome
    cases outcome
    exact hold.step safe
  exact kept.repeated

section Samples

/-- A packet that is to be sent twice. -/
def packetOf (payload : List UInt8) : TrackerRequest where
  timeoutMs := 1
  maxRetries := 2
  payload := payload

/-- A packet is added, and its timeout is over when the tick comes. -/
def repeatedLog : TrackerLog :=
  (((boot Tracker.crc16Ccitt {}).after
    (.call (.add 1 (packetOf [1, 2, 3])))).after (.call (.elapse 1))).after
      (.visit ⟨0, by decide⟩)

theorem retransmissions_repeat_once :
    repeatedLog.repeats.length = 1 ∧
      ∀ sent ∈ repeatedLog.repeats, sent.2 = sent.1 := by
  refine ⟨by decide +kernel, ?_⟩
  have stores (i : Fin trackerMaxEntries)
      (free : (boot Tracker.crc16Ccitt {}).tracker.freeEntry = some i) :
      (boot Tracker.crc16Ccitt {}).tracker.Stores i [1, 2, 3] := by
    have first : (boot Tracker.crc16Ccitt {}).tracker.freeEntry =
        some ⟨0, by decide⟩ := by decide +kernel
    cases first.symm.trans free
    exact ⟨by decide, .inl rfl⟩
  have safe : (boot Tracker.crc16Ccitt {}).StoresSafely
      (.call (.add 1 (packetOf [1, 2, 3]))) := stores
  have added : Trace.Reach step StoresSafely (boot Tracker.crc16Ccitt {})
      ((boot Tracker.crc16Ccitt {}).after
        (.call (.add 1 (packetOf [1, 2, 3])))) := .next .refl safe rfl
  have waits (log : TrackerLog) : log.StoresSafely (.call (.elapse 1)) :=
    trivial
  have ticks (log : TrackerLog) (i : Fin trackerMaxEntries) :
      log.StoresSafely (.visit i) := trivial
  have late := Trace.Reach.next added (waits _) rfl
  have run : Trace.Reach step StoresSafely (boot Tracker.crc16Ccitt {})
      repeatedLog := .next late (ticks _ ⟨0, by decide⟩) rfl
  exact retransmissions_repeat run

/-- The PSRAM works for one burst and fails in the next one. -/
def failingOnce : Psram where
  faults := [none, some 0]

/-- The packet in the slot was answered.  The payload of the next one cannot
be written over it: the old packet is sent again, to the other device. -/
theorem retransmissions_stale :
    ¬ ∀ log, Trace.Reach step Anything
        (boot Tracker.crc16Ccitt failingOnce) log →
      ∀ sent ∈ log.repeats, sent.2 = sent.1 := by
  intro always
  let events : List TrackerEvent :=
    [.call (.add 1 (packetOf [1, 2, 3])), .call (.removeByTrackingId 1),
      .call (.add 2 (packetOf [4, 5, 6])), .call (.elapse 1),
      .visit ⟨0, by decide⟩]
  obtain ⟨log, run, stale⟩ :
      Trace.Ends step (boot Tracker.crc16Ccitt failingOnce) events fun log =>
        log.repeats = [([4, 5, 6], [1, 2, 3])] := by
    decide +kernel
  have reach := Trace.Reach.of_run (fun _ _ _ => trivial) run
  have same := always log reach ([4, 5, 6], [1, 2, 3]) (by simp [stale])
  exact absurd same (by decide)

end Samples

end TrackerLog

end DectMesh
