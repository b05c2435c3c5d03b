import DectMesh.Tracker.Run

/-!
# Tracking ids

The ids go round after 254 packets.  An entry that is still in use then shares
its id with a new one, and an answer removes the first of the two.
-/

namespace DectMesh

namespace TrackerLog

variable {log log' : TrackerLog}

/-- The id of the packet before which this many ids were given out. -/
def idOf (allocation : Nat) : UInt8 := UInt8.ofNat (allocation % 254 + 1)

/-- No two entries in use have one id. -/
def Distinct (log : TrackerLog) : Prop :=
  ∀ i j, (log.tracker.indexPool i).active = true →
    (log.tracker.indexPool j).active = true →
      (log.tracker.indexPool i).trackingId =
        (log.tracker.indexPool j).trackingId → i = j

/-- The packet to be sent next gets the id of no entry in use: none of them
was sent a multiple of 254 ids ago.  Without room for an entry it gets none. -/
def NextFree (log : TrackerLog) : Prop :=
  log.tracker.freeEntry = none ∨
    ∀ i, (log.tracker.indexPool i).active = true →
      ¬ 254 ∣ log.issued - (log.notes i).allocation

/-- Entries are added by the `send_*` helpers only. -/
def Sends (_ : TrackerLog) (event : TrackerEvent) : Prop :=
  ∀ trackingId request, event ≠ .call (.add trackingId request)

/-- What is sent finds its id out of use. -/
def SendsFree (log : TrackerLog) (event : TrackerEvent) : Prop :=
  Sends log event ∧
    ((∃ request, event = .call (.send request)) → log.NextFree)

/-- The ids of the entries and the next one are those of their places in the
order in which ids were given out. -/
structure Numbered (log : TrackerLog) : Prop where
  next : log.tracker.nextTrackingId = idOf log.issued
  entry : ∀ i, (log.tracker.indexPool i).active = true →
    (log.notes i).allocation < log.issued ∧
      (log.tracker.indexPool i).trackingId = idOf (log.notes i).allocation

theorem idOf_succ (allocation : Nat) :
    (if 255 ≤ idOf allocation + 1 then 1 else idOf allocation + 1) =
      idOf (allocation + 1) := by
  have each : ∀ k : Fin 254,
      (if 255 ≤ UInt8.ofNat (k.val + 1) + 1 then 1
        else UInt8.ofNat (k.val + 1) + 1) =
        UInt8.ofNat ((k.val + 1) % 254 + 1) := by
    decide +kernel
  have round := each ⟨allocation % 254, Nat.mod_lt _ (by decide)⟩
  unfold idOf
  rw [← Nat.mod_add_mod]
  exact round

theorem idOf_eq_iff {first second : Nat} (order : first ≤ second) :
    idOf first = idOf second ↔ 254 ∣ second - first := by
  rw [← Nat.modEq_iff_dvd' order]
  unfold idOf Nat.ModEq
  constructor
  · intro same
    have values := congrArg UInt8.toNat same
    rw [UInt8.toNat_ofNat', UInt8.toNat_ofNat'] at values
    omega
  · intro same
    rw [same]

theorem Numbered.boot (crc : List UInt8 → UInt16) (psram : Psram) :
    Numbered (.boot crc psram) where
  next := rfl
  entry := fun _ active => by cases active

theorem Numbered.allocate (numbered : Numbered log) :
    Numbered log.allocate where
  next := by
    have next := idOf_succ log.issued
    rw [← numbered.next] at next
    exact next
  entry := by
    intro i active
    obtain ⟨below, id⟩ := numbered.entry i active
    exact ⟨Nat.lt_succ_of_lt below, id⟩

/-- Entries stay as they are, or go out of use. -/
structure Keeps (log log' : TrackerLog) : Prop where
  next : log'.tracker.nextTrackingId = log.tracker.nextTrackingId
  issued : log'.issued = log.issued
  entry : ∀ i, (log'.tracker.indexPool i).active = true →
    (log.tracker.indexPool i).active = true ∧
      (log'.tracker.indexPool i).trackingId =
        (log.tracker.indexPool i).trackingId ∧
      (log'.notes i).allocation = (log.notes i).allocation

theorem Keeps.numbered (keeps : Keeps log log') (numbered : Numbered log) :
    Numbered log' where
  next := by
    rw [keeps.next, keeps.issued]
    exact numbered.next
  entry := by
    intro i active
    obtain ⟨before, id, allocation⟩ := keeps.entry i active
    rw [id, allocation, keeps.issued]
    exact numbered.entry i before

theorem Keeps.distinct (keeps : Keeps log log') (distinct : Distinct log) :
    Distinct log' := by
  intro i j left right same
  obtain ⟨left, idLeft, -⟩ := keeps.entry i left
  obtain ⟨right, idRight, -⟩ := keeps.entry j right
  rw [idLeft, idRight] at same
  exact distinct i j left right same

theorem remove_keeps {tracker : Tracker}
    (next : tracker.nextTrackingId = log.tracker.nextTrackingId)
    (each : ∀ i, tracker.indexPool i = log.tracker.indexPool i ∨
      (tracker.indexPool i).active = false) :
    Keeps log (log.remove tracker) where
  next := next
  issued := rfl
  entry := by
    intro i active
    rcases each i with same | off
    · exact ⟨congrArg TrackerIndex.active same ▸ active,
        congrArg TrackerIndex.trackingId same, rfl⟩
    · exact absurd (off.symm.trans active) (by decide)

theorem removeFound_next (s : Tracker)
    (found : Option (Fin trackerMaxEntries)) :
    (s.removeFound found).nextTrackingId = s.nextTrackingId := by
  cases found with
  | none => rfl
  | some i => rfl

theorem visit_next (s : Tracker) (now : Nat) (i : Fin trackerMaxEntries) :
    (s.visit now i).1.nextTrackingId = s.nextTrackingId := by
  by_cases due : s.Due now i
  · rw [Tracker.visit_due due]
    split
    · rfl
    · unfold Tracker.psramPayloadRead
      dsimp only
      split <;> rfl
  · rw [Tracker.visit_quiet due]

theorem visit_tracker (i : Fin trackerMaxEntries) :
    (log.visit i).tracker = (log.tracker.visit log.now i).1 ∧
      (log.visit i).issued = log.issued ∧ (log.visit i).notes = log.notes := by
  unfold TrackerLog.visit
  split
  · exact ⟨rfl, rfl, rfl⟩
  · exact ⟨rfl, rfl, rfl⟩

theorem visit_keeps (i : Fin trackerMaxEntries) : Keeps log (log.visit i) := by
  obtain ⟨tracker, issued, notes⟩ := @visit_tracker log i
  refine ⟨?_, issued, fun j active => ?_⟩
  · rw [tracker]
    exact visit_next log.tracker log.now i
  · rw [notes]
    rw [tracker] at active ⊢
    by_cases due : log.tracker.Due log.now i
    · rw [Tracker.visit_indexPool due] at active ⊢
      by_cases same : j = i
      · subst same
        rw [Function.update_self]
        exact ⟨due.1, rfl, rfl⟩
      · rw [Function.update_of_ne same] at active ⊢
        exact ⟨active, rfl, rfl⟩
    · rw [Tracker.visit_quiet due] at active ⊢
      exact ⟨active, rfl, rfl⟩

theorem updatePayload_keeps (trackingId : UInt8) (payload : List UInt8) :
    Keeps log (log.handle (.updatePayload trackingId payload)) := by
  cases found : log.tracker.findTrackingId trackingId with
  | none =>
      have same : log.handle (.updatePayload trackingId payload) = log := by
        simp only [handle, Tracker.trackerUpdatePayload, noteUpdate, found]
      rw [same]
      exact ⟨rfl, rfl, fun _ active => ⟨active, rfl, rfl⟩⟩
  | some i =>
      refine ⟨?_, rfl, fun j active => ?_⟩
      · simp only [handle, Tracker.trackerUpdatePayload, found]
        rfl
      · simp only [handle, noteUpdate, found] at active ⊢
        rw [Tracker.trackerUpdatePayload_indexPool found] at active ⊢
        by_cases same : j = i
        · subst same
          rw [Function.update_self] at active ⊢
          rw [Function.update_self]
          exact ⟨active, rfl, rfl⟩
        · rw [Function.update_of_ne same] at active ⊢
          rw [Function.update_of_ne same]
          exact ⟨active, rfl, rfl⟩

/-- The entry that `tracker_add` takes, and the others. -/
theorem enlist_entry {i : Fin trackerMaxEntries}
    (free : log.tracker.freeEntry = some i) (trackingId : UInt8)
    (allocation : Nat) (request : TrackerRequest) :
    let log' := log.enlist trackingId allocation request
    log'.tracker.nextTrackingId = log.tracker.nextTrackingId ∧
      log'.issued = log.issued ∧
      (log'.tracker.indexPool i).active = true ∧
      (log'.tracker.indexPool i).trackingId = trackingId ∧
      (log'.notes i).allocation = allocation ∧
      ∀ j, j ≠ i → log'.tracker.indexPool j = log.tracker.indexPool j ∧
        (log'.notes j).allocation = (log.notes j).allocation := by
  have pool := Tracker.trackerAdd_indexPool log.now trackingId request free
  have next : (log.tracker.trackerAdd log.now trackingId
      request).1.nextTrackingId = log.tracker.nextTrackingId := by
    rw [Tracker.trackerAdd, free]
    dsimp only
    split <;> rfl
  rw [enlist_free free]
  dsimp only
  rw [pool, next, Function.update_self, Function.update_self]
  refine ⟨rfl, rfl, rfl, rfl, rfl, fun j apart => ?_⟩
  rw [Function.update_of_ne apart, Function.update_of_ne apart]
  exact ⟨rfl, rfl⟩

theorem Numbered.send (numbered : Numbered log) (request : TrackerRequest) :
    Numbered (log.handle (.send request)) := by
  have allocated := numbered.allocate
  change Numbered (log.allocate.enlist log.tracker.trackerNextId.2 log.issued
    request)
  cases free : log.allocate.tracker.freeEntry with
  | none =>
      rw [enlist_full free]
      exact allocated
  | some i =>
      obtain ⟨next, issued, active, id, allocation, others⟩ :=
        enlist_entry free log.tracker.trackerNextId.2 log.issued request
      constructor
      · rw [next, issued]
        exact allocated.next
      · intro j used
        rw [issued]
        by_cases same : j = i
        · subst same
          rw [id, allocation]
          exact ⟨Nat.lt_succ_self _, numbered.next⟩
        · obtain ⟨index, note⟩ := others j same
          rw [index] at used ⊢
          rw [note]
          exact allocated.entry j used

/-- What is sent keeps the ids apart exactly when its own is out of use. -/
theorem send_distinct_iff (numbered : Numbered log) (distinct : log.Distinct)
    (request : TrackerRequest) :
    (log.handle (.send request)).Distinct ↔ log.NextFree := by
  change (log.allocate.enlist log.tracker.trackerNextId.2 log.issued
    request).Distinct ↔ log.NextFree
  have search : log.allocate.tracker.freeEntry = log.tracker.freeEntry := by
    unfold Tracker.freeEntry
    rfl
  cases free : log.tracker.freeEntry with
  | none =>
      rw [enlist_full (search.trans free)]
      exact iff_of_true distinct (.inl free)
  | some i =>
      obtain ⟨-, -, active, id, -, others⟩ := enlist_entry (search.trans free)
        log.tracker.trackerNextId.2 log.issued request
      generalize log.allocate.enlist log.tracker.trackerNextId.2 log.issued
        request = log' at active id others ⊢
      have off := Tracker.freeEntry_some free
      have index (j : Fin trackerMaxEntries) (apart : j ≠ i) :
          log'.tracker.indexPool j = log.tracker.indexPool j :=
        (others j apart).1
      have away {j : Fin trackerMaxEntries}
          (used : (log.tracker.indexPool j).active = true) : j ≠ i := by
        rintro rfl
        exact Bool.noConfusion (off.symm.trans used)
      have shared {j : Fin trackerMaxEntries}
          (used : (log.tracker.indexPool j).active = true) :
          (log.tracker.indexPool j).trackingId =
              (log'.tracker.indexPool i).trackingId ↔
            254 ∣ log.issued - (log.notes j).allocation := by
        obtain ⟨below, own⟩ := numbered.entry j used
        rw [id, own, show log.tracker.trackerNextId.2 = idOf log.issued from
          numbered.next]
        exact idOf_eq_iff (Nat.le_of_lt below)
      constructor
      · intro distinct'
        refine .inr fun j used round => away used ?_
        apply distinct' j i
        · rw [index j (away used)]
          exact used
        · exact active
        · rw [index j (away used)]
          exact (shared used).mpr round
      · intro nextFree
        have apart := nextFree.resolve_left (by rw [free]; exact nofun)
        intro j k left right same
        by_cases here : j = i
        · by_cases there : k = i
          · exact here.trans there.symm
          · rw [index k there] at right same
            rw [here] at same
            exact absurd ((shared right).mp same.symm) (apart k right)
        · rw [index j here] at left same
          by_cases there : k = i
          · rw [there] at same
            exact absurd ((shared left).mp same) (apart j left)
          · rw [index k there] at right same
            exact distinct j k left right same

/-- Every event but a `send` keeps the ids apart. -/
theorem step_keeps {event : TrackerEvent} (sends : Sends log event)
    (numbered : Numbered log) :
    Numbered (log.after event) ∧
      ((∀ request, event ≠ .call (.send request)) →
        log.Distinct → (log.after event).Distinct) := by
  have kept {log' : TrackerLog} (keeps : Keeps log log') :
      Numbered log' ∧
        ((∀ request, event ≠ .call (.send request)) →
          log.Distinct → log'.Distinct) :=
    ⟨keeps.numbered numbered, fun _ => keeps.distinct⟩
  cases event with
  | visit i => exact kept (visit_keeps i)
  | call call =>
      cases call with
      | elapse ms => exact kept ⟨rfl, rfl, fun _ active => ⟨active, rfl, rfl⟩⟩
      | nextId => exact ⟨numbered.allocate, fun _ distinct => distinct⟩
      | add trackingId request => exact absurd rfl (sends trackingId request)
      | send request =>
          exact ⟨numbered.send request, fun other => absurd rfl (other request)⟩
      | removeByTrackingId trackingId =>
          exact kept (remove_keeps (removeFound_next _ _)
            (Tracker.removeFound_each _))
      | removeByDst dstId packetType =>
          exact kept (remove_keeps (removeFound_next _ _)
            (Tracker.removeFound_each _))
      | removeByDevice dstId =>
          exact kept (remove_keeps rfl (Tracker.removeByDevice_each _))
      | updatePayload trackingId payload =>
          exact kept (updatePayload_keeps trackingId payload)

theorem reach_numbered {crc : List UInt8 → UInt16} {psram : Psram}
    (reach : Trace.Reach step Sends (.boot crc psram) log) :
    Numbered log := by
  apply reach.invariant
  · exact .boot crc psram
  · intro before event after numbered sends stepped
    cases stepped
    exact (step_keeps sends numbered).1

/-- With the ids apart, a removal takes the entry of the id and no other. -/
theorem Distinct.removes (distinct : log.Distinct)
    {i : Fin trackerMaxEntries}
    (active : (log.tracker.indexPool i).active = true) :
    let tracker := log.tracker.trackerRemoveByTrackingId
      (log.tracker.indexPool i).trackingId
    (tracker.indexPool i).active = false ∧
      ∀ j, j ≠ i → tracker.indexPool j = log.tracker.indexPool j := by
  have found : log.tracker.findTrackingId
      (log.tracker.indexPool i).trackingId = some i := by
    cases search : log.tracker.findTrackingId
        (log.tracker.indexPool i).trackingId with
    | none => exact absurd rfl (Tracker.findTrackingId_none search active)
    | some j =>
        obtain ⟨used, same⟩ := Tracker.findTrackingId_some search
        rw [distinct j i used active same]
  unfold Tracker.trackerRemoveByTrackingId
  rw [found]
  unfold Tracker.removeFound
  dsimp only
  rw [Tracker.setIndex_indexPool, Function.update_self]
  exact ⟨rfl, fun j apart => Function.update_of_ne apart _ _⟩

/-- The entries in use have ids of their own, and an answer removes the entry
of its packet only, in every run in which what is sent finds its id out of use;
and a packet that does not takes the id of another entry. -/
theorem trackingIds_unique {crc : List UInt8 → UInt16} {psram : Psram}
    (reach : Trace.Reach step Sends (.boot crc psram) log) :
    (Trace.Reach step SendsFree (.boot crc psram) log →
      log.Distinct ∧ ∀ i, (log.tracker.indexPool i).active = true →
        let tracker := log.tracker.trackerRemoveByTrackingId
          (log.tracker.indexPool i).trackingId
        (tracker.indexPool i).active = false ∧
          ∀ j, j ≠ i → tracker.indexPool j = log.tracker.indexPool j) ∧
      (log.Distinct → ∀ request,
        (log.after (.call (.send request))).Distinct ↔ log.NextFree) := by
  constructor
  · intro free
    have both : Numbered log ∧ log.Distinct := by
      apply free.invariant
      · exact ⟨.boot crc psram, fun _ _ active => by cases active⟩
      · rintro before event after ⟨numbered, distinct⟩ ⟨sends, next⟩ stepped
        cases stepped
        obtain ⟨numbered', others⟩ := step_keeps sends numbered
        refine ⟨numbered', ?_⟩
        by_cases sent : ∃ request, event = .call (.send request)
        · obtain ⟨request, rfl⟩ := sent
          exact (send_distinct_iff numbered distinct request).mpr
            (next ⟨request, rfl⟩)
        · exact others (fun request same => sent ⟨request, same⟩) distinct
    exact ⟨both.2, fun i => both.2.removes⟩
  · intro distinct request
    exact send_distinct_iff (reach_numbered reach) distinct request

section Samples

/-- A packet that is tracked for half a minute. -/
def slowPacket : TrackerRequest where
  dstId := 2
  timeoutMs := 6000
  maxRetries := 5

/-- The packet goes out, then 253 others that are not tracked. -/
def slowLog : TrackerLog :=
  (List.replicate 253 TrackerCall.nextId).foldl handle
    ((TrackerLog.boot Tracker.crc16Ccitt {}).handle (.send slowPacket))

/-- Two packets are tracked; the answer to the first leaves the second. -/
theorem trackingIds_unique_two :
    let log := ((TrackerLog.boot Tracker.crc16Ccitt {}).handle
      (.send slowPacket)).handle (.send slowPacket)
    log.Distinct ∧
      let tracker := log.tracker.trackerRemoveByTrackingId 1
      (tracker.indexPool ⟨0, by decide⟩).active = false ∧
        (tracker.indexPool ⟨1, by decide⟩).active = true := by
  obtain ⟨next, first, one, second⟩ :
      let one := (TrackerLog.boot Tracker.crc16Ccitt {}).handle
        (.send slowPacket)
      let two := (one.handle (.send slowPacket)).tracker
      (∀ i, (one.tracker.indexPool i).active = true →
        ¬ 254 ∣ one.issued - (one.notes i).allocation) ∧
        (two.indexPool ⟨0, by decide⟩).active = true ∧
          (two.indexPool ⟨0, by decide⟩).trackingId = 1 ∧
            (two.indexPool ⟨1, by decide⟩).active = true := by
    decide +kernel
  have sends (log : TrackerLog) : Sends log (.call (.send slowPacket)) := nofun
  have free : Trace.Reach step SendsFree (.boot Tracker.crc16Ccitt {})
      (((TrackerLog.boot Tracker.crc16Ccitt {}).handle
        (.send slowPacket)).handle (.send slowPacket)) :=
    .next (.next .refl
      ⟨sends _, fun _ => .inr fun _ active => by cases active⟩ rfl)
      ⟨sends _, fun _ => .inr next⟩ rfl
  have sent (log : TrackerLog) :
      Trace.Reach step Sends log (log.handle (.send slowPacket)) :=
    .next .refl (sends log) rfl
  obtain ⟨distinct, removes⟩ :=
    (trackingIds_unique ((sent _).trans (sent _))).1 free
  obtain ⟨removed, others⟩ := removes ⟨0, by decide⟩ first
  rw [one] at removed others
  refine ⟨distinct, removed, ?_⟩
  rw [others ⟨1, by decide⟩ (by decide)]
  exact second

/-- The id is given out again while the first packet still waits: two entries
have it, and the answer to the second packet removes the entry of the first. -/
theorem trackingIds_shared :
    ¬ (∀ log, Trace.Reach step Sends (.boot Tracker.crc16Ccitt {}) log →
      log.Distinct) ∧
      let tracker := (slowLog.handle (.send slowPacket)).tracker
      tracker.trackerNextId.2 = 2 ∧
      (tracker.indexPool ⟨1, by decide⟩).trackingId = 1 ∧
      ((tracker.trackerRemoveByTrackingId 1).indexPool
        ⟨0, by decide⟩).active = false ∧
      ((tracker.trackerRemoveByTrackingId 1).indexPool
        ⟨1, by decide⟩).active = true := by
  obtain ⟨first, second, same, rest⟩ :
      let tracker := (slowLog.handle (.send slowPacket)).tracker
      (tracker.indexPool ⟨0, by decide⟩).active = true ∧
        (tracker.indexPool ⟨1, by decide⟩).active = true ∧
        (tracker.indexPool ⟨0, by decide⟩).trackingId =
          (tracker.indexPool ⟨1, by decide⟩).trackingId ∧
        tracker.trackerNextId.2 = 2 ∧
        (tracker.indexPool ⟨1, by decide⟩).trackingId = 1 ∧
        ((tracker.trackerRemoveByTrackingId 1).indexPool
          ⟨0, by decide⟩).active = false ∧
        ((tracker.trackerRemoveByTrackingId 1).indexPool
          ⟨1, by decide⟩).active = true := by
    decide +kernel
  refine ⟨fun always => ?_, rest⟩
  have sent (log : TrackerLog) :
      Trace.Reach step Sends log (log.handle (.send slowPacket)) :=
    .next .refl (nofun : Sends log (.call (.send slowPacket))) rfl
  have others : Trace.Reach step Sends _ slowLog :=
    calls_reach (List.replicate 253 TrackerCall.nextId) _ <| by
      intro call member log
      rw [List.eq_of_mem_replicate member]
      exact (nofun : Sends log (.call .nextId))
  have reach := ((sent (.boot Tracker.crc16Ccitt {})).trans others).trans
    (sent slowLog)
  exact absurd (always _ reach _ _ first second same) (by decide)

end Samples

end TrackerLog

end DectMesh
