import DectMesh.Tracker.Run

/-!
# The retry schedule

An entry fires when its timeout is over, at most `max_retries` times, the last
time as exhausted.  Other entries come and go meanwhile, and their slots are
used again; the schedule is that of an entry, not of a slot.
-/

namespace DectMesh

namespace TrackerLog

variable {log log' : TrackerLog}

/-- The firings of an entry, the last one first. -/
def firedFor (log : TrackerLog) (serial : Nat) : List Firing :=
  log.firings.filter fun firing => firing.serial = serial

/-- The slot holds the entry. -/
def Holds (log : TrackerLog) (serial : Nat) (i : Fin trackerMaxEntries) :
    Prop :=
  (log.tracker.indexPool i).active = true ∧ (log.notes i).serial = serial

def InUse (log : TrackerLog) (serial : Nat) : Prop :=
  ∃ i, log.Holds serial i

/-- When the timeout of an entry was last started. -/
def lastStart (start : Nat) : List Firing → Nat
  | [] => start
  | last :: _ => last.time

/-- An entry in use: its timeout tells how often it fired, and when it fires
next. -/
structure Running (start : Nat) (request : TrackerRequest)
    (fired : List Firing) (index : TrackerIndex) : Prop where
  timeout : index.timeout =
    { deadlineMs := lastStart start fired + request.timeoutMs
      durationMs := request.timeoutMs
      retries := fired.length + 1
      maxRetries := request.maxRetries }
  left : fired.length ≤ request.maxRetries - 1

/-- Every firing comes a timeout after the one before. -/
def Spaced (start : Nat) (request : TrackerRequest) (fired : List Firing) :
    Prop :=
  (fired.map Firing.time ++ [start]).IsChain fun later earlier =>
    earlier + request.timeoutMs ≤ later

/-- The flags of the firings of an entry that used up its retries, the last
one first. -/
def allFlags (request : TrackerRequest) : List Bool :=
  true :: List.replicate (request.maxRetries - 1) false

/-- An entry is in use with retries left, has used them up, or was removed. -/
inductive Stage (log : TrackerLog) (serial start : Nat)
    (request : TrackerRequest) : Prop
  | running {i : Fin trackerMaxEntries}
      (holds : log.Holds serial i)
      (running : Running start request (log.firedFor serial)
        (log.tracker.indexPool i))
      (flags : (log.firedFor serial).map Firing.exhausted =
        List.replicate (log.firedFor serial).length false)
  | exhausted
      (idle : ¬ log.InUse serial)
      (flags : (log.firedFor serial).map Firing.exhausted = allFlags request)
  | removed
      (idle : ¬ log.InUse serial)
      (gone : serial ∈ log.gone)
      (left : (log.firedFor serial).length ≤ request.maxRetries - 1)
      (flags : (log.firedFor serial).map Firing.exhausted =
        List.replicate (log.firedFor serial).length false)

/-- The requests of the schedule: a timeout, and a number of retries that the
counter can pass. -/
def Schedulable (request : TrackerRequest) : Prop :=
  1 ≤ request.timeoutMs ∧ request.maxRetries ≤ 254

/-- Every entry keeps to its schedule, and no two slots hold one entry. -/
structure Sound (log : TrackerLog) : Prop where
  fresh : ∀ firing ∈ log.firings, firing.serial < log.added.length
  held : ∀ serial i, log.Holds serial i → serial < log.added.length
  single : ∀ serial i j, log.Holds serial i → log.Holds serial j → i = j
  away : ∀ serial ∈ log.gone, serial < log.added.length ∧ ¬ log.InUse serial
  spaced : ∀ serial start request,
    log.added[serial]? = some (start, request) → Schedulable request →
      Spaced start request (log.firedFor serial)
  stage : ∀ serial start request,
    log.added[serial]? = some (start, request) → Schedulable request →
      Stage log serial start request

theorem Sound.boot (crc : List UInt8 → UInt16) (psram : Psram) :
    Sound (.boot crc psram) where
  fresh := fun _ member => by cases member
  held := fun _ _ holds => by cases holds.1
  single := fun _ _ _ holds => by cases holds.1
  away := fun _ member => by cases member
  spaced := fun _ _ _ added => by cases added
  stage := fun _ _ _ added => by cases added

/-- Entries were removed at most. -/
structure Loses (log log' : TrackerLog) : Prop where
  added : log'.added = log.added
  firings : log'.firings = log.firings
  gone : ∀ serial ∈ log.gone, serial ∈ log'.gone
  newlyGone : ∀ serial ∈ log'.gone, serial ∈ log.gone ∨
    ∃ i, log.Holds serial i ∧ (log'.tracker.indexPool i).active = false
  serial : ∀ i, (log'.notes i).serial = (log.notes i).serial
  timeout : ∀ i, (log'.tracker.indexPool i).active = true →
    (log.tracker.indexPool i).active = true ∧
      (log'.tracker.indexPool i).timeout = (log.tracker.indexPool i).timeout
  lost : ∀ i, (log.tracker.indexPool i).active = true →
    (log'.tracker.indexPool i).active = true ∨
      (log.notes i).serial ∈ log'.gone

theorem Loses.holds (loses : Loses log log') {serial : Nat}
    {i : Fin trackerMaxEntries} (holds : log'.Holds serial i) :
    log.Holds serial i :=
  ⟨(loses.timeout i holds.1).1, (loses.serial i).symm.trans holds.2⟩

theorem Loses.firedFor (loses : Loses log log') (serial : Nat) :
    log'.firedFor serial = log.firedFor serial := by
  unfold TrackerLog.firedFor
  rw [loses.firings]

theorem Running.congr {start : Nat} {request : TrackerRequest}
    {fired : List Firing} {index index' : TrackerIndex}
    (running : Running start request fired index)
    (same : index'.timeout = index.timeout) :
    Running start request fired index' where
  timeout := same.trans running.timeout
  left := running.left

theorem Loses.stage (loses : Loses log log') {serial start : Nat}
    {request : TrackerRequest}
    (single : ∀ i j, log.Holds serial i → log.Holds serial j → i = j)
    (stage : Stage log serial start request) :
    Stage log' serial start request := by
  have fired := loses.firedFor serial
  have idle (before : ¬ log.InUse serial) : ¬ log'.InUse serial :=
    fun ⟨i, holds⟩ => before ⟨i, loses.holds holds⟩
  cases stage with
  | @running i holds running flags =>
      rw [← fired] at running flags
      by_cases still : (log'.tracker.indexPool i).active = true
      · exact .running ⟨still, (loses.serial i).trans holds.2⟩
          (running.congr (loses.timeout i still).2) flags
      · have gone := (loses.lost i holds.1).resolve_left still
        rw [holds.2] at gone
        refine .removed ?_ gone running.left flags
        rintro ⟨j, holds'⟩
        rw [single j i (loses.holds holds') holds] at holds'
        exact still holds'.1
  | exhausted none flags => exact .exhausted (idle none) (fired ▸ flags)
  | removed none gone left flags =>
      rw [← fired] at left flags
      exact .removed (idle none) (loses.gone serial gone) left flags

theorem Loses.sound (loses : Loses log log') (sound : Sound log) :
    Sound log' where
  fresh := by
    rw [loses.firings, loses.added]
    exact sound.fresh
  held := by
    intro serial i holds
    rw [loses.added]
    exact sound.held serial i (loses.holds holds)
  single := fun serial i j left right =>
    sound.single serial i j (loses.holds left) (loses.holds right)
  away := by
    intro serial member
    rw [loses.added]
    rcases loses.newlyGone serial member with old | ⟨i, holds, off⟩
    · obtain ⟨below, idle⟩ := sound.away serial old
      exact ⟨below, fun ⟨j, held⟩ => idle ⟨j, loses.holds held⟩⟩
    · refine ⟨sound.held serial i holds, ?_⟩
      rintro ⟨j, held⟩
      have same := sound.single serial j i (loses.holds held) holds
      subst same
      exact Bool.noConfusion (off.symm.trans held.1)
  spaced := by
    intro serial start request added good
    rw [loses.added] at added
    rw [loses.firedFor]
    exact sound.spaced serial start request added good
  stage := by
    intro serial start request added good
    rw [loses.added] at added
    exact loses.stage (sound.single serial)
      (sound.stage serial start request added good)

/-- Nothing changed but the time, the ids given out or what is stored. -/
theorem Loses.quiet (added : log'.added = log.added)
    (firings : log'.firings = log.firings) (gone : log'.gone = log.gone)
    (serial : ∀ i, (log'.notes i).serial = (log.notes i).serial)
    (index : ∀ i, (log'.tracker.indexPool i).active =
        (log.tracker.indexPool i).active ∧
      (log'.tracker.indexPool i).timeout =
        (log.tracker.indexPool i).timeout) : Loses log log' where
  added := added
  firings := firings
  gone := fun _ member => gone ▸ member
  newlyGone := fun _ member => .inl (gone ▸ member)
  serial := serial
  timeout := fun i active => ⟨(index i).1 ▸ active, (index i).2⟩
  lost := fun i active => .inl ((index i).1.trans active)

/-- A removal: every entry stays as it is or goes out of use. -/
theorem remove_loses {tracker : Tracker}
    (each : ∀ i, tracker.indexPool i = log.tracker.indexPool i ∨
      (tracker.indexPool i).active = false) :
    Loses log (log.remove tracker) where
  added := rfl
  firings := rfl
  gone := fun serial member => List.mem_append_left _ member
  newlyGone := by
    intro serial member
    refine (List.mem_append.mp member).imp_right fun lost => ?_
    obtain ⟨i, kept, same⟩ := List.mem_map.mp lost
    obtain ⟨-, active, off⟩ := by
      simpa only [List.mem_filter, decide_eq_true_eq, Bool.not_eq_true']
        using kept
    exact ⟨i, ⟨active, same⟩, off⟩
  serial := fun i => rfl
  timeout := by
    intro i active
    rcases each i with same | off
    · exact ⟨congrArg TrackerIndex.active same ▸ active,
        congrArg TrackerIndex.timeout same⟩
    · exact absurd (off.symm.trans active) (by decide)
  lost := by
    intro i active
    cases off : (tracker.indexPool i).active with
    | true => exact .inl off
    | false =>
        refine .inr (List.mem_append_right _ (List.mem_map.mpr ⟨i, ?_, rfl⟩))
        rw [List.mem_filter]
        exact ⟨List.mem_finRange i, by simp [active, off]⟩

theorem allocate_loses : Loses log log.allocate :=
  .quiet rfl rfl rfl (fun _ => rfl) fun _ => ⟨rfl, rfl⟩

/-- An update of a payload leaves schedules alone. -/
theorem updatePayload_loses (trackingId : UInt8) (payload : List UInt8) :
    Loses log (log.handle (.updatePayload trackingId payload)) := by
  cases found : log.tracker.findTrackingId trackingId with
  | none =>
      refine .quiet rfl rfl rfl (fun i => ?_) fun i => ?_
      · simp only [handle, noteUpdate, found]
      · simp only [handle, Tracker.trackerUpdatePayload, found, and_self]
  | some j =>
      refine .quiet rfl rfl rfl (fun i => ?_) fun i => ?_
      · simp only [handle, noteUpdate, found]
        by_cases same : i = j
        · subst same
          rw [Function.update_self]
        · rw [Function.update_of_ne same]
      · dsimp only [handle]
        rw [Tracker.trackerUpdatePayload_indexPool found]
        by_cases same : i = j
        · subst same
          rw [Function.update_self]
          exact ⟨rfl, rfl⟩
        · rw [Function.update_of_ne same]
          exact ⟨rfl, rfl⟩

/-- What `tracker_add` leaves in the slots. -/
theorem enlist_holds {i : Fin trackerMaxEntries}
    (free : log.tracker.freeEntry = some i) (trackingId : UInt8)
    (allocation : Nat) (request : TrackerRequest) (serial : Nat)
    (j : Fin trackerMaxEntries) :
    (log.enlist trackingId allocation request).Holds serial j ↔
      j = i ∧ serial = log.added.length ∨ j ≠ i ∧ log.Holds serial j := by
  rw [enlist_free free, TrackerLog.Holds]
  dsimp only
  rw [Tracker.trackerAdd_indexPool _ _ _ free]
  by_cases same : j = i
  · subst same
    rw [Function.update_self, Function.update_self]
    exact ⟨fun holds => .inl ⟨rfl, holds.2.symm⟩, fun cases =>
      ⟨rfl, (cases.resolve_right fun other => other.1 rfl).2.symm⟩⟩
  · rw [Function.update_of_ne same, Function.update_of_ne same]
    exact ⟨fun holds => .inr ⟨same, holds⟩, fun cases =>
      (cases.resolve_left fun new => same new.1).2⟩

theorem firedFor_new (sound : Sound log) :
    log.firedFor log.added.length = [] := by
  unfold TrackerLog.firedFor
  rw [List.filter_eq_nil_iff]
  intro firing member same
  have below := sound.fresh firing member
  rw [decide_eq_true_eq] at same
  omega

/-- A new entry starts its schedule in a slot out of use. -/
theorem Sound.enlist (sound : Sound log) (trackingId : UInt8)
    (allocation : Nat) (request : TrackerRequest) :
    Sound (log.enlist trackingId allocation request) := by
  cases free : log.tracker.freeEntry with
  | none =>
      rw [enlist_full free]
      exact sound
  | some i =>
      have off := Tracker.freeEntry_some free
      have holds := enlist_holds free trackingId allocation request
      have firings : (log.enlist trackingId allocation request).firings =
          log.firings := by
        rw [enlist_free free]
      have gone : (log.enlist trackingId allocation request).gone =
          log.gone := by
        rw [enlist_free free]
      have added : (log.enlist trackingId allocation request).added =
          log.added ++ [(log.now, request)] := by
        rw [enlist_free free]
      have pool : (log.enlist trackingId allocation
          request).tracker.indexPool = Function.update log.tracker.indexPool i
            (Tracker.added log.now trackingId request) := by
        rw [enlist_free free]
        exact Tracker.trackerAdd_indexPool _ _ _ free
      have fired (serial : Nat) :
          (log.enlist trackingId allocation request).firedFor serial =
            log.firedFor serial := by
        unfold TrackerLog.firedFor
        rw [firings]
      have known {serial start : Nat} {other : TrackerRequest}
          (found : (log.added ++ [(log.now, request)])[serial]? =
            some (start, other)) :
          log.added[serial]? = some (start, other) ∨
            serial = log.added.length ∧ start = log.now ∧
              other = request := by
        rw [List.getElem?_append] at found
        split at found
        · exact .inl found
        · next past =>
          right
          rw [List.getElem?_singleton] at found
          split at found
          · next zero =>
            cases found
            exact ⟨by omega, rfl, rfl⟩
          · cases found
      have below {serial start : Nat} {other : TrackerRequest}
          (found : log.added[serial]? = some (start, other)) :
          serial < log.added.length :=
        (List.getElem?_eq_some_iff.mp found).1
      constructor
      · rw [firings, added, List.length_append]
        intro firing member
        have before := sound.fresh firing member
        omega
      · intro serial j held
        rw [added, List.length_append, List.length_singleton]
        rcases (holds serial j).mp held with ⟨-, new⟩ | ⟨-, old⟩
        · omega
        · have before := sound.held serial j old
          omega
      · intro serial j k left right
        rcases (holds serial j).mp left with ⟨rfl, new⟩ | ⟨-, old⟩
        · rcases (holds serial k).mp right with ⟨rfl, -⟩ | ⟨-, other⟩
          · rfl
          · have before := sound.held serial k other
            omega
        · rcases (holds serial k).mp right with ⟨rfl, new⟩ | ⟨-, other⟩
          · have before := sound.held serial j old
            omega
          · exact sound.single serial j k old other
      · intro serial member
        rw [gone] at member
        rw [added, List.length_append]
        obtain ⟨bound, idle⟩ := sound.away serial member
        refine ⟨by omega, ?_⟩
        rintro ⟨j, held⟩
        rcases (holds serial j).mp held with ⟨-, new⟩ | ⟨-, old⟩
        · omega
        · exact idle ⟨j, old⟩
      · intro serial start other found good
        rw [added] at found
        rw [fired]
        rcases known found with old | ⟨rfl, rfl, rfl⟩
        · exact sound.spaced serial start other old good
        · rw [firedFor_new sound]
          exact .singleton _
      · intro serial start other found good
        rw [added] at found
        rcases known found with old | ⟨rfl, rfl, rfl⟩
        · have idle (before : ¬ log.InUse serial) :
              ¬ (log.enlist trackingId allocation request).InUse serial := by
            rintro ⟨j, held⟩
            rcases (holds serial j).mp held with ⟨-, new⟩ | ⟨-, old'⟩
            · have bound := below old
              omega
            · exact before ⟨j, old'⟩
          cases sound.stage serial start other old good with
          | @running j held running flags =>
              have apart : j ≠ i := by
                rintro rfl
                exact Bool.noConfusion (off.symm.trans held.1)
              rw [← fired] at running flags
              refine .running ((holds serial j).mpr (.inr ⟨apart, held⟩))
                ?_ flags
              rw [pool, Function.update_of_ne apart]
              exact running
          | exhausted none_ flags =>
              exact .exhausted (idle none_) (fired serial ▸ flags)
          | removed none_ member left flags =>
              rw [← fired] at left flags
              exact .removed (idle none_) (gone ▸ member) left flags
        · refine .running ((holds _ i).mpr (.inl ⟨rfl, rfl⟩)) ?_ ?_
          · rw [fired, firedFor_new sound, pool, Function.update_self]
            exact ⟨rfl, Nat.zero_le _⟩
          · rw [fired, firedFor_new sound]
            rfl

section Visit

variable {i : Fin trackerMaxEntries}

theorem visit_early (early : ¬ log.tracker.Due log.now i) :
    log.visit i = log := by
  unfold TrackerLog.visit fired
  rw [Tracker.visit_quiet early]

/-- A round in which the entry of slot `i` fires. -/
theorem visit_due (due : log.tracker.Due log.now i) :
    (log.visit i).tracker.indexPool =
        Function.update log.tracker.indexPool i
          (Tracker.retried log.now (log.tracker.indexPool i)) ∧
      (log.visit i).firings =
        { serial := (log.notes i).serial
          time := log.now
          exhausted :=
            ((log.tracker.indexPool i).timeout.retry log.now).2 } ::
          log.firings ∧
      (log.visit i).notes = log.notes ∧ (log.visit i).added = log.added ∧
        (log.visit i).gone = log.gone ∧ (log.visit i).now = log.now := by
  obtain ⟨entry, fires⟩ := Tracker.visit_fires due
  unfold TrackerLog.visit fired
  rw [fires]
  exact ⟨Tracker.visit_indexPool due, rfl, rfl, rfl, rfl, rfl⟩

/-- The retry of an entry that keeps its schedule. -/
theorem Running.retry {start now : Nat} {request : TrackerRequest}
    {fired : List Firing} {index : TrackerIndex}
    (running : Running start request fired index)
    (good : Schedulable request) :
    (index.timeout.retry now).2 =
        decide (fired.length = request.maxRetries - 1) ∧
      (fired.length < request.maxRetries - 1 →
        (index.timeout.retry now).1 =
          { deadlineMs := now + request.timeoutMs
            durationMs := request.timeoutMs
            retries := fired.length + 2
            maxRetries := request.maxRetries }) := by
  have left := running.left
  have few := good.2
  have count : (fired.length + 1 + 1) % 256 = fired.length + 2 :=
    Nat.mod_eq_of_lt (by omega)
  unfold NbTimeout.retry
  rw [running.timeout]
  dsimp only
  rw [count]
  by_cases last : request.maxRetries < fired.length + 2
  · rw [if_pos last]
    refine ⟨?_, fun more => absurd more (by omega)⟩
    exact (decide_eq_true (by omega)).symm
  · rw [if_neg last]
    refine ⟨?_, fun _ => rfl⟩
    exact (decide_eq_false (by omega)).symm

/-- An entry that keeps its schedule is due a timeout after its last start. -/
theorem Running.due_iff {start now : Nat} {request : TrackerRequest}
    {fired : List Firing} {index : TrackerIndex}
    (running : Running start request fired index)
    (good : Schedulable request) :
    index.timeout.expired now = true ↔
      lastStart start fired + request.timeoutMs ≤ now := by
  have positive : lastStart start fired + request.timeoutMs ≠ 0 := by
    have duration := good.1
    omega
  unfold NbTimeout.expired
  rw [running.timeout]
  simp only [positive, ne_eq, not_false_eq_true, true_and, decide_eq_true_eq]

theorem Spaced.cons {start : Nat} {request : TrackerRequest}
    {fired : List Firing} {firing : Firing}
    (spaced : Spaced start request fired)
    (late : lastStart start fired + request.timeoutMs ≤ firing.time) :
    Spaced start request (firing :: fired) := by
  unfold Spaced at spaced ⊢
  cases fired with
  | nil => exact .cons_cons late spaced
  | cons last earlier => exact .cons_cons late spaced

theorem visit_holds (due : log.tracker.Due log.now i) {serial : Nat}
    {j : Fin trackerMaxEntries} (holds : (log.visit i).Holds serial j) :
    log.Holds serial j := by
  obtain ⟨pool, -, notes, -⟩ := visit_due due
  obtain ⟨active, same⟩ := holds
  rw [notes] at same
  rw [pool] at active
  by_cases here : j = i
  · subst here
    exact ⟨due.1, same⟩
  · rw [Function.update_of_ne here] at active
    exact ⟨active, same⟩

/-- The firing of a round. -/
def firing (log : TrackerLog) (i : Fin trackerMaxEntries) : Firing where
  serial := (log.notes i).serial
  time := log.now
  exhausted := ((log.tracker.indexPool i).timeout.retry log.now).2

theorem visit_firedFor (due : log.tracker.Due log.now i) :
    (log.visit i).firedFor (log.notes i).serial =
      log.firing i :: log.firedFor (log.notes i).serial := by
  obtain ⟨-, firings, -⟩ := visit_due due
  unfold firedFor
  rw [firings, List.filter_cons, if_pos (decide_eq_true rfl)]
  rfl

theorem visit_firedFor_other (due : log.tracker.Due log.now i) {serial : Nat}
    (other : (log.notes i).serial ≠ serial) :
    (log.visit i).firedFor serial = log.firedFor serial := by
  obtain ⟨-, firings, -⟩ := visit_due due
  unfold firedFor
  rw [firings, List.filter_cons, if_neg (by simpa using other)]

/-- What a firing does to the stage of its own entry. -/
theorem visit_stage (sound : Sound log) (due : log.tracker.Due log.now i)
    {start : Nat} {request : TrackerRequest} (good : Schedulable request)
    (running : Running start request (log.firedFor (log.notes i).serial)
      (log.tracker.indexPool i))
    (flags : (log.firedFor (log.notes i).serial).map Firing.exhausted =
      List.replicate (log.firedFor (log.notes i).serial).length false) :
    Stage (log.visit i) (log.notes i).serial start request := by
  obtain ⟨pool, -, notes, -⟩ := visit_due due
  obtain ⟨outcome, again⟩ := @Running.retry _ log.now _ _ _ running good
  have fired := visit_firedFor due
  have index := congrFun pool i
  rw [Function.update_self] at index
  by_cases last : (log.firedFor (log.notes i).serial).length =
      request.maxRetries - 1
  · have exhausted : (log.firing i).exhausted = true :=
      outcome.trans (decide_eq_true last)
    refine .exhausted ?_ ?_
    · rintro ⟨j, holds⟩
      have here := sound.single _ j i (visit_holds due holds) ⟨due.1, rfl⟩
      have active := holds.1
      rw [here, index] at active
      simp [Tracker.retried, outcome, last] at active
    · rw [fired, List.map_cons, flags, exhausted, last]
      rfl
  · have left := running.left
    have more := again (by omega)
    have exhausted : (log.firing i).exhausted = false :=
      outcome.trans (decide_eq_false last)
    refine @Stage.running _ _ _ _ i ⟨?_, ?_⟩ ?_ ?_
    · rw [index]
      simp [Tracker.retried, outcome, last]
    · rw [notes]
    · rw [fired, index]
      exact ⟨more, by rw [List.length_cons]; omega⟩
    · rw [fired, List.map_cons, flags, exhausted, List.length_cons]
      rfl

theorem Sound.visit (sound : Sound log) (i : Fin trackerMaxEntries) :
    Sound (log.visit i) := by
  by_cases due : log.tracker.Due log.now i
  · obtain ⟨pool, firings, notes, added, gone, -⟩ := visit_due due
    have here : log.Holds (log.notes i).serial i := ⟨due.1, rfl⟩
    constructor
    · rw [firings, added]
      intro firing member
      rcases List.mem_cons.mp member with rfl | old
      · exact sound.held _ i here
      · exact sound.fresh firing old
    · intro serial j holds
      rw [added]
      exact sound.held serial j (visit_holds due holds)
    · intro serial j k left right
      exact sound.single serial j k (visit_holds due left)
        (visit_holds due right)
    · intro serial member
      rw [gone] at member
      rw [added]
      obtain ⟨below, idle⟩ := sound.away serial member
      exact ⟨below, fun ⟨j, holds⟩ => idle ⟨j, visit_holds due holds⟩⟩
    · intro serial start request found good
      rw [added] at found
      have before := sound.spaced serial start request found good
      by_cases own : (log.notes i).serial = serial
      · subst own
        rw [visit_firedFor due]
        refine before.cons ?_
        cases sound.stage _ start request found good with
        | @running j holds running _ =>
            have same := sound.single _ j i holds here
            subst same
            exact (running.due_iff good).mp due.2
        | exhausted idle _ => exact absurd ⟨i, here⟩ idle
        | removed idle _ _ _ => exact absurd ⟨i, here⟩ idle
      · rw [visit_firedFor_other due own]
        exact before
    · intro serial start request found good
      rw [added] at found
      by_cases own : (log.notes i).serial = serial
      · subst own
        cases sound.stage _ start request found good with
        | @running j holds running flags =>
            have same := sound.single _ j i holds here
            subst same
            exact visit_stage sound due good running flags
        | exhausted idle _ => exact absurd ⟨i, here⟩ idle
        | removed idle _ _ _ => exact absurd ⟨i, here⟩ idle
      · have fired := visit_firedFor_other due own
        have idle (before : ¬ log.InUse serial) :
            ¬ (log.visit i).InUse serial :=
          fun ⟨j, holds⟩ => before ⟨j, visit_holds due holds⟩
        cases sound.stage serial start request found good with
        | @running j holds running flags =>
            have apart : j ≠ i := by
              rintro rfl
              exact own holds.2
            have index := congrFun pool j
            rw [Function.update_of_ne apart] at index
            rw [← fired] at running flags
            refine @Stage.running _ _ _ _ j ⟨?_, ?_⟩ ?_ flags
            · rw [index]
              exact holds.1
            · rw [notes]
              exact holds.2
            · rw [index]
              exact running
        | exhausted none_ flags =>
            exact .exhausted (idle none_) (fired ▸ flags)
        | removed none_ member left flags =>
            rw [← fired] at left flags
            exact .removed (idle none_) (gone ▸ member) left flags
  · rw [visit_early due]
    exact sound

end Visit

theorem Sound.step (sound : Sound log) (event : TrackerEvent) :
    Sound (log.after event) := by
  cases event with
  | visit i => exact sound.visit i
  | call call =>
      cases call with
      | elapse ms =>
          have quiet : Loses log { log with now := log.now + ms } :=
            .quiet rfl rfl rfl (fun _ => rfl) fun _ => ⟨rfl, rfl⟩
          exact quiet.sound sound
      | nextId => exact allocate_loses.sound sound
      | add trackingId request => exact sound.enlist trackingId 0 request
      | send request =>
          exact (allocate_loses.sound sound).enlist _ _ request
      | removeByTrackingId trackingId =>
          exact (remove_loses (Tracker.removeFound_each _)).sound sound
      | removeByDst dstId packetType =>
          exact (remove_loses (Tracker.removeFound_each _)).sound sound
      | removeByDevice dstId =>
          exact (remove_loses (Tracker.removeByDevice_each _)).sound sound
      | updatePayload trackingId payload =>
          exact (updatePayload_loses trackingId payload).sound sound

section Tick

variable {serial : Nat} {i : Fin trackerMaxEntries}

/-- The entry did not fire; its slot holds it as before, unless it was
removed. -/
structure Waits (serial : Nat) (i : Fin trackerMaxEntries)
    (log log' : TrackerLog) : Prop where
  added : log.added.length ≤ log'.added.length
  fired : log'.firedFor serial = log.firedFor serial
  gone : serial ∈ log.gone → serial ∈ log'.gone
  now : log.now ≤ log'.now
  holds : ∀ j, log'.Holds serial j → log.Holds serial j
  kept : log.Holds serial i → serial ∈ log'.gone ∨ log'.Holds serial i ∧
    (log'.tracker.indexPool i).timeout = (log.tracker.indexPool i).timeout

theorem Waits.refl (log : TrackerLog) : Waits serial i log log where
  added := Nat.le_refl _
  fired := rfl
  gone := id
  now := Nat.le_refl _
  holds := fun _ => id
  kept := fun holds => .inr ⟨holds, rfl⟩

theorem Waits.trans {middle : TrackerLog} (first : Waits serial i log middle)
    (second : Waits serial i middle log') : Waits serial i log log' where
  added := Nat.le_trans first.added second.added
  fired := second.fired.trans first.fired
  gone := second.gone ∘ first.gone
  now := Nat.le_trans first.now second.now
  holds := fun j => first.holds j ∘ second.holds j
  kept := by
    intro holds
    rcases first.kept holds with gone | ⟨held, same⟩
    · exact .inl (second.gone gone)
    · exact (second.kept held).imp_right fun ⟨still, equal⟩ =>
        ⟨still, equal.trans same⟩

theorem Loses.waits (loses : Loses log log') (now : log.now ≤ log'.now) :
    Waits serial i log log' where
  added := Nat.le_of_eq (congrArg List.length loses.added).symm
  fired := loses.firedFor serial
  gone := loses.gone serial
  now := now
  holds := fun _ => loses.holds
  kept := by
    intro holds
    by_cases still : (log'.tracker.indexPool i).active = true
    · exact .inr ⟨⟨still, (loses.serial i).trans holds.2⟩,
        (loses.timeout i still).2⟩
    · have gone := (loses.lost i holds.1).resolve_left still
      exact .inl (holds.2 ▸ gone)

theorem enlist_waits (below : serial < log.added.length) (trackingId : UInt8)
    (allocation : Nat) (request : TrackerRequest) :
    Waits serial i log (log.enlist trackingId allocation request) := by
  cases free : log.tracker.freeEntry with
  | none =>
      rw [enlist_full free]
      exact .refl log
  | some k =>
      have holds := enlist_holds free trackingId allocation request
      have off := Tracker.freeEntry_some free
      have pool : (log.enlist trackingId allocation
          request).tracker.indexPool = Function.update log.tracker.indexPool k
            (Tracker.added log.now trackingId request) := by
        rw [enlist_free free]
        exact Tracker.trackerAdd_indexPool _ _ _ free
      constructor
      · rw [enlist_free free]
        simp
      · rw [enlist_free free]
        rfl
      · rw [enlist_free free]
        exact id
      · rw [enlist_free free]
      · intro j held
        rcases (holds serial j).mp held with ⟨-, new⟩ | ⟨-, old⟩
        · omega
        · exact old
      · intro held
        have apart : i ≠ k := by
          rintro rfl
          exact Bool.noConfusion (off.symm.trans held.1)
        refine .inr ⟨(holds serial i).mpr (.inr ⟨apart, held⟩), ?_⟩
        rw [pool, Function.update_of_ne apart]

theorem handle_waits (below : serial < log.added.length)
    (call : TrackerCall) : Waits serial i log (log.handle call) := by
  have allocated : Waits serial i log log.allocate :=
    allocate_loses.waits (Nat.le_refl _)
  cases call with
  | elapse ms =>
      have quiet : Loses log { log with now := log.now + ms } :=
        .quiet rfl rfl rfl (fun _ => rfl) fun _ => ⟨rfl, rfl⟩
      exact quiet.waits (Nat.le_add_right _ _)
  | nextId => exact allocated
  | add trackingId request => exact enlist_waits below _ _ _
  | send request =>
      exact allocated.trans (@enlist_waits log.allocate serial i below _ _ _)
  | removeByTrackingId trackingId =>
      exact (remove_loses (Tracker.removeFound_each _)).waits (Nat.le_refl _)
  | removeByDst dstId packetType =>
      exact (remove_loses (Tracker.removeFound_each _)).waits (Nat.le_refl _)
  | removeByDevice dstId =>
      exact (remove_loses (Tracker.removeByDevice_each _)).waits (Nat.le_refl _)
  | updatePayload trackingId payload =>
      exact (updatePayload_loses trackingId payload).waits (Nat.le_refl _)

theorem calls_wait (calls : List TrackerCall)
    (below : serial < log.added.length) :
    Waits serial i log (calls.foldl handle log) := by
  induction calls generalizing log with
  | nil => exact .refl log
  | cons call rest ih =>
      have first := @handle_waits log serial i below call
      exact first.trans (ih (Nat.lt_of_lt_of_le below first.added))

/-- A round for a slot that holds another entry. -/
theorem visit_waits {j : Fin trackerMaxEntries}
    (other : ¬ log.Holds serial j) : Waits serial i log (log.visit j) := by
  by_cases due : log.tracker.Due log.now j
  · obtain ⟨pool, -, notes, added, gone, now⟩ := visit_due due
    have different : (log.notes j).serial ≠ serial := fun same =>
      other ⟨due.1, same⟩
    constructor
    · rw [added]
    · exact visit_firedFor_other due different
    · rw [gone]
      exact id
    · rw [now]
    · exact fun k => visit_holds due
    · intro holds
      have apart : i ≠ j := by
        rintro rfl
        exact other holds
      unfold Holds
      rw [pool, notes, Function.update_of_ne apart]
      exact .inr ⟨holds, rfl⟩
  · rw [visit_early due]
    exact .refl log

theorem round_eq
    (callback : Fin trackerMaxEntries → DataTracker → Bool → List TrackerCall)
    (log : TrackerLog) (j : Fin trackerMaxEntries) :
    ∃ calls : List TrackerCall,
      round callback log j = calls.foldl handle (log.visit j) := by
  unfold round
  split
  · exact ⟨[], rfl⟩
  · exact ⟨_, rfl⟩

theorem rounds_wait
    (callback : Fin trackerMaxEntries → DataTracker → Bool → List TrackerCall)
    (slots : List (Fin trackerMaxEntries))
    (below : serial < log.added.length)
    (others : ∀ j ∈ slots, ¬ log.Holds serial j) :
    Waits serial i log (slots.foldl (round callback) log) := by
  induction slots generalizing log with
  | nil => exact .refl log
  | cons j rest ih =>
      obtain ⟨calls, round_⟩ := round_eq callback log j
      have visited := @visit_waits log serial i j (others j List.mem_cons_self)
      have called := visited.trans (calls_wait calls
        (Nat.lt_of_lt_of_le below visited.added))
      rw [← round_] at called
      refine called.trans (ih (Nat.lt_of_lt_of_le below called.added) ?_)
      exact fun k member held =>
        others k (List.mem_cons_of_mem j member) (called.holds k held)

end Tick

theorem reach_sound {crc : List UInt8 → UInt16} {psram : Psram}
    (reach : Trace.Reach step Anything (.boot crc psram) log) : Sound log := by
  apply reach.invariant
  · exact .boot crc psram
  · intro before event after sound _ stepped
    cases stepped
    exact sound.step event

theorem rounds_reach
    (callback : Fin trackerMaxEntries → DataTracker → Bool → List TrackerCall)
    (slots : List (Fin trackerMaxEntries)) (log : TrackerLog) :
    Trace.Reach step Anything log (slots.foldl (round callback) log) := by
  induction slots generalizing log with
  | nil => exact .refl
  | cons j rest ih =>
      obtain ⟨calls, round_⟩ := round_eq callback log j
      have called := (reach_after log (.visit j)).trans
        (calls_reach calls (log.visit j) fun _ _ _ => trivial)
      have called : Trace.Reach step Anything log (round callback log j) :=
        round_ ▸ called
      exact called.trans (ih (round callback log j))

theorem Sound.reach (sound : Sound log)
    (later : Trace.Reach TrackerLog.step Anything log log') :
    Sound log' := by
  apply later.invariant sound
  intro before event after kept _ stepped
  cases stepped
  exact kept.step event

/-- An entry out of use does not fire any more. -/
theorem silent_after (sound : Sound log) {serial : Nat}
    (below : serial < log.added.length) (idle : ¬ log.InUse serial)
    (later : Trace.Reach step Anything log log') :
    log'.firedFor serial = log.firedFor serial ∧ ¬ log'.InUse serial := by
  have both : Sound log' ∧ serial < log'.added.length ∧
      log'.firedFor serial = log.firedFor serial ∧
        ¬ log'.InUse serial := by
    apply later.invariant
    · exact ⟨sound, below, rfl, idle⟩
    · rintro before event after ⟨sound, below, same, idle⟩ - stepped
      cases stepped
      have waits : ∀ i, Waits serial i before (before.after event) := by
        intro i
        cases event with
        | call call => exact handle_waits below call
        | visit j => exact visit_waits fun holds => idle ⟨j, holds⟩
      refine ⟨sound.step event, ?_, ?_, ?_⟩
      · exact Nat.lt_of_lt_of_le below (waits ⟨0, by decide⟩).added
      · exact (waits ⟨0, by decide⟩).fired.trans same
      · rintro ⟨j, holds⟩
        exact idle ⟨j, (waits j).holds j holds⟩
  exact both.2.2

/-- A tick that comes a timeout after the entry was last started fires it, and
only once, unless the callback removes it first. -/
theorem trackerTick_fires (sound : Sound log) {serial start : Nat}
    {request : TrackerRequest}
    (found : log.added[serial]? = some (start, request))
    (good : Schedulable request) (inUse : log.InUse serial)
    (late : lastStart start (log.firedFor serial) + request.timeoutMs ≤
      log.now)
    (callback : Fin trackerMaxEntries → DataTracker → Bool →
      List TrackerCall) :
    serial ∈ (log.trackerTick callback).gone ∨
      ∃ time, log.now ≤ time ∧
        (log.trackerTick callback).firedFor serial =
          { serial := serial
            time := time
            exhausted := decide ((log.firedFor serial).length =
              request.maxRetries - 1) } :: log.firedFor serial := by
  obtain ⟨i, holds⟩ := inUse
  have below := sound.held serial i holds
  have only := fun j (held : log.Holds serial j) =>
    sound.single serial j i held holds
  obtain ⟨first, rest, split⟩ :=
    List.mem_iff_append.mp (List.mem_finRange i)
  have distinct := List.nodup_finRange trackerMaxEntries
  rw [split, List.nodup_append] at distinct
  obtain ⟨-, tail, apart⟩ := distinct
  have before : ∀ j ∈ first, ¬ log.Holds serial j := by
    intro j member held
    exact apart j member i List.mem_cons_self (only j held)
  have came := @rounds_wait log serial i callback first below before
  have reached := sound.reach (rounds_reach callback first log)
  unfold trackerTick
  rw [split, List.foldl_append]
  generalize first.foldl (round callback) log = middle at came reached ⊢
  have stillBelow := Nat.lt_of_lt_of_le below came.added
  rcases came.kept holds with gone | ⟨held, same⟩
  · have idle := (reached.away serial gone).2
    have passed := @rounds_wait middle serial i callback (i :: rest)
      stillBelow fun j _ held => idle ⟨j, held⟩
    exact .inl (passed.gone gone)
  · right
    cases sound.stage serial start request found good with
    | exhausted idle _ => exact absurd ⟨i, holds⟩ idle
    | removed idle _ _ _ => exact absurd ⟨i, holds⟩ idle
    | @running j held' running _ =>
        rw [only j held'] at running
        have kept := running.congr same
        have due : middle.tracker.Due middle.now i :=
          ⟨held.1, (kept.due_iff good).mpr (Nat.le_trans late came.now)⟩
        have fired := visit_firedFor due
        rw [held.2, came.fired] at fired
        obtain ⟨-, -, -, added, -, -⟩ := visit_due due
        obtain ⟨calls, round_⟩ := round_eq callback middle i
        have below' : serial < (middle.visit i).added.length := by
          rw [added]
          exact stillBelow
        have called := @calls_wait (middle.visit i) serial i calls below'
        have passed := @rounds_wait (calls.foldl handle (middle.visit i))
          serial i callback rest
          (Nat.lt_of_lt_of_le below' called.added) <| by
            intro j member holds'
            have here := visit_holds due (called.holds j holds')
            have same := only j (came.holds j here)
            subst same
            exact (List.nodup_cons.mp tail).1 member
        refine ⟨middle.now, came.now, ?_⟩
        rw [List.foldl_cons, round_, passed.fired, called.fired, fired]
        congr 1
        unfold firing
        rw [held.2, (kept.retry good).1]

/-- The retry schedule.  Every entry with a timeout and at most 254 retries,
whatever else comes and goes: what it fires is a part of its schedule from the
start on, a timeout apart; it is in use, was removed or has fired all of it; out
of use it fires no more; and a tick that comes late enough fires it. -/
theorem retries_scheduled {crc : List UInt8 → UInt16} {psram : Psram}
    (reach : Trace.Reach step Anything (.boot crc psram) log)
    {serial start : Nat} {request : TrackerRequest}
    (added : log.added[serial]? = some (start, request))
    (good : Schedulable request) :
    ((log.firedFor serial).map Firing.exhausted <:+ allFlags request) ∧
      Spaced start request (log.firedFor serial) ∧
      (log.InUse serial ∨ serial ∈ log.gone ∨
        (log.firedFor serial).map Firing.exhausted = allFlags request) ∧
      (serial ∈ log.gone ∨ true ∈ (log.firedFor serial).map Firing.exhausted →
        ¬ log.InUse serial) ∧
      (¬ log.InUse serial → ∀ log', Trace.Reach step Anything log log' →
        log'.firedFor serial = log.firedFor serial ∧ ¬ log'.InUse serial) ∧
      (log.InUse serial →
        lastStart start (log.firedFor serial) + request.timeoutMs ≤ log.now →
        ∀ callback, serial ∈ (log.trackerTick callback).gone ∨
          ∃ time, log.now ≤ time ∧
            (log.trackerTick callback).firedFor serial =
              { serial := serial
                time := time
                exhausted := decide ((log.firedFor serial).length =
                  request.maxRetries - 1) } :: log.firedFor serial) := by
  have sound := reach_sound reach
  have below : serial < log.added.length :=
    (List.getElem?_eq_some_iff.mp added).1
  have none_ {count : Nat} (flags : (log.firedFor serial).map
      Firing.exhausted = List.replicate count false) :
      true ∉ (log.firedFor serial).map Firing.exhausted := by
    rw [flags, List.mem_replicate]
    exact fun both => Bool.noConfusion both.2
  have part {count : Nat} (left : count ≤ request.maxRetries - 1) :
      List.replicate count false <:+ allFlags request := by
    refine List.IsSuffix.trans ?_ (List.suffix_cons true _)
    exact ⟨List.replicate (request.maxRetries - 1 - count) false, by
      rw [List.replicate_append_replicate, Nat.sub_add_cancel left]⟩
  refine ⟨?_, sound.spaced serial start request added good, ?_, ?_,
    fun idle log' => silent_after sound below idle,
    trackerTick_fires sound added good⟩
  · cases sound.stage serial start request added good with
    | running holds running flags => exact flags ▸ part running.left
    | exhausted idle flags => exact flags ▸ List.suffix_rfl
    | removed idle gone left flags => exact flags ▸ part left
  · cases sound.stage serial start request added good with
    | running holds running flags => exact .inl ⟨_, holds⟩
    | exhausted idle flags => exact .inr (.inr flags)
    | removed idle gone left flags => exact .inr (.inl gone)
  · rintro (gone | last)
    · exact (sound.away serial gone).2
    · cases sound.stage serial start request added good with
      | running holds running flags => exact absurd last (none_ flags)
      | exhausted idle flags => exact idle
      | removed idle gone left flags => exact idle

section Samples

/-- A packet with one retry. -/
def twiceTracked : TrackerRequest where
  timeoutMs := 1
  maxRetries := 2

/-- The packet was sent, and its timeout is over. -/
def trackedLog : TrackerLog :=
  ((TrackerLog.boot Tracker.crc16Ccitt {}).handle (.send twiceTracked)).handle
    (.elapse 1)

theorem retries_scheduled_twice :
    ((trackedLog.firedFor 0).map Firing.exhausted <:+ [true, false]) ∧
      ∀ callback, 0 ∈ (trackedLog.trackerTick callback).gone ∨
        ∃ time, 1 ≤ time ∧ (trackedLog.trackerTick callback).firedFor 0 =
          [{ serial := 0, time := time, exhausted := false }] := by
  have reach : Trace.Reach step Anything (.boot Tracker.crc16Ccitt {})
      trackedLog :=
    (reach_after _ (.call (.send twiceTracked))).trans
      (reach_after _ (.call (.elapse 1)))
  obtain ⟨part, -, -, -, -, tick⟩ := @retries_scheduled trackedLog _ _ reach 0
    0 twiceTracked (by decide +kernel) ⟨by decide, by decide⟩
  have quiet : trackedLog.firedFor 0 = [] := by decide +kernel
  have inUse : trackedLog.InUse 0 :=
    ⟨⟨0, by decide⟩, by decide +kernel, by decide +kernel⟩
  have now : trackedLog.now = 1 := by decide +kernel
  rw [quiet, now] at tick
  exact ⟨part, tick inUse (Nat.le_refl 1)⟩

end Samples

end TrackerLog

end DectMesh
