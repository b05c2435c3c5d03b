import DectMesh.UartTx.Run

/-!
# No byte stays behind

While the driver accepts every start no wake-up is lost, and three whole
transmissions empty the ring buffer.
-/

namespace DectMesh

namespace UartTx

variable {Thread : Type} (s : UartTx Thread) [DecidableEq Thread]

section Willing

variable {s} {s' : UartTx Thread} {thread : Thread} {place : Writer}
variable {event : UartTxEvent Thread}

/-- The token is not lost, no call gave anything up, and while the semaphore is
free and bytes are left some thread is about to look at it. -/
structure Awake (s : UartTx Thread) : Prop where
  alive : ∃ permit, s.HeldBy permit ∧ permit ≠ .lost
  started : ∀ t err rest, s.writer t ≠ .refused err rest
  kept : ∀ t err, s.writer t ≠ .dropping err
  wake : s.txDoneSem = true → s.txRingbuf.items ≠ [] →
    ∃ t, (s.writer t).Polls
  whole : ∀ write ∈ s.settled ++ s.current.toList, write.dropped = none

omit [DecidableEq Thread] in
theorem Awake.initial : ({} : UartTx Thread).Awake where
  alive := ⟨.free, .initial, by simp⟩
  started := by simp
  kept := by simp
  wake := fun _ left => absurd rfl left
  whole := by simp

theorem Awake.moved (awake : s.Awake) (writer : s'.writer = s.writer)
    (alive : ∃ permit, (s'.goto thread place).HeldBy permit ∧
      permit ≠ .lost)
    (started : ∀ err rest, place ≠ .refused err rest)
    (kept : ∀ err, place ≠ .dropping err)
    (wake : s'.txDoneSem = true → s'.txRingbuf.items ≠ [] →
      place.Polls ∨ ∃ t, t ≠ thread ∧ (s.writer t).Polls)
    (whole : ∀ write ∈ s'.settled ++ s'.current.toList,
      write.dropped = none) :
    (s'.goto thread place).Awake := by
  refine ⟨alive, ?_, ?_, ?_, whole⟩
  · intro t err rest
    by_cases here : t = thread
    · simp only [goto, here, Function.update_self]
      exact started err rest
    · simp only [goto, Function.update_of_ne here, writer]
      exact awake.started t err rest
  · intro t err
    by_cases here : t = thread
    · simp only [goto, here, Function.update_self]
      exact kept err
    · simp only [goto, Function.update_of_ne here, writer]
      exact awake.kept t err
  · intro free left
    rcases wake free left with polls | ⟨t, other, polls⟩
    · refine ⟨thread, ?_⟩
      simp only [goto, Function.update_self]
      exact polls
    · refine ⟨t, ?_⟩
      simp only [goto, Function.update_of_ne other, writer]
      exact polls

theorem Awake.advance (awake : s.Awake) : (s.advance thread 0).Awake := by
  obtain ⟨permit, held, alive⟩ := awake.alive
  have living : ∃ permit, (s.advance thread 0).HeldBy permit ∧
      permit ≠ .lost := by
    obtain ⟨after, holds, lost⟩ := held.advance
    exact ⟨after, holds, lost.not.mpr alive⟩
  cases there : s.writer thread with
  | idle =>
      simp only [UartTx.advance, there]
      exact awake
  | entering data =>
      simp only [UartTx.advance, there] at living ⊢
      split at living
      · next free =>
        rw [if_pos free]
        refine awake.moved rfl living (fun _ _ => by simp) (fun _ => by simp)
          (fun _ _ => Or.inl trivial) ?_
        intro write member
        simp only [List.mem_append, Option.toList_some,
          List.mem_singleton] at member
        rcases member with before | rfl
        · exact awake.whole write (List.mem_append_left _ before)
        · rfl
      · next taken =>
        rw [if_neg taken]
        exact awake
  | putting rest =>
      cases rest with
      | nil =>
          simp only [UartTx.advance, there] at living ⊢
          refine awake.moved rfl living (fun _ _ => by simp) (fun _ => by simp)
            (fun _ _ => Or.inl trivial) ?_
          simpa only [unlock, Option.toList_none, List.append_nil] using
            awake.whole
      | cons byte more =>
          simp only [UartTx.advance, there] at living ⊢
          split at living
          · next full =>
            rw [if_pos full]
            exact awake.moved rfl living (fun _ _ => by simp) (fun _ => by simp)
              (fun _ _ => Or.inl trivial) awake.whole
          · next room =>
            rw [if_neg room]
            refine awake.moved rfl living (fun _ _ => by simp) (fun _ => by simp)
              (fun _ _ => Or.inl trivial) ?_
            intro write member
            simp only [put, List.mem_append, Option.mem_toList,
              Option.map_eq_some_iff] at member
            rcases member with before | ⟨old, here, rfl⟩
            · exact awake.whole write (List.mem_append_left _ before)
            · exact awake.whole old (List.mem_append_right _
                (Option.mem_toList.mpr here))
  | blocked rest =>
      simp only [UartTx.advance, there] at living ⊢
      split at living
      · next free =>
        rw [if_pos free]
        exact awake.moved rfl living (fun _ _ => by simp) (fun _ => by simp)
          (by simp) awake.whole
      · next taken =>
        rw [if_neg taken]
        exact awake
  | polling =>
      simp only [UartTx.advance, there] at living ⊢
      split at living
      · next free =>
        rw [if_pos free]
        exact awake.moved rfl living (fun _ _ => by simp) (fun _ => by simp)
          (by simp) awake.whole
      · next taken =>
        rw [if_neg taken]
        exact awake.moved rfl living (fun _ _ => by simp) (fun _ => by simp)
          (fun free => absurd free taken) awake.whole
  | starting rest =>
      have own := held.own there trivial
      simp only [UartTx.advance, there] at living ⊢
      exact awake.moved rfl living (fun _ _ => by simp) (fun _ => by simp)
        (fun free => absurd ((own.taken (by simp)).symm.trans free) (by simp))
        awake.whole
  | claimed buf rest =>
      have own := held.own there trivial
      have idle := own.idle (by simp)
      have sent : (s.transmit buf 0).2 = 0 := transmit_free idle
      have state := (transmit_started sent).2.2
      simp only [UartTx.advance, there, if_pos sent, state] at living ⊢
      refine awake.moved rfl living ?_ ?_
        (fun free => absurd ((own.taken (by simp)).symm.trans free) (by simp))
        awake.whole
      · cases rest <;> simp
      · cases rest <;> simp
  | refused err rest => exact absurd there (awake.started thread err rest)
  | dropping err => exact absurd there (awake.kept thread err)

omit [DecidableEq Thread] in
theorem txEnded_writer {len : Nat} {err : Int} :
    (s.txEnded len err).writer = s.writer ∧
      (s.txEnded len err).settled = s.settled ∧
        (s.txEnded len err).current = s.current := by
  unfold txEnded
  split
  · by_cases willing : err = 0
    · rw [willing, slmAtTxStart_started rfl]
      exact ⟨rfl, rfl, rfl⟩
    · rw [slmAtTxStart_refused rfl willing]
      exact ⟨rfl, rfl, rfl⟩
  · exact ⟨rfl, rfl, rfl⟩

omit [DecidableEq Thread] in
theorem Awake.txEnded {len : Nat} (awake : s.Awake)
    (admitted : s.Admits (.txEnded len 0)) : (s.txEnded len 0).Awake := by
  obtain ⟨permit, held, _⟩ := awake.alive
  obtain ⟨buf, given, within⟩ := admitted
  obtain ⟨after, holds, lost⟩ := held.txEnded given within
  obtain ⟨writer, settled, current⟩ := txEnded_writer
  refine ⟨⟨after, holds, fun gone => (lost.mp gone).2 rfl⟩, ?_, ?_, ?_, ?_⟩
  · rw [writer]
    exact awake.started
  · rw [writer]
    exact awake.kept
  · intro free left
    unfold UartTx.txEnded at free left
    split at free
    · next more =>
      have source := (held.handed given).1
      subst source
      have sem := held.taken (by simp)
      rw [slmAtTxStart_started rfl] at free
      cases sem.symm.trans free
    · next last =>
      rw [if_neg last] at left
      exact absurd left last
  · rw [settled, current]
    exact awake.whole

theorem Awake.step (awake : s.Awake) (willing : s.Willing event)
    (moved : s.step event = .ok s') : s'.Awake := by
  cases event with
  | call thread data =>
      obtain ⟨permit, held, alive⟩ := awake.alive
      have holds := held.call moved
      simp only [UartTx.step] at moved
      split at moved
      · next there =>
        cases moved
        refine awake.moved rfl ⟨permit, holds, alive⟩ (fun _ _ => by simp)
          (fun _ => by simp) ?_ awake.whole
        intro free left
        obtain ⟨t, polls⟩ := awake.wake free left
        refine Or.inr ⟨t, ?_, polls⟩
        rintro rfl
        rw [there] at polls
        exact polls
      · cases moved
        exact awake
  | run thread err =>
      cases moved
      rw [show err = 0 from willing]
      exact awake.advance
  | txEnded len err =>
      obtain ⟨rfl, admitted⟩ := willing
      cases moved
      exact awake.txEnded admitted

theorem reach_awake (reach : Trace.Reach step Willing {} s) :
    s.Awake ∧ s.Recorded := by
  apply reach.invariant
  · exact ⟨.initial, .initial⟩
  · rintro before event after ⟨awake, record⟩ willing moved
    obtain ⟨permit, held, _⟩ := awake.alive
    exact ⟨awake.step willing moved, record.step held willing.admits moved⟩

omit [DecidableEq Thread] in
/-- The driver gets through with what it has. -/
def complete (s : UartTx Thread) : UartTx Thread :=
  match s.inFlight with
  | some buf => s.txEnded buf.length 0
  | none => s

omit [DecidableEq Thread] in
/-- The next transmission is what is left, up to the end of the array. -/
theorem HeldBy.complete {permit : Permit Thread} {buf : List UInt8}
    (held : s.HeldBy permit) (given : s.inFlight = some buf) :
    s.complete.txRingbuf.items = s.txRingbuf.items.drop buf.length ∧
      s.complete.txRingbuf.position =
        (s.txRingbuf.position + buf.length) % uartSlmAtTxBufLen ∧
      (s.complete.txRingbuf.items ≠ [] → ∃ next,
        s.complete.inFlight = some next ∧
          next.length = min s.complete.txRingbuf.items.length
            (uartSlmAtTxBufLen - s.complete.txRingbuf.position)) := by
  obtain ⟨_, handed, _⟩ := held.handed given
  obtain ⟨items, nothing, position⟩ :=
    ended_ring (s := s) (Nat.le_of_eq handed.symm)
  have below : (s.ended buf.length).txRingbuf.position < uartSlmAtTxBufLen := by
    rw [position]
    exact Nat.mod_lt _ (by decide)
  have bounded := (s.ended buf.length).txRingbuf.bounded
  have run : s.complete = s.txEnded buf.length 0 := by
    rw [UartTx.complete, given]
  rw [run]
  unfold UartTx.txEnded
  split
  · next left =>
    rw [slmAtTxStart_started rfl]
    refine ⟨items, position, fun _ => ⟨_, rfl, ?_⟩⟩
    simp only [claim, RingBuf.getClaim, RingBuf.piece, nothing, List.drop_zero,
      List.length_take, Nat.add_zero, Nat.sub_zero, Nat.mod_eq_of_lt below]
    omega
  · next last => exact ⟨items, position, fun left => absurd left last⟩

/-- Nobody is in a call, and nothing was refused. -/
structure Quiet (s : UartTx Thread) : Prop where
  awake : s.Awake
  record : s.Recorded
  idle : ∀ t, s.writer t = .idle

omit [DecidableEq Thread] in
theorem Quiet.complete (quiet : s.Quiet) :
    s.complete.Quiet ∧ s.complete.settled = s.settled := by
  unfold UartTx.complete
  split
  · next buf given =>
    obtain ⟨permit, held, _⟩ := quiet.awake.alive
    obtain ⟨writer, settled, _⟩ := txEnded_writer
    refine ⟨⟨?_, ?_, fun t => ?_⟩, settled⟩
    · exact quiet.awake.txEnded ⟨buf, given, le_rfl⟩
    · exact quiet.record.txEnded held given le_rfl
    · rw [writer]
      exact quiet.idle t
  · exact ⟨quiet, rfl⟩

omit [DecidableEq Thread] in
/-- Without a transmission nothing is left to send. -/
theorem Quiet.clear (quiet : s.Quiet) (rests : s.inFlight = none) :
    s.txRingbuf.items = [] := by
  obtain ⟨permit, held, alive⟩ := quiet.awake.alive
  by_contra left
  cases permit with
  | free =>
      obtain ⟨t, polls⟩ := quiet.awake.wake (held.free.mpr rfl) left
      rw [quiet.idle t] at polls
      exact polls
  | driver => exact held.driver.mpr rfl rests
  | thread t =>
      have starts := (held.thread t).mpr rfl
      rw [quiet.idle t] at starts
      exact starts
  | lost => exact alive rfl

omit [DecidableEq Thread] in
theorem Quiet.stays_clear (quiet : s.Quiet)
    (nothing : s.txRingbuf.items = []) : s.complete.txRingbuf.items = [] := by
  cases given : s.inFlight with
  | none =>
      rw [UartTx.complete, given]
      exact nothing
  | some buf =>
      obtain ⟨permit, held, _⟩ := quiet.awake.alive
      rw [(held.complete given).1, nothing, List.drop_nil]

omit [DecidableEq Thread] in
/-- A transmission that starts where the array does takes all, and so does one
that does not reach its end; the others leave the position at its start. -/
theorem Quiet.drains (quiet : s.Quiet)
    (left : s.complete.txRingbuf.items ≠ []) :
    s.complete.complete.txRingbuf.items = [] ∨
      s.complete.complete.txRingbuf.position = 0 ∧
        s.complete.txRingbuf.position ≠ 0 := by
  have later := quiet.complete.1
  obtain ⟨permit, held, _⟩ := quiet.awake.alive
  obtain ⟨after, holds, _⟩ := later.awake.alive
  cases given : s.inFlight with
  | none =>
      rw [UartTx.complete, given] at left
      exact absurd (quiet.clear given) left
  | some buf =>
      obtain ⟨_, position, starts⟩ := held.complete given
      obtain ⟨next, flight, length⟩ := starts left
      obtain ⟨items, further, _⟩ := holds.complete flight
      have below : s.complete.txRingbuf.position < uartSlmAtTxBufLen := by
        rw [position]
        exact Nat.mod_lt _ (by decide)
      have bounded := s.complete.txRingbuf.bounded
      by_cases all : next.length = s.complete.txRingbuf.items.length
      · left
        rw [items, List.drop_eq_nil_iff]
        exact Nat.le_of_eq all.symm
      · right
        have piece : next.length =
            uartSlmAtTxBufLen - s.complete.txRingbuf.position := by omega
        have around : s.complete.txRingbuf.position + next.length =
            uartSlmAtTxBufLen := by omega
        rw [further, around]
        exact ⟨Nat.mod_self _, by omega⟩

/-- With a driver that accepts every start, a thread waits in the loop only
while a transmission is under way or another thread is about to start one; and
once no thread is in a call, everything that any call put is on the wire, call
after call and whole, after three more ends of transmissions. -/
theorem idle_drains (reach : Trace.Reach step Willing {} s) :
    (∀ t rest, s.writer t = .blocked rest →
      s.txDoneSem = true ∨ s.inFlight ≠ none ∨
        ∃ other, (s.writer other).Starts) ∧
    ((∀ t, s.writer t = .idle) →
      s.complete.complete.complete.txRingbuf.items = [] ∧
        s.complete.complete.complete.wire =
          s.settled.flatMap TxWrite.data) := by
  obtain ⟨awake, record⟩ := reach_awake reach
  constructor
  · intro t rest _
    obtain ⟨permit, held, alive⟩ := awake.alive
    cases permit with
    | free => exact Or.inl (held.free.mpr rfl)
    | driver => exact Or.inr (Or.inl (held.driver.mpr rfl))
    | thread other =>
        exact Or.inr (Or.inr ⟨other, (held.thread other).mpr rfl⟩)
    | lost => exact absurd rfl alive
  · intro idle
    have quiet : s.Quiet := ⟨awake, record, idle⟩
    obtain ⟨first, sameFirst⟩ := quiet.complete
    obtain ⟨second, sameSecond⟩ := first.complete
    obtain ⟨third, sameThird⟩ := second.complete
    have sent : s.complete.complete.complete.txRingbuf.items = [] := by
      by_contra left
      have leftSecond := fun nothing => left (second.stays_clear nothing)
      have leftFirst := fun nothing => leftSecond (first.stays_clear nothing)
      have start := ((quiet.drains leftFirst).resolve_left leftSecond).1
      exact ((first.drains leftSecond).resolve_left left).2 start
    refine ⟨sent, ?_⟩
    have unlocked : s.complete.complete.complete.mutexTxPut = none := by
      cases owner : s.complete.complete.complete.mutexTxPut with
      | none => rfl
      | some t =>
          have locks := (third.record.locks t).mpr owner
          rw [third.idle t] at locks
          exact locks.elim
    have stream := third.record.stream
    rw [sent, List.append_nil, third.record.absent unlocked,
      Option.toList_none, List.append_nil] at stream
    rw [stream, sameThird, sameSecond, sameFirst]
    refine List.flatMap_congr fun write member => ?_
    exact record.settled write member
      (awake.whole write (List.mem_append_left _ member))

theorem idle_drains_two :
    ∃ s, Trace.run step {} twoWrites = .ok s ∧
      s.inFlight = some [1, 2] ∧
      s.complete.complete.complete.txRingbuf.items = [] ∧
        s.complete.complete.complete.wire =
          s.settled.flatMap TxWrite.data := by
  obtain ⟨s, executed, given, _, first, second⟩ := twoWrites_run
  have reach := Trace.Reach.of_run twoWrites_willing executed
  refine ⟨s, executed, given, (idle_drains reach).2 fun t => ?_⟩
  cases t with
  | false => exact first
  | true => exact second

end Willing

end UartTx

end DectMesh
