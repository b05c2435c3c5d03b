import DectMesh.Library.Trace
import DectMesh.UartTx.Record

/-!
# Every interleaving of the threads and the driver

What holds from an idle UART on, and the one fault that ends all output: a
start that the callback makes and the driver refuses.
-/

namespace DectMesh

namespace UartTx

variable {Thread : Type} (s : UartTx Thread) [DecidableEq Thread]

section Sample

variable {s} {event : UartTxEvent Thread}

omit [DecidableEq Thread] in
/-- The driver accepts every start. -/
def Willing (s : UartTx Thread) : UartTxEvent Thread → Prop
  | .call _ _ => True
  | .run _ err => err = 0
  | .txEnded len err => err = 0 ∧ s.Admits (.txEnded len err)

omit [DecidableEq Thread] in
theorem Willing.admits (willing : s.Willing event) : s.Admits event := by
  cases event with
  | call thread data => trivial
  | run thread err => trivial
  | txEnded len err => exact willing.2

/-- Thread `true` puts its byte between the claim and the start of the other. -/
def twoWrites : List (UartTxEvent Bool) :=
  [.call false [1, 2], .call true [3]] ++
    [false, true, false, false, false, true, false, true, false, true,
      true].map fun thread => .run thread 0

/-- The first two bytes are in flight, the third waits in the ring buffer. -/
theorem twoWrites_run :
    Trace.Ends step {} twoWrites fun s =>
      s.inFlight = some [1, 2] ∧ s.txRingbuf.items = [1, 2, 3] ∧
        s.writer false = .idle ∧ s.writer true = .idle := by
  decide +kernel

theorem twoWrites_willing :
    ∀ event ∈ twoWrites, ∀ s : UartTx Bool, s.Willing event := by
  intro event member s
  rw [twoWrites, List.mem_append] at member
  rcases member with calls | runs
  · simp only [List.mem_cons, List.not_mem_nil, or_false] at calls
    rcases calls with rfl | rfl <;> trivial
  · obtain ⟨thread, _, rfl⟩ := List.mem_map.mp runs
    rfl

end Sample

section Runs

variable {s} {s' : UartTx Thread} {permit : Permit Thread}
variable {thread : Thread} {event : UartTxEvent Thread}

omit [DecidableEq Thread] in
theorem HeldBy.initial : ({} : UartTx Thread).HeldBy .free where
  free := ⟨fun _ => rfl, fun _ => rfl⟩
  driver := ⟨fun busy => absurd rfl busy, by simp⟩
  thread := fun _ => ⟨False.elim, by simp⟩
  claimed := rfl
  front := rfl

theorem HeldBy.call {data : List UInt8}
    (held : s.HeldBy permit) (moved : s.step (.call thread data) = .ok s') :
    s'.HeldBy permit := by
  simp only [step] at moved
  split at moved
  · next there =>
    cases moved
    exact held.elsewhere there id id
  · cases moved
    exact held

/-- The token is always in one place. -/
theorem HeldBy.step (held : s.HeldBy permit) (admitted : s.Admits event)
    (moved : s.step event = .ok s') : ∃ after, s'.HeldBy after := by
  cases event with
  | call thread data => exact ⟨permit, held.call moved⟩
  | run thread err =>
      cases moved
      obtain ⟨after, holds, _⟩ := held.advance
      exact ⟨after, holds⟩
  | txEnded len err =>
      obtain ⟨buf, given, within⟩ := admitted
      cases moved
      obtain ⟨after, holds, _⟩ := held.txEnded given within
      exact ⟨after, holds⟩

theorem Recorded.step (record : s.Recorded) (held : s.HeldBy permit)
    (admitted : s.Admits event) (moved : s.step event = .ok s') :
    s'.Recorded := by
  cases event with
  | call thread data =>
      simp only [UartTx.step] at moved
      split at moved
      · next there =>
        cases moved
        exact record.moved there rfl rfl rfl rfl rfl Iff.rfl rfl
          (fun _ => by simp)
      · cases moved
        exact record
  | run thread err =>
      cases moved
      exact record.advance
  | txEnded len err =>
      obtain ⟨buf, given, within⟩ := admitted
      cases moved
      exact record.txEnded held given within

theorem reach_recorded (reach : Trace.Reach step Admits {} s) :
    (∃ permit, s.HeldBy permit) ∧ s.Recorded := by
  apply reach.invariant
  · exact ⟨⟨.free, .initial⟩, .initial⟩
  · rintro before event after ⟨⟨permit, held⟩, record⟩ admitted moved
    exact ⟨held.step admitted moved, record.step held admitted moved⟩

/-- `uart_tx` is never called while a transmission is under way, and only one
context at a time is about to call it; what it is given is the front of the
ring buffer; and what went out, with what is left in the ring buffer, is what
the calls put, call after call.  A call that is over put all of its data,
unless it was refused a start in the loop. -/
theorem writes_ordered (reach : Trace.Reach step Admits {} s) :
    (∀ t buf rest, s.writer t = .claimed buf rest →
      s.inFlight = none ∧ buf = s.txRingbuf.items.take buf.length ∧
        ∀ other, (s.writer other).Starts → other = t) ∧
    (∀ buf, s.inFlight = some buf →
      buf = s.txRingbuf.items.take buf.length ∧
        ∀ t, ¬ (s.writer t).Starts) ∧
    s.wire ++ s.txRingbuf.items =
      (s.settled ++ s.current.toList).flatMap TxWrite.accepted ∧
    ∀ write ∈ s.settled,
      write.dropped = none → write.accepted = write.data := by
  obtain ⟨⟨permit, held⟩, record⟩ := reach_recorded reach
  refine ⟨?_, ?_, record.stream, record.settled⟩
  · intro t buf rest there
    have own := held.own there trivial
    have front := own.front
    rw [piece, there] at front
    refine ⟨own.idle (by simp), front, fun other also => ?_⟩
    exact (Permit.thread.inj ((own.thread other).mp also)).symm
  · intro buf given
    obtain ⟨rfl, _, front⟩ := held.handed given
    exact ⟨front, fun t => (held.thread t).not.mpr (by simp)⟩

theorem writes_ordered_two :
    ∃ s, Trace.run step {} twoWrites = .ok s ∧
      s.inFlight = some [1, 2] ∧
      (∀ t, ¬ (s.writer t).Starts) ∧
      s.wire ++ s.txRingbuf.items =
        (s.settled ++ s.current.toList).flatMap TxWrite.accepted := by
  obtain ⟨s, executed, given, _⟩ := twoWrites_run
  have ordered := writes_ordered (Trace.Reach.of_run
    (fun event member before =>
      (twoWrites_willing event member before).admits) executed)
  exact ⟨s, executed, given, (ordered.2.1 _ given).2, ordered.2.2.1⟩

/-- No transmission, nobody about to start one, and nobody who could be. -/
def Dead (s : UartTx Thread) : Prop :=
  s.txDoneSem = false ∧ s.inFlight = none ∧ ∀ t, ¬ (s.writer t).Starts

omit [DecidableEq Thread] in
theorem HeldBy.dead_iff (held : s.HeldBy permit) :
    s.Dead ↔ permit = .lost := by
  constructor
  · rintro ⟨sem, idle, nobody⟩
    cases permit with
    | free => exact absurd (held.free.mpr rfl) (by simp [sem])
    | driver => exact absurd idle (held.driver.mpr rfl)
    | thread t => exact absurd ((held.thread t).mpr rfl) (nobody t)
    | lost => rfl
  · rintro rfl
    refine ⟨?_, held.idle (by simp), fun t => ?_⟩
    · exact held.taken (by simp)
    · exact (held.thread t).not.mpr (by simp)

theorem advance_wire {err : Int} : (s.advance thread err).wire = s.wire := by
  unfold advance
  split
  · rfl
  · split <;> rfl
  · rfl
  · split <;> rfl
  · split <;> rfl
  · split <;> rfl
  · rfl
  · next buf rest _ =>
    by_cases sent : (s.transmit buf err).2 = 0
    · rw [if_pos sent, (transmit_started sent).2.2]
      rfl
    · rw [if_neg sent]
      have given := congrArg UartTx.wire (transmit_refused sent)
      exact given
  · rfl
  · rfl

theorem advance_blocked {err : Int} {t : Thread} {rest : List UInt8}
    (dead : s.Dead) (there : s.writer t = .blocked rest) :
    (s.advance thread err).writer t = .blocked rest := by
  by_cases same : t = thread
  · subst same
    simp only [advance, there, dead.1, Bool.false_eq_true, if_false]
  · have elsewhere : (s.advance thread err).writer t = s.writer t := by
      unfold advance
      split
      · rfl
      · split
        · simp only [goto, Function.update_of_ne same]
        · rfl
      · simp only [goto, unlock, Function.update_of_ne same]
      · split <;> simp only [goto, put, Function.update_of_ne same]
      · split
        · simp only [goto, Function.update_of_ne same]
        · rfl
      · split <;> simp only [goto, Function.update_of_ne same]
      · simp only [goto, claim, Function.update_of_ne same]
      · next buf rest place =>
        have starts : (s.writer thread).Starts := by
          rw [place]
          trivial
        exact absurd starts (dead.2.2 thread)
      · simp only [goto, giveBack, Function.update_of_ne same]
      · simp only [goto, unlock, Function.update_of_ne same]
    exact elsewhere.trans there

/-- What a dead transport does in a step. -/
theorem Dead.step (held : s.HeldBy .lost) (admitted : s.Admits event)
    (moved : s.step event = .ok s') :
    s'.HeldBy .lost ∧ s'.wire = s.wire ∧
      ∀ t rest, s.writer t = .blocked rest →
        s'.writer t = .blocked rest := by
  have dead := held.dead_iff.mpr rfl
  cases event with
  | call thread data =>
      refine ⟨held.call moved, ?_⟩
      simp only [UartTx.step] at moved
      split at moved
      · next there =>
        cases moved
        refine ⟨rfl, fun t rest waits => ?_⟩
        have other : t ≠ thread := by
          rintro rfl
          cases there.symm.trans waits
        simp only [goto, Function.update_of_ne other]
        exact waits
      · cases moved
        exact ⟨rfl, fun _ _ waits => waits⟩
  | run thread err =>
      cases moved
      obtain ⟨after, holds, same⟩ := held.advance
      have still := same.mpr rfl
      subst still
      exact ⟨holds, advance_wire, fun t rest waits =>
        advance_blocked dead waits⟩
  | txEnded len err =>
      obtain ⟨buf, given, _⟩ := admitted
      cases dead.2.1.symm.trans given

/-- The callback loses the token exactly if bytes are left after a
transmission and the driver refuses the restart.  From then on, in every run,
nothing goes out any more, and a thread that waits in the loop waits for
ever. -/
theorem restart_refused_iff {len : Nat} {err : Int}
    (reach : Trace.Reach step Admits {} s)
    (admitted : s.Admits (.txEnded len err)) :
    ((s.txEnded len err).Dead ↔
      len < s.txRingbuf.items.length ∧ err ≠ 0) ∧
    ((s.txEnded len err).Dead →
      ∀ s', Trace.Reach step Admits (s.txEnded len err) s' →
        s'.Dead ∧ s'.wire = (s.txEnded len err).wire ∧
          ∀ t rest, (s.txEnded len err).writer t = .blocked rest →
            s'.writer t = .blocked rest) := by
  obtain ⟨⟨permit, held⟩, _⟩ := reach_recorded reach
  obtain ⟨buf, given, within⟩ := admitted
  obtain ⟨after, holds, lost⟩ := held.txEnded given within
  refine ⟨holds.dead_iff.trans lost, fun dead s' later => ?_⟩
  have start : (s.txEnded len err).HeldBy .lost :=
    holds.dead_iff.mp dead ▸ holds
  have kept : s'.HeldBy .lost ∧ s'.wire = (s.txEnded len err).wire ∧
      ∀ t rest, (s.txEnded len err).writer t = .blocked rest →
        s'.writer t = .blocked rest := by
    apply later.invariant
    · exact ⟨start, rfl, fun _ _ waits => waits⟩
    · rintro before event next ⟨holds, same, waiting⟩ admitted moved
      obtain ⟨still, wire, blocked⟩ := Dead.step holds admitted moved
      exact ⟨still, wire.trans same, fun t rest waits =>
        blocked t rest (waiting t rest waits)⟩
  exact ⟨kept.1.dead_iff.mpr rfl, kept.2⟩

theorem restart_refused_two :
    ∃ s, Trace.run step {} twoWrites = .ok s ∧
      (s.txEnded 2 (-5)).Dead ∧
      ∀ s', Trace.Reach step Admits (s.txEnded 2 (-5)) s' →
        s'.wire = (s.txEnded 2 (-5)).wire := by
  obtain ⟨s, executed, given, left, _⟩ := twoWrites_run
  obtain ⟨dead, forever⟩ := restart_refused_iff (Trace.Reach.of_run
    (fun event member before =>
      (twoWrites_willing event member before).admits) executed)
    (⟨[1, 2], given, by decide⟩ : s.Admits (.txEnded 2 (-5)))
  have lost : (s.txEnded 2 (-5)).Dead :=
    dead.mpr ⟨by rw [left]; decide, by decide⟩
  exact ⟨s, executed, lost, fun s' later => (forever lost s' later).2.1⟩

end Runs

end UartTx

end DectMesh
