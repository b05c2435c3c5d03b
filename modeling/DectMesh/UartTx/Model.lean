import DectMesh.Board
import DectMesh.Library.RingBuf
import Mathlib.Logic.Function.Basic

/-!
# Bytes to the UART

`slm_at_tx_write` in any number of threads, the callbacks of the driver in
between, and the ring buffer, the mutex and the semaphore they share.  A step
is what a context does up to the next point at which another one may run.
-/

namespace DectMesh

def uartSlmAtTxBufLen : Nat := 2048

/-- What `uart_tx` answers while a transmission is under way. -/
def ebusy : Int := -16

/-- Where a thread is in `slm_at_tx_write`.  `rest` is what the loop has left
to put; in `slm_at_tx_start` there is none behind the loop. -/
inductive Writer where
  | idle
  /-- At `k_mutex_lock`. -/
  | entering (data : List UInt8)
  /-- At the head of the loop. -/
  | putting (rest : List UInt8)
  /-- At `k_sem_take(K_FOREVER)`. -/
  | blocked (rest : List UInt8)
  /-- At `k_sem_take(K_NO_WAIT)`. -/
  | polling
  /-- At `slm_at_tx_start`. -/
  | starting (rest : Option (List UInt8))
  /-- In it, at `uart_tx`. -/
  | claimed (buf : List UInt8) (rest : Option (List UInt8))
  /-- Behind it, at `k_sem_give`. -/
  | refused (err : Int) (rest : Option (List UInt8))
  /-- At `k_mutex_unlock` of the return from the loop. -/
  | dropping (err : Int)
  deriving DecidableEq

namespace Writer

/-- Has the semaphore. -/
def Starts : Writer → Prop
  | .starting _ => True
  | .claimed _ _ => True
  | .refused _ _ => True
  | _ => False

/-- Between `k_mutex_lock` and `k_mutex_unlock`. -/
def Locks : Writer → Prop
  | .putting _ => True
  | .blocked _ => True
  | .starting rest => rest ≠ none
  | .claimed _ rest => rest ≠ none
  | .refused _ rest => rest ≠ none
  | .dropping _ => True
  | _ => False

/-- What is left to put of the data of the call. -/
def left : Writer → Option (List UInt8)
  | .putting rest => some rest
  | .blocked rest => some rest
  | .starting rest => rest
  | .claimed _ rest => rest
  | .refused _ rest => rest
  | _ => none

/-- What it was handed out of the ring buffer. -/
def buf : Writer → List UInt8
  | .claimed buf _ => buf
  | _ => []

theorem left_locks {place : Writer} {rest : List UInt8}
    (remains : place.left = some rest) : place.Locks := by
  cases place <;> simp only [left, reduceCtorEq] at remains <;>
    simp [Locks, remains]

/-- Will look at the semaphore before it returns. -/
def Polls : Writer → Prop
  | .putting _ => True
  | .blocked _ => True
  | .polling => True
  | _ => False

end Writer

/-- A call of `slm_at_tx_write`: how many bytes the ring buffer took of it, and
the error on which it gave up the others. -/
structure TxWrite (Thread : Type) where
  thread : Thread
  data : List UInt8
  sent : Nat := 0
  dropped : Option Int := none

namespace TxWrite

variable {Thread : Type} (write : TxWrite Thread)

def accepted : List UInt8 := write.data.take write.sent

/-- All was taken, or the call returned an error from the loop. -/
def Settled : Prop := write.dropped = none → write.accepted = write.data

end TxWrite

/-- The sending side of the AT transport.  `wire`, `settled` and `current` are
not in the source: the bytes that went out, the calls that gave the mutex
back, in the order they had it, and the call that has it. -/
structure UartTx (Thread : Type) where
  txRingbuf : RingBuf UInt8 uartSlmAtTxBufLen := .empty
  /-- The transmission the driver is at work on. -/
  inFlight : Option (List UInt8) := none
  txDoneSem : Bool := true
  mutexTxPut : Option Thread := none
  writer : Thread → Writer := fun _ => .idle
  wire : List UInt8 := []
  settled : List (TxWrite Thread) := []
  current : Option (TxWrite Thread) := none

inductive UartTxEvent (Thread : Type) where
  | call (thread : Thread) (data : List UInt8)
  /-- The thread goes on; `err` is the answer of a driver that is free. -/
  | run (thread : Thread) (err : Int)
  /-- `UART_TX_DONE` or `UART_TX_ABORTED` after `len` bytes; `err` is the
  answer to a restart. -/
  | txEnded (len : Nat) (err : Int)

namespace UartTx

variable {Thread : Type} (s : UartTx Thread)

def uartTx (buf : List UInt8) (err : Int) : UartTx Thread × Int :=
  if s.inFlight.isSome then
    (s, ebusy)
  else if err = 0 then
    ({ s with inFlight := some buf }, 0)
  else
    (s, err)

/-- `ring_buf_get_finish`; an error changes nothing. -/
def finish (len : Nat) : UartTx Thread :=
  { s with txRingbuf := (s.txRingbuf.getFinish len).getD s.txRingbuf }

/-- The claim of `slm_at_tx_start`. -/
def claim : UartTx Thread × List UInt8 :=
  ({ s with txRingbuf := (s.txRingbuf.getClaim uartSlmAtTxBufLen).1 },
    (s.txRingbuf.getClaim uartSlmAtTxBufLen).2)

/-- `slm_at_tx_start` from `uart_tx` on. -/
def transmit (buf : List UInt8) (err : Int) : UartTx Thread × Int :=
  if (s.uartTx buf err).2 = 0 then
    s.uartTx buf err
  else
    ((s.uartTx buf err).1.finish 0, (s.uartTx buf err).2)

/-- `slm_at_tx_start` where nothing comes in between. -/
def slmAtTxStart (err : Int) : UartTx Thread × Int :=
  s.claim.1.transmit s.claim.2 err

/-- The driver reports an end, and the callback frees the bytes. -/
def ended (len : Nat) : UartTx Thread :=
  { s with
    wire := s.wire ++ (s.inFlight.getD []).take len
    inFlight := none }.finish len

/-- `UART_TX_DONE` and `UART_TX_ABORTED` of `slm_at_uart_callback`. -/
def txEnded (len : Nat) (err : Int) : UartTx Thread :=
  if (s.ended len).txRingbuf.items ≠ [] then
    ((s.ended len).slmAtTxStart err).1
  else
    { s.ended len with txDoneSem := true }

/-- `k_mutex_unlock`. -/
def unlock : UartTx Thread :=
  { s with
    mutexTxPut := none
    settled := s.settled ++ s.current.toList
    current := none }

/-- `ring_buf_put` of what is left. -/
def put (rest : List UInt8) : UartTx Thread :=
  { s with
    txRingbuf := (s.txRingbuf.put rest).1
    current := s.current.map fun write =>
      { write with sent := write.sent + (s.txRingbuf.put rest).2 } }

/-- `k_sem_give` after a failed start; in the loop the call gives up. -/
def giveBack (err : Int) (rest : Option (List UInt8)) : UartTx Thread :=
  { s with
    txDoneSem := true
    current :=
      if rest = none then
        s.current
      else
        s.current.map fun write => { write with dropped := some err } }

variable [DecidableEq Thread]

def goto (thread : Thread) (place : Writer) : UartTx Thread :=
  { s with writer := Function.update s.writer thread place }

/-- The next step of `slm_at_tx_write`. -/
def advance (thread : Thread) (err : Int) : UartTx Thread :=
  match s.writer thread with
  | .idle => s
  | .entering data =>
      if s.mutexTxPut = none then
        { s with
          mutexTxPut := some thread
          current := some { thread := thread, data := data } }.goto thread
            (.putting data)
      else
        s
  | .putting [] => s.unlock.goto thread .polling
  | .putting (byte :: more) =>
      if (s.txRingbuf.put (byte :: more)).2 = 0 then
        s.goto thread (.blocked (byte :: more))
      else
        (s.put (byte :: more)).goto thread (.putting
          ((byte :: more).drop (s.txRingbuf.put (byte :: more)).2))
  | .blocked rest =>
      if s.txDoneSem then
        { s with txDoneSem := false }.goto thread (.starting (some rest))
      else
        s
  | .polling =>
      if s.txDoneSem then
        { s with txDoneSem := false }.goto thread (.starting none)
      else
        s.goto thread .idle
  | .starting rest => s.claim.1.goto thread (.claimed s.claim.2 rest)
  | .claimed buf rest =>
      if (s.transmit buf err).2 = 0 then
        (s.transmit buf err).1.goto thread
          (match rest with
          | some rest => .putting rest
          | none => .idle)
      else
        (s.transmit buf err).1.goto thread
          (.refused (s.transmit buf err).2 rest)
  | .refused err rest =>
      (s.giveBack err rest).goto thread
        (match rest with
        | some _ => .dropping err
        | none => .idle)
  | .dropping _ => s.unlock.goto thread .idle

def step (s : UartTx Thread) :
    UartTxEvent Thread → Except Fault (UartTx Thread)
  | .call thread data =>
      match s.writer thread with
      | .idle => .ok (s.goto thread (.entering data))
      | _ => .ok s
  | .run thread err => .ok (s.advance thread err)
  | .txEnded len err => .ok (s.txEnded len err)

omit [DecidableEq Thread] in
/-- The driver reports the end of a transmission that it has, and no more
bytes than it was given. -/
def Admits : UartTxEvent Thread → Prop
  | .txEnded len _ => ∃ buf, s.inFlight = some buf ∧ len ≤ buf.length
  | _ => True

section Start

omit [DecidableEq Thread]

variable {s} {buf : List UInt8} {err : Int}

theorem transmit_started (sent : (s.transmit buf err).2 = 0) :
    s.inFlight = none ∧ err = 0 ∧
      (s.transmit buf err).1 = { s with inFlight := some buf } := by
  revert sent
  unfold transmit uartTx
  split
  · next busy => simp [ebusy]
  · next free =>
    have idle : s.inFlight = none := by simpa using free
    split
    · next willing => exact fun _ => ⟨idle, willing, rfl⟩
    · next unwilling => simp [unwilling]

theorem transmit_refused (sent : (s.transmit buf err).2 ≠ 0) :
    (s.transmit buf err).1 = s.finish 0 := by
  revert sent
  unfold transmit uartTx
  split
  · simp [ebusy]
  · split
    · simp
    · next unwilling => simp [unwilling]

theorem uartTx_free (idle : s.inFlight = none) :
    (s.uartTx buf err).2 = err := by
  unfold uartTx
  rw [if_neg (by simp [idle])]
  split
  · next willing => exact willing.symm
  · rfl

theorem transmit_free (idle : s.inFlight = none) :
    (s.transmit buf err).2 = err := by
  unfold transmit
  split
  · exact uartTx_free idle
  · exact uartTx_free idle

theorem finish_ring {len : Nat} (within : len ≤ s.txRingbuf.claimed) :
    (s.finish len).txRingbuf.items = s.txRingbuf.items.drop len ∧
      (s.finish len).txRingbuf.claimed = 0 ∧
        (s.finish len).txRingbuf.position =
          (s.txRingbuf.position + len) % uartSlmAtTxBufLen := by
  unfold finish
  cases finished : s.txRingbuf.getFinish len with
  | none => simp [RingBuf.getFinish, within] at finished
  | some ring =>
      obtain ⟨_, items, claimed, position⟩ :=
        RingBuf.getFinish_eq_some.mp finished
      exact ⟨items, claimed, position⟩

theorem ended_ring {len : Nat} (within : len ≤ s.txRingbuf.claimed) :
    (s.ended len).txRingbuf.items = s.txRingbuf.items.drop len ∧
      (s.ended len).txRingbuf.claimed = 0 ∧
        (s.ended len).txRingbuf.position =
          (s.txRingbuf.position + len) % uartSlmAtTxBufLen :=
  finish_ring (s := { s with
    wire := s.wire ++ (s.inFlight.getD []).take len
    inFlight := none }) within

theorem slmAtTxStart_started (idle : s.inFlight = none) :
    (s.slmAtTxStart 0).1 =
      { s.claim.1 with inFlight := some s.claim.2 } := by
  have answer : (s.claim.1.transmit s.claim.2 0).2 = 0 := transmit_free idle
  exact (transmit_started answer).2.2

theorem slmAtTxStart_refused (idle : s.inFlight = none) (unwilling : err ≠ 0) :
    (s.slmAtTxStart err).1 = s.claim.1.finish 0 := by
  have answer : (s.claim.1.transmit s.claim.2 err).2 = err :=
    transmit_free idle
  exact transmit_refused fun same => unwilling (answer.symm.trans same)

end Start

/-- Where the one token of `txDoneSem` is. -/
inductive Permit (Thread : Type) where
  | free
  | driver
  | thread (thread : Thread)
  /-- A restart failed, and the callback gave nothing back. -/
  | lost

/-- The bytes that the holder was handed out of the ring buffer. -/
def piece : Permit Thread → List UInt8
  | .driver => s.inFlight.getD []
  | .thread thread => (s.writer thread).buf
  | _ => []

/-- Exactly `permit` has the token, and what is handed out of the ring buffer
is the front of it and in the hands of the holder. -/
structure HeldBy (permit : Permit Thread) : Prop where
  free : s.txDoneSem = true ↔ permit = .free
  driver : s.inFlight ≠ none ↔ permit = .driver
  thread : ∀ t, (s.writer t).Starts ↔ permit = .thread t
  claimed : s.txRingbuf.claimed = (s.piece permit).length
  front : s.piece permit =
    s.txRingbuf.items.take (s.piece permit).length

section Exclusion

variable {s} {s' : UartTx Thread} {permit : Permit Thread}
variable {thread : Thread} {rest : Option (List UInt8)} {err : Int}
variable {buf : List UInt8} {place : Writer}

omit [DecidableEq Thread] in
/-- More bytes behind the others change nothing about the token. -/
theorem HeldBy.extended (held : s.HeldBy permit)
    (sem : s'.txDoneSem = s.txDoneSem) (flight : s'.inFlight = s.inFlight)
    (writer : s'.writer = s.writer)
    (claimed : s'.txRingbuf.claimed = s.txRingbuf.claimed)
    (items : ∃ more, s'.txRingbuf.items = s.txRingbuf.items ++ more) :
    s'.HeldBy permit := by
  have same : s'.piece permit = s.piece permit := by
    cases permit <;> simp only [piece, flight, writer]
  obtain ⟨more, appended⟩ := items
  have within : (s.piece permit).length ≤ s.txRingbuf.items.length := by
    rw [← held.claimed]
    exact s.txRingbuf.claimed_le
  constructor
  · rw [sem]
    exact held.free
  · rw [flight]
    exact held.driver
  · rw [writer]
    exact held.thread
  · rw [claimed, same]
    exact held.claimed
  · rw [same, appended, List.take_append_of_le_length within]
    exact held.front

theorem HeldBy.elsewhere (held : s.HeldBy permit) {before : Writer}
    (there : s.writer thread = before) (waits : ¬ before.Starts)
    (after : ¬ place.Starts) : (s.goto thread place).HeldBy permit := by
  have other : permit ≠ .thread thread := fun same =>
    waits (there ▸ (held.thread thread).mpr same)
  have same : (s.goto thread place).piece permit = s.piece permit := by
    cases permit with
    | thread t =>
        have different : t ≠ thread := fun here => other (here ▸ rfl)
        simp only [piece, goto, Function.update_of_ne different]
    | _ => rfl
  constructor
  · exact held.free
  · exact held.driver
  · intro t
    by_cases here : t = thread
    · subst here
      simp only [goto, Function.update_self]
      exact ⟨fun starts => absurd starts after, fun same =>
        absurd same other⟩
    · simp only [goto, Function.update_of_ne here]
      exact held.thread t
  · rw [same]
    exact held.claimed
  · rw [same]
    exact held.front

/-- The token passes to or stays with a thread. -/
theorem HeldBy.acquired (held : s.HeldBy permit)
    (source : permit = .free ∨ permit = .thread thread)
    (sem : s'.txDoneSem = false) (flight : s'.inFlight = s.inFlight)
    (writer : s'.writer = s.writer) (starts : place.Starts)
    (claimed : s'.txRingbuf.claimed = place.buf.length)
    (front : place.buf = s'.txRingbuf.items.take place.buf.length) :
    (s'.goto thread place).HeldBy (.thread thread) := by
  have here : (s'.goto thread place).piece (.thread thread) = place.buf := by
    simp only [piece, goto, Function.update_self]
  constructor
  · simp only [goto, sem, Bool.false_eq_true, reduceCtorEq]
  · have idle : s.inFlight = none := by
      by_contra busy
      rcases source with free | own
      · exact nomatch free.symm.trans (held.driver.mp busy)
      · exact nomatch own.symm.trans (held.driver.mp busy)
    simp only [goto, flight, idle, ne_eq, not_true_eq_false, reduceCtorEq]
  · intro t
    by_cases same : t = thread
    · subst same
      simp only [goto, Function.update_self, starts]
    · simp only [goto, Function.update_of_ne same, writer, Permit.thread.injEq]
      rw [held.thread]
      rcases source with rfl | rfl
      · simp only [reduceCtorEq, false_iff]
        exact fun equal => same equal.symm
      · rw [Permit.thread.injEq]
  · rw [here]
    exact claimed
  · rw [here]
    exact front

/-- The token leaves a thread. -/
theorem HeldBy.released (held : s.HeldBy (.thread thread))
    (writer : s'.writer = s.writer) (stops : ¬ place.Starts)
    (target : permit = .free ∨ permit = .driver)
    (sem : s'.txDoneSem = true ↔ permit = .free)
    (flight : s'.inFlight ≠ none ↔ permit = .driver)
    (claimed : s'.txRingbuf.claimed = (s'.inFlight.getD []).length)
    (front : s'.inFlight.getD [] =
      s'.txRingbuf.items.take (s'.inFlight.getD []).length) :
    (s'.goto thread place).HeldBy permit := by
  have nobody : ∀ t, permit ≠ .thread t := by
    rintro t rfl
    rcases target with same | same <;> cases same
  have here : (s'.goto thread place).piece permit = s'.inFlight.getD [] := by
    rcases target with rfl | rfl
    · have idle : s'.inFlight = none := by
        by_contra busy
        exact nomatch flight.mp busy
      simp only [piece, idle, Option.getD_none]
    · rfl
  constructor
  · exact sem
  · exact flight
  · intro t
    have not_t := nobody t
    by_cases same : t = thread
    · subst same
      simp only [goto, Function.update_self, stops, not_t]
    · simp only [goto, Function.update_of_ne same, writer, not_t, iff_false]
      intro starts
      exact same (Permit.thread.inj ((held.thread t).mp starts)).symm
  · rw [here]
    exact claimed
  · rw [here]
    exact front

omit [DecidableEq Thread] in
theorem HeldBy.untouched (held : s.HeldBy permit)
    (sem : s'.txDoneSem = s.txDoneSem) (flight : s'.inFlight = s.inFlight)
    (writer : s'.writer = s.writer) (ring : s'.txRingbuf = s.txRingbuf) :
    s'.HeldBy permit :=
  held.extended sem flight writer (congrArg _ ring)
    ⟨[], by rw [ring, List.append_nil]⟩

omit [DecidableEq Thread] in
theorem HeldBy.idle (held : s.HeldBy permit) (other : permit ≠ .driver) :
    s.inFlight = none := by
  by_contra busy
  exact other (held.driver.mp busy)

omit [DecidableEq Thread] in
theorem HeldBy.taken (held : s.HeldBy permit) (other : permit ≠ .free) :
    s.txDoneSem = false :=
  Bool.eq_false_iff.mpr (held.free.not.mpr other)

omit [DecidableEq Thread] in
theorem HeldBy.thread_of (held : s.HeldBy permit) {now : Writer}
    (there : s.writer thread = now) (starts : now.Starts) :
    permit = .thread thread :=
  (held.thread thread).mp (there ▸ starts)

omit [DecidableEq Thread] in
theorem HeldBy.own (held : s.HeldBy permit) {now : Writer}
    (there : s.writer thread = now) (starts : now.Starts) :
    s.HeldBy (.thread thread) :=
  held.thread_of there starts ▸ held

omit [DecidableEq Thread] in
theorem HeldBy.handed (held : s.HeldBy permit)
    (given : s.inFlight = some buf) :
    permit = .driver ∧ s.txRingbuf.claimed = buf.length ∧
      buf = s.txRingbuf.items.take buf.length := by
  have source := held.driver.mp (by rw [given]; exact nofun)
  subst source
  have own : s.piece .driver = buf := by
    rw [piece, given]
    rfl
  exact ⟨rfl, own ▸ held.claimed, own ▸ held.front⟩

theorem HeldBy.took (held : s.HeldBy permit) (free : s.txDoneSem = true) :
    ({ s with txDoneSem := false }.goto thread
      (.starting rest)).HeldBy (.thread thread) := by
  have source := held.free.mp free
  subst source
  refine held.acquired (Or.inl rfl) rfl rfl rfl trivial held.claimed ?_
  exact List.take_zero.symm

/-- A step of a thread hands the token on or keeps it where it is. -/
theorem HeldBy.advance (held : s.HeldBy permit) :
    ∃ after, (s.advance thread err).HeldBy after ∧
      (after = .lost ↔ permit = .lost) := by
  cases place : s.writer thread with
  | idle =>
      refine ⟨permit, ?_, Iff.rfl⟩
      simp only [UartTx.advance, place]
      exact held
  | entering data =>
      refine ⟨permit, ?_, Iff.rfl⟩
      simp only [UartTx.advance, place]
      split
      · exact HeldBy.elsewhere (held.untouched rfl rfl rfl rfl) place id id
      · exact held
  | putting rest =>
      refine ⟨permit, ?_, Iff.rfl⟩
      cases rest with
      | nil =>
          simp only [UartTx.advance, place]
          exact HeldBy.elsewhere (held.untouched rfl rfl rfl rfl) place id id
      | cons byte more =>
          simp only [UartTx.advance, place]
          split
          · exact held.elsewhere place id id
          · refine HeldBy.elsewhere (held.extended rfl rfl rfl rfl ?_) place
              id id
            exact ⟨_, RingBuf.put_items _⟩
  | blocked rest =>
      simp only [UartTx.advance, place]
      split
      · next free =>
        have source := held.free.mp free
        exact ⟨_, held.took free, by simp only [source, reduceCtorEq]⟩
      · exact ⟨permit, held, Iff.rfl⟩
  | polling =>
      simp only [UartTx.advance, place]
      split
      · next free =>
        have source := held.free.mp free
        exact ⟨_, held.took free, by simp only [source, reduceCtorEq]⟩
      · exact ⟨permit, held.elsewhere place id id, Iff.rfl⟩
  | starting rest =>
      have source := held.thread_of place trivial
      subst source
      have nothing : s.txRingbuf.claimed = 0 := by
        rw [held.claimed, piece, place]
        rfl
      have front := RingBuf.getClaim_front uartSlmAtTxBufLen nothing
      have sem := held.taken nofun
      simp only [UartTx.advance, place]
      exact ⟨_, held.acquired (Or.inr rfl) sem rfl rfl trivial front.2 front.1,
        Iff.rfl⟩
  | claimed buf rest =>
      have source := held.thread_of place trivial
      subst source
      have own : s.piece (.thread thread) = buf := by
        rw [piece, place]
        rfl
      have sem := held.taken nofun
      by_cases sent : (s.transmit buf err).2 = 0
      · obtain ⟨_, _, started⟩ := transmit_started sent
        simp only [UartTx.advance, place, if_pos sent, started]
        refine ⟨.driver, held.released rfl ?_ (Or.inr rfl) ?_ ?_ ?_ ?_, ?_⟩
        · cases rest <;> exact id
        · simp only [sem, Bool.false_eq_true, reduceCtorEq]
        · simp
        · exact held.claimed.trans (congrArg _ own)
        · exact own ▸ held.front
        · simp only [reduceCtorEq]
      · have given := transmit_refused sent
        have ring := finish_ring (s := s) (Nat.zero_le _)
        simp only [UartTx.advance, place, if_neg sent]
        rw [given]
        refine ⟨.thread thread,
          held.acquired (Or.inr rfl) sem rfl rfl trivial ring.2.1 ?_, Iff.rfl⟩
        exact List.take_zero.symm
  | refused failed rest =>
      have source := held.thread_of place trivial
      subst source
      have nothing : s.txRingbuf.claimed = 0 := by
        rw [held.claimed, piece, place]
        rfl
      have idle := held.idle (by simp)
      simp only [UartTx.advance, place]
      refine ⟨.free, held.released rfl ?_ (Or.inl rfl) ?_ ?_ ?_ ?_, ?_⟩
      · cases rest <;> exact id
      · simp [giveBack]
      · simp [giveBack, idle]
      · simpa [giveBack, idle] using nothing
      · simp [giveBack, idle]
      · simp only [reduceCtorEq]
  | dropping failed =>
      refine ⟨permit, ?_, Iff.rfl⟩
      simp only [UartTx.advance, place]
      exact HeldBy.elsewhere (held.untouched rfl rfl rfl rfl) place id id

omit [DecidableEq Thread] in
/-- The end of a transmission passes the token on, unless its bytes were not
the last and the restart fails: then nobody has it any more. -/
theorem HeldBy.txEnded {len : Nat} (held : s.HeldBy permit)
    (given : s.inFlight = some buf) (within : len ≤ buf.length) :
    ∃ after, (s.txEnded len err).HeldBy after ∧
      (after = .lost ↔
        len < s.txRingbuf.items.length ∧ err ≠ 0) := by
  obtain ⟨rfl, handed, _⟩ := held.handed given
  have sem := held.taken nofun
  have nobody : ∀ t, ¬ (s.writer t).Starts := fun t =>
    (held.thread t).not.mpr (by simp)
  obtain ⟨items, nothing, _⟩ := ended_ring (handed ▸ within)
  unfold UartTx.txEnded
  split
  · next left =>
    have more : len < s.txRingbuf.items.length := by
      rw [items, ne_eq, List.drop_eq_nil_iff] at left
      omega
    have front := RingBuf.getClaim_front uartSlmAtTxBufLen nothing
    have idle : (s.ended len).inFlight = none := rfl
    by_cases willing : err = 0
    · rw [willing, slmAtTxStart_started idle]
      refine ⟨.driver, ⟨?_, ?_, ?_, front.2, front.1⟩, ?_⟩
      · have same : (s.ended len).claim.1.txDoneSem = false := sem
        simp only [same, Bool.false_eq_true, reduceCtorEq]
      · simp
      · intro t
        simp only [reduceCtorEq, iff_false]
        exact nobody t
      · simp
    · rw [slmAtTxStart_refused idle willing]
      have ring := finish_ring (s := (s.ended len).claim.1) (Nat.zero_le _)
      refine ⟨.lost, ⟨?_, ?_, ?_, ring.2.1, List.take_zero.symm⟩, ?_⟩
      · have same : ((s.ended len).claim.1.finish 0).txDoneSem = false := sem
        simp only [same, Bool.false_eq_true, reduceCtorEq]
      · simp [finish, claim, ended]
      · intro t
        simp only [reduceCtorEq, iff_false]
        exact nobody t
      · simp [more, willing]
  · next last =>
    have done : s.txRingbuf.items.length ≤ len := by
      rw [items, ne_eq, not_not, List.drop_eq_nil_iff] at last
      exact last
    refine ⟨.free, ⟨?_, ?_, ?_, nothing, List.take_zero.symm⟩, ?_⟩
    · simp
    · simp [finish, ended]
    · intro t
      simp only [reduceCtorEq, iff_false]
      exact nobody t
    · simp only [reduceCtorEq, false_iff]
      omega

end Exclusion

end UartTx

end DectMesh
