import DectMesh.AtText
import DectMesh.Board
import DectMesh.Library.Lines
import DectMesh.Library.Trace

/-!
# Lines from the UART

Bytes from the host pass a ring buffer and a message slot before
`slm_at_run_cycle` splits them into lines.  Nothing ties the reads of the ring
buffer to the ends of lines.
-/

namespace DectMesh

def uartSlmAtRingbufSize : Nat := 4096

/-- `data_msg_t`; its size is the length of `buf`. -/
structure DataMsg where
  buf : List Char := []
  messageReady : Bool := false
  deriving DecidableEq

/-- The receiving side of the AT transport.  `received`, `messages` and
`dispatched` are not in the source: all bytes that came in, the messages that
were taken out of the slot, and the lines that `dispatch` was called with. -/
structure Uart where
  rxRingbuf : List Char := []
  dataMsg : DataMsg := {}
  received : List Char := []
  messages : List (List Char) := []
  dispatched : List (List Char) := []
  deriving DecidableEq

def isLineEnd (char : Char) : Bool :=
  char = '\r' ∨ char = '\n'

/-- The loop of `slm_at_run_cycle` over a string; every round but the last
takes at least one character. -/
def splitLines : Nat → List Char → List (List Char)
  | 0, _ => []
  | rounds + 1, text =>
      match text.dropWhile isLineEnd with
      | [] => []
      | char :: rest =>
          let line := (char :: rest).takeWhile fun c => !isLineEnd c
          line :: splitLines rounds
            (((char :: rest).dropWhile fun c => !isLineEnd c).drop 1)

/-- What the loop sees of a buffer: the characters before the first NUL. -/
def cString (buf : List Char) : List Char :=
  buf.takeWhile fun char => char ≠ '\x00'

inductive UartEvent where
  /-- `UART_RX_RDY`. -/
  | rxRdy (data : List Char)
  /-- The work item of the ring buffer; `taken` tells whether it got the
  semaphore in time. -/
  | consumeRingbuf (taken : Bool)
  /-- The main loop; `taken` as above. -/
  | runCycle (taken : Bool)

namespace Uart

variable (s : Uart)

/-- `ring_buf_put` keeps what fits. -/
def rxRdy (data : List Char) : Uart :=
  { s with
    rxRingbuf :=
      s.rxRingbuf ++ data.take (uartSlmAtRingbufSize - s.rxRingbuf.length)
    received := s.received ++ data }

/-- `slm_at_consume_ringbuf`. -/
def slmAtConsumeRingbuf (taken : Bool) : Uart :=
  if taken ∧ s.dataMsg.messageReady = false ∧ s.rxRingbuf ≠ [] then
    { s with
      rxRingbuf := s.rxRingbuf.drop slmUartAtCommandLen
      dataMsg :=
        { buf := s.rxRingbuf.take slmUartAtCommandLen, messageReady := true } }
  else
    s

/-- `slm_at_run_cycle` with `slm_at_get_message_copy`, which leaves room for
the NUL. -/
def slmAtRunCycle (taken : Bool) : Uart :=
  if s.dataMsg.messageReady ∧ taken then
    let text := cString (s.dataMsg.buf.take (slmUartAtCommandLen - 1))
    { s with
      dataMsg := { s.dataMsg with messageReady := false }
      messages := s.messages ++ [s.dataMsg.buf]
      dispatched := s.dispatched ++ splitLines text.length text }
  else
    s

def step : UartEvent → Except Fault Uart
  | .rxRdy data => .ok (s.rxRdy data)
  | .consumeRingbuf taken => .ok (s.slmAtConsumeRingbuf taken)
  | .runCycle taken => .ok (s.slmAtRunCycle taken)

/-- Text that fits the ring buffer. -/
def Admits : UartEvent → Prop
  | .rxRdy data =>
      data.length ≤ uartSlmAtRingbufSize - s.rxRingbuf.length ∧
        '\x00' ∉ data
  | _ => True

/-- Everything that came in was handled. -/
def Drained : Prop :=
  s.rxRingbuf = [] ∧ s.dataMsg.messageReady = false

/-- No message loses a character of a line in the copy, and none ends inside
a line. -/
def WholeLines : Prop :=
  (∀ message ∈ s.messages,
    ∀ char ∈ message.drop (slmUartAtCommandLen - 1), isLineEnd char = true) ∧
    s.messages.IsChain fun first second =>
      Lines.cuts isLineEnd first second = false

end Uart

section Loop

theorem lines_dropWhile (text : List Char) :
    Lines.lines isLineEnd (text.dropWhile isLineEnd) =
      Lines.lines isLineEnd text := by
  induction text with
  | nil => rfl
  | cons char rest ih =>
      rw [List.dropWhile_cons]
      split
      · next separates =>
        rw [ih, Lines.lines_cons_sep separates]
      · rfl

/-- The loop finds the lines of its text. -/
theorem splitLines_eq
    {rounds : Nat} {text : List Char} (enough : text.length ≤ rounds) :
    splitLines rounds text = Lines.lines isLineEnd text := by
  induction rounds generalizing text with
  | zero =>
      rw [List.eq_nil_of_length_eq_zero (Nat.le_zero.mp enough)]
      rfl
  | succ rounds ih =>
      rw [← lines_dropWhile, splitLines]
      have shorter := (List.dropWhile_suffix isLineEnd : _ <:+ text).length_le
      split
      · next none => rw [none, Lines.lines_nil]
      · next char rest found =>
        have begins : isLineEnd char = false := by
          have head := @List.head_dropWhile_not _ isLineEnd text
            (by simp [found])
          simpa [found] using head
        rw [found] at shorter ⊢
        have split : (char :: rest).takeWhile (fun c => !isLineEnd c) ++
            (char :: rest).dropWhile (fun c => !isLineEnd c) = char :: rest :=
          List.takeWhile_append_dropWhile
        have plain : ∀ c ∈ (char :: rest).takeWhile (fun c => !isLineEnd c),
            isLineEnd c = false := by
          intro c member
          simpa using List.all_eq_true.mp List.all_takeWhile c member
        have nonempty :
            (char :: rest).takeWhile (fun c => !isLineEnd c) ≠ [] := by
          simp [begins]
        generalize (char :: rest).takeWhile (fun c => !isLineEnd c) = line
          at split plain nonempty ⊢
        have size := congrArg List.length split
        have some : 0 < line.length := List.length_pos_iff.mpr nonempty
        cases after : (char :: rest).dropWhile fun c => !isLineEnd c with
        | nil =>
            rw [after, List.append_nil] at split
            have done := @ih [] (Nat.zero_le _)
            rw [Lines.lines_nil] at done
            rw [← split, Lines.lines_line nonempty plain, List.drop_nil, done]
        | cons separator others =>
            have separates : isLineEnd separator = true := by
              have head := @List.head_dropWhile_not _ (fun c => !isLineEnd c)
                (char :: rest) (by simp [after])
              simpa [after] using head
            rw [after] at split size
            simp only [List.length_append, List.length_cons] at size shorter
            rw [← split, Lines.lines_append_sep separates,
              Lines.lines_line nonempty plain, List.drop_succ_cons,
              List.drop_zero, ih (by omega)]
            rfl

end Loop

section Runs

variable {s : Uart}

/-- Where the bytes are, and what was made of those that were handled. -/
structure Uart.Accounted (s : Uart) : Prop where
  stream :
    s.received = s.messages.flatten ++
      ((if s.dataMsg.messageReady then s.dataMsg.buf else []) ++ s.rxRingbuf)
  dispatched :
    s.dispatched = s.messages.flatMap fun message =>
      Lines.lines isLineEnd (message.take (slmUartAtCommandLen - 1))
  nonempty : ∀ message ∈ s.messages, message ≠ []
  pending : s.dataMsg.messageReady = true → s.dataMsg.buf ≠ []
  text : '\x00' ∉ s.received

theorem Uart.Accounted.rxRdy
    {data : List Char} (accounted : s.Accounted)
    (fits : data.length ≤ uartSlmAtRingbufSize - s.rxRingbuf.length)
    (text : '\x00' ∉ data) : (s.rxRdy data).Accounted where
  stream := by
    simp only [Uart.rxRdy, List.take_of_length_le fits, accounted.stream,
      List.append_assoc]
  dispatched := accounted.dispatched
  nonempty := accounted.nonempty
  pending := accounted.pending
  text := by
    simp only [Uart.rxRdy, List.mem_append, not_or]
    exact ⟨accounted.text, text⟩

theorem Uart.Accounted.consumeRingbuf
    {taken : Bool} (accounted : s.Accounted) :
    (s.slmAtConsumeRingbuf taken).Accounted := by
  unfold Uart.slmAtConsumeRingbuf
  split
  · next ready =>
    obtain ⟨-, idle, filled⟩ := ready
    have stream := accounted.stream
    rw [idle] at stream
    exact
      { accounted with
        stream := by
          simpa only [if_true, Bool.false_eq_true, if_false, List.nil_append,
            List.take_append_drop] using stream
        pending := by
          intro _ empty
          rcases List.take_eq_nil_iff.mp empty with none | none
          · exact absurd none (by decide)
          · exact filled none }
  · exact accounted

theorem Uart.Accounted.runCycle
    {taken : Bool} (accounted : s.Accounted) :
    (s.slmAtRunCycle taken).Accounted := by
  unfold Uart.slmAtRunCycle
  split
  · next ready =>
    have stream := accounted.stream
    rw [if_pos ready.1] at stream
    -- without a NUL the loop sees the whole copy
    have whole :
        cString (s.dataMsg.buf.take (slmUartAtCommandLen - 1)) =
          s.dataMsg.buf.take (slmUartAtCommandLen - 1) := by
      refine List.takeWhile_eq_self_iff.mpr fun char member => ?_
      have inside := List.mem_of_mem_take member
      have other : char ≠ '\x00' := by
        rintro rfl
        apply accounted.text
        rw [stream]
        exact List.mem_append_right _ (List.mem_append_left _ inside)
      simpa using other
    exact
      { stream := by simpa using stream
        dispatched := by
          simp only [accounted.dispatched, whole,
            splitLines_eq (Nat.le_refl _), List.flatMap_append,
            List.flatMap_singleton]
        nonempty := by
          intro message member
          rcases List.mem_append.mp member with old | new
          · exact accounted.nonempty message old
          · rw [List.mem_singleton.mp new]
            exact accounted.pending ready.1
        pending := by simp
        text := accounted.text }
  · exact accounted

theorem Uart.accounted
    (reach : Trace.Reach Uart.step Uart.Admits {} s) : s.Accounted := by
  apply reach.invariant
  · constructor <;> simp
  · intro before event after accounted admitted stepped
    cases event with
    | rxRdy data =>
        cases stepped
        exact accounted.rxRdy admitted.1 admitted.2
    | consumeRingbuf taken =>
        cases stepped
        exact accounted.consumeRingbuf
    | runCycle taken =>
        cases stepped
        exact accounted.runCycle

/-- In every run that handles everything it receives, the lines that are
dispatched are the lines of the stream exactly when every read of the ring
buffer takes whole lines. -/
theorem Uart.dispatched_iff
    (reach : Trace.Reach Uart.step Uart.Admits {} s) (drained : s.Drained) :
    s.dispatched = Lines.lines isLineEnd s.received ↔ s.WholeLines := by
  have accounted := Uart.accounted reach
  have stream : s.received = s.messages.flatten := by
    simpa [drained.1, drained.2] using accounted.stream
  rw [accounted.dispatched, stream]
  exact Lines.flatMap_lines_take_iff _ accounted.nonempty

/-- `AT` in one piece. -/
def Uart.wholeRead : Uart :=
  ((({} : Uart).rxRdy "AT\r\n".toList).slmAtConsumeRingbuf
    true).slmAtRunCycle true

theorem Uart.dispatched_whole :
    Uart.wholeRead.dispatched =
        Lines.lines isLineEnd Uart.wholeRead.received ↔
      Uart.wholeRead.WholeLines := by
  have reach : Trace.Reach Uart.step Uart.Admits {} Uart.wholeRead := by
    have admits : Uart.Admits {} (.rxRdy "AT\r\n".toList) := by
      constructor
      · decide
      · decide
    have received : Trace.Reach Uart.step Uart.Admits {}
        (({} : Uart).rxRdy "AT\r\n".toList) :=
      .next .refl admits rfl
    have consumed : Trace.Reach Uart.step Uart.Admits {}
        ((({} : Uart).rxRdy "AT\r\n".toList).slmAtConsumeRingbuf true) :=
      @Trace.Reach.next _ _ _ _ _ _ _ _ (.consumeRingbuf true) received trivial
        rfl
    exact @Trace.Reach.next _ _ _ _ _ _ _ _ (.runCycle true) consumed trivial
      rfl
  have drained : Uart.wholeRead.Drained := by
    unfold Uart.Drained
    decide +kernel
  exact Uart.dispatched_iff reach drained

/-- `AT` in two reads: the host's line arrives as two. -/
theorem Uart.dispatched_split :
    Trace.Ends Uart.step {}
      [.rxRdy ['A'], .consumeRingbuf true, .runCycle true,
        .rxRdy "T\r\n".toList, .consumeRingbuf true, .runCycle true]
      fun s =>
        s.rxRingbuf = [] ∧ s.dataMsg.messageReady = false ∧
          s.dispatched = [['A'], ['T']] ∧
            Lines.lines isLineEnd s.received = [['A', 'T']] := by
  decide +kernel

end Runs

end DectMesh
