import DectMesh.Library.ArrayLoop
import DectMesh.Library.Runs
import DectMesh.Uart

/-!
# The loop of `slm_at_run_cycle`

Three nested scans over a buffer whose separators are overwritten with NUL
while a line is handled and restored afterwards.  `dispatch` is a parameter:
it gets the string at its pointer and may leave other characters in its place.
-/

namespace DectMesh

open ArrayLoop

variable {World : Type}

/-- The variables of the loop.  `calls` is not in the source: where `dispatch`
was called, and with which string. -/
structure LineLoop (World : Type) where
  world : World
  buf : List Char
  p : Nat := 0
  calls : List (Nat × List Char) := []
  deriving DecidableEq

/-- What `dispatch` makes of the world, and the cells that it leaves from its
argument on. -/
abbrev Dispatch (World : Type) := World → List Char → World × List Char

/-- A character that belongs to a line. -/
def inLine (char : Char) : Bool :=
  char ≠ '\x00' ∧ char ≠ '\r' ∧ char ≠ '\n'

theorem inLine_eq {char : Char} (other : char ≠ '\x00') :
    inLine char = !isLineEnd char := by
  simp [inLine, isLineEnd, other]

/-- The string at `p`; there has to be a NUL behind it. -/
def stringAt (buf : List Char) (p : Nat) : Except Failure (List Char) :=
  if '\x00' ∈ buf.drop p then
    .ok (cString (buf.drop p))
  else
    .error .bounds

def overwrite (buf : List Char) (p : Nat) (cells : List Char) : List Char :=
  buf.take p ++ (cells ++ buf.drop (p + cells.length))

namespace LineLoop

/-- One round of the loop over the lines.  What `dispatch` writes ends with
the NUL of its argument at the latest. -/
def round (dispatch : Dispatch World) (fuel : Nat) (s : LineLoop World) :
    Except Failure (LineLoop World ⊕ LineLoop World) := do
  let first ← fetch s.buf s.p
  if first = '\x00' then
    pure (.inr s)
  else
    let p ← scan isLineEnd fuel s.buf s.p
    let char ← fetch s.buf p
    if char = '\x00' then
      pure (.inr { s with p })
    else
      let last ← scan inLine fuel s.buf p
      let saved ← fetch s.buf last
      let buf ← put s.buf last '\x00'
      let line ← stringAt buf p
      let (world, cells) := dispatch s.world line
      let buf ← put (overwrite buf p (cells.take (line.length + 1))) last saved
      pure
        (.inl
          { world
            buf
            p := if saved = '\x00' then last else last + 1
            calls := s.calls ++ [(p, line)] })

/-- The loop from the start of the buffer on. -/
def slmAtRunCycle (dispatch : Dispatch World) (fuel : Nat) (world : World)
    (buf : List Char) : Except Failure (LineLoop World) :=
  ArrayLoop.run (round dispatch fuel) fuel { world, buf }

end LineLoop

/-- A NUL behind a buffer changes nothing about its string. -/
theorem cString_terminated (copy back : List Char) :
    cString (copy ++ '\x00' :: back) = cString copy := by
  induction copy with
  | nil => rfl
  | cons char rest ih =>
      simp only [cString, List.cons_append, List.takeWhile_cons] at ih ⊢
      split
      · rw [ih]
      · rfl

theorem cString_append
    {text : List Char} (plain : '\x00' ∉ text) (back : List Char) :
    cString (text ++ '\x00' :: back) = text := by
  rw [cString_terminated]
  refine List.takeWhile_eq_self_iff.mpr fun char member => ?_
  have other : char ≠ '\x00' := by
    rintro rfl
    exact plain member
  simpa using other

theorem stringAt_append
    {front line : List Char} (plain : '\x00' ∉ line) (back : List Char) :
    stringAt (front ++ (line ++ '\x00' :: back)) front.length = .ok line := by
  rw [stringAt, List.drop_left, cString_append plain, if_pos (by simp)]

/-- What is written over a line and its NUL leaves the cells around them. -/
theorem overwrite_append (front line cells back : List Char) (last : Char) :
    ∃ left other, left.length = line.length ∧
      overwrite (front ++ (line ++ last :: back)) front.length
          (cells.take (line.length + 1)) =
        front ++ (left ++ other :: back) ∧
      (cells = line → left = line) := by
  have drop (count : Nat) :
      (front ++ (line ++ last :: back)).drop (front.length + count) =
        (line ++ last :: back).drop count := by
    rw [List.drop_append]
    simp
  rw [overwrite, List.take_left, drop]
  rcases Nat.lt_or_ge line.length cells.length with long | short
  · obtain ⟨other, rest, split⟩ := List.exists_cons_of_ne_nil
      (l := cells.drop line.length) (by simp; omega)
    refine ⟨cells.take line.length, other, by simp; omega, ?_, ?_⟩
    · have whole : cells.take (line.length + 1) =
          cells.take line.length ++ [other] := by
        rw [List.take_add, split]
        rfl
      rw [whole]
      simp [Nat.min_eq_left (Nat.le_of_lt long)]
    · rintro rfl
      simp
  · refine ⟨cells ++ line.drop cells.length, last, by simp; omega, ?_, ?_⟩
    · rw [List.take_of_length_le (by omega),
        List.drop_append_of_le_length short]
      simp
    · rintro rfl
      simp

namespace LineLoop

variable {dispatch : Dispatch World} {fuel : Nat} {s : LineLoop World}

/-- Nothing but separators is left. -/
theorem round_done
    {front seps back : List Char} (buf : s.buf = front ++ (seps ++ '\x00' :: back))
    (place : s.p = front.length) (separate : ∀ x ∈ seps, isLineEnd x = true)
    (enough : seps.length < fuel) :
    round dispatch fuel s =
      .ok (.inr { s with p := front.length + seps.length }) := by
  rcases s with ⟨world, cells, p, calls⟩
  dsimp only at buf place
  subst buf place
  have skip := @scan_append _ isLineEnd front seps back '\x00' separate
    (by decide) fuel enough
  have stop : fetch (front ++ (seps ++ '\x00' :: back))
      (front.length + seps.length) = .ok '\x00' := by
    rw [← List.append_assoc, ← List.length_append]
    exact fetch_append
  cases seps with
  | nil =>
      simp only [round]
      rw [List.nil_append, fetch_append]
      rfl
  | cons x seps =>
      have first : x ≠ '\x00' := by
        rintro rfl
        exact absurd (separate _ List.mem_cons_self) (by decide)
      simp only [round, skip, stop, Except.bind, bind]
      rw [List.cons_append, fetch_append]
      simp only [if_neg first]
      rfl

/-- The next line is handled; its separator is back in its place. -/
theorem round_line
    {front seps line behind : List Char} {saved : Char}
    (buf : s.buf = front ++ (seps ++ (line ++ saved :: behind)))
    (place : s.p = front.length) (separate : ∀ x ∈ seps, isLineEnd x = true)
    (nonempty : line ≠ []) (plain : ∀ x ∈ line, inLine x = true)
    (stops : inLine saved = false)
    (enough : seps.length + line.length < fuel) :
    ∃ left, left.length = line.length ∧
      ((dispatch s.world line).2 = line → left = line) ∧
        round dispatch fuel s = .ok (.inl
          { world := (dispatch s.world line).1
            buf := front ++ (seps ++ (left ++ saved :: behind))
            p :=
              if saved = '\x00' then
                front.length + seps.length + line.length
              else
                front.length + seps.length + line.length + 1
            calls := s.calls ++ [(front.length + seps.length, line)] }) := by
  rcases s with ⟨world, cells, p, calls⟩
  dsimp only at buf place
  subst buf place
  obtain ⟨char, others, rfl⟩ := List.exists_cons_of_ne_nil nonempty
  have inside := plain char List.mem_cons_self
  have other : char ≠ '\x00' := by
    rintro rfl
    exact absurd inside (by decide)
  have begins : isLineEnd char = false := by
    rw [inLine_eq other] at inside
    simpa using inside
  obtain ⟨first, started, some⟩ :
      ∃ first, fetch (front ++ (seps ++ (char :: others ++ saved :: behind)))
        front.length = .ok first ∧ first ≠ '\x00' := by
    cases seps with
    | nil => exact ⟨char, fetch_append, other⟩
    | cons x seps =>
        refine ⟨x, fetch_append, ?_⟩
        rintro rfl
        exact absurd (separate _ List.mem_cons_self) (by decide)
  have skip := @scan_append _ isLineEnd front seps (others ++ saved :: behind)
    char separate begins fuel (by omega)
  have here := @fetch_append _ (front ++ seps) (others ++ saved :: behind) char
  have past := @scan_append _ inLine (front ++ seps) (char :: others) behind
    saved plain stops fuel (by omega)
  have found := @fetch_append _ (front ++ seps ++ char :: others) behind saved
  have ended := @put_append _ (front ++ seps ++ char :: others) behind saved
    '\x00'
  have whole := @stringAt_append (front ++ seps) (char :: others)
    (by
      intro member
      exact absurd (plain _ member) (by decide)) behind
  obtain ⟨left, last, size, written, same⟩ := overwrite_append (front ++ seps)
    (char :: others) (dispatch world (char :: others)).2 behind '\x00'
  have restored := @put_append _ (front ++ seps ++ left) behind last saved
  refine ⟨left, size, same, ?_⟩
  simp only [List.append_assoc, List.length_append, List.cons_append, size,
    List.length_cons, ← Nat.add_assoc]
    at started skip here past found ended whole written restored ⊢
  simp only [round, started, skip, here, past, found, ended, whole, written,
    restored, List.length_cons, if_neg some, if_neg other, bind, Except.bind]
  rfl

/-- Where the loop stands: the text is `done` up to `p` and `rest` from there
on, and `front` is what the buffer holds in place of `done`. -/
structure Splits (dispatch : Dispatch World) (world : World)
    (text back done rest front : List Char) (s : LineLoop World) : Prop where
  whole : text = done ++ rest
  place : s.p = front.length
  size : front.length = done.length
  buf : s.buf = front ++ (rest ++ '\x00' :: back)
  between : done = [] ∨ rest = [] ∨ ∃ init x, done = init ++ [x] ∧
    isLineEnd x = true
  calls : s.calls = Lines.runs isLineEnd done
  world : s.world = (Lines.lines isLineEnd done).foldl
    (fun world line => (dispatch world line).1) world
  same :
    (∀ world, ∀ line ∈ Lines.lines isLineEnd text,
      (dispatch world line).2 = line) → front = done

theorem Splits.start
    {world : World} {text back : List Char} :
    Splits dispatch world text back [] text []
      { world, buf := text ++ '\x00' :: back } where
  whole := rfl
  place := rfl
  size := rfl
  buf := rfl
  between := .inl rfl
  calls := rfl
  world := rfl
  same := fun _ => rfl

section Step

variable {world : World} {text back done rest front : List Char}

/-- The loop is left when there is no line left. -/
theorem Splits.finish
    (splits : Splits dispatch world text back done rest front s)
    (separate : ∀ x ∈ rest, isLineEnd x = true) (enough : rest.length < fuel) :
    ∃ after, round dispatch fuel s = .ok (.inr after) ∧
      Splits dispatch world text back text [] (front ++ rest) after := by
  have none := Lines.runs_seps separate
  have runs : Lines.runs isLineEnd text = Lines.runs isLineEnd done := by
    rw [splits.whole, Lines.runs_append splits.between, none, List.map_nil,
      List.append_nil]
  refine ⟨_, round_done splits.buf splits.place separate enough, ?_⟩
  exact
    { whole := (List.append_nil text).symm
      place := by rw [List.length_append]
      size := by
        rw [List.length_append, splits.size, splits.whole, List.length_append]
      buf := by rw [splits.buf, List.append_assoc, List.nil_append]
      between := .inr (.inl rfl)
      calls := by rw [runs, splits.calls]
      world := by
        rw [← Lines.runs_snd text, runs, Lines.runs_snd, splits.world]
      same := by
        intro quiet
        rw [splits.same quiet, splits.whole] }

/-- A round with a line left handles it and what ends it. -/
theorem Splits.line
    {seps line after : List Char}
    (splits : Splits dispatch world text back done rest front s)
    (plainText : '\x00' ∉ text) (split : rest = seps ++ (line ++ after))
    (separate : ∀ x ∈ seps, isLineEnd x = true) (nonempty : line ≠ [])
    (plain : ∀ x ∈ line, isLineEnd x = false)
    (ends : after = [] ∨ ∃ y more, after = y :: more ∧ isLineEnd y = true)
    (enough : rest.length < fuel) :
    ∃ next done' rest' front', round dispatch fuel s = .ok (.inl next) ∧
      Splits dispatch world text back done' rest' front' next ∧
        rest'.length < rest.length := by
  have between : done = [] ∨ ∃ init x, done = init ++ [x] ∧
      isLineEnd x = true := by
    rcases splits.between with none | none | some
    · exact .inl none
    · rw [split] at none
      simp [nonempty] at none
    · exact .inr some
  have listed : line ∈ Lines.lines isLineEnd text := by
    rw [← Lines.runs_snd, splits.whole, split, Lines.runs_append
      (between.imp_right .inr), Lines.runs_first separate nonempty plain ends]
    simp [Lines.shift]
  have inside : ∀ x ∈ line, inLine x = true := by
    intro x member
    have other : x ≠ '\x00' := by
      rintro rfl
      apply plainText
      rw [splits.whole, split]
      simp [member]
    rw [inLine_eq other, plain x member]
    rfl
  -- what the calls and the world become, whatever ended the line
  have runs {stop : List Char} (stops : ∀ x ∈ stop, isLineEnd x = true) :
      Lines.runs isLineEnd (done ++ (seps ++ (line ++ stop))) =
        Lines.runs isLineEnd done ++ [(front.length + seps.length, line)] := by
    have ended : stop = [] ∨ ∃ y more, stop = y :: more ∧
        isLineEnd y = true := by
      cases stop with
      | nil => exact .inl rfl
      | cons y more => exact .inr ⟨y, more, rfl, stops y List.mem_cons_self⟩
    rw [Lines.runs_append (between.imp_right .inr),
      Lines.runs_first separate nonempty plain ended, Lines.runs_seps stops,
      splits.size]
    rfl
  have worlds {stop : List Char} (stops : ∀ x ∈ stop, isLineEnd x = true) :
      (dispatch s.world line).1 =
        (Lines.lines isLineEnd (done ++ (seps ++ (line ++ stop)))).foldl
          (fun world line => (dispatch world line).1) world := by
    rw [← Lines.runs_snd, runs stops, List.map_append, Lines.runs_snd,
      List.foldl_append, splits.world]
    rfl
  have reaches : seps.length + line.length < fuel := by
    rw [split, List.length_append, List.length_append] at enough
    omega
  have buf := splits.buf
  rcases ends with rfl | ⟨y, more, rfl, separator⟩
  · simp only [split, List.append_assoc, List.nil_append] at buf
    obtain ⟨left, size, same, moved⟩ := round_line buf splits.place separate
      nonempty inside (by decide) reaches
    refine ⟨_, done ++ (seps ++ (line ++ [])), [], front ++ (seps ++ left),
      moved, ?_, ?_⟩
    · exact
        { whole := by simp [splits.whole, split]
          place := by simp [size, Nat.add_assoc]
          size := by simp [size, splits.size]
          buf := by simp
          between := .inr (.inl rfl)
          calls := by rw [runs (by simp), splits.calls]
          world := worlds (by simp)
          same := by
            intro quiet
            rw [splits.same quiet, same (quiet _ line listed),
              List.append_nil] }
    · rw [split, List.append_nil, List.length_append]
      have some := List.length_pos_iff.mpr nonempty
      simp only [List.length_nil]
      omega
  · have other : y ≠ '\x00' := by
      rintro rfl
      exact absurd separator (by decide)
    have ends : inLine y = false := by
      rw [inLine_eq other, separator]
      rfl
    have stops : ∀ x ∈ [y], isLineEnd x = true := by
      simpa using separator
    simp only [split, List.append_assoc, List.cons_append] at buf
    obtain ⟨left, size, same, moved⟩ := round_line buf splits.place separate
      nonempty inside ends reaches
    refine ⟨_, done ++ (seps ++ (line ++ [y])), more,
      front ++ (seps ++ (left ++ [y])), moved, ?_, ?_⟩
    · exact
        { whole := by simp [splits.whole, split]
          place := by simp [size, other, Nat.add_assoc]
          size := by simp [size, splits.size]
          buf := by simp
          between := .inr (.inr ⟨done ++ (seps ++ line), y, by simp, separator⟩)
          calls := by rw [runs stops, splits.calls]
          world := worlds stops
          same := by
            intro quiet
            rw [splits.same quiet, same (quiet _ line listed)] }
    · rw [split]
      simp only [List.length_append, List.length_cons]
      omega

end Step

/-- A round handles the next line or leaves the loop. -/
theorem Splits.step
    {world : World} {text back done rest front : List Char}
    (splits : Splits dispatch world text back done rest front s)
    (plainText : '\x00' ∉ text) (enough : text.length < fuel) :
    (∃ next, round dispatch fuel s = .ok (.inl next) ∧
      (∃ done' rest' front',
        Splits dispatch world text back done' rest' front' next) ∧
        text.length - next.p < text.length - s.p) ∨
      ∃ after, round dispatch fuel s = .ok (.inr after) ∧
        ∃ front', Splits dispatch world text back text [] front' after := by
  have parts := congrArg List.length splits.whole
  rw [List.length_append] at parts
  have reaches : rest.length < fuel := by omega
  rcases @Lines.first_line _ isLineEnd rest with
    all | ⟨seps, line, more, split, separate, nonempty, plain, ends⟩
  · obtain ⟨after, left, ended⟩ := splits.finish all reaches
    exact .inr ⟨after, left, _, ended⟩
  · obtain ⟨next, done', rest', front', goes, kept, less⟩ :=
      splits.line plainText split separate nonempty plain ends reaches
    have parts' := congrArg List.length kept.whole
    rw [List.length_append] at parts'
    refine .inl ⟨next, goes, ⟨done', rest', front', kept⟩, ?_⟩
    rw [kept.place, splits.place, kept.size, splits.size]
    omega

theorem round_mono
    {more : Nat} (enough : fuel ≤ more)
    {outcome : LineLoop World ⊕ LineLoop World}
    (goes : round dispatch fuel s = .ok outcome) :
    round dispatch more s = .ok outcome := by
  simp only [round, bind, Except.bind] at goes ⊢
  split at goes
  · cases goes
  · next first =>
    split at goes
    · next ended => rw [if_pos ended, goes]
    · next begun =>
      rw [if_neg begun]
      split at goes
      · cases goes
      · next p found =>
        rw [scan_mono found enough]
        dsimp only
        split at goes
        · cases goes
        · next char =>
          split at goes
          · next ended => rw [if_pos ended, goes]
          · next begun =>
            rw [if_neg begun]
            split at goes
            · cases goes
            · next last found =>
              rw [scan_mono found enough]
              exact goes

/-- The loop stands somewhere in the text. -/
def Running (dispatch : Dispatch World) (world : World) (text back : List Char)
    (s : LineLoop World) : Prop :=
  ∃ done rest front, Splits dispatch world text back done rest front s

/-- The loop ends at the end of the text, with any fuel that is enough. -/
theorem ends_splits
    (dispatch : Dispatch World) (world : World) {text : List Char}
    (plain : '\x00' ∉ text) (back : List Char) :
    ∃ after front,
      (∀ fuel, (text ++ '\x00' :: back).length < fuel →
        slmAtRunCycle dispatch fuel world (text ++ '\x00' :: back) =
          .ok after) ∧
        Splits dispatch world text back text [] front after := by
  have long := @List.length_append _ text ('\x00' :: back)
  generalize (text ++ '\x00' :: back).length = size at long
  have start : Running dispatch world text back
      { world, buf := text ++ '\x00' :: back } := ⟨[], text, [], .start⟩
  obtain ⟨after, ends, front, splits⟩ :=
    @run_total _ _ (round dispatch (size + 1))
      (Running dispatch world text back) (fun s => text.length - s.p)
      (fun after => ∃ front, Splits dispatch world text back text [] front after)
      (fun s ⟨done, rest, front, splits⟩ => splits.step plain (by omega))
      (size + 1) _ start (by omega)
  refine ⟨after, front, ?_, splits⟩
  intro fuel enough
  exact run_mono (fun _ _ => round_mono enough) ends enough

end LineLoop

/-- Over every NUL-terminated buffer the loop of `slm_at_run_cycle` ends; it
calls `dispatch` with the lines of the string in it, each where it stands and
up to the NUL put behind it, and a `dispatch` that leaves these strings as they
are leaves the buffer as it was. -/
theorem LineLoop.dispatches_lines
    (dispatch : Dispatch World) (world : World) {buf : List Char}
    (terminated : '\x00' ∈ buf) :
    ∃ after : LineLoop World,
      (∀ fuel, buf.length < fuel →
        slmAtRunCycle dispatch fuel world buf = .ok after) ∧
      after.calls = Lines.runs isLineEnd (cString buf) ∧
      after.world = (Lines.lines isLineEnd (cString buf)).foldl
        (fun world line => (dispatch world line).1) world ∧
      ((∀ world, ∀ line ∈ Lines.lines isLineEnd (cString buf),
        (dispatch world line).2 = line) → after.buf = buf) := by
  obtain ⟨text, back, rfl, plain⟩ := List.eq_append_cons_of_mem terminated
  obtain ⟨after, front, ends, splits⟩ :=
    ends_splits dispatch world plain back
  rw [cString_append plain]
  refine ⟨after, ends, splits.calls, splits.world, ?_⟩
  intro quiet
  rw [splits.buf, splits.same quiet, List.nil_append]

/-- Two lines with separators of all kinds around them. -/
theorem LineLoop.dispatches_two :
    '\x00' ∈ "\r\nOK\r\n\nAT\x00x".toList ∧
      ∃ after : LineLoop Nat,
        (∀ fuel, "\r\nOK\r\n\nAT\x00x".toList.length < fuel →
          slmAtRunCycle (fun count line => (count + 1, line)) fuel 0
            "\r\nOK\r\n\nAT\x00x".toList = .ok after) ∧
        after.calls = [(2, "OK".toList), (7, "AT".toList)] ∧
        after.world = 2 ∧ after.buf = "\r\nOK\r\n\nAT\x00x".toList := by
  have terminated : '\x00' ∈ "\r\nOK\r\n\nAT\x00x".toList := by decide
  obtain ⟨after, ends, calls, world, same⟩ :=
    LineLoop.dispatches_lines (fun count line => (count + 1, line)) 0 terminated
  refine ⟨terminated, after, ends, ?_, ?_, same (fun _ _ _ => rfl)⟩
  · rw [calls]
    decide +kernel
  · rw [world]
    decide +kernel

/-- The calls are for exactly the stretches without separators that cannot be
made longer. -/
theorem LineLoop.mem_calls_iff
    {dispatch : Dispatch World} {world : World} {buf : List Char} {fuel : Nat}
    {after : LineLoop World} (terminated : '\x00' ∈ buf)
    (enough : buf.length < fuel)
    (ends : slmAtRunCycle dispatch fuel world buf = .ok after)
    {p : Nat} {line : List Char} :
    (p, line) ∈ after.calls ↔
      Lines.IsRun isLineEnd (cString buf) p line := by
  obtain ⟨text, back, rfl, plain⟩ := List.eq_append_cons_of_mem terminated
  obtain ⟨other, front, returns, splits⟩ :=
    ends_splits dispatch world plain back
  have same := ends.symm.trans (returns fuel enough)
  cases same
  rw [cString_append plain, splits.calls]
  exact Lines.mem_runs_iff

/-- The lines that the transport counts as dispatched are those of the loop
over the copy of the message, whatever the buffer held before. -/
theorem Uart.slmAtRunCycle_loop
    (dispatch : Dispatch World) (world : World) (s : Uart)
    (ready : s.dataMsg.messageReady = true) (stale : List Char) :
    ∃ after : LineLoop World,
      (∀ fuel, slmUartAtCommandLen + stale.length < fuel →
        LineLoop.slmAtRunCycle dispatch fuel world
          (s.dataMsg.buf.take (slmUartAtCommandLen - 1) ++ '\x00' :: stale) =
            .ok after) ∧
      (s.slmAtRunCycle true).dispatched =
        s.dispatched ++ after.calls.map Prod.snd := by
  generalize copied : s.dataMsg.buf.take (slmUartAtCommandLen - 1) = copy
  have short : copy.length ≤ slmUartAtCommandLen - 1 := by
    rw [← copied, List.length_take]
    exact Nat.min_le_left _ _
  obtain ⟨text, back, whole, plain⟩ := List.eq_append_cons_of_mem
    (List.mem_append_right copy (List.mem_cons_self (a := '\x00') (l := stale)))
  have seen : cString copy = text := by
    rw [← cString_terminated copy stale, whole, cString_append plain]
  have long := congrArg List.length whole
  rw [List.length_append, List.length_cons] at long
  obtain ⟨after, front, ends, splits⟩ :=
    LineLoop.ends_splits dispatch world plain back
  refine ⟨after, ?_, ?_⟩
  · intro fuel enough
    rw [whole]
    have positive : 0 < slmUartAtCommandLen := by decide
    exact ends fuel (by omega)
  · rw [splits.calls, Lines.runs_snd, Uart.slmAtRunCycle, if_pos ⟨ready, rfl⟩]
    dsimp only
    rw [copied, seen, splitLines_eq (Nat.le_refl _)]

end DectMesh
