import Mathlib.Tactic.Common

/-!
# Runs of a partial step function

`step` either moves a state or reports a fault.  A run is a finite sequence
of accepted steps; `admits` restricts which events a run may take, so that a
property of all runs and a property of the runs under a side condition are
one statement.
-/

namespace Trace

section

variable {State Event Fault : Type*}
variable (step : State → Event → Except Fault State)
variable (admits : State → Event → Prop)

/-- `Reach step admits start state`: some run of admitted, fault-free steps
leads from `start` to `state`. -/
inductive Reach (start : State) : State → Prop
  | refl : Reach start start
  | next {before after : State} {event : Event} :
      Reach start before →
      admits before event →
      step before event = .ok after →
      Reach start after

variable {step admits}

/-- The induction rule of safety proofs: what holds at the start and is kept
by every admitted step holds in every state of every run. -/
theorem Reach.invariant
    {Inv : State → Prop} {start state : State}
    (reach : Reach step admits start state)
    (initial : Inv start)
    (preserved :
      ∀ before event after,
        Inv before → admits before event →
          step before event = .ok after → Inv after) :
    Inv state := by
  induction reach with
  | refl => exact initial
  | next _ admitted moved ih => exact preserved _ _ _ ih admitted moved

theorem Reach.trans
    {start middle state : State}
    (first : Reach step admits start middle)
    (second : Reach step admits middle state) :
    Reach step admits start state := by
  induction second with
  | refl => exact first
  | next _ admitted moved ih => exact .next ih admitted moved

/-- Forward simulation: when every step of one system is matched by a run of
another, so is every run. -/
theorem Reach.simulated {Other OtherEvent OtherFault : Type*}
    {otherStep : Other → OtherEvent → Except OtherFault Other}
    {otherAdmits : Other → OtherEvent → Prop} {Rel : State → Other → Prop}
    {start state : State} {other : Other}
    (reach : Reach step admits start state) (initial : Rel start other)
    (each : ∀ before event after image,
      Rel before image → Reach otherStep otherAdmits other image →
        admits before event → step before event = .ok after →
          ∃ next, Reach otherStep otherAdmits image next ∧ Rel after next) :
    ∃ image, Reach otherStep otherAdmits other image ∧ Rel state image := by
  induction reach with
  | refl => exact ⟨other, .refl, initial⟩
  | next _ admitted moved ih =>
      obtain ⟨image, reached, related⟩ := ih
      obtain ⟨next, further, stays⟩ :=
        each _ _ _ image related reached admitted moved
      exact ⟨next, reached.trans further, stays⟩

/-- What every step of one system does to a part of its state is a step of
another system: so is every run. -/
theorem Reach.map {Part PartEvent PartFault : Type*}
    {partStep : Part → PartEvent → Except PartFault Part}
    {partAdmits : Part → PartEvent → Prop}
    (part : State → Part) (partEvent : Event → PartEvent)
    {start state : State} (reach : Reach step admits start state)
    (each : ∀ before event after, admits before event →
      step before event = .ok after →
        partAdmits (part before) (partEvent event) ∧
          partStep (part before) (partEvent event) = .ok (part after)) :
    Reach partStep partAdmits (part start) (part state) := by
  induction reach with
  | refl => exact .refl
  | next _ admitted moved ih =>
      obtain ⟨partAdmitted, partMoved⟩ := each _ _ _ admitted moved
      exact .next ih partAdmitted partMoved

end

section

variable {State Event Fault : Type*} {step : State → Event → Except Fault State}

/-- Take a whole list of events, stopping at the first fault. -/
def run (step : State → Event → Except Fault State) :
    State → List Event → Except Fault State
  | state, [] => .ok state
  | state, event :: rest =>
      match step state event with
      | .ok after => run step after rest
      | .error fault => .error fault

theorem run_single (state : State) (event : Event) :
    run step state [event] = step state event := by
  simp only [run]
  split
  · next moved => exact moved.symm
  · next failed => exact failed.symm

theorem run_append (state : State) (first second : List Event) :
    run step state (first ++ second) =
      match run step state first with
      | .ok after => run step after second
      | .error fault => .error fault := by
  induction first generalizing state with
  | nil => rfl
  | cons event rest ih =>
      simp only [List.cons_append, run]
      cases step state event with
      | ok after => exact ih after
      | error fault => rfl

/-- The events run without a fault and end in a state that satisfies `P`. -/
def Ends (step : State → Event → Except Fault State)
    (start : State) (events : List Event) (P : State → Prop) : Prop :=
  ∃ state, run step start events = .ok state ∧ P state

instance Ends.decidable
    (step : State → Event → Except Fault State) (start : State)
    (events : List Event) (P : State → Prop) [DecidablePred P] :
    Decidable (Ends step start events P) :=
  match ended : run step start events with
  | .ok state =>
      if holds : P state then
        isTrue ⟨state, ended, holds⟩
      else
        isFalse fun ⟨_, same, found⟩ => by
          rw [ended, Except.ok.injEq] at same
          exact holds (same ▸ found)
  | .error _ =>
      isFalse fun ⟨_, same, _⟩ => by
        rw [ended] at same
        cases same

/-- Items are handled one after the other: what each step adds to the record
of the items seen, the whole run adds. -/
theorem ends_of_each {Item : Type*} {Inv : List Item → State → Prop}
    (event : Item → Event) :
    ∀ {items : List Item},
      (∀ item ∈ items, ∀ seen state, Inv seen state →
        ∃ after, step state (event item) = .ok after ∧
          Inv (item :: seen) after) →
      ∀ {seen : List Item} {state : State}, Inv seen state →
        Ends step state (items.map event) (Inv (items.reverse ++ seen))
  | [], _, _, state, holds => ⟨state, rfl, holds⟩
  | first :: rest, each, seen, state, holds => by
      obtain ⟨after, moved, held⟩ :=
        each first List.mem_cons_self seen state holds
      obtain ⟨final, executed, last⟩ :=
        ends_of_each event (fun item member =>
          each item (List.mem_cons_of_mem first member)) held
      refine ⟨final, ?_, ?_⟩
      · simp only [List.map_cons, run, moved]
        exact executed
      · rw [List.reverse_cons, List.append_assoc]
        exact last

/-- A step that is taken only where a check allows it. -/
def guarded (check : State → Event → Bool)
    (step : State → Event → Except Fault State) (state : State)
    (event : Event) : Except (Option Fault) State :=
  if check state event then
    (step state event).mapError some
  else
    .error none

/-- A checked run is admitted where the check implies the side condition. -/
theorem Reach.of_guarded {admits : State → Event → Prop}
    {check : State → Event → Bool}
    (sound : ∀ state event, check state event = true → admits state event) :
    ∀ {events : List Event} {start state : State},
      run (guarded check step) start events = .ok state →
        Reach step admits start state
  | [], start, state, executed => by
      simp only [run, Except.ok.injEq] at executed
      exact executed ▸ .refl
  | event :: rest, start, state, executed => by
      simp only [run, guarded] at executed
      split at executed
      · next after moved =>
        split at moved
        · next allowed =>
          have admitted := sound start event allowed
          cases stepped : step start event with
          | error fault =>
              rw [stepped] at moved
              cases moved
          | ok next =>
              rw [stepped] at moved
              cases moved
              exact Reach.trans (.next .refl admitted stepped)
                (of_guarded sound executed)
        · cases moved
      · cases executed

/-- An executed list of events that the side condition admits is a run. -/
theorem Reach.of_run
    {admits : State → Event → Prop} :
    ∀ {events : List Event} {start state : State},
      (∀ event ∈ events, ∀ before, admits before event) →
        run step start events = .ok state → Reach step admits start state
  | [], start, state, _, executed => by
      simp only [run, Except.ok.injEq] at executed
      exact executed ▸ .refl
  | event :: rest, start, state, admitted, executed => by
      simp only [run] at executed
      split at executed
      · next after moved =>
        have first := admitted event List.mem_cons_self start
        have later := fun other member =>
          admitted other (List.mem_cons_of_mem event member)
        exact Reach.trans (.next .refl first moved) (of_run later executed)
      · cases executed

end

end Trace
