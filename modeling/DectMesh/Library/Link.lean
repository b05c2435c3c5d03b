import DectMesh.Library.Trace

/-!
# A link with answers in flight

Two parties step on their own; what the second one answers travels to the
first, in any order and with losses.  An answer says something about its
sender that must still hold when it arrives, so the rule below carries three
invariants: one for each party, and one for every answer in flight.
-/

namespace Link

variable {Child Parent ChildEvent ParentEvent Answer Context Fault : Type}

/-- The two parties of a link. -/
structure Parties (Child Parent ChildEvent ParentEvent Answer Context Fault :
    Type) where
  childStep : Child → ChildEvent → Except Fault Child
  parentStep : Parent → ParentEvent → Except Fault Parent
  /-- What the parent answered to an event, read off the state after it. -/
  answers : ParentEvent → Parent → List Answer
  /-- The event of the child in which an answer arrives. -/
  receive : Context → Answer → ChildEvent

/-- Both parties and the answers in flight. -/
structure State (Child Parent Answer : Type) where
  child : Child
  parent : Parent
  air : List Answer

inductive Event (ChildEvent ParentEvent Context : Type) where
  | child (event : ChildEvent)
  | parent (event : ParentEvent)
  | deliver (position : Nat) (context : Context)
  | lose (position : Nat)

/-- One event of a link. -/
def step
    (parties : Parties Child Parent ChildEvent ParentEvent Answer Context Fault)
    (link : State Child Parent Answer) :
    Event ChildEvent ParentEvent Context →
      Except Fault (State Child Parent Answer)
  | .child event =>
      match parties.childStep link.child event with
      | .error fault => .error fault
      | .ok child => .ok { link with child := child }
  | .parent event =>
      match parties.parentStep link.parent event with
      | .error fault => .error fault
      | .ok parent =>
          .ok { link with
            parent := parent
            air := link.air ++ parties.answers event parent }
  | .deliver position context =>
      match link.air[position]? with
      | none => .ok link
      | some answer =>
          match parties.childStep link.child
              (parties.receive context answer) with
          | .error fault => .error fault
          | .ok child =>
              .ok { link with
                child := child
                air := link.air.eraseIdx position }
  | .lose position => .ok { link with air := link.air.eraseIdx position }

/-- What has to be shown of the events of a link for its invariant. -/
structure Sound
    (parties : Parties Child Parent ChildEvent ParentEvent Answer Context Fault)
    (admits : State Child Parent Answer →
      Event ChildEvent ParentEvent Context → Prop)
    (ChildInv : Child → Prop) (ParentInv : Parent → Prop)
    (Backed : Parent → Answer → Prop) : Prop where
  child :
    ∀ link event child, ChildInv link.child → admits link (.child event) →
      parties.childStep link.child event = .ok child → ChildInv child
  deliver :
    ∀ link position context answer child, ChildInv link.child →
      admits link (.deliver position context) →
        parties.childStep link.child (parties.receive context answer) =
          .ok child → ChildInv child
  parent :
    ∀ link event parent, ParentInv link.parent → admits link (.parent event) →
      parties.parentStep link.parent event = .ok parent → ParentInv parent
  kept :
    ∀ link event parent answer, ParentInv link.parent →
      admits link (.parent event) →
        parties.parentStep link.parent event = .ok parent →
          answer ∈ link.air → Backed link.parent answer →
            Backed parent answer
  fresh :
    ∀ link event parent answer, ParentInv link.parent →
      admits link (.parent event) →
        parties.parentStep link.parent event = .ok parent →
          answer ∈ parties.answers event parent → Backed parent answer

/-- The invariant of a link. -/
structure Invariant
    (ChildInv : Child → Prop) (ParentInv : Parent → Prop)
    (Backed : Parent → Answer → Prop) (link : State Child Parent Answer) :
    Prop where
  child : ChildInv link.child
  parent : ParentInv link.parent
  air : ∀ answer ∈ link.air, Backed link.parent answer

variable
  {parties : Parties Child Parent ChildEvent ParentEvent Answer Context Fault}
variable {admits : State Child Parent Answer →
  Event ChildEvent ParentEvent Context → Prop}
variable {ChildInv : Child → Prop} {ParentInv : Parent → Prop}
variable {Backed : Parent → Answer → Prop}

theorem Sound.step
    (sound : Sound parties admits ChildInv ParentInv Backed)
    {link link' : State Child Parent Answer}
    {event : Event ChildEvent ParentEvent Context}
    (invariant : Invariant ChildInv ParentInv Backed link)
    (admitted : admits link event)
    (stepped : Link.step parties link event = .ok link') :
    Invariant ChildInv ParentInv Backed link' := by
  cases event with
  | child event =>
      simp only [Link.step] at stepped
      split at stepped
      · cases stepped
      · next child moved =>
        cases stepped
        exact { invariant with
          child := sound.child _ _ _ invariant.child admitted moved }
  | parent event =>
      simp only [Link.step] at stepped
      split at stepped
      · cases stepped
      · next parent moved =>
        cases stepped
        refine ⟨invariant.child, ?_, ?_⟩
        · exact sound.parent _ _ _ invariant.parent admitted moved
        · intro answer member
          rcases List.mem_append.mp member with old | new
          · exact sound.kept _ _ _ _ invariant.parent admitted moved old
              (invariant.air answer old)
          · exact sound.fresh _ _ _ _ invariant.parent admitted moved new
  | deliver position context =>
      simp only [Link.step] at stepped
      split at stepped
      · cases stepped
        exact invariant
      · split at stepped
        · cases stepped
        · next child moved =>
          cases stepped
          refine ⟨?_, invariant.parent, ?_⟩
          · exact sound.deliver _ _ _ _ _ invariant.child admitted moved
          · exact fun answer member =>
              invariant.air answer (List.mem_of_mem_eraseIdx member)
  | lose position =>
      cases stepped
      exact ⟨invariant.child, invariant.parent, fun answer member =>
        invariant.air answer (List.mem_of_mem_eraseIdx member)⟩

/-- The rule for all runs of a link that starts without answers in flight. -/
theorem Sound.reach
    (sound : Sound parties admits ChildInv ParentInv Backed)
    {child : Child} {parent : Parent} {link : State Child Parent Answer}
    (childStart : ChildInv child) (parentStart : ParentInv parent)
    (reach : Trace.Reach (Link.step parties) admits ⟨child, parent, []⟩ link) :
    Invariant ChildInv ParentInv Backed link := by
  apply reach.invariant
  · exact ⟨childStart, parentStart, fun answer member => by cases member⟩
  · exact fun before event after invariant admitted moved =>
      sound.step invariant admitted moved

end Link
