import Mathlib.Data.Fin.Tuple.Basic
import Mathlib.Data.List.Basic
import Mathlib.Logic.Function.Basic

/-!
# Bounded queues by class

A message queue for each class, taken from in the order of the classes.  A full
queue refuses; what a queue took comes out once, in the order it came in.
-/

namespace ClassQueues

/-- A message queue of at most `depth` items, the oldest first. -/
structure MsgQueue (Item : Type) (depth : Nat) where
  items : List Item := []
  bounded : items.length ≤ depth := by exact Nat.zero_le _

namespace MsgQueue

variable {Item : Type} {depth : Nat} (queue : MsgQueue Item depth)

/-- Put an item in without waiting; the flag tells whether it fitted. -/
def put (item : Item) : MsgQueue Item depth × Bool :=
  if room : queue.items.length < depth then
    ({ items := queue.items ++ [item]
       bounded := by rw [List.length_append]; exact room }, true)
  else
    (queue, false)

/-- The queue without its oldest item. -/
def rest : MsgQueue Item depth where
  items := queue.items.tail
  bounded := by
    rw [List.length_tail]
    exact le_trans (Nat.sub_le _ _) queue.bounded

theorem put_items (item : Item) :
    (queue.put item).1.items =
      queue.items ++ if (queue.put item).2 then [item] else [] := by
  unfold put
  split
  · rfl
  · exact (List.append_nil _).symm

end MsgQueue

variable {classes : Nat} {Item : Type} {depth : Nat}

/-- One queue for each class; class 0 goes first. -/
abbrev Queues (classes : Nat) (Item : Type) (depth : Nat) :=
  Fin classes → MsgQueue Item depth

/-- Put an item into the queue of its class. -/
def put (queues : Queues classes Item depth) (prio : Fin classes)
    (item : Item) : Queues classes Item depth × Bool :=
  (Function.update queues prio ((queues prio).put item).1,
    ((queues prio).put item).2)

/-- Take the oldest item of the first class that has one. -/
def get (queues : Queues classes Item depth) :
    Option (Fin classes × Item × Queues classes Item depth) :=
  match Fin.find? fun prio => !(queues prio).items.isEmpty with
  | none => none
  | some prio =>
      (queues prio).items.head?.map fun item =>
        (prio, item, Function.update queues prio (queues prio).rest)

/-- What was taken: the oldest of its class, with nothing in front of it. -/
structure Takes (queues : Queues classes Item depth) (prio : Fin classes)
    (item : Item) (after : Queues classes Item depth) : Prop where
  oldest : (queues prio).items = item :: (after prio).items
  first : ∀ other, other < prio → (queues other).items = []
  others : ∀ other, other ≠ prio → after other = queues other

theorem get_takes {queues after : Queues classes Item depth}
    {prio : Fin classes} {item : Item}
    (got : get queues = some (prio, item, after)) :
    Takes queues prio item after := by
  unfold get at got
  split at got
  · cases got
  · next found here =>
    obtain ⟨first, head, same⟩ := Option.map_eq_some_iff.mp got
    simp only [Prod.mk.injEq] at same
    obtain ⟨rfl, rfl, rfl⟩ := same
    obtain ⟨later, items⟩ := List.head?_eq_some_iff.mp head
    refine ⟨?_, ?_, ?_⟩
    · rw [Function.update_self]
      dsimp only [MsgQueue.rest]
      rw [items, List.tail_cons]
    · intro other before
      simpa using Fin.eq_false_of_find?_eq_some_of_lt here other before
    · intro other different
      exact Function.update_of_ne different _ _

/-- Nothing is taken only when all queues are empty. -/
theorem get_none {queues : Queues classes Item depth} :
    get queues = none ↔ ∀ prio, (queues prio).items = [] := by
  unfold get
  split
  · next nowhere =>
    refine ⟨fun _ prio => ?_, fun _ => rfl⟩
    simpa using Fin.eq_false_of_find?_eq_none nowhere prio
  · next prio here =>
    have some := Fin.eq_true_of_find?_eq_some here
    rw [Option.map_eq_none_iff, List.head?_eq_none_iff]
    refine ⟨fun empty => ?_, fun empty => empty prio⟩
    rw [empty] at some
    cases some

section Record

/-- Queues with the record of what was put in and taken out. -/
structure Logged (classes : Nat) (Item : Type) (depth : Nat) where
  queues : Queues classes Item depth := fun _ => {}
  accepted : List (Fin classes × Item) := []
  taken : List (Fin classes × Item) := []

namespace Logged

variable (log : Logged classes Item depth)

/-- A refused item leaves no trace. -/
def put (prio : Fin classes) (item : Item) : Logged classes Item depth where
  queues := (ClassQueues.put log.queues prio item).1
  accepted := log.accepted ++
    if (ClassQueues.put log.queues prio item).2 then [(prio, item)] else []
  taken := log.taken

def get : Option (Item × Logged classes Item depth) :=
  match ClassQueues.get log.queues with
  | none => none
  | some (prio, item, queues) =>
      some (item, { log with
        queues := queues
        taken := log.taken ++ [(prio, item)] })

/-- The items of one class in a record. -/
def ofClass (prio : Fin classes) (record : List (Fin classes × Item)) :
    List Item :=
  (record.filter fun entry => entry.1 = prio).map Prod.snd

theorem ofClass_append (prio : Fin classes)
    (first second : List (Fin classes × Item)) :
    ofClass prio (first ++ second) =
      ofClass prio first ++ ofClass prio second := by
  simp [ofClass]

theorem ofClass_single (prio other : Fin classes) (item : Item) :
    ofClass prio [(other, item)] = if other = prio then [item] else [] := by
  by_cases same : other = prio <;> simp [ofClass, same]

theorem mem_ofClass {prio : Fin classes} {item : Item}
    {record : List (Fin classes × Item)}
    (member : item ∈ ofClass prio record) : (prio, item) ∈ record := by
  unfold ofClass at member
  obtain ⟨⟨other, _⟩, kept, rfl⟩ := List.mem_map.mp member
  obtain ⟨inside, same⟩ := List.mem_filter.mp kept
  rw [← of_decide_eq_true same]
  exact inside

/-- In each class, what was taken and what still waits is what was accepted,
in this order. -/
def Conserved : Prop :=
  ∀ prio, ofClass prio log.accepted =
    ofClass prio log.taken ++ (log.queues prio).items

theorem empty_conserved : ({} : Logged classes Item depth).Conserved :=
  fun _ => rfl

variable {log} {after : Logged classes Item depth}

/-- Nothing that was accepted is lost, repeated or overtaken by its like. -/
theorem Conserved.put (conserved : log.Conserved) (prio : Fin classes)
    (item : Item) : (log.put prio item).Conserved := by
  intro other
  have items := (log.queues prio).put_items item
  have fits : (ClassQueues.put log.queues prio item).2 =
    ((log.queues prio).put item).2 := rfl
  unfold Logged.put
  rw [ofClass_append, conserved other, List.append_assoc, fits]
  congr 1
  dsimp only [ClassQueues.put]
  by_cases same : other = prio
  · subst same
    rw [Function.update_self, items]
    congr 1
    split
    · rw [ofClass_single, if_pos rfl]
    · rfl
  · rw [Function.update_of_ne same]
    split
    · rw [ofClass_single, if_neg (Ne.symm same), List.append_nil]
    · exact List.append_nil _

theorem Conserved.get (conserved : log.Conserved) {item : Item}
    (got : log.get = some (item, after)) : after.Conserved := by
  unfold Logged.get at got
  split at got
  · cases got
  · next prio first queues found =>
    cases got
    have takes := get_takes found
    intro other
    dsimp only
    rw [ofClass_append, conserved other, ofClass_single, List.append_assoc]
    congr 1
    by_cases same : prio = other
    · subst same
      rw [if_pos rfl, takes.oldest]
      rfl
    · rw [if_neg same, takes.others other (Ne.symm same)]
      rfl

/-- What is taken was accepted. -/
theorem Conserved.mem_accepted (conserved : log.Conserved) {item : Item}
    (got : log.get = some (item, after)) :
    ∃ prio, (prio, item) ∈ log.accepted := by
  unfold Logged.get at got
  split at got
  · cases got
  · next prio first queues found =>
    cases got
    have takes := get_takes found
    refine ⟨prio, mem_ofClass ?_⟩
    rw [conserved prio, takes.oldest]
    exact List.mem_append_right _ List.mem_cons_self

theorem mem_put {prio other : Fin classes} {item first : Item}
    (member : (other, first) ∈ (log.put prio item).accepted) :
    (other, first) ∈ log.accepted ∨ first = item := by
  rcases List.mem_append.mp member with member | member
  · exact .inl member
  · split at member
    · cases List.mem_singleton.mp member
      exact .inr rfl
    · cases member

theorem get_accepted {item : Item} (got : log.get = some (item, after)) :
    after.accepted = log.accepted := by
  unfold Logged.get at got
  split at got
  · cases got
  · cases got
    rfl

/-- The first class is served first. -/
theorem get_first {first : Fin classes} (lowest : ∀ prio, first ≤ prio)
    {item : Item} (got : log.get = some (item, after)) :
    (after.queues first).items = (log.queues first).items.tail ∧
      ∀ head, (log.queues first).items.head? = some head → head = item := by
  unfold Logged.get at got
  split at got
  · cases got
  · next prio taken queues found =>
    cases got
    have takes := get_takes found
    dsimp only
    by_cases same : first = prio
    · subst same
      rw [takes.oldest]
      exact ⟨rfl, fun head here => (Option.some.inj here).symm⟩
    · have empty := takes.first first (lt_of_le_of_ne (lowest prio) same)
      rw [takes.others first same, empty]
      exact ⟨rfl, fun head here => nomatch here⟩

theorem get_none (nothing : log.get = none) (prio : Fin classes) :
    (log.queues prio).items = [] := by
  unfold Logged.get at nothing
  split at nothing
  · next none =>
    exact ClassQueues.get_none.mp none prio
  · cases nothing

/-- What is put in comes behind what waits. -/
theorem put_behind (log : Logged classes Item depth) (prio other : Fin classes)
    (item : Item) :
    ∃ more, ((log.put prio item).queues other).items =
      (log.queues other).items ++ more := by
  dsimp only [Logged.put, ClassQueues.put]
  by_cases same : other = prio
  · subst same
    rw [Function.update_self, MsgQueue.put_items]
    exact ⟨_, rfl⟩
  · rw [Function.update_of_ne same]
    exact ⟨[], (List.append_nil _).symm⟩

end Logged

end Record

end ClassQueues
