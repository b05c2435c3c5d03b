import Mathlib.Algebra.Order.BigOperators.Group.List
import Mathlib.Algebra.Order.Ring.Nat
import Mathlib.Data.List.Basic
import Mathlib.Tactic.Common

/-!
# Floods that climb a rank

A node that receives a copy of a packet may send copies of its own, and there
is neither a memory of packets nor a time to live.  The copies are finitely
many when each goes to a node of higher rank than the one that passes it on,
no node above a fixed rank passes anything on, and no node sends more than a
fixed number at once.
-/

namespace Flood

variable {Node Packet : Type*}

/-- A copy on its way, and the nodes that passed it on, the last one first. -/
structure Copy (Node Packet : Type*) where
  src : Node
  dst : Node
  packet : Packet
  chain : List Node := []

/-- The copies in the air, and all that were ever sent. -/
structure Air (Node Packet : Type*) where
  flying : List (Copy Node Packet)
  log : List (Copy Node Packet)

/-- The air when one copy was sent. -/
def Air.start (first : Copy Node Packet) : Air Node Packet where
  flying := [first]
  log := [first]

/-- What the receiver of a copy sends when it passes it on. -/
def Copy.passed
    (copy : Copy Node Packet) (sent : List (Node × Packet)) :
    List (Copy Node Packet) :=
  sent.map fun next =>
    { src := copy.dst
      dst := next.1
      packet := next.2
      chain := copy.dst :: copy.chain }

/-- The copy at position `i` leaves the air, and its receiver sends. -/
def Air.pass
    (air : Air Node Packet) (i : Nat) (copy : Copy Node Packet)
    (sent : List (Node × Packet)) : Air Node Packet where
  flying := air.flying.eraseIdx i ++ copy.passed sent
  log := air.log ++ copy.passed sent

/-- The most copies that can come of one which `levels` ranks can still pass
on. -/
def below (width : Nat) : Nat → Nat
  | 0 => 0
  | levels + 1 => width * (1 + below width levels)

theorem below_le_succ (width levels : Nat) :
    below width levels ≤ below width (levels + 1) := by
  induction levels with
  | zero => exact Nat.zero_le _
  | succ levels ih =>
      rw [below, below]
      exact Nat.mul_le_mul_left _ (Nat.add_le_add_left ih 1)

theorem below_mono (width : Nat) : Monotone (below width) :=
  monotone_nat_of_le_succ (below_le_succ width)

section Ranks

variable (rank : Node → Nat) (top width : Nat)

/-- The ranks that can still pass the copy on; rank zero passes nothing on. -/
def Copy.levels (copy : Copy Node Packet) : Nat :=
  top - (rank copy.dst - 1)

/-- What may still come of the copies. -/
def weight (copies : List (Copy Node Packet)) : Nat :=
  (copies.map fun copy => below width (copy.levels rank top)).sum

/-- The copy went up, and so did all that led to it. -/
structure Climbs (first copy : Copy Node Packet) : Prop where
  sender : copy = first ∨
    copy.chain.head? = some copy.src ∧ rank copy.src < rank copy.dst
  descends : (copy.dst :: copy.chain).Pairwise fun above under =>
    rank under < rank above
  passers : ∀ node ∈ copy.chain, 0 < rank node ∧ rank node ≤ top

/-- What is known of the air after the first copy. -/
structure Bounded (first : Copy Node Packet) (air : Air Node Packet) :
    Prop where
  logged : air.flying ⊆ air.log
  climbs : ∀ copy ∈ air.log, Climbs rank top first copy
  few : air.log.length + weight rank top width air.flying ≤
    1 + below width top

variable {rank top width}

theorem weight_append (left right : List (Copy Node Packet)) :
    weight rank top width (left ++ right) =
      weight rank top width left + weight rank top width right := by
  simp [weight]

theorem weight_eraseIdx
    {copies : List (Copy Node Packet)} {i : Nat} {copy : Copy Node Packet}
    (found : copies[i]? = some copy) :
    weight rank top width copies =
      below width (copy.levels rank top) +
        weight rank top width (copies.eraseIdx i) := by
  obtain ⟨inside, rfl⟩ := List.getElem?_eq_some_iff.mp found
  have perm := List.getElem_cons_eraseIdx_perm inside
  have same := (perm.map fun copy =>
    below width (Copy.levels rank top copy)).sum_eq
  rw [List.map_cons, List.sum_cons] at same
  exact same.symm

/-- What a receiver sends weighs less than what it received. -/
theorem weight_passed
    {copy : Copy Node Packet} {sent : List (Node × Packet)}
    (narrow : sent.length ≤ width)
    (climbs : ∀ next ∈ sent, rank copy.dst < rank next.1)
    (passes : sent ≠ [] → 0 < rank copy.dst ∧ rank copy.dst ≤ top) :
    sent.length + weight rank top width (copy.passed sent) ≤
      below width (copy.levels rank top) := by
  by_cases silent : sent = []
  · subst silent
    exact Nat.zero_le _
  · have between := passes silent
    obtain ⟨levels, levelsEq⟩ : ∃ levels, copy.levels rank top = levels + 1 :=
      ⟨top - rank copy.dst, by unfold Copy.levels; omega⟩
    have each : ∀ bound ∈ (copy.passed sent).map fun copy =>
        below width (Copy.levels rank top copy), bound ≤ below width levels := by
      intro bound member
      rw [Copy.passed, List.map_map, List.mem_map] at member
      obtain ⟨next, inside, rfl⟩ := member
      have higher := climbs next inside
      refine below_mono width ?_
      unfold Copy.levels at levelsEq ⊢
      dsimp only
      omega
    have total := List.sum_le_card_nsmul _ _ each
    rw [List.length_map, Copy.passed, List.length_map, Nat.nsmul_eq_mul] at total
    rw [levelsEq, below]
    calc sent.length + weight rank top width (copy.passed sent)
        ≤ sent.length + sent.length * below width levels :=
          Nat.add_le_add_left total _
      _ = sent.length * (1 + below width levels) := by
          rw [Nat.mul_add, Nat.mul_one]
      _ ≤ width * (1 + below width levels) := Nat.mul_le_mul_right _ narrow

theorem Climbs.passed
    {first copy : Copy Node Packet} {sent : List (Node × Packet)}
    (climbed : Climbs rank top first copy)
    (climbs : ∀ next ∈ sent, rank copy.dst < rank next.1)
    (passes : sent ≠ [] → 0 < rank copy.dst ∧ rank copy.dst ≤ top) :
    ∀ after ∈ copy.passed sent, Climbs rank top first after := by
  intro after member
  obtain ⟨next, inside, rfl⟩ := List.mem_map.mp member
  have higher := climbs next inside
  have allowed := passes (List.ne_nil_of_mem inside)
  refine ⟨.inr ⟨rfl, higher⟩, ?_, ?_⟩
  · refine List.pairwise_cons.mpr ⟨?_, climbed.descends⟩
    intro node passer
    rcases List.mem_cons.mp passer with rfl | earlier
    · exact higher
    · exact Nat.lt_trans
        ((List.pairwise_cons.mp climbed.descends).1 node earlier) higher
  · intro node passer
    rcases List.mem_cons.mp passer with rfl | earlier
    · exact allowed
    · exact climbed.passers node earlier

theorem Bounded.start (first : Copy Node Packet) (fresh : first.chain = []) :
    Bounded rank top width first (Air.start first) where
  logged := List.Subset.refl _
  climbs copy member := by
    rw [List.mem_singleton.mp member]
    exact ⟨.inl rfl, by simp [fresh], by simp [fresh]⟩
  few := by
    have most : below width (first.levels rank top) ≤ below width top :=
      below_mono width (Nat.sub_le top _)
    simp only [Air.start, weight, List.map_cons, List.map_nil, List.sum_cons,
      List.sum_nil, List.length_cons, List.length_nil]
    omega

/-- One copy is received. -/
theorem Bounded.pass
    {first : Copy Node Packet} {air : Air Node Packet}
    (bounded : Bounded rank top width first air)
    {i : Nat} {copy : Copy Node Packet} {sent : List (Node × Packet)}
    (found : air.flying[i]? = some copy)
    (narrow : sent.length ≤ width)
    (climbs : ∀ next ∈ sent, rank copy.dst < rank next.1)
    (passes : sent ≠ [] → 0 < rank copy.dst ∧ rank copy.dst ≤ top) :
    Bounded rank top width first (air.pass i copy sent) where
  logged := by
    intro other member
    rcases List.mem_append.mp member with old | new
    · exact List.mem_append_left _
        (bounded.logged (List.mem_of_mem_eraseIdx old))
    · exact List.mem_append_right _ new
  climbs := by
    have received := bounded.climbs copy
      (bounded.logged (List.mem_of_getElem? found))
    intro other member
    rcases List.mem_append.mp member with old | new
    · exact bounded.climbs other old
    · exact received.passed climbs passes other new
  few := by
    have few := bounded.few
    have weighs := @weight_passed _ _ rank top width copy sent narrow climbs
      passes
    rw [weight_eraseIdx found] at few
    have size : (copy.passed sent).length = sent.length := List.length_map _
    simp only [Air.pass, List.length_append, weight_append, size]
    omega

/-- A list of falling ranks is no longer than the ranks it runs through. -/
theorem length_le_of_descends
    {low : Nat} :
    ∀ {chain : List Node} {top : Nat},
      chain.Pairwise (fun above under => rank under < rank above) →
      (∀ node ∈ chain, low ≤ rank node ∧ rank node ≤ top) →
      chain.length ≤ top + 1 - low
  | [], _, _, _ => Nat.zero_le _
  | node :: rest, top, descends, between => by
      have head := between node List.mem_cons_self
      obtain ⟨lower, tail⟩ := List.pairwise_cons.mp descends
      have length := @length_le_of_descends low rest (rank node - 1) tail
        fun other member =>
          ⟨(between other (List.mem_cons_of_mem node member)).1,
            Nat.le_sub_one_of_lt (lower other member)⟩
      rw [List.length_cons]
      by_cases single : rest = []
      · subst single
        simp only [List.length_nil]
        omega
      · obtain ⟨other, member⟩ := List.exists_mem_of_ne_nil rest single
        have above := (between other (List.mem_cons_of_mem node member)).1
        have under := lower other member
        omega

/-- No more nodes passed a copy on than there are ranks to pass. -/
theorem Climbs.chain_length
    {first copy : Copy Node Packet} (climbed : Climbs rank top first copy) :
    copy.chain.length ≤ top := by
  have length := length_le_of_descends
    (List.pairwise_cons.mp climbed.descends).2 climbed.passers
  omega

/-- Finitely many copies, whatever order they are received in. -/
theorem Bounded.log_length
    {first : Copy Node Packet} {air : Air Node Packet}
    (bounded : Bounded rank top width first air) :
    air.log.length ≤ 1 + below width top :=
  Nat.le_trans (Nat.le_add_right _ _) bounded.few

end Ranks

end Flood
