import DectMesh.Config.Destinations

/-!
# What a plane puts out

Besides answers, chunks, questions for a route and lines, which end with the
receiver, a plane puts out the packets that carry a report, a blob or a
configuration on.  `Io.Emits` says which of the latter an operation adds.
-/

namespace DectMesh

namespace Io

variable {io io' io'' : Io} {allowed wider : Action → Prop}

/-- What was added is passed on nowhere, or allowed. -/
def Emits (allowed : Action → Prop) (io io' : Io) : Prop :=
  ∀ action ∈ io'.out,
    action ∈ io.out ∨ action.routedTo = none ∨ allowed action

theorem Emits.of_out (same : io'.out = io.out) : Emits allowed io io' :=
  fun _ sent => .inl (same ▸ sent)

theorem Emits.refl (io : Io) : Emits allowed io io := .of_out rfl

theorem Emits.trans (first : Emits allowed io io')
    (second : Emits allowed io' io'') : Emits allowed io io'' := by
  intro action sent
  rcases second action sent with before | new
  · exact first action before
  · exact .inr new

theorem Emits.mono (emits : Emits allowed io io')
    (implies : ∀ action, allowed action → wider action) :
    Emits wider io io' := by
  intro action sent
  exact (emits action sent).imp id (Or.imp id (implies action))

theorem Emits.put {action : Action}
    (new : action.routedTo = none ∨ allowed action) :
    Emits allowed io (io.put action) := by
  intro other sent
  rcases List.mem_append.mp sent with before | added
  · exact .inl before
  · cases List.mem_singleton.mp added
    exact .inr new

/-- Where nothing is passed on, nothing else needs a reason. -/
theorem Emits.of_routed (silent : io.out = [])
    (same : io'.routed = io.routed) : Emits allowed io io' := by
  intro action sent
  have nothing : io'.routed = [] := by
    rw [same, routed, silent]
    rfl
  exact .inr (.inl (List.filterMap_eq_nil_iff.mp nothing action sent))

end Io

end DectMesh
