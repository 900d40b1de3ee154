import BindingOperator.Binding

/-!
The kinds that bindings mention, each once, in the order of first sight. Workloads are
always intercepted; a service is, unless the binding names its Secret directly.
-/

namespace BindingOperator

abbrev ObservedKinds := List GroupVersionKind

namespace ObservedKinds

/-- Adds a kind that was not seen before at the end. -/
def insert (kinds : ObservedKinds) (kind : GroupVersionKind) : ObservedKinds :=
  if kinds.contains kind then kinds else kinds ++ [kind]

def observe (kinds : ObservedKinds) (more : List GroupVersionKind) : ObservedKinds :=
  more.foldl insert kinds

def observeWorkloads (bindings : List Binding) (kinds : ObservedKinds) : ObservedKinds :=
  kinds.observe (bindings.map fun binding => binding.spec.workload.kindOf)

def observeServices (bindings : List Binding) (kinds : ObservedKinds) : ObservedKinds :=
  kinds.observe ((bindings.filter fun binding => !binding.spec.service.isDirectSecret).map
    fun binding => binding.spec.service.kindOf)

/-- What the projector intercepts: workloads. -/
def forProjector (bindings : List Binding) : ObservedKinds :=
  observeWorkloads bindings []

/-- What the trigger intercepts: workloads, then services. -/
def forTrigger (bindings : List Binding) : ObservedKinds :=
  observeServices bindings (observeWorkloads bindings [])

theorem mem_insert (kinds : ObservedKinds) (kind other : GroupVersionKind) :
    other ∈ kinds.insert kind ↔ other ∈ kinds ∨ other = kind := by
  by_cases seen : kind ∈ kinds
  · simp only [insert, List.contains_iff_mem, seen, ↓reduceIte]
    constructor
    · exact .inl
    · rintro (present | rfl)
      · exact present
      · exact seen
  · simp [insert, seen]

theorem nodup_insert (kinds : ObservedKinds) (kind : GroupVersionKind) (distinct : kinds.Nodup) :
    (kinds.insert kind).Nodup := by
  by_cases seen : kind ∈ kinds
  · simpa [insert, seen] using distinct
  · simp only [insert, List.contains_iff_mem, seen, ↓reduceIte]
    rw [List.nodup_append]
    refine ⟨distinct, by simp, ?_⟩
    intro one first another second same
    simp only [List.mem_singleton] at second
    exact seen (second ▸ same ▸ first)

end ObservedKinds

end BindingOperator
