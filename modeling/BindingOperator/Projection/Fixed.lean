import BindingOperator.Projection.Projector

/-!
Projectors with a fixed effect, for trying out a pass without pod templates: one that does
nothing, one that fails, and one that edits the metadata the same way each time.
-/

namespace BindingOperator.Projector

/-- Does the same whether it projects or removes. -/
def uniform (change : Object → Except Failure Object) : Projector :=
  ⟨fun _ => change, fun _ => change⟩

def idle : Projector := uniform .ok

/-- Fails on the workload of a name, or on every one; others go to the pod template. -/
def failing (message : String) (only : Option String) : Projector :=
  let fails (workload : Object) : Bool := only.all (workload.nameAny = ·)
  { project := fun binding workload =>
      if fails workload then .error (.projection workload.nameAny message)
      else PodTemplate.project binding workload
    unproject := fun binding workload =>
      if fails workload then .error (.projection workload.nameAny message)
      else PodTemplate.unproject binding workload }

def editing (change : Metadata → Metadata) : Projector :=
  uniform fun workload => .ok { workload with metadata := change workload.metadata }

def settingUid (uid : Option String) : Projector :=
  editing fun metadata => { metadata with uid }

def settingVersion (resourceVersion : Option String) : Projector :=
  editing fun metadata => { metadata with resourceVersion }

def settingLabel (key : String) (value : Option String) : Projector :=
  editing fun metadata =>
    { metadata with labels := some (Table.assign key value metadata.labelTable) }

end BindingOperator.Projector
