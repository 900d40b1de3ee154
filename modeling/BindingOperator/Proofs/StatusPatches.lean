import BindingOperator.Api.Client
import BindingOperator.Json.Merge
import BindingOperator.Proofs.Projection.Fields

/-!
The patch that writes the status of a binding, and what a server makes of it. A merge patch
leaves what it does not name, so the patch names every field of a status: those that are not
set are null, and a null takes the stored value away. What is read back is the status that
was written, whatever was stored before.
-/

namespace BindingOperator

namespace Json

section Merging

/-- What a merge patch makes of one field: a null removes it. -/
def mergeField (stored : Option Json) : Json → Option Json
  | .null => none
  | change => some (merge (stored.getD .null) change)

/-- A table of changes is merged into the fields that are there, none where there is no table. -/
theorem mergeField_object (stored : Option Json) (changes : Table Json) :
    mergeField stored (.object changes) =
      some (.object (mergeFields ((stored.bind asObject?).getD []) changes)) := by
  cases stored <;> simp only [mergeField, merge] <;> rfl

theorem mergeFields_cons (fields : Table Json) (key : String) (change : Json)
    (rest : List (String × Json)) :
    mergeFields fields ((key, change) :: rest) =
      mergeFields (Table.assign key (mergeField (Table.lookup key fields) change) fields) rest := by
  cases change <;> rw [mergeFields] <;> simp [mergeField, Table.assign]

/-- A field that a patch names is merged, and every other one is what it was. -/
theorem lookup_mergeFields (fields : Table Json) (changes : Table Json) (key : String)
    (ordered : Table.Ordered fields) (distinct : (changes.map Prod.fst).Nodup) :
    Table.lookup key (mergeFields fields changes) =
      match Table.lookup key changes with
      | none => Table.lookup key fields
      | some change => mergeField (Table.lookup key fields) change := by
  induction changes generalizing fields with
  | nil => rw [mergeFields, Table.lookup_nil]
  | cons entry rest ih =>
      obtain ⟨name, change⟩ := entry
      obtain ⟨fresh, later⟩ := List.nodup_cons.mp distinct
      rw [mergeFields_cons, ih _ (Table.ordered_assign _ _ _ ordered) later,
        Table.lookup_assign _ _ _ _ ordered, Table.lookup_cons]
      by_cases same : name = key
      · subst same
        have gone : Table.lookup name rest = none := by
          rw [Option.eq_none_iff_forall_ne_some]
          intro other found
          exact fresh (List.mem_map.mpr ⟨_, Table.mem_of_lookup name other rest found, rfl⟩)
        rw [gone, if_pos rfl, if_pos rfl]
      · rw [if_neg same, if_neg (Ne.symm same)]

end Merging

end Json

section Decoding

/-- A moment that its own text is read as. -/
def Instant.Faithful (time : Instant) : Prop := Instant.parse? time.text = some time

namespace Json

theorem columns_record (names : List String) (fields : List (String × Option Json)) :
    (record fields).columns? names = some (names.map fun name =>
      fields.reverse.findSome? fun field => if field.1 = name then field.2 else none) := by
  simp only [← lookup_record]
  rfl

theorem listOf_map {α : Type} (decode : Json → Option α) (encode : α → Json) (items : List α)
    (each : ∀ item ∈ items, decode (encode item) = some item) :
    listOf? decode (.array (items.map encode)) = some items := by
  induction items with
  | nil => rfl
  | cons item rest ih =>
      obtain ⟨first, later⟩ := List.forall_mem_cons.mp each
      have decoded : (rest.map encode).mapM decode = some rest := ih later
      simp [listOf?, asArray?, List.mapM_cons, first, decoded]

end Json

namespace Condition

theorem ofText_text (status : ConditionStatus) :
    ConditionStatus.ofText? status.text = some status := by
  cases status <;> rfl

/-- The column of a time is read back where the time is faithful. -/
theorem optional_time (time : Option Instant) (faithful : ∀ known ∈ time, known.Faithful) :
    Json.optional Json.toInstant? (time.map fun known => .string known.text) = some time := by
  cases time with
  | none => rfl
  | some known =>
      have read : Json.toInstant? (.string known.text) = some known := by
        rw [Json.toInstant?, Json.asString?, Option.bind_some]
        exact faithful known rfl
      rw [Option.map_some, Json.optional, read, Option.map_some]
      simp

theorem columns_toJson (condition : Condition) :
    condition.toJson.columns? ["type", "status", "reason", "message", "lastTransitionTime"] =
      some [some (.string condition.type), some (.string condition.status.text),
        some (.string condition.reason), some (.string condition.message),
        condition.lastTransitionTime.map fun time => .string time.text] := by
  rw [toJson, Json.columns_record]
  cases condition.lastTransitionTime <;> simp

theorem ofJson_toJson (condition : Condition)
    (faithful : ∀ time ∈ condition.lastTransitionTime, time.Faithful) :
    ofJson? condition.toJson = some condition := by
  rw [ofJson?, columns_toJson]
  simp only [Option.bind_eq_bind, Option.bind_some, Json.required, Json.defaulted, Json.asString?,
    ConditionStatus.ofJson?, ofText_text, optional_time _ faithful, Option.pure_def]

end Condition

end Decoding

section Statuses

namespace BindingStatus

/-- A status that its text tells: a number of 64 bits, and times that are read back. -/
structure Faithful (status : BindingStatus) : Prop where
  generation : ∀ number ∈ status.observedGeneration, -(limit63 : Int) ≤ number ∧ number < limit63
  times : ∀ condition ∈ status.conditions, ∀ time ∈ condition.lastTransitionTime, time.Faithful

/-- The fields of a status as a patch writes them: none is left out. -/
def changes (status : BindingStatus) : Table Json :=
  [("binding", (status.secret.map secretToJson).getD .null),
    ("conditions", .array (status.conditions.map Condition.toJson)),
    ("observedGeneration", (status.observedGeneration.map Json.int).getD .null)]

/-- What a server stores when a status is written over other fields. -/
def writtenOver (status : BindingStatus) (stored : Table Json) : Table Json :=
  Json.mergeFields stored status.changes

variable (status : BindingStatus) (stored : Table Json) (ordered : Table.Ordered stored)
include ordered

theorem lookup_writtenOver (key : String) :
    Table.lookup key (status.writtenOver stored) =
      match Table.lookup key status.changes with
      | none => Table.lookup key stored
      | some change => Json.mergeField (Table.lookup key stored) change :=
  Json.lookup_mergeFields _ _ _ ordered (by simp [changes])

theorem generation_writtenOver : Table.lookup "observedGeneration" (status.writtenOver stored) =
    status.observedGeneration.map Json.int := by
  rw [lookup_writtenOver status stored ordered]
  cases generation : status.observedGeneration with
  | none => simp [changes, Table.lookup_cons, generation, Json.mergeField]
  | some number =>
      simp [changes, Table.lookup_cons, generation, Json.mergeField, Json.int, Json.merge]

theorem conditions_writtenOver : Table.lookup "conditions" (status.writtenOver stored) =
    some (.array (status.conditions.map Condition.toJson)) := by
  rw [lookup_writtenOver status stored ordered]
  simp [changes, Table.lookup_cons, Json.mergeField, Json.merge]

/-- A reference that was stored keeps fields of its own, but not the name. -/
theorem secret_writtenOver : Table.lookup "binding" (status.writtenOver stored) =
    status.secret.map fun name => .object (Json.mergeFields (fieldsOf "binding" stored)
      [("name", .string name)]) := by
  rw [lookup_writtenOver status stored ordered]
  cases secret : status.secret with
  | none => simp [changes, Table.lookup_cons, secret, Json.mergeField]
  | some name =>
      have change : Table.lookup "binding" status.changes =
          some (.object [("name", .string name)]) := by
        rw [changes, secret, Table.lookup_cons, if_pos rfl]
        rfl
      rw [change]
      exact Json.mergeField_object _ _

omit ordered in
/-- What is read back is the status that was written, whatever was stored. -/
theorem ofJson_writtenOver (canonical : Json.Canonical (.object stored))
    (faithful : status.Faithful) :
    ofJson? (.object (status.writtenOver stored)) = some status := by
  have ordered := Json.canonical_ordered _ canonical
  have columns : Json.columns? ["observedGeneration", "conditions", "binding"]
      (.object (status.writtenOver stored)) = some [status.observedGeneration.map Json.int,
        some (.array (status.conditions.map Condition.toJson)),
        status.secret.map fun name => .object (Json.mergeFields (fieldsOf "binding" stored)
          [("name", .string name)])] := by
    simp only [Json.columns?, List.map_cons, List.map_nil,
      generation_writtenOver status stored ordered, conditions_writtenOver status stored ordered,
      secret_writtenOver status stored ordered]
  have generation : Json.optional Json.toInt64? (status.observedGeneration.map Json.int) =
      some status.observedGeneration := by
    cases known : status.observedGeneration with
    | none => rfl
    | some number =>
        have fits := faithful.generation number known
        simp [Json.optional, Json.int, Json.toInt64?, Number.toInt64?, fits]
  have conditions : Json.listOf? Condition.ofJson?
      (.array (status.conditions.map Condition.toJson)) = some status.conditions :=
    Json.listOf_map _ _ _ fun condition member =>
      condition.ofJson_toJson (faithful.times condition member)
  have secret : Json.optional secretOfJson? (status.secret.map fun name => .object
      (Json.mergeFields (fieldsOf "binding" stored) [("name", .string name)])) =
        some status.secret := by
    cases status.secret with
    | none => rfl
    | some name =>
        have inner := Json.canonical_ordered _ (canonical_fieldsOf "binding" stored canonical)
        have named : Table.lookup "name" (Json.mergeFields (fieldsOf "binding" stored)
            [("name", .string name)]) = some (.string name) := by
          rw [Json.lookup_mergeFields _ _ _ inner (by simp)]
          simp [Table.lookup_cons, Json.mergeField, Json.merge]
        simp [Json.optional, secretOfJson?, Json.columns?, named, Json.required, Json.asString?]
  rw [ofJson?, columns]
  simp only [Option.bind_eq_bind, Option.bind_some, generation, conditions, secret, Json.defaulted,
    Option.pure_def]

end BindingStatus

end Statuses

section Patching

theorem statusPatch_eq (binding : Binding) :
    binding.statusPatch = .object [("metadata", .object [("resourceVersion",
      textOrNull binding.metadata.resourceVersion)]),
      ("status", .object binding.statusOrDefault.changes)] := by
  have outer : ¬ "status" < "metadata" := by decide
  have conditions : "conditions" < "observedGeneration" := by decide
  have first : "binding" < "conditions" := by decide
  simp [Binding.statusPatch, Json.record, Table.ofOptional, Table.ofEntries, Table.insert,
    BindingStatus.changes, outer, conditions, first]

theorem mergeField_textOrNull (stored : Option Json) (text : Option String) :
    Json.mergeField stored (textOrNull text) = text.map .string := by
  cases text with
  | none => rfl
  | some known => simp [textOrNull, Json.mergeField, Json.merge]

/-- The metadata of a document take the version of the binding, and nothing else changes. -/
theorem metadata_patched (binding : Binding) (metadata : Table Json) :
    Json.mergeFields metadata [("resourceVersion", textOrNull binding.metadata.resourceVersion)] =
      Table.assign "resourceVersion" (binding.metadata.resourceVersion.map .string) metadata := by
  rw [Json.mergeFields_cons, mergeField_textOrNull, Json.mergeFields]

/-- A status that is written as a merge patch replaces the one that is stored: it is read back
as it was written, what it does not have is gone, and of the rest of the document only the
version changes. -/
theorem status_patch_exact (binding : Binding) (fields metadata : Table Json)
    (canonical : Json.Canonical (.object fields))
    (present : Table.lookup "metadata" fields = some (.object metadata))
    (faithful : binding.statusOrDefault.Faithful) :
    ∃ status, Json.merge (.object fields) binding.statusPatch =
        .object (Table.insert "status" (.object status) (Table.insert "metadata"
          (.object (Table.assign "resourceVersion"
            (binding.metadata.resourceVersion.map .string) metadata)) fields)) ∧
      BindingStatus.ofJson? (.object status) = some binding.statusOrDefault ∧
      (binding.statusOrDefault.secret = none → Table.lookup "binding" status = none) ∧
      (binding.statusOrDefault.observedGeneration = none →
        Table.lookup "observedGeneration" status = none) := by
  have old := canonical_fieldsOf "status" fields canonical
  have inner := Json.canonical_ordered _ old
  refine ⟨binding.statusOrDefault.writtenOver (fieldsOf "status" fields), ?_,
    BindingStatus.ofJson_writtenOver _ _ old faithful, ?_, ?_⟩
  · have version : Json.mergeField (Table.lookup "metadata" fields) (.object [("resourceVersion",
        textOrNull binding.metadata.resourceVersion)]) = some (.object (Table.assign
          "resourceVersion" (binding.metadata.resourceVersion.map .string) metadata)) := by
      rw [Json.mergeField_object, present, ← metadata_patched]
      rfl
    rw [statusPatch_eq, Json.merge, Json.asObject?, Option.getD_some, Json.mergeFields_cons,
      version, Json.mergeFields_cons, Json.mergeFields, Table.assign,
      Table.lookup_insert_other _ _ _ _ (by decide), Json.mergeField_object]
    rfl
  · intro none
    rw [BindingStatus.secret_writtenOver _ _ inner, none]
    rfl
  · intro none
    rw [BindingStatus.generation_writtenOver _ _ inner, none]
    rfl

end Patching

section Sample

def patchedAt : Instant := ⟨1623760245, 0⟩

/-- A binding whose Secret is gone. -/
def secretlessBinding : Binding where
  metadata := { name := some "web-db", resourceVersion := some "7" }
  spec := {
    workload := { apiVersion := "apps/v1", kind := "Deployment", name := some "web" }
    service := { apiVersion := "v1", kind := "Secret", name := "db" } }
  status := some {
    observedGeneration := some 2
    conditions := [⟨ConditionType.ready, .unknown, Reason.initializing, "", some patchedAt⟩] }

/-- A document with a status of another shape and a Secret that is still stored. -/
def storedDocument : Table Json :=
  [("kind", .string "ServiceBinding"),
    ("metadata", .object [("name", .string "web-db"), ("resourceVersion", .string "6")]),
    ("status", .object [("binding", .object [("name", .string "db")]), ("conditions", .bool true),
      ("observedGeneration", .string "one"), ("phase", .string "Bound")])]

theorem canonical_storedDocument : Json.Canonical (.object storedDocument) := by
  have kind : "kind" < "metadata" := by decide
  have metadata : "metadata" < "status" := by decide
  have name : "name" < "resourceVersion" := by decide
  have binding : "binding" < "conditions" := by decide
  have conditions : "conditions" < "observedGeneration" := by decide
  have generation : "observedGeneration" < "phase" := by decide
  simp [storedDocument, Json.Canonical, Json.CanonicalFields, Table.Ordered, kind, metadata, name,
    binding, conditions, generation]

theorem faithful_patchedAt : patchedAt.Faithful := by
  unfold Instant.Faithful
  decide +kernel

/-- The Secret that was stored does not survive, nor does any value of another shape. -/
theorem secretless_status_patched :
    ∃ status, (Json.merge (.object storedDocument) secretlessBinding.statusPatch).field? "status" =
        some (.object status) ∧
      BindingStatus.ofJson? (.object status) = secretlessBinding.status ∧
      Table.lookup "binding" status = none := by
  obtain ⟨status, merged, read, cleared, -⟩ := status_patch_exact secretlessBinding storedDocument _
    canonical_storedDocument rfl (by
      constructor
      · intro number known
        obtain rfl := Option.some.inj known
        decide
      · intro condition member time known
        obtain rfl := List.mem_singleton.mp member
        obtain rfl := Option.some.inj known
        exact faithful_patchedAt)
  refine ⟨status, ?_, read, cleared rfl⟩
  rw [merged, Json.field?, Table.lookup_insert_same]

end Sample

end BindingOperator
