import BindingOperator.Proofs.StatusPatches

/-!
The forms in which the spec and the status of a binding can be written. A record is an
object, which leaves out what is not set, or an array of its columns in their order, which
leaves out nothing: an option that is not set is null there, and a list or a table without
entries is empty. The records inside may take either form, each on its own. Every form of a
record is read back as that record.
-/

namespace BindingOperator

namespace Json

/-- A column of a record as an object writes it, and what an array writes in its place where
an object leaves it out. -/
structure Column where
  name : String
  value : Option Json
  blank : Json := .null

namespace Column

def text (name content : String) : Column where
  name := name
  value := some (.string content)

def list (name : String) (items : List Json) : Column where
  name := name
  value := nonEmpty items
  blank := .array []

def inArray (column : Column) : Json := column.value.getD column.blank

/-- What is there of a column: in an array all of it. -/
def shown (array : Bool) (column : Column) : Option Json :=
  if array then some column.inArray else column.value

end Column

/-- The two forms of a record with the columns. -/
inductive Spells (columns : List Column) : Json → Prop where
  | object : Spells columns (record (columns.map fun column => (column.name, column.value)))
  | array : Spells columns (.array (columns.map Column.inArray))

section Columns

variable {columns : List Column} {value : Json}

/-- A column whose name occurs once is found under it. -/
theorem findSome_column (distinct : (columns.map Column.name).Nodup) (column : Column)
    (member : column ∈ columns) :
    ((columns.map fun column => (column.name, column.value)).reverse.findSome?
      fun field => if field.1 = column.name then field.2 else none) = column.value := by
  induction columns with
  | nil => cases member
  | cons first rest ih =>
      obtain ⟨fresh, later⟩ := List.nodup_cons.mp distinct
      rw [List.map_cons, List.reverse_cons, List.findSome?_append]
      rcases List.mem_cons.mp member with rfl | inside
      · have absent : ((rest.map fun column => (column.name, column.value)).reverse.findSome?
            fun field => if field.1 = column.name then field.2 else none) = none := by
          rw [List.findSome?_eq_none_iff]
          intro field present
          obtain ⟨other, known, rfl⟩ := List.mem_map.mp (List.mem_reverse.mp present)
          exact if_neg fun same => fresh (List.mem_map.mpr ⟨other, known, same⟩)
        simp [absent]
      · have different : first.name ≠ column.name := fun same =>
          fresh (same ▸ List.mem_map_of_mem inside)
        rw [ih later inside]
        simp [different]

/-- Either form shows every column. -/
theorem columns_spelled (spelled : Spells columns value)
    (distinct : (columns.map Column.name).Nodup) :
    ∃ array, value.columns? (columns.map Column.name) =
      some (columns.map (Column.shown array)) := by
  cases spelled with
  | object =>
      refine ⟨false, ?_⟩
      rw [columns_record, List.map_map]
      exact congrArg some (List.map_congr_left fun column member =>
        findSome_column distinct column member)
  | array =>
      refine ⟨true, ?_⟩
      simp [columns?, Column.shown, Function.comp_def]

end Columns

section Reading

variable {α : Type} {decode : Json → Option α} {Form : α → Json → Prop} (array : Bool)
  (name : String)

theorem shown_present (present blank : Json) :
    (Column.mk name (some present) blank).shown array = some present := by
  cases array <;> rfl

theorem shown_text (content : String) :
    (Column.text name content).shown array = some (.string content) :=
  shown_present array name _ _

/-- A decoder that refuses null reads an option that is not set in either form. -/
theorem optional_shown {known : Option α} {value : Option Json} (refuses : decode .null = none)
    (spelled : Option.Rel Form known value)
    (reads : ∀ {item form}, Form item form → decode form = some item) :
    optional decode ((Column.mk name value .null).shown array) = some known := by
  cases spelled with
  | none => cases array <;> rfl
  | @some item form same =>
      have found := reads same
      rw [shown_present]
      cases form with
      | null =>
          rw [refuses] at found
          cases found
      | _ => simp [optional, found]

theorem optional_text (content : Option String) :
    optional asString? ((Column.mk name (content.map .string) .null).shown array) =
      some content := by
  cases content with
  | none => cases array <;> rfl
  | some content => cases array <;> rfl

theorem listOf_forms {items : List α} {forms : List Json}
    (spelled : List.Forall₂ Form items forms)
    (reads : ∀ {item form}, Form item form → decode form = some item) :
    listOf? decode (.array forms) = some items := by
  induction spelled with
  | nil => rfl
  | @cons item form items forms first _ ih =>
      have rest : forms.mapM decode = some items := ih
      simp [listOf?, asArray?, List.mapM_cons, reads first, rest]

theorem defaulted_list {items : List α} {forms : List Json}
    (spelled : List.Forall₂ Form items forms)
    (reads : ∀ {item form}, Form item form → decode form = some item) :
    defaulted [] (listOf? decode) ((Column.list name forms).shown array) = some items := by
  cases spelled with
  | nil => cases array <;> rfl
  | cons first rest => cases array <;> exact listOf_forms (.cons first rest) reads

theorem stringTable_ofStringTable (table : Table String) :
    stringTable? (ofStringTable table) = some table := by
  suffices entries : (table.map fun entry => (entry.1, Json.string entry.2)).mapM
      (fun field => (asString? field.2).map fun value => (field.1, value)) = some table from entries
  induction table with
  | nil => rfl
  | cons entry rest ih =>
      rw [List.map_cons, List.mapM_cons, ih]
      rfl

theorem forall_encoded {encode : α → Json} (items : List α)
    (each : ∀ item, Form item (encode item)) : List.Forall₂ Form items (items.map encode) := by
  rw [List.forall₂_map_right_iff, List.forall₂_same]
  exact fun item _ => each item

theorem rel_encoded {encode : α → Json} (value : Option α)
    (each : ∀ item, Form item (encode item)) : Option.Rel Form value (value.map encode) := by
  cases value with
  | none => exact .none
  | some item => exact .some (each item)

end Reading

end Json

open Json (Column Spells)

section Selectors

namespace LabelExpression

def columns (expression : LabelExpression) : List Column :=
  [.text "key" expression.key, .text "operator" expression.operator,
    .list "values" (expression.values.map .string)]

def Form (expression : LabelExpression) (value : Json) : Prop := Spells expression.columns value

theorem form_toJson (expression : LabelExpression) : expression.Form expression.toJson := .object

theorem ofJson_form {expression : LabelExpression} {value : Json} (form : expression.Form value) :
    ofJson? value = some expression := by
  obtain ⟨array, shown⟩ := Json.columns_spelled form (by simp [columns, Column.text, Column.list])
  have texts : List.Forall₂ (fun text form => form = Json.string text) expression.values
      (expression.values.map .string) := Json.forall_encoded _ fun _ => rfl
  have values : Json.defaulted [] Json.stringList?
      ((Column.list "values" (expression.values.map .string)).shown array) =
        some expression.values :=
    Json.defaulted_list array _ texts fun same => by rw [same, Json.asString?]
  change value.columns? ["key", "operator", "values"] = _ at shown
  rw [ofJson?, shown]
  simp [columns, Json.shown_text, Json.required, Json.asString?, values]

end LabelExpression

namespace LabelSelector

def labelColumn (selector : LabelSelector) : Column where
  name := "matchLabels"
  value := if selector.matchLabels.isEmpty then none
    else some (Json.ofStringTable selector.matchLabels)
  blank := .object []

/-- The columns of a selector whose expressions are written in these forms. -/
def columns (selector : LabelSelector) (expressions : List Json) : List Column :=
  [selector.labelColumn, .list "matchExpressions" expressions]

def Form (selector : LabelSelector) (value : Json) : Prop :=
  ∃ expressions, List.Forall₂ LabelExpression.Form selector.matchExpressions expressions ∧
    Spells (selector.columns expressions) value

theorem form_toJson (selector : LabelSelector) : selector.Form selector.toJson :=
  ⟨_, Json.forall_encoded _ LabelExpression.form_toJson, .object⟩

theorem defaulted_labels (selector : LabelSelector) (array : Bool) :
    Json.defaulted [] Json.stringTable? (selector.labelColumn.shown array) =
      some selector.matchLabels := by
  cases labels : selector.matchLabels with
  | nil => cases array <;> simp [labelColumn, labels, Column.shown, Column.inArray] <;> rfl
  | cons label rest =>
      have present : selector.labelColumn.value = some (Json.ofStringTable (label :: rest)) := by
        simp [labelColumn, labels]
      have read := Json.stringTable_ofStringTable (label :: rest)
      cases array <;> simpa [Column.shown, Column.inArray, present, Json.defaulted] using read

theorem ofJson_form {selector : LabelSelector} {value : Json} (form : selector.Form value) :
    ofJson? value = some selector := by
  obtain ⟨expressions, inner, spelled⟩ := form
  obtain ⟨array, shown⟩ := Json.columns_spelled spelled
    (by simp [columns, labelColumn, Column.list])
  have read := Json.defaulted_list array "matchExpressions"
    inner LabelExpression.ofJson_form
  change value.columns? ["matchLabels", "matchExpressions"] = _ at shown
  rw [ofJson?, shown]
  simp [columns, defaulted_labels, read]

end LabelSelector

end Selectors

section References

namespace ServiceReference

def columns (service : ServiceReference) : List Column :=
  [.text "apiVersion" service.apiVersion, .text "kind" service.kind, .text "name" service.name]

def Form (service : ServiceReference) (value : Json) : Prop := Spells service.columns value

theorem form_toJson (service : ServiceReference) : service.Form service.toJson := .object

theorem ofJson_form {service : ServiceReference} {value : Json} (form : service.Form value) :
    ofJson? value = some service := by
  obtain ⟨array, shown⟩ := Json.columns_spelled form (by simp [columns, Column.text])
  change value.columns? ["apiVersion", "kind", "name"] = _ at shown
  rw [ofJson?, shown]
  simp [columns, Json.shown_text, Json.required, Json.asString?]

end ServiceReference

namespace WorkloadReference

/-- The columns of a reference whose selector is written in this form. -/
def columns (workload : WorkloadReference) (selector : Option Json) : List Column :=
  [.text "apiVersion" workload.apiVersion, .text "kind" workload.kind,
    { name := "name", value := workload.name.map .string },
    { name := "selector", value := selector }]

def Form (workload : WorkloadReference) (value : Json) : Prop :=
  ∃ selector, Option.Rel LabelSelector.Form workload.selector selector ∧
    Spells (workload.columns selector) value

theorem form_toJson (workload : WorkloadReference) : workload.Form workload.toJson :=
  ⟨_, Json.rel_encoded _ LabelSelector.form_toJson, .object⟩

theorem ofJson_form {workload : WorkloadReference} {value : Json} (form : workload.Form value) :
    ofJson? value = some workload := by
  obtain ⟨selector, inner, spelled⟩ := form
  obtain ⟨array, shown⟩ := Json.columns_spelled spelled (by simp [columns, Column.text])
  have read := Json.optional_shown array "selector" rfl inner LabelSelector.ofJson_form
  change value.columns? ["apiVersion", "kind", "name", "selector"] = _ at shown
  rw [ofJson?, shown]
  simp [columns, Json.shown_text, Json.required, Json.asString?, Json.optional_text, read]

end WorkloadReference

namespace EnvMapping

def columns (mapping : EnvMapping) : List Column :=
  [.text "name" mapping.name, .text "key" mapping.key]

def Form (mapping : EnvMapping) (value : Json) : Prop := Spells mapping.columns value

theorem form_toJson (mapping : EnvMapping) : mapping.Form mapping.toJson := .object

theorem ofJson_form {mapping : EnvMapping} {value : Json} (form : mapping.Form value) :
    ofJson? value = some mapping := by
  obtain ⟨array, shown⟩ := Json.columns_spelled form (by simp [columns, Column.text])
  change value.columns? ["name", "key"] = _ at shown
  rw [ofJson?, shown]
  simp [columns, Json.shown_text, Json.required, Json.asString?]

end EnvMapping

end References

section Specs

namespace BindingSpec

/-- The columns of a spec whose references and mappings are written in these forms. -/
def columns (spec : BindingSpec) (workload service : Json) (env : List Json) : List Column :=
  [{ name := "name", value := spec.name.map .string },
    { name := "type", value := spec.type.map .string },
    { name := "provider", value := spec.provider.map .string },
    { name := "workload", value := some workload }, { name := "service", value := some service },
    .list "env" env]

def Form (spec : BindingSpec) (value : Json) : Prop :=
  ∃ workload service env, spec.workload.Form workload ∧ spec.service.Form service ∧
    List.Forall₂ EnvMapping.Form spec.env env ∧ Spells (spec.columns workload service env) value

theorem form_toJson (spec : BindingSpec) : spec.Form spec.toJson :=
  ⟨_, _, _, spec.workload.form_toJson, spec.service.form_toJson,
    Json.forall_encoded _ EnvMapping.form_toJson, .object⟩

theorem ofJson_form {spec : BindingSpec} {value : Json} (form : spec.Form value) :
    ofJson? value = some spec := by
  obtain ⟨workload, service, env, workloadForm, serviceForm, envForm, spelled⟩ := form
  obtain ⟨array, shown⟩ := Json.columns_spelled spelled (by simp [columns, Column.list])
  have mappings := Json.defaulted_list array "env" envForm EnvMapping.ofJson_form
  change value.columns? ["name", "type", "provider", "workload", "service", "env"] = _ at shown
  rw [ofJson?, shown]
  simp [columns, Json.optional_text, Json.shown_present, Json.required,
    WorkloadReference.ofJson_form workloadForm, ServiceReference.ofJson_form serviceForm, mappings]

end BindingSpec

end Specs

section Statuses

namespace Condition

def columns (condition : Condition) : List Column :=
  [.text "type" condition.type, .text "status" condition.status.text,
    .text "reason" condition.reason, .text "message" condition.message,
    { name := "lastTransitionTime"
      value := condition.lastTransitionTime.map fun time => .string time.text }]

def Form (condition : Condition) (value : Json) : Prop := Spells condition.columns value

theorem form_toJson (condition : Condition) : condition.Form condition.toJson := .object

theorem ofJson_form {condition : Condition} {value : Json} (form : condition.Form value)
    (faithful : ∀ time ∈ condition.lastTransitionTime, time.Faithful) :
    ofJson? value = some condition := by
  obtain ⟨array, shown⟩ := Json.columns_spelled form (by simp [columns, Column.text])
  have time : Json.optional Json.toInstant? ((Column.mk "lastTransitionTime"
      (condition.lastTransitionTime.map fun time => .string time.text) .null).shown array) =
        some condition.lastTransitionTime := by
    cases known : condition.lastTransitionTime with
    | none => cases array <;> rfl
    | some time =>
        rw [Option.map_some, Json.shown_present]
        exact optional_time (some time) (known ▸ faithful)
  change value.columns? ["type", "status", "reason", "message", "lastTransitionTime"] = _ at shown
  rw [ofJson?, shown]
  simp [columns, Json.shown_text, Json.required, Json.defaulted, Json.asString?,
    ConditionStatus.ofJson?, ofText_text, time]

end Condition

namespace BindingStatus

def SecretForm (name : String) (value : Json) : Prop := Spells [.text "name" name] value

theorem secretOfJson_form {name : String} {value : Json} (form : SecretForm name value) :
    secretOfJson? value = some name := by
  obtain ⟨array, shown⟩ := Json.columns_spelled form (by simp)
  change value.columns? ["name"] = _ at shown
  rw [secretOfJson?, shown]
  simp [Json.shown_text, Json.required, Json.asString?]

/-- The columns of a status whose conditions and reference are written in these forms. -/
def columns (status : BindingStatus) (conditions : List Json) (secret : Option Json) :
    List Column :=
  [{ name := "observedGeneration", value := status.observedGeneration.map Json.int },
    .list "conditions" conditions, { name := "binding", value := secret }]

def Form (status : BindingStatus) (value : Json) : Prop :=
  ∃ conditions secret, List.Forall₂ Condition.Form status.conditions conditions ∧
    Option.Rel SecretForm status.secret secret ∧ Spells (status.columns conditions secret) value

theorem form_toJson (status : BindingStatus) : status.Form status.toJson :=
  ⟨_, _, Json.forall_encoded _ Condition.form_toJson,
    Json.rel_encoded _ fun _ => .object, .object⟩

theorem ofJson_form {status : BindingStatus} {value : Json} (form : status.Form value)
    (faithful : status.Faithful) : ofJson? value = some status := by
  obtain ⟨conditions, secret, conditionForms, secretForm, spelled⟩ := form
  obtain ⟨array, shown⟩ := Json.columns_spelled spelled (by simp [columns, Column.list])
  have generation : Json.optional Json.toInt64? ((Column.mk "observedGeneration"
      (status.observedGeneration.map Json.int) .null).shown array) =
        some status.observedGeneration := by
    cases known : status.observedGeneration with
    | none => cases array <;> rfl
    | some number =>
        have fits := faithful.generation number known
        rw [Option.map_some, Json.shown_present]
        simp [Json.optional, Json.int, Json.toInt64?, Number.toInt64?, fits]
  have reported := Json.defaulted_list array "conditions"
    ((List.forall₂_and_left _ _).mpr ⟨faithful.times, conditionForms⟩)
    fun both => Condition.ofJson_form both.2 both.1
  have reference := Json.optional_shown array "binding" rfl secretForm secretOfJson_form
  change value.columns? ["observedGeneration", "conditions", "binding"] = _ at shown
  rw [ofJson?, shown]
  simp [columns, generation, reported, reference]

end BindingStatus

end Statuses

/-- Spec and status survive their encoding, and so does every other form of them: objects and
arrays of all columns, mixed in any way. Of a status this takes a generation of 64 bits and
times that their own text is read as. -/
theorem resource_forms_read_back :
    (∀ spec : BindingSpec, BindingSpec.ofJson? spec.toJson = some spec ∧
      ∀ value, spec.Form value → BindingSpec.ofJson? value = some spec) ∧
    ∀ status : BindingStatus, status.Faithful →
      BindingStatus.ofJson? status.toJson = some status ∧
      ∀ value, status.Form value → BindingStatus.ofJson? value = some status := by
  refine ⟨fun spec => ⟨?_, fun value form => ?_⟩, fun status faithful => ⟨?_, fun value form => ?_⟩⟩
  · exact BindingSpec.ofJson_form spec.form_toJson
  · exact BindingSpec.ofJson_form form
  · exact BindingStatus.ofJson_form status.form_toJson faithful
  · exact BindingStatus.ofJson_form form faithful

section Sample

/-- Texts and a selector that are there and empty. -/
def sparseSpec : BindingSpec where
  name := some ""
  provider := some ""
  workload := {
    apiVersion := "apps/v1"
    kind := "Deployment"
    selector := some { matchExpressions := [⟨"tier", "Exists", []⟩] } }
  service := { apiVersion := "v1", kind := "Secret", name := "" }
  env := [⟨"URL", ""⟩]

/-- An array that holds an array with an object in it, and an object. -/
def mixedSpec : Json :=
  .array [.string "", .null, .string "",
    .array [.string "apps/v1", .string "Deployment", .null,
      .object [("matchExpressions",
        .array [.array [.string "tier", .string "Exists", .array []]])]],
    .object [("apiVersion", .string "v1"), ("kind", .string "Secret"), ("name", .string "")],
    .array [.array [.string "URL", .string ""]]]

theorem form_mixedSpec : sparseSpec.Form mixedSpec := by
  refine ⟨_, _, _, ⟨_, .some ⟨_, .cons .array .nil, .object⟩, .array⟩,
    sparseSpec.service.form_toJson, .cons .array .nil, ?_⟩
  exact .array

def unreadyCondition : Condition :=
  ⟨ConditionType.ready, .false, "", "", some patchedAt⟩

/-- The lowest generation that there is, and one condition with a time and one without. -/
def extremeStatus : BindingStatus where
  observedGeneration := some (-9223372036854775808)
  conditions := [unreadyCondition, ⟨"", .unknown, Reason.initializing, "", none⟩]
  secret := some ""

def mixedStatus : Json :=
  .array [Json.int (-9223372036854775808),
    .array [.object [("lastTransitionTime", .string "2021-06-15T12:30:45Z"),
        ("message", .string ""), ("reason", .string ""), ("status", .string "False"), ("type", .string "Ready")],
      .array [.string "", .string "Unknown", .string "Initializing", .string "", .null]],
    .array [.string ""]]

theorem faithful_extremeStatus : extremeStatus.Faithful := by
  constructor
  · intro number known
    obtain rfl := Option.some.inj known
    decide
  · intro condition member time known
    rcases List.mem_cons.mp member with rfl | last
    · obtain rfl := Option.some.inj known
      exact faithful_patchedAt
    · obtain rfl := List.mem_singleton.mp last
      cases known

theorem form_mixedStatus : extremeStatus.Form mixedStatus := by
  have written : unreadyCondition.toJson = .object [
      ("lastTransitionTime", .string "2021-06-15T12:30:45Z"), ("message", .string ""),
      ("reason", .string ""), ("status", .string "False"), ("type", .string "Ready")] := by
    decide +kernel
  refine ⟨_, _, .cons ?_ (.cons .array .nil), .some .array, .array⟩
  exact written ▸ unreadyCondition.form_toJson

theorem mixed_forms_read_back :
    BindingSpec.ofJson? mixedSpec = some sparseSpec ∧ extremeStatus.Faithful ∧
      BindingStatus.ofJson? extremeStatus.toJson = some extremeStatus ∧
      BindingStatus.ofJson? mixedStatus = some extremeStatus := by
  obtain ⟨specs, statuses⟩ := resource_forms_read_back
  obtain ⟨encoded, formed⟩ := statuses extremeStatus faithful_extremeStatus
  exact ⟨(specs sparseSpec).2 _ form_mixedSpec, faithful_extremeStatus, encoded,
    formed _ form_mixedStatus⟩

end Sample

end BindingOperator
