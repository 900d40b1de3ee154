import BindingOperator.Projection.Projector
import BindingOperator.Proofs.CompactText
import BindingOperator.Proofs.RecordTexts
import BindingOperator.Proofs.Tables

/-!
Bookkeeping survives its annotations. A ledger or a record of owned variables that is
written and read again is the same, provided its name sets are ascending and its table is
ordered, which reading always establishes: reading is the inverse of writing exactly on
what reading can produce.
-/

namespace BindingOperator

section Readings

theorem numberless_strings (names : List String) :
    Json.NumberlessItems (names.map .string) := by
  induction names with
  | nil => trivial
  | cons name rest ih => exact ⟨trivial, ih⟩

theorem depth_strings (names : List String) : Json.depthItems (names.map .string) = 0 := by
  induction names with
  | nil => rfl
  | cons name rest ih => simp [Json.depthItems, Json.depth, ih]

theorem nameSetOfJson_strings (names : NameSet) (ascending : NameSet.Ascending names) :
    nameSetOfJson? (Json.strings names) = some names := by
  have decoded : (names.map Json.string).mapM Json.asString? = some names := by
    induction names with
    | nil => rfl
    | cons name rest ih =>
        have tail := ih (List.pairwise_cons.mp ascending).2
        simp [Json.asString?, tail]
  simp [nameSetOfJson?, Json.stringList?, Json.listOf?, Json.strings, Json.asArray?, decoded,
    NameSet.ofNames_ascending names ascending]

theorem readRecord_text {α : Type} (fallback : α) {ofText? : String → Option α} {text : String}
    {record : α} (read : ofText? text = some record) :
    readRecord fallback ofText? (some (.string text)) = record := by
  simp [readRecord, Json.asString?, read]

theorem readRecord_none {α : Type} (fallback : α) (ofText? : String → Option α) :
    readRecord fallback ofText? none = fallback := rfl

end Readings

namespace Ledger

/-- Both sets of a ledger hold their names in ascending order. -/
structure Ascending (ledger : Ledger) : Prop where
  created : NameSet.Ascending ledger.created
  roots : NameSet.Ascending ledger.roots

theorem ascending_empty : Ascending {} := ⟨List.Pairwise.nil, List.Pairwise.nil⟩

theorem ext_mem (left right : Ledger) (leftAscending : left.Ascending)
    (rightAscending : right.Ascending)
    (created : ∀ marker, marker ∈ left.created ↔ marker ∈ right.created)
    (roots : ∀ name, name ∈ left.roots ↔ name ∈ right.roots) : left = right := by
  have sameCreated := NameSet.ext _ _ leftAscending.created rightAscending.created created
  have sameRoots := NameSet.ext _ _ leftAscending.roots rightAscending.roots roots
  cases left
  cases right
  simp only at sameCreated sameRoots
  rw [sameCreated, sameRoots]

theorem ascending_noteCreated (marker : String) (ledger : Ledger) (ascending : ledger.Ascending) :
    (ledger.noteCreated marker).Ascending :=
  ⟨NameSet.ascending_insert marker _ ascending.created, ascending.roots⟩

theorem ascending_noteRoot (name : String) (ledger : Ledger) (ascending : ledger.Ascending) :
    (ledger.noteRoot name).Ascending :=
  ⟨ascending.created, NameSet.ascending_insert name _ ascending.roots⟩

theorem defaulted_nonEmpty (names : NameSet) (ascending : NameSet.Ascending names) :
    Json.defaulted [] nameSetOfJson? (Json.nonEmpty (names.map .string)) = some names := by
  cases names with
  | nil => rfl
  | cons name rest => exact nameSetOfJson_strings (name :: rest) ascending

/-- The column of a set in a written ledger: nothing where the set is empty. -/
def column (field : String) (names : NameSet) : List (String × Json) :=
  if names.isEmpty then [] else [(field, Json.strings names)]

theorem toJson_columns (ledger : Ledger) :
    ledger.toJson = .object (column "created" ledger.created ++ column "root" ledger.roots) := by
  have order : ¬ "root" < "created" := by decide
  obtain ⟨created, roots⟩ := ledger
  cases created <;> cases roots <;>
    simp [toJson, column, Json.record, Json.nonEmpty, Json.strings, Table.ofOptional,
      Table.ofEntries, Table.insert, order]

theorem numberless_toJson (ledger : Ledger) : ledger.toJson.Numberless := by
  rw [toJson_columns]
  obtain ⟨created, roots⟩ := ledger
  cases created <;> cases roots <;>
    simp [column, Json.Numberless, Json.NumberlessFields, Json.strings, Json.NumberlessItems,
      numberless_strings]

theorem depth_toJson (ledger : Ledger) : ledger.toJson.depth ≤ 2 := by
  rw [toJson_columns]
  obtain ⟨created, roots⟩ := ledger
  cases created <;> cases roots <;>
    simp [column, Json.depth, Json.depthFields, Json.strings, Json.depthItems, depth_strings]

theorem columns_toJson (ledger : Ledger) : ledger.toJson.columns? fields =
    some [Json.nonEmpty (ledger.created.map .string), Json.nonEmpty (ledger.roots.map .string)] := by
  rw [toJson_columns]
  obtain ⟨created, roots⟩ := ledger
  cases created <;> cases roots <;> rfl

theorem unrepeated_toJson (ledger : Ledger) :
    ledger.toJson.repeatsField fields = false := by
  rw [toJson_columns]
  obtain ⟨created, roots⟩ := ledger
  cases created <;> cases roots <;> rfl

theorem ofJson_toJson (ledger : Ledger) (ascending : ledger.Ascending) :
    ofJson? ledger.toJson = some ledger := by
  have created := defaulted_nonEmpty ledger.created ascending.created
  have roots := defaulted_nonEmpty ledger.roots ascending.roots
  simp [ofJson?, unrepeated_toJson, columns_toJson, created, roots]

theorem known_toJson (ledger : Ledger) : ledger.toJson.known fields = ledger.toJson := by
  rw [toJson_columns]
  obtain ⟨created, roots⟩ := ledger
  cases created <;> cases roots <;> rfl

theorem ofText_compact (ledger : Ledger) (ascending : ledger.Ascending) :
    ofText? ledger.toJson.compact = some ledger := by
  have read := Json.raw_compact ledger.toJson ledger.numberless_toJson
    (le_trans ledger.depth_toJson (by decide))
  rw [ofText?, Json.rawRecord_raw fields read, known_toJson]
  exact ledger.ofJson_toJson ascending

theorem ascending_of_defaulted (column : Option Json) (names : NameSet)
    (read : Json.defaulted [] nameSetOfJson? column = some names) :
    NameSet.Ascending names := by
  cases column with
  | none =>
      simp only [Json.defaulted, Option.some.injEq] at read
      exact read ▸ List.Pairwise.nil
  | some value =>
      obtain ⟨written, -, same⟩ := Option.map_eq_some_iff.mp read
      exact same ▸ NameSet.ascending_ofNames written

theorem ascending_of_ofJson (value : Json) (ledger : Ledger) (read : ofJson? value = some ledger) :
    ledger.Ascending := by
  unfold ofJson? at read
  simp only [Option.bind_eq_bind, Option.pure_def] at read
  split at read
  · simp at read
  · obtain ⟨columns, -, read⟩ := Option.bind_eq_some_iff.mp read
    split at read
    · next created roots =>
      obtain ⟨createdNames, createdRead, read⟩ := Option.bind_eq_some_iff.mp read
      obtain ⟨rootNames, rootsRead, read⟩ := Option.bind_eq_some_iff.mp read
      rw [← Option.some.inj read]
      exact ⟨ascending_of_defaulted _ _ createdRead, ascending_of_defaulted _ _ rootsRead⟩
    · simp at read

theorem ascending_of_ofText {text : String} {ledger : Ledger} (read : ofText? text = some ledger) :
    ledger.Ascending := by
  obtain ⟨value, -, decoded⟩ := Option.bind_eq_some_iff.mp read
  exact ascending_of_ofJson value ledger decoded

end Ledger

/-- Whatever an annotation holds, the ledger read from it is ascending. -/
theorem ascending_ledgerOf (annotations : Table Json) : (ledgerOf annotations).Ascending := by
  unfold ledgerOf readRecord
  cases read : ((Table.lookup ledgerAnnotation annotations).bind Json.asString?).bind
      Ledger.ofText? with
  | none => exact Ledger.ascending_empty
  | some ledger =>
      obtain ⟨text, -, decoded⟩ := Option.bind_eq_some_iff.mp read
      exact Ledger.ascending_of_ofText decoded

theorem readRecord_ledger (ledger : Ledger) (ascending : ledger.Ascending) :
    readRecord {} Ledger.ofText? (if ledger.isEmpty then none
      else some (.string ledger.toJson.compact)) = ledger := by
  -- an empty ledger is not written at all, and reads back as the default
  by_cases empty : ledger.isEmpty = true
  · obtain ⟨created, roots⟩ := ledger
    simp only [Ledger.isEmpty, Bool.and_eq_true, List.isEmpty_iff] at empty
    simp [empty.1, empty.2, Ledger.isEmpty, readRecord_none]
  · rw [if_neg empty]
    exact readRecord_text {} (ledger.ofText_compact ascending)

namespace OwnedEnv

structure Ascending (owned : OwnedEnv) : Prop where
  ordered : Table.Ordered owned
  names : ∀ entry ∈ owned, NameSet.Ascending entry.2

theorem ascending_empty : Ascending [] := ⟨trivial, by simp⟩

theorem ascending_insert (name : String) (names : NameSet) (owned : OwnedEnv)
    (ascending : Ascending owned) (fresh : NameSet.Ascending names) :
    Ascending (Table.insert name names owned) := by
  refine ⟨Table.ordered_insert name names owned ascending.ordered, ?_⟩
  intro entry member
  rcases Table.mem_insert name names owned entry member with same | old
  · rw [same]; exact fresh
  · exact ascending.names entry old

theorem numberless_toJson (owned : OwnedEnv) : (toJson owned).Numberless := by
  suffices fields : Json.NumberlessFields
      (owned.map fun entry => (entry.1, Json.strings entry.2)) by exact fields
  induction owned with
  | nil => trivial
  | cons entry rest ih => exact ⟨numberless_strings entry.2, ih⟩

theorem depth_toJson (owned : OwnedEnv) : (toJson owned).depth ≤ 2 := by
  suffices fields : Json.depthFields
      (owned.map fun entry => (entry.1, Json.strings entry.2)) ≤ 1 by
    simpa [toJson, Json.depth] using fields
  induction owned with
  | nil => simp [Json.depthFields]
  | cons entry rest ih =>
      simpa [Json.depthFields, Json.strings, Json.depth, depth_strings] using ih

theorem ofJson_toJson (owned : OwnedEnv) (ascending : Ascending owned) :
    ofJson? (toJson owned) = some owned := by
  have decoded : (owned.map fun entry => (entry.1, Json.strings entry.2)).mapM
      (fun field => (nameSetOfJson? field.2).map fun names => (field.1, names)) = some owned := by
    have names := ascending.names
    clear ascending
    induction owned with
    | nil => rfl
    | cons entry rest ih =>
        have head := nameSetOfJson_strings entry.2 (names entry List.mem_cons_self)
        have tail := ih fun other member => names other (List.mem_cons_of_mem _ member)
        simp [head, tail]
  simp [ofJson?, toJson, Json.asObject?, decoded, Table.ofEntries_ordered owned ascending.ordered]

theorem ofText_compact (owned : OwnedEnv) (ascending : Ascending owned) :
    ofText? (toJson owned).compact = some owned := by
  rw [ofText?, Json.raw_compact _ (numberless_toJson owned)
    (le_trans (depth_toJson owned) (by decide))]
  exact ofJson_toJson owned ascending

end OwnedEnv

theorem readRecord_owned (owned : OwnedEnv) (ascending : OwnedEnv.Ascending owned) :
    readRecord [] OwnedEnv.ofText? (if owned.isEmpty then none
      else some (.string (OwnedEnv.toJson owned).compact)) = owned := by
  by_cases empty : owned.isEmpty = true
  · rw [List.isEmpty_iff] at empty
    simp [empty, readRecord_none]
  · rw [if_neg empty]
    exact readRecord_text [] (OwnedEnv.ofText_compact owned ascending)

end BindingOperator
