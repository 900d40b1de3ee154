import BindingOperator.Proofs.Projection.Removal

/-!
Records that are kept as text in annotations. Whoever writes a record also says when it is
left out: a ledger or a table of owned variables when it is empty, and the ledger that a
removal leaves when no binding is projected any more as well. A record that was written is
read back, names of any characters included; one that was left out is read as its fallback;
and what was read, written once more, finds everything in place.
-/

namespace BindingOperator

/-- A kind of record, and when it is left out of the annotations that are there. -/
structure RecordKeeping (α : Type) where
  fallback : α
  ofText? : String → Option α
  toJson : α → Json
  omits : α → Table Json → Bool

namespace RecordKeeping

def ledger : RecordKeeping Ledger where
  fallback := {}
  ofText? := Ledger.ofText?
  toJson := Ledger.toJson
  omits ledger _ := ledger.isEmpty

/-- The ledger as a removal leaves it: it goes with the last projection. -/
def leftLedger : RecordKeeping Ledger where
  fallback := {}
  ofText? := Ledger.ofText?
  toJson := Ledger.toJson
  omits ledger annotations := !hasProjection annotations || ledger.isEmpty

def ownedEnv : RecordKeeping OwnedEnv where
  fallback := []
  ofText? := OwnedEnv.ofText?
  toJson := OwnedEnv.toJson
  omits owned _ := owned.isEmpty

variable {α : Type} (keeping : RecordKeeping α) (key : String)

def read (annotations : Table Json) : α :=
  readRecord keeping.fallback keeping.ofText? (Table.lookup key annotations)

def write (record : α) (annotations : Table Json) : Table Json :=
  writeRecord key (keeping.toJson record) (keeping.omits record annotations) annotations

/-- What the annotation of a written record holds. -/
def text? (record : α) (annotations : Table Json) : Option Json :=
  if keeping.omits record annotations then none else some (.string (keeping.toJson record).compact)

/-- A record that is written into annotations is read as `found` from then on. -/
structure Survives (record found : α) (annotations : Table Json) : Prop where
  stored : Table.lookup key (keeping.write key record annotations) =
    keeping.text? record annotations
  recovered : keeping.read key (keeping.write key record annotations) = found
  others : ∀ other, other ≠ key → Table.lookup other (keeping.write key record annotations) =
    Table.lookup other annotations
  settled : keeping.write key (keeping.read key (keeping.write key record annotations))
    (keeping.write key record annotations) = keeping.write key record annotations

section Surviving

variable {keeping key} {record found : α} {annotations : Table Json}

/-- It is enough that the text is read as the record, and that the record would be written as
the same text again. -/
theorem Survives.of_text (ordered : Table.Ordered annotations)
    (recovered : readRecord keeping.fallback keeping.ofText? (keeping.text? record annotations) =
      found)
    (again : keeping.text? found (keeping.write key record annotations) =
      keeping.text? record annotations) :
    keeping.Survives key record found annotations := by
  have looked : ∀ other, Table.lookup other (keeping.write key record annotations) =
      if other = key then keeping.text? record annotations else Table.lookup other annotations :=
    fun other => Table.lookup_assign key other _ annotations ordered
  have stored : Table.lookup key (keeping.write key record annotations) =
      keeping.text? record annotations := by
    rw [looked, if_pos rfl]
  have read : keeping.read key (keeping.write key record annotations) = found := by
    rw [RecordKeeping.read, stored, recovered]
  refine ⟨stored, read, fun other different => by rw [looked, if_neg different], ?_⟩
  rw [read]
  exact Table.assign_same key _ _ (Table.ordered_assign key _ annotations ordered)
    (stored.trans again.symm)

end Surviving

end RecordKeeping

section Keeping

variable (key : String) (annotations : Table Json)

/-- Writing an annotation takes no projection away, since the secret of none is erased. -/
theorem hasProjection_insert (value : Json) (ordered : Table.Ordered annotations)
    (projected : hasProjection annotations = true) :
    hasProjection (Table.insert key value annotations) = true := by
  obtain ⟨bound, present⟩ := (hasProjection_iff annotations ordered).mp projected
  refine (hasProjection_iff _ (Table.ordered_insert key value annotations ordered)).mpr ⟨bound, ?_⟩
  rw [Table.has, Table.lookup_insert]
  split
  · rfl
  · exact present

theorem survives_ledger (ledger : Ledger) (ascending : ledger.Ascending)
    (ordered : Table.Ordered annotations) :
    RecordKeeping.ledger.Survives key ledger ledger annotations :=
  .of_text ordered (readRecord_ledger ledger ascending) rfl

theorem survives_ownedEnv (owned : OwnedEnv) (ascending : OwnedEnv.Ascending owned)
    (ordered : Table.Ordered annotations) :
    RecordKeeping.ownedEnv.Survives key owned owned annotations :=
  .of_text ordered (readRecord_owned owned ascending) rfl

/-- A ledger that nobody needs any more is not there to be read. -/
theorem survives_leftLedger (ledger : Ledger) (ascending : ledger.Ascending)
    (ordered : Table.Ordered annotations) :
    RecordKeeping.leftLedger.Survives key ledger
      (if hasProjection annotations = true then ledger else {}) annotations := by
  cases projected : hasProjection annotations with
  | false =>
      have omitted : RecordKeeping.leftLedger.text? ledger annotations = none := by
        simp [RecordKeeping.text?, RecordKeeping.leftLedger, projected]
      refine .of_text ordered (by rw [omitted]; rfl) ?_
      rw [omitted]
      simp [RecordKeeping.text?, RecordKeeping.leftLedger, Ledger.isEmpty]
  | true =>
      have same : RecordKeeping.leftLedger.text? ledger annotations =
          RecordKeeping.ledger.text? ledger annotations := by
        unfold RecordKeeping.text?
        congr 1
        simp [RecordKeeping.leftLedger, RecordKeeping.ledger, projected]
      refine .of_text ordered (by rw [same]; exact readRecord_ledger ledger ascending) ?_
      -- an empty ledger is left out either way, and a full one keeps the projections there
      cases empty : ledger.isEmpty with
      | true => simp [RecordKeeping.text?, RecordKeeping.leftLedger, empty]
      | false =>
          have still := hasProjection_insert key annotations (.string ledger.toJson.compact) ordered
            projected
          simp [RecordKeeping.text?, RecordKeeping.leftLedger, RecordKeeping.write, writeRecord,
            Table.assign, empty, projected, still]

/-- Bookkeeping survives its annotation, whatever names it holds, whatever else is annotated
and whichever annotation it is kept in: it is read back, nothing else is touched, and what was
read is already written. Of the ledger that a removal leaves, this holds while a binding is
projected; without one nothing is left to be read. -/
theorem bookkeeping_survives (ordered : Table.Ordered annotations) :
    (∀ ledger : Ledger, ledger.Ascending →
      RecordKeeping.ledger.Survives key ledger ledger annotations ∧
      RecordKeeping.leftLedger.Survives key ledger
        (if hasProjection annotations = true then ledger else {}) annotations) ∧
    ∀ owned : OwnedEnv, OwnedEnv.Ascending owned →
      RecordKeeping.ownedEnv.Survives key owned owned annotations := by
  refine ⟨fun ledger ascending => ⟨?_, ?_⟩, fun owned ascending => ?_⟩
  · exact survives_ledger key annotations ledger ascending ordered
  · exact survives_leftLedger key annotations ledger ascending ordered
  · exact survives_ownedEnv key annotations owned ascending ordered

/-- A projection keeps its records in this way, and a removal what it leaves. -/
example (imprint : Imprint) (owned : OwnedEnv) (ledger : Ledger) :
    ∃ marked, markedAnnotations imprint owned ledger annotations =
      RecordKeeping.ledger.write ledgerAnnotation ledger
        (RecordKeeping.ownedEnv.write (annotationName "env" imprint.key) owned marked) := ⟨_, rfl⟩

example (ledger : Ledger) :
    ledgerOf (leftAnnotations key ledger annotations) =
      RecordKeeping.leftLedger.read ledgerAnnotation
        (RecordKeeping.leftLedger.write ledgerAnnotation ledger
          (eraseAnnotations key annotations)) := rfl

end Keeping

section Sample

/-- Names with nothing in them, a control character, a quote, a backslash and a letter that is
not of ASCII. -/
def oddLedger : Ledger where
  created := ["", "env:\x01", "env:\"quoted\\"]
  roots := ["größe"]

def oddOwned : OwnedEnv := [("", []), ("\x7f\n", ["", "A\tB", "Ü"])]

/-- One binding is projected, and somebody keeps an annotation that is no bookkeeping. -/
def oddAnnotations : Table Json :=
  [("owner", .null), ("projector.servicebinding.io/secret-u1", .string "db")]

theorem odd_bookkeeping_survives :
    RecordKeeping.leftLedger.read "note" (RecordKeeping.leftLedger.write "note" oddLedger
        oddAnnotations) = oddLedger ∧
      RecordKeeping.ownedEnv.read "owner" (RecordKeeping.ownedEnv.write "owner" oddOwned
        oddAnnotations) = oddOwned ∧
      oddLedger.toJson.compact =
        "\x7b\"created\":[\"\",\"env:\\u0001\",\"env:\\\"quoted\\\\\"],\"root\":[\"größe\"]\x7d" := by
  have ordered : Table.Ordered oddAnnotations :=
    ⟨show "owner" < "projector.servicebinding.io/secret-u1" by decide, trivial⟩
  have ledger : oddLedger.Ascending := by
    constructor <;> unfold NameSet.Ascending <;> decide
  have owned : OwnedEnv.Ascending oddOwned := by
    refine ⟨⟨show "" < "\x7f\n" by decide, trivial⟩, ?_⟩
    unfold NameSet.Ascending
    decide
  have projected : hasProjection oddAnnotations = true := by decide +kernel
  have left := ((bookkeeping_survives "note" oddAnnotations ordered).1 oddLedger ledger).2.recovered
  have kept := ((bookkeeping_survives "owner" oddAnnotations ordered).2 oddOwned owned).recovered
  rw [if_pos projected] at left
  exact ⟨left, kept, by decide +kernel⟩

end Sample

end BindingOperator
