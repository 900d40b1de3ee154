import BindingOperator.Json.Reader

/-!
Records are read without the fields that they do not know. Whatever the reader accepts it can
also skip, with the same characters left, because it skips by form alone and as deep as the
text is long. So a text that can be read as a document is read as a record with the known
fields of that document, and what else the text holds does not matter.
-/

namespace BindingOperator.Json

/-- What a document is as a record: of an object the fields with the names alone. -/
def known (names : List String) : Json → Json
  | .object fields => .object (fields.filter fun field => names.contains field.1)
  | value => value

namespace Reader

variable {text rest : List Char}

section Strings

theorem skipString_plain (c : Char) (rest : List Char) (quote : c ≠ '"')
    (visible : ¬ (decide (c = '\\') || decide (c.toNat < 32)) = true) :
    skipString (c :: rest) = skipString rest := by
  rw [skipString.eq_def]
  split
  case h_5 same =>
    obtain ⟨rfl, rfl⟩ := List.cons.inj same
    rw [if_neg visible]
  all_goals simp_all

theorem skipString_escape (c : Char) (plain : Char) (rest : List Char)
    (escape : simpleEscape? c = some plain) :
    skipString ('\\' :: c :: rest) = skipString rest := by
  have simple : c ≠ 'u' := by
    rintro rfl
    simp [simpleEscape?] at escape
  rw [skipString.eq_def]
  split
  case h_5 opening same =>
    obtain ⟨rfl, rfl⟩ := List.cons.inj same
    exact absurd rfl (opening c rest rfl)
  all_goals simp_all

/-- The two halves of a character are skipped one after the other. -/
theorem skip_stringBody {read : List Char × List Char} (done : stringBody text = some read) :
    skipString text = some read.2 ∧ read.2.length ≤ text.length := by
  fun_induction stringBody text generalizing read with
  | case1 => simp at done
  | case2 rest =>
      obtain rfl := Option.some.inj done
      exact ⟨rfl, Nat.le_succ _⟩
  | case3 a b c d rest paired single =>
      obtain ⟨unit, digits, done⟩ := Option.bind_eq_some_iff.mp done
      have skipped : skipString ('\\' :: 'u' :: a :: b :: c :: d :: rest) = skipString rest := by
        simp [skipString, digits]
      rw [skipped]
      split at done
      · split at done
        · next e f g h rest =>
          obtain ⟨low, lower, done⟩ := Option.bind_eq_some_iff.mp done
          split at done
          · obtain ⟨body, inner, rfl⟩ := Option.map_eq_some_iff.mp done
            obtain ⟨passes, shorter⟩ := paired inner
            refine ⟨by simp [skipString, lower, passes], ?_⟩
            simp only [List.length_cons]
            omega
          · simp at done
        · simp at done
      · split at done
        · simp at done
        · obtain ⟨body, inner, rfl⟩ := Option.map_eq_some_iff.mp done
          obtain ⟨passes, shorter⟩ := single inner
          refine ⟨passes, ?_⟩
          simp only [List.length_cons]
          omega
  | case4 c rest _ ih =>
      obtain ⟨plain, escape, done⟩ := Option.bind_eq_some_iff.mp done
      obtain ⟨body, inner, rfl⟩ := Option.map_eq_some_iff.mp done
      obtain ⟨passes, shorter⟩ := ih inner
      rw [skipString_escape c plain rest escape]
      refine ⟨passes, ?_⟩
      simp only [List.length_cons]
      omega
  | case5 => simp at done
  | case6 c rest quote _ _ visible ih =>
      obtain ⟨body, inner, rfl⟩ := Option.map_eq_some_iff.mp done
      obtain ⟨passes, shorter⟩ := ih inner
      rw [skipString_plain c rest quote visible]
      exact ⟨passes, Nat.le_succ_of_le shorter⟩

end Strings

section Numbers

theorem length_digits (text : List Char) : (digits text).2.length ≤ text.length :=
  (List.dropWhile_suffix _).length_le

theorem length_decimals {read : Option (List Nat) × List Char} (done : decimals? text = some read) :
    read.2.length ≤ text.length := by
  unfold decimals? at done
  split at done
  · next rest =>
    have shorter := length_digits rest
    dsimp only at done
    split at done
    · simp at done
    · obtain rfl := Option.some.inj done
      exact Nat.le_succ_of_le shorter
  · obtain rfl := Option.some.inj done
    exact Nat.le_refl _

theorem length_powerDigits {down : Bool} {read : Option (Bool × List Nat) × List Char}
    (done : powerDigits? down text = some read) : read.2.length ≤ text.length := by
  have shorter := length_digits text
  unfold powerDigits? at done
  dsimp only at done
  split at done
  · simp at done
  · obtain rfl := Option.some.inj done
    exact shorter

theorem length_power {read : Option (Bool × List Nat) × List Char}
    (done : power? text = some read) : read.2.length ≤ text.length := by
  unfold power? at done
  split at done
  iterate 2
    · split at done
      all_goals
        have shorter := length_powerDigits done
        simp only [List.length_cons] at shorter ⊢
        omega
  · obtain rfl := Option.some.inj done
    exact Nat.le_refl _

theorem length_unsigned {read : Spelling × List Char} (done : unsigned? text = some read) :
    read.2.length ≤ text.length := by
  unfold unsigned? at done
  simp only [Option.bind_eq_bind, Option.pure_def] at done
  have whole := length_digits text
  split at done
  · simp at done
  · simp at done
  · obtain ⟨-, -, done⟩ := Option.bind_eq_some_iff.mp done
    obtain ⟨fraction, before, done⟩ := Option.bind_eq_some_iff.mp done
    obtain ⟨power, after, done⟩ := Option.bind_eq_some_iff.mp done
    obtain rfl := Option.some.inj done
    exact Nat.le_trans (length_power after) (Nat.le_trans (length_decimals before) whole)

theorem skip_signed {negative : Bool} {read : Number × List Char}
    (done : signed? negative text = some read) :
    (unsigned? text).map Prod.snd = some read.2 ∧ read.2.length ≤ text.length := by
  obtain ⟨spelled, form, done⟩ := Option.bind_eq_some_iff.mp done
  obtain ⟨number, -, rfl⟩ := Option.map_eq_some_iff.mp done
  exact ⟨by rw [form]; rfl, length_unsigned form⟩

theorem skip_number {read : Number × List Char} (done : number? text = some read) :
    skipNumber text = some read.2 ∧ read.2.length ≤ text.length := by
  unfold number? at done
  unfold skipNumber
  split at done
  · obtain ⟨passes, shorter⟩ := skip_signed done
    exact ⟨passes, Nat.le_succ_of_le shorter⟩
  · exact skip_signed done

end Numbers

section Values

theorem length_skipBlanks (text : List Char) : (skipBlanks text).length ≤ text.length :=
  (List.dropWhile_suffix _).length_le

theorem length_after {word : List Char} (found : after? word text = some rest) :
    rest.length ≤ text.length := by
  induction word generalizing text with
  | nil =>
      obtain rfl := Option.some.inj found
      exact Nat.le_refl _
  | cons expected word ih =>
      cases text with
      | nil => simp [after?] at found
      | cons c text =>
          rw [after?] at found
          split at found
          · exact Nat.le_succ_of_le (ih found)
          · simp at found

/-- Whatever the item reads can be skipped within the bound, and what is left is no longer. -/
def Skips {α β : Type} (bound : Nat) (item? : List Char → Option (α × List Char))
    (skip? : List Char → Option (β × List Char)) : Prop :=
  ∀ text read, item? text = some read → read.2.length ≤ text.length ∧
    (text.length ≤ bound → ∃ passed, skip? text = some (passed, read.2))

theorem skips_items {item? skip? : List Char → Option (Json × List Char)} {bound : Nat}
    (each : Skips bound item? skip?) (fuel : Nat) :
    Skips bound (items? item? fuel) (items? skip? fuel) := by
  induction fuel with
  | zero => intro text read done; simp [items?] at done
  | succ fuel ih =>
      intro text read done
      obtain ⟨first, here, done⟩ := Option.bind_eq_some_iff.mp done
      obtain ⟨shorter, passes⟩ := each _ _ here
      have blanks := length_skipBlanks text
      have after := length_skipBlanks first.2
      split at done
      · next rest left =>
        obtain ⟨more, later, rfl⟩ := Option.map_eq_some_iff.mp done
        obtain ⟨fewer, further⟩ := ih _ _ later
        rw [left, List.length_cons] at after
        refine ⟨by dsimp only; omega, fun within => ?_⟩
        obtain ⟨passed, skipped⟩ := passes (by omega)
        obtain ⟨others, rest⟩ := further (by omega)
        simp [items?, skipped, left, rest]
      · next rest left =>
        obtain rfl := Option.some.inj done
        rw [left, List.length_cons] at after
        refine ⟨by dsimp only; omega, fun within => ?_⟩
        obtain ⟨passed, skipped⟩ := passes (by omega)
        simp [items?, skipped, left]
      · simp at done

theorem skips_fields {α β : Type} {bound : Nat}
    {name? other? : List Char → Option (String × List Char)}
    {item? : List Char → Option (α × List Char)} {skip? : List Char → Option (β × List Char)}
    (names : Skips bound name? other?) (each : Skips bound item? skip?) (fuel : Nat) :
    Skips bound (fields? name? (fun _ => item?) fuel) (fields? other? (fun _ => skip?) fuel) := by
  induction fuel with
  | zero => intro text read done; simp [fields?] at done
  | succ fuel ih =>
      intro text read done
      obtain ⟨name, named, done⟩ := Option.bind_eq_some_iff.mp done
      obtain ⟨shortened, passName⟩ := names _ _ named
      have blanks := length_skipBlanks text
      have colon := length_skipBlanks name.2
      split at done
      · next valued fromColon =>
        obtain ⟨first, here, done⟩ := Option.bind_eq_some_iff.mp done
        obtain ⟨shorter, passes⟩ := each _ _ here
        have before := length_skipBlanks valued
        have after := length_skipBlanks first.2
        rw [fromColon, List.length_cons] at colon
        split at done
        · next rest left =>
          obtain ⟨more, later, rfl⟩ := Option.map_eq_some_iff.mp done
          obtain ⟨fewer, further⟩ := ih _ _ later
          rw [left, List.length_cons] at after
          refine ⟨by dsimp only; omega, fun within => ?_⟩
          obtain ⟨passedName, skippedName⟩ := passName (by omega)
          obtain ⟨passed, skipped⟩ := passes (by omega)
          obtain ⟨others, rest⟩ := further (by omega)
          simp [fields?, skippedName, fromColon, skipped, left, rest]
        · next rest left =>
          obtain rfl := Option.some.inj done
          rw [left, List.length_cons] at after
          refine ⟨by dsimp only; omega, fun within => ?_⟩
          obtain ⟨passedName, skippedName⟩ := passName (by omega)
          obtain ⟨passed, skipped⟩ := passes (by omega)
          simp [fields?, skippedName, fromColon, skipped, left]
        · simp at done
      · simp at done

theorem skips_quoted (bound : Nat) :
    Skips bound Literals.exact.quoted? Literals.skipped.quoted? := by
  intro text read done
  unfold Literals.quoted? at done
  split at done
  · obtain ⟨body, inner, rfl⟩ := Option.map_eq_some_iff.mp done
    obtain ⟨passes, shorter⟩ := skip_stringBody inner
    refine ⟨Nat.le_succ_of_le shorter, fun _ => ?_⟩
    simp [Literals.quoted?, Literals.skipped, passes]
  · simp at done

section Nested

variable {deeper bound : Nat}
  (each : ∀ bound, Skips bound (value? .exact deeper) (value? .skipped bound))
  {read : Json × List Char}

include each

theorem skips_list (done : value? .exact (deeper + 1) ('[' :: text) = some read) :
    read.2.length ≤ ('[' :: text).length ∧ (('[' :: text).length ≤ bound →
      ∃ passed, value? .skipped bound ('[' :: text) = some (passed, read.2)) := by
  have blanks := length_skipBlanks text
  simp only [value?] at done
  split at done
  · next rest closed =>
    obtain rfl := Option.some.inj done
    rw [closed, List.length_cons] at blanks
    refine ⟨by simp only [List.length_cons]; omega, fun within => ?_⟩
    obtain ⟨inner, rfl⟩ := Nat.exists_eq_add_one_of_ne_zero (Nat.ne_zero_of_lt within)
    exact ⟨.array [], by simp [value?, closed]⟩
  · next opened =>
    obtain ⟨items, inside, rfl⟩ := Option.map_eq_some_iff.mp done
    refine ⟨?_, fun within => ?_⟩
    · have shorter := (skips_items (each 0) _ _ _ inside).1
      exact Nat.le_succ_of_le (Nat.le_trans shorter blanks)
    · obtain ⟨inner, rfl⟩ := Nat.exists_eq_add_one_of_ne_zero (Nat.ne_zero_of_lt within)
      obtain ⟨passed, skipped⟩ := (skips_items (each inner) _ _ _ inside).2
        (Nat.le_trans blanks (Nat.le_of_succ_le_succ within))
      exact ⟨.array passed, by simp [value?, skipped]⟩

theorem skips_table (done : value? .exact (deeper + 1) ('\x7b' :: text) = some read) :
    read.2.length ≤ ('\x7b' :: text).length ∧ (('\x7b' :: text).length ≤ bound →
      ∃ passed, value? .skipped bound ('\x7b' :: text) = some (passed, read.2)) := by
  have blanks := length_skipBlanks text
  simp only [value?] at done
  split at done
  · next rest closed =>
    obtain rfl := Option.some.inj done
    rw [closed, List.length_cons] at blanks
    refine ⟨by simp only [List.length_cons]; omega, fun within => ?_⟩
    obtain ⟨inner, rfl⟩ := Nat.exists_eq_add_one_of_ne_zero (Nat.ne_zero_of_lt within)
    exact ⟨.object [], by simp [value?, closed]⟩
  · next opened =>
    obtain ⟨fields, inside, rfl⟩ := Option.map_eq_some_iff.mp done
    refine ⟨?_, fun within => ?_⟩
    · have shorter := (skips_fields (skips_quoted 0) (each 0) _ _ _ inside).1
      exact Nat.le_succ_of_le (Nat.le_trans shorter blanks)
    · obtain ⟨inner, rfl⟩ := Nat.exists_eq_add_one_of_ne_zero (Nat.ne_zero_of_lt within)
      obtain ⟨passed, skipped⟩ := (skips_fields (skips_quoted inner) (each inner) _ _ _ inside).2
        (Nat.le_trans blanks (Nat.le_of_succ_le_succ within))
      exact ⟨.object passed, by simp [value?, skipped]⟩

end Nested

/-- Whatever can be read can be skipped, as long as the bound is no less than its length. -/
theorem skips_value (levels bound : Nat) :
    Skips bound (value? .exact levels) (value? .skipped bound) := by
  induction levels using Nat.strongRecOn generalizing bound with
  | ind levels ih =>
      intro text read done
      have whole := done
      rw [value?.eq_def] at done
      dsimp only at done
      split at done
      iterate 3
        · obtain ⟨rest, word, rfl⟩ := Option.map_eq_some_iff.mp done
          exact ⟨Nat.le_succ_of_le (length_after word), fun _ => ⟨_, by simp [value?, word]; rfl⟩⟩
      · obtain ⟨body, inner, rfl⟩ := Option.map_eq_some_iff.mp done
        obtain ⟨passes, shorter⟩ := skip_stringBody inner
        refine ⟨Nat.le_succ_of_le shorter, fun _ => ⟨.string "", ?_⟩⟩
        simp [value?, Literals.skipped, passes]
      -- without levels left nothing that is nested can have been read
      · cases levels with
        | zero => simp at done
        | succ deeper => exact skips_list (ih deeper (Nat.lt_succ_self _)) whole
      · cases levels with
        | zero => simp at done
        | succ deeper => exact skips_table (ih deeper (Nat.lt_succ_self _)) whole
      · obtain ⟨number, form, rfl⟩ := Option.map_eq_some_iff.mp done
        obtain ⟨passes, shorter⟩ := skip_number form
        refine ⟨shorter, fun _ => ⟨.number (.int 0), ?_⟩⟩
        rw [value?.eq_def]
        split
        simp_all [Literals.skipped]

end Values

section Records

variable {names : List String}

theorem fields_map {α β : Type} {name? : List Char → Option (String × List Char)}
    {item? : String → List Char → Option (α × List Char)}
    {other? : String → List Char → Option (β × List Char)} (change : String → α → β)
    (each : ∀ name text read, item? name text = some read →
      other? name text = some (change name read.1, read.2)) (fuel : Nat)
    {read : List (String × α) × List Char} (done : fields? name? item? fuel text = some read) :
    fields? name? other? fuel text =
      some (read.1.map fun field => (field.1, change field.1 field.2), read.2) := by
  induction fuel generalizing text read with
  | zero => simp [fields?] at done
  | succ fuel ih =>
      obtain ⟨name, named, done⟩ := Option.bind_eq_some_iff.mp done
      split at done
      · next valued colon =>
        obtain ⟨first, here, done⟩ := Option.bind_eq_some_iff.mp done
        have changed := each _ _ _ here
        split at done
        · next rest left =>
          obtain ⟨more, later, rfl⟩ := Option.map_eq_some_iff.mp done
          simp [fields?, named, colon, changed, left, ih later]
        · next rest left =>
          obtain rfl := Option.some.inj done
          simp [fields?, named, colon, changed, left]
        · simp at done
      · simp at done

theorem known_value {levels : Nat} (name : String) {read : Json × List Char}
    (done : value? .exact levels text = some read) :
    known? names levels name text =
      some (if names.contains name then some read.1 else none, read.2) := by
  obtain ⟨-, passes⟩ := skips_value levels text.length text read done
  obtain ⟨passed, skipped⟩ := passes (Nat.le_refl _)
  unfold known?
  split
  · rw [done]
    rfl
  · rw [skipValue, skipped]
    rfl

theorem known_of_fields (fields : List (String × Json)) :
    ((fields.map fun field =>
        (field.1, if names.contains field.1 then some field.2 else none)).filterMap
      fun field => field.2.map fun value => (field.1, value)) =
    fields.filter fun field => names.contains field.1 := by
  induction fields with
  | nil => rfl
  | cons field rest ih =>
      rw [List.map_cons, List.filterMap_cons, ih]
      rw [List.filter_cons]
      cases names.contains field.1 <;> rfl

/-- Only a brace opens an object. -/
theorem known_unopened {levels : Nat} {read : Json × List Char}
    (done : value? .exact levels text = some read)
    (unopened : ∀ deeper rest, levels = deeper + 1 → text ≠ '\x7b' :: rest) :
    read.1.known names = read.1 := by
  rw [value?.eq_def] at done
  dsimp only at done
  split at done
  case h_5 =>
    split at done
    · simp at done
    · split at done
      · obtain rfl := Option.some.inj done
        rfl
      · obtain ⟨_, -, rfl⟩ := Option.map_eq_some_iff.mp done
        rfl
  case h_6 rest =>
    cases levels with
    | zero => simp at done
    | succ deeper => exact absurd rfl (unopened deeper rest rfl)
  all_goals
    obtain ⟨_, -, rfl⟩ := Option.map_eq_some_iff.mp done
    rfl

theorem record_value {levels : Nat} {read : Json × List Char}
    (done : value? .exact levels text = some read) :
    record? names levels text = some (read.1.known names, read.2) := by
  unfold record?
  split
  · next deeper text =>
    simp only [value?] at done
    split at done
    · next rest closed =>
      obtain rfl := Option.some.inj done
      rfl
    · next opened =>
      obtain ⟨fields, inner, rfl⟩ := Option.map_eq_some_iff.mp done
      have kept := fields_map (fun name value => if names.contains name then some value else none)
        (fun name _ _ => known_value name) _ inner
      simp only [kept, Option.map_some, known_of_fields]
      rfl
  · next unopened =>
    rw [known_unopened done fun deeper rest levels => ?_]
    · exact done
    · exact unopened deeper rest levels

end Records

end Reader

/-- The record that a text holds is read whatever its other fields are. -/
theorem rawRecord_raw (names : List String) {text : String} {value : Json}
    (read : raw? text = some value) : rawRecord? names text = some (value.known names) := by
  obtain ⟨first, found, rest⟩ := Option.bind_eq_some_iff.mp read
  rw [rawRecord?, whole?, Reader.record_value found, Option.bind_some]
  dsimp only at rest ⊢
  split at rest
  · next blank =>
    rw [if_pos blank, Option.some.inj rest]
  · simp at rest

/-- An unknown field need not even have a value: its number is out of range, and half of a
character stands alone in its text. -/
example : raw? "\x7b\"note\":[1e999,\"\\uD800\"],\"root\":[]\x7d" = none ∧
    rawRecord? ["root"] "\x7b\"note\":[1e999,\"\\uD800\"],\"root\":[]\x7d" =
      some (.object [("root", .array [])]) := by
  decide +kernel

end BindingOperator.Json
