import BindingOperator.Json.Reader
import BindingOperator.Json.Printer

/-!
The compact text of a document reads back as that document, fields in the order they were
written. Numbers are left out: bookkeeping holds texts, lists and tables only. The reader
bounds nesting, so the depth of the document must stay below the bound.
-/

namespace BindingOperator.Json

mutual

/-- Documents in which no number occurs. -/
def Numberless : Json → Prop
  | .number _ => False
  | .array items => NumberlessItems items
  | .object fields => NumberlessFields fields
  | _ => True

def NumberlessItems : List Json → Prop
  | [] => True
  | item :: rest => Numberless item ∧ NumberlessItems rest

def NumberlessFields : List (String × Json) → Prop
  | [] => True
  | (_, value) :: rest => Numberless value ∧ NumberlessFields rest

end

mutual

/-- Levels of nesting: a text has none, a list one more than its deepest item. -/
def depth : Json → Nat
  | .array items => depthItems items + 1
  | .object fields => depthFields fields + 1
  | _ => 0

def depthItems : List Json → Nat
  | [] => 0
  | item :: rest => max (depth item) (depthItems rest)

def depthFields : List (String × Json) → Nat
  | [] => 0
  | (_, value) :: rest => max (depth value) (depthFields rest)

end

namespace Reader

section Texts

theorem fourHex_control :
    ∀ code, code < 32 → fourHex? '0' '0' (lowerHex (code / 16)) (lowerHex (code % 16)) = some code := by
  decide

theorem stringBody_plain (c : Char) (rest : List Char) (quote : c ≠ '"') (escape : c ≠ '\\')
    (visible : ¬ c.toNat < 32) :
    stringBody (c :: rest) = (stringBody rest).map fun read => (c :: read.1, read.2) := by
  rw [stringBody.eq_def]
  split
  case h_5 same =>
    obtain ⟨rfl, rfl⟩ := List.cons.inj same
    simp [escape, visible]
  all_goals simp_all

theorem stringBody_control (code : Nat) (rest : List Char) (control : code < 32) :
    stringBody ('\\' :: 'u' :: '0' :: '0' :: lowerHex (code / 16) :: lowerHex (code % 16) :: rest) =
      (stringBody rest).map fun read => (Char.ofNat code :: read.1, read.2) := by
  have high : isHighHalf code = false := by simp [isHighHalf]; omega
  have low : isLowHalf code = false := by simp [isLowHalf]; omega
  rw [stringBody, fourHex_control code control]
  simp [high, low]

theorem stringBody_escape (c : Char) (rest : List Char) :
    stringBody (escapeChar c ++ rest) =
      (stringBody rest).map fun read => (c :: read.1, read.2) := by
  unfold escapeChar
  split
  all_goals try simp [stringBody, simpleEscape?]
  next quote escape _ _ _ _ _ =>
    by_cases control : c.toNat < 32
    · simpa [control] using stringBody_control c.toNat rest control
    · simpa [control] using stringBody_plain c rest quote escape control

theorem stringBody_escapes (text rest : List Char) :
    stringBody (text.flatMap escapeChar ++ '"' :: rest) = some (text, rest) := by
  induction text with
  | nil => simp [stringBody]
  | cons c text ih =>
      rw [List.flatMap_cons, List.append_assoc, stringBody_escape, ih]
      rfl

theorem quoted_quote (text : String) (rest : List Char) :
    Literals.exact.quoted? (quote text ++ rest) = some (text, rest) := by
  simp [quote, Literals.quoted?, Literals.exact, stringBody_escapes]

end Texts

section Documents

/-- A document starts with a character that is no blank and closes no list. -/
theorem print_head (value : Json) (numberless : value.Numberless) :
    ∃ c tail, print value = c :: tail ∧ isBlank c = false ∧ c ≠ ']' ∧ c ≠ '\x7d' := by
  cases value with
  | number value => exact numberless.elim
  | null => exact ⟨'n', _, rfl, rfl, by decide, by decide⟩
  | bool value =>
      cases value
      · exact ⟨'f', _, rfl, rfl, by decide, by decide⟩
      · exact ⟨'t', _, rfl, rfl, by decide, by decide⟩
  | string text => exact ⟨'"', _, rfl, rfl, by decide, by decide⟩
  | array items => cases items <;> exact ⟨'[', _, rfl, rfl, by decide, by decide⟩
  | object fields =>
      cases fields with
      | nil => exact ⟨'\x7b', _, rfl, rfl, by decide, by decide⟩
      | cons field rest => exact ⟨'\x7b', _, rfl, rfl, by decide, by decide⟩

theorem skipBlanks_cons (c : Char) (rest : List Char) (visible : isBlank c = false) :
    skipBlanks (c :: rest) = c :: rest := by
  simp [skipBlanks, visible]

theorem skipBlanks_print (value : Json) (numberless : value.Numberless) (rest : List Char) :
    skipBlanks (print value ++ rest) = print value ++ rest := by
  obtain ⟨c, tail, head, visible, -⟩ := print_head value numberless
  rw [head, List.cons_append, skipBlanks_cons c _ visible]

theorem skipBlanks_quote (text : String) (rest : List Char) :
    skipBlanks (quote text ++ rest) = quote text ++ rest := by
  simp [quote, skipBlanks_cons _ _ (show isBlank '"' = false from rfl)]

theorem length_printItems (items : List Json) (rest : List Char) :
    items.length < (printItems items ++ rest).length := by
  induction items with
  | nil => simp [printItems]
  | cons item more ih =>
      simp only [printItems, List.cons_append, List.append_assoc, List.length_cons,
        List.length_append] at ih ⊢
      omega

theorem length_printFields (fields : List (String × Json)) (rest : List Char) :
    fields.length < (printFields fields ++ rest).length := by
  induction fields with
  | nil => simp [printFields]
  | cons field more ih =>
      obtain ⟨key, value⟩ := field
      simp only [printFields, List.cons_append, List.append_assoc, List.length_cons,
        List.length_append] at ih ⊢
      omega

theorem value_list (levels : Nat) (c : Char) (text : List Char) (visible : isBlank c = false)
    (inside : c ≠ ']') :
    value? .exact (levels + 1) ('[' :: c :: text) =
      (items? (value? .exact levels) (c :: text).length (c :: text)).map fun read =>
        (.array read.1, read.2) := by
  simp only [value?, skipBlanks_cons c text visible]
  split
  · next closed => exact absurd (List.cons.inj closed).1 inside
  · rfl

theorem value_table (levels : Nat) (c : Char) (text : List Char) (visible : isBlank c = false)
    (inside : c ≠ '\x7d') :
    value? .exact (levels + 1) ('\x7b' :: c :: text) =
      (fields? Literals.exact.quoted? (fun _ => value? .exact levels) (c :: text).length
          (c :: text)).map fun read => (.object read.1, read.2) := by
  simp only [value?, skipBlanks_cons c text visible]
  split
  · next closed => exact absurd (List.cons.inj closed).1 inside
  · rfl

mutual

theorem value_print : (value : Json) → value.Numberless → (levels : Nat) → value.depth ≤ levels →
    (rest : List Char) → value? .exact levels (print value ++ rest) = some (value, rest)
  | .number _, numberless, _, _, _ => numberless.elim
  | .null, _, _, _, _ => by simp [print, value?, after?]
  | .bool true, _, _, _, _ => by simp [print, value?, after?]
  | .bool false, _, _, _, _ => by simp [print, value?, after?]
  | .string text, _, _, _, _ => by
      simp [print, quote, value?, Literals.exact, stringBody_escapes]
  | .array [], _, levels, shallow, _ => by
      obtain ⟨deeper, rfl⟩ : ∃ deeper, levels = deeper + 1 :=
        ⟨levels - 1, by simp only [depth] at shallow; omega⟩
      simp [print, value?, skipBlanks_cons ']' _ rfl]
  -- the fuel is the length of the text, which is longer than the list that is printed in it
  | .array (first :: more), numberless, levels, shallow, rest => by
      obtain ⟨deeper, rfl⟩ : ∃ deeper, levels = deeper + 1 :=
        ⟨levels - 1, by simp only [depth] at shallow; omega⟩
      have read := items_print first more numberless deeper (by simpa [depth] using shallow) rest
      have long := length_printItems more rest
      obtain ⟨c, tail, head, visible, inside, -⟩ := print_head first numberless.1
      simp only [print, List.cons_append, List.append_assoc, head] at read ⊢
      rw [value_list deeper c _ visible inside, read _ ?_]
      · rfl
      · simp only [List.length_cons, List.length_append] at long ⊢
        omega
  | .object [], _, levels, shallow, _ => by
      obtain ⟨deeper, rfl⟩ : ∃ deeper, levels = deeper + 1 :=
        ⟨levels - 1, by simp only [depth] at shallow; omega⟩
      simp [print, value?, skipBlanks_cons '\x7d' _ rfl]
  | .object ((key, first) :: more), numberless, levels, shallow, rest => by
      obtain ⟨deeper, rfl⟩ : ∃ deeper, levels = deeper + 1 :=
        ⟨levels - 1, by simp only [depth] at shallow; omega⟩
      have read := fields_print key first more numberless deeper (by simpa [depth] using shallow) rest
      have long := length_printFields more rest
      simp only [print, quote, List.cons_append, List.append_assoc] at read ⊢
      rw [value_table deeper '"' _ rfl (by decide), read _ ?_]
      · rfl
      · simp only [List.length_cons, List.length_append] at long ⊢
        omega
termination_by value => sizeOf value

theorem items_print : (first : Json) → (more : List Json) → NumberlessItems (first :: more) →
    (levels : Nat) → depthItems (first :: more) ≤ levels → (rest : List Char) → (fuel : Nat) →
    more.length < fuel →
    items? (value? .exact levels) fuel (print first ++ (printItems more ++ rest)) =
      some (first :: more, rest)
  -- the fuel exceeds the number of items that are still to be read
  | _, _, _, _, _, _, 0, enough => absurd enough (Nat.not_lt_zero _)
  | first, [], numberless, levels, shallow, rest, fuel + 1, _ => by
      have head := value_print first numberless.1 levels
        (Nat.le_trans (Nat.le_max_left _ _) shallow) (printItems [] ++ rest)
      rw [items?, skipBlanks_print first numberless.1, head]
      simp [printItems, skipBlanks_cons ']' _ rfl]
  | first, second :: more, numberless, levels, shallow, rest, fuel + 1, enough => by
      have head := value_print first numberless.1 levels
        (Nat.le_trans (Nat.le_max_left _ _) shallow) (printItems (second :: more) ++ rest)
      have tail := items_print second more numberless.2 levels
        (Nat.le_trans (Nat.le_max_right _ _) shallow) rest fuel (by simpa using enough)
      rw [items?, skipBlanks_print first numberless.1, head]
      simp [printItems, skipBlanks_cons ',' _ rfl, tail]
termination_by first more => 1 + sizeOf first + sizeOf more

theorem fields_print : (key : String) → (first : Json) → (more : List (String × Json)) →
    NumberlessFields ((key, first) :: more) → (levels : Nat) →
    depthFields ((key, first) :: more) ≤ levels → (rest : List Char) → (fuel : Nat) →
    more.length < fuel →
    fields? Literals.exact.quoted? (fun _ => value? .exact levels) fuel
        (quote key ++ ':' :: (print first ++ (printFields more ++ rest))) =
      some ((key, first) :: more, rest)
  | _, _, _, _, _, _, _, 0, enough => absurd enough (Nat.not_lt_zero _)
  | key, first, [], numberless, levels, shallow, rest, fuel + 1, _ => by
      have head := value_print first numberless.1 levels
        (Nat.le_trans (Nat.le_max_left _ _) shallow) (printFields [] ++ rest)
      rw [fields?, skipBlanks_quote, quoted_quote, Option.bind_some, skipBlanks_cons ':' _ rfl]
      simp only
      rw [skipBlanks_print first numberless.1, head]
      simp [printFields, skipBlanks_cons '\x7d' _ rfl]
  | key, first, (second, value) :: more, numberless, levels, shallow, rest, fuel + 1, enough => by
      have head := value_print first numberless.1 levels
        (Nat.le_trans (Nat.le_max_left _ _) shallow) (printFields ((second, value) :: more) ++ rest)
      have tail := fields_print second value more numberless.2 levels
        (Nat.le_trans (Nat.le_max_right _ _) shallow) rest fuel (by simpa using enough)
      rw [fields?, skipBlanks_quote, quoted_quote, Option.bind_some, skipBlanks_cons ':' _ rfl]
      simp only
      rw [skipBlanks_print first numberless.1, head]
      simp [printFields, skipBlanks_cons ',' _ rfl, tail]
termination_by _ first more => 1 + sizeOf first + sizeOf more

end

end Documents

end Reader

/-- Nothing is lost in the compact text. -/
theorem raw_compact (value : Json) (numberless : value.Numberless)
    (shallow : value.depth ≤ nestingLimit) : raw? value.compact = some value := by
  have read := Reader.value_print value numberless nestingLimit shallow []
  have blanks := Reader.skipBlanks_print value numberless []
  rw [List.append_nil] at read blanks
  rw [raw?, whole?, compact, String.toList_ofList, blanks, read]
  rfl

end BindingOperator.Json
