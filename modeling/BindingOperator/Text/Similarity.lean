/-!
How similar two texts are. A character of the first matches one of the second that is the
same and near enough and not matched yet; the more characters match, and the fewer of them
stand in another order, the more similar the texts are. The similarity is a fraction, so
that it is compared without rounding.
-/

namespace BindingOperator.Text

/-- A numerator and a denominator that is not zero. -/
abbrev Fraction := Nat × Nat

def Fraction.isAtMost (left right : Fraction) : Bool := left.1 * right.2 ≤ right.1 * left.2

/-- Marks the first unmarked place of a character between two places. -/
def markBetween (c : Char) (first last : Nat) : Nat → List (Char × Bool) →
    Option (List (Char × Bool))
  | _, [] => none
  | place, (other, marked) :: rest =>
      if first ≤ place && place < last && !marked && other = c then some ((other, true) :: rest)
      else (markBetween c first last (place + 1) rest).map ((other, marked) :: ·)

/-- The matched characters of the first text, and the second one with its matches marked. -/
def matchAll (reach : Nat) : Nat → List Char → List (Char × Bool) → List Char × List (Char × Bool)
  | _, [], marks => ([], marks)
  | place, c :: rest, marks =>
      match markBetween c (place - reach) (place + reach + 1) 0 marks with
      | some marks =>
          let more := matchAll reach (place + 1) rest marks
          (c :: more.1, more.2)
      | none => matchAll reach (place + 1) rest marks

/-- A third each: the share of matches in the first text, in the second, and of matches that
keep their order. -/
def similarity (first second : String) : Fraction :=
  let left := first.toList
  let right := second.toList
  let reach := max left.length right.length / 2 - 1
  let (fromLeft, marks) := matchAll reach 0 left (right.map fun c => (c, false))
  let fromRight := (marks.filter Prod.snd).map Prod.fst
  let found := fromLeft.length
  let moved := ((fromLeft.zip fromRight).filter fun pair => pair.1 ≠ pair.2).length / 2
  if left.isEmpty && right.isEmpty then (1, 1)
  else if found = 0 then (0, 1)
  else
    (found * found * right.length + found * found * left.length
        + (found - moved) * left.length * right.length,
      3 * left.length * right.length * found)

/-- The candidate that is most similar to a text, the last one of several, if it is more
similar than a bound. -/
def mostSimilar (bound : Fraction) (text : String) (candidates : List String) : Option String :=
  (candidates.foldl (fun (best : Option (String × Fraction)) candidate =>
    let score := similarity text candidate
    if score.isAtMost bound then best
    else match best with
      | some (known, high) =>
          if high.isAtMost score then some (candidate, score) else some (known, high)
      | none => some (candidate, score)) none).map Prod.fst

end BindingOperator.Text
