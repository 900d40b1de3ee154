import BindingOperator.Power
import BindingOperator.Text.Blank

/-!
Moments in time and their text. A moment counts seconds from the start of 1970 in
universal time; during a leap second the nanoseconds run on past one thousand million.
Reading accepts a date and a time of day with an offset, and blanks between the parts;
writing is always in universal time. Whoever stamps several things reads a clock for each.
-/

namespace BindingOperator

structure Instant where
  second : Int
  nanosecond : Nat
  deriving DecidableEq, Repr, Inhabited

namespace Instant

structure CivilDate where
  year : Int
  month : Nat
  day : Nat
  deriving DecidableEq, Repr

def isLeapYear (year : Int) : Bool :=
  year % 4 = 0 && (year % 100 ≠ 0 || year % 400 = 0)

def monthLength (year : Int) (month : Nat) : Nat :=
  if month = 2 then (if isLeapYear year then 29 else 28)
  else if month = 4 || month = 6 || month = 9 || month = 11 then 30
  else 31

def CivilDate.isValid (date : CivilDate) : Bool :=
  1 ≤ date.month && date.month ≤ 12 && 1 ≤ date.day && date.day ≤ monthLength date.year date.month

/-- Days since the first of January 1970. Years are counted from March, so that a leap
day is the last day of its year, in cycles of four hundred years. -/
def CivilDate.toDays (date : CivilDate) : Int :=
  let year := if date.month ≤ 2 then date.year - 1 else date.year
  let cycle := year.fdiv 400
  let yearOfCycle := year - cycle * 400
  let monthFromMarch : Int := ((date.month + 9) % 12 : Nat)
  let dayOfYear := (153 * monthFromMarch + 2).fdiv 5 + (date.day : Int) - 1
  let dayOfCycle := yearOfCycle * 365 + yearOfCycle.fdiv 4 - yearOfCycle.fdiv 100 + dayOfYear
  cycle * 146097 + dayOfCycle - 719468

def CivilDate.ofDays (days : Int) : CivilDate :=
  let shifted := days + 719468
  let cycle := shifted.fdiv 146097
  let dayOfCycle := shifted - cycle * 146097
  let yearOfCycle := (dayOfCycle - dayOfCycle.fdiv 1460 + dayOfCycle.fdiv 36524
    - dayOfCycle.fdiv 146096).fdiv 365
  let dayOfYear := dayOfCycle - (365 * yearOfCycle + yearOfCycle.fdiv 4 - yearOfCycle.fdiv 100)
  let monthFromMarch := (5 * dayOfYear + 2).fdiv 153
  let day := (dayOfYear - (153 * monthFromMarch + 2).fdiv 5 + 1).toNat
  let month := (if monthFromMarch < 10 then monthFromMarch + 3 else monthFromMarch - 9).toNat
  let year := yearOfCycle + cycle * 400
  ⟨if month ≤ 2 then year + 1 else year, month, day⟩

def isDigit (c : Char) : Bool := '0' ≤ c && c ≤ '9'

def digitsValue (digits : List Char) : Nat :=
  digits.foldl (fun value c => value * 10 + (c.toNat - 48)) 0

/-- A number of one digit up to the given width, after blanks. -/
def number? (width : Nat) (text : List Char) : Option (Nat × List Char) :=
  let text := Text.dropBlanks text
  let digits := (text.take width).takeWhile isDigit
  if digits.isEmpty then none else some (digitsValue digits, text.drop digits.length)

/-- A year has four digits at most unless it carries a sign. -/
def year? (text : List Char) : Option (Int × List Char) :=
  match Text.dropBlanks text with
  | '-' :: rest =>
      let digits := rest.takeWhile isDigit
      if digits.isEmpty then none
      else some (-(digitsValue digits : Int), rest.drop digits.length)
  | '+' :: rest =>
      let digits := rest.takeWhile isDigit
      if digits.isEmpty then none
      else some ((digitsValue digits : Int), rest.drop digits.length)
  | text => (number? 4 text).map fun read => ((read.1 : Int), read.2)

def literal? (expected : Char) (text : List Char) : Option (List Char) :=
  match Text.dropBlanks text with
  | c :: rest => if c = expected then some rest else none
  | [] => none

/-- Nine digits after the point count; further digits are dropped. -/
def fraction? : List Char → Option (Nat × List Char)
  | '.' :: rest =>
      let digits := rest.takeWhile isDigit
      if digits.isEmpty then none
      else
        let kept := digits.take 9
        some (digitsValue kept * powerOfTen (9 - kept.length), rest.dropWhile isDigit)
  | text => some (0, text)

def twoDigits? : List Char → Option (Nat × List Char)
  | a :: b :: rest => if isDigit a && isDigit b then some (digitsValue [a, b], rest) else none
  | _ => none

/-- The offset from universal time in seconds: a letter, or hours and minutes. -/
def offset? (text : List Char) : Option (Int × List Char) :=
  let signed (negative : Bool) (rest : List Char) : Option (Int × List Char) := do
    let hours ← twoDigits? rest
    let rest := hours.2.dropWhile fun c => c = ':' || Text.isBlank c
    let minutes ← twoDigits? rest
    if 60 ≤ minutes.1 then none
    let seconds : Int := ((hours.1 * 3600 + minutes.1 * 60 : Nat) : Int)
    return (if negative then -seconds else seconds, minutes.2)
  match text with
  | 'Z' :: rest | 'z' :: rest => some (0, rest)
  | '+' :: rest => signed false rest
  | '-' :: rest | '−' :: rest => signed true rest
  | a :: b :: c :: rest =>
      if a.toLower = 'u' && b.toLower = 't' && c.toLower = 'c' then some (0, rest) else none
  | _ => none

def parse? (text : String) : Option Instant := do
  let (year, rest) ← year? text.toList
  let rest ← literal? '-' rest
  let (month, rest) ← number? 2 rest
  let rest ← literal? '-' rest
  let (day, rest) ← number? 2 rest
  let rest ← match rest with
    | 't' :: rest | 'T' :: rest | ' ' :: rest => some rest
    | _ => none
  let (hour, rest) ← number? 2 rest
  let rest ← literal? ':' rest
  let (minute, rest) ← number? 2 rest
  let rest ← literal? ':' rest
  let (second, rest) ← number? 2 rest
  let (nanosecond, rest) ← fraction? rest
  let (offset, rest) ← offset? (Text.dropBlanks rest)
  let date : CivilDate := ⟨year, month, day⟩
  if !date.isValid || year < -262143 || 262142 < year then none
  if 24 ≤ hour || 60 ≤ minute || 61 ≤ second then none
  if offset ≤ -86400 || 86400 ≤ offset then none
  if !(Text.dropBlanks rest).isEmpty then none
  let leap := second = 60
  let second := if leap then 59 else second
  let timeOfDay : Int := ((hour * 3600 + minute * 60 + second : Nat) : Int)
  return ⟨date.toDays * 86400 + timeOfDay - offset,
    if leap then nanosecond + 1000000000 else nanosecond⟩

def padded (width : Nat) (value : Nat) : String :=
  let digits := Nat.repr value
  String.ofList (List.replicate (width - digits.length) '0') ++ digits

def yearText (year : Int) : String :=
  if 0 ≤ year && year ≤ 9999 then padded 4 year.toNat
  else if 0 ≤ year then "+" ++ padded 4 year.toNat
  else "-" ++ padded 4 (-year).toNat

def secondText (instant : Instant) : String :=
  let days := instant.second.fdiv 86400
  let time := (instant.second - days * 86400).toNat
  let date := CivilDate.ofDays days
  let second := time % 60 + (if 1000000000 ≤ instant.nanosecond then 1 else 0)
  yearText date.year ++ "-" ++ padded 2 date.month ++ "-" ++ padded 2 date.day ++ "T"
    ++ padded 2 (time / 3600) ++ ":" ++ padded 2 (time / 60 % 60) ++ ":" ++ padded 2 second

/-- No digits, or three, six or nine: as few as hold the value. -/
def fractionText (instant : Instant) : String :=
  let nanosecond := instant.nanosecond % 1000000000
  if nanosecond = 0 then ""
  else if nanosecond % 1000000 = 0 then "." ++ padded 3 (nanosecond / 1000000)
  else if nanosecond % 1000 = 0 then "." ++ padded 6 (nanosecond / 1000)
  else "." ++ padded 9 nanosecond

def text (instant : Instant) : String :=
  instant.secondText ++ instant.fractionText ++ "Z"

/-- The moment to the second; a fraction is cut. -/
def wholeText (instant : Instant) : String :=
  instant.secondText ++ "Z"

def microText (instant : Instant) : String :=
  instant.secondText ++ "." ++ padded 6 (instant.nanosecond % 1000000000 / 1000) ++ "Z"

def nanoseconds (instant : Instant) : Int :=
  instant.second * 1000000000 + instant.nanosecond

/-- The second an instant lies in; a leap second is one of its own. -/
def truncated (instant : Instant) : Instant :=
  { instant with nanosecond := instant.nanosecond - instant.nanosecond % 1000000000 }

end Instant

/-- What a clock shows at the places where it is read, in their order. Nothing relates two
readings: time passes between them, and a clock may be set back. -/
structure Clock where
  reading : Nat → Instant

namespace Clock

/-- The clock from a later place on. -/
def later (places : Nat) (clock : Clock) : Clock := ⟨fun place => clock.reading (places + place)⟩

/-- A clock that shows the same time at every place. -/
def still (instant : Instant) : Clock := ⟨fun _ => instant⟩

/-- An instant stands for the clock that stays at it. -/
instance : Coe Instant Clock := ⟨still⟩

/-- A clock that shows the next second at every place, half of it gone. -/
def ticking (second : Int) : Clock := ⟨fun place => ⟨second + place, 500000000⟩⟩

end Clock

end BindingOperator
