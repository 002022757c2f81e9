import AdvisoryTriage.Toml.Number

/-!
# Dates and times in TOML

A date is written `year-month-day`, a time `hour:minute:second` with a fraction if wanted. A date
may be followed by a time, behind the letter T or a space, and that by an offset from universal
time. Every field has its fixed number of digits and its range; the days of a month depend on the
month and the year, and a second may be the sixtieth.

A text that begins like a date or a time is nothing else: `Toml.dateTime?` tells a text that is none
of it (`notOne`) from one that is a faulty one (`faulty`).
-/

namespace AdvisoryTriage

namespace Toml

/-- The number written with exactly the next `n` digits, if it lies in a range. -/
def fixedDigits? (n least greatest : Nat) (s : List Char) : Option (Nat × List Char) :=
  let digits := s.take n
  if digits.length = n ∧ digits.all isDecimal ∧ least ≤ valueOf 10 digits ∧
      valueOf 10 digits ≤ greatest then
    some (valueOf 10 digits, s.drop n)
  else none

/-- The rest behind a character. -/
def after? (c : Char) : List Char → Option (List Char)
  | d :: s => if d = c then some s else none
  | [] => none

/-- Whether a year has a twenty-ninth of February. -/
def isLeapYear (year : Nat) : Bool :=
  year % 4 == 0 && (year % 100 != 0 || year % 400 == 0)

/-- The number of days of a month. -/
def daysOf (year month : Nat) : Nat :=
  if month = 2 then (if isLeapYear year then 29 else 28)
  else if month = 4 ∨ month = 6 ∨ month = 9 ∨ month = 11 then 30
  else 31

/-- The rest behind month and day of a date, whose year and first dash are read. -/
def monthAndDay? (year : Nat) (s : List Char) : Option (List Char) := do
  let (month, s) ← fixedDigits? 2 1 12 s
  let s ← after? '-' s
  let (_, s) ← fixedDigits? 2 1 (daysOf year month) s
  return s

/-- The rest behind a fraction of a second, if there is one; a point without digits is refused. -/
def secondFraction? : List Char → Option (List Char)
  | '.' :: s =>
    match s.takeWhile isDecimal with
    | [] => none
    | _ => some (s.dropWhile isDecimal)
  | s => some s

/-- The rest behind minute and second of a time, whose hour and first colon are read. -/
def minuteAndSecond? (s : List Char) : Option (List Char) := do
  let (_, s) ← fixedDigits? 2 0 59 s
  let s ← after? ':' s
  let (_, s) ← fixedDigits? 2 0 60 s
  secondFraction? s

/-- The rest behind an offset, if there is one; a sign without hour and minute is refused. -/
def offset? : List Char → Option (List Char)
  | 'Z' :: s => some s
  | 'z' :: s => some s
  | c :: s =>
    if c = '+' ∨ c = '-' then do
      let (_, s) ← fixedDigits? 2 0 23 s
      let s ← after? ':' s
      let (_, s) ← fixedDigits? 2 0 59 s
      return s
    else some (c :: s)
  | [] => some []

/-- What a text begins with. -/
inductive DateTime where
  /-- Neither a date nor a time. -/
  | notOne
  /-- A date or a time with a fault in it. -/
  | faulty
  /-- A date, a time or both, and what is left. -/
  | found (rest : List Char)

/-- The outcome of reading something that is a date or a time for certain. -/
def DateTime.ofRest? : Option (List Char) → DateTime
  | some rest => .found rest
  | none => .faulty

/-- The hour and the colon of a time. -/
def hour? (s : List Char) : Option (List Char) := do
  let (_, s) ← fixedDigits? 2 0 23 s
  after? ':' s

/-- The rest behind a time and an offset that may follow a date. -/
def timeOfDate? (s : List Char) : Option (List Char) :=
  match s with
  | c :: t =>
    if c = 'T' ∨ c = 't' ∨ c = ' ' then
      match hour? t with
      | some t => minuteAndSecond? t >>= offset?
      | none => some s
    else some s
  | [] => some s

/-- Reads a date, a time or both. -/
def dateTime? (s : List Char) : DateTime :=
  match fixedDigits? 4 0 9999 s with
  | some (year, '-' :: t) => .ofRest? (monthAndDay? year t >>= timeOfDate?)
  | _ =>
    match hour? s with
    | some t => .ofRest? (minuteAndSecond? t)
    | none => .notOne

end Toml

end AdvisoryTriage
