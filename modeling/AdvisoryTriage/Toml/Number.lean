import AdvisoryTriage.Toml.Text

/-!
# Numbers in TOML

Integers are written in decimal, with a sign if wanted, or without one in hexadecimal, octal or
binary behind a mark of two characters. Floats have a fraction or an exponent, or are one of the
words `inf` and `nan`. Between two digits an underscore may stand. A whole part in decimal has no
leading zeros.

An integer outside the range of 64 bits is refused, and so is a positive float that is too great for
the binary format of 64 bits.
-/

namespace AdvisoryTriage

namespace Toml

/-- Digits of one kind with underscores between them, and what is left. -/
def digitRun? (isDigit : Char → Bool) : List Char → Option (List Char × List Char)
  | [] => none
  | c :: s =>
    if isDigit c then
      match s with
      | '_' :: t => (digitRun? isDigit t).map fun (ds, rest) => (c :: ds, rest)
      | d :: t =>
        if isDigit d then (digitRun? isDigit (d :: t)).map fun (ds, rest) => (c :: ds, rest)
        else some ([c], d :: t)
      | [] => some ([c], [])
    else none

/-- The digits of decimal numbers. -/
def isDecimal (c : Char) : Bool := '0' ≤ c && c ≤ '9'

/-- The number that digits of a base denote. -/
def valueOf (base : Nat) (digits : List Char) : Nat :=
  digits.foldl (fun n c => base * n + (hexValue? c).getD 0) 0

/-- An integer, if it is in the range of 64 bits. -/
def inRange? (n : Int) : Option Int :=
  if Int64.minValue.toInt ≤ n ∧ n ≤ Int64.maxValue.toInt then some n else none

/-- An integer in a base other than ten, behind its mark. -/
def basedInteger? (base : Nat) (isDigit : Char → Bool) (s : List Char) :
    Option (Int × List Char) := do
  let (digits, rest) ← digitRun? isDigit s
  let n ← inRange? (valueOf base digits)
  return (n, rest)

/-- The whole part of a decimal number: a zero alone, or digits that start with another. -/
def wholePart? (s : List Char) : Option (List Char × List Char) :=
  match s with
  | '0' :: s => some (['0'], s)
  | s => digitRun? isDecimal s

/-- The digits of a fraction, none if no point comes next. -/
def fraction? : List Char → Option (List Char × List Char)
  | '.' :: s => digitRun? isDecimal s
  | s => some ([], s)

/-- The value of an exponent, none if its letter does not come next. -/
def exponent? (s : List Char) : Option (Option Int × List Char) :=
  match s with
  | c :: s =>
    if c = 'e' ∨ c = 'E' then
      match s with
      | '+' :: s => (digitRun? isDecimal s).map fun (ds, rest) => (some (valueOf 10 ds : Int), rest)
      | '-' :: s =>
        (digitRun? isDecimal s).map fun (ds, rest) => (some (-(valueOf 10 ds : Int)), rest)
      | s => (digitRun? isDecimal s).map fun (ds, rest) => (some (valueOf 10 ds : Int), rest)
    else some (none, c :: s)
  | [] => some (none, [])

/-- Whether `m · 10ᵉ`, rounded to the binary format of 64 bits, is infinite. The least such number
lies half a step above the greatest finite one. -/
def overflows (m : Nat) (e : Int) : Bool :=
  let limit : Nat := Nat.pow 2 1024 - Nat.pow 2 970
  let magnitude : Int := (Nat.toDigits 10 m).length + e
  -- the magnitude alone settles all but the numbers near the limit, and keeps the powers small
  if m = 0 ∨ magnitude < 309 then false
  else if 310 < magnitude then true
  else if e < 0 then limit * Nat.pow 10 (-e).toNat ≤ m
  else limit ≤ m * Nat.pow 10 e.toNat

/-- What a number is. -/
inductive Number where
  /-- An integer. -/
  | integer (n : Int)
  /-- A float. -/
  | float

/-- The rest behind a word. -/
def afterWord? : (word : List Char) → List Char → Option (List Char)
  | [], s => some s
  | _ :: _, [] => none
  | w :: word, c :: s => if w = c then afterWord? word s else none

/-- One of the words for special floats. -/
def specialFloat? (s : List Char) : Option (Number × List Char) :=
  match afterWord? "inf".toList s, afterWord? "nan".toList s with
  | some rest, _ => some (.float, rest)
  | none, some rest => some (.float, rest)
  | none, none => none

/-- A decimal number without its sign. -/
def decimal? (negative : Bool) (s : List Char) : Option (Number × List Char) := do
  let (whole, s) ← wholePart? s
  let (fraction, t) ← fraction? s
  let (exponent, rest) ← exponent? t
  if fraction.isEmpty ∧ exponent.isNone then
    let n ← inRange? (if negative then -(valueOf 10 whole : Int) else valueOf 10 whole)
    return (.integer n, rest)
  else if !negative ∧ overflows (valueOf 10 (whole ++ fraction))
      (exponent.getD 0 - fraction.length) then
    none
  else
    return (.float, rest)

/-- A number behind a sign, or without one. -/
def signed? (negative : Bool) (s : List Char) : Option (Number × List Char) :=
  match specialFloat? s with
  | some found => some found
  | none => decimal? negative s

/-- A number. -/
def number? (s : List Char) : Option (Number × List Char) :=
  match s with
  | '0' :: 'x' :: s =>
    (basedInteger? 16 (fun c => (hexValue? c).isSome) s).map fun (n, rest) => (.integer n, rest)
  | '0' :: 'o' :: s =>
    (basedInteger? 8 (fun c => '0' ≤ c && c ≤ '7') s).map fun (n, rest) => (.integer n, rest)
  | '0' :: 'b' :: s =>
    (basedInteger? 2 (fun c => c == '0' || c == '1') s).map fun (n, rest) => (.integer n, rest)
  | '+' :: s => signed? false s
  | '-' :: s => signed? true s
  | s => signed? false s

end Toml

end AdvisoryTriage
