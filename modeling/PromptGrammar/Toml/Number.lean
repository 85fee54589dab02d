import PromptGrammar.Text.Digit
import PromptGrammar.Text.Hex
import PromptGrammar.Toml.Basic

/-!
# PromptGrammar.Toml.Number

Numbers, dates and times of TOML. Digits may be grouped by single underscores; whole
numbers may be hexadecimal, octal or binary. Each reader takes the longest text that
it can and returns what follows.
-/

namespace PromptGrammar.Toml

/-! ## Groups of digits -/

/-- The digits that continue a number, with a single underscore at most in front of
each. -/
def moreDigits (isDigit : Char → Bool) : List Char → List Char × List Char
  | '_' :: c :: cs =>
    if isDigit c then
      let (ds, r) := moreDigits isDigit cs
      (c :: ds, r)
    else ([], '_' :: c :: cs)
  | c :: cs =>
    if isDigit c then
      let (ds, r) := moreDigits isDigit cs
      (c :: ds, r)
    else ([], c :: cs)
  | [] => ([], [])

/-- A group of digits. -/
def digits? (isDigit : Char → Bool) : List Char → Option (List Char × List Char)
  | c :: cs =>
    if isDigit c then
      let (ds, r) := moreDigits isDigit cs
      some (c :: ds, r)
    else none
  | [] => none

/-- The number that digits of a base spell. -/
def natOfBase (base : Nat) (ds : List Char) : Nat :=
  ds.foldl (fun n c => base * n + (Text.hexDigit? c).getD 0) 0

/-- A whole number behind the letter of its base. -/
def readBase (base : Nat) (cs : List Char) : Option (Toml × List Char) :=
  let isDigit (c : Char) : Bool := match Text.hexDigit? c with
    | some d => d < base
    | none => false
  (digits? isDigit cs).map fun p => (.int (natOfBase base p.1), p.2)

/-! ## Decimal numbers -/

/-- The whole part of a decimal number: a zero alone, or digits that begin otherwise. -/
def wholePart : List Char → Option (List Char × List Char)
  | '0' :: cs => some (['0'], cs)
  | cs => digits? Text.isDigit cs

/-- The digits behind a decimal point, or none if no point with digits comes next. -/
def fractionPart (cs : List Char) : List Char × List Char :=
  match cs with
  | '.' :: r => (digits? Text.isDigit r).getD ([], cs)
  | _ => ([], cs)

/-- A sign, which may be absent. -/
def readSign : List Char → Bool × List Char
  | '-' :: cs => (true, cs)
  | '+' :: cs => (false, cs)
  | cs => (false, cs)

/-- A number with a sign. -/
def signed (negative : Bool) (n : Nat) : Int := if negative then -(n : Int) else n

/-- The exponent part, if one comes next. -/
def exponentPart? : List Char → Option (Int × List Char)
  | e :: cs =>
    if e == 'e' || e == 'E' then
      let (negative, r) := readSign cs
      (digits? Text.isDigit r).map fun p => (signed negative (Text.natOfDigits p.1), p.2)
    else none
  | [] => none

/-- The whole number that decimal digits spell. -/
def wholeNumber (negative : Bool) (ds : List Char) : Except Fault Toml :=
  if Text.maxDigits < ds.length then .error (.tooManyDigits ds.length)
  else .ok (.int (signed negative (Text.natOfDigits ds)))

/-- A decimal number behind its sign. It is a whole number if it has neither a
fraction nor an exponent. -/
def readDecimal (negative : Bool) (cs : List Char) : Except Fault (Toml × List Char) :=
  match wholePart cs with
  | none => .error .malformed
  | some (ds, r) =>
    let (fs, r) := fractionPart r
    match exponentPart? r with
    | some (e, r) =>
      .ok (.float (.ofDecimal negative (Text.natOfDigits (ds ++ fs)) (e - fs.length)), r)
    | none =>
      if fs.isEmpty then (wholeNumber negative ds).map fun v => (v, r)
      else .ok (.float (.ofDecimal negative (Text.natOfDigits (ds ++ fs)) (-(fs.length : Int))), r)

/-- The names of the numbers that are not finite. -/
def readSpecial (negative : Bool) : List Char → Option (Toml × List Char)
  | 'i' :: 'n' :: 'f' :: cs => some (.float (.infinite negative), cs)
  | 'n' :: 'a' :: 'n' :: cs => some (.float .notANumber, cs)
  | _ => none

/-- A number of any kind. -/
def readNumber (cs : List Char) : Except Fault (Toml × List Char) :=
  let based := match cs with
    | '0' :: 'x' :: r => readBase 16 r
    | '0' :: 'b' :: r => readBase 2 r
    | '0' :: 'o' :: r => readBase 8 r
    | _ => none
  match based with
  | some p => .ok p
  | none =>
    let (negative, r) := readSign cs
    match readSpecial negative r with
    | some p => .ok p
    | none => readDecimal negative r

/-! ## Dates and times -/

/-- A number of exactly two digits. -/
def twoDigits? : List Char → Option (Nat × List Char)
  | a :: b :: cs =>
    if Text.isDigit a && Text.isDigit b then some (Text.natOfDigits [a, b], cs) else none
  | _ => none

/-- The number of days of a month. -/
def daysIn (year month : Nat) : Nat :=
  if month == 2 then
    if year % 4 == 0 && (year % 100 != 0 || year % 400 == 0) then 29 else 28
  else if month == 4 || month == 6 || month == 9 || month == 11 then 30
  else 31

/-- A day as year, month and day of the month, within the bounds of the notation but
not of the calendar. -/
def readDate (cs : List Char) : Option ((Nat × Nat × Nat) × List Char) := do
  let (century, cs) ← twoDigits? cs
  let (year, cs) ← twoDigits? cs
  let '-' :: cs := cs | none
  let (month, cs) ← twoDigits? cs
  let '-' :: cs := cs | none
  let (day, cs) ← twoDigits? cs
  if 1 ≤ month ∧ month ≤ 12 ∧ 1 ≤ day ∧ day ≤ 31 then
    some ((100 * century + year, month, day), cs)
  else none

/-- The day is one of the calendar. -/
def isDay (date : Nat × Nat × Nat) : Bool :=
  let (year, month, day) := date
  1 ≤ year && day ≤ daysIn year month

/-- Hours and minutes. -/
def readClock (cs : List Char) : Option (List Char) := do
  let (hour, cs) ← twoDigits? cs
  let ':' :: cs := cs | none
  let (minute, cs) ← twoDigits? cs
  if hour ≤ 23 ∧ minute ≤ 59 then some cs else none

/-- A time of day, to the second or to a fraction of it. -/
def readTimeOfDay (cs : List Char) : Option (List Char) := do
  let cs ← readClock cs
  let ':' :: cs := cs | none
  let (second, cs) ← twoDigits? cs
  if second ≤ 59 then
    match cs with
    | '.' :: r =>
      let ds := r.takeWhile Text.isDigit
      some (if ds.isEmpty then cs else r.drop ds.length)
    | _ => some cs
  else none

/-- Skips the distance to universal time, if there is one. -/
def skipOffset : List Char → List Char
  | 'Z' :: cs => cs
  | 'z' :: cs => cs
  | '+' :: cs => (readClock cs).getD ('+' :: cs)
  | '-' :: cs => (readClock cs).getD ('-' :: cs)
  | cs => cs

/-- Skips the time of a day, if there is one. -/
def skipTimeOfDay (cs : List Char) : List Char :=
  match cs with
  | c :: r =>
    if c == 'T' || c == 't' || c == ' ' then
      match readTimeOfDay r with
      | some r => skipOffset r
      | none => cs
    else cs
  | [] => cs

/-- A date, a time, or both; a number otherwise. A date that is not in the calendar
is nothing. -/
def readTimeOrNumber (cs : List Char) : Except Fault (Toml × List Char) :=
  match readDate cs with
  | some (date, r) => if isDay date then .ok (.time, skipTimeOfDay r) else .error .malformed
  | none =>
    match readTimeOfDay cs with
    | some r => .ok (.time, r)
    | none => readNumber cs

end PromptGrammar.Toml
