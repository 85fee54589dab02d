import PromptGrammar.Decimal.Shortest

/-!
# PromptGrammar.Decimal.Layout

How a decimal in scientific form is written down: positionally while its exponent
lies within the bounds of the layout, with an exponent part otherwise. A whole
number written positionally keeps one zero behind the point, so that what is
written always holds a point or an exponent. No zeros are put behind the digit
zero in front of the point: a number begins with a zero only if it is its whole
part.
-/

namespace PromptGrammar

/-- A layout of decimals: the exponents that are written positionally, and the
least number of digits of an exponent part. -/
structure Layout where
  lowest : Int
  highest : Int
  exponentWidth : Nat
  deriving DecidableEq, Repr

namespace Layout

/-- Digits filled up with zeros to a width; the digit zero stays alone. -/
def padded (ds : List Char) (width : Nat) : List Char :=
  if ds = ['0'] then ds else ds ++ List.replicate (width - ds.length) '0'

/-- Positional notation of digits with the point behind the digit of exponent `e`. -/
def positional (ds : List Char) (e : Int) : List Char :=
  if e < 0 then
    '0' :: '.' :: (List.replicate (-e - 1).toNat '0' ++ ds)
  else
    let whole := e.toNat + 1
    if ds.length ≤ whole then
      padded ds whole ++ ['.', '0']
    else
      ds.take whole ++ '.' :: ds.drop whole

/-- The exponent part: sign, and at least `width` digits. -/
def exponentPart (width : Nat) (e : Int) : List Char :=
  let ds := Nat.toDigits 10 e.natAbs
  'e' :: (if e < 0 then '-' else '+') :: (List.replicate (width - ds.length) '0' ++ ds)

/-- Digits with a point behind the first one, unless it stands alone. -/
def pointed : List Char → List Char
  | d :: r :: rs => d :: '.' :: r :: rs
  | ds => ds

/-- A decimal as written in a layout. -/
def render (l : Layout) (x : Scientific) : List Char :=
  let body :=
    if l.lowest ≤ x.exponent ∧ x.exponent ≤ l.highest then
      positional x.digits x.exponent
    else
      pointed x.digits ++ exponentPart l.exponentWidth x.exponent
  if x.negative then '-' :: body else body

end Layout

end PromptGrammar
