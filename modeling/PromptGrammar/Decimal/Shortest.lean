import PromptGrammar.Decimal.Binary64

/-!
# PromptGrammar.Decimal.Shortest

The shortest decimal that reads back as a given floating-point number, and of
several of that length the nearest one.

A decimal reads back as `m · 2 ^ q` if it lies between the midpoints to the two
neighbouring floating-point numbers (the midpoints themselves count if `m` is
even). For one, two, … seventeen digits the two decimals next to the number on
that grid are tried, and the first grid with a hit wins.
-/

namespace PromptGrammar

/-- A decimal in scientific form: a sign, and the digits of `mantissa` with a point
behind the first of them, scaled by `10 ^ exponent`. -/
structure Scientific where
  negative : Bool
  mantissa : Nat
  exponent : Int
  deriving DecidableEq, Repr

namespace Scientific

/-- The digits of the mantissa. -/
def digits (x : Scientific) : List Char := Nat.toDigits 10 x.mantissa

/-- Removes up to `fuel` trailing zeros of a mantissa. -/
def dropZeros : (fuel : Nat) → Nat → Nat
  | 0, c => c
  | fuel + 1, c => if c ≠ 0 ∧ c % 10 = 0 then dropZeros fuel (c / 10) else c

/-- The decimal `± c · 10 ^ g` in scientific form, without trailing zeros. -/
def ofGrid (negative : Bool) (c : Nat) (g : Int) : Scientific where
  negative := negative
  mantissa := dropZeros (Nat.toDigits 10 c).length c
  exponent := g + (Nat.toDigits 10 c).length - 1

end Scientific

namespace Binary64

/-- The exponent `k` with `10 ^ k ≤ num / den < 10 ^ (k + 1)`, for a positive fraction. -/
def decimalExponent (num den : Nat) : Int :=
  if den ≤ num then
    (Nat.toDigits 10 (num / den)).length - 1
  else
    let d := (Nat.toDigits 10 (den / num)).length
    if den ≤ num * Nat.pow 10 (d - 1) then -((d : Int) - 1) else -(d : Int)

/-- The reals that round to a floating-point number, over a common denominator:
the number itself, the two ends, and whether the ends belong to it. -/
structure Interval where
  num : Nat
  lower : Nat
  upper : Nat
  den : Nat
  closed : Bool

/-- The interval around `m · 2 ^ q`. Below a power of two the neighbour is only half
as far away. -/
def interval (m : Nat) (q : Int) : Interval :=
  let below := if m = Nat.pow 2 52 ∧ minExponent < q then 1 else 2
  let up := Nat.pow 2 (q - 2).toNat
  { num := 4 * m * up
    lower := (4 * m - below) * up
    upper := (4 * m + 2) * up
    den := Nat.pow 2 (2 - q).toNat
    closed := m % 2 = 0 }

/-- The decimal `c · 10 ^ g` lies in the interval. -/
def Interval.holds (i : Interval) (c : Nat) (g : Int) : Bool :=
  let up := Nat.pow 10 (-g).toNat
  let mid := c * i.den * Nat.pow 10 g.toNat
  if i.closed then i.lower * up ≤ mid && mid ≤ i.upper * up
  else i.lower * up < mid && mid < i.upper * up

/-- The neighbour of the number on the grid `10 ^ g` that reads back as the number:
of two the nearer, of two equally near the even one. -/
def Interval.onGrid? (i : Interval) (g : Int) : Option Nat :=
  let a := i.num * Nat.pow 10 (-g).toNat
  let b := i.den * Nat.pow 10 g.toNat
  let f := a / b
  match i.holds f g, i.holds (f + 1) g with
  | true, true => some (roundQuotient a b)
  | true, false => some f
  | false, true => some (f + 1)
  | false, false => none

/-- The shortest decimal that reads back as `± m · 2 ^ q`. -/
def shortest (negative : Bool) (m : Nat) (q : Int) : Scientific :=
  if m = 0 then ⟨negative, 0, 0⟩
  else
    let i := interval m q
    let k := decimalExponent i.num i.den
    let hit := (List.range 17).findSome? fun (n : Nat) =>
      (i.onGrid? (k - n)).map fun c => (c, k - (n : Int))
    match hit with
    | some (c, g) => .ofGrid negative c g
    | none => .ofGrid negative (i.num / i.den) 0

end Binary64

end PromptGrammar
