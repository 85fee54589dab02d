/-!
# PromptGrammar.Decimal.Binary64

Binary floating-point numbers of 53 significant bits, as exact data: a sign, a
significand and a power of two. `Binary64.ofDecimal` is the number nearest to a
decimal, computed on natural numbers; of two equally near the even one is taken.
-/

namespace PromptGrammar

/-- A floating-point number. `finite s m q` is `± m · 2 ^ q` with `m < 2 ^ 53` and
`-1074 ≤ q ≤ 971`; `q` is as small as `m` allows. -/
inductive Binary64 where
  | finite (negative : Bool) (significand : Nat) (exponent : Int)
  | infinite (negative : Bool)
  | notANumber
  deriving DecidableEq, Repr

namespace Binary64

/-- The least power of two that scales a significand. -/
def minExponent : Int := -1074

/-- The greatest power of two that scales a significand. -/
def maxExponent : Int := 971

/-- Zero with a sign. -/
def zero (negative : Bool) : Binary64 := .finite negative 0 minExponent

/-- The quotient `num / den` rounded to a whole number; a half goes to the even
neighbour. -/
def roundQuotient (num den : Nat) : Nat :=
  let f := num / den
  let r := num % den
  if 2 * r > den ∨ (2 * r = den ∧ f % 2 = 1) then f + 1 else f

/-- The fraction `num / (den · 2 ^ q)` as a numerator and a denominator. -/
def scaled (num den : Nat) (q : Int) : Nat × Nat :=
  if 0 ≤ q then (num, den * Nat.pow 2 q.toNat) else (num * Nat.pow 2 (-q).toNat, den)

/-- The number nearest to the positive fraction `num / den`. -/
def nearest (negative : Bool) (num den : Nat) : Binary64 :=
  let q₀ := max ((num.log2 : Int) - den.log2 - 53) minExponent
  let p₀ := scaled num den q₀
  let q := if p₀.1 / p₀.2 < Nat.pow 2 53 then q₀ else q₀ + 1
  let p := scaled num den q
  let m := roundQuotient p.1 p.2
  let (m, q) := if m = Nat.pow 2 53 then (Nat.pow 2 52, q + 1) else (m, q)
  if q ≤ maxExponent then .finite negative m q else .infinite negative

/-- The number nearest to `± mantissa · 10 ^ exponent`. Decimals of more than 310
places in front of the point are infinite, those that begin more than 330 places
behind it are zero. -/
def ofDecimal (negative : Bool) (mantissa : Nat) (exponent : Int) : Binary64 :=
  let places : Int := (Nat.toDigits 10 mantissa).length + exponent
  if mantissa = 0 ∨ places < -330 then zero negative
  else if places > 310 then .infinite negative
  else if 0 ≤ exponent then nearest negative (mantissa * Nat.pow 10 exponent.toNat) 1
  else nearest negative mantissa (Nat.pow 10 (-exponent).toNat)

/-- The whole number that a floating-point number is, if it is one. -/
def toInt? : Binary64 → Option Int
  | .finite negative m q =>
    let sign : Int := if negative then -1 else 1
    if 0 ≤ q then some (sign * (m * Nat.pow 2 q.toNat : Nat))
    else if m % Nat.pow 2 (-q).toNat = 0 then some (sign * (m / Nat.pow 2 (-q).toNat : Nat))
    else none
  | _ => none

end Binary64

end PromptGrammar
