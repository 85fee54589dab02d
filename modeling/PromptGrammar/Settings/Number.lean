import PromptGrammar.Schema.Issue
import PromptGrammar.Text.Blank
import PromptGrammar.Text.Digit

/-!
# PromptGrammar.Settings.Number

Whole numbers as texts. A number is a minus sign or none and digits without leading
zeros. Around it a text may have padding, a sign, zeros and underscores in front of the
first other digit, single underscores further on, and behind a point nothing but zeros.
-/

namespace PromptGrammar.Settings

/-! ## Padding and sign -/

/-- A character that may stand around a number: any blank except the four ASCII
separators of records. -/
def isPadding (c : Char) : Bool := Text.isBlank c && !(0x1C ≤ c.toNat && c.toNat ≤ 0x1F)

/-- A text without the padding at its two ends. -/
def unpad (cs : List Char) : List Char :=
  ((cs.dropWhile isPadding).reverse.dropWhile isPadding).reverse

/-- The sign of a number and the text behind it. -/
def splitSign : List Char → Bool × List Char
  | '-' :: cs => (true, cs)
  | '+' :: cs => (false, cs)
  | cs => (false, cs)

/-! ## Zeros and underscores -/

/-- The number behind zeros and underscores, of which `last` was the last one. It starts
with another digit or with a sign; a point, or the end, leaves it that last one. -/
def dropZeros? (last : Char) : List Char → Option (List Char)
  | [] => some [last]
  | c :: cs =>
    if c = '0' ∨ c = '_' then dropZeros? c cs
    else if Text.isDigit c ∨ c = '-' then some (c :: cs)
    else if c = '.' then some (last :: c :: cs)
    else none

/-- A number without leading zeros. -/
def withoutZeros? : List Char → Option (List Char)
  | [] => none
  | c :: cs =>
    if c = '0' then dropZeros? c cs
    else if Text.isDigit c then some (c :: cs)
    else none

/-- A number without a point and zeros at its end. -/
def withoutFraction (cs : List Char) : List Char :=
  match cs.dropWhile (· != '.') with
  | [] | [_] => cs
  | _ :: zs => if zs.all (· == '0') then cs.takeWhile (· != '.') else cs

/-- Every underscore has another character behind it. -/
def isGrouped : List Char → Bool
  | [] => true
  | '_' :: cs => cs.head?.any (· != '_') && isGrouped cs
  | _ :: cs => isGrouped cs

/-- A number without the single underscores between its characters. -/
def withoutUnderscores? (cs : List Char) : Option (List Char) :=
  if isGrouped ('_' :: cs) then some (cs.filter (· != '_')) else none

/-! ## Numbers -/

/-- The digits of a number: no leading zeros, and not too many. -/
def digits? (cs : List Char) : Option (List Char) :=
  if cs = ['0'] ∨ cs.head?.any (· != '0') ∧ cs.all Text.isDigit ∧ cs.length ≤ Text.maxDigits then
    some cs
  else none

/-- The value of a number. -/
def value? (cs : List Char) : Option Int :=
  match cs with
  | '-' :: ds => (digits? ds).map fun ds => -(Text.natOfDigits ds : Int)
  | ds => (digits? ds).map fun ds => (Text.natOfDigits ds : Int)

/-- A text begins, at its very start, with a number of too many digits. -/
def startsTooLong (cs : List Char) : Bool :=
  let ds := match cs with
    | '-' :: ds => ds
    | ds => ds
  ds.head?.any (· != '0') && Text.maxDigits < (ds.takeWhile Text.isDigit).length

/-- The number in a text, with the sign of the text in front of what is left when zeros,
fraction and underscores are gone. -/
def bareNumber? (cs : List Char) : Option (List Char) := do
  let (negative, cs) := splitSign (unpad cs)
  let cs ← withoutZeros? cs
  let cs ← withoutUnderscores? (withoutFraction cs)
  pure (if negative then '-' :: cs else cs)

/-- The whole number that a text spells. A text that begins with too long a number is
refused for that, whatever follows; one that only spells such a number is unreadable. -/
def wholeNumber (s : String) : Except Schema.Fault Int :=
  if startsTooLong s.toList then .error .tooLarge
  else
    match (bareNumber? s.toList).bind value? with
    | some n => .ok n
    | none => .error .unreadableInteger

end PromptGrammar.Settings
