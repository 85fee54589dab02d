import PromptGrammar.Text.Hex
import PromptGrammar.Text.Printable

/-!
# PromptGrammar.Text.Quoted

A text shown between quotes in a message. Single quotes are used, unless the text
holds a single quote and no double quote. The quote in use and the backslash are
escaped by a backslash; tab, line feed and carriage return have short escapes, and
every other character that is not printable is shown by its code point in two,
four or eight hexadecimal digits.
-/

namespace PromptGrammar.Text

/-- The quote that encloses a text. -/
def quoteFor (cs : List Char) : Char :=
  if cs.contains '\x27' && !cs.contains '"' then '"' else '\x27'

/-- A character as shown between two quotes `q`. -/
def quotedChar (q c : Char) : List Char :=
  let n := c.toNat
  if c == q || c == '\\' then ['\\', c]
  else if c == '\t' then ['\\', 't']
  else if c == '\n' then ['\\', 'n']
  else if c == '\r' then ['\\', 'r']
  else if n < 0x20 || n == 0x7F then '\\' :: 'x' :: hexFixed 2 n
  else if n < 0x7F || isPrintable c then [c]
  else if n ≤ 0xFF then '\\' :: 'x' :: hexFixed 2 n
  else if n ≤ 0xFFFF then '\\' :: 'u' :: hexFixed 4 n
  else '\\' :: 'U' :: hexFixed 8 n

/-- A text between quotes. -/
def quoted (s : String) : String :=
  let cs := s.toList
  let q := quoteFor cs
  String.ofList (q :: cs.flatMap (quotedChar q) ++ [q])

end PromptGrammar.Text
