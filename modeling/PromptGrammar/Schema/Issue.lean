/-!
# PromptGrammar.Schema.Issue

What can be wrong with a value that is checked against a schema: a `Fault`, and the
place in the value where it was found. `Fault.kind` and `Fault.message` are the
words in which faults are reported.
-/

namespace PromptGrammar.Schema

/-- A step from a value to a part of it. A `branch` names the alternative of a
schema that was followed and does not move in the value. -/
inductive Step where
  | key (name : String)
  | index (position : Nat)
  | branch (name : String)
  deriving DecidableEq, Repr

/-- What is wrong with a value. -/
inductive Fault where
  /-- A required member is absent. -/
  | missing
  | notString
  /-- A string with half a surrogate pair. -/
  | notUnicode
  | notList
  | notMap
  /-- The value of a record of the given name is not an object. -/
  | notRecord (name : String)
  /-- A value that is told apart by a tag is not an object. -/
  | notTagged
  | tagAbsent (discriminator : String)
  | tagUnknown (discriminator tag : String) (expected : List String)
  | notOneOf (expected : List String)
  /-- A member that the record does not have. -/
  | undeclared
  | belowOne
  | notInteger
  /-- A text that spells no whole number. -/
  | unreadableInteger
  | fractional
  | notFinite
  /-- A floating-point number that is whole, but too large to be taken for one. -/
  | tooLarge
  deriving DecidableEq, Repr

/-- A fault and the way to it. -/
structure Issue where
  path : List Step
  fault : Fault
  deriving DecidableEq, Repr

/-- A name between single quotes. -/
def tick (s : String) : String := "'" ++ s ++ "'"

/-- Names between quotes with commas between them, and a word in front of the last. -/
def alternatives (last : String) : List String → String
  | [] => ""
  | [a] => tick a
  | [a, b] => tick a ++ last ++ tick b
  | a :: as => tick a ++ ", " ++ alternatives last as

namespace Fault

/-- The short name of a kind of fault. -/
def kind : Fault → String
  | missing => "missing"
  | notString => "string_type"
  | notUnicode => "string_unicode"
  | notList => "list_type"
  | notMap => "dict_type"
  | notRecord _ => "model_type"
  | notTagged => "model_attributes_type"
  | tagAbsent _ => "union_tag_not_found"
  | tagUnknown .. => "union_tag_invalid"
  | notOneOf _ => "literal_error"
  | undeclared => "extra_forbidden"
  | belowOne => "greater_than_equal"
  | notInteger => "int_type"
  | unreadableInteger => "int_parsing"
  | fractional => "int_from_float"
  | notFinite => "finite_number"
  | tooLarge => "int_parsing_size"

/-- The description of a fault. -/
def message : Fault → String
  | missing => "Field required"
  | notString => "Input should be a valid string"
  | notUnicode =>
    "Input should be a valid string, unable to parse raw data as a unicode string"
  | notList => "Input should be a valid list"
  | notMap => "Input should be a valid dictionary"
  | notRecord name => "Input should be a valid dictionary or instance of " ++ name
  | notTagged => "Input should be a valid dictionary or object to extract fields from"
  | tagAbsent discriminator => "Unable to extract tag using discriminator " ++ tick discriminator
  | tagUnknown discriminator tag expected =>
    "Input tag " ++ tick tag ++ " found using " ++ tick discriminator ++
      " does not match any of the expected tags: " ++ alternatives ", " expected
  | notOneOf expected => "Input should be " ++ alternatives " or " expected
  | undeclared => "Extra inputs are not permitted"
  | belowOne => "Input should be greater than or equal to 1"
  | notInteger => "Input should be a valid integer"
  | unreadableInteger =>
    "Input should be a valid integer, unable to parse string as an integer"
  | fractional => "Input should be a valid integer, got a number with a fractional part"
  | notFinite => "Input should be a finite number"
  | tooLarge => "Unable to parse input string as an integer, exceeded maximum size"

end Fault

end PromptGrammar.Schema
