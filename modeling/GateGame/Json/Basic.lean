namespace GateGame

/-! JSON values as they are written: a number keeps its digits, and an object
keeps its members in order, repeated keys included, so that each reader decides
what a number or a repetition means. -/

structure Numeral where
  negative : Bool
  whole : List Nat
  fraction : List Nat
  exponent : Option Int
  deriving DecidableEq

/-- The text of a JSON string; `none` when an escape leaves half of a surrogate
pair alone, which is well formed but is no sequence of characters. -/
abbrev JsonText := Option String

inductive Json where
  | null
  | bool (value : Bool)
  | number (numeral : Numeral)
  | text (value : JsonText)
  | array (elements : List Json)
  | object (members : List (JsonText × Json))

namespace Json

def member? : Json → String → Option Json
  | .object members, key => (members.find? (·.1 == some key)).map (·.2)
  | _, _ => none

def string? : Json → Option String
  | .text value => value
  | _ => none

def elements? : Json → Option (List Json)
  | .array elements => some elements
  | _ => none

def bool? : Json → Option Bool
  | .bool value => some value
  | _ => none

def numeral? : Json → Option Numeral
  | .number numeral => some numeral
  | _ => none

end Json

end GateGame
