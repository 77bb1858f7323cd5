import GateGame.Json.Token

namespace GateGame.Json

/-! From tokens to a value. Each token is taken once, from the left; the
containers that are still open wait on a stack, so nesting has no limit. -/

/-- A container that is still open, its finished parts last first. -/
inductive Frame where
  | array (finished : List Json)
  | object (finished : List (JsonText × Json)) (key : JsonText)

inductive Expectation where
  | value
  | elementOrEnd
  | keyOrEnd (finished : List (JsonText × Json))
  | key (finished : List (JsonText × Json))
  | colon (finished : List (JsonText × Json)) (key : JsonText)
  | after (value : Json)

def ofToken? : Token → Option Json
  | .null => some .null
  | .bool value => some (.bool value)
  | .number numeral => some (.number numeral)
  | .text value => some (.text value)
  | _ => none

def build : List Frame → Expectation → List Token → Option Json
  | [], .after value, [] => some value
  | _, _, [] => none
  | stack, .value, .openBracket :: rest => build (.array [] :: stack) .elementOrEnd rest
  | stack, .value, .openBrace :: rest => build stack (.keyOrEnd []) rest
  | stack, .value, token :: rest =>
      match ofToken? token with
      | some value => build stack (.after value) rest
      | none => none
  | _ :: stack, .elementOrEnd, .closeBracket :: rest => build stack (.after (.array [])) rest
  | stack, .elementOrEnd, .openBracket :: rest =>
      build (.array [] :: stack) .elementOrEnd rest
  | stack, .elementOrEnd, .openBrace :: rest => build stack (.keyOrEnd []) rest
  | stack, .elementOrEnd, token :: rest =>
      match ofToken? token with
      | some value => build stack (.after value) rest
      | none => none
  | stack, .keyOrEnd finished, .closeBrace :: rest =>
      build stack (.after (.object finished.reverse)) rest
  | stack, .keyOrEnd finished, .text key :: rest => build stack (.colon finished key) rest
  | stack, .key finished, .text key :: rest => build stack (.colon finished key) rest
  | stack, .colon finished key, .colon :: rest =>
      build (.object finished key :: stack) .value rest
  | .array finished :: stack, .after value, .comma :: rest =>
      build (.array (value :: finished) :: stack) .value rest
  | .array finished :: stack, .after value, .closeBracket :: rest =>
      build stack (.after (.array (value :: finished).reverse)) rest
  | .object finished key :: stack, .after value, .comma :: rest =>
      build stack (.key ((key, value) :: finished)) rest
  | .object finished key :: stack, .after value, .closeBrace :: rest =>
      build stack (.after (.object ((key, value) :: finished).reverse)) rest
  | _, _, _ :: _ => none

def parse? (text : String) : Option Json := do
  build [] .value (← Token.split text.toList)

end GateGame.Json
