import GateGame.Json.Numeral

namespace GateGame.Json

/-! Records in JSON: an object with named fields, or an array of the fields in
their order. -/

/-- The values of the named fields, in the order of the names. An object may have
further members, but every key must be a text and no field may come twice; an
array may stop early, but not go on. -/
def fields? (names : List String) : Json → Option (List (Option Json))
  | .object members =>
      if members.all (fun member => member.1.isSome) ∧
          names.all (fun name => members.countP (fun member => member.1 == some name) ≤ 1) then
        some (names.map fun name => (members.find? (·.1 == some name)).map (·.2))
      else none
  | .array elements =>
      if elements.length ≤ names.length then
        some (elements.map some ++ List.replicate (names.length - elements.length) none)
      else none
  | _ => none

def double? (value : Json) : Option Float :=
  value.numeral?.bind (·.double?)

def word? (value : Json) : Option UInt64 :=
  value.numeral?.bind (·.word?)

end GateGame.Json
