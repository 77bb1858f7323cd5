import GateGame.Json.Numeral
import GateGame.Json.Parser
import GateGame.Json.Writer
import GateGame.Score.Basic

namespace GateGame.Score

/-! Scores as JSON: an array of exactly as many words as there are slots. -/

def ofJson? (value : Json) : Option Score := do
  let slots ← (← value.elements?).mapM fun element => element.numeral?.bind (·.word?)
  if h : slots.toArray.size = scoreSlots then some ⟨⟨slots.toArray, h⟩⟩ else none

def read? (text : String) : Option Score :=
  (Json.parse? text).bind ofJson?

def json (score : Score) : String :=
  Json.writeArray (score.slots.toList.map fun slot => toString slot.toNat)

end GateGame.Score
