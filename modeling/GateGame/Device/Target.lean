import GateGame.Json.Parser
import GateGame.Json.Record
import GateGame.Json.Writer
import GateGame.Text.Quoted

namespace GateGame

/-! Which device of which account a session connects to. -/

structure Target where
  hub : String
  group : String
  project : String
  backend : String
  deriving DecidableEq

namespace Target

def standard : Target := ⟨"ibm-q", "open", "main", "ibmqx2"⟩

def ofEnvironment (lookup : String → Option String) : Target where
  hub := (lookup "QCARDS_DEVICE_HUB").getD standard.hub
  group := (lookup "QCARDS_DEVICE_GROUP").getD standard.group
  project := (lookup "QCARDS_DEVICE_PROJECT").getD standard.project
  backend := (lookup "QCARDS_DEVICE_BACKEND").getD standard.backend

def text (target : Target) : String :=
  s!"{target.hub}/{target.group}/{target.project}:{target.backend}"

def fieldNames : List String := ["hub", "group", "project", "backend"]

def ofJson? (value : Json) : Option Target := do
  match ← value.fields? fieldNames with
  | [some hub, some group, some project, some backend] =>
      pure ⟨← hub.string?, ← group.string?, ← project.string?, ← backend.string?⟩
  | _ => none

def read? (text : String) : Option Target :=
  (Json.parse? text).bind ofJson?

def json (target : Target) : String :=
  Json.writeObject (fieldNames.zip
    ([target.hub, target.group, target.project, target.backend].map Json.quote))

def description (target : Target) : String :=
  s!"DeviceTarget \x7b hub: {Text.quotedString target.hub}, " ++
    s!"group: {Text.quotedString target.group}, " ++
    s!"project: {Text.quotedString target.project}, " ++
    s!"backend: {Text.quotedString target.backend} \x7d"

end Target

end GateGame
