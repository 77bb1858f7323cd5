import GateGame.Error
import GateGame.Text.Blank

namespace GateGame

/-! The credentials of a device account: a token that is not blank. -/

structure Credentials where
  token : String
  notBlank : Text.isBlank token = false
  deriving DecidableEq

namespace Credentials

def ofToken (token : String) : Except Error Credentials :=
  if h : Text.isBlank token then .error (.credential .blankToken)
  else .ok ⟨token, by simpa using h⟩

def ofEnvironment (lookup : String → Option String) : Except Error Credentials :=
  match lookup tokenVariable with
  | some token => ofToken token
  | none => .error (.credential .tokenNotSet)

def description (_ : Credentials) : String :=
  "Credentials \x7b token: \"<redacted>\" \x7d"

end Credentials

end GateGame
