import GateGame.Operation
import GateGame.Text.Quoted

namespace GateGame

/-! The script of a game: gate letters, each followed by the digits of the
players it is played on, without anything in between. -/

def maxPlayers : Nat := 5

/-- One gate played on one or two players, counted from zero, and the place of
its letter in the script. -/
structure Instruction where
  operation : Operation Nat
  position : Nat
  deriving DecidableEq

inductive ScriptError where
  | playerCount (players : Nat)
  | unknownGate (position : Nat) (found : Char)
  | truncated (position : Nat) (gate : Gate)
  | operandOutOfRange (position : Nat) (found : Char)
  | repeatedOperand (position : Nat) (gate : Gate) (operand : Char)
  deriving DecidableEq

namespace ScriptError

def position? : ScriptError → Option Nat
  | .playerCount _ => none
  | .unknownGate position _ | .truncated position _ | .operandOutOfRange position _
  | .repeatedOperand position _ _ => some position

def message : ScriptError → String
  | .playerCount players => s!"player count {players} is outside 1..={maxPlayers}"
  | .unknownGate position found =>
      s!"unknown gate code {Text.quotedChar found} at position {position}"
  | .truncated position gate =>
      s!"gate {gate.letter} at position {position} is missing operands"
  | .operandOutOfRange position found =>
      s!"operand {Text.quotedChar found} at position {position} is not a player number"
  | .repeatedOperand position gate operand =>
      s!"gate {gate.letter} at position {position} uses player {Text.quotedChar operand} twice"

end ScriptError

structure Scan where
  instructions : List Instruction
  stop : Option ScriptError
  deriving DecidableEq

namespace Script

/-- The player that a character names when `players` take part: the characters
from '1' on, as many as there are players. -/
def player? (players : Nat) (c : Char) : Option Nat :=
  if '1'.toNat ≤ c.toNat ∧ c.toNat - '1'.toNat < players then some (c.toNat - '1'.toNat)
  else none

/-- Reads a script from the character at `position` on. A gate first needs all
its characters, then players in range from the left, then two that differ. -/
def scanFrom (players : Nat) : Nat → List Char → Scan
  | _, [] => ⟨[], none⟩
  | position, c :: rest =>
      match Gate.ofChar? c, rest with
      | none, _ => ⟨[], some (.unknownGate position c)⟩
      | some (.single gate), [] => ⟨[], some (.truncated position (.single gate))⟩
      | some (.single gate), a :: rest =>
          match player? players a with
          | none => ⟨[], some (.operandOutOfRange (position + 1) a)⟩
          | some target =>
              let scan := scanFrom players (position + 2) rest
              ⟨⟨.single gate target, position⟩ :: scan.instructions, scan.stop⟩
      | some (.pair gate), a :: b :: rest =>
          match player? players a, player? players b with
          | none, _ => ⟨[], some (.operandOutOfRange (position + 1) a)⟩
          | some _, none => ⟨[], some (.operandOutOfRange (position + 2) b)⟩
          | some first, some second =>
              if a = b then ⟨[], some (.repeatedOperand position (.pair gate) a)⟩
              else
                let scan := scanFrom players (position + 3) rest
                ⟨⟨.pair gate first second, position⟩ :: scan.instructions, scan.stop⟩
      | some (.pair gate), _ => ⟨[], some (.truncated position (.pair gate))⟩

/-- Reads a whole script. The number of players is not bounded here. -/
def scan (script : String) (players : Nat) : Scan :=
  scanFrom players 0 script.toList

def isPlayerCount (players : Nat) : Bool :=
  1 ≤ players && players ≤ maxPlayers

def validate (script : String) (players : Nat) : Except ScriptError Unit :=
  if isPlayerCount players then
    match (scan script players).stop with
    | none => .ok ()
    | some error => .error error
  else .error (.playerCount players)

def isValid (script : String) (players : Nat) : Bool :=
  (validate script players).isOk

/-- Whether there is something to execute: an empty script is valid, but plays
nothing. -/
def isPlayable (script : String) (players : Nat) : Bool :=
  !script.isEmpty && isValid script players

end Script

end GateGame
