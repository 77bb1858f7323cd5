import GateGame.Script.Basic

namespace GateGame

/-! What can go wrong while a game is built, executed or scored. Each kind lists
the causes that this library finds by itself; `reported` carries the words of a
collaborator such as a device. -/

def wireName (wire : Nat) : String := s!"q{wire}"

def maxWires : Nat := 16

inductive TokenFault where
  | script (error : ScriptError)
  | operandMissing (gate : Gate)
  | reported (reason : String)
  deriving DecidableEq

inductive SeatingFault where
  | assignedTwice (wire : Nat)
  | outside (wire size : Nat)
  | sizeMismatch (seated players : Nat)
  | unseated (player : Nat)
  | reported (reason : String)
  deriving DecidableEq

inductive NoiseField where
  | single
  | pair
  | readout
  deriving DecidableEq

inductive NoiseFault where
  | notProbability (field : NoiseField) (written : String)
  | reported (reason : String)
  deriving DecidableEq

inductive SimulationFault where
  | wireOutside (wire wires : Nat)
  | wireRepeated (gate : Gate) (wire : Nat)
  | bitOutside (bit bits : Nat)
  | tooManyWires (wires : Nat)
  | wireMissing (wire wires : Nat)
  | pairOfOne
  | notNormalized (sum tolerance : String)
  | reported (reason : String)
  deriving DecidableEq

inductive DeviceFault where
  | noSession
  | reported (reason : String)
  deriving DecidableEq

inductive CredentialFault where
  | blankToken
  | tokenNotSet
  | reported (reason : String)
  deriving DecidableEq

inductive OutcomeFault where
  | malformed
  | notBitstring (key : String)
  | reported (reason : String)
  deriving DecidableEq

inductive Error where
  | unrecognizedToken (position : Nat) (fault : TokenFault)
  | invalidPlayerCount (players : Nat)
  | invalidSeating (fault : SeatingFault)
  | invalidNoise (fault : NoiseFault)
  | simulation (fault : SimulationFault)
  | deviceUnavailable (fault : DeviceFault)
  | credential (fault : CredentialFault)
  | executionFailed (reason : String)
  | invalidOutcome (fault : OutcomeFault)
  deriving DecidableEq

def tokenVariable : String := "QCARDS_DEVICE_TOKEN"

def TokenFault.message : TokenFault → String
  | .script error => error.message
  | .operandMissing gate => s!"gate {gate.letter} is missing an operand"
  | .reported reason => reason

def SeatingFault.message : SeatingFault → String
  | .assignedTwice wire => s!"qubit {wire} is assigned to more than one player"
  | .outside wire size => s!"qubit {wire} is outside 0..{size}"
  | .sizeMismatch seated players =>
      s!"permutation covers {seated} players, game has {players}"
  | .unseated player => s!"no qubit assigned to player {player + 1}"
  | .reported reason => reason

def NoiseField.name : NoiseField → String
  | .single => "single_qubit_error"
  | .pair => "two_qubit_error"
  | .readout => "readout_error"

def NoiseFault.message : NoiseFault → String
  | .notProbability field written => s!"{field.name} = {written} is not a probability"
  | .reported reason => reason

def SimulationFault.message : SimulationFault → String
  | .wireOutside wire wires =>
      s!"Qubit {wireName wire} is outside a {wires}-qubit register"
  | .wireRepeated gate wire =>
      s!"{gate.name} requires two distinct qubits, got {wireName wire} twice"
  | .bitOutside bit bits => s!"Classical bit {bit} is outside a {bits}-bit register"
  | .tooManyWires wires => s!"{wires} qubits exceeds the simulator limit of {maxWires}"
  | .wireMissing wire wires =>
      s!"Qubit {wireName wire} not found in a {wires}-qubit simulation"
  | .pairOfOne => "Target qubits for a two-qubit gate cannot be the same"
  | .notNormalized sum tolerance =>
      s!"State vector normalization failed. Sum(|c_i|^2) = {sum} (Deviation > {tolerance})"
  | .reported reason => reason

def DeviceFault.message : DeviceFault → String
  | .noSession => "device execution requested but no device session is configured"
  | .reported reason => reason

def CredentialFault.message : CredentialFault → String
  | .blankToken => "API token is empty"
  | .tokenNotSet => s!"{tokenVariable} is not set"
  | .reported reason => reason

def OutcomeFault.message : OutcomeFault → String
  | .malformed => "malformed outcome counts"
  | .notBitstring key => s!"Outcome key {Text.quotedString key} is not a bitstring"
  | .reported reason => reason

def Error.message : Error → String
  | .unrecognizedToken position fault =>
      s!"Unrecognized token at position {position}: {fault.message}"
  | .invalidPlayerCount players =>
      s!"Invalid player count {players}: expected 1 to {maxPlayers}"
  | .invalidSeating fault => s!"Invalid permutation: {fault.message}"
  | .invalidNoise fault => s!"Invalid noise profile: {fault.message}"
  | .simulation fault => s!"Simulation error: {fault.message}"
  | .deviceUnavailable fault => s!"Device unavailable: {fault.message}"
  | .credential fault => s!"Credential error: {fault.message}"
  | .executionFailed reason => s!"Execution failed: {reason}"
  | .invalidOutcome fault => s!"Invalid outcome data: {fault.message}"

end GateGame
