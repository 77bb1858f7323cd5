import GateGame.Device.Basic
import GateGame.Device.Credentials
import GateGame.Device.Target

namespace GateGame

/-! Device sessions: credentials are loaded and the device is connected when it
is first needed, and kept from then on. -/

structure Provider (α σ : Type) where
  connect : Credentials → Target → Outside σ (Device α σ)

structure Session (α σ : Type) where
  provider : Provider α σ
  loadCredentials : Outside σ Credentials
  target : Target
  device : Option (Device α σ)

namespace Session

variable {α σ : Type}

def ofProvider (provider : Provider α σ) (lookup : String → Option String) :
    Session α σ where
  provider := provider
  loadCredentials := ExceptT.mk (pure (Credentials.ofEnvironment lookup))
  target := Target.ofEnvironment lookup
  device := none

def withCredentials (session : Session α σ) (credentials : Credentials) : Session α σ :=
  { session with loadCredentials := pure credentials }

def withLoader (session : Session α σ) (loader : Outside σ Credentials) : Session α σ :=
  { session with loadCredentials := loader }

def withTarget (session : Session α σ) (target : Target) : Session α σ :=
  { session with target }

def isInitialized (session : Session α σ) : Bool :=
  session.device.isSome

def open? (session : Session α σ) : Outside σ (Device α σ) := do
  session.provider.connect (← session.loadCredentials) session.target

/-- The device of a session, and the session after it was asked for: connected if
it was not, and unchanged if that fails. -/
def ensure (session : Session α σ) : StateM σ (Except Error (Device α σ) × Session α σ) :=
  match session.device with
  | some device => pure (.ok device, session)
  | none => do
      match ← session.open?.run with
      | .ok device => pure (.ok device, { session with device := some device })
      | .error error => pure (.error error, session)

def description (session : Session α σ) : String :=
  s!"DeviceSession \x7b target: {session.target.description}, " ++
    s!"initialized: {session.isInitialized} \x7d"

end Session

end GateGame
