import Coursework.Numeral.Natural
import Coursework.Text.Blank
import Coursework.Text.Quoted

/-!
# Settings

The settings of the server come from environment variables. The address of the backend is
required, and is kept without blanks around it and without slashes at its end; the numbers have
defaults. The first variable at fault is reported, and for a number the message quotes the value
as it was given.
-/

namespace Coursework.Server

/-- The variables, so far as they are set to a text. -/
structure Environment where
  backendUrl : Option String
  port : Option String
  proxyTimeout : Option String
  deriving DecidableEq

/-- A setting that comes from a variable. -/
inductive Setting where
  | backendUrl
  | port
  | proxyTimeout
  deriving DecidableEq

/-- The name of the variable. -/
def Setting.variableName : Setting → String
  | backendUrl => "QF_BACKEND_URL"
  | port => "PORT"
  | proxyTimeout => "QF_PROXY_TIMEOUT_SECS"

/-- Why there are no settings. -/
inductive SettingsFault where
  | missing (setting : Setting)
  | invalid (setting : Setting) (value : String)
  deriving DecidableEq

/-- The fault in words. -/
def SettingsFault.message : SettingsFault → String
  | missing setting => "missing required environment variable " ++ setting.variableName
  | invalid setting value =>
    "invalid value for " ++ setting.variableName ++ ": " ++ Text.quoted value

/-- The settings of the server. -/
structure Settings where
  port : UInt16
  /-- The address of the backend, without a slash at its end. -/
  backendUrl : String
  /-- How long to wait for the backend, in seconds. -/
  proxyTimeout : UInt64
  deriving DecidableEq

namespace Settings

def defaultPort : Nat := 3000
def defaultProxyTimeout : Nat := 30

/-- The address of the backend as it is kept. -/
def normalBackendUrl (value : String) : String :=
  Text.dropEndWhile (· = '/') (Text.trim value)

/-- A number, with blanks around it allowed. -/
def number (setting : Setting) (greatest absent : Nat) : Option String → Except SettingsFault Nat
  | none => .ok absent
  | some value =>
    match Numeral.readNat? greatest (Text.trim value) with
    | some number => .ok number
    | none => .error (.invalid setting value)

/-- The address of the backend, which may not be empty. -/
def backend (value : Option String) : Except SettingsFault String :=
  match (value.map normalBackendUrl).filter (· ≠ "") with
  | some url => .ok url
  | none => .error (.missing .backendUrl)

/-- An address is kept in its normal form. -/
theorem backend_eq_ok_iff {value : Option String} {url : String} :
    backend value = .ok url ↔ value.map normalBackendUrl = some url ∧ url ≠ "" := by
  have kept : (value.map normalBackendUrl).filter (· ≠ "") = some url ↔
      value.map normalBackendUrl = some url ∧ url ≠ "" := by
    simp [Option.filter_eq_some_iff]
  rw [← kept]
  unfold backend
  cases (value.map normalBackendUrl).filter (· ≠ "") <;> simp

/-- The settings that the variables give. -/
def ofEnvironment (environment : Environment) : Except SettingsFault Settings := do
  let backendUrl ← backend environment.backendUrl
  let port ← number .port Numeral.greatest16 defaultPort environment.port
  let proxyTimeout ←
    number .proxyTimeout Numeral.greatest64 defaultProxyTimeout environment.proxyTimeout
  return ⟨.ofNat port, backendUrl, .ofNat proxyTimeout⟩

/-- Settings are accepted exactly if each variable gives its own. -/
theorem ofEnvironment_eq_ok_iff {environment : Environment} {settings : Settings} :
    ofEnvironment environment = .ok settings ↔
      ∃ backendUrl port proxyTimeout,
        backend environment.backendUrl = .ok backendUrl ∧
        number .port Numeral.greatest16 defaultPort environment.port = .ok port ∧
        number .proxyTimeout Numeral.greatest64 defaultProxyTimeout environment.proxyTimeout =
          .ok proxyTimeout ∧
        settings = ⟨.ofNat port, backendUrl, .ofNat proxyTimeout⟩ := by
  unfold ofEnvironment
  cases backend environment.backendUrl with
  | error fault => simp [bind, Except.bind]
  | ok url =>
    cases number .port Numeral.greatest16 defaultPort environment.port with
    | error fault => simp [bind, Except.bind]
    | ok port =>
      cases number .proxyTimeout Numeral.greatest64 defaultProxyTimeout
          environment.proxyTimeout with
      | error fault => simp [bind, Except.bind]
      | ok proxyTimeout => simp [bind, Except.bind, pure, Except.pure, eq_comm]

end Settings

end Coursework.Server
