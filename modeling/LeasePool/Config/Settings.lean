import LeasePool.Coordinator
import LeasePool.Path

/-!
The settings of a configuration file, their defaults, the errors of loading and saving them, and
the pool options they give.
-/
namespace LeasePool

/-- The version of the program. -/
def version : String := "0.3.0"

/-- Which provisioner new pools use. -/
inductive ProvisionerKind where
  | plain | custom
deriving DecidableEq, Repr, Inhabited

namespace ProvisionerKind

def name : ProvisionerKind → String
  | plain => "default"
  | custom => "custom"

/-- A text that names no provisioner, trimmed and in lower case. -/
structure Unknown where
  text : String
deriving DecidableEq, Repr

def Unknown.message (e : Unknown) : String := s!"unknown initializer '{e.text}'"

def parse (s : String) : Except Unknown ProvisionerKind :=
  let word := Text.lowered (Text.trimmed s)
  if word = "default" then .ok plain
  else if word = "custom" then .ok custom
  else .error ⟨word⟩

end ProvisionerKind

namespace Config

/-! ### Places -/

/-- The configuration directory in a home directory. That there is a home directory is taken for
granted here and wherever one is named; without one the current directory would stand in. -/
def directoryIn (home : String) : String := Path.join home ".poolkeeper"

def fileIn (home : String) : String := Path.join (directoryIn home) "config.ini"

def logFileName : String := "poolkeeper.log"

end Config

/-- Everything that a configuration file sets. -/
structure Settings where
  space : String
  resource : String
  size : Nat
  provisioner : ProvisionerKind
  /-- What custom ids begin with. -/
  label : String
  purpose : Option String
  createdBy : Option String
  leaseTimeout : Option Duration
  capacity : Nat
  logFile : String
deriving DecidableEq, Repr, Inhabited

namespace Settings

def defaultSpace : String := "default"

def defaultResource : String := "resource"

def defaultLabel : String := "pool"

/-- The settings of an empty file, for a user with a home directory. -/
def default (home : String) : Settings where
  space := defaultSpace
  resource := defaultResource
  size := PoolOptions.defaultSize
  provisioner := .plain
  label := defaultLabel
  purpose := none
  createdBy := none
  leaseTimeout := none
  capacity := PoolOptions.defaultCapacity
  logFile := Path.join (Config.directoryIn home) Config.logFileName

/-- Equality, up to the spelling of the log file's path. -/
def same (a b : Settings) : Bool :=
  Path.same a.logFile b.logFile && decide ({ a with logFile := b.logFile } = b)

/-- The provisioner that the settings describe. The purpose and the creator go on every custom
resource. -/
def toProvisioner (s : Settings) : Provisioner :=
  match s.provisioner with
  | .plain => .plain
  | .custom =>
    let field (key : String) (value : Option String) (fields : Fields) : Fields :=
      match value with
      | some v => fields.insert key (.string v)
      | none => fields
    .custom s.label (field MetaKey.createdBy s.createdBy (field MetaKey.purpose s.purpose []))

/-- The options for pools started from the settings. -/
def toOptions (s : Settings) : PoolOptions := ⟨s.size, s.leaseTimeout, s.toProvisioner, s.capacity⟩

end Settings

namespace Config

/-! ### Errors -/

/-- Why a value is refused. -/
inductive Refusal where
  | blank | notPositive | unknownProvisioner | badTimeout
deriving DecidableEq, Repr

def Refusal.reason : Refusal → String
  | blank => "must not be empty"
  | notPositive => "must be a positive integer"
  | unknownProvisioner => "must be 'default' or 'custom'"
  | badTimeout => "expected format like '30s', '5m', or '1h' (0 disables)"

/-- Why a text cannot be read as settings. -/
inductive TextError where
  | notUtf8
  | malformed (place : String)
  | invalid (heading key value : String) (refusal : Refusal)
deriving DecidableEq, Repr

def TextError.message : TextError → String
  | notUtf8 => "Failed to read config file: stream did not contain valid UTF-8"
  | malformed place => "Failed to read config file: " ++ place
  | invalid heading key value refusal =>
    s!"Invalid configuration: {heading}.{key} = '{value}' - {refusal.reason}"

end Config

end LeasePool
