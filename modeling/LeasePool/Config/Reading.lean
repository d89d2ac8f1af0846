import LeasePool.Config.Document
import LeasePool.Config.Settings

/-!
Settings from the text of a configuration file. Every key is optional; a value that is refused is
reported with its section and key, the first one in the order of the settings.
-/
namespace LeasePool

open Text

namespace Config

/-- A value that must not be blank, trimmed. -/
def requireText (heading key value : String) : Except TextError String :=
  match nonBlank? value with
  | some s => .ok s
  | none => .error (.invalid heading key value .blank)

/-- A positive number of at most 64 bits. -/
def requirePositive (heading key value : String) : Except TextError Nat :=
  match word? (trim value.toList) with
  | some (n + 1) => .ok (n + 1)
  | _ => .error (.invalid heading key value .notPositive)

def requireProvisioner (heading key value : String) : Except TextError ProvisionerKind :=
  match ProvisionerKind.parse value with
  | .ok kind => .ok kind
  | .error _ => .error (.invalid heading key value .unknownProvisioner)

/-- A lease timeout; zero means none. -/
def requireTimeout (heading key value : String) : Except TextError (Option Duration) :=
  match Duration.parse value with
  | .ok d => .ok (if d.isZero then none else some d)
  | .error _ => .error (.invalid heading key value .badTimeout)

/-- The value of a key, or a default when the key is absent. -/
def orDefault (doc : Document) (heading key : String) (d : α)
    (read : String → String → String → Except TextError α) : Except TextError α :=
  match doc.value? heading key with
  | some value => read heading key value
  | none => .ok d

/-- The text of a key that is neither absent nor blank. -/
def nonBlankValue? (doc : Document) (heading key : String) : Option String :=
  (doc.value? heading key).bind nonBlank?

/-- A path with a leading `~/` replaced by the home directory. It would stay as it is if there were
none, which is left out. -/
def expandHome (home path : String) : String :=
  match path.toList with
  | '~' :: '/' :: rest => Path.join home (String.ofList rest)
  | _ => path

end Config

namespace Settings

open Config

/-- The settings of a document, with defaults for what it leaves out. -/
def ofDocument (home : String) (doc : Document) : Except TextError Settings := do
  let d := Settings.default home
  let space ← orDefault doc "pool" "namespace" d.space requireText
  let resource ← orDefault doc "pool" "resource_id" d.resource requireText
  let size ← orDefault doc "pool" "size" d.size requirePositive
  let provisioner ← orDefault doc "pool" "initializer" d.provisioner requireProvisioner
  let leaseTimeout ←
    if (nonBlankValue? doc "lease" "timeout").isSome then
      orDefault doc "lease" "timeout" none requireTimeout
    else .ok none
  let capacity ← orDefault doc "coordinator" "channel_capacity" d.capacity requirePositive
  .ok {
    space, resource, size, provisioner
    label := (nonBlankValue? doc "pool" "prefix").getD d.label
    purpose := nonBlankValue? doc "pool" "purpose"
    createdBy := nonBlankValue? doc "pool" "created_by"
    leaseTimeout, capacity
    logFile := ((nonBlankValue? doc "logging" "file").map (expandHome home)).getD d.logFile }

/-- The settings that a text holds. -/
def parse (home text : String) : Except TextError Settings :=
  match Document.scan text.toList with
  | .ok doc => ofDocument home doc
  | .error f => .error (.malformed f.message)

/-- The settings that the bytes of a file hold. A byte order mark at the start is skipped. -/
def ofBytes (home : String) (bytes : ByteArray) : Except TextError Settings :=
  let bytes :=
    if (bytes.extract 0 3).toList = [0xef, 0xbb, 0xbf] then bytes.extract 3 bytes.size else bytes
  match String.fromUTF8? bytes with
  | some text => parse home text
  | none => .error .notUtf8

end Settings

end LeasePool
