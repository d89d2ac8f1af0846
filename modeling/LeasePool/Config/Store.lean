import LeasePool.Config.Reading
import LeasePool.Config.Writing

/-!
The configuration file in its directory: loading, saving, and creating it when it is missing. A
plain file may stand where the directory should be, and a directory where the file should be.
-/
namespace LeasePool.Config

/-- What stands at the place of the configuration file. -/
inductive FileState where
  | absent
  | file (bytes : ByteArray)
  | directory

/-- What stands at the place of the configuration directory. -/
inductive Store where
  | absent
  | blocked
  | present (file : FileState)

/-- Why loading or saving failed. Only the text's own errors have a wording here. -/
inductive StoreError where
  | text (e : TextError)
  | unreadable
  | unwritable
  | noDirectory

namespace Store

def fileState : Store → FileState
  | present file => file
  | _ => .absent

/-- Whether anything stands at the file's place. -/
def hasFile (s : Store) : Bool :=
  match s.fileState with
  | .absent => false
  | _ => true

/-- Loads the settings; a missing file gives the defaults. -/
def load (home : String) (s : Store) : Except StoreError Settings :=
  match s.fileState with
  | .absent => .ok (.default home)
  | .directory => .error .unreadable
  | .file bytes =>
    match Settings.ofBytes home bytes with
    | .ok settings => .ok settings
    | .error e => .error (.text e)

/-- Writes the file, creating the directory. -/
def write (bytes : ByteArray) : Store → Except StoreError Store
  | blocked => .error .noDirectory
  | present .directory => .error .unwritable
  | _ => .ok (.present (.file bytes))

def save (settings : Settings) (s : Store) : Except StoreError Store :=
  s.write settings.render.toUTF8

/-- Writes the defaults unless something stands at the file's place. -/
def ensureExists (home : String) (s : Store) : Except StoreError Store :=
  if s.hasFile then .ok s else s.save (.default home)

/-- Deletes the file, if it is one. -/
def remove? : Store → Option Store
  | present (.file _) => some (.present .absent)
  | _ => none

/-- The text of the file, when it can be read. -/
def text? (s : Store) : Option String :=
  match s.fileState with
  | .file bytes => String.fromUTF8? bytes
  | _ => none

end Store

end LeasePool.Config
