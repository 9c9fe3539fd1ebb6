import Whereabouts.Fault
import Whereabouts.Settings.Paths
import Whereabouts.Settings.Validity
import Whereabouts.Toml.Reader

/-!
# Loading settings

Three layers: the standard settings, the file, whose sections replace those of
the standard as a whole, and the variables.  The result must be valid.
-/

namespace Whereabouts
namespace Settings

/-- Whether a value is an empty table or array, which may stand under the name of
a kind of storage. -/
def isEmptyGroup : Json -> Bool
  | .obj members => members.isEmpty
  | .arr items => items.isEmpty
  | _ => false

/-- The section with at most `limit` items, when it is given as an array. -/
def atMost (limit : Nat) : Json -> Json
  | .arr items => .arr (items.take limit)
  | value => value

/-- The settings with the sections of a file in place of their own. -/
def withFile? (base : Settings) (file : Json) : Option Settings := do
  let fields <- file.fields? ["storage", "engine"]
  let storage <- fields.orDefault? "storage" base.storage fun section' =>
    StorageSettings.ofJson? isEmptyGroup (atMost 7 section')
  let engine <- fields.orDefault? "engine" base.engine fun section' =>
    EngineSettings.ofJson? (atMost 8 section')
  return { storage, engine }

/-- The settings of the standard and the text of a file. -/
def ofFileText? (text : String) : Option Settings :=
  (Toml.parse? text.toList).bind (withFile? .standard)

def checked (settings : Settings) : Except Fault Settings :=
  match settings.problem? with
  | some problem => .error (.invalidSettings problem)
  | none => .ok settings

variable {m : Type -> Type} [Monad m]

/-- The settings of the standard and the file, when there is one. -/
def loadFile (disk : Disk m) : Option String -> Attempt m Settings
  | none => return .standard
  | some path => do
      if <- Attempt.effect (disk.pathExists path) then
        let text <- Attempt.ofFiling (disk.read path)
        match ofFileText? text with
        | some settings => return settings
        | none => throw (.unreadableSettings path "it is no valid document")
      else
        return .standard

/-- The settings of all three layers. -/
def load (disk : Disk m) (vars : Variables) (accountHome : Option String := none) :
    Attempt m Settings := do
  let base <- loadFile disk (Places.settingsFile? vars accountHome)
  ExceptT.mk (pure (checked (base.override vars)))

end Settings
end Whereabouts
