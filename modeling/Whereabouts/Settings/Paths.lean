import Whereabouts.Disk.Path
import Whereabouts.Settings.Variables

/-!
# Places of the program's own files
-/

namespace Whereabouts

/-- The user's home directory: the one that a variable names, or else the one that the
machine knows for the user's account. -/
def Variables.userHome? (vars : Variables) (accountHome : Option String) : Option String :=
  ((vars.get? "HOME").filter fun home => home != "").or accountHome

structure Places where
  home : String
  storeFile : String
  logs : String
  deriving DecidableEq, Inhabited

namespace Places

/-- The directory of the program: the configured one, or else one below the user's home
directory. -/
def home? (vars : Variables) (accountHome : Option String) : Option String :=
  (vars.text? "LOCSYNC_HOME").or
    ((vars.userHome? accountHome).map fun home => DiskPath.join home ".locsync")

/-- The places that the variables give when the directory of the program is known. -/
def ofVariables (vars : Variables) (home : String := (home? vars none).getD "") : Places where
  home := home
  storeFile := (vars.text? "LOCSYNC_STORE_FILE").getD (DiskPath.join home "store.json")
  logs := (vars.text? "LOCSYNC_LOGS_DIR").getD (DiskPath.join home "logs")

def settingsFile? (vars : Variables) (accountHome : Option String) : Option String :=
  (vars.text? "LOCSYNC_CONFIG_PATH").or
    ((home? vars accountHome).map fun home => DiskPath.join home "locsync.toml")

end Places
end Whereabouts
