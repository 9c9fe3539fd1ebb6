import Whereabouts.Fault
import Whereabouts.Remote.Gateway
import Whereabouts.Storage.Directory

/-!
# Connections

The remote storage that the settings name.
-/

namespace Whereabouts

/-- Remote storage of the configured kind, for the user with a token. -/
def connect {m : Type -> Type} [Monad m] (disk : Disk m) (peer : Peer m)
    (settings : Settings) (token : String) : Attempt m (Storage m) :=
  match settings.storage.backend with
  | .http => return (Gateway.ofSettings peer settings token).storage
  | .local =>
      match settings.storage.localRoot with
      | some root => return (DirectoryStorage.storage { disk, root })
      | none => throw .noLocalRoot

end Whereabouts
