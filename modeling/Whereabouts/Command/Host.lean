import Whereabouts.Check.Sweep
import Whereabouts.Remote.Connection
import Whereabouts.Settings.Load
import Whereabouts.Store.File

/-!
# Hosts

Everything that a command is given by the machine it runs on.
-/

namespace Whereabouts

/-- What a command is given by the machine it runs on. -/
structure Host (m : Type -> Type) where
  disk : Disk m
  clock : Clock m
  peer : Peer m
  vars : Variables
  /-- How many levels an index may go down. -/
  depth : Nat
  /-- The home directory that the machine knows for the user's account. -/
  accountHome : Option String := none

namespace Host

variable {m : Type -> Type} [Monad m]

def places (host : Host m) : Except Fault Places :=
  match Places.home? host.vars host.accountHome with
  | some home => .ok (Places.ofVariables host.vars home)
  | none => .error .noHome

/-- The places, without which nothing goes on. -/
def locate (host : Host m) : Attempt m Places :=
  ExceptT.mk (pure host.places)

def vault (host : Host m) (places : Places) : Vault m :=
  (StoreFile.ofPath places.storeFile).vault host.disk

def trail (host : Host m) (places : Places) : Trail m :=
  .inDirectory host.disk host.clock places.logs

def settings (host : Host m) : Attempt m Settings :=
  Settings.load host.disk host.vars host.accountHome

def connect (host : Host m) (settings : Settings) (token : String) : Attempt m (Storage m) :=
  Whereabouts.connect host.disk host.peer settings token

end Host

/-- What the commands on checks work with. -/
structure CommandContext (m : Type -> Type) where
  vault : Vault m
  clock : Clock m
  trail : Trail m
  settings : Attempt m Settings
  connect : Settings -> (token : String) -> Attempt m (Storage m)
  depth : Nat

def Host.commandContext {m : Type -> Type} [Monad m] (host : Host m) (places : Places) :
    CommandContext m where
  vault := host.vault places
  clock := host.clock
  trail := host.trail places
  settings := host.settings
  connect := host.connect
  depth := host.depth

def CommandContext.checker {m : Type -> Type} (ctx : CommandContext m) (settings : Settings) :
    Checker m where
  vault := ctx.vault
  clock := ctx.clock
  trail := ctx.trail
  engine := settings.engine
  depth := ctx.depth

end Whereabouts
