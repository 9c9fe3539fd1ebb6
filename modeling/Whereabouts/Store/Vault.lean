import Whereabouts.Fault
import Whereabouts.Records.Database

/-!
# Vaults

A vault keeps one database.  A transaction reads it, changes it and writes it
back, and writes nothing when the change fails.
-/

namespace Whereabouts

/-- What keeps a database. -/
structure Vault (m : Type -> Type) where
  load : Attempt m Database
  save : Database -> Attempt m Unit

namespace Vault

variable {m : Type -> Type} [Monad m] {α : Type}

def snapshot (vault : Vault m) : Attempt m Database :=
  vault.load

/-- Changes the database, unless the change fails. -/
def transaction (vault : Vault m) (change : Database -> Except Fault (α × Database)) :
    Attempt m α := do
  let db <- vault.load
  match change db with
  | .error fault => throw fault
  | .ok (result, changed) =>
      vault.save changed
      return result

end Vault
end Whereabouts
