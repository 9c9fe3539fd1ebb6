import Whereabouts.Store.Vault

/-!
# Sessions

A unit of work over a vault.  Rows are read from a snapshot that is taken when it
is first needed, and changed locations wait until they are committed together.
-/

namespace Whereabouts

/-- Changed locations that wait to be written. -/
structure Pending where
  assets : Table Location
  tileServers : Table Location
  deriving DecidableEq, Inhabited

namespace Pending

def empty : Pending where
  assets := .empty
  tileServers := .empty

def size (pending : Pending) : Nat :=
  pending.assets.size + pending.tileServers.size

def isEmpty (pending : Pending) : Bool :=
  pending.assets.isEmpty && pending.tileServers.isEmpty

def insert (pending : Pending) (key : ItemKey) (loc : Location) : Pending :=
  match key.kind with
  | .asset => { pending with assets := pending.assets.insert key.id loc }
  | .tileServer => { pending with tileServers := pending.tileServers.insert key.id loc }

/-- The waiting locations: those of assets, then those of tile servers. -/
def toList (pending : Pending) : List (ItemKey × Location) :=
  pending.assets.entries.map (fun entry => ({ kind := .asset, id := entry.1 }, entry.2))
    ++ pending.tileServers.entries.map
      (fun entry => ({ kind := .tileServer, id := entry.1 }, entry.2))

/-- The database with the waiting locations of the rows that it has. -/
def apply (pending : Pending) (db : Database) : Database :=
  pending.toList.foldl (fun db entry => db.setLocation entry.1 entry.2) db

/-- The number of waiting locations whose row a database has. -/
def present (pending : Pending) (db : Database) : Nat :=
  (pending.toList.filter fun entry => (db.location? entry.1).isSome).length

end Pending

/-- The snapshot that rows are read from, and what waits to be written. -/
structure Session where
  loaded : Option Database
  pending : Pending
  deriving Inhabited

namespace Session

def start : Session where
  loaded := none
  pending := .empty

def stage (session : Session) (key : ItemKey) (loc : Location) : Session :=
  { session with pending := session.pending.insert key loc }

def rollback (session : Session) : Session :=
  { session with pending := .empty }

/-- The session without its snapshot, so that the next read takes a new one. -/
def expire (session : Session) : Session :=
  { session with loaded := none }

variable {m : Type -> Type} [Monad m]

/-- The snapshot, which is taken now if there is none. -/
def database (vault : Vault m) (session : Session) : Attempt m (Database × Session) :=
  match session.loaded with
  | some db => return (db, session)
  | none => do
      let db <- vault.snapshot
      return (db, { session with loaded := some db })

def asset? (vault : Vault m) (session : Session) (id : Int64) :
    Attempt m (Option Asset × Session) := do
  let (db, next) <- session.database vault
  return (db.assets.get? id, next)

def tileServer? (vault : Vault m) (session : Session) (id : Int64) :
    Attempt m (Option TileServer × Session) := do
  let (db, next) <- session.database vault
  return (db.tileServers.get? id, next)

/-- Writes all that waits in one transaction and returns the number of rows it
was written to.  Whether or not that succeeds, nothing waits afterwards. -/
def commit (vault : Vault m) (session : Session) : m (Except Fault Nat × Session) := do
  if session.pending.isEmpty then
    return (.ok 0, session)
  else
    let pending := session.pending
    let written <- (vault.transaction fun db =>
      .ok (pending.present db, pending.apply db)).run
    match written with
    | .ok count =>
        return (.ok count, { loaded := session.loaded.map pending.apply, pending := .empty })
    | .error fault => return (.error fault, { session with pending := .empty })

end Session
end Whereabouts
