import Whereabouts.Command.Host
import Whereabouts.Command.Report

/-!
# Commands that inspect

Showing the file index of a remote directory, and verifying what is configured.
-/

namespace Whereabouts
namespace Command

variable {m : Type -> Type} [Monad m]

/-- The token for remote storage: a user's, or else the one in a variable. -/
def token (host : Host m) (userId : Option Int64) : Attempt m String :=
  match userId with
  | none => return (host.vars.get? "LOCSYNC_TAPIS_TOKEN").getD ""
  | some id => do
      let db <- (host.vault (<- host.locate)).snapshot
      match db.users.get? id with
      | some user => return user.token.getD ""
      | none => throw (.missingUser id)

def indexDetails (index : FileIndex) (path : String) : List String :=
  let stats := index.stats
  ["system=" ++ index.system,
    "path=" ++ path,
    "unique_filenames=" ++ Text.natText index.size,
    "files=" ++ Text.natText stats.files,
    "directories=" ++ Text.natText stats.directories,
    "skipped_subtrees=" ++ Text.natText stats.skippedSubtrees,
    "skipped_trash=" ++ Text.natText stats.skippedTrash]
    ++ (if index.isEmpty then ["no files indexed"] else [])
    ++ index.toList.map fun entry => entry.1 ++ " -> " ++ Text.joinWith ", " entry.2

/-- Shows the file index of a directory of a remote system. -/
def index (host : Host m) (system path : String) (userId : Option Int64) :
    Attempt m Report := do
  let settings <- host.settings
  let storage <- host.connect settings (<- token host userId)
  let surveyor : Surveyor m := { storage, engine := settings.engine, depth := host.depth }
  let index <- Attempt.effect (surveyor.index system path)
  return (Report.start "index").withDetails (indexDetails index path)

def variableStart : String :=
  "LOCSYNC_"

def knownVariables : List String :=
  ["LOCSYNC_BATCH_SIZE", "LOCSYNC_CONFIG_PATH", "LOCSYNC_ENV_FILE", "LOCSYNC_HOME",
    "LOCSYNC_LISTING_PAGE_SIZE", "LOCSYNC_LOCAL_ROOT", "LOCSYNC_LOG", "LOCSYNC_LOGS_DIR",
    "LOCSYNC_MAX_RETRIES", "LOCSYNC_PORTAL_URL", "LOCSYNC_PROJECT_SYSTEM_PREFIX",
    "LOCSYNC_PUBLIC_SYSTEMS", "LOCSYNC_PUBLISHED_ROOT_TEMPLATE", "LOCSYNC_PUBLISHED_SYSTEM",
    "LOCSYNC_REQUEST_TIMEOUT_SECS", "LOCSYNC_STORAGE_BACKEND", "LOCSYNC_STORE_FILE",
    "LOCSYNC_TAPIS_BASE_URL", "LOCSYNC_TAPIS_TOKEN", "LOCSYNC_TRASH_DIR_NAMES"]

/-- The names that look like the program's variables and are not allowed, in
ascending order; usually typing errors. -/
def unknownVariables (allowed names : List String) : List String :=
  let unknown := names.filter fun name =>
    (Text.after? variableStart.toList name.toList).isSome && !allowed.contains name
  unknown.mergeSort fun a b => (compare a b).isLE

/-- Verifies settings, store and variables; what is wrong becomes an issue. -/
def verify (host : Host m) (places : Places) : Attempt m Report := do
  let start := (Report.start "verify").withDetails
    ["home=" ++ places.home, "store_file=" ++ places.storeFile, "logs_dir=" ++ places.logs]
  let configured := match <- Attempt.outcome host.settings with
    | .ok settings => start.withDetails
        ["backend=" ++ settings.storage.backend.text,
          "batch_size=" ++ Text.natText settings.engine.batchSize,
          "public_systems=" ++ Text.joinWith "," settings.engine.publicSystems]
    | .error fault => start.withIssue ("config invalid: " ++ fault.message)
  let stored := match <- Attempt.outcome (host.vault places).snapshot with
    | .ok db => configured.withDetails
        ["schema_version=" ++ Text.natText db.schemaVersion.toNat,
          "projects=" ++ Text.natText db.projects.size,
          "runs=" ++ Text.natText db.runs.size]
    | .error fault => configured.withIssue ("store unreadable: " ++ fault.message)
  return (unknownVariables knownVariables host.vars.keys).foldl
    (fun report name => report.withIssue ("unrecognized environment variable " ++ name)) stored

end Command
end Whereabouts
