import Whereabouts.Json.Fields
import Whereabouts.RemotePath

/-!
# Settings

How remote storage is reached, and the rules that a check works by.
-/

namespace Whereabouts

inductive Backend where
  | http
  | local
  deriving DecidableEq, Inhabited

structure StorageSettings where
  backend : Backend
  baseUrl : String
  portalUrl : String
  localRoot : Option String
  timeoutSeconds : Nat
  pageSize : Nat
  maxRetries : Nat
  deriving DecidableEq, Inhabited

structure EngineSettings where
  batchSize : Nat
  publicSystems : List String
  publishedSystem : String
  publishedRootTemplate : String
  projectSystemStart : String
  trashNames : List String
  itemErrorLimit : Nat
  runErrorLimit : Nat
  deriving DecidableEq, Inhabited

structure Settings where
  storage : StorageSettings
  engine : EngineSettings
  deriving DecidableEq, Inhabited

namespace Backend

def text : Backend -> String
  | http => "http"
  | «local» => "local"

def named : List (String × Backend) :=
  [http, «local»].map fun backend => (backend.text, backend)

end Backend

namespace StorageSettings

def standard : StorageSettings where
  backend := .http
  baseUrl := "https://designsafe.tapis.io"
  portalUrl := "https://www.designsafe-ci.org"
  localRoot := none
  timeoutSeconds := 30
  pageSize := 1000
  maxRetries := 2

def toJson (settings : StorageSettings) : Json :=
  .obj
    [("backend", .str settings.backend.text),
      ("base_url", .str settings.baseUrl),
      ("portal_url", .str settings.portalUrl),
      ("local_root", Json.ofOption .str settings.localRoot),
      ("request_timeout_secs", .int settings.timeoutSeconds),
      ("page_size", .int settings.pageSize),
      ("max_retries", .int settings.maxRetries)]

/-- The settings that a value denotes, with the standard for what is absent;
`unit` accepts the value under a kind of storage that is given as an object. -/
def ofJson? (unit : Json -> Bool) (value : Json) : Option StorageSettings := do
  let fields <- value.fields?
    ["backend", "base_url", "portal_url", "local_root", "request_timeout_secs", "page_size",
      "max_retries"]
  let backend <- fields.orDefault? "backend" standard.backend (Json.case? unit Backend.named)
  let baseUrl <- fields.orDefault? "base_url" standard.baseUrl Json.str?
  let portalUrl <- fields.orDefault? "portal_url" standard.portalUrl Json.str?
  let localRoot <- fields.optional? "local_root" Json.str?
  let timeoutSeconds <- fields.orDefault? "request_timeout_secs" standard.timeoutSeconds
    Json.count?
  let pageSize <- fields.orDefault? "page_size" standard.pageSize Json.count?
  let maxRetries <- fields.orDefault? "max_retries" standard.maxRetries Json.count?
  return { backend, baseUrl, portalUrl, localRoot, timeoutSeconds, pageSize, maxRetries }

end StorageSettings

namespace EngineSettings

/-- The mark in a template that stands for the id of a project. -/
def projectMark : List Char :=
  ['\x7b', 'p', 'r', 'o', 'j', 'e', 'c', 't', '_', 'i', 'd', '\x7d']

def standard : EngineSettings where
  batchSize := 500
  publicSystems := ["designsafe.storage.published", "designsafe.storage.community"]
  publishedSystem := "designsafe.storage.published"
  publishedRootTemplate := "/published-data/\x7bproject_id\x7d/"
  projectSystemStart := "project-"
  trashNames := [".Trash"]
  itemErrorLimit := 100
  runErrorLimit := 200

def toJson (settings : EngineSettings) : Json :=
  .obj
    [("batch_size", .int settings.batchSize),
      ("public_systems", .arr (settings.publicSystems.map .str)),
      ("published_system", .str settings.publishedSystem),
      ("published_root_template", .str settings.publishedRootTemplate),
      ("project_system_prefix", .str settings.projectSystemStart),
      ("trash_dir_names", .arr (settings.trashNames.map .str)),
      ("item_error_max_chars", .int settings.itemErrorLimit),
      ("run_error_max_chars", .int settings.runErrorLimit)]

def ofJson? (value : Json) : Option EngineSettings := do
  let fields <- value.fields?
    ["batch_size", "public_systems", "published_system", "published_root_template",
      "project_system_prefix", "trash_dir_names", "item_error_max_chars",
      "run_error_max_chars"]
  let batchSize <- fields.orDefault? "batch_size" standard.batchSize Json.count?
  let publicSystems <- fields.orDefault? "public_systems" standard.publicSystems
    (Json.list? Json.str?)
  let publishedSystem <- fields.orDefault? "published_system" standard.publishedSystem
    Json.str?
  let publishedRootTemplate <- fields.orDefault? "published_root_template"
    standard.publishedRootTemplate Json.str?
  let projectSystemStart <- fields.orDefault? "project_system_prefix"
    standard.projectSystemStart Json.str?
  let trashNames <- fields.orDefault? "trash_dir_names" standard.trashNames
    (Json.list? Json.str?)
  let itemErrorLimit <- fields.orDefault? "item_error_max_chars" standard.itemErrorLimit
    Json.count?
  let runErrorLimit <- fields.orDefault? "run_error_max_chars" standard.runErrorLimit
    Json.count?
  return { batchSize, publicSystems, publishedSystem, publishedRootTemplate,
           projectSystemStart, trashNames, itemErrorLimit, runErrorLimit }

def isPublicSystem (settings : EngineSettings) (system : String) : Bool :=
  settings.publicSystems.contains system

/-- What names the project in the id of a project's own system. -/
def projectUuid? (settings : EngineSettings) (system : String) : Option String :=
  match Text.after? settings.projectSystemStart.toList system.toList with
  | some [] => none
  | some rest => some (String.ofList rest)
  | none => none

/-- The directory with the published copy of a project. -/
def publishedRoot (settings : EngineSettings) (projectId : String) : String :=
  String.ofList
    (Text.replaceAll projectMark projectId.toList settings.publishedRootTemplate.toList)

def isTrash (settings : EngineSettings) (path : String) : Bool :=
  let trimmed := Text.dropEnd RemotePath.isSlash path.toList
  settings.trashNames.any fun name => name.toList.isSuffixOf trimmed

end EngineSettings

namespace Settings

def standard : Settings where
  storage := .standard
  engine := .standard

def toJson (settings : Settings) : Json :=
  .obj [("storage", settings.storage.toJson), ("engine", settings.engine.toJson)]

end Settings
end Whereabouts
