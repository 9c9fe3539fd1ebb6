import Whereabouts.OrderedMap
import Whereabouts.Settings.Basic
import Whereabouts.Text.Decimal

/-!
# Variables

Every setting may be given by a variable of its own, which wins over what was
configured otherwise.  A variable that is blank or malformed counts as absent.
-/

namespace Whereabouts

abbrev Variables := OrderedMap String String

namespace Variables

/-- The trimmed value of a variable that is more than blanks. -/
def text? (vars : Variables) (name : String) : Option String :=
  (vars.get? name).bind Text.nonBlank?

def count? (vars : Variables) (name : String) : Option Nat :=
  (vars.get? name).bind fun value =>
    Text.count? (UInt64.size - 1) (Text.trimmed value.toList)

/-- The elements between commas that are more than blanks, trimmed; there is at
least one. -/
def elements? (vars : Variables) (name : String) : Option (List String) :=
  (vars.get? name).bind fun value =>
    let trimmed := (Text.pieces ',' value.toList).map Text.trimmed
    match trimmed.filter fun element => !element.isEmpty with
    | [] => none
    | elements => some (elements.map String.ofList)

/-- The kind of storage that a variable names, in letters of either case. -/
def backend? (vars : Variables) (name : String) : Option Backend :=
  (vars.get? name).bind fun value =>
    let lowered := (Text.trimmed value.toList).map Char.toLower
    Backend.named.lookup (String.ofList lowered)

end Variables

namespace Settings

def overrideStorage (vars : Variables) (base : StorageSettings) : StorageSettings where
  backend := (vars.backend? "LOCSYNC_STORAGE_BACKEND").getD base.backend
  baseUrl := (vars.text? "LOCSYNC_TAPIS_BASE_URL").getD base.baseUrl
  portalUrl := (vars.text? "LOCSYNC_PORTAL_URL").getD base.portalUrl
  localRoot := (vars.text? "LOCSYNC_LOCAL_ROOT").or base.localRoot
  timeoutSeconds :=
    (vars.count? "LOCSYNC_REQUEST_TIMEOUT_SECS").getD base.timeoutSeconds
  pageSize := (vars.count? "LOCSYNC_LISTING_PAGE_SIZE").getD base.pageSize
  maxRetries := (vars.count? "LOCSYNC_MAX_RETRIES").getD base.maxRetries

def overrideEngine (vars : Variables) (base : EngineSettings) : EngineSettings where
  batchSize := (vars.count? "LOCSYNC_BATCH_SIZE").getD base.batchSize
  publicSystems := (vars.elements? "LOCSYNC_PUBLIC_SYSTEMS").getD base.publicSystems
  publishedSystem := (vars.text? "LOCSYNC_PUBLISHED_SYSTEM").getD base.publishedSystem
  publishedRootTemplate :=
    (vars.text? "LOCSYNC_PUBLISHED_ROOT_TEMPLATE").getD base.publishedRootTemplate
  projectSystemStart :=
    (vars.text? "LOCSYNC_PROJECT_SYSTEM_PREFIX").getD base.projectSystemStart
  trashNames := (vars.elements? "LOCSYNC_TRASH_DIR_NAMES").getD base.trashNames
  itemErrorLimit := base.itemErrorLimit
  runErrorLimit := base.runErrorLimit

/-- The settings with the variables over them. -/
def override (vars : Variables) (base : Settings) : Settings where
  storage := overrideStorage vars base.storage
  engine := overrideEngine vars base.engine

end Settings
end Whereabouts
