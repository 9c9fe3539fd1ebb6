import Whereabouts.Instant.Printer
import Whereabouts.Instant.Reader
import Whereabouts.Json.Fields

/-!
# Locations

Where a tracked file came from, where it is now, whether that place is public,
and which external project it belongs to.
-/

namespace Whereabouts

/-- The location of one tracked file.  Every part may be unknown. -/
structure Location where
  originSystem : Option String
  originPath : Option String
  currentSystem : Option String
  currentPath : Option String
  externalId : Option String
  isPublic : Option Bool
  checkedAt : Option Instant
  deriving DecidableEq, Inhabited

def Json.instant? (value : Json) : Option Instant :=
  value.str?.bind Instant.ofText?

def Json.ofInstant (time : Instant) : Json :=
  .str time.text

namespace Location

def unknown : Location where
  originSystem := none
  originPath := none
  currentSystem := none
  currentPath := none
  externalId := none
  isPublic := none
  checkedAt := none

def withOrigin (loc : Location) (system path : String) : Location :=
  { loc with originSystem := some system, originPath := some path }

def withCurrent (loc : Location) (system path : String) : Location :=
  { loc with currentSystem := some system, currentPath := some path }

def withPublic (loc : Location) (verdict : Bool) : Location :=
  { loc with isPublic := some verdict }

def withExternalId (loc : Location) (id : String) : Location :=
  { loc with externalId := some id }

/-- The location with the time of its latest check. -/
def touched (loc : Location) (time : Instant) : Location :=
  { loc with checkedAt := some time }

def names : List String :=
  ["original_system", "original_path", "current_system", "current_path",
    "external_project_id", "is_on_public_system", "last_checked_at"]

def members (loc : Location) : List (Json.Name × Json) :=
  [("original_system", Json.ofOption .str loc.originSystem),
    ("original_path", Json.ofOption .str loc.originPath),
    ("current_system", Json.ofOption .str loc.currentSystem),
    ("current_path", Json.ofOption .str loc.currentPath),
    ("external_project_id", Json.ofOption .str loc.externalId),
    ("is_on_public_system", Json.ofOption .bool loc.isPublic),
    ("last_checked_at", Json.ofOption Json.ofInstant loc.checkedAt)]

/-- The location of the members of a record; an absent part is unknown. -/
def ofFields? (fields : Json.Fields) : Option Location := do
  let originSystem <- fields.optional? "original_system" Json.str?
  let originPath <- fields.optional? "original_path" Json.str?
  let currentSystem <- fields.optional? "current_system" Json.str?
  let currentPath <- fields.optional? "current_path" Json.str?
  let externalId <- fields.optional? "external_project_id" Json.str?
  let isPublic <- fields.optional? "is_on_public_system" Json.bool?
  let checkedAt <- fields.optional? "last_checked_at" Json.instant?
  return { originSystem, originPath, currentSystem, currentPath, externalId, isPublic,
           checkedAt }

def toJson (loc : Location) : Json :=
  .obj loc.members

def ofJson? (value : Json) : Option Location :=
  (value.fields? names).bind ofFields?

end Location
end Whereabouts
