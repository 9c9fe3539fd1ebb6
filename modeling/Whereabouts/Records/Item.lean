import Whereabouts.Json.Bounds
import Whereabouts.Records.Location

/-!
# Tracked items

Assets and tile servers: the two kinds of rows that have a location.
-/

namespace Whereabouts

inductive ItemKind where
  | asset
  | tileServer
  deriving DecidableEq, Inhabited

def ItemKind.text : ItemKind -> String
  | asset => "asset"
  | tileServer => "tile_server"

structure ItemKey where
  kind : ItemKind
  id : Int64
  deriving DecidableEq, Inhabited

inductive AssetType where
  | image
  | video
  | pointCloud
  | streetview
  | other
  deriving DecidableEq, Inhabited

namespace AssetType

def text : AssetType -> String
  | image => "image"
  | video => "video"
  | pointCloud => "point_cloud"
  | streetview => "streetview"
  | other => "other"

def named : List (String × AssetType) :=
  [image, video, pointCloud, streetview, other].map fun type => (type.text, type)

end AssetType

/-- A file shown on a map. -/
structure Asset where
  id : Int64
  featureId : Int64
  projectId : Int64
  assetType : AssetType
  pointCloudId : Option Int64
  location : Location
  deriving DecidableEq, Inhabited

/-- A source of map tiles; an internal one is backed by a stored file. -/
structure TileServer where
  id : Int64
  projectId : Int64
  name : String
  kind : String
  internal : Bool
  location : Location
  deriving DecidableEq, Inhabited

/-- The location's members of a record that shares its object with it: every
member that is not the record's own has to be one that can be held, with `room`
levels left for nesting. -/
def Location.ofShared? (own : List String) (room : Nat) (value : Json) :
    Option Location :=
  match value with
  | .obj members =>
      let others := members.filter fun member => !own.contains member.1.text
      if Json.membersBounded room others then
        (value.sharedFields? Location.names).bind ofFields?
      else
        none
  | _ => none

namespace Asset

def names : List String :=
  ["id", "feature_id", "project_id", "asset_type", "point_cloud_id"]

def members (asset : Asset) : List (Json.Name × Json) :=
  [("id", Json.ofInt64 asset.id),
    ("feature_id", Json.ofInt64 asset.featureId),
    ("project_id", Json.ofInt64 asset.projectId),
    ("asset_type", .str asset.assetType.text),
    ("point_cloud_id", Json.ofOption Json.ofInt64 asset.pointCloudId)]

def toJson (asset : Asset) : Json :=
  .obj (asset.members ++ asset.location.members)

/-- The asset that an object denotes, with `room` levels left for nesting. -/
def ofJson? (room : Nat) (value : Json) : Option Asset := do
  let fields <- value.sharedFields? names
  let id <- fields.required? "id" Json.int64?
  let featureId <- fields.required? "feature_id" Json.int64?
  let projectId <- fields.required? "project_id" Json.int64?
  let assetType <- fields.required? "asset_type" (Json.case? Json.isNull AssetType.named)
  let pointCloudId <- fields.optional? "point_cloud_id" Json.int64?
  let location <- Location.ofShared? names room value
  return { id, featureId, projectId, assetType, pointCloudId, location }

def key (asset : Asset) : ItemKey where
  kind := .asset
  id := asset.id

end Asset

namespace TileServer

def names : List String :=
  ["id", "project_id", "name", "kind", "internal"]

def members (server : TileServer) : List (Json.Name × Json) :=
  [("id", Json.ofInt64 server.id),
    ("project_id", Json.ofInt64 server.projectId),
    ("name", .str server.name),
    ("kind", .str server.kind),
    ("internal", .bool server.internal)]

def toJson (server : TileServer) : Json :=
  .obj (server.members ++ server.location.members)

def ofJson? (room : Nat) (value : Json) : Option TileServer := do
  let fields <- value.sharedFields? names
  let id <- fields.required? "id" Json.int64?
  let projectId <- fields.required? "project_id" Json.int64?
  let name <- fields.required? "name" Json.str?
  let kind <- fields.required? "kind" Json.str?
  let internal <- fields.required? "internal" Json.bool?
  let location <- Location.ofShared? names room value
  return { id, projectId, name, kind, internal, location }

def key (server : TileServer) : ItemKey where
  kind := .tileServer
  id := server.id

end TileServer

inductive Tracked where
  | asset (row : Asset)
  | tileServer (row : TileServer)
  deriving DecidableEq, Inhabited

namespace Tracked

def key : Tracked -> ItemKey
  | .asset row => row.key
  | .tileServer row => row.key

/-- Where the item's file came from and where it is. -/
def location : Tracked -> Location
  | .asset row => row.location
  | .tileServer row => row.location

def moved (loc : Location) : Tracked -> Tracked
  | .asset row => .asset { row with location := loc }
  | .tileServer row => .tileServer { row with location := loc }

end Tracked
end Whereabouts
