import Whereabouts.Json.Bounds
import Whereabouts.Json.Reader
import Whereabouts.Remote.Url
import Whereabouts.Settings.Basic
import Whereabouts.Storage.Basic

/-!
# Gateways

Remote storage behind a files API over HTTP, and a portal that knows the external
projects.  Listings come in pages, and a request that fails for a passing reason
is sent again.
-/

namespace Whereabouts

/-- A request of the one kind that is needed: `GET`, with the user's token. -/
structure Request where
  url : Url
  token : String

inductive Reply where
  | response (status : Nat) (body : String)
  | dropped
  deriving DecidableEq, Inhabited

structure Peer (m : Type -> Type) where
  send : Request -> m Reply
  pause : Nat -> m Unit

/-- A files API and a portal, and how they are asked. -/
structure Gateway (m : Type -> Type) where
  peer : Peer m
  baseUrl : String
  portalUrl : String
  token : String
  pageSize : Nat
  maxRetries : Nat
  projectSystemStart : String
  /-- How many pages a listing may have. -/
  pageBudget : Nat

namespace Gateway

/-! ## Addresses -/

/-- The segments of a path that are not empty, percent-encoded, with one slash
between each two. -/
def encodedPath (path : String) : List Char :=
  let segments := (Text.pieces '/' path.toList).filter fun segment => !segment.isEmpty
  Text.joined '/' (segments.map Text.percentEncoded)

def bareUrl (url : String) : String :=
  String.ofList ((url.toList.reverse.dropWhile fun c => c = '/').reverse)

/-- The address of a path of a system below an endpoint. -/
def address (base endpoint system path : String) : String :=
  base ++ endpoint ++ String.ofList (Text.percentEncoded system.toList) ++ "/"
    ++ String.ofList (encodedPath path)

def pageParameters (pageSize offset : Nat) : List Char :=
  "limit=".toList ++ Text.decimal pageSize ++ "&offset=".toList ++ Text.decimal offset

/-! ## Answers -/

def unreadable : String :=
  "error decoding response body"

def entry? (value : Json) : Option Entry := do
  let fields <- value.fields? ["name", "path", "type", "size"]
  let name <- fields.required? "name" Json.str?
  let path <- fields.required? "path" Json.str?
  let kind <- fields.required? "type" Json.str?
  let size <- fields.optional? "size" Json.uint64?
  return { name, path, kind := if kind == "dir" then .directory else .file, size }

def page? (body : String) : Option (List Entry) := do
  let value <- Json.parse? body.toList
  let fields <- value.fields? ["result"]
  fields.orDefault? "result" [] (Json.list? entry?)

def description? (body : String) : Option Json := do
  let value <- Json.parse? body.toList
  let fields <- value.fields? ["result"]
  let result <- fields.required? "result" some
  if result.isBounded (Json.deepest - 1) then some result else none

def payload? (body : String) : Option Json := do
  let value <- Json.parse? body.toList
  if value.isBounded Json.deepest then some value else none

/-- The external project that an answer names. -/
def projectId? (payload : Json) : Option String := do
  let project <- payload.member? "baseProject"
  let value <- project.member? "value"
  let id <- (<- value.member? "projectId").str?
  Text.nonBlank? id

def described (path : String) (result : Json) : Entry where
  name := (RemotePath.fileName? path).getD ""
  path := path
  kind := if (result.member? "dir").bind Json.bool? = some true then .directory else .file
  size := (result.member? "size").bind Json.uint64?

/-- The body of a response, which some statuses do not have. -/
def bodyOf (status : Nat) (body : String) : String :=
  if status = 204 || status = 304 then "" else body

/-- Whether a response can answer a request: a status below 200 only announces
another one, unless it ends the exchange, and a status has three digits. -/
def isFinal (status : Nat) : Bool :=
  status = 101 || (200 ≤ status && status < 1000)

def isSuccess (status : Nat) : Bool :=
  200 ≤ status && status < 300

/-! ## Requests -/

/-- Whether a token can stand in a header. -/
def isHeaderText (token : String) : Bool :=
  token.toList.all fun c => c = '\t' || (32 ≤ c.toNat && c.toNat != 127)

variable {m : Type -> Type} [Monad m]

/-- Sends one request.  When it cannot be made, nothing is sent. -/
def request (gateway : Gateway m) (address : String) (parameters : Option (List Char)) :
    Remote m (Nat × String) :=
  match Url.parse? address with
  | none => throw (.transport false "the address cannot be requested")
  | some url =>
      let full := match parameters with
        | some parameters => url.withParameters parameters
        | none => url
      if !full.isRequestable then
        throw (.transport false "the address cannot be requested")
      else if isHeaderText gateway.token then
        ExceptT.mk do
          match <- gateway.peer.send { url := full, token := gateway.token } with
          | .response status body =>
              if isFinal status then return .ok (status, bodyOf status body)
              else return .error (.transport true "the connection was dropped")
          | .dropped => return .error (.transport true "the connection was dropped")
      else
        throw (.transport false "the token cannot be sent")

/-- Tries again after failures that may pass, at most `retries` times, with longer
pauses each time. -/
def retrying {α : Type} (gateway : Gateway m) (action : Remote m α) (attempt : Nat) :
    (retries : Nat) -> Remote m α
  | 0 => action
  | retries + 1 =>
      ExceptT.mk do
        match <- action.run with
        | .ok value => return .ok value
        | .error failure =>
            if failure.isTransient then
              gateway.peer.pause (250 * (attempt + 1))
              (retrying gateway action (attempt + 1) retries).run
            else
              return .error failure

/-- The body of a response about a path of a system. -/
def checked (system path : String) (response : Nat × String) : Remote m String :=
  if response.1 = 404 then throw (.notListable system path)
  else if isSuccess response.1 then return response.2
  else throw (.status system path response.1)

/-- What could be read, or a failure that names what was asked for. -/
def decoded {α : Type} (what : String) (value : Option α) : Remote m α :=
  match value with
  | some value => return value
  | none => throw (.decode (what ++ ": " ++ unreadable))

def listPage (gateway : Gateway m) (system path : String) (offset : Nat) :
    Remote m (List Entry) := do
  let response <- gateway.request (address gateway.baseUrl "/v3/files/ops/" system path)
    (some (pageParameters gateway.pageSize offset))
  let body <- checked system path response
  decoded ("listing " ++ system ++ ":" ++ path) (page? body)

/-- The pages of a listing from an offset on, until one is not full. -/
def listFrom (gateway : Gateway m) (system path : String) :
    (budget offset : Nat) -> Remote m (List Entry)
  | 0, _ => throw (.decode ("listing " ++ system ++ ":" ++ path ++ ": too many pages"))
  | budget + 1, offset => do
      let page <- gateway.retrying (gateway.listPage system path offset) 0 gateway.maxRetries
      if page.length < gateway.pageSize then
        return page
      else
        return page ++ (<- listFrom gateway system path budget (offset + page.length))

def list (gateway : Gateway m) (system path : String) : Remote m (List Entry) :=
  gateway.listFrom system path gateway.pageBudget 0

def stat (gateway : Gateway m) (system path : String) : Remote m Entry := do
  let ask : Remote m Json := do
    let response <- gateway.request
      (address gateway.baseUrl "/v3/files/utils/linux/" system path) none
    let body <- checked system path response
    decoded ("stat " ++ system ++ ":" ++ path) (description? body)
  return described path (<- gateway.retrying ask 0 gateway.maxRetries)

def externalId (gateway : Gateway m) (system : String) : Remote m (Option String) :=
  match Text.after? gateway.projectSystemStart.toList system.toList with
  | none => return none
  | some [] => return none
  | some uuid => do
      let url := gateway.portalUrl ++ "/api/projects/v2/"
        ++ String.ofList (Text.percentEncoded uuid) ++ "/"
      let ask : Remote m Json := do
        let (status, body) <- gateway.request url none
        if isSuccess status then decoded ("project " ++ system) (payload? body)
        else throw (.status system url status)
      let payload <- gateway.retrying ask 0 gateway.maxRetries
      match projectId? payload with
      | some id => return some id
      | none =>
          throw (.projectLookup system "response has no baseProject.value.projectId")

def storage (gateway : Gateway m) : Storage m where
  list := gateway.list
  stat := gateway.stat
  externalId := gateway.externalId

def ofSettings (peer : Peer m) (settings : Settings) (token : String) : Gateway m where
  peer := peer
  baseUrl := bareUrl settings.storage.baseUrl
  portalUrl := bareUrl settings.storage.portalUrl
  token := token
  pageSize := settings.storage.pageSize
  maxRetries := settings.storage.maxRetries
  projectSystemStart := settings.engine.projectSystemStart
  pageBudget := UInt64.size

end Gateway
end Whereabouts
