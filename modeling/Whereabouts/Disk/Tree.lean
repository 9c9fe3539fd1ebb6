import Whereabouts.Disk.Basic
import Whereabouts.OrderedMap

/-!
# File trees

A file system as a value: files, directories and symbolic links below a working
directory.  Absolute paths lead to a root of their own, which is kept under the
name `/`.
-/

namespace Whereabouts

inductive FileNode where
  | file (text : String)
  | directory
  | link (target : String)
  deriving DecidableEq, Inhabited

/-- The places of a tree, each under the names that lead to it. -/
structure FileTree where
  nodes : OrderedMap (List String) FileNode
  deriving DecidableEq, Inhabited

namespace FileTree

def empty : FileTree where
  nodes := .empty

/-- Whether a place is the working directory or lies above it. -/
def isAbove (place : List String) : Bool :=
  place.all fun name => name == ".."

def node? (tree : FileTree) (place : List String) : Option FileNode :=
  if isAbove place || place = ["/"] then some .directory else tree.nodes.get? place

def outside (place : List String) : List String :=
  if place = ["/"] then place
  else if isAbove place then place ++ [".."]
  else place.dropLast

/-! ## Walks -/

inductive Arrival where
  | found (place : List String) (node : FileNode)
  /-- A place in an existing directory where nothing stands. -/
  | vacant (place : List String)
  /-- A link, which stands in a directory, and the names after it. -/
  | detour (directory : List String) (target : String) (rest : List String)
  | failed (failure : DiskError)

/-- What a path is walked for, which decides about its last name. -/
inductive Purpose where
  /-- What it leads to, through a link. -/
  | visit
  /-- What stands there, be it a link. -/
  | change
  /-- A file, which is made through a link where there is none.  No slash may come
  after its name. -/
  | create
  deriving DecidableEq

def longestName : Nat :=
  255

def longestPath : Nat :=
  4095

/-- The names that a path is walked along; an empty one stands for a slash at the
end. -/
def steps (path : String) : List String :=
  let names := DiskPath.parts path
  if path.toList.getLast? == some '/' then names ++ [""] else names

/-- Walks from a directory until a link, the end or a failure. -/
def walk (tree : FileTree) (purpose : Purpose) (here : List String) :
    List String -> Arrival
  | [] => .found here .directory
  | name :: rest =>
      if name == "." || name == "" then
        walk tree purpose here rest
      else if name == ".." then
        walk tree purpose (outside here) rest
      else if purpose = .create && rest == [""] then
        .failed .isDirectory
      else if longestName < name.utf8ByteSize then
        .failed .nameTooLong
      else
        let place := here ++ [name]
        match tree.node? place with
        | some .directory => walk tree purpose place rest
        | some (.link target) =>
            if rest.isEmpty && purpose = .change then .found place (.link target)
            else .detour here target rest
        | some (.file text) =>
            if rest.isEmpty then .found place (.file text) else .failed .notDirectory
        | none => if rest.isEmpty then .vacant place else .failed .missing

def locateFrom (tree : FileTree) (purpose : Purpose) :
    Nat -> List String -> List String -> Arrival
  | 0, _, _ => .failed .tooManyLinks
  | links + 1, here, names =>
      match tree.walk purpose here names with
      | .detour directory target rest =>
          let start := if DiskPath.isAbsolute target then ["/"] else directory
          locateFrom tree purpose links start (steps target ++ rest)
      | arrival => arrival

def locate (tree : FileTree) (purpose : Purpose) (path : String) : Arrival :=
  if path == "" then .failed .missing
  else if longestPath < path.utf8ByteSize then .failed .nameTooLong
  else
    tree.locateFrom purpose 41 (if DiskPath.isAbsolute path then ["/"] else []) (steps path)

def find (tree : FileTree) (path : String) : Except DiskError (List String × FileNode) :=
  match tree.locate .visit path with
  | .found place node => .ok (place, node)
  | .vacant _ => .error .missing
  | .detour _ _ _ => .error .tooManyLinks
  | .failed failure => .error failure

/-- Where the last name of a path stands or could stand: none for a path that ends in
dots, which names an existing directory or nothing. -/
def entry? (tree : FileTree) (path : String) : Except DiskError (Option Arrival) :=
  match (DiskPath.parts path).getLast? with
  | some name =>
      if name == "." || name == ".." then
        (tree.find path).map fun _ => none
      else
        let bare := (path.toList.reverse.dropWhile fun c => c = '/').reverse
        if longestPath < path.utf8ByteSize then .error .nameTooLong
        else
          match tree.locate .change (String.ofList bare) with
          | .failed failure => .error failure
          | arrival => .ok (some arrival)
  | none => (tree.find path).map fun _ => none

/-! ## Operations -/

def put (tree : FileTree) (place : List String) (node : FileNode) : FileTree where
  nodes := tree.nodes.insert place node

def inspect (tree : FileTree) (path : String) : Except DiskError FileKind :=
  match tree.find path with
  | .ok (_, .file text) => .ok (.file text.utf8ByteSize)
  | .ok _ => .ok .directory
  | .error failure => .error failure

def namesBelow (tree : FileTree) (place : List String) : List String :=
  tree.nodes.keys.filterMap fun key =>
    match key.getLast? with
    | some name => if key.dropLast = place then some name else none
    | none => none

def children (tree : FileTree) (path : String) : Except DiskError (List String) :=
  match tree.find path with
  | .ok (place, .directory) => .ok (tree.namesBelow place)
  | .ok _ => .error .notDirectory
  | .error failure => .error failure

def read (tree : FileTree) (path : String) : Except DiskError String :=
  match tree.find path with
  | .ok (_, .file text) => .ok text
  | .ok _ => .error .isDirectory
  | .error failure => .error failure

def makeDirectory (tree : FileTree) (path : String) : Except DiskError FileTree :=
  match tree.entry? path with
  | .ok (some (.vacant place)) => .ok (tree.put place .directory)
  | .ok _ => .error .exists
  | .error failure => .error failure

/-- The tree with the text of a file made from what it was, `none` for no file. -/
def withText (tree : FileTree) (path : String) (text : Option String -> String) :
    Except DiskError FileTree :=
  match tree.locate .create path with
  | .found place (.file old) => .ok (tree.put place (.file (text (some old))))
  | .found _ _ => .error .isDirectory
  | .vacant place => .ok (tree.put place (.file (text none)))
  | .detour _ _ _ => .error .tooManyLinks
  | .failed failure => .error failure

def replace (tree : FileTree) (path text : String) : Except DiskError FileTree :=
  match tree.entry? path with
  | .error failure => .error failure
  | .ok none => .error .inUse
  | .ok (some arrival) =>
      if path.toList.getLast? == some '/' then
        .error .notDirectory
      else
        match arrival with
        | .found _ .directory => .error .isDirectory
        | .found place _ => .ok (tree.put place (.file text))
        | .vacant place => .ok (tree.put place (.file text))
        | .detour _ _ _ => .error .tooManyLinks
        | .failed failure => .error failure

def remove (tree : FileTree) (path : String) : Except DiskError FileTree :=
  match tree.locate .change path with
  | .found _ .directory => .error .isDirectory
  | .found place _ => .ok { nodes := tree.nodes.erase place }
  | .vacant _ => .error .missing
  | .detour _ _ _ => .error .tooManyLinks
  | .failed failure => .error failure

def query {α : Type} (ask : FileTree -> Except DiskError α) : Filing (StateM FileTree) α :=
  ExceptT.mk do
    return ask (<- get)

/-- Changes the tree, unless the change fails. -/
def change (edit : FileTree -> Except DiskError FileTree) : Filing (StateM FileTree) Unit :=
  ExceptT.mk do
    match edit (<- get) with
    | .ok tree =>
        set tree
        return .ok ()
    | .error failure => return .error failure

def disk : Disk (StateM FileTree) where
  inspect path := query (·.inspect path)
  children path := query (·.children path)
  read path := query (·.read path)
  makeDirectory path := change (·.makeDirectory path)
  touch path := change (·.withText path (·.getD ""))
  append path text := change (·.withText path (·.getD "" ++ text))
  write path text := change (·.withText path fun _ => text)
  replace path text := change (·.replace path text)

end FileTree
end Whereabouts
