import Whereabouts.Disk.Path
import Whereabouts.Text.Decimal

/-!
# Disks

The file operations that the program needs, and what is built from them.
-/

namespace Whereabouts

inductive DiskError where
  | missing
  | exists
  | notDirectory
  | isDirectory
  | tooManyLinks
  | nameTooLong
  | inUse
  | notText
  | noParent
  | other (text : String)
  deriving DecidableEq, Inhabited

def DiskError.message : DiskError -> String
  | missing => "No such file or directory (os error 2)"
  | «exists» => "File exists (os error 17)"
  | notDirectory => "Not a directory (os error 20)"
  | isDirectory => "Is a directory (os error 21)"
  | tooManyLinks => "Too many levels of symbolic links (os error 40)"
  | nameTooLong => "File name too long (os error 36)"
  | inUse => "Device or resource busy (os error 16)"
  | notText => "stream did not contain valid UTF-8"
  | noParent => "failed to create whole tree"
  | other text => text

inductive FileKind where
  | file (size : Nat)
  | directory
  deriving DecidableEq, Inhabited

abbrev Filing (m : Type -> Type) (α : Type) := ExceptT DiskError m α

/-- A file system.  Every operation follows links, except that `makeDirectory`
and `replace` take a link at the end of a path for itself. -/
structure Disk (m : Type -> Type) where
  inspect : (path : String) -> Filing m FileKind
  /-- The names in a directory, in ascending order. -/
  children : (path : String) -> Filing m (List String)
  read : (path : String) -> Filing m String
  makeDirectory : (path : String) -> Filing m Unit
  /-- Makes an empty file where there is none. -/
  touch : (path : String) -> Filing m Unit
  /-- Adds text at the end of a file, which is made where there is none. -/
  append : (path text : String) -> Filing m Unit
  /-- Makes a file with that text, in place of the text it had. -/
  write : (path text : String) -> Filing m Unit
  /-- Puts a new file with that text in place of an older file, at once. -/
  replace : (path text : String) -> Filing m Unit

namespace Disk

variable {m n : Type -> Type}

/-- The same file system where its effects are part of larger ones. -/
def lift (disk : Disk m) (embed : {α : Type} -> m α -> n α) : Disk n where
  inspect path := ExceptT.mk (embed (disk.inspect path).run)
  children path := ExceptT.mk (embed (disk.children path).run)
  read path := ExceptT.mk (embed (disk.read path).run)
  makeDirectory path := ExceptT.mk (embed (disk.makeDirectory path).run)
  touch path := ExceptT.mk (embed (disk.touch path).run)
  append path text := ExceptT.mk (embed (disk.append path text).run)
  write path text := ExceptT.mk (embed (disk.write path text).run)
  replace path text := ExceptT.mk (embed (disk.replace path text).run)

variable [Monad m]

def pathExists (disk : Disk m) (path : String) : m Bool := do
  match <- (disk.inspect path).run with
  | .ok _ => return true
  | .error _ => return false

def isFile (disk : Disk m) (path : String) : m Bool := do
  match <- (disk.inspect path).run with
  | .ok (.file _) => return true
  | _ => return false

def isDirectory (disk : Disk m) (path : String) : m Bool := do
  match <- (disk.inspect path).run with
  | .ok .directory => return true
  | _ => return false

/-- Makes the first of these directories; the others are those above it, from the
inside out, and are made where they are missing. -/
def makeLineage (disk : Disk m) : List String -> Filing m Unit
  | [] => throw .noParent
  | path :: above =>
      if path == "" then
        return ()
      else do
        match <- ExceptT.lift (disk.makeDirectory path).run with
        | .ok () => return ()
        | .error .missing =>
            disk.makeLineage above
            match <- ExceptT.lift (disk.makeDirectory path).run with
            | .ok () => return ()
            | .error failure =>
                if <- ExceptT.lift (disk.isDirectory path) then return () else throw failure
        | .error failure =>
            if <- ExceptT.lift (disk.isDirectory path) then return () else throw failure

def makeDirectories (disk : Disk m) (path : String) : Filing m Unit :=
  disk.makeLineage (DiskPath.lineage path)

end Disk
end Whereabouts
