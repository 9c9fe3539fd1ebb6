import Std.Async.DNS
import Std.Async.TCP
import Std.Time
import Whereabouts.Command.Program
import Whereabouts.Remote.Wire

/-!
# The executable

The machine behind the program: its file system, its clock, its network and its
variables.  Nothing is decided here.
-/

namespace Whereabouts
namespace Machine

def failureOf (code : UInt32) (details : String) : DiskError :=
  match code.toNat with
  | 2 => .missing
  | 17 => .exists
  | 20 => .notDirectory
  | 21 => .isDirectory
  | 40 => .tooManyLinks
  | n => .other (details ++ " (os error " ++ Text.natText n ++ ")")

def failure : IO.Error -> DiskError
  | .noFileOrDirectory _ code details => failureOf code details
  | .alreadyExists _ code details => failureOf code details
  | .permissionDenied _ code details => failureOf code details
  | .resourceExhausted _ code details => failureOf code details
  | .inappropriateType _ code details => failureOf code details
  | .noSuchThing _ code details => failureOf code details
  | .invalidArgument _ code details => failureOf code details
  | .interrupted _ code details => failureOf code details
  | .otherError code details => failureOf code details
  | .resourceBusy code details => failureOf code details
  | .unsupportedOperation code details => failureOf code details
  | .hardwareFault code details => failureOf code details
  | .unsatisfiedConstraints code details => failureOf code details
  | .illegalOperation code details => failureOf code details
  | other => .other (toString other)

def filing {α : Type} (action : IO α) : Filing IO α :=
  ExceptT.mk do
    try
      return .ok (<- action)
    catch exception => return .error (failure exception)

def readText (path : String) : Filing IO String := do
  let bytes <- filing (IO.FS.readBinFile path)
  match String.fromUTF8? bytes with
  | some text => return text
  | none => throw .notText

def inspect (path : String) : IO FileKind := do
  let metadata <- (<- IO.FS.realPath path).metadata
  match metadata.type with
  | .dir => return .directory
  | _ => return .file metadata.byteSize.toNat

def children (path : String) : IO (List String) := do
  let entries <- (<- IO.FS.realPath path).readDir
  return (entries.toList.map fun entry => entry.fileName).mergeSort
    fun a b => (compare a b).isLE

/-- Writes a file beside another one and puts it in its place. -/
def replace (path text : String) : IO Unit := do
  let temporary := path ++ ".new"
  IO.FS.writeFile temporary text
  IO.FS.rename temporary path

def disk : Disk IO where
  inspect path := filing (inspect path)
  children path := filing (children path)
  read := readText
  makeDirectory path := filing (IO.FS.createDir path)
  touch path := filing do
    let _ <- IO.FS.Handle.mk path .append
  append path text := filing do
    let handle <- IO.FS.Handle.mk path .append
    handle.putStr text
  write path text := filing (IO.FS.writeFile path text)
  replace path text := filing (replace path text)

def now : IO Instant := do
  let stamp <- Std.Time.Timestamp.now
  let time := Std.Time.DateTime.ofTimestampWithZone stamp .UTC
  return (Instant.ofCivil? time.year.toInt time.month.val.toNat time.day.val.toNat
    time.hour.val.toNat time.minute.val.toNat time.second.val.toNat
    time.nanosecond.val.toNat).getD .epoch

def hexByte (byte : Nat) : List Char :=
  [Text.hexChar (byte / 16), Text.hexChar (byte % 16)]

/-- A name made of sixteen random bytes in the form of a UUID of version 4. -/
def newProcessId : IO String := do
  let bytes := (<- IO.getRandomBytes 16).toList.map UInt8.toNat
  let marked := (bytes.set 6 (0x40 + bytes.getD 6 0 % 16)).set 8 (0x80 + bytes.getD 8 0 % 64)
  let part (first count : Nat) : String :=
    String.ofList (((marked.drop first).take count).flatMap hexByte)
  return "locsync-" ++ Text.joinWith "-" [part 0 4, part 4 2, part 6 2, part 8 2, part 10 6]

/-- The bytes that a connection gives until it is closed. -/
partial def receive (client : Std.Async.TCP.Socket.Client) (bytes : ByteArray) :
    Std.Async.Async ByteArray := do
  match <- client.recv? 65536 with
  | some more => receive client (bytes ++ more)
  | none => return bytes

def exchange (request : Request) : Std.Async.Async Reply := do
  let host := String.ofList request.url.host.text
  let addresses <- Std.Async.DNS.getAddrInfo host "" (some .ipv4)
  match addresses[0]? with
  | some (Std.Net.IPAddr.v4 addr) =>
      let client <- Std.Async.TCP.Socket.Client.mk
      client.connect (.v4 ⟨addr, (Wire.service request.url).toUInt16⟩)
      client.send (Wire.requestText request).toUTF8
      return Wire.reply (<- receive client .empty).toList
  | _ => return .dropped

/-- The network of the machine.  Connections are plain; a secure one cannot be
made. -/
def peer : Peer IO where
  send request := do
    if request.url.secure then
      return .dropped
    else
      try
        (exchange request).block
      catch _ => return .dropped
  pause milliseconds := IO.sleep milliseconds.toUInt32

def readVariables : IO Variables := do
  let bytes <- IO.FS.readBinFile "/proc/self/environ"
  let entries := Text.pieces '\x00' ((String.fromUTF8? bytes).getD "").toList
  return .ofList (entries.filterMap fun entry =>
    let name := entry.takeWhile fun c => c != '='
    if name.isEmpty then none
    else some (String.ofList name, String.ofList (entry.drop (name.length + 1))))

/-- The number of the user in a description of a process. -/
def userNumber? (status : String) : Option (List Char) :=
  (Text.pieces '\n' status.toList).findSome? fun line =>
    match Text.pieces '\t' line with
    | ['U', 'i', 'd', ':'] :: number :: _ => some number
    | _ => none

/-- The home directory of a user in a list of accounts. -/
def homeOf? (number : List Char) (accounts : String) : Option String :=
  (Text.pieces '\n' accounts.toList).findSome? fun line =>
    match Text.pieces ':' line with
    | [_, _, user, _, _, home, _] => if user = number then some (String.ofList home) else none
    | _ => none

/-- The home directory of the account that the process belongs to. -/
def readAccountHome : IO (Option String) := do
  try
    let status <- IO.FS.readFile "/proc/self/status"
    let accounts <- IO.FS.readFile "/etc/passwd"
    return (userNumber? status).bind (homeOf? · accounts)
  catch _ => return none

def host : IO (Host IO) := do
  return { disk, peer, clock := { now, newProcessId }, vars := <- readVariables,
           depth := 1000000, accountHome := <- readAccountHome }

end Machine
end Whereabouts

/-- Runs the program on the machine. -/
def main (args : List String) : IO UInt32 := do
  let finished <- Whereabouts.Program.run (<- Whereabouts.Machine.host) args
  (<- IO.getStdout).putStr finished.output
  (<- IO.getStderr).putStr finished.errors
  return finished.exitCode.toUInt32
