import Whereabouts.Text.Decimal

/-!
# Arguments

A command line: the name of a command among options, each given at most once at
its place before or after the name.  An option's value follows it after an equals
sign or as the next argument, which then may not look like an option.  Arguments
count from left to right, so that help is given only up to the first wrong one.
-/

namespace Whereabouts

inductive Instruction where
  | startCheck (projectId : Int64) (force : Bool)
  | run (projectId userId : Int64)
  | check (projectId userId : Int64)
  | status (projectId : Int64) (files : Bool)
  | index (system path : String) (userId : Option Int64)
  | verify
  deriving DecidableEq, Inhabited

inductive CommandLine where
  | instruction (asJson : Bool) (instruction : Instruction)
  | help
  | unusable
  deriving DecidableEq, Inhabited

namespace CommandLine

inductive OptionKind where
  | flag
  | text
  | integer
  deriving DecidableEq, Inhabited

abbrev Options := List (String × OptionKind)

/-- The options that were given, each with its value, empty for a flag. -/
abbrev Given := List (String × String)

inductive Scanned where
  | options (given : Given)
  | help
  | wrong
  deriving DecidableEq, Inhabited

def looksLikeOption (arg : String) : Bool :=
  match arg.toList with
  | ['-'] => false
  | '-' :: _ => true
  | _ => false

/-- Whether an argument asks for help: `--help`, or short options of which `h` is
the first. -/
def asksForHelp (arg : String) : Bool :=
  match arg.toList with
  | '-' :: 'h' :: _ => true
  | _ => arg == "--help"

/-- The name of an option, and what follows an equals sign. -/
def named? (arg : String) : Option (String × Option String) :=
  match arg.toList with
  | '-' :: '-' :: rest =>
      let name := rest.takeWhile fun c => c != '='
      let value := match rest.drop name.length with
        | _ :: value => some (String.ofList value)
        | [] => none
      some (String.ofList name, value)
  | _ => none

def OptionKind.accepts (kind : OptionKind) (value : String) : Bool :=
  match kind with
  | .flag => false
  | .text => true
  | .integer => (Text.int64? value.toList).isSome

/-- The options with one more, which may not be given again. -/
def Given.with? (given : Given) (name value : String) : Option Given :=
  if (given.lookup name).isSome then none else some ((name, value) :: given)

def Given.withValue? (given : Given) (kind : OptionKind) (name value : String) :
    Option Given :=
  if kind.accepts value then given.with? name value else none

/-- Goes through the arguments after the name of a command, from left to right: what
asks for help counts only when nothing before it is wrong. -/
def scan (options : Options) (given : Given) : List String -> Scanned
  | [] => .options given
  | ["--"] => .options given
  | arg :: rest =>
      if asksForHelp arg then
        .help
      else
        match named? arg with
        | none => .wrong
        | some (name, attached) =>
            match options.lookup name, attached with
            | none, _ => .wrong
            | some .flag, none =>
                match given.with? name "" with
                | some more => scan options more rest
                | none => .wrong
            | some kind, some value =>
                match given.withValue? kind name value with
                | some more => scan options more rest
                | none => .wrong
            | some kind, none =>
                match rest with
                | [] => .wrong
                | next :: others =>
                    if looksLikeOption next then
                      .wrong
                    else
                      match given.withValue? kind name next with
                      | some more => scan options more others
                      | none => .wrong

def Given.required? (given : Given) (name : String) : Option Int64 :=
  (given.lookup name).bind fun value => Text.int64? value.toList

def Given.optional? (given : Given) (name : String) : Option (Option Int64) :=
  match given.lookup name with
  | none => some none
  | some value => (Text.int64? value.toList).map some

def Given.has (given : Given) (name : String) : Bool :=
  (given.lookup name).isSome

/-- The options of the commands, with the one for the form of the report. -/
def optionsOf : String -> Option Options
  | "start-check" =>
      some [("json", .flag), ("project-id", .integer), ("force", .flag)]
  | "run" => some [("json", .flag), ("project-id", .integer), ("user-id", .integer)]
  | "check" => some [("json", .flag), ("project-id", .integer), ("user-id", .integer)]
  | "status" => some [("json", .flag), ("project-id", .integer), ("files", .flag)]
  | "index" =>
      some [("json", .flag), ("system", .text), ("path", .text), ("user-id", .integer)]
  | "verify" => some [("json", .flag)]
  | _ => none

def instruction? (command : String) (given : Given) : Option Instruction :=
  match command with
  | "start-check" => do
      return .startCheck (<- given.required? "project-id") (given.has "force")
  | "run" => do return .run (<- given.required? "project-id") (<- given.required? "user-id")
  | "check" => do
      return .check (<- given.required? "project-id") (<- given.required? "user-id")
  | "status" => do return .status (<- given.required? "project-id") (given.has "files")
  | "index" => do
      let system <- given.lookup "system"
      let path := (given.lookup "path").getD "/"
      return .index system path (<- given.optional? "user-id")
  | "verify" => some .verify
  | _ => none

/-- What `help` says about the commands named after it: no command has others below
it. -/
def ofHelp : List String -> CommandLine
  | [] => .help
  | [command] =>
      if command == "help" || (optionsOf command).isSome then .help else .unusable
  | _ => .unusable

def ofCommand (asJson : Bool) (command : String) (args : List String) : CommandLine :=
  match optionsOf command with
  | none => if command == "help" then ofHelp args else .unusable
  | some options =>
      match scan options [] args with
      | .help => .help
      | .wrong => .unusable
      | .options given =>
          match instruction? command given with
          | some chosen => .instruction (asJson || given.has "json") chosen
          | none => .unusable

def ofArguments (asJson : Bool) : List String -> CommandLine
  | [] => .unusable
  | first :: rest => if asksForHelp first then .help else ofCommand asJson first rest

/-- What a whole command line says. -/
def parse (args : List String) : CommandLine :=
  match args with
  | "--json" :: rest => ofArguments true rest
  | _ => ofArguments false args

def helpText : String :=
  "Usage: locsync [--json] <command> [options]\n\n"
    ++ "  start-check --project-id <id> [--force]\n"
    ++ "  run --project-id <id> --user-id <id>\n"
    ++ "  check --project-id <id> --user-id <id>\n"
    ++ "  status --project-id <id> [--files]\n"
    ++ "  index --system <system> [--path <path>] [--user-id <id>]\n"
    ++ "  verify\n"

end CommandLine
end Whereabouts
