import Whereabouts.Command.Arguments
import Whereabouts.Command.Checks
import Whereabouts.Command.Inspection
import Whereabouts.Variables.File

/-!
# The program

From the arguments and the variables to what is printed.
-/

namespace Whereabouts

structure Finished where
  exitCode : Nat
  output : String
  errors : String
  deriving DecidableEq, Inhabited

namespace Program

variable {m : Type -> Type} [Monad m]

def perform (host : Host m) : Instruction -> Attempt m Report
  | .startCheck projectId force => do
      Command.startCheck (host.commandContext (<- host.locate)) projectId force
  | .run projectId userId => do
      Command.run (host.commandContext (<- host.locate)) projectId userId
  | .check projectId userId => do
      Command.check (host.commandContext (<- host.locate)) projectId userId
  | .status projectId files => do Command.status host (<- host.locate) projectId files
  | .index system path userId => Command.index host system path userId
  | .verify => do Command.verify host (<- host.locate)

def finished (asJson : Bool) (result : Except Fault Report) : Finished :=
  match result with
  | .error fault => { exitCode := 1, output := "", errors := "error: " ++ fault.message ++ "\n" }
  | .ok report =>
      let output := if asJson then report.toJson.indented ++ "\n" else report.text
      if report.isOk then
        { exitCode := 0, output, errors := "" }
      else
        { exitCode := 1, output, errors := "error: " ++ report.command ++ " failed\n" }

/-- Runs the program with its arguments, after the defaults for its variables are
loaded. -/
def run (host : Host m) (args : List String) : m Finished := do
  let (_, vars) <- VariableFile.load host.disk host.vars host.accountHome
  match CommandLine.parse args with
  | .unusable =>
      return { exitCode := 2, output := "", errors := CommandLine.helpText }
  | .help => return { exitCode := 0, output := CommandLine.helpText, errors := "" }
  | .instruction asJson instruction =>
      return finished asJson (<- (perform { host with vars } instruction).run)

end Program
end Whereabouts
