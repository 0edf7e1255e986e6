import DocAccess.CommandLine.Arguments
import DocAccess.Run.Generate

/-!
# Runs from the command line

How a run ends decides its exit code: zero if the output is up to date afterwards, one if it is not
or the run fails, two if the arguments cannot be used.
-/

namespace DocAccess.CommandLine

open DocAccess.Files DocAccess.Generate DocAccess.Run

/-- How a run from the command line ends. -/
inductive Ending where
  | help
  | version
  | misused (e : UsageError)
  | generated (report : Report)
  | checked (change : Change)
  | failed (fault : Fault)
  deriving DecidableEq, Repr

namespace Ending

/-- The exit code. -/
def exitCode : Ending → Nat
  | help | version | generated _ => 0
  | misused _ => 2
  | checked change => if change.isChange then 1 else 0
  | failed (.error _) => 1
  | failed (.notIdentifier _) => 101

/-- The line that tells the version. -/
def versionLine : String := toolName ++ " 0.1.0\n"

/-- The text that lists the options. -/
def helpText : String :=
  let optionLine (o : ValueOption) : String := s!"  --{o.name} <VALUE> [env: {o.variable}]\n"
  s!"Usage: {toolName} [OPTIONS]\n\nOptions:\n"
    ++ String.join (ValueOption.all.map optionLine)
    ++ s!"  --{Switch.noTypeAlias.name} [env: {noTypeAliasVariable}]\n"
    ++ s!"  --{Switch.check.name}\n  -h, --help\n  -V, --version\n"

/-- What is written to the standard output. -/
def output : Ending → String
  | help => helpText
  | version => versionLine
  | _ => ""

end Ending

section Access

variable {m : Type → Type} [Monad m] (files : Access m)

/-- Carries out a command. -/
def Command.run : Command → m Ending
  | .help => return .help
  | .version => return .version
  | .generate c => do
      match ← (Run.generate files c).run with
      | .ok report => return .generated report
      | .error fault => return .failed fault
  | .check c => do
      match ← (Run.check files c).run with
      | .ok change => return .checked change
      | .error fault => return .failed fault

/-- Runs the program with arguments in an environment. -/
def runWith (environment : String → Option String) (arguments : List String) : m Ending :=
  match Command.ofArguments environment arguments with
  | .ok command => command.run files
  | .error e => return .misused e

end Access

end DocAccess.CommandLine
