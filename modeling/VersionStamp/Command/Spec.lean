import VersionStamp.Profile
import VersionStamp.Outcome
import VersionStamp.Decimal

/-! # The arguments of the command line: their spellings, the values they take, how messages show
them, and which cannot go together. -/

namespace VersionStamp.Command

/-- The arguments, in the order they are declared. -/
inductive Arg
  | file
  | profile
  | constant
  | max
  | noMax
  | dryRun
  | format
  | verbose
  | quiet
  | help
  | version
  deriving DecidableEq, Repr

/-- Every argument, in declaration order. -/
def Arg.all : List Arg :=
  [.file, .profile, .constant, .max, .noMax, .dryRun, .format, .verbose, .quiet, .help, .version]

/-- What giving an argument does. -/
inductive Action
  /-- Takes one value; may be given once. -/
  | set
  /-- A switch; may be given once. -/
  | setTrue
  /-- Counts how often it is given. -/
  | count
  /-- Shows the help. -/
  | help
  /-- Shows the version. -/
  | version
  deriving DecidableEq, Repr

/-- The action of each argument. -/
def Arg.action : Arg → Action
  | .file | .profile | .constant | .max | .format => .set
  | .noMax | .dryRun | .quiet => .setTrue
  | .verbose => .count
  | .help => .help
  | .version => .version

/-- Whether the argument takes a value. -/
def Arg.takesValue (a : Arg) : Bool := a.action == .set

/-- The long spelling, without the two dashes. -/
def Arg.long? : Arg → Option String
  | .file => none
  | .profile => some "profile"
  | .constant => some "constant"
  | .max => some "max"
  | .noMax => some "no-max"
  | .dryRun => some "dry-run"
  | .format => some "format"
  | .verbose => some "verbose"
  | .quiet => some "quiet"
  | .help => some "help"
  | .version => some "version"

/-- The short spelling, without the dash. -/
def Arg.short? : Arg → Option Char
  | .verbose => some 'v'
  | .quiet => some 'q'
  | .help => some 'h'
  | .version => some 'V'
  | _ => none

/-- The argument spelled `--name`. -/
def Arg.ofLong? (name : String) : Option Arg := Arg.all.find? (·.long? == some name)

/-- The argument spelled `-c`. -/
def Arg.ofShort? (c : Char) : Option Arg := Arg.all.find? (·.short? == some c)

/-- Every long spelling, in declaration order. -/
def longNames : List String := Arg.all.filterMap Arg.long?

/-- The placeholder of the argument's value. -/
def Arg.valueName : Arg → String
  | .file => "FILE"
  | .profile => "PROFILE"
  | .constant => "NAME"
  | .max => "N"
  | .format => "FORMAT"
  | _ => ""

/-- How messages show an argument: `--max <N>`, `--verbose...`, `--quiet`, `[FILE]`. -/
def Arg.display (a : Arg) : String :=
  match a.long? with
  | none => "[" ++ a.valueName ++ "]"
  | some long =>
    if a.takesValue then "--" ++ long ++ " <" ++ a.valueName ++ ">"
    else if a.action == .count then "--" ++ long ++ "..."
    else "--" ++ long

/-- How a usage line shows an argument that was given: the file becomes required. -/
def Arg.usageForm (a : Arg) : String :=
  if a.long?.isNone then "<" ++ a.valueName ++ ">" else a.display

/-- Whether the argument is one of the command's own, unlike help and version, which every
command has. The command's own arguments form a group that a usage line can show as one
alternative. -/
def Arg.isOwn : Arg → Bool
  | .help | .version => false
  | _ => true

/-- How the group of the command's own arguments shows one of them: the file by the name of its
value, an option as messages show it. -/
def Arg.groupForm (a : Arg) : String :=
  if a.long?.isNone then a.valueName else a.display

/-- The values an argument accepts, when it accepts only a fixed few. -/
def Arg.choices : Arg → List String
  | .profile => ["build", "patch"]
  | .format => ["text", "json"]
  | _ => []

/-- The arguments that an argument declares it cannot go with. -/
def Arg.conflicts : Arg → List Arg
  | .max => [.noMax]
  | .verbose => [.quiet]
  | _ => []

/-- Whether two arguments cannot go together: one of them declares the other. -/
def Arg.conflictsWith (a b : Arg) : Bool := a.conflicts.contains b || b.conflicts.contains a

end VersionStamp.Command
