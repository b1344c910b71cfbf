import VersionStamp.Error

/-! # Profiles, the compiled-in variants of the command, and the profile that a command line asks
for when it cannot be read as a whole. -/

namespace VersionStamp

/-- The two variants of the command. -/
inductive Profile
  /-- The build number: an 8-bit field, hence the ceiling of 255. -/
  | build
  /-- The patch number, without ceiling. -/
  | patch
  deriving DecidableEq, Repr

/-- The name by which the command line selects a profile. -/
def Profile.name : Profile → String
  | .build => "build"
  | .patch => "patch"

/-- The constant that a profile bumps when no other is named. -/
def Profile.constant : Profile → String
  | .build => "BUILD_VERSION"
  | .patch => "REACH_C_PATCH_VERSION"

/-- The ceiling of a profile. -/
def Profile.ceiling : Profile → Option UInt64
  | .build => some 255
  | .patch => none

/-- The exit status for each class of failure; success is always `0`. The build profile's
codes are the bytes of `-1` to `-5`. -/
def Profile.exitCode : Profile → Category → UInt8
  | .build, .usage => 255
  | .build, .ambiguous => 254
  | .build, .limitExceeded => 253
  | .build, .fileAccess => 252
  | .build, .notFound => 251
  | .patch, .usage => 1
  | .patch, .fileAccess => 2
  | .patch, .notFound => 3
  | .patch, .ambiguous => 4
  | .patch, .limitExceeded => 5

/-- The profile named `s` exactly. -/
def Profile.ofName? (s : String) : Option Profile :=
  if s = "build" then some .build else if s = "patch" then some .patch else none

/-- The profile named `s` when ASCII case is ignored. -/
def Profile.ofNameCaseless? (s : String) : Option Profile := Profile.ofName? s.toLower

/-- The value that `arg` gives to the profile option in its attached form `--profile=V`. -/
def attachedProfile? (arg : String) : Option String :=
  if "--profile=".isPrefixOf arg then some (arg.drop 10).toString else none

/-- The first profile that the arguments name, case ignored: `--profile V` takes the next
argument as its value, `--profile=V` carries it; any other argument is passed over. -/
def sniffArgs : List String → Option Profile
  | [] => none
  | [a] => (attachedProfile? a).bind Profile.ofNameCaseless?
  | a :: b :: rest =>
    if a = "--profile" then
      match Profile.ofNameCaseless? b with
      | some p => some p
      | none => sniffArgs rest
    else
      match (attachedProfile? a).bind Profile.ofNameCaseless? with
      | some p => some p
      | none => sniffArgs (b :: rest)

/-- The profile that the arguments (without the program name) ask for, the build profile when
they name none. -/
def Profile.sniff (args : List String) : Profile := (sniffArgs args).getD .build

/-- The profile that a command line asks for, as the system hands the command line over: the
program name, then each argument as a byte string. The program name and every argument that is
not UTF-8 text are passed over before the arguments are read. -/
def Profile.sniffCommandLine (argv : List ByteArray) : Profile :=
  Profile.sniff ((argv.drop 1).filterMap String.fromUTF8?)

end VersionStamp
