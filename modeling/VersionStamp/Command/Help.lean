/-! # Help and version texts: `-h` the summary, `--help` the long help, `-V` the version. -/

namespace VersionStamp.Command

/-- The summary help, shown for `-h`. -/
def shortHelp : String :=
  "Increment the version constant declared in a header file\n" ++
  "\n" ++
  "Usage: bump [OPTIONS] [FILE]\n" ++
  "\n" ++
  "Arguments:\n" ++
  "  [FILE]  Header file holding the declaration, e.g. include/reach_version.h\n" ++
  "\n" ++
  "Options:\n" ++
  "  -h, --help     Print help (see more with '--help')\n" ++
  "  -V, --version  Print version\n" ++
  "\n" ++
  "Declaration:\n" ++
  "      --profile <PROFILE>  Compiled-in variant selecting constant, ceiling and exit codes [default: build] [possible values: build, patch]\n" ++
  "      --constant <NAME>    Bump this constant instead of the profile's\n" ++
  "      --max <N>            Refuse to bump once the value reaches N\n" ++
  "      --no-max             Drop the profile's ceiling\n" ++
  "\n" ++
  "Output:\n" ++
  "      --dry-run          Report the change without writing the file\n" ++
  "      --format <FORMAT>  Outcome format on stdout [default: text] [possible values: text, json]\n" ++
  "  -v, --verbose...       More log output (-v info, -vv debug, -vvv trace)\n" ++
  "  -q, --quiet            Only log errors\n"

/-- The long help, shown for `--help`. -/
def longHelp : String :=
  "Increment the version constant declared in a header file\n" ++
  "\n" ++
  "Usage: bump [OPTIONS] [FILE]\n" ++
  "\n" ++
  "Arguments:\n" ++
  "  [FILE]\n" ++
  "          Header file holding the declaration, e.g. include/reach_version.h\n" ++
  "\n" ++
  "Options:\n" ++
  "  -h, --help\n" ++
  "          Print help (see a summary with '-h')\n" ++
  "\n" ++
  "  -V, --version\n" ++
  "          Print version\n" ++
  "\n" ++
  "Declaration:\n" ++
  "      --profile <PROFILE>\n" ++
  "          Compiled-in variant selecting constant, ceiling and exit codes\n" ++
  "\n" ++
  "          Possible values:\n" ++
  "          - build: BUILD_VERSION, refuses to pass 255\n" ++
  "          - patch: REACH_C_PATCH_VERSION, no ceiling\n" ++
  "          \n" ++
  "          [default: build]\n" ++
  "\n" ++
  "      --constant <NAME>\n" ++
  "          Bump this constant instead of the profile's\n" ++
  "\n" ++
  "      --max <N>\n" ++
  "          Refuse to bump once the value reaches N\n" ++
  "\n" ++
  "      --no-max\n" ++
  "          Drop the profile's ceiling\n" ++
  "\n" ++
  "Output:\n" ++
  "      --dry-run\n" ++
  "          Report the change without writing the file\n" ++
  "\n" ++
  "      --format <FORMAT>\n" ++
  "          Outcome format on stdout\n" ++
  "          \n" ++
  "          [default: text]\n" ++
  "          [possible values: text, json]\n" ++
  "\n" ++
  "  -v, --verbose...\n" ++
  "          More log output (-v info, -vv debug, -vvv trace)\n" ++
  "\n" ++
  "  -q, --quiet\n" ++
  "          Only log errors\n"

/-- The version line. -/
def versionText : String := "bump 0.3.0\n"

/-- The help text of the chosen length. -/
def helpText (long : Bool) : String := if long then longHelp else shortHelp

end VersionStamp.Command
