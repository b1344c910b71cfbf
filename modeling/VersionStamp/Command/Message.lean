import VersionStamp.Command.Parse

/-! # Messages of the command line: the fault, perhaps a tip and a usage line, and a pointer to
`--help`. -/

namespace VersionStamp.Command

/-- The usage line for the given arguments: with none, the general form; otherwise the given
options in order, each once, then the file, required if it was given. -/
def usageLine (used : List Arg) : String :=
  if used.isEmpty then "bump [OPTIONS] [FILE]"
  else
    let opts := ((used.filter (·.long?.isSome)).map Arg.usageForm).eraseDups
    let file := if used.contains .file then Arg.file.usageForm else Arg.file.display
    " ".intercalate ("bump" :: opts ++ [file])

/-- The group of the command's own arguments as one required alternative. -/
def ownGroupForm : String :=
  "<" ++ "|".intercalate ((Arg.all.filter Arg.isOwn).map Arg.groupForm) ++ ">"

/-- The usage line once one of the command's own arguments was given: the given arguments that
are not the command's own, then the whole group, which stands for the rest. -/
def groupedUsageLine (used : List Arg) : String :=
  " ".intercalate ("bump" :: ((used.filter (!·.isOwn)).map Arg.usageForm).eraseDups ++
    [ownGroupForm])

/-- The list of accepted values, on a line of its own. -/
def choicesLine (a : Arg) : String :=
  if a.choices.isEmpty then "" else "\n  [possible values: " ++ ", ".intercalate a.choices ++ "]"

/-- A tip, after a blank line. -/
def tip (text : String) : String := "\n\n  tip: " ++ text

/-- The message of a stop that is an error, before the pointer to `--help`. -/
def Stop.body : Stop → String
  | .help _ | .version => ""
  | .unknown arg similar valueTip usage =>
    s!"unexpected argument '{arg}' found" ++
      (match similar with
        | some s => tip s!"a similar argument exists: '{s}'"
        | none => "") ++
      (if valueTip then tip s!"to pass '{arg}' as a value, use '-- {arg}'" else "") ++
      "\n\nUsage: " ++ usageLine usage
  | .invalidValue a v =>
    (if v.isEmpty then s!"a value is required for '{a.display}' but none was supplied"
     else s!"invalid value '{v}' for '{a.display}'") ++ choicesLine a ++
      (match suggest? v a.choices with
        | some s => tip s!"a similar value exists: '{s}'"
        | none => "")
  | .badNumber a v why => s!"invalid value '{v}' for '{a.display}': {why.message}"
  | .invalidUtf8 =>
    "invalid UTF-8 was detected in one or more arguments" ++ "\n\nUsage: " ++ usageLine []
  | .conflict a b usage =>
    s!"the argument '{a.display}' cannot be used with '{b.display}'" ++
      "\n\nUsage: " ++ usageLine usage
  | .repeated a =>
    s!"the argument '{a.display}' cannot be used multiple times" ++ "\n\nUsage: " ++ usageLine []
  | .unexpectedValue a v usage grouped =>
    s!"unexpected value '{v}' for '{a.display}' found; no more were expected" ++
      "\n\nUsage: " ++ (if grouped then groupedUsageLine usage else usageLine usage)

/-- The whole error message, as written to the error stream. -/
def Stop.errorText (s : Stop) : String :=
  "error: " ++ s.body ++ "\n\nFor more information, try '--help'.\n"

end VersionStamp.Command
