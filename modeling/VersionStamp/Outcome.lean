import VersionStamp.Constant

/-! # Outcomes of a bump and their one-line reports, a sentence or a JSON object. -/

namespace VersionStamp

/-- What a bump did, or would have done in a dry run. -/
structure Outcome where
  path : FilePath
  name : String
  previous : UInt64
  current : UInt64
  written : Bool
  deriving DecidableEq, Repr

/-- How an outcome is printed. -/
inductive Format
  | text
  | json
  deriving DecidableEq, Repr

/-- The format named `s` exactly. -/
def Format.ofName? (s : String) : Option Format :=
  if s = "text" then some .text else if s = "json" then some .json else none

/-- Four lowercase hexadecimal digits of a code below `0x10000`. -/
def hex4 (n : Nat) : String :=
  let digit (k : Nat) : Char :=
    if k < 10 then Char.ofNat ('0'.toNat + k) else Char.ofNat ('a'.toNat + k - 10)
  String.ofList [digit (n / 4096 % 16), digit (n / 256 % 16), digit (n / 16 % 16), digit (n % 16)]

/-- One character inside a JSON string: quote, backslash and the controls below `0x20` are
escaped, the short forms where JSON has them; every other character stands for itself. -/
def jsonChar (c : Char) : String :=
  if c = '"' then "\\\""
  else if c = '\\' then "\\\\"
  else if c = '\n' then "\\n"
  else if c = '\r' then "\\r"
  else if c = '\t' then "\\t"
  else if c.toNat = 8 then "\\b"
  else if c.toNat = 12 then "\\f"
  else if c.toNat < 0x20 then "\\u" ++ hex4 c.toNat
  else c.toString

/-- A text as a JSON string literal. -/
def jsonString (s : String) : String :=
  "\"" ++ String.join (s.toList.map jsonChar) ++ "\""

/-- The sentence that reports an outcome. -/
def Outcome.sentence (o : Outcome) : String :=
  if o.written then s!"{o.name} updated from {o.previous} to {o.current}."
  else s!"{o.name} would be updated from {o.previous} to {o.current} (dry run, {o.path} unchanged)."

/-- The outcome as one JSON object, its fields in the fixed order path, name, previous, current,
written; a path that is not UTF-8 has no JSON form. -/
def Outcome.json (o : Outcome) : Except String String :=
  match o.path.text? with
  | none => .error "path contains invalid UTF-8 characters"
  | some path =>
    .ok ("\x7b\"path\":" ++ jsonString path ++ ",\"name\":" ++ jsonString o.name ++
      ",\"previous\":" ++ toString o.previous ++ ",\"current\":" ++ toString o.current ++
      ",\"written\":" ++ (if o.written then "true" else "false") ++ "\x7d")

/-- The report line of an outcome in the chosen format, or why it cannot be made. -/
def Outcome.render (o : Outcome) : Format → Except String String
  | .text => .ok o.sentence
  | .json => o.json

end VersionStamp
