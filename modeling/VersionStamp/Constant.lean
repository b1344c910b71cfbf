import VersionStamp.Error

/-! # Constant names: C identifiers, checked rule by rule. -/

namespace VersionStamp

/-- A character that may begin a name. -/
def isNameStart (c : Char) : Bool := c.isAlpha || c == '_'

/-- A character that may follow the first one. -/
def isNameChar (c : Char) : Bool := c.isAlphanum || c == '_'

/-- The first rule that the characters `cs` break, if any. -/
def nameProblem? : List Char → Option NameProblem
  | [] => some .empty
  | c :: rest =>
    if !isNameStart c then some .badStart
    else if rest.all isNameChar then none
    else some .badChar

/-- A text that passed the rules of a name. -/
structure ConstantName where
  text : String
  valid : nameProblem? text.toList = none

instance : ToString ConstantName := ⟨ConstantName.text⟩

/-- Checks `s` against the rules of a name in order (not empty, an ASCII letter or `_` first,
then ASCII letters, digits and `_`) and reports the first rule that fails. -/
def ConstantName.ofString? (s : String) : Except DomainError ConstantName :=
  match h : nameProblem? s.toList with
  | none => .ok ⟨s, h⟩
  | some problem => .error (.invalidName s problem)

/-- The bytes of a name: each of its ASCII characters as one byte. -/
def ConstantName.bytes (n : ConstantName) : List UInt8 :=
  n.text.toList.map fun c => c.toNat.toUInt8

end VersionStamp
