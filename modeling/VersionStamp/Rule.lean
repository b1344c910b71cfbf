import VersionStamp.Declaration

/-! # Bump rules: the constant to bump and the ceiling it may not pass. -/

namespace VersionStamp

/-- Which constant to bump and how far it may go. -/
structure Rule where
  pattern : Pattern
  ceiling : Option UInt64

/-- The name of the rule's constant. -/
def Rule.name (r : Rule) : ConstantName := r.pattern.name

/-- The rule for `name` and `ceiling`; a name whose pattern passes the size limit is refused
like an invalid name. -/
def Rule.make (name : ConstantName) (ceiling : Option UInt64) : Except DomainError Rule :=
  match Pattern.compile? name with
  | some pattern => .ok ⟨pattern, ceiling⟩
  | none => .error (.invalidName name.text .patternTooLarge)

/-- A successful bump: the declaration found, the new value and the new content. -/
structure Bump where
  declaration : Declaration
  next : UInt64
  content : List UInt8

/-- The value before the bump. -/
def Bump.previous (r : Bump) : UInt64 := r.declaration.value

/-- The largest 64-bit value. -/
def maxValue : UInt64 := 18446744073709551615

/-- The declaration's value plus one, unless the ceiling refuses the value or the value is the
largest of 64 bits. -/
def Rule.nextValue (r : Rule) (d : Declaration) : Except DomainError UInt64 :=
  match r.ceiling with
  | some ceiling =>
    if ceiling ≤ d.value then .error (.limitExceeded r.name.text d.value ceiling)
    else if d.value = maxValue then .error (.limitExceeded r.name.text d.value maxValue)
    else .ok (d.value + 1)
  | none =>
    if d.value = maxValue then .error (.limitExceeded r.name.text d.value maxValue)
    else .ok (d.value + 1)

/-- Bumps the unique declaration of the rule's constant in `content`: a value at or above the
ceiling or at the largest 64-bit value is refused, and otherwise the declaration is written back
with the value plus one, every byte before and after it carried over. -/
def Rule.apply (r : Rule) (content : List UInt8) : Except DomainError Bump := do
  let d ← r.pattern.find content
  let next ← r.nextValue d
  return ⟨d, next, content.take d.start ++ d.render next ++ content.drop d.stop⟩

end VersionStamp
