/-! # Reading UTF-8 characters out of raw bytes: forwards, backwards as a look-behind does, and
lossily, one replacement character for each stretch that does not decode. -/

namespace VersionStamp.Utf8

/-- Byte strings. -/
abbrev Bytes := List UInt8

/-- A continuation byte, `10xxxxxx`. -/
def isCont (b : UInt8) : Bool := b &&& 0xC0 == 0x80

/-- The scalar value of a two-byte encoding. -/
def scalar2 (a b : UInt8) : Nat := (a.toNat % 0x20) * 0x40 + b.toNat % 0x40

/-- The scalar value of a three-byte encoding. -/
def scalar3 (a b c : UInt8) : Nat :=
  (a.toNat % 0x10) * 0x1000 + (b.toNat % 0x40) * 0x40 + c.toNat % 0x40

/-- The scalar value of a four-byte encoding. -/
def scalar4 (a b c d : UInt8) : Nat :=
  (a.toNat % 0x08) * 0x40000 + (b.toNat % 0x40) * 0x1000 + (c.toNat % 0x40) * 0x40 + d.toNat % 0x40

/-- Whether `b` may follow the lead byte `a` of a three-byte encoding: after `E0` only what
avoids an overlong form, after `ED` only what avoids a surrogate. -/
def second3 (a b : UInt8) : Bool :=
  (if a = 0xE0 then 0xA0 else 0x80) ≤ b && b ≤ (if a = 0xED then 0x9F else 0xBF)

/-- Whether `b` may follow the lead byte `a` of a four-byte encoding: after `F0` only what
avoids an overlong form, after `F4` only what stays below `U+110000`. -/
def second4 (a b : UInt8) : Bool :=
  (if a = 0xF0 then 0x90 else 0x80) ≤ b && b ≤ (if a = 0xF4 then 0x8F else 0xBF)

/-- The character that `bytes` starts with and the length of its encoding, when the bytes start
with a complete and valid UTF-8 encoding; the ranges are those of the well-formed byte sequences
of the Unicode standard. -/
def decodeFront : Bytes → Option (Char × Nat)
  | [] => none
  | a :: rest =>
    if a ≤ 0x7F then some (Char.ofNat a.toNat, 1)
    else if 0xC2 ≤ a ∧ a ≤ 0xDF then
      match rest with
      | b :: _ => if isCont b then some (Char.ofNat (scalar2 a b), 2) else none
      | [] => none
    else if 0xE0 ≤ a ∧ a ≤ 0xEF then
      match rest with
      | b :: c :: _ =>
        if second3 a b ∧ isCont c then some (Char.ofNat (scalar3 a b c), 3) else none
      | _ => none
    else if 0xF0 ≤ a ∧ a ≤ 0xF4 then
      match rest with
      | b :: c :: d :: _ =>
        if second4 a b ∧ isCont c ∧ isCont d then
          some (Char.ofNat (scalar4 a b c d), 4)
        else none
      | _ => none
    else none

/-- A decoded character takes at least one byte and no more than there are. -/
theorem decodeFront_length {bs : Bytes} {c : Char} {n : Nat} (h : decodeFront bs = some (c, n)) :
    0 < n ∧ n ≤ bs.length := by
  unfold decodeFront at h
  repeat' split at h
  all_goals simp only [reduceCtorEq, Option.some.injEq, Prod.mk.injEq] at h
  all_goals grind

/-- The characters of the longest validly encoded front of `bs`. -/
def chars (bs : Bytes) : List Char :=
  match _hd : decodeFront bs with
  | some (c, n) => c :: chars (bs.drop n)
  | none => []
termination_by bs.length
decreasing_by
  have := decodeFront_length _hd
  simp only [List.length_drop]
  omega

/-- How many bytes after the lead byte `a` belong to the stretch that fails to decode: those
that could still have completed an encoding. A lone or foreign lead byte stands alone. -/
def invalidTail (a : UInt8) : Bytes → Nat
  | b :: c :: _ =>
    if 0xE0 ≤ a ∧ a ≤ 0xEF then (if second3 a b then 1 else 0)
    else if 0xF0 ≤ a ∧ a ≤ 0xF4 then (if second4 a b then (if isCont c then 2 else 1) else 0)
    else 0
  | [b] =>
    if 0xE0 ≤ a ∧ a ≤ 0xEF then (if second3 a b then 1 else 0)
    else if 0xF0 ≤ a ∧ a ≤ 0xF4 then (if second4 a b then 1 else 0)
    else 0
  | [] => 0

/-- The characters of `bs`, with one replacement character `U+FFFD` for each stretch that does
not decode. -/
def decodeLossy (bs : Bytes) : List Char :=
  match _hd : decodeFront bs with
  | some (c, n) => c :: decodeLossy (bs.drop n)
  | none =>
    match bs with
    | [] => []
    | a :: rest => '\uFFFD' :: decodeLossy (rest.drop (invalidTail a rest))
termination_by bs.length
decreasing_by
  · have := decodeFront_length _hd
    simp only [List.length_drop]
    omega
  · simp only [List.length_drop, List.length_cons]
    omega

/-- The UTF-8 encoding of a text. -/
def utf8Bytes (s : String) : Bytes := s.toUTF8.data.toList

/-- The text that `bs` encodes, when the bytes are UTF-8 throughout. -/
def text? (bs : Bytes) : Option String := String.fromUTF8? ⟨bs.toArray⟩

/-- The bytes shown as text, one replacement character for each stretch that does not decode. -/
def lossyText (bs : Bytes) : String := String.ofList (decodeLossy bs)

/-- How far a look-behind steps back from the last byte: over continuation bytes, at most `n`
of them and never past the first byte of the string. `before` holds the bytes nearest first. -/
def backSteps : Nat → Bytes → Nat
  | n + 1, b :: rest@(_ :: _) => if isCont b then backSteps n rest + 1 else 0
  | _, _ => 0

/-- The character that ends a byte string, read backwards; `before` holds the bytes nearest
first. The look-behind stops at the third continuation byte at most, then decodes forward by the
length that the byte it stopped at announces; bytes past that length are not examined, so
`C3 A9 A9` ends in `é`. -/
def decodeBack (before : Bytes) : Option Char :=
  (decodeFront (before.take (backSteps 3 before + 1)).reverse).map Prod.fst

end VersionStamp.Utf8
