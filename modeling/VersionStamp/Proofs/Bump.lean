import VersionStamp.Proofs.Positional
import VersionStamp.Rule

/-! # Bumping a declaration writes the new digits in place of the old and leaves every other byte,
since the name and the blanks encode back to the bytes they were read from. -/

namespace VersionStamp

open Utf8 Text Decimal

/-- Where the digits of a declaration start: after its name and its blanks. -/
def Declaration.digitsStart (d : Declaration) : Nat :=
  d.start + d.name.bytes.length + (utf8Bytes d.blanks).length

/-- The bytes of `c` that the digits of `d` stand on. -/
def Declaration.digitsIn (d : Declaration) (c : Bytes) : Bytes :=
  (c.take d.stop).drop d.digitsStart

/-- The bytes of `c` with the digits of `d` replaced by the decimal digits of `n`. -/
def Declaration.withDigits (d : Declaration) (c : Bytes) (n : Nat) : Bytes :=
  c.take d.digitsStart ++ decimalBytes n ++ c.drop d.stop

/-- The bytes of a rendered declaration: the name, the blanks, and the digits of the value. -/
theorem Declaration.render_eq (d : Declaration) (v : UInt64) :
    d.render v = d.name.bytes ++ utf8Bytes d.blanks ++ decimalBytes v.toNat := by
  rw [Declaration.render, utf8Bytes_append, utf8Bytes_append, ConstantName.utf8Bytes_text,
    utf8Bytes_toString]

/-! ## What a found declaration says of the bytes -/

/-- What the declaration found by `p` in `c` says of `c`, in the terms of the positional
reading. -/
structure Found (p : Pattern) (c : Bytes) (d : Declaration) : Prop where
  name : d.name = p.name
  offsets : declarationOffsets p.name.bytes c = [d.start]
  blanks : d.blanks = String.ofList (decodeLossy (separatorAt p.name.bytes c d.start))
  stop : d.stop = endAt p.name.bytes c d.start
  value : d.value.toNat = digitsValue (digitsAt p.name.bytes c d.start)

theorem found_of_find {p : Pattern} {c : Bytes} {d : Declaration} (h : p.find c = .ok d) :
    Found p c d := by
  obtain ⟨q, hq, hsmall, rfl⟩ := find_eq_ok h
  exact ⟨rfl, hq, rfl, rfl, UInt64.toNat_ofNat_of_lt' hsmall⟩

/-- A declaration that says all this of the bytes is the one found there. -/
theorem find_of_found {p : Pattern} {c : Bytes} {d : Declaration} (hf : Found p c d) :
    p.find c = .ok d := by
  have hsmall : digitsValue (digitsAt p.name.bytes c d.start) < wordBound := by
    rw [← hf.value]
    exact d.value.toNat_lt_size
  rw [find_eq_ok_of_offsets hf.offsets hsmall]
  obtain ⟨name, blanks, value, start, stop⟩ := d
  have hvalue : (digitsValue (digitsAt p.name.bytes c start)).toUInt64 = value := by
    rw [← hf.value]
    exact UInt64.ofNat_toNat
  simp only [Except.ok.injEq, Declaration.mk.injEq]
  exact ⟨hf.name.symm, hf.blanks.symm, hvalue, trivial, hf.stop.symm⟩

theorem found_iff {p : Pattern} {c : Bytes} {d : Declaration} : Found p c d ↔ p.find c = .ok d :=
  ⟨find_of_found, found_of_find⟩

section Found

variable {p : Pattern} {c : Bytes} {d : Declaration} (hf : Found p c d)
include hf

/-- The separator of a found declaration encodes back to the blanks it was read from. -/
theorem Found.utf8Bytes_blanks : utf8Bytes d.blanks = separatorAt p.name.bytes c d.start := by
  rw [hf.blanks]
  exact utf8Bytes_separator _

theorem Found.digitsStart_eq :
    d.digitsStart = d.start + p.name.bytes.length + (separatorAt p.name.bytes c d.start).length := by
  rw [Declaration.digitsStart, hf.name, hf.utf8Bytes_blanks]

theorem Found.declaredAt : declaredAt p.name.bytes c d.start = true :=
  declaredAt_of_mem_declarationOffsets (hf.offsets ▸ List.mem_singleton_self _)

theorem Found.start_lt : d.start < c.length :=
  lt_length_of_mem_declarationOffsets (hf.offsets ▸ List.mem_singleton_self _)

/-- The bytes from the declaration on: the name, the blanks, the digits and what follows. -/
theorem Found.drop_start :
    c.drop d.start = p.name.bytes ++ separatorAt p.name.bytes c d.start ++
      digitsAt p.name.bytes c d.start ++ c.drop d.stop := by
  rw [hf.stop]
  exact drop_eq_shape (declaredAt_eq_true_iff.mp hf.declaredAt).2.1

/-- The bytes up to the end of the declaration: those before it, the name, the blanks and the
digits. -/
theorem Found.take_stop :
    c.take d.stop = c.take d.start ++ p.name.bytes ++ separatorAt p.name.bytes c d.start ++
      digitsAt p.name.bytes c d.start := by
  have hlen : d.stop = d.start + (p.name.bytes ++ separatorAt p.name.bytes c d.start ++
      digitsAt p.name.bytes c d.start).length := by
    simp only [hf.stop, endAt, List.length_append]
    omega
  rw [hlen, List.take_add, hf.drop_start, List.take_left]
  simp only [List.append_assoc]

theorem Found.take_digitsStart :
    c.take d.digitsStart = c.take d.start ++ p.name.bytes ++ separatorAt p.name.bytes c d.start := by
  have hlen : d.digitsStart =
      d.start + (p.name.bytes ++ separatorAt p.name.bytes c d.start).length := by
    rw [hf.digitsStart_eq, List.length_append, Nat.add_assoc]
  rw [hlen, List.take_add, hf.drop_start, List.append_assoc, List.append_assoc, ← List.append_assoc,
    List.take_left]
  simp only [List.append_assoc]

theorem Found.digitsIn_eq : d.digitsIn c = digitsAt p.name.bytes c d.start := by
  have hlen : d.digitsStart =
      (c.take d.start ++ p.name.bytes ++ separatorAt p.name.bytes c d.start).length := by
    simp only [hf.digitsStart_eq, List.length_append, List.length_take,
      Nat.min_eq_left (Nat.le_of_lt hf.start_lt)]
  rw [Declaration.digitsIn, hf.take_stop, hlen, List.drop_left]

/-- Writing the declaration back with a new value replaces its digits and nothing else: the
name and the blanks encode back to the bytes they were read from. -/
theorem Found.render_splice (v : UInt64) :
    c.take d.start ++ d.render v ++ c.drop d.stop = d.withDigits c v.toNat := by
  rw [Declaration.withDigits, hf.take_digitsStart, Declaration.render_eq, hf.name,
    hf.utf8Bytes_blanks]
  simp only [List.append_assoc]

/-- The digits a found declaration stands on: a nonempty run of digits that nothing extends,
denoting its value. -/
theorem Found.digits :
    d.digitsIn c ≠ [] ∧ (∀ x ∈ d.digitsIn c, isDigitByte x = true) ∧
      digitRun (c.drop d.stop) = 0 ∧ digitsValue (d.digitsIn c) = d.value.toNat := by
  have hdig := (declaredAt_eq_true_iff.mp hf.declaredAt).2.2.2.1
  rw [hf.digitsIn_eq, hf.value, hf.stop]
  exact ⟨List.ne_nil_of_length_pos hdig, fun _ hx => isDigitByte_of_mem_digits hx,
    digitRun_drop_endAt _ c _, rfl⟩

end Found

/-! ## The next value -/

theorem lt_maxValue_iff {v : UInt64} : v < maxValue ↔ v ≠ maxValue := by
  have hv := v.toNat_lt_size
  have hmax : maxValue.toNat = UInt64.size - 1 := rfl
  rw [UInt64.lt_iff_toNat_lt, Ne, ← UInt64.toNat_inj, hmax]
  omega

theorem toNat_maxValue : maxValue.toNat = 2 ^ 64 - 1 := rfl

/-- Below the largest 64-bit value, the value plus one still fits in 64 bits. -/
theorem toNat_add_one_lt {v : UInt64} (h : v < maxValue) : v.toNat + 1 < 2 ^ 64 := by
  have hlt := UInt64.lt_iff_toNat_lt.mp h
  rw [toNat_maxValue] at hlt
  omega

theorem toNat_add_one {v : UInt64} (h : v < maxValue) : (v + 1).toNat = v.toNat + 1 := by
  rw [UInt64.toNat_add, UInt64.toNat_one]
  exact Nat.mod_eq_of_lt (toNat_add_one_lt h)

section NextValue

variable {r : Rule} {d : Declaration}

theorem nextValue_of_ceiling_le {m : UInt64} (hc : r.ceiling = some m) (hle : m ≤ d.value) :
    r.nextValue d = .error (.limitExceeded r.name.text d.value m) := by
  simp only [Rule.nextValue, hc, if_pos hle]

theorem nextValue_of_eq_maxValue (hc : ∀ m, r.ceiling = some m → d.value < m)
    (hmax : d.value = maxValue) :
    r.nextValue d = .error (.limitExceeded r.name.text d.value maxValue) := by
  cases hr : r.ceiling with
  | none => simp only [Rule.nextValue, hr, if_pos hmax]
  | some m => simp only [Rule.nextValue, hr, if_neg (UInt64.not_le.mpr (hc m hr)), if_pos hmax]

theorem nextValue_of_lt (hc : ∀ m, r.ceiling = some m → d.value < m) (hlt : d.value < maxValue) :
    r.nextValue d = .ok (d.value + 1) := by
  have hne := lt_maxValue_iff.mp hlt
  cases hr : r.ceiling with
  | none => simp only [Rule.nextValue, hr, if_neg hne]
  | some m => simp only [Rule.nextValue, hr, if_neg (UInt64.not_le.mpr (hc m hr)), if_neg hne]

/-- The three ways the next value can go: the ceiling refuses it, the value is the largest, or
the value goes up by one. -/
theorem nextValue_cases (r : Rule) (d : Declaration) :
    (∃ m, r.ceiling = some m ∧ m ≤ d.value) ∨
      ((∀ m, r.ceiling = some m → d.value < m) ∧ d.value = maxValue) ∨
      ((∀ m, r.ceiling = some m → d.value < m) ∧ d.value < maxValue) := by
  by_cases hrefuse : ∃ m, r.ceiling = some m ∧ m ≤ d.value
  · exact .inl hrefuse
  · have hc : ∀ m, r.ceiling = some m → d.value < m := fun m hm =>
      UInt64.not_le.mp fun hle => hrefuse ⟨m, hm, hle⟩
    by_cases hmax : d.value = maxValue
    · exact .inr (.inl ⟨hc, hmax⟩)
    · exact .inr (.inr ⟨hc, lt_maxValue_iff.mpr hmax⟩)

end NextValue

/-! ## Applying a rule -/

section Apply

variable {r : Rule} {c : Bytes}

theorem apply_of_find_error {e : DomainError} (h : r.pattern.find c = .error e) :
    r.apply c = .error e := by
  rw [Rule.apply, h]
  rfl

theorem apply_of_nextValue_error {d : Declaration} {e : DomainError}
    (h : r.pattern.find c = .ok d) (hn : r.nextValue d = .error e) : r.apply c = .error e := by
  rw [Rule.apply, h]
  show (r.nextValue d).bind _ = _
  rw [hn]
  rfl

theorem apply_of_nextValue_ok {d : Declaration} {next : UInt64}
    (h : r.pattern.find c = .ok d) (hn : r.nextValue d = .ok next) :
    r.apply c = .ok ⟨d, next, c.take d.start ++ d.render next ++ c.drop d.stop⟩ := by
  rw [Rule.apply, h]
  show (r.nextValue d).bind _ = _
  rw [hn]
  rfl

end Apply

/-- A bump succeeds exactly when a declaration is found whose value the ceiling lets through and
which is not the largest of 64 bits; it gives the value plus one and the digits spliced in. -/
theorem apply_eq_ok_iff {r : Rule} {c : Bytes} {b : Bump} :
    r.apply c = .ok b ↔ ∃ d, r.pattern.find c = .ok d ∧
      (∀ m, r.ceiling = some m → d.value < m) ∧ d.value < maxValue ∧
      b = ⟨d, d.value + 1, d.withDigits c (d.value.toNat + 1)⟩ := by
  constructor
  · intro h
    cases hfind : r.pattern.find c with
    | error e => rw [apply_of_find_error hfind] at h; cases h
    | ok d =>
        rcases nextValue_cases r d with ⟨m, hc, hle⟩ | ⟨hc, hmax⟩ | ⟨hc, hlt⟩
        · rw [apply_of_nextValue_error hfind (nextValue_of_ceiling_le hc hle)] at h
          cases h
        · rw [apply_of_nextValue_error hfind (nextValue_of_eq_maxValue hc hmax)] at h
          cases h
        · rw [apply_of_nextValue_ok hfind (nextValue_of_lt hc hlt)] at h
          refine ⟨d, rfl, hc, hlt, ?_⟩
          rw [← Except.ok.inj h, (found_of_find hfind).render_splice, toNat_add_one hlt]
  · rintro ⟨d, hfind, hc, hlt, rfl⟩
    rw [apply_of_nextValue_ok hfind (nextValue_of_lt hc hlt),
      (found_of_find hfind).render_splice, toNat_add_one hlt]

/-- What a bump does, for every rule and all bytes. It succeeds exactly when a declaration is
found whose value the ceiling lets through and which is not the largest of 64 bits; it then
gives the value plus one, and the bytes with the digits of the declaration, and only those,
replaced by the digits of the new value. Those digits are the whole run of digits after the
name and the blanks, and they denote the value. Otherwise the bump fails with the failure to
find, or the ceiling's refusal, or the refusal of the largest value, in that order. -/
theorem apply_bumps_digits (r : Rule) (c : Bytes) :
    (∀ b, r.apply c = .ok b ↔ ∃ d, r.pattern.find c = .ok d ∧
        (∀ m, r.ceiling = some m → d.value < m) ∧ d.value < maxValue ∧
        b = ⟨d, d.value + 1, d.withDigits c (d.value.toNat + 1)⟩) ∧
    (∀ d, r.pattern.find c = .ok d →
        d.name = r.name ∧
        c.take d.stop = c.take d.start ++ r.name.bytes ++ utf8Bytes d.blanks ++ d.digitsIn c ∧
        d.digitsIn c ≠ [] ∧ (∀ x ∈ d.digitsIn c, isDigitByte x = true) ∧
        digitRun (c.drop d.stop) = 0 ∧ digitsValue (d.digitsIn c) = d.value.toNat) ∧
    (∀ e, r.pattern.find c = .error e → r.apply c = .error e) ∧
    (∀ d m, r.pattern.find c = .ok d → r.ceiling = some m → m ≤ d.value →
        r.apply c = .error (.limitExceeded r.name.text d.value m)) ∧
    (∀ d, r.pattern.find c = .ok d → (∀ m, r.ceiling = some m → d.value < m) →
        d.value = maxValue → r.apply c = .error (.limitExceeded r.name.text d.value maxValue)) := by
  refine ⟨fun b => apply_eq_ok_iff, fun d h => ?_, fun e h => apply_of_find_error h,
    fun d m h hc hle => apply_of_nextValue_error h (nextValue_of_ceiling_le hc hle),
    fun d h hc hmax => apply_of_nextValue_error h (nextValue_of_eq_maxValue hc hmax)⟩
  have hf := found_of_find h
  obtain ⟨hne, hall, hrun, hvalue⟩ := hf.digits
  refine ⟨hf.name, ?_, hne, hall, hrun, hvalue⟩
  rw [hf.take_stop, hf.utf8Bytes_blanks, hf.digitsIn_eq]
  rfl

end VersionStamp
