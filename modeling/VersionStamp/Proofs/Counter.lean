import VersionStamp.Proofs.Bump
import VersionStamp.Proofs.Locality

/-! # Bumps in a row: new digits keep the one declaration where it stood, so bumps count up from the
value until the ceiling or the largest 64-bit value refuses one. -/

namespace VersionStamp

open Utf8 Text Decimal

/-! ## Other digits in place of a declaration's -/

/-- The bytes `A ++ name ++ W ++ D ++ S` hold the shape of a declaration just after `A`: `W` is
the whole run of blanks after the name, and `D` the whole run of digits after them. -/
structure ShapeParts (name A W D S : Bytes) : Prop where
  nameBytes : NameBytes name
  separator : separatorAt name (A ++ name ++ W ++ D ++ S) A.length = W
  digits_ne : D ≠ []
  digits : ∀ x ∈ D, isDigitByte x = true
  after : digitRun S = 0

section Parts

variable {name A W D D' S : Bytes}

theorem ShapeParts.drop_start (A name W D S : Bytes) :
    (A ++ name ++ W ++ D ++ S).drop A.length = name ++ W ++ D ++ S := by
  simp only [List.append_assoc, List.drop_left]

theorem ShapeParts.take_start (A name W D S : Bytes) :
    (A ++ name ++ W ++ D ++ S).take A.length = A := by
  simp only [List.append_assoc, List.take_left]

theorem ShapeParts.isPrefixOf (A name W D S : Bytes) :
    name.isPrefixOf ((A ++ name ++ W ++ D ++ S).drop A.length) = true := by
  rw [ShapeParts.drop_start, List.isPrefixOf_iff_prefix, List.append_assoc, List.append_assoc]
  exact List.prefix_append name _

theorem ShapeParts.digitsAt_eq (h : ShapeParts name A W D S) :
    digitsAt name (A ++ name ++ W ++ D ++ S) A.length = D := by
  have hdrop : (A ++ name ++ W ++ D ++ S).drop (A.length + name.length + W.length) = D ++ S := by
    rw [List.append_assoc _ D S]
    exact List.drop_left' (by simp only [List.length_append])
  rw [digitsAt, h.separator, hdrop, digitRun_append h.digits, h.after, Nat.add_zero,
    List.take_left]

theorem ShapeParts.endAt_eq (h : ShapeParts name A W D S) :
    endAt name (A ++ name ++ W ++ D ++ S) A.length =
      A.length + name.length + W.length + D.length := by
  rw [endAt, h.separator, h.digitsAt_eq]

theorem ShapeParts.drop_endAt (h : ShapeParts name A W D S) :
    (A ++ name ++ W ++ D ++ S).drop (endAt name (A ++ name ++ W ++ D ++ S) A.length) = S := by
  rw [h.endAt_eq]
  exact List.drop_left' (by simp; omega)

/-- Other digits keep the shape: the first digit, old or new, ends the blanks. -/
theorem ShapeParts.withDigits (h : ShapeParts name A W D S) (hne : D' ≠ [])
    (hall : ∀ x ∈ D', isDigitByte x = true) : ShapeParts name A W D' S := by
  obtain ⟨x, xs, rfl⟩ := List.exists_cons_of_ne_nil h.digits_ne
  obtain ⟨x', xs', rfl⟩ := List.exists_cons_of_ne_nil hne
  have hx := WordByte.of_isDigitByte (h.digits x List.mem_cons_self)
  have hx' := WordByte.of_isDigitByte (hall x' List.mem_cons_self)
  have hlen : A.length + name.length ≤ (A ++ name ++ W).length := by simp
  have hfence := (separatorAt_fence hx' hx hlen (xs' ++ S) (xs ++ S)).1
  have hparts : ∀ (y : UInt8) (ys : Bytes),
      A ++ name ++ W ++ y :: ys ++ S = A ++ name ++ W ++ y :: (ys ++ S) := by
    intro y ys
    simp only [List.append_assoc, List.cons_append]
  refine ⟨h.nameBytes, ?_, hne, hall, h.after⟩
  rw [hparts, hfence, ← hparts]
  exact h.separator

/-- The declaration at the shape reads the character before it and the one after the digits,
which other digits leave as they were. -/
theorem ShapeParts.declaredAt_eq (h : ShapeParts name A W D S) (h' : ShapeParts name A W D' S) :
    declaredAt name (A ++ name ++ W ++ D' ++ S) A.length =
      declaredAt name (A ++ name ++ W ++ D ++ S) A.length := by
  obtain ⟨b, rest, hname, -⟩ := h.nameBytes.head
  have hb : WordByte b := h.nameBytes.word b (by simp [hname])
  have hfront : ∀ E : Bytes, (A ++ name ++ W ++ E ++ S)[A.length]? = some b := by
    intro E
    rw [← List.head?_drop, ShapeParts.drop_start, hname]
    rfl
  have hboundary : boundaryAt (A ++ name ++ W ++ D' ++ S) A.length =
      boundaryAt (A ++ name ++ W ++ D ++ S) A.length := by
    rw [boundaryAt_of_getElem? (hfront D') hb, boundaryAt_of_getElem? (hfront D) hb,
      ShapeParts.take_start, ShapeParts.take_start]
  simp only [declaredAt, hboundary, ShapeParts.isPrefixOf, h.separator, h'.separator,
    h.digitsAt_eq, h'.digitsAt_eq, h.drop_endAt, h'.drop_endAt, List.length_pos_iff,
    h.digits_ne, h'.digits_ne, ne_eq, not_false_eq_true, decide_true]

/-- A declaration whose name ends before a name, of the same constant or another, does not see
past that name's first byte, a word byte that is no digit. -/
theorem NameBytes.declaredAt_before (hn : NameBytes name) {b : Bytes} {q : Nat}
    (hfit : q + b.length ≤ A.length) (hlt : q < A.length) (T T' : Bytes) :
    declaredAt b (A ++ name ++ T') q = declaredAt b (A ++ name ++ T) q := by
  obtain ⟨b, rest, hname, hbd⟩ := hn.head
  have hb : WordByte b := hn.word b (by simp [hname])
  have hparts : ∀ U : Bytes, A ++ name ++ U = A ++ b :: (rest ++ U) := by
    intro U
    simp [hname]
  rw [hparts, hparts, declaredAt_fence hb hbd hfit hlt _ (rest ++ T)]

/-- No declaration has a name that runs into another name: the byte after it is a name byte,
no blank. -/
theorem NameBytes.declaredAt_overlap (hn : NameBytes name) {q : Nat} (hlt : q < A.length)
    (hover : A.length < q + name.length) (T : Bytes) :
    declaredAt name (A ++ name ++ T) q = false := by
  have hdrop : (A ++ name ++ T).drop A.length = name ++ T := by
    simp only [List.append_assoc, List.drop_left]
  obtain ⟨y, hy, hcy⟩ := exists_getElem?_of_drop (i := q + name.length - A.length) hdrop
    (by omega)
  rw [show A.length + (q + name.length - A.length) = q + name.length by omega] at hcy
  obtain ⟨ys, hys⟩ := List.head?_eq_some_iff.mp (List.head?_drop.trans hcy)
  rw [Bool.eq_false_iff]
  intro hdecl
  have hsep := (declaredAt_eq_true_iff.mp hdecl).2.2.1
  rw [length_separatorAt, hys, (hn.word y hy).blankRun_cons] at hsep
  exact Nat.lt_irrefl 0 hsep

/-- After the shape, the bytes are the same behind the last digit, old or new: a declaration
there, of any name, stands just as far behind the end of the digits. -/
theorem ShapeParts.declaredAt_after (h : ShapeParts name A W D S) (h' : ShapeParts name A W D' S)
    {b : Bytes} (j : Nat) :
    declaredAt b (A ++ name ++ W ++ D' ++ S) (A.length + name.length + W.length + D'.length + j) =
      declaredAt b (A ++ name ++ W ++ D ++ S) (A.length + name.length + W.length + D.length + j) := by
  have hsplit : ∀ E : Bytes, (hE : E ≠ []) →
      A ++ name ++ W ++ E ++ S = (A ++ name ++ W ++ E.dropLast) ++ E.getLast hE :: S := by
    intro E hE
    conv => lhs; rw [← List.dropLast_concat_getLast hE]
    simp only [List.append_assoc, List.cons_append, List.nil_append]
  have hlast : ∀ E : Bytes, (hE : E ≠ []) → (∀ x ∈ E, isDigitByte x = true) →
      WordByte (E.getLast hE) := fun E hE hall =>
    WordByte.of_isDigitByte (hall _ (List.getLast_mem hE))
  have hlen : ∀ E : Bytes, E ≠ [] → E.dropLast.length + 1 = E.length := fun E hE => by
    have := List.length_pos_of_ne_nil hE
    rw [List.length_dropLast]
    omega
  have hshift := declaredAt_shift b S (A ++ name ++ W ++ D'.dropLast)
    (A ++ name ++ W ++ D.dropLast) (hlast D' h'.digits_ne h'.digits) (hlast D h.digits_ne h.digits) j
  rw [← hsplit D' h'.digits_ne, ← hsplit D h.digits_ne] at hshift
  simp only [List.length_append, Nat.add_assoc _ D'.dropLast.length, Nat.add_assoc _ D.dropLast.length,
    hlen D' h'.digits_ne, hlen D h.digits_ne] at hshift
  simpa only [Nat.add_assoc] using hshift

/-- A declaration elsewhere in the bytes with the new digits stands elsewhere in the old bytes
too: before the shape the first byte of its name fences the digits off, inside the shape none
starts, and after it the bytes are the same behind a digit. -/
theorem ShapeParts.declaredAt_other (h : ShapeParts name A W D S) (h' : ShapeParts name A W D' S)
    {q : Nat} (hq : q ≠ A.length) (hdecl : declaredAt name (A ++ name ++ W ++ D' ++ S) q = true) :
    ∃ q', q' ≠ A.length ∧ declaredAt name (A ++ name ++ W ++ D ++ S) q' = true := by
  have hassoc : ∀ E : Bytes, A ++ name ++ W ++ E ++ S = A ++ name ++ (W ++ E ++ S) := by
    intro E
    simp only [List.append_assoc]
  rcases Nat.lt_or_gt_of_ne hq with hlt | hgt
  · by_cases hfit : q + name.length ≤ A.length
    · refine ⟨q, hq, ?_⟩
      rw [hassoc, h.nameBytes.declaredAt_before hfit hlt (W ++ D' ++ S) (W ++ D ++ S), ← hassoc]
      exact hdecl
    · rw [hassoc, h.nameBytes.declaredAt_overlap hlt (by omega)] at hdecl
      exact absurd hdecl Bool.false_ne_true
  · have hend := h'.endAt_eq
    by_cases hin : q < endAt name (A ++ name ++ W ++ D' ++ S) A.length
    · rw [declaredAt_inside h'.nameBytes h'.nameBytes (ShapeParts.isPrefixOf A name W D' S) hgt hin]
        at hdecl
      exact absurd hdecl Bool.false_ne_true
    · have hq' : q = A.length + name.length + W.length + D'.length +
          (q - (A.length + name.length + W.length + D'.length)) := by omega
      refine ⟨A.length + name.length + W.length + D.length +
        (q - (A.length + name.length + W.length + D'.length)), ?_, ?_⟩
      · have := List.length_pos_of_ne_nil h.digits_ne
        omega
      · rw [← h.declaredAt_after h', ← hq']
        exact hdecl

/-- Other digits keep the one declaration the one declaration. -/
theorem ShapeParts.offsets_withDigits (h : ShapeParts name A W D S) (h' : ShapeParts name A W D' S)
    (hq : declarationOffsets name (A ++ name ++ W ++ D ++ S) = [A.length]) :
    declarationOffsets name (A ++ name ++ W ++ D' ++ S) = [A.length] := by
  have hne : name ≠ [] := by
    obtain ⟨b, rest, hname, -⟩ := h.nameBytes.head
    simp [hname]
  apply declarationOffsets_eq_singleton
  · have := List.length_pos_of_ne_nil hne
    simp only [List.length_append]
    omega
  · rw [h.declaredAt_eq h']
    exact declaredAt_of_mem_declarationOffsets (hq ▸ List.mem_singleton_self _)
  · intro q _ hqne
    cases hd : declaredAt name (A ++ name ++ W ++ D' ++ S) q with
    | false => rfl
    | true =>
        obtain ⟨q', hq', hd'⟩ := h.declaredAt_other h' hqne hd
        have hmem : q' ∈ declarationOffsets name (A ++ name ++ W ++ D ++ S) :=
          List.mem_filter.mpr ⟨List.mem_range.mpr (lt_length_of_declaredAt hne hd'), hd'⟩
        rw [hq, List.mem_singleton] at hmem
        exact absurd hmem hq'

end Parts

/-! ## A found declaration with other digits -/

/-- The declaration `d` once the digits of `n` stand in place of its own. -/
def Declaration.withValue (d : Declaration) (n : Nat) : Declaration :=
  { d with value := n.toUInt64, stop := d.digitsStart + (decimalBytes n).length }

section WithValue

variable (d : Declaration) (n : Nat)

@[simp] theorem Declaration.start_withValue : (d.withValue n).start = d.start := rfl

@[simp] theorem Declaration.blanks_withValue : (d.withValue n).blanks = d.blanks := rfl

@[simp] theorem Declaration.value_withValue : (d.withValue n).value = n.toUInt64 := rfl

@[simp] theorem Declaration.stop_withValue :
    (d.withValue n).stop = d.digitsStart + (decimalBytes n).length := rfl

@[simp] theorem Declaration.digitsStart_withValue : (d.withValue n).digitsStart = d.digitsStart :=
  rfl

end WithValue

section Found

variable {p : Pattern} {c : Bytes} {d : Declaration} (hf : Found p c d)
include hf

theorem Found.length_take_start : (c.take d.start).length = d.start :=
  List.length_take_of_le (Nat.le_of_lt hf.start_lt)

theorem Found.eq_parts :
    c = c.take d.start ++ p.name.bytes ++ separatorAt p.name.bytes c d.start ++
      digitsAt p.name.bytes c d.start ++ c.drop d.stop := by
  conv => lhs; rw [← List.take_append_drop d.start c]
  rw [hf.drop_start]
  simp only [List.append_assoc]

theorem Found.shapeParts :
    ShapeParts p.name.bytes (c.take d.start) (separatorAt p.name.bytes c d.start)
      (digitsAt p.name.bytes c d.start) (c.drop d.stop) := by
  obtain ⟨hne, hall, hrun, -⟩ := hf.digits
  rw [hf.digitsIn_eq] at hne hall
  refine ⟨p.name.nameBytes, ?_, hne, hall, hrun⟩
  rw [← hf.eq_parts, hf.length_take_start]

theorem Found.digitsStart_le : d.digitsStart ≤ c.length := by
  have hlen := congrArg List.length hf.eq_parts
  simp only [List.length_append, hf.length_take_start] at hlen
  rw [hf.digitsStart_eq]
  omega

/-- A found declaration ends where its digits end. -/
theorem Found.stop_eq : d.stop = d.digitsStart + (d.digitsIn c).length := by
  rw [hf.digitsStart_eq, hf.digitsIn_eq, hf.stop, endAt]

theorem Found.withDigits_eq (n : Nat) :
    d.withDigits c n = c.take d.start ++ p.name.bytes ++ separatorAt p.name.bytes c d.start ++
      decimalBytes n ++ c.drop d.stop := by
  rw [Declaration.withDigits, hf.take_digitsStart]

/-- The digits of any 64-bit value in place of those of a found declaration hold the same
declaration, ending after the new digits and with the value they denote. -/
theorem Found.withDigits {n : Nat} (hn : n < 2 ^ 64) :
    Found p (d.withDigits c n) (d.withValue n) := by
  have hshape := hf.shapeParts
  have hshape' := hshape.withDigits (decimalBytes_ne_nil n)
    (fun _ hx => isDigitByte_of_mem_decimalBytes hx)
  have hlen := hf.length_take_start
  have hsep := hshape'.separator
  have hend := hshape'.endAt_eq
  have hdig := hshape'.digitsAt_eq
  have hoff := hshape.offsets_withDigits hshape' (by rw [← hf.eq_parts, hlen]; exact hf.offsets)
  rw [hlen, ← hf.withDigits_eq] at hsep hend hdig hoff
  refine ⟨hf.name, hoff, ?_, ?_, ?_⟩
  · rw [Declaration.blanks_withValue, Declaration.start_withValue, hsep, hf.blanks]
  · rw [Declaration.stop_withValue, Declaration.start_withValue, hend, hf.digitsStart_eq]
  · rw [Declaration.value_withValue, Declaration.start_withValue, hdig, digitsValue_decimalBytes]
    exact UInt64.toNat_ofNat_of_lt' hn

/-- Digits written over digits that were written over those of `d` are written over those of
`d`. -/
theorem Found.withDigits_withDigits (n m : Nat) :
    (d.withValue n).withDigits (d.withDigits c n) m = d.withDigits c m := by
  have hlen : (c.take d.digitsStart).length = d.digitsStart :=
    List.length_take_of_le hf.digitsStart_le
  have htake : (d.withDigits c n).take d.digitsStart = c.take d.digitsStart := by
    rw [Declaration.withDigits, List.append_assoc, List.take_left' hlen]
  have hdrop : (d.withDigits c n).drop (d.digitsStart + (decimalBytes n).length) = c.drop d.stop := by
    rw [Declaration.withDigits, List.drop_left' (by rw [List.length_append, hlen])]
  rw [Declaration.withDigits, Declaration.digitsStart_withValue, htake, Declaration.stop_withValue,
    hdrop]
  rfl

end Found

/-! ## Bumps in a row -/

/-- The bytes after `k` bumps in a row, each applied to the bytes the one before wrote. -/
def Rule.bumps (r : Rule) : Nat → Bytes → Except DomainError Bytes
  | 0, c => .ok c
  | k + 1, c => do
    let b ← r.apply c
    r.bumps k b.content

/-- How far the values of a rule may go: to its ceiling, or else to the largest 64-bit value. -/
def Rule.limit (r : Rule) : UInt64 := r.ceiling.getD maxValue

theorem le_maxValue (v : UInt64) : v ≤ maxValue := by
  have hv := v.toNat_lt_size
  have hmax : maxValue.toNat = UInt64.size - 1 := rfl
  rw [UInt64.le_iff_toNat_le, hmax]
  omega

/-- A number is within the limit when the ceiling, if there is one, and the largest 64-bit value
both let it through. -/
theorem le_limit_iff {r : Rule} {n : Nat} :
    n ≤ r.limit.toNat ↔ (∀ m, r.ceiling = some m → n ≤ m.toNat) ∧ n ≤ maxValue.toNat := by
  cases hr : r.ceiling with
  | none => simp [Rule.limit, hr]
  | some m =>
      have hm := UInt64.le_iff_toNat_le.mp (le_maxValue m)
      simp only [Rule.limit, hr, Option.getD_some, Option.some.injEq, forall_eq']
      omega

/-- A value is below the limit when the ceiling, if there is one, and the largest 64-bit value
are both above it: exactly the values that a bump takes one further. -/
theorem lt_limit_iff {r : Rule} {v : UInt64} :
    v < r.limit ↔ (∀ m, r.ceiling = some m → v < m) ∧ v < maxValue := by
  cases hr : r.ceiling with
  | none => simp [Rule.limit, hr]
  | some m =>
      simp only [Rule.limit, hr, Option.getD_some, Option.some.injEq, forall_eq']
      exact ⟨fun h => ⟨h, UInt64.lt_of_lt_of_le h (le_maxValue m)⟩, fun h => h.1⟩

section Step

variable {r : Rule} {d : Declaration}

theorem nextValue_of_lt_limit (h : d.value < r.limit) : r.nextValue d = .ok (d.value + 1) :=
  nextValue_of_lt (lt_limit_iff.mp h).1 (lt_limit_iff.mp h).2

/-- The value at the limit is refused with the limit as value and as ceiling, whichever of the
two bounds the limit is. -/
theorem nextValue_of_eq_limit (h : d.value = r.limit) :
    r.nextValue d = .error (.limitExceeded r.name.text r.limit r.limit) := by
  cases hr : r.ceiling with
  | none =>
      have hmax : d.value = maxValue := by simpa only [Rule.limit, hr, Option.getD_none] using h
      rw [nextValue_of_eq_maxValue (by simp [hr]) hmax, h]
      simp only [Rule.limit, hr, Option.getD_none]
  | some m =>
      have hm : d.value = m := by simpa only [Rule.limit, hr, Option.getD_some] using h
      rw [nextValue_of_ceiling_le hr (UInt64.le_of_eq hm.symm), h]
      simp only [Rule.limit, hr, Option.getD_some]

variable {c : Bytes} (hf : Found r.pattern c d)
include hf

/-- One bump of a found declaration whose value is within the limit: the next value, or the
refusal at the limit. -/
theorem Found.apply_eq (hv : d.value ≤ r.limit) :
    r.apply c = if d.value < r.limit then .ok ⟨d, d.value + 1, d.withDigits c (d.value.toNat + 1)⟩
      else .error (.limitExceeded r.name.text r.limit r.limit) := by
  have hfind := find_of_found hf
  by_cases hlt : d.value < r.limit
  · rw [if_pos hlt, apply_of_nextValue_ok hfind (nextValue_of_lt_limit hlt), hf.render_splice,
      toNat_add_one (lt_limit_iff.mp hlt).2]
  · have heq : d.value = r.limit := UInt64.le_antisymm hv (UInt64.not_lt.mp hlt)
    rw [if_neg hlt, apply_of_nextValue_error hfind (nextValue_of_eq_limit heq)]

/-- Bumps in a row from a found declaration within the limit count up from its value: after
`k + 1` of them the digits are those of the value plus `k + 1`, unless that passes the limit, in
which case the first bump at the limit refuses. -/
theorem Found.bumps_succ (k : Nat) (hv : d.value ≤ r.limit) :
    r.bumps (k + 1) c = if d.value.toNat + (k + 1) ≤ r.limit.toNat
      then .ok (d.withDigits c (d.value.toNat + (k + 1)))
      else .error (.limitExceeded r.name.text r.limit r.limit) := by
  induction k generalizing c d with
  | zero =>
      rw [Rule.bumps, hf.apply_eq hv]
      by_cases hlt : d.value < r.limit
      · have hle : d.value.toNat + (0 + 1) ≤ r.limit.toNat := UInt64.lt_iff_toNat_lt.mp hlt
        rw [if_pos hlt, if_pos hle]
        rfl
      · have hgt : ¬ d.value.toNat + (0 + 1) ≤ r.limit.toNat := UInt64.lt_iff_toNat_lt.not.mp hlt
        rw [if_neg hlt, if_neg hgt]
        rfl
  | succ k ih =>
      rw [Rule.bumps, hf.apply_eq hv]
      by_cases hlt : d.value < r.limit
      · have hlt' := UInt64.lt_iff_toNat_lt.mp hlt
        have hsmall := toNat_add_one_lt (lt_limit_iff.mp hlt).2
        have hf' := hf.withDigits hsmall
        have hv' : (d.withValue (d.value.toNat + 1)).value ≤ r.limit := by
          rw [UInt64.le_iff_toNat_le, Declaration.value_withValue, UInt64.toNat_ofNat_of_lt' hsmall]
          omega
        have hval : (d.withValue (d.value.toNat + 1)).value.toNat = d.value.toNat + 1 :=
          UInt64.toNat_ofNat_of_lt' hsmall
        have hk : d.value.toNat + 1 + (k + 1) = d.value.toNat + (k + 1 + 1) := by omega
        rw [if_pos hlt]
        show r.bumps (k + 1) (d.withDigits c (d.value.toNat + 1)) = _
        rw [ih hf' hv', hval, hf.withDigits_withDigits, hk]
      · have hge : ¬ d.value.toNat + (k + 1 + 1) ≤ r.limit.toNat := by
          have := UInt64.lt_iff_toNat_lt.not.mp hlt
          omega
        rw [if_neg hlt, if_neg hge]
        rfl

end Step

/-- What a successful bump leaves behind, for every rule and all bytes. The new bytes hold the
one declaration again, at the same offset, with the same blanks and the new value; it ends
where the old one did, moved by the change in the number of digits. And bumps in a row count up:
`k + 1` of them succeed exactly when the value plus `k + 1` is within the ceiling and 64 bits,
and write the digits of that number in place of the old ones; otherwise the first bump that is
refused refuses at the limit. -/
theorem apply_then_bumps (r : Rule) (c : Bytes) (b : Bump) (h : r.apply c = .ok b) :
    (∃ d', r.pattern.find b.content = .ok d' ∧ d'.start = b.declaration.start ∧
      d'.blanks = b.declaration.blanks ∧ d'.value = b.next ∧
      d'.stop + (b.declaration.digitsIn c).length =
        b.declaration.stop + (decimalBytes b.next.toNat).length) ∧
    ∀ k, r.bumps (k + 1) c =
      if b.previous.toNat + (k + 1) ≤ r.limit.toNat
      then .ok (b.declaration.withDigits c (b.previous.toNat + (k + 1)))
      else .error (.limitExceeded r.name.text r.limit r.limit) := by
  obtain ⟨d, hfind, hc, hlt, rfl⟩ := apply_eq_ok_iff.mp h
  dsimp only [Bump.previous]
  have hf := found_of_find hfind
  have hsmall := toNat_add_one_lt hlt
  have hnext : (d.value + 1).toNat = d.value.toNat + 1 := toNat_add_one hlt
  have hv : d.value ≤ r.limit := UInt64.le_of_lt (lt_limit_iff.mpr ⟨hc, hlt⟩)
  refine ⟨⟨d.withValue (d.value.toNat + 1), find_of_found (hf.withDigits hsmall), rfl, rfl, ?_, ?_⟩,
    fun k => hf.bumps_succ k hv⟩
  · apply UInt64.toNat_inj.mp
    rw [Declaration.value_withValue, UInt64.toNat_ofNat_of_lt' hsmall, hnext]
  · rw [Declaration.stop_withValue, hf.stop_eq, hnext]
    omega

/-- One bump of `V 7` gives `V 8`, and the bumps after it count on to the largest 64-bit value. -/
theorem apply_then_bumps_seven :
    Rule.apply ⟨⟨⟨"V", by decide⟩, by decide⟩, none⟩ [86, 32, 55] =
        .ok ⟨⟨⟨"V", by decide⟩, " ", 7, 0, 3⟩, 8, [86, 32, 56]⟩ ∧
      ((∃ d', Pattern.find ⟨⟨"V", by decide⟩, by decide⟩ [86, 32, 56] = .ok d' ∧ d'.start = 0 ∧
          d'.blanks = " " ∧ d'.value = 8 ∧
          d'.stop + (Declaration.digitsIn ⟨⟨"V", by decide⟩, " ", 7, 0, 3⟩ [86, 32, 55]).length =
            3 + (decimalBytes 8).length) ∧
        ∀ k, Rule.bumps ⟨⟨⟨"V", by decide⟩, by decide⟩, none⟩ (k + 1) [86, 32, 55] =
          if 7 + (k + 1) ≤ maxValue.toNat
          then .ok (Declaration.withDigits ⟨⟨"V", by decide⟩, " ", 7, 0, 3⟩ [86, 32, 55] (7 + (k + 1)))
          else .error (.limitExceeded "V" maxValue maxValue)) := by
  have hfound : Found ⟨⟨"V", by decide⟩, by decide⟩ [86, 32, 55] ⟨⟨"V", by decide⟩, " ", 7, 0, 3⟩ :=
    ⟨rfl, by cbv, by cbv, by cbv, by cbv⟩
  have h : Rule.apply ⟨⟨⟨"V", by decide⟩, by decide⟩, none⟩ [86, 32, 55] =
      .ok ⟨⟨⟨"V", by decide⟩, " ", 7, 0, 3⟩, 8, [86, 32, 56]⟩ :=
    apply_eq_ok_iff.mpr ⟨_, find_of_found hfound,
      fun m hm => absurd hm.symm (Option.some_ne_none m), by decide, by cbv⟩
  exact ⟨h, apply_then_bumps _ _ _ h⟩

end VersionStamp
