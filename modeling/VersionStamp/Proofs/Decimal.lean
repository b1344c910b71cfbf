import VersionStamp.Proofs.Utf8
import VersionStamp.Decimal

/-! # Decimal numerals as bytes: the digits a bump writes read back as the number, and a run of
digits reads as its value exactly when that fits in 64 bits. -/

namespace VersionStamp.Decimal
open Utf8

/-- A decimal digit character, by its code. -/
theorem isDigit_iff (c : Char) : c.isDigit = true ↔ 48 ≤ c.toNat ∧ c.toNat ≤ 57 := by
  simp [Char.isDigit, UInt32.le_iff_toNat_le]

theorem toNat_of_isDigit {c : Char} (h : c.isDigit = true) : 48 ≤ c.toNat ∧ c.toNat ≤ 57 :=
  (isDigit_iff c).mp h

theorem isDigitByte_iff (b : UInt8) : isDigitByte b = true ↔ 0x30 ≤ b.toNat ∧ b.toNat ≤ 0x39 := by
  simp [isDigitByte, UInt8.le_iff_toNat_le]

theorem digits_of_mem_toDigits {n : Nat} {c : Char} (h : c ∈ Nat.toDigits 10 n) :
    48 ≤ c.toNat ∧ c.toNat ≤ 57 :=
  toNat_of_isDigit (Nat.isDigit_of_mem_toDigits (by decide) (by decide) h)

/-- The digits of `n` are bytes of digits. -/
theorem isDigitByte_of_mem_decimalBytes {n : Nat} {b : UInt8} (h : b ∈ decimalBytes n) :
    isDigitByte b = true := by
  obtain ⟨c, hc, rfl⟩ := List.mem_map.mp h
  have := digits_of_mem_toDigits hc
  rw [isDigitByte_iff]
  simp
  omega

theorem decimalBytes_ne_nil (n : Nat) : decimalBytes n ≠ [] := by
  simp [decimalBytes, Nat.toDigits_ne_nil]

theorem utf8Bytes_toString (v : UInt64) : utf8Bytes (toString v) = decimalBytes v.toNat := by
  show utf8Bytes (Nat.repr v.toNat) = _
  rw [Nat.repr_eq_ofList_toDigits, utf8Bytes_ofList, decimalBytes,
    flatMap_utf8EncodeChar_of_ascii fun c hc => by have := digits_of_mem_toDigits hc; omega]

theorem wordBound_eq : wordBound = 2 ^ 64 := rfl

/-- Reading digits never lowers the number read so far. -/
theorem le_foldl_digits (acc : Nat) (ds : List UInt8) :
    acc ≤ ds.foldl (fun acc d => acc * 10 + (d.toNat - 0x30)) acc := by
  induction ds generalizing acc with
  | nil => simp
  | cons d ds ih =>
      have := ih (acc * 10 + (d.toNat - 0x30))
      simp only [List.foldl_cons]
      omega

/-- Digits are read until the number passes 64 bits; whether it does is decided by the whole
run, since reading more digits never lowers it. -/
theorem readDigitsFrom_digits {acc : Nat} (hacc : acc < wordBound) {ds : List UInt8}
    (h : ∀ b ∈ ds, isDigitByte b = true) :
    readDigitsFrom acc (ds.map fun b => Char.ofNat b.toNat) =
      if ds.foldl (fun acc d => acc * 10 + (d.toNat - 0x30)) acc < wordBound then
        .ok (ds.foldl (fun acc d => acc * 10 + (d.toNat - 0x30)) acc)
      else .error .tooLarge := by
  induction ds generalizing acc with
  | nil => simp [readDigitsFrom, hacc]
  | cons d ds ih =>
      have hd := (isDigitByte_iff d).mp (h d (by simp))
      have hc : (Char.ofNat d.toNat).toNat = d.toNat := toNat_ofNat_of_valid (by omega)
      have hdigit : (Char.ofNat d.toNat).isDigit = true := by
        rw [isDigit_iff, hc]
        omega
      have h0 : '0'.toNat = 0x30 := rfl
      simp only [List.map_cons, readDigitsFrom, hdigit, Bool.not_true, Bool.false_eq_true,
        if_false, hc, h0, List.foldl_cons]
      by_cases hnext : acc * 10 + (d.toNat - 0x30) < wordBound
      · rw [if_pos hnext]
        exact ih hnext fun b hb => h b (by simp [hb])
      · have := le_foldl_digits (acc * 10 + (d.toNat - 0x30)) ds
        have hlarge : ¬ds.foldl (fun acc d => acc * 10 + (d.toNat - 0x30))
            (acc * 10 + (d.toNat - 0x30)) < wordBound := by omega
        rw [if_neg hnext]
        exact (if_neg hlarge).symm

/-- A run of digits reads as its value when that fits in 64 bits and as too large otherwise,
however many zeros it starts with. -/
theorem readU64_digits {ds : List UInt8} (hne : ds ≠ []) (h : ∀ b ∈ ds, isDigitByte b = true) :
    readU64 (String.ofList (decodeLossy ds)) =
      if digitsValue ds < wordBound then .ok (digitsValue ds).toUInt64 else .error .tooLarge := by
  have hascii : ∀ b ∈ ds, b.toNat < 0x80 := fun b hb => by
    have := (isDigitByte_iff b).mp (h b hb)
    omega
  obtain ⟨d, rest, rfl⟩ := List.exists_cons_of_ne_nil hne
  have hd := (isDigitByte_iff d).mp (h d (by simp))
  have hplus : Char.ofNat d.toNat ≠ '+' := by
    intro heq
    have := congrArg Char.toNat heq
    rw [toNat_ofNat_of_valid (by omega)] at this
    simp at this
    omega
  have hread := readDigitsFrom_digits (show 0 < wordBound by decide) h
  rw [decodeLossy_ascii hascii]
  simp only [readU64, String.toList_ofList, List.map_cons]
  split
  · -- the digits are neither empty nor a lone sign
    simp_all
  · simp_all [digitsValue]
    split <;> rfl

/-- Reading back the digits of `n` gives `n`. -/
theorem digitsValue_decimalBytes (n : Nat) : digitsValue (decimalBytes n) = n := by
  have key : ∀ (l : List Char), (∀ c ∈ l, 48 ≤ c.toNat ∧ c.toNat ≤ 57) → ∀ acc,
      (l.map fun c => c.toNat.toUInt8).foldl (fun acc d => acc * 10 + (d.toNat - 0x30)) acc =
        Nat.ofDigitChars 10 l acc := by
    intro l hl
    induction l with
    | nil => simp
    | cons c l ih =>
        intro acc
        have hc := hl c (by simp)
        have hbyte : (c.toNat.toUInt8).toNat = c.toNat := by simp; omega
        rw [List.map_cons, List.foldl_cons, Nat.ofDigitChars_cons, hbyte,
          ih (fun d hd => hl d (by simp [hd]))]
        congr 1
        simp only [Char.reduceToNat]
        omega
  rw [digitsValue, decimalBytes, key _ (fun c hc => digits_of_mem_toDigits hc),
    Nat.ofDigitChars_ten_toDigits]

end VersionStamp.Decimal
