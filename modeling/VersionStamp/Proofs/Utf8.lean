import Mathlib
import VersionStamp.Text.Utf8

/-! # The decoder reads exactly the encodings that `String.utf8EncodeChar` writes, an ASCII byte
fences a decoding off from what follows it, and lossy decoding of encodings loses nothing. -/

namespace VersionStamp.Utf8

/-! ## Bytes -/

/-- A statement about every byte, checked on the numbers below `256`. -/
theorem forall_byte {P : UInt8 → Prop} (h : ∀ n, n < 256 → P n.toUInt8) : ∀ b, P b := by
  intro b
  simpa using h b.toNat b.toNat_lt

set_option maxRecDepth 8000 in
/-- A continuation byte is one of `80` to `BF`. -/
theorem isCont_iff (b : UInt8) : isCont b = true ↔ 0x80 ≤ b.toNat ∧ b.toNat ≤ 0xBF := by
  revert b
  apply forall_byte
  decide

theorem isCont_of_ascii {b : UInt8} (h : b.toNat < 0x80) : isCont b = false := by
  cases hb : isCont b
  · rfl
  · have := (isCont_iff b).mp hb
    omega

theorem second3_iff (a b : UInt8) : second3 a b = true ↔
    (a.toNat = 0xE0 → 0xA0 ≤ b.toNat) ∧ (a.toNat = 0xED → b.toNat ≤ 0x9F) ∧
      0x80 ≤ b.toNat ∧ b.toNat ≤ 0xBF := by
  unfold second3
  by_cases h0 : a = 0xE0 <;> by_cases h1 : a = 0xED <;>
    simp_all [UInt8.le_iff_toNat_le, ← UInt8.toNat_inj] <;> omega

theorem second4_iff (a b : UInt8) : second4 a b = true ↔
    (a.toNat = 0xF0 → 0x90 ≤ b.toNat) ∧ (a.toNat = 0xF4 → b.toNat ≤ 0x8F) ∧
      0x80 ≤ b.toNat ∧ b.toNat ≤ 0xBF := by
  unfold second4
  by_cases h0 : a = 0xF0 <;> by_cases h1 : a = 0xF4 <;>
    simp_all [UInt8.le_iff_toNat_le, ← UInt8.toNat_inj] <;> omega

theorem ofNat_eq_iff {n : Nat} {b : UInt8} : UInt8.ofNat n = b ↔ n % 256 = b.toNat := by
  constructor
  · rintro rfl
    simp
  · intro h
    apply UInt8.toNat_inj.mp
    simpa using h

/-! ## Encodings -/

theorem toNat_ofNat_of_valid {v : Nat} (h : v.isValidChar) : (Char.ofNat v).toNat = v := by
  unfold Char.ofNat
  rw [dif_pos h]
  rfl

/-- The encoding of a character, read off its scalar value `v`. -/
theorem utf8EncodeChar_of_toNat {ch : Char} {v : Nat} (h : ch.toNat = v) :
    String.utf8EncodeChar ch =
      if v ≤ 0x7f then [UInt8.ofNat v]
      else if v ≤ 0x7ff then [UInt8.ofNat (v / 64 % 0x20 + 0xc0), UInt8.ofNat (v % 0x40 + 0x80)]
      else if v ≤ 0xffff then
        [UInt8.ofNat (v / 4096 % 0x10 + 0xe0), UInt8.ofNat (v / 64 % 0x40 + 0x80),
          UInt8.ofNat (v % 0x40 + 0x80)]
      else
        [UInt8.ofNat (v / 262144 % 0x08 + 0xf0), UInt8.ofNat (v / 4096 % 0x40 + 0x80),
          UInt8.ofNat (v / 64 % 0x40 + 0x80), UInt8.ofNat (v % 0x40 + 0x80)] := by
  subst h
  rfl

theorem encode_one (a : UInt8) (ha : a.toNat ≤ 0x7F) :
    String.utf8EncodeChar (Char.ofNat a.toNat) = [a] := by
  rw [utf8EncodeChar_of_toNat (toNat_ofNat_of_valid (by omega)), if_pos ha]
  simp only [List.cons.injEq, ofNat_eq_iff, and_true]
  omega

theorem encode_two (a b : UInt8) (ha : 0xC2 ≤ a.toNat ∧ a.toNat ≤ 0xDF)
    (hb : 0x80 ≤ b.toNat ∧ b.toNat ≤ 0xBF) :
    String.utf8EncodeChar (Char.ofNat (scalar2 a b)) = [a, b] := by
  rw [utf8EncodeChar_of_toNat (toNat_ofNat_of_valid (by unfold scalar2; omega))]
  unfold scalar2
  rw [if_neg (by omega), if_pos (by omega)]
  simp only [List.cons.injEq, ofNat_eq_iff, and_true]
  omega

/-- A three-byte encoding whose second byte keeps to the narrowed ranges after `E0` and `ED`:
these ranges keep the scalar out of the overlong and the surrogate forms. -/
theorem encode_three (a b c : UInt8) (ha : 0xE0 ≤ a.toNat ∧ a.toNat ≤ 0xEF)
    (hlo : a.toNat = 0xE0 → 0xA0 ≤ b.toNat) (hhi : a.toNat = 0xED → b.toNat ≤ 0x9F)
    (hb : 0x80 ≤ b.toNat ∧ b.toNat ≤ 0xBF) (hc : 0x80 ≤ c.toNat ∧ c.toNat ≤ 0xBF) :
    String.utf8EncodeChar (Char.ofNat (scalar3 a b c)) = [a, b, c] := by
  rw [utf8EncodeChar_of_toNat (toNat_ofNat_of_valid (by unfold scalar3; omega))]
  unfold scalar3
  rw [if_neg (by omega), if_neg (by omega), if_pos (by omega)]
  simp only [List.cons.injEq, ofNat_eq_iff, and_true]
  omega

theorem encode_four (a b c d : UInt8) (ha : 0xF0 ≤ a.toNat ∧ a.toNat ≤ 0xF4)
    (hlo : a.toNat = 0xF0 → 0x90 ≤ b.toNat) (hhi : a.toNat = 0xF4 → b.toNat ≤ 0x8F)
    (hb : 0x80 ≤ b.toNat ∧ b.toNat ≤ 0xBF) (hc : 0x80 ≤ c.toNat ∧ c.toNat ≤ 0xBF)
    (hd : 0x80 ≤ d.toNat ∧ d.toNat ≤ 0xBF) :
    String.utf8EncodeChar (Char.ofNat (scalar4 a b c d)) = [a, b, c, d] := by
  rw [utf8EncodeChar_of_toNat (toNat_ofNat_of_valid (by unfold scalar4; omega))]
  unfold scalar4
  rw [if_neg (by omega), if_neg (by omega), if_neg (by omega)]
  simp only [List.cons.injEq, ofNat_eq_iff, and_true]
  omega

/-- The bytes of a form `x % 64 + 128` are continuation bytes. -/
theorem le_of_mem_cont {b : UInt8} (xs : List Nat)
    (h : b ∈ xs.map fun x => UInt8.ofNat (x % 64 + 128)) : 0x80 ≤ b.toNat := by
  obtain ⟨x, -, rfl⟩ := List.mem_map.mp h
  simp only [UInt8.toNat_ofNat']
  omega

/-- Every byte of an encoding after the first is a continuation byte. -/
theorem le_of_mem_tail_utf8EncodeChar {ch : Char} {b : UInt8}
    (h : b ∈ (String.utf8EncodeChar ch).tail) : 0x80 ≤ b.toNat := by
  rw [utf8EncodeChar_of_toNat rfl] at h
  split at h
  · simp at h
  split at h
  · exact le_of_mem_cont [ch.toNat] (by simpa using h)
  split at h
  · exact le_of_mem_cont [ch.toNat / 64, ch.toNat] (by simpa using h)
  · exact le_of_mem_cont [ch.toNat / 4096, ch.toNat / 64, ch.toNat] (by simpa using h)

/-- An encoding of a character from `80` on has no byte below `80`. -/
theorem le_of_mem_utf8EncodeChar {ch : Char} {b : UInt8} (hch : 0x80 ≤ ch.toNat)
    (h : b ∈ String.utf8EncodeChar ch) : 0x80 ≤ b.toNat := by
  have hne : String.utf8EncodeChar ch ≠ [] := String.utf8EncodeChar_ne_nil
  obtain ⟨a, tl, hcons⟩ := List.exists_cons_of_ne_nil hne
  rw [hcons] at h
  rcases List.mem_cons.mp h with rfl | h
  · -- the lead byte of a longer encoding is at least `C0`
    have hlead := hcons
    rw [utf8EncodeChar_of_toNat rfl, if_neg (by omega)] at hlead
    split at hlead
    · obtain ⟨rfl, -⟩ := List.cons.inj hlead
      simp only [UInt8.toNat_ofNat']
      omega
    split at hlead
    · obtain ⟨rfl, -⟩ := List.cons.inj hlead
      simp only [UInt8.toNat_ofNat']
      omega
    · obtain ⟨rfl, -⟩ := List.cons.inj hlead
      simp only [UInt8.toNat_ofNat']
      omega
  · have htail : b ∈ (String.utf8EncodeChar ch).tail := by
      rw [hcons]
      exact h
    exact le_of_mem_tail_utf8EncodeChar htail

theorem utf8Bytes_eq (s : String) : utf8Bytes s = s.toList.flatMap String.utf8EncodeChar := by
  obtain ⟨l, rfl⟩ := String.exists_eq_ofList s
  simp [utf8Bytes, List.utf8Encode, List.data_toByteArray]

@[simp] theorem utf8Bytes_append (s t : String) :
    utf8Bytes (s ++ t) = utf8Bytes s ++ utf8Bytes t := by
  simp [utf8Bytes_eq, String.toList_append]

@[simp] theorem utf8Bytes_ofList (l : List Char) :
    utf8Bytes (String.ofList l) = l.flatMap String.utf8EncodeChar := by
  simp [utf8Bytes_eq, String.toList_ofList]

/-- ASCII text encodes one byte per character. -/
theorem flatMap_utf8EncodeChar_of_ascii {l : List Char} (h : ∀ c ∈ l, c.toNat < 0x80) :
    l.flatMap String.utf8EncodeChar = l.map fun c => c.toNat.toUInt8 := by
  induction l with
  | nil => rfl
  | cons c l ih =>
      have hc := h c (by simp)
      rw [List.flatMap_cons, utf8EncodeChar_of_toNat rfl, if_pos (by omega),
        ih fun d hd => h d (by simp [hd])]
      rfl

/-! ## The decoder -/

theorem decodeFront_ascii {a : UInt8} (h : a.toNat < 0x80) (rest : Bytes) :
    decodeFront (a :: rest) = some (Char.ofNat a.toNat, 1) := by
  have ha : a ≤ 0x7F := UInt8.le_iff_toNat_le.mpr (by simp; omega)
  simp [decodeFront, ha]

/-- Everything a successful decoding can be: the bytes start with the encoding of the character,
and the decoder reads that encoding whatever follows it. -/
theorem decodeFront_eq_some {bs : Bytes} {c : Char} {n : Nat} (h : decodeFront bs = some (c, n)) :
    ∃ rest, bs = String.utf8EncodeChar c ++ rest ∧ n = (String.utf8EncodeChar c).length ∧
      ∀ rest', decodeFront (String.utf8EncodeChar c ++ rest') = some (c, n) := by
  unfold decodeFront at h
  split at h
  · simp at h
  · rename_i a rest
    split at h
    · rename_i ha
      simp only [Option.some.injEq, Prod.mk.injEq] at h
      obtain ⟨rfl, rfl⟩ := h
      rw [encode_one a (UInt8.le_iff_toNat_le.mp ha)]
      exact ⟨rest, rfl, rfl, fun rest' => by simp [decodeFront, ha]⟩
    · rename_i ha
      split at h
      · rename_i h2
        split at h
        · rename_i b rest
          split at h
          · rename_i hb
            simp only [Option.some.injEq, Prod.mk.injEq] at h
            obtain ⟨rfl, rfl⟩ := h
            have h2' : 0xC2 ≤ a.toNat ∧ a.toNat ≤ 0xDF := by
              simpa [UInt8.le_iff_toNat_le] using h2
            rw [encode_two a b h2' ((isCont_iff b).mp hb)]
            exact ⟨rest, rfl, rfl, fun rest' => by simp [decodeFront, ha, h2, hb]⟩
          · simp at h
        · simp at h
      · rename_i h2
        split at h
        · rename_i h3
          split at h
          · rename_i b c rest
            split at h
            · rename_i hbc
              simp only [Option.some.injEq, Prod.mk.injEq] at h
              obtain ⟨rfl, rfl⟩ := h
              have h3' : 0xE0 ≤ a.toNat ∧ a.toNat ≤ 0xEF := by
                simpa [UInt8.le_iff_toNat_le] using h3
              obtain ⟨hlo, hhi, hb⟩ := (second3_iff a b).mp hbc.1
              rw [encode_three a b c h3' hlo hhi hb ((isCont_iff c).mp hbc.2)]
              exact ⟨rest, rfl, rfl, fun rest' => by simp [decodeFront, ha, h2, h3, hbc]⟩
            · simp at h
          · simp at h
        · rename_i h3
          split at h
          · rename_i h4
            split at h
            · rename_i b c d rest
              split at h
              · rename_i hbcd
                simp only [Option.some.injEq, Prod.mk.injEq] at h
                obtain ⟨rfl, rfl⟩ := h
                have h4' : 0xF0 ≤ a.toNat ∧ a.toNat ≤ 0xF4 := by
                  simpa [UInt8.le_iff_toNat_le] using h4
                obtain ⟨hlo, hhi, hb⟩ := (second4_iff a b).mp hbcd.1
                rw [encode_four a b c d h4' hlo hhi hb ((isCont_iff c).mp hbcd.2.1)
                  ((isCont_iff d).mp hbcd.2.2)]
                exact ⟨rest, rfl, rfl, fun rest' => by simp [decodeFront, ha, h2, h3, h4, hbcd]⟩
              · simp at h
            · simp at h
          · simp at h

theorem take_of_decodeFront {bs : Bytes} {c : Char} {n : Nat} (h : decodeFront bs = some (c, n)) :
    bs.take n = String.utf8EncodeChar c := by
  obtain ⟨rest, rfl, rfl, -⟩ := decodeFront_eq_some h
  simp

/-- A decoding that starts before an ASCII byte ends before it. -/
theorem decodeFront_before_ascii {xs ys : Bytes} {y : UInt8} {c : Char} {n : Nat}
    (hxs : xs ≠ []) (hy : y.toNat < 0x80) (h : decodeFront (xs ++ y :: ys) = some (c, n)) :
    ∃ xs', xs = String.utf8EncodeChar c ++ xs' := by
  obtain ⟨rest, hsplit, -, -⟩ := decodeFront_eq_some h
  rcases List.append_eq_append_iff.mp hsplit with ⟨a', henc, hy'⟩ | ⟨c', hxs', -⟩
  · -- the encoding would run past `xs`: then `y` is one of its later bytes
    cases a' with
    | nil => exact ⟨[], by simpa using henc.symm⟩
    | cons a' as =>
        have hya : y = a' := (List.cons.inj hy').1
        have hmem : y ∈ (String.utf8EncodeChar c).tail := by
          obtain ⟨x, xs, rfl⟩ := List.exists_cons_of_ne_nil hxs
          simp [henc, hya]
        have := le_of_mem_tail_utf8EncodeChar hmem
        omega
  · exact ⟨c', hxs'⟩

/-- An ASCII byte fences a decoding that starts before it. -/
theorem decodeFront_fence {xs : Bytes} (hxs : xs ≠ []) {y y' : UInt8} (hy : y.toNat < 0x80)
    (hy' : y'.toNat < 0x80) (ys ys' : Bytes) :
    decodeFront (xs ++ y :: ys) = decodeFront (xs ++ y' :: ys') := by
  have key : ∀ {y y' : UInt8} {ys ys' : Bytes} {c n}, y.toNat < 0x80 →
      decodeFront (xs ++ y :: ys) = some (c, n) → decodeFront (xs ++ y' :: ys') = some (c, n) := by
    intro y y' ys ys' c n hy h
    obtain ⟨xs', rfl⟩ := decodeFront_before_ascii hxs hy h
    obtain ⟨-, -, -, hread⟩ := decodeFront_eq_some h
    simpa using hread (xs' ++ y' :: ys')
  cases h : decodeFront (xs ++ y :: ys) with
  | some r => exact (key hy h).symm
  | none =>
      cases h' : decodeFront (xs ++ y' :: ys') with
      | none => rfl
      | some r' => simp [key hy' h'] at h

/-! ## The look-behind -/

/-- The look-behind steps back over the same bytes whatever non-continuation byte stops it. -/
theorem backSteps_fence (n : Nat) (xs : Bytes) {d d' : UInt8} (hd : isCont d = false)
    (hd' : isCont d' = false) (rest rest' : Bytes) :
    backSteps n (xs ++ d :: rest) = backSteps n (xs ++ d' :: rest') := by
  induction xs generalizing n with
  | nil =>
      cases n with
      | zero => simp [backSteps]
      | succ n =>
          cases rest <;> cases rest' <;> simp [backSteps, hd, hd']
  | cons x xs ih =>
      cases n with
      | zero => simp [backSteps]
      | succ n =>
          have hne : ∀ r : Bytes, ∀ e, xs ++ e :: r ≠ [] := by simp
          rw [List.cons_append, List.cons_append]
          obtain ⟨u, us, hu⟩ := List.exists_cons_of_ne_nil (hne rest d)
          obtain ⟨v, vs, hv⟩ := List.exists_cons_of_ne_nil (hne rest' d')
          simp only [backSteps, hu, hv]
          rw [← hu, ← hv, ih n]

theorem backSteps_le (n : Nat) (xs : Bytes) {d : UInt8} (hd : isCont d = false) (rest : Bytes) :
    backSteps n (xs ++ d :: rest) ≤ xs.length := by
  induction xs generalizing n with
  | nil =>
      cases n with
      | zero => simp [backSteps]
      | succ n => cases rest <;> simp [backSteps, hd]
  | cons x xs ih =>
      cases n with
      | zero => simp [backSteps]
      | succ n =>
          obtain ⟨u, us, hu⟩ := List.exists_cons_of_ne_nil
            (show xs ++ d :: rest ≠ [] by simp)
          rw [List.cons_append]
          simp only [backSteps, hu]
          split
          · have := ih n
            rw [hu] at this
            simp only [List.length_cons]
            omega
          · omega

/-- Two texts that differ from an ASCII byte on, before which they agree, end in the same
character as far as the look-behind can tell, or it reaches the ASCII byte in both. -/
theorem decodeBack_fence (xs : Bytes) {d d' : UInt8} (hd : d.toNat < 0x80) (hd' : d'.toNat < 0x80)
    (rest rest' : Bytes) :
    decodeBack (xs ++ d :: rest) = decodeBack (xs ++ d' :: rest') ∨
      (decodeBack (xs ++ d :: rest) = some (Char.ofNat d.toNat) ∧
        decodeBack (xs ++ d' :: rest') = some (Char.ofNat d'.toNat)) := by
  have hsteps := backSteps_fence 3 xs (isCont_of_ascii hd) (isCont_of_ascii hd') rest rest'
  have hle := backSteps_le 3 xs (isCont_of_ascii hd) rest
  unfold decodeBack
  rw [← hsteps]
  generalize backSteps 3 (xs ++ d :: rest) = k at hle
  rcases Nat.lt_or_ge k xs.length with hk | hk
  · left
    rw [List.take_append_of_le_length hk, List.take_append_of_le_length hk]
  · right
    have hk' : k = xs.length := by omega
    subst hk'
    simp [List.take_append, decodeFront_ascii hd, decodeFront_ascii hd']

/-! ## Lossy decoding -/

theorem decodeLossy_of_decodeFront {bs : Bytes} {c : Char} {n : Nat}
    (h : decodeFront bs = some (c, n)) : decodeLossy bs = c :: decodeLossy (bs.drop n) := by
  rw [decodeLossy]
  split <;> simp_all

@[simp] theorem decodeLossy_nil : decodeLossy [] = [] := by
  rw [decodeLossy]
  split <;> simp_all [decodeFront]

/-- Bytes that start with a decoded encoding lose nothing to the lossy decoding there. -/
theorem decodeLossy_encode_append {bs : Bytes} {c : Char} {n : Nat}
    (h : decodeFront bs = some (c, n)) (rest : Bytes) :
    decodeLossy (String.utf8EncodeChar c ++ rest) = c :: decodeLossy rest := by
  obtain ⟨-, -, rfl, hread⟩ := decodeFront_eq_some h
  rw [decodeLossy_of_decodeFront (hread rest), List.drop_left]

theorem decodeLossy_ascii {bs : Bytes} (h : ∀ b ∈ bs, b.toNat < 0x80) :
    decodeLossy bs = bs.map fun b => Char.ofNat b.toNat := by
  induction bs with
  | nil => simp
  | cons b bs ih =>
      rw [decodeLossy_of_decodeFront (decodeFront_ascii (h b (by simp)) bs)]
      simp [ih fun x hx => h x (by simp [hx])]

/-- ASCII bytes read as text encode back to themselves. -/
theorem utf8Bytes_decodeLossy_ascii {bs : Bytes} (h : ∀ b ∈ bs, b.toNat < 0x80) :
    utf8Bytes (String.ofList (decodeLossy bs)) = bs := by
  have hchar : ∀ b ∈ bs, (Char.ofNat b.toNat).toNat = b.toNat := fun b hb =>
    toNat_ofNat_of_valid (by have := h b hb; unfold Nat.isValidChar; omega)
  rw [decodeLossy_ascii h, utf8Bytes_ofList, flatMap_utf8EncodeChar_of_ascii, List.map_map]
  · conv => rhs; rw [← List.map_id bs]
    refine List.map_congr_left fun b hb => ?_
    simp [hchar b hb]
  · simp only [List.mem_map]
    rintro _ ⟨b, hb, rfl⟩
    rw [hchar b hb]
    exact h b hb

end VersionStamp.Utf8
