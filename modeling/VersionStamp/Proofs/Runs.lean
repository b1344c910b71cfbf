import VersionStamp.Proofs.Decimal
import VersionStamp.Declaration

/-! # Runs of blanks and digits: what `blankRun` and `digitRun` take, and the bytes that fence them
off from what follows. -/

namespace VersionStamp

open Utf8 Text Decimal

/-! ## Classes of bytes -/

theorem isBlank_iff (c : Char) : isBlank c = true ↔
    (0x09 ≤ c.toNat ∧ c.toNat ≤ 0x0D) ∨ c.toNat = 0x20 ∨ c.toNat = 0x85 ∨ c.toNat = 0xA0 ∨
      c.toNat = 0x1680 ∨ (0x2000 ≤ c.toNat ∧ c.toNat ≤ 0x200A) ∨ c.toNat = 0x2028 ∨
      c.toNat = 0x2029 ∨ c.toNat = 0x202F ∨ c.toNat = 0x205F ∨ c.toNat = 0x3000 := by
  simp [isBlank, blankRanges, CharRanges.contains, UInt32.le_iff_toNat_le]
  omega

theorem isNameChar_iff (c : Char) : isNameChar c = true ↔
    (48 ≤ c.toNat ∧ c.toNat ≤ 57) ∨ (65 ≤ c.toNat ∧ c.toNat ≤ 90) ∨
      (97 ≤ c.toNat ∧ c.toNat ≤ 122) ∨ c.toNat = 95 := by
  simp [isNameChar, Char.isAlphanum, Char.isAlpha, Char.isUpper, Char.isLower, Char.isDigit,
    UInt32.le_iff_toNat_le, Char.ext_iff, ← UInt32.toNat_inj]
  omega

theorem isNameStart_iff (c : Char) : isNameStart c = true ↔
    (65 ≤ c.toNat ∧ c.toNat ≤ 90) ∨ (97 ≤ c.toNat ∧ c.toNat ≤ 122) ∨ c.toNat = 95 := by
  simp [isNameStart, Char.isAlpha, Char.isUpper, Char.isLower,
    UInt32.le_iff_toNat_le, Char.ext_iff, ← UInt32.toNat_inj]
  omega

theorem isWordChar_of_ascii {c : Char} (h : c.toNat < 0x80) : isWordChar c = isNameChar c := by
  have : c.val < 0x80 := by
    simp [UInt32.lt_iff_toNat_lt]
    omega
  simp [isWordChar, this, isNameChar]

/-- A byte that stands for an ASCII word character that is no blank: the bytes of a name and the
digits are such bytes. -/
structure WordByte (b : UInt8) : Prop where
  ascii : b.toNat < 0x80
  word : isWordChar (Char.ofNat b.toNat) = true
  notBlank : isBlank (Char.ofNat b.toNat) = false

theorem WordByte.of_isNameChar {b : UInt8} (h : isNameChar (Char.ofNat b.toNat) = true) :
    WordByte b := by
  have hb := b.toNat_lt
  have hc : (Char.ofNat b.toNat).toNat = b.toNat := by
    by_cases hv : b.toNat < 0x80
    · exact toNat_ofNat_of_valid (by omega)
    · -- a byte from `80` on names no character of a name, so this case does not arise
      have := (isNameChar_iff _).mp h
      rw [toNat_ofNat_of_valid (by omega)] at this
      omega
  have hn := (isNameChar_iff _).mp h
  rw [hc] at hn
  refine ⟨by omega, ?_, ?_⟩
  · rw [isWordChar_of_ascii (by omega), h]
  · cases hblank : isBlank (Char.ofNat b.toNat)
    · rfl
    · have := (isBlank_iff _).mp hblank
      rw [hc] at this
      omega

theorem WordByte.of_isDigitByte {b : UInt8} (h : isDigitByte b = true) : WordByte b := by
  have hd := (isDigitByte_iff b).mp h
  apply WordByte.of_isNameChar
  rw [isNameChar_iff, toNat_ofNat_of_valid (by omega)]
  omega

theorem WordByte.isCont_eq_false {b : UInt8} (h : WordByte b) : isCont b = false :=
  isCont_of_ascii h.ascii

theorem WordByte.decodeFront_cons {b : UInt8} (h : WordByte b) (rest : Bytes) :
    decodeFront (b :: rest) = some (Char.ofNat b.toNat, 1) :=
  decodeFront_ascii h.ascii rest

/-- What a scan may rely on in the bytes of a name: each is a word byte, there is a first
one, and it is no digit. -/
structure NameBytes (name : Bytes) : Prop where
  word : ∀ x ∈ name, WordByte x
  head : ∃ b rest, name = b :: rest ∧ isDigitByte b = false

/-- The characters of a valid name: one that may begin a name, then characters of a name. -/
theorem ConstantName.text_cons (n : ConstantName) :
    ∃ c rest, n.text.toList = c :: rest ∧ isNameStart c = true ∧
      ∀ d ∈ n.text.toList, isNameChar d = true := by
  have hvalid := n.valid
  cases hcs : n.text.toList with
  | nil => simp [hcs, nameProblem?] at hvalid
  | cons c rest =>
      simp only [hcs, nameProblem?] at hvalid
      split at hvalid
      · simp at hvalid
      · rename_i hstart
        split at hvalid
        · rename_i hall
          have hs : isNameStart c = true := by simpa using hstart
          refine ⟨c, rest, rfl, hs, ?_⟩
          intro d hd
          rcases List.mem_cons.mp hd with rfl | hd
          · rw [isNameChar_iff]
            have := (isNameStart_iff d).mp hs
            omega
          · exact List.all_eq_true.mp hall d hd
        · simp at hvalid

/-- A character of a name is its own byte. -/
theorem ofNat_toUInt8_of_isNameChar {c : Char} (hc : isNameChar c = true) :
    Char.ofNat (c.toNat.toUInt8).toNat = c := by
  have := (isNameChar_iff c).mp hc
  rw [show (c.toNat.toUInt8).toNat = c.toNat by simp; omega]
  exact Char.ofNat_toNat c

/-- The bytes of a valid name are name bytes. -/
theorem ConstantName.nameBytes (n : ConstantName) : NameBytes n.bytes := by
  obtain ⟨c, rest, hcs, hs, hall⟩ := n.text_cons
  refine ⟨?_, c.toNat.toUInt8, rest.map fun c => c.toNat.toUInt8, ?_, ?_⟩
  · intro x hx
    obtain ⟨d, hd, rfl⟩ := List.mem_map.mp hx
    have hdn := hall d hd
    exact WordByte.of_isNameChar (by rw [ofNat_toUInt8_of_isNameChar hdn]; exact hdn)
  · simp [ConstantName.bytes, hcs]
  · -- a name starts with a letter or `_`, never with a digit
    cases hd : isDigitByte c.toNat.toUInt8
    · rfl
    · have h1 := (isDigitByte_iff _).mp hd
      have h2 := (isNameStart_iff c).mp hs
      simp at h1
      omega

/-- The text of a valid name encodes to its bytes. -/
theorem ConstantName.utf8Bytes_text (n : ConstantName) : utf8Bytes n.text = n.bytes := by
  obtain ⟨-, -, -, -, hall⟩ := n.text_cons
  rw [utf8Bytes_eq, flatMap_utf8EncodeChar_of_ascii, ConstantName.bytes]
  intro c hc
  have := (isNameChar_iff c).mp (hall c hc)
  omega

/-! ## Blank runs -/

theorem blankRun_of_decodeFront {bs : Bytes} {c : Char} {n : Nat}
    (h : decodeFront bs = some (c, n)) :
    blankRun bs = if isBlank c then n + blankRun (bs.drop n) else 0 := by
  rw [blankRun]
  split <;> simp_all

theorem blankRun_of_decodeFront_none {bs : Bytes} (h : decodeFront bs = none) : blankRun bs = 0 := by
  rw [blankRun]
  split <;> simp_all

theorem blankRun_le (bs : Bytes) : blankRun bs ≤ bs.length := by
  fun_induction blankRun bs with
  | case1 bs c n hd hb ih =>
      have := decodeFront_length hd
      simp only [List.length_drop] at ih
      omega
  | case2 => omega
  | case3 => omega

theorem WordByte.blankRun_cons {b : UInt8} (h : WordByte b) (rest : Bytes) :
    blankRun (b :: rest) = 0 := by
  rw [blankRun_of_decodeFront (h.decodeFront_cons rest), h.notBlank]
  rfl

/-- A word byte fences a blank run: the run stops before it, whatever follows it. By strong
induction on the bytes before the fence, each blank read shortening them. -/
theorem blankRun_fence (xs : Bytes) {y y' : UInt8} (hy : WordByte y) (hy' : WordByte y')
    (ys ys' : Bytes) :
    blankRun (xs ++ y :: ys) = blankRun (xs ++ y' :: ys') ∧ blankRun (xs ++ y :: ys) ≤ xs.length := by
  induction hlen : xs.length using Nat.strongRecOn generalizing xs with
  | ind len ih =>
      cases xs with
      | nil => simp [hy.blankRun_cons, hy'.blankRun_cons]
      | cons x xs =>
          have hne : x :: xs ≠ [] := by simp
          have hfence := decodeFront_fence hne hy.ascii hy'.ascii ys ys'
          cases hd : decodeFront (x :: xs ++ y :: ys) with
          | none =>
              rw [blankRun_of_decodeFront_none hd, blankRun_of_decodeFront_none (hfence ▸ hd)]
              omega
          | some r =>
              obtain ⟨c, n⟩ := r
              have hd' : decodeFront (x :: xs ++ y' :: ys') = some (c, n) := hfence ▸ hd
              obtain ⟨xs', hxs⟩ := decodeFront_before_ascii hne hy.ascii hd
              obtain ⟨_, -, hn, -⟩ := decodeFront_eq_some hd
              have hpos := (decodeFront_length hd).1
              have hsplit := congrArg List.length hxs
              simp only [List.length_append, List.length_cons] at hsplit hlen
              rw [blankRun_of_decodeFront hd, blankRun_of_decodeFront hd']
              split
              · have hdrop : ∀ z zs, (x :: xs ++ z :: zs).drop n = xs' ++ z :: zs := by
                  intro z zs
                  rw [hxs, List.append_assoc, hn, List.drop_left]
                obtain ⟨heq, hle⟩ := ih xs'.length (by omega) xs' rfl
                rw [hdrop, hdrop, heq]
                exact ⟨rfl, by omega⟩
              · omega

/-- The bytes of a blank run are the encodings of blanks, which the lossy decoding reads back
exactly. -/
theorem blankRun_encode (bs : Bytes) :
    ∃ ws : List Char, (∀ w ∈ ws, isBlank w = true) ∧
      bs.take (blankRun bs) = ws.flatMap String.utf8EncodeChar ∧
      decodeLossy (ws.flatMap String.utf8EncodeChar) = ws := by
  fun_induction blankRun bs with
  | case1 bs c n hd hb ih =>
      obtain ⟨ws, hws, htake, hlossy⟩ := ih
      refine ⟨c :: ws, ?_, ?_, ?_⟩
      · simp only [List.mem_cons, forall_eq_or_imp]
        exact ⟨hb, hws⟩
      · rw [List.take_add, take_of_decodeFront hd, htake, List.flatMap_cons]
      · rw [List.flatMap_cons, decodeLossy_encode_append hd, hlossy]
  | case2 => exact ⟨[], by simp, by simp, by simp⟩
  | case3 => exact ⟨[], by simp, by simp, by simp⟩

/-- The separator decoded as text encodes back to its own bytes. -/
theorem utf8Bytes_separator (bs : Bytes) :
    utf8Bytes (String.ofList (decodeLossy (bs.take (blankRun bs)))) = bs.take (blankRun bs) := by
  obtain ⟨ws, -, htake, hlossy⟩ := blankRun_encode bs
  rw [htake, hlossy, utf8Bytes_ofList]

/-- No word byte lies inside a blank run. -/
theorem not_wordByte_of_mem_separator {bs : Bytes} {x : UInt8} (hx : x ∈ bs.take (blankRun bs)) :
    ¬WordByte x := by
  intro hw
  obtain ⟨ws, hws, htake, -⟩ := blankRun_encode bs
  rw [htake, List.mem_flatMap] at hx
  obtain ⟨w, hw', hxw⟩ := hx
  by_cases hascii : w.toNat < 0x80
  · -- an ASCII blank is its own byte, and it is a blank
    rw [utf8EncodeChar_of_toNat rfl, if_pos (by omega), List.mem_singleton] at hxw
    have hwx : Char.ofNat x.toNat = w := by
      rw [hxw, show (UInt8.ofNat w.toNat).toNat = w.toNat by simp; omega]
      exact Char.ofNat_toNat w
    have := hw.notBlank
    rw [hwx, hws w hw'] at this
    exact Bool.noConfusion this
  · have := le_of_mem_utf8EncodeChar (by omega) hxw
    have := hw.ascii
    omega

/-! ## Digit runs -/

theorem take_digitRun (bs : Bytes) : bs.take (digitRun bs) = bs.takeWhile isDigitByte :=
  (List.prefix_iff_eq_take.mp (List.takeWhile_prefix _)).symm

theorem digitRun_le (bs : Bytes) : digitRun bs ≤ bs.length :=
  (List.takeWhile_prefix _).length_le

theorem isDigitByte_of_mem_digits {bs : Bytes} {x : UInt8} (hx : x ∈ bs.take (digitRun bs)) :
    isDigitByte x = true := by
  rw [take_digitRun] at hx
  exact List.all_eq_true.mp List.all_takeWhile x hx

theorem digitRun_cons_of_not_digit {b : UInt8} (h : isDigitByte b = false) (rest : Bytes) :
    digitRun (b :: rest) = 0 := by
  simp [digitRun, h]

/-- A byte that is no digit fences a digit run. -/
theorem digitRun_fence (xs : Bytes) {y y' : UInt8} (hy : isDigitByte y = false)
    (hy' : isDigitByte y' = false) (ys ys' : Bytes) :
    digitRun (xs ++ y :: ys) = digitRun (xs ++ y' :: ys') ∧ digitRun (xs ++ y :: ys) ≤ xs.length := by
  have hle := digitRun_le xs
  simp only [digitRun] at hle ⊢
  simp only [List.takeWhile_append, List.takeWhile_cons, hy, hy', Bool.false_eq_true, if_false]
  split <;> simp_all

theorem digitRun_append {ds : Bytes} (h : ∀ x ∈ ds, isDigitByte x = true) (rest : Bytes) :
    digitRun (ds ++ rest) = ds.length + digitRun rest := by
  simp only [digitRun, List.takeWhile_append_of_pos h, List.length_append]

theorem digitRun_drop (bs : Bytes) : digitRun (bs.drop (digitRun bs)) = 0 := by
  have hbs : bs.takeWhile isDigitByte ++ bs.dropWhile isDigitByte = bs :=
    List.takeWhile_append_dropWhile
  have hsplit : bs.drop (digitRun bs) = bs.dropWhile isDigitByte := by
    calc bs.drop (digitRun bs)
        = (bs.takeWhile isDigitByte ++ bs.dropWhile isDigitByte).drop
            (bs.takeWhile isDigitByte).length := by rw [hbs]; rfl
      _ = bs.dropWhile isDigitByte := List.drop_left
  rw [hsplit]
  cases h : bs.dropWhile isDigitByte with
  | nil => rfl
  | cons b rest =>
      have := List.head_dropWhile_not isDigitByte (show bs.dropWhile isDigitByte ≠ [] by simp [h])
      simp only [h, List.head_cons] at this
      exact digitRun_cons_of_not_digit (by simpa using this) rest

end VersionStamp
