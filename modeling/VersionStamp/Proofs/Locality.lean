import VersionStamp.Proofs.Positional

/-! # What a declaration reads of the bytes: the character that ends the bytes before its offset,
and the bytes from the offset up to the character after its digits. -/

namespace VersionStamp

open Utf8 Text Decimal

/-! ## The bytes from the offset on -/

section Congr

variable {name c c' : Bytes} {p p' : Nat}

theorem separatorAt_congr (h : c.drop p = c'.drop p') :
    separatorAt name c p = separatorAt name c' p' := by
  simp only [separatorAt, ← List.drop_drop, h]

theorem digitsAt_congr (h : c.drop p = c'.drop p') : digitsAt name c p = digitsAt name c' p' := by
  simp only [digitsAt, separatorAt_congr h, ← List.drop_drop, h]

theorem drop_endAt_congr (h : c.drop p = c'.drop p') :
    c.drop (endAt name c p) = c'.drop (endAt name c' p') := by
  simp only [endAt, separatorAt_congr h, digitsAt_congr h, ← List.drop_drop, h]

/-- A declaration reads the character before its offset and the bytes from it on, nothing
else. -/
theorem declaredAt_congr (h : c.drop p = c'.drop p')
    (hw : wordBefore (c.take p).reverse = wordBefore (c'.take p').reverse) :
    declaredAt name c p = declaredAt name c' p' := by
  simp only [declaredAt, boundaryAt, hw, h, separatorAt_congr h, digitsAt_congr h,
    drop_endAt_congr h]

end Congr

/-! ## A fence after the name -/

theorem isPrefixOf_append_of_le {name A B : Bytes} (h : name.length ≤ A.length) :
    name.isPrefixOf (A ++ B) = name.isPrefixOf A := by
  rw [Bool.eq_iff_iff, List.isPrefixOf_iff_prefix, List.isPrefixOf_iff_prefix,
    List.prefix_iff_eq_take, List.prefix_iff_eq_take, List.take_append_of_le_length h]

/-- Before an ASCII byte, the character decoded at the front does not see past it. -/
theorem decodeFront_append_cons (xs : Bytes) {y : UInt8} (hy : y.toNat < 0x80) (ys ys' : Bytes) :
    decodeFront (xs ++ y :: ys) = decodeFront (xs ++ y :: ys') := by
  cases xs with
  | nil => rw [List.nil_append, List.nil_append, decodeFront_ascii hy, decodeFront_ascii hy]
  | cons x xs => exact decodeFront_fence (List.cons_ne_nil x xs) hy hy ys ys'

theorem drop_fence {X : Bytes} {y : UInt8} {k : Nat} (hk : k ≤ X.length) (Z : Bytes) :
    (X ++ y :: Z).drop k = X.drop k ++ y :: Z :=
  List.drop_append_of_le_length hk

section Fence

variable {name X : Bytes} {y y' : UInt8} (hy : WordByte y) (hy' : WordByte y')
  (hyd : isDigitByte y = false) (hyd' : isDigitByte y' = false)

include hy hy' in
/-- The blanks after a name that ends before the fence stop before it. -/
theorem separatorAt_fence {p : Nat} (hp : p + name.length ≤ X.length) (Y Y' : Bytes) :
    separatorAt name (X ++ y :: Y) p = separatorAt name (X ++ y' :: Y') p ∧
      p + name.length + (separatorAt name (X ++ y :: Y) p).length ≤ X.length := by
  obtain ⟨heq, hle⟩ := blankRun_fence (X.drop (p + name.length)) hy hy' Y Y'
  have hlen := length_separatorAt name (X ++ y :: Y) p
  rw [drop_fence hp] at hlen
  have hX := List.length_drop (l := X) (i := p + name.length)
  refine ⟨?_, by omega⟩
  simp only [separatorAt, drop_fence hp]
  rw [List.take_append_of_le_length hle, List.take_append_of_le_length (by rw [← heq]; exact hle),
    heq]

include hy hy' hyd hyd' in
/-- The digits after those blanks stop before the fence too. -/
theorem digitsAt_fence {p : Nat} (hp : p + name.length ≤ X.length) (Y Y' : Bytes) :
    digitsAt name (X ++ y :: Y) p = digitsAt name (X ++ y' :: Y') p ∧
      endAt name (X ++ y :: Y) p ≤ X.length := by
  obtain ⟨hsep, hsepLe⟩ := separatorAt_fence hy hy' hp Y Y'
  obtain ⟨heq, hle⟩ := digitRun_fence
    (X.drop (p + name.length + (separatorAt name (X ++ y :: Y) p).length)) hyd hyd' Y Y'
  have hlen := length_digitsAt name (X ++ y :: Y) p
  rw [drop_fence hsepLe] at hlen
  have hX := List.length_drop (l := X) (i := p + name.length + (separatorAt name (X ++ y :: Y) p).length)
  refine ⟨?_, by unfold endAt; omega⟩
  simp only [digitsAt, ← hsep, drop_fence hsepLe]
  rw [List.take_append_of_le_length hle, List.take_append_of_le_length (by rw [← heq]; exact hle),
    heq]

include hy hyd in
/-- A name byte that is no digit fences off what follows it from a declaration whose name ends
before it. -/
theorem declaredAt_fence {p : Nat} (hp : p + name.length ≤ X.length) (hlt : p < X.length)
    (Y Y' : Bytes) :
    declaredAt name (X ++ y :: Y) p = declaredAt name (X ++ y :: Y') p := by
  obtain ⟨hsep, -⟩ := separatorAt_fence hy hy hp Y Y'
  obtain ⟨hdig, hend⟩ := digitsAt_fence hy hy hyd hyd hp Y Y'
  have hendEq : endAt name (X ++ y :: Y) p = endAt name (X ++ y :: Y') p := by
    simp only [endAt, hsep, hdig]
  have htake : (X ++ y :: Y).take p = (X ++ y :: Y').take p := by
    rw [List.take_append_of_le_length (Nat.le_of_lt hlt),
      List.take_append_of_le_length (Nat.le_of_lt hlt)]
  have hfront : decodeFront ((X ++ y :: Y).drop p) = decodeFront ((X ++ y :: Y').drop p) := by
    rw [drop_fence (Nat.le_of_lt hlt), drop_fence (Nat.le_of_lt hlt)]
    exact decodeFront_append_cons _ hy.ascii Y Y'
  have hpre : name.isPrefixOf ((X ++ y :: Y).drop p) = name.isPrefixOf ((X ++ y :: Y').drop p) := by
    have hle : name.length ≤ (X.drop p).length := by
      rw [List.length_drop]
      omega
    rw [drop_fence (Nat.le_of_lt hlt), drop_fence (Nat.le_of_lt hlt),
      isPrefixOf_append_of_le hle, isPrefixOf_append_of_le hle]
  have hends : endsApart ((X ++ y :: Y).drop (endAt name (X ++ y :: Y) p)) =
      endsApart ((X ++ y :: Y').drop (endAt name (X ++ y :: Y') p)) := by
    rw [← hendEq, drop_fence hend, drop_fence hend, endsApart, endsApart,
      decodeFront_append_cons _ hy.ascii Y Y']
  simp only [declaredAt, boundaryAt, htake, hfront, hpre, hsep, hdig, hends]

end Fence

/-! ## A shift behind a word character -/

/-- Behind an ASCII word character, the bytes before an offset change nothing, nor does their
number: the character before the offset is that one, or one decoded after it. -/
theorem declaredAt_shift (name S U U' : Bytes) {u u' : UInt8} (hu : WordByte u)
    (hu' : WordByte u') (j : Nat) :
    declaredAt name (U ++ u :: S) (U.length + 1 + j) =
      declaredAt name (U' ++ u' :: S) (U'.length + 1 + j) := by
  have hdrop : ∀ V : Bytes, ∀ v : UInt8, (V ++ v :: S).drop (V.length + 1 + j) = S.drop j := by
    intro V v
    rw [Nat.add_assoc, ← List.drop_drop, List.drop_left, ← List.drop_drop]
    rfl
  have htake : ∀ V : Bytes, ∀ v : UInt8,
      ((V ++ v :: S).take (V.length + 1 + j)).reverse = (S.take j).reverse ++ v :: V.reverse := by
    intro V v
    rw [Nat.add_assoc, List.take_add, List.take_left, List.drop_left, List.take_add]
    simp
  apply declaredAt_congr (by rw [hdrop, hdrop])
  rw [htake, htake]
  rcases decodeBack_fence (S.take j).reverse hu.ascii hu'.ascii U.reverse U'.reverse with
    heq | ⟨h1, h2⟩
  · rw [wordBefore, wordBefore, heq]
  · simp only [wordBefore, h1, h2, Option.any_some, hu.word, hu'.word]

end VersionStamp
