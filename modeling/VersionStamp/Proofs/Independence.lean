import VersionStamp.Proofs.Counter

/-! # Bumps of different constants: a bump leaves every other constant's declarations where they
stood, so where both bumps succeed they can be made in either order. -/

namespace VersionStamp

open Utf8 Text Decimal

/-! ## Answers alike -/

/-- Two answers that fail with the same failure, or both succeed with results related by `R`. -/
structure SameAnswer {ε α : Type} (R : α → α → Prop) (r r' : Except ε α) : Prop where
  error : ∀ e, r' = .error e ↔ r = .error e
  ok : ∀ x, r = .ok x → ∃ x', r' = .ok x' ∧ R x x'

section SameAnswer

variable {ε α β : Type} {R : α → α → Prop} {S : β → β → Prop}

theorem SameAnswer.of_error (e : ε) : SameAnswer R (.error e : Except ε α) (.error e) :=
  ⟨fun _ => Iff.rfl, fun _ h => by cases h⟩

theorem SameAnswer.of_ok {x x' : α} (h : R x x') : SameAnswer R (.ok x : Except ε α) (.ok x') :=
  ⟨fun _ => ⟨fun he => (by cases he), fun he => (by cases he)⟩,
    fun _ hx => ⟨x', rfl, (Except.ok.inj hx) ▸ h⟩⟩

theorem SameAnswer.refl (r : Except ε α) : SameAnswer Eq r r := by
  cases r with
  | error e => exact .of_error e
  | ok x => exact .of_ok rfl

/-- Answers alike stay alike through the next step of a computation, when that step answers
alike for related results. -/
theorem SameAnswer.bind {r r' : Except ε α} {f f' : α → Except ε β} (h : SameAnswer R r r')
    (hf : ∀ x x', R x x' → SameAnswer S (f x) (f' x')) :
    SameAnswer S (r >>= f) (r' >>= f') := by
  cases r with
  | error e =>
      have he : r' = .error e := (h.error e).mpr rfl
      subst he
      exact .of_error e
  | ok x =>
      obtain ⟨x', hx', hR⟩ := h.ok x rfl
      subst hx'
      exact hf x x' hR

end SameAnswer

/-! ## A declaration moved by a bump elsewhere -/

/-- Where a declaration stands once the bytes `c` changed into `c'` between the offsets `lo` and
`hi`: with the same name, blanks and value, where it stood if it ends before `lo`, and as far
from the end of the bytes if it starts after `hi`. -/
structure Declaration.Moved (c c' : Bytes) (lo hi : Nat) (d d' : Declaration) : Prop where
  name : d'.name = d.name
  blanks : d'.blanks = d.blanks
  value : d'.value = d.value
  place : (d.stop ≤ lo ∧ d'.start = d.start ∧ d'.stop = d.stop) ∨
    (hi ≤ d.start ∧ d'.start + c.length = d.start + c'.length ∧
      d'.stop + c.length = d.stop + c'.length)

/-- A bump of a moved declaration to the same next value. -/
structure Bump.Moved (c c' : Bytes) (lo hi : Nat) (b b' : Bump) : Prop where
  next : b'.next = b.next
  declaration : b.declaration.Moved c c' lo hi b'.declaration

theorem Declaration.Moved.digitsStart {c c' : Bytes} {lo hi : Nat} {d d' : Declaration}
    (hm : d.Moved c c' lo hi d') : d'.digitsStart + d.start = d.digitsStart + d'.start := by
  simp only [Declaration.digitsStart, hm.name, hm.blanks]
  omega

/-- Two sites with the same blanks and digits give the same declaration, or the same failure to
read the digits, each standing where its site does. -/
theorem Site.declaration_moved (n : ConstantName) {s s' : Site} {c c' : Bytes} {lo hi : Nat}
    (hsep : s'.separator = s.separator) (hdig : s'.digits = s.digits)
    (hplace : (s.start + n.bytes.length + s.separator.length + s.digits.length ≤ lo ∧
        s'.start = s.start) ∨ (hi ≤ s.start ∧ s'.start + c.length = s.start + c'.length)) :
    SameAnswer (Declaration.Moved c c' lo hi) (s.declaration n) (s'.declaration n) := by
  simp only [Site.declaration, hsep, hdig]
  cases Decimal.readU64 (String.ofList (decodeLossy s.digits)) with
  | error _ => exact .of_error _
  | ok value =>
      refine .of_ok ⟨rfl, rfl, rfl, ?_⟩
      rcases hplace with ⟨hle, heq⟩ | ⟨hge, heq⟩
      · exact .inl ⟨hle, heq, by rw [heq]⟩
      · exact .inr ⟨hge, heq, by dsimp only; omega⟩

/-! ## Declarations of two names -/

section TwoNames

variable {a b : Bytes}

/-- A name that is a proper prefix of another declared at the same offset has no blanks after
it: it runs into the other name's next byte. -/
theorem declaredAt_eq_false_of_longer_name (hb : NameBytes b) {c : Bytes} {p : Nat}
    (hpre : b.isPrefixOf (c.drop p) = true) (hab : a <+: b) (hne : a ≠ b) :
    declaredAt a c p = false := by
  obtain ⟨t, rfl⟩ := hab
  obtain ⟨y, ys, rfl⟩ := List.exists_cons_of_ne_nil fun ht : t = [] => hne (by simp [ht])
  have hy : WordByte y := hb.word y (by simp)
  have hdrop : c.drop (p + a.length) = y :: (ys ++ c.drop (p + (a ++ y :: ys).length)) := by
    have := drop_eq_name_append hpre
    rw [← List.drop_drop, this, List.append_assoc, List.drop_left, List.cons_append]
  rw [Bool.eq_false_iff]
  intro hdecl
  have hsep := (declaredAt_eq_true_iff.mp hdecl).2.2.1
  rw [length_separatorAt, hdrop, hy.blankRun_cons] at hsep
  exact Nat.lt_irrefl 0 hsep

/-- Declarations of two different names never start at the same offset. -/
theorem declaredAt_eq_false_of_declaredAt (ha : NameBytes a) (hb : NameBytes b) (hab : a ≠ b)
    {c : Bytes} {p : Nat} (h : declaredAt a c p = true) : declaredAt b c p = false := by
  rw [Bool.eq_false_iff]
  intro hd
  have hpa := (declaredAt_eq_true_iff.mp h).2.1
  have hpb := (declaredAt_eq_true_iff.mp hd).2.1
  rcases List.prefix_or_prefix_of_prefix (List.isPrefixOf_iff_prefix.mp hpa)
    (List.isPrefixOf_iff_prefix.mp hpb) with hpre | hpre
  · rw [declaredAt_eq_false_of_longer_name hb hpb hpre hab] at h
    exact Bool.false_ne_true h
  · rw [declaredAt_eq_false_of_longer_name ha hpa hpre (Ne.symm hab)] at hd
    exact Bool.false_ne_true hd

/-- A declaration that starts before a word boundary in front of a name ends its own name
before the boundary: otherwise name bytes would stand on both sides of it. -/
theorem NameBytes.fits_before (ha : NameBytes a) (hb : NameBytes b) {A T : Bytes} {q : Nat}
    (hbound : boundaryAt (A ++ a ++ T) A.length = true) (hq : q < A.length)
    (hdecl : declaredAt b (A ++ a ++ T) q = true) : q + b.length ≤ A.length := by
  by_contra hover
  obtain ⟨x, hx, hcx⟩ := exists_getElem?_of_drop (i := A.length - 1 - q)
    (drop_eq_name_append (declaredAt_eq_true_iff.mp hdecl).2.1) (by omega)
  rw [show q + (A.length - 1 - q) = A.length - 1 by omega] at hcx
  obtain ⟨y, rest, hname, -⟩ := ha.head
  have hcy : (A ++ a ++ T)[A.length]? = some y := by
    rw [← List.head?_drop, List.append_assoc, List.drop_left, hname]
    rfl
  rw [boundaryAt_eq_false (by omega) hcx hcy (hb.word x hx) (ha.word y (by simp [hname]))]
    at hbound
  exact Bool.false_ne_true hbound

end TwoNames

/-! ## Finding among moved offsets -/

theorem find_eq_ambiguous {p : Pattern} {c : Bytes}
    (h : 2 ≤ (declarationOffsets p.name.bytes c).length) :
    p.find c = .error (.ambiguous p.name.text (declarationOffsets p.name.bytes c).length) := by
  rw [find_eq_match_offsets]
  cases hQ : declarationOffsets p.name.bytes c with
  | nil => simp [hQ] at h
  | cons q qs =>
      cases qs with
      | nil => simp [hQ] at h
      | cons q' qs => rfl

/-- A pattern answers alike in two bytes whose declared offsets correspond: the same offsets
`L`, then offsets `J` moved by `f` in one and by `f'` in the other, as long as the declarations
at corresponding offsets answer alike. -/
theorem Pattern.find_sameAnswer {p : Pattern} {c c' : Bytes}
    {R : Declaration → Declaration → Prop} {L J : List Nat} {f f' : Nat → Nat}
    (hO : declarationOffsets p.name.bytes c = L ++ J.map f)
    (hO' : declarationOffsets p.name.bytes c' = L ++ J.map f')
    (hL : ∀ q ∈ L, SameAnswer R ((siteAt p.name.bytes c q).declaration p.name)
      ((siteAt p.name.bytes c' q).declaration p.name))
    (hJ : ∀ j ∈ J, SameAnswer R ((siteAt p.name.bytes c (f j)).declaration p.name)
      ((siteAt p.name.bytes c' (f' j)).declaration p.name)) :
    SameAnswer R (p.find c) (p.find c') := by
  have hlen : (declarationOffsets p.name.bytes c').length =
      (declarationOffsets p.name.bytes c).length := by
    rw [hO, hO', List.length_append, List.length_append, List.length_map, List.length_map]
  by_cases h2 : 2 ≤ (declarationOffsets p.name.bytes c).length
  · -- several declarations in both, as many in each
    rw [find_eq_ambiguous h2, find_eq_ambiguous (hlen ▸ h2), hlen]
    exact .of_error _
  · -- at most one: none in either, the same one, or one moved
    rw [find_eq_match_offsets, find_eq_match_offsets, hO, hO']
    rw [hO] at h2
    cases L with
    | nil =>
        cases J with
        | nil => exact .of_error _
        | cons j J =>
            cases J with
            | nil => exact hJ j List.mem_cons_self
            | cons j' J => simp at h2
    | cons q L =>
        cases L with
        | cons q' L => simp at h2
        | nil =>
            cases J with
            | nil => exact hL q List.mem_cons_self
            | cons j J => simp at h2

/-! ## Another name around a declaration -/

section Around

variable {a b A W D D' S : Bytes}

theorem ShapeParts.drop_after (A a W D S : Bytes) (j : Nat) :
    (A ++ a ++ W ++ D ++ S).drop (A.length + a.length + W.length + D.length + j) = S.drop j := by
  rw [show A.length + a.length + W.length + D.length + j = (A ++ a ++ W ++ D).length + j by
    simp only [List.length_append], List.drop_length_add_append]

/-- Where `a` is declared just after `A`, the declarations of another name stand before it or
behind its shape: at the same offset `a` would run into the other name or the other name into
its blanks, and inside the shape none starts. -/
theorem ShapeParts.offsets_other (h : ShapeParts a A W D S)
    (hdecl : declaredAt a (A ++ a ++ W ++ D ++ S) A.length = true) (hb : NameBytes b)
    (hab : a ≠ b) :
    declarationOffsets b (A ++ a ++ W ++ D ++ S) =
      (List.range A.length).filter (declaredAt b (A ++ a ++ W ++ D ++ S)) ++
        ((List.range S.length).filter fun j =>
          declaredAt b (A ++ a ++ W ++ D ++ S) (A.length + a.length + W.length + D.length + j)).map
          (A.length + a.length + W.length + D.length + ·) := by
  have hlen : (A ++ a ++ W ++ D ++ S).length =
      A.length + (a.length + W.length + D.length) + S.length := by
    simp only [List.length_append]
    omega
  have hsplit : List.range (A ++ a ++ W ++ D ++ S).length =
      List.range' 0 A.length ++ List.range' A.length (a.length + W.length + D.length) ++
        List.range' (A.length + a.length + W.length + D.length) S.length := by
    have h1 := @List.range'_append_1 0 A.length (a.length + W.length + D.length)
    have h2 := @List.range'_append_1 0 (A.length + (a.length + W.length + D.length)) S.length
    rw [Nat.zero_add] at h1 h2
    rw [h1, show A.length + a.length + W.length + D.length =
      A.length + (a.length + W.length + D.length) by omega, h2, hlen, List.range_eq_range']
  have hshape : (List.range' A.length (a.length + W.length + D.length)).filter
      (declaredAt b (A ++ a ++ W ++ D ++ S)) = [] :=
    List.filter_eq_nil_iff.mpr fun p hp => by
      rw [List.mem_range'_1] at hp
      rcases Nat.eq_or_lt_of_le hp.1 with heq | hlt
      · subst heq
        rw [declaredAt_eq_false_of_declaredAt h.nameBytes hb hab hdecl]
        exact Bool.false_ne_true
      · have hin : p < endAt a (A ++ a ++ W ++ D ++ S) A.length := by
          rw [h.endAt_eq]
          omega
        rw [declaredAt_inside hb h.nameBytes (ShapeParts.isPrefixOf A a W D S) hlt hin]
        exact Bool.false_ne_true
  rw [declarationOffsets, hsplit, List.filter_append, List.filter_append, hshape, List.append_nil,
    ← List.range_eq_range', List.range'_eq_map_range, List.filter_map]
  rfl

/-- Before a declared shape, a declaration of another name ends its name in front of it. -/
theorem ShapeParts.fits_before (h : ShapeParts a A W D S)
    (hdecl : declaredAt a (A ++ a ++ W ++ D ++ S) A.length = true) (hb : NameBytes b) {q : Nat}
    (hq : q < A.length) (hd : declaredAt b (A ++ a ++ W ++ D ++ S) q = true) :
    q + b.length ≤ A.length := by
  have hassoc : A ++ a ++ W ++ D ++ S = A ++ a ++ (W ++ D ++ S) := by
    simp only [List.append_assoc]
  rw [hassoc] at hdecl hd
  exact h.nameBytes.fits_before hb (declaredAt_eq_true_iff.mp hdecl).1 hq hd

/-- A declaration of `b` whose name ends in front of the shape reads the same blanks and digits
whatever the digits of the shape, and ends in front of it: the first byte of `a` fences it. -/
theorem ShapeParts.siteAt_before (h : ShapeParts a A W D S) (D' : Bytes) {q : Nat}
    (hfit : q + b.length ≤ A.length) :
    siteAt b (A ++ a ++ W ++ D' ++ S) q = siteAt b (A ++ a ++ W ++ D ++ S) q ∧
      endAt b (A ++ a ++ W ++ D ++ S) q ≤ A.length := by
  obtain ⟨y, rest, hname, hyd⟩ := h.nameBytes.head
  have hy : WordByte y := h.nameBytes.word y (by simp [hname])
  have hparts : ∀ E : Bytes, A ++ a ++ W ++ E ++ S = A ++ y :: (rest ++ W ++ E ++ S) := by
    intro E
    simp [hname]
  obtain ⟨hsep, -⟩ := separatorAt_fence hy hy hfit (rest ++ W ++ D' ++ S) (rest ++ W ++ D ++ S)
  obtain ⟨hdig, hend⟩ :=
    digitsAt_fence hy hy hyd hyd hfit (rest ++ W ++ D ++ S) (rest ++ W ++ D' ++ S)
  rw [hparts, hparts]
  exact ⟨by rw [siteAt, siteAt, hsep, hdig], hend⟩

variable (h : ShapeParts a A W D S) (h' : ShapeParts a A W D' S)
  (hdecl : declaredAt a (A ++ a ++ W ++ D ++ S) A.length = true) (hb : NameBytes b)
include h h' hdecl hb

/-- Before the shape, another name is declared at the same offsets whatever the digits. -/
theorem ShapeParts.declaredAt_before_other {q : Nat} (hq : q < A.length) :
    declaredAt b (A ++ a ++ W ++ D' ++ S) q = declaredAt b (A ++ a ++ W ++ D ++ S) q := by
  by_cases hfit : q + b.length ≤ A.length
  · have hassoc : ∀ E : Bytes, A ++ a ++ W ++ E ++ S = A ++ a ++ (W ++ E ++ S) := by
      intro E
      simp only [List.append_assoc]
    rw [hassoc, hassoc]
    exact h.nameBytes.declaredAt_before hfit hq _ _
  · -- a declaration there would run over the word boundary in front of `a`
    have hdecl' := (h.declaredAt_eq h').trans hdecl
    rw [Bool.eq_false_iff.mpr fun hd => hfit (h'.fits_before hdecl' hb hq hd),
      Bool.eq_false_iff.mpr fun hd => hfit (h.fits_before hdecl hb hq hd)]

variable (hab : a ≠ b)
include hab

/-- With other digits, another name is declared at the same offsets before the shape, and at
offsets moved with the end of the digits behind it. -/
theorem ShapeParts.offsets_other_withDigits :
    declarationOffsets b (A ++ a ++ W ++ D' ++ S) =
      (List.range A.length).filter (declaredAt b (A ++ a ++ W ++ D ++ S)) ++
        ((List.range S.length).filter fun j =>
          declaredAt b (A ++ a ++ W ++ D ++ S) (A.length + a.length + W.length + D.length + j)).map
          (A.length + a.length + W.length + D'.length + ·) := by
  rw [h'.offsets_other ((h.declaredAt_eq h').trans hdecl) hb hab]
  congr 1
  · exact List.filter_congr fun q hq =>
      h.declaredAt_before_other h' hdecl hb (List.mem_range.mp hq)
  · congr 1
    exact List.filter_congr fun j _ => h.declaredAt_after h' j

end Around

/-- A rule for another name finds the same declaration, or fails alike, after other digits are
written in a declared shape: where it stood before the shape, and moved with the end of the
digits behind it. -/
theorem ShapeParts.find_other {a A W D D' S : Bytes} (p : Pattern) (h : ShapeParts a A W D S)
    (h' : ShapeParts a A W D' S) (hdecl : declaredAt a (A ++ a ++ W ++ D ++ S) A.length = true)
    (hab : a ≠ p.name.bytes) :
    SameAnswer (Declaration.Moved (A ++ a ++ W ++ D ++ S) (A ++ a ++ W ++ D' ++ S) A.length
        (A.length + a.length + W.length + D.length))
      (p.find (A ++ a ++ W ++ D ++ S)) (p.find (A ++ a ++ W ++ D' ++ S)) := by
  have hb := p.name.nameBytes
  refine Pattern.find_sameAnswer (h.offsets_other hdecl hb hab)
    (h.offsets_other_withDigits h' hdecl hb hab) (fun q hq => ?_) (fun j _ => ?_)
  · -- before the shape: the same site, ending in front of it
    obtain ⟨hlt, hd⟩ := List.mem_filter.mp hq
    obtain ⟨hsite, hend⟩ :=
      h.siteAt_before D' (h.fits_before hdecl hb (List.mem_range.mp hlt) hd)
    exact Site.declaration_moved p.name (by rw [hsite]) (by rw [hsite])
      (.inl ⟨hend, by rw [hsite]⟩)
  · -- behind the shape: the same bytes from the offset on
    have hdrop : (A ++ a ++ W ++ D' ++ S).drop (A.length + a.length + W.length + D'.length + j) =
        (A ++ a ++ W ++ D ++ S).drop (A.length + a.length + W.length + D.length + j) := by
      rw [ShapeParts.drop_after, ShapeParts.drop_after]
    refine Site.declaration_moved p.name (separatorAt_congr hdrop) (digitsAt_congr hdrop)
      (.inr ⟨Nat.le_add_right _ _, ?_⟩)
    simp only [siteAt, List.length_append]
    omega

/-! ## Bumps of two constants -/

/-- Valid names with the same bytes are the same name: their characters are those bytes. -/
theorem ConstantName.eq_of_bytes_eq {m n : ConstantName} (h : m.bytes = n.bytes) : m = n := by
  have htext : ∀ k : ConstantName, k.text.toList = k.bytes.map fun x => Char.ofNat x.toNat := by
    intro k
    obtain ⟨-, -, -, -, hall⟩ := k.text_cons
    rw [ConstantName.bytes, List.map_map]
    conv => lhs; rw [← List.map_id k.text.toList]
    exact List.map_congr_left fun c hc => (ofNat_toUInt8_of_isNameChar (hall c hc)).symm
  have heq : m.text = n.text := String.ext (by rw [htext m, htext n, h])
  obtain ⟨mt, mv⟩ := m
  obtain ⟨nt, nv⟩ := n
  subst heq
  rfl

section Found

variable {p : Pattern} {c : Bytes} {d : Declaration} (hf : Found p c d)
include hf

theorem Found.digitsStart_lt_stop : d.digitsStart < d.stop := by
  have hne := List.length_pos_of_ne_nil hf.digits.1
  rw [hf.stop_eq]
  omega

theorem Found.stop_le_length : d.stop ≤ c.length := by
  rw [hf.stop]
  exact endAt_le_length (declaredAt_eq_true_iff.mp hf.declaredAt).2.1 (Nat.le_of_lt hf.start_lt)

theorem Found.length_withDigits (n : Nat) :
    (d.withDigits c n).length + d.stop = c.length + d.digitsStart + (decimalBytes n).length := by
  have hlt := hf.digitsStart_lt_stop
  have hle := hf.stop_le_length
  simp only [Declaration.withDigits, List.length_append, List.length_take, List.length_drop]
  omega

end Found

theorem Declaration.start_le_digitsStart (d : Declaration) : d.start ≤ d.digitsStart := by
  unfold Declaration.digitsStart
  omega

/-- Digits written into two declarations, the first ending before the second, give the same
bytes in either order, the second moved by the digits written into the first. -/
theorem Declaration.withDigits_comm {d1 d2 d1' d2' : Declaration} {c : Bytes} (n1 n2 : Nat)
    (h1 : d1.digitsStart ≤ d1.stop) (h12 : d1.stop ≤ d2.digitsStart)
    (h2 : d2.digitsStart ≤ d2.stop) (hc : d2.stop ≤ c.length)
    (hs1 : d1'.digitsStart = d1.digitsStart) (ht1 : d1'.stop = d1.stop)
    (hs2 : d2'.digitsStart + d1.stop = d2.digitsStart + d1.digitsStart + (decimalBytes n1).length)
    (ht2 : d2'.stop + d1.stop = d2.stop + d1.digitsStart + (decimalBytes n1).length) :
    d2'.withDigits (d1.withDigits c n1) n2 = d1'.withDigits (d2.withDigits c n2) n1 := by
  have hlen1 : (c.take d1.digitsStart ++ decimalBytes n1).length =
      d1.digitsStart + (decimalBytes n1).length := by
    rw [List.length_append, List.length_take_of_le (by omega)]
  have hfirst : d2'.withDigits (d1.withDigits c n1) n2 =
      c.take d1.digitsStart ++ decimalBytes n1 ++
        (c.drop d1.stop).take (d2.digitsStart - d1.stop) ++ decimalBytes n2 ++ c.drop d2.stop := by
    have hs : d2'.digitsStart =
        (c.take d1.digitsStart ++ decimalBytes n1).length + (d2.digitsStart - d1.stop) := by omega
    have ht : d2'.stop =
        (c.take d1.digitsStart ++ decimalBytes n1).length + (d2.stop - d1.stop) := by
      omega
    rw [Declaration.withDigits, Declaration.withDigits, hs, ht, List.take_length_add_append,
      List.drop_length_add_append, List.drop_drop,
      show d1.stop + (d2.stop - d1.stop) = d2.stop by omega]
  have hsecond : d1'.withDigits (d2.withDigits c n2) n1 =
      c.take d1.digitsStart ++ decimalBytes n1 ++
        (c.drop d1.stop).take (d2.digitsStart - d1.stop) ++ decimalBytes n2 ++ c.drop d2.stop := by
    have hlen2 : d1.stop ≤ (c.take d2.digitsStart).length := by
      rw [List.length_take_of_le (by omega)]
      exact h12
    rw [Declaration.withDigits, Declaration.withDigits, hs1, ht1, List.append_assoc (c.take _),
      List.take_append_of_le_length (by omega), List.take_take, Nat.min_eq_left (by omega),
      List.drop_append_of_le_length hlen2, List.drop_take]
    simp only [List.append_assoc]
  rw [hfirst, hsecond]

theorem Rule.nextValue_of_value_eq (r : Rule) {d d' : Declaration} (h : d'.value = d.value) :
    r.nextValue d' = r.nextValue d := by
  simp only [Rule.nextValue, h]

/-- A rule answers alike in bytes where its declaration moved: the same failure, or a bump of the
moved declaration to the same next value. -/
theorem Rule.apply_sameAnswer (r : Rule) {c c' : Bytes} {lo hi : Nat}
    (h : SameAnswer (Declaration.Moved c c' lo hi) (r.pattern.find c) (r.pattern.find c')) :
    SameAnswer (Bump.Moved c c' lo hi) (r.apply c) (r.apply c') := by
  rw [Rule.apply, Rule.apply]
  refine h.bind fun d d' hm => ?_
  rw [r.nextValue_of_value_eq hm.value]
  exact (SameAnswer.refl (r.nextValue d)).bind fun next next' hn => .of_ok ⟨hn.symm, hm⟩

/-- After a bump of one constant, a rule for another answers as before: with the same failure,
or with a bump of the same declaration to the same value, where it stood before the bumped
declaration and as far from the end behind it. -/
theorem Rule.apply_after_other {ra rb : Rule} (hab : ra.name ≠ rb.name) {c : Bytes} {ba : Bump}
    (ha : ra.apply c = .ok ba) :
    SameAnswer (Bump.Moved c ba.content ba.declaration.start ba.declaration.stop)
      (rb.apply c) (rb.apply ba.content) := by
  obtain ⟨d, hfind, -, -, rfl⟩ := apply_eq_ok_iff.mp ha
  have hf := found_of_find hfind
  have hshape := hf.shapeParts
  have hshape' := hshape.withDigits (decimalBytes_ne_nil (d.value.toNat + 1))
    fun _ hx => isDigitByte_of_mem_decimalBytes hx
  have hdecl : declaredAt ra.pattern.name.bytes
      (c.take d.start ++ ra.pattern.name.bytes ++ separatorAt ra.pattern.name.bytes c d.start ++
        digitsAt ra.pattern.name.bytes c d.start ++ c.drop d.stop)
      (c.take d.start).length = true := by
    rw [← hf.eq_parts, hf.length_take_start]
    exact hf.declaredAt
  have hstop : (c.take d.start).length + ra.pattern.name.bytes.length +
      (separatorAt ra.pattern.name.bytes c d.start).length +
      (digitsAt ra.pattern.name.bytes c d.start).length = d.stop := by
    rw [← hshape.endAt_eq, ← hf.eq_parts, hf.length_take_start, hf.stop]
  have hne : ra.pattern.name.bytes ≠ rb.pattern.name.bytes := fun h =>
    hab (ConstantName.eq_of_bytes_eq h)
  have key := hshape.find_other rb.pattern hshape' hdecl hne
  rw [hstop, hf.length_take_start, ← hf.eq_parts, ← hf.withDigits_eq] at key
  exact rb.apply_sameAnswer key

/-- Two bumps of the same bytes, each made again after the other moved its declaration, write
the same bytes in either order: one declaration lies before the other, and the digits written
into each leave the other's bytes. -/
theorem Bump.content_comm {ra rb : Rule} {c : Bytes} {ba bb ba' bb' : Bump}
    (ha : ra.apply c = .ok ba) (hb : rb.apply c = .ok bb)
    (hb' : rb.apply ba.content = .ok bb') (ha' : ra.apply bb.content = .ok ba')
    (hmb : bb.Moved c ba.content ba.declaration.start ba.declaration.stop bb')
    (hma : ba.Moved c bb.content bb.declaration.start bb.declaration.stop ba') :
    bb'.content = ba'.content := by
  obtain ⟨da, hfa, -, -, rfl⟩ := apply_eq_ok_iff.mp ha
  obtain ⟨db, hfb, -, -, rfl⟩ := apply_eq_ok_iff.mp hb
  obtain ⟨db', -, -, -, rfl⟩ := apply_eq_ok_iff.mp hb'
  obtain ⟨da', -, -, -, rfl⟩ := apply_eq_ok_iff.mp ha'
  replace hma := hma.declaration
  replace hmb := hmb.declaration
  dsimp only at hma hmb ⊢
  rw [hma.value, hmb.value]
  have fa := found_of_find hfa
  have fb := found_of_find hfb
  have ha1 := fa.digitsStart_lt_stop
  have hb1 := fb.digitsStart_lt_stop
  have ha2 := fa.stop_le_length
  have hb2 := fb.stop_le_length
  have ha3 := da.start_le_digitsStart
  have hb3 := db.start_le_digitsStart
  have hla := fa.length_withDigits (da.value.toNat + 1)
  have hlb := fb.length_withDigits (db.value.toNat + 1)
  have hsa := hma.digitsStart
  have hsb := hmb.digitsStart
  rcases hmb.place with ⟨hbefore, hs, ht⟩ | ⟨hafter, hs, ht⟩
  · -- the declaration of `b` lies before that of `a`
    rcases hma.place with ⟨hafter', -, -⟩ | ⟨-, hs', ht'⟩
    · omega
    · exact (Declaration.withDigits_comm _ _ (by omega) (by omega) (by omega) ha2 (by omega) ht
        (by omega) (by omega)).symm
  · -- the declaration of `a` lies before that of `b`
    rcases hma.place with ⟨-, hs', ht'⟩ | ⟨hbefore', -, -⟩
    · exact Declaration.withDigits_comm _ _ (by omega) (by omega) (by omega) hb2 (by omega) ht'
        (by omega) (by omega)
    · omega

/-- Bumps of two different constants are independent. After a bump of one, a rule for the other
answers exactly as before: with the same failure, its count, value and ceiling included, or
with a bump of the same declaration, with the same blanks, from the same value to the same next
one, standing where it stood if it lies before the bumped declaration and as far from the end
of the bytes if it lies behind it. Where both bumps succeed on the same bytes, making them in
either order writes the same bytes. -/
theorem bumps_of_other_names_commute (ra rb : Rule) (hab : ra.name ≠ rb.name) (c : Bytes)
    (ba : Bump) (ha : ra.apply c = .ok ba) :
    SameAnswer (Bump.Moved c ba.content ba.declaration.start ba.declaration.stop)
      (rb.apply c) (rb.apply ba.content) ∧
    ∀ bb, rb.apply c = .ok bb → ∃ bb' ba', rb.apply ba.content = .ok bb' ∧
      ra.apply bb.content = .ok ba' ∧ bb'.content = ba'.content := by
  refine ⟨Rule.apply_after_other hab ha, fun bb hb => ?_⟩
  obtain ⟨bb', hb', hmb⟩ := (Rule.apply_after_other hab ha).ok bb hb
  obtain ⟨ba', ha', hma⟩ := (Rule.apply_after_other (Ne.symm hab) hb).ok ba ha
  exact ⟨bb', ba', hb', ha', Bump.content_comm ha hb hb' ha' hmb hma⟩

/-- In `A 9 B 5`, the bump of `A` to `10` moves `B 5` one byte on, and the bumps of `A` and of
`B` can be made in either order. -/
theorem bumps_of_other_names_commute_nine :
    (⟨⟨⟨"A", by decide⟩, by decide⟩, none⟩ : Rule).name ≠
        (⟨⟨⟨"B", by decide⟩, by decide⟩, none⟩ : Rule).name ∧
      Rule.apply ⟨⟨⟨"A", by decide⟩, by decide⟩, none⟩ [65, 32, 57, 32, 66, 32, 53] =
        .ok ⟨⟨⟨"A", by decide⟩, " ", 9, 0, 3⟩, 10, [65, 32, 49, 48, 32, 66, 32, 53]⟩ ∧
      SameAnswer (Bump.Moved [65, 32, 57, 32, 66, 32, 53] [65, 32, 49, 48, 32, 66, 32, 53] 0 3)
        (Rule.apply ⟨⟨⟨"B", by decide⟩, by decide⟩, none⟩ [65, 32, 57, 32, 66, 32, 53])
        (Rule.apply ⟨⟨⟨"B", by decide⟩, by decide⟩, none⟩
          [65, 32, 49, 48, 32, 66, 32, 53]) ∧
      ∀ bb, Rule.apply ⟨⟨⟨"B", by decide⟩, by decide⟩, none⟩
          [65, 32, 57, 32, 66, 32, 53] = .ok bb →
        ∃ bb' ba', Rule.apply ⟨⟨⟨"B", by decide⟩, by decide⟩, none⟩
            [65, 32, 49, 48, 32, 66, 32, 53] = .ok bb' ∧
          Rule.apply ⟨⟨⟨"A", by decide⟩, by decide⟩, none⟩ bb.content = .ok ba' ∧
          bb'.content = ba'.content := by
  have hab : (⟨⟨⟨"A", by decide⟩, by decide⟩, none⟩ : Rule).name ≠
      (⟨⟨⟨"B", by decide⟩, by decide⟩, none⟩ : Rule).name := fun h =>
    absurd (congrArg ConstantName.text h) (by decide)
  have hfound : Found ⟨⟨"A", by decide⟩, by decide⟩ [65, 32, 57, 32, 66, 32, 53]
      ⟨⟨"A", by decide⟩, " ", 9, 0, 3⟩ :=
    ⟨rfl, by cbv, by cbv, by cbv, by cbv⟩
  have ha : Rule.apply ⟨⟨⟨"A", by decide⟩, by decide⟩, none⟩
      [65, 32, 57, 32, 66, 32, 53] =
        .ok ⟨⟨⟨"A", by decide⟩, " ", 9, 0, 3⟩, 10, [65, 32, 49, 48, 32, 66, 32, 53]⟩ :=
    apply_eq_ok_iff.mpr ⟨_, find_of_found hfound,
      fun m hm => absurd hm.symm (Option.some_ne_none m), by decide, by cbv⟩
  exact ⟨hab, ha, bumps_of_other_names_commute _ _ hab _ _ ha⟩

end VersionStamp
