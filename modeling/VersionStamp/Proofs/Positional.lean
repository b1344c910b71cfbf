import VersionStamp.Proofs.Runs

/-! # Declarations read off the bytes by position; the scan keeps exactly one site per declared
offset, from the left. -/

namespace VersionStamp

open Utf8 Text Decimal

/-! ## The positional reading -/

/-- Whether a word boundary stands at offset `q` of `c`: of the character decoded backwards from
`q` and the one that starts at `q`, exactly one is a word character. -/
def boundaryAt (c : Bytes) (q : Nat) : Bool :=
  wordBefore (c.take q).reverse != (decodeFront (c.drop q)).any fun r => isWordChar r.1

/-- The blanks that follow `name` put at offset `q` of `c`. -/
def separatorAt (name c : Bytes) (q : Nat) : Bytes :=
  (c.drop (q + name.length)).take (blankRun (c.drop (q + name.length)))

/-- The digits that follow those blanks. -/
def digitsAt (name c : Bytes) (q : Nat) : Bytes :=
  (c.drop (q + name.length + (separatorAt name c q).length)).take
    (digitRun (c.drop (q + name.length + (separatorAt name c q).length)))

/-- The offset just after those digits. -/
def endAt (name c : Bytes) (q : Nat) : Nat :=
  q + name.length + (separatorAt name c q).length + (digitsAt name c q).length

/-- Whether a declaration of `name` starts at offset `q` of `c`: a word boundary stands there,
then the bytes of `name`, a nonempty run of blanks and a nonempty run of digits, and the bytes
after the digits do not start with an alphanumeric character, `_` or `.`. -/
def declaredAt (name c : Bytes) (q : Nat) : Bool :=
  boundaryAt c q && name.isPrefixOf (c.drop q) && decide (0 < (separatorAt name c q).length) &&
    decide (0 < (digitsAt name c q).length) && endsApart (c.drop (endAt name c q))

/-- The offsets at which declarations of `name` start in `c`, from the left. -/
def declarationOffsets (name c : Bytes) : List Nat :=
  (List.range c.length).filter (declaredAt name c)

/-- The site of the declaration at offset `q`. -/
def siteAt (name c : Bytes) (q : Nat) : Site :=
  ⟨q, separatorAt name c q, digitsAt name c q⟩

theorem declaredAt_eq_true_iff {name c : Bytes} {q : Nat} :
    declaredAt name c q = true ↔
      boundaryAt c q = true ∧ name.isPrefixOf (c.drop q) = true ∧
        0 < (separatorAt name c q).length ∧ 0 < (digitsAt name c q).length ∧
        endsApart (c.drop (endAt name c q)) = true := by
  simp only [declaredAt, Bool.and_eq_true, decide_eq_true_eq, and_assoc]

theorem length_separatorAt (name c : Bytes) (q : Nat) :
    (separatorAt name c q).length = blankRun (c.drop (q + name.length)) := by
  simp only [separatorAt, List.length_take]
  exact Nat.min_eq_left (blankRun_le _)

theorem length_digitsAt (name c : Bytes) (q : Nat) :
    (digitsAt name c q).length =
      digitRun (c.drop (q + name.length + (separatorAt name c q).length)) := by
  simp only [digitsAt, List.length_take]
  exact Nat.min_eq_left (digitRun_le _)

theorem take_length_separatorAt (name c : Bytes) (q : Nat) :
    (c.drop (q + name.length)).take (separatorAt name c q).length = separatorAt name c q := by
  rw [length_separatorAt]
  rfl

theorem take_length_digitsAt (name c : Bytes) (q : Nat) :
    (c.drop (q + name.length + (separatorAt name c q).length)).take (digitsAt name c q).length =
      digitsAt name c q := by
  rw [length_digitsAt]
  rfl

/-! ## The bytes of a shape -/

theorem drop_eq_name_append {name c : Bytes} {q : Nat} (h : name.isPrefixOf (c.drop q) = true) :
    c.drop q = name ++ c.drop (q + name.length) := by
  have hpre := List.prefix_iff_eq_append.mp (List.isPrefixOf_iff_prefix.mp h)
  rw [List.drop_drop] at hpre
  exact hpre.symm

theorem drop_eq_take_append {α : Type} (l : List α) (k n : Nat) :
    l.drop k = (l.drop k).take n ++ l.drop (k + n) := by
  rw [← List.drop_drop, List.take_append_drop]

theorem drop_eq_separatorAt_append (name c : Bytes) (q : Nat) :
    c.drop (q + name.length) =
      separatorAt name c q ++ c.drop (q + name.length + (separatorAt name c q).length) := by
  rw [length_separatorAt, separatorAt]
  exact drop_eq_take_append c _ _

theorem drop_eq_digitsAt_append (name c : Bytes) (q : Nat) :
    c.drop (q + name.length + (separatorAt name c q).length) =
      digitsAt name c q ++ c.drop (endAt name c q) := by
  rw [endAt, length_digitsAt, digitsAt]
  exact drop_eq_take_append c _ _

/-- The bytes from a name on: the name, its blanks, its digits and what follows. -/
theorem drop_eq_shape {name c : Bytes} {q : Nat} (h : name.isPrefixOf (c.drop q) = true) :
    c.drop q = name ++ separatorAt name c q ++ digitsAt name c q ++ c.drop (endAt name c q) := by
  rw [drop_eq_name_append h, drop_eq_separatorAt_append, drop_eq_digitsAt_append]
  simp only [List.append_assoc]

theorem endAt_le_length {name c : Bytes} {q : Nat} (h : name.isPrefixOf (c.drop q) = true)
    (hq : q ≤ c.length) : endAt name c q ≤ c.length := by
  have hlen := congrArg List.length (drop_eq_shape h)
  simp only [List.length_drop, List.length_append] at hlen
  unfold endAt at hlen ⊢
  omega

theorem exists_getElem?_of_drop {bs A B : Bytes} {k i : Nat} (h : bs.drop k = A ++ B)
    (hi : i < A.length) : ∃ y ∈ A, bs[k + i]? = some y := by
  refine ⟨A[i], List.getElem_mem hi, ?_⟩
  rw [← List.getElem?_drop, h, List.getElem?_append_left hi, List.getElem?_eq_getElem hi]

/-- The bytes from an offset that holds a byte: the offset is inside, and the rest starts one
further. -/
theorem drop_eq_cons {c tail : Bytes} {b : UInt8} {pos : Nat} (h : b :: tail = c.drop pos) :
    pos < c.length ∧ tail = c.drop (pos + 1) := by
  refine ⟨?_, ?_⟩
  · have := congrArg List.length h
    simp only [List.length_cons, List.length_drop] at this
    omega
  · have := congrArg (List.drop 1) h
    simpa only [List.drop_succ_cons, List.drop_zero, List.drop_drop] using this

/-! ## Word boundaries -/

theorem WordByte.wordBefore_cons {x : UInt8} (hx : WordByte x) (rest : Bytes) :
    wordBefore (x :: rest) = true := by
  have hsteps : backSteps 3 (x :: rest) = 0 := by
    cases rest with
    | nil => rfl
    | cons y ys => simp [backSteps, hx.isCont_eq_false]
  simp [wordBefore, decodeBack, hsteps, hx.decodeFront_cons, hx.word]

/-- At a word byte the boundary is the absence of a word character before it. -/
theorem boundaryAt_of_getElem? {bs : Bytes} {q : Nat} {y : UInt8} (hy : bs[q]? = some y)
    (hw : WordByte y) : boundaryAt bs q = !wordBefore (bs.take q).reverse := by
  obtain ⟨ys, hys⟩ := List.head?_eq_some_iff.mp (List.head?_drop.trans hy)
  simp [boundaryAt, hys, hw.decodeFront_cons, hw.word]

/-- Between two word bytes there is no word boundary. -/
theorem boundaryAt_eq_false {bs : Bytes} {p : Nat} {x y : UInt8} (hp : 0 < p)
    (hx : bs[p - 1]? = some x) (hy : bs[p]? = some y) (hwx : WordByte x) (hwy : WordByte y) :
    boundaryAt bs p = false := by
  have hlen : p ≤ bs.length := by
    have := (List.getElem?_eq_some_iff.mp hx).1
    omega
  have hlast : (bs.take p).reverse.head? = some x := by
    rw [List.head?_reverse, List.getLast?_eq_getElem?, List.length_take, Nat.min_eq_left hlen,
      List.getElem?_take, if_pos (by omega), hx]
  obtain ⟨xs, hxs⟩ := List.head?_eq_some_iff.mp hlast
  rw [boundaryAt_of_getElem? hy hwy, hxs, hwx.wordBefore_cons]
  rfl

/-! ## No shape inside another -/

/-- A declaration starts only at the first byte of the name. -/
theorem getElem?_of_declaredAt {name bs : Bytes} {p : Nat} {b : UInt8} {rest : Bytes}
    (hname : name = b :: rest) (h : declaredAt name bs p = true) : bs[p]? = some b := by
  have hpre := (declaredAt_eq_true_iff.mp h).2.1
  rw [← List.head?_drop, drop_eq_name_append hpre, hname]
  rfl

section Inside

variable {name : Bytes} (hn : NameBytes name)
include hn

/-- A byte that no name starts with starts no declaration. -/
theorem declaredAt_eq_false_of_getElem? {bs : Bytes} {p : Nat} {y : UInt8}
    (hy : bs[p]? = some y) (hne : ¬WordByte y ∨ isDigitByte y = true) :
    declaredAt name bs p = false := by
  obtain ⟨b, rest, hname, hb⟩ := hn.head
  cases h : declaredAt name bs p with
  | false => rfl
  | true =>
      have hyb : y = b := by
        have := getElem?_of_declaredAt hname h
        rw [hy] at this
        exact Option.some.inj this
      subst hyb
      have hw : WordByte y := hn.word y (by simp [hname])
      rcases hne with hne | hne
      · exact absurd hw hne
      · rw [hb] at hne
        exact Bool.noConfusion hne

/-- No declaration starts strictly inside the shape of another, of the same name or not: inside
the name there is no word boundary, and no blank and no digit starts a name. -/
theorem declaredAt_inside {shape : Bytes} (hs : NameBytes shape) {c : Bytes} {q p : Nat}
    (hq : shape.isPrefixOf (c.drop q) = true) (hp : q < p) (hp' : p < endAt shape c q) :
    declaredAt name c p = false := by
  by_cases hin : p < q + shape.length
  · -- inside the name: the bytes on both sides of `p` are name bytes
    obtain ⟨x, hx, hcx⟩ := exists_getElem?_of_drop (i := p - 1 - q) (drop_eq_name_append hq)
      (by omega)
    obtain ⟨y, hy, hcy⟩ := exists_getElem?_of_drop (i := p - q) (drop_eq_name_append hq)
      (by omega)
    rw [show q + (p - 1 - q) = p - 1 by omega] at hcx
    rw [show q + (p - q) = p by omega] at hcy
    simp [declaredAt, boundaryAt_eq_false (by omega) hcx hcy (hs.word x hx) (hs.word y hy)]
  · by_cases hsep : p < q + shape.length + (separatorAt shape c q).length
    · -- inside the blanks
      obtain ⟨y, hy, hcy⟩ := exists_getElem?_of_drop (i := p - (q + shape.length))
        (drop_eq_separatorAt_append shape c q) (by omega)
      rw [show q + shape.length + (p - (q + shape.length)) = p by omega] at hcy
      exact declaredAt_eq_false_of_getElem? hn hcy (.inl (not_wordByte_of_mem_separator hy))
    · -- inside the digits
      obtain ⟨y, hy, hcy⟩ := exists_getElem?_of_drop
        (i := p - (q + shape.length + (separatorAt shape c q).length))
        (drop_eq_digitsAt_append shape c q) (by unfold endAt at hp'; omega)
      rw [show q + shape.length + (separatorAt shape c q).length +
        (p - (q + shape.length + (separatorAt shape c q).length)) = p by omega] at hcy
      exact declaredAt_eq_false_of_getElem? hn hcy (.inr (isDigitByte_of_mem_digits hy))

end Inside

/-! ## The scan -/

section Scan

variable {name : Bytes} (hn : NameBytes name)
include hn

/-- Where the scan tests for a shape, it tests the positional conditions but the last. -/
theorem startsAt_eq (bs : Bytes) (q : Nat) :
    startsAt name (bs.take q).reverse (bs.drop q) =
      if boundaryAt bs q = true ∧ name.isPrefixOf (bs.drop q) = true ∧
          0 < (separatorAt name bs q).length ∧ 0 < (digitsAt name bs q).length
      then some ((separatorAt name bs q).length, (digitsAt name bs q).length) else none := by
  obtain ⟨b, rest, hname, -⟩ := hn.head
  by_cases hpre : name.isPrefixOf (bs.drop q) = true
  · have hb : bs[q]? = some b := by
      rw [← List.head?_drop, drop_eq_name_append hpre, hname]
      rfl
    have hhead : (name.head? == (bs.drop q).head?) = true := by
      rw [List.head?_drop, hb, hname]
      simp
    have hw : WordByte b := hn.word b (by simp [hname])
    simp only [startsAt, hhead, Bool.true_and, shapeAt, hpre, if_true, List.drop_drop,
      boundaryAt_of_getElem? hb hw, ← length_separatorAt, ← length_digitsAt]
    by_cases hwb : wordBefore (bs.take q).reverse = true <;> simp [hwb]
  · have hfalse : name.isPrefixOf (bs.drop q) = false := Bool.eq_false_iff.mpr hpre
    simp only [startsAt, shapeAt, hfalse, Bool.false_eq_true, if_false, ite_self, false_and,
      and_false]

/-- Inside the range scanned from a shape on, only its own offset may be declared; the rest
starts at its end. -/
theorem filter_range'_of_shape {c : Bytes} {q n : Nat} (hq : name.isPrefixOf (c.drop q) = true)
    (hsep : 0 < (separatorAt name c q).length) (hend : endAt name c q ≤ q + n) :
    (List.range' q n).filter (declaredAt name c) =
      (if declaredAt name c q then [q] else []) ++
        (List.range' (endAt name c q) (q + n - endAt name c q)).filter (declaredAt name c) := by
  have hlt : q < endAt name c q := by
    unfold endAt
    omega
  have hsplit : List.range' q n =
      q :: List.range' (q + 1) (endAt name c q - q - 1) ++
        List.range' (endAt name c q) (q + n - endAt name c q) := by
    have := @List.range'_append_1 q (endAt name c q - q) (q + n - endAt name c q)
    rw [show q + (endAt name c q - q) = endAt name c q by omega,
      show endAt name c q - q + (q + n - endAt name c q) = n by omega,
      show endAt name c q - q = endAt name c q - q - 1 + 1 by omega, List.range'_succ] at this
    exact this.symm
  have hinside : (List.range' (q + 1) (endAt name c q - q - 1)).filter (declaredAt name c) = [] :=
    List.filter_eq_nil_iff.mpr fun p hp => by
      rw [List.mem_range'_1] at hp
      simp [declaredAt_inside hn hn hq (p := p) (by omega) (by omega)]
  rw [hsplit, List.cons_append, List.filter_cons, List.filter_append, hinside]
  split <;> simp

/-- The scan from offset `pos` on keeps the sites of the declared offsets from `pos` on. -/
theorem scanSites_eq (c before rest : Bytes) (pos : Nat)
    (hbefore : before = (c.take pos).reverse) (hrest : rest = c.drop pos) :
    scanSites name before rest pos =
      ((List.range' pos (c.length - pos)).filter (declaredAt name c)).map (siteAt name c) := by
  fun_induction scanSites name before rest pos with
  | case1 before pos =>
      have hle : c.length ≤ pos := List.drop_eq_nil_iff.mp hrest.symm
      simp [Nat.sub_eq_zero_of_le hle]
  | case2 before pos b tail w d hstarts len whole site after kept ih =>
      subst hbefore
      have hs := hstarts
      rw [hrest, startsAt_eq hn] at hs
      split at hs
      case isFalse => cases hs
      case isTrue hcond =>
        obtain ⟨hb, hpre, hsep, hdig⟩ := hcond
        obtain ⟨rfl, rfl⟩ := Prod.mk.inj (Option.some.inj hs)
        simp only [kept, after, site, whole, len] at ih ⊢
        obtain ⟨hpos, htail⟩ := drop_eq_cons hrest
        have hend := endAt_le_length hpre (Nat.le_of_lt hpos)
        have hlen : pos + (name.length + (separatorAt name c pos).length +
            (digitsAt name c pos).length) = endAt name c pos := by
          unfold endAt
          omega
        have hafter : tail.drop (name.length + (separatorAt name c pos).length +
            (digitsAt name c pos).length - 1) = c.drop (endAt name c pos) := by
          rw [htail, List.drop_drop, ← hlen]
          congr 1
          omega
        have hbefore' : (List.take (name.length + (separatorAt name c pos).length +
            (digitsAt name c pos).length) (b :: tail)).reverse ++ (c.take pos).reverse =
              (c.take (endAt name c pos)).reverse := by
          rw [hrest, ← List.reverse_append, ← List.take_add, hlen]
        have hsite : (⟨pos, ((b :: tail).drop name.length).take (separatorAt name c pos).length,
            ((b :: tail).drop (name.length + (separatorAt name c pos).length)).take
              (digitsAt name c pos).length⟩ : Site) = siteAt name c pos := by
          rw [hrest, List.drop_drop, List.drop_drop, ← Nat.add_assoc, take_length_separatorAt,
            take_length_digitsAt]
          rfl
        have hdecl : declaredAt name c pos = endsApart (c.drop (endAt name c pos)) := by
          simp [declaredAt, hb, hpre, hsep, hdig]
        rw [hlen] at ih
        rw [hlen, filter_range'_of_shape hn hpre hsep (by omega), List.map_append,
          show pos + (c.length - pos) - endAt name c pos = c.length - endAt name c pos by omega,
          ← ih hbefore' hafter, hafter, hsite, hdecl]
        by_cases he : endsApart (c.drop (endAt name c pos)) = true <;> simp [he]
  | case3 before pos b tail hstarts ih =>
      subst hbefore
      obtain ⟨hpos, htail⟩ := drop_eq_cons hrest
      have hnot : declaredAt name c pos = false := by
        cases h : declaredAt name c pos with
        | false => rfl
        | true =>
            obtain ⟨hb, hpre, hsep, hdig, -⟩ := declaredAt_eq_true_iff.mp h
            rw [hrest, startsAt_eq hn, if_pos ⟨hb, hpre, hsep, hdig⟩] at hstarts
            cases hstarts
      have hbefore' : b :: (c.take pos).reverse = (c.take (pos + 1)).reverse := by
        rw [List.take_add, ← hrest]
        simp
      rw [ih hbefore' htail, show c.length - pos = c.length - (pos + 1) + 1 by omega,
        List.range'_succ, List.filter_cons]
      simp [hnot]

/-- The scan keeps one site for each declared offset, from the left: no shape starts strictly
inside another (`declaredAt_inside`), so taking a whole shape passes over no declaration. -/
theorem sitesOf_eq_map_siteAt (c : Bytes) :
    sitesOf name c = (declarationOffsets name c).map (siteAt name c) := by
  rw [sitesOf, scanSites_eq hn c [] c 0 (by simp) (by simp), declarationOffsets,
    List.range_eq_range', Nat.sub_zero]

end Scan

/-! ## The declaration found -/

theorem declaredAt_of_mem_declarationOffsets {name c : Bytes} {q : Nat}
    (h : q ∈ declarationOffsets name c) : declaredAt name c q = true :=
  (List.mem_filter.mp h).2

theorem lt_length_of_declaredAt {name c : Bytes} {q : Nat} (hname : name ≠ [])
    (h : declaredAt name c q = true) : q < c.length := by
  have hpre := (declaredAt_eq_true_iff.mp h).2.1
  have hlen := congrArg List.length (drop_eq_name_append hpre)
  simp only [List.length_drop, List.length_append] at hlen
  have := List.length_pos_of_ne_nil hname
  omega

theorem lt_length_of_mem_declarationOffsets {name c : Bytes} {q : Nat}
    (h : q ∈ declarationOffsets name c) : q < c.length :=
  List.mem_range.mp (List.mem_filter.mp h).1

/-- A single declared offset: the offsets are it alone when no other offset is declared. -/
theorem declarationOffsets_eq_singleton {name c : Bytes} {q : Nat} (hq : q < c.length)
    (hdecl : declaredAt name c q = true)
    (hother : ∀ p, p < c.length → p ≠ q → declaredAt name c p = false) :
    declarationOffsets name c = [q] := by
  have hsplit : List.range c.length =
      List.range' 0 q ++ q :: List.range' (q + 1) (c.length - (q + 1)) := by
    have := @List.range'_append_1 0 q (c.length - q)
    rw [Nat.zero_add, show q + (c.length - q) = c.length by omega,
      show c.length - q = c.length - (q + 1) + 1 by omega, List.range'_succ] at this
    rw [List.range_eq_range', this]
  have hnone : ∀ l : List Nat, (∀ p ∈ l, p < c.length ∧ p ≠ q) →
      l.filter (declaredAt name c) = [] := fun l hl =>
    List.filter_eq_nil_iff.mpr fun p hp => by simp [hother p (hl p hp).1 (hl p hp).2]
  rw [declarationOffsets, hsplit, List.filter_append, List.filter_cons, if_pos hdecl,
    hnone _ fun p hp => by rw [List.mem_range'_1] at hp; omega,
    hnone _ fun p hp => by rw [List.mem_range'_1] at hp; omega]
  rfl

/-- What `Pattern.find` answers depends on the declared offsets alone; only a single one has
its digits read. -/
theorem find_eq_match_offsets (p : Pattern) (c : Bytes) :
    p.find c = match declarationOffsets p.name.bytes c with
      | [] => .error (.notFound p.name.text)
      | [q] => (siteAt p.name.bytes c q).declaration p.name
      | qs => .error (.ambiguous p.name.text qs.length) := by
  rw [Pattern.find, sitesOf_eq_map_siteAt p.name.nameBytes]
  cases declarationOffsets p.name.bytes c with
  | nil => rfl
  | cons q qs =>
      cases qs with
      | nil => rfl
      | cons q' qs => simp

/-- The declaration at an offset with digits: they are read as a number, which either fits in
64 bits or is refused as an overflow that reports the digits. -/
theorem declaration_siteAt (n : ConstantName) {c : Bytes} {q : Nat}
    (hdig : 0 < (digitsAt n.bytes c q).length) :
    (siteAt n.bytes c q).declaration n =
      if digitsValue (digitsAt n.bytes c q) < wordBound then
        .ok ⟨n, String.ofList (decodeLossy (separatorAt n.bytes c q)),
          (digitsValue (digitsAt n.bytes c q)).toUInt64, q, endAt n.bytes c q⟩
      else .error (.valueOverflow n.text (String.ofList (decodeLossy (digitsAt n.bytes c q)))) := by
  have hne : digitsAt n.bytes c q ≠ [] := List.ne_nil_of_length_pos hdig
  simp only [Site.declaration, siteAt,
    readU64_digits hne fun _ hb => isDigitByte_of_mem_digits hb]
  by_cases hv : digitsValue (digitsAt n.bytes c q) < wordBound
  · simp only [hv, ↓reduceIte]
    rfl
  · simp only [hv, ↓reduceIte]

theorem find_eq_ok_of_offsets {p : Pattern} {c : Bytes} {q : Nat}
    (hq : declarationOffsets p.name.bytes c = [q])
    (hsmall : digitsValue (digitsAt p.name.bytes c q) < wordBound) :
    p.find c = .ok ⟨p.name, String.ofList (decodeLossy (separatorAt p.name.bytes c q)),
      (digitsValue (digitsAt p.name.bytes c q)).toUInt64, q, endAt p.name.bytes c q⟩ := by
  have hdig := (declaredAt_eq_true_iff.mp
    (declaredAt_of_mem_declarationOffsets (hq ▸ List.mem_singleton_self q))).2.2.2.1
  have hsingle : p.find c = (siteAt p.name.bytes c q).declaration p.name := by
    rw [find_eq_match_offsets, hq]
  rw [hsingle, declaration_siteAt p.name hdig, if_pos hsmall]

/-- Everything a found declaration is: the declaration read at the only declared offset, whose
digits fit in 64 bits. -/
theorem find_eq_ok {p : Pattern} {c : Bytes} {d : Declaration} (h : p.find c = .ok d) :
    ∃ q, declarationOffsets p.name.bytes c = [q] ∧
      digitsValue (digitsAt p.name.bytes c q) < wordBound ∧
      d = ⟨p.name, String.ofList (decodeLossy (separatorAt p.name.bytes c q)),
        (digitsValue (digitsAt p.name.bytes c q)).toUInt64, q, endAt p.name.bytes c q⟩ := by
  rw [find_eq_match_offsets] at h
  cases hQ : declarationOffsets p.name.bytes c with
  | nil => simp [hQ] at h
  | cons q qs =>
      cases qs with
      | cons q' qs => simp [hQ] at h
      | nil =>
          have hdig := (declaredAt_eq_true_iff.mp
            (declaredAt_of_mem_declarationOffsets (hQ ▸ List.mem_singleton_self q))).2.2.2.1
          simp only [hQ] at h
          rw [declaration_siteAt p.name hdig] at h
          by_cases hsmall : digitsValue (digitsAt p.name.bytes c q) < wordBound
          · rw [if_pos hsmall] at h
            exact ⟨q, rfl, hsmall, (Except.ok.inj h).symm⟩
          · rw [if_neg hsmall] at h
            cases h

/-- The digits of a declaration are all the digits there: none follows them. -/
theorem digitRun_drop_endAt (name c : Bytes) (q : Nat) : digitRun (c.drop (endAt name c q)) = 0 := by
  have hsplit : c.drop (endAt name c q) =
      (c.drop (q + name.length + (separatorAt name c q).length)).drop
        (digitRun (c.drop (q + name.length + (separatorAt name c q).length))) :=
    calc c.drop (endAt name c q)
        = (digitsAt name c q ++ c.drop (endAt name c q)).drop (digitsAt name c q).length :=
          List.drop_left.symm
      _ = _ := by rw [← drop_eq_digitsAt_append, length_digitsAt]
  rw [hsplit, digitRun_drop]

/-- The digits of a declaration, read as text, encode back to themselves. -/
theorem utf8Bytes_digitsAt (name c : Bytes) (q : Nat) :
    utf8Bytes (String.ofList (decodeLossy (digitsAt name c q))) = digitsAt name c q :=
  utf8Bytes_decodeLossy_ascii fun _ hb => (WordByte.of_isDigitByte (isDigitByte_of_mem_digits hb)).ascii

/-- `Pattern.find` agrees with the positional reading of the declarations. No declared offset
is a failure to find, several are ambiguous whatever their digits; a single one gives the
declaration there, unless its digits pass 64 bits, however many zeros lead them. The
declaration spans the name, the blanks and the digits; its separator is the blanks' own text,
and its value the number the digits denote. -/
theorem find_of_declarationOffsets (p : Pattern) (c : Bytes) :
    (declarationOffsets p.name.bytes c = [] → p.find c = .error (.notFound p.name.text)) ∧
    (2 ≤ (declarationOffsets p.name.bytes c).length →
      p.find c = .error (.ambiguous p.name.text (declarationOffsets p.name.bytes c).length)) ∧
    ∀ q, declarationOffsets p.name.bytes c = [q] →
      (2 ^ 64 ≤ digitsValue (digitsAt p.name.bytes c q) →
        ∃ text, p.find c = .error (.valueOverflow p.name.text text) ∧
          utf8Bytes text = digitsAt p.name.bytes c q) ∧
      (digitsValue (digitsAt p.name.bytes c q) < 2 ^ 64 →
        ∃ d, p.find c = .ok d ∧ d.name = p.name ∧ d.start = q ∧
          d.stop = endAt p.name.bytes c q ∧ utf8Bytes d.blanks = separatorAt p.name.bytes c q ∧
          d.value.toNat = digitsValue (digitsAt p.name.bytes c q)) := by
  have hfind := find_eq_match_offsets p c
  refine ⟨fun h => by rw [hfind, h], fun h => ?_, fun q hq => ?_⟩
  · rw [hfind]
    match hQ : declarationOffsets p.name.bytes c with
    | [] => simp [hQ] at h
    | [_] => simp [hQ] at h
    | _ :: _ :: _ => rfl
  · have hdig := (declaredAt_eq_true_iff.mp
      (declaredAt_of_mem_declarationOffsets (hq ▸ List.mem_singleton_self q))).2.2.2.1
    have hsingle : p.find c = (siteAt p.name.bytes c q).declaration p.name := by
      rw [hfind, hq]
    rw [hsingle, declaration_siteAt p.name hdig]
    refine ⟨fun hbig => ?_, fun hsmall => ?_⟩
    · rw [if_neg (by rw [wordBound_eq]; omega)]
      exact ⟨_, rfl, utf8Bytes_digitsAt _ c q⟩
    · rw [if_pos (show digitsValue _ < wordBound by rw [wordBound_eq]; exact hsmall)]
      refine ⟨_, rfl, rfl, rfl, rfl, utf8Bytes_separator _, ?_⟩
      exact UInt64.toNat_ofNat_of_lt' hsmall

end VersionStamp
