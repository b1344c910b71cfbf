import VersionStamp.Proofs.Counter
import VersionStamp.Proofs.Store
import VersionStamp.Store.Memory

/-! # A session over the memory store, bumping one constant and switching write refusal, counts
the bumps it wrote. -/

namespace VersionStamp

open Utf8 Decimal

/-! ## The counter -/

/-- Whether a step bumps the constant `name` or switches write refusal. -/
def SessionStep.bumpsOrSwitches (name : String) : SessionStep → Bool
  | .bump n _ _ => n == name
  | .set _ => false
  | .refuseWrites _ => true

/-- Whether a step reported a bump that wrote the file. -/
def StepReport.wroteFile : Option StepReport → Bool
  | some (.ran (.ok o)) => o.written
  | _ => false

/-- The bytes of `c` once `w` bumps of its declaration `d` were written: `c` itself before the
first, and `c` with the digits of the value plus `w` in place of `d`'s after that. -/
def Declaration.afterWrites (d : Declaration) (c : Bytes) (w : Nat) : Bytes :=
  if w = 0 then c else d.withDigits c (d.value.toNat + w)

/-- Whether a bump may take the value `v` one further under `ceiling`: the ceiling, if there
is one, and the largest 64-bit value are both above it. -/
def Grows (v : Nat) (ceiling : Option UInt64) : Prop :=
  (∀ m, ceiling = some m → v < m.toNat) ∧ v < maxValue.toNat

/-- What a bump of `name` with `ceiling` reports when the file holds the value `v` and writes
are refused or not. It goes through exactly when the value grows and the write is not refused
or not made; it then reports `v` and `v + 1` and whether it wrote. A value that cannot grow is
refused at the limit, and a refused write as it is. -/
def BumpReported (path : FilePath) (name : String) (v : Nat) (refusing : Bool)
    (ceiling : Option UInt64) (dryRun : Bool) (r : Option StepReport) : Prop :=
  ((∃ o, r = some (.ran (.ok o))) ↔ Grows v ceiling ∧ (dryRun = true ∨ refusing = false)) ∧
  (∀ o, r = some (.ran (.ok o)) →
    o.path = path ∧ o.name = name ∧ o.previous.toNat = v ∧ o.current.toNat = v + 1 ∧
      o.written = !dryRun) ∧
  (¬ Grows v ceiling → ∃ value limit,
    r = some (.ran (.error
      ((Failure.of (.domain (.limitExceeded name value limit))).within path.display)))) ∧
  (Grows v ceiling → dryRun = false → refusing = true →
    ∃ fault, r = some (.ran (.error (.of (.store (.write path fault))))))

/-- What a session reports, step by step, from a file that holds `c` after `w` written bumps of
its declaration `d`, with writes refused or not: after each step the file holds `c` after as
many written bumps as there have been, and each bump reports as `BumpReported` says. -/
def CountingSession (path : FilePath) (c : Bytes) (d : Declaration) :
    Nat → Bool → List SessionStep → List (MemoryFile × Option StepReport) → Prop
  | _, _, [], [] => True
  | w, _, .refuseWrites on :: steps, (m, r) :: rest =>
    r = none ∧ m.content = some (d.afterWrites c w) ∧ CountingSession path c d w on steps rest
  | w, refusing, .bump name ceiling dryRun :: steps, (m, r) :: rest =>
    BumpReported path name (d.value.toNat + w) refusing ceiling dryRun r ∧
      m.content = some (d.afterWrites c (w + (StepReport.wroteFile r).toNat)) ∧
      CountingSession path c d (w + (StepReport.wroteFile r).toNat) refusing steps rest
  | _, _, _, _ => False

/-! ## The three ways a bump reports -/

section Reported

variable {path : FilePath} {name : String} {v : Nat} {refusing : Bool} {ceiling : Option UInt64}
  {dryRun : Bool}

theorem BumpReported.of_ok (hg : Grows v ceiling) (hd : dryRun = true ∨ refusing = false)
    {o : Outcome} (ho : o.path = path ∧ o.name = name ∧ o.previous.toNat = v ∧
      o.current.toNat = v + 1 ∧ o.written = !dryRun) :
    BumpReported path name v refusing ceiling dryRun (some (.ran (.ok o))) := by
  refine ⟨⟨fun _ => ⟨hg, hd⟩, fun _ => ⟨o, rfl⟩⟩, fun o' h => ?_,
    fun hng => absurd hg hng, fun _ hdry hrefuse => ?_⟩
  · cases h
    exact ho
  · rw [hdry, hrefuse] at hd
    simp at hd

theorem BumpReported.of_limit (hng : ¬ Grows v ceiling) (value limit : UInt64) :
    BumpReported path name v refusing ceiling dryRun
      (some (.ran (.error
        ((Failure.of (.domain (.limitExceeded name value limit))).within path.display)))) := by
  refine ⟨⟨fun ⟨o, h⟩ => ?_, fun h => absurd h.1 hng⟩, fun o h => ?_,
    fun _ => ⟨value, limit, rfl⟩, fun hg => absurd hg hng⟩ <;> cases h

theorem BumpReported.of_write (hg : Grows v ceiling) (hdry : dryRun = false)
    (hrefuse : refusing = true) (fault : IoFault) :
    BumpReported path name v refusing ceiling dryRun
      (some (.ran (.error (.of (.store (.write path fault)))))) := by
  refine ⟨⟨fun ⟨o, h⟩ => ?_, fun h => ?_⟩, fun o h => ?_, fun hng => absurd hg hng,
    fun _ _ _ => ⟨fault, rfl⟩⟩
  · cases h
  · obtain ⟨-, hd⟩ := h
    rw [hdry, hrefuse] at hd
    simp at hd
  · cases h

end Reported

/-! ## The memory store and the request of a bump step -/

section Memory

variable {m : MemoryFile}

theorem MemoryFile.read_of_content (path : FilePath) {bytes : List UInt8}
    (h : m.content = some bytes) :
    FileStore.read m path = .ok bytes := by
  obtain ⟨content, refusing⟩ := m
  subst h
  rfl

theorem MemoryFile.replace_of_refusing (path : FilePath) (h : m.refuseWrites = true)
    (bytes : List UInt8) :
    FileStore.replace m path bytes = .error (.refused "stub: read-only") := by
  show (if m.refuseWrites then _ else _) = _
  rw [if_pos h]

theorem MemoryFile.replace_of_accepting (path : FilePath) (h : m.refuseWrites = false)
    (bytes : List UInt8) :
    FileStore.replace m path bytes = .ok { m with content := some bytes } := by
  show (if m.refuseWrites then _ else _) = _
  rw [if_neg (by rw [h]; exact Bool.false_ne_true)]

end Memory

/-- A name that has a pattern makes the request with that pattern. -/
theorem Request.make_of_pattern (p : Pattern) (path : FilePath) (ceiling : Option UInt64)
    (dryRun : Bool) :
    Request.make path p.name.text ceiling dryRun = .ok ⟨path, ⟨p, ceiling⟩, dryRun⟩ := by
  have hname : ConstantName.ofString? p.name.text = .ok p.name := by
    unfold ConstantName.ofString?
    split
    · rfl
    · rename_i problem h
      rw [p.name.valid] at h
      cases h
  have hrule : Rule.make p.name ceiling = .ok ⟨p, ceiling⟩ := by
    unfold Rule.make Pattern.compile?
    rw [dif_pos p.fits]
  simp only [Request.make, hname, bind, Except.bind, hrule, pure, Except.pure]

theorem MemoryFile.step_bump_eq (m : MemoryFile) (p : Pattern) (path : FilePath)
    (ceiling : Option UInt64) (dryRun : Bool) :
    m.step path (.bump p.name.text ceiling dryRun) =
      let r := (⟨path, ⟨p, ceiling⟩, dryRun⟩ : Request).run m
      (r.store, some (.ran r.result)) := by
  simp only [MemoryFile.step, Request.make_of_pattern]

/-! ## One bump step -/

theorem grows_iff {d' : Declaration} {v : Nat} (hv : d'.value.toNat = v) (ceiling : Option UInt64) :
    Grows v ceiling ↔ (∀ m, ceiling = some m → d'.value < m) ∧ d'.value < maxValue := by
  subst hv
  simp only [Grows, UInt64.lt_iff_toNat_lt]

section Step

variable {p : Pattern} {c : Bytes} {d : Declaration} (hf : Found p c d)
include hf

/-- After `w` written bumps the file holds the declaration again, with the value plus `w`, and
digits written over it are written over those of `d` in `c`. -/
theorem Found.afterWrites {w : Nat} (hw : d.value.toNat + w < 2 ^ 64) :
    ∃ d', Found p (d.afterWrites c w) d' ∧ d'.value.toNat = d.value.toNat + w ∧
      ∀ n, d'.withDigits (d.afterWrites c w) n = d.withDigits c n := by
  by_cases h0 : w = 0
  · subst h0
    simp only [Declaration.afterWrites, if_true, Nat.add_zero]
    exact ⟨d, hf, rfl, fun n => rfl⟩
  · simp only [Declaration.afterWrites, if_neg h0]
    refine ⟨d.withValue (d.value.toNat + w), hf.withDigits hw, ?_, hf.withDigits_withDigits _⟩
    rw [Declaration.value_withValue, UInt64.toNat_ofNat_of_lt' hw]

/-- One bump of the constant from a file that holds `c` after `w` written bumps: it reports as
the counter says, and leaves the file holding `c` after one more written bump if it wrote, and
as it was otherwise. -/
theorem MemoryFile.step_bump_counts {m : MemoryFile} {w : Nat}
    (hm : m.content = some (d.afterWrites c w)) (hw : d.value.toNat + w ≤ maxValue.toNat)
    (path : FilePath) (ceiling : Option UInt64) (dryRun : Bool) :
    BumpReported path p.name.text (d.value.toNat + w) m.refuseWrites ceiling dryRun
        (m.step path (.bump p.name.text ceiling dryRun)).2 ∧
      (m.step path (.bump p.name.text ceiling dryRun)).1 = { m with content := some (d.afterWrites c
        (w + (StepReport.wroteFile (m.step path (.bump p.name.text ceiling dryRun)).2).toNat)) } ∧
      d.value.toNat +
          (w + (StepReport.wroteFile (m.step path (.bump p.name.text ceiling dryRun)).2).toNat) ≤
        maxValue.toNat := by
  obtain ⟨d', hf', hv, hdigits⟩ := hf.afterWrites (w := w) (by rw [toNat_maxValue] at hw; omega)
  have hread : FileStore.read m (⟨path, ⟨p, ceiling⟩, dryRun⟩ : Request).path =
      .ok (d.afterWrites c w) :=
    MemoryFile.read_of_content path hm
  have hfind : (⟨p, ceiling⟩ : Rule).pattern.find (d.afterWrites c w) = .ok d' :=
    find_of_found hf'
  have hsame : m = { m with content := some (d.afterWrites c w) } := by
    rw [← hm]
  rw [MemoryFile.step_bump_eq]
  rcases nextValue_cases ⟨p, ceiling⟩ d' with ⟨x, hc, hle⟩ | ⟨hc, hmax⟩ | ⟨hc, hlt⟩
  · -- the ceiling refuses the value
    have hng : ¬ Grows (d.value.toNat + w) ceiling := fun hg =>
      absurd ((grows_iff hv ceiling).mp hg).1 fun hall => UInt64.not_le.mpr (hall x hc) hle
    rw [Request.run_of_apply_error hread
      (apply_of_nextValue_error hfind (nextValue_of_ceiling_le hc hle))]
    exact ⟨BumpReported.of_limit hng _ _, hsame, hw⟩
  · -- the value is the largest of 64 bits
    have hng : ¬ Grows (d.value.toNat + w) ceiling := fun hg =>
      absurd ((grows_iff hv ceiling).mp hg).2 (by rw [hmax]; exact UInt64.lt_irrefl _)
    rw [Request.run_of_apply_error hread
      (apply_of_nextValue_error hfind (nextValue_of_eq_maxValue hc hmax))]
    exact ⟨BumpReported.of_limit hng _ _, hsame, hw⟩
  · -- the value grows: the run reports the bump, and writes it unless dry or refused
    have hg : Grows (d.value.toNat + w) ceiling := (grows_iff hv ceiling).mpr ⟨hc, hlt⟩
    have happly : (⟨p, ceiling⟩ : Rule).apply (d.afterWrites c w) =
        .ok ⟨d', d'.value + 1, d'.withDigits (d.afterWrites c w) (d'.value.toNat + 1)⟩ :=
      apply_eq_ok_iff.mpr ⟨d', hfind, hc, hlt, rfl⟩
    have hnext : (d'.value + 1).toNat = d.value.toNat + w + 1 := by rw [toNat_add_one hlt, hv]
    cases dryRun with
    | true =>
        rw [Request.run_of_dryRun hread happly rfl]
        exact ⟨BumpReported.of_ok hg (.inl rfl) ⟨rfl, rfl, hv, hnext, rfl⟩, hsame, hw⟩
    | false =>
        rcases Bool.eq_false_or_eq_true m.refuseWrites with hr | hr
        · -- writes are refused
            rw [Request.run_of_replace_error hread happly rfl
              (MemoryFile.replace_of_refusing path hr _)]
            exact ⟨BumpReported.of_write hg rfl hr _, hsame, hw⟩
        · -- the write is accepted
            rw [Request.run_of_replace_ok hread happly rfl
              (MemoryFile.replace_of_accepting path hr _)]
            have hbound : d.value.toNat + w < maxValue.toNat := by
              rw [← hv]
              exact UInt64.lt_iff_toNat_lt.mp hlt
            refine ⟨BumpReported.of_ok hg (.inr hr) ⟨rfl, rfl, hv, hnext, rfl⟩, ?_, ?_⟩
            · -- the bytes written hold `c` after one more written bump
              have hafter : d.afterWrites c (w + 1) = d.withDigits c (d.value.toNat + w + 1) := by
                rw [Declaration.afterWrites, if_neg (Nat.succ_ne_zero w), Nat.add_assoc]
              simp only [StepReport.wroteFile, Bool.toNat_true, hdigits, hv, hafter]
            · simp only [StepReport.wroteFile, Bool.toNat_true]
              omega

end Step

/-! ## A whole session -/

theorem MemoryFile.session_cons (m : MemoryFile) (path : FilePath) (s : SessionStep)
    (rest : List SessionStep) :
    m.session path (s :: rest) =
      ((m.step path s).1, (m.step path s).2) :: (m.step path s).1.session path rest := rfl

section Run

variable {p : Pattern} {c : Bytes} {d : Declaration} (hf : Found p c d) (path : FilePath)
include hf

/-- A session of bumps of the constant and switches, from a file that holds `c` after `w`
written bumps, counts on from `w`; the induction on the steps carries the file and `w`. -/
theorem MemoryFile.session_counts (steps : List SessionStep)
    (hsteps : ∀ s ∈ steps, s.bumpsOrSwitches p.name.text = true) {m : MemoryFile} {w : Nat}
    (hm : m.content = some (d.afterWrites c w)) (hw : d.value.toNat + w ≤ maxValue.toNat) :
    CountingSession path c d w m.refuseWrites steps (m.session path steps) := by
  induction steps generalizing m w with
  | nil => trivial
  | cons s steps ih =>
      have hrest : ∀ s ∈ steps, s.bumpsOrSwitches p.name.text = true :=
        fun s' hs' => hsteps s' (List.mem_cons_of_mem _ hs')
      rw [MemoryFile.session_cons]
      cases s with
      | bump name ceiling dryRun =>
          have hname : name = p.name.text := by
            simpa [SessionStep.bumpsOrSwitches] using hsteps _ List.mem_cons_self
          subst hname
          obtain ⟨hreport, hstore, hbound⟩ :=
            MemoryFile.step_bump_counts hf hm hw path ceiling dryRun
          have hm' := congrArg MemoryFile.content hstore
          have href : (m.step path (.bump p.name.text ceiling dryRun)).1.refuseWrites =
              m.refuseWrites := by
            rw [hstore]
          refine ⟨hreport, hm', ?_⟩
          have hnext := ih hrest hm' hbound
          rwa [href] at hnext
      | set content =>
          exact absurd (hsteps _ List.mem_cons_self) (by simp [SessionStep.bumpsOrSwitches])
      | refuseWrites on => exact ⟨rfl, hm, ih hrest (m := { m with refuseWrites := on }) hm hw⟩

end Run

/-- A session over the memory store whose file holds `c`, with one declaration `d` of a
constant, and whose steps bump that constant or switch write refusal, counts the bumps it
wrote. After each step the file holds `c` until a bump writes, and after that `c` with the value
plus the number `w` of written bumps in place of the digits. A bump goes through exactly when its
ceiling, if any, and the largest 64-bit value are above the current value `v + w`, and it is a
dry run or writes are not refused; it then reports `v + w` and `v + w + 1` and whether it wrote.
Every other bump is refused at the limit or at the write, and leaves the file as it was. -/
theorem session_counts_written_bumps {p : Pattern} {c : Bytes} {d : Declaration}
    (hfind : p.find c = .ok d) (path : FilePath) (refusing : Bool) (steps : List SessionStep)
    (hsteps : ∀ s ∈ steps, s.bumpsOrSwitches p.name.text = true) :
    CountingSession path c d 0 refusing steps (MemoryFile.session ⟨some c, refusing⟩ path steps) :=
  MemoryFile.session_counts (found_of_find hfind) path steps hsteps (m := ⟨some c, refusing⟩)
    (by simp [Declaration.afterWrites]) (le_maxValue d.value)

/-- `V 7` bumped under the ceiling 9, then with writes refused, then again: the first bump writes
`V 8`, the second is refused at the write. -/
theorem session_counts_written_bumps_seven :
    Pattern.find ⟨⟨"V", by decide⟩, by decide⟩ [86, 32, 55] =
        .ok ⟨⟨"V", by decide⟩, " ", 7, 0, 3⟩ ∧
      (∀ s ∈ [SessionStep.bump "V" (some 9) false, .refuseWrites true, .bump "V" none false],
        s.bumpsOrSwitches "V" = true) ∧
      CountingSession (FilePath.ofText "v.h") [86, 32, 55] ⟨⟨"V", by decide⟩, " ", 7, 0, 3⟩ 0
        false [.bump "V" (some 9) false, .refuseWrites true, .bump "V" none false]
        (MemoryFile.session ⟨some [86, 32, 55], false⟩ (FilePath.ofText "v.h")
          [.bump "V" (some 9) false, .refuseWrites true, .bump "V" none false]) := by
  have hfind : Pattern.find ⟨⟨"V", by decide⟩, by decide⟩ [86, 32, 55] =
      .ok ⟨⟨"V", by decide⟩, " ", 7, 0, 3⟩ :=
    find_of_found ⟨rfl, by cbv, by cbv, by cbv, by cbv⟩
  exact ⟨hfind, by decide,
    session_counts_written_bumps hfind (FilePath.ofText "v.h") false _ (by decide)⟩

/-- Until a bump writes, the file is the one the session started with, digits and all: `V 07`
stays `V 07` after writes are switched off, where the digits of its value alone read `V 7`. -/
theorem session_keeps_leading_zeros :
    Pattern.find ⟨⟨"V", by decide⟩, by decide⟩ [86, 32, 48, 55] =
        .ok ⟨⟨"V", by decide⟩, " ", 7, 0, 4⟩ ∧
      (MemoryFile.session ⟨some [86, 32, 48, 55], false⟩ (FilePath.ofText "v.h")
          [.refuseWrites true]).map (·.1.content) = [some [86, 32, 48, 55]] ∧
      Declaration.withDigits ⟨⟨"V", by decide⟩, " ", 7, 0, 4⟩ [86, 32, 48, 55] (7 + 0) ≠
        [86, 32, 48, 55] :=
  ⟨find_of_found ⟨rfl, by cbv, by cbv, by cbv, by cbv⟩, rfl, by decide⟩

end VersionStamp
