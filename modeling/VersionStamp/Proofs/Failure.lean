import VersionStamp.Constant

/-! # Refused names report the first rule they break; contexts around a failure keep its class and
lead its message. -/

namespace VersionStamp

/-! ## Refused names -/

/-- A C identifier: an ASCII letter or `_`, then ASCII letters, digits and `_`. -/
def IsIdentifier (s : String) : Prop :=
  ∃ c rest, s.toList = c :: rest ∧ (c.isAlpha ∨ c = '_') ∧ ∀ d ∈ rest, d.isAlphanum ∨ d = '_'

theorem isNameStart_eq_true_iff (c : Char) : isNameStart c = true ↔ (c.isAlpha ∨ c = '_') := by
  simp [isNameStart]

theorem isNameChar_eq_true_iff (c : Char) : isNameChar c = true ↔ (c.isAlphanum ∨ c = '_') := by
  simp [isNameChar]

/-- The characters break no rule exactly when they are those of a C identifier. -/
theorem nameProblem?_eq_none_iff (cs : List Char) : nameProblem? cs = none ↔
    ∃ c rest, cs = c :: rest ∧ (c.isAlpha ∨ c = '_') ∧ ∀ d ∈ rest, d.isAlphanum ∨ d = '_' := by
  cases cs with
  | nil => simp [nameProblem?]
  | cons c rest =>
    have hchecks : nameProblem? (c :: rest) = none ↔
        isNameStart c = true ∧ rest.all isNameChar = true := by
      simp only [nameProblem?]
      cases isNameStart c <;> cases rest.all isNameChar <;> simp
    rw [hchecks, isNameStart_eq_true_iff, List.all_eq_true]
    constructor
    · rintro ⟨hstart, hrest⟩
      exact ⟨c, rest, rfl, hstart, fun d hd => (isNameChar_eq_true_iff d).mp (hrest d hd)⟩
    · rintro ⟨c', rest', heq, hstart, hrest⟩
      obtain ⟨rfl, rfl⟩ := List.cons.inj heq
      exact ⟨hstart, fun d hd => (isNameChar_eq_true_iff d).mpr (hrest d hd)⟩

theorem ConstantName.ofString?_of_problem {s : String} {p : NameProblem}
    (h : nameProblem? s.toList = some p) :
    ConstantName.ofString? s = .error (.invalidName s p) := by
  unfold ConstantName.ofString?
  split <;> simp_all

theorem ConstantName.ofString?_of_valid {s : String} (h : nameProblem? s.toList = none) :
    ConstantName.ofString? s = .ok ⟨s, h⟩ := by
  unfold ConstantName.ofString?
  split
  · rfl
  · simp_all

/-- A text is accepted as a name, unchanged, exactly when it is a C identifier. Otherwise the
refusal carries the text and the reason of the first rule it breaks: the empty text is empty; a
text whose first character may not begin a name breaks the second rule whatever follows; and a
text that starts well breaks the third rule. -/
theorem ofString?_reports_first_broken_rule (s : String) :
    ((∃ n : ConstantName, ConstantName.ofString? s = .ok n ∧ n.text = s) ↔ IsIdentifier s) ∧
    (s = "" → ∃ p, ConstantName.ofString? s = .error (.invalidName s p) ∧
      p.reason = "name is empty") ∧
    (∀ c rest, s.toList = c :: rest → ¬(c.isAlpha ∨ c = '_') →
      ∃ p, ConstantName.ofString? s = .error (.invalidName s p) ∧
        p.reason = "must start with an ASCII letter or underscore") ∧
    (∀ c rest, s.toList = c :: rest → (c.isAlpha ∨ c = '_') →
      (∃ d ∈ rest, ¬(d.isAlphanum ∨ d = '_')) →
      ∃ p, ConstantName.ofString? s = .error (.invalidName s p) ∧
        p.reason = "may only contain ASCII letters, digits and underscores") := by
  refine ⟨⟨?accepted, ?identifier⟩, ?empty, ?badStart, ?badChar⟩
  case accepted =>
    rintro ⟨n, hn, rfl⟩
    unfold ConstantName.ofString? at hn
    split at hn
    · rename_i hnone
      exact (nameProblem?_eq_none_iff _).mp hnone
    · cases hn
  case identifier =>
    intro h
    exact ⟨_, ConstantName.ofString?_of_valid ((nameProblem?_eq_none_iff _).mpr h), rfl⟩
  case empty =>
    rintro rfl
    exact ⟨.empty, ConstantName.ofString?_of_problem rfl, rfl⟩
  case badStart =>
    intro c rest hs hc
    refine ⟨.badStart, ConstantName.ofString?_of_problem ?_, rfl⟩
    rw [← isNameStart_eq_true_iff] at hc
    simp [hs, nameProblem?, hc]
  case badChar =>
    intro c rest hs hc hsome
    obtain ⟨d, hd, hbad⟩ := hsome
    refine ⟨.badChar, ConstantName.ofString?_of_problem ?_, rfl⟩
    have hall : rest.all isNameChar = false := by
      simp only [List.all_eq_false, isNameChar_eq_true_iff]
      exact ⟨d, hd, hbad⟩
    rw [← isNameStart_eq_true_iff] at hc
    simp [hs, nameProblem?, hc, hall]

/-! ## Failures inside contexts -/

/-- The class of a failure is that of its innermost cause, however deep it is nested. -/
theorem Failure.category_eq_cause (f : Failure) : f.category = f.cause.category := by
  induction f with
  | context text source ih => rw [Failure.category, Failure.cause, ih]
  | of cause => rfl

/-- The message of a failure is its contexts, outermost first, each followed by `": "`, then the
text of its innermost cause. -/
theorem Failure.message_eq_contexts (f : Failure) :
    f.message = String.join (f.contexts.map (· ++ ": ")) ++ f.cause.message := by
  induction f with
  | context text source ih =>
    rw [Failure.message, ih, Failure.contexts, Failure.cause, List.map_cons, String.join_cons]
    simp only [String.append_assoc]
  | of cause => simp [Failure.message, Failure.contexts, Failure.cause]

/-- Contexts put around a cause, outermost first, nest around it in that order. -/
theorem Failure.foldr_within (contexts : List String) (cause : Cause) :
    (contexts.foldr Failure.within (.of cause)).contexts = contexts ∧
      (contexts.foldr Failure.within (.of cause)).cause = cause := by
  induction contexts with
  | nil => exact ⟨rfl, rfl⟩
  | cons c cs ih => exact ⟨congrArg (c :: ·) ih.1, ih.2⟩

/-- Any number of contexts around a cause, outermost first, keep the class of the cause: a
missing declaration, an ambiguous one, a passed limit and an overflowing value keep their own
classes (the last two the same), a refused name and a missing file argument are usage errors, and
a refused access is a file access failure. The message is each context followed by `": "`, then
the text of the cause. -/
theorem contexts_keep_class_and_lead_message (contexts : List String) :
    (∀ name, (contexts.foldr Failure.within
      (Failure.of (.domain (.notFound name)))).category = .notFound) ∧
    (∀ name count, (contexts.foldr Failure.within
      (Failure.of (.domain (.ambiguous name count)))).category = .ambiguous) ∧
    (∀ name value ceiling, (contexts.foldr Failure.within
      (Failure.of (.domain (.limitExceeded name value ceiling)))).category = .limitExceeded) ∧
    (∀ name digits, (contexts.foldr Failure.within
      (Failure.of (.domain (.valueOverflow name digits)))).category = .limitExceeded) ∧
    (∀ name problem, (contexts.foldr Failure.within
      (Failure.of (.domain (.invalidName name problem)))).category = .usage) ∧
    (∀ e, (contexts.foldr Failure.within (Failure.of (.store e))).category = .fileAccess) ∧
    (contexts.foldr Failure.within (Failure.of .missingFile)).category = .usage ∧
    ∀ cause, (contexts.foldr Failure.within (Failure.of cause)).message =
      String.join (contexts.map (· ++ ": ")) ++ cause.message := by
  have hclass : ∀ cause, (contexts.foldr Failure.within (.of cause)).category = cause.category :=
    fun cause => by rw [Failure.category_eq_cause, (Failure.foldr_within contexts cause).2]
  refine ⟨fun _ => hclass _, fun _ _ => hclass _, fun _ _ _ => hclass _, fun _ _ => hclass _,
    fun _ _ => hclass _, fun _ => hclass _, hclass _, fun cause => ?_⟩
  obtain ⟨hcontexts, hcause⟩ := Failure.foldr_within contexts cause
  rw [Failure.message_eq_contexts, hcontexts, hcause]

example :
    (["x.h"].foldr Failure.within (Failure.of (.domain (.notFound "BUILD_VERSION")))).message =
      "x.h: BUILD_VERSION not found in the file" := by
  decide

end VersionStamp
