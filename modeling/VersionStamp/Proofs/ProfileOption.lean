import VersionStamp.Profile

/-! # The profile that a raw command line asks for: the values that the profile option receives,
read declaratively, and the first of them that names a profile. -/

namespace VersionStamp

/-- `ProfileValues args vs`: read left to right, the arguments `args` give the profile option the
values `vs`, in order. A bare `--profile` takes the argument after it as its value, and that
argument is not read as an option; `--profile=V` gives `V`; every other argument gives nothing. -/
inductive ProfileValues : List String → List String → Prop
  | nil : ProfileValues [] []
  /-- A bare `--profile` as the last argument gives nothing. -/
  | last : ProfileValues ["--profile"] []
  | separate (v : String) {rest vs : List String} :
      ProfileValues rest vs → ProfileValues ("--profile" :: v :: rest) (v :: vs)
  | attached (v : String) {rest vs : List String} :
      ProfileValues rest vs → ProfileValues (("--profile=" ++ v) :: rest) (v :: vs)
  | other {a : String} {rest vs : List String} (bare : a ≠ "--profile")
      (notAttached : ∀ v, a ≠ "--profile=" ++ v) :
      ProfileValues rest vs → ProfileValues (a :: rest) vs

/-! ## The option's two spellings -/

/-- An argument carries a value in the attached spelling exactly when it is `--profile=` followed
by that value. -/
theorem attachedProfile?_eq_some_iff {a v : String} :
    attachedProfile? a = some v ↔ a = "--profile=" ++ v := by
  unfold attachedProfile? String.isPrefixOf
  constructor
  · intro h
    split at h
    · rename_i hprefix
      obtain rfl := Option.some.inj h
      obtain ⟨t, ht⟩ := String.startsWith_string_iff.mp hprefix
      rw [← String.toList_inj]
      simp [String.toList_copy_drop, ← ht]
    · cases h
  · rintro rfl
    have hlen : "--profile=".toList.length = 10 := by decide
    simp only [String.startsWith_string_iff, String.toList_append, List.prefix_append, if_true,
      Option.some.injEq]
    rw [← String.toList_inj]
    change (("--profile=" ++ v).drop 10).copy.toList = v.toList
    rw [String.toList_copy_drop, String.toList_append, ← hlen, List.drop_left]

theorem attachedProfile?_eq_none_iff {a : String} :
    attachedProfile? a = none ↔ ∀ v, a ≠ "--profile=" ++ v := by
  rw [Option.eq_none_iff_forall_ne_some]
  exact forall_congr' fun v => not_congr attachedProfile?_eq_some_iff

theorem attached_ne_bare (v : String) : "--profile=" ++ v ≠ "--profile" := by
  intro h
  have hlen := congrArg (fun s => s.toList.length) h
  simp at hlen

theorem attachedProfile?_bare : attachedProfile? "--profile" = none :=
  attachedProfile?_eq_none_iff.mpr fun v h => attached_ne_bare v h.symm

/-- The lookup of a value accepts exactly the profiles' names, ASCII case ignored. -/
theorem Profile.ofNameCaseless?_eq_some_iff (v : String) (p : Profile) :
    Profile.ofNameCaseless? v = some p ↔ v.toLower = p.name := by
  unfold Profile.ofNameCaseless? Profile.ofName?
  by_cases hb : v.toLower = "build"
  · cases p <;> simp [hb, Profile.name]
  · by_cases hp : v.toLower = "patch"
    · cases p <;> simp [hp, Profile.name]
    · cases p <;> simp [hb, hp, Profile.name]

/-! ## One argument at a time -/

theorem findSome?_cons_or {α β : Type} (f : α → Option β) (a : α) (l : List α) :
    (a :: l).findSome? f = (f a).or (l.findSome? f) := by
  rw [List.findSome?_cons]
  cases f a <;> rfl

/-- A bare `--profile` reads the next argument as its value and goes on after it. -/
theorem sniffArgs_bare (v : String) (rest : List String) :
    sniffArgs ("--profile" :: v :: rest) = (Profile.ofNameCaseless? v).or (sniffArgs rest) := by
  rw [sniffArgs, if_pos rfl]
  cases Profile.ofNameCaseless? v <;> rfl

/-- Any other argument gives at most its attached value and the scan goes on with the next. -/
theorem sniffArgs_cons {a : String} (ha : a ≠ "--profile") (rest : List String) :
    sniffArgs (a :: rest) =
      ((attachedProfile? a).bind Profile.ofNameCaseless?).or (sniffArgs rest) := by
  cases rest with
  | nil => rw [sniffArgs, sniffArgs, Option.or_none]
  | cons b rest =>
    rw [sniffArgs, if_neg ha]
    cases (attachedProfile? a).bind Profile.ofNameCaseless? <;> rfl

/-! ## The whole scan -/

/-- The scan returns the first profile that the option's values name. -/
theorem sniffArgs_of_profileValues {args vs : List String} (h : ProfileValues args vs) :
    sniffArgs args = vs.findSome? Profile.ofNameCaseless? := by
  induction h with
  | nil => rfl
  | last => rw [sniffArgs, attachedProfile?_bare]; rfl
  | separate v _ ih => rw [sniffArgs_bare, ih, findSome?_cons_or]
  | attached v _ ih =>
    rw [sniffArgs_cons (attached_ne_bare v), attachedProfile?_eq_some_iff.mpr rfl,
      Option.bind_some, ih, findSome?_cons_or]
  | other bare notAttached _ ih =>
    rw [sniffArgs_cons bare, attachedProfile?_eq_none_iff.mpr notAttached, ih]
    rfl

/-- An argument other than a bare `--profile` in front of arguments with values `vs`. -/
theorem ProfileValues.cons_of_ne_bare {a : String} (bare : a ≠ "--profile") {rest vs : List String}
    (h : ProfileValues rest vs) : ∃ ws, ProfileValues (a :: rest) ws := by
  cases hv : attachedProfile? a with
  | some v => exact ⟨v :: vs, attachedProfile?_eq_some_iff.mp hv ▸ .attached v h⟩
  | none => exact ⟨vs, .other bare (attachedProfile?_eq_none_iff.mp hv) h⟩

/-- Every list of arguments gives the option some list of values; the recursion follows the
scan's own: a bare `--profile` takes two arguments, any other argument one. -/
theorem ProfileValues.exists : ∀ args : List String, ∃ vs, ProfileValues args vs
  | [] => ⟨[], .nil⟩
  | [a] => by
    by_cases bare : a = "--profile"
    · exact ⟨[], bare ▸ .last⟩
    · exact ProfileValues.cons_of_ne_bare bare .nil
  | a :: b :: rest => by
    by_cases bare : a = "--profile"
    · obtain ⟨vs, h⟩ := ProfileValues.exists rest
      exact ⟨b :: vs, bare ▸ .separate b h⟩
    · obtain ⟨vs, h⟩ := ProfileValues.exists (b :: rest)
      exact ProfileValues.cons_of_ne_bare bare h

/-- The profile a raw command line asks for: its arguments after the program name that are
UTF-8 text give the option a list of values, and the profile is the one that the first value
naming a profile names, or the build profile when none does. -/
theorem sniffCommandLine_eq_first_named (argv : List ByteArray) :
    (∃ vs, ProfileValues ((argv.drop 1).filterMap String.fromUTF8?) vs) ∧
    ∀ vs, ProfileValues ((argv.drop 1).filterMap String.fromUTF8?) vs →
      Profile.sniffCommandLine argv = (vs.findSome? Profile.ofNameCaseless?).getD .build := by
  refine ⟨ProfileValues.exists _, fun vs h => ?_⟩
  rw [Profile.sniffCommandLine, Profile.sniff, sniffArgs_of_profileValues h]

/-- The byte `FF` is no UTF-8 text, so `PATCH` becomes the value of the bare `--profile`, and the
attached `--profile=build` after it is not reached. -/
example :
    Profile.sniffCommandLine
      ["bump".toUTF8, "--profile".toUTF8, ⟨#[0xFF]⟩, "PATCH".toUTF8, "--profile=build".toUTF8] =
      .patch := by
  cbv

end VersionStamp
