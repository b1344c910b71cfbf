import Mathlib
import VersionStamp.Tree

/-! # What replacing a file through a temp file leaves behind, for every tree, path and content and
every answer of the system. -/

namespace VersionStamp

/-! ## Entries -/

section Entries

variable (t : Tree) (key k : String) (n : Node)

theorem lookup_cons_of_ne {l : List (String × Node)} {a : String} (b : Node) (h : k ≠ a) :
    ((a, b) :: l).lookup k = l.lookup k := by
  simp only [List.lookup_cons, beq_eq_false_iff_ne.mpr h]

theorem lookup_map_replace (l : List (String × Node)) :
    (l.map fun e => if e.1 == key then (key, n) else e).lookup k =
      if k = key then (l.lookup key).map fun _ => n else l.lookup k := by
  induction l with
  | nil => simp
  | cons e l ih =>
      obtain ⟨a, b⟩ := e
      rw [List.map_cons]
      by_cases ha : a = key
      · subst ha
        rw [if_pos (beq_self_eq_true a)]
        by_cases hk : k = a
        · subst hk
          simp only [List.lookup_cons_self, if_true, Option.map_some]
        · rw [lookup_cons_of_ne k n hk, lookup_cons_of_ne k b hk, ih, if_neg hk, if_neg hk]
      · rw [if_neg (by
          simp only [beq_eq_false_iff_ne.mpr ha, Bool.false_eq_true, not_false_eq_true])]
        by_cases hk : k = key
        · subst hk
          rw [lookup_cons_of_ne k b (Ne.symm ha), lookup_cons_of_ne k b (Ne.symm ha), ih]
        · by_cases hka : k = a
          · subst hka
            simp only [List.lookup_cons_self, if_neg hk]
          · rw [lookup_cons_of_ne k b hka, lookup_cons_of_ne k b hka, ih, if_neg hk, if_neg hk]

@[simp] theorem Tree.lookup_set :
    (t.set key n).entries.lookup k = if k = key then some n else t.entries.lookup k := by
  unfold Tree.set
  split
  · -- the entry at `key` is replaced where it stands
    rename_i hany
    obtain ⟨e, he, hkey⟩ := List.any_eq_true.mp hany
    have hsome : t.entries.lookup key ≠ none := by
      rw [ne_eq, List.lookup_eq_none_iff]
      intro hall
      have := hall e he
      simp only [bne_iff_ne, ne_eq] at this
      exact this (beq_iff_eq.mp hkey).symm
    rw [lookup_map_replace]
    split
    · obtain ⟨b, hb⟩ := Option.ne_none_iff_exists'.mp hsome
      rw [hb, Option.map_some]
    · rfl
  · -- no entry has the key: it is added after all others
    rename_i hany
    have hnone : t.entries.lookup key = none := by
      rw [List.lookup_eq_none_iff]
      intro e he
      have := List.any_eq_false.mp (Bool.eq_false_iff.mpr hany) e he
      simp only [beq_iff_eq] at this
      simp only [bne_iff_ne, ne_eq]
      exact fun h => this h.symm
    rw [List.lookup_append]
    split
    · rename_i hk
      subst hk
      simp [hnone]
    · rename_i hk
      rw [lookup_cons_of_ne k n hk, List.lookup_nil, Option.or_none]

@[simp] theorem Tree.lookup_remove :
    (t.remove key).entries.lookup k = if k = key then none else t.entries.lookup k := by
  unfold Tree.remove
  induction t.entries with
  | nil => simp
  | cons e l ih =>
      obtain ⟨a, b⟩ := e
      by_cases ha : a = key
      · subst ha
        have hdrop : ((a, b) :: l).filter (·.1 != a) = l.filter (·.1 != a) := by
          simp
        rw [hdrop, ih]
        by_cases hk : k = a
        · rw [if_pos hk, if_pos hk]
        · rw [if_neg hk, if_neg hk, lookup_cons_of_ne k b hk]
      · have hkeep : ((a, b) :: l).filter (·.1 != key) = (a, b) :: l.filter (·.1 != key) := by
          simp [ha]
        rw [hkeep]
        by_cases hka : k = a
        · subst hka
          simp only [List.lookup_cons_self, if_neg ha]
        · rw [lookup_cons_of_ne k b hka, lookup_cons_of_ne k b hka, ih]

theorem filter_map_replace (l : List (String × Node)) :
    (l.map fun e => if e.1 == key then (key, n) else e).filter (·.1 != key) =
      l.filter (·.1 != key) := by
  induction l with
  | nil => rfl
  | cons e l ih =>
      by_cases he : e.1 = key
      · obtain ⟨a, b⟩ := e
        dsimp only at he
        subst he
        simp only [List.map_cons, beq_self_eq_true, ↓reduceIte, List.filter_cons,
          bne_self_eq_false, Bool.false_eq_true, ih]
      · have hb : (e.1 == key) = false := beq_eq_false_iff_ne.mpr he
        have hb' : (e.1 != key) = true := bne_iff_ne.mpr he
        simp only [List.map_cons, hb, Bool.false_eq_true, if_false, List.filter_cons, hb', if_true,
          ih]

/-- Setting an entry and removing it again is removing it. -/
theorem Tree.remove_set : (t.set key n).remove key = t.remove key := by
  unfold Tree.set Tree.remove
  split
  · exact congrArg Tree.mk (filter_map_replace key n t.entries)
  · simp

/-- Removing an entry that is not there changes nothing. -/
theorem Tree.remove_of_lookup_eq_none (h : t.entries.lookup key = none) : t.remove key = t := by
  unfold Tree.remove
  congr 1
  rw [List.filter_eq_self]
  intro e he
  have := List.lookup_eq_none_iff.mp h e he
  simp only [bne_iff_ne, ne_eq] at this ⊢
  exact fun h => this h.symm

end Entries

/-! ## A walk sees the kinds of the entries only -/

/-- What a walk sees of an entry: a directory, a link with its target, or a file whatever its
bytes and bits. -/
def Node.shape : Node → Node
  | .file _ _ => .file [] 0
  | n => n

theorem map_shape_eq_file_iff {o : Option Node} :
    o.map Node.shape = some (.file [] 0) ↔ ∃ content mode, o = some (.file content mode) := by
  constructor
  · intro h
    obtain ⟨n, hn, hshape⟩ := Option.map_eq_some_iff.mp h
    cases n with
    | file content mode => exact ⟨content, mode, hn⟩
    | dir => cases hshape
    | link target => cases hshape
  · rintro ⟨content, mode, rfl⟩
    rfl

theorem Tree.nodeAt_child_of_childOf {t : Tree} {p q : Place} {c : String} {n : Node}
    (h : t.childOf p c = some (q, n)) : t.nodeAt (p.child c) = some n ∧ q = p.child c := by
  obtain ⟨m, hm, hpair⟩ := Option.map_eq_some_iff.mp h
  cases hpair
  exact ⟨hm, rfl⟩

/-- One step of a walk, told by what it sees: whether it stands on a file, and the shape of the
entry it goes to next. -/
theorem Tree.walk_cons (t : Tree) (fuel : Nat) (p : Place) (c : String) (rest : List String) :
    t.walk fuel p (c :: rest) =
      if (t.nodeAt p).map Node.shape = some (.file [] 0) then .error .notDirectory
      else if c = "" ∨ c = "." then t.walk fuel p rest
      else if c = ".." then t.walk fuel p.parent rest
      else if nameLimit < c.utf8ByteSize then .error .nameTooLong
      else
        match (t.nodeAt (p.child c)).map Node.shape with
        | none => .error .noEntry
        | some (.link target) =>
          match fuel with
          | 0 => .error .linkLoop
          | fuel + 1 =>
            let (absolute, cs) := startOf target
            match t.walk fuel (if absolute then .outside [] else p) cs with
            | .error e => .error e
            | .ok (r, left) => t.walk (min left fuel) r rest
        | some _ => t.walk fuel (p.child c) rest := by
  rw [Tree.walk]
  unfold Tree.childOf
  rcases t.nodeAt p with _ | ⟨_ | _ | _⟩ <;>
    rcases t.nodeAt (p.child c) with _ | ⟨_ | _ | _⟩ <;> rfl

theorem Tree.map_shape_child_of_childOf {t : Tree} {p q : Place} {c : String} {n : Node}
    (h : t.childOf p c = some (q, n)) : (t.nodeAt (p.child c)).map Node.shape = some n.shape := by
  rw [(Tree.nodeAt_child_of_childOf h).1, Option.map_some]

theorem Tree.map_shape_child_of_childOf_none {t : Tree} {p : Place} {c : String}
    (h : t.childOf p c = none) : (t.nodeAt (p.child c)).map Node.shape = none := by
  unfold Tree.childOf at h
  rw [Option.map_eq_none_iff] at h
  rw [h, Option.map_none]

theorem map_shape_ne_file {o : Option Node}
    (h : ∀ content mode, o = some (.file content mode) → False) :
    o.map Node.shape ≠ some (.file [] 0) := fun e => by
  obtain ⟨content, mode, hc⟩ := map_shape_eq_file_iff.mp e
  exact h content mode hc

section Congr

variable {t t' : Tree} (h : ∀ q, (t.nodeAt q).map Node.shape = (t'.nodeAt q).map Node.shape)
include h

/-- Two trees whose entries have the same shapes, place by place, resolve alike: the walk on one
tree goes by its own cases, and each step of the walk on the other sees the same shapes. -/
theorem Tree.walk_congr (fuel : Nat) (p : Place) (cs : List String) :
    t.walk fuel p cs = t'.walk fuel p cs := by
  induction fuel, p, cs using Tree.walk.induct t with
  | case1 fuel p => rw [Tree.walk.eq_1, Tree.walk.eq_1]
  | case2 fuel p c rest content mode hfile =>
      have hf : (t.nodeAt p).map Node.shape = some (.file [] 0) :=
        map_shape_eq_file_iff.mpr ⟨content, mode, hfile⟩
      rw [Tree.walk_cons, Tree.walk_cons, ← h p, if_pos hf, if_pos hf]
  | case3 fuel p c rest hdot hnf ih =>
      simp only [Tree.walk_cons, ← h p, map_shape_ne_file hnf, hdot, ↓reduceIte, ih]
  | case4 fuel p rest hnf hdot ih =>
      simp only [Tree.walk_cons, ← h p, map_shape_ne_file hnf, hdot, ↓reduceIte, ih]
  | case5 fuel p c rest hdot hdotdot hlong hnf =>
      simp only [Tree.walk_cons, ← h p, map_shape_ne_file hnf, hdot, hdotdot, hlong, ↓reduceIte]
  | case6 fuel p c rest hdot hdotdot hlong hnone hnf =>
      simp only [Tree.walk_cons, ← h p, ← h (p.child c), map_shape_ne_file hnf, hdot, hdotdot,
        hlong, ↓reduceIte, Tree.map_shape_child_of_childOf_none hnone]
  | case7 p c rest hdot hdotdot hlong q target hlink hnf =>
      simp only [Tree.walk_cons, ← h p, ← h (p.child c), map_shape_ne_file hnf, hdot, hdotdot,
        hlong, ↓reduceIte, Tree.map_shape_child_of_childOf hlink, Node.shape]
  | case8 p c rest hdot hdotdot hlong q target hlink fuel absolute cs hstart e herr hnf ih =>
      simp only [dite_eq_ite] at ih herr
      simp only [Tree.walk_cons, ← h p, ← h (p.child c), map_shape_ne_file hnf, hdot, hdotdot,
        hlong, ↓reduceIte, Tree.map_shape_child_of_childOf hlink, Node.shape, hstart]
      rw [← ih, herr]
  | case9 p c rest hdot hdotdot hlong q target hlink fuel absolute cs hstart r left hok hnf ih
      ih' =>
      simp only [dite_eq_ite] at ih hok
      simp only [Tree.walk_cons, ← h p, ← h (p.child c), map_shape_ne_file hnf, hdot, hdotdot,
        hlong, ↓reduceIte, Tree.map_shape_child_of_childOf hlink, Node.shape, hstart]
      rw [← ih, hok]
      exact ih'
  | case10 fuel p c rest hdot hdotdot hlong q n hnlink hchild hnf ih =>
      have hshape := Tree.map_shape_child_of_childOf hchild
      obtain ⟨-, rfl⟩ := Tree.nodeAt_child_of_childOf hchild
      cases n with
      | link target => exact absurd rfl (hnlink target)
      | file content mode =>
          simp only [Tree.walk_cons, ← h p, ← h (p.child c), map_shape_ne_file hnf, hdot,
            hdotdot, hlong, ↓reduceIte, hshape, Node.shape, ih]
      | dir =>
          simp only [Tree.walk_cons, ← h p, ← h (p.child c), map_shape_ne_file hnf, hdot,
            hdotdot, hlong, ↓reduceIte, hshape, Node.shape, ih]

theorem Tree.resolve_congr (path : String) : t.resolve path = t'.resolve path := by
  unfold Tree.resolve
  simp only [Tree.walk_congr h]

end Congr

/-- Other bytes and bits for a file leave every entry its shape. -/
theorem Tree.map_shape_set_file {t : Tree} {key : String} {content : List UInt8} {mode : Nat}
    (hkey : t.entries.lookup key = some (.file content mode)) (content' : List UInt8) (mode' : Nat)
    (q : Place) :
    (t.nodeAt q).map Node.shape = ((t.set key (.file content' mode')).nodeAt q).map Node.shape := by
  cases q with
  | inside cs =>
      cases cs with
      | nil => rfl
      | cons x xs =>
          by_cases hq : "/".intercalate (x :: xs) = key
          · simp only [Tree.nodeAt, Tree.lookup_set, hq, hkey, ↓reduceIte, Option.map_some,
              Node.shape]
          · simp only [Tree.nodeAt, Tree.lookup_set, if_neg hq]
  | outside cs => rfl

/-! ## The steps of a replacement -/

/-- The entry at a place inside the tree, other than the working directory, is the one under its
key. -/
theorem Tree.nodeAt_child_eq_lookup (t : Tree) {q : Place} {name k : String}
    (hk : (q.child name).key = some k) : t.nodeAt (q.child name) = t.entries.lookup k := by
  cases q with
  | inside cs =>
      simp only [Place.child, Place.key, Option.some.injEq] at hk
      subst hk
      cases hcs : cs ++ [name] with
      | nil => exact absurd hcs (List.append_ne_nil_of_right_ne_nil cs (List.cons_ne_nil name []))
      | cons y ys => simp only [Place.child, hcs, Tree.nodeAt]
  | outside cs => cases hk

/-- The path leads, through its links, to a file of the tree at `key`, with permission bits
`mode`, that the system lets a writer open. -/
structure OpensForWriting (t : Tree) (sys : WriteSystem) (path : String) (p : Place) (key : String)
    (mode : Nat) : Prop where
  resolves : t.resolve path = .ok p
  key_eq : p.key = some key
  file : ∃ content, t.nodeAt p = some (.file content mode)
  opens : sys.openFault = none

/-- The temp file beside the file at `p` can be made, at `tmpKey`: no entry has its name, and
the system lets it be created. -/
structure TempFree (t : Tree) (sys : WriteSystem) (p : Place) (tmpKey : String) : Prop where
  key_eq : (p.parent.child sys.tempName).key = some tmpKey
  free : t.nodeAt (p.parent.child sys.tempName) = none
  creates : sys.createFault = none

section Steps

variable {t : Tree} {sys : WriteSystem} {path : String} {p : Place} {key tmpKey : String}
  {mode : Nat} (data : List UInt8)

theorem OpensForWriting.ne_root (h : OpensForWriting t sys path p key mode) :
    p ≠ .outside [] := by
  intro hp
  have := h.key_eq
  rw [hp] at this
  cases this

theorem OpensForWriting.lookup_key (h : OpensForWriting t sys path p key mode) :
    ∃ content, t.entries.lookup key = some (.file content mode) := by
  obtain ⟨content, hc⟩ := h.file
  refine ⟨content, ?_⟩
  have hk := h.key_eq
  cases p with
  | inside cs =>
      simp only [Place.key, Option.some.injEq] at hk
      subst hk
      cases cs with
      | nil => simp [Tree.nodeAt] at hc
      | cons x xs => exact hc
  | outside cs => cases hk

theorem TempFree.lookup_eq_none (h : TempFree t sys p tmpKey) : t.entries.lookup tmpKey = none := by
  rw [← Tree.nodeAt_child_eq_lookup t h.key_eq]
  exact h.free

/-- A replacement whose file opens and whose temp file can be made goes through the temp file. -/
theorem writeAtomically_of_tempFree (ho : OpensForWriting t sys path p key mode)
    (ht : TempFree t sys p tmpKey) :
    t.writeAtomically sys path data = t.writeThroughTemp sys key tmpKey mode data := by
  obtain ⟨content, hfile⟩ := ho.file
  unfold Tree.writeAtomically
  rw [ho.resolves]
  simp only [if_neg ho.ne_root, hfile, ho.key_eq, ho.opens, ht.key_eq, ht.free, ht.creates]

/-- A replacement whose path leads to no file that opens for writing fails and leaves the tree. -/
theorem writeAtomically_of_not_opens
    (h : ∀ p key mode, ¬ OpensForWriting t sys path p key mode) :
    (t.writeAtomically sys path data).tree = t ∧
      ∃ fault, (t.writeAtomically sys path data).result = .error fault := by
  unfold Tree.writeAtomically
  cases hres : t.resolve path with
  | error fault => exact ⟨rfl, fault, rfl⟩
  | ok p =>
      dsimp only
      by_cases hroot : p = .outside []
      · rw [if_pos hroot]
        exact ⟨rfl, _, rfl⟩
      · rw [if_neg hroot]
        split
        · rename_i content mode key hnode hkey
          cases hopen : sys.openFault with
          | some fault => exact ⟨rfl, fault, rfl⟩
          | none => exact absurd ⟨hres, hkey, ⟨_, hnode⟩, hopen⟩ (h p key mode)
        · exact ⟨rfl, _, rfl⟩
        · exact ⟨rfl, _, rfl⟩

/-- A write through the temp file that succeeds leaves the temp file renamed over the file. -/
theorem writeThroughTemp_tree_of_ok
    (hr : (t.writeThroughTemp sys key tmpKey mode data).result = .ok ()) :
    (t.writeThroughTemp sys key tmpKey mode data).tree =
      (t.remove tmpKey).set key (.file data mode) := by
  unfold Tree.writeThroughTemp at hr ⊢
  rcases hw : sys.writeFault with _ | ⟨n, fault⟩ <;>
    rcases hc : sys.chmodFault with _ | fault' <;>
    rcases hn : sys.renameFault with _ | fault'' <;>
    simp only [hw, hc, hn, reduceCtorEq] at hr ⊢
  rw [Tree.remove_set, Tree.remove_set, Tree.remove_set]

/-- A write through the temp file that fails, with a temp file that can be removed, leaves no
temp file and nothing else changed. -/
theorem writeThroughTemp_tree_of_error {fault : IoFault} (hrem : sys.removes = true)
    (hr : (t.writeThroughTemp sys key tmpKey mode data).result = .error fault) :
    (t.writeThroughTemp sys key tmpKey mode data).tree = t.remove tmpKey := by
  unfold Tree.writeThroughTemp at hr ⊢
  rcases hw : sys.writeFault with _ | ⟨n, fault⟩ <;>
    rcases hc : sys.chmodFault with _ | fault' <;>
    rcases hn : sys.renameFault with _ | fault'' <;>
    simp only [hw, hc, hn, hrem, reduceCtorEq, if_true] at hr ⊢ <;>
    simp only [Tree.remove_set]

/-- A write in place that succeeds leaves the file with the new bytes. -/
theorem Tree.overwrite_tree_of_ok (hr : (t.overwrite sys key mode data).result = .ok ()) :
    (t.overwrite sys key mode data).tree = t.set key (.file data mode) := by
  unfold Tree.overwrite at hr ⊢
  rcases hw : sys.writeFault with _ | ⟨n, fault⟩ <;>
    rcases hs : sys.syncFault with _ | fault' <;>
    simp only [hw, hs, reduceCtorEq] at hr ⊢

/-- A replacement whose file opens but whose temp file cannot be made writes in place. -/
theorem writeAtomically_of_not_tempFree (ho : OpensForWriting t sys path p key mode)
    (ht : ∀ tmpKey, ¬ TempFree t sys p tmpKey) :
    t.writeAtomically sys path data = t.overwrite sys key mode data := by
  obtain ⟨content, hfile⟩ := ho.file
  unfold Tree.writeAtomically
  rw [ho.resolves]
  simp only [if_neg ho.ne_root, hfile, ho.key_eq, ho.opens]
  split
  · rename_i tmpKey hkey hfree hcreate
    exact absurd ⟨hkey, hfree, hcreate⟩ (ht tmpKey)
  · rfl

/-- A replacement that succeeds found a file that opens for writing, and left the tree with that
file's bytes replaced and its permission bits kept, whether through the temp file or in place. -/
theorem writeAtomically_tree_of_ok (hr : (t.writeAtomically sys path data).result = .ok ()) :
    ∃ p key mode, OpensForWriting t sys path p key mode ∧
      (t.writeAtomically sys path data).tree = t.set key (.file data mode) := by
  by_cases hopens : ∃ p key mode, OpensForWriting t sys path p key mode
  · obtain ⟨p, key, mode, ho⟩ := hopens
    refine ⟨p, key, mode, ho, ?_⟩
    by_cases htemp : ∃ tmpKey, TempFree t sys p tmpKey
    · obtain ⟨tmpKey, ht⟩ := htemp
      rw [writeAtomically_of_tempFree data ho ht] at hr ⊢
      rw [writeThroughTemp_tree_of_ok data hr, Tree.remove_of_lookup_eq_none _ _ ht.lookup_eq_none]
    · rw [writeAtomically_of_not_tempFree data ho (not_exists.mp htemp)] at hr ⊢
      exact Tree.overwrite_tree_of_ok data hr
  · obtain ⟨-, fault, hfault⟩ := writeAtomically_of_not_opens data (by simpa using hopens)
    rw [hfault] at hr
    cases hr

end Steps

/-! ## What a replacement leaves -/

/-- What replacing the file that `path` leads to leaves behind, for every tree, path and content
and every answer of the system. Unless the path leads, through its links, to a file of the tree
that opens for writing, the replacement fails and the tree is as it was. When the file opens and
its temp file can be made, a success leaves the file with exactly the new bytes and its old
permission bits, every other entry as it was (each link among them), no temp file, and the path
leading to the same file; a failure leaves the tree exactly as it was, when the temp file can be
removed. -/
theorem writeAtomically_replaces_only_the_file (t : Tree) (sys : WriteSystem) (path : String)
    (data : List UInt8) :
    ((∀ p key mode, ¬ OpensForWriting t sys path p key mode) →
      (t.writeAtomically sys path data).tree = t ∧
        ∃ fault, (t.writeAtomically sys path data).result = .error fault) ∧
    (∀ p key mode tmpKey, OpensForWriting t sys path p key mode → TempFree t sys p tmpKey →
      ((t.writeAtomically sys path data).result = .ok () →
        (t.writeAtomically sys path data).tree.entries.lookup key = some (.file data mode) ∧
        (∀ k, k ≠ key →
          (t.writeAtomically sys path data).tree.entries.lookup k = t.entries.lookup k) ∧
        (t.writeAtomically sys path data).tree.nodeAt (p.parent.child sys.tempName) = none ∧
        (t.writeAtomically sys path data).tree.resolve path = .ok p) ∧
      (∀ fault, (t.writeAtomically sys path data).result = .error fault → sys.removes = true →
        (t.writeAtomically sys path data).tree = t)) := by
  refine ⟨writeAtomically_of_not_opens data,
    fun p key mode tmpKey ho ht => ⟨fun hok => ?_, fun fault herr hrem => ?_⟩⟩
  · rw [writeAtomically_of_tempFree data ho ht] at hok ⊢
    rw [writeThroughTemp_tree_of_ok data hok, Tree.remove_of_lookup_eq_none _ _ ht.lookup_eq_none]
    obtain ⟨content, hkey⟩ := ho.lookup_key
    have hne : tmpKey ≠ key := by
      intro e
      have hnone := ht.lookup_eq_none
      rw [e, hkey] at hnone
      cases hnone
    refine ⟨by simp, fun k hk => by simp [hk], ?_, ?_⟩
    · rw [Tree.nodeAt_child_eq_lookup _ ht.key_eq, Tree.lookup_set, if_neg hne, ht.lookup_eq_none]
    · rw [← Tree.resolve_congr (Tree.map_shape_set_file hkey data mode), ho.resolves]
  · rw [writeAtomically_of_tempFree data ho ht] at herr ⊢
    rw [writeThroughTemp_tree_of_error data hrem herr,
      Tree.remove_of_lookup_eq_none _ _ ht.lookup_eq_none]

end VersionStamp
