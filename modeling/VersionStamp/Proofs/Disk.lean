import Mathlib
import VersionStamp.Proofs.Writer
import VersionStamp.Proofs.Program

/-! # What a finished bump leaves on a disk: the file that its path leads to holds the bumped
bytes with its old permission bits, and nothing else has changed. -/

namespace VersionStamp

variable {d d' : Disk} {path : FilePath} {text : String} {content : List UInt8}

theorem Disk.read_of_text (htext : path.text? = some text) : d.read path = d.tree.read text := by
  simp only [Disk.read, htext]

theorem Disk.replace_of_text (htext : path.text? = some text) :
    d.replace path content =
      ((d.tree.writeAtomically d.system text content).result.map fun _ =>
        { d with tree := (d.tree.writeAtomically d.system text content).tree }) := by
  simp only [Disk.replace, htext]

/-- A path that is not UTF-8 leads to no file, for reading or for writing. -/
theorem Disk.read_of_untext (htext : path.text? = none) :
    d.read path = .error (d.tree.untextFault path) := by
  simp only [Disk.read, htext]

theorem Disk.replace_of_untext (htext : path.text? = none) :
    d.replace path content = .error (d.tree.untextFault path) := by
  simp only [Disk.replace, htext]

/-- A read that succeeds found a file, through the path's links, and gave its bytes. -/
theorem Tree.read_eq_ok {t : Tree} (h : t.read text = .ok content) :
    ∃ p mode, t.resolve text = .ok p ∧ t.nodeAt p = some (.file content mode) := by
  unfold Tree.read at h
  cases hres : t.resolve text with
  | error fault => simp only [hres] at h; cases h
  | ok p =>
      simp only [hres, bind, Except.bind] at h
      split at h
      · rename_i c mode hnode
        cases h
        exact ⟨p, mode, rfl, hnode⟩
      · cases h
      · cases h

theorem Disk.read_eq_ok (h : d.read path = .ok content) :
    ∃ text p mode, path.text? = some text ∧ d.tree.resolve text = .ok p ∧
      d.tree.nodeAt p = some (.file content mode) := by
  cases htext : path.text? with
  | none => rw [Disk.read_of_untext htext] at h; cases h
  | some text =>
      rw [Disk.read_of_text htext] at h
      obtain ⟨p, mode, hres, hnode⟩ := Tree.read_eq_ok h
      exact ⟨text, p, mode, rfl, hres, hnode⟩

theorem Disk.replace_eq_ok (h : d.replace path content = .ok d') :
    ∃ text p key mode, path.text? = some text ∧ OpensForWriting d.tree d.system text p key mode ∧
      d' = { d with tree := d.tree.set key (.file content mode) } := by
  cases htext : path.text? with
  | none => rw [Disk.replace_of_untext htext] at h; cases h
  | some text =>
      rw [Disk.replace_of_text htext] at h
      cases hr : (d.tree.writeAtomically d.system text content).result with
      | error fault => rw [hr] at h; cases h
      | ok u =>
          obtain ⟨p, key, mode, ho, htree⟩ := writeAtomically_tree_of_ok content hr
          rw [hr] at h
          cases h
          exact ⟨text, p, key, mode, rfl, ho, by rw [htree]⟩

/-- The file that a read of a path found is the one that a replacement of the same path opens. -/
theorem OpensForWriting.same_file {t : Tree} {sys : WriteSystem} {p p' : Place} {key : String}
    {mode mode' : Nat} (ho : OpensForWriting t sys text p' key mode')
    (hres : t.resolve text = .ok p) (hnode : t.nodeAt p = some (.file content mode)) : p' = p ∧ mode' = mode := by
  have hplace : p' = p := Except.ok.inj (ho.resolves.symm.trans hres)
  subst hplace
  obtain ⟨content', hnode'⟩ := ho.file
  rw [hnode] at hnode'
  cases hnode'
  exact ⟨rfl, rfl⟩

variable {inv : Invocation} {parsed : Command.Parsed} {cfg : Config} {o : Outcome}

/-- A bump on a disk that went through and was no dry run replaced the file that it read, with the
bumped bytes of what it read and the file's permission bits, and changed nothing else. -/
theorem Invocation.store_run_of_written (h : Command.parse inv.args = .ok parsed)
    (hc : Config.ofParsed parsed = .ok cfg) (hd : parsed.dryRun = false)
    (hok : (cfg.request.run d).result = .ok o) :
    ∃ text p key mode content b, OpensForWriting d.tree d.system text p key mode ∧
      cfg.path.text? = some text ∧ d.tree.nodeAt p = some (.file content mode) ∧
      cfg.rule.apply content = .ok b ∧
      (inv.run d).store = { d with tree := d.tree.set key (.file b.content mode) } := by
  have hdry : cfg.request.dryRun = false := (Config.ofParsed_eq_ok hc).2.2.trans hd
  obtain ⟨content, b, d', hread, hb, hw, hstore⟩ := cfg.request.written_of_run_ok d hok hdry
  obtain ⟨text, p, mode, htext, hres, hnode⟩ := Disk.read_eq_ok hread
  obtain ⟨text', p', key, mode', htext', ho, rfl⟩ := Disk.replace_eq_ok hw
  have htexts : text' = text := Option.some.inj (htext'.symm.trans htext)
  rw [htexts] at ho
  obtain ⟨rfl, rfl⟩ := ho.same_file hres hnode
  refine ⟨text, p', key, mode', content, b, ho, htext, hnode, hb, ?_⟩
  rw [Invocation.store_run_of_config_ok h hc, hstore]

/-- What a bump on a disk that went through, and was no dry run, leaves. The path is UTF-8 and
leads, through its links, to a file of the tree that opened for writing; that file now holds the
bumped bytes of what was read from it, with its old permission bits. Every other entry, each link
among them, is as it was, the system is unchanged, and the path still leads to the file. -/
theorem Invocation.run_changes_only_the_file (h : Command.parse inv.args = .ok parsed)
    (hc : Config.ofParsed parsed = .ok cfg) (hd : parsed.dryRun = false)
    (hok : (cfg.request.run d).result = .ok o) :
    ∃ text p key mode content b, cfg.path.text? = some text ∧ d.tree.resolve text = .ok p ∧
      p.key = some key ∧ d.tree.nodeAt p = some (.file content mode) ∧
      cfg.rule.apply content = .ok b ∧
      (inv.run d).store.tree.entries.lookup key = some (.file b.content mode) ∧
      (∀ k, k ≠ key → (inv.run d).store.tree.entries.lookup k = d.tree.entries.lookup k) ∧
      (inv.run d).store.system = d.system ∧
      (inv.run d).store.tree.resolve text = .ok p := by
  obtain ⟨text, p, key, mode, content, b, ho, htext, hnode, hb, hstore⟩ :=
    Invocation.store_run_of_written h hc hd hok
  obtain ⟨content', hkey⟩ := ho.lookup_key
  refine ⟨text, p, key, mode, content, b, htext, ho.resolves, ho.key_eq, hnode, hb, ?_, ?_, ?_, ?_⟩
  · simp [hstore]
  · intro k hk
    simp [hstore, hk]
  · rw [hstore]
  · rw [hstore, ← Tree.resolve_congr (Tree.map_shape_set_file hkey b.content mode), ho.resolves]

end VersionStamp
