import Mathlib
import VersionStamp.Store

/-! # What a bump does to its store: one lemma for each of the five ways a run goes, and a failed
run leaves the store as it was. -/

namespace VersionStamp

variable {σ α : Type} [FileStore σ]

/-! ## Running a program against a store -/

section Exec

variable (s : σ) (path : FilePath)

@[simp] theorem StoreProgram.exec_done (a : α) : (StoreProgram.done a).exec s = ⟨a, s, []⟩ := rfl

@[simp] theorem StoreProgram.exec_read (next : Except IoFault (List UInt8) → StoreProgram α) :
    (StoreProgram.read path next).exec s =
      ⟨((next (FileStore.read s path)).exec s).value, ((next (FileStore.read s path)).exec s).store,
        .read path :: ((next (FileStore.read s path)).exec s).calls⟩ := rfl

variable {content : List UInt8} {next : Except IoFault Unit → StoreProgram α}

/-- A replacement the store accepts goes on in the store it gave. -/
theorem StoreProgram.exec_replace_ok {s' : σ} (h : FileStore.replace s path content = .ok s') :
    (StoreProgram.replace path content next).exec s =
      ⟨((next (.ok ())).exec s').value, ((next (.ok ())).exec s').store,
        .replace path content :: ((next (.ok ())).exec s').calls⟩ := by
  simp only [StoreProgram.exec, h]

/-- A replacement the store refuses goes on in the store as it was. -/
theorem StoreProgram.exec_replace_error {fault : IoFault}
    (h : FileStore.replace s path content = .error fault) :
    (StoreProgram.replace path content next).exec s =
      ⟨((next (.error fault)).exec s).value, ((next (.error fault)).exec s).store,
        .replace path content :: ((next (.error fault)).exec s).calls⟩ := by
  simp only [StoreProgram.exec, h]

end Exec

/-! ## The five ways a run goes -/

section Branches

variable {req : Request} {s : σ} {content : List UInt8} {b : Bump}

theorem Request.run_of_read_error {fault : IoFault} (h : FileStore.read s req.path = .error fault) :
    req.run s = ⟨s, .error (.of (.store (.read req.path fault))), [], [.read req.path]⟩ := by
  simp only [Request.run, Request.program, StoreProgram.exec_read, h, StoreProgram.exec_done]

theorem Request.run_of_apply_error {e : DomainError} (h : FileStore.read s req.path = .ok content)
    (he : req.rule.apply content = .error e) :
    req.run s = ⟨s, .error ((Failure.of (.domain e)).within req.path.display),
      [.read req.path content.length], [.read req.path]⟩ := by
  simp only [Request.run, Request.program, StoreProgram.exec_read, h, he, StoreProgram.exec_done]

/-- The notes of a run that bumped: the read, and where the declaration stands. -/
def Request.bumpNotes (req : Request) (content : List UInt8) (b : Bump) : List Note :=
  [.read req.path content.length,
    .located req.rule.name.text b.declaration.start b.declaration.stop req.path]

variable (h : FileStore.read s req.path = .ok content) (hb : req.rule.apply content = .ok b)
include h hb

theorem Request.run_of_dryRun (hd : req.dryRun = true) :
    req.run s = ⟨s, .ok ⟨req.path, req.rule.name.text, b.previous, b.next, false⟩,
      req.bumpNotes content b ++ [.untouched req.path], [.read req.path]⟩ := by
  simp only [Request.run, Request.program, StoreProgram.exec_read, h, hb, hd, ↓reduceIte,
    StoreProgram.exec_done, Request.bumpNotes, List.cons_append, List.nil_append]

theorem Request.run_of_replace_error {fault : IoFault} (hd : req.dryRun = false)
    (hw : FileStore.replace s req.path b.content = .error fault) :
    req.run s = ⟨s, .error (.of (.store (.write req.path fault))), req.bumpNotes content b,
      [.read req.path, .replace req.path b.content]⟩ := by
  simp only [Request.run, Request.program, StoreProgram.exec_read, h, hb, hd, Bool.false_eq_true,
    ↓reduceIte, StoreProgram.exec_replace_error _ _ hw, StoreProgram.exec_done, Request.bumpNotes]

theorem Request.run_of_replace_ok {s' : σ} (hd : req.dryRun = false)
    (hw : FileStore.replace s req.path b.content = .ok s') :
    req.run s = ⟨s', .ok ⟨req.path, req.rule.name.text, b.previous, b.next, true⟩,
      req.bumpNotes content b ++ [.wrote req.path b.content.length],
      [.read req.path, .replace req.path b.content]⟩ := by
  simp only [Request.run, Request.program, StoreProgram.exec_read, h, hb, hd, Bool.false_eq_true,
    ↓reduceIte, StoreProgram.exec_replace_ok _ _ hw, StoreProgram.exec_done, Request.bumpNotes,
    List.cons_append, List.nil_append]

end Branches

/-- Whatever fails, a failed run leaves the store as it was: a refused write changes nothing,
and no write is made before the rule has bumped. -/
theorem Request.store_run_of_error (req : Request) (s : σ) {f : Failure}
    (hf : (req.run s).result = .error f) : (req.run s).store = s := by
  cases h : FileStore.read s req.path with
  | error fault => rw [Request.run_of_read_error h]
  | ok content =>
      cases hb : req.rule.apply content with
      | error e => rw [Request.run_of_apply_error h hb]
      | ok b =>
          cases hd : req.dryRun with
          | true => rw [Request.run_of_dryRun h hb hd]
          | false =>
              cases hw : FileStore.replace s req.path b.content with
              | error fault => rw [Request.run_of_replace_error h hb hd hw]
              | ok s' => rw [Request.run_of_replace_ok h hb hd hw] at hf; cases hf

/-- A dry run leaves the store as it was, whatever it reports. -/
theorem Request.store_run_of_dryRun (req : Request) (s : σ) (hd : req.dryRun = true) :
    (req.run s).store = s := by
  cases h : FileStore.read s req.path with
  | error fault => rw [Request.run_of_read_error h]
  | ok content =>
      cases hb : req.rule.apply content with
      | error e => rw [Request.run_of_apply_error h hb]
      | ok b => rw [Request.run_of_dryRun h hb hd]

/-- A run that reports a bump and is no dry run read the file, bumped it and had the bumped bytes
accepted; it leaves the store that the replacement gave. -/
theorem Request.written_of_run_ok (req : Request) (s : σ) {o : Outcome}
    (hok : (req.run s).result = .ok o) (hd : req.dryRun = false) :
    ∃ content b s', FileStore.read s req.path = .ok content ∧ req.rule.apply content = .ok b ∧
      FileStore.replace s req.path b.content = .ok s' ∧ (req.run s).store = s' := by
  cases h : FileStore.read s req.path with
  | error fault => rw [Request.run_of_read_error h] at hok; cases hok
  | ok content =>
      cases hb : req.rule.apply content with
      | error e => rw [Request.run_of_apply_error h hb] at hok; cases hok
      | ok b =>
          cases hw : FileStore.replace s req.path b.content with
          | error fault => rw [Request.run_of_replace_error h hb hd hw] at hok; cases hok
          | ok s' =>
              exact ⟨content, b, s', rfl, hb, hw, by rw [Request.run_of_replace_ok h hb hd hw]⟩

/-- What a bump request does to every store. It reads the file once. If the read is refused,
that refusal is the failure, as it is. Otherwise the rule's failure is the failure, inside the
path as its one context. Otherwise a dry run reports the bump and writes nothing. Otherwise the
file is replaced by exactly the bumped bytes: a refused write is the failure, as it is, and an
accepted one leaves the store the write gave and reports the bump as written. A failed run
leaves the store as it was. -/
theorem run_writes_only_a_bump (req : Request) (s : σ) :
    (∀ fault, FileStore.read s req.path = .error fault →
      (req.run s).store = s ∧ (req.run s).result = .error (.of (.store (.read req.path fault))) ∧
      (req.run s).calls = [.read req.path]) ∧
    (∀ content e, FileStore.read s req.path = .ok content → req.rule.apply content = .error e →
      (req.run s).store = s ∧
      (req.run s).result = .error ((Failure.of (.domain e)).within req.path.display) ∧
      (req.run s).calls = [.read req.path]) ∧
    (∀ content b, FileStore.read s req.path = .ok content → req.rule.apply content = .ok b →
      req.dryRun = true →
      (req.run s).store = s ∧
      (req.run s).result = .ok ⟨req.path, req.rule.name.text, b.previous, b.next, false⟩ ∧
      (req.run s).calls = [.read req.path]) ∧
    (∀ content b fault, FileStore.read s req.path = .ok content → req.rule.apply content = .ok b →
      req.dryRun = false → FileStore.replace s req.path b.content = .error fault →
      (req.run s).store = s ∧ (req.run s).result = .error (.of (.store (.write req.path fault))) ∧
      (req.run s).calls = [.read req.path, .replace req.path b.content]) ∧
    (∀ content b s', FileStore.read s req.path = .ok content → req.rule.apply content = .ok b →
      req.dryRun = false → FileStore.replace s req.path b.content = .ok s' →
      (req.run s).store = s' ∧
      (req.run s).result = .ok ⟨req.path, req.rule.name.text, b.previous, b.next, true⟩ ∧
      (req.run s).calls = [.read req.path, .replace req.path b.content]) ∧
    (∀ f, (req.run s).result = .error f → (req.run s).store = s) := by
  refine ⟨fun fault h => ?_, fun content e h he => ?_, fun content b h hb hd => ?_,
    fun content b fault h hb hd hw => ?_, fun content b s' h hb hd hw => ?_,
    fun f hf => req.store_run_of_error s hf⟩
  · rw [Request.run_of_read_error h]
    exact ⟨rfl, rfl, rfl⟩
  · rw [Request.run_of_apply_error h he]
    exact ⟨rfl, rfl, rfl⟩
  · rw [Request.run_of_dryRun h hb hd]
    exact ⟨rfl, rfl, rfl⟩
  · rw [Request.run_of_replace_error h hb hd hw]
    exact ⟨rfl, rfl, rfl⟩
  · rw [Request.run_of_replace_ok h hb hd hw]
    exact ⟨rfl, rfl, rfl⟩

end VersionStamp
