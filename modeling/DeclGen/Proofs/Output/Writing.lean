import DeclGen.Output.Write
import DeclGen.Proofs.FileStore
import Mathlib

/-!
Writing a registry, one file after the other. A file that the system does not take is reported, and
the ones after it are tried all the same; so the report accounts for every name of the registry once,
in order. Two things fall outside of this, because they are noticed before the system is asked: a path
with a null character or a name without bytes, and a text without bytes, which is noticed only once the
file is open. Then writing ends and nothing is reported at all.
-/
namespace DeclGen.Output

open FileStore (Unasked)

/-- A file that was tried, with the store that it met and the one that it left. -/
structure Attempt where
  name : Text
  file : GeneratedFile
  before : FileStore
  after : FileStore
  error : Option FileError

def attempt (root : Path) (store : FileStore) (entry : Text × GeneratedFile) : Attempt :=
  let result := store.writeWithParents (outputPath root entry.1) (Utf8.encode entry.2.render)
  ⟨entry.1, entry.2, store, result.1, result.2⟩

def attempts (root : Path) (store : FileStore) : List (Text × GeneratedFile) → List Attempt
  | [] => []
  | entry :: rest =>
    attempt root store entry :: attempts root (attempt root store entry).after rest

def storeAfter (root : Path) (store : FileStore) (entries : List (Text × GeneratedFile)) : FileStore :=
  entries.foldl (fun s entry => (attempt root s entry).after) store

namespace Attempt

def succeeded (a : Attempt) : Bool := a.error.isNone

def failure? (root : Path) (a : Attempt) : Option (Path × FileError) :=
  a.error.map fun error => (outputPath root a.name, error)

def Opens (root : Path) (a : Attempt) (location : Location) : Prop :=
  a.before.OpensBelow (outputPath root a.name) location

/-- The path of the directory above, or of the file itself, cannot be asked about, or the file was
opened and then its text has no bytes. -/
def Refused (root : Path) (a : Attempt) : Prop :=
  let target := outputPath root a.name
  ¬ target.parent.Askable ∨
    (a.before.makeDirectories target.parent).2 = none ∧ ¬ target.Askable ∨
    (∃ location, a.Opens root location) ∧ ¬ Utf8.Encodable a.file.render

end Attempt

def writtenNames (tried : List Attempt) : List Text :=
  (tried.filter Attempt.succeeded).map Attempt.name

def failedNames (tried : List Attempt) : List Text :=
  (tried.filter fun a => !a.succeeded).map Attempt.name

/-- All files were tried, and the report has each of them once. -/
structure AccountsForAll (r : Registry) (root : Path) (store : FileStore) (run : WriteRun) : Prop where
  returns : run.refused = none
  written : run.report.written =
    (writtenNames (attempts root store r.sorted)).map (outputPath root)
  failed : run.report.failed = (attempts root store r.sorted).filterMap (Attempt.failure? root)
  failedPaths : run.report.failed.map Prod.fst =
    (failedNames (attempts root store r.sorted)).map (outputPath root)
  once : (writtenNames (attempts root store r.sorted)
    ++ failedNames (attempts root store r.sorted)).Perm r.files.keys
  writtenInOrder : (writtenNames (attempts root store r.sorted)).Pairwise fun a b => Text.le a b = true
  failedInOrder : (failedNames (attempts root store r.sorted)).Pairwise fun a b => Text.le a b = true
  store : run.store = storeAfter root store r.sorted

section Attempts

variable {root : Path} {store : FileStore} {a : Attempt}

theorem names_attempts (root : Path) (store : FileStore) (entries : List (Text × GeneratedFile)) :
    (attempts root store entries).map Attempt.name = entries.map Prod.fst := by
  induction entries generalizing store with
  | nil => rfl
  | cons entry rest ih =>
    rw [attempts, List.map_cons, List.map_cons, ih]
    rfl

theorem exists_attempt_of_mem {entries : List (Text × GeneratedFile)}
    (tried : a ∈ attempts root store entries) :
    ∃ s, ∃ entry ∈ entries, a = attempt root s entry := by
  induction entries generalizing store with
  | nil => cases tried
  | cons entry rest ih =>
    rcases List.mem_cons.mp tried with rfl | later
    · exact ⟨store, entry, List.mem_cons_self, rfl⟩
    · obtain ⟨s, other, member, same⟩ := ih later
      exact ⟨s, other, List.mem_cons_of_mem _ member, same⟩

theorem refused_iff {entries : List (Text × GeneratedFile)} (tried : a ∈ attempts root store entries) :
    Unasked a.error ↔ a.Refused root := by
  obtain ⟨s, entry, _, rfl⟩ := exists_attempt_of_mem tried
  refine (s.writeWithParents_unasked_iff _ _).trans ?_
  rw [Utf8.encode, Utf8.encodeWith_error_iff]
  rfl

theorem writtenNames_cons (a : Attempt) (tried : List Attempt) :
    writtenNames (a :: tried) = writtenNames [a] ++ writtenNames tried := by
  rw [writtenNames, writtenNames, writtenNames, ← List.map_append, ← List.filter_append]
  rfl

theorem written_append_failed_perm (tried : List Attempt) :
    (writtenNames tried ++ failedNames tried).Perm (tried.map Attempt.name) := by
  rw [writtenNames, failedNames, ← List.map_append]
  exact (List.filter_append_perm Attempt.succeeded tried).map Attempt.name

theorem map_fst_failures (root : Path) (tried : List Attempt) :
    (tried.filterMap (Attempt.failure? root)).map Prod.fst =
      (failedNames tried).map (outputPath root) := by
  induction tried with
  | nil => rfl
  | cons a rest ih =>
    cases found : a.error with
    | none => simpa [failedNames, Attempt.failure?, Attempt.succeeded, found] using ih
    | some error => simpa [failedNames, Attempt.failure?, Attempt.succeeded, found] using ih

end Attempts

section Step

variable {root : Path} {run : WriteRun} {entry : Text × GeneratedFile}

theorem writeOne_refused (stuck : Unasked (attempt root run.store entry).error) :
    (run.writeOne root entry.1 entry.2).refused = (attempt root run.store entry).error := by
  unfold attempt at stuck ⊢
  unfold WriteRun.writeOne
  cases outcome : run.store.writeWithParents (outputPath root entry.1) (Utf8.encode entry.2.render) with
  | mk store error =>
    rw [outcome] at stuck
    obtain ⟨error, rfl, system⟩ := stuck
    simp [outcome, system]

structure Reports (root : Path) (run : WriteRun) (tried : List Attempt) (last : WriteRun) : Prop where
  refused : last.refused = run.refused
  written : last.report.written = run.report.written ++ (writtenNames tried).map (outputPath root)
  failed : last.report.failed = run.report.failed ++ tried.filterMap (Attempt.failure? root)

theorem writeOne_store (root : Path) (run : WriteRun) (entry : Text × GeneratedFile) :
    (run.writeOne root entry.1 entry.2).store = (attempt root run.store entry).after := by
  unfold attempt WriteRun.writeOne
  cases outcome : run.store.writeWithParents (outputPath root entry.1) (Utf8.encode entry.2.render) with
  | mk store error =>
    cases error with
    | none => simp [outcome]
    | some error => by_cases system : error.isSystem = true <;> simp [outcome, system]

theorem writeOne_written (root : Path) (run : WriteRun) (entry : Text × GeneratedFile) :
    (run.writeOne root entry.1 entry.2).report.written = run.report.written ++
      (writtenNames [attempt root run.store entry]).map (outputPath root) := by
  unfold attempt WriteRun.writeOne
  cases outcome : run.store.writeWithParents (outputPath root entry.1) (Utf8.encode entry.2.render) with
  | mk store error =>
    cases error with
    | none =>
      simp only [outcome]
      rfl
    | some error =>
      by_cases system : error.isSystem = true <;>
        simp [outcome, system, writtenNames, Attempt.succeeded]

theorem writeOne_reports (known : ¬ Unasked (attempt root run.store entry).error) :
    Reports root run [attempt root run.store entry] (run.writeOne root entry.1 entry.2) := by
  unfold attempt at known ⊢
  unfold WriteRun.writeOne
  cases outcome : run.store.writeWithParents (outputPath root entry.1) (Utf8.encode entry.2.render) with
  | mk store error =>
    rw [outcome] at known
    cases error with
    | none =>
      simp only [outcome]
      exact ⟨rfl, rfl, by simp [Attempt.failure?]⟩
    | some error =>
      have system : error.isSystem = true := by simpa using known
      simp only [outcome, system, if_true]
      exact ⟨rfl, by simp [writtenNames, Attempt.succeeded], rfl⟩

theorem Reports.trans {second : List Attempt} {a : Attempt} {middle last : WriteRun}
    (one : Reports root run [a] middle) (more : Reports root middle second last) :
    Reports root run (a :: second) last where
  refused := more.refused.trans one.refused
  written := by
    rw [more.written, one.written, writtenNames_cons a second, List.map_append, List.append_assoc]
  failed := by
    rw [more.failed, one.failed, List.append_assoc, ← List.filterMap_append]
    rfl

end Step

section Run

variable {root : Path} {run : WriteRun} {entries : List (Text × GeneratedFile)}

theorem writeAll_refused (going : run.refused = none)
    (stuck : ∃ a ∈ attempts root run.store entries, Unasked a.error) :
    (run.writeAll root entries).refused ≠ none := by
  induction entries generalizing run with
  | nil =>
    obtain ⟨a, none, _⟩ := stuck
    cases none
  | cons entry rest ih =>
    rw [WriteRun.writeAll]
    by_cases here : Unasked (attempt root run.store entry).error
    · have stopped := writeOne_refused here
      obtain ⟨error, found, _⟩ := here
      simp [stopped, found]
    · have goes : (run.writeOne root entry.1 entry.2).refused = none :=
        (writeOne_reports here).refused.trans going
      obtain ⟨a, tried, error⟩ := stuck
      rw [attempts] at tried
      rcases List.mem_cons.mp tried with rfl | later
      · exact absurd error here
      · rw [goes]
        rw [← writeOne_store] at later
        exact ih goes ⟨a, later, error⟩

theorem writeAll_reports (going : run.refused = none)
    (known : ∀ a ∈ attempts root run.store entries, ¬ Unasked a.error) :
    Reports root run (attempts root run.store entries) (run.writeAll root entries) ∧
      (run.writeAll root entries).store = storeAfter root run.store entries := by
  induction entries generalizing run with
  | nil =>
    have written : run.report.written = run.report.written ++ [] := (List.append_nil _).symm
    have failed : run.report.failed = run.report.failed ++ [] := (List.append_nil _).symm
    exact ⟨⟨rfl, written, failed⟩, rfl⟩
  | cons entry rest ih =>
    have reports := writeOne_reports (known _ List.mem_cons_self)
    have goes : (run.writeOne root entry.1 entry.2).refused = none := reports.refused.trans going
    have later : ∀ a ∈ attempts root (run.writeOne root entry.1 entry.2).store rest,
        ¬ Unasked a.error := by
      intro a tried
      rw [writeOne_store] at tried
      exact known a (List.mem_cons_of_mem _ tried)
    obtain ⟨more, last⟩ := ih goes later
    have continued : run.writeAll root (entry :: rest) =
        (run.writeOne root entry.1 entry.2).writeAll root rest := by
      rw [WriteRun.writeAll, goes]
      rfl
    rw [continued, attempts, storeAfter, List.foldl_cons]
    rw [writeOne_store] at more last
    exact ⟨reports.trans more, last⟩

end Run

section Order

theorem names_sorted_perm (r : Registry) : (r.sorted.map Prod.fst).Perm r.files.keys :=
  (List.mergeSort_perm _ _).map Prod.fst

theorem names_sorted (r : Registry) :
    (r.sorted.map Prod.fst).Pairwise fun a b => Text.le a b = true := by
  rw [List.pairwise_map]
  refine List.pairwise_mergeSort ?_ ?_ _
  · intro a b c first second
    exact Text.le_trans first second
  · intro a b
    rw [Bool.or_eq_true]
    exact Text.le_total a.1 b.1

end Order

theorem accountsForAll_of_known {r : Registry} {root : Path} {store : FileStore}
    (known : ∀ a ∈ attempts root store r.sorted, ¬ Unasked a.error) :
    AccountsForAll r root store (writeFiles r root store) := by
  have going : (⟨store, {}, [], none⟩ : WriteRun).refused = none := rfl
  obtain ⟨reports, last⟩ := writeAll_reports going known
  have sorted := names_sorted r
  rw [← names_attempts root store] at sorted
  have ordered : ∀ p : Attempt → Bool,
      (((attempts root store r.sorted).filter p).map Attempt.name).Pairwise
        fun a b => Text.le a b = true :=
    fun p => sorted.sublist (List.filter_sublist.map Attempt.name)
  exact
    { returns := reports.refused
      written := reports.written
      failed := reports.failed
      failedPaths := (congrArg _ reports.failed).trans (map_fst_failures root _)
      once := by
        refine (written_append_failed_perm _).trans ?_
        rw [names_attempts]
        exact names_sorted_perm r
      writtenInOrder := ordered _
      failedInOrder := ordered _
      store := last }

theorem exists_of_refused {r : Registry} {root : Path} {store : FileStore} {a : Attempt}
    (tried : a ∈ attempts root store r.sorted) (refused : a.Refused root) :
    ∃ entry ∈ r.files.entries,
      ¬ (outputPath root entry.1).Askable ∨ ¬ Utf8.Encodable entry.2.render := by
  obtain ⟨s, entry, listed, rfl⟩ := exists_attempt_of_mem tried
  refine ⟨entry, List.mem_mergeSort.mp listed, ?_⟩
  rcases refused with above | ⟨_, stuck⟩ | ⟨_, stuck⟩
  · exact .inl fun askable => above askable.above
  · exact .inl stuck
  · exact .inr stuck

theorem accountsForAll_of_askable {r : Registry} {root : Path}
    (askable : ∀ entry ∈ r.files.entries, (outputPath root entry.1).Askable)
    (encodable : ∀ entry ∈ r.files.entries, Utf8.Encodable entry.2.render) (store : FileStore) :
    AccountsForAll r root store (writeFiles r root store) := by
  refine accountsForAll_of_known fun a tried stuck => ?_
  obtain ⟨entry, listed, either⟩ := exists_of_refused tried ((refused_iff tried).mp stuck)
  rcases either with path | text
  · exact path (askable entry listed)
  · exact text (encodable entry listed)

/-- All files are tried and reported, whatever the system and the device do with any of them, unless
there is one that the system cannot be asked about. A registry without such paths and texts never meets
this end. -/
theorem writeFiles_accounts_iff (r : Registry) (root : Path) (store : FileStore) :
    (AccountsForAll r root store (writeFiles r root store) ↔
        ∀ a ∈ attempts root store r.sorted, ¬ a.Refused root) ∧
      ((∀ entry ∈ r.files.entries,
          (outputPath root entry.1).Askable ∧ Utf8.Encodable entry.2.render) →
        AccountsForAll r root store (writeFiles r root store)) := by
  refine ⟨⟨?_, ?_⟩, ?_⟩
  · intro accounts a tried refused
    have stopped : (writeFiles r root store).refused ≠ none :=
      writeAll_refused rfl ⟨a, tried, (refused_iff tried).mpr refused⟩
    exact stopped accounts.returns
  · intro taken
    refine accountsForAll_of_known fun a tried stuck => ?_
    exact taken a tried ((refused_iff tried).mp stuck)
  · intro clean
    exact accountsForAll_of_askable (fun entry listed => (clean entry listed).1)
      (fun entry listed => (clean entry listed).2) store

namespace Sample

def output : Path := Path.ofText "out".text

/-- Two files, the first of which has a null character in its name. -/
def registry : Registry :=
  Registry.run {} [.file "a\x00b.gen".text, .file "z.gen".text]

def run : WriteRun := writeFiles registry output FileStore.empty

end Sample

/-- The second file is not tried. -/
theorem null_name_ends_writing :
    Sample.run.refused = some .nullCharacter ∧
      Sample.run.report.written = [] ∧ Sample.run.report.failed = [] ∧
      Sample.run.store.find? (outputPath Sample.output "z.gen".text) = none ∧
      ¬ AccountsForAll Sample.registry Sample.output FileStore.empty Sample.run := by
  have refused : Sample.run.refused = some .nullCharacter := by cbv
  refine ⟨refused, by cbv, by cbv, by cbv, ?_⟩
  intro accounts
  rw [accounts.returns] at refused
  cases refused

end DeclGen.Output
