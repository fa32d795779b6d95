import DeclGen.Proofs.Output.Writing

/-!
What is on disk once a registry is written. Directories are made on the way, also for a file that
then fails; a file changes only where one is opened. Two names can lead to one file, and then what stays
is left by the one that comes last in the order of names: its text if it was written, and a beginning
of its text if the device or a code point without bytes ended the write.
-/
namespace DeclGen

namespace Output

open FileStore (AddsDirectories SameFiles)

section Attempts

variable {root : Path} {a : Attempt} {location : Location}

structure Attempt.Filled (a : Attempt) (bytes : Utf8.Bytes) : Prop where
  beginning : bytes <+: Utf8.bytes a.file.render
  whole : a.error = none → Utf8.encode a.file.render = .ok bytes

inductive Attempt.Step (root : Path) (a : Attempt) : Prop where
  | shut (adds : AddsDirectories a.before a.after) (failed : a.error ≠ none)
      (none : ∀ location, ¬ a.Opens root location)
  | opened (made : FileStore) (location : Location) (bytes : Utf8.Bytes)
      (adds : AddsDirectories a.before made) (opens : a.Opens root location)
      (leads : made.locate (outputPath root a.name) = .ok location)
      (free : made.get? location ≠ some .directory)
      (filled : a.Filled bytes) (after : a.after = made.put location (.file bytes))

theorem filled_of_store {bytes : Utf8.Bytes}
    (filled : FileStore.Filled (Utf8.encode a.file.render) bytes a.error) : a.Filled bytes where
  beginning := by
    refine filled.beginning.trans ?_
    by_cases encodable : Utf8.Encodable a.file.render
    · rw [Utf8.encode, Utf8.encodeWith_of_encodable _ encodable]
      exact List.prefix_rfl
    · obtain ⟨place, stuck⟩ := (Utf8.encodeWith_error_iff _).mpr encodable
      rw [Utf8.encode, stuck]
      exact List.nil_prefix
  whole := filled.whole

theorem step_attempt (root : Path) (store : FileStore) (entry : Text × GeneratedFile) :
    (attempt root store entry).Step root := by
  by_cases opened : ∃ location, (attempt root store entry).Opens root location
  · obtain ⟨location, opens⟩ := opened
    obtain ⟨made, bytes, error, adds, here, filled, result⟩ :=
      FileStore.writeWithParents_of_opens opens (Utf8.encode entry.2.render)
    have ended : (attempt root store entry).error = error := congrArg Prod.snd result
    refine .opened made location bytes adds opens here.leads here.free ?_ (congrArg Prod.fst result)
    exact filled_of_store (by rw [ended]; exact filled)
  · obtain ⟨made, error, adds, result, _⟩ :=
      FileStore.writeWithParents_of_not_opens (not_exists.mp opened) (Utf8.encode entry.2.render)
    have after : (attempt root store entry).after = made := congrArg Prod.fst result
    have ended : (attempt root store entry).error = some error := congrArg Prod.snd result
    refine .shut ?_ (by rw [ended]; exact nofun) (not_exists.mp opened)
    rw [after]
    exact adds

theorem Attempt.Opens.unique {other : Location} (opens : a.Opens root location)
    (again : a.Opens root other) : location = other :=
  Except.ok.inj (opens.2.leads.symm.trans again.2.leads)

/-- Nothing but directories is new where the attempt opened no file. -/
theorem Attempt.Step.elsewhere (step : a.Step root) (apart : ¬ a.Opens root location)
    (content : Utf8.Bytes) :
    a.before.get? location = some (.file content) ↔ a.after.get? location = some (.file content) := by
  cases step with
  | shut adds _ _ => exact adds.files location content
  | opened made place bytes adds opens leads free filled after =>
    have other : location ≠ place := fun same => apart (same ▸ opens)
    rw [after, made.get?_put (FileStore.ne_root_of_free free), if_neg other]
    exact adds.files location content

theorem Attempt.Step.keepsDirectories (step : a.Step root) :
    FileStore.KeepsDirectories a.before a.after := by
  cases step with
  | shut adds _ _ => exact adds.directories
  | opened made place bytes adds _ _ free _ after =>
    rw [after]
    exact fun location there =>
      (FileStore.sameDirectories_put free bytes location).mp (adds.directories location there)

end Attempts

section Disk

variable {root : Path} {before s : FileStore} {tried : List Attempt} {a : Attempt}
  {location : Location}

/-- Among the attempts that opened the file at a location, this one has the greatest name, and what it
left is there. -/
structure Stays (root : Path) (tried : List Attempt) (s : FileStore) (location : Location)
    (bytes : Utf8.Bytes) (a : Attempt) : Prop where
  member : a ∈ tried
  opens : a.Opens root location
  greatest : ∀ b ∈ tried, b.Opens root location → Text.le b.name a.name = true
  holds : s.get? location = some (.file bytes)
  filled : a.Filled bytes

structure Disk (root : Path) (before : FileStore) (tried : List Attempt) (s : FileStore) : Prop where
  leads : ∀ a ∈ tried, ∀ location, a.Opens root location →
    s.locate (outputPath root a.name) = .ok location
  stays : ∀ a ∈ tried, ∀ location, a.Opens root location →
    ∃ bytes last, Stays root tried s location bytes last
  elsewhere : ∀ location, (∀ a ∈ tried, ¬ a.Opens root location) →
    ∀ content, before.get? location = some (.file content) ↔ s.get? location = some (.file content)

theorem disk_start (root : Path) (before : FileStore) : Disk root before [] before where
  leads := nofun
  stays := nofun
  elsewhere := fun _ _ _ => Iff.rfl

theorem forall_mem_concat {P : Attempt → Prop} :
    (∀ b ∈ tried ++ [a], P b) ↔ (∀ b ∈ tried, P b) ∧ P a := by
  rw [List.forall_mem_append, List.forall_mem_singleton]

theorem Stays.later {bytes : Utf8.Bytes} {last : Attempt} (step : a.Step root)
    (stays : Stays root tried a.before location bytes last) (apart : ¬ a.Opens root location) :
    Stays root (tried ++ [a]) a.after location bytes last where
  member := List.mem_append_left _ stays.member
  opens := stays.opens
  greatest := forall_mem_concat.mpr ⟨stays.greatest, fun opens => absurd opens apart⟩
  holds := (step.elsewhere apart bytes).mp stays.holds
  filled := stays.filled

theorem stays_newest (step : a.Step root) (opens : a.Opens root location)
    (after : ∀ b ∈ tried, Text.le b.name a.name = true) :
    ∃ bytes, Stays root (tried ++ [a]) a.after location bytes a := by
  cases step with
  | shut _ _ none => exact absurd opens (none location)
  | opened made place bytes _ here _ free filled put =>
    obtain rfl := opens.unique here
    refine ⟨bytes, List.mem_append_right _ (List.mem_singleton_self a), opens, ?_, ?_, filled⟩
    · exact forall_mem_concat.mpr
        ⟨fun b member _ => after b member, fun _ => (Text.le_total a.name a.name).elim id id⟩
    · rw [put, made.get?_put (FileStore.ne_root_of_free free), if_pos rfl]

theorem Disk.step (disk : Disk root before tried a.before) (step : a.Step root)
    (after : ∀ b ∈ tried, Text.le b.name a.name = true) :
    Disk root before (tried ++ [a]) a.after where
  leads := by
    refine forall_mem_concat.mpr ⟨fun b member place opens => ?_, fun place opens => ?_⟩
    · exact step.keepsDirectories.locate (disk.leads b member place opens)
    · cases step with
      | shut _ _ none => exact absurd opens (none place)
      | opened made location bytes _ here leads free _ put =>
        obtain rfl := opens.unique here
        rw [put]
        exact (FileStore.sameDirectories_put free bytes).locate.mp leads
  stays := by
    have newest : ∀ place, a.Opens root place →
        ∃ bytes last, Stays root (tried ++ [a]) a.after place bytes last := by
      intro place opens
      obtain ⟨bytes, stays⟩ := stays_newest step opens after
      exact ⟨bytes, a, stays⟩
    refine forall_mem_concat.mpr ⟨fun b member place opens => ?_, newest⟩
    by_cases again : a.Opens root place
    · exact newest place again
    · obtain ⟨bytes, last, stays⟩ := disk.stays b member place opens
      exact ⟨bytes, last, stays.later step again⟩
  elsewhere := by
    intro place none content
    obtain ⟨earlier, here⟩ := forall_mem_concat.mp none
    exact (disk.elsewhere place earlier content).trans (step.elsewhere here content)

theorem Disk.attempts {entries : List (Text × GeneratedFile)} (disk : Disk root before tried s)
    (sorted : (tried.map Attempt.name ++ entries.map Prod.fst).Pairwise
      fun a b => Text.le a b = true) :
    Disk root before (tried ++ attempts root s entries) (storeAfter root s entries) := by
  -- the files still to come are at or after those tried, so each one that is opened is the greatest
  induction entries generalizing s tried with
  | nil =>
    rw [Output.attempts, List.append_nil]
    exact disk
  | cons entry rest ih =>
    obtain ⟨_, _, across⟩ := List.pairwise_append.mp sorted
    have after : ∀ b ∈ tried, Text.le b.name entry.1 = true := fun b member =>
      across b.name (List.mem_map_of_mem member) entry.1 List.mem_cons_self
    have next := Disk.step (a := attempt root s entry) disk (step_attempt root s entry) after
    have later := ih next (by simpa [attempt] using sorted)
    rw [List.append_assoc] at later
    exact later

end Disk

structure Leaves (root : Path) (store : FileStore) (tried : List Attempt) (run : WriteRun) : Prop where
  written : run.report.written = (writtenNames tried).map (outputPath root)
  opened : ∀ a ∈ tried, a.error = none → ∃ location, a.Opens root location
  leads : ∀ a ∈ tried, ∀ location, a.Opens root location →
    run.store.locate (outputPath root a.name) = .ok location
  holds : ∀ a ∈ tried, ∀ location, a.Opens root location →
    ∃ bytes, run.store.read (outputPath root a.name) = .ok bytes ∧
      ∃ last ∈ tried, last.Opens root location ∧
        (∀ b ∈ tried, b.Opens root location → Text.le b.name last.name = true) ∧
        bytes <+: Utf8.bytes last.file.render ∧
        (last.error = none → Utf8.encode last.file.render = .ok bytes)
  elsewhere : ∀ location, (∀ a ∈ tried, ¬ a.Opens root location) →
    ∀ content, store.get? location = some (.file content) ↔
      run.store.get? location = some (.file content)
  one : ∀ a ∈ tried, ∀ location, ¬ a.Opens root location →
    ∀ content, a.before.get? location = some (.file content) ↔
      a.after.get? location = some (.file content)

/-- A run that ends early has tried the first of the files, and what it leaves comes from those. -/
theorem writeAll_writes (root : Path) (run : WriteRun) (entries : List (Text × GeneratedFile)) :
    ∃ part, part <+: entries ∧
      ((run.writeAll root entries).refused = none → part = entries) ∧
      (run.writeAll root entries).store = storeAfter root run.store part ∧
      (run.writeAll root entries).report.written = run.report.written ++
        (writtenNames (attempts root run.store part)).map (outputPath root) := by
  induction entries generalizing run with
  | nil => exact ⟨[], List.prefix_rfl, fun _ => rfl, rfl, (List.append_nil _).symm⟩
  | cons entry rest ih =>
    have store := writeOne_store root run entry
    have report := writeOne_written root run entry
    rw [WriteRun.writeAll]
    split
    · next stopped =>
      refine ⟨[entry], List.prefix_append [entry] rest, fun going => ?_, store, report⟩
      rw [going] at stopped
      cases stopped
    · obtain ⟨part, first, all, finalStore, finalReport⟩ := ih (run.writeOne root entry.1 entry.2)
      refine ⟨entry :: part, List.cons_prefix_cons.mpr ⟨rfl, first⟩, fun going => ?_, ?_, ?_⟩
      · rw [all going]
      · rw [finalStore, store]
        rfl
      · rw [finalReport, store, report, attempts,
          writtenNames_cons _ (attempts root (attempt root run.store entry).after part),
          List.map_append, List.append_assoc]

/-- A file that was opened is left as by the greatest of the names that opened it: with its text, or
with a beginning of it if that attempt failed. No other file is changed, added or lost, neither by the
run nor by one attempt. -/
theorem writeFiles_leaves (r : Registry) (root : Path) (store : FileStore) :
    ∃ part, part <+: r.sorted ∧ ((writeFiles r root store).refused = none → part = r.sorted) ∧
      Leaves root store (attempts root store part) (writeFiles r root store) := by
  obtain ⟨part, first, all, final, reported⟩ := writeAll_writes root ⟨store, {}, [], none⟩ r.sorted
  have sorted : (part.map Prod.fst).Pairwise fun a b => Text.le a b = true :=
    (names_sorted r).sublist (first.sublist.map Prod.fst)
  have disk := (disk_start root store).attempts sorted
  rw [List.nil_append, ← final] at disk
  have step : ∀ a ∈ attempts root store part, a.Step root := by
    intro a tried
    obtain ⟨s, entry, _, rfl⟩ := exists_attempt_of_mem tried
    exact step_attempt root s entry
  refine ⟨part, first, all, reported, ?_, disk.leads, ?_, disk.elsewhere, ?_⟩
  · intro a tried written
    cases step a tried with
    | shut _ failed _ => exact absurd written failed
    | opened _ location _ _ opens _ _ _ _ => exact ⟨location, opens⟩
  · intro a tried location opens
    obtain ⟨bytes, last, stays⟩ := disk.stays a tried location opens
    have read := FileStore.read_eq_ok_iff.mpr
      ⟨location, disk.leads a tried location opens, stays.holds⟩
    exact ⟨bytes, read, last, stays.member, stays.opens, stays.greatest,
      stays.filled.beginning, stays.filled.whole⟩
  · intro a tried location apart content
    exact (step a tried).elsewhere apart content

/-- A name that stays below the output directory and reaches the system. -/
structure StaysBelow (key : Text) : Prop where
  relative : (Path.ofText key).anchor = .relative
  down : "..".text ∉ (Path.ofText key).parts
  askable : (Path.ofText key).Askable

namespace Sample

def target : Path := outputPath output "a.gen".text

def earlier : FileStore := (FileStore.empty.writeWithParents target (.ok (Utf8.bytes "old".text))).1

def noSpace : SystemError := ⟨28, "No space left on device", by decide⟩

/-- Files can be opened, and so emptied, but there is no room for a single byte. -/
def full : FileStore :=
  { earlier with device := ⟨fun _ _ => none, fun _ _ _ => some (0, noSpace)⟩ }

def oneFile (line : Text) : Registry := Registry.run {} [.body "a.gen".text "F".text line]

end Sample

/-- A file that was there before is empty afterwards and was not written: the device was full, or the
new text has no bytes. -/
theorem failed_write_empties_file :
    let broken := writeFiles (Sample.oneFile "x();".text) Sample.output Sample.full
    let stuck := writeFiles (Sample.oneFile [.surrogate 0]) Sample.output Sample.earlier
    StaysBelow "a.gen".text ∧
      (Sample.full.read Sample.target = .ok (Utf8.bytes "old".text) ∧
        broken.refused = none ∧ broken.report.written = [] ∧
        broken.report.failed = [(Sample.target, .brokenOff Sample.noSpace)] ∧
        broken.store.read Sample.target = .ok []) ∧
      (Sample.earlier.read Sample.target = .ok (Utf8.bytes "old".text) ∧
        stuck.report.written = [] ∧ stuck.store.read Sample.target = .ok []) := by
  refine ⟨⟨by decide, by decide, by decide⟩, ⟨?_, ?_, ?_, ?_, ?_⟩, ?_, ?_, ?_⟩
  all_goals cbv

end Output
end DeclGen
