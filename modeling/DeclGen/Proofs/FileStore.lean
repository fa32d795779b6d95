import DeclGen.FileStore
import DeclGen.Proofs.FileName
import DeclGen.Proofs.Table

/-!
What the operations of a file store do and leave alone. The only paths that never reach the system are
those with a name that has no bytes or a null character. Following a path depends on where the
directories are and on nothing else, so writing a file changes what is read at its own location only,
and leaves the content there, or a beginning of it with an error. Making a directory that exists does
nothing, and writing the same file again leaves the same. On the way to a file, whether or not it can
be written, directories are added and no file is touched.
-/
namespace DeclGen

open CodePoint (char)

section Paths

variable {p q : Path}

/-- Each name on the path has bytes, and none of them is null: the system can be asked about it. -/
def Path.Askable (p : Path) : Prop :=
  ∀ part ∈ p.parts, FileName.Encodable part ∧ CodePoint.char (Char.ofNat 0) ∉ part

instance (p : Path) : Decidable p.Askable :=
  inferInstanceAs (Decidable (∀ part ∈ p.parts,
    FileName.Encodable part ∧ CodePoint.char (Char.ofNat 0) ∉ part))

theorem Path.Askable.above (askable : p.Askable) : p.parent.Askable :=
  fun part member => askable part (List.dropLast_subset _ member)

theorem forall_mem_joinWith {α : Type} {P : α → Prop} {sep : α} (between : P sep)
    (parts : List (List α)) :
    (∀ x ∈ joinWith [sep] parts, P x) ↔ ∀ part ∈ parts, ∀ x ∈ part, P x := by
  induction parts with
  | nil => simp [joinWith]
  | cons part others ih =>
    cases others with
    | nil => simp [joinWith]
    | cons next more =>
      rw [joinWith_cons _ _ (by simp), List.forall_mem_append, List.forall_mem_append, ih]
      simp [between]

theorem Path.encodable_text_iff :
    FileName.Encodable p.text ↔ ∀ part ∈ p.parts, FileName.Encodable part := by
  have slash : (FileName.unit (char '/')).isSome = true := by decide
  have behind : ∀ t : Text, FileName.Encodable (char '/' :: t) ↔ FileName.Encodable t :=
    fun t => List.forall_mem_cons.trans (and_iff_right slash)
  obtain ⟨anchor, parts, clean⟩ := p
  have joined : FileName.Encodable (joinWith [char '/'] parts) ↔
      ∀ part ∈ parts, FileName.Encodable part :=
    forall_mem_joinWith (P := fun c => (FileName.unit c).isSome = true) slash parts
  cases anchor with
  | relative =>
    cases parts with
    | nil =>
      have dot : FileName.Encodable [char '.'] := by decide
      exact ⟨fun _ => nofun, fun _ => dot⟩
    | cons part others => exact joined
  | root => exact (behind _).trans joined
  | doubleRoot => exact (behind _).trans ((behind _).trans joined)

theorem Path.anchor_join (relative : q.anchor = .relative) : (p.join q).anchor = p.anchor := by
  obtain ⟨anchor, parts, clean⟩ := q
  cases relative
  rfl

theorem Path.parts_join (relative : q.anchor = .relative) :
    (p.join q).parts = p.parts ++ q.parts := by
  obtain ⟨anchor, parts, clean⟩ := q
  cases relative
  rfl

theorem Path.absolute_parts_join (relative : q.anchor = .relative) :
    (p.join q).absolute.parts = p.absolute.parts ++ q.parts := by
  obtain ⟨anchor, parts, clean⟩ := q
  cases relative
  obtain ⟨start, names, cleanNames⟩ := p
  cases start with
  | relative => exact (List.append_assoc _ _ _).symm
  | root => rfl
  | doubleRoot => rfl

end Paths

namespace FileStore

section Asking

variable {s : FileStore} {path : Path} {content : Except Utf8.Unencodable Utf8.Bytes}

theorem isSystem_of_descend {e : FileError} {location : Location} {names : List Utf8.Bytes}
    (failed : s.descend path location names = .error e) : e.isSystem = true := by
  induction names generalizing location with
  | nil => cases failed
  | cons name rest ih =>
    rw [descend] at failed
    split at failed
    · split at failed
      · obtain rfl := Except.error.inj failed
        rfl
      · exact ih failed
    · obtain rfl := Except.error.inj failed
      rfl
    · obtain rfl := Except.error.inj failed
      rfl

theorem locate_of_askable (s : FileStore) (askable : path.Askable) :
    s.locate path =
      if longestPath < (FileName.bytes path.text).length then .error (.nameTooLong path)
      else s.descend path [] (locationOf path) := by
  have encodable : FileName.Encodable path.text :=
    Path.encodable_text_iff.mpr fun part member => (askable part member).1
  have clean : ¬ (path.parts.any fun part => part.contains (CodePoint.char (Char.ofNat 0))) = true := by
    rw [List.any_eq_true]
    rintro ⟨part, member, null⟩
    exact (askable part member).2 (by simpa using null)
  rw [locate, FileName.encode, Utf8.encodeWith_of_encodable _ encodable]
  simp only [if_neg clean]
  rfl

theorem locate_of_not_askable (s : FileStore) (unaskable : ¬ path.Askable) :
    ∃ e, s.locate path = .error e ∧ e.isSystem = false := by
  unfold locate
  by_cases encodable : FileName.Encodable path.text
  · have null : (path.parts.any fun part => part.contains (CodePoint.char (Char.ofNat 0))) = true := by
      refine by_contra fun clean => unaskable fun part member => ⟨?_, fun null => clean ?_⟩
      · exact Path.encodable_text_iff.mp encodable part member
      · exact List.any_eq_true.mpr ⟨part, member, by simpa using null⟩
    rw [FileName.encode, Utf8.encodeWith_of_encodable _ encodable]
    exact ⟨.nullCharacter, by simp only [if_pos null], rfl⟩
  · obtain ⟨place, stuck⟩ := (Utf8.encodeWith_error_iff _).mpr encodable
    rw [FileName.encode, stuck]
    exact ⟨.unencodable place, rfl, rfl⟩

theorem isSystem_of_locate {e : FileError} (failed : s.locate path = .error e) :
    e.isSystem = false ↔ ¬ path.Askable := by
  by_cases askable : path.Askable
  · rw [locate_of_askable s askable] at failed
    have system : e.isSystem = true := by
      split at failed
      · obtain rfl := Except.error.inj failed
        rfl
      · exact isSystem_of_descend failed
    simp [system, askable]
  · obtain ⟨other, stuck, unasked⟩ := s.locate_of_not_askable askable
    obtain rfl := Except.error.inj (failed.symm.trans stuck)
    simp [unasked, askable]

theorem askable_of_locate {location : Location} (found : s.locate path = .ok location) :
    path.Askable := by
  by_contra unaskable
  obtain ⟨e, failed, _⟩ := s.locate_of_not_askable unaskable
  rw [found] at failed
  cases failed

/-- There was an error, and not one of the system's. -/
def Unasked (outcome : Option FileError) : Prop := ∃ e, outcome = some e ∧ e.isSystem = false

@[simp]
theorem not_unasked_none : ¬ Unasked none := by
  rintro ⟨e, none, _⟩
  cases none

@[simp]
theorem unasked_some_iff {e : FileError} : Unasked (some e) ↔ e.isSystem = false := by
  simp [Unasked]

theorem makeDirectory_unasked_iff (s : FileStore) (path : Path) :
    Unasked (s.makeDirectory path).2 ↔ ¬ path.Askable := by
  unfold makeDirectory
  cases found : s.locate path with
  | error e => simp [isSystem_of_locate found]
  | ok location =>
    have askable := askable_of_locate found
    dsimp only
    split
    · simp [FileError.isSystem, askable]
    · split <;> simp [FileError.isSystem, askable]

theorem unlessDirectory_unasked_iff (s : FileStore) (path : Path) (e : FileError) :
    Unasked (s.unlessDirectory path e) ↔ Unasked (some e) := by
  unfold unlessDirectory
  split
  · next there => simp [there.1]
  · rfl

/-- A name further up makes no difference, because the path as a whole is asked about first. -/
theorem makeDirectories_unasked_iff (s : FileStore) (path : Path) :
    Unasked (s.makeDirectories path).2 ↔ ¬ path.Askable := by
  have asked : ∀ (s : FileStore) {path made error}, s.makeDirectory path = (made, error) →
      (Unasked error ↔ ¬ path.Askable) := by
    intro s path made error result
    rw [← s.makeDirectory_unasked_iff path, result]
  fun_induction makeDirectories s path with
  | case1 path made result => exact asked s result
  | case2 path _ missing result => exact asked s result
  | case3 path _ missing result _ above error further ih =>
    have askable : path.Askable := by
      by_contra unaskable
      simpa [FileError.isSystem] using (asked s result).mpr unaskable
    rw [further] at ih
    exact ih.trans ⟨fun stuck => absurd askable.above stuck, fun stuck => absurd askable stuck⟩
  | case4 path _ _ _ _ above _ made result => exact asked above result
  | case5 path _ _ _ _ above _ _ missing result => exact asked above result
  | case6 path _ _ _ _ above _ _ error _ result =>
    exact (above.unlessDirectory_unasked_iff path error).trans (asked above result)
  | case7 path _ error _ result =>
    exact (s.unlessDirectory_unasked_iff path error).trans (asked s result)

end Asking

section Following

variable {s t : FileStore} {path : Path} {location target : Location}

def SameDirectories (s t : FileStore) : Prop :=
  ∀ location, s.get? location = some .directory ↔ t.get? location = some .directory

theorem descend_cons_eq_ok_iff {name : Utf8.Bytes} {rest : List Utf8.Bytes} :
    s.descend path location (name :: rest) = .ok target ↔
      s.get? location = some .directory ∧ name.length ≤ longestName ∧
        s.descend path (if name = dotDot then location.dropLast else location ++ [name]) rest =
          .ok target := by
  rw [descend]
  split
  · next there =>
    by_cases long : longestName < name.length
    · simp [long, there, Nat.not_le_of_lt long]
    · simp [long, there, Nat.le_of_not_lt long]
  · next there => simp [there]
  · next there => simp [there]

def KeepsDirectories (s t : FileStore) : Prop :=
  ∀ location, s.get? location = some .directory → t.get? location = some .directory

theorem KeepsDirectories.descend (keeps : KeepsDirectories s t) {names : List Utf8.Bytes}
    (reached : s.descend path location names = .ok target) :
    t.descend path location names = .ok target := by
  induction names generalizing location with
  | nil => exact reached
  | cons name rest ih =>
    obtain ⟨there, short, further⟩ := descend_cons_eq_ok_iff.mp reached
    exact descend_cons_eq_ok_iff.mpr ⟨keeps location there, short, ih further⟩

theorem locate_eq_ok_iff :
    s.locate path = .ok target ↔
      path.Askable ∧ (FileName.bytes path.text).length ≤ longestPath ∧
        s.descend path [] (locationOf path) = .ok target := by
  by_cases askable : path.Askable
  · rw [locate_of_askable s askable]
    split
    · next long => simp [Nat.not_le_of_lt long]
    · next short => simp [askable, Nat.le_of_not_lt short]
  · simp only [askable, false_and, iff_false]
    exact fun found => askable (askable_of_locate found)

theorem KeepsDirectories.locate (keeps : KeepsDirectories s t)
    (leads : s.locate path = .ok target) : t.locate path = .ok target := by
  obtain ⟨clean, short, reached⟩ := locate_eq_ok_iff.mp leads
  exact locate_eq_ok_iff.mpr ⟨clean, short, keeps.descend reached⟩

theorem SameDirectories.locate (same : SameDirectories s t) :
    s.locate path = .ok target ↔ t.locate path = .ok target := by
  have forth : KeepsDirectories s t := fun location => (same location).mp
  have back : KeepsDirectories t s := fun location => (same location).mpr
  exact ⟨forth.locate, back.locate⟩

theorem read_eq_ok_iff {content : Utf8.Bytes} :
    s.read path = .ok content ↔
      ∃ location, s.locate path = .ok location ∧ s.get? location = some (.file content) := by
  unfold read
  cases s.locate path with
  | error e => simp
  | ok location =>
    cases found : s.get? location with
    | none => simp [found]
    | some entry => cases entry <;> simp [found]

theorem isDirectory_iff :
    s.isDirectory path = true ↔
      ∃ location, s.locate path = .ok location ∧ s.get? location = some .directory := by
  unfold isDirectory find?
  cases s.locate path with
  | error e => simp
  | ok location => simp

theorem SameDirectories.isDirectory (same : SameDirectories s t) :
    s.isDirectory path = true ↔ t.isDirectory path = true := by
  simp only [isDirectory_iff, same.locate, same _]

theorem getLast?_of_descend {names : List Utf8.Bytes} {name : Utf8.Bytes}
    (reached : s.descend path location names = .ok target) (last : names.getLast? = some name)
    (down : name ≠ dotDot) : target.getLast? = some name := by
  induction names generalizing location with
  | nil => cases last
  | cons first rest ih =>
    obtain ⟨_, _, further⟩ := descend_cons_eq_ok_iff.mp reached
    cases rest with
    | nil =>
      obtain rfl : first = name := by simpa using last
      rw [if_neg down] at further
      obtain rfl : location ++ [first] = target := Except.ok.inj further
      simp
    | cons next more =>
      rw [List.getLast?_cons_cons] at last
      exact ih further last

theorem getLast?_locationOf (named : path.fileName ≠ []) :
    (locationOf path).getLast? = some (FileName.bytes path.fileName) := by
  have last : path.parts.getLast? = some path.fileName := by
    unfold Path.fileName at named ⊢
    cases parts : path.parts.getLast? with
    | none => simp [parts] at named
    | some name => rfl
  have absolute : path.absolute.parts.getLast? = some path.fileName := by
    obtain ⟨anchor, parts, clean⟩ := path
    cases anchor with
    | relative =>
      change (Path.workingDirectory.parts ++ parts).getLast? = _
      rw [List.getLast?_append, last]
      rfl
    | root => exact last
    | doubleRoot => exact last
  rw [locationOf, List.getLast?_map, absolute]
  rfl

theorem encodable_fileName (askable : path.Askable) : FileName.Encodable path.fileName := by
  unfold Path.fileName
  cases last : path.parts.getLast? with
  | none => exact nofun
  | some name => exact (askable name (List.mem_of_getLast? last)).1

theorem getLast?_of_locate (found : s.locate path = .ok target) (named : path.fileName ≠ [])
    (down : path.fileName ≠ "..".text) :
    target.getLast? = some (FileName.bytes path.fileName) := by
  obtain ⟨askable, _, reached⟩ := locate_eq_ok_iff.mp found
  refine getLast?_of_descend reached (getLast?_locationOf named) fun up => down ?_
  exact FileName.eq_of_bytes_eq (by decide) (encodable_fileName askable) up

end Following

section Writing

variable {s : FileStore} {path other : Path} {location : Location} {found : Utf8.Bytes}
  {content : Except Utf8.Unencodable Utf8.Bytes}

theorem ne_root_of_free (free : s.get? location ≠ some .directory) : location ≠ [] := by
  rintro rfl
  exact free rfl

theorem sameDirectories_put (free : s.get? location ≠ some .directory) (content : Utf8.Bytes) :
    SameDirectories s (s.put location (.file content)) := by
  intro place
  rw [s.get?_put (ne_root_of_free free)]
  split
  · next same =>
    rw [same]
    exact ⟨fun there => absurd there free, nofun⟩
  · rfl

theorem put_put (s : FileStore) (location : Location) (first second : FileEntry) :
    (s.put location first).put location second = s.put location second := by
  unfold put
  simp only [Table.update_update]

/-- What a write can leave in a file that it opened: its content, or a beginning of it with an error. -/
structure Filled (content : Except Utf8.Unencodable Utf8.Bytes) (bytes : Utf8.Bytes)
    (error : Option FileError) : Prop where
  beginning : bytes <+: content.toOption.getD []
  whole : error = none → content = .ok bytes
  unasked : Unasked error ↔ ∃ place, content = .error place

theorem fill_cases (s : FileStore) (location : Location)
    (content : Except Utf8.Unencodable Utf8.Bytes) :
    ∃ bytes error, Filled content bytes error ∧
      (s.put location (.file [])).fill location content =
        (s.put location (.file bytes), error) := by
  unfold fill
  cases content with
  | error place =>
    refine ⟨[], some (.unencodable place), ⟨List.nil_prefix, nofun, ?_⟩, rfl⟩
    simp [FileError.isSystem]
  | ok bytes =>
    dsimp only
    split
    · next written error _ =>
      refine ⟨bytes.take written, some (.brokenOff error), ⟨List.take_prefix _ _, nofun, ?_⟩, ?_⟩
      · simp [FileError.isSystem]
      · rw [put_put]
    · refine ⟨bytes, none, ⟨List.prefix_rfl, fun _ => rfl, by simp⟩, ?_⟩
      rw [put_put]

structure Opens (s : FileStore) (path : Path) (location : Location) : Prop where
  leads : s.locate path = .ok location
  free : s.get? location ≠ some .directory
  granted : s.device.refuses s.table location = none

theorem write_of_opens (opens : s.Opens path location)
    (content : Except Utf8.Unencodable Utf8.Bytes) :
    s.write path content = (s.put location (.file [])).fill location content := by
  simp [write, opens.leads, opens.free, opens.granted]

theorem write_of_not_opens (shut : ∀ location, ¬ s.Opens path location)
    (content : Except Utf8.Unencodable Utf8.Bytes) :
    ∃ error, s.write path content = (s, some error) ∧
      (error.isSystem = false ↔ ¬ path.Askable) := by
  unfold write
  cases found : s.locate path with
  | error e => exact ⟨e, rfl, isSystem_of_locate found⟩
  | ok location =>
    have askable := askable_of_locate found
    dsimp only
    split
    · exact ⟨_, rfl, by simp [FileError.isSystem, askable]⟩
    · next free =>
      cases refused : s.device.refuses s.table location with
      | some error => exact ⟨_, rfl, by simp [FileError.isSystem, askable]⟩
      | none => exact absurd ⟨found, free, refused⟩ (shut location)

theorem makeDirectories_of_isDirectory (there : s.isDirectory path = true) :
    s.makeDirectories path = (s, none) := by
  obtain ⟨location, leads, directory⟩ := isDirectory_iff.mp there
  have present : s.makeDirectory path = (s, some (.alreadyExists path)) := by
    simp [makeDirectory, leads, directory]
  rw [makeDirectories, present]
  simp [unlessDirectory, FileError.isSystem, there]

theorem writeWithParents_of_isDirectory (there : s.isDirectory path.parent = true)
    (content : Except Utf8.Unencodable Utf8.Bytes) :
    s.writeWithParents path content = s.write path content := by
  rw [writeWithParents, makeDirectories_of_isDirectory there]

theorem write_cases (s : FileStore) (path : Path)
    (content : Except Utf8.Unencodable Utf8.Bytes) :
    (s.write path content).1 = s ∨
      ∃ location bytes, s.Opens path location ∧
        (s.write path content).1 = s.put location (.file bytes) := by
  by_cases opened : ∃ location, s.Opens path location
  · obtain ⟨location, opens⟩ := opened
    obtain ⟨bytes, error, _, result⟩ := s.fill_cases location content
    exact .inr ⟨location, bytes, opens, by rw [write_of_opens opens, result]⟩
  · obtain ⟨error, failed, _⟩ := write_of_not_opens (not_exists.mp opened) content
    exact .inl (by rw [failed])

theorem isDirectory_writeWithParents (there : s.isDirectory path.parent = true)
    (content : Except Utf8.Unencodable Utf8.Bytes) (other : Path) :
    (s.writeWithParents path content).1.isDirectory other = true ↔ s.isDirectory other = true := by
  rw [writeWithParents_of_isDirectory there]
  rcases s.write_cases path content with same | ⟨location, bytes, opens, written⟩
  · rw [same]
  · rw [written]
    exact (sameDirectories_put opens.free bytes).isDirectory.symm

/-- Writing the same once more leaves the same, whatever either write comes to: the file is emptied
before, and from there the device has no choice. -/
theorem writeWithParents_again (there : s.isDirectory path.parent = true)
    (content : Except Utf8.Unencodable Utf8.Bytes) :
    ((s.writeWithParents path content).1.writeWithParents path content).1 =
      (s.writeWithParents path content).1 := by
  have still := (isDirectory_writeWithParents there content path.parent).mpr there
  rw [writeWithParents_of_isDirectory still, writeWithParents_of_isDirectory there]
  by_cases opened : ∃ location, s.Opens path location
  · obtain ⟨location, opens⟩ := opened
    obtain ⟨bytes, error, _, result⟩ := s.fill_cases location content
    rw [write_of_opens opens, result]
    by_cases again : ∃ place, (s.put location (.file bytes)).Opens path place
    · obtain ⟨place, opensAgain⟩ := again
      have leads := (sameDirectories_put opens.free bytes).locate.mp opens.leads
      obtain rfl : location = place := Except.ok.inj (leads.symm.trans opensAgain.leads)
      rw [write_of_opens opensAgain, put_put, result]
    · obtain ⟨_, failed, _⟩ := write_of_not_opens (not_exists.mp again) content
      rw [failed]
  · obtain ⟨_, failed, _⟩ := write_of_not_opens (not_exists.mp opened) content
    rw [failed, failed]

theorem read_writeWithParents (there : s.isDirectory path.parent = true)
    (named : path.fileName ≠ [] ∧ path.fileName ≠ "..".text)
    (otherNamed : other.fileName ≠ [] ∧ other.fileName ≠ "..".text)
    (ascii : ∀ c ∈ path.fileName, c.toNat < 0x80) (apart : other.fileName ≠ path.fileName) :
    (s.writeWithParents path content).1.read other = .ok found ↔ s.read other = .ok found := by
  rw [writeWithParents_of_isDirectory there]
  rcases s.write_cases path content with same | ⟨location, bytes, opens, written⟩
  · rw [same]
  · rw [written, read_eq_ok_iff, read_eq_ok_iff]
    have same := sameDirectories_put opens.free bytes
    refine exists_congr fun place => ?_
    rw [← same.locate]
    refine and_congr_right fun reached => ?_
    have elsewhere : place ≠ location := by
      rintro rfl
      have last := getLast?_of_locate opens.leads named.1 named.2
      rw [getLast?_of_locate reached otherNamed.1 otherNamed.2] at last
      exact apart (FileName.eq_of_bytes_eq ascii (encodable_fileName (askable_of_locate reached))
        (Option.some.inj last))
    rw [s.get?_put (ne_root_of_free opens.free), if_neg elsewhere]

end Writing

section Adding

variable {s t u : FileStore}

def SameFiles (s t : FileStore) : Prop :=
  ∀ location content, s.get? location = some (.file content) ↔ t.get? location = some (.file content)

structure AddsDirectories (s t : FileStore) : Prop where
  directories : KeepsDirectories s t
  files : SameFiles s t

namespace AddsDirectories

theorem refl (s : FileStore) : AddsDirectories s s where
  directories := fun _ there => there
  files := fun _ _ => Iff.rfl

theorem trans (first : AddsDirectories s t) (second : AddsDirectories t u) :
    AddsDirectories s u where
  directories := fun location there =>
    second.directories location (first.directories location there)
  files := fun location content => (first.files location content).trans (second.files location content)

end AddsDirectories

theorem addsDirectories_put {location : Location} (free : s.get? location = none) :
    AddsDirectories s (s.put location .directory) := by
  have noDirectory : s.get? location ≠ some .directory := by simp [free]
  have below := ne_root_of_free noDirectory
  constructor
  · intro place there
    rw [s.get?_put below]
    split
    · rfl
    · exact there
  · intro place content
    rw [s.get?_put below]
    split
    · next same => simp [same, free]
    · rfl

theorem addsDirectories_makeDirectory (s : FileStore) (path : Path) :
    AddsDirectories s (s.makeDirectory path).1 := by
  unfold makeDirectory
  cases s.locate path with
  | error e => exact .refl s
  | ok location =>
    dsimp only
    split
    · exact .refl s
    · next free =>
      split
      · exact .refl s
      · exact addsDirectories_put (Option.not_isSome_iff_eq_none.mp free)

/-- Whether or not it comes to the last one, making directories touches no file. -/
theorem addsDirectories_makeDirectories (s : FileStore) (path : Path) :
    AddsDirectories s (s.makeDirectories path).1 := by
  have one : ∀ (s : FileStore) {path made error}, s.makeDirectory path = (made, error) →
      AddsDirectories s made := by
    intro s path made error result
    have adds := s.addsDirectories_makeDirectory path
    rw [result] at adds
    exact adds
  fun_induction makeDirectories s path with
  | case1 path made result => exact one s result
  | case2 => exact .refl s
  | case3 path _ _ _ _ above error further ih =>
    rw [further] at ih
    exact ih
  | case4 path _ _ _ _ above further made result ih =>
    rw [further] at ih
    exact ih.trans (one above result)
  | case5 path _ _ _ _ above further _ _ _ ih =>
    rw [further] at ih
    exact ih
  | case6 path _ _ _ _ above further _ _ _ _ ih =>
    rw [further] at ih
    exact ih
  | case7 => exact .refl s

/-- The directories above a file are there or can be made, and then the file can be opened. -/
def OpensBelow (s : FileStore) (path : Path) (location : Location) : Prop :=
  (s.makeDirectories path.parent).2 = none ∧ (s.makeDirectories path.parent).1.Opens path location

variable {path : Path} {location : Location}

theorem writeWithParents_of_made (made : (s.makeDirectories path.parent).2 = none)
    (content : Except Utf8.Unencodable Utf8.Bytes) :
    s.writeWithParents path content = (s.makeDirectories path.parent).1.write path content := by
  unfold writeWithParents
  cases outcome : s.makeDirectories path.parent with
  | mk store error =>
    obtain rfl : error = none := by rw [outcome] at made; exact made
    rfl

theorem writeWithParents_of_opens (opens : s.OpensBelow path location)
    (content : Except Utf8.Unencodable Utf8.Bytes) :
    ∃ made bytes error, AddsDirectories s made ∧ made.Opens path location ∧
      Filled content bytes error ∧
      s.writeWithParents path content = (made.put location (.file bytes), error) := by
  obtain ⟨made, opened⟩ := opens
  obtain ⟨bytes, error, filled, result⟩ :=
    (s.makeDirectories path.parent).1.fill_cases location content
  refine ⟨_, bytes, error, s.addsDirectories_makeDirectories path.parent, opened, filled, ?_⟩
  rw [writeWithParents_of_made made, write_of_opens opened, result]

theorem writeWithParents_of_not_opens (shut : ∀ location, ¬ s.OpensBelow path location)
    (content : Except Utf8.Unencodable Utf8.Bytes) :
    ∃ made error, AddsDirectories s made ∧
      s.writeWithParents path content = (made, some error) ∧
      (error.isSystem = false ↔
        ¬ path.parent.Askable ∨ (s.makeDirectories path.parent).2 = none ∧ ¬ path.Askable) := by
  have adds := s.addsDirectories_makeDirectories path.parent
  have asked := s.makeDirectories_unasked_iff path.parent
  cases outcome : (s.makeDirectories path.parent).2 with
  | some error =>
    refine ⟨_, error, adds, ?_, ?_⟩
    · unfold writeWithParents
      split
      · next result => rw [result] at outcome; cases outcome
      · exact Prod.ext rfl outcome
    · rw [outcome, unasked_some_iff] at asked
      simp [asked]
  | none =>
    rw [outcome] at asked
    obtain ⟨error, failed, system⟩ :=
      write_of_not_opens (fun location opened => shut location ⟨outcome, opened⟩) content
    refine ⟨_, error, adds, by rw [writeWithParents_of_made outcome, failed], system.trans ?_⟩
    have above : path.parent.Askable := by simpa using asked
    simp [above]

theorem writeWithParents_unasked_iff (s : FileStore) (path : Path)
    (content : Except Utf8.Unencodable Utf8.Bytes) :
    Unasked (s.writeWithParents path content).2 ↔
      ¬ path.parent.Askable ∨
        (s.makeDirectories path.parent).2 = none ∧ ¬ path.Askable ∨
        (∃ location, s.OpensBelow path location) ∧ ∃ place, content = .error place := by
  by_cases opened : ∃ location, s.OpensBelow path location
  · obtain ⟨location, opens⟩ := opened
    have askable := askable_of_locate opens.2.leads
    obtain ⟨_, _, _, _, _, filled, result⟩ := writeWithParents_of_opens opens content
    rw [result, filled.unasked]
    simp only [askable, askable.above, not_true_eq_false, and_false, false_or]
    exact ⟨fun stuck => ⟨⟨location, opens⟩, stuck⟩, fun both => both.2⟩
  · obtain ⟨made, error, _, result, system⟩ :=
      writeWithParents_of_not_opens (not_exists.mp opened) content
    rw [result, unasked_some_iff, system]
    simp only [opened, false_and, or_false]

end Adding

end FileStore
end DeclGen
