import DeclGen.Proofs.FileStore
import Mathlib.Data.List.Nodup

/-!
File stores that are trees. In a tree each location is listed once, under names that a directory can
hold, and lies in a directory; whatever is written or made keeps it so. Walking down from a directory
then meets everything below it once, and the path put together on the way leads to what was met, unless
it has become longer than the system takes.
-/
namespace DeclGen

namespace FileStore

open Utf8 (Bytes)

structure IsName (name : Bytes) : Prop where
  some : name ≠ []
  onward : name ≠ [0x2E]
  down : name ≠ dotDot
  slash : 0x2F ∉ name
  clean : 0 ∉ name
  short : name.length ≤ longestName

theorem isName_bytes {part : Text} (isPart : Path.isPart part = true)
    (askable : FileName.Encodable part ∧ CodePoint.char (Char.ofNat 0) ∉ part)
    (down : FileName.bytes part ≠ dotDot)
    (short : (FileName.bytes part).length ≤ longestName) : IsName (FileName.bytes part) := by
  obtain ⟨encodable, clean⟩ := askable
  have slash := Path.slash_not_mem isPart
  simp only [Path.isPart, Bool.and_eq_true, Bool.not_eq_true', bne_iff_ne, ne_eq,
    List.isEmpty_eq_false_iff] at isPart
  obtain ⟨⟨some, onward⟩, _⟩ := isPart
  refine ⟨?_, ?_, down, ?_, ?_, short⟩
  · rwa [Ne, FileName.bytes_eq_nil_iff encodable]
  · intro dot
    exact onward (FileName.eq_of_bytes_eq (u := ".".text) (by decide) encodable dot)
  · exact fun inside => slash ((FileName.ofNat_mem_bytes_iff (by decide) encodable).mp inside)
  · exact fun inside => clean ((FileName.ofNat_mem_bytes_iff (by decide) encodable).mp inside)

theorem isPart_text {name : Bytes} (named : IsName name) : Path.isPart (FileName.text name) = true := by
  have back := FileName.bytes_text name
  have encodable := FileName.encodable_text name
  simp only [Path.isPart, Bool.and_eq_true, Bool.not_eq_true', bne_iff_ne, ne_eq,
    List.isEmpty_eq_false_iff]
  refine ⟨⟨?_, ?_⟩, ?_⟩
  · intro none
    rw [none] at back
    exact named.some back.symm
  · intro dot
    rw [dot] at back
    exact named.onward back.symm
  · refine eq_false_of_ne_true fun inside => named.slash ?_
    rw [← back]
    exact (FileName.ofNat_mem_bytes_iff (by decide) encodable).mpr (List.contains_iff_mem.mp inside)

theorem null_not_mem_text {name : Bytes} (named : IsName name) :
    CodePoint.char (Char.ofNat 0) ∉ FileName.text name := by
  intro inside
  have byte := (FileName.ofNat_mem_bytes_iff (by decide) (FileName.encodable_text name)).mpr inside
  rw [FileName.bytes_text] at byte
  exact named.clean byte

structure IsTree (s : FileStore) : Prop where
  once : s.table.keys.Nodup
  named : ∀ location ∈ s.table.keys, ∀ name ∈ location, IsName name
  inside : ∀ location ∈ s.table.keys, s.get? location.dropLast = some .directory

section Entries

variable {s : FileStore} {location : Location} {entry : FileEntry}

theorem mem_keys_of_get (below : location ≠ []) (there : s.get? location = some entry) :
    location ∈ s.table.keys := by
  rw [← Table.contains_iff_mem_keys, Table.contains]
  have found : s.table.get? location = some entry := by simpa [get?, below] using there
  rw [found]
  rfl

theorem exists_get_of_mem_keys (below : location ≠ []) (listed : location ∈ s.table.keys) :
    ∃ entry, s.get? location = some entry := by
  rw [← Table.contains_iff_mem_keys, Table.contains, Option.isSome_iff_exists] at listed
  obtain ⟨entry, found⟩ := listed
  exact ⟨entry, by simpa [get?, below] using found⟩

variable (tree : s.IsTree)
include tree

theorem IsTree.above (there : s.get? location = some entry) :
    s.get? location.dropLast = some .directory := by
  by_cases root : location = []
  · rw [root]
    rfl
  · exact tree.inside location (mem_keys_of_get root there)

theorem IsTree.directory_above {names : List Bytes} (down : names ≠ [])
    (there : s.get? (location ++ names) = some entry) : s.get? location = some .directory := by
  induction names using List.reverseRecOn generalizing entry with
  | nil => exact absurd rfl down
  | append_singleton front last ih =>
    have above := tree.above there
    rw [← List.append_assoc, List.dropLast_concat] at above
    by_cases first : front = []
    · rwa [first, List.append_nil] at above
    · exact ih first above

theorem IsTree.isName {names : List Bytes} (there : s.get? (location ++ names) = some entry) :
    ∀ name ∈ names, IsName name := by
  intro name member
  have below : location ++ names ≠ [] := by
    intro empty
    rw [(List.append_eq_nil_iff.mp empty).2] at member
    cases member
  exact tree.named _ (mem_keys_of_get below there) name (List.mem_append_right _ member)

end Entries

section Operations

variable {s : FileStore} {path : Path} {location target : Location}

theorem isTree_empty : empty.IsTree where
  once := by decide
  named := by
    intro location listed name member
    have only : location = locationOf Path.here := List.mem_singleton.mp listed
    have work : name = FileName.bytes "work".text := by
      rw [only] at member
      exact List.mem_singleton.mp member
    rw [work]
    exact ⟨by decide, by decide, by decide, by decide, by decide, by decide⟩
  inside := by
    intro location listed
    have only : location = locationOf Path.here := List.mem_singleton.mp listed
    rw [only]
    rfl

theorem keys_put (entry : FileEntry) (place : Location) :
    place ∈ (s.put location entry).table.keys ↔ place ∈ s.table.keys ∨ place = location := by
  rw [put, Table.keys_update]
  split
  · next known =>
    have listed := (Table.contains_iff_mem_keys _ _).mp known
    constructor
    · exact .inl
    · rintro (old | rfl)
      · exact old
      · exact listed
  · simp

theorem IsTree.put (tree : s.IsTree) (named : ∀ name ∈ location, IsName name)
    (above : s.get? location.dropLast = some .directory)
    (free : s.get? location ≠ some .directory) (entry : FileEntry) :
    (s.put location entry).IsTree where
  once := by
    rw [FileStore.put, Table.keys_update]
    split
    · exact tree.once
    · next new =>
      rw [Table.contains_iff_mem_keys] at new
      exact List.nodup_append.mpr ⟨tree.once, by simp, by
        intro a old b fresh same
        rw [List.mem_singleton.mp fresh] at same
        exact new (same ▸ old)⟩
  named := by
    intro place listed
    rcases (keys_put entry place).mp listed with old | rfl
    · exact tree.named place old
    · exact named
  inside := by
    intro place listed
    have directory : s.get? place.dropLast = some .directory := by
      rcases (keys_put entry place).mp listed with old | rfl
      · exact tree.inside place old
      · exact above
    -- the directory around an entry is never the place that was free
    have apart : place.dropLast ≠ location := by
      intro same
      rw [same] at directory
      exact free directory
    rw [s.get?_put (ne_root_of_free free), if_neg apart, directory]

theorem IsTree.descend (tree : s.IsTree) {names : List Bytes}
    (fit : ∀ name ∈ names, name ≠ dotDot → name.length ≤ longestName → IsName name)
    (named : ∀ name ∈ location, IsName name) (above : s.get? location.dropLast = some .directory)
    (reached : s.descend path location names = .ok target) :
    (∀ name ∈ target, IsName name) ∧ s.get? target.dropLast = some .directory := by
  induction names generalizing location with
  | nil =>
    obtain rfl := Except.ok.inj reached
    exact ⟨named, above⟩
  | cons name rest ih =>
    obtain ⟨there, short, further⟩ := descend_cons_eq_ok_iff.mp reached
    have later : ∀ other ∈ rest, other ≠ dotDot → other.length ≤ longestName → IsName other :=
      fun other member => fit other (List.mem_cons_of_mem _ member)
    by_cases up : name = dotDot
    · rw [if_pos up] at further
      refine ih later ?_ (tree.above above) further
      intro other member
      exact named other (List.dropLast_subset _ member)
    · rw [if_neg up] at further
      refine ih later ?_ (by rw [List.dropLast_concat]; exact there) further
      intro other member
      rcases List.mem_append.mp member with old | new
      · exact named other old
      · rw [List.mem_singleton.mp new]
        exact fit name List.mem_cons_self up short

theorem askable_absolute (askable : path.Askable) : path.absolute.Askable := by
  intro part member
  obtain ⟨anchor, parts, clean⟩ := path
  cases anchor with
  | relative =>
    rcases List.mem_append.mp member with work | mine
    · obtain rfl : part = "work".text := List.mem_singleton.mp work
      decide
    · exact askable part mine
  | root => exact askable part member
  | doubleRoot => exact askable part member

theorem isName_of_mem_locationOf (askable : path.Askable) :
    ∀ name ∈ locationOf path, name ≠ dotDot → name.length ≤ longestName → IsName name := by
  intro name member down short
  obtain ⟨part, listed, rfl⟩ := List.mem_map.mp member
  exact isName_bytes (path.absolute.clean part listed) (askable_absolute askable part listed) down short

theorem IsTree.locate (tree : s.IsTree) (leads : s.locate path = .ok target) :
    (∀ name ∈ target, IsName name) ∧ s.get? target.dropLast = some .directory := by
  obtain ⟨askable, _, reached⟩ := locate_eq_ok_iff.mp leads
  exact tree.descend (isName_of_mem_locationOf askable) (by simp) rfl reached

theorem IsTree.write (tree : s.IsTree) (path : Path)
    (content : Except Utf8.Unencodable Bytes) : (s.write path content).1.IsTree := by
  rcases s.write_cases path content with same | ⟨location, bytes, opens, written⟩
  · rw [same]
    exact tree
  · obtain ⟨named, above⟩ := tree.locate opens.leads
    rw [written]
    exact tree.put named above opens.free _

theorem IsTree.makeDirectory (tree : s.IsTree) (path : Path) : (s.makeDirectory path).1.IsTree := by
  unfold FileStore.makeDirectory
  cases leads : s.locate path with
  | error e => exact tree
  | ok location =>
    dsimp only
    split
    · exact tree
    · next missing =>
      split
      · exact tree
      · obtain ⟨named, above⟩ := tree.locate leads
        have free : s.get? location ≠ some .directory := by
          rw [Option.not_isSome_iff_eq_none.mp missing]
          exact nofun
        exact tree.put named above free .directory

theorem IsTree.makeDirectories (tree : s.IsTree) (path : Path) :
    (s.makeDirectories path).1.IsTree := by
  have one : ∀ {s : FileStore} {path made error}, s.IsTree → s.makeDirectory path = (made, error) →
      made.IsTree := by
    intro s path made error tree result
    have kept := tree.makeDirectory path
    rwa [result] at kept
  fun_induction FileStore.makeDirectories s path with
  | case1 path made result => exact one tree result
  | case2 => exact tree
  | case3 path _ _ _ _ above error further ih =>
    rw [further] at ih
    exact ih
  | case4 path _ _ _ _ above further made result ih =>
    rw [further] at ih
    exact one ih result
  | case5 path _ _ _ _ above further _ _ _ ih =>
    rw [further] at ih
    exact ih
  | case6 path _ _ _ _ above further _ _ _ _ ih =>
    rw [further] at ih
    exact ih
  | case7 => exact tree

theorem IsTree.writeWithParents (tree : s.IsTree) (path : Path)
    (content : Except Utf8.Unencodable Bytes) : (s.writeWithParents path content).1.IsTree := by
  have made := tree.makeDirectories path.parent
  unfold FileStore.writeWithParents
  split
  · next result =>
    rw [result] at made
    exact made.write path content
  · exact made

end Operations

section Walking

variable {s : FileStore} {location place : Location} {levels : Nat}

theorem mem_children :
    place ∈ s.children location ↔ place ∈ s.table.keys ∧ ∃ name, place = location ++ [name] := by
  rw [children, List.mem_filter, decide_eq_true_eq]
  refine and_congr_right fun _ => ?_
  constructor
  · rintro ⟨nonempty, rfl⟩
    exact ⟨place.getLast nonempty, (List.dropLast_concat_getLast nonempty).symm⟩
  · rintro ⟨name, rfl⟩
    simp

theorem prefix_of_mem_below (met : place ∈ s.below levels location) :
    ∃ names, names ≠ [] ∧ place = location ++ names := by
  induction levels generalizing location with
  | zero => cases met
  | succ levels ih =>
    rcases List.mem_append.mp met with here | deeper
    · obtain ⟨_, name, rfl⟩ := mem_children.mp here
      exact ⟨[name], by simp, rfl⟩
    · obtain ⟨child, held, further⟩ := List.mem_flatMap.mp deeper
      obtain ⟨_, name, rfl⟩ := mem_children.mp (List.mem_filter.mp held).1
      obtain ⟨names, _, rfl⟩ := ih further
      exact ⟨name :: names, by simp, by simp⟩

theorem IsTree.mem_below (tree : s.IsTree) :
    place ∈ s.below levels location ↔
      place ∈ s.table.keys ∧ ∃ names, names ≠ [] ∧ names.length ≤ levels ∧ place = location ++ names := by
  induction levels generalizing location with
  | zero =>
    constructor
    · intro met
      cases met
    · rintro ⟨_, names, down, none, _⟩
      exact absurd (List.length_eq_zero_iff.mp (Nat.le_zero.mp none)) down
  | succ levels ih =>
    rw [below, List.mem_append, List.mem_flatMap]
    constructor
    · rintro (here | ⟨child, held, further⟩)
      · obtain ⟨listed, name, parts⟩ := mem_children.mp here
        exact ⟨listed, [name], by simp, by simp, parts⟩
      · obtain ⟨_, name, rfl⟩ := mem_children.mp (List.mem_filter.mp held).1
        obtain ⟨listed, names, _, few, rfl⟩ := ih.mp further
        exact ⟨listed, name :: names, by simp, by simpa using few, by simp⟩
    · rintro ⟨listed, names, down, few, rfl⟩
      obtain ⟨name, rest, rfl⟩ := List.exists_cons_of_ne_nil down
      cases rest with
      | nil => exact .inl (mem_children.mpr ⟨listed, name, rfl⟩)
      | cons next more =>
        -- what lies deeper is met from the directory that the first name leads to
        have parts : location ++ name :: next :: more = location ++ [name] ++ (next :: more) := by simp
        obtain ⟨entry, there⟩ := exists_get_of_mem_keys (by simp) listed
        rw [parts] at there
        have directory := tree.directory_above (by simp) there
        have child : location ++ [name] ∈ s.children location :=
          mem_children.mpr ⟨mem_keys_of_get (by simp) directory, name, rfl⟩
        exact .inr ⟨_, List.mem_filter.mpr ⟨child, by simp [directory]⟩,
          ih.mpr ⟨listed, next :: more, by simp, by simpa using few, parts⟩⟩

theorem IsTree.nodup_below (tree : s.IsTree) : (s.below levels location).Nodup := by
  induction levels generalizing location with
  | zero => exact .nil
  | succ levels ih =>
    have once : (s.children location).Nodup := tree.once.filter _
    rw [below]
    refine List.nodup_append.mpr ⟨once, List.nodup_flatMap.mpr ⟨fun child _ => ih, ?_⟩, ?_⟩
    · -- what lies below two children begins with different names
      refine (once.filter _).imp_of_mem ?_
      intro first second held other apart place met again
      obtain ⟨_, name, rfl⟩ := mem_children.mp (List.mem_filter.mp held).1
      obtain ⟨_, next, rfl⟩ := mem_children.mp (List.mem_filter.mp other).1
      obtain ⟨names, _, rfl⟩ := prefix_of_mem_below met
      obtain ⟨more, _, same⟩ := prefix_of_mem_below again
      simp only [List.append_assoc, List.append_cancel_left_eq, List.singleton_append,
        List.cons.injEq] at same
      exact apart (by rw [same.1])
    · intro child held place met same
      obtain ⟨other, inside, further⟩ := List.mem_flatMap.mp met
      obtain ⟨_, name, rfl⟩ := mem_children.mp held
      obtain ⟨_, next, rfl⟩ := mem_children.mp (List.mem_filter.mp inside).1
      obtain ⟨names, down, rfl⟩ := prefix_of_mem_below further
      have longer := congrArg List.length same
      simp only [List.length_append, List.length_singleton] at longer
      exact down (List.length_eq_zero_iff.mp (by omega))

theorem length_le_depth (listed : place ∈ s.table.keys) : place.length ≤ s.depth := by
  unfold depth
  generalize s.table.keys = places at listed ⊢
  induction places with
  | nil => cases listed
  | cons first rest ih =>
    rw [List.foldr_cons]
    rcases List.mem_cons.mp listed with rfl | later
    · exact Nat.le_max_left _ _
    · exact Nat.le_trans (ih later) (Nat.le_max_right _ _)

theorem IsTree.mem_below_depth (tree : s.IsTree) :
    place ∈ s.below s.depth location ↔
      ∃ names entry, names ≠ [] ∧ place = location ++ names ∧ s.get? place = some entry := by
  rw [tree.mem_below]
  constructor
  · rintro ⟨listed, names, down, _, rfl⟩
    obtain ⟨entry, there⟩ := exists_get_of_mem_keys (by simp [down]) listed
    exact ⟨names, entry, down, rfl, there⟩
  · rintro ⟨names, entry, down, rfl, there⟩
    have listed := mem_keys_of_get (by simp [down]) there
    have deep := length_le_depth listed
    rw [List.length_append] at deep
    exact ⟨listed, names, down, by omega, rfl⟩

end Walking

section Paths

variable {s : FileStore} {path q : Path} {location : Location} {entry : FileEntry}

/-- An entry at some depth below the directory that a path leads to, under its path from there on. -/
def EntryBelow (s : FileStore) (path q : Path) (entry : FileEntry) : Prop :=
  ∃ location names, s.locate path = .ok location ∧ names ≠ [] ∧
    s.get? (location ++ names) = some entry ∧ q.anchor = path.anchor ∧
    q.parts = path.parts ++ names.map FileName.text

def pathTo (path : Path) (names : List Bytes) : Path :=
  path.join (Path.normal .relative (names.map FileName.text))

theorem anchor_pathTo (path : Path) (names : List Bytes) : (pathTo path names).anchor = path.anchor :=
  Path.anchor_join rfl

theorem filter_isPart_texts {names : List Bytes} (named : ∀ name ∈ names, IsName name) :
    (names.map FileName.text).filter Path.isPart = names.map FileName.text := by
  refine List.filter_eq_self.mpr ?_
  intro part member
  obtain ⟨name, listed, rfl⟩ := List.mem_map.mp member
  exact isPart_text (named name listed)

theorem parts_pathTo (path : Path) {names : List Bytes} (named : ∀ name ∈ names, IsName name) :
    (pathTo path names).parts = path.parts ++ names.map FileName.text := by
  rw [pathTo, Path.parts_join rfl]
  exact congrArg _ (filter_isPart_texts named)

theorem eq_pathTo {names : List Bytes} (named : ∀ name ∈ names, IsName name)
    (anchor : q.anchor = path.anchor) (parts : q.parts = path.parts ++ names.map FileName.text) :
    q = pathTo path names := by
  apply Path.ext
  · rw [anchor, anchor_pathTo]
  · rw [parts, parts_pathTo path named]

theorem pathsBelow_eq (leads : s.locate path = .ok location) :
    s.pathsBelow path =
      (s.below s.depth location).map fun place => pathTo path (place.drop location.length) := by
  rw [pathsBelow, leads]
  rfl

theorem IsTree.mem_pathsBelow (tree : s.IsTree) (leads : s.locate path = .ok location) :
    q ∈ s.pathsBelow path ↔ ∃ entry, s.EntryBelow path q entry := by
  rw [pathsBelow_eq leads, List.mem_map]
  constructor
  · rintro ⟨place, met, rfl⟩
    obtain ⟨names, entry, down, rfl, there⟩ := tree.mem_below_depth.mp met
    refine ⟨entry, location, names, leads, down, there, anchor_pathTo path _, ?_⟩
    rw [List.drop_left, parts_pathTo path (tree.isName there)]
  · rintro ⟨entry, place, names, reached, down, there, anchor, parts⟩
    obtain rfl : location = place := Except.ok.inj (leads.symm.trans reached)
    refine ⟨location ++ names, tree.mem_below_depth.mpr ⟨names, entry, down, rfl, there⟩, ?_⟩
    rw [List.drop_left]
    exact (eq_pathTo (tree.isName there) anchor parts).symm

theorem IsTree.nodup_pathsBelow (tree : s.IsTree) (leads : s.locate path = .ok location) :
    (s.pathsBelow path).Nodup := by
  rw [pathsBelow_eq leads]
  refine tree.nodup_below.map_on ?_
  intro first met second again same
  obtain ⟨names, _, _, rfl, there⟩ := tree.mem_below_depth.mp met
  obtain ⟨more, _, _, rfl, other⟩ := tree.mem_below_depth.mp again
  have parts := congrArg Path.parts same
  rw [List.drop_left, List.drop_left, parts_pathTo path (tree.isName there),
    parts_pathTo path (tree.isName other)] at parts
  have texts := List.append_cancel_left parts
  -- each name is given back by its text
  have back := congrArg (List.map FileName.bytes) texts
  simp only [List.map_map, Function.comp_def, FileName.bytes_text, List.map_id'] at back
  rw [back]

theorem descend_append {start target : Location} {front back : List Bytes}
    (reached : s.descend path start front = .ok location)
    (further : s.descend q location back = .ok target) :
    s.descend q start (front ++ back) = .ok target := by
  induction front generalizing start with
  | nil =>
    obtain rfl := Except.ok.inj reached
    exact further
  | cons name rest ih =>
    obtain ⟨there, short, later⟩ := descend_cons_eq_ok_iff.mp reached
    exact descend_cons_eq_ok_iff.mpr ⟨there, short, ih later⟩

theorem IsTree.descend_down (tree : s.IsTree) (path : Path) {names : List Bytes}
    (there : s.get? (location ++ names) = some entry) :
    s.descend path location names = .ok (location ++ names) := by
  induction names generalizing location with
  | nil => rw [List.append_nil]; rfl
  | cons name rest ih =>
    have named := tree.isName there name List.mem_cons_self
    have parts : location ++ name :: rest = location ++ [name] ++ rest := by simp
    refine descend_cons_eq_ok_iff.mpr ⟨tree.directory_above (by simp) there, named.short, ?_⟩
    rw [if_neg named.down, parts]
    rw [parts] at there
    exact ih there

theorem IsTree.reached_below (tree : s.IsTree) (lies : s.EntryBelow path q entry) :
    q.Askable ∧
      ∃ target, s.descend q [] (locationOf q) = .ok target ∧ s.get? target = some entry := by
  obtain ⟨location, names, leads, down, there, anchor, parts⟩ := lies
  have named := tree.isName there
  obtain ⟨askable, _, reached⟩ := locate_eq_ok_iff.mp leads
  have below : q.Askable := by
    intro part member
    rw [parts] at member
    rcases List.mem_append.mp member with above | inside
    · exact askable part above
    · obtain ⟨name, listed, rfl⟩ := List.mem_map.mp inside
      exact ⟨FileName.encodable_text name, null_not_mem_text (named name listed)⟩
  have absolute : locationOf q = locationOf path ++ names := by
    have texts : q.absolute.parts = path.absolute.parts ++ names.map FileName.text := by
      rw [eq_pathTo named anchor parts, pathTo, Path.absolute_parts_join rfl]
      exact congrArg _ (filter_isPart_texts named)
    rw [locationOf, texts, List.map_append, List.map_map]
    simp only [Function.comp_def, FileName.bytes_text, List.map_id']
    rfl
  refine ⟨below, location ++ names, ?_, there⟩
  rw [absolute]
  exact descend_append reached (tree.descend_down q there)

/-- Asked about an entry below a directory, the system finds it, or refuses its path for its length. -/
theorem IsTree.look_below (tree : s.IsTree) (lies : s.EntryBelow path q entry) :
    s.look q = if longestPath < (FileName.bytes q.text).length then .error (.nameTooLong q)
      else .ok (some entry) := by
  obtain ⟨askable, target, reached, there⟩ := tree.reached_below lies
  rw [look, locate_of_askable s askable, reached]
  by_cases long : longestPath < (FileName.bytes q.text).length
  · rw [if_pos long, if_pos long]
  · rw [if_neg long, if_neg long]
    simp only [there]

end Paths

end FileStore
end DeclGen
