import DeclGen.Project
import DeclGen.Proofs.FileStore.Tree
import Mathlib.Data.List.TakeWhile

/-!
The headers that a directory stands for. Everything below the directory is asked about once; what is a
file with the suffix of a header is kept, and the paths are put into the order of their parts, which for
different paths of one directory is strict. The one thing that can go wrong is a path below the directory
that is longer than the system takes: it ends the search.
-/
namespace DeclGen

open CodePoint (char)

section Order

variable {α : Type} [DecidableEq α] [LT α] {le : α → α → Bool}

theorem lt_of_lexLe (strict : ∀ x y, le x y = true → x ≠ y → x < y) {xs ys : List α}
    (before : lexLe le xs ys = true) (apart : xs ≠ ys) : xs < ys := by
  induction xs generalizing ys with
  | nil =>
    cases ys with
    | nil => exact absurd rfl apart
    | cons y others => exact List.nil_lt_cons y others
  | cons x rest ih =>
    cases ys with
    | nil => simp [lexLe] at before
    | cons y others =>
      rw [List.cons_lt_cons_iff]
      by_cases same : x = y
      · subst same
        rw [lexLe, if_pos rfl] at before
        exact .inr ⟨rfl, ih before fun equal => apart (by rw [equal])⟩
      · rw [lexLe, if_neg same] at before
        exact .inl (strict x y before same)

theorem Text.lt_of_le {a b : Text} (before : Text.le a b = true) (apart : a ≠ b) : a < b := by
  refine lt_of_lexLe ?_ before apart
  intro c d first other
  have codes : c.toNat ≤ d.toNat := of_decide_eq_true first
  have different : c.toNat ≠ d.toNat := fun same => other (CodePoint.toNat_injective same)
  show c.toNat < d.toNat
  omega

namespace Path

theorem steps_injective {p q : Path} (anchor : p.anchor = q.anchor) (same : p.steps = q.steps) :
    p = q := by
  obtain ⟨start, parts, clean⟩ := p
  obtain ⟨other, names, cleanNames⟩ := q
  obtain rfl : start = other := anchor
  apply Path.ext
  · rfl
  · cases start with
    | relative => exact same
    | root => exact (List.cons.inj same).2
    | doubleRoot => exact (List.cons.inj same).2

theorem pairwise_mergeSort_le (paths : List Path) :
    (paths.mergeSort Path.le).Pairwise fun p q => Path.le p q = true := by
  refine List.pairwise_mergeSort ?_ ?_ paths
  · intro p q r first second
    exact lexLe_trans (fun _ _ => Text.le_antisymm) (fun _ _ _ => Text.le_trans) first second
  · intro p q
    rw [Bool.or_eq_true]
    exact lexLe_total Text.le_total p.steps q.steps

theorem mergeSort_increasing {paths : List Path} (anchor : Anchor) (once : paths.Nodup)
    (alike : ∀ p ∈ paths, p.anchor = anchor) :
    (paths.mergeSort Path.le).Pairwise fun p q => p.steps < q.steps := by
  have kept : (paths.mergeSort Path.le).Nodup := (List.mergeSort_perm _ _).nodup_iff.mpr once
  have strict : (paths.mergeSort Path.le).Pairwise fun p q => Path.le p q = true ∧ p ≠ q :=
    (pairwise_mergeSort_le paths).and kept
  refine strict.imp_of_mem ?_
  intro p q here there both
  have first := alike p (List.mem_mergeSort.mp here)
  have second := alike q (List.mem_mergeSort.mp there)
  refine lt_of_lexLe (fun _ _ => Text.lt_of_le) both.1 ?_
  intro same
  exact both.2 (steps_injective (first.trans second.symm) same)

end Path

end Order

section Suffix

/-- A name that ends in the suffix of a header, in any letter case: something stands before the last dot,
and what begins with that dot is a suffix of headers. -/
def HeaderName (name : Text) : Prop :=
  ∃ stem ending, name = stem ++ char '.' :: ending ∧ stem ≠ [] ∧ char '.' ∉ ending ∧
    Text.lower (char '.' :: ending) ∈ Language.headerSuffixes

variable {path : Path} {stem ending : Text}

theorem takeWhile_ending (plain : char '.' ∉ ending) :
    ((stem ++ char '.' :: ending).reverse.takeWhile (· != char '.')).reverse = ending := by
  have turned : (stem ++ char '.' :: ending).reverse =
      ending.reverse ++ char '.' :: stem.reverse := by simp
  have passed : ∀ c ∈ ending.reverse, (c != '.') = true := by
    intro c member
    exact bne_iff_ne.mpr fun same => plain (same ▸ List.mem_reverse.mp member)
  rw [turned, List.takeWhile_append_of_pos passed]
  simp

theorem suffix_eq (name : path.fileName = stem ++ char '.' :: ending) (some : stem ≠ [])
    (plain : char '.' ∉ ending) (ends : ending ≠ []) : path.suffix = char '.' :: ending := by
  have before := List.length_pos_iff.mpr some
  have behind := List.length_pos_iff.mpr ends
  simp only [Path.suffix, name, takeWhile_ending plain, List.length_append, List.length_cons]
  rw [if_pos ⟨by omega, behind⟩]

theorem exists_last_dot {name : Text} (dotted : char '.' ∈ name) :
    ∃ stem ending, name = stem ++ char '.' :: ending ∧ char '.' ∉ ending := by
  obtain ⟨ending, stem, turned, plain⟩ := List.eq_append_cons_of_mem (List.mem_reverse.mpr dotted)
  refine ⟨stem.reverse, ending.reverse, ?_, by simpa using plain⟩
  rw [← List.reverse_reverse name, turned]
  simp

theorem suffix_cases (path : Path) :
    path.suffix = [] ∨ ∃ stem ending, path.fileName = stem ++ char '.' :: ending ∧ stem ≠ [] ∧
      char '.' ∉ ending ∧ path.suffix = char '.' :: ending := by
  by_cases dotted : char '.' ∈ path.fileName
  · obtain ⟨stem, ending, name, plain⟩ := exists_last_dot dotted
    by_cases inner : stem ≠ [] ∧ ending ≠ []
    · exact .inr ⟨stem, ending, name, inner.1, plain, suffix_eq name inner.1 plain inner.2⟩
    · -- the last dot begins or ends the name
      left
      simp only [Path.suffix, name, takeWhile_ending plain, List.length_append, List.length_cons]
      rw [if_neg]
      rintro ⟨before, behind⟩
      exact inner ⟨List.length_pos_iff.mp (by omega), List.length_pos_iff.mp behind⟩
  · left
    have all : path.fileName.reverse.takeWhile (· != char '.') = path.fileName.reverse := by
      rw [List.takeWhile_eq_self_iff]
      intro c member
      exact bne_iff_ne.mpr fun same => dotted (same ▸ List.mem_reverse.mp member)
    simp only [Path.suffix, all, List.reverse_reverse]
    rw [if_neg]
    omega

theorem isHeader_iff (path : Path) : Language.isHeader path = true ↔ HeaderName path.fileName := by
  rw [Language.isHeader, List.contains_iff_mem, Language.suffixOf]
  constructor
  · intro listed
    rcases suffix_cases path with none | ⟨stem, ending, name, some, plain, suffix⟩
    · rw [none] at listed
      exact absurd listed (by decide)
    · rw [suffix] at listed
      exact ⟨stem, ending, name, some, plain, listed⟩
  · rintro ⟨stem, ending, name, some, plain, listed⟩
    have ends : ending ≠ [] := by
      rintro rfl
      exact absurd listed (by decide +kernel)
    rwa [suffix_eq name some plain ends]

end Suffix

section Asking

variable {α β ε : Type} {f : α → Except ε (Option β)} {xs : List α}

/-- What an answer gives; nothing if it is a refusal. -/
def given (f : α → Except ε (Option β)) (x : α) : Option β := (f x).toOption.join

theorem given_eq_some_iff {x : α} {y : β} : given f x = some y ↔ f x = .ok (some y) := by
  cases answer : f x <;> simp [given, answer, Except.toOption]

theorem filterMapM_eq_ok (answers : ∀ x ∈ xs, ∃ found, f x = .ok found) :
    xs.filterMapM f = .ok (xs.filterMap (given f)) := by
  induction xs with
  | nil => rfl
  | cons x rest ih =>
    obtain ⟨found, answer⟩ := answers x List.mem_cons_self
    have later := ih fun y member => answers y (List.mem_cons_of_mem _ member)
    have here : given f x = found := by simp [given, answer, Except.toOption]
    rw [List.filterMapM_cons, answer, later, List.filterMap_cons, here]
    cases found <;> rfl

theorem filterMapM_eq_error {x : α} {e : ε} (member : x ∈ xs) (refused : f x = .error e) :
    ∃ y ∈ xs, ∃ error, f y = .error error ∧ xs.filterMapM f = .error error := by
  induction xs with
  | nil => cases member
  | cons first rest ih =>
    rw [List.filterMapM_cons]
    cases answer : f first with
    | error error => exact ⟨first, List.mem_cons_self, error, answer, rfl⟩
    | ok found =>
      have later : x ∈ rest := by
        rcases List.mem_cons.mp member with rfl | later
        · rw [answer] at refused
          cases refused
        · exact later
      obtain ⟨y, inside, error, stops, result⟩ := ih later
      refine ⟨y, List.mem_cons_of_mem _ inside, error, stops, ?_⟩
      cases found <;> simp [result, bind, Except.bind]

end Asking

namespace Project

open FileStore (longestPath)

variable {s : FileStore} {path q : Path} {entry : FileEntry} {location : Location}

def TooLong (path : Path) : Prop := longestPath < (FileName.bytes path.text).length

instance (path : Path) : Decidable (TooLong path) := inferInstanceAs (Decidable (_ < _))

/-- A path that stands for itself if it is the path of a header that is there. -/
def headerOf (entry : FileEntry) (path : Path) : Option Path :=
  match entry with
  | .file _ => if Language.isHeader path then some path else none
  | .directory => none

theorem header?_below (tree : s.IsTree) (lies : s.EntryBelow path q entry) :
    header? s q = if TooLong q then .error (.nameTooLong q) else .ok (headerOf entry q) := by
  have asked := tree.look_below lies
  by_cases long : TooLong q
  · rw [if_pos (show longestPath < _ from long)] at asked
    rw [header?, asked, if_pos long]
    rfl
  · rw [if_neg (show ¬ longestPath < _ from long)] at asked
    rw [header?, asked, if_neg long]
    cases entry <;> rfl

theorem headerOf_eq_some_iff {found : Path} :
    headerOf entry q = some found ↔
      (∃ content, entry = .file content) ∧ HeaderName q.fileName ∧ found = q := by
  rw [← isHeader_iff]
  cases entry with
  | directory => simp [headerOf]
  | file content =>
    by_cases header : Language.isHeader q = true
    · simp [headerOf, header, eq_comm]
    · simp [headerOf, header]

theorem eq_of_given {found : Path} (answered : given (header? s) q = some found) : found = q := by
  have answer := given_eq_some_iff.mp answered
  rw [header?] at answer
  cases asked : s.look q with
  | error e => simp [asked, Except.map] at answer
  | ok entry =>
    simp only [asked, Except.map, Except.ok.injEq] at answer
    split at answer
    · split at answer
      · exact (Option.some.inj answer).symm
      · cases answer
    · cases answer

def met (s : FileStore) (path : Path) : List Path := (s.pathsBelow path).filterMap (given (header? s))

section Directory

variable (tree : s.IsTree) (leads : s.locate path = .ok location)
include tree leads

theorem headersBelow_refuses (lies : s.EntryBelow path q entry) (long : TooLong q) :
    ∃ p other, s.EntryBelow path p other ∧ TooLong p ∧
      headersBelow s path = .error (.nameTooLong p) := by
  have member := (tree.mem_pathsBelow leads).mpr ⟨entry, lies⟩
  have refused : header? s q = .error (.nameTooLong q) := by
    rw [header?_below tree lies, if_pos long]
  -- another path may have been asked about first, but only its length can have ended the search
  obtain ⟨p, inside, error, stops, result⟩ := filterMapM_eq_error member refused
  obtain ⟨other, there⟩ := (tree.mem_pathsBelow leads).mp inside
  rw [header?_below tree there] at stops
  split at stops
  · next tooLong =>
    refine ⟨p, other, there, tooLong, ?_⟩
    rw [headersBelow, result, ← Except.error.inj stops]
    rfl
  · cases stops

theorem headersBelow_eq (short : ∀ q entry, s.EntryBelow path q entry → ¬ TooLong q) :
    headersBelow s path = .ok ((met s path).mergeSort Path.le) := by
  have answers : ∀ p ∈ s.pathsBelow path, ∃ found, header? s p = .ok found := by
    intro p member
    obtain ⟨other, there⟩ := (tree.mem_pathsBelow leads).mp member
    exact ⟨headerOf other p, by rw [header?_below tree there, if_neg (short p other there)]⟩
  rw [headersBelow, filterMapM_eq_ok answers]
  rfl

theorem mem_met (short : ∀ q entry, s.EntryBelow path q entry → ¬ TooLong q) :
    q ∈ met s path ↔
      (∃ content, s.EntryBelow path q (.file content)) ∧ HeaderName q.fileName := by
  rw [met, List.mem_filterMap]
  constructor
  · rintro ⟨p, member, found⟩
    obtain rfl := eq_of_given found
    obtain ⟨other, there⟩ := (tree.mem_pathsBelow leads).mp member
    have answer := given_eq_some_iff.mp found
    rw [header?_below tree there, if_neg (short _ other there)] at answer
    obtain ⟨⟨content, rfl⟩, named, _⟩ := headerOf_eq_some_iff.mp (Except.ok.inj answer)
    exact ⟨⟨content, there⟩, named⟩
  · rintro ⟨⟨content, there⟩, named⟩
    refine ⟨q, (tree.mem_pathsBelow leads).mpr ⟨_, there⟩, given_eq_some_iff.mpr ?_⟩
    rw [header?_below tree there, if_neg (short q _ there)]
    exact congrArg _ (headerOf_eq_some_iff.mpr ⟨⟨content, rfl⟩, named, rfl⟩)

theorem nodup_met : (met s path).Nodup := by
  refine (tree.nodup_pathsBelow leads).filterMap ?_
  intro p q found first second
  rw [← eq_of_given first, ← eq_of_given second]

end Directory

theorem detect_of_headerName (named : HeaderName q.fileName) : Language.detect q = .ok Language.cpp := by
  have header := (isHeader_iff q).mpr named
  rw [Language.detect, Language.isSupported, header, Bool.or_true, if_pos rfl]

theorem discover_directory (plain : isProjectFile path = false)
    (leads : s.locate path = .ok location) (directory : s.get? location = some .directory) :
    discover s path = match headersBelow s path with
      | .error error => .error (.file error)
      | .ok headers => .ok (headers, none) := by
  have asked : s.look path = .ok (some .directory) := by
    rw [FileStore.look, leads]
    simp only [directory]
  rw [discover, plain, asked]
  rfl

/-- A directory whose name is not that of a project stands for the headers below it, however deep: each
once, in the strict order of the paths' parts, and all of a supported language. It does so unless the
path of something below it, seen from where the directory was asked for, is longer than the system
takes; then such a path is reported. -/
theorem discover_lists_headers (s : FileStore) (tree : s.IsTree) (path : Path)
    (directory : s.isDirectory path = true) (plain : isProjectFile path = false) :
    ((∃ q entry, s.EntryBelow path q entry ∧ TooLong q) →
      ∃ q entry, s.EntryBelow path q entry ∧ TooLong q ∧
        discover s path = .error (.file (.nameTooLong q))) ∧
    ((∀ q entry, s.EntryBelow path q entry → ¬ TooLong q) →
      ∃ headers, discover s path = .ok (headers, none) ∧
        (∀ q, q ∈ headers ↔
          (∃ content, s.EntryBelow path q (.file content)) ∧ HeaderName q.fileName) ∧
        headers.Nodup ∧
        (headers.Pairwise fun p q => p.steps < q.steps) ∧
        ∀ q ∈ headers, Language.detect q = .ok Language.cpp) := by
  obtain ⟨location, leads, there⟩ := FileStore.isDirectory_iff.mp directory
  rw [discover_directory plain leads there]
  constructor
  · rintro ⟨q, entry, lies, long⟩
    obtain ⟨p, other, below, tooLong, result⟩ := headersBelow_refuses tree leads lies long
    exact ⟨p, other, below, tooLong, by rw [result]⟩
  · intro short
    have listed : ∀ q, q ∈ (met s path).mergeSort Path.le ↔
        (∃ content, s.EntryBelow path q (.file content)) ∧ HeaderName q.fileName := by
      intro q
      rw [List.mem_mergeSort, mem_met tree leads short]
    have once := nodup_met tree leads
    refine ⟨_, by rw [headersBelow_eq tree leads short], listed, ?_, ?_, ?_⟩
    · exact (List.mergeSort_perm _ _).nodup_iff.mpr once
    · refine Path.mergeSort_increasing path.anchor once ?_
      intro q member
      obtain ⟨⟨_, _, _, _, _, _, anchor, _⟩, _⟩ := (mem_met tree leads short).mp member
      exact anchor
    · intro q member
      exact detect_of_headerName ((listed q).mp member).2

namespace Sample

/-- The store in which these files were written, without content, one after the other. -/
def written (files : List Path) : FileStore :=
  files.foldl (fun s path => (s.writeWithParents path (.ok [])).1) .empty

theorem isTree_written (files : List Path) : (written files).IsTree := by
  have kept : ∀ s : FileStore, s.IsTree →
      (files.foldl (fun s path => (s.writeWithParents path (.ok [])).1) s).IsTree := by
    induction files with
    | nil => exact fun s tree => tree
    | cons path rest ih => exact fun s tree => ih _ (tree.writeWithParents path (.ok []))
  exact kept .empty FileStore.isTree_empty

def paths (texts : List String) : List Path := texts.map fun text => Path.ofText text.text

def inputs : Path := Path.ofText "in".text

/-- A directory with the name of a header, dots at both ends of names, and capital letters. -/
def mixed : FileStore :=
  written (paths ["in/a-b.h", "in/z.h/Q.INL", "in/a/.h", "in/a/notes.txt", "in/c.h.", "in/a/b.h",
    "out.h"])

def longName : Text := List.replicate 191 (char 'a')

def oneHeader : FileStore := written [Path.normal .relative [longName, "bb.h".text]]

/-- Into a directory, out of it and into it again, up to where no path of two more letters fits. -/
def winding : Path :=
  Path.normal .relative ((List.replicate 20 [longName, "..".text]).flatten ++ [longName])

def windingHeader : Path := winding.join (Path.ofText "bb.h".text)

def placeOf (names : List Text) : Location := ("work".text :: names).map FileName.bytes

end Sample

theorem discover_lists_headers_mixed :
    (Sample.mixed.IsTree ∧ Sample.mixed.isDirectory Sample.inputs = true ∧
      isProjectFile Sample.inputs = false ∧
      ∀ q entry, Sample.mixed.EntryBelow Sample.inputs q entry → ¬ TooLong q) ∧
    discover Sample.mixed Sample.inputs =
      .ok (Sample.paths ["in/a/b.h", "in/a-b.h", "in/z.h/Q.INL"], none) := by
  have tree : Sample.mixed.IsTree := Sample.isTree_written _
  have leads : Sample.mixed.locate Sample.inputs = .ok (FileStore.locationOf Sample.inputs) := by
    decide +kernel
  have directory : Sample.mixed.isDirectory Sample.inputs = true := by decide +kernel
  have plain : isProjectFile Sample.inputs = false := by decide +kernel
  have all : ∀ q ∈ Sample.mixed.pathsBelow Sample.inputs, ¬ TooLong q := by decide +kernel
  have short : ∀ q entry, Sample.mixed.EntryBelow Sample.inputs q entry → ¬ TooLong q := by
    intro q entry lies
    exact all q ((tree.mem_pathsBelow leads).mpr ⟨entry, lies⟩)
  obtain ⟨headers, result, listed, once, increasing, -⟩ :=
    (discover_lists_headers Sample.mixed tree Sample.inputs directory plain).2 short
  -- what is listed, and that it is in order, leaves one list
  have alike : headers.Perm (met Sample.mixed Sample.inputs) := by
    refine (List.perm_ext_iff_of_nodup once (nodup_met tree leads)).mpr ?_
    intro q
    rw [listed, mem_met tree leads short]
  have turned : (met Sample.mixed Sample.inputs).Perm
      (Sample.paths ["in/a/b.h", "in/a-b.h", "in/z.h/Q.INL"]) := by decide +kernel
  have same : headers = Sample.paths ["in/a/b.h", "in/a-b.h", "in/z.h/Q.INL"] := by
    refine (alike.trans turned).eq_of_pairwise ?_ increasing (by decide +kernel)
    intro p q _ _ before after
    exact absurd after (List.lt_asymm before)
  exact ⟨⟨tree, directory, plain, short⟩, by rw [result, same]⟩

theorem discover_refuses_winding :
    Sample.oneHeader.IsTree ∧ Sample.oneHeader.isDirectory Sample.winding = true ∧
      isProjectFile Sample.winding = false ∧
      Sample.oneHeader.EntryBelow Sample.winding Sample.windingHeader (.file []) ∧
      HeaderName Sample.windingHeader.fileName ∧
      discover Sample.oneHeader Sample.winding = .error (.file (.nameTooLong Sample.windingHeader)) := by
  have leads : Sample.oneHeader.locate Sample.winding = .ok (Sample.placeOf [Sample.longName]) := by
    decide +kernel
  have directory : Sample.oneHeader.get? (Sample.placeOf [Sample.longName]) = some .directory := by
    decide +kernel
  have plain : isProjectFile Sample.winding = false := by decide +kernel
  have header :
      Sample.oneHeader.get? (Sample.placeOf [Sample.longName] ++ [FileName.bytes "bb.h".text]) =
        some (.file []) := by decide +kernel
  have refused : headersBelow Sample.oneHeader Sample.winding =
      .error (.nameTooLong Sample.windingHeader) := by decide +kernel
  refine ⟨Sample.isTree_written _, FileStore.isDirectory_iff.mpr ⟨_, leads, directory⟩, plain,
    ⟨_, [FileName.bytes "bb.h".text], leads, by simp, header, rfl, by decide +kernel⟩,
    ⟨"bb".text, "h".text, by decide +kernel, by decide, by decide, by decide +kernel⟩, ?_⟩
  rw [discover_directory plain leads directory, refused]

end Project
end DeclGen
