import DeclGen.Text.Basic

/-!
File paths in normal form. Repeated separators, single dots and a trailing separator carry no
meaning and are gone once a path is read; a double dot is kept, because only the file system knows
where it leads. The text of a path determines it, and reading that text gives the path back.
-/
namespace DeclGen

open CodePoint (char)

/-- Where a path starts: in the working directory, at the root, or at the double-slash root that the
standard leaves to the system. -/
inductive Anchor where
  | relative
  | root
  | doubleRoot
  deriving DecidableEq, Repr

def Anchor.text : Anchor → Text
  | .relative => []
  | .root => ['/']
  | .doubleRoot => ['/', '/']

namespace Path

def isPart (part : Text) : Bool := !part.isEmpty && part != [char '.'] && !part.contains '/'

end Path

@[ext]
structure Path where
  anchor : Anchor
  parts : List Text
  clean : ∀ part ∈ parts, Path.isPart part = true
  deriving DecidableEq

namespace Path

def normal (anchor : Anchor) (parts : List Text) : Path where
  anchor := anchor
  parts := parts.filter isPart
  clean := fun _ h => (List.mem_filter.1 h).2

def anchorOf (slashes : Nat) : Anchor :=
  if slashes = 0 then .relative else if slashes = 2 then .doubleRoot else .root

def ofText (t : Text) : Path :=
  normal (anchorOf (t.takeWhile (· == char '/')).length) (pieces (.char '/') t)

def here : Path where
  anchor := .relative
  parts := []
  clean := by simp

def text (p : Path) : Text :=
  match p.anchor, p.parts with
  | .relative, [] => ['.']
  | anchor, parts => anchor.text ++ joinWith [char '/'] parts

def join (p q : Path) : Path :=
  match q.anchor with
  | .relative =>
    { anchor := p.anchor
      parts := p.parts ++ q.parts
      clean := fun part h => (List.mem_append.1 h).elim (p.clean part) (q.clean part) }
  | _ => q

/-- The path without its last part; a path without parts is its own parent. -/
def parent (p : Path) : Path where
  anchor := p.anchor
  parts := p.parts.dropLast
  clean := fun part h => p.clean part (List.dropLast_subset _ h)

def fileName (p : Path) : Text := p.parts.getLast?.getD []

/-- The file name from its last dot on. A dot at either end of the name starts no suffix. -/
def suffix (p : Path) : Text :=
  let name := p.fileName
  let tail := (name.reverse.takeWhile (· != char '.')).reverse
  if tail.length + 1 < name.length ∧ 0 < tail.length then '.' :: tail else []

def workingDirectory : Path := normal .root ["work".text]

def absolute (p : Path) : Path := workingDirectory.join p

def steps (p : Path) : List Text :=
  match p.anchor with
  | .relative => p.parts
  | anchor => anchor.text :: p.parts

def le (p q : Path) : Bool := lexLe Text.le p.steps q.steps

theorem slash_not_mem {part : Text} (h : isPart part = true) : char '/' ∉ part := by
  simp only [isPart, Bool.and_eq_true, Bool.not_eq_true'] at h
  simpa using h.2

theorem filter_pieces_joinWith (p : Path) :
    (pieces (.char '/') (joinWith [char '/'] p.parts)).filter isPart = p.parts := by
  cases found : p.parts with
  | nil => rfl
  | cons part others =>
    have clean := p.clean
    rw [found] at clean
    rw [pieces_joinWith (by simp) fun part inside => slash_not_mem (clean part inside)]
    exact List.filter_eq_self.2 clean

theorem takeWhile_joinWith (p : Path) :
    (joinWith [char '/'] p.parts).takeWhile (· == char '/') = [] := by
  cases found : p.parts with
  | nil => rfl
  | cons part others =>
    have clean := p.clean part (by simp [found])
    cases part with
    | nil => simp [isPart] at clean
    | cons c rest =>
      have apart : c ≠ '/' := fun same => slash_not_mem clean (same ▸ List.mem_cons_self)
      cases others with
      | nil => simp [joinWith, apart]
      | cons next more => simp [joinWith, apart]

theorem ofText_text (p : Path) : ofText p.text = p := by
  have slashes := takeWhile_joinWith p
  have parts := filter_pieces_joinWith p
  obtain ⟨anchor, names, clean⟩ := p
  simp only at slashes parts
  cases anchor with
  | relative =>
    cases names with
    | nil => rfl
    | cons part others =>
      apply Path.ext
      · simp [ofText, normal, text, Anchor.text, slashes, anchorOf]
      · simpa [ofText, normal, text, Anchor.text] using parts
  | root =>
    apply Path.ext
    · simp [ofText, normal, text, Anchor.text, slashes, anchorOf]
    · simpa [ofText, normal, text, Anchor.text, pieces, isPart] using parts
  | doubleRoot =>
    apply Path.ext
    · simp [ofText, normal, text, Anchor.text, slashes, anchorOf]
    · simpa [ofText, normal, text, Anchor.text, pieces, isPart] using parts

theorem text_injective {p q : Path} (h : p.text = q.text) : p = q := by
  rw [← ofText_text p, h, ofText_text]

theorem absolute_absolute (p : Path) : p.absolute.absolute = p.absolute := by
  obtain ⟨anchor, parts, clean⟩ := p
  cases anchor <;> rfl

end Path
end DeclGen
