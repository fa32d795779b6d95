import DeclGen.Proofs.Directive.Blanking
import DeclGen.Proofs.Scope.Annotation
import DeclGen.Proofs.SyntaxTree.Masking
import DeclGen.Scope

/-!
The line above a declaration and the line that masking looks at are the same. The reader decodes the
whole source and then cuts it into lines; masking cuts the bytes and decodes each line by itself. A
row therefore picks the same line in both, and whether that line is blanked out is told by its text.
A line that annotates the declaration below it is blanked out exactly if nothing but blanks stands
between its keyword and the first parenthesis.
-/
namespace DeclGen

namespace SyntaxTree

open Utf8 (Bytes)
open Directive (byteLines isDirectiveLine mask blanks Keyword Opened)

/-- The byte line in the row above a node: the reader sees its text, and masking has decided by the
same text what becomes of its bytes. -/
structure RowAbove (path : Path) (source : Bytes) (n : Node) (line : Bytes) : Prop where
  listed : (byteLines source)[n.row - 1]? = some line
  decoded : (SourceText.ofBytes path source).lines[n.row - 1]? = some (Utf8.decode line)
  above : (SourceText.ofBytes path source).lineAbove n = Utf8.decode line
  masked : (byteLines (mask source))[n.row - 1]? =
    some (if isDirectiveLine (Utf8.decode line) then blanks line else line)

section Rows

variable {path : Path} {source : Bytes} {n : Node} {line : Bytes}

theorem rowAbove_of_listed (inside : 1 ≤ n.row) (listed : (byteLines source)[n.row - 1]? = some line) :
    RowAbove path source n line where
  listed := listed
  decoded := by
    change (pieces (.char '\n') (Utf8.decode source))[n.row - 1]? = _
    rw [Directive.lines_decode, List.getElem?_map, listed, Option.map_some]
  above := by
    rw [lineAbove_ofBytes, if_neg (Nat.ne_of_gt inside), listed]
    rfl
  masked := by
    rw [Directive.byteLines_mask, List.getElem?_map, listed, Option.map_some,
      Directive.maskLine_eq]

theorem rowAbove_of_inside (inside : 1 ≤ n.row) (within : n.row ≤ (byteLines source).length) :
    ∃ line, RowAbove path source n line := by
  have stored : n.row - 1 < (byteLines source).length := by omega
  exact ⟨_, rowAbove_of_listed inside (List.getElem?_eq_getElem stored)⟩

theorem lineAbove_of_outside (outside : ¬ (1 ≤ n.row ∧ n.row ≤ (byteLines source).length)) :
    (SourceText.ofBytes path source).lineAbove n = [] := by
  rw [lineAbove_ofBytes]
  split
  · rfl
  · next below =>
    have missing : (byteLines source)[n.row - 1]? = none := List.getElem?_eq_none (by omega)
    rw [missing]
    rfl

theorem rowAbove_of_visible (visible : (SourceText.ofBytes path source).lineAbove n ≠ []) :
    1 ≤ n.row ∧ ∃ line, RowAbove path source n line := by
  have inside : 1 ≤ n.row ∧ n.row ≤ (byteLines source).length :=
    Classical.byContradiction fun outside => visible (lineAbove_of_outside outside)
  exact ⟨inside.1, rowAbove_of_inside inside.1 inside.2⟩

end Rows

/-- Decoding a source and cutting it into lines gives the byte lines, decoded one by one. So in every
row from the first to the last the reader finds the line above at its place, and it is the line that
masking has looked at; in any other row it finds nothing. -/
theorem line_splittings_agree (path : Path) (source : Bytes) :
    pieces (.char '\n') (Utf8.decode source) = (byteLines source).map Utf8.decode ∧
      ∀ n : Node,
        (1 ≤ n.row → n.row ≤ (byteLines source).length → ∃ line, RowAbove path source n line) ∧
        (n.row = 0 ∨ (byteLines source).length < n.row →
          (SourceText.ofBytes path source).lineAbove n = []) := by
  refine ⟨Directive.lines_decode source, fun n => ⟨rowAbove_of_inside, ?_⟩⟩
  intro outside
  exact lineAbove_of_outside (by omega)

namespace Sample

/-- Two bytes of a sequence of three, a line feed in place of the third, and a directive. -/
def truncated : Bytes := [0xE3, 0x80, 0x0A] ++ Utf8.bytes "CGCLASS()\nclass A {};".text

def nodeInRow (row : Nat) : Node := { Node.emptyRoot with row := row }

end Sample

/-- What is left of the sequence stays in its own line. -/
theorem line_splittings_agree_sample :
    pieces (.char '\n') (Utf8.decode Sample.truncated) =
        ["\uFFFD".text, "CGCLASS()".text, "class A {};".text] ∧
      (byteLines Sample.truncated).map Utf8.decode =
        pieces (.char '\n') (Utf8.decode Sample.truncated) ∧
      ∃ line, RowAbove Path.here Sample.truncated (Sample.nodeInRow 2) line ∧
        Utf8.decode line = "CGCLASS()".text ∧
        (byteLines (mask Sample.truncated))[1]? = some (blanks line) := by
  have agree := line_splittings_agree Path.here Sample.truncated
  obtain ⟨line, row⟩ := (agree.2 (Sample.nodeInRow 2)).1 (by decide) (by decide +kernel)
  have text : (byteLines Sample.truncated)[1]?.map Utf8.decode = some "CGCLASS()".text := by
    decide +kernel
  have decoded : Utf8.decode line = "CGCLASS()".text := by
    have listed : (byteLines Sample.truncated)[1]? = some line := row.listed
    rw [listed] at text
    exact Option.some.inj text
  refine ⟨by decide +kernel, agree.1.symm, line, row, decoded, ?_⟩
  have masked := row.masked
  rw [decoded, if_pos (by decide +kernel)] at masked
  exact masked

theorem namedAt_of_mem_events {path : Path} {source : Bytes} {root : Node} {e : Event}
    (member : e ∈ events path source root) :
    ∃ n, root.Below n ∧ NamedAt (.ofBytes path source) e.decl n := by
  have alike := List.forall₂_same.mp (events_same path (rfl : mask source = mask source) root) e member
  obtain ⟨n, below, named, _⟩ := alike.named
  exact ⟨n, below, named⟩

/-- The line above the name of a declaration annotates it under the keyword of its kind. -/
structure Annotates (path : Path) (source : Bytes) (root : Node) (d : Declaration) (n : Node)
    (line : Bytes) (gap rest : Text) : Prop where
  below : root.Below n
  named : NamedAt (.ofBytes path source) d n
  inside : 1 ≤ n.row
  row : RowAbove path source n line
  opened : ∃ keyword, Scope.keyword? d.kind = some keyword ∧
    Opened keyword (Utf8.decode line) gap rest
  closed : CodePoint.char ')' ∈ rest

theorem annotates_of_attached {path : Path} {source : Bytes} {root : Node} {e : Event}
    (member : e ∈ events path source root) (annotated : Scope.attached e.decl ≠ []) :
    ∃ n line gap rest, Annotates path source root e.decl n line gap rest := by
  obtain ⟨n, below, named⟩ := namedAt_of_mem_events member
  obtain ⟨keyword, kind, read⟩ := Scope.attached_ne_nil_iff.mp annotated
  obtain ⟨gap, rest, opened, closed⟩ := Directive.parse_ne_nil_iff.mp read
  rw [named.lineAbove] at opened
  have visible : (SourceText.ofBytes path source).lineAbove n ≠ [] := by
    intro empty
    have shown := opened.not_allBlank
    rw [empty] at shown
    exact Bool.noConfusion shown
  obtain ⟨inside, line, row⟩ := rowAbove_of_visible visible
  rw [row.above] at opened
  exact ⟨n, line, gap, rest, below, named, inside, row, ⟨keyword, kind, opened⟩, closed⟩

/-- A line that annotates under a keyword is a directive line exactly if nothing but blanks stands
between the keyword and the first parenthesis behind it. In every source the line above an annotated
declaration is a line that annotates, and it is blanked out before parsing on the same condition. -/
theorem annotating_line_masked_iff (line : Text) (keyword : Keyword) (path : Path) (source : Bytes)
    (root : Node) :
    ((Directive.parse line keyword.text ≠ [] → isDirectiveLine line = true) ↔
      ∀ gap rest, Opened keyword line gap rest → CodePoint.char ')' ∈ rest → Text.allBlank gap = true) ∧
    ∀ e ∈ events path source root, Scope.attached e.decl ≠ [] →
      ∃ n above gap rest, Annotates path source root e.decl n above gap rest ∧
        ((byteLines (mask source))[n.row - 1]? = some (blanks above) ↔
          Text.allBlank gap = true) := by
  refine ⟨⟨?_, ?_⟩, ?_⟩
  · intro masked gap rest opened closed
    have read := Directive.parse_ne_nil_iff.mpr ⟨gap, rest, opened, closed⟩
    exact opened.isDirectiveLine_iff.mp (masked read)
  · intro blank read
    obtain ⟨gap, rest, opened, closed⟩ := Directive.parse_ne_nil_iff.mp read
    exact opened.isDirectiveLine_iff.mpr (blank gap rest opened closed)
  · intro e member annotated
    obtain ⟨n, above, gap, rest, annotates⟩ := annotates_of_attached member annotated
    obtain ⟨keyword, _, opened⟩ := annotates.opened
    refine ⟨n, above, gap, rest, annotates, ?_⟩
    rw [annotates.row.masked, ← Directive.maskLine_eq, Option.some.injEq]
    exact opened.maskLine_iff

/-- Another word than the keyword, which only begins like it. -/
theorem unmasked_line_annotates :
    let line := "CGCLASSX()".text
    let source := Sample.classBelow "CGCLASSX()"
    Directive.parse line Keyword.classType.text ≠ [] ∧ isDirectiveLine line = false ∧
      mask source = source ∧
      (events Path.here source Sample.classTree).map (fun e => Scope.attached e.decl) =
        [[.flag "CGCLASS".text], [.flag "CGCLASS".text]] := by
  intro line source
  refine ⟨by decide +kernel, by decide +kernel, by decide +kernel, ?_⟩
  rw [Sample.events_classTree]
  decide +kernel

end SyntaxTree
end DeclGen
