import DeclGen.Proofs.Directive.Recognition
import DeclGen.Proofs.Directive.Rows

/-!
What masking leaves of a source. A directive line becomes spaces and every other line stays byte for
byte; no byte moves, and each line begins and ends where it did. A line of spaces is no directive, so
the masked source has none left and masking it again changes nothing.
-/
namespace DeclGen

theorem map_joinWith {α β : Type} (f : α → β) (sep : List α) (parts : List (List α)) :
    (joinWith sep parts).map f = joinWith (sep.map f) (parts.map (List.map f)) := by
  induction parts with
  | nil => rfl
  | cons part others ih =>
    cases others with
    | nil => rfl
    | cons next more =>
      rw [joinWith_cons _ _ (by simp), List.map_append, List.map_append, ih]
      rfl

namespace Directive

open Utf8 (Bytes)

def blanks (line : Bytes) : Bytes := List.replicate line.length 0x20

theorem maskLine_eq (line : Bytes) :
    maskLine line = if isDirectiveLine (Utf8.decode line) then blanks line else line := rfl

theorem allBlank_decode_blanks (line : Bytes) : Text.allBlank (Utf8.decode (blanks line)) = true := by
  induction line with
  | nil => rfl
  | cons b rest ih => exact ih

theorem Opened.not_allBlank {keyword : Keyword} {line gap rest : Text}
    (opened : Opened keyword line gap rest) : Text.allBlank line = false := by
  have stripped : CodePoint.char '(' ∈ Text.stripLeft line := by
    rw [opened.parts]
    simp
  have paren : CodePoint.char '(' ∈ line := (List.dropWhile_sublist Text.isBlank).subset stripped
  exact Bool.eq_false_iff.mpr fun blank => allBlank_not_mem blank (by decide) paren

theorem Opened.maskLine_iff {keyword : Keyword} {line : Bytes} {gap rest : Text}
    (opened : Opened keyword (Utf8.decode line) gap rest) :
    maskLine line = blanks line ↔ Text.allBlank gap = true := by
  rw [← opened.isDirectiveLine_iff, maskLine_eq]
  constructor
  · intro masked
    split at masked
    · next directive => exact directive
    · -- the line would have been blank from the start
      have visible := opened.not_allBlank
      rw [masked, allBlank_decode_blanks] at visible
      exact Bool.noConfusion visible
  · intro directive
    rw [if_pos directive]

section Positions

def lineEnds (bytes : Bytes) : List Bool := bytes.map (· == lineFeed)

theorem lineEnds_of_whole {line : Bytes} (whole : lineFeed ∉ line) :
    lineEnds line = List.replicate line.length false := by
  rw [lineEnds, List.map_eq_replicate_iff]
  intro b member
  have other : b ≠ lineFeed := fun same => whole (same ▸ member)
  simpa using other

theorem length_maskLine (line : Bytes) : (maskLine line).length = line.length := by
  rw [maskLine]
  split
  · exact List.length_replicate
  · rfl

theorem lineEnds_maskLine {line : Bytes} (whole : lineFeed ∉ line) :
    lineEnds (maskLine line) = lineEnds line := by
  rw [lineEnds_of_whole whole, lineEnds_of_whole (lineFeed_not_mem_maskLine whole), length_maskLine]

theorem lineEnds_mask (source : Bytes) : lineEnds (mask source) = lineEnds source := by
  have lines : ((byteLines source).map maskLine).map lineEnds = (byteLines source).map lineEnds := by
    rw [List.map_map]
    apply List.map_congr_left
    intro line listed
    exact lineEnds_maskLine (not_mem_pieces lineFeed source line listed)
  calc lineEnds (mask source)
      = joinWith (lineEnds [lineFeed]) (((byteLines source).map maskLine).map lineEnds) :=
        map_joinWith _ _ _
    _ = joinWith (lineEnds [lineFeed]) ((byteLines source).map lineEnds) := by rw [lines]
    _ = lineEnds (joinWith [lineFeed] (byteLines source)) := (map_joinWith _ _ _).symm
    _ = lineEnds source := by rw [byteLines, joinWith_pieces]

theorem getElem?_lineEnds (bytes : Bytes) (i : Nat) :
    (lineEnds bytes)[i]? = some true ↔ bytes[i]? = some lineFeed := by
  rw [lineEnds, List.getElem?_map, Option.map_eq_some_iff]
  constructor
  · rintro ⟨b, found, isLineFeed⟩
    rw [found, beq_iff_eq.mp isLineFeed]
  · intro found
    exact ⟨lineFeed, found, rfl⟩

end Positions

section Fixed

theorem not_directive_of_allBlank {line : Text} (blank : Text.allBlank line = true) :
    isDirectiveLine line = false := by
  apply Bool.eq_false_iff.mpr
  intro directive
  obtain ⟨keyword, gap, rest, opened, _⟩ := isDirectiveLine_iff.mp directive
  rw [opened.not_allBlank] at blank
  exact Bool.noConfusion blank

theorem maskLine_not_directive (line : Bytes) :
    isDirectiveLine (Utf8.decode (maskLine line)) = false := by
  rw [maskLine_eq]
  split
  · exact not_directive_of_allBlank (allBlank_decode_blanks line)
  · next plain => exact Bool.eq_false_iff.mpr plain

theorem mask_not_directive {source line : Bytes} (listed : line ∈ byteLines (mask source)) :
    isDirectiveLine (Utf8.decode line) = false := by
  rw [byteLines_mask] at listed
  obtain ⟨original, _, rfl⟩ := List.mem_map.mp listed
  exact maskLine_not_directive original

theorem mask_eq_self_iff (source : Bytes) :
    mask source = source ↔
      ∀ line ∈ byteLines source, isDirectiveLine (Utf8.decode line) = false := by
  constructor
  · intro same line listed
    rw [← same] at listed
    exact mask_not_directive listed
  · intro plain
    have lines : (byteLines source).map maskLine = byteLines source := by
      refine Eq.trans (List.map_congr_left ?_) (List.map_id _)
      intro line listed
      exact maskLine_of_not_directive (plain line listed)
    rw [mask, lines, byteLines, joinWith_pieces]

end Fixed

/-- Masking keeps the length of a source and each of its line feeds in its place. Directive lines become
spaces and the others stay; none is a directive afterwards, and a second masking does nothing. -/
theorem mask_blanks_directive_lines (source : Bytes) :
    (mask source).length = source.length ∧
      (∀ i : Nat, (mask source)[i]? = some lineFeed ↔ source[i]? = some lineFeed) ∧
      byteLines (mask source) = (byteLines source).map (fun line =>
        if isDirectiveLine (Utf8.decode line) then blanks line else line) ∧
      (∀ line ∈ byteLines (mask source), isDirectiveLine (Utf8.decode line) = false) ∧
      mask (mask source) = mask source := by
  have ends := lineEnds_mask source
  refine ⟨?_, ?_, byteLines_mask source, fun line => mask_not_directive, ?_⟩
  · simpa [lineEnds] using congrArg List.length ends
  · intro i
    rw [← getElem?_lineEnds, ends, getElem?_lineEnds]
  · apply (mask_eq_self_iff (mask source)).mpr
    intro line listed
    exact mask_not_directive listed

end Directive
end DeclGen
