import DeclGen.Proofs.Directive.Recognition
import DeclGen.Scope

/-!
Which declarations a line annotates. No keyword begins another one, so a line is read under one keyword
at most. A directive line has its keyword and its first opening parenthesis in front of everything else;
once a closing parenthesis follows, it is read under that keyword, and it annotates what stands below it
exactly if that is of the keyword's kind.
-/
namespace DeclGen

open CodePoint (char)

namespace Directive

def ClosesBehind (line : Text) : Prop :=
  ∃ before after, line = before ++ char '(' :: after ∧ char '(' ∉ before ∧ char ')' ∈ after

variable {line gap rest : Text} {keyword : Keyword}

theorem Keyword.no_paren (keyword : Keyword) : char '(' ∉ keyword.text := by
  cases keyword <;> decide

theorem Opened.first_in_line (opened : Opened keyword line gap rest) :
    ∃ before, line = before ++ char '(' :: rest ∧ char '(' ∉ before := by
  have blank : Text.allBlank (line.takeWhile Text.isBlank) = true := List.all_takeWhile
  have lead : char '(' ∉ line.takeWhile Text.isBlank := allBlank_not_mem blank (by decide)
  refine ⟨line.takeWhile Text.isBlank ++ (keyword.text ++ gap), ?_, ?_⟩
  · have whole : line.takeWhile Text.isBlank ++ Text.stripLeft line = line :=
      List.takeWhile_append_dropWhile
    rw [opened.parts] at whole
    simpa using whole.symm
  · simp only [List.mem_append, not_or]
    exact ⟨lead, keyword.no_paren, opened.first⟩

theorem Opened.closesBehind_iff (opened : Opened keyword line gap rest) :
    ClosesBehind line ↔ char ')' ∈ rest := by
  obtain ⟨front, parts, unopened⟩ := opened.first_in_line
  constructor
  · rintro ⟨before, after, other, absent, closed⟩
    -- both ways to write the line cut it at its first opening parenthesis
    have here := cutFirst_append unopened rest
    rw [← parts, other, cutFirst_append absent] at here
    obtain ⟨-, rfl⟩ := Prod.mk.inj (Option.some.inj here)
    exact closed
  · intro closed
    exact ⟨front, rest, parts, unopened, closed⟩

theorem Opened.begins_iff (opened : Opened keyword line gap rest) (other : Keyword) :
    other.text <+: Text.stripLeft line ↔ other = keyword := by
  have here : keyword.text <+: Text.stripLeft line := by
    rw [opened.parts]
    exact List.prefix_append _ _
  constructor
  · intro begins
    exact keyword_eq_of_begin_alike begins here
  · rintro rfl
    exact here

theorem Opened.read_iff (opened : Opened keyword line gap rest) (closed : char ')' ∈ rest)
    (other : Keyword) : parse line other.text ≠ [] ↔ other = keyword := by
  constructor
  · intro read
    obtain ⟨_, _, alike, _⟩ := parse_ne_nil_iff.mp read
    exact (alike.unique opened).1
  · rintro rfl
    exact parse_ne_nil_iff.mpr ⟨gap, rest, opened, closed⟩

end Directive

namespace Scope

open Directive (Keyword ClosesBehind parse isDirectiveLine)

theorem attached_ne_nil_iff {d : Declaration} :
    attached d ≠ [] ↔
      ∃ keyword, keyword? d.kind = some keyword ∧ parse d.lineAbove keyword.text ≠ [] := by
  unfold attached
  cases keyword? d.kind with
  | none => simp
  | some keyword => simp

/-- A line is read under one keyword at most. A directive line that is closed is read under the one
keyword that it starts with, and so a declaration below it is annotated exactly if its kind has that
keyword. -/
theorem line_annotates_one_kind (line : Text) :
    (∀ first second : Keyword,
      parse line first.text ≠ [] → parse line second.text ≠ [] → first = second) ∧
    (isDirectiveLine line = true → ClosesBehind line →
      ∃ keyword : Keyword,
        (∀ other : Keyword, other.text <+: Text.stripLeft line ↔ other = keyword) ∧
        (∀ other : Keyword, parse line other.text ≠ [] ↔ other = keyword) ∧
        ∀ d : Declaration, d.lineAbove = line →
          (attached d ≠ [] ↔ keyword? d.kind = some keyword)) := by
  constructor
  · intro first second here there
    obtain ⟨_, _, opened, _⟩ := Directive.parse_ne_nil_iff.mp here
    obtain ⟨_, _, alike, _⟩ := Directive.parse_ne_nil_iff.mp there
    exact (opened.unique alike).1
  · intro directive closes
    obtain ⟨keyword, gap, rest, opened, _⟩ := Directive.isDirectiveLine_iff.mp directive
    have read := opened.read_iff (opened.closesBehind_iff.mp closes)
    refine ⟨keyword, opened.begins_iff, read, ?_⟩
    rintro d rfl
    rw [attached_ne_nil_iff]
    constructor
    · rintro ⟨other, kind, found⟩
      rw [kind, (read other).mp found]
    · intro kind
      exact ⟨keyword, kind, (read keyword).mpr rfl⟩

/-- A wide blank in front, one keyword inside another's parentheses, and parentheses to spare. -/
def Sample.closedLine : Text := "\u3000CGCONSTRUCTOR\t(CGCLASS(x)) (".text

theorem line_annotates_one_kind_sample :
    isDirectiveLine Sample.closedLine = true ∧ ClosesBehind Sample.closedLine ∧
      ∀ other : Keyword, parse Sample.closedLine other.text ≠ [] ↔ other = .constructor := by
  have directive : isDirectiveLine Sample.closedLine = true := by decide +kernel
  have closes : ClosesBehind Sample.closedLine :=
    ⟨"\u3000CGCONSTRUCTOR\t".text, "CGCLASS(x)) (".text, by decide, by decide, by decide⟩
  obtain ⟨keyword, begins, read, _⟩ := (line_annotates_one_kind Sample.closedLine).2 directive closes
  have same : Keyword.constructor = keyword := (begins .constructor).mp (by decide +kernel)
  rw [same]
  exact ⟨directive, closes, read⟩

end Scope
end DeclGen
