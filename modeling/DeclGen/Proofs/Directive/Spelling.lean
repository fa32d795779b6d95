import DeclGen.Proofs.Directive.Recognition

/-!
Ways to write one directive. What stands in front of the keyword, between it and the parenthesis, and
behind the arguments has no say in what is read, and neither have the blanks among the arguments. So
two lines with the same arguments up to blanks are read alike; any other line is not read at all.
-/
namespace DeclGen.Directive

open CodePoint (char)

/-- What is put around a keyword to make a line of it: blanks in front, anything up to the first opening
parenthesis, the arguments up to the first closing one, and anything behind. -/
structure Spelling where
  lead : Text
  gap : Text
  arguments : Text
  rest : Text
  leadBlank : Text.allBlank lead = true
  gapUnopened : char '(' ∉ gap
  argumentsUnclosed : char ')' ∉ arguments

namespace Spelling

def line (s : Spelling) (keyword : Keyword) : Text :=
  s.lead ++ keyword.text ++ s.gap ++ [char '('] ++ s.arguments ++ [char ')'] ++ s.rest

theorem line_eq (s : Spelling) (keyword : Keyword) :
    s.line keyword =
      s.lead ++ (keyword.text ++ (s.gap ++ char '(' :: (s.arguments ++ char ')' :: s.rest))) := by
  simp [line]

theorem opened (s : Spelling) (keyword : Keyword) :
    Opened keyword (s.line keyword) s.gap (s.arguments ++ char ')' :: s.rest) where
  parts := by
    rw [line_eq, Text.stripLeft, List.dropWhile_append_of_pos (List.all_eq_true.mp s.leadBlank)]
    exact stripLeft_keyword keyword _
  first := s.gapUnopened

end Spelling

theorem Opened.parse_eq {keyword : Keyword} {line gap arguments rest : Text}
    (opened : Opened keyword line gap (arguments ++ char ')' :: rest)) (unclosed : char ')' ∉ arguments) :
    parse line keyword.text = argumentProperties keyword.text arguments := by
  rw [parse, opened.parts]
  simp [arguments_eq opened.first unclosed rest, argumentProperties]

/-- The lines from which something is read are those that are written in this way. -/
theorem parse_ne_nil_iff_spelled (line : Text) (keyword : Keyword) :
    parse line keyword.text ≠ [] ↔ ∃ s : Spelling, line = s.line keyword := by
  rw [parse_ne_nil_iff]
  constructor
  · rintro ⟨gap, behind, opened, closed⟩
    -- the arguments end where the first closing parenthesis stands, however many there are
    obtain ⟨arguments, rest, rfl, unclosed⟩ := List.eq_append_cons_of_mem closed
    refine ⟨⟨line.takeWhile Text.isBlank, gap, arguments, rest, List.all_takeWhile, opened.first,
      unclosed⟩, ?_⟩
    rw [Spelling.line_eq, ← opened.parts]
    exact List.takeWhile_append_dropWhile.symm
  · rintro ⟨s, rfl⟩
    exact ⟨s.gap, _, s.opened keyword, by simp⟩

theorem allBlank_squeeze (t : Text) : Text.allBlank (Text.squeeze t) = Text.allBlank t := by
  induction t with
  | nil => rfl
  | cons c rest ih =>
    cases blank : Text.isBlank c with
    | true => simpa [squeeze_cons_blank blank, Text.allBlank, blank] using ih
    | false => simp [squeeze_cons blank, Text.allBlank, blank]

theorem argumentProperties_squeeze (keyword arguments : Text) :
    argumentProperties keyword (Text.squeeze arguments) = argumentProperties keyword arguments := by
  rw [argumentProperties, argumentProperties, allBlank_squeeze, parseEntries_squeeze]

/-- Lines of one keyword whose arguments are the same up to blanks are read alike, whatever else
stands in them; and only such lines are read. -/
theorem parse_depends_on_squeezed_arguments (keyword : Keyword) (first second : Spelling)
    (same : Text.squeeze first.arguments = Text.squeeze second.arguments) :
    parse (first.line keyword) keyword.text = parse (second.line keyword) keyword.text ∧
      ∀ line, parse line keyword.text ≠ [] ↔ ∃ s : Spelling, line = s.line keyword := by
  have squeezed : ∀ s : Spelling, parse (s.line keyword) keyword.text =
      argumentProperties keyword.text (Text.squeeze s.arguments) := by
    intro s
    rw [(s.opened keyword).parse_eq s.argumentsUnclosed, argumentProperties_squeeze]
  refine ⟨?_, fun line => parse_ne_nil_iff_spelled line keyword⟩
  rw [squeezed first, squeezed second, same]

namespace Sample

def tight : Spelling :=
  ⟨[], [], "ab=\x7bc,d=\x7be=1\x7d\x7d,\x7d=f".text, [], by decide, by decide, by decide⟩

/-- Wide and narrow blanks everywhere, another word behind the keyword and parentheses around. -/
def loose : Spelling :=
  ⟨"\t\u3000".text, " of ) kind".text,
    "a\u2003b = \x7b c ,\u00A0d=\u2028\x7be\t= 1\x7d \x7d , \x7d= f ".text, " // )(".text,
    by decide, by decide, by decide⟩

end Sample

theorem parse_depends_on_squeezed_arguments_sample :
    Text.squeeze Sample.tight.arguments = Text.squeeze Sample.loose.arguments ∧
      parse (Sample.tight.line .member) Keyword.member.text =
        parse (Sample.loose.line .member) Keyword.member.text ∧
      parse (Sample.tight.line .member) Keyword.member.text =
        [.flag "CGMEMBER".text,
          .group "ab".text [.flag "c".text, .group "d".text [.text "e".text "1".text]],
          .text ['}'] "f".text] := by
  have same : Text.squeeze Sample.tight.arguments = Text.squeeze Sample.loose.arguments := by decide
  exact ⟨same, (parse_depends_on_squeezed_arguments .member Sample.tight Sample.loose same).1,
    by decide +kernel⟩

end DeclGen.Directive
