import DeclGen.Proofs.Directive.Entries

/-!
A whole line. What is read from it depends on its argument list alone, which holds no closing
parenthesis; a keyword with any such list in parentheses is read as that list.
-/
namespace DeclGen.Directive

open CodePoint (char)

theorem cutFirst_not_mem {mark : CodePoint} {t before after : Text}
    (cut : Text.cutFirst? mark t = some (before, after)) : mark ∉ before := by
  induction t generalizing before with
  | nil => simp [Text.cutFirst?] at cut
  | cons c rest ih =>
    rw [Text.cutFirst?] at cut
    split at cut
    · simp only [Option.some.injEq, Prod.mk.injEq] at cut
      simp [← cut.1]
    · next other =>
      obtain ⟨parts, later, same⟩ := Option.map_eq_some_iff.mp cut
      obtain ⟨rfl, rfl⟩ := Prod.mk.inj same
      simp [Ne.symm other, ih later]

theorem cutFirst_append {mark : CodePoint} {before : Text} (absent : mark ∉ before) (after : Text) :
    Text.cutFirst? mark (before ++ mark :: after) = some (before, after) := by
  induction before with
  | nil => simp [Text.cutFirst?]
  | cons c rest ih =>
    simp only [List.mem_cons, not_or] at absent
    simp [Text.cutFirst?, Ne.symm absent.1, ih absent.2]

theorem arguments_noParen {t arguments : Text} (found : arguments? t = some arguments) :
    char ')' ∉ arguments := by
  obtain ⟨⟨_, inner⟩, _, later⟩ := Option.bind_eq_some_iff.mp found
  obtain ⟨⟨inside, _⟩, cut, same⟩ := Option.bind_eq_some_iff.mp later
  rw [← Option.some.inj same]
  exact cutFirst_not_mem cut

def argumentProperties (keyword arguments : Text) : List Property :=
  .flag keyword :: if Text.allBlank arguments then [] else parseEntries arguments

theorem parse_cases (line keyword : Text) :
    parse line keyword = [] ∨
      ∃ arguments, char ')' ∉ arguments ∧ parse line keyword = argumentProperties keyword arguments := by
  unfold parse
  dsimp only
  split
  · split
    · exact .inl rfl
    · next arguments found => exact .inr ⟨arguments, arguments_noParen found, rfl⟩
  · exact .inl rfl

theorem stripLeft_keyword (keyword : Keyword) (rest : Text) :
    Text.stripLeft (keyword.text ++ rest) = keyword.text ++ rest := by
  cases keyword <;> rfl

theorem arguments_eq {gap arguments : Text} (unopened : char '(' ∉ gap)
    (unclosed : char ')' ∉ arguments)
    (rest : Text) :
    arguments? (gap ++ char '(' :: (arguments ++ char ')' :: rest)) = some arguments := by
  rw [arguments?, cutFirst_append unopened]
  simp [cutFirst_append unclosed]

theorem parse_written (keyword : Keyword) {arguments : Text} (noParen : char ')' ∉ arguments) :
    parse (keyword.text ++ [char '('] ++ arguments ++ [char ')']) keyword.text =
      argumentProperties keyword.text arguments := by
  have inside : arguments? (char '(' :: (arguments ++ [char ')'])) = some arguments :=
    arguments_eq List.not_mem_nil noParen []
  rw [parse, List.append_assoc, List.append_assoc, stripLeft_keyword]
  simp [inside, argumentProperties]

theorem parse_equals (keyword : Keyword) :
    parse (keyword.text ++ "(=)".text) keyword.text = [.flag keyword.text, .text [] []] := by
  have written := parse_written keyword (show char ')' ∉ [.char '='] by decide)
  rw [List.append_assoc, List.append_assoc] at written
  refine written.trans ?_
  rw [argumentProperties, parseEntries_eq]
  rfl

end DeclGen.Directive
