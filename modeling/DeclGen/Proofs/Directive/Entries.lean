import DeclGen.Directive.Parser
import DeclGen.Proofs.Directive.Cutting

/-!
The entries of an argument list, one at a time. An entry is a name, or a name and a value around the
first equals sign at depth zero; blanks play no part in either.
-/
namespace DeclGen.Directive

open CodePoint (char)

def parseEntry (entry : Text) : Property :=
  match groupBody? (nameAndValue entry).2 with
  | some body => .group (nameAndValue entry).1 (parseEntries body)
  | none => .text (nameAndValue entry).1 (nameAndValue entry).2

theorem parseEntries_eq (t : Text) :
    parseEntries t = (splitTopLevel ',' none t).map parseEntry := by
  rw [parseEntries]
  refine Eq.trans (List.map_congr_left ?_) List.attach_map_val
  intro entry _
  unfold parseEntry
  split <;> simp_all

theorem nameAndValue_flag {entry : Text} (uncut : hasCut '=' 0 entry = false) :
    nameAndValue entry = (Text.squeeze entry, []) := by
  rw [nameAndValue, splitTopLevel, splitFrom_uncut uncut]

theorem nameAndValue_assignment {name : Text} (uncut : hasCut '=' 0 name = false)
    (closed : depthAfter 0 name = 0) (value : Text) :
    nameAndValue (name ++ char '=' :: value) = (Text.squeeze name, Text.squeeze value) := by
  rw [nameAndValue, splitTopLevel, splitFrom_cut (by decide) (by simp) uncut closed]
  simp [splitFrom_exhausted]

theorem entry_cases (entry : Text) :
    hasCut '=' 0 entry = false ∨ ∃ name value, entry = name ++ char '=' :: value ∧
      hasCut '=' 0 name = false ∧ depthAfter 0 name = 0 := by
  cases cut : hasCut '=' 0 entry with
  | false => exact .inl rfl
  | true => exact .inr (first_cut cut)

theorem squeeze_squeeze (t : Text) : Text.squeeze (Text.squeeze t) = Text.squeeze t := by
  simp [Text.squeeze]

theorem squeeze_append (first second : Text) :
    Text.squeeze (first ++ second) = Text.squeeze first ++ Text.squeeze second :=
  List.filter_append ..

theorem nameAndValue_squeeze (entry : Text) :
    nameAndValue (Text.squeeze entry) = nameAndValue entry := by
  rcases entry_cases entry with uncut | ⟨name, value, rfl, uncut, closed⟩
  · rw [nameAndValue_flag uncut, nameAndValue_flag ((hasCut_squeeze (by decide) 0 _).trans uncut),
      squeeze_squeeze]
  · rw [squeeze_append, squeeze_cons (by decide), nameAndValue_assignment uncut closed,
      nameAndValue_assignment ((hasCut_squeeze (by decide) 0 name).trans uncut)
        ((depthAfter_squeeze 0 name).trans closed),
      squeeze_squeeze, squeeze_squeeze]

theorem parseEntry_squeeze (entry : Text) : parseEntry (Text.squeeze entry) = parseEntry entry := by
  rw [parseEntry, nameAndValue_squeeze]
  rfl

theorem parseEntries_squeeze (t : Text) : parseEntries (Text.squeeze t) = parseEntries t := by
  rw [parseEntries_eq, parseEntries_eq, splitTopLevel, splitFrom_squeeze (by decide), List.map_map]
  exact List.map_congr_left fun entry _ => parseEntry_squeeze entry

theorem parseEntry_cases (entry : Text) :
    (hasCut '=' 0 entry = false ∧ parseEntry entry = .text (Text.squeeze entry) []) ∨
    ∃ name value, entry = name ++ char '=' :: value ∧ hasCut '=' 0 name = false ∧ depthAfter 0 name = 0 ∧
      ((groupBody? (Text.squeeze value) = none ∧
          parseEntry entry = .text (Text.squeeze name) (Text.squeeze value)) ∨
        ∃ body, Text.squeeze value = char '{' :: body ++ [char '}'] ∧ Balanced body ∧
          parseEntry entry = .group (Text.squeeze name) (parseEntries body)) := by
  rcases entry_cases entry with uncut | ⟨name, value, rfl, uncut, closed⟩
  · refine .inl ⟨uncut, ?_⟩
    rw [parseEntry, nameAndValue_flag uncut]
    rfl
  · refine .inr ⟨name, value, rfl, uncut, closed, ?_⟩
    rw [parseEntry, nameAndValue_assignment uncut closed]
    cases group : groupBody? (Text.squeeze value) with
    | none => exact .inl ⟨rfl, rfl⟩
    | some body =>
      obtain ⟨braces, balanced⟩ := groupBody_eq_some group
      exact .inr ⟨body, braces, balanced, rfl⟩

end DeclGen.Directive
