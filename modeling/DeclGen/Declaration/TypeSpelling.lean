import DeclGen.Text.Basic

/-!
The type of a declared name, spelled as the source spells it: what is written before the name, up to
the last space. This is a reading of text, not of the language: `int *p` spells `int`.
-/
namespace DeclGen

namespace TypeSpelling

def staticWord : Text := "static".text

def afterStatic? (t : Text) : Option Text :=
  if staticWord.isPrefixOf t ∧ ((t.drop 6).head?.map Text.isBlank).getD false then
    some (Text.stripLeft (t.drop 6))
  else none

theorem length_afterStatic {t rest : Text} (h : afterStatic? t = some rest) :
    rest.length < t.length := by
  unfold afterStatic? at h
  split at h
  · next found =>
    have stripped : rest.length ≤ (t.drop 6).length := by
      rw [← Option.some.inj h]
      exact (List.dropWhile_sublist _).length_le
    have nonempty : t.drop 6 ≠ [] := by
      intro empty
      simp [empty] at found
    have : 0 < (t.drop 6).length := List.length_pos_iff.2 nonempty
    rw [List.length_drop] at *
    omega
  · simp at h

def eraseStatic (t : Text) : Text :=
  match _found : afterStatic? t with
  | some rest => eraseStatic rest
  | none =>
    match t with
    | [] => []
    | c :: rest => c :: eraseStatic rest
termination_by t.length
decreasing_by
  · exact length_afterStatic _found
  · simp

end TypeSpelling

/-- The type written before the first occurrence of `name`: everything up to the last space at or
before it, or all of the text when there is no such space. -/
def typeSpelling (sourceText name : Text) : Text :=
  let scanned :=
    match Text.indexOf? name sourceText with
    | some position => sourceText.take (position + 1)
    | none => sourceText
  TypeSpelling.eraseStatic ((Text.beforeLast? ' ' scanned).getD sourceText)

end DeclGen
