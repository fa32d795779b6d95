import DeclGen.Text.Basic

/-!
Cutting text at separators that stand outside every brace group. Depth is counted from zero; a
closing brace at depth zero is an ordinary character. A group is a text whose first brace is closed
by its last character.
-/
namespace DeclGen.Directive

def splitFrom (sep : CodePoint) (depth : Nat) (limit : Option Nat) : Text → List Text
  | [] => [[]]
  | c :: rest =>
    if c = '{' then extendFirst c (splitFrom sep (depth + 1) limit rest)
    else if c = '}' ∧ 0 < depth then extendFirst c (splitFrom sep (depth - 1) limit rest)
    else if c = sep ∧ depth = 0 ∧ limit ≠ some 0 then
      [] :: splitFrom sep 0 (limit.map (· - 1)) rest
    else extendFirst c (splitFrom sep depth limit rest)

/-- The parts between the separators outside of groups; without a limit every one of them cuts. -/
def splitTopLevel (sep : CodePoint) (limit : Option Nat) (t : Text) : List Text :=
  splitFrom sep 0 limit t

def closesAtEnd (depth : Nat) : Text → Bool
  | [] => false
  | c :: rest =>
    if c = '{' then closesAtEnd (depth + 1) rest
    else if c = '}' then
      if depth ≤ 1 then rest.isEmpty else closesAtEnd (depth - 1) rest
    else closesAtEnd depth rest

def isGroup : Text → Bool
  | [] => false
  | c :: rest => c == '{' && closesAtEnd 1 rest

def groupBody? (v : Text) : Option Text := if isGroup v then some v.tail.dropLast else none

theorem length_splitFrom (sep : CodePoint) (depth : Nat) (limit : Option Nat) (t : Text) :
    (splitFrom sep depth limit t).flatten.length ≤ t.length := by
  induction t generalizing depth limit with
  | nil => simp [splitFrom]
  | cons c rest ih =>
    simp only [splitFrom]
    split
    · have := ih (depth + 1) limit
      simp only [length_extendFirst, List.length_cons]; omega
    · split
      · have := ih (depth - 1) limit
        simp only [length_extendFirst, List.length_cons]; omega
      · split
        · have := ih 0 (limit.map (· - 1))
          simp only [List.flatten_cons, List.nil_append, List.length_cons]; omega
        · have := ih depth limit
          simp only [length_extendFirst, List.length_cons]; omega

theorem length_le_of_mem_split {sep : CodePoint} {limit : Option Nat} {t part : Text}
    (h : part ∈ splitTopLevel sep limit t) : part.length ≤ t.length :=
  Nat.le_trans (List.sublist_flatten_of_mem h).length_le (length_splitFrom sep 0 limit t)

end DeclGen.Directive
