import DeclGen.Text.Basic
import DeclGen.Text.CaseTable

/-!
Full letter case: one letter may become several, and a capital sigma takes its final form at the end
of a word.
-/
namespace DeclGen.Text

def inRuns? (runs : List CaseRun) (n : Nat) : Option Nat :=
  (runs.find? fun r => decide (r.first ≤ n) && decide (n ≤ r.last) && (n - r.first) % r.step == 0).map
    fun r => r.target + (n - r.first)

def mapCase (runs : List CaseRun) (expansions : List (Nat × List Nat)) (c : CodePoint) : Text :=
  match expansions.lookup c.toNat with
  | some codes => codes.map CodePoint.ofNat
  | none => [((inRuns? runs c.toNat).map CodePoint.ofNat).getD c]

def isCased (c : CodePoint) : Bool := inRanges casedRanges c.toNat

def isCaseIgnorable (c : CodePoint) : Bool := inRanges caseIgnorableRanges c.toNat

def capitalSigma : CodePoint := Char.ofNat 0x3A3

def finalSigma : CodePoint := Char.ofNat 0x3C2

def nextIsCased (t : Text) : Bool :=
  match t.dropWhile isCaseIgnorable with
  | [] => false
  | c :: _ => isCased c

def lowerAfter (before : Text) : Text → Text
  | [] => []
  | c :: rest =>
    let letters :=
      if c = capitalSigma ∧ nextIsCased before ∧ !nextIsCased rest then [finalSigma]
      else mapCase lowerRuns lowerExpansions c
    letters ++ lowerAfter (c :: before) rest

def lower (t : Text) : Text := lowerAfter [] t

def upper (t : Text) : Text := t.flatMap (mapCase upperRuns upperExpansions)

end DeclGen.Text
