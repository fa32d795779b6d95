import DeclGen.Text.Basic

/-!
Properties: the names and values that a directive attaches to a declaration. A value is a text or a
group of further properties. The printer writes properties the way a directive lists them.
-/
namespace DeclGen

inductive Property where
  | text (name value : Text)
  | group (name : Text) (entries : List Property)
  deriving Repr

namespace Property

def name : Property → Text
  | .text name _ => name
  | .group name _ => name

def flag (name : Text) : Property := .text name []

mutual

def decEq : (p q : Property) → Decidable (p = q)
  | .text n v, .text m w =>
    if h : n = m ∧ v = w then isTrue (by rw [h.1, h.2])
    else isFalse fun e => h (Property.text.inj e)
  | .group n ps, .group m qs =>
    match decEqList ps qs with
    | isTrue hl =>
      if h : n = m then isTrue (by rw [h, hl])
      else isFalse fun e => h (Property.group.inj e).1
    | isFalse hl => isFalse fun e => hl (Property.group.inj e).2
  | .text .., .group .. => isFalse nofun
  | .group .., .text .. => isFalse nofun

def decEqList : (ps qs : List Property) → Decidable (ps = qs)
  | [], [] => isTrue rfl
  | [], _ :: _ => isFalse nofun
  | _ :: _, [] => isFalse nofun
  | p :: ps, q :: qs =>
    match decEq p q with
    | isTrue h =>
      match decEqList ps qs with
      | isTrue hl => isTrue (by rw [h, hl])
      | isFalse hl => isFalse fun e => hl (List.cons.inj e).2
    | isFalse h => isFalse fun e => h (List.cons.inj e).1

end

instance : DecidableEq Property := decEq

def find? (properties : List Property) (name : Text) : Option Property :=
  properties.find? fun p => p.name == name

mutual

def format : Property → Text
  | .text name [] => name
  | .text name value => name ++ [CodePoint.char '='] ++ value
  | .group name entries =>
    name ++ [CodePoint.char '=', '{'] ++ joinWith ", ".text (formatEach entries)
      ++ [CodePoint.char '}']

def formatEach : List Property → List Text
  | [] => []
  | p :: rest => format p :: formatEach rest

end

/-- The entries of a directive; the first property is the keyword and is not written. -/
def formatArguments (properties : List Property) : Text :=
  joinWith ", ".text (formatEach properties.tail)

end Property
end DeclGen
