import DeclGen.Directive.TopLevel
import DeclGen.Property

/-!
Reading one-line directives such as `CGMEMBER(a=1, b={c, d=2})`. The argument list ends at the first
closing parenthesis, and blanks inside it never matter. Reading gives the keyword as first property,
or nothing at all when the line is no directive of that keyword.
-/
namespace DeclGen.Directive

inductive Keyword where
  | classType
  | member
  | method
  | constructor
  | variable
  | function
  deriving DecidableEq, Repr

def Keyword.text : Keyword → Text
  | .classType => "CGCLASS".text
  | .member => "CGMEMBER".text
  | .method => "CGMETHOD".text
  | .constructor => "CGCONSTRUCTOR".text
  | .variable => "CGVARIABLE".text
  | .function => "CGFUNCTION".text

def Keyword.all : List Keyword := [.classType, .member, .method, .constructor, .variable, .function]

/-- The name and the value of one entry, free of blanks; a missing value is empty. -/
def nameAndValue (entry : Text) : Text × Text :=
  match splitTopLevel '=' (some 1) entry with
  | [] => ([], [])
  | [name] => (Text.squeeze name, [])
  | name :: value :: _ => (Text.squeeze name, Text.squeeze value)

theorem length_value_le (entry : Text) : (nameAndValue entry).2.length ≤ entry.length := by
  unfold nameAndValue
  split
  · simp
  · simp
  · next name value others h =>
    have member : value ∈ splitTopLevel '=' (some 1) entry := by rw [h]; simp
    exact Nat.le_trans (List.length_filter_le _ _) (length_le_of_mem_split member)

theorem length_groupBody {v body : Text} (h : groupBody? v = some body) :
    body.length < v.length := by
  unfold groupBody? at h
  split at h
  · next group =>
    cases v with
    | nil => simp [isGroup] at group
    | cons c rest =>
      simp only [Option.some.injEq, List.tail_cons] at h
      subst h
      simp only [List.length_dropLast, List.length_cons]; omega
  · simp at h

/-- The entries of an argument list; a group's entries are read in the same way. -/
def parseEntries (t : Text) : List Property :=
  (splitTopLevel ',' none t).attach.map fun entry =>
    match _found : groupBody? (nameAndValue entry.1).2 with
    | some body => .group (nameAndValue entry.1).1 (parseEntries body)
    | none => .text (nameAndValue entry.1).1 (nameAndValue entry.1).2
termination_by t.length
decreasing_by
  have := length_groupBody _found
  have := length_value_le entry.1
  have := length_le_of_mem_split entry.2
  omega

def arguments? (t : Text) : Option Text := do
  let (_, inner) ← Text.cutFirst? '(' t
  let (arguments, _) ← Text.cutFirst? ')' inner
  pure arguments

/-- The properties that a line attaches under a keyword; none if the line does not start with the
keyword or its argument list is not closed. -/
def parse (line keyword : Text) : List Property :=
  let stripped := Text.stripLeft line
  if keyword.isPrefixOf stripped then
    match arguments? (stripped.drop keyword.length) with
    | none => []
    | some arguments =>
      .flag keyword :: if Text.allBlank arguments then [] else parseEntries arguments
  else []

/-- Whether a line is a directive of this keyword as far as masking is concerned: the keyword, blanks,
an opening parenthesis. -/
def startsWith (keyword : Keyword) (line : Text) : Bool :=
  let stripped := Text.stripLeft line
  keyword.text.isPrefixOf stripped
    && (Text.stripLeft (stripped.drop keyword.text.length)).head? == some (CodePoint.char '(')

def isDirectiveLine (line : Text) : Bool := Keyword.all.any fun keyword => startsWith keyword line

end DeclGen.Directive
