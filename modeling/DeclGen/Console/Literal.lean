import DeclGen.Console.Literal.Reader

/-!
The values of literal expressions: numbers with a sign, complex numbers, texts, tuples, sets and
dictionaries. Only whether there is a value matters here, and whether it may be a key.
-/
namespace DeclGen.Console.Literal

inductive LiteralFault where
  | syntactic (message : Text)
  | valueless (message : Text)
  deriving DecidableEq

def malformed : Text := "malformed node or string".text

abbrev Obstacle := Option Text

def unhashable (kind : Text) : Text :=
  "unhashable type: ".text ++ Text.quoted kind

def Expr.numeral? : Expr → Option Numeral
  | .node (.number numeral) _ => some numeral
  | _ => none

def Expr.signedNumeral? : Expr → Option Numeral
  | .node (.signed c) [operand] => if c = '+' || c = '-' then operand.numeral? else none
  | expr => expr.numeral?

def complexLimit : Nat := Nat.pow 2 1024 - Nat.pow 2 970

def complexValue (left right : Expr) : Except Text Obstacle :=
  match left.signedNumeral?, right.numeral? with
  | some (.integer n), some .imaginary =>
    if n < complexLimit then .ok none else .error "int too large to convert to float".text
  | some .float, some .imaginary => .ok none
  | _, _ => .error malformed

mutual

def value : Expr → Except Text Obstacle
  | .node (.number _) _ | .node .text _ | .node (.constant _) _ => .ok none
  | .node (.signed c) parts =>
    if (Expr.node (.signed c) parts).signedNumeral?.isSome then .ok none else .error malformed
  | .node .sum [left, right] => complexValue left right
  | .node .call [callee] =>
    if callee.shape = .identifier "set".text then .ok (some "set".text) else .error malformed
  | .node .tuple items => values items
  | .node .set items => do
    keyValues items
    pure (some "set".text)
  | .node .dict entries => do
    entryValues entries
    pure (some "dict".text)
  | _ => .error malformed

/-- Evaluates expressions in order; the first obstacle counts. -/
def values : List Expr → Except Text Obstacle
  | [] => .ok none
  | item :: rest => do
    let first ← value item
    let others ← values rest
    pure (first.or others)

def keyValues : List Expr → Except Text Unit
  | [] => .ok ()
  | item :: rest => do
    match ← value item with
    | some kind => throw (unhashable kind)
    | none => keyValues rest

def entryValues : List Expr → Except Text Unit
  | [] => .ok ()
  | .node _ [key, item] :: rest => do
    let obstacle ← value key
    let _ ← value item
    match obstacle with
    | some kind => throw (unhashable kind)
    | none => entryValues rest
  | _ :: _ => .error (malformed ++ ": None".text)

end

def heightLimit : Nat := 2840

def tooHigh : Text := "maximum recursion depth exceeded during ast construction".text

def nullFault : Text := "source code string cannot contain null bytes".text

def fault? (t : Text) : Option LiteralFault :=
  if t.contains (Char.ofNat 0) then some (.valueless nullFault)
  else
    match parse t with
    | .error (.syntactic message) => some (.syntactic message)
    | .error .tooDeep => some (.valueless [])
    | .ok expr =>
      if heightLimit < expr.height then some (.valueless tooHigh)
      else
        match value expr with
        | .error message => some (.valueless message)
        | .ok _ => none

end DeclGen.Console.Literal
