import DeclGen.Text.Basic

/-!
Expressions, as far as it matters for their values and for messages about them: a tree of parts, each
with a shape.
-/
namespace DeclGen.Console.Literal

inductive Numeral where
  | integer (value : Nat)
  | float
  | imaginary
  deriving DecidableEq

inductive Shape where
  | number (numeral : Numeral)
  | text
  | constant (name : Text)
  | identifier (name : Text)
  | tuple
  | set
  | dict
  | entry
  | signed (operator : CodePoint)
  | sum
  | operation
  | comparison (isIn : Bool)
  | call
  | attribute
  | starred
  | lambda
  | conditional
  | named
  | yield
  | await
  | generator
  | setComprehension
  | dictComprehension
  | formatted
  deriving DecidableEq

inductive Expr where
  | node (shape : Shape) (parts : List Expr)

def Expr.shape : Expr → Shape
  | .node shape _ => shape

def Expr.parts : Expr → List Expr
  | .node _ parts => parts

def Expr.leaf (shape : Shape) : Expr := .node shape []

def Shape.title : Shape → Text
  | .number _ | .text => "literal".text
  | .constant name => name
  | .identifier _ => "name".text
  | .tuple => "tuple".text
  | .set => "set display".text
  | .dict | .entry => "dict literal".text
  | .signed _ | .sum | .operation => "expression".text
  | .comparison _ => "comparison".text
  | .call => "function call".text
  | .attribute => "attribute".text
  | .starred => "starred".text
  | .lambda => "lambda".text
  | .conditional => "conditional expression".text
  | .named => "named expression".text
  | .yield => "yield expression".text
  | .await => "await expression".text
  | .generator => "generator expression".text
  | .setComprehension => "set comprehension".text
  | .dictComprehension => "dict comprehension".text
  | .formatted => "f-string expression".text

mutual

/-- The first part of an expression that a loop cannot assign to. A target and `in` have been read as
a comparison. -/
def Expr.badTarget? : Expr → Option Shape
  | .node .tuple parts => badTargetAmong? parts
  | .node .starred parts => badTargetAmong? parts
  | .node (.comparison true) (left :: _) => left.badTarget?
  | .node (.comparison _) _ => none
  | .node (.identifier _) _ => none
  | .node .attribute _ => none
  | .node shape _ => some shape

def badTargetAmong? : List Expr → Option Shape
  | [] => none
  | part :: rest =>
    match part.badTarget? with
    | some bad => some bad
    | none => badTargetAmong? rest

end

mutual

def Expr.height : Expr → Nat
  | .node _ parts => heightAmong parts + 1

def heightAmong : List Expr → Nat
  | [] => 0
  | part :: rest => max part.height (heightAmong rest)

end

end DeclGen.Console.Literal
