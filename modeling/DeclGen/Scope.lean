import DeclGen.Declaration
import DeclGen.Declaration.TypeSpelling
import DeclGen.Directive.Parser
import DeclGen.Entity
import DeclGen.Text.Quoted

/-!
From a declaration stream to the annotated entities of one file. The state keeps the classes and
functions that are open, innermost first, a frame for every open declaration that counts, and the
depth of a subtree that is passed over. A class without a directive is open too, so that its members
are not given to the class around it. A function goes to its class or to the unit when it ends.
-/
namespace DeclGen.Scope

open Directive (Keyword)

/-- What an open declaration has to undo when it ends. -/
inductive Frame where
  | plain
  | classBody
  | method
  | function
  deriving DecidableEq, Repr

inductive OrphanRole where
  | member
  | method
  deriving DecidableEq, Repr

/-- An annotated member or method with no annotated class around it. -/
structure Orphan where
  role : OrphanRole
  qualifiedName : Text
  deriving DecidableEq, Repr

inductive ScopeError where
  | unknownKind (name : Text)
  | nestedFunction (inner : Text) (path : Path) (outer : Text)
  | unmatchedEnd (name : Text) (path : Path)
  | unfinished (path : Path) (openScopes : Nat)
  deriving DecidableEq

def ScopeError.message : ScopeError → Text
  | .unknownKind name => "Unknown declaration kind ".text ++ Text.quoted name
  | .nestedFunction inner path outer =>
    inner ++ " in ".text ++ path.text ++ " opened inside function ".text ++ outer
  | .unmatchedEnd name path => "Unmatched end of ".text ++ name ++ " in ".text ++ path.text
  | .unfinished path openScopes =>
    "Declaration stream for ".text ++ path.text ++ " ended with ".text ++ Text.ofNat openScopes
      ++ " open scope(s)".text

structure State where
  unit : SourceUnit
  /-- Positions in `unit.classes` of the open classes; nothing for one without a directive. -/
  classStack : List (Option Nat)
  functionStack : List Function
  frames : List Frame
  /-- How many declarations of a subtree that is passed over are open. -/
  skipDepth : Nat
  orphans : List Orphan
  deriving DecidableEq

def State.initial (path : Path) : State :=
  { unit := { path := path }, classStack := [], functionStack := [], frames := [], skipDepth := 0,
    orphans := [] }

def keyword? : DeclKind → Option Keyword
  | .record => some .classType
  | .field => some .member
  | .method => some .method
  | .constructor => some .constructor
  | .variable => some .variable
  | .function => some .function
  | .parameter | .unknown _ => none

/-- The properties that the line above attaches to a declaration; none if it is not annotated. -/
def attached (d : Declaration) : List Property :=
  match keyword? d.kind with
  | some keyword => Directive.parse d.lineAbove keyword.text
  | none => []

def entity (path : Path) (d : Declaration) (properties : List Property) : Entity :=
  { name := d.name, fullNamespace := d.qualifiedName, path := path, properties := properties }

def variableOf (path : Path) (d : Declaration) (properties : List Property) : Variable :=
  { entity path d properties with type := typeSpelling d.sourceText d.name }

def functionOf (path : Path) (d : Declaration) (properties : List Property) : Function :=
  { entity path d properties with
    returnType :=
      if d.kind = .constructor then "void".text else typeSpelling d.sourceText d.name
    parameters := []
    isConstructor := decide (d.kind = .constructor) }

def classOf (path : Path) (d : Declaration) (properties : List Property) : Class :=
  { entity path d properties with members := [], methods := [] }

namespace State

def path (s : State) : Path := s.unit.path

def openClass? (s : State) : Option Nat := s.classStack.head?.join

def push (s : State) (frame : Frame) : State := { s with frames := frame :: s.frames }

def modifyClass (s : State) (position : Nat) (change : Class → Class) : State :=
  { s with unit := { s.unit with classes := s.unit.classes.modify position change } }

def orphan (s : State) (role : OrphanRole) (d : Declaration) : State :=
  { s with
    unit := { s.unit with unattributed := s.unit.unattributed + 1 }
    orphans := s.orphans ++ [⟨role, d.qualifiedName⟩] }

def enterRecord (s : State) (d : Declaration) : State :=
  match attached d with
  | [] => { s with classStack := none :: s.classStack }
  | properties =>
    { s with
      unit := { s.unit with classes := s.unit.classes ++ [classOf s.path d properties] }
      classStack := some s.unit.classes.length :: s.classStack }

def enterField (s : State) (d : Declaration) : State :=
  match attached d with
  | [] => s
  | properties =>
    match s.openClass? with
    | none => s.orphan .member d
    | some position =>
      s.modifyClass position fun c =>
        { c with members := c.members ++ [variableOf s.path d properties] }

def enterVariable (s : State) (d : Declaration) : State :=
  match attached d with
  | [] => s
  | properties =>
    { s with
      unit := { s.unit with globals := s.unit.globals ++ [variableOf s.path d properties] } }

/-- A parameter belongs to the open function; outside of one it is only counted. -/
def enterParameter (s : State) (d : Declaration) : State :=
  match s.functionStack with
  | [] => { s with unit := { s.unit with skippedParameters := s.unit.skippedParameters + 1 } }
  | f :: outer => { s with functionStack := f.addParameter (variableOf s.path d []) :: outer }

/-- Functions do not nest. One without a directive is passed over with all that it contains. -/
def enterFunction (s : State) (d : Declaration) : State × Option ScopeError :=
  match s.functionStack with
  | f :: _ => (s, some (.nestedFunction d.qualifiedName s.path f.fullNamespace))
  | [] =>
    match attached d with
    | [] => ({ s with skipDepth := 1 }, none)
    | properties =>
      let opened := { s with functionStack := [functionOf s.path d properties] }
      (opened.push (if d.kind = .function then .function else .method), none)

def enter (s : State) (d : Declaration) : State × Option ScopeError :=
  if 0 < s.skipDepth then ({ s with skipDepth := s.skipDepth + 1 }, none)
  else if d.file ≠ s.path then ({ s with skipDepth := 1 }, none)
  else
    match d.kind with
    | .record => ((s.enterRecord d).push .classBody, none)
    | .field => ((s.enterField d).push .plain, none)
    | .method | .constructor | .function => s.enterFunction d
    | .parameter => ((s.enterParameter d).push .plain, none)
    | .variable => ((s.enterVariable d).push .plain, none)
    | .unknown name => (s, some (.unknownKind name))

def storeMethod (s : State) (f : Function) (d : Declaration) : State :=
  match s.openClass? with
  | none => s.orphan .method d
  | some position => s.modifyClass position fun c => { c with methods := c.methods ++ [f] }

/-- Ends the innermost open declaration; which declaration the event names plays no part in it. -/
def exit (s : State) (d : Declaration) : State × Option ScopeError :=
  if 0 < s.skipDepth then ({ s with skipDepth := s.skipDepth - 1 }, none)
  else
    match s.frames with
    | [] => (s, some (.unmatchedEnd d.qualifiedName s.path))
    | frame :: outer =>
      let s := { s with frames := outer }
      match frame, s.functionStack with
      | .plain, _ => (s, none)
      | .classBody, _ => ({ s with classStack := s.classStack.tail }, none)
      | .method, f :: functions => (({ s with functionStack := functions }).storeMethod f d, none)
      | .function, f :: functions =>
        ({ s with
          functionStack := functions
          unit := { s.unit with functions := s.unit.functions ++ [f] } }, none)
      | .method, [] | .function, [] => (s, none)

def feed (s : State) : Event → State × Option ScopeError
  | .enter d => s.enter d
  | .exit d => s.exit d

def feedAll (s : State) (events : List Event) : State :=
  events.foldl (fun state event => (state.feed event).1) s

def trace (s : State) : List Event → List (State × Option ScopeError)
  | [] => []
  | event :: rest => s.feed event :: trace (s.feed event).1 rest

def run (s : State) : List Event → State × Option ScopeError
  | [] => (s, none)
  | event :: rest =>
    match s.feed event with
    | (next, none) => run next rest
    | failed => failed

def finish (s : State) : Except ScopeError SourceUnit :=
  if s.frames.isEmpty ∧ s.skipDepth = 0 then .ok s.unit
  else .error (.unfinished s.path (s.frames.length + s.skipDepth))

end State

def track (path : Path) (events : List Event) : Except ScopeError SourceUnit :=
  match (State.initial path).run events with
  | (s, none) => s.finish
  | (_, some error) => .error error

end DeclGen.Scope
