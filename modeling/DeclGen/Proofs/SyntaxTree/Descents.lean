import DeclGen.Proofs.SyntaxTree.Masking

/-!
Three searches go down from a declarator: one for the declared name, one for the declarator of a
function declaration, one for the function whose parameters a variable lists. They take the same way
and differ in where they stop and in what they pass, so what one of them finds can be told from the way
that another one took.
-/
namespace DeclGen.SyntaxTree
namespace Node

/-- The way down from a node to another, with the nodes that it leaves behind. -/
inductive Descent : Node → List Node → Node → Prop
  | here (n : Node) : Descent n [] n
  | inner {n c last : Node} {passed : List Node} (down : n.innerDeclarator? = some c)
      (rest : Descent c passed last) : Descent n (n :: passed) last

/-- A search that ends at a node where it stops, goes on inside a node that it passes, and gives up at
any other. -/
def GoesDown (search : Node → Option Node) (stops passes : Node → Bool) : Prop :=
  ∀ n, search n =
    if stops n then some n else if passes n then n.innerDeclarator?.bind search else none

namespace GoesDown

variable {search : Node → Option Node} {stops passes : Node → Bool} {n c last : Node}
  {passed : List Node}

theorem found (goesDown : GoesDown search stops passes) (stop : stops n = true) :
    search n = some n := by
  rw [goesDown n, if_pos stop]

theorem deeper (goesDown : GoesDown search stops passes) (unmet : stops n = false)
    (pass : passes n = true) (down : n.innerDeclarator? = some c) : search n = search c := by
  rw [goesDown n, unmet, if_neg Bool.false_ne_true, if_pos pass, down, Option.bind_some]

theorem refused (goesDown : GoesDown search stops passes) (unmet : stops n = false)
    (blocked : passes n = false) : search n = none := by
  rw [goesDown n, unmet, blocked, if_neg Bool.false_ne_true, if_neg Bool.false_ne_true]

/-- Along a way without a stop the search finds what it finds at the end, unless it gives up before. -/
theorem along (goesDown : GoesDown search stops passes) (descent : Descent n passed last)
    (unmet : ∀ m ∈ passed, stops m = false) :
    search n = if passed.all passes then search last else none := by
  induction descent with
  | here n => rfl
  | @inner n c last passed down _ ih =>
    obtain ⟨here, later⟩ := List.forall_mem_cons.mp unmet
    rw [List.all_cons]
    cases pass : passes n with
    | true => rw [goesDown.deeper here pass down, ih later, Bool.true_and]
    | false => rw [goesDown.refused here pass, Bool.false_and, if_neg Bool.false_ne_true]

theorem descent {n : Node} (goesDown : GoesDown search stops passes) (result : search n = some last) :
    stops last = true ∧
      ∃ passed, Descent n passed last ∧ ∀ m ∈ passed, stops m = false ∧ passes m = true := by
  rw [goesDown n] at result
  split at result
  · next stop =>
    obtain rfl : n = last := Option.some.inj result
    exact ⟨stop, [], .here n, by simp⟩
  · next unmet =>
    split at result
    · next pass =>
      obtain ⟨c, down, further⟩ := Option.bind_eq_some_iff.mp result
      obtain ⟨stop, passed, rest, each⟩ := goesDown.descent further
      refine ⟨stop, n :: passed, .inner down rest, ?_⟩
      exact List.forall_mem_cons.mpr ⟨⟨Bool.eq_false_iff.mpr unmet, pass⟩, each⟩
    · cases result
termination_by sizeOf n
decreasing_by exact sizeOf_innerDeclarator down

end GoesDown

/-- A function declarator that does not belong to a pointer to a function. -/
def declaresFunction (n : Node) : Bool :=
  n.type = .functionDeclarator &&
    !((n.child? .declarator).any fun target => target.type = .parenthesizedDeclarator)

section Searches

theorem nameNode_goesDown :
    GoesDown nameNode? (fun n => n.type.isName) fun n => n.type.isDeclarator := by
  intro n
  rw [nameNode?]
  split
  · rfl
  · split
    · split <;> simp only [*] <;> rfl
    · rfl

theorem pointedFunction_goesDown :
    GoesDown pointedFunction? (fun n => n.type = .functionDeclarator) fun n => n.type.isDeclarator := by
  intro n
  rw [pointedFunction?]
  simp only [decide_eq_true_eq]
  split
  · rfl
  · split
    · split <;> simp only [*] <;> rfl
    · rfl

theorem functionDeclarator_goesDown :
    GoesDown functionDeclarator? declaresFunction fun n => wrapsFunction n.type := by
  intro n
  rw [functionDeclarator?, declaresFunction]
  by_cases function : n.type = .functionDeclarator
  · have wraps : wrapsFunction n.type = false := by rw [function]; rfl
    simp only [if_pos function, decide_eq_true function, Bool.true_and, wraps]
    cases (n.child? .declarator).any fun target => target.type = .parenthesizedDeclarator <;> rfl
  · rw [if_neg function, decide_eq_false function, Bool.false_and]
    split
    · split <;> simp only [*] <;> rfl
    · rfl

theorem declaresFunction_iff {n : Node} :
    n.declaresFunction = true ↔ n.type = .functionDeclarator ∧
      ¬ ∃ target, n.child? .declarator = some target ∧ target.type = .parenthesizedDeclarator := by
  cases inside : n.child? .declarator <;> simp [declaresFunction, inside]

theorem isDeclarator_of_wraps {type : NodeType} (wraps : wrapsFunction type = true) :
    type.isDeclarator = true ∧ type.isName = false ∧ type ≠ .functionDeclarator := by
  cases type <;> simp_all [wrapsFunction, NodeType.isDeclarator, NodeType.isName]

theorem wraps_eq_false_iff {type : NodeType} (declarator : type.isDeclarator = true)
    (other : type ≠ .functionDeclarator) :
    wrapsFunction type = false ↔
      type ∈ [.arrayDeclarator, .initDeclarator, .parenthesizedDeclarator] := by
  cases type <;> simp_all [wrapsFunction, NodeType.isDeclarator]

end Searches

section Function

variable {d f g target : Node} {passed : List Node}

theorem type_of_functionDeclarator (result : d.functionDeclarator? = some f) :
    f.type = .functionDeclarator :=
  (declaresFunction_iff.mp (functionDeclarator_goesDown.descent result).1).1

theorem GoesDown.from_function {search : Node → Option Node} {stops passes : Node → Bool}
    (goesDown : GoesDown search stops passes)
    (through : ∀ m, wrapsFunction m.type = true → stops m = false ∧ passes m = true)
    (result : d.functionDeclarator? = some f) : search d = search f := by
  obtain ⟨_, passed, descent, each⟩ := functionDeclarator_goesDown.descent result
  have unmet : ∀ m ∈ passed, stops m = false := fun m member => (through m (each m member).2).1
  have all : passed.all passes = true :=
    List.all_eq_true.mpr fun m member => (through m (each m member).2).2
  rw [goesDown.along descent unmet, if_pos all]

theorem pointedFunction_of_function (result : d.functionDeclarator? = some f) :
    d.pointedFunction? = some f := by
  have same : d.pointedFunction? = f.pointedFunction? := by
    refine pointedFunction_goesDown.from_function ?_ result
    intro m wraps
    obtain ⟨declarator, _, other⟩ := isDeclarator_of_wraps wraps
    exact ⟨decide_eq_false other, declarator⟩
  rw [same]
  exact pointedFunction_goesDown.found (decide_eq_true (type_of_functionDeclarator result))

theorem nameNode_of_function (result : d.functionDeclarator? = some f)
    (inside : f.child? .declarator = some target) : d.nameNode? = target.nameNode? := by
  have same : d.nameNode? = f.nameNode? := by
    refine nameNode_goesDown.from_function ?_ result
    intro m wraps
    obtain ⟨declarator, unnamed, _⟩ := isDeclarator_of_wraps wraps
    exact ⟨unnamed, declarator⟩
  have down : f.innerDeclarator? = some target := by
    rw [innerDeclarator?, inside]
    rfl
  have function := type_of_functionDeclarator result
  have unnamed : f.type.isName = false := by rw [function]; rfl
  have declarator : f.type.isDeclarator = true := by rw [function]; rfl
  rw [same]
  exact nameNode_goesDown.deeper unnamed declarator down

theorem pointedFunction_descent (result : d.pointedFunction? = some g) :
    g.type = .functionDeclarator ∧ ∃ passed, Descent d passed g ∧
      ∀ m ∈ passed, m.type.isDeclarator = true ∧ m.type ≠ .functionDeclarator := by
  obtain ⟨stop, passed, descent, each⟩ := pointedFunction_goesDown.descent result
  refine ⟨of_decide_eq_true stop, passed, descent, ?_⟩
  intro m member
  exact ⟨(each m member).2, of_decide_eq_false (each m member).1⟩

theorem functionDeclarator_of_type (function : g.type = .functionDeclarator) :
    g.functionDeclarator? = none ↔
      ∃ target, g.child? .declarator = some target ∧ target.type = .parenthesizedDeclarator := by
  cases stop : g.declaresFunction with
  | true =>
    rw [functionDeclarator_goesDown.found stop]
    simpa using (declaresFunction_iff.mp stop).2
  | false =>
    have wraps : wrapsFunction g.type = false := by rw [function]; rfl
    have pointed : ¬ g.declaresFunction = true := by rw [stop]; exact Bool.false_ne_true
    rw [functionDeclarator_goesDown.refused stop wraps]
    simpa [declaresFunction_iff, function] using pointed

/-- On the way to a function whose parameters are listed, no declaration is found exactly if something
on the way hides it or the function is pointed to. -/
theorem functionDeclarator_eq_none_iff (descent : Descent d passed g)
    (declarators : ∀ m ∈ passed, m.type.isDeclarator = true ∧ m.type ≠ .functionDeclarator)
    (function : g.type = .functionDeclarator) :
    d.functionDeclarator? = none ↔
      (∃ m ∈ passed, m.type ∈ [.arrayDeclarator, .initDeclarator, .parenthesizedDeclarator]) ∨
        ∃ target, g.child? .declarator = some target ∧ target.type = .parenthesizedDeclarator := by
  have unmet : ∀ m ∈ passed, m.declaresFunction = false := by
    intro m member
    rw [declaresFunction, decide_eq_false (declarators m member).2, Bool.false_and]
  -- the way holds declarators other than functions, and of these the rest are the ones that wrap one
  have hidden : passed.all (fun m => wrapsFunction m.type) = false ↔
      ∃ m ∈ passed, m.type ∈ [.arrayDeclarator, .initDeclarator, .parenthesizedDeclarator] := by
    rw [List.all_eq_false]
    refine exists_congr fun m => and_congr_right fun member => ?_
    obtain ⟨declarator, other⟩ := declarators m member
    rw [Bool.not_eq_true, wraps_eq_false_iff declarator other]
  rw [functionDeclarator_goesDown.along descent unmet, ← hidden, ← functionDeclarator_of_type function]
  cases passed.all fun m => wrapsFunction m.type <;> simp

end Function

end Node

/-- Two readings of one entity: the same name in the same place and the same parameters. The kind and
the text from which a type is spelled may differ. -/
structure SameEntity (tree other : DeclTree) : Prop where
  qualifiedName : tree.decl.qualifiedName = other.decl.qualifiedName
  name : tree.decl.name = other.decl.name
  lineAbove : tree.decl.lineAbove = other.decl.lineAbove
  file : tree.decl.file = other.decl.file
  parameters : tree.children = other.children

/-- Destructors are declared like functions but not read as such. -/
def SourceText.NamesDestructor (src : SourceText) (name : Node) : Prop :=
  name.type = .destructorName ∨ (src.simpleName name).head? = some (CodePoint.char '~')

theorem SourceText.readings_agree (src : SourceText) {d f target : Node}
    (result : d.functionDeclarator? = some f) (inside : f.child? .declarator = some target)
    (outer : Node) (scope : List Text) (owner : Option Text) (hasType : Bool) :
    List.Forall₂ SameEntity (src.functionTree outer f scope owner hasType)
        (src.variableTree outer d scope owner) ∨
      (src.functionTree outer f scope owner hasType = [] ∧
        ∃ name, d.nameNode? = some name ∧ src.NamesDestructor name) := by
  rw [src.functionTree_eq, src.variableTree_eq, inside, Option.bind_some,
    ← Node.nameNode_of_function result inside, Node.pointedFunction_of_function result]
  cases d.nameNode? with
  | none => exact .inl .nil
  | some name =>
    dsimp only
    by_cases destructor :
        name.type = .destructorName ∨ (src.simpleName name).head? = some (CodePoint.char '~')
    · exact .inr ⟨if_pos destructor, name, rfl, destructor⟩
    · rw [if_neg destructor]
      exact .inl (.cons ⟨rfl, rfl, rfl, rfl, rfl⟩ .nil)

open Node (Descent)

/-- Where a function declaration is found, the search for listed parameters ends at the same function.
If that has a declarator, the name is the one found inside it; so the function is the same entity with
the same parameters whether it is read as a function or as a variable, but for destructors, which are
not read as functions. A function whose parameters are listed lies inside declarators of other kinds
only, and its declaration is not found exactly if one of these is an array, an initialised or a
parenthesized declarator, or if the function's own declarator is in parentheses. -/
theorem descents_agree (d : Node) :
    (∀ f, d.functionDeclarator? = some f →
      d.pointedFunction? = some f ∧
      ∀ target, f.child? .declarator = some target →
        d.nameNode? = target.nameNode? ∧
        ∀ (src : SourceText) (outer : Node) (scope : List Text) (owner : Option Text) (hasType : Bool),
          List.Forall₂ SameEntity (src.functionTree outer f scope owner hasType)
              (src.variableTree outer d scope owner) ∨
            (src.functionTree outer f scope owner hasType = [] ∧
              ∃ name, d.nameNode? = some name ∧ src.NamesDestructor name)) ∧
    ∀ g, d.pointedFunction? = some g →
      ∃ passed, Descent d passed g ∧
        (∀ m ∈ passed, m.type.isDeclarator = true ∧ m.type ≠ .functionDeclarator) ∧
        (d.functionDeclarator? = none ↔
          (∃ m ∈ passed, m.type ∈ [.arrayDeclarator, .initDeclarator, .parenthesizedDeclarator]) ∨
            ∃ target, g.child? .declarator = some target ∧
              target.type = .parenthesizedDeclarator) := by
  constructor
  · intro f result
    refine ⟨Node.pointedFunction_of_function result, ?_⟩
    intro target inside
    exact ⟨Node.nameNode_of_function result inside, fun src => src.readings_agree result inside⟩
  · intro g result
    obtain ⟨function, passed, descent, declarators⟩ := Node.pointedFunction_descent result
    exact ⟨passed, descent, declarators,
      Node.functionDeclarator_eq_none_iff descent declarators function⟩

namespace Sample

/-- A function behind a star. In parentheses instead, as in `int (f(int x))`, its declaration is
hidden. -/
def pointerSource : SourceText := .ofBytes Path.here (Utf8.bytes "int *f(int x);".text)

def plainName (first : Nat) : Node := ⟨.identifier, first, first + 1, 0, some .declarator, true, []⟩

def namedParameter : Node := ⟨.parameterDeclaration, 7, 12, 0, none, true, [plainName 11]⟩

def namedParameters : Node :=
  ⟨.other "parameter_list".text, 6, 13, 0, some .parameters, true, [namedParameter]⟩

def plainFunction : Node :=
  ⟨.functionDeclarator, 5, 13, 0, some .declarator, true, [plainName 5, namedParameters]⟩

def around (type : NodeType) (inner : Node) : Node :=
  ⟨type, 4, 13, 0, some .declarator, true, [inner]⟩

end Sample

theorem descents_agree_sample :
    let f := Sample.plainFunction
    let d := Sample.around .pointerDeclarator f
    let e := Sample.around .parenthesizedDeclarator f
    let src := Sample.pointerSource
    d.functionDeclarator? = some f ∧ f.child? .declarator = some (Sample.plainName 5) ∧
      d.pointedFunction? = some f ∧ d.nameNode? = some (Sample.plainName 5) ∧
      List.Forall₂ SameEntity (src.functionTree d f [] none true) (src.variableTree d d [] none) ∧
      e.functionDeclarator? = none ∧ e.pointedFunction? = some f ∧
      ∃ passed, Descent e passed f ∧
        ∃ m ∈ passed, m.type ∈ [.arrayDeclarator, .initDeclarator, .parenthesizedDeclarator] := by
  intro f d e src
  have function : f.functionDeclarator? = some f := Node.functionDeclarator_goesDown.found rfl
  have result : d.functionDeclarator? = some f :=
    (Node.functionDeclarator_goesDown.deeper rfl rfl rfl).trans function
  have inside : f.child? .declarator = some (Sample.plainName 5) := rfl
  have named : (Sample.plainName 5).nameNode? = some (Sample.plainName 5) :=
    Node.nameNode_goesDown.found rfl
  have hidden : e.functionDeclarator? = none := Node.functionDeclarator_goesDown.refused rfl rfl
  have pointed : e.pointedFunction? = some f :=
    (Node.pointedFunction_goesDown.deeper rfl rfl rfl).trans (Node.pointedFunction_goesDown.found rfl)
  obtain ⟨same, names⟩ := (descents_agree d).1 f result
  obtain ⟨name, readings⟩ := names _ inside
  obtain ⟨passed, descent, _, lost⟩ := (descents_agree e).2 f pointed
  refine ⟨result, inside, same, name.trans named, ?_, hidden, pointed, passed, descent, ?_⟩
  · rcases readings src d [] none true with agree | ⟨_, other, found, destructor⟩
    · exact agree
    · obtain rfl : Sample.plainName 5 = other :=
        Option.some.inj ((name.trans named).symm.trans found)
      have simple : src.simpleName (Sample.plainName 5) = "f".text := by
        rw [SourceText.simpleName]
        decide +kernel
      rw [SourceText.NamesDestructor, simple] at destructor
      exact absurd destructor (by decide)
  · rcases lost.mp hidden with through | ⟨target, parenthesized, type⟩
    · exact through
    · obtain rfl : Sample.plainName 5 = target := Option.some.inj parenthesized
      cases type

end DeclGen.SyntaxTree
