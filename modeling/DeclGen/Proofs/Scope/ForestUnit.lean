import DeclGen.Proofs.Entity
import DeclGen.Proofs.Outline
import DeclGen.Proofs.Scope.Meaning

/-!
The unit of a forest, read off its nodes: which nodes count is said of each node by what stands
around it, and every list of the unit has the nodes of its kind in depth-first order. `Describes`
compares this reading with the meaning of a part, and is proved here for one declaration around what
lies inside it.
-/
namespace DeclGen.Scope

/-- A node counts when it and all around it are declarations of the file, and no function around it
is without a directive. -/
def Live (path : Path) (o : Occurrence) : Prop :=
  (∀ p ∈ o.node :: o.around, p.decl.file = path) ∧
    ∀ p ∈ o.around, p.decl.kind.isFunctionKind = true → attached p.decl ≠ []

instance (path : Path) (o : Occurrence) : Decidable (Live path o) :=
  inferInstanceAs (Decidable (_ ∧ _))

/-- The nodes that count, are of one of the kinds and have a directive. -/
def selected (path : Path) (kinds : List DeclKind) (nodes : List Occurrence) : List Occurrence :=
  nodes.filter fun o => Live path o ∧ o.decl.kind ∈ kinds ∧ attached o.decl ≠ []

def ownedBy (path : Path) (kinds : List DeclKind) (owner : Option Placed)
    (nodes : List Occurrence) : List Occurrence :=
  (selected path kinds nodes).filter fun o => recordIn o.around = owner

/-- The parameters that count and whose innermost function is `owner`. -/
def parametersOf (path : Path) (owner : Option Placed) (nodes : List Occurrence) : List Variable :=
  (nodes.filter fun o => Live path o ∧ o.decl.kind = .parameter ∧ functionIn o.around = owner).map
    fun o =>
      { name := o.decl.name
        fullNamespace := o.decl.qualifiedName
        path := path
        type := typeSpelling o.decl.sourceText o.decl.name }

def variableAt (path : Path) (o : Occurrence) : Variable where
  name := o.decl.name
  fullNamespace := o.decl.qualifiedName
  path := path
  properties := attached o.decl
  type := typeSpelling o.decl.sourceText o.decl.name

/-- The function at a node, with the parameters that belong to it, of which the first of each name
counts. -/
def functionAt (path : Path) (nodes : List Occurrence) (o : Occurrence) : Function where
  name := o.decl.name
  fullNamespace := o.decl.qualifiedName
  path := path
  properties := attached o.decl
  returnType :=
    if o.decl.kind = .constructor then "void".text else typeSpelling o.decl.sourceText o.decl.name
  parameters := firstOfEachName (parametersOf path (some o.node) nodes)
  isConstructor := o.decl.kind = .constructor

def classAt (path : Path) (nodes : List Occurrence) (o : Occurrence) : Class where
  name := o.decl.name
  fullNamespace := o.decl.qualifiedName
  path := path
  properties := attached o.decl
  members := (ownedBy path [.field] (some o.node) nodes).map (variableAt path)
  methods := (ownedBy path [.method, .constructor] (some o.node) nodes).map (functionAt path nodes)

def annotatedRecord (owner : Option Placed) : Bool := owner.any fun p => attached p.decl ≠ []

/-- The members and methods that no class with a directive is around. -/
def unowned (path : Path) (nodes : List Occurrence) : List Occurrence :=
  (selected path [.field, .method, .constructor] nodes).filter fun o =>
    !annotatedRecord (recordIn o.around)

def describedUnit (path : Path) (nodes : List Occurrence) : SourceUnit where
  path := path
  classes := (selected path [.record] nodes).map (classAt path nodes)
  functions := (selected path [.function] nodes).map (functionAt path nodes)
  globals := (selected path [.variable] nodes).map (variableAt path)
  skippedParameters := (parametersOf path none nodes).length
  unattributed := (unowned path nodes).length

theorem variableAt_eq (path : Path) (o : Occurrence) :
    variableAt path o = variableOf path o.decl (attached o.decl) := rfl

theorem functionAt_eq (path : Path) (nodes : List Occurrence) (o : Occurrence) :
    functionAt path nodes o =
      (parametersOf path (some o.node) nodes).foldl Function.addParameter
        (functionOf path o.decl (attached o.decl)) := by
  rw [foldl_addParameter]
  exact congrArg (fun kept => { functionAt path nodes o with parameters := kept })
    (foldl_addNamed_nil _).symm

section Locality

variable {path : Path} {before nodes after : List Occurrence}

def Apart (p : Placed) (nodes : List Occurrence) : Prop := ∀ o ∈ nodes, p ∉ o.around

theorem selected_append (kinds : List DeclKind) (first second : List Occurrence) :
    selected path kinds (first ++ second) = selected path kinds first ++ selected path kinds second :=
  List.filter_append ..

theorem ownedBy_append (kinds : List DeclKind) (owner : Option Placed)
    (first second : List Occurrence) :
    ownedBy path kinds owner (first ++ second) =
      ownedBy path kinds owner first ++ ownedBy path kinds owner second := by
  rw [ownedBy, selected_append, List.filter_append]
  rfl

theorem parametersOf_append (owner : Option Placed) (first second : List Occurrence) :
    parametersOf path owner (first ++ second) =
      parametersOf path owner first ++ parametersOf path owner second := by
  rw [parametersOf, List.filter_append, List.map_append]
  rfl

theorem unowned_append (first second : List Occurrence) :
    unowned path (first ++ second) = unowned path first ++ unowned path second := by
  rw [unowned, selected_append, List.filter_append]
  rfl

theorem ownedBy_apart {p : Placed} (apart : Apart p nodes) (kinds : List DeclKind) :
    ownedBy path kinds (some p) nodes = [] := by
  refine List.filter_eq_nil_iff.mpr ?_
  intro o member owner
  have inside : o ∈ nodes := (List.mem_filter.mp member).1
  exact apart o inside (List.mem_of_find?_eq_some (of_decide_eq_true owner))

theorem parametersOf_apart {p : Placed} (apart : Apart p nodes) :
    parametersOf path (some p) nodes = [] := by
  rw [parametersOf, List.filter_eq_nil_iff.mpr, List.map_nil]
  intro o member found
  have owner := (of_decide_eq_true found).2.2
  exact apart o member (List.mem_of_find?_eq_some owner)

theorem functionAt_local {o : Occurrence} (front : Apart o.node before) (back : Apart o.node after) :
    functionAt path (before ++ nodes ++ after) o = functionAt path nodes o := by
  rw [functionAt, parametersOf_append, parametersOf_append, parametersOf_apart front,
    parametersOf_apart back, List.nil_append, List.append_nil]
  rfl

def Separate (nodes others : List Occurrence) : Prop :=
  ∀ o ∈ nodes, (o.decl.kind = .record ∨ o.decl.kind.isFunctionKind = true) → Apart o.node others

theorem mem_selected {kinds : List DeclKind} {o : Occurrence} (member : o ∈ selected path kinds nodes) :
    o ∈ nodes ∧ Live path o ∧ o.decl.kind ∈ kinds ∧ attached o.decl ≠ [] := by
  obtain ⟨inside, found⟩ := List.mem_filter.mp member
  exact ⟨inside, of_decide_eq_true found⟩

theorem map_functionAt_local {kinds : List DeclKind} {chosen : List Occurrence}
    (functions : ∀ kind ∈ kinds, kind.isFunctionKind = true)
    (choice : ∀ o ∈ chosen, o ∈ selected path kinds nodes)
    (front : Separate nodes before) (back : Separate nodes after) :
    chosen.map (functionAt path (before ++ nodes ++ after)) = chosen.map (functionAt path nodes) := by
  refine List.map_congr_left ?_
  intro o member
  obtain ⟨inside, _, kind, _⟩ := mem_selected (choice o member)
  have function := functions _ kind
  exact functionAt_local (front o inside (.inr function)) (back o inside (.inr function))

theorem mem_ownedBy {kinds : List DeclKind} {owner : Option Placed} {o : Occurrence}
    (member : o ∈ ownedBy path kinds owner nodes) :
    o ∈ selected path kinds nodes ∧ recordIn o.around = owner := by
  obtain ⟨chosen, found⟩ := List.mem_filter.mp member
  exact ⟨chosen, of_decide_eq_true found⟩

theorem map_classAt_local (front : Separate nodes before) (back : Separate nodes after) :
    (selected path [.record] nodes).map (classAt path (before ++ nodes ++ after)) =
      (selected path [.record] nodes).map (classAt path nodes) := by
  refine List.map_congr_left ?_
  intro o member
  obtain ⟨inside, _, kind, _⟩ := mem_selected member
  have record := List.mem_singleton.mp kind
  have none (kinds : List DeclKind) {others : List Occurrence} (separate : Separate nodes others) :
      ownedBy path kinds (some o.node) others = [] :=
    ownedBy_apart (separate o inside (.inl record)) kinds
  rw [classAt, classAt]
  simp only [ownedBy_append, none _ front, none _ back, List.nil_append, List.append_nil]
  rw [map_functionAt_local (show ∀ kind ∈ [DeclKind.method, .constructor], _ by decide)
    (fun m owned => (mem_ownedBy owned).1) front back]

theorem separate_nil (nodes : List Occurrence) : Separate nodes [] := by
  intro o _ _ other member
  simp at member

end Locality

/-- The nodes of a part, which stands inside `around`, say the same as the meaning of the part. What
belongs to a record or a function is looked up in `whole`. -/
structure Describes (path : Path) (around : List Placed) (whole nodes : List Occurrence)
    (y : Yield) : Prop where
  members : (ownedBy path [.field] (recordIn around) nodes).map (variableAt path) = y.members
  methods : (ownedBy path [.method, .constructor] (recordIn around) nodes).map
    (functionAt path whole) = y.methods
  parameters : parametersOf path (functionIn around) nodes = y.parameters
  classes : (selected path [.record] nodes).map (classAt path whole) = y.classes
  functions : (selected path [.function] nodes).map (functionAt path whole) = y.functions
  globals : (selected path [.variable] nodes).map (variableAt path) = y.globals
  lost : (unowned path nodes).length = y.lost +
    if annotatedRecord (recordIn around) then 0 else y.members.length + y.methods.length

section Describes

variable {path : Path} {around : List Placed} {whole first second nodes : List Occurrence}
  {a b y : Yield}

theorem Describes.append (front : Describes path around whole first a)
    (back : Describes path around whole second b) :
    Describes path around whole (first ++ second) (a.append b) := by
  refine ⟨?_, ?_, ?_, ?_, ?_, ?_, ?_⟩
  · rw [ownedBy_append, List.map_append, front.members, back.members]; rfl
  · rw [ownedBy_append, List.map_append, front.methods, back.methods]; rfl
  · rw [parametersOf_append, front.parameters, back.parameters]; rfl
  · rw [selected_append, List.map_append, front.classes, back.classes]; rfl
  · rw [selected_append, List.map_append, front.functions, back.functions]; rfl
  · rw [selected_append, List.map_append, front.globals, back.globals]; rfl
  · rw [unowned_append, List.length_append, front.lost, back.lost]
    simp only [Yield.append, List.length_append]
    split <;> omega

theorem Describes.widen (inside : Describes path around nodes nodes y)
    (before after : List Occurrence) (front : Separate nodes before) (back : Separate nodes after) :
    Describes path around (before ++ nodes ++ after) nodes y := by
  obtain ⟨members, methods, parameters, classes, functions, globals, lost⟩ := inside
  refine ⟨members, ?_, parameters, ?_, ?_, globals, lost⟩
  · rw [map_functionAt_local (by decide) (fun m owned => (mem_ownedBy owned).1) front back, methods]
  · rw [map_classAt_local front back, classes]
  · rw [map_functionAt_local (by decide) (fun m chosen => chosen) front back, functions]

theorem describes_nothing
    (idle : ∀ o ∈ nodes, Live path o → attached o.decl = [] ∧ o.decl.kind ≠ .parameter) :
    Describes path around whole nodes {} := by
  have none (kinds : List DeclKind) : selected path kinds nodes = [] := by
    refine List.filter_eq_nil_iff.mpr ?_
    intro o member found
    obtain ⟨live, _, annotated⟩ := of_decide_eq_true found
    exact annotated (idle o member live).1
  have parameters : parametersOf path (functionIn around) nodes = [] := by
    rw [parametersOf, List.filter_eq_nil_iff.mpr, List.map_nil]
    intro o member found
    obtain ⟨live, kind, _⟩ := of_decide_eq_true found
    exact (idle o member live).2 kind
  refine ⟨?_, ?_, parameters, ?_, ?_, ?_, ?_⟩ <;> simp [ownedBy, unowned, none]

end Describes

/-- Everything around a part is of the file, and no function around it is without a directive. -/
def Clear (path : Path) (around : List Placed) : Prop :=
  (∀ p ∈ around, p.decl.file = path) ∧
    ∀ p ∈ around, p.decl.kind.isFunctionKind = true → attached p.decl ≠ []

section Head

variable {path : Path} {around : List Placed} {whole : List Occurrence} {d : Declaration}
  {number : Nat}

theorem live_iff (clear : Clear path around) :
    Live path ⟨⟨number, d⟩, around⟩ ↔ d.file = path := by
  constructor
  · intro live
    exact live.1 ⟨number, d⟩ List.mem_cons_self
  · intro own
    refine ⟨?_, clear.2⟩
    intro p member
    rcases List.mem_cons.mp member with rfl | outer
    · exact own
    · exact clear.1 p outer

theorem selected_head (number : Nat) (clear : Clear path around) (own : d.file = path) (kinds : List DeclKind) :
    selected path kinds [⟨⟨number, d⟩, around⟩] =
      if d.kind ∈ kinds ∧ attached d ≠ [] then [⟨⟨number, d⟩, around⟩] else [] := by
  by_cases chosen : d.kind ∈ kinds ∧ attached d ≠ [] <;>
    simp [selected, Occurrence.decl, live_iff clear, own, chosen]

theorem parametersOf_head (number : Nat) (clear : Clear path around) (own : d.file = path) :
    parametersOf path (functionIn around) [⟨⟨number, d⟩, around⟩] =
      if d.kind = .parameter then [variableOf path d []] else [] := by
  by_cases kind : d.kind = .parameter <;>
    simp [parametersOf, variableOf, entity, Occurrence.decl, live_iff clear, own, kind]

/-- What a node yields by itself, its contents being looked up in `whole`. -/
def headYield (path : Path) (whole : List Occurrence) (o : Occurrence) : Yield :=
  match o.decl.kind with
  | .record => { classes := if attached o.decl = [] then [] else [classAt path whole o] }
  | .function => { functions := if attached o.decl = [] then [] else [functionAt path whole o] }
  | .method | .constructor =>
    { methods := if attached o.decl = [] then [] else [functionAt path whole o] }
  | _ => .own path o.decl

theorem unowned_head (number : Nat) (clear : Clear path around) (own : d.file = path) :
    (unowned path [⟨⟨number, d⟩, around⟩]).length =
      if d.kind ∈ [DeclKind.field, .method, .constructor] ∧ attached d ≠ [] then
        if annotatedRecord (recordIn around) then 0 else 1
      else 0 := by
  rw [unowned, selected_head number clear own]
  split
  · cases owner : annotatedRecord (recordIn around) <;> simp [owner]
  · rfl

theorem describes_head (clear : Clear path around) (own : d.file = path) :
    Describes path around whole [⟨⟨number, d⟩, around⟩]
      (headYield path whole ⟨⟨number, d⟩, around⟩) := by
  have chosen := selected_head number clear own
  have parameters := parametersOf_head number clear own
  have unowned := unowned_head number clear own
  by_cases bare : attached d = []
  · refine ⟨?_, ?_, ?_, ?_, ?_, ?_, ?_⟩ <;>
      cases kind : d.kind <;>
      simp [headYield, Yield.own, Yield.ownVariable, Occurrence.decl, ownedBy, chosen, parameters,
        unowned, kind, bare]
  · refine ⟨?_, ?_, ?_, ?_, ?_, ?_, ?_⟩ <;>
      cases kind : d.kind <;>
      simp [headYield, Yield.own, Yield.ownVariable, Occurrence.decl, ownedBy, chosen, parameters,
        unowned, variableAt_eq, kind, bare]

end Head

section Below

variable {path : Path} {around : List Placed} {whole below : List Occurrence} {d : Declaration}
  {number last : Nat} {inner : Yield}

/-- What lies inside a node of some sort has one of that sort around it that is not further out. -/
theorem innermost_below {o : Occurrence} (sort : Placed → Bool) (here : sort ⟨number, d⟩ = true)
    (lies : o.LiesIn (⟨number, d⟩ :: around) (number + 1) last) :
    ∃ p, o.around.find? sort = some p ∧ number ≤ p.number := by
  obtain ⟨inner, parts, range⟩ := lies.inner
  rw [parts, List.find?_append]
  cases found : inner.find? sort with
  | some p =>
    have := range p (List.mem_of_find?_eq_some found)
    exact ⟨p, rfl, by omega⟩
  | none => exact ⟨⟨number, d⟩, by simp [here], Nat.le_refl _⟩

theorem ownedBy_below (kind : d.kind = .record) (bounds : ∀ p ∈ around, p.number < number)
    (lies : ∀ o ∈ below, o.LiesIn (⟨number, d⟩ :: around) (number + 1) last)
    (kinds : List DeclKind) : ownedBy path kinds (recordIn around) below = [] := by
  refine List.filter_eq_nil_iff.mpr ?_
  intro o member owner
  obtain ⟨p, found, high⟩ := innermost_below (fun p => p.decl.kind = .record)
    (decide_eq_true kind) (lies o (mem_selected member).1)
  have outside : recordIn around = some p := (of_decide_eq_true owner).symm.trans found
  have low := bounds p (List.mem_of_find?_eq_some outside)
  omega

theorem parametersOf_below (kind : d.kind.isFunctionKind = true)
    (bounds : ∀ p ∈ around, p.number < number)
    (lies : ∀ o ∈ below, o.LiesIn (⟨number, d⟩ :: around) (number + 1) last) :
    parametersOf path (functionIn around) below = [] := by
  rw [parametersOf, List.filter_eq_nil_iff.mpr, List.map_nil]
  intro o member chosen
  obtain ⟨p, found, high⟩ := innermost_below (fun p => p.decl.kind.isFunctionKind) kind
    (lies o member)
  have outside : functionIn around = some p := (of_decide_eq_true chosen).2.2.symm.trans found
  have low := bounds p (List.mem_of_find?_eq_some outside)
  omega

theorem Describes.leave_plain (notRecord : d.kind ≠ .record) (plain : d.kind.isFunctionKind = false)
    (inside : Describes path (⟨number, d⟩ :: around) whole below inner) :
    Describes path around whole below inner := by
  have record : recordIn (⟨number, d⟩ :: around) = recordIn around := by simp [recordIn, notRecord]
  have function : functionIn (⟨number, d⟩ :: around) = functionIn around := by
    simp [functionIn, plain]
  obtain ⟨members, methods, parameters, classes, functions, globals, lost⟩ := inside
  rw [record] at members methods lost
  rw [function] at parameters
  exact ⟨members, methods, parameters, classes, functions, globals, lost⟩

theorem Describes.leave_record (kind : d.kind = .record) (bounds : ∀ p ∈ around, p.number < number)
    (lies : ∀ o ∈ below, o.LiesIn (⟨number, d⟩ :: around) (number + 1) last)
    (inside : Describes path (⟨number, d⟩ :: around) whole below inner) :
    Describes path around whole below
      { inner with
        members := []
        methods := []
        lost := inner.lost +
          if attached d = [] then inner.members.length + inner.methods.length else 0 } := by
  have record : recordIn (⟨number, d⟩ :: around) = some ⟨number, d⟩ := by simp [recordIn, kind]
  have function : functionIn (⟨number, d⟩ :: around) = functionIn around := by
    simp [functionIn, kind, DeclKind.isFunctionKind]
  have outside (kinds : List DeclKind) : ownedBy path kinds (recordIn around) below = [] :=
    ownedBy_below kind bounds lies kinds
  obtain ⟨members, methods, parameters, classes, functions, globals, lost⟩ := inside
  rw [record] at lost
  rw [function] at parameters
  refine ⟨by rw [outside]; rfl, by rw [outside]; rfl, parameters, classes, functions, globals, ?_⟩
  rw [lost]
  by_cases bare : attached d = [] <;> simp [annotatedRecord, bare]

theorem Describes.leave_function (kind : d.kind.isFunctionKind = true)
    (bounds : ∀ p ∈ around, p.number < number)
    (lies : ∀ o ∈ below, o.LiesIn (⟨number, d⟩ :: around) (number + 1) last)
    (inside : Describes path (⟨number, d⟩ :: around) whole below inner) :
    Describes path around whole below { inner with parameters := [] } := by
  have notRecord : d.kind ≠ .record := fun same => by simp [same, DeclKind.isFunctionKind] at kind
  have record : recordIn (⟨number, d⟩ :: around) = recordIn around := by simp [recordIn, notRecord]
  obtain ⟨members, methods, _, classes, functions, globals, lost⟩ := inside
  rw [record] at members methods lost
  exact ⟨members, methods, parametersOf_below kind bounds lies, classes, functions, globals, lost⟩

theorem separate_below (bounds : ∀ p ∈ around, p.number < number)
    (lies : ∀ o ∈ below, o.LiesIn (⟨number, d⟩ :: around) (number + 1) last) :
    Separate below [⟨⟨number, d⟩, around⟩] := by
  intro o member _ o' single inside
  rw [List.mem_singleton.mp single] at inside
  have outer := bounds o.node inside
  have deep := (lies o member).number
  omega

theorem apart_head (bounds : ∀ p ∈ around, p.number < number) :
    Apart ⟨number, d⟩ [⟨⟨number, d⟩, around⟩] := by
  intro o single inside
  rw [List.mem_singleton.mp single] at inside
  have := bounds _ inside
  simp at this

theorem classAt_head (kind : d.kind = .record) (bounds : ∀ p ∈ around, p.number < number)
    (inside : Describes path (⟨number, d⟩ :: around) ([⟨⟨number, d⟩, around⟩] ++ below) below inner) :
    classAt path ([⟨⟨number, d⟩, around⟩] ++ below) ⟨⟨number, d⟩, around⟩ =
      { classOf path d (attached d) with members := inner.members, methods := inner.methods } := by
  have record : recordIn (⟨number, d⟩ :: around) = some ⟨number, d⟩ := by simp [recordIn, kind]
  have apart (kinds : List DeclKind) :
      ownedBy path kinds (some ⟨number, d⟩) [⟨⟨number, d⟩, around⟩] = [] :=
    ownedBy_apart (apart_head bounds) kinds
  rw [classAt, ownedBy_append, ownedBy_append, apart, apart, List.nil_append, List.nil_append,
    ← inside.members, ← inside.methods, record]
  rfl

theorem functionAt_head (kind : d.kind.isFunctionKind = true)
    (bounds : ∀ p ∈ around, p.number < number)
    (inside : Describes path (⟨number, d⟩ :: around) whole below inner) :
    functionAt path ([⟨⟨number, d⟩, around⟩] ++ below) ⟨⟨number, d⟩, around⟩ =
      Yield.ownFunction path d inner.parameters := by
  have function : functionIn (⟨number, d⟩ :: around) = some ⟨number, d⟩ := by simp [functionIn, kind]
  rw [functionAt_eq, parametersOf_append, parametersOf_apart (apart_head bounds), List.nil_append,
    Yield.ownFunction, ← inside.parameters, function]
  rfl

theorem describes_record (clear : Clear path around) (own : d.file = path) (kind : d.kind = .record)
    (bounds : ∀ p ∈ around, p.number < number)
    (lies : ∀ o ∈ below, o.LiesIn (⟨number, d⟩ :: around) (number + 1) last)
    (inside : Describes path (⟨number, d⟩ :: around) ([⟨⟨number, d⟩, around⟩] ++ below) below inner) :
    Describes path around ([⟨⟨number, d⟩, around⟩] ++ below) ([⟨⟨number, d⟩, around⟩] ++ below)
      (.ofRecord path d inner) := by
  have same := classAt_head kind bounds inside
  have yields : (headYield path ([⟨⟨number, d⟩, around⟩] ++ below) ⟨⟨number, d⟩, around⟩).append
      { inner with
        members := []
        methods := []
        lost := inner.lost +
          if attached d = [] then inner.members.length + inner.methods.length else 0 } =
      .ofRecord path d inner := by
    simp only [headYield, Occurrence.decl, kind, same]
    simp [Yield.append, Yield.ofRecord, Yield.ownClass]
  rw [← yields]
  exact (describes_head clear own).append (inside.leave_record kind bounds lies)

theorem describes_plain (clear : Clear path around) (own : d.file = path)
    (kind : d.kind = .field ∨ d.kind = .variable ∨ d.kind = .parameter)
    (inside : Describes path (⟨number, d⟩ :: around) whole below inner) :
    Describes path around whole ([⟨⟨number, d⟩, around⟩] ++ below)
      (.append (.own path d) inner) := by
  have notRecord : d.kind ≠ .record := by
    rcases kind with kind | kind | kind <;> simp [kind]
  have plain : d.kind.isFunctionKind = false := by
    rcases kind with kind | kind | kind <;> rw [kind] <;> rfl
  have alone : headYield path whole ⟨⟨number, d⟩, around⟩ = .own path d := by
    rcases kind with kind | kind | kind <;> simp [headYield, Occurrence.decl, kind]
  rw [← alone]
  exact (describes_head clear own).append (inside.leave_plain notRecord plain)

theorem selected_flat {nodes : List Occurrence} {kinds : List DeclKind}
    (flat : ∀ o ∈ nodes, Live path o → o.decl.kind.isFunctionKind = false)
    (functions : ∀ kind ∈ kinds, kind.isFunctionKind = true) : selected path kinds nodes = [] := by
  refine List.filter_eq_nil_iff.mpr ?_
  intro o member found
  obtain ⟨live, kind, _⟩ := of_decide_eq_true found
  have plain := flat o member live
  rw [functions _ kind] at plain
  exact Bool.noConfusion plain

/-- An annotated function with what lies inside it. No function that counts lies inside, so that the
order in which functions end is the order in which they begin. -/
theorem describes_function (clear : Clear path around) (own : d.file = path)
    (kind : d.kind.isFunctionKind = true) (annotated : attached d ≠ [])
    (bounds : ∀ p ∈ around, p.number < number)
    (lies : ∀ o ∈ below, o.LiesIn (⟨number, d⟩ :: around) (number + 1) last)
    (flat : ∀ o ∈ below, Live path o → o.decl.kind.isFunctionKind = false)
    (inside : Describes path (⟨number, d⟩ :: around) ([⟨⟨number, d⟩, around⟩] ++ below) below inner) :
    Describes path around ([⟨⟨number, d⟩, around⟩] ++ below) ([⟨⟨number, d⟩, around⟩] ++ below)
      (.ofFunction path d inner) := by
  have same := functionAt_head kind bounds inside
  have noMethods : inner.methods = [] := by
    rw [← inside.methods, ownedBy, selected_flat flat (by decide)]; rfl
  have noFunctions : inner.functions = [] := by
    rw [← inside.functions, selected_flat flat (by decide)]; rfl
  have yields : (headYield path ([⟨⟨number, d⟩, around⟩] ++ below) ⟨⟨number, d⟩, around⟩).append
      { inner with parameters := [] } = .ofFunction path d inner := by
    cases role : d.kind <;> simp [role, DeclKind.isFunctionKind] at kind <;>
      simp only [headYield, Occurrence.decl, role, same] <;>
      simp [Yield.append, Yield.ofFunction, role, annotated, noMethods, noFunctions]
  rw [← yields]
  exact (describes_head clear own).append (inside.leave_function kind bounds lies)

end Below

end DeclGen.Scope
