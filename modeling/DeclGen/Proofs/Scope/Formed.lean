import DeclGen.Proofs.Directive.Line
import DeclGen.Proofs.Scope.Stacks

/-!
Every entity that a tracker holds is well formed, whatever events it is fed. An entity lies in the
tracker's own file, and its first property names the keyword of the list that the entity is kept in.
A function is kept nowhere before it ends; until then the frame that waits for its end says which
list that will be, and with it the keyword.
-/
namespace DeclGen.Scope

open Directive (Keyword)

structure Carries (path : Path) (keyword : Keyword) (e : Entity) : Prop where
  own : e.path = path
  first : e.properties.head? = some (.flag keyword.text)

structure FunctionFormed (path : Path) (keyword : Keyword) (f : Function) : Prop where
  carries : Carries path keyword f.toEntity
  constructs : f.isConstructor = true → f.returnType = "void".text
  distinct : (f.parameters.map fun p => p.name).Nodup
  parameters : ∀ p ∈ f.parameters, p.path = path ∧ p.properties = []

def methodKeyword (f : Function) : Keyword := if f.isConstructor then .constructor else .method

def MethodFormed (path : Path) (f : Function) : Prop := FunctionFormed path (methodKeyword f) f

structure FreeFormed (path : Path) (f : Function) : Prop where
  formed : FunctionFormed path .function f
  noConstructor : f.isConstructor = false

structure ClassFormed (path : Path) (c : Class) : Prop where
  carries : Carries path .classType c.toEntity
  members : ∀ v ∈ c.members, Carries path .member v.toEntity
  methods : ∀ f ∈ c.methods, MethodFormed path f

structure UnitFormed (path : Path) (unit : SourceUnit) : Prop where
  own : unit.path = path
  classes : ∀ c ∈ unit.classes, ClassFormed path c
  functions : ∀ f ∈ unit.functions, FreeFormed path f
  globals : ∀ v ∈ unit.globals, Carries path .variable v.toEntity

/-- What an open function is, for the frame that waits for its end. -/
def Awaited (path : Path) (f : Function) : Frame → Prop
  | .method => MethodFormed path f
  | .function => FreeFormed path f
  | .plain | .classBody => False

structure StateFormed (path : Path) (s : State) : Prop where
  unit : UnitFormed path s.unit
  opened : ∀ f ∈ s.functionStack, ∃ frame ∈ s.frames, Awaited path f frame

section Entities

variable {path : Path} {d : Declaration}

theorem carries_attached {keyword : Keyword} (kind : keyword? d.kind = some keyword)
    (annotated : attached d ≠ []) : Carries path keyword (entity path d (attached d)) := by
  have read : attached d = Directive.parse d.lineAbove keyword.text := by simp [attached, kind]
  refine ⟨rfl, ?_⟩
  change (attached d).head? = _
  rcases Directive.parse_cases d.lineAbove keyword.text with nothing | ⟨arguments, _, found⟩
  · exact absurd (read.trans nothing) annotated
  · rw [read, found]
    rfl

theorem functionFormed_functionOf {keyword : Keyword} (kind : keyword? d.kind = some keyword)
    (annotated : attached d ≠ []) : FunctionFormed path keyword (functionOf path d (attached d)) where
  carries := carries_attached kind annotated
  constructs := by
    intro constructor
    have same : d.kind = .constructor := of_decide_eq_true constructor
    simp [functionOf, same]
  distinct := List.nodup_nil
  parameters := by
    intro p member
    cases member

theorem keyword_of_method (kind : d.kind.isFunctionKind = true) (inside : d.kind ≠ .function) :
    keyword? d.kind = some (methodKeyword (functionOf path d (attached d))) := by
  cases same : d.kind <;> simp_all [DeclKind.isFunctionKind, keyword?, methodKeyword, functionOf]

theorem awaited_functionOf (kind : d.kind.isFunctionKind = true) (annotated : attached d ≠ []) :
    Awaited path (functionOf path d (attached d)) (if d.kind = .function then .function else .method) := by
  by_cases free : d.kind = .function
  · rw [if_pos free]
    refine ⟨functionFormed_functionOf (by rw [free]; rfl) annotated, ?_⟩
    simp [functionOf, free]
  · rw [if_neg free]
    exact functionFormed_functionOf (keyword_of_method kind free) annotated

end Entities

section Parameters

variable {path : Path} {f : Function} {v : Variable}

theorem FunctionFormed.addParameter {keyword : Keyword} (formed : FunctionFormed path keyword f)
    (own : v.path = path) (bare : v.properties = []) :
    FunctionFormed path keyword (f.addParameter v) := by
  unfold Function.addParameter
  split
  · exact formed
  · next free =>
    have new : v.name ∉ f.parameters.map fun p => p.name := by
      intro member
      obtain ⟨p, taken, same⟩ := List.mem_map.mp member
      apply free
      exact List.any_eq_true.mpr ⟨p, taken, by simp [same]⟩
    refine ⟨formed.carries, formed.constructs, ?_, ?_⟩
    · rw [List.map_append, List.nodup_append]
      refine ⟨formed.distinct, by simp, ?_⟩
      intro name member other single
      rw [List.mem_singleton.mp single]
      rintro rfl
      exact new member
    · intro p member
      rcases List.mem_append.mp member with older | last
      · exact formed.parameters p older
      · rw [List.mem_singleton.mp last]
        exact ⟨own, bare⟩

theorem isConstructor_addParameter (f : Function) (v : Variable) :
    (f.addParameter v).isConstructor = f.isConstructor := by
  unfold Function.addParameter
  split <;> rfl

theorem Awaited.addParameter {frame : Frame} (awaited : Awaited path f frame) (own : v.path = path)
    (bare : v.properties = []) : Awaited path (f.addParameter v) frame := by
  have same := isConstructor_addParameter f v
  cases frame with
  | method =>
    have keyword : methodKeyword (f.addParameter v) = methodKeyword f := by
      simp only [methodKeyword, same]
    change FunctionFormed path _ _
    rw [keyword]
    exact FunctionFormed.addParameter awaited own bare
  | function => exact ⟨awaited.formed.addParameter own bare, same.trans awaited.noConstructor⟩
  | plain => exact awaited
  | classBody => exact awaited

end Parameters

section Steps

variable {path : Path} {s : State}

theorem StateFormed.own (formed : StateFormed path s) : s.path = path := formed.unit.own

theorem StateFormed.push (formed : StateFormed path s) (frame : Frame) :
    StateFormed path (s.push frame) where
  unit := formed.unit
  opened := by
    intro f member
    obtain ⟨waiting, there, awaited⟩ := formed.opened f member
    exact ⟨waiting, List.mem_cons_of_mem _ there, awaited⟩

theorem StateFormed.drop {t : State} {frame : Frame} {outer : List Frame}
    (formed : StateFormed path s) (top : s.frames = frame :: outer)
    (idle : ∀ f, ¬ Awaited path f frame) (unit : t.unit = s.unit)
    (functions : t.functionStack = s.functionStack) (frames : t.frames = outer) :
    StateFormed path t where
  unit := by
    rw [unit]
    exact formed.unit
  opened := by
    intro f member
    rw [functions] at member
    obtain ⟨waiting, there, awaited⟩ := formed.opened f member
    rw [top] at there
    rcases List.mem_cons.mp there with rfl | below
    · exact absurd awaited (idle f)
    · rw [frames]
      exact ⟨waiting, below, awaited⟩

theorem forall_mem_modify {p : Class → Prop} {change : Class → Class} (keeps : ∀ c, p c → p (change c))
    {classes : List Class} (all : ∀ c ∈ classes, p c) (i : Nat) : ∀ c ∈ classes.modify i change, p c := by
  intro c member
  obtain ⟨j, found⟩ := List.mem_iff_getElem?.mp member
  rw [List.getElem?_modify] at found
  obtain ⟨before, there, rfl⟩ := Option.map_eq_some_iff.mp found
  have formed := all before (List.mem_of_getElem? there)
  split
  · exact keeps before formed
  · exact formed

theorem UnitFormed.classes_changed {unit : SourceUnit} {classes : List Class}
    (formed : UnitFormed path unit) (all : ∀ c ∈ classes, ClassFormed path c) :
    UnitFormed path { unit with classes := classes } :=
  ⟨formed.own, all, formed.functions, formed.globals⟩

theorem StateFormed.modifyClass {change : Class → Class} (formed : StateFormed path s) (position : Nat)
    (keeps : ∀ c, ClassFormed path c → ClassFormed path (change c)) :
    StateFormed path (s.modifyClass position change) where
  unit := formed.unit.classes_changed (forall_mem_modify keeps formed.unit.classes position)
  opened := formed.opened

theorem StateFormed.orphan (formed : StateFormed path s) (role : OrphanRole) (d : Declaration) :
    StateFormed path (s.orphan role d) :=
  ⟨⟨formed.unit.own, formed.unit.classes, formed.unit.functions, formed.unit.globals⟩, formed.opened⟩

theorem forall_mem_concat {α : Type} {p : α → Prop} {items : List α} {new : α}
    (all : ∀ x ∈ items, p x) (last : p new) : ∀ x ∈ items ++ [new], p x :=
  List.forall_mem_append.mpr ⟨all, List.forall_mem_singleton.mpr last⟩

theorem StateFormed.enterRecord {d : Declaration} (formed : StateFormed path s)
    (kind : d.kind = .record) : StateFormed path (s.enterRecord d) := by
  by_cases bare : attached d = []
  · rw [enterRecord_bare bare]
    exact ⟨formed.unit, formed.opened⟩
  · rw [enterRecord_annotated bare, formed.own]
    have new : ClassFormed path (classOf path d (attached d)) :=
      ⟨carries_attached (by rw [kind]; rfl) bare, nofun, nofun⟩
    exact ⟨formed.unit.classes_changed (forall_mem_concat formed.unit.classes new), formed.opened⟩

theorem StateFormed.enterField {d : Declaration} (formed : StateFormed path s)
    (kind : d.kind = .field) : StateFormed path (s.enterField d) := by
  by_cases bare : attached d = []
  · rw [enterField_bare bare]
    exact formed
  · cases owner : s.openClass? with
    | none =>
      rw [enterField_orphan bare owner]
      exact formed.orphan .member d
    | some position =>
      rw [enterField_owned bare owner, formed.own]
      refine formed.modifyClass position fun c class_formed => ?_
      have new : Carries path .member (variableOf path d (attached d)).toEntity :=
        carries_attached (by rw [kind]; rfl) bare
      exact ⟨class_formed.carries, forall_mem_concat class_formed.members new, class_formed.methods⟩

theorem StateFormed.enterVariable {d : Declaration} (formed : StateFormed path s)
    (kind : d.kind = .variable) : StateFormed path (s.enterVariable d) := by
  by_cases bare : attached d = []
  · rw [enterVariable_bare bare]
    exact formed
  · rw [enterVariable_annotated bare, formed.own]
    have new : Carries path .variable (variableOf path d (attached d)).toEntity :=
      carries_attached (by rw [kind]; rfl) bare
    have globals := forall_mem_concat formed.unit.globals new
    exact ⟨⟨formed.unit.own, formed.unit.classes, formed.unit.functions, globals⟩, formed.opened⟩

theorem StateFormed.enterParameter (formed : StateFormed path s) (d : Declaration) :
    StateFormed path (s.enterParameter d) := by
  cases current : s.functionStack with
  | nil =>
    rw [enterParameter_outside current]
    exact ⟨⟨formed.unit.own, formed.unit.classes, formed.unit.functions, formed.unit.globals⟩,
      formed.opened⟩
  | cons f outer =>
    rw [enterParameter_inside current]
    refine ⟨formed.unit, ?_⟩
    intro g member
    have opened := formed.opened
    rw [current] at opened
    rcases List.mem_cons.mp member with rfl | below
    · obtain ⟨frame, there, awaited⟩ := opened f List.mem_cons_self
      exact ⟨frame, there, awaited.addParameter formed.own rfl⟩
    · exact opened g (List.mem_cons_of_mem _ below)

theorem StateFormed.storeMethod {f : Function} (formed : StateFormed path s)
    (method : MethodFormed path f) (d : Declaration) : StateFormed path (s.storeMethod f d) := by
  cases owner : s.openClass? with
  | none =>
    rw [storeMethod_orphan owner]
    exact formed.orphan .method d
  | some position =>
    rw [storeMethod_owned owner]
    refine formed.modifyClass position fun c class_formed => ?_
    exact ⟨class_formed.carries, class_formed.members, forall_mem_concat class_formed.methods method⟩

/-- Only one function is open, so the frame on top is the one that waits for it. -/
theorem StateFormed.awaited_top {f : Function} {functions : List Function} {frame : Frame}
    {outer : List Frame} (formed : StateFormed path s) (agree : StacksAgree s)
    (top : s.frames = frame :: outer) (current : s.functionStack = f :: functions)
    (waits : frame = .method ∨ frame = .function) : Awaited path f frame := by
  have supplied := agree.functions
  have single := agree.single
  obtain ⟨waiting, there, awaited⟩ := formed.opened f (by rw [current]; exact List.mem_cons_self)
  rw [top] at there
  rcases List.mem_cons.mp there with rfl | below
  · exact awaited
  · have counted : 0 < outer.count waiting := List.count_pos_iff.mpr below
    rw [top, List.count_cons, List.count_cons] at supplied
    cases waiting with
    | method => rcases waits with rfl | rfl <;> simp at supplied <;> omega
    | function => rcases waits with rfl | rfl <;> simp at supplied <;> omega
    | plain => exact absurd awaited id
    | classBody => exact absurd awaited id

theorem StateFormed.step {next : State} {event : Event} (formed : StateFormed path s)
    (agree : StacksAgree s) (step : Accepts s event next) : StateFormed path next := by
  have single := agree.single
  cases step with
  | record d reading own kind => exact (formed.enterRecord kind).push _
  | field d reading own kind => exact (formed.enterField kind).push _
  | parameter d reading own kind => exact (formed.enterParameter d).push _
  | global d reading own kind => exact (formed.enterVariable kind).push _
  | function d reading own kind alone annotated =>
    refine ⟨formed.unit, ?_⟩
    intro f member
    rw [List.mem_singleton.mp member, formed.own]
    exact ⟨_, List.mem_cons_self, awaited_functionOf kind annotated⟩
  | endPlain d outer reading top => exact formed.drop top (fun _ => id) rfl rfl rfl
  | endClass d outer reading top => exact formed.drop top (fun _ => id) rfl rfl rfl
  | endMethod d outer f functions reading top current =>
    have method : Awaited path f .method := formed.awaited_top agree top current (.inl rfl)
    rw [current, List.length_cons] at single
    obtain rfl : functions = [] := List.length_eq_zero_iff.mp (by omega)
    have popped : StateFormed path { s with frames := outer, functionStack := [] } :=
      ⟨formed.unit, nofun⟩
    exact popped.storeMethod method d
  | endFunction d outer f functions reading top current =>
    have free : Awaited path f .function := formed.awaited_top agree top current (.inr rfl)
    rw [current, List.length_cons] at single
    obtain rfl : functions = [] := List.length_eq_zero_iff.mp (by omega)
    have stored := forall_mem_concat formed.unit.functions free
    exact ⟨⟨formed.unit.own, formed.unit.classes, stored, formed.unit.globals⟩, nofun⟩
  | _ => exact ⟨formed.unit, formed.opened⟩

theorem stateFormed_initial (path : Path) : StateFormed path (State.initial path) :=
  ⟨⟨rfl, nofun, nofun, nofun⟩, nofun⟩

theorem StateFormed.feedAll (formed : StateFormed path s) (agree : StacksAgree s)
    (events : List Event) : StateFormed path (s.feedAll events) := by
  induction events generalizing s with
  | nil => exact formed
  | cons event rest ih =>
    have one : StateFormed path (s.feed event).1 := by
      rcases feed_cases s event agree.functions with ⟨step, _⟩ | ⟨refused, _⟩
      · exact formed.step agree step
      · rw [refused]
        exact formed
    exact ih one (agree.feed event)

end Steps

/-- Whatever events a fresh tracker is fed, refused ones included, every entity that it has stored or
holds open is well formed. -/
theorem entities_formed (path : Path) (events : List Event) :
    StateFormed path ((State.initial path).feedAll events) :=
  (stateFormed_initial path).feedAll (stacksAgree_initial path) events

end DeclGen.Scope
