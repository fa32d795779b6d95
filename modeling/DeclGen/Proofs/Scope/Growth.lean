import DeclGen.Proofs.Scope.Stacks

/-!
What a tracker has built is only ever added to. Functions and global variables are appended to the
unit, and a class gains members and methods as long as it is open. A class that has ended is not
opened again, and a function that has been stored is not open any more, so neither changes whatever
events follow, refused ones included.
-/
namespace DeclGen.Scope

theorem getElem?_of_prefix {α : Type} {before after : List α} {i : Nat} {x : α}
    (kept : before <+: after) (found : before[i]? = some x) : after[i]? = some x := by
  obtain ⟨stored, rfl⟩ := List.getElem?_eq_some_iff.mp found
  exact List.prefix_iff_getElem?.mp kept i stored

/-- A class and what it has become: members and methods were added at the end. -/
structure ClassGrown (c later : Class) : Prop where
  entity : later.toEntity = c.toEntity
  members : c.members <+: later.members
  methods : c.methods <+: later.methods

theorem ClassGrown.refl (c : Class) : ClassGrown c c :=
  ⟨rfl, List.prefix_rfl, List.prefix_rfl⟩

theorem ClassGrown.trans {c later last : Class} (first : ClassGrown c later)
    (second : ClassGrown later last) : ClassGrown c last where
  entity := second.entity.trans first.entity
  members := first.members.trans second.members
  methods := first.methods.trans second.methods

structure Grown (s t : State) : Prop where
  functions : s.unit.functions <+: t.unit.functions
  globals : s.unit.globals <+: t.unit.globals
  classes : s.unit.classes.length ≤ t.unit.classes.length
  each : ∀ (i : Nat) c, s.unit.classes[i]? = some c →
    ∃ later, t.unit.classes[i]? = some later ∧ ClassGrown c later
  ended : ∀ (i : Nat) c, s.unit.classes[i]? = some c → some i ∉ s.classStack →
    t.unit.classes[i]? = some c
  notReopened : ∀ i, i < s.unit.classes.length → some i ∈ t.classStack → some i ∈ s.classStack
  skipped : s.unit.skippedParameters ≤ t.unit.skippedParameters
  unattributed : s.unit.unattributed ≤ t.unit.unattributed

section Grown

variable {s t u : State}

theorem Grown.of_classes (functions : s.unit.functions <+: t.unit.functions)
    (globals : s.unit.globals <+: t.unit.globals) (classes : t.unit.classes = s.unit.classes)
    (stack : ∀ i, some i ∈ t.classStack → some i ∈ s.classStack)
    (skipped : s.unit.skippedParameters ≤ t.unit.skippedParameters)
    (unattributed : s.unit.unattributed ≤ t.unit.unattributed) : Grown s t where
  functions := functions
  globals := globals
  classes := Nat.le_of_eq (congrArg List.length classes.symm)
  each := by
    intro i c found
    exact ⟨c, by rw [classes]; exact found, .refl c⟩
  ended := by
    intro i c found _
    rw [classes]
    exact found
  notReopened := fun i _ opened => stack i opened
  skipped := skipped
  unattributed := unattributed

theorem Grown.of_unit (unit : t.unit = s.unit)
    (stack : ∀ i, some i ∈ t.classStack → some i ∈ s.classStack) : Grown s t := by
  have kept : ∀ {α : Type} (part : SourceUnit → List α), part s.unit <+: part t.unit := by
    intro α part
    exact ⟨[], by rw [List.append_nil, unit]⟩
  have counted : ∀ count : SourceUnit → Int, count s.unit ≤ count t.unit := by
    intro count
    exact Int.le_of_eq (congrArg count unit.symm)
  exact .of_classes (kept _) (kept _) (by rw [unit]) stack (counted _) (counted _)

theorem Grown.refl (s : State) : Grown s s := .of_unit rfl fun _ opened => opened

theorem Grown.trans (first : Grown s t) (second : Grown t u) : Grown s u where
  functions := first.functions.trans second.functions
  globals := first.globals.trans second.globals
  classes := Nat.le_trans first.classes second.classes
  each := by
    intro i c found
    obtain ⟨later, foundLater, grown⟩ := first.each i c found
    obtain ⟨last, foundLast, more⟩ := second.each i later foundLater
    exact ⟨last, foundLast, grown.trans more⟩
  ended := by
    intro i c found closed
    have stored : i < s.unit.classes.length := (List.getElem?_eq_some_iff.mp found).1
    have still := first.ended i c found closed
    exact second.ended i c still fun opened => closed (first.notReopened i stored opened)
  notReopened := by
    intro i stored opened
    have storedLater : i < t.unit.classes.length := Nat.lt_of_lt_of_le stored first.classes
    exact first.notReopened i stored (second.notReopened i storedLater opened)
  skipped := Int.le_trans first.skipped second.skipped
  unattributed := Int.le_trans first.unattributed second.unattributed

theorem Grown.push (grown : Grown s t) (frame : Frame) : Grown s (t.push frame) :=
  grown.trans (.of_unit rfl fun _ opened => opened)

theorem mem_of_openClass {i : Nat} (owner : s.openClass? = some i) : some i ∈ s.classStack := by
  obtain ⟨rest, stack⟩ := List.head?_eq_some_iff.mp (Option.join_eq_some_iff.mp owner)
  rw [stack]
  exact List.mem_cons_self

theorem grown_modifyClass {position : Nat} {change : Class → Class}
    (owner : s.openClass? = some position) (grows : ∀ c, ClassGrown c (change c)) :
    Grown s (s.modifyClass position change) where
  functions := List.prefix_rfl
  globals := List.prefix_rfl
  classes := by simp [State.modifyClass]
  each := by
    intro i c found
    change ∃ later, (s.unit.classes.modify position change)[i]? = some later ∧ _
    rw [List.getElem?_modify, found]
    by_cases here : position = i
    · exact ⟨change c, by simp [here], grows c⟩
    · exact ⟨c, by simp [here], .refl c⟩
  ended := by
    intro i c found closed
    have apart : position ≠ i := by
      rintro rfl
      exact closed (mem_of_openClass owner)
    change (s.unit.classes.modify position change)[i]? = some c
    rw [List.getElem?_modify, found]
    simp [apart]
  notReopened := fun _ _ opened => opened
  skipped := Int.le_refl _
  unattributed := Int.le_refl _

theorem grown_orphan (s : State) (role : OrphanRole) (d : Declaration) :
    Grown s (s.orphan role d) := by
  refine .of_classes List.prefix_rfl List.prefix_rfl rfl (fun _ opened => opened) (Int.le_refl _) ?_
  change s.unit.unattributed ≤ s.unit.unattributed + 1
  omega

theorem grown_enterRecord (s : State) (d : Declaration) : Grown s (s.enterRecord d) := by
  by_cases bare : attached d = []
  · rw [enterRecord_bare bare]
    refine .of_unit rfl ?_
    intro i opened
    simpa using opened
  · rw [enterRecord_annotated bare]
    have front : ∀ (i : Nat) c, s.unit.classes[i]? = some c →
        (s.unit.classes ++ [classOf s.path d (attached d)])[i]? = some c := by
      intro i c found
      exact getElem?_of_prefix (List.prefix_append _ _) found
    exact
      { functions := List.prefix_rfl
        globals := List.prefix_rfl
        classes := by simp
        each := fun i c found => ⟨c, front i c found, .refl c⟩
        ended := fun i c found _ => front i c found
        notReopened := by
          intro i stored opened
          -- the new class stands behind all that were there
          rcases List.mem_cons.mp opened with new | older
          · have position : i = s.unit.classes.length := Option.some.inj new
            omega
          · exact older
        skipped := Int.le_refl _
        unattributed := Int.le_refl _ }

theorem grown_enterField (s : State) (d : Declaration) : Grown s (s.enterField d) := by
  by_cases bare : attached d = []
  · rw [enterField_bare bare]
    exact .refl s
  · cases owner : s.openClass? with
    | none =>
      rw [enterField_orphan bare owner]
      exact grown_orphan s .member d
    | some position =>
      rw [enterField_owned bare owner]
      exact grown_modifyClass owner fun c => ⟨rfl, List.prefix_append _ _, List.prefix_rfl⟩

theorem grown_storeMethod (s : State) (f : Function) (d : Declaration) :
    Grown s (s.storeMethod f d) := by
  cases owner : s.openClass? with
  | none =>
    rw [storeMethod_orphan owner]
    exact grown_orphan s .method d
  | some position =>
    rw [storeMethod_owned owner]
    exact grown_modifyClass owner fun c => ⟨rfl, List.prefix_rfl, List.prefix_append _ _⟩

theorem grown_enterVariable (s : State) (d : Declaration) : Grown s (s.enterVariable d) := by
  by_cases bare : attached d = []
  · rw [enterVariable_bare bare]
    exact .refl s
  · rw [enterVariable_annotated bare]
    exact .of_classes List.prefix_rfl (List.prefix_append _ _) rfl (fun _ opened => opened)
      (Int.le_refl _) (Int.le_refl _)

theorem grown_enterParameter (s : State) (d : Declaration) : Grown s (s.enterParameter d) := by
  cases current : s.functionStack with
  | nil =>
    rw [enterParameter_outside current]
    refine .of_classes List.prefix_rfl List.prefix_rfl rfl (fun _ opened => opened) ?_ (Int.le_refl _)
    change s.unit.skippedParameters ≤ s.unit.skippedParameters + 1
    omega
  | cons f outer =>
    rw [enterParameter_inside current]
    exact .of_unit rfl fun _ opened => opened

theorem Grown.step {event : Event} (step : Accepts s event t) : Grown s t := by
  cases step with
  | record d reading own kind => exact (grown_enterRecord s d).push _
  | field d reading own kind => exact (grown_enterField s d).push _
  | parameter d reading own kind => exact (grown_enterParameter s d).push _
  | global d reading own kind => exact (grown_enterVariable s d).push _
  | endClass d outer reading top => exact .of_unit rfl fun _ opened => List.mem_of_mem_tail opened
  | endMethod d outer f functions reading top current =>
    have popped : Grown s { s with frames := outer, functionStack := functions } :=
      .of_unit rfl fun _ opened => opened
    exact popped.trans (grown_storeMethod _ f d)
  | endFunction d outer f functions reading top current =>
    exact .of_classes (List.prefix_append _ _) List.prefix_rfl rfl (fun _ opened => opened)
      (Int.le_refl _) (Int.le_refl _)
  | _ => exact .of_unit rfl fun _ opened => opened

end Grown

theorem grown_feedAll {s : State} (agree : StacksAgree s) (events : List Event) :
    Grown s (s.feedAll events) := by
  induction events generalizing s with
  | nil => exact .refl s
  | cons event rest ih =>
    have one : Grown s (s.feed event).1 := by
      rcases feed_cases s event agree.functions with ⟨step, _⟩ | ⟨refused, _⟩
      · exact .step step
      · rw [refused]
        exact .refl s
    exact one.trans (ih (agree.feed event))

/-- The function at a place of a unit: among the methods of the class at `owner`, or among the
functions outside of classes. -/
def storedFunction? (unit : SourceUnit) (owner : Option Nat) (i : Nat) : Option Function :=
  match owner with
  | none => unit.functions[i]?
  | some position => (unit.classes[position]?).bind fun c => c.methods[i]?

theorem Grown.storedFunction {s t : State} (grown : Grown s t) {owner : Option Nat} {i : Nat}
    {f : Function} (stored : storedFunction? s.unit owner i = some f) :
    storedFunction? t.unit owner i = some f := by
  cases owner with
  | none => exact getElem?_of_prefix grown.functions stored
  | some position =>
    obtain ⟨c, found, method⟩ := Option.bind_eq_some_iff.mp stored
    obtain ⟨later, foundLater, more⟩ := grown.each position c found
    exact Option.bind_eq_some_iff.mpr ⟨later, foundLater, getElem?_of_prefix more.methods method⟩

section Handover

variable {s t : State} {owner : Option Nat} {i : Nat}

theorem storedFunction_enterRecord (s : State) (d : Declaration) :
    storedFunction? (s.enterRecord d).unit owner i = storedFunction? s.unit owner i := by
  by_cases bare : attached d = []
  · rw [enterRecord_bare bare]
  · rw [enterRecord_annotated bare]
    cases owner with
    | none => rfl
    | some position =>
      -- a class begins without methods
      simp only [storedFunction?, List.getElem?_append]
      split
      · rfl
      · next behind =>
        have missing : s.unit.classes[position]? = none := List.getElem?_eq_none (by omega)
        rw [missing]
        cases position - s.unit.classes.length <;> rfl

theorem storedFunction_enterField (s : State) (d : Declaration) :
    storedFunction? (s.enterField d).unit owner i = storedFunction? s.unit owner i := by
  by_cases bare : attached d = []
  · rw [enterField_bare bare]
  · cases around : s.openClass? with
    | none =>
      rw [enterField_orphan bare around]
      cases owner <;> rfl
    | some position =>
      rw [enterField_owned bare around]
      cases owner with
      | none => rfl
      | some other =>
        simp only [storedFunction?, State.modifyClass, List.getElem?_modify]
        cases s.unit.classes[other]? with
        | none => rfl
        | some c => by_cases here : position = other <;> simp [here]

theorem functionStack_storeMethod (s : State) (f : Function) (d : Declaration) :
    (s.storeMethod f d).functionStack = s.functionStack := by
  cases around : s.openClass? with
  | none => rw [storeMethod_orphan around]; rfl
  | some position => rw [storeMethod_owned around]; rfl

theorem storedFunction_step {event : Event} (agree : StacksAgree s) (step : Accepts s event t)
    (busy : t.functionStack ≠ []) : storedFunction? t.unit owner i = storedFunction? s.unit owner i := by
  have single := agree.single
  cases step with
  | record d reading own kind => exact storedFunction_enterRecord s d
  | field d reading own kind => exact storedFunction_enterField s d
  | parameter d reading own kind =>
    cases current : s.functionStack with
    | nil =>
      rw [enterParameter_outside current]
      cases owner <;> rfl
    | cons f outer =>
      rw [enterParameter_inside current]
      rfl
  | global d reading own kind =>
    by_cases bare : attached d = []
    · rw [enterVariable_bare bare]
      rfl
    · rw [enterVariable_annotated bare]
      cases owner <;> rfl
  | endMethod d outer f functions reading top current =>
    rw [current, List.length_cons] at single
    have none : functions = [] := List.length_eq_zero_iff.mp (by omega)
    rw [functionStack_storeMethod] at busy
    exact absurd none busy
  | endFunction d outer f functions reading top current =>
    rw [current, List.length_cons] at single
    have none : functions = [] := List.length_eq_zero_iff.mp (by omega)
    exact absurd none busy
  | _ => rfl

theorem storedFunction_feed {s : State} (agree : StacksAgree s) (event : Event)
    (changed : storedFunction? (s.feed event).1.unit owner i ≠ storedFunction? s.unit owner i) :
    (s.feed event).1.functionStack = [] := by
  rcases feed_cases s event agree.functions with ⟨step, _⟩ | ⟨refused, _⟩
  · exact Classical.byContradiction fun busy => changed (storedFunction_step agree step busy)
  · rw [refused] at changed
    exact absurd rfl changed

end Handover

/-- Whatever a tracker was fed and is fed later: what it has built is only added to, a class that has
ended stays as it is, and so does every function that has been stored, its parameters included. An
event that stores a function leaves none open to which a parameter could be added. -/
theorem entities_frozen (path : Path) (events later : List Event) :
    let s := (State.initial path).feedAll events
    let t := s.feedAll later
    Grown s t ∧
      (∀ owner i f, storedFunction? s.unit owner i = some f →
        storedFunction? t.unit owner i = some f) ∧
      ∀ event owner i,
        storedFunction? (s.feed event).1.unit owner i ≠ storedFunction? s.unit owner i →
          (s.feed event).1.functionStack = [] := by
  intro s t
  have agree : StacksAgree s := (stacksAgree_initial path).feedAll events
  have grown : Grown s t := grown_feedAll agree later
  refine ⟨grown, ?_, ?_⟩
  · intro owner i f stored
    exact grown.storedFunction stored
  · intro event owner i changed
    exact storedFunction_feed agree event changed

namespace Sample

/-- A class with a method, up to the parameter of the method. -/
def classUpTo (name parameter : String) : List Event :=
  [.enter (declaration .record name "CGCLASS()"), .enter (declaration .method "run" "CGMETHOD()"),
    .enter (declaration .parameter parameter ""), .exit (declaration .parameter parameter "")]

def endedClass : List Event :=
  classUpTo "First" "x" ++
    [.exit (declaration .method "run" ""), .exit (declaration .record "First" "")]

end Sample

/-- The second class has a method of the same name, and the first keeps its own. -/
theorem entities_frozen_sample :
    let s := (State.initial Path.here).feedAll Sample.endedClass
    let t := s.feedAll (Sample.classUpTo "Second" "y")
    s.classStack = [] ∧ t.unit.classes.length = 2 ∧ t.unit.classes[0]? = s.unit.classes[0]? ∧
      ∃ f, storedFunction? s.unit (some 0) 0 = some f ∧
        f.parameters.map (fun p => p.name) = ["x".text] ∧
        storedFunction? t.unit (some 0) 0 = some f := by
  intro s t
  have frozen := entities_frozen Path.here Sample.endedClass (Sample.classUpTo "Second" "y")
  have closed : s.classStack = [] := by decide +kernel
  have stored : ∃ c, s.unit.classes[0]? = some c := Option.isSome_iff_exists.mp (by decide +kernel)
  have method : ∃ f, storedFunction? s.unit (some 0) 0 = some f :=
    Option.isSome_iff_exists.mp (by decide +kernel)
  obtain ⟨c, found⟩ := stored
  obtain ⟨f, there⟩ := method
  have parameters : (storedFunction? s.unit (some 0) 0).map
      (fun f => f.parameters.map fun p => p.name) = some ["x".text] := by decide +kernel
  rw [there] at parameters
  refine ⟨closed, by decide +kernel, ?_, f, there, Option.some.inj parameters, ?_⟩
  · rw [found]
    exact frozen.1.ended 0 c found (by rw [closed]; exact List.not_mem_nil)
  · exact frozen.2.1 (some 0) 0 f there

end DeclGen.Scope
