import DeclGen.Proofs.Scope.Stacks

/-!
A method goes to the class that was open when it began. The end of a method names no class, so this
rests on what lies between the two: as long as the method's frame is there, the frames and classes of
its beginning stay below those that come and go.
-/
namespace DeclGen.Scope

/-- What holds of every state between the beginning and the end of a function that was opened last
in `base`: what was open then lies below what is open now, and the classes of then still exist. -/
structure Inside (base t : State) : Prop where
  layers : ∃ frames classes, t.frames = frames ++ base.frames ∧
    t.classStack = classes ++ base.classStack ∧ classes.length = frames.count .classBody
  functions : t.functionStack.map heading = base.functionStack.map heading
  kept : base.unit.classes.map Class.toEntity <+: t.unit.classes.map Class.toEntity

theorem Inside.refl (base : State) : Inside base base :=
  ⟨⟨[], [], rfl, rfl, rfl⟩, rfl, List.prefix_rfl⟩

theorem Inside.of_outline {base t u : State} (inside : Inside base t) (same : SameOutline t u) :
    Inside base u := by
  refine ⟨?_, same.functionStack.trans inside.functions, ?_⟩
  · rw [same.frames, same.classStack]; exact inside.layers
  · rw [same.classes]; exact inside.kept

theorem Inside.push_plain {base t : State} (inside : Inside base t) :
    Inside base (t.push .plain) := by
  obtain ⟨frames, classes, atop, above, counted⟩ := inside.layers
  refine ⟨⟨.plain :: frames, classes, ?_, above, ?_⟩, inside.functions, inside.kept⟩
  · rw [State.push, atop, List.cons_append]
  · simpa using counted

theorem Inside.enterRecord {base t : State} (inside : Inside base t) (d : Declaration) :
    Inside base ((t.enterRecord d).push .classBody) := by
  obtain ⟨frames, classes, atop, above, counted⟩ := inside.layers
  by_cases bare : attached d = []
  · rw [enterRecord_bare bare]
    refine ⟨⟨.classBody :: frames, none :: classes, ?_, ?_, ?_⟩, inside.functions, inside.kept⟩
    · simp [State.push, atop]
    · simp [State.push, above]
    · simp [counted]
  · rw [enterRecord_annotated bare]
    refine ⟨⟨.classBody :: frames, some t.unit.classes.length :: classes, ?_, ?_, ?_⟩,
      inside.functions, ?_⟩
    · simp [State.push, atop]
    · simp [State.push, above]
    · simp [counted]
    · refine inside.kept.trans ?_
      simp [State.push]

theorem split_top {frame : Frame} {outer frames base : List Frame}
    (same : frame :: outer = frames ++ base) (still : base.length ≤ outer.length) :
    ∃ rest, frames = frame :: rest ∧ outer = rest ++ base := by
  cases frames with
  | nil =>
    rw [List.nil_append] at same
    rw [← same, List.length_cons] at still
    omega
  | cons first rest =>
    obtain ⟨rfl, rfl⟩ := List.cons.inj same
    exact ⟨rest, rfl, rfl⟩

theorem Inside.step {base t next : State} {event : Event} (ground : StacksAgree base)
    (busy : base.functionStack ≠ []) (agree : StacksAgree t) (inside : Inside base t)
    (step : Accepts t event next) (still : base.frames.length ≤ next.frames.length) :
    Inside base next := by
  have lengths : t.functionStack.length = base.functionStack.length := by
    simpa using congrArg List.length inside.functions
  have positive : 0 < base.functionStack.length := List.length_pos_iff.mpr busy
  obtain ⟨frames, classes, atop, above, counted⟩ := inside.layers
  -- A function is open already, so none of the frames above `base` stands for another one.
  have inner : frames.count .method + frames.count .function = 0 := by
    have here := agree.functions
    have there := ground.functions
    rw [atop, List.count_append, List.count_append] at here
    omega
  cases step with
  | deeper d skipping => exact ⟨inside.layers, inside.functions, inside.kept⟩
  | foreign d reading elsewhere => exact ⟨inside.layers, inside.functions, inside.kept⟩
  | record d reading own kind => exact inside.enterRecord d
  | field d reading own kind => exact (inside.of_outline (enterField_outline t d)).push_plain
  | parameter d reading own kind =>
    exact (inside.of_outline (enterParameter_outline t d)).push_plain
  | global d reading own kind => exact (inside.of_outline (enterVariable_outline t d)).push_plain
  | passOver d reading own kind alone bare =>
    exact ⟨inside.layers, inside.functions, inside.kept⟩
  | function d reading own kind alone annotated =>
    rw [alone, List.length_nil] at lengths
    omega
  | shallower d skipping => exact ⟨inside.layers, inside.functions, inside.kept⟩
  | endPlain d outer reading top =>
    obtain ⟨rest, rfl, below⟩ := split_top (top.symm.trans atop) still
    exact ⟨⟨rest, classes, below, above, by simpa using counted⟩, inside.functions, inside.kept⟩
  | endClass d outer reading top =>
    obtain ⟨rest, rfl, below⟩ := split_top (top.symm.trans atop) still
    cases classes with
    | nil => simp at counted
    | cons position others =>
      refine ⟨⟨rest, others, below, ?_, by simpa using counted⟩, inside.functions, inside.kept⟩
      simp [above]
  | endMethod d outer f functions reading top current =>
    rw [(storeMethod_outline _ f d).frames] at still
    obtain ⟨rest, rfl, _⟩ := split_top (top.symm.trans atop) still
    simp at inner
  | endFunction d outer f functions reading top current =>
    obtain ⟨rest, rfl, _⟩ := split_top (top.symm.trans atop) still
    simp at inner

/-- None of the events takes off the frame that lies on `depth` others. -/
def StaysOpen (s : State) (depth : Nat) (events : List Event) : Prop :=
  ∀ first rest, events = first ++ rest → depth < (s.feedAll first).frames.length

theorem staysOpen_nil {s : State} {depth : Nat} : StaysOpen s depth [] ↔ depth < s.frames.length := by
  constructor
  · intro stays
    exact stays [] [] rfl
  · intro below first rest parts
    rw [(List.append_eq_nil_iff.mp parts.symm).1]
    exact below

theorem staysOpen_cons {s : State} {depth : Nat} {event : Event} {events : List Event} :
    StaysOpen s depth (event :: events) ↔
      depth < s.frames.length ∧ StaysOpen (s.feed event).1 depth events := by
  constructor
  · intro stays
    refine ⟨stays [] (event :: events) rfl, ?_⟩
    intro first rest parts
    exact stays (event :: first) rest (by rw [parts]; rfl)
  · rintro ⟨below, later⟩ first rest parts
    cases first with
    | nil => exact below
    | cons head tail =>
      obtain ⟨rfl, rfl⟩ := List.cons.inj parts
      exact later tail rest rfl

instance decidableStaysOpen : (s : State) → (depth : Nat) → (events : List Event) →
    Decidable (StaysOpen s depth events)
  | _, _, [] => decidable_of_iff _ staysOpen_nil.symm
  | s, depth, event :: rest =>
    have := decidableStaysOpen (s.feed event).1 depth rest
    decidable_of_iff _ staysOpen_cons.symm

theorem Inside.feedAll {base t : State} {events : List Event} (ground : StacksAgree base)
    (busy : base.functionStack ≠ []) (agree : StacksAgree t) (inside : Inside base t)
    (stays : StaysOpen t (base.frames.length - 1) events) : Inside base (t.feedAll events) := by
  induction events generalizing t with
  | nil => exact inside
  | cons event rest ih =>
    have still := stays [event] rest rfl
    have next : Inside base (t.feed event).1 := by
      rcases feed_cases t event agree.functions with ⟨step, _⟩ | ⟨refused, _⟩
      · exact inside.step ground busy agree step (by simp [State.feedAll] at still; omega)
      · rw [refused]; exact inside
    exact ih (agree.feed event) next (staysOpen_cons.mp stays).2

theorem path_step {s next : State} {event : Event} (step : Accepts s event next) :
    next.path = s.path := by
  cases step with
  | record d reading own kind =>
    by_cases bare : attached d = []
    · rw [enterRecord_bare bare]; rfl
    · rw [enterRecord_annotated bare]; rfl
  | field d reading own kind => exact (enterField_outline s d).path
  | parameter d reading own kind => exact (enterParameter_outline s d).path
  | global d reading own kind => exact (enterVariable_outline s d).path
  | endMethod d outer f functions reading top current => exact (storeMethod_outline _ f d).path
  | _ => rfl

theorem path_feedAll {s : State} (agree : StacksAgree s) (events : List Event) :
    (s.feedAll events).path = s.path := by
  induction events generalizing s with
  | nil => rfl
  | cons event rest ih =>
    have one : (s.feed event).1.path = s.path := by
      rcases feed_cases s event agree.functions with ⟨step, _⟩ | ⟨refused, _⟩
      · exact path_step step
      · rw [refused]
    exact (ih (agree.feed event)).trans one

theorem opens_method {s next : State} {d : Declaration} (step : Accepts s (.enter d) next)
    (top : next.frames = .method :: s.frames) :
    next = ({ s with functionStack := [functionOf s.path d (attached d)] } : State).push .method := by
  cases step with
  | deeper skipping => simp at top
  | foreign reading elsewhere => simp at top
  | record reading own kind => simp [State.push] at top
  | field reading own kind => simp [State.push] at top
  | parameter reading own kind => simp [State.push] at top
  | global reading own kind => simp [State.push] at top
  | passOver reading own kind alone bare => simp at top
  | function reading own kind alone annotated =>
    simp only [State.push, List.cons.injEq, and_true] at top
    rw [top]

/-- A method `d` begins in `s`, and after the events `later` its frame is still there, on top, so
that the next end is the method's own. -/
structure MethodRun (s : State) (d : Declaration) (later : List Event) : Prop where
  begins : (s.feed (.enter d)).1.frames = .method :: s.frames
  stays : StaysOpen (s.feed (.enter d)).1 s.frames.length later
  innermost : ((s.feed (.enter d)).1.feedAll later).frames.length = s.frames.length + 1
  reading : ((s.feed (.enter d)).1.feedAll later).skipDepth = 0

def addMethod (owner : Option Nat) (f : Function) (classes : List Class) : List Class :=
  match owner with
  | none => classes
  | some i => classes.modify i fun c => { c with methods := c.methods ++ [f] }

theorem classes_storeMethod (s : State) (f : Function) (d : Declaration) :
    (s.storeMethod f d).unit.classes = addMethod s.openClass? f s.unit.classes := by
  cases owner : s.openClass? with
  | none => rw [storeMethod_orphan owner]; rfl
  | some i => rw [storeMethod_owned owner]; rfl

theorem method_run_closes {s : State} {d : Declaration} {later : List Event}
    (agree : StacksAgree s) (run : MethodRun s d later) :
    let t := (s.feed (.enter d)).1.feedAll later
    t.frames = .method :: s.frames ∧ t.classStack = s.classStack ∧
      (∃ f, t.functionStack = [f] ∧ heading f = functionOf s.path d (attached d)) ∧
      s.unit.classes.map Class.toEntity <+: t.unit.classes.map Class.toEntity := by
  intro t
  have opened : (s.feed (.enter d)).1 =
      ({ s with functionStack := [functionOf s.path d (attached d)] } : State).push .method := by
    rcases feed_cases s (.enter d) agree.functions with ⟨step, _⟩ | ⟨refused, _⟩
    · exact opens_method step run.begins
    · have begins := run.begins
      rw [refused] at begins
      simp at begins
  have ground := agree.feed (.enter d)
  have stays : StaysOpen (s.feed (.enter d)).1 ((s.feed (.enter d)).1.frames.length - 1) later := by
    rw [run.begins]; exact run.stays
  have inside : Inside (s.feed (.enter d)).1 t :=
    (Inside.refl _).feedAll ground (by simp [opened, State.push]) ground stays
  obtain ⟨frames, classes, atop, above, counted⟩ := inside.layers
  have innermost : t.frames.length = s.frames.length + 1 := run.innermost
  have noFrames : frames = [] := by
    rw [atop, run.begins, List.length_append, List.length_cons] at innermost
    exact List.length_eq_zero_iff.mp (by omega)
  subst noFrames
  have noClasses : classes = [] := List.length_eq_zero_iff.mp counted
  subst noClasses
  refine ⟨?_, ?_, ?_, ?_⟩
  · rw [atop, List.nil_append, run.begins]
  · rw [above, opened]; rfl
  · have same := inside.functions
    rw [opened] at same
    obtain ⟨f, stack, name⟩ := List.map_eq_singleton_iff.mp same
    exact ⟨f, stack, name⟩
  · have kept := inside.kept
    rw [opened] at kept
    exact kept

theorem entity_of_prefix {before after : List Class} {i : Nat}
    (kept : before.map Class.toEntity <+: after.map Class.toEntity) (stored : i < before.length) :
    (after[i]?).map Class.toEntity = (before[i]?).map Class.toEntity := by
  obtain ⟨more, all⟩ := kept
  rw [← List.getElem?_map, ← List.getElem?_map, ← all, List.getElem?_append_left]
  simpa using stored

/-- Whatever events a fresh tracker is fed, refused ones included: its stacks agree, nothing that an
event takes or looks up is missing, the open declarations are counted by the events that were
accepted, and a method that ends goes to the class that was open when it began. -/
theorem tracker_consistent (path : Path) (events : List Event) :
    let s := (State.initial path).feedAll events
    let accepted := (State.initial path).accepted events
    StacksAgree s ∧ Ready s ∧
      ((s.frames.length + s.skipDepth : Nat) : Int) = (enters accepted : Int) - exits accepted ∧
      ∀ d later e, MethodRun s d later →
        let t := (s.feed (.enter d)).1.feedAll later
        ∃ f, t.functionStack = [f] ∧ heading f = functionOf path d (attached d) ∧
          (t.feed (.exit e)).2 = none ∧
          (t.feed (.exit e)).1.unit.classes = addMethod s.openClass? f t.unit.classes ∧
          ∀ i, s.openClass? = some i →
            (t.unit.classes[i]?).map Class.toEntity = (s.unit.classes[i]?).map Class.toEntity := by
  intro s accepted
  have initial := stacksAgree_initial path
  have agree : StacksAgree s := initial.feedAll events
  refine ⟨agree, agree.ready, ?_, ?_⟩
  · have count := openCount_feedAll initial events
    change s.openCount + exits accepted = 0 + enters accepted at count
    change (s.openCount : Int) = _
    omega
  · intro d later e run t
    obtain ⟨frames, classStack, ⟨f, functions, name⟩, kept⟩ := method_run_closes agree run
    have sameClasses : t.classStack = s.classStack := classStack
    have ending := feed_of_accepts (Accepts.endMethod e s.frames f [] run.reading frames functions)
    have samePath : s.path = path := path_feedAll initial events
    refine ⟨f, functions, by rw [name, samePath], by rw [ending], ?_, ?_⟩
    · rw [ending, classes_storeMethod]
      change addMethod (State.openClass? t) f t.unit.classes = _
      simp only [State.openClass?, sameClasses]
    · intro i owner
      exact entity_of_prefix kept (agree.ready.owner_there i owner)

namespace Sample

def method : Declaration := declaration .method "run" "CGMETHOD()"

/-- An end that matches nothing, and a class. -/
def before : List Event :=
  [.exit method, .enter (declaration .record "Outer" "CGCLASS()")]

/-- A parameter, and a class in which the method is announced once more. -/
def between : List Event :=
  [.enter (declaration .parameter "x" ""), .exit (declaration .parameter "x" ""),
    .enter (declaration .record "Inner" "CGCLASS()"), .enter method, .exit method]

end Sample

/-- The method goes to the class around it and not to the one inside it. -/
theorem tracker_consistent_sample :
    let s := (State.initial Path.here).feedAll Sample.before
    let t := (s.feed (.enter Sample.method)).1.feedAll Sample.between
    MethodRun s Sample.method Sample.between ∧ t.unit.classes.length = 2 ∧
      ∃ f, heading f = functionOf Path.here Sample.method (attached Sample.method) ∧
        (t.feed (.exit Sample.method)).1.unit.classes = addMethod (some 0) f t.unit.classes := by
  have run : MethodRun ((State.initial Path.here).feedAll Sample.before) Sample.method
      Sample.between :=
    ⟨by decide +kernel, by decide +kernel, by decide +kernel, by decide +kernel⟩
  have owner : ((State.initial Path.here).feedAll Sample.before).openClass? = some 0 := by
    decide +kernel
  obtain ⟨f, _, name, _, given, _⟩ :=
    (tracker_consistent Path.here Sample.before).2.2.2 _ _ Sample.method run
  rw [owner] at given
  exact ⟨run, by decide +kernel, f, name, given⟩

end DeclGen.Scope
