import DeclGen.Proofs.Outline
import DeclGen.Proofs.Scope.MethodOwner

/-!
What a tracker keeps of the declarations that are open, and which events it therefore takes. The
declarations alone decide: which frames they left, how deep the tracker is in something that it passes
over and whether it is inside a function are all read off them.
-/
namespace DeclGen.Scope

/-- A declaration that is passed over together with all inside it: one of another file, or a function
without a directive. -/
def PassedOver (path : Path) (d : Declaration) : Prop :=
  d.file ≠ path ∨ (d.kind.isFunctionKind = true ∧ attached d = [])

/-- The declaration is of the file and nothing around it is passed over. It may itself be the
beginning of what is passed over. -/
def Read (path : Path) (o : Opening) : Prop :=
  o.decl.file = path ∧ ∀ d ∈ o.around, ¬ PassedOver path d

def InFunction (o : Opening) : Prop :=
  ∃ d ∈ o.around, d.kind.isFunctionKind = true ∧ attached d ≠ []

def Offends (path : Path) (o : Opening) : Prop :=
  Read path o ∧
    (o.decl.kind ∉ DeclKind.known ∨ (o.decl.kind.isFunctionKind = true ∧ InFunction o))

def openAfter (around : List Declaration) : Event → List Declaration
  | .enter d => d :: around
  | .exit _ => around.tail

def Misfit (path : Path) (around : List Declaration) : Event → Prop
  | .enter d => Offends path ⟨d, around⟩
  | .exit _ => around = []

def frameOf (d : Declaration) : Frame :=
  match d.kind with
  | .record => .classBody
  | .method | .constructor => .method
  | .function => .function
  | _ => .plain

/-- What the tracker has of the open declarations: the innermost ones are passed over, as many as its
skip depth says, and each of the others has left its frame. -/
structure Follows (path : Path) (around : List Declaration) (s : State) : Prop where
  file : s.path = path
  layers : ∃ passed read, around = passed ++ read ∧ passed.length = s.skipDepth ∧
    (∀ d ∈ passed.getLast?, PassedOver path d) ∧ (∀ d ∈ read, ¬ PassedOver path d) ∧
    s.frames = read.map frameOf

section Follows

variable {path : Path} {around : List Declaration} {s next : State} {d : Declaration}

theorem follows_initial (path : Path) : Follows path [] (State.initial path) :=
  ⟨rfl, [], [], rfl, rfl, by simp, by simp, rfl⟩

theorem Follows.length (follows : Follows path around s) : around.length = s.openCount := by
  obtain ⟨passed, read, rfl, depth, _, _, frames⟩ := follows.layers
  rw [State.openCount, frames, List.length_append, List.length_map, depth]
  omega

theorem Follows.reading (follows : Follows path around s) (reading : s.skipDepth = 0) :
    (∀ d ∈ around, ¬ PassedOver path d) ∧ s.frames = around.map frameOf := by
  obtain ⟨passed, read, rfl, depth, _, clear, frames⟩ := follows.layers
  rw [reading] at depth
  rw [List.eq_nil_of_length_eq_zero depth, List.nil_append]
  exact ⟨clear, frames⟩

/-- While something is passed over, it is around whatever comes next. -/
theorem Follows.skipping (follows : Follows path around s) (skipping : 0 < s.skipDepth) :
    ∃ d ∈ around, PassedOver path d := by
  obtain ⟨passed, read, rfl, depth, begun, _, _⟩ := follows.layers
  have nonempty : passed ≠ [] := List.length_pos_iff.mp (by omega)
  have last : passed.getLast? = some (passed.getLast nonempty) := List.getLast?_eq_some_getLast nonempty
  exact ⟨_, List.mem_append_left _ (List.getLast_mem nonempty), begun _ last⟩

theorem Follows.push (follows : Follows path around s) (reading : s.skipDepth = 0)
    (own : ¬ PassedOver path d) (same : next.path = s.path) (depth : next.skipDepth = 0)
    (frames : next.frames = frameOf d :: s.frames) : Follows path (d :: around) next := by
  obtain ⟨clear, below⟩ := follows.reading reading
  refine ⟨same.trans follows.file, [], d :: around, rfl, depth.symm, by simp, ?_, ?_⟩
  · intro other member
    rcases List.mem_cons.mp member with rfl | outer
    · exact own
    · exact clear other outer
  · rw [frames, below, List.map_cons]

theorem Follows.pass (follows : Follows path around s) (reading : s.skipDepth = 0)
    (begun : PassedOver path d) : Follows path (d :: around) { s with skipDepth := 1 } := by
  obtain ⟨clear, frames⟩ := follows.reading reading
  exact ⟨follows.file, [d], around, rfl, rfl, by simpa using begun, clear, frames⟩

theorem Follows.pop {frame : Frame} {outer : List Frame} (follows : Follows path around s)
    (reading : s.skipDepth = 0) (top : s.frames = frame :: outer) (same : next.path = s.path)
    (depth : next.skipDepth = 0) (frames : next.frames = outer) : Follows path around.tail next := by
  obtain ⟨clear, all⟩ := follows.reading reading
  refine ⟨same.trans follows.file, [], around.tail, rfl, depth.symm, by simp, ?_, ?_⟩
  · intro d member
    exact clear d (List.mem_of_mem_tail member)
  · rw [frames, List.map_tail, ← all, top, List.tail_cons]

theorem Follows.deeper (follows : Follows path around s) (skipping : 0 < s.skipDepth) :
    Follows path (d :: around) { s with skipDepth := s.skipDepth + 1 } := by
  obtain ⟨passed, read, rfl, depth, begun, clear, frames⟩ := follows.layers
  refine ⟨follows.file, d :: passed, read, rfl, by simp [depth], ?_, clear, frames⟩
  cases passed with
  | nil => simp [← depth] at skipping
  | cons first others => rwa [List.getLast?_cons_cons]

theorem Follows.shallower (follows : Follows path around s) (skipping : 0 < s.skipDepth) :
    Follows path around.tail { s with skipDepth := s.skipDepth - 1 } := by
  obtain ⟨passed, read, rfl, depth, begun, clear, frames⟩ := follows.layers
  cases passed with
  | nil => simp [← depth] at skipping
  | cons first others =>
    refine ⟨follows.file, others, read, rfl, by simp [← depth], ?_, clear, frames⟩
    cases others with
    | nil => simp
    | cons second more => rwa [List.getLast?_cons_cons] at begun

theorem not_passedOver (own : d.file = path)
    (directive : d.kind.isFunctionKind = true → attached d ≠ []) : ¬ PassedOver path d := by
  rintro (elsewhere | ⟨function, bare⟩)
  · exact elsewhere own
  · exact directive function bare

theorem frames_enterRecord (s : State) (d : Declaration) :
    (s.enterRecord d).frames = s.frames ∧ (s.enterRecord d).skipDepth = s.skipDepth := by
  by_cases bare : attached d = []
  · rw [enterRecord_bare bare]; exact ⟨rfl, rfl⟩
  · rw [enterRecord_annotated bare]; exact ⟨rfl, rfl⟩

theorem Follows.push_plain {opened : State} (follows : Follows path around s)
    (reading : s.skipDepth = 0) (own : d.file = s.path)
    (kind : d.kind = .field ∨ d.kind = .parameter ∨ d.kind = .variable)
    (same : SameOutline s opened) : Follows path (d :: around) (opened.push .plain) := by
  have plain : frameOf d = .plain ∧ d.kind.isFunctionKind = false := by
    rcases kind with kind | kind | kind <;> simp [frameOf, kind, DeclKind.isFunctionKind]
  refine follows.push reading ?_ same.path (same.skipDepth.trans reading) ?_
  · exact not_passedOver (own.trans follows.file) (by simp [plain.2])
  · rw [plain.1, ← same.frames]; rfl

theorem frameOf_functionKind (kind : d.kind.isFunctionKind = true) :
    frameOf d = if d.kind = .function then .function else .method := by
  cases role : d.kind <;> simp [role, DeclKind.isFunctionKind] at kind <;> simp [frameOf, role]

theorem Follows.step {event : Event} (follows : Follows path around s)
    (step : Accepts s event next) : Follows path (openAfter around event) next := by
  have file := follows.file
  have moved := path_step step
  cases step with
  | deeper d skipping => exact follows.deeper skipping
  | foreign d reading elsewhere => exact follows.pass reading (.inl (file ▸ elsewhere))
  | record d reading own kind =>
    obtain ⟨frames, depth⟩ := frames_enterRecord s d
    refine follows.push reading ?_ moved (depth.trans reading) ?_
    · exact not_passedOver (own.trans file) (by simp [kind, DeclKind.isFunctionKind])
    · simp [State.push, frames, frameOf, kind]
  | field d reading own kind =>
    exact follows.push_plain reading own (.inl kind) (enterField_outline s d)
  | parameter d reading own kind =>
    exact follows.push_plain reading own (.inr (.inl kind)) (enterParameter_outline s d)
  | global d reading own kind =>
    exact follows.push_plain reading own (.inr (.inr kind)) (enterVariable_outline s d)
  | passOver d reading own kind alone bare => exact follows.pass reading (.inr ⟨kind, bare⟩)
  | function d reading own kind alone annotated =>
    refine follows.push reading (not_passedOver (own.trans file) fun _ => annotated) moved reading ?_
    rw [frameOf_functionKind kind]; rfl
  | shallower d skipping => exact follows.shallower skipping
  | endPlain d outer reading top => exact follows.pop reading top moved reading rfl
  | endClass d outer reading top => exact follows.pop reading top moved reading rfl
  | endMethod d outer f functions reading top current =>
    have same := storeMethod_outline
      ({ s with frames := outer, functionStack := functions } : State) f d
    exact follows.pop reading top moved (same.skipDepth.trans reading) same.frames
  | endFunction d outer f functions reading top current =>
    exact follows.pop reading top moved reading rfl

theorem frameOf_isFunction :
    (frameOf d = .method ∨ frameOf d = .function) ↔ d.kind.isFunctionKind = true := by
  cases kind : d.kind <;> simp [frameOf, kind, DeclKind.isFunctionKind]

theorem Follows.inFunction_iff (follows : Follows path around s) (agree : StacksAgree s)
    (reading : s.skipDepth = 0) (d : Declaration) :
    InFunction ⟨d, around⟩ ↔ s.functionStack ≠ [] := by
  obtain ⟨clear, frames⟩ := follows.reading reading
  have count := agree.functions
  have busy : s.functionStack ≠ [] ↔ .method ∈ s.frames ∨ .function ∈ s.frames := by
    rw [← List.count_pos_iff, ← List.count_pos_iff, ← List.length_pos_iff]
    omega
  rw [busy, frames, List.mem_map, List.mem_map, ← exists_or]
  constructor
  · rintro ⟨outer, member, kind, _⟩
    refine ⟨outer, ?_⟩
    rcases frameOf_isFunction.mpr kind with frame | frame
    · exact .inl ⟨member, frame⟩
    · exact .inr ⟨member, frame⟩
  · rintro ⟨outer, ⟨member, frame⟩ | ⟨member, frame⟩⟩
    · have kind := frameOf_isFunction.mp (.inl frame)
      exact ⟨outer, member, kind, fun bare => clear outer member (.inr ⟨kind, bare⟩)⟩
    · have kind := frameOf_isFunction.mp (.inr frame)
      exact ⟨outer, member, kind, fun bare => clear outer member (.inr ⟨kind, bare⟩)⟩

end Follows

theorem functionKind_known {kind : DeclKind} (function : kind.isFunctionKind = true) :
    kind ∈ DeclKind.known := by
  cases kind <;> simp [DeclKind.isFunctionKind] at function <;> decide

theorem accepts_enter_iff (s : State) (d : Declaration) :
    (∃ next, Accepts s (.enter d) next) ↔
      (s.skipDepth = 0 → d.file = s.path →
        d.kind ∈ DeclKind.known ∧ (d.kind.isFunctionKind = true → s.functionStack = [])) := by
  constructor
  · rintro ⟨next, step⟩ reading own
    cases step with
    | deeper d skipping => omega
    | foreign d _ elsewhere => exact absurd own elsewhere
    | record d _ _ kind => simp [kind, DeclKind.known, DeclKind.isFunctionKind]
    | field d _ _ kind => simp [kind, DeclKind.known, DeclKind.isFunctionKind]
    | parameter d _ _ kind => simp [kind, DeclKind.known, DeclKind.isFunctionKind]
    | global d _ _ kind => simp [kind, DeclKind.known, DeclKind.isFunctionKind]
    | passOver d _ _ kind alone _ => exact ⟨functionKind_known kind, fun _ => alone⟩
    | function d _ _ kind alone _ => exact ⟨functionKind_known kind, fun _ => alone⟩
  · intro fits
    by_cases skipping : 0 < s.skipDepth
    · exact ⟨_, .deeper d skipping⟩
    have reading : s.skipDepth = 0 := by omega
    by_cases own : d.file = s.path
    · obtain ⟨known, alone⟩ := fits reading own
      have function (kind : d.kind.isFunctionKind = true) : ∃ next, Accepts s (.enter d) next := by
        by_cases bare : attached d = []
        · exact ⟨_, .passOver d reading own kind (alone kind) bare⟩
        · exact ⟨_, .function d reading own kind (alone kind) bare⟩
      cases kind : d.kind with
      | record => exact ⟨_, .record d reading own kind⟩
      | field => exact ⟨_, .field d reading own kind⟩
      | parameter => exact ⟨_, .parameter d reading own kind⟩
      | «variable» => exact ⟨_, .global d reading own kind⟩
      | method => exact function (by rw [kind]; rfl)
      | constructor => exact function (by rw [kind]; rfl)
      | function => exact function (by rw [kind]; rfl)
      | unknown name => simp [kind, DeclKind.known] at known
    · exact ⟨_, .foreign d reading own⟩

theorem accepts_exit_iff {s : State} (agree : StacksAgree s) (d : Declaration) :
    (∃ next, Accepts s (.exit d) next) ↔ s.openCount ≠ 0 := by
  constructor
  · rintro ⟨next, step⟩
    have one := openCount_step step
    change next.openCount + 1 = s.openCount at one
    omega
  · intro busy
    by_cases skipping : 0 < s.skipDepth
    · exact ⟨_, .shallower d skipping⟩
    have reading : s.skipDepth = 0 := by omega
    have ready := agree.ready
    cases top : s.frames with
    | nil => simp [State.openCount, top, reading] at busy
    | cons frame outer =>
      cases frame with
      | plain => exact ⟨_, .endPlain d outer reading top⟩
      | classBody => exact ⟨_, .endClass d outer reading top⟩
      | method =>
        have there := ready.method_there (by rw [top]; rfl)
        obtain ⟨f, functions, current⟩ := List.exists_cons_of_ne_nil there
        exact ⟨_, .endMethod d outer f functions reading top current⟩
      | function =>
        have there := ready.function_there (by rw [top]; rfl)
        obtain ⟨f, functions, current⟩ := List.exists_cons_of_ne_nil there
        exact ⟨_, .endFunction d outer f functions reading top current⟩

theorem accepts_iff {path : Path} {around : List Declaration} {s : State} (agree : StacksAgree s)
    (follows : Follows path around s) (event : Event) :
    (∃ next, Accepts s event next) ↔ ¬ Misfit path around event := by
  cases event with
  | exit d =>
    rw [accepts_exit_iff agree, ← follows.length]
    simp [Misfit]
  | enter d =>
    rw [accepts_enter_iff, follows.file, Misfit, Offends, Read]
    by_cases reading : s.skipDepth = 0
    · have clear := (follows.reading reading).1
      have busy := follows.inFunction_iff agree reading d
      constructor
      · rintro fits ⟨⟨own, _⟩, unknown | ⟨function, inside⟩⟩
        · exact unknown (fits reading own).1
        · exact busy.mp inside ((fits reading own).2 function)
      · intro fits _ own
        have read : d.file = path ∧ ∀ outer ∈ around, ¬ PassedOver path outer := ⟨own, clear⟩
        refine ⟨Classical.byContradiction fun unknown => fits ⟨read, .inl unknown⟩, ?_⟩
        intro function
        exact Classical.byContradiction fun inside =>
          fits ⟨read, .inr ⟨function, busy.mpr inside⟩⟩
    · obtain ⟨outer, member, passed⟩ := follows.skipping (Nat.pos_of_ne_zero reading)
      constructor
      · rintro _ ⟨⟨_, clear⟩, _⟩
        exact clear outer member passed
      · intro _ idle
        exact absurd idle reading

end DeclGen.Scope
