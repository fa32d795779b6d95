import DeclGen.Generation
import DeclGen.Proofs.Scope.Endings

/-!
A run over many inputs is made of independent parts. An input that cannot be parsed adds one entry to
the report and nothing else, however far its stream got; the state is what the dispatched units make
of it, one after the other. Two runs in a row are one run over both lists of inputs.

Only faults that do not end the whole run are considered: a source may stop with such a fault after
any number of events.
-/
namespace DeclGen

def DeclarationSource.Recoverable (source : DeclarationSource) : Prop :=
  ∀ path fault, (source path).fault = some fault → fault.isFatal = false

section Parse

variable {source : DeclarationSource} {path : Path} {unit : SourceUnit} {failure : ParseFailure}

/-- What is made of an input: a fault counts only after all events before it were taken. -/
theorem parseUnit_eq :
    (parseUnit source path).2 =
      match (Scope.State.initial path).run (source path).events, (source path).fault with
      | (_, some error), _ => .error (.scope error)
      | (_, none), some fault => .error (.source fault)
      | (last, none), none => last.finish.mapError .scope := by
  unfold parseUnit
  cases ran : (Scope.State.initial path).run (source path).events with
  | mk last error =>
    cases faulty : (source path).fault <;> cases error <;> simp only [ran, faulty]
    cases last.finish with
    | error error => rfl
    | ok unit =>
      simp only
      split <;> rfl

theorem parseUnit_ok_iff :
    (parseUnit source path).2 = .ok unit ↔
      (source path).fault = none ∧ Scope.track path (source path).events = .ok unit := by
  rw [parseUnit_eq, Scope.track]
  cases (Scope.State.initial path).run (source path).events with
  | mk last error =>
    cases error with
    | some error => simp
    | none =>
      cases (source path).fault with
      | some fault => simp
      | none =>
        simp only [true_and]
        cases last.finish with
        | error error =>
          change (Except.error (.scope error) : Except ParseFailure SourceUnit) = .ok unit ↔ _
          simp
        | ok finished =>
          change (Except.ok finished : Except ParseFailure SourceUnit) = .ok unit ↔ _
          simp

theorem not_fatal (recoverable : source.Recoverable)
    (failed : (parseUnit source path).2 = .error failure) : failure.isFatal = false := by
  rw [parseUnit_eq] at failed
  split at failed
  · obtain rfl := Except.error.inj failed
    rfl
  · next fault _ faulty =>
    obtain rfl := Except.error.inj failed
    exact recoverable path fault faulty
  · next last _ _ =>
    cases ended : last.finish with
    | ok unit =>
      rw [ended] at failed
      cases failed
    | error error =>
      rw [ended] at failed
      obtain rfl := Except.error.inj failed
      rfl

end Parse

def unit? (source : DeclarationSource) (path : Path) : Option SourceUnit :=
  (parseUnit source path).2.toOption

def failure? (source : DeclarationSource) (path : Path) : Option (Path × ParseFailure) :=
  match (parseUnit source path).2 with
  | .ok _ => none
  | .error failure => some (path, failure)

def parses (source : DeclarationSource) (path : Path) : Bool := (unit? source path).isSome

def Report.append (first second : Report) : Report where
  units := first.units ++ second.units
  dispatched := first.dispatched + second.dispatched
  failed := first.failed ++ second.failed

def dispatchAll {σ : Type} (handlers : HandlerSet (Handler σ)) (units : List SourceUnit) (state : σ) :
    σ :=
  (units.filter fun unit => !unit.isEmpty).foldl (fun s unit => dispatch handlers unit s) state

/-- What a report says about the inputs: which were parsed into what, which failed and why, each in
the order of the inputs and none left out or listed twice. -/
structure Accounts (source : DeclarationSource) (inputs : List Path) (report : Report) : Prop where
  units : report.units = inputs.filterMap (unit? source)
  parsed : report.units.map SourceUnit.path = inputs.filter (parses source)
  failures : report.failed = inputs.filterMap (failure? source)
  failed : report.failed.map Prod.fst = inputs.filter fun path => !parses source path
  complete : report.units.length + report.failed.length = inputs.length
  dispatched : report.dispatched = report.units.countP fun unit => !unit.isEmpty

theorem Accounts.append {source : DeclarationSource} {inputs more : List Path} {first second : Report}
    (left : Accounts source inputs first) (right : Accounts source more second) :
    Accounts source (inputs ++ more) (first.append second) where
  units := by rw [List.filterMap_append, ← left.units, ← right.units, Report.append]
  parsed := by rw [List.filter_append, ← left.parsed, ← right.parsed, Report.append, List.map_append]
  failures := by rw [List.filterMap_append, ← left.failures, ← right.failures, Report.append]
  failed := by rw [List.filter_append, ← left.failed, ← right.failed, Report.append, List.map_append]
  complete := by
    have leftAll := left.complete
    have rightAll := right.complete
    simp only [Report.append, List.length_append]
    omega
  dispatched := by
    simp only [Report.append, List.countP_append, left.dispatched, right.dispatched]

namespace Run

variable {σ : Type} {handlers : HandlerSet (Handler σ)} {source : DeclarationSource}

/-- One run after the other, with all that both of them noted. -/
def followedBy (first second : Run σ) : Run σ :=
  ⟨second.state, first.report.append second.report, first.notices ++ second.notices, second.fatal⟩

theorem followedBy_assoc (first second third : Run σ) :
    (first.followedBy second).followedBy third = first.followedBy (second.followedBy third) := by
  simp [followedBy, Report.append, Nat.add_assoc]

theorem process_fatal (recoverable : source.Recoverable) (run : Run σ) (path : Path) :
    (run.process handlers source path).fatal = run.fatal := by
  unfold process
  cases parsed : (parseUnit source path).2 with
  | ok unit =>
    simp only [parsed, accept]
    split <;> rfl
  | error failure => simp [parsed, reject, not_fatal recoverable parsed]

theorem processAll_eq_foldl (recoverable : source.Recoverable) {run : Run σ}
    (going : run.fatal = none) (inputs : List Path) :
    run.processAll handlers source inputs = inputs.foldl (process handlers source) run := by
  induction inputs generalizing run with
  | nil => rfl
  | cons path rest ih =>
    have goes : (run.process handlers source path).fatal = none :=
      (process_fatal recoverable run path).trans going
    rw [processAll, List.foldl_cons, goes]
    exact ih goes

theorem process_eq_followedBy {run : Run σ} (going : run.fatal = none) (path : Path) :
    run.process handlers source path =
      run.followedBy ((start run.state).process handlers source path) := by
  obtain ⟨state, report, notices, fatal⟩ := run
  obtain rfl : fatal = none := going
  unfold process
  cases parsed : (parseUnit source path).2 with
  | ok unit =>
    simp only [parsed, accept, start, followedBy, Report.append]
    split <;> simp
  | error failure =>
    simp only [parsed, reject, start, followedBy, Report.append]
    split <;> simp

theorem foldl_eq_followedBy (recoverable : source.Recoverable) {run : Run σ}
    (going : run.fatal = none) (inputs : List Path) :
    inputs.foldl (process handlers source) run =
      run.followedBy (inputs.foldl (process handlers source) (start run.state)) := by
  induction inputs generalizing run with
  | nil =>
    obtain ⟨state, report, notices, fatal⟩ := run
    obtain rfl : fatal = none := going
    simp [followedBy, start, Report.append]
  | cons path rest ih =>
    -- The first input is a run of its own, and so is the rest after it.
    let one := (start run.state).process handlers source path
    have oneGoes : one.fatal = none := process_fatal recoverable (start run.state) path
    have together : run.process handlers source path = run.followedBy one :=
      process_eq_followedBy going path
    have goes : (run.followedBy one).fatal = none := oneGoes
    rw [List.foldl_cons, List.foldl_cons, together, ih goes, ih oneGoes]
    exact followedBy_assoc run one _

end Run

section Generation

variable {σ : Type} (handlers : HandlerSet (Handler σ)) {source : DeclarationSource}

theorem runGeneration_eq_foldl (recoverable : source.Recoverable) (inputs : List Path) (state : σ) :
    runGeneration handlers source inputs state =
      inputs.foldl (Run.process handlers source) (.start state) :=
  Run.processAll_eq_foldl recoverable rfl inputs

theorem runGeneration_fatal (recoverable : source.Recoverable) (inputs : List Path) (state : σ) :
    (runGeneration handlers source inputs state).fatal = none := by
  rw [runGeneration_eq_foldl handlers recoverable]
  refine List.foldlRecOn (motive := fun run : Run σ => run.fatal = none) inputs _ rfl ?_
  intro run going path _
  exact (Run.process_fatal recoverable run path).trans going

theorem runGeneration_append (recoverable : source.Recoverable) (inputs more : List Path)
    (state : σ) :
    let first := runGeneration handlers source inputs state
    runGeneration handlers source (inputs ++ more) state =
      first.followedBy (runGeneration handlers source more first.state) := by
  intro first
  have going : first.fatal = none := runGeneration_fatal handlers recoverable inputs state
  have begun : first = inputs.foldl (Run.process handlers source) (.start state) :=
    runGeneration_eq_foldl handlers recoverable inputs state
  rw [runGeneration_eq_foldl handlers recoverable, runGeneration_eq_foldl handlers recoverable,
    List.foldl_append, ← begun]
  exact Run.foldl_eq_followedBy recoverable going more

theorem dispatchAll_append (units more : List SourceUnit) (state : σ) :
    dispatchAll handlers (units ++ more) state =
      dispatchAll handlers more (dispatchAll handlers units state) := by
  simp [dispatchAll]

/-- A run says in its report what it did with each input and to the state. -/
def Faithful (source : DeclarationSource) (inputs : List Path) (state : σ) (run : Run σ) : Prop :=
  Accounts source inputs run.report ∧ run.state = dispatchAll handlers run.report.units state

theorem faithful_single (recoverable : source.Recoverable) (path : Path) (state : σ) :
    Faithful handlers source [path] state (runGeneration handlers source [path] state) := by
  have processed : runGeneration handlers source [path] state =
      (Run.start state).process handlers source path :=
    runGeneration_eq_foldl handlers recoverable [path] state
  rw [processed, Run.process]
  cases parsed : (parseUnit source path).2 with
  | ok unit =>
    have unit_eq : unit? source path = some unit := by simp [unit?, parsed, Except.toOption]
    have failure_eq : failure? source path = none := by simp [failure?, parsed]
    have named : unit.path = path := Scope.path_of_track (parseUnit_ok_iff.mp parsed).2
    have accounts : ∀ dispatched, dispatched = [unit].countP (fun unit => !unit.isEmpty) →
        Accounts source [path] ⟨[unit], dispatched, []⟩ := fun dispatched counted =>
      { units := by simp [unit_eq]
        parsed := by simp [parses, unit_eq, named]
        failures := by simp [failure_eq]
        failed := by simp [parses, unit_eq]
        complete := rfl
        dispatched := counted }
    simp only [parsed, Run.accept, Run.start, Faithful]
    split
    · next empty => exact ⟨accounts 0 (by simp [empty]), by simp [dispatchAll, empty]⟩
    · next full => exact ⟨accounts 1 (by simp [full]), by simp [dispatchAll, full]⟩
  | error failure =>
    have unit_eq : unit? source path = none := by simp [unit?, parsed, Except.toOption]
    have failure_eq : failure? source path = some (path, failure) := by simp [failure?, parsed]
    have passed : failure.isFatal = false := not_fatal recoverable parsed
    simp only [parsed, Run.reject, passed, Bool.false_eq_true, if_false, Run.start]
    exact ⟨{
      units := by simp [unit_eq]
      parsed := by simp [parses, unit_eq]
      failures := by simp [failure_eq]
      failed := by simp [parses, unit_eq]
      complete := rfl
      dispatched := rfl }, rfl⟩

theorem Faithful.append {inputs more : List Path} {state : σ} {first second : Run σ}
    (left : Faithful handlers source inputs state first)
    (right : Faithful handlers source more first.state second) :
    Faithful handlers source (inputs ++ more) state (first.followedBy second) := by
  refine ⟨left.1.append right.1, ?_⟩
  calc second.state = dispatchAll handlers second.report.units first.state := right.2
    _ = dispatchAll handlers second.report.units
          (dispatchAll handlers first.report.units state) := by rw [← left.2]
    _ = dispatchAll handlers (first.report.units ++ second.report.units) state :=
        (dispatchAll_append handlers _ _ state).symm

theorem faithful_runGeneration (recoverable : source.Recoverable) (inputs : List Path) (state : σ) :
    Faithful handlers source inputs state (runGeneration handlers source inputs state) := by
  induction inputs generalizing state with
  | nil => exact ⟨⟨rfl, rfl, rfl, rfl, rfl, rfl⟩, rfl⟩
  | cons path rest ih =>
    have divided := runGeneration_append handlers recoverable [path] rest state
    rw [List.singleton_append] at divided
    rw [divided]
    exact (faithful_single handlers recoverable path state).append handlers (ih _)

theorem filterMap_unit?_filter (inputs : List Path) :
    (inputs.filter (parses source)).filterMap (unit? source) = inputs.filterMap (unit? source) := by
  rw [List.filterMap_filter]
  congr 1
  funext path
  cases found : unit? source path <;> simp [parses, found]

/-- An input that fails leaves the state as if it had not been given; the report accounts for every
input once, in order; and a run over two lists is a run over the second after one over the first. -/
theorem runGeneration_isolates_failures (recoverable : source.Recoverable) (inputs : List Path)
    (state : σ) :
    let run := runGeneration handlers source inputs state
    run.fatal = none ∧
      run.state = (runGeneration handlers source (inputs.filter (parses source)) state).state ∧
      run.state = dispatchAll handlers run.report.units state ∧
      Accounts source inputs run.report ∧
      ∀ more, runGeneration handlers source (inputs ++ more) state =
        run.followedBy (runGeneration handlers source more run.state) := by
  intro run
  obtain ⟨accounts, reached⟩ := faithful_runGeneration handlers recoverable inputs state
  obtain ⟨fewer, reachedByFewer⟩ :=
    faithful_runGeneration handlers recoverable (inputs.filter (parses source)) state
  refine ⟨runGeneration_fatal handlers recoverable inputs state, ?_, reached, accounts,
    fun more => runGeneration_append handlers recoverable inputs more state⟩
  rw [reachedByFewer, fewer.units, filterMap_unit?_filter, ← accounts.units]
  exact reached

end Generation

namespace Sample

def path (name : String) : Path := Path.ofText name.text

/-- One annotated function in every file; in the folder `lost` a fault comes after it. -/
def source : DeclarationSource := fun file =>
  let d := Scope.Sample.declaration .function "f" "CGFUNCTION()" file
  let fault := SourceError.reported "cannot read".text false
  ⟨[.enter d, .exit d], if file.parent = path "lost" then some fault else none⟩

def counting : HandlerSet (Handler Nat) where
  name := "counting".text
  handlersFor := fun
    | .function => [fun _ count => count + 1]
    | _ => []

def inputs : List Path := ["a.h", "lost/b.h", "c.h"].map path

end Sample

theorem runGeneration_isolates_failures_sample :
    let run := runGeneration Sample.counting Sample.source Sample.inputs 5
    Sample.source.Recoverable ∧ run.state = 7 ∧
      run.report.units.map SourceUnit.path = ["a.h", "c.h"].map Sample.path ∧
      run.report.failed.map Prod.fst = [Sample.path "lost/b.h"] := by
  intro run
  have recoverable : Sample.source.Recoverable := by
    intro file fault faulty
    simp only [Sample.source] at faulty
    split at faulty
    · rw [← Option.some.inj faulty]
      rfl
    · cases faulty
  have kept : Sample.inputs.filter (parses Sample.source) = ["a.h", "c.h"].map Sample.path := by
    decide +kernel
  obtain ⟨_, same, _, accounts, _⟩ :=
    runGeneration_isolates_failures Sample.counting recoverable Sample.inputs 5
  refine ⟨recoverable, ?_, accounts.parsed.trans kept, accounts.failed.trans ?_⟩
  · rw [same, kept]
    decide +kernel
  · decide +kernel

end DeclGen
