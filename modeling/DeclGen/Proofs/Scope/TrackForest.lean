import DeclGen.Proofs.Scope.ForestUnit

/-!
The tracker delivers the unit that the nodes of a forest describe. The induction is over the forest;
what is carried along is that everything around the part counts and is numbered before it.
-/
namespace DeclGen.Scope

/-- No function that counts lies inside another function, annotated or not. -/
def Unnested (path : Path) (nodes : List Occurrence) : Prop :=
  ∀ o ∈ nodes, Live path o → o.decl.kind.isFunctionKind = true →
    ∀ p ∈ o.around, p.decl.kind.isFunctionKind = false

instance (path : Path) (nodes : List Occurrence) : Decidable (Unnested path nodes) :=
  inferInstanceAs (Decidable (∀ o ∈ nodes, _))

def KnownKinds (nodes : List Occurrence) : Prop := ∀ o ∈ nodes, o.decl.kind ∈ DeclKind.known

instance (nodes : List Occurrence) : Decidable (KnownKinds nodes) :=
  inferInstanceAs (Decidable (∀ o ∈ nodes, _))

theorem Clear.cons {path : Path} {around : List Placed} {d : Declaration} (clear : Clear path around)
    (own : d.file = path) (directive : d.kind.isFunctionKind = true → attached d ≠ [])
    (number : Nat) : Clear path (⟨number, d⟩ :: around) := by
  refine ⟨?_, ?_⟩
  · intro p member
    rcases List.mem_cons.mp member with rfl | outer
    · exact own
    · exact clear.1 p outer
  · intro p member
    rcases List.mem_cons.mp member with rfl | outer
    · exact directive
    · exact clear.2 p outer

theorem bounds_cons {around : List Placed} {number : Nat} (d : Declaration)
    (bounds : ∀ p ∈ around, p.number < number) : ∀ p ∈ ⟨number, d⟩ :: around, p.number < number + 1 := by
  intro p member
  rcases List.mem_cons.mp member with rfl | outer
  · exact Nat.lt_succ_self number
  · exact Nat.lt_succ_of_lt (bounds p outer)

theorem around_subset {around : List Placed} {first : Nat} {forest : List DeclTree} {o : Occurrence}
    (member : o ∈ outlineFrom around first forest) : ∀ p ∈ around, p ∈ o.around := by
  intro p outer
  obtain ⟨inner, parts, _⟩ := (outlineFrom_lies around first forest o member).inner
  rw [parts]
  exact List.mem_append_right inner outer

theorem describes_passed_over {path : Path} {around : List Placed} {whole : List Occurrence}
    {first : Nat} {d : Declaration} {children : List DeclTree}
    (kind : d.kind.isFunctionKind = true) (bare : attached d = []) :
    Describes path around whole
      ([⟨⟨first, d⟩, around⟩] ++ outlineFrom (⟨first, d⟩ :: around) (first + 1) children) {} := by
  refine describes_nothing ?_
  intro o member live
  rcases List.mem_cons.mp member with rfl | inside
  · refine ⟨bare, fun parameter => ?_⟩
    have same : d.kind = .parameter := parameter
    rw [same] at kind
    exact Bool.noConfusion kind
  · have outer := around_subset inside _ List.mem_cons_self
    exact absurd bare (live.2 _ outer kind)

theorem flat_extent {path : Path} {around : List Placed} {first : Nat} {d : Declaration}
    {children : List DeclTree}
    (unnested : Unnested path
      (⟨⟨first, d⟩, around⟩ :: outlineFrom (⟨first, d⟩ :: around) (first + 1) children))
    (kind : d.kind.isFunctionKind = true) :
    ∀ o ∈ outlineFrom (⟨first, d⟩ :: around) (first + 1) children, Live path o →
      o.decl.kind.isFunctionKind = false := by
  intro o inside live
  cases nested : o.decl.kind.isFunctionKind with
  | false => rfl
  | true =>
    have outer := around_subset inside _ List.mem_cons_self
    have plain := unnested o (List.mem_cons_of_mem _ inside) live nested _ outer
    exact kind.symm.trans plain

theorem separate_siblings {around : List Placed} {first : Nat}
    (bounds : ∀ p ∈ around, p.number < first) (tree : DeclTree) (rest : List DeclTree) :
    Separate (outlineTree around first tree)
        (outlineFrom around (first + (outlineTree around first tree).length) rest) ∧
      Separate (outlineFrom around (first + (outlineTree around first tree).length) rest)
        (outlineTree around first tree) := by
  have left := outlineTree_lies around first tree
  have right := outlineFrom_lies around (first + (outlineTree around first tree).length) rest
  constructor
  · intro o member _ other inside outer
    have number := (left o member).number
    obtain ⟨inner, parts, range⟩ := (right other inside).inner
    rw [parts] at outer
    rcases List.mem_append.mp outer with near | far
    · have := range _ near
      omega
    · have := bounds _ far
      omega
  · intro o member _ other inside outer
    have number := (right o member).number
    obtain ⟨inner, parts, range⟩ := (left other inside).inner
    rw [parts] at outer
    rcases List.mem_append.mp outer with near | far
    · have := range _ near
      omega
    · have := bounds _ far
      omega

mutual

theorem describes_tree {path : Path} {around : List Placed} {first : Nat} (clear : Clear path around)
    (bounds : ∀ p ∈ around, p.number < first) :
    (tree : DeclTree) → KnownKinds (outlineTree around first tree) →
      Unnested path (outlineTree around first tree) →
      Describes path around (outlineTree around first tree) (outlineTree around first tree)
        (meaning path tree)
  | .node d children => by
    intro known unnested
    rw [outlineTree] at known unnested ⊢
    rw [meaning, Yield.ofDeclaration]
    have lies := outlineFrom_lies (⟨first, d⟩ :: around) (first + 1) children
    by_cases own : d.file = path
    · rw [if_neg (not_not_intro own)]
      -- inside a function without a directive nothing counts, so its extent is never read
      have extent (directive : d.kind.isFunctionKind = true → attached d ≠ []) :
          Describes path (⟨first, d⟩ :: around)
            ([⟨⟨first, d⟩, around⟩] ++ outlineFrom (⟨first, d⟩ :: around) (first + 1) children)
            (outlineFrom (⟨first, d⟩ :: around) (first + 1) children) (meaningOf path children) := by
        have part := describes_forest (clear.cons own directive first) (bounds_cons d bounds) children
          (fun o member => known o (List.mem_cons_of_mem _ member))
          (fun o member => unnested o (List.mem_cons_of_mem _ member))
        have wide := part.widen [⟨⟨first, d⟩, around⟩] [] (separate_below bounds lies) (separate_nil _)
        rwa [List.append_nil] at wide
      have function (kind : d.kind.isFunctionKind = true) :
          Describes path around
            ([⟨⟨first, d⟩, around⟩] ++ outlineFrom (⟨first, d⟩ :: around) (first + 1) children)
            ([⟨⟨first, d⟩, around⟩] ++ outlineFrom (⟨first, d⟩ :: around) (first + 1) children)
            (.ofFunction path d (meaningOf path children)) := by
        by_cases bare : attached d = []
        · rw [Yield.ofFunction, if_pos bare]
          exact describes_passed_over kind bare
        · exact describes_function clear own kind bare bounds lies (flat_extent unnested kind)
            (extent fun _ => bare)
      have plain (kind : d.kind.isFunctionKind = false) :=
        extent fun function => absurd (kind.symm.trans function) Bool.false_ne_true
      cases kind : d.kind with
      | record => exact describes_record clear own kind bounds lies (plain (by rw [kind]; rfl))
      | field => exact describes_plain clear own (.inl kind) (plain (by rw [kind]; rfl))
      | «variable» => exact describes_plain clear own (.inr (.inl kind)) (plain (by rw [kind]; rfl))
      | parameter => exact describes_plain clear own (.inr (.inr kind)) (plain (by rw [kind]; rfl))
      | method => exact function (by rw [kind]; rfl)
      | constructor => exact function (by rw [kind]; rfl)
      | function => exact function (by rw [kind]; rfl)
      | unknown name =>
        have listed := known _ List.mem_cons_self
        simp [Occurrence.decl, kind, DeclKind.known] at listed
    · rw [if_pos own]
      refine describes_nothing ?_
      intro o member live
      rcases List.mem_cons.mp member with rfl | inside
      · exact absurd ((live_iff clear).mp live) own
      · have outer := around_subset inside _ List.mem_cons_self
        exact absurd (live.1 _ (List.mem_cons_of_mem _ outer)) own

theorem describes_forest {path : Path} {around : List Placed} {first : Nat}
    (clear : Clear path around) (bounds : ∀ p ∈ around, p.number < first) :
    (forest : List DeclTree) → KnownKinds (outlineFrom around first forest) →
      Unnested path (outlineFrom around first forest) →
      Describes path around (outlineFrom around first forest) (outlineFrom around first forest)
        (meaningOf path forest)
  | [], _, _ => describes_nothing (by simp [outlineFrom])
  | tree :: rest, known, unnested => by
    rw [outlineFrom] at known unnested ⊢
    have front := describes_tree clear bounds tree
      (fun o member => known o (List.mem_append_left _ member))
      (fun o member => unnested o (List.mem_append_left _ member))
    have back := describes_forest clear (fun p outer => Nat.lt_add_right _ (bounds p outer)) rest
      (fun o member => known o (List.mem_append_right _ member))
      (fun o member => unnested o (List.mem_append_right _ member))
    have separate := separate_siblings bounds tree rest
    have frontWide := front.widen [] _ (separate_nil _) separate.1
    have backWide := back.widen _ [] separate.2 (separate_nil _)
    rw [List.nil_append] at frontWide
    rw [List.append_nil] at backWide
    exact frontWide.append backWide

end

mutual

theorem fits_tree {path : Path} {around : List Placed} {first : Nat} (clear : Clear path around) :
    (tree : DeclTree) → KnownKinds (outlineTree around first tree) →
      Unnested path (outlineTree around first tree) →
      Fits path (around.any fun p => p.decl.kind.isFunctionKind) tree
  | .node d children => by
    intro known unnested own
    rw [outlineTree] at known unnested
    have extent (directive : d.kind.isFunctionKind = true → attached d ≠ []) :=
      fits_forest (clear.cons own directive first) children
        (fun o member => known o (List.mem_cons_of_mem _ member))
        (fun o member => unnested o (List.mem_cons_of_mem _ member))
    split
    · next kind =>
      refine ⟨?_, ?_⟩
      · have outer := unnested _ List.mem_cons_self ((live_iff clear).mpr own) kind
        simpa using outer
      · intro annotated
        simpa [kind] using extent fun _ => annotated
    · next kind =>
      have plain : d.kind.isFunctionKind = false := eq_false_of_ne_true kind
      refine ⟨known _ List.mem_cons_self, ?_⟩
      simpa [plain] using extent fun function => absurd function kind

theorem fits_forest {path : Path} {around : List Placed} {first : Nat} (clear : Clear path around) :
    (forest : List DeclTree) → KnownKinds (outlineFrom around first forest) →
      Unnested path (outlineFrom around first forest) →
      FitsAll path (around.any fun p => p.decl.kind.isFunctionKind) forest
  | [], _, _ => trivial
  | tree :: rest, known, unnested => by
    rw [outlineFrom] at known unnested
    exact ⟨fits_tree clear tree (fun o member => known o (List.mem_append_left _ member))
        (fun o member => unnested o (List.mem_append_left _ member)),
      fits_forest clear rest (fun o member => known o (List.mem_append_right _ member))
        (fun o member => unnested o (List.mem_append_right _ member))⟩

end

theorem unitOf_eq_describedUnit {path : Path} {nodes : List Occurrence} {y : Yield}
    (described : Describes path [] nodes nodes y) : unitOf path y = describedUnit path nodes := by
  obtain ⟨_, _, parameters, classes, functions, globals, lost⟩ := described
  have outside : (parametersOf path none nodes).length = y.parameters.length :=
    congrArg List.length parameters
  have unattributed : (unowned path nodes).length =
      y.lost + (y.members.length + y.methods.length) := lost
  rw [unitOf, describedUnit, classes, functions, globals, outside, unattributed]

theorem clear_nil (path : Path) : Clear path [] := ⟨by simp, by simp⟩

theorem fits_outline {path : Path} {forest : Forest} (known : KnownKinds forest.outline)
    (unnested : Unnested path forest.outline) : FitsAll path false forest :=
  fits_forest (clear_nil path) forest known unnested

theorem unitOf_meaningOf {path : Path} {forest : Forest} (known : KnownKinds forest.outline)
    (unnested : Unnested path forest.outline) :
    unitOf path (meaningOf path forest) = describedUnit path forest.outline :=
  unitOf_eq_describedUnit (describes_forest (clear_nil path) (by simp) forest known unnested)

/-- The tracker gets through every forest of known kinds in which no function that counts lies inside
a function, and the unit is the one that the nodes describe. -/
theorem track_described_unit (path : Path) (forest : Forest) (known : KnownKinds forest.outline)
    (unnested : Unnested path forest.outline) :
    track path forest.events = .ok (describedUnit path forest.outline) := by
  rw [track_of_fits (fits_outline known unnested), unitOf_meaningOf known unnested]

/-- A class with a member, a class without a directive, a method around a class of its own, and two
functions that are passed over with the functions inside them. -/
def Sample.forest : Forest :=
  [.node (declaration .record "Outer" "CGCLASS()")
    [.leaf (declaration .field "a" "CGMEMBER()"),
      .node (declaration .record "Plain" "") [.leaf (declaration .field "b" "CGMEMBER()")],
      .node (declaration .method "run" "CGMETHOD()")
        [.leaf (declaration .parameter "x" ""),
          .node (declaration .record "Inner" "CGCLASS()") [.leaf (declaration .field "c" "CGMEMBER()")]],
      .node (declaration .method "bare" "") [.leaf (declaration .method "deep" "CGMETHOD()")]],
    .node (declaration .function "far" "CGFUNCTION()" (Path.ofText "far.h".text))
      [.leaf (declaration .function "deep" "CGFUNCTION()")]]

theorem track_described_unit_sample :
    KnownKinds Sample.forest.outline ∧ Unnested Path.here Sample.forest.outline ∧
      track Path.here Sample.forest.events = .ok (describedUnit Path.here Sample.forest.outline) ∧
      (describedUnit Path.here Sample.forest.outline).classes.map (fun c => c.name) =
        ["Outer".text, "Inner".text] := by
  have known : KnownKinds Sample.forest.outline := by decide +kernel
  have unnested : Unnested Path.here Sample.forest.outline := by decide +kernel
  exact ⟨known, unnested, track_described_unit Path.here Sample.forest known unnested,
    by decide +kernel⟩

end DeclGen.Scope
