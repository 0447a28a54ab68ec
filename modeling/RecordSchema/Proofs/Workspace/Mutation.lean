import RecordSchema.Proofs.Property.History
import RecordSchema.Proofs.Workspace.Action

/-!
# Changes of properties that fail

A change of a shared property that fails leaves everything as it was, with one exception: a rule
about siblings is attached before its token is built, and stays attached when a name among the
siblings is no text.
-/

namespace RecordSchema

/-! ## Edits that fail -/

namespace Facets

variable {facets : Facets} {error : Error}

private theorem addSiblingRule_of_failure {rule : List Value → ConditionalRule} {tokenName : String}
    {siblings : Value}
    (failed : (addSiblingRule rule tokenName facets siblings).failure = some error) :
    ((¬ ∃ names, siblingNames siblings = .ok names ∧
        ∀ texts : List String, names ≠ texts.map .text) →
      (addSiblingRule rule tokenName facets siblings).state = facets) ∧
    ∀ names, siblingNames siblings = .ok names →
      (addSiblingRule rule tokenName facets siblings).state =
        facets.addConditional (rule names) := by
  rcases addSiblingRule_cases rule tokenName facets siblings with
    ⟨error, unnamed, ended⟩ | ⟨names, error, named, noTexts, ended⟩ | ⟨names, _, ended⟩
  · rw [ended]
    refine ⟨fun _ => rfl, fun names named => ?_⟩
    cases unnamed.symm.trans named
  · rw [ended]
    refine ⟨fun none => absurd ⟨names, named, noTexts⟩ none, ?_⟩
    intro others alsoNamed
    cases named.symm.trans alsoNamed
    rfl
  · rw [ended] at failed
    cases failed

namespace Edit

/-- The rule that an edit leaves attached when it fails: one about siblings that are not all named
by texts. -/
def Leaves : Facets.Edit → ConditionalRule → Prop
  | .addRequiredWith siblings, rule =>
    ∃ names, siblingNames siblings = .ok names ∧ (∀ texts : List String, names ≠ texts.map .text) ∧
      rule = .requiredWith names
  | .addRequiredWithout siblings, rule =>
    ∃ names, siblingNames siblings = .ok names ∧ (∀ texts : List String, names ≠ texts.map .text) ∧
      rule = .requiredWithout names
  | _, _ => False

/-- An edit that fails leaves a rule attached and nothing else, or leaves nothing behind. -/
theorem state_of_failure {edit : Facets.Edit} (failed : (edit.apply facets).failure = some error) :
    ((∀ rule, ¬ edit.Leaves rule) → (edit.apply facets).state = facets) ∧
      ∀ rule, edit.Leaves rule → (edit.apply facets).state = facets.addConditional rule := by
  cases edit with
  | setName name => cases failed
  | setDescription description => cases failed
  | setDefault default => cases failed
  | setFormat format => cases failed
  | setMinimum bound => cases failed
  | setMaximum bound => cases failed
  | setReference reference => cases failed
  | setRequired required => cases failed
  | setNullable nullable => cases failed
  | addRequiredWith siblings =>
      obtain ⟨same, left⟩ := addSiblingRule_of_failure failed
      refine ⟨fun leaves => same ?_, ?_⟩
      · rintro ⟨names, named, noTexts⟩
        exact leaves _ ⟨names, named, noTexts, rfl⟩
      · rintro rule ⟨names, named, _, rfl⟩
        exact left names named
  | addRequiredWithout siblings =>
      obtain ⟨same, left⟩ := addSiblingRule_of_failure failed
      refine ⟨fun leaves => same ?_, ?_⟩
      · rintro ⟨names, named, noTexts⟩
        exact leaves _ ⟨names, named, noTexts, rfl⟩
      · rintro rule ⟨names, named, _, rfl⟩
        exact left names named
  | _ =>
      exact ⟨fun _ => Change.state_of_atomic_failure failed, fun _ => False.elim⟩

end Edit

private theorem addConditional_ne (facets : Facets) (rule : ConditionalRule) :
    facets.addConditional rule ≠ facets := by
  intro same
  have length := congrArg (fun held : Facets => held.conditionals.length) same
  simp [addConditional] at length

end Facets

namespace Workspace

variable {workspace after : Workspace} {number : Nat} {node : Node Nat} {error : Error}

/-! ## Changes of one property -/

/-- A change of a shared property. -/
inductive Mutation where
  | facets (edit : Facets.Edit)
  | addChild (child : Value)
  | setChildren (children : Value)
  | setItems (items : Value)
  | fillChildren (fill : Nat → Action Unit)

def fillCollection (number : Nat) (fill : Nat → Action Unit) : Action Nat := do
  checked ((← Workspace.node number).requirePrimary "object" .builderOnNonObject)
  let collection ← addCollection
  fill collection
  return collection

namespace Mutation

/-- Make a change of a property. -/
def perform (number : Nat) : Mutation → Action Unit
  | .facets edit => editFacets number fun facets => edit.apply facets
  | .addChild child => Workspace.addChild number child
  | .setChildren children => Workspace.setChildren number children
  | .setItems items => Workspace.setItems number items
  | .fillChildren fill => Workspace.fillChildren number fill

/-- The workspace that a change finds when it is its turn to write: the one that it was given, or
what has become of that while the collection was filled that children come from. -/
def begun (number : Nat) (workspace : Workspace) : Mutation → Workspace
  | .fillChildren fill => (outcome (fillCollection number fill) workspace).2
  | _ => workspace

/-- The rule that a change leaves attached when it fails. -/
def Leaves : Mutation → ConditionalRule → Prop
  | .facets edit, rule => edit.Leaves rule
  | _, _ => False

end Mutation

def withFacets (workspace : Workspace) (number : Nat) (node : Node Nat) (facets : Facets) :
    Workspace :=
  { workspace with nodes := workspace.nodes.setIfInBounds number (node.withFacets facets) }

private theorem withFacets_self (present : workspace.nodes[number]? = some node) :
    workspace.withFacets number node node.facets = workspace := by
  obtain ⟨inside, rfl⟩ := Array.getElem?_eq_some_iff.mp present
  have same : workspace.nodes.setIfInBounds number workspace.nodes[number] = workspace.nodes := by
    simp only [Array.setIfInBounds, dif_pos inside, Array.set_getElem_self]
  have whole : workspace.nodes[number].withFacets workspace.nodes[number].facets =
      workspace.nodes[number] := rfl
  rw [withFacets, whole, same]

private theorem withFacets_ne (present : workspace.nodes[number]? = some node) {facets : Facets}
    (changed : facets ≠ node.facets) : workspace.withFacets number node facets ≠ workspace := by
  intro same
  obtain ⟨inside, _⟩ := Array.getElem?_eq_some_iff.mp present
  have there : (workspace.withFacets number node facets).nodes[number]? =
      some (node.withFacets facets) := by
    simp [withFacets, inside]
  rw [same, present, Option.some.injEq] at there
  exact changed (congrArg Node.facets there).symm

theorem outcome_editFacets (present : workspace.nodes[number]? = some node)
    (edit : Facets → Change Facets) :
    outcome (editFacets number edit) workspace =
      ((match (edit node.facets).failure with | none => .ok () | some error => .error error),
        workspace.withFacets number node (edit node.facets).state) := by
  rw [editFacets, outcome_bind, outcome_node present]
  simp only [settle, outcome_bind, outcome_setNode]
  cases (edit node.facets).failure with
  | none =>
      rfl
  | some error =>
      rfl

private theorem editFacets_of_failure (present : workspace.nodes[number]? = some node)
    {edit : Facets → Change Facets}
    (failed : outcome (editFacets number edit) workspace = (.error error, after)) :
    (edit node.facets).failure = some error ∧
      workspace.withFacets number node (edit node.facets).state = after := by
  rw [outcome_editFacets present, Prod.mk.injEq] at failed
  obtain ⟨result, left⟩ := failed
  refine ⟨?_, left⟩
  split at result
  · cases result
  · next isFailure =>
      cases result
      exact isFailure

/-! ## Nesting that fails -/

private theorem failsClean_addChild (number : Nat) (child : Value) :
    FailsClean (addChild number child) := by
  refine (onlyReads_node number).failsClean_bind fun _ =>
    (onlyReads_checked _).failsClean_bind fun _ => ?_
  split
  · exact (onlyReads_node _).failsClean_bind fun _ => failsClean_editNode number _
  · exact (onlyReads_throw _).failsClean

private theorem failsClean_setChildren (number : Nat) (children : Value) :
    FailsClean (setChildren number children) :=
  (onlyReads_node number).failsClean_bind fun _ =>
    (onlyReads_checked _).failsClean_bind fun _ =>
      (onlyReads_offeredChildren children).failsClean_bind fun _ => failsClean_editNode number _

/-- Filling an object through a collection leaves nothing behind when it fails, but what filling the
collection has done. -/
theorem fillChildren_of_failure {fill : Nat → Action Unit}
    (failed : outcome (fillChildren number fill) workspace = (.error error, after)) :
    after = (outcome (fillCollection number fill) workspace).2 := by
  have split : fillChildren number fill = fillCollection number fill >>= fun collection =>
      members collection >>= fun present =>
        editNode number fun node => node.adoptChildren present := by
    simp only [fillChildren, fillCollection, bind_assoc, pure_bind]
  rw [split, outcome_bind_eq_error_iff] at failed
  rcases failed with filling | ⟨collection, filled, ran, failedLater⟩
  · rw [filling]
  · rw [ran]
    have clean := (onlyReads_members collection).failsClean_bind fun present =>
      failsClean_editNode number fun node => node.adoptChildren present
    exact clean filled error after failedLater

namespace Mutation

/-- A change of a property that fails leaves everything as it found it exactly if it leaves no rule
attached.  A rule that it does leave attached is all that it leaves behind. -/
theorem failure_iff {mutation : Mutation} (present : workspace.nodes[number]? = some node)
    (failed : outcome (mutation.perform number) workspace = (.error error, after)) :
    (after = mutation.begun number workspace ↔ ∀ rule, ¬ mutation.Leaves rule) ∧
      ∀ rule, mutation.Leaves rule →
        after = workspace.withFacets number node (node.facets.addConditional rule) := by
  cases mutation with
  | facets edit =>
      rw [perform] at failed
      obtain ⟨isFailure, rfl⟩ := editFacets_of_failure present failed
      obtain ⟨same, left⟩ := Facets.Edit.state_of_failure isFailure
      refine ⟨⟨fun unchanged rule leaves => ?_, fun none => ?_⟩, fun rule leaves => ?_⟩
      · rw [left rule leaves] at unchanged
        exact withFacets_ne present (node.facets.addConditional_ne rule) unchanged
      · rw [same none]
        exact withFacets_self present
      · rw [left rule leaves]
  | addChild child =>
      have same := failsClean_addChild number child workspace error after failed
      exact ⟨iff_of_true same fun _ => id, fun _ => False.elim⟩
  | setChildren children =>
      have same := failsClean_setChildren number children workspace error after failed
      exact ⟨iff_of_true same fun _ => id, fun _ => False.elim⟩
  | setItems items =>
      have same := failsClean_editNode number _ workspace error after failed
      exact ⟨iff_of_true same fun _ => id, fun _ => False.elim⟩
  | fillChildren fill =>
      have same := fillChildren_of_failure failed
      exact ⟨iff_of_true same fun _ => id, fun _ => False.elim⟩

/-- A workspace with a name in it and nothing else. -/
def lone : Workspace where
  nodes := #[{ facets := (Property.plain "string" "name").facets }]

/-- A value with a comma in its text is turned down before anything is attached. -/
theorem failure_iff_comma :
    lone.nodes[0]? = some { facets := (Property.plain "string" "name").facets } ∧
      ∃ error after,
        outcome (perform 0 (.facets (.addRequiredIf (.text "tags") (.text "a,b")))) lone =
          (.error error, after) ∧ after = lone := by
  have present : lone.nodes[0]? = some { facets := (Property.plain "string" "name").facets } := rfl
  have failed : outcome (perform 0 (.facets (.addRequiredIf (.text "tags") (.text "a,b")))) lone =
      (.error (.commaInValue "required_if" (.text "tags") "a,b"), lone) := rfl
  exact ⟨present, _, _, failed, (failure_iff present failed).1.mpr fun _ => id⟩

/-- A rule about siblings stays attached when one of them is named by a number. -/
theorem failure_attaches :
    ∃ after : Workspace,
      outcome (perform 0 (.facets (.addRequiredWith (.list [.text "mail", .int 5])))) lone =
          (.error .wrongType, after) ∧
        (after.tree 0).map (fun property => property.facets.conditionals) =
          .ok [.requiredWith [.text "mail", .int 5]] ∧
        (lone.tree 0).map (fun property => property.facets.conditionals) = .ok [] :=
  ⟨_, rfl, rfl, rfl⟩

end Mutation

end Workspace
end RecordSchema
