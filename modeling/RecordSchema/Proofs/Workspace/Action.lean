import RecordSchema.Workspace.Collections

/-!
# What actions leave behind

An action on a workspace keeps what it has changed until it fails.  Actions that only look things
up leave the workspace as it is, and an action that looks things up before it writes anything leaves
the workspace as it is when it fails.
-/

namespace RecordSchema.Workspace

variable {α β : Type}

/-- The result of an action, and the workspace that it leaves behind. -/
def outcome (action : Action α) (workspace : Workspace) : Except Error α × Workspace :=
  (action.run.run workspace).run

theorem outcome_bind (action : Action α) (next : α → Action β) (workspace : Workspace) :
    outcome (action >>= next) workspace =
      match outcome action workspace with
      | (.ok value, after) => outcome (next value) after
      | (.error error, after) => (.error error, after) := by
  simp only [outcome, ExceptT.run_bind, StateT.run_bind, Id.run_bind]
  cases (action.run.run workspace).run with
  | mk result after =>
      cases result with
      | ok value =>
          rfl
      | error error =>
          rfl

theorem outcome_bind_of_ok {action : Action α} {workspace after : Workspace} {value : α}
    (ran : outcome action workspace = (.ok value, after)) (next : α → Action β) :
    outcome (action >>= next) workspace = outcome (next value) after := by
  rw [outcome_bind, ran]

@[simp]
theorem outcome_checked (result : Except Error α) (workspace : Workspace) :
    outcome (checked result) workspace = (result, workspace) := by
  cases result with
  | error error =>
      rfl
  | ok value =>
      rfl

@[simp]
theorem outcome_found (lookup : Option α) (workspace : Workspace) :
    outcome (found lookup) workspace =
      ((match lookup with | some value => .ok value | none => .error .noSuchMember),
        workspace) := by
  cases lookup with
  | none =>
      rfl
  | some value =>
      rfl

theorem outcome_setNode (number : Nat) (node : Node Nat) (workspace : Workspace) :
    outcome (setNode number node) workspace =
      (.ok (), { workspace with nodes := workspace.nodes.setIfInBounds number node }) := rfl

theorem outcome_node {workspace : Workspace} {number : Nat} {node : Node Nat}
    (present : workspace.nodes[number]? = some node) :
    outcome (Workspace.node number) workspace = (.ok node, workspace) := by
  have ran : outcome (Workspace.node number) workspace =
      outcome (found workspace.nodes[number]?) workspace := rfl
  rw [ran, outcome_found, present]

theorem outcome_bind_eq_error_iff {action : Action α} {next : α → Action β}
    {workspace after : Workspace} {error : Error} :
    outcome (action >>= next) workspace = (.error error, after) ↔
      outcome action workspace = (.error error, after) ∨
        ∃ value between, outcome action workspace = (.ok value, between) ∧
          outcome (next value) between = (.error error, after) := by
  rw [outcome_bind]
  cases outcome action workspace with
  | mk result between =>
      cases result with
      | ok value =>
          constructor
          · intro failed
            exact .inr ⟨value, between, rfl, failed⟩
          · rintro (⟨⟨⟩⟩ | ⟨_, _, ⟨⟨⟩⟩, failed⟩)
            exact failed
      | error failure =>
          simp

/-! ## Actions that only look things up -/

/-- An action that leaves the workspace as it is, whatever comes of it. -/
def OnlyReads (action : Action α) : Prop :=
  ∀ workspace, (outcome action workspace).2 = workspace

theorem OnlyReads.bind {action : Action α} {next : α → Action β} (reads : OnlyReads action)
    (readsOn : ∀ value, OnlyReads (next value)) : OnlyReads (action >>= next) := by
  intro workspace
  have same := reads workspace
  rw [outcome_bind]
  cases ran : outcome action workspace with
  | mk result between =>
      rw [ran] at same
      cases same
      cases result with
      | ok value =>
          exact readsOn value between
      | error error =>
          rfl

theorem onlyReads_pure (value : α) : OnlyReads (pure value : Action α) :=
  fun _ => rfl

theorem onlyReads_throw (error : Error) : OnlyReads (throw error : Action α) :=
  fun _ => rfl

private theorem onlyReads_get : OnlyReads (get : Action Workspace) :=
  fun _ => rfl

theorem onlyReads_checked (result : Except Error α) : OnlyReads (checked result) := by
  intro workspace
  rw [outcome_checked]

private theorem onlyReads_found (lookup : Option α) : OnlyReads (found lookup) := by
  intro workspace
  rw [outcome_found]

theorem onlyReads_node (number : Nat) : OnlyReads (node number) :=
  onlyReads_get.bind fun _ => onlyReads_found _

theorem onlyReads_members (number : Nat) : OnlyReads (members number) :=
  onlyReads_get.bind fun _ => onlyReads_found _

private theorem onlyReads_property (number : Nat) : OnlyReads (property number) :=
  onlyReads_get.bind fun _ => onlyReads_checked _

private theorem onlyReads_childrenDocument (number : Nat) : OnlyReads (childrenDocument number) :=
  (onlyReads_property number).bind fun _ => onlyReads_pure _

theorem onlyReads_offeredChildren (children : Value) : OnlyReads (offeredChildren children) := by
  unfold offeredChildren
  split
  · exact onlyReads_pure _
  · exact onlyReads_pure _
  · exact (onlyReads_members _).bind fun _ => onlyReads_pure _
  · exact (onlyReads_childrenDocument _).bind fun _ => onlyReads_pure _
  · refine onlyReads_get.bind fun _ => (onlyReads_found _).bind fun _ => onlyReads_pure _
  · exact onlyReads_throw _

/-! ## Actions that fail before they write -/

def FailsClean (action : Action α) : Prop :=
  ∀ workspace error after, outcome action workspace = (.error error, after) → after = workspace

theorem OnlyReads.failsClean {action : Action α} (reads : OnlyReads action) :
    FailsClean action := by
  intro workspace error after failed
  have same := reads workspace
  rw [failed] at same
  exact same

theorem OnlyReads.failsClean_bind {action : Action α} {next : α → Action β}
    (reads : OnlyReads action) (clean : ∀ value, FailsClean (next value)) :
    FailsClean (action >>= next) := by
  intro workspace error after failed
  rcases outcome_bind_eq_error_iff.mp failed with first | ⟨value, between, ran, failedLater⟩
  · exact reads.failsClean workspace error after first
  · have same := reads workspace
    rw [ran] at same
    cases same
    exact clean value between error after failedLater

private theorem failsClean_setNode (number : Nat) (node : Node Nat) :
    FailsClean (setNode number node) := by
  intro workspace error after failed
  rw [outcome_setNode] at failed
  cases failed

/-- A change of a node that is all or nothing leaves everything as it is when it fails. -/
theorem failsClean_editNode (number : Nat) (edit : Node Nat → Except Error (Node Nat)) :
    FailsClean (editNode number edit) :=
  (onlyReads_node number).failsClean_bind fun _ =>
    (onlyReads_checked _).failsClean_bind fun _ => failsClean_setNode number _

end RecordSchema.Workspace
