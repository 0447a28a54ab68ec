import RecordSchema.Schema.Basic
import RecordSchema.Settings

/-!
# Workspaces

In a workspace things are shared: a property may be the child of several objects and the member
of several collections, and a change to it shows in all of them.  Things are kept in tables by
their kinds, and a value stands for one by its number.  An action on a workspace may fail, and
what it has changed until then stays changed.
-/

namespace RecordSchema

/-- Something that can be added to a schema in the place of a property: a name, rules and a
written form, all of them given. -/
structure Stub where
  name : Value
  rules : Value
  document : Value
  deriving Repr

/-- Where a rule table comes from: it is given, or it is that of a shared schema, which may get
other rules later. -/
inductive TableSource where
  | given (table : RuleTable)
  | schema (number : Nat)
  deriving Repr

/-- What an engine that accepts everything has been called with. -/
structure Recording where
  rules : TableSource
  record : Value
  messages : Value
  labels : Value
  deriving Repr

/-- An engine with its two switches as they were given, and the names of rules that have been
added under names that are no texts, which no token can call. -/
structure SharedEngine where
  engine : Engine
  strict : Value
  stopsEarly : Value
  uncallable : List Name := []

/-- A schema and the value that stands for its engine. -/
structure SharedSchema where
  schema : Schema
  engine : Value
  deriving Repr

/-- All things that are shared, by their kinds, with the environment and the log. -/
structure Workspace where
  environment : Environment := []
  /-- How the documents of schemas are told from other values. -/
  parse : SchemaDocument.Parser := SchemaDocument.ofValue
  /-- What the closures compute. -/
  closures : Rule.Closures := fun _ _ => .error .noSuchMember
  nodes : Array (Node Nat) := #[]
  collections : Array (Fields Nat Name) := #[]
  schemas : Array SharedSchema := #[]
  engines : Array SharedEngine := #[]
  recorders : Array (List Recording) := #[]
  reports : Array Report := #[]
  stubs : Array Stub := #[]
  log : List LogRecord := []

namespace Workspace

/-- What is done in a workspace, which keeps its changes on failure. -/
abbrev Action (α : Type) :=
  ExceptT Error (StateM Workspace) α

def checked {α : Type} : Except Error α → Action α
  | .ok value => pure value
  | .error error => throw error

/-- Take what is looked up by a number that stands for something. -/
def found {α : Type} : Option α → Action α
  | some value => pure value
  | none => throw .noSuchMember

def report (records : List LogRecord) : Action Unit :=
  modify fun workspace => { workspace with log := workspace.log ++ records }

/-! ## Nodes -/

def node (number : Nat) : Action (Node Nat) := do
  found (← get).nodes[number]?

def setNode (number : Nat) (node : Node Nat) : Action Unit :=
  modify fun workspace =>
    { workspace with nodes := workspace.nodes.setIfInBounds number node }

def addNode (node : Node Nat) : Action Nat := do
  let number := (← get).nodes.size
  modify fun workspace => { workspace with nodes := workspace.nodes.push node }
  return number

/-- Make a change that may fail, and keep what it leaves behind. -/
def settle {State : Type} (keep : State → Action Unit) (change : Change State) :
    Action Unit := do
  keep change.state
  match change.failure with
  | none => pure ()
  | some error => throw error

def editFacets (number : Nat) (edit : Facets → Change Facets) : Action Unit := do
  let node ← node number
  settle (fun facets => setNode number (node.withFacets facets)) (edit node.facets)

/-- Change a node, all or nothing. -/
def editNode (number : Nat) (edit : Node Nat → Except Error (Node Nat)) : Action Unit := do
  setNode number (← checked (edit (← node number)))

/-! ## Trees -/

def childOf (tree : Nat → Except Error Property) : Child Nat → Except Error (Child Property)
  | .property number => (tree number).map .property
  | .document fields => .ok (.document fields)

def childrenOf (tree : Nat → Except Error Property) :
    Fields (Child Nat) Name → Except Error (Fields (Child Property) Name)
  | [] => .ok []
  | (name, child) :: rest => do
    let child ← childOf tree child
    return (name, child) :: (← childrenOf tree rest)

/-- The tree below a property, if it is no deeper than `depth`. -/
def treeWithin (nodes : Array (Node Nat)) : Nat → Nat → Except Error Property
  | 0, _ => .error .endlessNesting
  | depth + 1, number =>
    match nodes[number]? with
    | none => .error .noSuchMember
    | some node => do
      let children ← childrenOf (treeWithin nodes depth) node.children
      match node.items with
      | none => return .mk node.facets children none
      | some items =>
        let items ← childOf (treeWithin nodes depth) items
        return .mk node.facets children (some items)

/-- The tree below a property.  One that is deeper than there are nodes contains itself. -/
def tree (workspace : Workspace) (number : Nat) : Except Error Property :=
  treeWithin workspace.nodes (workspace.nodes.size + 1) number

/-- The tree below a property, in an action. -/
def property (number : Nat) : Action Property := do
  checked ((← get).tree number)

mutual

def plant : Property → Action Nat
  | .mk facets children items => do
    let children ← plantChildren children
    let items ← plantItems items
    addNode ⟨facets, children, items⟩

def plantChildren : List (Name × Child Property) → Action (Fields (Child Nat) Name)
  | [] => pure []
  | (name, child) :: rest => do
    let child ← plantChild child
    return (name, child) :: (← plantChildren rest)

def plantItems : Option (Child Property) → Action (Option (Child Nat))
  | none => pure none
  | some child => do return some (← plantChild child)

def plantChild : Child Property → Action (Child Nat)
  | .property property => do return .property (← plant property)
  | .document fields => pure (.document fields)

end

/-- A reference after all numbers have been moved. -/
def shiftChild (distance : Nat) : Child Nat → Child Nat
  | .property number => .property (number + distance)
  | .document fields => .document fields

/-- A node after all numbers have been moved. -/
def shiftNode (distance : Nat) (node : Node Nat) : Node Nat :=
  { node with
    children := node.children.map fun entry => (entry.1, shiftChild distance entry.2)
    items := node.items.map (shiftChild distance) }

/-- A copy of a property and of all that is nested in it.  A property that contains itself is
copied together with all others. -/
def copy (number : Nat) : Action Nat := do
  let workspace ← get
  match workspace.tree number with
  | .ok tree => plant tree
  | .error _ =>
    let distance := workspace.nodes.size
    modify fun workspace =>
      { workspace with nodes := workspace.nodes ++ workspace.nodes.map (shiftNode distance) }
    return number + distance

end Workspace
end RecordSchema
