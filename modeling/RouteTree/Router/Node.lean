import RouteTree.Value.Basic

/-!
# The tree of groups

A node holds what it has from the groups around it, the routes defined on it, and its subgroups. An
address leads from the root to a node by the positions of subgroups; since subgroups are only ever
added at the end, an address keeps its meaning.
-/

namespace RouteTree

/-- A route, as a host is told of it. -/
structure Entry where
  method : String
  path : String
  handlers : List Value
  /-- The compiled uri the path was made from. -/
  uri : String
  /-- The full name, if the route has one of its own. -/
  name : Option String
  constraints : Constraints
  metadata : Params
deriving Repr, Inhabited

/-- What a node has from the groups around it. -/
structure Settings where
  uris : List String := []
  middleware : List Value := []
  names : List Value := []
  constraints : Constraints := .empty
  metadata : Params := .empty
deriving Repr, Inhabited

/-- A node of the tree. -/
structure Node where
  settings : Settings
  routes : List Entry
  groups : List Node
deriving Repr, Inhabited

/-- The positions of subgroups on the way from the root. -/
abbrev Address := List Nat

namespace Node

/-- A node without routes and subgroups. -/
def leaf (settings : Settings) : Node := ⟨settings, [], []⟩

mutual

/-- The routes of a subtree, depth first: those of a node before those of its subgroups. -/
def entries : Node → List Entry
  | ⟨_, routes, groups⟩ => routes ++ entriesOf groups
termination_by structural n => n

/-- The routes of several subtrees. -/
def entriesOf : List Node → List Entry
  | [] => []
  | n :: ns => n.entries ++ entriesOf ns
termination_by structural ns => ns

end

/-- The node at an address. -/
def at? (n : Node) : Address → Option Node
  | [] => some n
  | i :: rest => n.groups[i]?.bind fun child => child.at? rest

/-- Changes the node at an address. -/
def modifyAt (n : Node) (change : Node → Node) : Address → Node
  | [] => change n
  | i :: rest => { n with groups := n.groups.modify i fun child => child.modifyAt change rest }

/-- Appends a route. -/
def addRoute (n : Node) (entry : Entry) : Node := { n with routes := n.routes ++ [entry] }

/-- Appends a subgroup. -/
def addGroup (n child : Node) : Node := { n with groups := n.groups ++ [child] }

/-- Changes the constraints that later routes and groups get. -/
def withConstraints (n : Node) (constraints : Constraints) : Node :=
  { n with settings := { n.settings with constraints } }

@[simp] theorem at?_nil (n : Node) : n.at? [] = some n := rfl

@[simp] theorem at?_cons (n : Node) (i : Nat) (rest : Address) :
    n.at? (i :: rest) = n.groups[i]?.bind fun child => child.at? rest := rfl

@[simp] theorem modifyAt_nil (n : Node) (change : Node → Node) :
    n.modifyAt change [] = change n := rfl

@[simp] theorem entries_leaf (settings : Settings) : (leaf settings).entries = [] := by
  simp [leaf, entries, entriesOf]

theorem entriesOf_eq_flatMap (ns : List Node) : entriesOf ns = ns.flatMap entries := by
  induction ns with
  | nil => simp [entriesOf]
  | cons n ns ih => simp [entriesOf, ih]

theorem entries_eq (n : Node) : n.entries = n.routes ++ n.groups.flatMap entries := by
  obtain ⟨settings, routes, groups⟩ := n
  simp [entries, entriesOf_eq_flatMap]

end Node

end RouteTree
