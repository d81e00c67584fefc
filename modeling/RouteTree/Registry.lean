import RouteTree.Url.Build

/-!
# Named routes

The registry knows routes by name. Names are listed in the order of their first registration; a
later route of the same name takes the place of the earlier one.
-/

namespace RouteTree

/-- What is known of a route by its name. -/
structure NamedRoute where
  uri : String
  constraints : Constraints
deriving Repr

/-- The routes that have a name. -/
structure Registry where
  routes : OrderedMap String NamedRoute
deriving Repr

namespace Registry

/-- The registry without routes. -/
def empty : Registry := ⟨.empty⟩

/-- Registers a route under a name. -/
def add (r : Registry) (name : String) (route : NamedRoute) : Registry :=
  ⟨r.routes.insert name route⟩

/-- The names, oldest first. -/
def names (r : Registry) : List String := r.routes.keys

/-- The number of names. -/
def size (r : Registry) : Nat := r.routes.size

/-- The route with a name. -/
def get (r : Registry) (name : String) : Except Fault NamedRoute :=
  match r.routes.get? name with
  | some route => .ok route
  | none => .error (.unknownRoute (.str name))

/-- Is there a route under the value as a name? Only texts are names, and only keys can be asked
for. -/
def contains (r : Registry) (name : Value) : Except Fault Bool :=
  match name with
  | .str s => .ok (r.routes.contains s)
  | v => if v.isKey then .ok false else .error .wrongType

/-- The url of the route with a name. -/
def url (r : Registry) (serializers : Serializers) (name : String) (params options : Params) :
    Except Fault String := do
  let route ← r.get name
  Url.build serializers route.uri params route.constraints options

@[simp] theorem names_empty : empty.names = [] := rfl

@[simp] theorem get_empty (name : String) : empty.get name = .error (.unknownRoute (.str name)) :=
  rfl

/-- A registered route is found under its name, and every other name leads where it did. -/
theorem get_add (r : Registry) (name other : String) (route : NamedRoute) :
    (r.add name route).get other = if name = other then .ok route else r.get other := by
  by_cases h : name = other <;> simp [get, add, OrderedMap.get?_insert, h]

end Registry

end RouteTree
