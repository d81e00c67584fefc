import RouteTree.Fault
import RouteTree.Text.Case

/-!
# Options of groups and routes

A group or route is given a text, which is its prefix or uri, or a map of options, and more options
by name, which win over those of the map. What is not mentioned has a default. A group refuses
options it does not know; a route keeps them for whoever resolves its action.
-/

namespace RouteTree

namespace Value

/-- The pair that an item of a list stands for, as part of a map: two items, two characters, or two
keys. -/
def asPair (index : Nat) (v : Value) : Except Fault (Value × Value) :=
  let items? : Option (List Value) := match v with
    | .list items | .tuple items => some items
    | .str s => some (s.toList.map fun c => .str c.toString)
    | .map entries => some (entries.map (·.1))
    | _ => none
  match items? with
  | some [k, w] => if k.isKey then .ok (k, w) else .error .wrongType
  | some items => .error (.notAPair index items.length)
  | none => .error .wrongType

/-- The map of a list of pairs. -/
def mapOfPairs (items : List Value) : Except Fault Params := do
  return .ofList (← items.zipIdx.mapM fun (v, index) => v.asPair index)

/-- A value as a map: nothing for one that is empty or zero, a map as it is, and a list of pairs. -/
def asParams (v : Value) : Except Fault Params :=
  if !v.isTruthy then .ok .empty
  else
    match v with
    | .map entries => .ok ⟨entries⟩
    | .list items | .tuple items => mapOfPairs items
    | .str s => mapOfPairs (s.toList.map fun c => .str c.toString)
    | _ => .error .wrongType

/-- The value, or the empty text for one that is empty or zero. -/
def orEmptyText (v : Value) : Value := if v.isTruthy then v else .str ""

end Value

/-- The options of a definition: `options`, in which a text stands for the option `main`, and `more`
written over them. -/
def mergeOptions (main : String) (options : Value) (more : Params) : Except Fault Params :=
  match options with
  | .str s => .ok ((⟨[(.str main, .str s)]⟩ : Params).override more)
  | v => do return (← v.asParams).override more

/-- An option with its default, and the options without it. -/
def takeOption (name : String) (default : Value) (options : Params) : Value × Params :=
  let (value, rest) := options.pop (.str name)
  (value.getD default, rest)

/-- What a group adds to what lies around it. -/
structure GroupOptions where
  /-- The first part of every uri in the group. -/
  mount : Value
  middleware : List Value
  /-- The first part of every name in the group. -/
  naming : Value
  constraints : Params
  metadata : Params
deriving Repr

namespace GroupOptions

/-- The options of a group. -/
def ofValue (options : Value) (more : Params) : Except Fault GroupOptions := do
  let merged ← mergeOptions "prefix" options more
  let (mount, merged) := takeOption "prefix" (.str "/") merged
  let (middleware, merged) := takeOption "middleware" .null merged
  let (names, merged) := takeOption "namespace" (.str "") merged
  let (constraints, merged) := takeOption "patterns" .null merged
  let constraints ← constraints.asParams
  let (metadata, merged) := takeOption "meta" .null merged
  let metadata ← metadata.asParams
  match merged.keys with
  | [] => return ⟨mount, middleware.asItems, names.orEmptyText, constraints, metadata⟩
  | unknown =>
    let names ← unknown.mapM fun
      | .str s => .ok s
      | _ => .error .wrongType
    throw (.unexpectedOptions names)

end GroupOptions

/-- What a route is defined by. -/
structure RouteOptions where
  method : String
  uri : Value
  middleware : List Value
  name : Value
  constraints : Params
  metadata : Params
  /-- The options a route has no use for itself. -/
  extra : Params
deriving Repr

/-- Options by name, with a method that wins over theirs. -/
def withMethod (method : Value) (more : Params) : Params := more.insert (.str "method") method

namespace RouteOptions

/-- The method of a route without one. -/
def defaultMethod : Value := .str "get"

/-- The options of a route. -/
def ofValue (options : Value) (more : Params) : Except Fault RouteOptions := do
  let merged ← mergeOptions "uri" options more
  let (method, merged) := takeOption "method" defaultMethod merged
  let method := Text.toLower (if method.isTruthy then method else defaultMethod).text
  let (uri, merged) := takeOption "uri" (.str "/") merged
  let (middleware, merged) := takeOption "middleware" .null merged
  let (name, merged) := takeOption "name" (.str "") merged
  let (constraints, merged) := takeOption "patterns" .null merged
  let constraints ← constraints.asParams
  let (metadata, extra) := takeOption "meta" .null merged
  let metadata ← metadata.asParams
  return ⟨method, uri, middleware.asItems, name.orEmptyText, constraints, metadata, extra⟩

end RouteOptions

end RouteTree
