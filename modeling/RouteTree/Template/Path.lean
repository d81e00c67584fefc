import RouteTree.Template.Compiled

/-!
# Paths for the host

A host takes paths in which a parameter is followed by its constraint in parentheses and then by
its question mark. `Template.path` writes a compiled uri so, with the constraints shown as their
authors wrote them, without anchors.
-/

namespace RouteTree.Template

open Text

variable [CharacterNames]

/-- The source of every constraint, without anchors. -/
def constraintBodies (constraints : Params) : Except Fault (OrderedMap Value (List Char)) := do
  return ⟨← constraints.entries.mapM fun (name, c) => return (name, ← Constraint.body c)⟩

/-- Can every two of the keys be put in order? -/
def areOrdered : List Value → Bool
  | [] => true
  | v :: vs => vs.all (fun w => (v.precedes? w).isSome) && areOrdered vs

/-- A parameter with its constraint, if it has one. -/
def Param.constrainedBy (bodies : OrderedMap Value (List Char)) (p : Param) : List Char :=
  let body := match bodies.get? (.str (String.ofList p.name)) with
    | some b => '(' :: b ++ [')']
    | none => []
  ':' :: p.name ++ body ++ p.mark

/-- Writes the constraints into a compiled uri. -/
def pathText (bodies : OrderedMap Value (List Char)) (uri : List Char) : List Char :=
  replaceFinds (Param.constrainedBy bodies) (pieces colonParam uri)

/-- The path of a compiled uri. The names of the constraints must be of one order. -/
def path (uri : String) (constraints : Params) : Except Fault String := do
  let bodies ← constraintBodies constraints
  if !areOrdered bodies.keys then throw .wrongType
  return String.ofList (pathText bodies uri.toList)

end RouteTree.Template
