import RouteTree.Constraint
import RouteTree.Template.Token

/-!
# Compiled templates

Compiling a template takes the constraints out of it and brings the rest into one form: parameters
in colon notation, single slashes, and no backslashes. If a parenthesis is left behind a parameter,
its constraint was not complete; the template is then malformed, which a strict compilation refuses
and a lenient one reports, leaving backslashes as they are.
-/

namespace RouteTree

open Text

variable [CharacterNames]

/-- A template in its normal form. -/
structure Compiled where
  uri : String
  /-- The constraints that stood in the template, anchored. -/
  constraints : Constraints
  /-- Is there a constraint that could not be read? -/
  malformed : Bool
deriving Repr

namespace Template

/-- The constraints of a scanned template. A later one of a name wins, at the place of the first. -/
def constraintsOf (found : List Constrained) : Except Fault Constraints :=
  found.foldlM (fun known c => do
    let body := String.ofList (collapseBackslashes c.body)
    return known.insert (.str (String.ofList c.param.name)) (← Constraint.anchor (.str body)))
    OrderedMap.empty

/-- The template without its constraints. -/
def withoutConstraints (ps : List (Piece Constrained)) : List Char := replaceFinds (·.token) ps

/-- Does a parenthesis follow a parameter? -/
def hasOpenConstraint (cs : List Char) : Bool :=
  (pieces openConstraint cs).any (·.value?.isSome)

/-- The template with every parameter in colon notation. -/
def bracesToColons (cs : List Char) : List Char := replaceFinds Param.colon (pieces braceParam cs)

/-- Slashes in place of backslashes. -/
def backslashesToSlashes (cs : List Char) : List Char :=
  cs.map fun c => if c = '\\' then '/' else c

/-- The normal form of a template without constraints. -/
def normalize (malformed : Bool) (cs : List Char) : List Char :=
  let colons := bracesToColons cs
  collapseSlashes (if malformed then colons else backslashesToSlashes colons)

/-- Why a strict compilation refuses a malformed template. -/
def malformedReason : String := "unterminated or nested inline constraint"

/-- Compiles a template. -/
def compile (template : String) (strict : Bool) : Except Fault Compiled := do
  let ps := pieces constrained template.toList
  let constraints ← constraintsOf (ps.filterMap (·.value?))
  let text := withoutConstraints ps
  let malformed := hasOpenConstraint text
  if malformed && strict then
    throw (.invalidPattern (.str (String.ofList text)) (.str malformedReason))
  return { uri := String.ofList (normalize malformed text), constraints, malformed }

/-- Segments with one slash between them and one in front. Empty segments count for nothing. -/
def joinText (segments : List (List Char)) : List Char :=
  let joined := collapseSlashes (['/'].intercalate (segments.filter (!·.isEmpty)))
  match joined with
  | '/' :: _ => joined
  | _ => '/' :: joined

/-- Segments joined to one uri. -/
def join (segments : List String) : String :=
  String.ofList (joinText (segments.map String.toList))

end Template

end RouteTree
