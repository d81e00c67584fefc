import RouteTree.Template.Token
import RouteTree.Url.Query

/-!
# Building urls

A url is a compiled uri with values in place of its placeholders, followed by a query of the
parameters that no placeholder took. A placeholder takes its parameter away: a second one of the
same name goes without.
-/

namespace RouteTree.Url

open Text Template

/-- Is the value none at all? -/
def isVacant : Value → Bool
  | .null => true
  | .str s => s.isEmpty
  | _ => false

/-- What a placeholder with the text `value` puts into the url. -/
def placed (encode : Bool) (p : Placeholder) (value : List Char) : List Char :=
  (if p.slash then ['/'] else []) ++ if encode then percentEncode value else value

/-- Fills the placeholders from left to right. Answers with the text and the parameters left over. -/
def fill (uri : String) (constraints : Constraints) (encode : Bool) :
    List (Piece Placeholder) → Params → Except Fault (List Char × Params)
  | [], params => .ok ([], params)
  | .other c :: ps, params => do
    let (text, left) ← fill uri constraints encode ps params
    return (c :: text, left)
  | .found p _ :: ps, params => do
    let name := String.ofList p.param.name
    let (found, params) := params.pop (.str name)
    let value := found.getD .null
    if isVacant value then
      if p.param.optional then fill uri constraints encode ps params
      else throw (.missingParameter (.str name) (.str uri))
    else
      let written := value.written
      match constraints.get? (.str name) with
      | some pattern =>
        if !pattern.fullMatch written then
          throw (.constraintViolation (.str name) (.str pattern.source) (.str written))
      | none => pure ()
      let (text, left) ← fill uri constraints encode ps params
      return (placed encode p written.toList ++ text, left)

/-- A path with a query behind it, if there is one. -/
def withQuery (path : List Char) (query : Value) : String :=
  if query.isTruthy then String.ofList path ++ "?" ++ query.text else String.ofList path

/-- Builds the url of a compiled uri. -/
def build (serializers : Serializers) (uri : String) (params : Params) (constraints : Constraints)
    (options : Params) : Except Fault String := do
  let encode := Query.isOn options "encode" true
  let (text, left) ← fill uri constraints encode (pieces placeholder uri.toList) params
  let path := if text.isEmpty then ['/'] else text
  let query ← if left.isEmpty then pure (.str "") else Query.serialize serializers left options
  return withQuery path query

end RouteTree.Url
