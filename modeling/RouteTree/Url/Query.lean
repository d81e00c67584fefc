import RouteTree.Fault
import RouteTree.Text.Percent

/-!
# Query strings

A query lists the leaves of the parameters as pairs of a key and a text. The key of a leaf writes
the way to it: the steps through maps in brackets or behind dots, the steps through lists as the
array format says. In the `comma` format a list is a leaf.

A caller may have a serializer of its own answer in place of all that. What serializers answer is no
part of the library; it is given by their names (`Serializers`).
-/

namespace RouteTree

open Text

/-- What each serializer answers to the parameters and the options that it is given. It may answer
with any value, and refuse for any reason. -/
abbrev Serializers := String → Params → Params → Except Fault Value

/-- Where there is no serializer, none can be called. -/
def Serializers.none : Serializers := fun _ _ _ => .error .wrongType

/-- How the steps through lists are written. -/
inductive ArrayFormat where
  /-- `a[0]=x&a[1]=y` -/
  | indices
  /-- `a[]=x&a[]=y` -/
  | brackets
  /-- `a=x&a=y` -/
  | repeated
  /-- `a=x,y` -/
  | comma
deriving DecidableEq, Repr

/-- The array format with a name. -/
def ArrayFormat.ofName? : String → Option ArrayFormat
  | "indices" => some .indices
  | "brackets" => some .brackets
  | "repeat" => some .repeated
  | "comma" => some .comma
  | _ => none

namespace Query

/-- The key of an entry of the map at `key`. -/
def entryKey (dots : Bool) (key child : List Char) : List Char :=
  if dots then key ++ '.' :: child else key ++ '[' :: child ++ [']']

/-- The key of the item of the list at `key`. -/
def itemKey (format : ArrayFormat) (key : List Char) (index : Nat) : List Char :=
  match format with
  | .indices => key ++ '[' :: Nat.toDigits 10 index ++ [']']
  | .brackets => key ++ ['[', ']']
  | .repeated | .comma => key

mutual

/-- The leaves of the value at `key`, with their keys. -/
def flatten (format : ArrayFormat) (dots : Bool) : Value → List Char → List (List Char × List Char)
  | .map entries, key => flattenEntries format dots entries key
  | .list items, key =>
    if format = .comma then commaLeaf items key else flattenItems format dots items 0 key
  | .tuple items, key =>
    if format = .comma then commaLeaf items key else flattenItems format dots items 0 key
  | v, key => [(key, v.written.toList)]
termination_by structural v => v

/-- The leaves of the items of a list, counted from `index`. -/
def flattenItems (format : ArrayFormat) (dots : Bool) :
    List Value → Nat → List Char → List (List Char × List Char)
  | [], _, _ => []
  | v :: vs, index, key =>
    flatten format dots v (itemKey format key index) ++
      flattenItems format dots vs (index + 1) key
termination_by structural vs => vs

/-- The leaves of the entries of a map. -/
def flattenEntries (format : ArrayFormat) (dots : Bool) :
    List (Value × Value) → List Char → List (List Char × List Char)
  | [], _ => []
  | (k, v) :: es, key =>
    flatten format dots v (entryKey dots key k.text.toList) ++ flattenEntries format dots es key
termination_by structural es => es

/-- A list as one leaf, its items between commas; an empty list is none. -/
def commaLeaf (items : List Value) (key : List Char) : List (List Char × List Char) :=
  if items.isEmpty then []
  else [(key, [','].intercalate (items.map fun v => v.written.toList))]

end

/-- The leaves of all parameters. -/
def pairs (format : ArrayFormat) (dots : Bool) (params : Params) :
    List (List Char × List Char) :=
  params.entries.flatMap fun (k, v) => flatten format dots v k.text.toList

/-- One pair of a query. -/
def pairText (encode : Bool) (pair : List Char × List Char) : List Char :=
  if encode then percentEncode pair.1 ++ '=' :: percentEncode pair.2 else pair.1 ++ '=' :: pair.2

/-- The query of the pairs. -/
def text (encode : Bool) (ps : List (List Char × List Char)) : List Char :=
  ['&'].intercalate (ps.map (pairText encode))

/-- The array format that the options ask for: `indices`, unless they say otherwise. -/
def arrayFormat (options : Params) : Except Fault ArrayFormat :=
  match options.get? (.str "array_format") with
  | none => .ok .indices
  | some v =>
    match v with
    | .str s =>
      match ArrayFormat.ofName? s with
      | some format => .ok format
      | none => .error (.unsupportedArrayFormat s)
    | _ => .error (.unsupportedArrayFormat v.text)

/-- Is an option on, given what it is without being mentioned? -/
def isOn (options : Params) (name : String) (default : Bool) : Bool :=
  ((options.get? (.str name)).map Value.isTruthy).getD default

/-- The parameters as a query. A serializer among the options answers in place of the format; without
parameters at all there is nothing to list. -/
def serialize? (serializers : Serializers) (params : Option Params) (options : Params) :
    Except Fault Value :=
  match (options.get? (.str "serializer")).getD .null, params with
  | .null, _ => do
    let format ← arrayFormat options
    match params with
    | none => throw .absentAttribute
    | some ps =>
      return .str (String.ofList (text (isOn options "encode" true)
        (pairs format (isOn options "allow_dots" false) ps)))
  | .serializer name, some ps => serializers name ps options
  | _, _ => .error .wrongType

/-- The parameters as a query. -/
def serialize (serializers : Serializers) (params options : Params) : Except Fault Value :=
  serialize? serializers (some params) options

end Query

end RouteTree
