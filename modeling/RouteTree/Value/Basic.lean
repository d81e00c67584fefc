import RouteTree.Decimal.Binary64
import RouteTree.OrderedMap
import RouteTree.Regex.Pattern

/-!
# Values

What callers hand over as parameters, options, handlers and metadata is dynamic: a `Value`. Maps
keep the order of their entries. A text is one of Unicode characters, each of which has a UTF-8 form:
a surrogate by itself is no character, and stands in no text.

As keys of maps, numbers of all kinds are one: `true`, `1` and `1.0` name the same key. A float that
is not a number is no key but its own, and equals no other.
-/

namespace RouteTree

/-- A dynamic value. -/
inductive Value where
  | null
  | bool (b : Bool)
  | int (n : Int)
  | float (x : Binary64)
  | str (s : String)
  | list (items : List Value)
  | tuple (items : List Value)
  | map (entries : List (Value × Value))
  | pattern (p : Pattern)
  /-- A callback that serializes queries, known by its name. -/
  | serializer (name : String)
deriving Repr, Inhabited

/-- A map of values. -/
abbrev Params := OrderedMap Value Value

/-- The patterns that parameters must match, by name. -/
abbrev Constraints := OrderedMap Value Pattern

namespace Value

/-- Everything but null, false, zero and the empty text, list, tuple and map. -/
def isTruthy : Value → Bool
  | .null => false
  | .bool b => b
  | .int n => n != 0
  | .float x => !x.isZero
  | .str s => !s.isEmpty
  | .list items | .tuple items => !items.isEmpty
  | .map entries => !entries.isEmpty
  | .pattern _ | .serializer _ => true

/-- The number a value stands for, if it is one. -/
def number? : Value → Option Extended
  | .bool b => some (.ofInt (if b then 1 else 0))
  | .int n => some (.ofInt n)
  | .float x => x.extended?
  | _ => none

/-- Do two values that may be numbers stand for the same one? -/
def sameNumber (v w : Value) : Bool :=
  match v.number?, w.number? with
  | some x, some y => x.same y
  | _, _ => false

mutual

/-- Do two values name the same key? -/
def sameKey : Value → Value → Bool
  | .null, w => match w with
    | .null => true
    | _ => false
  | .str s, w => match w with
    | .str t => s == t
    | _ => false
  | .tuple vs, w => match w with
    | .tuple ws => sameKeys vs ws
    | _ => false
  | .pattern p, w => match w with
    | .pattern q => p.source == q.source && p.flags == q.flags
    | _ => false
  | .serializer n, w => match w with
    | .serializer m => n == m
    | _ => false
  | v, w => v.sameNumber w
termination_by structural v => v

/-- Do two lists of values name the same keys in the same order? -/
def sameKeys : List Value → List Value → Bool
  | [], ws => ws.isEmpty
  | v :: vs, ws => match ws with
    | [] => false
    | w :: ws => v.sameKey w && sameKeys vs ws
termination_by structural vs => vs

end

instance : BEq Value := ⟨sameKey⟩

theorem beq_eq_sameKey (v w : Value) : (v == w) = v.sameKey w := rfl

@[simp] theorem str_beq_str (s t : String) : (Value.str s == Value.str t) = (s == t) := by
  simp [beq_eq_sameKey, sameKey]

mutual

/-- Can the value be a key? Lists and maps cannot. -/
def isKey : Value → Bool
  | .list _ | .map _ => false
  | .tuple items => areKeys items
  | _ => true
termination_by structural v => v

/-- Can all the values be keys? -/
def areKeys : List Value → Bool
  | [] => true
  | v :: vs => v.isKey && areKeys vs
termination_by structural vs => vs

end

mutual

/-- Which of two keys comes first, as far as they can be compared: texts with texts, numbers with
numbers, tuples with tuples item by item. -/
def precedes? : Value → Value → Option Bool
  | .str s, w => match w with
    | .str t => some (s < t)
    | _ => none
  | .tuple vs, w => match w with
    | .tuple ws => precedeAll? vs ws
    | _ => none
  | .float x, w => match w with
    | .bool _ | .int _ | .float _ =>
      some (match x.extended?, w.number? with
        | some a, some b => a.lt b
        | _, _ => false)
    | _ => none
  | .bool b, w => match w with
    | .bool _ | .int _ | .float _ =>
      some (((Value.bool b).number?.bind fun a => w.number?.map a.lt).getD false)
    | _ => none
  | .int n, w => match w with
    | .bool _ | .int _ | .float _ => some ((w.number?.map (Extended.ofInt n).lt).getD false)
    | _ => none
  | _, _ => none
termination_by structural v => v

/-- The order of two lists of keys is that of the first two items that differ. -/
def precedeAll? : List Value → List Value → Option Bool
  | [], ws => some (!ws.isEmpty)
  | v :: vs, ws => match ws with
    | [] => some false
    | w :: ws => if v.sameKey w then precedeAll? vs ws else v.precedes? w
termination_by structural vs => vs

end

/-- A list or tuple as its items, nothing for null, and any other value as the only item. -/
def asItems : Value → List Value
  | .null => []
  | .list items | .tuple items => items
  | v => [v]

/-- The kind of a value, as messages name it. -/
def typeName : Value → String
  | .null => "NoneType"
  | .bool _ => "bool"
  | .int _ => "int"
  | .float _ => "float"
  | .str _ => "str"
  | .list _ => "list"
  | .tuple _ => "tuple"
  | .map _ => "dict"
  | .pattern _ => "Pattern"
  | .serializer _ => "function"

end Value

end RouteTree
