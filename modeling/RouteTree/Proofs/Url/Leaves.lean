import RouteTree.Url.Query

/-!
# Leaves

A nested value is a tree. Its maps, lists and tuples branch, and every other value is a leaf, which is
found by the steps to it: through an entry of a map, or through an item of a list.

**The pairs of a query are the leaves of the parameters** (`pairs_eq`), unless lists are written
between commas. They come in the order in which the tree has them, whatever the format; only the way
in which a key writes the steps depends on it.
-/

namespace RouteTree.Query

/-- A step from a value into a part of it. -/
inductive Step where
  /-- To the entry of a map. -/
  | entry (key : List Char)
  /-- To the item of a list or tuple. -/
  | item (index : Nat)
deriving DecidableEq, Repr

/-- A leaf of a value. -/
structure Leaf where
  /-- The steps to the leaf, the first one first. -/
  path : List Step
  value : Value

/-- The leaf as it is seen from one step before. -/
def Leaf.under (s : Step) (l : Leaf) : Leaf := ⟨s :: l.path, l.value⟩

mutual

/-- The leaves of a value. -/
def leaves : Value → List Leaf
  | .map entries => entryLeaves entries
  | .list items | .tuple items => itemLeaves items 0
  | v => [⟨[], v⟩]
termination_by structural v => v

/-- The leaves of items that are counted from `index`. -/
def itemLeaves : List Value → Nat → List Leaf
  | [], _ => []
  | v :: vs, index => (leaves v).map (.under (.item index)) ++ itemLeaves vs (index + 1)
termination_by structural vs => vs

/-- The leaves of entries. -/
def entryLeaves : List (Value × Value) → List Leaf
  | [] => []
  | (k, v) :: es => (leaves v).map (.under (.entry k.text.toList)) ++ entryLeaves es
termination_by structural es => es

end

/-- The leaves of parameters, which are the entries of a map. -/
def paramLeaves (params : Params) : List Leaf := entryLeaves params.entries

theorem itemLeaves_eq_flatMap (vs : List Value) (index : Nat) :
    itemLeaves vs index =
      (vs.zipIdx index).flatMap fun item => (leaves item.1).map (.under (.item item.2)) := by
  induction vs generalizing index with
  | nil => rfl
  | cons v vs ih => rw [itemLeaves, List.zipIdx_cons, List.flatMap_cons, ih]

theorem entryLeaves_eq_flatMap (es : List (Value × Value)) :
    entryLeaves es = es.flatMap fun e => (leaves e.2).map (.under (.entry e.1.text.toList)) := by
  induction es with
  | nil => rfl
  | cons e es ih =>
    obtain ⟨k, v⟩ := e
    rw [entryLeaves, List.flatMap_cons, ih]

/-! ## Keys -/

/-- A step as it is written behind the steps before it. -/
def Step.text (format : ArrayFormat) (dots : Bool) : Step → List Char
  | .entry key => if dots then '.' :: key else '[' :: key ++ [']']
  | .item index =>
    match format with
    | .indices => '[' :: Nat.toDigits 10 index ++ [']']
    | .brackets => ['[', ']']
    | .repeated | .comma => []

/-- Steps as they are written behind a name. -/
def stepsText (format : ArrayFormat) (dots : Bool) (steps : List Step) : List Char :=
  steps.flatMap (·.text format dots)

/-- The key of a leaf. The first step names a parameter, and the name stands there bare. -/
def keyText (format : ArrayFormat) (dots : Bool) : List Step → List Char
  | .entry name :: steps => name ++ stepsText format dots steps
  | steps => stepsText format dots steps

/-- A leaf of the value at `key`, as a pair of a query. -/
def Leaf.pairAt (format : ArrayFormat) (dots : Bool) (key : List Char) (l : Leaf) :
    List Char × List Char :=
  (key ++ stepsText format dots l.path, l.value.written.toList)

/-- A leaf of parameters, as a pair of a query. -/
def Leaf.pair (format : ArrayFormat) (dots : Bool) (l : Leaf) : List Char × List Char :=
  (keyText format dots l.path, l.value.written.toList)

variable {format : ArrayFormat} {dots : Bool}

theorem entryKey_eq (key child : List Char) :
    entryKey dots key child = key ++ (Step.entry child).text format dots := by
  cases dots <;> simp [entryKey, Step.text]

theorem itemKey_eq (key : List Char) (index : Nat) :
    itemKey format key index = key ++ (Step.item index).text format dots := by
  cases format <;> simp [itemKey, Step.text]

/-- A step more to a leaf is written at the end of the key of the value that the leaf is in. -/
theorem map_pairAt_under {key child : List Char} {s : Step}
    (h : child = key ++ s.text format dots) (ls : List Leaf) :
    (ls.map (.under s)).map (Leaf.pairAt format dots key) = ls.map (Leaf.pairAt format dots child) := by
  subst h
  simp [Leaf.pairAt, Leaf.under, stepsText, Function.comp_def]

mutual

/-- **What is flattened are the leaves**, each under the key of the value with the steps behind it. -/
theorem flatten_eq (hformat : format ≠ .comma) : ∀ (v : Value) (key : List Char),
    flatten format dots v key = (leaves v).map (Leaf.pairAt format dots key)
  | .map entries, key => flattenEntries_eq hformat entries key
  | .list items, key | .tuple items, key => by
    rw [flatten, if_neg hformat, flattenItems_eq hformat items 0 key]
    rfl
  | .null, key | .bool _, key | .int _, key | .float _, key | .str _, key | .pattern _, key
  | .serializer _, key => by simp [flatten, leaves, Leaf.pairAt, stepsText]

theorem flattenItems_eq (hformat : format ≠ .comma) : ∀ (vs : List Value) (index : Nat)
    (key : List Char), flattenItems format dots vs index key =
      (itemLeaves vs index).map (Leaf.pairAt format dots key)
  | [], _, _ => rfl
  | v :: vs, index, key => by
    rw [flattenItems, itemLeaves, List.map_append, map_pairAt_under (itemKey_eq key index),
      flatten_eq hformat v, flattenItems_eq hformat vs]

theorem flattenEntries_eq (hformat : format ≠ .comma) : ∀ (es : List (Value × Value))
    (key : List Char), flattenEntries format dots es key =
      (entryLeaves es).map (Leaf.pairAt format dots key)
  | [], _ => rfl
  | (k, v) :: es, key => by
    rw [flattenEntries, entryLeaves, List.map_append,
      map_pairAt_under (entryKey_eq key k.text.toList), flatten_eq hformat v,
      flattenEntries_eq hformat es]

end

/-- **The pairs of a query are the leaves of the parameters**, in order. -/
theorem pairs_eq (hformat : format ≠ .comma) (params : Params) :
    pairs format dots params = (paramLeaves params).map (Leaf.pair format dots) := by
  obtain ⟨es⟩ := params
  unfold pairs paramLeaves
  induction es with
  | nil => rfl
  | cons e es ih =>
    obtain ⟨k, v⟩ := e
    have hparam : flatten format dots v k.text.toList =
        ((leaves v).map (.under (.entry k.text.toList))).map (Leaf.pair format dots) := by
      rw [flatten_eq hformat, List.map_map]
      rfl
    rw [List.flatMap_cons, ih, entryLeaves, List.map_append, ← hparam]

end RouteTree.Query
