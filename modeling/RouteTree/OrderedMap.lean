/-!
# Insertion-ordered maps

A map that lists its keys in the order of their first insertion. Writing to a key already there
keeps its place and its spelling and changes only its value. Keys are compared by `==`, which need
not be equality: two spellings may name the same key.

`keys_insert_of_contains` and `keys_insert_of_not_contains` say what a write does to the order,
`get?_insert` what it does to the contents.
-/

namespace RouteTree

/-- A map in the order of first insertion. -/
structure OrderedMap (κ : Type u) (ν : Type v) where
  /-- The pairs, oldest first. -/
  entries : List (κ × ν)
deriving Repr, DecidableEq

namespace OrderedMap

variable {κ : Type u} {ν : Type v} {μ : Type w}

instance : Inhabited (OrderedMap κ ν) := ⟨⟨[]⟩⟩

/-- The map without keys. -/
def empty : OrderedMap κ ν := ⟨[]⟩

instance : EmptyCollection (OrderedMap κ ν) := ⟨empty⟩

/-- The keys, oldest first. -/
def keys (m : OrderedMap κ ν) : List κ := m.entries.map (·.1)

/-- The number of keys. -/
def size (m : OrderedMap κ ν) : Nat := m.entries.length

/-- Are there no keys? -/
def isEmpty (m : OrderedMap κ ν) : Bool := m.entries.isEmpty

/-- The same keys, each value changed by `f`. -/
def mapValues (f : ν → μ) (m : OrderedMap κ ν) : OrderedMap κ μ :=
  ⟨m.entries.map fun (k, v) => (k, f v)⟩

section Lookup
variable [BEq κ]

/-- The value of a key. -/
def get? (m : OrderedMap κ ν) (k : κ) : Option ν := (m.entries.find? (·.1 == k)).map (·.2)

/-- Is there a value for the key? -/
def contains (m : OrderedMap κ ν) (k : κ) : Bool := m.entries.any (·.1 == k)

/-- The pairs with `v` written to the first key that equals `k`, or added at the end. -/
def put (k : κ) (v : ν) : List (κ × ν) → List (κ × ν)
  | [] => [(k, v)]
  | (k', v') :: rest => if k' == k then (k', v) :: rest else (k', v') :: put k v rest

/-- Writes a value to a key. -/
def insert (m : OrderedMap κ ν) (k : κ) (v : ν) : OrderedMap κ ν := ⟨put k v m.entries⟩

/-- Forgets a key. -/
def erase (m : OrderedMap κ ν) (k : κ) : OrderedMap κ ν := ⟨m.entries.filter (!·.1 == k)⟩

/-- Writes the pairs one after another. -/
def insertAll (m : OrderedMap κ ν) (pairs : List (κ × ν)) : OrderedMap κ ν :=
  pairs.foldl (fun m (k, v) => m.insert k v) m

/-- Writes every pair of `other` over `m`. -/
def override (m other : OrderedMap κ ν) : OrderedMap κ ν := m.insertAll other.entries

/-- The map of a list of pairs, a later pair winning over an earlier one of its key. -/
def ofList (pairs : List (κ × ν)) : OrderedMap κ ν := empty.insertAll pairs

/-- The value of a key together with the map without it. -/
def pop (m : OrderedMap κ ν) (k : κ) : Option ν × OrderedMap κ ν := (m.get? k, m.erase k)

end Lookup

section Lemmas

@[simp] theorem entries_empty : (empty : OrderedMap κ ν).entries = [] := rfl

@[simp] theorem keys_empty : (empty : OrderedMap κ ν).keys = [] := rfl

@[simp] theorem keys_mapValues (f : ν → μ) (m : OrderedMap κ ν) :
    (m.mapValues f).keys = m.keys := by
  simp [keys, mapValues, Function.comp_def]

variable [BEq κ]

@[simp] theorem get?_empty (k : κ) : (empty : OrderedMap κ ν).get? k = none := rfl

theorem contains_eq_any_keys (m : OrderedMap κ ν) (k : κ) :
    m.contains k = m.keys.any (· == k) := by
  simp [contains, keys, Function.comp_def]

@[simp] theorem isSome_get? (m : OrderedMap κ ν) (k : κ) : (m.get? k).isSome = m.contains k := by
  rw [Bool.eq_iff_iff]
  simp [get?, contains]

@[simp] theorem override_empty (m : OrderedMap κ ν) : m.override empty = m := rfl

@[simp] theorem insertAll_nil (m : OrderedMap κ ν) : m.insertAll [] = m := rfl

@[simp] theorem insertAll_cons (m : OrderedMap κ ν) (k : κ) (v : ν) (rest : List (κ × ν)) :
    m.insertAll ((k, v) :: rest) = (m.insert k v).insertAll rest := rfl

theorem insertAll_append (m : OrderedMap κ ν) (xs ys : List (κ × ν)) :
    m.insertAll (xs ++ ys) = (m.insertAll xs).insertAll ys := by
  simp [insertAll, List.foldl_append]

/-- A write to a known key leaves the keys as they are. -/
theorem keys_insert_of_contains {m : OrderedMap κ ν} {k : κ} (v : ν) (h : m.contains k = true) :
    (m.insert k v).keys = m.keys := by
  obtain ⟨es⟩ := m
  simp only [insert, keys, contains] at h ⊢
  induction es with
  | nil => simp at h
  | cons e rest ih =>
    obtain ⟨k', v'⟩ := e
    by_cases hk : (k' == k) = true
    · simp [put, hk]
    · have hr : rest.any (·.1 == k) = true := by simpa [hk] using h
      simp [put, hk, ih hr]

/-- A write to a new key puts it last. -/
theorem keys_insert_of_not_contains {m : OrderedMap κ ν} {k : κ} (v : ν)
    (h : m.contains k = false) : (m.insert k v).keys = m.keys ++ [k] := by
  obtain ⟨es⟩ := m
  simp only [insert, keys, contains] at h ⊢
  induction es with
  | nil => rfl
  | cons e rest ih =>
    obtain ⟨k', v'⟩ := e
    have hk : (k' == k) = false := by
      cases hk : (k' == k) with
      | false => rfl
      | true => simp [hk] at h
    have hr : rest.any (·.1 == k) = false := by simpa [hk] using h
    simp [put, hk, ih hr]

/-- Where `==` is equality, a write is seen at its own key and nowhere else. -/
theorem get?_insert [LawfulBEq κ] (m : OrderedMap κ ν) (k j : κ) (v : ν) :
    (m.insert k v).get? j = if k == j then some v else m.get? j := by
  obtain ⟨es⟩ := m
  simp only [insert, get?]
  induction es with
  | nil => by_cases h : (k == j) = true <;> simp [put, h]
  | cons e rest ih =>
    obtain ⟨k', v'⟩ := e
    by_cases hk : (k' == k) = true
    · have hkk : k' = k := by simpa using hk
      subst hkk
      by_cases hj : (k' == j) = true <;> simp [put, hj]
    · by_cases hj : (k' == j) = true
      · have hjj : k' = j := by simpa using hj
        subst hjj
        have hne : (k == k') = false := by
          simpa using fun hkj : k = k' => hk (by simp [hkj])
        simp [put, hk, hne]
      · simp only [put, hk]
        simpa [hj] using ih

end Lemmas

end OrderedMap

end RouteTree
