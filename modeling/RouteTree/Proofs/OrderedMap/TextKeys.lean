import Mathlib.Data.List.Induction
import RouteTree.Value.Basic

/-!
# Maps written pair by pair, and maps with texts for keys

A map made from pairs lists each key where it was first written (`keys_ofList`) with the value that
was written last (`get?_ofList`). If the value depends on the key alone, the map is a table of it
(`entries_ofList_table`).

Constraints are kept by names, which are texts among other values. `withTextKeys` puts a map of texts
among the values; there, two keys are the same only if they are equal, so writing and looking up
come to the same in both (`insert_withTextKeys`, `get?_withTextKeys`).
-/

namespace RouteTree.OrderedMap

section Lawful
variable {κ : Type u} {ν : Type v} [BEq κ] [LawfulBEq κ]

omit [LawfulBEq κ] in
theorem ofList_concat (pairs : List (κ × ν)) (k : κ) (v : ν) :
    ofList (pairs ++ [(k, v)]) = (ofList pairs).insert k v := by
  rw [ofList, insertAll_append]
  rfl

theorem eraseDups_concat (ks : List κ) (k : κ) :
    (ks ++ [k]).eraseDups = if ks.contains k then ks.eraseDups else ks.eraseDups ++ [k] := by
  rw [List.eraseDups_append]
  by_cases hk : k ∈ ks
  · simp [List.removeAll, hk]
  · simp [List.removeAll, hk, List.eraseDups_cons]

theorem contains_eq_contains_keys (m : OrderedMap κ ν) (k : κ) :
    m.contains k = m.keys.contains k := by
  rw [contains_eq_any_keys, Bool.eq_iff_iff]
  simp

/-- Every key stands where it was written first. -/
theorem keys_ofList (pairs : List (κ × ν)) :
    (ofList pairs).keys = (pairs.map (·.1)).eraseDups := by
  induction pairs using List.reverseRecOn with
  | nil => rfl
  | append_singleton pairs p ih =>
    obtain ⟨k, v⟩ := p
    rw [ofList_concat, List.map_append, List.map_singleton, eraseDups_concat, ← ih]
    have hmem : (pairs.map (·.1)).contains k = (ofList pairs).contains k := by
      rw [contains_eq_contains_keys, ih, Bool.eq_iff_iff]
      simp [List.mem_eraseDups]
    rw [hmem]
    cases hk : (ofList pairs).contains k with
    | true => rw [keys_insert_of_contains v hk, if_pos rfl]
    | false => rw [keys_insert_of_not_contains v hk, if_neg (by decide)]

/-- Every key has the value that was written last. -/
theorem get?_ofList (pairs : List (κ × ν)) (k : κ) :
    (ofList pairs).get? k = pairs.reverse.lookup k := by
  induction pairs using List.reverseRecOn with
  | nil => rfl
  | append_singleton pairs p ih =>
    obtain ⟨k', v⟩ := p
    rw [ofList_concat, get?_insert, List.reverse_concat, List.lookup_cons, ih, BEq.comm]
    cases k == k' <;> rfl

omit [LawfulBEq κ] in
theorem insert_ne_empty (m : OrderedMap κ ν) (k : κ) (v : ν) : m.insert k v ≠ empty := by
  obtain ⟨es⟩ := m
  cases es with
  | nil => exact nofun
  | cons e rest =>
    obtain ⟨k', v'⟩ := e
    by_cases hk : (k' == k) = true <;> simp [insert, put, hk, empty]

omit [LawfulBEq κ] in
theorem exists_mem_of_get? {m : OrderedMap κ ν} {k : κ} {v : ν} (h : m.get? k = some v) :
    ∃ e ∈ m.entries, e.2 = v := by
  obtain ⟨e, he, rfl⟩ := Option.map_eq_some_iff.mp h
  exact ⟨e, List.mem_of_find?_eq_some he, rfl⟩

/-- A write of what is there already changes nothing. -/
theorem insert_of_get? {m : OrderedMap κ ν} {k : κ} {v : ν} (h : m.get? k = some v) :
    m.insert k v = m := by
  obtain ⟨es⟩ := m
  simp only [insert, get?] at h ⊢
  congr 1
  induction es with
  | nil => simp at h
  | cons e rest ih =>
    obtain ⟨k', v'⟩ := e
    by_cases hk : (k' == k) = true
    · have hv : v' = v := by simpa [hk] using h
      simp [put, hk, hv]
    · simp only [put, hk]
      rw [List.find?_cons_of_neg (by simpa using hk)] at h
      simp [ih h]

omit [LawfulBEq κ] in
theorem entries_insert_of_not_contains {m : OrderedMap κ ν} {k : κ} (v : ν)
    (h : m.contains k = false) : (m.insert k v).entries = m.entries ++ [(k, v)] := by
  obtain ⟨es⟩ := m
  simp only [insert, contains] at h ⊢
  induction es with
  | nil => rfl
  | cons e rest ih =>
    obtain ⟨k', v'⟩ := e
    simp only [List.any_cons, Bool.or_eq_false_iff] at h
    simp [put, h.1, ih h.2]

/-- The pairs of the keys that `f` knows. -/
def table (f : κ → Option ν) (ks : List κ) : List (κ × ν) :=
  ks.filterMap fun k => (f k).map (k, ·)

omit [BEq κ] [LawfulBEq κ] in
theorem table_concat (f : κ → Option ν) (ks : List κ) (k : κ) :
    table f (ks ++ [k]) = table f ks ++ (match f k with | none => [] | some v => [(k, v)]) := by
  unfold table
  rw [List.filterMap_append]
  cases hf : f k <;> simp [hf]

theorem get?_ofList_table (f : κ → Option ν) (ks : List κ) (k : κ) :
    (ofList (table f ks)).get? k = if k ∈ ks then f k else none := by
  induction ks using List.reverseRecOn with
  | nil => rfl
  | append_singleton ks j ih =>
    rw [table_concat]
    by_cases hj : j = k
    · subst hj
      cases hf : f j with
      | none => simp [ih, hf]
      | some v => simp [ofList_concat, get?_insert]
    · have hmem : k ∈ ks ++ [j] ↔ k ∈ ks := by simp [Ne.symm hj]
      simp only [hmem]
      cases hf : f j with
      | none => simpa using ih
      | some v => simpa [ofList_concat, get?_insert, hj] using ih

/-- Where the value depends on the key alone, every key stands where it was written first. -/
theorem entries_ofList_table (f : κ → Option ν) (ks : List κ) :
    (ofList (table f ks)).entries = table f ks.eraseDups := by
  induction ks using List.reverseRecOn with
  | nil => rfl
  | append_singleton ks k ih =>
    rw [table_concat, eraseDups_concat]
    have hget := get?_ofList_table f ks k
    by_cases hk : k ∈ ks
    · -- the key was written before, with the same value
      rw [if_pos hk] at hget
      rw [if_pos (by simpa using hk), ← ih]
      cases hf : f k with
      | none => simp
      | some v => rw [ofList_concat, insert_of_get? (hget.trans hf)]
    · rw [if_neg hk] at hget
      rw [if_neg (by simpa using hk), table_concat, ← ih]
      cases hf : f k with
      | none => simp
      | some v =>
        have hnot : (ofList (table f ks)).contains k = false := by
          rw [← isSome_get?, hget]
          rfl
        rw [ofList_concat, entries_insert_of_not_contains v hnot]

end Lawful

/-! ## Texts for keys -/

section TextKeys
variable {ν : Type v}

/-- The map with its texts among the values. -/
def withTextKeys (m : OrderedMap String ν) : OrderedMap Value ν :=
  ⟨m.entries.map fun (n, v) => (.str n, v)⟩

theorem keys_withTextKeys (m : OrderedMap String ν) :
    m.withTextKeys.keys = m.keys.map .str := by
  simp [keys, withTextKeys]

theorem get?_withTextKeys (m : OrderedMap String ν) (n : String) :
    m.withTextKeys.get? (.str n) = m.get? n := by
  simp [get?, withTextKeys, List.find?_map, Function.comp_def]

theorem get?_mapValues {μ : Type w} (f : ν → μ) (m : OrderedMap String ν) (n : String) :
    (m.mapValues f).get? n = (m.get? n).map f := by
  simp [get?, mapValues, List.find?_map, Function.comp_def]

theorem insert_withTextKeys (m : OrderedMap String ν) (n : String) (v : ν) :
    m.withTextKeys.insert (.str n) v = (m.insert n v).withTextKeys := by
  obtain ⟨es⟩ := m
  simp only [insert, withTextKeys]
  congr 1
  induction es with
  | nil => rfl
  | cons e rest ih =>
    obtain ⟨n', v'⟩ := e
    by_cases hn : (n' == n) = true
    · simp [put, hn]
    · simp only [List.map_cons, put, Value.str_beq_str, hn]
      simpa using ih

theorem withTextKeys_ofList (pairs : List (String × ν)) :
    (ofList pairs).withTextKeys = ofList (pairs.map fun (n, v) => (.str n, v)) := by
  induction pairs using List.reverseRecOn with
  | nil => rfl
  | append_singleton pairs e ih =>
    rw [List.map_append, List.map_singleton, ofList_concat, ofList_concat, ← ih,
      insert_withTextKeys]

end TextKeys

end RouteTree.OrderedMap
