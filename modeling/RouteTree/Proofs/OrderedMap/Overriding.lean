import RouteTree.Proofs.OrderedMap.TextKeys

/-!
# Maps written over maps

**To write one map over another is to write the pairs that it was made from** (`override_ofList`):
that a map lists a key once, where it was first written, changes neither the order nor the contents
of what it is written over. So maps may be written over each other from either side
(`override_foldl_override`).

Of `==` only symmetry and transitivity are needed. A key that does not even equal itself is never
found again, and every write of it adds a pair.
-/

namespace RouteTree.OrderedMap

variable {κ : Type u} {ν : Type v} [BEq κ]

theorem contains_insert_of_contains {m : OrderedMap κ ν} {k j : κ} (v : ν)
    (h : m.contains k = true) : (m.insert j v).contains k = true := by
  rw [contains_eq_any_keys] at h ⊢
  cases hj : m.contains j with
  | true => rwa [keys_insert_of_contains v hj]
  | false => rw [keys_insert_of_not_contains v hj, List.any_append, h, Bool.true_or]

theorem foldl_override (m : OrderedMap κ ν) (maps : List (OrderedMap κ ν)) :
    maps.foldl .override m = m.insertAll (maps.flatMap (·.entries)) := by
  induction maps generalizing m with
  | nil => rfl
  | cons first maps ih =>
    rw [List.foldl_cons, ih, List.flatMap_cons, insertAll_append]
    rfl

/-! ## Maps of related values -/

section Matches

variable {μ : Type w} {R : ν → μ → Prop}

/-- The second map has the keys of the first, with related values. -/
def Matches (R : ν → μ → Prop) (m : OrderedMap κ ν) (m' : OrderedMap κ μ) : Prop :=
  List.Forall₂ (fun e e' => e.1 = e'.1 ∧ R e.2 e'.2) m.entries m'.entries

omit [BEq κ] in
theorem matches_empty : Matches R (empty : OrderedMap κ ν) (empty : OrderedMap κ μ) :=
  List.Forall₂.nil

theorem Matches.insert {m : OrderedMap κ ν} {m' : OrderedMap κ μ} (h : Matches R m m') (k : κ)
    {v : ν} {v' : μ} (hv : R v v') : Matches R (m.insert k v) (m'.insert k v') := by
  obtain ⟨es⟩ := m
  obtain ⟨es'⟩ := m'
  unfold Matches at h ⊢
  simp only [OrderedMap.insert] at h ⊢
  induction h with
  | nil => exact List.Forall₂.cons ⟨rfl, hv⟩ .nil
  | @cons e e' rest rest' he hrest ih =>
    obtain ⟨j, w⟩ := e
    obtain ⟨j', w'⟩ := e'
    obtain ⟨rfl, hw⟩ := he
    by_cases hj : (j == k) = true
    · rw [OrderedMap.put, OrderedMap.put, if_pos hj, if_pos hj]
      exact .cons ⟨rfl, hv⟩ hrest
    · rw [OrderedMap.put, OrderedMap.put, if_neg hj, if_neg hj]
      exact .cons ⟨rfl, hw⟩ ih

theorem Matches.override {m o : OrderedMap κ ν} {m' o' : OrderedMap κ μ} (h : Matches R m m')
    (ho : Matches R o o') : Matches R (m.override o) (m'.override o') := by
  obtain ⟨es⟩ := o
  obtain ⟨es'⟩ := o'
  unfold OrderedMap.override
  unfold Matches at ho
  dsimp only at ho ⊢
  induction ho generalizing m m' with
  | nil => exact h
  | @cons e e' _ _ he _ ih =>
    obtain ⟨j, w⟩ := e
    obtain ⟨j', w'⟩ := e'
    obtain ⟨rfl, hw⟩ := he
    exact ih (h.insert j hw)

theorem Matches.foldl_override {m : OrderedMap κ ν} {m' : OrderedMap κ μ} (h : Matches R m m')
    {maps : List (OrderedMap κ ν)} {maps' : List (OrderedMap κ μ)}
    (hmaps : List.Forall₂ (Matches R) maps maps') :
    Matches R (maps.foldl .override m) (maps'.foldl .override m') := by
  induction hmaps generalizing m m' with
  | nil => exact h
  | cons hfirst _ ih => exact ih (h.override hfirst)

omit [BEq κ] in
/-- Every value of the first map is related to one of the second. -/
theorem Matches.exists_of_mem {m : OrderedMap κ ν} {m' : OrderedMap κ μ} (h : Matches R m m') {v : ν}
    (hv : v ∈ m.entries.map (·.2)) : ∃ v', R v v' := by
  obtain ⟨e, he, rfl⟩ := List.mem_map.mp hv
  unfold Matches at h
  generalize m.entries = es, m'.entries = es' at h he
  induction h with
  | nil => exact absurd he List.not_mem_nil
  | cons hfirst _ ih =>
    rcases List.mem_cons.mp he with rfl | he
    · exact ⟨_, hfirst.2⟩
    · exact ih he

end Matches

/-! ## Maps written from either side -/

theorem mem_put {k : κ} {v : ν} {es : List (κ × ν)} {e : κ × ν} (h : e ∈ put k v es) :
    e.1 = k ∨ ∃ e' ∈ es, e.1 = e'.1 := by
  induction es with
  | nil => exact .inl (by rw [List.mem_singleton.mp h])
  | cons e' rest ih =>
    obtain ⟨j, w⟩ := e'
    by_cases hj : (j == k) = true
    · rw [put, if_pos hj, List.mem_cons] at h
      rcases h with rfl | h
      · exact .inr ⟨_, List.mem_cons_self, rfl⟩
      · exact .inr ⟨e, List.mem_cons_of_mem _ h, rfl⟩
    · rw [put, if_neg hj, List.mem_cons] at h
      rcases h with rfl | h
      · exact .inr ⟨_, List.mem_cons_self, rfl⟩
      · rcases ih h with hk | ⟨e', he', heq⟩
        · exact .inl hk
        · exact .inr ⟨e', List.mem_cons_of_mem _ he', heq⟩

theorem value_of_mem_put {k : κ} {v : ν} {es : List (κ × ν)} {e : κ × ν} (h : e ∈ put k v es) :
    e.2 = v ∨ e ∈ es := by
  induction es with
  | nil => exact .inl (by rw [List.mem_singleton.mp h])
  | cons e' rest ih =>
    obtain ⟨j, w⟩ := e'
    by_cases hj : (j == k) = true
    · rw [put, if_pos hj, List.mem_cons] at h
      rcases h with rfl | h
      · exact .inl rfl
      · exact .inr (List.mem_cons_of_mem _ h)
    · rw [put, if_neg hj, List.mem_cons] at h
      rcases h with rfl | h
      · exact .inr List.mem_cons_self
      · exact (ih h).imp_right (List.mem_cons_of_mem _)

/-- Every value of a map is one of those that were written. -/
theorem exists_of_mem_ofList {pairs : List (κ × ν)} {e : κ × ν} (h : e ∈ (ofList pairs).entries) :
    ∃ e' ∈ pairs, e'.2 = e.2 := by
  induction pairs using List.reverseRecOn with
  | nil => exact absurd h List.not_mem_nil
  | append_singleton pairs last ih =>
    rw [ofList_concat] at h
    rcases value_of_mem_put h with hlast | h
    · exact ⟨last, List.mem_append_right _ (List.mem_singleton_self last), hlast.symm⟩
    · obtain ⟨e', he', heq⟩ := ih h
      exact ⟨e', List.mem_append_left _ he', heq⟩

variable [PartialEquivBEq κ]

theorem contains_insert_self {m : OrderedMap κ ν} {k j : κ} (h : (j == k) = true) (v : ν) :
    (m.insert j v).contains k = true := by
  rw [contains_eq_any_keys]
  cases hj : m.contains j with
  | true =>
    rw [keys_insert_of_contains v hj]
    -- the key that was found names the other one, too
    rw [contains_eq_any_keys] at hj
    obtain ⟨i, hi, hij⟩ := List.any_eq_true.mp hj
    exact List.any_eq_true.mpr ⟨i, hi, BEq.trans hij h⟩
  | false =>
    rw [keys_insert_of_not_contains v hj, List.any_append]
    simp [h]

/-- The second of two writes to one key is the one that counts. -/
theorem insert_insert (m : OrderedMap κ ν) {k j : κ} (h : (k == j) = true) (v w : ν) :
    (m.insert k v).insert j w = m.insert k w := by
  obtain ⟨es⟩ := m
  simp only [insert]
  congr 1
  induction es with
  | nil => simp [put, h]
  | cons e rest ih =>
    obtain ⟨i, u⟩ := e
    by_cases hik : (i == k) = true
    · simp [put, hik, BEq.trans hik h]
    · have hij : ¬ (i == j) = true := fun hij => hik (BEq.trans hij (BEq.symm h))
      simp [put, hik, hij, ih]

/-- A write to a known key may be made earlier. -/
theorem insert_comm_of_contains {m : OrderedMap κ ν} {k j : κ} (hk : m.contains k = true)
    (h : ¬ (j == k) = true) (v w : ν) : (m.insert j w).insert k v = (m.insert k v).insert j w := by
  obtain ⟨es⟩ := m
  simp only [insert, contains] at hk ⊢
  congr 1
  induction es with
  | nil => exact absurd hk Bool.false_ne_true
  | cons e rest ih =>
    obtain ⟨i, u⟩ := e
    by_cases hik : (i == k) = true
    · have hij : ¬ (i == j) = true := fun hij => h (BEq.trans (BEq.symm hij) hik)
      simp [put, hik, hij]
    · have hrest : rest.any (·.1 == k) = true := by simpa [hik] using hk
      by_cases hij : (i == j) = true
      · simp [put, hik, hij]
      · simp [put, hik, hij, ih hrest]

theorem insertAll_insert_comm {m : OrderedMap κ ν} {k : κ} (hk : m.contains k = true)
    {pairs : List (κ × ν)} (h : ∀ e ∈ pairs, ¬ (e.1 == k) = true) (v : ν) :
    (m.insertAll pairs).insert k v = (m.insert k v).insertAll pairs := by
  induction pairs generalizing m with
  | nil => rfl
  | cons e pairs ih =>
    obtain ⟨j, w⟩ := e
    rw [insertAll_cons, insertAll_cons, ih (contains_insert_of_contains w hk)
      fun e he => h e (List.mem_cons_of_mem _ he),
      insert_comm_of_contains hk (h _ List.mem_cons_self)]

/-- No key is listed twice. -/
def Apart (pairs : List (κ × ν)) : Prop := pairs.Pairwise fun e e' => ¬ (e'.1 == e.1) = true

theorem Apart.put {es : List (κ × ν)} (h : Apart es) (k : κ) (v : ν) : Apart (put k v es) := by
  induction es with
  | nil => exact List.pairwise_singleton _ _
  | cons e rest ih =>
    obtain ⟨j, w⟩ := e
    obtain ⟨hfirst, hrest⟩ := List.pairwise_cons.mp h
    by_cases hj : (j == k) = true
    · rw [OrderedMap.put, if_pos hj]
      exact List.pairwise_cons.mpr ⟨hfirst, hrest⟩
    · rw [OrderedMap.put, if_neg hj]
      refine List.pairwise_cons.mpr ⟨fun e he => ?_, ih hrest⟩
      rcases mem_put he with hek | ⟨e', he', heq⟩
      · rw [hek]
        exact fun hkj => hj (BEq.symm hkj)
      · rw [heq]
        exact hfirst e' he'

theorem apart_ofList (pairs : List (κ × ν)) : Apart (ofList pairs).entries := by
  induction pairs using List.reverseRecOn with
  | nil => exact List.Pairwise.nil
  | append_singleton pairs e ih =>
    rw [ofList_concat]
    exact ih.put e.1 e.2

/-- A write to a map that is written over another may be made afterwards. -/
theorem insertAll_put (m : OrderedMap κ ν) {es : List (κ × ν)} (h : Apart es) (k : κ) (v : ν) :
    m.insertAll (put k v es) = (m.insertAll es).insert k v := by
  induction es generalizing m with
  | nil => rfl
  | cons e rest ih =>
    obtain ⟨j, w⟩ := e
    obtain ⟨hfirst, hrest⟩ := List.pairwise_cons.mp h
    by_cases hj : (j == k) = true
    · -- the write moves to where the key was written before
      have hothers : ∀ e ∈ rest, ¬ (e.1 == k) = true := fun e he hek =>
        hfirst e he (BEq.trans hek (BEq.symm hj))
      rw [put, if_pos hj, insertAll_cons, insertAll_cons,
        insertAll_insert_comm (contains_insert_self hj w) hothers, insert_insert m hj]
    · rw [put, if_neg hj, insertAll_cons, insertAll_cons]
      exact ih (m.insert j w) hrest

/-- **To write a map over another is to write the pairs it was made from.** -/
theorem override_ofList (m : OrderedMap κ ν) (pairs : List (κ × ν)) :
    m.override (ofList pairs) = m.insertAll pairs := by
  induction pairs using List.reverseRecOn with
  | nil => rfl
  | append_singleton pairs e ih =>
    rw [ofList_concat, insertAll_append, ← ih]
    exact insertAll_put m (apart_ofList pairs) e.1 e.2

theorem empty_override_ofList (pairs : List (κ × ν)) :
    empty.override (ofList pairs) = ofList pairs :=
  override_ofList empty pairs

/-- **Maps may be written over each other from either side.** -/
theorem override_foldl_override (m : OrderedMap κ ν) (maps : List (OrderedMap κ ν)) :
    m.override (maps.foldl .override .empty) = maps.foldl .override m := by
  rw [foldl_override, foldl_override]
  exact override_ofList m _

/-! ## Forgetting -/

omit [PartialEquivBEq κ] in
/-- A key that is forgotten has no value. -/
theorem get?_erase_self (m : OrderedMap κ ν) (k : κ) : (m.erase k).get? k = none := by
  simp [get?, erase]

/-- To forget a key changes nothing about another. -/
theorem get?_erase_of_ne {k j : κ} (h : (k == j) = false) (m : OrderedMap κ ν) :
    (m.erase k).get? j = m.get? j := by
  have hother : ∀ e : κ × ν, (!e.1 == k) = true ∧ (e.1 == j) = true ↔ (e.1 == j) = true := by
    refine fun e => and_iff_right_of_imp fun hj => ?_
    by_contra hk
    have hkj : (k == j) = true := BEq.trans (BEq.symm (by simpa using hk)) hj
    rw [h] at hkj
    exact absurd hkj nofun
  simp only [get?, erase, List.find?_filter, hother, Bool.decide_eq_true]

end RouteTree.OrderedMap
