import RouteTree.Proofs.Text.Scanning

/-!
# Finds from left to right

What it is to find everything from left to right and without overlap, said of places and not of a
scan (`Leftmost`): the finds stand one behind another, and whatever begins in the text begins inside
one of them. **There is one such list only** (`Leftmost.unique`), and **it is what a scan finds**
(`leftmost_spans`).

What a scan writes in place of its finds can be said of places as well. If it keeps the beginning of
every find, **the characters at all other places of the finds are left out, and those that remain keep
their order** (`replaceFinds_eq_uncut`).
-/

namespace RouteTree.Text

variable {α β : Type}

/-- From `least` on, these are the finds from left to right and without overlap. `Found` says what there
is to be found, and from where to where. -/
structure Leftmost (Found : Nat → Nat → α → Prop) (least : Nat) (ms : List (Nat × Nat × α)) :
    Prop where
  found : ∀ m ∈ ms, least ≤ m.1 ∧ Found m.1 m.2.1 m.2.2
  /-- They stand one behind another. -/
  apart : ms.Pairwise fun m n => m.2.1 ≤ n.1
  /-- What begins anywhere begins inside one of them. -/
  covers : ∀ start stop value, least ≤ start → Found start stop value →
    ∃ m ∈ ms, m.1 ≤ start ∧ start < m.2.1

/-- What is found at a place is not empty, and there is one such find only. -/
structure IsSingle (Found : Nat → Nat → α → Prop) : Prop where
  lt : ∀ {start stop value}, Found start stop value → start < stop
  unique : ∀ {start stop stop' value value'}, Found start stop value → Found start stop' value' →
    stop = stop' ∧ value = value'

namespace Leftmost

variable {Found : Nat → Nat → α → Prop} {least stop : Nat} {ms ms' : List (Nat × Nat × α)}
  {value : α}

theorem nil (h : ∀ start stop value, least ≤ start → ¬ Found start stop value) :
    Leftmost Found least [] where
  found := fun _ hm => absurd hm List.not_mem_nil
  apart := .nil
  covers start stop value hstart hfound := absurd hfound (h start stop value hstart)

/-- Where nothing begins, the finds are those behind. -/
theorem skip (h : ∀ stop value, ¬ Found least stop value) (hrest : Leftmost Found (least + 1) ms) :
    Leftmost Found least ms where
  found m hm := ⟨Nat.le_of_succ_le (hrest.found m hm).1, (hrest.found m hm).2⟩
  apart := hrest.apart
  covers start stop value hstart hfound := by
    have hne : start ≠ least := by
      rintro rfl
      exact h stop value hfound
    exact hrest.covers start stop value (by omega) hfound

/-- Where something is found, the others are those behind it. -/
theorem cons (hlt : least < stop) (hfound : Found least stop value)
    (hrest : Leftmost Found stop ms) : Leftmost Found least ((least, stop, value) :: ms) where
  found m hm := by
    rcases List.mem_cons.mp hm with rfl | hm
    · exact ⟨Nat.le_refl _, hfound⟩
    · exact ⟨Nat.le_trans (Nat.le_of_lt hlt) (hrest.found m hm).1, (hrest.found m hm).2⟩
  apart := List.pairwise_cons.mpr ⟨fun m hm => (hrest.found m hm).1, hrest.apart⟩
  covers start stop' value' hstart hfound' := by
    by_cases hbehind : stop ≤ start
    · obtain ⟨m, hm, hinside⟩ := hrest.covers start stop' value' hbehind hfound'
      exact ⟨m, List.mem_cons_of_mem _ hm, hinside⟩
    · exact ⟨_, List.mem_cons_self, hstart, Nat.lt_of_not_le hbehind⟩

/-- The finds behind the first one. -/
theorem tail {m : Nat × Nat × α} (h : Leftmost Found least (m :: ms)) (hlt : m.1 < m.2.1) :
    Leftmost Found m.2.1 ms where
  found n hn := ⟨(List.pairwise_cons.mp h.apart).1 n hn, (h.found n (List.mem_cons_of_mem _ hn)).2⟩
  apart := (List.pairwise_cons.mp h.apart).2
  covers start stop value hstart hfound := by
    have hleast := (h.found m List.mem_cons_self).1
    obtain ⟨n, hn, hinside⟩ := h.covers start stop value (by omega) hfound
    rcases List.mem_cons.mp hn with rfl | hn
    · omega
    · exact ⟨n, hn, hinside⟩

/-- The first find begins no later than anything else. -/
theorem head_le {m : Nat × Nat × α} (h : Leftmost Found least (m :: ms)) (hlt : m.1 < m.2.1)
    {start stop : Nat} {value : α} (hstart : least ≤ start) (hfound : Found start stop value) :
    m.1 ≤ start := by
  obtain ⟨n, hn, hinside⟩ := h.covers start stop value hstart hfound
  rcases List.mem_cons.mp hn with rfl | hn
  · exact hinside.1
  · have hbehind := (List.pairwise_cons.mp h.apart).1 n hn
    omega

/-- **There is one list of finds only.** -/
theorem unique (hsingle : IsSingle Found) (h : Leftmost Found least ms)
    (h' : Leftmost Found least ms') : ms = ms' := by
  induction ms generalizing least ms' with
  | nil =>
    cases ms' with
    | nil => rfl
    | cons m' ms' =>
      obtain ⟨hleast, hfound⟩ := h'.found m' List.mem_cons_self
      obtain ⟨m, hm, -⟩ := h.covers _ _ _ hleast hfound
      exact absurd hm List.not_mem_nil
  | cons m ms ih =>
    obtain ⟨hleast, hfound⟩ := h.found m List.mem_cons_self
    cases ms' with
    | nil =>
      obtain ⟨m', hm', -⟩ := h'.covers _ _ _ hleast hfound
      exact absurd hm' List.not_mem_nil
    | cons m' ms' =>
      obtain ⟨hleast', hfound'⟩ := h'.found m' List.mem_cons_self
      -- each of the two begins no later than the other
      have hstart : m.1 = m'.1 := Nat.le_antisymm
        (h.head_le (hsingle.lt hfound) hleast' hfound')
        (h'.head_le (hsingle.lt hfound') hleast hfound)
      obtain ⟨hstop, hvalue⟩ := hsingle.unique hfound (hstart ▸ hfound')
      obtain rfl : m = m' := Prod.ext hstart (Prod.ext hstop hvalue)
      rw [ih (h.tail (hsingle.lt hfound)) (h'.tail (hsingle.lt hfound))]

/-- The finds, each shown by something else. -/
theorem map {Shown : Nat → Nat → β → Prop} {show' : α → β}
    (hshown : ∀ start stop shown,
      Shown start stop shown ↔ ∃ value, Found start stop value ∧ shown = show' value)
    (h : Leftmost Found least ms) :
    Leftmost Shown least (ms.map fun m => (m.1, m.2.1, show' m.2.2)) where
  found n hn := by
    obtain ⟨m, hm, rfl⟩ := List.mem_map.mp hn
    exact ⟨(h.found m hm).1, (hshown _ _ _).mpr ⟨m.2.2, (h.found m hm).2, rfl⟩⟩
  apart := List.pairwise_map.mpr h.apart
  covers start stop shown hstart hfound := by
    obtain ⟨value, hfound, -⟩ := (hshown start stop shown).mp hfound
    obtain ⟨m, hm, hinside⟩ := h.covers start stop value hstart hfound
    exact ⟨_, List.mem_map_of_mem hm, hinside⟩

end Leftmost

/-! ## What a scan finds -/

/-- The recogniser finds the value in the text, from `start` to `stop`. -/
def Recogniser.FindsAt (find : Recogniser α) (text : List Char) (start stop : Nat) (value : α) :
    Prop :=
  stop ≤ text.length ∧ find (text.drop start) = some (value, text.drop stop)

theorem Recogniser.Consumes.isSingle_findsAt {find : Recogniser α} (hfind : find.Consumes)
    (text : List Char) : IsSingle (find.FindsAt text) where
  lt := by
    rintro start stop value ⟨hstop, hfound⟩
    obtain ⟨found, hne, heq⟩ := hfind _ _ _ hfound
    have hlength := congrArg List.length heq
    have hpos := List.length_pos_iff.mpr hne
    simp only [List.length_append, List.length_drop] at hlength
    omega
  unique := by
    rintro start stop stop' value value' ⟨hstop, hfound⟩ ⟨hstop', hfound'⟩
    obtain ⟨rfl, hrest⟩ := Prod.mk.inj (Option.some.inj (hfound.symm.trans hfound'))
    have hlength := congrArg List.length hrest
    simp only [List.length_drop] at hlength
    exact ⟨by omega, rfl⟩

/-- What a scan finds in the second part of a text. -/
theorem leftmost_spans_append {find : Recogniser α} (hfind : find.Consumes) (before cs : List Char) :
    Leftmost (find.FindsAt (before ++ cs)) before.length (spans before.length (pieces find cs)) := by
  induction cs using scan_induction hfind generalizing before with
  | nil =>
    refine .nil fun start stop value hstart hfound => ?_
    have hlt := (hfind.isSingle_findsAt _).lt hfound
    have hstop := hfound.1
    rw [List.append_nil] at hstop
    omega
  | other c cs hnone ih =>
    rw [pieces_cons_of_none hnone]
    refine .skip (fun stop value hfound => ?_) ?_
    · have hread := hfound.2
      rw [List.drop_left, hnone] at hread
      exact absurd hread nofun
    · simpa [spans] using ih (before ++ [c])
  | found text value rest hne hsome ih =>
    have hpos := List.length_pos_iff.mpr hne
    rw [pieces_append_of_some hne hsome]
    refine .cons (by omega) ⟨?_, ?_⟩ ?_
    · simp only [List.length_append]
      omega
    · rw [List.drop_left, hsome, ← List.length_append, ← List.append_assoc, List.drop_left]
    · simpa using ih (before ++ text)

/-- **A scan finds everything from left to right and without overlap.** -/
theorem leftmost_spans {find : Recogniser α} (hfind : find.Consumes) (text : List Char) :
    Leftmost (find.FindsAt text) 0 (spans 0 (pieces find text)) :=
  leftmost_spans_append hfind [] text

/-! ## What is left of a text -/

/-- The place is inside a find, behind what is kept of it. -/
def IsCut (keep : α → List Char) (ms : List (Nat × Nat × α)) (i : Nat) : Prop :=
  ∃ m ∈ ms, m.1 + (keep m.2.2).length ≤ i ∧ i < m.2.1

instance (keep : α → List Char) (ms : List (Nat × Nat × α)) (i : Nat) :
    Decidable (IsCut keep ms i) :=
  inferInstanceAs (Decidable (∃ m ∈ ms, _))

theorem isCut_cons_iff {keep : α → List Char} {start stop : Nat} {value : α}
    {ms : List (Nat × Nat × α)} {i : Nat} :
    IsCut keep ((start, stop, value) :: ms) i ↔
      start + (keep value).length ≤ i ∧ i < stop ∨ IsCut keep ms i := by
  simp [IsCut]

theorem le_of_mem_spans {ps : List (Piece α)} {start : Nat} {m : Nat × Nat × α}
    (h : m ∈ spans start ps) : start ≤ m.1 := by
  induction ps generalizing start with
  | nil => exact absurd h List.not_mem_nil
  | cons p ps ih =>
    cases p with
    | other c => exact Nat.le_of_succ_le (ih h)
    | found value text =>
      rcases List.mem_cons.mp h with rfl | h
      · exact Nat.le_refl _
      · exact Nat.le_trans (Nat.le_add_right _ _) (ih h)

/-- Nothing is cut before the place at which a scan begins. -/
theorem not_isCut_spans {keep : α → List Char} {ps : List (Piece α)} {start i : Nat} (hi : i < start) :
    ¬ IsCut keep (spans start ps) i := by
  rintro ⟨m, hm, hcut⟩
  have hstart := le_of_mem_spans hm
  omega

/-- The characters of a text that counts from `start`, without those at places that are cut. -/
def uncut (keep : α → List Char) (ms : List (Nat × Nat × α)) (start : Nat) (text : List Char) :
    List Char :=
  ((text.zipIdx start).filter fun c => ¬ IsCut keep ms c.2).map (·.1)

section Uncut

variable {keep : α → List Char} {ms ms' : List (Nat × Nat × α)} {start : Nat}

theorem uncut_append (text rest : List Char) :
    uncut keep ms start (text ++ rest) =
      uncut keep ms start text ++ uncut keep ms (start + text.length) rest := by
  unfold uncut
  rw [List.zipIdx_append, List.filter_append, List.map_append]

theorem uncut_congr {text : List Char} (h : ∀ i, start ≤ i → i < start + text.length →
    (IsCut keep ms i ↔ IsCut keep ms' i)) : uncut keep ms start text = uncut keep ms' start text := by
  unfold uncut
  refine congrArg (List.map _) (List.filter_congr fun c hc => ?_)
  have hplace := List.mem_zipIdx hc
  exact decide_eq_decide.mpr (not_congr (h c.2 hplace.1 hplace.2.1))

theorem uncut_eq_self {text : List Char}
    (h : ∀ i, start ≤ i → i < start + text.length → ¬ IsCut keep ms i) :
    uncut keep ms start text = text := by
  unfold uncut
  rw [List.filter_eq_self.mpr fun c hc => ?_, List.zipIdx_map_fst]
  have hplace := List.mem_zipIdx hc
  simpa using h c.2 hplace.1 hplace.2.1

theorem uncut_eq_nil {text : List Char}
    (h : ∀ i, start ≤ i → i < start + text.length → IsCut keep ms i) :
    uncut keep ms start text = [] := by
  unfold uncut
  rw [List.filter_eq_nil_iff.mpr fun c hc => ?_, List.map_nil]
  have hplace := List.mem_zipIdx hc
  simpa using h c.2 hplace.1 hplace.2.1

/-- Of a find, what is kept is left. -/
theorem uncut_find (value : α) (cut rest : List Char)
    (hms : ∀ i, i < start + (keep value ++ cut).length → ¬ IsCut keep ms i) :
    uncut keep ((start, start + (keep value ++ cut).length, value) :: ms) start
        (keep value ++ cut ++ rest) =
      keep value ++ uncut keep ms (start + (keep value ++ cut).length) rest := by
  have hlength : (keep value ++ cut).length = (keep value).length + cut.length :=
    List.length_append
  rw [uncut_append, uncut_append, uncut_eq_self, uncut_eq_nil, List.append_nil, uncut_congr]
  · -- behind the find, only the others cut
    exact fun i hi _ => isCut_cons_iff.trans (or_iff_right fun hcut => by omega)
  · exact fun i hi hi' => isCut_cons_iff.mpr (.inl ⟨hi, by omega⟩)
  · intro i hi hi' hcut
    rcases isCut_cons_iff.mp hcut with hcut | hcut
    · omega
    · exact hms i (by omega) hcut

end Uncut

/-- **A scan that keeps the beginning of its finds leaves the places that are not cut**, in order. -/
theorem replaceFinds_eq_uncut {find : Recogniser α} (hfind : find.Consumes)
    {keep : α → List Char} (hkeep : ∀ text value rest, find (text ++ rest) = some (value, rest) →
      keep value <+: text) (start : Nat) (cs : List Char) :
    replaceFinds keep (pieces find cs) = uncut keep (spans start (pieces find cs)) start cs := by
  induction cs using scan_induction hfind generalizing start with
  | nil => rfl
  | other c cs hnone ih =>
    have hfirst : uncut keep (spans (start + 1) (pieces find cs)) start [c] = [c] := by
      refine uncut_eq_self fun i _ hi => not_isCut_spans ?_
      simpa using hi
    have hsplit : uncut keep (spans (start + 1) (pieces find cs)) start (c :: cs) =
        uncut keep (spans (start + 1) (pieces find cs)) start [c] ++
          uncut keep (spans (start + 1) (pieces find cs)) (start + 1) cs := uncut_append [c] cs
    rw [pieces_cons_of_none hnone, replaceFinds_other, ih (start + 1)]
    exact (hsplit.trans (congrArg (· ++ _) hfirst)).symm
  | found text value rest hne hsome ih =>
    obtain ⟨cut, rfl⟩ := hkeep _ _ _ hsome
    rw [pieces_append_of_some hne hsome, replaceFinds_found, ih (start + (keep value ++ cut).length)]
    exact (uncut_find value cut rest fun i hi => not_isCut_spans hi).symm

end RouteTree.Text
