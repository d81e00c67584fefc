import Mathlib.Data.List.Nodup
import Mathlib.Data.Set.Function
import RouteTree.Proofs.Url.Leaves
import RouteTree.Proofs.Url.Queries

/-!
# Queries keep structure

**A query in the format `indices` tells the parameters it was made from** (`serialize_injOn`): which
values are lists and which are maps, how they are nested, and the order of the entries. That needs
parameters of which everything can be seen (`IsLegible`). Only texts and what is put together from
them can be told from what is written of them; an empty list or map writes nothing; and keys must not
hold a sign that steps are written with, or be taken for the index of an item.

A query tells its pairs (`text_injective`), and the pair of a leaf tells the leaf (`pair_inj`), as the
signs in a key are those between its steps. The leaves tell the value (`eq_of_leaves`): those that
begin with one step stand side by side, and are the leaves of one part.
-/

namespace RouteTree.Query

open Text

/-- Two lists that go on with a stop, and hold none before, end where they stop. -/
theorem append_inj_of_stops {α : Type} {stop : α → Prop} {xs xs' rest rest' : List α}
    (hxs : ∀ x ∈ xs, ¬ stop x) (hxs' : ∀ x ∈ xs', ¬ stop x) (hrest : ∀ x ∈ rest.head?, stop x)
    (hrest' : ∀ x ∈ rest'.head?, stop x) (h : xs ++ rest = xs' ++ rest') :
    xs = xs' ∧ rest = rest' := by
  induction xs generalizing xs' with
  | nil =>
    cases xs' with
    | nil => exact ⟨rfl, h⟩
    | cons x' xs' =>
      obtain rfl : rest = x' :: (xs' ++ rest') := h
      exact absurd (hrest x' rfl) (hxs' x' List.mem_cons_self)
  | cons x xs ih =>
    cases xs' with
    | nil =>
      obtain rfl : rest' = x :: (xs ++ rest) := h.symm
      exact absurd (hrest' x rfl) (hxs x List.mem_cons_self)
    | cons x' xs' =>
      obtain ⟨rfl, htail⟩ := List.cons.inj h
      obtain ⟨rfl, hrests⟩ := ih (fun y hy => hxs y (List.mem_cons_of_mem _ hy))
        (fun y hy => hxs' y (List.mem_cons_of_mem _ hy)) htail
      exact ⟨rfl, hrests⟩

theorem eq_of_map_eq {α β : Type} {f : α → β} {xs ys : List α}
    (hf : ∀ x ∈ xs, ∀ y ∈ ys, f x = f y → x = y) (h : xs.map f = ys.map f) : xs = ys := by
  induction xs generalizing ys with
  | nil => exact (List.map_eq_nil_iff.mp h.symm).symm
  | cons x xs ih =>
    obtain ⟨y, ys, rfl, hxy, hrest⟩ := List.map_eq_cons_iff.mp h.symm
    rw [hf x List.mem_cons_self y List.mem_cons_self hxy.symm]
    exact congrArg (y :: ·) (ih (fun x hx y hy =>
      hf x (List.mem_cons_of_mem _ hx) y (List.mem_cons_of_mem _ hy)) hrest.symm)

/-! ## A query tells its pairs -/

theorem percentEncode_injective : Function.Injective percentEncode := by
  intro s t h
  have hread := percentDecode_percentEncode s
  rw [h, percentDecode_percentEncode] at hread
  exact (Option.some.inj hread).symm

theorem pairText_injective : Function.Injective (pairText true) := by
  intro p q h
  have hsides := splitOn_pairText p
  rw [h, splitOn_pairText] at hsides
  obtain ⟨hkey, hvalue⟩ := List.cons.inj hsides
  exact Prod.ext (percentEncode_injective hkey.symm)
    (percentEncode_injective (List.cons.inj hvalue).1.symm)

theorem pairText_ne_nil (pair : List Char × List Char) : pairText true pair ≠ [] := by
  simp [pairText]

/-- The query of a pair is not empty. -/
theorem text_ne_nil {ps : List (List Char × List Char)} (h : ps ≠ []) : text true ps ≠ [] := by
  intro hnil
  have hpieces := splitOn_text h
  rw [hnil] at hpieces
  obtain ⟨pair, hpair⟩ : ∃ pair ∈ ps, pairText true pair = [] := by
    rw [← List.mem_map, ← hpieces]
    exact List.mem_singleton_self []
  exact pairText_ne_nil pair hpair.2

theorem text_injective : Function.Injective (text true) := by
  intro ps qs h
  by_cases hps : ps = []
  · by_contra hne
    exact text_ne_nil (fun hqs => hne (hps.trans hqs.symm)) (h.symm.trans (hps ▸ rfl))
  · have hqs : qs ≠ [] := fun hqs => text_ne_nil hps (h.trans (hqs ▸ rfl))
    have hpieces := splitOn_text hps
    rw [h, splitOn_text hqs] at hpieces
    exact List.map_injective_iff.mpr pairText_injective hpieces.symm

/-! ## Legible parameters -/

variable {dots : Bool}

/-- No sign that steps are written with is in the text. -/
structure IsPlain (dots : Bool) (text : List Char) : Prop where
  opening : '[' ∉ text
  closing : ']' ∉ text
  dot : dots = true → '.' ∉ text

instance (dots : Bool) (text : List Char) : Decidable (IsPlain dots text) :=
  decidable_of_iff ('[' ∉ text ∧ ']' ∉ text ∧ (dots = true → '.' ∉ text))
    ⟨fun ⟨hopening, hclosing, hdot⟩ => ⟨hopening, hclosing, hdot⟩,
      fun h => ⟨h.opening, h.closing, h.dot⟩⟩

/-- The keys of a map are different texts without signs. -/
structure ArePlain (dots : Bool) (keys : List Value) : Prop where
  nodup : keys.Nodup
  text : ∀ k ∈ keys, ∃ s : String, k = .str s ∧ IsPlain dots s.toList

theorem arePlain_texts (names : List String) (hnodup : names.Nodup)
    (hplain : ∀ s ∈ names, IsPlain dots s.toList) : ArePlain dots (names.map .str) where
  nodup := hnodup.map fun _ _ => Value.str.inj
  text k hk := by
    obtain ⟨s, hs, rfl⟩ := List.mem_map.mp hk
    exact ⟨s, rfl, hplain s hs⟩

/-- Everything of the value can be seen in what is written of it. -/
inductive IsLegible (dots : Bool) : Value → Prop where
  | text (s : String) : IsLegible dots (.str s)
  | list {items : List Value} (hsome : items ≠ []) (hitems : ∀ v ∈ items, IsLegible dots v) :
    IsLegible dots (.list items)
  /-- Between brackets, a numeral would be taken for an index. -/
  | map {entries : List (Value × Value)} (hsome : entries ≠ [])
    (hkeys : ArePlain dots (entries.map (·.1)))
    (hnumeral : dots = false → ∀ e ∈ entries, ∀ n : Nat, e.1 ≠ .str n.repr)
    (hvalues : ∀ e ∈ entries, IsLegible dots e.2) : IsLegible dots (.map entries)

/-- Everything of the parameters can be seen in their query. There may be none. -/
structure AreLegible (dots : Bool) (params : Params) : Prop where
  keys : ArePlain dots params.keys
  values : ∀ e ∈ params.entries, IsLegible dots e.2

/-- A step that keys write so that it can be read. -/
def Step.IsPlain (dots : Bool) : Step → Prop
  | .entry key => Query.IsPlain dots key ∧ (dots = false → ∀ n : Nat, key ≠ Nat.toDigits 10 n)
  | .item _ => True

/-- A leaf whose pair tells it. -/
structure Leaf.IsLegible (dots : Bool) (l : Leaf) : Prop where
  path : ∀ s ∈ l.path, s.IsPlain dots
  value : ∃ s, l.value = .str s

theorem Leaf.IsLegible.under {l : Leaf} (h : l.IsLegible dots) {s : Step} (hs : s.IsPlain dots) :
    (l.under s).IsLegible dots :=
  ⟨List.forall_mem_cons.mpr ⟨hs, h.path⟩, h.value⟩

theorem mem_itemLeaves {l : Leaf} {vs : List Value} {index : Nat} (h : l ∈ itemLeaves vs index) :
    ∃ v ∈ vs, ∃ m ∈ leaves v, ∃ i, l = m.under (.item i) := by
  rw [itemLeaves_eq_flatMap, List.mem_flatMap] at h
  obtain ⟨item, hitem, h⟩ := h
  obtain ⟨m, hm, rfl⟩ := List.mem_map.mp h
  exact ⟨item.1, List.fst_mem_of_mem_zipIdx hitem, m, hm, item.2, rfl⟩

theorem mem_entryLeaves {l : Leaf} {es : List (Value × Value)} (h : l ∈ entryLeaves es) :
    ∃ e ∈ es, ∃ m ∈ leaves e.2, l = m.under (.entry e.1.text.toList) := by
  rw [entryLeaves_eq_flatMap, List.mem_flatMap] at h
  obtain ⟨e, he, h⟩ := h
  obtain ⟨m, hm, rfl⟩ := List.mem_map.mp h
  exact ⟨e, he, m, hm, rfl⟩

/-- The leaves of a legible value are legible. -/
theorem IsLegible.leaves {v : Value} (h : IsLegible dots v) :
    ∀ l ∈ Query.leaves v, l.IsLegible dots := by
  induction h with
  | text s =>
    intro l hl
    obtain rfl := List.mem_singleton.mp hl
    exact ⟨nofun, s, rfl⟩
  | list _ _ ih =>
    intro l hl
    obtain ⟨v, hv, m, hm, i, rfl⟩ := mem_itemLeaves hl
    exact (ih v hv m hm).under trivial
  | map _ hkeys hnumeral _ ih =>
    intro l hl
    obtain ⟨e, he, m, hm, rfl⟩ := mem_entryLeaves hl
    obtain ⟨s, hs, hplain⟩ := hkeys.text e.1 (List.mem_map_of_mem he)
    refine (ih e he m hm).under ⟨?_, fun hdots n hn => hnumeral hdots e he n ?_⟩
    · rwa [hs]
    · rw [hs, Nat.repr, ← hn, hs, Value.text_str, String.ofList_toList]

/-! ## A pair tells its leaf -/

/-- A character that steps are written with. -/
def IsSign (dots : Bool) (c : Char) : Prop := c = '[' ∨ c = ']' ∨ dots = true ∧ c = '.'

theorem IsPlain.not_isSign {text : List Char} (h : IsPlain dots text) :
    ∀ c ∈ text, ¬ IsSign dots c := by
  rintro c hc (rfl | rfl | ⟨hdots, rfl⟩)
  · exact h.opening hc
  · exact h.closing hc
  · exact h.dot hdots hc

theorem toDigits_injective : Function.Injective (Nat.toDigits 10) :=
  Function.LeftInverse.injective fun _ => Nat.ofDigitChars_toDigits (by decide) (by decide)

theorem isPlain_toDigits (dots : Bool) (n : Nat) : IsPlain dots (Nat.toDigits 10 n) := by
  have hdigit : ∀ c ∈ Nat.toDigits 10 n, c.isDigit = true := fun c hc =>
    Nat.isDigit_of_mem_toDigits (by decide) (by decide) hc
  exact ⟨fun h => absurd (hdigit _ h) (by decide), fun h => absurd (hdigit _ h) (by decide),
    fun _ h => absurd (hdigit _ h) (by decide)⟩

/-- Between brackets, a text without signs ends at the closing one. -/
theorem bracketed_append_inj {body body' rest rest' : List Char} (hbody : IsPlain dots body)
    (hbody' : IsPlain dots body')
    (h : '[' :: body ++ [']'] ++ rest = '[' :: body' ++ [']'] ++ rest') :
    body = body' ∧ rest = rest' := by
  have hclosed : body ++ ']' :: rest = body' ++ ']' :: rest' := by simpa using h
  obtain ⟨rfl, hrest⟩ := append_inj_of_stops hbody.not_isSign hbody'.not_isSign
    (by simp [IsSign]) (by simp [IsSign]) hclosed
  exact ⟨rfl, (List.cons.inj hrest).2⟩

/-- No entry is written like an item. -/
theorem entry_ne_item {key rest rest' : List Char} {index : Nat}
    (h : (Step.entry key).IsPlain dots) : (Step.entry key).text .indices dots ++ rest ≠
      (Step.item index).text .indices dots ++ rest' := by
  intro heq
  cases dots with
  | true => exact absurd (List.cons.inj heq).1 (by decide)
  | false => exact h.2 rfl index (bracketed_append_inj h.1 (isPlain_toDigits _ index) heq).1

/-- A step ends where the next one begins. -/
theorem text_append_inj {s s' : Step} {rest rest' : List Char} (hs : s.IsPlain dots)
    (hs' : s'.IsPlain dots) (hrest : ∀ c ∈ rest.head?, IsSign dots c)
    (hrest' : ∀ c ∈ rest'.head?, IsSign dots c)
    (h : s.text .indices dots ++ rest = s'.text .indices dots ++ rest') : s = s' ∧ rest = rest' := by
  cases s with
  | entry key =>
    cases s' with
    | entry key' =>
      cases dots with
      | true =>
        obtain ⟨rfl, hrests⟩ := append_inj_of_stops hs.1.not_isSign hs'.1.not_isSign hrest hrest'
          (List.cons.inj h).2
        exact ⟨rfl, hrests⟩
      | false =>
        obtain ⟨rfl, hrests⟩ := bracketed_append_inj hs.1 hs'.1 h
        exact ⟨rfl, hrests⟩
    | item index' => exact absurd h (entry_ne_item hs)
  | item index =>
    cases s' with
    | entry key' => exact absurd h.symm (entry_ne_item hs')
    | item index' =>
      obtain ⟨hindex, hrests⟩ :=
        bracketed_append_inj (isPlain_toDigits dots index) (isPlain_toDigits dots index') h
      exact ⟨congrArg Step.item (toDigits_injective hindex), hrests⟩

theorem text_eq_cons (dots : Bool) (s : Step) :
    ∃ c cs, s.text .indices dots = c :: cs ∧ IsSign dots c := by
  cases s with
  | item index => exact ⟨_, _, rfl, .inl rfl⟩
  | entry key =>
    cases dots with
    | true => exact ⟨_, _, rfl, .inr (.inr ⟨rfl, rfl⟩)⟩
    | false => exact ⟨_, _, rfl, .inl rfl⟩

theorem head?_stepsText (steps : List Step) :
    ∀ c ∈ (stepsText .indices dots steps).head?, IsSign dots c := by
  cases steps with
  | nil => exact nofun
  | cons s steps =>
    obtain ⟨c, cs, htext, hsign⟩ := text_eq_cons dots s
    simp [stepsText, htext, hsign]

/-- **Steps can be read off their text.** -/
theorem stepsText_inj {steps steps' : List Step} (h : ∀ s ∈ steps, s.IsPlain dots)
    (h' : ∀ s ∈ steps', s.IsPlain dots)
    (heq : stepsText .indices dots steps = stepsText .indices dots steps') : steps = steps' := by
  have hne : ∀ (s : Step) (steps : List Step), stepsText .indices dots (s :: steps) ≠ [] := by
    intro s steps
    obtain ⟨c, cs, htext, -⟩ := text_eq_cons dots s
    simp [stepsText, htext]
  induction steps generalizing steps' with
  | nil =>
    cases steps' with
    | nil => rfl
    | cons s' steps' => exact absurd heq.symm (hne s' steps')
  | cons s steps ih =>
    cases steps' with
    | nil => exact absurd heq (hne s steps)
    | cons s' steps' =>
      obtain ⟨hs, hsteps⟩ := List.forall_mem_cons.mp h
      obtain ⟨hs', hsteps'⟩ := List.forall_mem_cons.mp h'
      obtain ⟨rfl, hrest⟩ := text_append_inj hs hs' (head?_stepsText steps)
        (head?_stepsText steps') heq
      rw [ih hsteps hsteps' hrest]

/-- **The pair of a leaf tells the leaf**, with the parameter that it is of. -/
theorem pair_inj {name name' : List Char} {l l' : Leaf} (hname : IsPlain dots name)
    (hname' : IsPlain dots name') (hl : l.IsLegible dots) (hl' : l'.IsLegible dots)
    (h : (l.under (.entry name)).pair .indices dots = (l'.under (.entry name')).pair .indices dots) :
    l.under (.entry name) = l'.under (.entry name') := by
  obtain ⟨hkey, hvalue⟩ := Prod.mk.inj h
  obtain ⟨rfl, hsteps⟩ := append_inj_of_stops hname.not_isSign hname'.not_isSign
    (head?_stepsText l.path) (head?_stepsText l'.path) hkey
  have hpath := stepsText_inj hl.path hl'.path hsteps
  obtain ⟨path, value⟩ := l
  obtain ⟨path', value'⟩ := l'
  obtain ⟨s, rfl⟩ := hl.value
  obtain ⟨s', rfl⟩ := hl'.value
  obtain rfl : path = path' := hpath
  obtain rfl : s = s' := String.toList_injective hvalue
  rfl

/-! ## The leaves tell the value -/

/-- The leaves of parts, each part under the step to it. -/
def gathered (parts : List (Step × List Leaf)) : List Leaf :=
  parts.flatMap fun part => part.2.map (.under part.1)

theorem head?_path_of_mem_gathered {parts : List (Step × List Leaf)} {l : Leaf}
    (h : l ∈ gathered parts) : ∃ part ∈ parts, l.path.head? = some part.1 := by
  obtain ⟨part, hpart, hl⟩ := List.mem_flatMap.mp h
  obtain ⟨m, -, rfl⟩ := List.mem_map.mp hl
  exact ⟨part, hpart, rfl⟩

theorem under_injective (s : Step) : Function.Injective (Leaf.under s) := by
  rintro ⟨path, value⟩ ⟨path', value'⟩ h
  simpa [Leaf.under] using h

/-- **Leaves tell the parts that they were gathered from**, if every part has one and no two parts
have one step. -/
theorem gathered_inj {parts parts' : List (Step × List Leaf)}
    (hsome : ∀ part ∈ parts, part.2 ≠ []) (hsome' : ∀ part ∈ parts', part.2 ≠ [])
    (hsteps : (parts.map (·.1)).Nodup) (hsteps' : (parts'.map (·.1)).Nodup)
    (h : gathered parts = gathered parts') : parts = parts' := by
  induction parts generalizing parts' with
  | nil =>
    cases parts' with
    | nil => rfl
    | cons part' parts' =>
      have hnil : part'.2.map (Leaf.under part'.1) = [] := (List.append_eq_nil_iff.mp h.symm).1
      exact absurd (List.map_eq_nil_iff.mp hnil) (hsome' part' List.mem_cons_self)
  | cons part parts ih =>
    cases parts' with
    | nil =>
      have hnil : part.2.map (Leaf.under part.1) = [] := (List.append_eq_nil_iff.mp h).1
      exact absurd (List.map_eq_nil_iff.mp hnil) (hsome part List.mem_cons_self)
    | cons part' parts' =>
      obtain ⟨s, ls⟩ := part
      obtain ⟨s', ls'⟩ := part'
      obtain ⟨hls, hparts⟩ := List.forall_mem_cons.mp hsome
      obtain ⟨hls', hparts'⟩ := List.forall_mem_cons.mp hsome'
      obtain ⟨hfresh, hnodup⟩ := List.nodup_cons.mp hsteps
      obtain ⟨hfresh', hnodup'⟩ := List.nodup_cons.mp hsteps'
      replace h : ls.map (.under s) ++ gathered parts = ls'.map (.under s') ++ gathered parts' := h
      -- the first leaves are one, and so are the steps that they begin with
      obtain rfl : s = s' := by
        obtain ⟨l, rest, rfl⟩ := List.exists_cons_of_ne_nil hls
        obtain ⟨l', rest', rfl⟩ := List.exists_cons_of_ne_nil hls'
        have hfirst : l.under s = l'.under s' := (List.cons.inj h).1
        exact (List.cons.inj (Leaf.mk.inj hfirst).1).1
      -- the leaves of the first part end where another step begins
      have hinside : ∀ ls : List Leaf, ∀ l ∈ ls.map (Leaf.under s), ¬ l.path.head? ≠ some s := by
        intro ls l hl
        obtain ⟨m, -, rfl⟩ := List.mem_map.mp hl
        exact fun hne => hne rfl
      have houtside : ∀ {parts : List (Step × List Leaf)}, s ∉ parts.map (·.1) →
          ∀ l ∈ (gathered parts).head?, l.path.head? ≠ some s := by
        intro parts hfresh l hl hhead
        obtain ⟨part, hpart, hstep⟩ := head?_path_of_mem_gathered (List.mem_of_mem_head? hl)
        exact hfresh (Option.some.inj (hhead.symm.trans hstep) ▸ List.mem_map_of_mem hpart)
      obtain ⟨hfirst, hrest⟩ := append_inj_of_stops (hinside ls) (hinside ls') (houtside hfresh)
        (houtside hfresh') h
      rw [List.map_injective_iff.mpr (under_injective s) hfirst,
        ih hparts hparts' hnodup hnodup' hrest]

/-- The items of a list, as parts. -/
def itemParts (vs : List Value) (index : Nat) : List (Step × List Leaf) :=
  (vs.zipIdx index).map fun (v, i) => (.item i, leaves v)

/-- The entries of a map, as parts. -/
def entryParts (es : List (Value × Value)) : List (Step × List Leaf) :=
  es.map fun (k, v) => (.entry k.text.toList, leaves v)

theorem itemLeaves_eq (vs : List Value) (index : Nat) :
    itemLeaves vs index = gathered (itemParts vs index) := by
  rw [itemLeaves_eq_flatMap, gathered, itemParts, List.flatMap_map]

theorem entryLeaves_eq (es : List (Value × Value)) :
    entryLeaves es = gathered (entryParts es) := by
  rw [entryLeaves_eq_flatMap, gathered, entryParts, List.flatMap_map]

theorem IsLegible.leaves_ne_nil {v : Value} (h : IsLegible dots v) : Query.leaves v ≠ [] := by
  induction h with
  | text s => exact List.cons_ne_nil _ _
  | @list items hsome _ ih =>
    obtain ⟨v, vs, rfl⟩ := List.exists_cons_of_ne_nil hsome
    have hfirst := ih v List.mem_cons_self
    simp [Query.leaves, itemLeaves, hfirst]
  | @map entries hsome _ _ _ ih =>
    obtain ⟨⟨k, v⟩, es, rfl⟩ := List.exists_cons_of_ne_nil hsome
    have hfirst := ih (k, v) List.mem_cons_self
    simp [Query.leaves, entryLeaves, hfirst]

/-- Lists of items with the same leaves are equal, if the items are told by theirs. -/
theorem eq_of_itemLeaves {vs vs' : List Value} (hvs : ∀ v ∈ vs, IsLegible dots v)
    (hvs' : ∀ v ∈ vs', IsLegible dots v)
    (ih : ∀ v ∈ vs, ∀ v' ∈ vs', leaves v = leaves v' → v = v')
    (h : itemLeaves vs 0 = itemLeaves vs' 0) : vs = vs' := by
  have hsome : ∀ {vs : List Value}, (∀ v ∈ vs, IsLegible dots v) →
      ∀ part ∈ itemParts vs 0, part.2 ≠ [] := by
    intro vs hvs part hpart
    obtain ⟨⟨v, i⟩, hv, rfl⟩ := List.mem_map.mp hpart
    exact (hvs v (List.fst_mem_of_mem_zipIdx hv)).leaves_ne_nil
  have hnodup : ∀ vs : List Value, ((itemParts vs 0).map (·.1)).Nodup := by
    intro vs
    have hsteps : (itemParts vs 0).map (·.1) = (List.range' 0 vs.length).map .item := by
      rw [← List.zipIdx_map_snd, itemParts, List.map_map, List.map_map]
      rfl
    rw [hsteps]
    exact List.Nodup.map (fun _ _ => Step.item.inj) List.nodup_range'
  have hparts := gathered_inj (hsome hvs) (hsome hvs') (hnodup vs) (hnodup vs')
    (by rwa [← itemLeaves_eq, ← itemLeaves_eq])
  have hleaves : ∀ vs : List Value, (itemParts vs 0).map (·.2) = vs.map leaves := by
    intro vs
    rw [itemParts, List.map_map, ← List.zipIdx_map_fst 0 vs, List.map_map]
    simp [Function.comp_def]
  refine eq_of_map_eq ih ?_
  rw [← hleaves, ← hleaves, hparts]

/-- Lists of entries with the same leaves are equal, if the values are told by theirs. -/
theorem eq_of_entryLeaves {es es' : List (Value × Value)} (hkeys : ArePlain dots (es.map (·.1)))
    (hkeys' : ArePlain dots (es'.map (·.1))) (hes : ∀ e ∈ es, IsLegible dots e.2)
    (hes' : ∀ e ∈ es', IsLegible dots e.2)
    (ih : ∀ e ∈ es, ∀ e' ∈ es', leaves e.2 = leaves e'.2 → e.2 = e'.2)
    (h : entryLeaves es = entryLeaves es') : es = es' := by
  have htext : ∀ {k k' : Value}, (∃ s, k = .str s ∧ IsPlain dots s.toList) →
      (∃ s, k' = .str s ∧ IsPlain dots s.toList) → k.text.toList = k'.text.toList → k = k' := by
    rintro _ _ ⟨s, rfl, -⟩ ⟨s', rfl, -⟩ heq
    exact congrArg Value.str (String.toList_injective heq)
  have hsome : ∀ {es : List (Value × Value)}, (∀ e ∈ es, IsLegible dots e.2) →
      ∀ part ∈ entryParts es, part.2 ≠ [] := by
    intro es hes part hpart
    obtain ⟨e, he, rfl⟩ := List.mem_map.mp hpart
    exact (hes e he).leaves_ne_nil
  have hnodup : ∀ {es : List (Value × Value)}, ArePlain dots (es.map (·.1)) →
      ((entryParts es).map (·.1)).Nodup := by
    intro es hkeys
    have hsteps : (entryParts es).map (·.1) =
        (es.map (·.1)).map fun k => Step.entry k.text.toList := by
      rw [entryParts, List.map_map, List.map_map]
      rfl
    rw [hsteps]
    exact hkeys.nodup.map_on fun k hk k' hk' heq =>
      htext (hkeys.text k hk) (hkeys.text k' hk') (Step.entry.inj heq)
  have hparts := gathered_inj (hsome hes) (hsome hes') (hnodup hkeys) (hnodup hkeys')
    (by rwa [← entryLeaves_eq, ← entryLeaves_eq])
  refine eq_of_map_eq (fun e he e' he' heq => ?_) hparts
  obtain ⟨hstep, hleaves⟩ := Prod.mk.inj heq
  exact Prod.ext (htext (hkeys.text _ (List.mem_map_of_mem he))
    (hkeys'.text _ (List.mem_map_of_mem he')) (Step.entry.inj hstep)) (ih e he e' he' hleaves)

theorem head?_path_of_mem_items {items : List Value} {l : Leaf} (h : l ∈ leaves (.list items)) :
    ∃ i, l.path.head? = some (.item i) := by
  obtain ⟨_, _, m, _, i, rfl⟩ := mem_itemLeaves h
  exact ⟨i, rfl⟩

theorem head?_path_of_mem_entries {es : List (Value × Value)} {l : Leaf}
    (h : l ∈ leaves (.map es)) : ∃ k, l.path.head? = some (.entry k) := by
  obtain ⟨e, _, m, _, rfl⟩ := mem_entryLeaves h
  exact ⟨_, rfl⟩

theorem head?_path_of_mem_text {s : String} {l : Leaf} (h : l ∈ leaves (.str s)) :
    l.path.head? = none := by
  obtain rfl := List.mem_singleton.mp h
  rfl

/-- **The leaves tell the value.** -/
theorem eq_of_leaves {v v' : Value} (h : IsLegible dots v) (h' : IsLegible dots v')
    (heq : leaves v = leaves v') : v = v' := by
  -- the first step to a leaf that both have shows of what kind they are
  induction h generalizing v' with
  | text s =>
    have hl' : ⟨[], .str s⟩ ∈ leaves v' := heq ▸ List.mem_singleton_self _
    cases h' with
    | text s' => exact (Leaf.mk.inj (List.cons.inj heq).1).2
    | list _ _ =>
      obtain ⟨i, hi⟩ := head?_path_of_mem_items hl'
      exact absurd hi nofun
    | map _ _ _ _ =>
      obtain ⟨k, hk⟩ := head?_path_of_mem_entries hl'
      exact absurd hk nofun
  | list hsome hitems ih =>
    obtain ⟨l, hl⟩ := List.exists_mem_of_ne_nil _ (IsLegible.list hsome hitems).leaves_ne_nil
    obtain ⟨i, hhead⟩ := head?_path_of_mem_items hl
    rw [heq] at hl
    cases h' with
    | text s' => exact absurd (hhead.symm.trans (head?_path_of_mem_text hl)) nofun
    | list _ hitems' =>
      exact congrArg Value.list
        (eq_of_itemLeaves hitems hitems' (fun v hv v' hv' => ih v hv (hitems' v' hv')) heq)
    | map _ _ _ _ =>
      obtain ⟨k, hk⟩ := head?_path_of_mem_entries hl
      exact absurd (hhead.symm.trans hk) nofun
  | map hsome hkeys hnumeral hvalues ih =>
    obtain ⟨l, hl⟩ :=
      List.exists_mem_of_ne_nil _ (IsLegible.map hsome hkeys hnumeral hvalues).leaves_ne_nil
    obtain ⟨k, hhead⟩ := head?_path_of_mem_entries hl
    rw [heq] at hl
    cases h' with
    | text s' => exact absurd (hhead.symm.trans (head?_path_of_mem_text hl)) nofun
    | list _ _ =>
      obtain ⟨i, hi⟩ := head?_path_of_mem_items hl
      exact absurd (hhead.symm.trans hi) nofun
    | map _ hkeys' _ hvalues' =>
      exact congrArg Value.map (eq_of_entryLeaves hkeys hkeys' hvalues hvalues'
        (fun e he e' he' => ih e he (hvalues' e' he')) heq)

/-! ## The query tells the parameters -/

theorem paramLeaves_eq_of_pairs {params params' : Params} (h : AreLegible dots params)
    (h' : AreLegible dots params')
    (heq : pairs .indices dots params = pairs .indices dots params') :
    paramLeaves params = paramLeaves params' := by
  have hleaf : ∀ {params : Params}, AreLegible dots params → ∀ l ∈ paramLeaves params,
      ∃ (name : List Char) (m : Leaf), IsPlain dots name ∧ m.IsLegible dots ∧
        l = m.under (.entry name) := by
    intro params h l hl
    obtain ⟨e, he, m, hm, rfl⟩ := mem_entryLeaves hl
    obtain ⟨s, hs, hplain⟩ := h.keys.text e.1 (List.mem_map_of_mem he)
    exact ⟨e.1.text.toList, m, by rwa [hs], (h.values e he).leaves m hm, rfl⟩
  rw [pairs_eq (by decide), pairs_eq (by decide)] at heq
  refine eq_of_map_eq (fun l hl l' hl' hpair => ?_) heq
  obtain ⟨name, m, hname, hm, rfl⟩ := hleaf h l hl
  obtain ⟨name', m', hname', hm', rfl⟩ := hleaf h' l' hl'
  exact pair_inj hname hname' hm hm' hpair

/-- **A query tells the parameters it was made from**, if they are legible. -/
theorem serialize_injOn {serializers : Serializers} {options : Params}
    (hserializer : (options.get? (.str "serializer")).getD .null = .null)
    (hformat : arrayFormat options = .ok .indices) (hencode : isOn options "encode" true = true) :
    Set.InjOn (fun params => serialize serializers params options)
      {params | AreLegible (isOn options "allow_dots" false) params} := by
  intro params h params' h' heq
  have htext : text true (pairs .indices (isOn options "allow_dots" false) params) =
      text true (pairs .indices (isOn options "allow_dots" false) params') := by
    have hquery := heq
    simp only [serialize_eq hserializer hformat, hencode] at hquery
    exact String.ofList_injective (Value.str.inj (Except.ok.inj hquery))
  have hleaves := paramLeaves_eq_of_pairs h h' (text_injective htext)
  have hentries : params.entries = params'.entries :=
    eq_of_entryLeaves h.keys h'.keys h.values h'.values
      (fun e he e' he' => eq_of_leaves (h.values e he) (h'.values e' he')) hleaves
  exact congrArg OrderedMap.mk hentries

/-- A filter by tags, which are put together in some way. -/
def filterBy (tags : List Value) : Params :=
  ⟨[(.str "filter", .map [(.str "tags", .list tags), (.str "a.b", .str "&")]), (.str "0", .str "")]⟩

/-- Text that is not only digits is no numeral. -/
theorem str_ne_repr {s : String} {c : Char} (hc : c ∈ s.toList) (hdigit : c.isDigit = false)
    (n : Nat) : Value.str s ≠ .str n.repr := by
  intro h
  rw [Value.str.inj h, Nat.repr, String.toList_ofList] at hc
  have hdigits := Nat.isDigit_of_mem_toDigits (by decide) (by decide) hc
  rw [hdigit] at hdigits
  exact absurd hdigits nofun

theorem areLegible_filterBy {tags : List Value} (hsome : tags ≠ [])
    (htags : ∀ v ∈ tags, IsLegible false v) : AreLegible false (filterBy tags) := by
  have hnumeral : ∀ e ∈ [(Value.str "tags", Value.list tags), (.str "a.b", .str "&")],
      ∀ n : Nat, e.1 ≠ .str n.repr :=
    List.forall_mem_cons.mpr ⟨str_ne_repr (c := 't') (by decide) rfl,
      List.forall_mem_singleton.mpr (str_ne_repr (c := 'a') (by decide) rfl)⟩
  have hfilter : IsLegible false (.map [(.str "tags", .list tags), (.str "a.b", .str "&")]) :=
    .map (List.cons_ne_nil _ _) (arePlain_texts ["tags", "a.b"] (by decide) (by decide))
      (fun _ => hnumeral)
      (List.forall_mem_cons.mpr ⟨.list hsome htags, List.forall_mem_singleton.mpr (.text "&")⟩)
  exact ⟨arePlain_texts ["filter", "0"] (by decide) (by decide),
    List.forall_mem_cons.mpr ⟨hfilter, List.forall_mem_singleton.mpr (.text "")⟩⟩

/-- The query shows which of the tags stand in a list of their own. -/
theorem serialize_injOn_filterBy :
    (OrderedMap.empty.get? (Value.str "serializer")).getD .null = Value.null ∧
      arrayFormat .empty = .ok .indices ∧ isOn .empty "encode" true = true ∧
      AreLegible (isOn .empty "allow_dots" false)
        (filterBy [.list [.str "x"], .list [.str "y"]]) ∧
      AreLegible (isOn .empty "allow_dots" false) (filterBy [.list [.str "x", .str "y"]]) ∧
      serialize .none (filterBy [.list [.str "x"], .list [.str "y"]]) .empty ≠
        serialize .none (filterBy [.list [.str "x", .str "y"]]) .empty := by
  have hlist : ∀ texts : List String, texts ≠ [] → IsLegible false (.list (texts.map .str)) := by
    intro texts hne
    refine .list (by simpa using hne) fun v hv => ?_
    obtain ⟨s, -, rfl⟩ := List.mem_map.mp hv
    exact .text s
  have hapart : AreLegible false (filterBy [.list [.str "x"], .list [.str "y"]]) :=
    areLegible_filterBy (List.cons_ne_nil _ _) (List.forall_mem_cons.mpr
      ⟨hlist ["x"] (by decide), List.forall_mem_singleton.mpr (hlist ["y"] (by decide))⟩)
  have htogether : AreLegible false (filterBy [.list [.str "x", .str "y"]]) :=
    areLegible_filterBy (List.cons_ne_nil _ _)
      (List.forall_mem_singleton.mpr (hlist ["x", "y"] (by decide)))
  refine ⟨rfl, rfl, rfl, hapart, htogether, fun heq => ?_⟩
  exact absurd (serialize_injOn rfl rfl rfl hapart htogether heq) (by simp [filterBy])

end RouteTree.Query
