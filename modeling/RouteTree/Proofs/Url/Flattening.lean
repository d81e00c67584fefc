import Mathlib.Data.List.Basic
import RouteTree.Proofs.Url.Leaves

/-!
# Places in values

A place in a value is a list of numbers: the first counts the parts of the value, the next the parts
of that part, and so on (`part?`). Places are compared like words in a dictionary, which is the order
in which they are met when the value is gone through depth first.

**A query goes through its parameters place by place** (`pairs_visit`). It lists every place of a leaf
once, in order, and for each of them one pair; the texts of the leaves come in the same order in all
formats that look into lists. Between commas a list is the end of the way: each that is reached
through maps only is one pair, or none if it is empty, and a leaf that is reached through maps only
has the same pair as in any other format.
-/

namespace RouteTree

namespace Value

open Query (Step)

/-- The parts of a value, in order, each with the step to it. -/
def parts : Value → List (Step × Value)
  | .map entries => entries.map fun (k, v) => (.entry k.text.toList, v)
  | .list items | .tuple items => items.zipIdx.map fun (v, index) => (.item index, v)
  | _ => []

theorem sizeOf_lt_of_mem_parts {v w : Value} {s : Step} (h : (s, w) ∈ v.parts) :
    sizeOf w < sizeOf v := by
  cases v with
  | map entries =>
    obtain ⟨⟨k, _⟩, hmem, heq⟩ := List.mem_map.mp h
    obtain ⟨-, rfl⟩ := Prod.mk.inj heq
    have hentry := List.sizeOf_lt_of_mem hmem
    rw [Prod.mk.sizeOf_spec] at hentry
    rw [map.sizeOf_spec]
    omega
  | list items | tuple items =>
    obtain ⟨⟨item, index⟩, hmem, heq⟩ := List.mem_map.mp h
    obtain ⟨-, rfl⟩ := Prod.mk.inj heq
    have hitem : sizeOf item < sizeOf items :=
      List.sizeOf_lt_of_mem (List.fst_mem_of_mem_zipIdx hmem)
    simp only [list.sizeOf_spec, tuple.sizeOf_spec]
    omega
  | _ => exact absurd h List.not_mem_nil

/-- What holds of a value if it holds of its parts, holds of all values. -/
theorem parts_induction {motive : Value → Prop}
    (h : ∀ v, (∀ s w, (s, w) ∈ v.parts → motive w) → motive v) (v : Value) : motive v :=
  h v fun _ w hw =>
    have : sizeOf w < sizeOf v := sizeOf_lt_of_mem_parts hw
    parts_induction h w
termination_by sizeOf v

end Value

namespace Query

/-! ## Places -/

/-- Is it a step through a map? -/
def Step.isEntry : Step → Bool
  | .entry _ => true
  | .item _ => false

/-- The part of a value at a place, with the steps to it. -/
def part? : List Nat → Value → Option Leaf
  | [], v => some ⟨[], v⟩
  | index :: place, v => v.parts[index]?.bind fun (s, w) => (part? place w).map (.under s)

/-- Does the way into a value end here? It does at a leaf, and between commas at a list. -/
def isEnd (format : ArrayFormat) : Value → Bool
  | .map _ => false
  | .list _ | .tuple _ => format = .comma
  | _ => true

mutual

/-- The places in a value where the way into it ends. -/
def places (format : ArrayFormat) : Value → List (List Nat)
  | .map entries => entryPlaces format entries 0
  | .list items | .tuple items => if format = .comma then [[]] else itemPlaces format items 0
  | _ => [[]]
termination_by structural v => v

/-- The places in items that are counted from `index`. -/
def itemPlaces (format : ArrayFormat) : List Value → Nat → List (List Nat)
  | [], _ => []
  | v :: vs, index => (places format v).map (index :: ·) ++ itemPlaces format vs (index + 1)
termination_by structural vs => vs

/-- The places in entries that are counted from `index`. -/
def entryPlaces (format : ArrayFormat) : List (Value × Value) → Nat → List (List Nat)
  | [], _ => []
  | (_, v) :: es, index => (places format v).map (index :: ·) ++ entryPlaces format es (index + 1)
termination_by structural es => es

end

variable {format : ArrayFormat} {dots : Bool}

/-- Each part has its places, behind its own number. -/
def partPlaces (format : ArrayFormat) (ps : List (Step × Value)) (start : Nat) : List (List Nat) :=
  (ps.zipIdx start).flatMap fun part => (places format part.1.2).map (part.2 :: ·)

theorem partPlaces_cons (s : Step) (v : Value) (ps : List (Step × Value)) (start : Nat) :
    partPlaces format ((s, v) :: ps) start =
      (places format v).map (start :: ·) ++ partPlaces format ps (start + 1) := rfl

theorem itemPlaces_eq (vs : List Value) (start first : Nat) :
    itemPlaces format vs start =
      partPlaces format ((vs.zipIdx first).map fun (v, index) => (.item index, v)) start := by
  induction vs generalizing start first with
  | nil => rfl
  | cons v vs ih =>
    rw [itemPlaces, List.zipIdx_cons, List.map_cons, partPlaces_cons, ← ih]

theorem entryPlaces_eq (es : List (Value × Value)) (start : Nat) :
    entryPlaces format es start =
      partPlaces format (es.map fun (k, v) => (.entry k.text.toList, v)) start := by
  induction es generalizing start with
  | nil => rfl
  | cons e es ih =>
    obtain ⟨k, v⟩ := e
    rw [entryPlaces, List.map_cons, partPlaces_cons, ← ih]

theorem places_of_isEnd {v : Value} (h : isEnd format v = true) : places format v = [[]] := by
  cases v with
  | map entries => exact absurd h nofun
  | list items | tuple items =>
    have hcomma : format = .comma := by simpa [isEnd] using h
    rw [places, if_pos hcomma]
  | _ => rfl

theorem places_of_not_isEnd {v : Value} (h : isEnd format v = false) :
    places format v = partPlaces format v.parts 0 := by
  cases v with
  | map entries => exact entryPlaces_eq entries 0
  | list items | tuple items =>
    have hcomma : ¬ format = .comma := by simpa [isEnd] using h
    rw [places, if_neg hcomma]
    exact itemPlaces_eq items 0 0
  | _ => cases h

theorem mem_partPlaces {ps : List (Step × Value)} {place : List Nat} :
    place ∈ partPlaces format ps 0 ↔
      ∃ index s w rest, ps[index]? = some (s, w) ∧ rest ∈ places format w ∧
        place = index :: rest := by
  unfold partPlaces
  rw [List.mem_flatMap]
  constructor
  · rintro ⟨⟨⟨s, w⟩, index⟩, hpart, hplace⟩
    obtain ⟨rest, hrest, rfl⟩ := List.mem_map.mp hplace
    exact ⟨index, s, w, rest, List.mem_zipIdx_iff_getElem?.mp hpart, hrest, rfl⟩
  · rintro ⟨index, s, w, rest, hpart, hrest, rfl⟩
    exact ⟨((s, w), index), List.mem_zipIdx_iff_getElem?.mpr hpart,
      List.mem_map.mpr ⟨rest, hrest, rfl⟩⟩

/-- Just the lists between commas are ends that have parts. -/
theorem isEnd_iff_of_mem_parts {v w : Value} {s : Step} (h : (s, w) ∈ v.parts) :
    isEnd format v = true ↔ format = .comma ∧ s.isEntry = false := by
  cases v with
  | map entries =>
    obtain ⟨⟨k, _⟩, -, heq⟩ := List.mem_map.mp h
    obtain ⟨rfl, -⟩ := Prod.mk.inj heq
    simp [isEnd, Step.isEntry]
  | list items | tuple items =>
    obtain ⟨⟨_, index⟩, -, heq⟩ := List.mem_map.mp h
    obtain ⟨rfl, -⟩ := Prod.mk.inj heq
    simp [isEnd, Step.isEntry]
  | _ => exact absurd h List.not_mem_nil

theorem part?_cons {index : Nat} {place : List Nat} {v : Value} {l : Leaf} :
    part? (index :: place) v = some l ↔
      ∃ s w m, v.parts[index]? = some (s, w) ∧ part? place w = some m ∧ m.under s = l := by
  simp only [part?, Option.bind_eq_some_iff, Option.map_eq_some_iff, Prod.exists, exists_and_left]

/-- **The places are those of the ends**; between commas, of those that are reached through maps
only. -/
theorem mem_places (v : Value) : ∀ place, place ∈ places format v ↔
    ∃ l, part? place v = some l ∧ isEnd format l.value = true ∧
      (format = .comma → ∀ s ∈ l.path, s.isEntry = true) := by
  induction v using Value.parts_induction with
  | h v ih =>
    intro place
    cases hend : isEnd format v with
    | true =>
      rw [places_of_isEnd hend, List.mem_singleton]
      constructor
      · rintro rfl
        exact ⟨⟨[], v⟩, rfl, hend, fun _ => List.forall_mem_nil _⟩
      · rintro ⟨l, hl, -, hsteps⟩
        cases place with
        | nil => rfl
        | cons index rest =>
          obtain ⟨s, w, m, hpart, -, rfl⟩ := part?_cons.mp hl
          obtain ⟨hcomma, hitem⟩ :=
            (isEnd_iff_of_mem_parts (List.mem_of_getElem? hpart)).mp hend
          have hentry := hsteps hcomma s List.mem_cons_self
          rw [hitem] at hentry
          exact absurd hentry nofun
    | false =>
      rw [places_of_not_isEnd hend, mem_partPlaces]
      constructor
      · rintro ⟨index, s, w, rest, hpart, hrest, rfl⟩
        have hmem := List.mem_of_getElem? hpart
        obtain ⟨m, hm, hmend, hsteps⟩ := (ih s w hmem rest).mp hrest
        refine ⟨m.under s, part?_cons.mpr ⟨s, w, m, hpart, hm, rfl⟩, hmend, fun hcomma => ?_⟩
        refine List.forall_mem_cons.mpr ⟨?_, hsteps hcomma⟩
        by_contra hitem
        rw [(isEnd_iff_of_mem_parts hmem).mpr ⟨hcomma, by simpa using hitem⟩] at hend
        exact absurd hend nofun
      · rintro ⟨l, hl, hlend, hsteps⟩
        cases place with
        | nil =>
          obtain rfl := Option.some.inj hl
          exact absurd (hend.symm.trans hlend) nofun
        | cons index rest =>
          obtain ⟨s, w, m, hpart, hm, rfl⟩ := part?_cons.mp hl
          refine ⟨index, s, w, rest, hpart, ?_, rfl⟩
          refine (ih s w (List.mem_of_getElem? hpart) rest).mpr ⟨m, hm, hlend, fun hcomma => ?_⟩
          exact (List.forall_mem_cons.mp (hsteps hcomma)).2

/-- **The places are in order**, and none is there twice. -/
theorem pairwise_places (v : Value) : (places format v).Pairwise (· < ·) := by
  induction v using Value.parts_induction with
  | h v ih =>
    cases hend : isEnd format v with
    | true =>
      rw [places_of_isEnd hend]
      exact List.pairwise_singleton _ _
    | false =>
      rw [places_of_not_isEnd hend, partPlaces, List.pairwise_flatMap]
      constructor
      · -- within one part
        rintro ⟨⟨s, w⟩, index⟩ hpart
        refine List.pairwise_map.mpr ((ih s w (List.fst_mem_of_mem_zipIdx hpart)).imp fun h => ?_)
        exact List.cons_lt_cons_iff.mpr (.inr ⟨rfl, h⟩)
      · -- between an earlier part and a later one
        have hindices : (v.parts.zipIdx 0).Pairwise fun a b => a.2 < b.2 := by
          rw [← List.pairwise_map (f := Prod.snd), List.zipIdx_map_snd]
          exact List.pairwise_lt_range'
        refine hindices.imp fun hlt x hx y hy => ?_
        obtain ⟨p, -, rfl⟩ := List.mem_map.mp hx
        obtain ⟨q, -, rfl⟩ := List.mem_map.mp hy
        exact List.cons_lt_cons_iff.mpr (.inl hlt)

/-! ## Ends -/

/-- What is found at the places, in order. -/
def ends (format : ArrayFormat) (v : Value) : List Leaf := (places format v).filterMap (part? · v)

theorem map_part?_places (format : ArrayFormat) (v : Value) :
    (places format v).map (part? · v) = (ends format v).map some := by
  have hsome : ∀ x ∈ (places format v).map (part? · v), x.isSome = true := by
    intro x hx
    obtain ⟨place, hplace, rfl⟩ := List.mem_map.mp hx
    obtain ⟨l, hl, -⟩ := (mem_places v place).mp hplace
    exact Option.isSome_of_eq_some hl
  rw [ends, List.map_filterMap_some_eq_filter_map_isSome, List.filter_eq_self.mpr hsome]

theorem ends_of_isEnd {v : Value} (h : isEnd format v = true) : ends format v = [⟨[], v⟩] := by
  rw [ends, places_of_isEnd h]
  rfl

theorem ends_of_not_isEnd {v : Value} (h : isEnd format v = false) :
    ends format v = v.parts.flatMap fun part => (ends format part.2).map (.under part.1) := by
  have hpart : ∀ part ∈ v.parts.zipIdx,
      ((places format part.1.2).map (part.2 :: ·)).filterMap (part? · v) =
        (ends format part.1.2).map (.under part.1.1) := by
    rintro ⟨⟨s, w⟩, index⟩ hmem
    have hget : v.parts[index]? = some (s, w) := List.mem_zipIdx_iff_getElem?.mp hmem
    rw [ends, List.filterMap_map, List.map_filterMap]
    refine congrArg (List.filterMap · _) (funext fun place => ?_)
    simp only [Function.comp_apply, part?, hget, Option.bind_some]
  calc ends format v
      = v.parts.zipIdx.flatMap fun part =>
          ((places format part.1.2).map (part.2 :: ·)).filterMap (part? · v) := by
        rw [ends, places_of_not_isEnd h, partPlaces, List.filterMap_flatMap]
    _ = v.parts.zipIdx.flatMap fun part => (ends format part.1.2).map (.under part.1.1) :=
        List.flatMap_congr hpart
    _ = (v.parts.zipIdx.map Prod.fst).flatMap fun part =>
          (ends format part.2).map (.under part.1) := by
        rw [List.flatMap_map]
    _ = v.parts.flatMap fun part => (ends format part.2).map (.under part.1) := by
        rw [List.zipIdx_map_fst]

/-! ## Formats that look into lists -/

theorem leaves_of_isEnd (hformat : format ≠ .comma) {v : Value} (h : isEnd format v = true) :
    leaves v = [⟨[], v⟩] := by
  cases v with
  | map entries => exact absurd h nofun
  | list items | tuple items => exact absurd (by simpa [isEnd] using h) hformat
  | _ => rfl

theorem leaves_of_not_isEnd {v : Value} (h : isEnd format v = false) :
    leaves v = v.parts.flatMap fun part => (leaves part.2).map (.under part.1) := by
  cases v with
  | map entries =>
    rw [Value.parts, List.flatMap_map]
    exact entryLeaves_eq_flatMap entries
  | list items | tuple items =>
    rw [Value.parts, List.flatMap_map]
    exact itemLeaves_eq_flatMap items 0
  | _ => cases h

/-- Where lists are looked into, the ends are the leaves. -/
theorem ends_eq_leaves (hformat : format ≠ .comma) (v : Value) : ends format v = leaves v := by
  induction v using Value.parts_induction with
  | h v ih =>
    cases hend : isEnd format v with
    | true => rw [ends_of_isEnd hend, leaves_of_isEnd hformat hend]
    | false =>
      rw [ends_of_not_isEnd hend, leaves_of_not_isEnd hend]
      exact List.flatMap_congr fun part hpart => by rw [ih part.1 part.2 hpart]

/-! ## Lists between commas -/

/-- What an end is written as between commas, if it is: a list as its items, an empty list not at
all. -/
def commaText? : Value → Option (List Char)
  | .list items | .tuple items =>
    if items.isEmpty then none else some ([','].intercalate (items.map (·.written.toList)))
  | v => some v.written.toList

/-- An end of the value at `key`, as a pair of a query, if it is one. -/
def Leaf.commaPairAt? (dots : Bool) (key : List Char) (l : Leaf) : Option (List Char × List Char) :=
  (commaText? l.value).map fun written => (key ++ stepsText .comma dots l.path, written)

/-- An end of parameters, as a pair of a query, if it is one. -/
def Leaf.commaPair? (dots : Bool) (l : Leaf) : Option (List Char × List Char) :=
  (commaText? l.value).map fun written => (keyText .comma dots l.path, written)

theorem flatten_of_isEnd {v : Value} (h : isEnd .comma v = true) (key : List Char) :
    flatten .comma dots v key = ((commaText? v).map fun written => (key, written)).toList := by
  cases v with
  | map entries => exact absurd h nofun
  | list items | tuple items =>
    rw [flatten, if_pos rfl, commaLeaf, commaText?]
    split <;> rfl
  | _ => rfl

theorem flattenEntries_eq_flatMap (es : List (Value × Value)) (key : List Char) :
    flattenEntries format dots es key =
      (es.map fun (k, v) => (Step.entry k.text.toList, v)).flatMap fun part =>
        flatten format dots part.2 (key ++ part.1.text format dots) := by
  induction es with
  | nil => rfl
  | cons e es ih =>
    obtain ⟨k, v⟩ := e
    rw [flattenEntries, List.map_cons, List.flatMap_cons, ← ih, entryKey_eq]

theorem flatten_of_not_isEnd {v : Value} (h : isEnd .comma v = false) (key : List Char) :
    flatten .comma dots v key = v.parts.flatMap fun part =>
      flatten .comma dots part.2 (key ++ part.1.text .comma dots) := by
  cases v with
  | map entries => exact flattenEntries_eq_flatMap entries key
  | _ => exact absurd h nofun

theorem commaPairAt?_under (key : List Char) (s : Step) (l : Leaf) :
    (l.under s).commaPairAt? dots key = l.commaPairAt? dots (key ++ s.text .comma dots) := by
  simp [Leaf.commaPairAt?, Leaf.under, stepsText]

/-- **What is flattened between commas are the ends**, except for empty lists. -/
theorem flatten_comma (v : Value) : ∀ key,
    flatten .comma dots v key = (ends .comma v).filterMap (Leaf.commaPairAt? dots key) := by
  induction v using Value.parts_induction with
  | h v ih =>
    intro key
    cases hend : isEnd .comma v with
    | true =>
      rw [flatten_of_isEnd hend, ends_of_isEnd hend]
      cases htext : commaText? v <;> simp [Leaf.commaPairAt?, stepsText, htext]
    | false =>
      rw [flatten_of_not_isEnd hend, ends_of_not_isEnd hend, List.filterMap_flatMap]
      refine List.flatMap_congr fun part hpart => ?_
      rw [ih part.1 part.2 hpart, List.filterMap_map]
      refine congrArg (List.filterMap · _) (funext fun l => ?_)
      exact (commaPairAt?_under key part.1 l).symm

/-- Leaves are found inside of the ends, one end after another. -/
theorem leaves_eq_flatMap_ends (v : Value) :
    leaves v = (ends .comma v).flatMap fun l =>
      (leaves l.value).map fun inner => ⟨l.path ++ inner.path, inner.value⟩ := by
  induction v using Value.parts_induction with
  | h v ih =>
    cases hend : isEnd .comma v with
    | true => simp [ends_of_isEnd hend]
    | false =>
      rw [ends_of_not_isEnd hend, leaves_of_not_isEnd hend, List.flatMap_assoc]
      refine List.flatMap_congr fun part hpart => ?_
      rw [ih part.1 part.2 hpart]
      simp [List.map_flatMap, List.flatMap_map, Leaf.under, Function.comp_def]

/-! ## The pairs of a query -/

theorem pairs_comma (params : Params) :
    pairs .comma dots params =
      (ends .comma (.map params.entries)).filterMap (Leaf.commaPair? dots) := by
  rw [ends_of_not_isEnd rfl, List.filterMap_flatMap, Value.parts, List.flatMap_map, pairs]
  refine List.flatMap_congr fun e _ => ?_
  refine (flatten_comma e.2 e.1.text.toList).trans ?_
  rw [List.filterMap_map]
  rfl

/-- Steps through maps are written in the same way in all formats. -/
theorem keyText_congr {path : List Step} (h : ∀ s ∈ path, s.isEntry = true)
    (format format' : ArrayFormat) : keyText format dots path = keyText format' dots path := by
  have hsteps : ∀ steps : List Step, (∀ s ∈ steps, s.isEntry = true) →
      stepsText format dots steps = stepsText format' dots steps := by
    intro steps hsteps
    refine List.flatMap_congr fun s hs => ?_
    cases s with
    | entry key => rfl
    | item index => exact absurd (hsteps _ hs) nofun
  cases path with
  | nil => rfl
  | cons s steps =>
    obtain ⟨hfirst, hrest⟩ := List.forall_mem_cons.mp h
    cases s with
    | entry name => exact congrArg (name ++ ·) (hsteps steps hrest)
    | item index => exact absurd hfirst nofun

/-- The places in a value where the way into it ends are visited in order, each once, and this is
what is found there. -/
structure Visits (format : ArrayFormat) (v : Value) (found : List Leaf) : Prop where
  found_eq : (places format v).map (part? · v) = found.map some
  ordered : (places format v).Pairwise (· < ·)
  mem : ∀ place, place ∈ places format v ↔
    ∃ l, part? place v = some l ∧ isEnd format l.value = true ∧
      (format = .comma → ∀ s ∈ l.path, s.isEntry = true)

theorem visits_ends (format : ArrayFormat) (v : Value) : Visits format v (ends format v) :=
  ⟨map_part?_places format v, pairwise_places v, mem_places v⟩

theorem Visits.exists_place {v : Value} {found : List Leaf} (h : Visits format v found) {l : Leaf} :
    l ∈ found ↔ ∃ place ∈ places format v, part? place v = some l := by
  have hmem : some l ∈ found.map some ↔ l ∈ found := by simp
  rw [← hmem, ← h.found_eq, List.mem_map]

/-- A leaf that is reached through maps only is an end in all formats. -/
theorem mem_leaves_of_mem_ends (hformat : format ≠ .comma) {v : Value} {l : Leaf}
    (h : l ∈ ends .comma v) (hend : isEnd format l.value = true) : l ∈ leaves v := by
  obtain ⟨place, -, hl⟩ := (visits_ends .comma v).exists_place.mp h
  rw [← ends_eq_leaves hformat]
  refine (visits_ends format v).exists_place.mpr ⟨place, ?_, hl⟩
  exact (mem_places v place).mpr ⟨l, hl, hend, fun hcomma => absurd hcomma hformat⟩

theorem isEntry_of_mem_ends {v : Value} {l : Leaf} (h : l ∈ ends .comma v) :
    ∀ s ∈ l.path, s.isEntry = true := by
  obtain ⟨place, hplace, hl⟩ := (visits_ends .comma v).exists_place.mp h
  obtain ⟨l', hl', -, hsteps⟩ := (mem_places v place).mp hplace
  obtain rfl := Option.some.inj (hl.symm.trans hl')
  exact hsteps rfl

theorem commaPair?_of_isEnd (hformat : format ≠ .comma) {l : Leaf}
    (hend : isEnd format l.value = true) (hpath : ∀ s ∈ l.path, s.isEntry = true) :
    l.commaPair? dots = some (l.pair format dots) := by
  have htext : commaText? l.value = some l.value.written.toList := by
    cases hvalue : l.value with
    | list items | tuple items =>
      rw [hvalue] at hend
      exact absurd (by simpa [isEnd] using hend) hformat
    | _ => rfl
  rw [Leaf.commaPair?, htext, Option.map_some, Leaf.pair, keyText_congr hpath .comma format]

/-- The pairs of a query, by the leaves of the parameters and by the ends between commas. -/
structure Flattens (params : Params) (dots : Bool) : Prop where
  visits : ∀ format, format ≠ .comma →
    Visits format (.map params.entries) (paramLeaves params)
  /-- Each leaf is one pair. -/
  pairs_leaves : ∀ format, format ≠ .comma →
    pairs format dots params = (paramLeaves params).map (Leaf.pair format dots)
  /-- The texts do not depend on the format. -/
  texts : ∀ format, format ≠ .comma →
    (pairs format dots params).map (·.2) = (paramLeaves params).map (·.value.written.toList)
  visits_comma : Visits .comma (.map params.entries) (ends .comma (.map params.entries))
  /-- Between commas each end is one pair, or none if it is an empty list. -/
  pairs_ends : pairs .comma dots params =
    (ends .comma (.map params.entries)).filterMap (Leaf.commaPair? dots)
  /-- An end that is a leaf has the pair that it has in any other format. -/
  leaf : ∀ format, format ≠ .comma → ∀ l ∈ ends .comma (.map params.entries),
    isEnd format l.value = true →
      l ∈ paramLeaves params ∧ l.commaPair? dots = some (l.pair format dots)
  /-- All leaves are found inside of the ends, in the same order. -/
  inside : paramLeaves params = (ends .comma (.map params.entries)).flatMap fun l =>
    (leaves l.value).map fun inner => ⟨l.path ++ inner.path, inner.value⟩

/-- **A query goes through its parameters place by place.** -/
theorem pairs_visit (params : Params) (dots : Bool) : Flattens params dots where
  visits format hformat := by
    have hvisits := visits_ends format (.map params.entries)
    rwa [ends_eq_leaves hformat] at hvisits
  pairs_leaves format hformat := pairs_eq hformat params
  texts format hformat := by
    rw [pairs_eq hformat, List.map_map]
    rfl
  visits_comma := visits_ends .comma _
  pairs_ends := pairs_comma params
  leaf format hformat l hl hend :=
    ⟨mem_leaves_of_mem_ends hformat hl hend,
      commaPair?_of_isEnd hformat hend (isEntry_of_mem_ends hl)⟩
  inside := leaves_eq_flatMap_ends (.map params.entries)

/-- Lists in lists and in maps, and empty ones. -/
def sampleNested : Params :=
  ⟨[(.str "a", .list [.int 1, .list [.bool true, .list []], .map [(.str "b", .null)]]),
    (.str "c", .map [(.str "d", .tuple [.str "x", .str "y"]), (.str "e", .list []),
      (.str "f", .str "z")])]⟩

example : places .brackets (.map sampleNested.entries) =
    [[0, 0], [0, 1, 0], [0, 2, 0], [1, 0, 0], [1, 0, 1], [1, 2]] := by decide

example : pairs .brackets true sampleNested =
    [("a[]".toList, "1".toList), ("a[][]".toList, "true".toList), ("a[].b".toList, []),
      ("c.d[]".toList, "x".toList), ("c.d[]".toList, "y".toList), ("c.f".toList, "z".toList)] := by
  decide +kernel

example : pairs .comma true sampleNested =
    [("a".toList, "1,[True, []],\x7b'b': None\x7d".toList), ("c.d".toList, "x,y".toList),
      ("c.f".toList, "z".toList)] := by
  decide +kernel

end Query

end RouteTree
