import RouteTree.Template.Path
import RouteTree.Proofs.Template.Compiling
import RouteTree.Proofs.Template.Inlinable

/-!
# Paths compile back

**Compilation undoes the writing of paths** (`compile_path`). A uri without backslashes, braces,
parentheses and runs of slashes is written as a path with the constraints of its parameters; when
the path is compiled, strictly or not, the uri comes back as it was, and with it the constraints of
the parameters that stand in it.

The path differs from the uri in the constraints only, and these are no parameters' beginnings, so
the scan of the path follows the scan of the uri (`pieces_pathText`): what begins a parameter here
begins one there, and what begins none begins none.
-/

namespace RouteTree.Template

open Text

/-- The parameters of a uri, in the order in which they stand in it. -/
def paramsIn (uri : List Char) : List Param := (pieces colonParam uri).filterMap (·.value?)

/-- The names of the parameters of a uri, in the order in which they first stand in it. -/
def paramNames (uri : String) : List String :=
  ((paramsIn uri.toList).map fun p => String.ofList p.name).eraseDups

/-- The constraints of the names, in their order. -/
def restrict (constraints : Constraints) (names : List String) : Constraints :=
  ⟨names.filterMap fun n => (constraints.get? (.str n)).map (.str n, ·)⟩

/-! ## The scan of a path -/

section Scan
variable {bodies : OrderedMap Value (List Char)}

/-- A path begins as its uri does. -/
theorem head?_pathText (uri : List Char) : (pathText bodies uri).head? = uri.head? := by
  cases uri with
  | nil => rfl
  | cons c cs =>
    unfold pathText
    cases hread : colonParam (c :: cs) with
    | none => rw [pieces_cons_of_none hread]; rfl
    | some read =>
      obtain ⟨p, rest⟩ := read
      obtain ⟨-, -, heq⟩ := eq_of_colonParam hread
      rw [heq] at hread ⊢
      rw [pieces_append_of_some (by simp [Param.colon]) hread]
      rfl

/-- Where no parameter begins, none begins in the path. -/
theorem colonParam_pathText_eq_none {c : Char} {cs : List Char} (h : colonParam (c :: cs) = none) :
    colonParam (c :: pathText bodies cs) = none := by
  by_cases hc : c = ':'
  · subst hc
    have hword : ∀ {rest : List Char}, colonParam (':' :: rest) = none ↔
        ∀ d ∈ rest.head?, isWord d = false := by
      intro rest
      cases rest with
      | nil => simp [colonParam, named]
      | cons d rest => cases hd : isWord d <;> simp [colonParam, named, hd]
    rw [hword] at h ⊢
    rw [head?_pathText]
    exact h
  · exact colonParam_skips hc _

/-- What the scan finds of a parameter in a path, if it is constrained. -/
def constrainedIn? (bodies : OrderedMap Value (List Char)) (p : Param) : Option Constrained :=
  (bodies.get? (.str (String.ofList p.name))).map fun b =>
    ⟨⟨p.name, false⟩, ':' :: p.name, b⟩

/-- A parameter is scanned by itself, if what follows does not lengthen it. -/
theorem pieces_constrainedBy {p : Param} (hp : p.IsNamed)
    (hbody : ∀ b, bodies.get? (.str (String.ofList p.name)) = some b → BodyText b)
    {rest : List Char} (hends : p.optional = false → EndsName rest)
    (hopen : rest.head? ≠ some '(') :
    ∃ ps, pieces constrained (p.constrainedBy bodies ++ rest) = ps ++ pieces constrained rest ∧
      ps.filterMap (·.value?) = (constrainedIn? bodies p).toList ∧
      withoutConstraints ps = p.colon := by
  cases hget : bodies.get? (.str (String.ofList p.name)) with
  | none =>
    have hwritten : p.constrainedBy bodies = p.colon := by
      simp [Param.constrainedBy, Param.colon, hget]
    refine ⟨p.colon.map .other, ?_, ?_, replaceFinds_map_other p.colon⟩
    · rw [hwritten, pieces_constrained_colon hp hends hopen]
    · rw [filterMap_value?_map_other, constrainedIn?, hget]
      rfl
  | some b =>
    -- the question mark stands behind the constraint and is none of the parameter found
    have hnamed : (Param.mk p.name false).IsNamed := ⟨hp.ne_nil, hp.word⟩
    have htoken : ':' :: p.name = (Param.mk p.name false).colon := by
      simp [Param.colon, Param.mark]
    have hread := constrained_append (.inl htoken) hnamed (hbody b hget) (p.mark ++ rest)
    have hwritten : p.constrainedBy bodies ++ rest =
        (':' :: p.name ++ '(' :: b ++ [')']) ++ (p.mark ++ rest) := by
      simp [Param.constrainedBy, hget]
    have hshape : ':' :: p.name ++ '(' :: b ++ ')' :: (p.mark ++ rest) =
        (':' :: p.name ++ '(' :: b ++ [')']) ++ (p.mark ++ rest) := by
      simp
    have hmark : ∀ c ∈ p.mark, constrained.Skips c := fun c hc =>
      constrained_skips_name hp c (List.mem_append_right p.name hc)
    rw [hshape] at hread
    refine ⟨.found ⟨⟨p.name, false⟩, ':' :: p.name, b⟩ (':' :: p.name ++ '(' :: b ++ [')']) ::
      p.mark.map .other, ?_, ?_, ?_⟩
    · rw [hwritten, pieces_append_of_some (by simp) hread, pieces_append_of_skips hmark]
      rfl
    · rw [filterMap_value?_found, filterMap_value?_map_other, constrainedIn?, hget]
      rfl
    · rw [withoutConstraints, replaceFinds_found, replaceFinds_map_other]
      rfl

/-- **The scan of a path finds the constraints of its parameters**, and leaves the uri. -/
theorem pieces_pathText (hbodies : ∀ n b, bodies.get? (.str n) = some b → BodyText b)
    {uri : List Char} (hbrace : '{' ∉ uri) (hopen : '(' ∉ uri) :
    (pieces constrained (pathText bodies uri)).filterMap (·.value?) =
        (paramsIn uri).filterMap (constrainedIn? bodies) ∧
      withoutConstraints (pieces constrained (pathText bodies uri)) = uri := by
  unfold paramsIn
  induction uri using scan_induction colonParam_consumes with
  | nil => exact ⟨rfl, rfl⟩
  | other c cs hnone ih =>
    obtain ⟨ihfound, ihrest⟩ :=
      ih (fun hin => hbrace (List.mem_cons_of_mem c hin)) fun hin => hopen (List.mem_cons_of_mem c hin)
    have hpath : pathText bodies (c :: cs) = c :: pathText bodies cs := by
      unfold pathText
      rw [pieces_cons_of_none hnone]
      rfl
    have hskip : constrained (c :: pathText bodies cs) = none := by
      have hcolon : colonParam (c :: pathText bodies cs) = none :=
        colonParam_pathText_eq_none hnone
      have hc : c ≠ '{' := fun hc => hbrace (hc ▸ List.mem_cons_self)
      have hbraceParam := braceParam_skips hc (pathText bodies cs)
      simp [constrained, paramToken, hcolon, hbraceParam]
    rw [hpath, pieces_cons_of_none hskip, pieces_cons_of_none hnone]
    exact ⟨ihfound, congrArg (c :: ·) ihrest⟩
  | found text p rest hne hsome ih =>
    -- behind the parameter the path begins as the uri does, so it does not lengthen it either
    obtain ⟨ihfound, ihrest⟩ := ih (fun hin => hbrace (List.mem_append_right text hin)) fun hin =>
      hopen (List.mem_append_right text hin)
    obtain ⟨hp, hends, heq⟩ := eq_of_colonParam hsome
    obtain rfl : text = p.colon := List.append_cancel_right heq
    have hpath : pathText bodies (p.colon ++ rest) =
        p.constrainedBy bodies ++ pathText bodies rest := by
      unfold pathText
      rw [pieces_append_of_some hne hsome]
      rfl
    have hends' : p.optional = false → EndsName (pathText bodies rest) := by
      unfold EndsName
      rw [head?_pathText]
      exact hends
    have hopen' : (pathText bodies rest).head? ≠ some '(' := by
      rw [head?_pathText]
      intro hhead
      exact hopen (List.mem_append_right _ (List.mem_of_mem_head? hhead))
    obtain ⟨ps, hps, hfound, hrest⟩ := pieces_constrainedBy hp (hbodies _) hends' hopen'
    rw [hpath, hps, pieces_append_of_some hne hsome]
    refine ⟨?_, ?_⟩
    · rw [List.filterMap_append, hfound, ihfound, filterMap_value?_found]
      cases hb : constrainedIn? bodies p <;> simp [hb]
    · unfold withoutConstraints at hrest ihrest ⊢
      rw [replaceFinds_append, hrest, ihrest]

end Scan

/-! ## Maps of constraints -/

section Texts
variable {texts : OrderedMap String String}

/-- What succeeds on every value of a map is done value by value. -/
theorem mapM_texts {β : Type} {f : Value → Except Fault β} {g : String → β}
    (h : ∀ e ∈ texts.entries, f (.str e.2) = .ok (g e.2)) :
    ((texts.mapValues Value.str).withTextKeys.entries.mapM fun e => do return (e.1, ← f e.2)) =
      .ok (texts.mapValues g).withTextKeys.entries := by
  obtain ⟨entries⟩ := texts
  simp only [OrderedMap.withTextKeys, OrderedMap.mapValues, List.map_map]
  induction entries with
  | nil => rfl
  | cons e rest ih =>
    have hrest := ih fun d hd => h d (List.mem_cons_of_mem e hd)
    have he := h e List.mem_cons_self
    simp only [List.map_cons, List.mapM_cons, Function.comp_apply, hrest, he]
    rfl

variable [CharacterNames]

theorem anchorAll_texts {pattern : String → Pattern}
    (h : ∀ e ∈ texts.entries, Constraint.anchor (.str e.2) = .ok (pattern e.2)) :
    Constraint.anchorAll (texts.mapValues Value.str).withTextKeys =
      .ok (texts.mapValues pattern).withTextKeys := by
  unfold Constraint.anchorAll
  rw [mapM_texts h]
  rfl

theorem constraintBodies_texts
    (h : ∀ e ∈ texts.entries, Constraint.body (.str e.2) = .ok e.2.toList) :
    constraintBodies (texts.mapValues Value.str).withTextKeys =
      .ok (texts.mapValues String.toList).withTextKeys := by
  unfold constraintBodies
  rw [mapM_texts h]
  rfl

omit [CharacterNames] in
/-- Names can be put in order. -/
theorem areOrdered_texts (names : List String) : areOrdered (names.map .str) = true := by
  induction names with
  | nil => rfl
  | cons n ns ih => simp [areOrdered, ih, Value.precedes?]

theorem path_texts (h : ∀ e ∈ texts.entries, Constraint.body (.str e.2) = .ok e.2.toList)
    (uri : String) :
    path uri (texts.mapValues Value.str).withTextKeys =
      .ok (String.ofList (pathText (texts.mapValues String.toList).withTextKeys uri.toList)) := by
  unfold path
  rw [constraintBodies_texts h]
  simp only [bind, Except.bind, OrderedMap.keys_withTextKeys, areOrdered_texts]
  rfl

end Texts

/-! ## Compiling a path -/

/-- A uri without braces, backslashes and runs of slashes is in its normal form. -/
theorem normalize_eq_self {uri : List Char} (hbrace : '{' ∉ uri) (hbackslash : '\\' ∉ uri)
    (hslashes : ¬ ['/', '/'] <:+: uri) : normalize false uri = uri := by
  rw [normalize_false, bracesToColons_eq_self hbrace, backslashesToSlashes_eq_self hbackslash,
    squeeze_eq_self hslashes]

/-- The constraints found in a path are those of the names of its uri. -/
theorem ofList_found (texts : OrderedMap String String) (pattern : String → Pattern)
    (names : List String) :
    (OrderedMap.ofList
      (OrderedMap.table (fun n => (texts.get? n).map pattern) names)).withTextKeys =
      restrict (texts.mapValues pattern).withTextKeys names.eraseDups := by
  simp only [OrderedMap.withTextKeys, restrict]
  rw [OrderedMap.entries_ofList_table, OrderedMap.table, List.map_filterMap]
  congr 2
  funext n
  have hget := OrderedMap.get?_withTextKeys (texts.mapValues pattern) n
  rw [OrderedMap.get?_mapValues] at hget
  rw [← OrderedMap.withTextKeys, hget]
  cases texts.get? n <;> rfl

/-- What the scan of a path finds, each with its pattern. -/
def foundIn (texts : OrderedMap String String) (pattern : String → Pattern) (uri : List Char) :
    List (Constrained × Pattern) :=
  (paramsIn uri).filterMap fun p =>
    (texts.get? (String.ofList p.name)).map fun b =>
      (⟨⟨p.name, false⟩, ':' :: p.name, b.toList⟩, pattern b)

section Found
variable {texts : OrderedMap String String} {pattern : String → Pattern}

theorem map_fst_foundIn (uri : List Char) :
    (foundIn texts pattern uri).map (·.1) =
      (paramsIn uri).filterMap
        (constrainedIn? (texts.mapValues String.toList).withTextKeys) := by
  rw [foundIn, List.map_filterMap]
  congr 1
  funext p
  rw [constrainedIn?, OrderedMap.get?_withTextKeys, OrderedMap.get?_mapValues]
  cases texts.get? (String.ofList p.name) <;> rfl

/-- The pattern of a find depends on the name alone. -/
theorem map_name_foundIn (uri : List Char) :
    (foundIn texts pattern uri).map (fun c => (String.ofList c.1.param.name, c.2)) =
      OrderedMap.table (fun n => (texts.get? n).map pattern)
        ((paramsIn uri).map fun p => String.ofList p.name) := by
  rw [foundIn, OrderedMap.table, List.filterMap_map, List.map_filterMap]
  congr 1
  funext p
  simp only [Function.comp_apply]
  cases texts.get? (String.ofList p.name) <;> rfl

variable [CharacterNames]

theorem anchor_of_mem_foundIn (htexts : ∀ e ∈ texts.entries, Inlinable e.2)
    (hpattern : ∀ e ∈ texts.entries, Constraint.anchor (.str e.2) = .ok (pattern e.2))
    {uri : List Char} {c : Constrained × Pattern} (hc : c ∈ foundIn texts pattern uri) :
    Constraint.anchor (.str (String.ofList (squeeze '\\' c.1.body))) = .ok c.2 := by
  obtain ⟨p, -, hp⟩ := List.mem_filterMap.mp hc
  obtain ⟨source, hsource, rfl⟩ := Option.map_eq_some_iff.mp hp
  obtain ⟨e, he, rfl⟩ := OrderedMap.exists_mem_of_get? hsource
  -- its backslashes stand alone, so none is lost
  rw [squeeze_eq_self (htexts e he).single, String.ofList_toList]
  exact hpattern e he

theorem bodyText_of_get? (htexts : ∀ e ∈ texts.entries, Inlinable e.2) {n : String}
    {b : List Char} (h : (texts.mapValues String.toList).withTextKeys.get? (.str n) = some b) :
    BodyText b := by
  rw [OrderedMap.get?_withTextKeys, OrderedMap.get?_mapValues] at h
  obtain ⟨source, hsource, rfl⟩ := Option.map_eq_some_iff.mp h
  obtain ⟨e, he, rfl⟩ := OrderedMap.exists_mem_of_get? hsource
  exact (htexts e he).isBody

theorem exists_patterns (htexts : ∀ e ∈ texts.entries, Inlinable e.2) :
    ∃ pattern : String → Pattern,
      ∀ e ∈ texts.entries, Constraint.anchor (.str e.2) = .ok (pattern e.2) := by
  refine ⟨fun b => (Constraint.anchor (.str b)).toOption.getD ⟨b, {}, .empty⟩, ?_⟩
  intro e he
  obtain ⟨p, hp, -⟩ := (htexts e he).anchor
  simp [hp, Except.toOption]

end Found

/-- **Compilation undoes the writing of paths.** -/
theorem compile_path [CharacterNames] {uri : String}
    (hplain : ∀ c ∈ ['\\', '{', '(', ')'], c ∉ uri.toList)
    (hslashes : ¬ ['/', '/'] <:+: uri.toList) {texts : OrderedMap String String}
    (htexts : ∀ e ∈ texts.entries, Inlinable e.2) :
    ∃ constraints text,
      Constraint.anchorAll (texts.mapValues Value.str).withTextKeys = .ok constraints ∧
      path uri (texts.mapValues Value.str).withTextKeys = .ok text ∧
      ∀ strict, compile text strict =
        .ok { uri, constraints := restrict constraints (paramNames uri), malformed := false } := by
  have hbackslash := hplain '\\' (by simp)
  have hbrace := hplain '{' (by simp)
  have hopen := hplain '(' (by simp)
  obtain ⟨pattern, hpattern⟩ := exists_patterns htexts
  have hbody : ∀ e ∈ texts.entries, Constraint.body (.str e.2) = .ok e.2.toList := by
    intro e he
    obtain ⟨p, -, hp⟩ := (htexts e he).anchor
    exact hp
  refine ⟨_, _, anchorAll_texts hpattern, path_texts hbody uri, ?_⟩
  intro strict
  obtain ⟨hfound, hrest⟩ :=
    pieces_pathText (fun _ _ => bodyText_of_get? htexts) hbrace hopen
  have hconstraints := constraintsOf_eq_ok fun c (hc : c ∈ foundIn texts pattern uri.toList) =>
    anchor_of_mem_foundIn htexts hpattern hc
  rw [compile_eq_ok (hfound.trans (map_fst_foundIn uri.toList).symm) hrest hconstraints hopen strict,
    normalize_eq_self hbrace hbackslash hslashes, String.ofList_toList, map_name_foundIn, ofList_found]
  rfl

/-- Four digits, or a text that ends with a dollar. -/
theorem inlinable_digits [CharacterNames] : Inlinable "\\d{4}|:x\\$" where
  valid := ⟨⟨"\\d{4}|:x\\$", {},
    .alt (.iterate .greedy 4 (some 4) (.set false [.category .digit false]))
      (.cat (.code 58) (.cat (.code 120) (.code 36)))⟩, by rfl⟩
  isBody := .pair (by decide) <| .char (by decide) (by decide) (by decide) <|
    .char (by decide) (by decide) (by decide) <| .char (by decide) (by decide) (by decide) <|
    .char (by decide) (by decide) (by decide) <| .char (by decide) (by decide) (by decide) <|
    .char (by decide) (by decide) (by decide) <| .pair (by decide) .nil
  single := squeeze_eq_self_iff.mp (by decide)
  no_caret := by decide
  no_dollar := Constraint.getLast?_of_not_endsAnchored (by decide)

/-- Constraints of two names, of which a uri may have one, both or none. -/
def sampleTexts : OrderedMap String String :=
  ⟨[("slug", "\\d{4}|:x\\$"), ("id", "\\d{4}|:x\\$")]⟩

open scoped CharacterNames.Unnamed

theorem compile_path_sampleTexts :
    (∀ c ∈ ['\\', '{', '(', ')'], c ∉ "/:id?/::x/:id".toList) ∧
      (¬ ['/', '/'] <:+: "/:id?/::x/:id".toList) ∧
      (∀ e ∈ sampleTexts.entries, Inlinable e.2) ∧
      ∃ constraints text,
        Constraint.anchorAll (sampleTexts.mapValues Value.str).withTextKeys = .ok constraints ∧
        path "/:id?/::x/:id" (sampleTexts.mapValues Value.str).withTextKeys = .ok text ∧
        ∀ strict, compile text strict =
          .ok { uri := "/:id?/::x/:id",
                constraints := restrict constraints (paramNames "/:id?/::x/:id"),
                malformed := false } := by
  have hplain : ∀ c ∈ ['\\', '{', '(', ')'], c ∉ "/:id?/::x/:id".toList := by
    simp
  have hslashes : ¬ ['/', '/'] <:+: "/:id?/::x/:id".toList := squeeze_eq_self_iff.mp (by decide)
  have htexts : ∀ e ∈ sampleTexts.entries, Inlinable e.2 := by
    intro e he
    simp only [sampleTexts, List.mem_cons, List.not_mem_nil, or_false] at he
    rcases he with rfl | rfl <;> exact inlinable_digits
  exact ⟨hplain, hslashes, htexts, compile_path hplain hslashes htexts⟩

end RouteTree.Template
