import RouteTree.Proofs.Template.Parameters

/-!
# Compiling a compiled uri

**A compiled uri compiles to itself if no parameter in it has an opening parenthesis behind it**
(`compile_compiled`), which can be told from the template. A strict compilation has made sure that
no parenthesis stands behind a parameter as the template writes it. When a brace is taken away,
though, the name in it is read on (`Param.readOn`), and what is read may end at a parenthesis that
was no parameter's before. If every parameter of the template ends itself (`NamesEnd`), this cannot
happen.

Nothing else is left to do for a second compilation: there are no braces around parameters
(`hasNoBraces_normalize`), no backslashes, and no slashes side by side.
-/

namespace RouteTree.Template

open Text

/-! ## Open constraints -/

theorem hasOpenConstraint_cons_of_none {c : Char} {cs : List Char}
    (h : openConstraint (c :: cs) = none) : hasOpenConstraint (c :: cs) = hasOpenConstraint cs := by
  unfold hasOpenConstraint
  rw [pieces_cons_of_none h, List.any_cons]
  rfl

/-- The scan for open constraints misses none. -/
theorem hasOpenConstraint_iff (cs : List Char) :
    hasOpenConstraint cs = true ↔ ∃ s, s <:+ cs ∧ openConstraint s ≠ none := by
  induction cs using scan_induction openConstraint_consumes with
  | nil =>
    refine ⟨fun h => absurd h (by decide), ?_⟩
    rintro ⟨s, hs, hsome⟩
    obtain rfl := List.suffix_nil.mp hs
    exact absurd rfl hsome
  | other c cs hnone ih =>
    rw [hasOpenConstraint_cons_of_none hnone, ih]
    refine exists_congr fun s => and_congr_left fun hsome => ?_
    rw [List.suffix_cons_iff]
    refine ⟨.inr, fun hs => hs.resolve_left ?_⟩
    rintro rfl
    exact hsome hnone
  | found text token rest hne hsome _ =>
    refine ⟨fun _ => ⟨text ++ rest, List.suffix_refl _, by rw [hsome]; exact nofun⟩, fun _ => ?_⟩
    unfold hasOpenConstraint
    rw [pieces_append_of_some hne hsome, List.any_cons]
    rfl

/-! ## Texts without braces around parameters -/

/-- No parameter is written in braces. -/
def HasNoBraces (cs : List Char) : Prop := ∀ s, s <:+ cs → braceParam s = none

theorem hasNoBraces_nil : HasNoBraces [] := fun s hs => by
  obtain rfl := List.suffix_nil.mp hs
  rfl

theorem hasNoBraces_cons {c : Char} {cs : List Char} :
    HasNoBraces (c :: cs) ↔ braceParam (c :: cs) = none ∧ HasNoBraces cs := by
  refine ⟨fun h => ⟨h _ (List.suffix_refl _), fun s hs => h s (hs.trans (List.suffix_cons c cs))⟩,
    fun ⟨hnone, hcs⟩ s hs => ?_⟩
  rcases List.suffix_cons_iff.mp hs with rfl | hs
  · exact hnone
  · exact hcs s hs

theorem hasNoBraces_append {text rest : List Char} (htext : '{' ∉ text) (hrest : HasNoBraces rest) :
    HasNoBraces (text ++ rest) := by
  induction text with
  | nil => exact hrest
  | cons c cs ih =>
    rw [List.mem_cons, not_or] at htext
    exact hasNoBraces_cons.mpr ⟨braceParam_skips (Ne.symm htext.1) _, ih htext.2⟩

/-- A pass that keeps a character and the front behind it makes no braces. -/
theorem braceParam_cons_of_front {c : Char} {cs cs' : List Char} (hfront : front cs = front cs')
    (h : braceParam (c :: cs') = none) : braceParam (c :: cs) = none := by
  by_cases hc : c = '{'
  · subst hc
    exact (braceParam_congr hfront).mpr h
  · exact braceParam_skips hc cs

theorem hasNoBraces_bracesToColons (cs : List Char) : HasNoBraces (bracesToColons cs) := by
  induction cs using scan_induction braceParam_consumes with
  | nil => exact hasNoBraces_nil
  | other c cs hnone ih =>
    rw [bracesToColons_cons_of_none hnone]
    exact hasNoBraces_cons.mpr ⟨braceParam_cons_of_front (front_bracesToColons cs) hnone, ih⟩
  | found text p rest hne hsome ih =>
    obtain ⟨hp, heq⟩ := eq_of_braceParam hsome
    rw [heq, bracesToColons_token_append hp (.inr rfl)]
    exact hasNoBraces_append hp.not_mem_colon ih

theorem HasNoBraces.bracesToColons_eq_self {cs : List Char} (h : HasNoBraces cs) :
    bracesToColons cs = cs := by
  unfold bracesToColons
  rw [pieces_of_none h, replaceFinds_map_other]

theorem HasNoBraces.backslashesToSlashes {cs : List Char} (h : HasNoBraces cs) :
    HasNoBraces (backslashesToSlashes cs) := by
  induction cs with
  | nil => exact h
  | cons c cs ih =>
    obtain ⟨hnone, hcs⟩ := hasNoBraces_cons.mp h
    rw [backslashesToSlashes_cons]
    refine hasNoBraces_cons.mpr ⟨?_, ih hcs⟩
    split
    · exact braceParam_skips (by decide) _
    · exact braceParam_cons_of_front (front_backslashesToSlashes cs) hnone

theorem HasNoBraces.squeeze {cs : List Char} (h : HasNoBraces cs) : HasNoBraces (squeeze '/' cs) := by
  induction cs using squeeze_induction '/' with
  | nil => exact h
  | kept c cs hc ih =>
    obtain ⟨hnone, hcs⟩ := hasNoBraces_cons.mp h
    rw [squeeze_cons hc]
    exact hasNoBraces_cons.mpr ⟨braceParam_cons_of_front (front_squeeze cs) hnone, ih hcs⟩
  | again cs ih =>
    rw [squeeze_cons_cons_self]
    exact ih (hasNoBraces_cons.mp h).2

/-- **A compiled uri has no braces around parameters.** -/
theorem hasNoBraces_normalize (malformed : Bool) (cs : List Char) :
    HasNoBraces (normalize malformed cs) := by
  unfold normalize
  rw [collapseSlashes_eq]
  cases malformed with
  | true => exact (hasNoBraces_bracesToColons cs).squeeze
  | false => exact (hasNoBraces_bracesToColons cs).backslashesToSlashes.squeeze

/-- Behind a colon, what is open is told by the mention. -/
theorem openConstraint_colon (cs : List Char) :
    openConstraint (':' :: cs) ≠ none ↔ (mention? cs).toList.any (·.opened) = true := by
  have hbrace : braceParam (':' :: cs) = none := braceParam_skips (by decide) cs
  cases hread : named cs with
  | none => simp [openConstraint, paramToken, colonParam, hbrace, mention?, hread]
  | some r =>
    obtain ⟨p, rest⟩ := r
    have htoken : paramToken (':' :: cs) = some ((p, p.colon), rest) := by
      simp [paramToken, colonParam, hread]
    cases rest with
    | nil => simp [openConstraint, htoken, mention?, hread, opens]
    | cons c rest =>
      by_cases hc : c = '(' <;> simp [openConstraint, htoken, mention?, hread, opens, hc]

/-- Without braces, the open constraints are those of the parameters in colon notation. -/
theorem hasOpenConstraint_eq_any {cs : List Char} (h : HasNoBraces cs) :
    hasOpenConstraint cs = (mentions cs).any (·.opened) := by
  rw [Bool.eq_iff_iff, hasOpenConstraint_iff]
  induction cs with
  | nil =>
    refine ⟨?_, fun h => absurd h (by decide)⟩
    rintro ⟨s, hs, hsome⟩
    obtain rfl := List.suffix_nil.mp hs
    exact absurd rfl hsome
  | cons c cs ih =>
    obtain ⟨hnone, hcs⟩ := hasNoBraces_cons.mp h
    have hsplit : (∃ s, s <:+ c :: cs ∧ openConstraint s ≠ none) ↔
        openConstraint (c :: cs) ≠ none ∨ ∃ s, s <:+ cs ∧ openConstraint s ≠ none := by
      simp only [List.suffix_cons_iff, or_and_right, exists_or, exists_eq_left]
    rw [hsplit, ih hcs]
    by_cases hc : c = ':'
    · subst hc
      rw [openConstraint_colon, mentions_colon, List.any_append, Bool.or_eq_true]
    · have hopen : openConstraint (c :: cs) = none := by
        simp [openConstraint, paramToken, colonParam_skips hc cs, hnone]
      rw [mentions_cons_of_ne hc]
      simp [hopen]

/-! ## The second compilation -/

theorem backslash_not_mem_normalize (cs : List Char) : '\\' ∉ normalize false cs := by
  rw [normalize_false]
  intro h
  obtain ⟨c, -, hc⟩ := List.mem_map.mp (mem_of_mem_squeeze h)
  split at hc
  · exact absurd hc (by decide)
  · contradiction

/-- What is normal stays as it is. -/
theorem normalize_normalize (cs : List Char) :
    normalize false (normalize false cs) = normalize false cs := by
  have hnobraces := hasNoBraces_normalize false cs
  have hbackslash := backslash_not_mem_normalize cs
  have hslashes : ¬ ['/', '/'] <:+: normalize false cs := by
    rw [normalize_false]
    exact not_infix_squeeze '/' _
  generalize normalize false cs = text at hnobraces hbackslash hslashes ⊢
  rw [normalize_false, hnobraces.bracesToColons_eq_self, backslashesToSlashes_eq_self hbackslash,
    squeeze_eq_self hslashes]

theorem eq_nil_of_constraintsOf [CharacterNames] {found : List Constrained}
    (h : constraintsOf found = .ok OrderedMap.empty) : found = [] := by
  induction found using List.reverseRecOn with
  | nil => rfl
  | append_singleton found c _ =>
    obtain ⟨known, pattern, -, -, hinsert⟩ := constraintsOf_concat h
    exact absurd hinsert.symm (OrderedMap.insert_ne_empty known _ pattern)

/-- A normal text compiles to itself if it has no open constraint, and only then. -/
theorem compile_normal_iff [CharacterNames] {text : List Char}
    (htext : normalize false text = text) :
    compile (String.ofList text) true =
        .ok { uri := String.ofList text, constraints := .empty, malformed := false } ↔
      hasOpenConstraint text = false := by
  refine ⟨fun h => ?_, fun h => ?_⟩
  · obtain ⟨hconstraints, hmalformed, -, -⟩ := eq_of_compile h
    rw [String.toList_ofList] at hconstraints hmalformed
    have hsame : withoutConstraints (pieces constrained text) = text :=
      (replaceFinds_of_filterMap_eq_nil (eq_nil_of_constraintsOf hconstraints)).trans
        (flatMap_text_pieces constrained_consumes text)
    rw [← hsame]
    exact hmalformed.symm
  · have hnone : ∀ s, s <:+ text → constrained s = none := fun s hs =>
      constrained_eq_none_of_openConstraint <| by
        by_contra hopen
        rw [(hasOpenConstraint_iff text).mpr ⟨s, hs, hopen⟩] at h
        exact absurd h nofun
    obtain ⟨hfound, hwithout⟩ := pieces_constrained_of_none hnone
    have hcompile := compile_of_closed hfound hwithout rfl h true
    rwa [htext] at hcompile

/-- Every parameter that ends with its name has something behind it, or behind its constraint, that
ends the name. -/
def NamesEnd (template : String) : Prop :=
  ∀ w ∈ parameters template.toList, w.1.optional = false → EndsName w.2

instance (template : String) : Decidable (NamesEnd template) :=
  inferInstanceAs (Decidable (∀ w ∈ parameters template.toList, _))

theorem readOn_of_endsName {p : Param} {rest : List Char}
    (h : p.optional = false → EndsName rest) : p.readOn rest = ⟨p, opens rest⟩ := by
  obtain ⟨name, optional⟩ := p
  cases optional with
  | true => rfl
  | false =>
    have hends := h rfl
    cases rest with
    | nil => simp [Param.readOn, mark]
    | cons c rest =>
      obtain ⟨hword, hmark⟩ := hends c rfl
      simp [Param.readOn, hword, mark, hmark]

/-- A parenthesis behind a parameter of the template, or behind its constraint, is open when the
constraints are gone. -/
theorem hasOpenConstraint_of_opens {template : List Char} {w : Param × List Char}
    (hw : w ∈ parameters template) (hopens : opens w.2 = true) :
    hasOpenConstraint (withoutConstraints (pieces constrained template)) = true := by
  rw [hasOpenConstraint_iff]
  unfold parameters at hw
  induction template using scan_induction parameter_consumes with
  | nil => exact absurd hw List.not_mem_nil
  | other c cs hnone ih =>
    rw [following_pieces_of_none hnone] at hw
    obtain ⟨s, hs, hopen⟩ := ih hw
    rw [pieces_cons_of_none (of_parameter_eq_none hnone).1]
    exact ⟨s, hs.trans (List.suffix_cons c _), hopen⟩
  | found text p rest hne hsome ih =>
    obtain ⟨-, token, ps, -, -, hp, htoken, hpieces, hwithout, -⟩ := pieces_of_parameter hsome
    have happend : withoutConstraints (pieces constrained (text ++ rest)) =
        token ++ withoutConstraints (pieces constrained rest) := by
      rw [hpieces, ← hwithout]
      exact replaceFinds_append _ _
    rw [happend]
    rw [following_pieces_of_some parameter_consumes hne hsome] at hw
    rcases List.mem_cons.mp hw with rfl | hw
    · -- the parenthesis is still the first character behind the token
      rw [← opens_front, ← front_withoutConstraints, opens_front] at hopens
      obtain ⟨after, hafter⟩ := List.head?_eq_some_iff.mp (by simpa [opens] using hopens)
      refine ⟨_, List.suffix_refl _, ?_⟩
      rw [hafter, openConstraint_append hp htoken]
      exact Option.some_ne_none _
    · obtain ⟨s, hs, hopen⟩ := ih hw
      exact ⟨s, hs.trans (List.suffix_append token _), hopen⟩

/-- **When a compiled uri compiles to itself**: if nothing is read on to a parenthesis, and only
then. In particular it does if every parameter ends itself. -/
theorem compile_compiled [CharacterNames] {template : String} {c : Compiled}
    (h : compile template true = .ok c) :
    (compile c.uri true = .ok { uri := c.uri, constraints := .empty, malformed := false } ↔
        ∀ w ∈ parameters template.toList, (w.1.readOn w.2).opened = false) ∧
      (NamesEnd template →
        compile c.uri true = .ok { uri := c.uri, constraints := .empty, malformed := false }) := by
  obtain ⟨-, hmalformed, huri, hstrict⟩ := eq_of_compile h
  rw [hstrict rfl] at hmalformed huri
  have hiff : compile c.uri true =
      .ok { uri := c.uri, constraints := .empty, malformed := false } ↔
        ∀ w ∈ parameters template.toList, (w.1.readOn w.2).opened = false := by
    have hmentions := mentions_compile h
    rw [huri, String.toList_ofList] at hmentions
    rw [huri, compile_normal_iff (normalize_normalize _),
      hasOpenConstraint_eq_any (hasNoBraces_normalize false _), hmentions]
    simp
  refine ⟨hiff, fun hends => hiff.mpr fun w hw => ?_⟩
  rw [readOn_of_endsName (hends w hw)]
  by_contra hopens
  rw [hasOpenConstraint_of_opens hw (by simpa using hopens)] at hmalformed
  exact absurd hmalformed nofun

open scoped CharacterNames.Unnamed

theorem compile_compiled_ended :
    NamesEnd "//\x7ba\x7d\\\x7bb?\x7dx(y)" ∧
      compile "//\x7ba\x7d\\\x7bb?\x7dx(y)" true = .ok ⟨"/:a/:b?x(y)", .empty, false⟩ ∧
      compile "/:a/:b?x(y)" true = .ok ⟨"/:a/:b?x(y)", .empty, false⟩ := by
  have hends : NamesEnd "//\x7ba\x7d\\\x7bb?\x7dx(y)" := by decide +kernel
  have hcompile : compile "//\x7ba\x7d\\\x7bb?\x7dx(y)" true =
      .ok ⟨"/:a/:b?x(y)", .empty, false⟩ := by rfl
  exact ⟨hends, hcompile, (compile_compiled hcompile).2 hends⟩

/-- A question mark behind a brace makes a parameter optional, and a parenthesis behind that makes a
constraint, which the second compilation takes out. -/
theorem compile_compiled_readOn :
    ∃ c, compile "/\x7ba\x7d?(x)" true = .ok c ∧ c.uri = "/:a?(x)" ∧
      ∃ again, compile c.uri true = .ok again ∧ again.uri = "/:a?" ∧
        again.constraints.keys = [.str "a"] :=
  ⟨⟨"/:a?(x)", .empty, false⟩, by rfl, rfl,
    ⟨"/:a?", ⟨[(.str "a", ⟨"^x$", {}, .cat (.assertion .lineStart)
      (.cat (.code 120) (.assertion .lineEnd))⟩)]⟩, false⟩, by rfl, rfl, rfl⟩

end RouteTree.Template
