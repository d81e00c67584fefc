import RouteTree.Template.Compiled
import RouteTree.Proofs.OrderedMap.TextKeys
import RouteTree.Proofs.Template.Tokens
import RouteTree.Proofs.Text.Squeeze

/-!
# What a compilation comes to

The passes of `compile`, one statement for each: the constraints found become a map if all of them
anchor (`constraintsOf_eq_ok`), a text without an opening parenthesis is not malformed
(`hasOpenConstraint_eq_false`), and the rest of the work is done on the text without constraints
(`compile_eq_ok`).
-/

namespace RouteTree.Template

open Text

/-- Constraints that all anchor are kept by the names of their parameters. -/
theorem constraintsOf_eq_ok [CharacterNames] {found : List (Constrained × Pattern)}
    (h : ∀ c ∈ found,
      Constraint.anchor (.str (String.ofList (squeeze '\\' c.1.body))) = .ok c.2) :
    constraintsOf (found.map (·.1)) =
      .ok (OrderedMap.ofList
        (found.map fun c => (String.ofList c.1.param.name, c.2))).withTextKeys := by
  induction found using List.reverseRecOn with
  | nil => rfl
  | append_singleton found c ih =>
    have hfound := ih fun d hd => h d (List.mem_append_left _ hd)
    have hc := h c (List.mem_append_right _ (List.mem_singleton_self c))
    unfold constraintsOf at hfound ⊢
    rw [List.map_append, List.map_append, List.foldlM_append, hfound, List.map_singleton,
      List.map_singleton, OrderedMap.ofList_concat, ← OrderedMap.insert_withTextKeys]
    simp only [List.foldlM_cons, List.foldlM_nil, collapseBackslashes_eq, hc]
    rfl

/-- The last constraint found is written over those before it. -/
theorem constraintsOf_concat [CharacterNames] {found : List Constrained} {c : Constrained}
    {constraints : Constraints} (h : constraintsOf (found ++ [c]) = .ok constraints) :
    ∃ known pattern, constraintsOf found = .ok known ∧
      Constraint.anchor (.str (String.ofList (squeeze '\\' c.body))) = .ok pattern ∧
      constraints = known.insert (.str (String.ofList c.param.name)) pattern := by
  unfold constraintsOf at h ⊢
  rw [List.foldlM_append] at h
  cases hknown : List.foldlM (m := Except Fault) _ OrderedMap.empty found with
  | error fault =>
    rw [hknown] at h
    exact absurd h nofun
  | ok known =>
    rw [hknown] at h
    simp only [List.foldlM_cons, List.foldlM_nil, collapseBackslashes_eq] at h
    cases hanchor : Constraint.anchor (.str (String.ofList (squeeze '\\' c.body))) with
    | error fault =>
      rw [hanchor] at h
      exact absurd h nofun
    | ok pattern =>
      rw [hanchor] at h
      exact ⟨known, pattern, rfl, rfl, (Except.ok.inj h).symm⟩

/-- Constraints that are kept have all been anchored. -/
theorem exists_of_constraintsOf [CharacterNames] {found : List Constrained}
    {constraints : Constraints} (h : constraintsOf found = .ok constraints) :
    ∃ anchored : List (Constrained × Pattern), anchored.map (·.1) = found ∧
      ∀ c ∈ anchored, Constraint.anchor (.str (String.ofList (squeeze '\\' c.1.body))) = .ok c.2 := by
  induction found using List.reverseRecOn generalizing constraints with
  | nil => exact ⟨[], rfl, nofun⟩
  | append_singleton found c ih =>
    obtain ⟨known, pattern, hknown, hanchor, -⟩ := constraintsOf_concat h
    obtain ⟨anchored, rfl, hanchored⟩ := ih hknown
    refine ⟨anchored ++ [(c, pattern)], by simp, fun d hd => ?_⟩
    rcases List.mem_append.mp hd with hd | hd
    · exact hanchored d hd
    · rw [List.mem_singleton.mp hd]
      exact hanchor

/-- Every key of the constraints is the name of a parameter that has one. -/
theorem exists_of_mem_keys [CharacterNames] {found : List Constrained} {constraints : Constraints}
    (h : constraintsOf found = .ok constraints) {key : Value} (hkey : key ∈ constraints.keys) :
    ∃ c ∈ found, key = .str (String.ofList c.param.name) := by
  induction found using List.reverseRecOn generalizing constraints with
  | nil =>
    obtain rfl : OrderedMap.empty = constraints := Except.ok.inj h
    exact absurd hkey List.not_mem_nil
  | append_singleton found c ih =>
    obtain ⟨known, pattern, hknown, -, rfl⟩ := constraintsOf_concat h
    have hkeys : key ∈ known.keys ∨ key = .str (String.ofList c.param.name) := by
      cases hc : known.contains (.str (String.ofList c.param.name)) with
      | true => exact .inl (OrderedMap.keys_insert_of_contains pattern hc ▸ hkey)
      | false => simpa [OrderedMap.keys_insert_of_not_contains pattern hc] using hkey
    rcases hkeys with hold | rfl
    · obtain ⟨d, hd, rfl⟩ := ih hknown hold
      exact ⟨d, List.mem_append_left _ hd, rfl⟩
    · exact ⟨c, List.mem_append_right _ (List.mem_singleton_self c), rfl⟩

/-- Where no constraint is found anywhere, there is none to take out. -/
theorem pieces_constrained_of_none {cs : List Char} (h : ∀ s, s <:+ cs → constrained s = none) :
    (pieces constrained cs).filterMap (·.value?) = [] ∧
      withoutConstraints (pieces constrained cs) = cs := by
  rw [pieces_of_none h]
  exact ⟨filterMap_value?_map_other cs, replaceFinds_map_other cs⟩

/-- A text without an opening parenthesis has none behind a parameter. -/
theorem hasOpenConstraint_eq_false {cs : List Char} (h : '(' ∉ cs) :
    hasOpenConstraint cs = false := by
  have hpieces : pieces openConstraint cs = cs.map .other :=
    pieces_of_none fun s hs => openConstraint_eq_none fun hin => h (hs.subset hin)
  rw [hasOpenConstraint, hpieces, List.any_map]
  simp [Piece.value?]

theorem normalize_false (cs : List Char) :
    normalize false cs = squeeze '/' (backslashesToSlashes (bracesToColons cs)) :=
  collapseSlashes_eq _

/-- Text without a brace stays as it is. -/
theorem bracesToColons_append {text : List Char} (h : '{' ∉ text) (tail : List Char) :
    bracesToColons (text ++ tail) = text ++ bracesToColons tail := by
  have hskips : ∀ c ∈ text, braceParam.Skips c := by
    intro c hc
    refine braceParam_skips ?_
    rintro rfl
    exact h hc
  unfold bracesToColons
  rw [pieces_append_of_skips hskips, replaceFinds_append, replaceFinds_map_other]

theorem bracesToColons_eq_self {cs : List Char} (h : '{' ∉ cs) : bracesToColons cs = cs := by
  have hnil : bracesToColons [] = [] := rfl
  have happend := bracesToColons_append h []
  rwa [List.append_nil, hnil, List.append_nil] at happend

theorem bracesToColons_cons_of_none {c : Char} {cs : List Char} (h : braceParam (c :: cs) = none) :
    bracesToColons (c :: cs) = c :: bracesToColons cs := by
  unfold bracesToColons
  rw [pieces_cons_of_none h, replaceFinds_other]

/-- In either notation, a token leaves its parameter in colon notation. -/
theorem bracesToColons_token_append {p : Param} {token : List Char} (hp : p.IsNamed)
    (htoken : token = p.colon ∨ token = p.brace) (tail : List Char) :
    bracesToColons (token ++ tail) = p.colon ++ bracesToColons tail := by
  rcases htoken with rfl | rfl
  · exact bracesToColons_append hp.not_mem_colon tail
  · unfold bracesToColons
    rw [pieces_append_of_some (by simp [Param.brace]) (braceParam_append hp tail)]
    rfl

/-- A character that is no part of a parameter in braces keeps the texts on its sides apart. -/
theorem bracesToColons_append_cons {d : Char} (hd : ∀ p : Param, p.IsNamed → d ∉ p.brace)
    (text rest : List Char) :
    bracesToColons (text ++ d :: rest) = bracesToColons text ++ bracesToColons (d :: rest) := by
  induction text using scan_induction braceParam_consumes with
  | nil => rfl
  | other c cs hnone ih =>
    have hstill : braceParam (c :: (cs ++ d :: rest)) = none := by
      by_contra hsome
      obtain ⟨⟨p, after⟩, hread⟩ := Option.ne_none_iff_exists'.mp hsome
      obtain ⟨hp, heq⟩ := eq_of_braceParam hread
      -- the brace would end before the character
      rw [← List.cons_append] at heq
      obtain ⟨inner, hinner⟩ : ∃ inner, c :: cs = p.brace ++ inner := by
        rcases List.append_eq_append_iff.mp heq with ⟨as, hbrace, hrest⟩ | ⟨inner, hcs, -⟩
        · cases as with
          | nil => exact ⟨[], by rw [List.append_nil, hbrace, List.append_nil]⟩
          | cons a as =>
            obtain rfl : d = a := (List.cons.inj hrest).1
            exact absurd (by rw [hbrace]; simp) (hd p hp)
        · exact ⟨inner, hcs⟩
      rw [hinner, braceParam_append hp] at hnone
      exact absurd hnone nofun
    rw [List.cons_append, bracesToColons_cons_of_none hstill, ih, bracesToColons_cons_of_none hnone,
      List.cons_append]
  | found text p after hne hsome ih =>
    obtain ⟨hp, heq⟩ := eq_of_braceParam hsome
    rw [heq, List.append_assoc, bracesToColons_token_append hp (.inr rfl), ih,
      bracesToColons_token_append hp (.inr rfl), List.append_assoc]

/-- What stands outside names and braces is neither added nor taken away. -/
theorem count_bracesToColons {d : Char} (hd : ∀ p : Param, p.IsNamed → d ∉ p.brace) (hcolon : d ≠ ':')
    (cs : List Char) : (bracesToColons cs).count d = cs.count d := by
  induction cs using scan_induction braceParam_consumes with
  | nil => rfl
  | other c cs hnone ih => rw [bracesToColons_cons_of_none hnone, List.count_cons, List.count_cons, ih]
  | found text p rest hne hsome ih =>
    obtain ⟨hp, heq⟩ := eq_of_braceParam hsome
    have hbrace := hd p hp
    have hname : d ∉ p.colon := fun hin => by
      rw [Param.colon, List.cons_append, List.mem_cons] at hin
      refine hbrace ?_
      rw [Param.brace, List.cons_append, List.cons_append]
      exact List.mem_cons_of_mem _ (List.mem_append_left _ (hin.resolve_left hcolon))
    rw [heq, bracesToColons_token_append hp (.inr rfl), List.count_append, List.count_append, ih,
      List.count_eq_zero_of_not_mem hname, List.count_eq_zero_of_not_mem hbrace]

theorem backslashesToSlashes_cons (c : Char) (cs : List Char) :
    backslashesToSlashes (c :: cs) = (if c = '\\' then '/' else c) :: backslashesToSlashes cs := rfl

/-- Without backslashes there are none to rewrite. -/
theorem backslashesToSlashes_eq_self {cs : List Char} (h : '\\' ∉ cs) :
    backslashesToSlashes cs = cs := by
  have hmap : ∀ c ∈ cs, (if c = '\\' then '/' else c) = c := by
    intro c hc
    refine if_neg ?_
    rintro rfl
    exact h hc
  rw [backslashesToSlashes, List.map_congr_left hmap, List.map_id']

variable [CharacterNames]

/-- What a compilation that succeeds has read. -/
theorem eq_of_compile {template : String} {strict : Bool} {c : Compiled}
    (h : compile template strict = .ok c) :
    constraintsOf ((pieces constrained template.toList).filterMap (·.value?)) = .ok c.constraints ∧
      c.malformed = hasOpenConstraint (withoutConstraints (pieces constrained template.toList)) ∧
      c.uri = String.ofList
        (normalize c.malformed (withoutConstraints (pieces constrained template.toList))) ∧
      (strict = true → c.malformed = false) := by
  unfold compile at h
  generalize pieces constrained template.toList = ps at h ⊢
  dsimp only at h
  cases hconstraints : constraintsOf (ps.filterMap (·.value?)) with
  | error fault =>
    rw [hconstraints] at h
    exact absurd h nofun
  | ok constraints =>
    rw [hconstraints] at h
    dsimp only [bind, Except.bind] at h
    split at h
    · exact absurd h nofun
    · rename_i hstrict
      obtain rfl := Except.ok.inj h
      refine ⟨rfl, rfl, rfl, ?_⟩
      rintro rfl
      simpa using hstrict

/-- A template whose constraints all anchor and that is left without an open constraint compiles,
strictly or not. -/
theorem compile_of_closed {template : List Char} {found : List Constrained} {text : List Char}
    {constraints : Constraints}
    (hfound : (pieces constrained template).filterMap (·.value?) = found)
    (htext : withoutConstraints (pieces constrained template) = text)
    (hconstraints : constraintsOf found = .ok constraints) (hclosed : hasOpenConstraint text = false)
    (strict : Bool) :
    compile (String.ofList template) strict =
      .ok { uri := String.ofList (normalize false text), constraints, malformed := false } := by
  unfold compile
  simp only [String.toList_ofList, hfound, htext, hconstraints, hclosed]
  rfl

theorem compile_eq_ok {template : List Char} {found : List Constrained} {text : List Char}
    {constraints : Constraints}
    (hfound : (pieces constrained template).filterMap (·.value?) = found)
    (htext : withoutConstraints (pieces constrained template) = text)
    (hconstraints : constraintsOf found = .ok constraints) (hopen : '(' ∉ text) (strict : Bool) :
    compile (String.ofList template) strict =
      .ok { uri := String.ofList (normalize false text), constraints, malformed := false } :=
  compile_of_closed hfound htext hconstraints (hasOpenConstraint_eq_false hopen) strict

end RouteTree.Template
