import Mathlib.Data.List.Infix
import RouteTree.Proofs.Template.Recompiling

/-!
# Malformed templates

A lenient compilation reports a template that is left with an open constraint, and leaves its
backslashes as they are. The other passes are made all the same, so **the text from the open
parenthesis on is left untouched iff it has no parameter in braces and no two slashes side by
side** (`compile_malformed`). A constraint that was not completed may well have such braces: those of
a repetition, as in `\d{4}`, are read as a parameter.

The parenthesis itself divides the passes: no parameter in braces reaches over it, and it ends a run
of slashes. What the passes make of the text behind it can be compared with the text because they
neither add nor take away a parenthesis (`count_paren_normalize`).
-/

namespace RouteTree.Template

open Text

theorem normalize_true (cs : List Char) : normalize true cs = squeeze '/' (bracesToColons cs) :=
  collapseSlashes_eq _

theorem Param.IsNamed.paren_not_mem_brace {p : Param} (hp : p.IsNamed) : '(' ∉ p.brace :=
  hp.not_mem_brace (by decide) (by decide) (by decide) (by decide)

/-- A parenthesis keeps the texts on its sides apart. -/
theorem normalize_append_paren (text rest : List Char) :
    normalize true (text ++ '(' :: rest) = normalize true text ++ '(' :: normalize true rest := by
  have hparen : bracesToColons ('(' :: rest) = '(' :: bracesToColons rest :=
    bracesToColons_cons_of_none (braceParam_skips (by decide) rest)
  rw [normalize_true, bracesToColons_append_cons fun _ hp => hp.paren_not_mem_brace, hparen,
    squeeze_append_cons (by decide), ← normalize_true, ← normalize_true]

theorem count_paren_normalize (cs : List Char) : (normalize true cs).count '(' = cs.count '(' := by
  rw [normalize_true, count_squeeze_of_ne (by decide),
    count_bracesToColons (fun _ hp => hp.paren_not_mem_brace) (by decide)]

/-- What the passes of a lenient compilation leave as it is. -/
theorem normalize_true_eq_self_iff (cs : List Char) :
    normalize true cs = cs ↔ HasNoBraces cs ∧ ¬ ['/', '/'] <:+: cs := by
  constructor
  · intro h
    have hslashes := not_infix_squeeze '/' (bracesToColons cs)
    rw [← normalize_true, h] at hslashes
    exact ⟨h ▸ hasNoBraces_normalize true cs, hslashes⟩
  · rintro ⟨hbraces, hslashes⟩
    rw [normalize_true, hbraces.bracesToColons_eq_self, squeeze_eq_self hslashes]

/-- Behind a parenthesis, an end that is as long as the text can only be the text. -/
theorem paren_cons_suffix_iff {front cs cs' : List Char} (hcount : cs'.count '(' = cs.count '(') :
    '(' :: cs <:+ front ++ '(' :: cs' ↔ cs' = cs := by
  constructor
  · intro h
    have hshort : ∀ {xs ys : List Char}, xs.count '(' = ys.count '(' → ¬ '(' :: xs <:+ ys := by
      intro xs ys hxs hsuffix
      have hle := hsuffix.sublist.count_le '('
      rw [List.count_cons_self] at hle
      omega
    rcases List.suffix_or_suffix_of_suffix h (List.suffix_append front ('(' :: cs')) with hs | hs
    · rcases List.suffix_cons_iff.mp hs with heq | hs
      · exact (List.cons.inj heq).2.symm
      · exact absurd hs (hshort hcount.symm)
    · rcases List.suffix_cons_iff.mp hs with heq | hs
      · exact (List.cons.inj heq).2
      · exact absurd hs (hshort hcount)
  · rintro rfl
    exact List.suffix_append front ('(' :: cs')

/-- **A malformed template, compiled leniently.** If there is no constraint anywhere and a
parenthesis behind a parameter, the template is reported as malformed and no constraint is taken out
of it. The text on each side of the parenthesis goes through the passes by itself, and the text from
the parenthesis on is still the end of the uri iff it has no parameter in braces and no two slashes
side by side. -/
theorem compile_malformed [CharacterNames] {template : String} {before token after : List Char}
    {p : Param} (hnone : ∀ s, s <:+ template.toList → constrained s = none) (hp : p.IsNamed)
    (htoken : token = p.colon ∨ token = p.brace)
    (htemplate : template.toList = before ++ token ++ '(' :: after) :
    ∃ c, compile template false = .ok c ∧ c.malformed = true ∧ c.constraints = .empty ∧
      c.uri.toList = normalize true (before ++ token) ++ '(' :: normalize true after ∧
      ('(' :: after <:+ c.uri.toList ↔ HasNoBraces after ∧ ¬ ['/', '/'] <:+: after) := by
  obtain ⟨hfound, htext⟩ := pieces_constrained_of_none hnone
  have hopen : hasOpenConstraint template.toList = true := by
    refine (hasOpenConstraint_iff _).mpr ⟨token ++ '(' :: after, ⟨before, ?_⟩, ?_⟩
    · rw [htemplate, List.append_assoc]
    · rw [openConstraint_append hp htoken]
      exact nofun
  have hcompile : compile template false =
      .ok { uri := String.ofList (normalize true template.toList), constraints := .empty
            malformed := true } := by
    unfold compile
    simp only [hfound, htext, hopen]
    rfl
  have huri : normalize true template.toList =
      normalize true (before ++ token) ++ '(' :: normalize true after := by
    rw [htemplate, normalize_append_paren]
  refine ⟨_, hcompile, rfl, rfl, ?_, ?_⟩
  · rw [String.toList_ofList, huri]
  · rw [String.toList_ofList, huri, paren_cons_suffix_iff (count_paren_normalize after),
      normalize_true_eq_self_iff]

open scoped CharacterNames.Unnamed

/-- A nested constraint, with a brace that is not closed. -/
theorem compile_malformed_nested :
    (∀ s, s <:+ "\\\x7ba\x7d//:b?(x(\x7b9,/\\d))".toList → constrained s = none) ∧
      ∃ c, compile "\\\x7ba\x7d//:b?(x(\x7b9,/\\d))" false = .ok c ∧ c.malformed = true ∧
        c.constraints = .empty ∧ "(x(\x7b9,/\\d))".toList <:+ c.uri.toList := by
  have hnone : ∀ s, s <:+ "\\\x7ba\x7d//:b?(x(\x7b9,/\\d))".toList → constrained s = none := by
    simp only [← List.mem_tails]
    decide +kernel
  have hbraces : HasNoBraces "x(\x7b9,/\\d))".toList := by
    simp only [HasNoBraces, ← List.mem_tails]
    decide +kernel
  have htemplate : "\\\x7ba\x7d//:b?(x(\x7b9,/\\d))".toList = "\\\x7ba\x7d//".toList ++
      (Param.mk "b".toList true).colon ++ '(' :: "x(\x7b9,/\\d))".toList := by rfl
  have hnamed : (Param.mk "b".toList true).IsNamed :=
    ⟨by decide, List.forall_mem_singleton.mpr (by decide +kernel)⟩
  obtain ⟨c, hcompile, hmalformed, hconstraints, -, huri⟩ :=
    compile_malformed hnone hnamed (.inl rfl) htemplate
  exact ⟨hnone, c, hcompile, hmalformed, hconstraints, huri.mpr ⟨hbraces, by decide +kernel⟩⟩

/-- The braces of a repetition are read as a parameter, so an unfinished constraint that has one is
not left untouched. -/
theorem compile_malformed_repetition :
    (∀ s, s <:+ "/:year(\\d\x7b4\x7d".toList → constrained s = none) ∧
      "/:year(\\d\x7b4\x7d".toList = "/:year".toList ++ "(\\d\x7b4\x7d".toList ∧
      ∃ c, compile "/:year(\\d\x7b4\x7d" false = .ok c ∧ c.uri = "/:year(\\d:4" ∧
        ¬ "(\\d\x7b4\x7d".toList <:+ c.uri.toList := by
  refine ⟨?_, by rfl, ⟨"/:year(\\d:4", .empty, true⟩, by rfl, rfl, by decide +kernel⟩
  simp only [← List.mem_tails]
  decide +kernel

end RouteTree.Template
