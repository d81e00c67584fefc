import RouteTree.Proofs.Template.Compiling

/-!
# Templates with single slashes

A uri is joined before it is compiled, and joining writes every run of slashes as one, wherever it
stands. **A template with single slashes compiles as the template does** (`compile_squeeze`), but
for the bodies of its constraints, which have single slashes, too.

Every recogniser that a compilation scans with reads a text with single slashes as it reads the text
with runs of them (`Recogniser.Squeezes`): a token has no slash in it, and a constraint stays one
(`bodyText_squeeze_iff`). So the scans find the same, but for the bodies, and what they leave is the
same, but for runs of slashes, which the last pass of the compilation squeezes.
-/

namespace RouteTree

open Text

namespace Text

variable {α : Type}

/-- The recogniser reads a text with runs of slashes as it reads the text with single slashes. What
it finds there is what it finds here, changed by `f`. -/
structure Recogniser.Squeezes (find : Recogniser α) (f : α → α) : Prop where
  consumes : find.Consumes
  skips : find.Skips '/'
  some : ∀ {cs value rest}, find cs = some (value, rest) →
    find (squeeze '/' cs) = some (f value, squeeze '/' rest)
  none : ∀ {cs}, find cs = none → find (squeeze '/' cs) = none

namespace Recogniser.Squeezes

variable {find : Recogniser α} {f : α → α}

theorem pieces_cons_of_none (h : find.Squeezes f) {c : Char} {cs : List Char}
    (hnone : find (c :: cs) = Option.none) (hc : c = '/' → cs.head? ≠ Option.some '/') :
    pieces find (squeeze '/' (c :: cs)) = .other c :: pieces find (squeeze '/' cs) := by
  have hsqueezed := h.none hnone
  rw [squeeze_cons hc] at hsqueezed ⊢
  exact Text.pieces_cons_of_none hsqueezed

theorem pieces_append_of_some (h : find.Squeezes f) {value : α} {text rest : List Char}
    (hsome : find (text ++ rest) = Option.some (value, rest)) :
    ∃ text', pieces find (squeeze '/' (text ++ rest)) =
      .found (f value) text' :: pieces find (squeeze '/' rest) := by
  have hsqueezed := h.some hsome
  obtain ⟨text', hne, heq⟩ := h.consumes _ _ _ hsqueezed
  rw [heq] at hsqueezed ⊢
  exact ⟨text', Text.pieces_append_of_some hne hsqueezed⟩

/-- In the squeezed text the scan finds the same. -/
theorem filterMap_value?_pieces (h : find.Squeezes f) (cs : List Char) :
    (pieces find (squeeze '/' cs)).filterMap (·.value?) =
      ((pieces find cs).filterMap (·.value?)).map f := by
  induction cs using scan_induction h.consumes with
  | nil => rfl
  | other c cs hnone ih =>
    have hother : (pieces find (c :: cs)).filterMap (·.value?) =
        (pieces find cs).filterMap (·.value?) := by
      rw [Text.pieces_cons_of_none hnone, List.filterMap_cons_none rfl]
    rw [hother, ← ih]
    by_cases hc : c = '/' → cs.head? ≠ Option.some '/'
    · rw [h.pieces_cons_of_none hnone hc, List.filterMap_cons_none rfl]
    · obtain ⟨rfl, hhead⟩ : c = '/' ∧ cs.head? = Option.some '/' := by simpa using hc
      obtain ⟨tail, rfl⟩ := List.head?_eq_some_iff.mp hhead
      rw [squeeze_cons_cons_self]
  | found text value rest hne hsome ih =>
    obtain ⟨text', hpieces⟩ := h.pieces_append_of_some hsome
    rw [hpieces, Text.pieces_append_of_some hne hsome, filterMap_value?_found,
      filterMap_value?_found, List.map_cons, ih]

/-- Replacing finds leaves the same text, but for runs of slashes. -/
theorem squeeze_replaceFinds_pieces (h : find.Squeezes f) {write : α → List Char}
    (hf : ∀ value, write (f value) = write value) (cs : List Char) :
    squeeze '/' (replaceFinds write (pieces find (squeeze '/' cs))) =
      squeeze '/' (replaceFinds write (pieces find cs)) := by
  induction cs using scan_induction h.consumes with
  | nil => rfl
  | other c cs hnone ih =>
    rw [Text.pieces_cons_of_none hnone, replaceFinds_other,
      ← squeeze_cons_squeeze '/' c (replaceFinds write (pieces find cs)), ← ih]
    by_cases hc : c = '/' → cs.head? ≠ Option.some '/'
    · rw [h.pieces_cons_of_none hnone hc, replaceFinds_other, squeeze_cons_squeeze]
    · obtain ⟨rfl, hhead⟩ : c = '/' ∧ cs.head? = Option.some '/' := by simpa using hc
      obtain ⟨tail, rfl⟩ := List.head?_eq_some_iff.mp hhead
      rw [squeeze_cons_cons_self, ih, Text.pieces_cons_of_none (h.skips tail), replaceFinds_other,
        squeeze_cons_squeeze, squeeze_cons_cons_self]
  | found text value rest hne hsome ih =>
    obtain ⟨text', hpieces⟩ := h.pieces_append_of_some hsome
    rw [hpieces, Text.pieces_append_of_some hne hsome, replaceFinds_found, replaceFinds_found, hf,
      ← squeeze_append_squeeze, ih, squeeze_append_squeeze]

end Recogniser.Squeezes

end Text

namespace Template

/-! ## Constraints -/

theorem bodyText_pair_iff {c : Char} {rest : List Char} :
    BodyText ('\\' :: c :: rest) ↔ c ≠ '\n' ∧ BodyText rest := by
  refine ⟨fun h => ?_, fun ⟨hc, hrest⟩ => .pair hc hrest⟩
  cases h with
  | pair hc hrest => exact ⟨hc, hrest⟩
  | char _ _ hslash _ => exact absurd rfl hslash

theorem bodyText_cons_iff {c : Char} (hc : c ≠ '\\') {rest : List Char} :
    BodyText (c :: rest) ↔ c ≠ '(' ∧ c ≠ ')' ∧ BodyText rest := by
  refine ⟨fun h => ?_, fun ⟨hopen, hclose, hrest⟩ => .char hopen hclose hc hrest⟩
  cases h with
  | pair => exact absurd rfl hc
  | char hopen hclose _ hrest => exact ⟨hopen, hclose, hrest⟩

/-- Runs of slashes make no difference to what a constraint is, also behind a backslash. -/
theorem bodyText_squeeze_iff (b : List Char) :
    (BodyText (squeeze '/' b) ↔ BodyText b) ∧
      (BodyText ('\\' :: squeeze '/' b) ↔ BodyText ('\\' :: b)) := by
  induction b using squeeze_induction '/' with
  | nil => exact ⟨Iff.rfl, Iff.rfl⟩
  | kept x rest hx ih =>
    obtain ⟨hplain, hescaped⟩ := ih
    rw [squeeze_cons hx, bodyText_pair_iff, bodyText_pair_iff, hplain]
    refine ⟨?_, Iff.rfl⟩
    by_cases hslash : x = '\\'
    · subst hslash
      exact hescaped
    · rw [bodyText_cons_iff hslash, bodyText_cons_iff hslash, hplain]
  | again rest ih =>
    obtain ⟨hplain, hescaped⟩ := ih
    have hmore : BodyText ('/' :: '/' :: rest) ↔ BodyText ('/' :: rest) := by
      rw [bodyText_cons_iff (by decide)]
      exact ⟨fun h => h.2.2, fun h => ⟨by decide, by decide, h⟩⟩
    rw [squeeze_cons_cons_self, hmore, hescaped, bodyText_pair_iff, bodyText_pair_iff]
    refine ⟨hplain, and_congr_right fun _ => ?_⟩
    rw [bodyText_cons_iff (by decide)]
    exact ⟨fun h => ⟨by decide, by decide, h⟩, fun h => h.2.2⟩

/-- The constraint with single slashes. -/
def Constrained.squeezed (c : Constrained) : Constrained := { c with body := squeeze '/' c.body }

/-- A token has no slash. -/
theorem Param.IsNamed.slash_not_mem {p : Param} (hp : p.IsNamed) {token : List Char}
    (htoken : token = p.colon ∨ token = p.brace) : '/' ∉ token := by
  have hname : '/' ∉ p.name ++ p.mark := fun hin => hp.ne_of_mem hin (by decide) (by decide) rfl
  rcases htoken with rfl | rfl <;> simp_all [Param.colon, Param.brace]

theorem slash_not_mem_paren : '/' ∉ ['('] := by decide

theorem constrained_squeezes : constrained.Squeezes Constrained.squeezed where
  consumes := constrained_consumes
  skips := constrained_skips (by decide) (by decide)
  some {cs c rest} h := by
    obtain ⟨hp, htoken, hbody, rfl⟩ := eq_of_constrained h
    have hread := constrained_append htoken hp ((bodyText_squeeze_iff c.body).1.mpr hbody)
      (squeeze '/' rest)
    rw [List.append_assoc, List.cons_append] at hread ⊢
    rw [squeeze_append_of_not_mem (hp.slash_not_mem htoken), squeeze_cons_of_ne (by decide),
      squeeze_append_cons (by decide)]
    exact hread
  none {cs} h := by
    by_contra hsome
    obtain ⟨⟨c, rest⟩, hread⟩ := Option.ne_none_iff_exists'.mp hsome
    obtain ⟨hp, htoken, hbody, heq⟩ := eq_of_constrained hread
    rw [List.append_assoc, List.cons_append] at heq
    obtain ⟨tail, rfl, htail⟩ := exists_of_squeeze_eq_append (hp.slash_not_mem htoken) heq
    obtain ⟨inner, rfl, hinner⟩ := exists_of_squeeze_eq_append slash_not_mem_paren htail
    obtain ⟨b, rest', rfl, hb, -⟩ := exists_of_squeeze_eq_append_cons (by decide) hinner
    rw [← hb] at hbody
    have hfound := constrained_append htoken hp ((bodyText_squeeze_iff b).1.mp hbody) rest'
    rw [List.append_assoc, List.cons_append] at hfound
    exact absurd (hfound.symm.trans h) nofun

theorem openConstraint_squeezes : openConstraint.Squeezes id where
  consumes := openConstraint_consumes
  skips cs := by
    unfold openConstraint
    rw [paramToken_skips (by decide) (by decide)]
  some {cs token rest} h := by
    obtain ⟨p, hp, htoken, rfl⟩ := eq_of_openConstraint h
    rw [squeeze_append_of_not_mem (hp.slash_not_mem htoken), squeeze_cons_of_ne (by decide)]
    exact openConstraint_append hp htoken (squeeze '/' rest)
  none {cs} h := by
    by_contra hsome
    obtain ⟨⟨token, rest⟩, hread⟩ := Option.ne_none_iff_exists'.mp hsome
    obtain ⟨p, hp, htoken, heq⟩ := eq_of_openConstraint hread
    obtain ⟨tail, rfl, htail⟩ := exists_of_squeeze_eq_append (hp.slash_not_mem htoken) heq
    obtain ⟨rest', rfl, -⟩ := exists_of_squeeze_eq_append slash_not_mem_paren htail
    exact absurd ((openConstraint_append hp htoken rest').symm.trans h) nofun

theorem braceParam_squeezes : braceParam.Squeezes id where
  consumes := braceParam_consumes
  skips := braceParam_skips (by decide)
  some {cs p rest} h := by
    obtain ⟨hp, rfl⟩ := eq_of_braceParam h
    rw [squeeze_append_of_not_mem (hp.slash_not_mem (.inr rfl))]
    exact braceParam_append hp (squeeze '/' rest)
  none {cs} h := by
    by_contra hsome
    obtain ⟨⟨p, rest⟩, hread⟩ := Option.ne_none_iff_exists'.mp hsome
    obtain ⟨hp, heq⟩ := eq_of_braceParam hread
    obtain ⟨rest', rfl, -⟩ := exists_of_squeeze_eq_append (hp.slash_not_mem (.inr rfl)) heq
    exact absurd ((braceParam_append hp rest').symm.trans h) nofun

/-! ## The passes of a compilation -/

theorem any_isSome_value? {α : Type} (ps : List (Piece α)) :
    ps.any (·.value?.isSome) = !(ps.filterMap (·.value?)).isEmpty := by
  induction ps with
  | nil => rfl
  | cons p ps ih =>
    rw [List.any_cons, ih]
    cases p <;> rfl

theorem hasOpenConstraint_squeeze (cs : List Char) :
    hasOpenConstraint (squeeze '/' cs) = hasOpenConstraint cs := by
  unfold hasOpenConstraint
  rw [any_isSome_value?, any_isSome_value?, openConstraint_squeezes.filterMap_value?_pieces,
    List.map_id]

theorem normalize_squeeze (malformed : Bool) (cs : List Char) :
    normalize malformed (squeeze '/' cs) = normalize malformed cs := by
  have hcolons : squeeze '/' (bracesToColons (squeeze '/' cs)) = squeeze '/' (bracesToColons cs) :=
    braceParam_squeezes.squeeze_replaceFinds_pieces (fun _ => rfl) cs
  unfold normalize
  rw [collapseSlashes_eq, collapseSlashes_eq]
  cases malformed with
  | true => exact hcolons
  | false =>
    -- backslashes become slashes one by one
    have hmap := squeeze_map_squeeze (c := '/') (f := fun c => if c = '\\' then '/' else c) rfl
    have hsqueezed := congrArg (fun text => squeeze '/' (backslashesToSlashes text)) hcolons
    unfold backslashesToSlashes at hsqueezed ⊢
    rwa [hmap, hmap] at hsqueezed

/-- The parameters of a template that have a constraint, each with its constraint, in order. -/
def constrainedIn (template : List Char) : List Constrained :=
  (pieces constrained template).filterMap (·.value?)

/-- No parenthesis stands outside an escape pair of a constraint. -/
theorem bodyText_of_mem_constrainedIn {template : List Char} {c : Constrained}
    (h : c ∈ constrainedIn template) : BodyText c.body := by
  unfold constrainedIn at h
  induction template using scan_induction constrained_consumes with
  | nil => exact absurd h List.not_mem_nil
  | other d cs hnone ih =>
    rw [pieces_cons_of_none hnone, List.filterMap_cons_none rfl] at h
    exact ih h
  | found text value rest hne hsome ih =>
    rw [pieces_append_of_some hne hsome, filterMap_value?_found, List.mem_cons] at h
    rcases h with rfl | h
    · exact (eq_of_constrained hsome).2.2.1
    · exact ih h

theorem constrainedIn_squeeze (template : List Char) :
    constrainedIn (squeeze '/' template) = (constrainedIn template).map Constrained.squeezed :=
  constrained_squeezes.filterMap_value?_pieces template

/-- **Compiling with single slashes.** A template without open constraints is compiled to the same
uri with single slashes as with runs of them, but the constraints have single slashes, too. -/
theorem compile_squeeze [CharacterNames] {template : List Char} {constraints : Constraints}
    (hclosed : hasOpenConstraint (withoutConstraints (pieces constrained template)) = false)
    (hconstraints :
      constraintsOf ((constrainedIn template).map Constrained.squeezed) = .ok constraints)
    (strict : Bool) :
    compile (String.ofList (squeeze '/' template)) strict =
      .ok { uri := String.ofList
              (normalize false (withoutConstraints (pieces constrained template)))
            constraints
            malformed := false } := by
  have htext : squeeze '/' (withoutConstraints (pieces constrained (squeeze '/' template))) =
      squeeze '/' (withoutConstraints (pieces constrained template)) :=
    constrained_squeezes.squeeze_replaceFinds_pieces (fun _ => rfl) template
  have hsame : hasOpenConstraint
      (withoutConstraints (pieces constrained (squeeze '/' template))) = false := by
    rw [← hasOpenConstraint_squeeze, htext, hasOpenConstraint_squeeze, hclosed]
  rw [compile_of_closed (constrainedIn_squeeze template) rfl hconstraints hsame, ← normalize_squeeze,
    htext, normalize_squeeze]

/-- A constraint without two slashes side by side is as it is joined. -/
theorem map_squeezed_eq_self {found : List Constrained}
    (h : ∀ c ∈ found, ¬ ['/', '/'] <:+: c.body) : found.map Constrained.squeezed = found := by
  have hsame : ∀ c ∈ found, c.squeezed = c := fun c hc => by
    unfold Constrained.squeezed
    rw [squeeze_eq_self (h c hc)]
  rw [List.map_congr_left hsame, List.map_id']

end Template

end RouteTree
