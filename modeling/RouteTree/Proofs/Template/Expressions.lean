import RouteTree.Proofs.Regex.Matches
import RouteTree.Proofs.Regex.Stepping
import RouteTree.Proofs.Template.Parameters

/-!
# Tokens as regular expressions

The tokens of a template can be written as regular expressions, and read and matched as any others. The
recognisers have no choice to take back, while an expression may take a shorter name, leave a question
mark, or end a constraint before its end. **All the same they find the same texts at the same places**
(`search_colon`, `search_placeholder`, `search_constrained`): where another choice could be made, what
has to follow is not there.
-/

namespace RouteTree.Template

open Text Regex

/-! ## The expressions -/

section

variable [CharacterNames]

/-- A parameter in colon notation. -/
def colonSource : String := ":(?P<name>\\w+)(?P<optional>\\?)?"

/-- A parameter in colon notation, together with a slash before it. -/
def placeholderSource : String := "(?P<sep>/)?:(?P<name>\\w+)(?P<optional>\\?)?"

/-- A parameter in either notation, with its constraint. -/
def constrainedSource : String :=
  "(?P<token>:\\w+\\??|\\\x7b\\w+\\??\\\x7d)\\((?P<body>(?:\\\\.|[^()\\\\])*)\\)"

/-- A run of word characters. -/
def wordsRegex : Regex := .iterate .greedy 1 none (.set false [.category .word false])

/-- A question mark, or none. -/
def markRegex : Regex := .iterate .greedy 0 (some 1) (.code '?'.toNat)

/-- A parameter in colon notation, of which two groups remember the name and the question mark. -/
def colonRegex (index : Nat) : Regex :=
  .cat (.code ':'.toNat) (.cat (.capture index wordsRegex)
    (.iterate .greedy 0 (some 1) (.capture (index + 1) (.code '?'.toNat))))

def placeholderRegex : Regex :=
  .cat (.iterate .greedy 0 (some 1) (.capture 1 (.code '/'.toNat))) (colonRegex 2)

/-- A parameter in either notation. -/
def tokenRegex : Regex :=
  .alt (.cat (.code ':'.toNat) (.cat wordsRegex markRegex))
    (.cat (.code '\x7b'.toNat) (.cat wordsRegex (.cat markRegex (.code '\x7d'.toNat))))

/-- An escape pair, or a character that is no parenthesis and no backslash. -/
def itemRegex : Regex :=
  .scoped {} (.alt (.cat (.code '\\'.toNat) .any)
    (.set true [.code '('.toNat, .code ')'.toNat, .code '\\'.toNat]))

def constrainedRegex : Regex :=
  .cat (.capture 1 tokenRegex) (.cat (.code '('.toNat)
    (.cat (.capture 2 (.iterate .greedy 0 none itemRegex)) (.code ')'.toNat)))

theorem compile_colonSource : Pattern.compile colonSource {} = .ok ⟨colonSource, {}, colonRegex 1⟩ :=
  rfl

theorem compile_placeholderSource :
    Pattern.compile placeholderSource {} = .ok ⟨placeholderSource, {}, placeholderRegex⟩ := rfl

theorem compile_constrainedSource :
    Pattern.compile constrainedSource {} = .ok ⟨constrainedSource, {}, constrainedRegex⟩ := rfl

/-! ## Names and question marks -/

end

section

variable {before rest : List Char} {groups : List (Nat × List Char)}
  {follow : Cursor → Option Cursor}

theorem textSince_append (text rest' : List Char) (groups' : List (Nat × List Char)) :
    (Cursor.mk (text.reverse ++ before) rest groups).textSince ⟨before, rest', groups'⟩ = text := by
  simp [Cursor.textSince]

theorem isStep_word :
    IsStep ((Regex.set false [.category .word false]).search {}) (·.take? isWord) := by
  have htest : setHolds {} false [.category .word false] = isWord := by
    funext c
    simp [setHolds, SetItem.holds, Category.holds]
  exact htest ▸ isStep_set false _

/-- **A name is taken whole**, if what follows has no better chance behind a part of it. -/
theorem search_words {name : List Char} (hne : name ≠ []) (hword : ∀ c ∈ name, isWord c = true)
    (hrest : ∀ c ∈ rest.head?, isWord c = false)
    (hfollow : PrefersEnd (·.take? isWord) follow ⟨name.reverse ++ before, rest, groups⟩) :
    wordsRegex.search {} ⟨before, name ++ rest, groups⟩ follow =
      follow ⟨name.reverse ++ before, rest, groups⟩ := by
  have hsteps := steps_take? hword hrest before groups
  have hlength : 1 ≤ name.length := List.length_pos_iff.mpr hne
  rw [wordsRegex, search_iterate_of_steps isStep_word (advances_take? isWord) hsteps hfollow,
    if_pos hlength]

/-- If what follows succeeds behind the whole name, no shorter one is tried. -/
theorem search_words_eq_some {name : List Char} (hne : name ≠ [])
    (hword : ∀ c ∈ name, isWord c = true) (hrest : ∀ c ∈ rest.head?, isWord c = false) {e : Cursor}
    (hend : follow ⟨name.reverse ++ before, rest, groups⟩ = some e) :
    wordsRegex.search {} ⟨before, name ++ rest, groups⟩ follow = some e :=
  (search_words hne hword hrest fun hnone => absurd (hnone.symm.trans hend) nofun).trans hend

theorem search_words_eq_none (hrest : ∀ c ∈ rest.head?, isWord c = false) :
    wordsRegex.search {} ⟨before, rest, groups⟩ follow = none :=
  search_iterate_eq_none isStep_word (take?_eq_none hrest) Nat.one_pos follow

/-- What is to follow fails before a character of the kind. -/
def Refuses (follow : Cursor → Option Cursor) (kind : Char → Prop) : Prop :=
  ∀ s, (∃ c ∈ s.after.head?, kind c) → follow s = none

/-- **A question mark is taken if there is one**, and what follows begins with none. -/
theorem search_mark {p : Param} (hfollow : Refuses follow (· = '?'))
    (hends : p.optional = false → EndsName rest) :
    markRegex.search {} ⟨before, p.mark ++ rest, groups⟩ follow =
      follow ⟨p.mark.reverse ++ before, rest, groups⟩ := by
  rw [markRegex, search_optional]
  rcases mark_cases hends with ⟨-, hmark⟩ | ⟨-, hmark, hno⟩
  · have hback : follow ⟨before, '?' :: rest, groups⟩ = none := hfollow _ ⟨'?', rfl, rfl⟩
    rw [hmark, List.singleton_append, search_code_cons, hback, Option.or_none]
    rfl
  · rw [hmark, List.nil_append, search_code_eq_none hno, Option.none_or]
    rfl

/-- **A name with its question mark is read as the recogniser reads it**, if what follows begins with
neither a word character nor a question mark. -/
theorem search_named (hfollow : Refuses follow fun c => isWord c = true ∨ c = '?') (cs : List Char) :
    (Regex.cat wordsRegex markRegex).search {} ⟨before, cs, groups⟩ follow =
      (named cs).bind fun found =>
        follow ⟨(found.1.name ++ found.1.mark).reverse ++ before, found.2, groups⟩ := by
  have hmark : Refuses follow (· = '?') := fun s ⟨c, hc, hq⟩ => hfollow s ⟨c, hc, .inr hq⟩
  have hback : ∀ e, PrefersEnd (·.take? isWord) (fun s => markRegex.search {} s follow) e := by
    intro e _ s hs
    obtain ⟨c, hc, hword⟩ := head?_of_take?_ne_none hs
    have hno : s.after.head? ≠ some '?' := by
      rw [Option.mem_def.mp hc]
      exact fun heq => ne_of_isWord hword (by decide) (Option.some.inj heq)
    change markRegex.search {} s follow = none
    rw [markRegex, search_optional, search_code_eq_none hno, hfollow s ⟨c, hc, .inl hword⟩]
    rfl
  rw [search]
  cases hnamed : named cs with
  | none =>
    rw [search_words_eq_none (head?_of_named_eq_none hnamed), Option.bind_none]
  | some found =>
    obtain ⟨p, rest⟩ := found
    obtain ⟨hp, hends, rfl⟩ := eq_of_named hnamed
    rw [List.append_assoc, search_words hp.ne_nil hp.word (head?_mark_append hends) (hback _),
      search_mark hmark hends]
    simp

end

/-! ## Parameters in colon notation -/

/-- What the groups of an expression remember of a parameter, of which the first one is `index`. -/
def Param.groups (index : Nat) (p : Param) : List (Nat × List Char) :=
  (if p.optional then [(index + 1, ['?'])] else []) ++ [(index, p.name)]

/-- A question mark that is taken is remembered. -/
theorem search_capturedMark {p : Param} {rest : List Char} (index : Nat)
    (hends : p.optional = false → EndsName rest) (before : List Char)
    (groups : List (Nat × List Char)) :
    (Regex.iterate .greedy 0 (some 1) (.capture index (.code '?'.toNat))).search {}
        ⟨before, p.mark ++ rest, groups⟩ some =
      some ⟨p.mark.reverse ++ before, rest,
        (if p.optional then [(index, ['?'])] else []) ++ groups⟩ := by
  rw [search_optional, search]
  rcases mark_cases hends with ⟨hopt, hmark⟩ | ⟨hopt, hmark, hno⟩
  · have htext : (Cursor.mk ('?' :: before) rest groups).textSince ⟨before, '?' :: rest, groups⟩ =
        ['?'] := textSince_append ['?'] _ _
    rw [hmark, List.singleton_append, search_code_cons]
    simpa [Cursor.capture, hopt] using htext
  · rw [hmark, List.nil_append, search_code_eq_none hno, Option.none_or, hopt]
    rfl

/-- A name and its question mark, of which groups remember both. -/
theorem search_capturedNamed (index : Nat) (before cs : List Char) (groups : List (Nat × List Char)) :
    (Regex.cat (.capture index wordsRegex)
        (.iterate .greedy 0 (some 1) (.capture (index + 1) (.code '?'.toNat)))).search {}
        ⟨before, cs, groups⟩ some =
      (named cs).map fun found => ⟨(found.1.name ++ found.1.mark).reverse ++ before, found.2,
        found.1.groups index ++ groups⟩ := by
  rw [search, search]
  cases hnamed : named cs with
  | none => rw [search_words_eq_none (head?_of_named_eq_none hnamed), Option.map_none]
  | some found =>
    obtain ⟨p, rest⟩ := found
    obtain ⟨hp, hends, rfl⟩ := eq_of_named hnamed
    rw [List.append_assoc]
    refine search_words_eq_some hp.ne_nil hp.word (head?_mark_append hends) ?_
    dsimp only
    rw [textSince_append, Cursor.capture, search_capturedMark (index + 1) hends]
    simp [Param.groups]

/-- **A parameter is found by its expression.** -/
theorem search_colon (index : Nat) (s : Cursor) :
    (colonRegex index).search {} s some = (colonParam s.after).map fun found =>
      ⟨found.1.colon.reverse ++ s.before, found.2, found.1.groups index ++ s.groups⟩ := by
  obtain ⟨before, cs, groups⟩ := s
  rw [colonRegex, search]
  by_cases hc : cs.head? = some ':'
  · obtain ⟨cs, rfl⟩ := List.head?_eq_some_iff.mp hc
    rw [search_code_cons, search_capturedNamed]
    simp [colonParam, Param.colon]
  · rw [search_code_eq_none hc, colonParam_eq_none hc]
    rfl

theorem expresses_colon [CharacterNames] :
    Expresses colonSource colonParam Param.colon (Param.groups 1) where
  consumes := colonParam_consumes
  takes _ _ _ h := (eq_of_colonParam h).2.2
  searches := ⟨_, compile_colonSource, search_colon 1⟩

/-! ## Placeholders -/

/-- What the groups of its expression remember of a placeholder. -/
def Placeholder.groups (p : Placeholder) : List (Nat × List Char) :=
  p.param.groups 2 ++ if p.slash then [(1, ['/'])] else []

/-- **A placeholder is found by its expression.** -/
theorem search_placeholder (s : Cursor) :
    placeholderRegex.search {} s some = (placeholder s.after).map fun found =>
      ⟨found.1.text.reverse ++ s.before, found.2, found.1.groups ++ s.groups⟩ := by
  obtain ⟨before, cs, groups⟩ := s
  rw [placeholderRegex, search, search_optional, search]
  by_cases hc : cs.head? = some '/'
  · obtain ⟨cs, rfl⟩ := List.head?_eq_some_iff.mp hc
    have htext : (Cursor.mk ('/' :: before) cs groups).textSince ⟨before, '/' :: cs, groups⟩ =
        ['/'] := textSince_append ['/'] _ _
    have hcolon : colonParam ('/' :: cs) = none := colonParam_skips (by decide) cs
    rw [search_code_cons, search_colon, search_colon, hcolon, Option.map_none, Option.or_none,
      placeholder, Option.map_map]
    simp [Cursor.capture, htext, Function.comp_def, Placeholder.text, Placeholder.groups]
  · rw [search_code_eq_none hc, Option.none_or, search_colon, placeholder_of_head?_ne hc,
      Option.map_map]
    simp [Function.comp_def, Placeholder.text, Placeholder.groups]

theorem expresses_placeholder [CharacterNames] :
    Expresses placeholderSource placeholder Placeholder.text Placeholder.groups where
  consumes := placeholder_consumes
  takes _ _ _ h := (eq_of_placeholder h).2.2
  searches := ⟨_, compile_placeholderSource, search_placeholder⟩

/-! ## Constraints -/

/-- What the groups of its expression remember of a constraint. -/
def Constrained.groups (c : Constrained) : List (Nat × List Char) := [(2, c.body), (1, c.token)]

section

variable {follow : Cursor → Option Cursor}

/-- What begins with one character begins with no other. -/
theorem refuses_code {c : Char} {kind : Char → Prop} (hc : ¬ kind c) :
    Refuses (fun s => (Regex.code c.toNat).search {} s follow) kind := by
  rintro s ⟨d, hd, hkind⟩
  refine search_code_eq_none (fun heq => hc ?_) follow
  obtain rfl : d = c := Option.some.inj (hd.symm.trans heq)
  exact hkind

theorem search_colonToken (hfollow : Refuses follow fun c => isWord c = true ∨ c = '?')
    (before cs : List Char) (groups : List (Nat × List Char)) :
    (Regex.cat (.code ':'.toNat) (.cat wordsRegex markRegex)).search {} ⟨before, cs, groups⟩ follow =
      (colonParam cs).bind fun found => follow ⟨found.1.colon.reverse ++ before, found.2, groups⟩ := by
  rw [search]
  by_cases hc : cs.head? = some ':'
  · obtain ⟨cs, rfl⟩ := List.head?_eq_some_iff.mp hc
    rw [search_code_cons, search_named hfollow]
    simp [colonParam, Param.colon]
  · rw [search_code_eq_none hc, colonParam_eq_none hc, Option.bind_none]

theorem search_braceToken (before cs : List Char) (groups : List (Nat × List Char)) :
    (Regex.cat (.code '\x7b'.toNat)
        (.cat wordsRegex (.cat markRegex (.code '\x7d'.toNat)))).search {}
        ⟨before, cs, groups⟩ follow =
      (braceParam cs).bind fun found => follow ⟨found.1.brace.reverse ++ before, found.2, groups⟩ := by
  rw [search]
  by_cases hc : cs.head? = some '\x7b'
  · obtain ⟨cs, rfl⟩ := List.head?_eq_some_iff.mp hc
    have hclose : Refuses (fun s => (Regex.code '\x7d'.toNat).search {} s follow)
        fun c => isWord c = true ∨ c = '?' := refuses_code (by decide)
    rw [search_code_cons]
    refine (search_named hclose cs).trans ?_
    rw [braceParam]
    cases hnamed : named cs with
    | none => rfl
    | some found =>
      obtain ⟨p, rest⟩ := found
      by_cases hd : rest.head? = some '\x7d'
      · obtain ⟨rest, rfl⟩ := List.head?_eq_some_iff.mp hd
        rw [Option.bind_some, search_code_cons]
        simp [Param.brace]
      · rw [Option.bind_some, search_code_eq_none hd]
        split
        · rename_i heq
          obtain ⟨rfl, rfl⟩ := Prod.mk.inj (Option.some.inj heq)
          exact absurd rfl hd
        · rfl
  · rw [search_code_eq_none hc, braceParam_eq_none hc, Option.bind_none]

/-- **A parameter in either notation is read as the recogniser reads it**, if what follows begins with
neither a word character nor a question mark. -/
theorem search_token (hfollow : Refuses follow fun c => isWord c = true ∨ c = '?')
    (before cs : List Char) (groups : List (Nat × List Char)) :
    tokenRegex.search {} ⟨before, cs, groups⟩ follow = (paramToken cs).bind fun found =>
      follow ⟨found.1.2.reverse ++ before, found.2, groups⟩ := by
  rw [tokenRegex, search_alt, search_colonToken hfollow, search_braceToken, paramToken]
  cases hcolon : colonParam cs with
  | none => cases braceParam cs <;> rfl
  | some found =>
    -- what begins with a colon does not begin with a brace
    have hbrace : braceParam cs = none := by
      obtain ⟨-, -, rfl⟩ := eq_of_colonParam hcolon
      exact braceParam_skips (by decide) _
    rw [hbrace, Option.bind_none, Option.or_none]
    rfl

end

/-! ## Constraint bodies -/

/-- The step over an item of a constraint. -/
def itemStep (s : Cursor) : Option Cursor :=
  ((s.take? (· == '\\')).bind (·.take? (· != '\n'))).or
    (s.take? fun c => c != '(' && c != ')' && c != '\\')

theorem isStep_item : IsStep (itemRegex.search {}) itemStep := by
  have hitem : ∀ c d : Char, SetItem.holds {} c (codesOf {} c) (.code d.toNat) = (c == d) := by
    intro c d
    rw [Bool.eq_iff_iff, beq_iff_eq, ← Char.toNat_inj]
    simp [SetItem.holds, codesOf, eq_comm]
  have htest : setHolds {} true [.code '('.toNat, .code ')'.toNat, .code '\\'.toNat] =
      fun c => c != '(' && c != ')' && c != '\\' := by
    funext c
    rw [setHolds, List.any_cons, List.any_cons, List.any_cons, hitem, hitem, hitem]
    simp [bne, Bool.and_assoc]
  have hset : IsStep ((Regex.set true [.code '('.toNat, .code ')'.toNat, .code '\\'.toNat]).search {})
      (·.take? fun c => c != '(' && c != ')' && c != '\\') := htest ▸ isStep_set true _
  refine ((isStep_code '\\').cat isStep_any).alt hset fun s hs => take?_eq_none fun c hc => ?_
  -- an escape pair begins with a backslash
  have hfirst : s.take? (· == '\\') ≠ none := fun hnone => hs (by rw [hnone, Option.bind_none])
  obtain ⟨d, hd, hslash⟩ := head?_of_take?_ne_none hfirst
  obtain rfl : c = d := Option.some.inj (hc.symm.trans hd)
  simp [beq_iff_eq.mp hslash]

theorem itemStep_pair {c : Char} (hc : c ≠ '\n') (before rest : List Char)
    (groups : List (Nat × List Char)) :
    itemStep ⟨before, '\\' :: c :: rest, groups⟩ = some ⟨c :: '\\' :: before, rest, groups⟩ := by
  simp [itemStep, Cursor.take?, hc]

theorem itemStep_char {c : Char} (hopen : c ≠ '(') (hclose : c ≠ ')') (hslash : c ≠ '\\')
    (before rest : List Char) (groups : List (Nat × List Char)) :
    itemStep ⟨before, c :: rest, groups⟩ = some ⟨c :: before, rest, groups⟩ := by
  simp [itemStep, Cursor.take?, hopen, hclose, hslash]

theorem advances_itemStep : Advances itemStep := by
  intro s s' h
  rcases Option.or_eq_some_iff.mp h with hpair | ⟨-, hchar⟩
  · obtain ⟨t, ht, hs'⟩ := Option.bind_eq_some_iff.mp hpair
    have hfirst := advances_take? _ _ _ ht
    have hsecond := advances_take? _ _ _ hs'
    exact ⟨Nat.lt_trans hfirst.1 hsecond.1, Nat.lt_trans hsecond.2 hfirst.2⟩
  · exact advances_take? _ _ _ hchar

/-- A constraint ends with a parenthesis. -/
def closed (b : List Char) : List Char → Option (List Char × List Char)
  | ')' :: after => some (b, after)
  | _ => none

theorem map_closed (item b rest : List Char) :
    (closed b rest).map (fun found => (item ++ found.1, found.2)) = closed (item ++ b) rest := by
  unfold closed
  split <;> rfl

theorem closed_eq_none {b rest : List Char} (h : rest.head? ≠ some ')') : closed b rest = none := by
  unfold closed
  split
  · exact absurd rfl h
  · rfl

/-- The items of a text lead to its first parenthesis, or to a backslash that begins no escape pair. -/
theorem exists_steps_item (cs before : List Char) (groups : List (Nat × List Char)) :
    ∃ n b rest, Steps itemStep n ⟨before, cs, groups⟩ ⟨b.reverse ++ before, rest, groups⟩ ∧
      body cs = closed b rest := by
  fun_induction body cs generalizing before with
  | case1 | case2 | case3 | case5 | case6 =>
    exact ⟨0, [], _, .done (by simp [itemStep, Cursor.take?]), rfl⟩
  | case4 c rest hc ih =>
    obtain ⟨n, b, after, hsteps, hbody⟩ := ih (c :: '\\' :: before)
    refine ⟨n + 1, ['\\', c] ++ b, after, .more (itemStep_pair hc before rest groups) ?_, ?_⟩
    · simpa using hsteps
    · rw [hbody, ← map_closed]
      rfl
  | case7 c rest hlast hpair hclose hopen ih =>
    obtain ⟨n, b, after, hsteps, hbody⟩ := ih (c :: before)
    have hstep := itemStep_char hopen hclose (ne_backslash hlast hpair) before rest groups
    refine ⟨n + 1, [c] ++ b, after, .more hstep ?_, ?_⟩
    · simpa using hsteps
    · rw [hbody, ← map_closed]
      rfl

/-- **A constraint is read as the recogniser reads it**, up to its closing parenthesis. -/
theorem search_body (before cs : List Char) (groups : List (Nat × List Char)) :
    (Regex.cat (.capture 2 (.iterate .greedy 0 none itemRegex)) (.code ')'.toNat)).search {}
        ⟨before, cs, groups⟩ some =
      (body cs).map fun found =>
        ⟨')' :: (found.1.reverse ++ before), found.2, (2, found.1) :: groups⟩ := by
  obtain ⟨n, b, rest, hsteps, hbody⟩ := exists_steps_item cs before groups
  -- where an item begins, the parenthesis is not there
  have hback : PrefersEnd itemStep (fun s => (Regex.code ')'.toNat).search {}
      (s.capture 2 (s.textSince ⟨before, cs, groups⟩)) some) ⟨b.reverse ++ before, rest, groups⟩ := by
    intro _ s hs
    refine search_code_eq_none (fun hclose => hs ?_) some
    obtain ⟨before', after, groups'⟩ := s
    obtain ⟨after, rfl⟩ := List.head?_eq_some_iff.mp hclose
    simp [itemStep, Cursor.take?]
  rw [search, search, search_iterate_of_steps isStep_item advances_itemStep hsteps hback,
    if_pos (Nat.zero_le n), textSince_append, Cursor.capture, hbody]
  by_cases hc : rest.head? = some ')'
  · obtain ⟨rest, rfl⟩ := List.head?_eq_some_iff.mp hc
    rw [search_code_cons]
    rfl
  · rw [search_code_eq_none hc, closed_eq_none hc]
    rfl

/-- The constraint as it is written, behind its parameter. -/
def Constrained.text (c : Constrained) : List Char := c.token ++ '(' :: c.body ++ [')']

/-- **A parameter with its constraint is found by its expression.** -/
theorem search_constrained (s : Cursor) :
    constrainedRegex.search {} s some = (constrained s.after).map fun found =>
      ⟨found.1.text.reverse ++ s.before, found.2, found.1.groups ++ s.groups⟩ := by
  obtain ⟨before, cs, groups⟩ := s
  have hopen : Refuses (fun s => (Regex.code '('.toNat).search {}
      (s.capture 1 (s.textSince ⟨before, cs, groups⟩)) fun s' =>
        (Regex.cat (.capture 2 (.iterate .greedy 0 none itemRegex)) (.code ')'.toNat)).search {} s'
          some) fun c => isWord c = true ∨ c = '?' :=
    fun s hs => refuses_code (by decide) _ hs
  rw [constrainedRegex, search, search]
  refine (search_token hopen before cs groups).trans ?_
  cases hread : paramToken cs with
  | none => simp [constrained, hread]
  | some found =>
    obtain ⟨⟨p, token⟩, rest⟩ := found
    rw [Option.bind_some, textSince_append, Cursor.capture]
    by_cases hc : rest.head? = some '('
    · obtain ⟨rest, rfl⟩ := List.head?_eq_some_iff.mp hc
      rw [search_code_cons]
      refine (search_body _ rest _).trans ?_
      cases hbody : body rest <;>
        simp [constrained, hread, hbody, Constrained.text, Constrained.groups]
    · rw [search_code_eq_none hc, constrained_eq_none_of_paramToken hread hc]
      rfl

theorem expresses_constrained [CharacterNames] :
    Expresses constrainedSource constrained Constrained.text Constrained.groups where
  consumes := constrained_consumes
  takes _ _ _ h := by
    have hread := (eq_of_constrained h).2.2.2
    simpa [Constrained.text] using hread
  searches := ⟨_, compile_constrainedSource, search_constrained⟩

end RouteTree.Template
