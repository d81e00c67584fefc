import RouteTree.Template.Token
import RouteTree.Proofs.Text.Scanning

/-!
# What the token recognisers read

Each recogniser is said by what it leaves behind. A parameter in colon notation is read as it is
written only if what follows cannot lengthen it (`EndsName`); one in braces ends itself. A
constraint is a `BodyText`, which ends at the first parenthesis outside an escape pair. In the other
direction, what a recogniser of parameters finds is written in front of what it leaves
(`eq_of_colonParam`, `eq_of_placeholder`).
-/

namespace RouteTree.Template

open Text

/-! ## Word characters -/

theorem ne_of_isWord {c d : Char} (hc : isWord c = true) (hd : isWord d = false) : c ≠ d := by
  rintro rfl
  rw [hc] at hd
  exact absurd hd (by decide)

/-- The parameter has a name of word characters. -/
structure Param.IsNamed (p : Param) : Prop where
  ne_nil : p.name ≠ []
  word : ∀ c ∈ p.name, isWord c = true

/-- A name with its question mark holds word characters and question marks only. -/
theorem Param.IsNamed.ne_of_mem {p : Param} (hp : p.IsNamed) {c d : Char}
    (hc : c ∈ p.name ++ p.mark) (hd : isWord d = false) (hq : d ≠ '?') : c ≠ d := by
  rcases List.mem_append.mp hc with hc | hc
  · exact ne_of_isWord (hp.word c hc) hd
  · unfold Param.mark at hc
    split at hc
    · obtain rfl : c = '?' := by simpa using hc
      exact Ne.symm hq
    · simp at hc

theorem Param.IsNamed.not_mem_colon {p : Param} (hp : p.IsNamed) : '{' ∉ p.colon := by
  intro hin
  rw [Param.colon, List.cons_append, List.mem_cons] at hin
  rcases hin with heq | hin
  · exact absurd heq (by decide)
  · exact hp.ne_of_mem hin (by decide) (by decide) rfl

/-- A character that no name, question mark or brace is may not stand in a parameter in braces. -/
theorem Param.IsNamed.not_mem_brace {p : Param} (hp : p.IsNamed) {d : Char} (hd : isWord d = false)
    (hq : d ≠ '?') (hopen : d ≠ '{') (hclose : d ≠ '}') : d ∉ p.brace := by
  intro hin
  rw [Param.brace, List.cons_append, List.cons_append, List.mem_cons, List.mem_append,
    List.mem_singleton] at hin
  rcases hin with heq | hin | heq
  · exact hopen heq
  · exact hp.ne_of_mem hin hd hq rfl
  · exact hclose heq

/-- The text begins with nothing that a name or its question mark could go on with. -/
def EndsName (rest : List Char) : Prop := ∀ c ∈ rest.head?, isWord c = false ∧ c ≠ '?'

theorem endsName_iff (rest : List Char) :
    (rest.head?.all fun c => !isWord c && c != '?') = true ↔ EndsName rest := by
  cases rest <;> simp [EndsName]

instance (rest : List Char) : Decidable (EndsName rest) := decidable_of_iff _ (endsName_iff rest)

theorem endsName_cons {c : Char} {rest : List Char} (hw : isWord c = false) (hq : c ≠ '?') :
    EndsName (c :: rest) := by
  intro d hd
  obtain rfl : c = d := by simpa using hd
  exact ⟨hw, hq⟩

theorem takeWhile_append_of_all {p : Char → Bool} {text : List Char} (rest : List Char)
    (htext : ∀ c ∈ text, p c = true) (hrest : ∀ c ∈ rest.head?, p c = false) :
    (text ++ rest).takeWhile p = text ∧ (text ++ rest).dropWhile p = rest := by
  have hnone : rest.takeWhile p = [] ∧ rest.dropWhile p = rest := by
    cases rest with
    | nil => exact ⟨rfl, rfl⟩
    | cons c cs =>
      have hc : p c = false := hrest c rfl
      simp [List.takeWhile, List.dropWhile, hc]
  rw [List.takeWhile_append_of_pos htext, List.dropWhile_append_of_pos htext, hnone.1, hnone.2,
    List.append_nil]
  exact ⟨rfl, rfl⟩

/-! ## Parameters -/

/-- A name with its question mark is read whole, if what follows does not lengthen it. -/
theorem named_append {p : Param} (hp : p.IsNamed) {rest : List Char}
    (hrest : p.optional = false → EndsName rest) :
    named (p.name ++ p.mark ++ rest) = some (p, rest) := by
  obtain ⟨name, optional⟩ := p
  have hword : ∀ c ∈ name, isWord c = true := hp.word
  have hempty : name.isEmpty = false := by simpa using hp.ne_nil
  cases optional with
  | true =>
    have hcut := takeWhile_append_of_all ('?' :: rest) hword
      (by simpa using (by decide : isWord '?' = false))
    simp [named, Param.mark, List.append_assoc, hcut.1, hcut.2, mark, hempty]
  | false =>
    have hends := hrest rfl
    have hcut := takeWhile_append_of_all rest hword fun c hc => (hends c hc).1
    have hmark : mark rest = (false, rest) := by
      cases rest with
      | nil => rfl
      | cons c cs =>
        have hc : c ≠ '?' := (hends c rfl).2
        simp [mark, hc]
    simp [named, Param.mark, hcut.1, hcut.2, hmark, hempty]

/-- The question mark taken is written in front of the rest. -/
theorem eq_mark_append (name cs : List Char) :
    cs = (Param.mk name (mark cs).1).mark ++ (mark cs).2 := by
  unfold mark
  split <;> simp [Param.mark]

theorem mark_of_not_optional {cs : List Char} (h : (mark cs).1 = false) :
    (mark cs).2 = cs ∧ ∀ c ∈ cs.head?, c ≠ '?' := by
  unfold mark at h ⊢
  split at h
  · simp at h
  · rename_i hq
    refine ⟨rfl, ?_⟩
    rintro c hc rfl
    obtain ⟨ys, hys⟩ := List.head?_eq_some_iff.mp hc
    exact hq ys hys

/-- What is read as a name with its question mark is written in front of the rest. -/
theorem eq_of_named {cs rest : List Char} {p : Param} (h : named cs = some (p, rest)) :
    p.IsNamed ∧ (p.optional = false → EndsName rest) ∧ cs = p.name ++ p.mark ++ rest := by
  have hword : ∀ c ∈ cs.takeWhile isWord, isWord c = true := fun c hc =>
    List.all_eq_true.mp (List.all_takeWhile (p := isWord) (l := cs)) c hc
  have hnot : ∀ c ∈ (cs.dropWhile isWord).head?, isWord c = false := by
    intro c hc
    have hhead := List.head?_dropWhile_not isWord cs
    rw [Option.mem_def.mp hc] at hhead
    simpa using hhead
  simp only [named] at h
  by_cases hempty : (cs.takeWhile isWord).isEmpty = true
  · simp [hempty] at h
  · rw [if_neg hempty] at h
    simp only [Option.some.injEq, Prod.mk.injEq] at h
    obtain ⟨rfl, rfl⟩ := h
    refine ⟨⟨by simpa using hempty, hword⟩, ?_, ?_⟩
    · intro hopt
      obtain ⟨hrest, hq⟩ := mark_of_not_optional hopt
      rw [hrest]
      exact fun c hc => ⟨hnot c hc, hq c hc⟩
    · rw [List.append_assoc, ← eq_mark_append]
      exact List.takeWhile_append_dropWhile.symm

theorem head?_of_named_eq_none {cs : List Char} (h : named cs = none) :
    ∀ c ∈ cs.head?, isWord c = false := by
  intro c hc
  obtain ⟨rest, rfl⟩ := List.head?_eq_some_iff.mp hc
  cases hword : isWord c with
  | false => rfl
  | true => simp [named, hword] at h

/-- Behind a name there is a question mark, or what ends the name. -/
theorem mark_cases {p : Param} {rest : List Char} (hends : p.optional = false → EndsName rest) :
    p.optional = true ∧ p.mark = ['?'] ∨
      p.optional = false ∧ p.mark = [] ∧ rest.head? ≠ some '?' := by
  cases hopt : p.optional with
  | true => exact .inl ⟨rfl, if_pos hopt⟩
  | false =>
    exact .inr ⟨rfl, if_neg (Bool.eq_false_iff.mp hopt), fun hq => (hends hopt '?' hq).2 rfl⟩

theorem head?_mark_append {p : Param} {rest : List Char} (hends : p.optional = false → EndsName rest) :
    ∀ c ∈ (p.mark ++ rest).head?, isWord c = false := by
  intro c hc
  rcases mark_cases hends with ⟨-, hmark⟩ | ⟨hopt, hmark, -⟩
  · obtain rfl : '?' = c := by simpa [hmark] using hc
    decide
  · exact (hends hopt c (by simpa [hmark] using hc)).1

theorem colonParam_append {p : Param} (hp : p.IsNamed) {rest : List Char}
    (hrest : p.optional = false → EndsName rest) :
    colonParam (p.colon ++ rest) = some (p, rest) := by
  have hnamed := named_append hp hrest
  simpa [colonParam, Param.colon] using hnamed

theorem eq_of_colonParam {cs rest : List Char} {p : Param} (h : colonParam cs = some (p, rest)) :
    p.IsNamed ∧ (p.optional = false → EndsName rest) ∧ cs = p.colon ++ rest := by
  cases cs with
  | nil => simp [colonParam] at h
  | cons c cs =>
    by_cases hc : c = ':'
    · subst hc
      obtain ⟨hp, hends, rfl⟩ := eq_of_named (by simpa [colonParam] using h)
      exact ⟨hp, hends, by simp [Param.colon]⟩
    · simp [colonParam, hc] at h

theorem braceParam_append {p : Param} (hp : p.IsNamed) (rest : List Char) :
    braceParam (p.brace ++ rest) = some (p, rest) := by
  have hends : EndsName ('}' :: rest) := endsName_cons (by decide) (by decide)
  have hnamed := named_append hp fun _ => hends
  have hshape : p.brace ++ rest = '{' :: (p.name ++ p.mark ++ '}' :: rest) := by
    simp [Param.brace]
  rw [hshape]
  simp only [braceParam, hnamed]

theorem eq_of_braceParam {cs rest : List Char} {p : Param} (h : braceParam cs = some (p, rest)) :
    p.IsNamed ∧ cs = p.brace ++ rest := by
  cases cs with
  | nil => simp [braceParam] at h
  | cons c cs =>
    by_cases hc : c = '{'
    · subst hc
      simp only [braceParam] at h
      split at h
      · rename_i q after hnamed
        obtain ⟨rfl, rfl⟩ : q = p ∧ after = rest := by simpa using h
        obtain ⟨hp, -, rfl⟩ := eq_of_named hnamed
        exact ⟨hp, by simp [Param.brace]⟩
      · simp at h
    · simp [braceParam, hc] at h

theorem colonParam_skips {c : Char} (h : c ≠ ':') : colonParam.Skips c := by
  intro cs
  simp [colonParam, h]

theorem braceParam_skips {c : Char} (h : c ≠ '{') : braceParam.Skips c := by
  intro cs
  simp [braceParam, h]

theorem colonParam_eq_none {cs : List Char} (h : cs.head? ≠ some ':') : colonParam cs = none := by
  cases cs with
  | nil => rfl
  | cons c cs => exact colonParam_skips (fun heq => h (congrArg some heq)) cs

theorem braceParam_eq_none {cs : List Char} (h : cs.head? ≠ some '\x7b') :
    braceParam cs = none := by
  cases cs with
  | nil => rfl
  | cons c cs => exact braceParam_skips (fun heq => h (congrArg some heq)) cs

theorem colonParam_consumes : colonParam.Consumes := fun _ p _ h =>
  ⟨p.colon, by simp [Param.colon], (eq_of_colonParam h).2.2⟩

theorem braceParam_consumes : braceParam.Consumes := fun _ p _ h =>
  ⟨p.brace, by simp [Param.brace], (eq_of_braceParam h).2⟩

/-! ## Placeholders -/

/-- The placeholder as it is written. -/
def Placeholder.text (p : Placeholder) : List Char := (if p.slash then ['/'] else []) ++ p.param.colon

theorem placeholder_of_head?_ne {cs : List Char} (h : cs.head? ≠ some '/') :
    placeholder cs = (colonParam cs).map fun found => (⟨false, found.1⟩, found.2) := by
  unfold placeholder
  split
  · exact absurd rfl h
  · rfl

/-- A placeholder is a parameter, and the slash before it if there is one. -/
theorem eq_of_placeholder {cs rest : List Char} {p : Placeholder}
    (h : placeholder cs = some (p, rest)) :
    p.param.IsNamed ∧ colonParam (p.param.colon ++ rest) = some (p.param, rest) ∧
      cs = p.text ++ rest := by
  have hparam : ∀ {slash : Bool} {cs : List Char},
      (colonParam cs).map (fun found => (Placeholder.mk slash found.1, found.2)) = some (p, rest) →
        p.param.IsNamed ∧ colonParam (p.param.colon ++ rest) = some (p.param, rest) ∧
          p.slash = slash ∧ cs = p.param.colon ++ rest := by
    intro slash cs hmap
    obtain ⟨⟨q, after⟩, hread, heq⟩ := Option.map_eq_some_iff.mp hmap
    obtain ⟨rfl, rfl⟩ := Prod.mk.inj heq
    obtain ⟨hq, -, rfl⟩ := eq_of_colonParam hread
    exact ⟨hq, hread, rfl, rfl⟩
  by_cases hc : cs.head? = some '/'
  · obtain ⟨cs, rfl⟩ := List.head?_eq_some_iff.mp hc
    obtain ⟨hnamed, hread, hslash, rfl⟩ := hparam h
    exact ⟨hnamed, hread, by simp [Placeholder.text, hslash]⟩
  · obtain ⟨hnamed, hread, hslash, rfl⟩ := hparam (placeholder_of_head?_ne hc ▸ h)
    exact ⟨hnamed, hread, by simp [Placeholder.text, hslash]⟩

theorem placeholder_consumes : placeholder.Consumes := fun _ p _ h =>
  ⟨p.text, by simp [Placeholder.text, Param.colon], (eq_of_placeholder h).2.2⟩

/-! ## Parameters in either notation -/

theorem paramToken_colon {p : Param} (hp : p.IsNamed) {rest : List Char}
    (hrest : p.optional = false → EndsName rest) :
    paramToken (p.colon ++ rest) = some ((p, p.colon), rest) := by
  simp [paramToken, colonParam_append hp hrest]

theorem paramToken_brace {p : Param} (hp : p.IsNamed) (rest : List Char) :
    paramToken (p.brace ++ rest) = some ((p, p.brace), rest) := by
  have hcolon : colonParam (p.brace ++ rest) = none := by
    simpa [Param.brace] using colonParam_skips (c := '{') (by decide) _
  simp [paramToken, hcolon, braceParam_append hp]

/-- What is read as a parameter is written in front of the rest, in one of the notations. -/
theorem eq_of_paramToken {cs token rest : List Char} {p : Param}
    (h : paramToken cs = some ((p, token), rest)) :
    p.IsNamed ∧
      (token = p.colon ∧ (p.optional = false → EndsName rest) ∨ token = p.brace) ∧
      cs = token ++ rest := by
  unfold paramToken at h
  split at h
  · rename_i q after hcolon
    simp only [Option.some.injEq, Prod.mk.injEq] at h
    obtain ⟨⟨rfl, rfl⟩, rfl⟩ := h
    obtain ⟨hp, hends, heq⟩ := eq_of_colonParam hcolon
    exact ⟨hp, .inl ⟨rfl, hends⟩, heq⟩
  · split at h
    · rename_i q after hbrace
      simp only [Option.some.injEq, Prod.mk.injEq] at h
      obtain ⟨⟨rfl, rfl⟩, rfl⟩ := h
      obtain ⟨hp, heq⟩ := eq_of_braceParam hbrace
      exact ⟨hp, .inr rfl, heq⟩
    · simp at h

theorem paramToken_skips {c : Char} (h1 : c ≠ ':') (h2 : c ≠ '{') : paramToken.Skips c := by
  intro cs
  simp [paramToken, colonParam_skips h1 cs, braceParam_skips h2 cs]

/-! ## Constraints -/

/-- The texts a constraint may be made of: escape pairs, of which the second character is no line
feed, and characters other than parentheses and the backslash. -/
inductive BodyText : List Char → Prop where
  | nil : BodyText []
  | pair {c : Char} {rest : List Char} :
    c ≠ '\n' → BodyText rest → BodyText ('\\' :: c :: rest)
  | char {c : Char} {rest : List Char} :
    c ≠ '(' → c ≠ ')' → c ≠ '\\' → BodyText rest → BodyText (c :: rest)

/-- A constraint is read up to its closing parenthesis. -/
theorem body_append {b : List Char} (hb : BodyText b) (rest : List Char) :
    body (b ++ ')' :: rest) = some (b, rest) := by
  induction hb with
  | nil => simp [body]
  | pair hc _ ih => simp [body, hc, ih]
  | char h1 h2 h3 _ ih => simp [body, h1, h2, h3, ih]

/-- A backslash has been read alone, or with the character behind it. -/
theorem ne_backslash {c : Char} {cs : List Char} (hlast : c = '\\' → cs = [] → False)
    (hpair : ∀ d ds, c = '\\' → cs = d :: ds → False) : c ≠ '\\' := by
  intro hc
  cases cs with
  | nil => exact hlast hc rfl
  | cons d ds => exact hpair d ds hc rfl

/-- What is read as a constraint is written in front of the rest. -/
theorem eq_of_body {cs b rest : List Char} (h : body cs = some (b, rest)) :
    BodyText b ∧ cs = b ++ ')' :: rest := by
  fun_induction body cs generalizing b rest with
  | case1 | case2 | case3 | case6 => exact absurd h nofun
  | case4 c cs hc ih =>
    obtain ⟨⟨b', rest'⟩, hread, heq⟩ := Option.map_eq_some_iff.mp h
    obtain ⟨rfl, rfl⟩ := Prod.mk.inj heq
    obtain ⟨hb, rfl⟩ := ih hread
    exact ⟨.pair hc hb, rfl⟩
  | case5 cs =>
    obtain ⟨rfl, rfl⟩ := Prod.mk.inj (Option.some.inj h)
    exact ⟨.nil, rfl⟩
  | case7 c cs hlast hpair hclose hopen ih =>
    obtain ⟨⟨b', rest'⟩, hread, heq⟩ := Option.map_eq_some_iff.mp h
    obtain ⟨rfl, rfl⟩ := Prod.mk.inj heq
    obtain ⟨hb, rfl⟩ := ih hread
    exact ⟨.char hopen hclose (ne_backslash hlast hpair) hb, rfl⟩

/-- A parameter, in either notation, that is followed by a constraint. -/
theorem constrained_append {p : Param} {token : List Char}
    (htoken : token = p.colon ∨ token = p.brace) (hp : p.IsNamed) {b : List Char}
    (hb : BodyText b) (rest : List Char) :
    constrained (token ++ '(' :: b ++ ')' :: rest) = some (⟨p, token, b⟩, rest) := by
  have hends : EndsName ('(' :: (b ++ ')' :: rest)) := endsName_cons (by decide) (by decide)
  have hread : paramToken (token ++ '(' :: (b ++ ')' :: rest)) =
      some ((p, token), '(' :: (b ++ ')' :: rest)) := by
    rcases htoken with rfl | rfl
    · exact paramToken_colon hp fun _ => hends
    · exact paramToken_brace hp _
  rw [List.append_assoc, List.cons_append]
  simp [constrained, hread, body_append hb]

/-- What is read as a parameter with its constraint is written in front of the rest. -/
theorem eq_of_constrained {cs rest : List Char} {c : Constrained}
    (h : constrained cs = some (c, rest)) :
    c.param.IsNamed ∧ (c.token = c.param.colon ∨ c.token = c.param.brace) ∧ BodyText c.body ∧
      cs = c.token ++ '(' :: c.body ++ ')' :: rest := by
  unfold constrained at h
  split at h
  · rename_i p token after hparam
    obtain ⟨⟨b, rest'⟩, hbody, heq⟩ := Option.map_eq_some_iff.mp h
    obtain ⟨rfl, rfl⟩ := Prod.mk.inj heq
    obtain ⟨hp, htoken, rfl⟩ := eq_of_paramToken hparam
    obtain ⟨hb, rfl⟩ := eq_of_body hbody
    exact ⟨hp, htoken.imp_left (·.1), hb, by simp⟩
  · exact absurd h nofun

theorem constrained_consumes : constrained.Consumes := fun _ c rest h => by
  obtain ⟨-, -, -, heq⟩ := eq_of_constrained h
  exact ⟨c.token ++ '(' :: c.body ++ [')'], by simp, by simpa using heq⟩

/-- Where a parameter is followed by something else than a parenthesis, no constraint is found. -/
theorem constrained_eq_none_of_paramToken {cs : List Char} {found : Param × List Char}
    {rest : List Char} (h : paramToken cs = some (found, rest)) (hrest : rest.head? ≠ some '(') :
    constrained cs = none := by
  cases rest with
  | nil => simp [constrained, h]
  | cons c rest =>
    have hc : c ≠ '(' := fun hc => hrest (by rw [hc]; rfl)
    simp [constrained, h, hc]

theorem constrained_skips {c : Char} (h1 : c ≠ ':') (h2 : c ≠ '{') : constrained.Skips c := by
  intro cs
  simp [constrained, paramToken_skips h1 h2 cs]

/-- Names and question marks begin no parameter. -/
theorem constrained_skips_name {p : Param} (hp : p.IsNamed) :
    ∀ c ∈ p.name ++ p.mark, constrained.Skips c := fun c hc =>
  constrained_skips (hp.ne_of_mem hc (by decide) (by decide))
    (hp.ne_of_mem hc (by decide) (by decide))

/-- A parameter without a constraint is passed over. -/
theorem pieces_constrained_token {p : Param} {token : List Char} (hp : p.IsNamed)
    (htoken : token = p.colon ∨ token = p.brace) {rest : List Char}
    (hnone : constrained (token ++ rest) = none) :
    pieces constrained (token ++ rest) = token.map .other ++ pieces constrained rest := by
  -- nothing is found at the first character, and behind it nothing begins a parameter
  have hname := constrained_skips_name hp
  rcases htoken with rfl | rfl
  · have hshape : p.colon ++ rest = ':' :: (p.name ++ p.mark ++ rest) := by simp [Param.colon]
    rw [hshape] at hnone ⊢
    rw [pieces_cons_of_none hnone, pieces_append_of_skips hname]
    rfl
  · have hshape : p.brace ++ rest = '{' :: (p.name ++ p.mark ++ (['}'] ++ rest)) := by
      simp [Param.brace]
    have hclose : ∀ c ∈ ['}'], constrained.Skips c := by
      intro c hc
      obtain rfl : c = '}' := by simpa using hc
      exact constrained_skips (by decide) (by decide)
    rw [hshape] at hnone ⊢
    rw [pieces_cons_of_none hnone, pieces_append_of_skips hname, pieces_append_of_skips hclose]
    simp [Param.brace]

/-- A parameter in colon notation is passed over, if no parenthesis follows. -/
theorem pieces_constrained_colon {p : Param} (hp : p.IsNamed) {rest : List Char}
    (hends : p.optional = false → EndsName rest) (hopen : rest.head? ≠ some '(') :
    pieces constrained (p.colon ++ rest) = p.colon.map .other ++ pieces constrained rest :=
  pieces_constrained_token hp (.inl rfl)
    (constrained_eq_none_of_paramToken (paramToken_colon hp hends) hopen)

/-- What is read as a parameter with an open parenthesis is written in front of the rest. -/
theorem eq_of_openConstraint {cs token rest : List Char} (h : openConstraint cs = some (token, rest)) :
    ∃ p : Param, p.IsNamed ∧ (token = p.colon ∨ token = p.brace) ∧ cs = token ++ '(' :: rest := by
  unfold openConstraint at h
  split at h
  · rename_i p token' rest' hread
    obtain ⟨rfl, rfl⟩ := Prod.mk.inj (Option.some.inj h)
    obtain ⟨hp, htoken, heq⟩ := eq_of_paramToken hread
    exact ⟨p, hp, htoken.imp_left (·.1), heq⟩
  · exact absurd h nofun

theorem openConstraint_consumes : openConstraint.Consumes := fun _ token rest h => by
  obtain ⟨-, -, -, heq⟩ := eq_of_openConstraint h
  exact ⟨token ++ ['('], by simp, by simpa using heq⟩

/-- A parenthesis directly behind a parameter is found. -/
theorem openConstraint_append {p : Param} {token : List Char} (hp : p.IsNamed)
    (htoken : token = p.colon ∨ token = p.brace) (rest : List Char) :
    openConstraint (token ++ '(' :: rest) = some (token, rest) := by
  have hends : EndsName ('(' :: rest) := endsName_cons (by decide) (by decide)
  rcases htoken with rfl | rfl
  · simp [openConstraint, paramToken_colon hp fun _ => hends]
  · simp [openConstraint, paramToken_brace hp]

/-- Where a constraint is found, a parenthesis stands behind a parameter. -/
theorem constrained_eq_none_of_openConstraint {cs : List Char} (h : openConstraint cs = none) :
    constrained cs = none := by
  cases hread : constrained cs with
  | none => rfl
  | some r =>
    obtain ⟨c, rest⟩ := r
    obtain ⟨hp, htoken, -, rfl⟩ := eq_of_constrained hread
    rw [List.append_assoc, List.cons_append, openConstraint_append hp htoken] at h
    exact absurd h nofun

/-- Without a parenthesis there is none behind a parameter. -/
theorem openConstraint_eq_none {cs : List Char} (h : '(' ∉ cs) : openConstraint cs = none := by
  cases hread : paramToken cs with
  | none => simp [openConstraint, hread]
  | some r =>
    obtain ⟨⟨p, token⟩, rest⟩ := r
    cases rest with
    | nil => simp [openConstraint, hread]
    | cons c rest =>
      have hmem : c ∈ cs := by
        rw [(eq_of_paramToken hread).2.2]
        simp
      have hc : c ≠ '(' := fun hc => h (hc ▸ hmem)
      simp [openConstraint, hread, hc]

end RouteTree.Template
