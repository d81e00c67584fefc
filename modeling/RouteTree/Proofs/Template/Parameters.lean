import RouteTree.Proofs.Template.Compiling

/-!
# The parameters of a compiled uri

**A compiled uri has the parameters of its template, as far as they are read on**
(`placeholderNames_compile`). A compilation takes away the parentheses and braces that a parameter
ends with, so that the text behind it comes to stand next to its name. Where a parameter without a
question mark has word characters behind it, its name goes on with them; everywhere else the names
of the placeholders are those of the template (`NothingRunsOn`), and every constraint belongs to a
placeholder.

Whether a parameter begins at some place, how far its name goes, and whether a parenthesis follows
it is decided by the `front` of the text there, a run of word characters, question marks, braces and
parentheses. Every pass of the compilation leaves fronts as they are, so the parameters that are
mentioned in colon notation (`mentions`) can be followed through the passes one by one.
-/

namespace RouteTree.Template

open Text

/-! ## Fronts -/

/-- May the character stand in a front? -/
def isInner (c : Char) : Bool := isWord c || c == '?' || c == '}' || c == '('

/-- The part of a text that decides how a parameter at its beginning is read. -/
def front (cs : List Char) : List Char := cs.takeWhile isInner

/-- Does the text begin with an opening parenthesis? -/
def opens (rest : List Char) : Bool := rest.head? == some '('

theorem front_cons_of_inner {c : Char} (h : isInner c = true) (cs : List Char) :
    front (c :: cs) = c :: front cs := by
  simp [front, h]

theorem front_cons_of_not_inner {c : Char} (h : isInner c = false) (cs : List Char) :
    front (c :: cs) = [] := by
  simp [front, h]

/-- A front has the first character and the front behind it, or nothing. -/
theorem front_cons_congr (c : Char) {cs cs' : List Char} (h : front cs = front cs') :
    front (c :: cs) = front (c :: cs') := by
  cases hc : isInner c with
  | true => rw [front_cons_of_inner hc, front_cons_of_inner hc, h]
  | false => rw [front_cons_of_not_inner hc, front_cons_of_not_inner hc]

theorem isInner_of_isWord {c : Char} (h : isWord c = true) : isInner c = true := by
  simp [isInner, h]

theorem head?_front {c : Char} (hc : isInner c = true) (cs : List Char) :
    (front cs).head? = some c ↔ cs.head? = some c := by
  cases cs with
  | nil => rfl
  | cons d cs =>
    cases hd : isInner d with
    | true => rw [front_cons_of_inner hd, List.head?_cons, List.head?_cons]
    | false =>
      have hne : d ≠ c := by
        rintro rfl
        exact absurd hc (by simp [hd])
      simp [front_cons_of_not_inner hd, hne]

theorem opens_front (cs : List Char) : opens (front cs) = opens cs := by
  rw [Bool.eq_iff_iff]
  simpa [opens] using head?_front (c := '(') (by decide) cs

theorem takeWhile_front (cs : List Char) : (front cs).takeWhile isWord = cs.takeWhile isWord := by
  induction cs with
  | nil => rfl
  | cons c cs ih =>
    cases hc : isInner c with
    | true =>
      rw [front_cons_of_inner hc, List.takeWhile_cons, List.takeWhile_cons, ih]
    | false =>
      have hw : isWord c = false := by
        by_contra hw
        rw [isInner_of_isWord (by simpa using hw)] at hc
        exact absurd hc nofun
      rw [front_cons_of_not_inner hc, List.takeWhile_cons_of_neg (by simp [hw])]
      rfl

theorem dropWhile_front (cs : List Char) :
    (front cs).dropWhile isWord = front (cs.dropWhile isWord) := by
  induction cs with
  | nil => rfl
  | cons c cs ih =>
    cases hw : isWord c with
    | true =>
      rw [front_cons_of_inner (isInner_of_isWord hw), List.dropWhile_cons_of_pos hw,
        List.dropWhile_cons_of_pos hw, ih]
    | false =>
      rw [List.dropWhile_cons_of_neg (by simp [hw])]
      cases hc : isInner c with
      | true => rw [front_cons_of_inner hc, List.dropWhile_cons_of_neg (by simp [hw])]
      | false => rw [front_cons_of_not_inner hc]; rfl

theorem mark_front (cs : List Char) : mark (front cs) = ((mark cs).1, front (mark cs).2) := by
  cases cs with
  | nil => rfl
  | cons c cs =>
    by_cases hq : c = '?'
    · subst hq
      rw [front_cons_of_inner (by decide)]
      rfl
    · have hcs : mark (c :: cs) = (false, c :: cs) := by simp [mark, hq]
      rw [hcs]
      cases hc : isInner c with
      | true => rw [front_cons_of_inner hc]; simp [mark, hq]
      | false => rw [front_cons_of_not_inner hc]; rfl

/-- A name is read from the front alone. -/
theorem named_front (cs : List Char) :
    named (front cs) = (named cs).map fun (p, rest) => (p, front rest) := by
  unfold named
  dsimp only
  rw [takeWhile_front, dropWhile_front, mark_front]
  split <;> rfl

/-! ## Mentions -/

/-- A parameter in colon notation, as it is read. -/
structure Mention where
  param : Param
  /-- Does a parenthesis follow it? -/
  opened : Bool
deriving DecidableEq

/-- What is mentioned where the text stands behind a colon. -/
def mention? (cs : List Char) : Option Mention :=
  (named cs).map fun (p, rest) => ⟨p, opens rest⟩

/-- The parameters in colon notation. -/
def mentions : List Char → List Mention
  | [] => []
  | c :: cs => (if c = ':' then (mention? cs).toList else []) ++ mentions cs

@[simp] theorem mentions_nil : mentions [] = [] := rfl

theorem mentions_colon (cs : List Char) :
    mentions (':' :: cs) = (mention? cs).toList ++ mentions cs := rfl

theorem mentions_cons_of_ne {c : Char} (h : c ≠ ':') (cs : List Char) :
    mentions (c :: cs) = mentions cs := by
  rw [mentions, if_neg h, List.nil_append]

theorem mentions_append_of_ne {text : List Char} (h : ∀ c ∈ text, c ≠ ':') (rest : List Char) :
    mentions (text ++ rest) = mentions rest := by
  induction text with
  | nil => rfl
  | cons c cs ih =>
    rw [List.cons_append, mentions_cons_of_ne (h c List.mem_cons_self),
      ih fun x hx => h x (List.mem_cons_of_mem _ hx)]

theorem mention?_front (cs : List Char) : mention? (front cs) = mention? cs := by
  unfold mention?
  rw [named_front, Option.map_map]
  congr 1
  funext r
  exact congrArg (Mention.mk r.1) (opens_front r.2)

theorem mention?_congr {cs cs' : List Char} (h : front cs = front cs') :
    mention? cs = mention? cs' := by
  rw [← mention?_front cs, h, mention?_front]

theorem braceParam_eq_none_iff (cs : List Char) :
    braceParam ('{' :: cs) = none ↔
      ∀ p rest, named cs = some (p, rest) → rest.head? ≠ some '}' := by
  cases hread : named cs with
  | none => simp [braceParam, hread]
  | some r =>
    obtain ⟨p, rest⟩ := r
    cases rest with
    | nil => simp [braceParam, hread]
    | cons c rest => by_cases hc : c = '}' <;> simp [braceParam, hread, hc]

/-- Whether a brace begins a parameter is decided by the front behind it. -/
theorem braceParam_front (cs : List Char) :
    braceParam ('{' :: front cs) = none ↔ braceParam ('{' :: cs) = none := by
  rw [braceParam_eq_none_iff, braceParam_eq_none_iff, named_front]
  cases named cs with
  | none => simp
  | some r =>
    obtain ⟨p, rest⟩ := r
    simp [head?_front (c := '}') (by decide)]

theorem braceParam_congr {cs cs' : List Char} (h : front cs = front cs') :
    braceParam ('{' :: cs) = none ↔ braceParam ('{' :: cs') = none := by
  rw [← braceParam_front cs, h, braceParam_front]

/-- What is read of a parameter in colon notation with a text behind it. Without a question mark,
its name goes on as long as there are word characters, and a question mark behind them is its
own. -/
def Param.readOn (p : Param) (rest : List Char) : Mention :=
  if p.optional then ⟨p, opens rest⟩
  else
    let (optional, after) := Template.mark (rest.dropWhile isWord)
    ⟨⟨p.name ++ rest.takeWhile isWord, optional⟩, opens after⟩

theorem mention?_name {p : Param} (hp : p.IsNamed) (rest : List Char) :
    mention? (p.name ++ p.mark ++ rest) = some (p.readOn rest) := by
  obtain ⟨name, optional⟩ := p
  cases optional with
  | true =>
    unfold mention?
    rw [named_append hp nofun]
    rfl
  | false =>
    have htake : (name ++ rest).takeWhile isWord = name ++ rest.takeWhile isWord :=
      List.takeWhile_append_of_pos hp.word
    have hdrop : (name ++ rest).dropWhile isWord = rest.dropWhile isWord :=
      List.dropWhile_append_of_pos hp.word
    have hempty : (name ++ rest.takeWhile isWord).isEmpty = false := by simp [hp.ne_nil]
    simp only [mention?, named, Param.mark, Bool.false_eq_true, if_false, List.append_nil]
    rw [htake, hdrop, if_neg (by simp [hempty])]
    rfl

theorem mentions_colon_append {p : Param} (hp : p.IsNamed) (rest : List Char) :
    mentions (p.colon ++ rest) = p.readOn rest :: mentions rest := by
  have hname : ∀ c ∈ p.name ++ p.mark, c ≠ ':' := fun c hc =>
    hp.ne_of_mem hc (by decide) (by decide)
  have hshape : p.colon ++ rest = ':' :: (p.name ++ p.mark ++ rest) := by simp [Param.colon]
  rw [hshape, mentions_colon, mention?_name hp, mentions_append_of_ne hname]
  rfl

theorem readOn_front (p : Param) (rest : List Char) : p.readOn (front rest) = p.readOn rest := by
  unfold Param.readOn
  split
  · rw [opens_front]
  · rw [takeWhile_front, dropWhile_front, mark_front]
    dsimp only
    rw [opens_front]

theorem readOn_congr (p : Param) {rest rest' : List Char} (h : front rest = front rest') :
    p.readOn rest = p.readOn rest' := by
  rw [← readOn_front p rest, h, readOn_front]

/-! ## What the passes do to fronts and mentions -/

/-- Replacing finds outside of fronts by something outside of fronts leaves the front. -/
theorem front_replaceFinds {α : Type} {find : Recogniser α} (hfind : find.Consumes)
    {write : α → List Char}
    (h : ∀ cs value rest, find cs = some (value, rest) →
      front cs = [] ∧ ∀ tail, front (write value ++ tail) = []) (cs : List Char) :
    front (replaceFinds write (pieces find cs)) = front cs := by
  induction cs using scan_induction hfind with
  | nil => rfl
  | other c cs hnone ih =>
    rw [pieces_cons_of_none hnone, replaceFinds_other]
    exact front_cons_congr c ih
  | found text value rest hne hsome _ =>
    obtain ⟨hread, hwrite⟩ := h _ _ _ hsome
    rw [pieces_append_of_some hne hsome, replaceFinds_found, hwrite, hread]

theorem front_colon_append (p : Param) (tail : List Char) : front (p.colon ++ tail) = [] :=
  front_cons_of_not_inner (by decide) _

theorem front_brace_append (p : Param) (tail : List Char) : front (p.brace ++ tail) = [] :=
  front_cons_of_not_inner (by decide) _

theorem front_token_append {p : Param} {token : List Char}
    (htoken : token = p.colon ∨ token = p.brace) (tail : List Char) : front (token ++ tail) = [] := by
  rcases htoken with rfl | rfl
  · exact front_colon_append p tail
  · exact front_brace_append p tail

theorem front_withoutConstraints (cs : List Char) :
    front (withoutConstraints (pieces constrained cs)) = front cs := by
  refine front_replaceFinds constrained_consumes (fun cs c rest h => ?_) cs
  obtain ⟨-, htoken, -, rfl⟩ := eq_of_constrained h
  rw [List.append_assoc]
  exact ⟨front_token_append htoken _, front_token_append htoken⟩

theorem front_bracesToColons (cs : List Char) : front (bracesToColons cs) = front cs := by
  refine front_replaceFinds braceParam_consumes (fun cs p rest h => ?_) cs
  rw [(eq_of_braceParam h).2]
  exact ⟨front_brace_append p rest, front_colon_append p⟩

theorem front_backslashesToSlashes (cs : List Char) :
    front (backslashesToSlashes cs) = front cs := by
  induction cs with
  | nil => rfl
  | cons c cs ih =>
    rw [backslashesToSlashes_cons]
    by_cases hc : c = '\\'
    · subst hc
      rw [if_pos rfl, front_cons_of_not_inner (by decide), front_cons_of_not_inner (by decide)]
    · rw [if_neg hc]
      exact front_cons_congr c ih

theorem front_squeeze (cs : List Char) : front (squeeze '/' cs) = front cs := by
  induction cs with
  | nil => rfl
  | cons c cs ih =>
    by_cases hc : c = '/'
    · subst hc
      have hhead : (squeeze '/' ('/' :: cs)).head? = some '/' := head?_squeeze '/' ('/' :: cs)
      obtain ⟨tail, htail⟩ := List.head?_eq_some_iff.mp hhead
      rw [htail, front_cons_of_not_inner (by decide), front_cons_of_not_inner (by decide)]
    · rw [squeeze_cons fun h => absurd h hc]
      exact front_cons_congr c ih

theorem mentions_backslashesToSlashes (cs : List Char) :
    mentions (backslashesToSlashes cs) = mentions cs := by
  induction cs with
  | nil => rfl
  | cons c cs ih =>
    rw [backslashesToSlashes_cons]
    by_cases hc : c = ':'
    · subst hc
      rw [if_neg (by decide), mentions_colon, mentions_colon, ih,
        mention?_congr (front_backslashesToSlashes cs)]
    · have hne : (if c = '\\' then '/' else c) ≠ ':' := by
        split
        · decide
        · exact hc
      rw [mentions_cons_of_ne hne, mentions_cons_of_ne hc, ih]

theorem mentions_squeeze (cs : List Char) : mentions (squeeze '/' cs) = mentions cs := by
  induction cs using squeeze_induction '/' with
  | nil => rfl
  | kept c cs hc ih =>
    rw [squeeze_cons hc]
    by_cases hcolon : c = ':'
    · subst hcolon
      rw [mentions_colon, mentions_colon, ih, mention?_congr (front_squeeze cs)]
    · rw [mentions_cons_of_ne hcolon, mentions_cons_of_ne hcolon, ih]
  | again cs ih =>
    rw [squeeze_cons_cons_self, ih]
    exact (mentions_cons_of_ne (by decide) _).symm

theorem mentions_normalize (malformed : Bool) (cs : List Char) :
    mentions (normalize malformed cs) = mentions (bracesToColons cs) := by
  unfold normalize
  rw [collapseSlashes_eq, mentions_squeeze]
  cases malformed with
  | true => rfl
  | false => exact mentions_backslashesToSlashes _

/-! ## The parameters of a template -/

/-- A parameter of a template, together with its constraint if there is one. -/
def parameter : Recogniser Param := fun cs =>
  match constrained cs with
  | some (c, rest) => some (c.param, rest)
  | none => (paramToken cs).map fun ((p, _), rest) => (p, rest)

/-- The parameters of a template, each with the text behind it and behind its constraint. -/
def parameters (template : List Char) : List (Param × List Char) :=
  following (pieces parameter template)

/-- The scan for constraints leaves the token of a parameter, and finds nothing in it but the
constraint of the parameter. -/
theorem pieces_of_parameter {cs rest : List Char} {p : Param} (h : parameter cs = some (p, rest)) :
    ∃ text token ps, text ≠ [] ∧ cs = text ++ rest ∧ p.IsNamed ∧
      (token = p.colon ∨ token = p.brace) ∧
      pieces constrained cs = ps ++ pieces constrained rest ∧ withoutConstraints ps = token ∧
      ∀ c ∈ ps.filterMap (·.value?), c.param = p := by
  unfold parameter at h
  unfold withoutConstraints
  split at h
  · rename_i c rest' hread
    obtain ⟨rfl, rfl⟩ := Prod.mk.inj (Option.some.inj h)
    obtain ⟨hp, htoken, -, rfl⟩ := eq_of_constrained hread
    have hshape : c.token ++ '(' :: c.body ++ ')' :: rest' =
        (c.token ++ '(' :: c.body ++ [')']) ++ rest' := by simp
    rw [hshape] at hread ⊢
    refine ⟨_, c.token, [.found c _], by simp, rfl, hp, htoken,
      pieces_append_of_some (by simp) hread, by simp, ?_⟩
    intro d hd
    rw [List.mem_singleton.mp hd]
  · rename_i hnone
    obtain ⟨⟨⟨q, token⟩, rest'⟩, hread, heq⟩ := Option.map_eq_some_iff.mp h
    obtain ⟨rfl, rfl⟩ := Prod.mk.inj heq
    obtain ⟨hp, htoken, rfl⟩ := eq_of_paramToken hread
    have htoken := htoken.imp_left (·.1)
    have hne : token ≠ [] := by rcases htoken with rfl | rfl <;> simp [Param.colon, Param.brace]
    refine ⟨token, token, token.map .other, hne, rfl, hp, htoken,
      pieces_constrained_token hp htoken hnone, replaceFinds_map_other token, ?_⟩
    rw [filterMap_value?_map_other]
    exact fun c hc => absurd hc List.not_mem_nil

theorem parameter_consumes : parameter.Consumes := fun _ _ _ h => by
  obtain ⟨text, _, _, hne, heq, _⟩ := pieces_of_parameter h
  exact ⟨text, hne, heq⟩

/-- Where no parameter begins, neither does a constraint or a token. -/
theorem of_parameter_eq_none {cs : List Char} (h : parameter cs = none) :
    constrained cs = none ∧ colonParam cs = none ∧ braceParam cs = none := by
  unfold parameter at h
  split at h
  · exact absurd h nofun
  · rename_i hnone
    have htoken : paramToken cs = none := Option.map_eq_none_iff.mp h
    unfold paramToken at htoken
    split at htoken
    · exact absurd htoken nofun
    · rename_i hcolon
      split at htoken
      · exact absurd htoken nofun
      · exact ⟨hnone, hcolon, by assumption⟩

/-- **Without constraints and braces, every parameter is read on.** -/
theorem mentions_bracesToColons (template : List Char) :
    mentions (bracesToColons (withoutConstraints (pieces constrained template))) =
      (parameters template).map fun w => w.1.readOn w.2 := by
  unfold parameters
  induction template using scan_induction parameter_consumes with
  | nil => rfl
  | other c cs hnone ih =>
    obtain ⟨hconstrained, hcolon, hbrace⟩ := of_parameter_eq_none hnone
    rw [following_pieces_of_none hnone, ← ih, pieces_cons_of_none hconstrained]
    generalize htext : withoutConstraints (pieces constrained cs) = text
    have hfront : front text = front cs := htext ▸ front_withoutConstraints cs
    have hrest : withoutConstraints (.other c :: pieces constrained cs) = c :: text := by
      rw [← htext]
      rfl
    have hnone' : braceParam (c :: text) = none := by
      by_cases hc : c = '{'
      · subst hc
        exact (braceParam_congr hfront).mpr hbrace
      · exact braceParam_skips hc text
    rw [hrest, bracesToColons_cons_of_none hnone']
    by_cases hc : c = ':'
    · subst hc
      have hmention : mention? (bracesToColons text) = none := by
        rw [mention?_congr ((front_bracesToColons text).trans hfront)]
        exact Option.map_eq_none_iff.mpr hcolon
      rw [mentions_colon, hmention]
      rfl
    · exact mentions_cons_of_ne hc _
  | found text p rest hne hsome ih =>
    obtain ⟨_, token, ps, -, -, hp, htoken, hpieces, hwithout, -⟩ := pieces_of_parameter hsome
    unfold withoutConstraints at hwithout ih ⊢
    rw [following_pieces_of_some parameter_consumes hne hsome, hpieces, replaceFinds_append,
      hwithout, bracesToColons_token_append hp htoken, mentions_colon_append hp, ih, List.map_cons]
    -- the passes leave the text behind the parameter its front
    congr 1
    exact readOn_congr p ((front_bracesToColons _).trans (front_withoutConstraints rest))

/-! ## Placeholders -/

theorem mentions_of_colonParam {cs rest : List Char} {p : Param}
    (h : colonParam cs = some (p, rest)) : mentions cs = ⟨p, opens rest⟩ :: mentions rest := by
  obtain ⟨hp, -, rfl⟩ := eq_of_colonParam h
  have hname : named (p.name ++ p.mark ++ rest) = some (p, rest) := by
    simpa [Param.colon, colonParam] using h
  have hread : p.readOn rest = ⟨p, opens rest⟩ := by
    have hmention := mention?_name hp rest
    rw [mention?, hname] at hmention
    exact (Option.some.inj hmention).symm
  rw [mentions_colon_append hp, hread]

/-- Placeholders are the parameters in colon notation: the slash before one belongs to no other. -/
theorem map_param_placeholders (uri : List Char) :
    ((pieces placeholder uri).filterMap (·.value?)).map (·.param) =
      (mentions uri).map (·.param) := by
  induction uri using scan_induction placeholder_consumes with
  | nil => rfl
  | other c cs hnone ih =>
    have hmentions : mentions (c :: cs) = mentions cs := by
      by_cases hc : c = ':'
      · subst hc
        have hcolon : colonParam (':' :: cs) = none := Option.map_eq_none_iff.mp hnone
        have hmention : mention? cs = none := Option.map_eq_none_iff.mpr hcolon
        rw [mentions_colon, hmention]
        rfl
      · exact mentions_cons_of_ne hc cs
    rw [pieces_cons_of_none hnone, hmentions, ← ih]
    rfl
  | found text f rest hne hsome ih =>
    obtain ⟨-, hread, htext⟩ := eq_of_placeholder hsome
    have hmentions : mentions (f.text ++ rest) = mentions (f.param.colon ++ rest) := by
      unfold Placeholder.text
      cases f.slash with
      | true => exact mentions_cons_of_ne (by decide) _
      | false => rfl
    rw [pieces_append_of_some hne hsome, filterMap_value?_found, List.map_cons, ih, htext, hmentions,
      mentions_of_colonParam hread]
    rfl

/-! ## What a compilation does to parameters -/

/-- The names of the placeholders of a uri, in order. -/
def placeholderNames (uri : String) : List (List Char) :=
  ((pieces placeholder uri.toList).filterMap (·.value?)).map (·.param.name)

/-- The names of the parameters of a template, in order. -/
def parameterNames (template : String) : List (List Char) :=
  (parameters template.toList).map (·.1.name)

/-- No parameter that ends with its name has a word character behind it, or behind its
constraint. -/
def NothingRunsOn (template : String) : Prop :=
  ∀ w ∈ parameters template.toList, w.1.optional = false → w.2.takeWhile isWord = []

instance (template : String) : Decidable (NothingRunsOn template) :=
  inferInstanceAs (Decidable (∀ w ∈ parameters template.toList, _))

/-- A parameter that has a constraint is a parameter of the template. -/
theorem mem_parameters_of_constrained {template : List Char} {c : Constrained}
    (h : c ∈ (pieces constrained template).filterMap (·.value?)) :
    c.param ∈ (parameters template).map (·.1) := by
  unfold parameters
  induction template using scan_induction parameter_consumes with
  | nil => exact absurd h List.not_mem_nil
  | other d cs hnone ih =>
    rw [pieces_cons_of_none (of_parameter_eq_none hnone).1] at h
    rw [following_pieces_of_none hnone]
    exact ih h
  | found text p rest hne hsome ih =>
    obtain ⟨-, -, ps, -, -, -, -, hpieces, -, hps⟩ := pieces_of_parameter hsome
    rw [following_pieces_of_some parameter_consumes hne hsome, List.map_cons, List.mem_cons]
    rw [hpieces, List.filterMap_append, List.mem_append] at h
    exact h.imp (hps c) ih

theorem name_readOn (p : Param) (rest : List Char) :
    (p.readOn rest).param.name = p.name ++ if p.optional then [] else rest.takeWhile isWord := by
  unfold Param.readOn
  cases p.optional <;> simp

/-- **A compiled uri mentions the parameters of its template, each read on.** -/
theorem mentions_compile [CharacterNames] {template : String} {strict : Bool} {c : Compiled}
    (h : compile template strict = .ok c) :
    mentions c.uri.toList = (parameters template.toList).map fun w => w.1.readOn w.2 := by
  obtain ⟨-, -, huri, -⟩ := eq_of_compile h
  rw [huri, String.toList_ofList, mentions_normalize, mentions_bracesToColons]

/-- **What names a compiled uri has**, when they are those of the template, and that then no
constraint is without its placeholder. -/
theorem placeholderNames_compile [CharacterNames] {template : String} {strict : Bool} {c : Compiled}
    (h : compile template strict = .ok c) :
    placeholderNames c.uri = (parameters template.toList).map (fun w =>
        w.1.name ++ if w.1.optional then [] else w.2.takeWhile isWord) ∧
      (placeholderNames c.uri = parameterNames template ↔ NothingRunsOn template) ∧
      (NothingRunsOn template → ∀ key ∈ c.constraints.keys,
        ∃ name ∈ placeholderNames c.uri, key = .str (String.ofList name)) := by
  have hnames : placeholderNames c.uri = (parameters template.toList).map (fun w =>
      w.1.name ++ if w.1.optional then [] else w.2.takeWhile isWord) := by
    calc placeholderNames c.uri
      _ = (((pieces placeholder c.uri.toList).filterMap (·.value?)).map (·.param)).map (·.name) :=
        List.map_map.symm
      _ = ((mentions c.uri.toList).map (·.param)).map (·.name) := by rw [map_param_placeholders]
      _ = (parameters template.toList).map (fun w => (w.1.readOn w.2).param.name) := by
        rw [mentions_compile h, List.map_map, List.map_map]
        rfl
      _ = _ := List.map_congr_left fun w _ => name_readOn w.1 w.2
  have hiff : placeholderNames c.uri = parameterNames template ↔ NothingRunsOn template := by
    rw [hnames, parameterNames, List.map_inj_left]
    refine forall₂_congr fun w _ => ?_
    cases w.1.optional <;> simp
  refine ⟨hnames, hiff, fun hruns key hkey => ?_⟩
  obtain ⟨found, hfound, rfl⟩ := exists_of_mem_keys (eq_of_compile h).1 hkey
  refine ⟨found.param.name, ?_, rfl⟩
  rw [hiff.mpr hruns, parameterNames, ← Function.comp_def, ← List.map_map]
  exact List.mem_map_of_mem (mem_parameters_of_constrained hfound)

/-- The digits, as the pattern of a constraint. -/
def digits : Pattern :=
  ⟨"^\\d+$", {}, .cat (.assertion .lineStart)
    (.cat (.iterate .greedy 1 none (.set false [.category .digit false])) (.assertion .lineEnd))⟩

open scoped CharacterNames.Unnamed

theorem placeholderNames_compile_separated :
    NothingRunsOn "/\x7bid\x7d(\\d+)/:day?s" ∧
      compile "/\x7bid\x7d(\\d+)/:day?s" true =
        .ok ⟨"/:id/:day?s", ⟨[(.str "id", digits)]⟩, false⟩ ∧
      placeholderNames "/:id/:day?s" = parameterNames "/\x7bid\x7d(\\d+)/:day?s" ∧
      ∃ name ∈ placeholderNames "/:id/:day?s", Value.str "id" = .str (String.ofList name) := by
  have hruns : NothingRunsOn "/\x7bid\x7d(\\d+)/:day?s" := by decide +kernel
  have hcompile : compile "/\x7bid\x7d(\\d+)/:day?s" true =
      .ok ⟨"/:id/:day?s", ⟨[(.str "id", digits)]⟩, false⟩ := by rfl
  obtain ⟨-, hiff, hkeys⟩ := placeholderNames_compile hcompile
  exact ⟨hruns, hcompile, hiff.mpr hruns, hkeys hruns (.str "id") (by simp [OrderedMap.keys])⟩

/-- A constraint whose parameter runs on belongs to no placeholder. -/
theorem placeholderNames_runOn :
    ∃ c, compile "/:id(\\d+)x" true = .ok c ∧ parameterNames "/:id(\\d+)x" = [['i', 'd']] ∧
      placeholderNames c.uri = [['i', 'd', 'x']] ∧ .str "id" ∈ c.constraints.keys :=
  ⟨⟨"/:idx", ⟨[(.str "id", digits)]⟩, false⟩, by rfl, by rfl, by rfl, by simp [OrderedMap.keys]⟩

end RouteTree.Template
