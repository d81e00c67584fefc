import RouteTree.Regex.Pattern

/-!
# Reading does not depend on positions

Where a token stands is told in the causes of refusals only. Two readings of the same tokens at
different places are both refused, or both come to the same (`Agrees`). Here this is shown for escapes
and sets, which read by themselves whatever is around them, and what is general about reading is
collected: tokens of texts, reading in parts, and the end of a text.
-/

namespace RouteTree.Regex

open Text

/-- If the first computation succeeds, so does the second, with a result that is related. -/
def Follows {ε α β : Type} (R : α → β → Prop) (x : Except ε α) (y : Except ε β) : Prop :=
  ∀ a, x = .ok a → ∃ b, y = .ok b ∧ R a b

theorem Follows.bind {ε α β γ δ : Type} {R : α → β → Prop} {S : γ → δ → Prop} {x : Except ε α}
    {y : Except ε β} {f : α → Except ε γ} {g : β → Except ε δ} (h : Follows R x y)
    (hfg : ∀ a b, R a b → Follows S (f a) (g b)) : Follows S (x >>= f) (y >>= g) := by
  intro c hc
  cases x with
  | error e => exact absurd hc nofun
  | ok a =>
    obtain ⟨b, rfl, hab⟩ := h a rfl
    exact hfg a b hab c hc

/-- Both computations succeed, with results that are related, or both are refused. -/
inductive Agrees {ε α β : Type} (R : α → β → Prop) : Except ε α → Except ε β → Prop where
  | ok {a : α} {b : β} (h : R a b) : Agrees R (.ok a) (.ok b)
  | error {e e' : ε} : Agrees R (.error e) (.error e')

namespace Agrees

variable {ε α β γ δ : Type} {R : α → β → Prop} {S : γ → δ → Prop}

theorem bind {x : Except ε α} {y : Except ε β} {f : α → Except ε γ} {g : β → Except ε δ}
    (h : Agrees R x y) (hfg : ∀ a b, R a b → Agrees S (f a) (g b)) :
    Agrees S (x >>= f) (y >>= g) := by
  cases h with
  | ok hab => exact hfg _ _ hab
  | error => exact .error

theorem ite {p : Prop} [Decidable p] {x x' : Except ε α} {y y' : Except ε β}
    (h : Agrees R x y) (h' : Agrees R x' y') :
    Agrees R (if p then x else x') (if p then y else y') := by
  split
  · exact h
  · exact h'

theorem of_toOption {x y : Except ε α} (h : x.toOption = y.toOption) : Agrees Eq x y := by
  cases x with
  | error e =>
    cases y with
    | error e' => exact .error
    | ok b => exact absurd h nofun
  | ok a =>
    cases y with
    | error e' => exact absurd h nofun
    | ok b => exact .ok (Option.some.inj h)

theorem of_ne_ok {x : Except ε α} {y : Except ε β} (hx : ∀ a, x ≠ .ok a) (hy : ∀ b, y ≠ .ok b) :
    Agrees R x y := by
  cases x with
  | ok a => exact absurd rfl (hx a)
  | error e =>
    cases y with
    | ok b => exact absurd rfl (hy b)
    | error e' => exact .error

theorem follows {x : Except ε α} {y : Except ε β} (h : Agrees R x y) : Follows R x y := by
  intro a ha
  cases h with
  | ok hab =>
    obtain rfl := Except.ok.inj ha
    exact ⟨_, rfl, hab⟩
  | error => exact absurd ha nofun

/-- What the second computation comes to, the first does. -/
theorem precedes {x : Except ε α} {y : Except ε β} (h : Agrees R x y) {b : β} (hb : y = .ok b) :
    ∃ a, x = .ok a ∧ R a b := by
  cases h with
  | ok hab =>
    obtain rfl := Except.ok.inj hb
    exact ⟨_, rfl, hab⟩
  | error => exact absurd hb nofun

end Agrees

theorem toOption_map {ε α β : Type} (f : α → β) (x : Except ε α) :
    (x.map f).toOption = x.toOption.map f := by
  cases x <;> rfl

/-! ## Escapes and sets do not depend on positions -/

namespace Escape

theorem toOption_octalCode (digits : List Char) (start start' : Nat) :
    (octalCode start digits).toOption = (octalCode start' digits).toOption := by
  simp only [octalCode, apply_ite Except.toOption]
  rfl

theorem toOption_hexCode (letter : Char) (digits : List Char) (start start' : Nat) :
    (hexCode start letter digits).toOption = (hexCode start' letter digits).toOption := by
  simp only [hexCode, apply_ite Except.toOption]
  rfl

variable [CharacterNames]

theorem toOption_nameCode (name : List Char) (start start' : Nat) :
    (nameCode start name).toOption = (nameCode start' name).toOption := by
  unfold nameCode
  split <;> rfl

omit [CharacterNames] in
theorem toOption_finish (e : Escape) (start stop start' stop' : Nat) :
    (e.finish start stop).toOption = (e.finish start' stop').toOption := by
  cases e with
  | hex letter wanted digits => rfl
  | octal digits => exact toOption_octalCode digits start start'
  | number digits => rfl
  | characterName => rfl
  | characterNameIn name =>
    simp only [finish, apply_ite Except.toOption]
    rfl

theorem toOption_feed (e : Escape) (t : Token) (start here start' here' : Nat) :
    (e.feed start here t).toOption = (e.feed start' here' t).toOption := by
  have hfinish := fun e : Escape => e.toOption_finish start here start' here'
  have hoctal := fun digits => toOption_octalCode digits start start'
  have hhex := fun letter digits => toOption_hexCode letter digits start start'
  have hname := fun name => toOption_nameCode name start start'
  cases e <;> cases t <;>
    simp only [feed, apply_ite Except.toOption, toOption_map, hfinish, hoctal, hhex, hname] <;> rfl

end Escape

/-- Two sets expect the same; an escape may have begun elsewhere. -/
inductive SamePhase : SetPhase → SetPhase → Prop where
  | refl (phase : SetPhase) : SamePhase phase phase
  | escape (lower : Option Lower) (letter : Char) (start start' : Nat) (e : Escape) :
    SamePhase (.escape lower letter start e) (.escape lower letter start' e)

/-- Two sets have read the same and expect the same, or have both ended. -/
inductive SameSet : List SetItem × Option SetPhase → List SetItem × Option SetPhase → Prop where
  | ended (items : List SetItem) : SameSet (items, none) (items, none)
  | more (items : List SetItem) {phase phase' : SetPhase} :
    SamePhase phase phase' → SameSet (items, some phase) (items, some phase')

namespace Reader

theorem agrees_setEscape (c : Char) (start start' : Nat) :
    Agrees Eq (setEscape c start) (setEscape c start') := by
  apply Agrees.of_toOption
  unfold setEscape
  split <;> try rfl
  simp only [apply_ite Except.toOption]
  rfl

theorem agrees_afterMember (items : List SetItem) (lower : Option Lower) (item : SetItem)
    (text : List Char) (stop stop' : Nat) :
    Agrees Eq (afterMember items lower item text stop)
      (afterMember items lower item text stop') := by
  cases lower with
  | none => exact .ok rfl
  | some l =>
    have hrange : Agrees Eq (rangeOf l item text stop) (rangeOf l item text stop') := by
      apply Agrees.of_toOption
      unfold rangeOf
      split
      · simp only [apply_ite Except.toOption]
        rfl
      · rfl
    refine hrange.bind ?_
    rintro range _ rfl
    exact .ok rfl

theorem agrees_readMember (items : List SetItem) (lower : Option Lower) (here here' : Nat)
    (t : Token) :
    Agrees SameSet (readMember items lower here t) (readMember items lower here' t) := by
  have hmember : ∀ (item : SetItem) (text : List Char) (stop stop' : Nat),
      Agrees SameSet
        (do let read ← afterMember items lower item text stop
            return (read.1, some read.2))
        (do let read ← afterMember items lower item text stop'
            return (read.1, some read.2)) := by
    intro item text stop stop'
    refine (agrees_afterMember items lower item text stop stop').bind ?_
    rintro ⟨items, phase⟩ _ rfl
    exact .ok (.more items (.refl phase))
  unfold readMember
  cases t with
  | escaped c =>
    refine (agrees_setEscape c here here').bind ?_
    rintro read _ rfl
    cases read with
    | inl item => exact hmember item _ _ _
    | inr e => exact .ok (.more items (.escape lower c here here' e))
  | char c =>
    dsimp only
    split
    · exact .ok (.ended _)
    · split
      · exact .ok (.more items (.refl _))
      · exact .ok (.ended _)
    · exact hmember _ _ _ _

theorem agrees_readAfter (items : List SetItem) (lower : Lower) (here here' : Nat) (t : Token) :
    Agrees SameSet (readAfter items lower here t) (readAfter items lower here' t) := by
  unfold readAfter
  split
  · exact .ok (.more items (.refl _))
  · exact agrees_readMember _ none here here' t

theorem agrees_readSet [CharacterNames] (items : List SetItem) {phase phase' : SetPhase}
    (h : SamePhase phase phase') (here here' : Nat) (t : Token) :
    Agrees SameSet (readSet items phase here t) (readSet items phase' here' t) := by
  -- an escape is the only phase that has a place
  have hescape : ∀ (lower : Option Lower) (letter : Char) (start start' : Nat) (e : Escape),
      Agrees SameSet (readSet items (.escape lower letter start e) here t)
        (readSet items (.escape lower letter start' e) here' t) := by
    intro lower letter start start' e
    refine (Agrees.of_toOption (e.toOption_feed t start here start' here')).bind ?_
    rintro fed _ rfl
    cases fed with
    | more e => exact .ok (.more items (.escape lower letter start start' e))
    | ended m =>
      refine (agrees_afterMember items lower _ _ _ _).bind ?_
      rintro ⟨items, phase⟩ _ rfl
      exact .ok (.more items (.refl phase))
    | before m =>
      refine (agrees_afterMember items lower _ _ _ _).bind ?_
      rintro ⟨items, phase⟩ _ rfl
      cases phase with
      | after lower => exact agrees_readAfter items lower here here' t
      | opened | member | upper | escape => exact agrees_readMember items none here here' t
  cases h with
  | refl =>
    cases phase with
    | opened | member => exact agrees_readMember items none here here' t
    | after lower => exact agrees_readAfter items lower here here' t
    | upper lower => exact agrees_readMember items (some lower) here here' t
    | escape lower letter start e => exact hescape lower letter start start e
  | escape lower letter start start' e => exact hescape lower letter start start' e

/-! ## The end of the text -/

/-- An escape that may end with the text also ends before a dollar. -/
theorem feed_dollar [CharacterNames] {e : Escape} {start stop : Nat} {m : Meaning}
    (h : e.finish start stop = .ok m) (start' here : Nat) :
    e.feed start' here (.char '$') = .ok (.before m) := by
  have hfinish : e.finish start' here = .ok m := by
    obtain ⟨_, hm, rfl⟩ := (Agrees.of_toOption (e.toOption_finish start stop start' here)).follows m h
    exact hm
  have hdigit : isOctalDigit '$' = false ∧ isAsciiDigit '$' = false := by decide
  cases e with
  | hex letter wanted digits => exact absurd h nofun
  | octal digits => simp [Escape.feed, hdigit, hfinish, Except.map]
  | number digits => simp [Escape.feed, hdigit, hfinish, Except.map]
  | characterName => exact absurd h nofun
  | characterNameIn name =>
    simp only [Escape.finish] at h
    split at h <;> exact absurd h nofun

theorem exists_closeMode_of_finish {r : Reader} {read : Regex × Flags} (h : r.finish = .ok read) :
    ∃ closed, r.closeMode = .ok closed := by
  cases hclose : r.closeMode with
  | ok closed => exact ⟨closed, rfl⟩
  | error e =>
    unfold finish at h
    rw [hclose] at h
    exact absurd h nofun

/-- Between constructs and in a comment, the end of the text closes nothing, wherever it is. -/
theorem closeMode_of_idle {r : Reader} (h : r.mode = .plain ∨ r.mode = .lineComment)
    (position : Nat) : { r with position }.closeMode = .ok { r with position } := by
  unfold closeMode
  rcases h with h | h <;> rw [h] <;> rfl

/-- A set is not closed by the end of the text. -/
theorem closeMode_set_ne_ok {r : Reader} {start : Nat} {negated : Bool} {items : List SetItem}
    {phase : SetPhase} (hmode : r.mode = .set start negated items phase) (closed : Reader) :
    r.closeMode ≠ .ok closed := by
  intro h
  simp only [closeMode, hmode] at h
  cases phase with
  | escape lower letter escapeStart e =>
    dsimp only at h
    -- an escape in the set may be refused first
    cases hm : e.finish escapeStart r.position with
    | error _ =>
      rw [hm] at h
      exact absurd h nofun
    | ok m =>
      rw [hm] at h
      cases ha : afterMember items lower (Meaning.item m) ['\\', letter] r.position <;>
        simp only [bind, Except.bind, ha] at h <;> exact absurd h nofun
  | opened | member | after | upper => exact absurd h nofun

variable [CharacterNames]

theorem readTokens_cons (r : Reader) (t : Token) (ts : List Token) :
    r.readTokens (t :: ts) = (r.step t).bind (·.readTokens ts) := by
  simp only [readTokens, List.foldlM_cons]
  rfl

end Reader

/-! ## Whole texts -/

theorem tokens_char {c : Char} (h : c ≠ '\\') (rest : List Char) :
    tokens (c :: rest) = (.char c :: (tokens rest).1, (tokens rest).2) := by
  simp [tokens, h]

/-- Induction along the tokens of a text: a backslash may be left over at the end, stand before a
character, or not be there. -/
theorem tokens_induction {motive : List Char → Prop} (nil : motive []) (dangling : motive ['\\'])
    (escaped : ∀ c rest, motive rest → motive ('\\' :: c :: rest))
    (char : ∀ c rest, c ≠ '\\' → motive rest → motive (c :: rest)) (cs : List Char) : motive cs := by
  fun_induction tokens cs with
  | case1 => exact nil
  | case2 => exact dangling
  | case3 c rest r ih => exact escaped c rest ih
  | case4 c rest hne hesc r ih =>
    refine char c rest ?_ ih
    rintro rfl
    cases rest with
    | nil => exact hne rfl rfl
    | cons d rest => exact hesc d rest rfl rfl

theorem tokens_append {cs : List Char} (h : (tokens cs).2 = false) (ds : List Char) :
    tokens (cs ++ ds) = ((tokens cs).1 ++ (tokens ds).1, (tokens ds).2) := by
  induction cs using tokens_induction with
  | nil => rfl
  | dangling => exact absurd h (by decide)
  | escaped c rest ih =>
    have hrest := ih h
    simp [tokens, hrest]
  | char c rest hc ih =>
    rw [tokens_char hc] at h
    rw [List.cons_append, tokens_char hc, tokens_char hc, ih h, List.cons_append]

variable [CharacterNames]

/-- What reading an expression comes to. -/
theorem exists_of_read {flags : Flags} {source : List Char} {read₀ : Regex × Flags}
    (h : read flags source = .ok read₀) :
    ∃ r, (Reader.initial flags).readTokens (tokens source).1 = .ok r ∧
      (tokens source).2 = false ∧ r.finish = .ok read₀ := by
  unfold read at h
  cases hread : (Reader.initial flags).readTokens (tokens source).1 with
  | error e =>
    simp only [hread] at h
    exact absurd h nofun
  | ok r =>
    simp only [hread] at h
    cases hdangling : (tokens source).2 with
    | true =>
      simp only [hdangling] at h
      exact absurd h nofun
    | false =>
      simp only [hdangling] at h
      exact ⟨r, rfl, rfl, h⟩

end RouteTree.Regex
