import RouteTree.Proofs.Regex.Edges

/-!
# Anchors around an expression

**A text can be read behind a caret if it can be read by itself and does not begin with flags for the
whole expression** (`isValid_caret_iff`), which must come before everything, the anchor included. A
dollar behind a text makes no difference to whether it can be read (`isValid_dollar_iff`), as long as
the dollar is not taken along by a backslash that was left over.

Behind the caret the reader takes the same steps as at the beginning (`Reader.Prefaced.step`), but for
the end of flags. By then the reader at the beginning has met flags, comments and blanks only, which is
what the text begins with (`Reader.Prefaced.readTokens_or_flagsAhead`). The reader behind the caret reads
them as well, and refuses the flags at their end (`Reader.refuses_of_flagsAhead`).
-/

namespace RouteTree.Regex

open Text

/-- Can the text be read under the flags? -/
def IsValid [CharacterNames] (flags : Flags) (text : List Char) : Prop :=
  ∃ read₀, read flags text = .ok read₀

/-- Flags for the whole expression come first, behind comments and skipped blanks at most. -/
inductive BeginsWithFlags (verbose : Bool) : List Token → Prop where
  | flags {letters : List Char} (hne : letters ≠ [])
    (hletters : ∀ c ∈ letters, (flagLetter? c).isSome) (rest : List Token) :
    BeginsWithFlags verbose
      (.char '(' :: .char '?' :: (letters.map Token.char ++ .char ')' :: rest))
  | comment {body rest : List Token} (hbody : .char ')' ∉ body) (h : BeginsWithFlags verbose rest) :
    BeginsWithFlags verbose (.char '(' :: .char '?' :: .char '#' :: (body ++ .char ')' :: rest))
  | blank (hverbose : verbose = true) {c : Char} {rest : List Token} (hc : isAsciiSpace c = true)
    (h : BeginsWithFlags verbose rest) : BeginsWithFlags verbose (.char c :: rest)
  | lineComment (hverbose : verbose = true) {body rest : List Token} (hbody : .char '\n' ∉ body)
    (h : BeginsWithFlags verbose rest) :
    BeginsWithFlags verbose (.char '#' :: (body ++ .char '\n' :: rest))

/-- Where blanks are not skipped, a parenthesis is opened for the flags, or for a comment. -/
theorem BeginsWithFlags.head?_eq {ts : List Token} (h : BeginsWithFlags false ts) :
    ts.head? = some (.char '(') := by
  cases h with
  | flags | comment => rfl
  | blank hverbose | lineComment hverbose => exact absurd hverbose nofun

/-- Whatever follows. -/
theorem BeginsWithFlags.append {verbose : Bool} {ts : List Token} (h : BeginsWithFlags verbose ts)
    (us : List Token) : BeginsWithFlags verbose (ts ++ us) := by
  induction h with
  | flags hne hletters rest =>
    simp only [List.cons_append, List.append_assoc]
    exact .flags hne hletters (rest ++ us)
  | comment hbody _ ih =>
    simp only [List.cons_append, List.append_assoc]
    exact .comment hbody ih
  | blank hverbose hc _ ih => exact .blank hverbose hc ih
  | lineComment hverbose hbody _ ih =>
    simp only [List.cons_append, List.append_assoc]
    exact .lineComment hverbose hbody ih

namespace Reader

/-- From what the mode says is open, the tokens lead to the end of flags, over what may come before. -/
inductive FlagsAhead (verbose : Bool) : Mode → List Token → Prop where
  | here (start : Nat) (on : List FlagLetter) (rest : List Token) :
    FlagsAhead verbose (.flagsOn start on) (.char ')' :: rest)
  | later {mode mode' : Mode} {t : Token} {ts : List Token} (hearly : Early verbose mode t mode')
    (h : FlagsAhead verbose mode' ts) : FlagsAhead verbose mode (t :: ts)

/-! ## Texts that lead to flags -/

namespace FlagsAhead

variable {verbose : Bool}

/-- Over tokens that leave the mode as it is. -/
theorem across {mode : Mode} {body rest : List Token} (hbody : ∀ t ∈ body, Early verbose mode t mode)
    (h : FlagsAhead verbose mode rest) : FlagsAhead verbose mode (body ++ rest) := by
  induction body with
  | nil => exact h
  | cons t body ih =>
    obtain ⟨ht, hrest⟩ := List.forall_mem_cons.mp hbody
    exact .later ht (ih hrest)

/-- Over more flag letters. -/
theorem overLetters {letters : List Char} (hletters : ∀ c ∈ letters, (flagLetter? c).isSome)
    (start : Nat) (on : List FlagLetter) (rest : List Token) :
    FlagsAhead verbose (.flagsOn start on) (letters.map Token.char ++ .char ')' :: rest) := by
  induction letters generalizing on with
  | nil => exact .here start on rest
  | cons c letters ih =>
    obtain ⟨hc, hrest⟩ := List.forall_mem_cons.mp hletters
    obtain ⟨letter, hletter⟩ := Option.isSome_iff_exists.mp hc
    exact .later (.nextFlag start on hletter) (ih hrest _)

end FlagsAhead

theorem BeginsWithFlags.flagsAhead {verbose : Bool} {ts : List Token} (h : BeginsWithFlags verbose ts) :
    FlagsAhead verbose .plain ts := by
  induction h with
  | @flags letters hne hletters rest =>
    obtain ⟨c, letters, rfl⟩ := List.exists_cons_of_ne_nil hne
    obtain ⟨hc, hmore⟩ := List.forall_mem_cons.mp hletters
    obtain ⟨letter, hletter⟩ := Option.isSome_iff_exists.mp hc
    exact .later (.opening 0) (.later (.extension 0) (.later (.flag 0 hletter)
      (.overLetters hmore 0 [letter] rest)))
  | @comment body rest hbody _ ih =>
    have hend : FlagsAhead verbose (.comment 0) (body ++ .char ')' :: rest) :=
      .across (fun t ht => .inComment 0 fun heq => hbody (heq ▸ ht)) (.later (.endComment 0) ih)
    exact .later (.opening 0) (.later (.extension 0) (.later (.comment 0) hend))
  | blank hverbose hc _ ih => exact .later (.blank hverbose hc) ih
  | @lineComment hverbose body rest hbody _ ih =>
    have hend : FlagsAhead verbose .lineComment (body ++ .char '\n' :: rest) :=
      .across (fun t ht => .inLineComment fun heq => hbody (heq ▸ ht)) (.later .endLineComment ih)
    exact .later (.lineComment hverbose) hend

/-- What it takes to begin with flags, from a mode on. -/
def Remains (verbose : Bool) : Mode → List Token → Prop
  | .plain, ts => BeginsWithFlags verbose ts
  | .opening _, ts => BeginsWithFlags verbose (.char '(' :: ts)
  | .extension _, ts => BeginsWithFlags verbose (.char '(' :: .char '?' :: ts)
  | .comment _, ts => ∃ body rest, ts = body ++ .char ')' :: rest ∧ .char ')' ∉ body ∧
    BeginsWithFlags verbose rest
  | .lineComment, ts => ∃ body rest, ts = body ++ .char '\n' :: rest ∧ .char '\n' ∉ body ∧
    BeginsWithFlags verbose rest
  | .flagsOn _ _, ts => ∃ (letters : List Char) (rest : List Token),
    ts = letters.map Token.char ++ .char ')' :: rest ∧ ∀ c ∈ letters, (flagLetter? c).isSome
  | _, _ => False

theorem FlagsAhead.remains {verbose : Bool} {mode : Mode} {ts : List Token}
    (h : FlagsAhead verbose mode ts) : Remains verbose mode ts := by
  -- a token of a comment makes its body longer
  have hbody : ∀ {t stop : Token} {ts : List Token}, t ≠ stop →
      (∃ body rest, ts = body ++ stop :: rest ∧ stop ∉ body ∧ BeginsWithFlags verbose rest) →
      ∃ body rest, t :: ts = body ++ stop :: rest ∧ stop ∉ body ∧ BeginsWithFlags verbose rest := by
    rintro t stop _ ht ⟨body, rest, rfl, hbody, hrest⟩
    exact ⟨t :: body, rest, rfl, List.not_mem_cons_of_ne_of_not_mem ht.symm hbody, hrest⟩
  induction h with
  | here start on rest => exact ⟨[], rest, rfl, nofun⟩
  | @later mode mode' t ts hearly _ ih =>
    cases hearly with
    | opening | extension => exact ih
    | comment start =>
      obtain ⟨body, rest, rfl, hbody, hrest⟩ := ih
      exact .comment hbody hrest
    | inComment start ht => exact hbody ht ih
    | endComment start => exact ⟨[], ts, rfl, List.not_mem_nil, ih⟩
    | @flag start c letter hc =>
      obtain ⟨letters, rest, rfl, hletters⟩ := ih
      have hall : ∀ d ∈ c :: letters, (flagLetter? d).isSome :=
        List.forall_mem_cons.mpr ⟨Option.isSome_iff_exists.mpr ⟨letter, hc⟩, hletters⟩
      exact .flags (List.cons_ne_nil c letters) hall rest
    | @nextFlag start on c letter hc =>
      obtain ⟨letters, rest, rfl, hletters⟩ := ih
      exact ⟨c :: letters, rest, rfl,
        List.forall_mem_cons.mpr ⟨Option.isSome_iff_exists.mpr ⟨letter, hc⟩, hletters⟩⟩
    | blank hverbose hc => exact .blank hverbose hc ih
    | lineComment hverbose =>
      obtain ⟨body, rest, rfl, hbody, hrest⟩ := ih
      exact .lineComment hverbose hbody hrest
    | inLineComment ht => exact hbody ht ih
    | endLineComment => exact ⟨[], ts, rfl, List.not_mem_nil, ih⟩

/-- Between constructs, flags are ahead if the text begins with them. -/
theorem flagsAhead_plain_iff {verbose : Bool} {ts : List Token} :
    FlagsAhead verbose .plain ts ↔ BeginsWithFlags verbose ts :=
  ⟨FlagsAhead.remains, BeginsWithFlags.flagsAhead⟩

/-! ## Behind a caret -/

theorem Early.ne_repeated {verbose : Bool} {mode mode' : Mode} {t : Token}
    (h : Early verbose mode t mode') : mode' ≠ .repeated := by
  cases h <;> nofun

/-- Once the expression is begun, no flags for it are ended. -/
theorem not_endsFlags [CharacterNames] {r s : Reader} {t : Token} (hsettled : r.isSettled = true)
    (h : r.step t = .ok s) : ¬ r.EndsFlags t := by
  rintro ⟨start, on, hmode, rfl⟩
  obtain ⟨u, hu, -⟩ := step_ok h
  simp only [readToken, hmode] at hu
  obtain ⟨hbegun, -⟩ := setGlobalFlags_ok hu
  rw [isSettled, hbegun, hmode] at hsettled
  cases hsettled

/-- A token that does not begin the expression is read as what may come before it. -/
theorem early_of_step [CharacterNames] {r s : Reader} {t : Token} (h : r.step t = .ok s)
    (hends : ¬ r.EndsFlags t) (hs : s.isSettled = false) (hmode : r.mode ≠ .repeated) :
    Early r.frame.verbose r.mode t s.mode ∧ s.frame.verbose = r.frame.verbose := by
  obtain ⟨u, hu, rfl⟩ := step_ok h
  cases readToken_cases r r.position t u hu with
  | settles h => exact absurd (h.settled.symm.trans hs) nofun
  | skips _ _ mode h hearly | enters _ mode h hearly =>
    subst h
    exact ⟨hearly hmode, rfl⟩
  | sets start on hflags ht => exact absurd ⟨start, on, hflags, ht⟩ hends

/-- **What can be read can be read behind anchors, unless flags for the whole expression are ahead.** -/
theorem Prefaced.readTokens_or_flagsAhead [CharacterNames] {extra : List Regex}
    (hextra : ∀ item ∈ extra, item = .assertion .lineStart) {flags flags' : Flags} {r r' s' : Reader}
    {ts : List Token} (h : Prefaced extra flags flags' r r')
    (hmode : r'.isSettled = false → r'.mode ≠ .repeated) (hread : r'.readTokens ts = .ok s') :
    (∃ s, r.readTokens ts = .ok s ∧ Prefaced extra flags flags' s s') ∨
      r'.isSettled = false ∧ FlagsAhead r'.frame.verbose r'.mode ts := by
  induction ts generalizing r r' with
  | nil =>
    obtain rfl := Except.ok.inj hread
    exact .inl ⟨r, rfl, h⟩
  | cons t ts ih =>
    obtain ⟨u', hstep', hrest⟩ := readTokens_cons_ok hread
    by_cases hends : r'.EndsFlags t
    · right
      have hsettled : r'.isSettled = false :=
        Bool.not_eq_true _ ▸ fun hsettled => not_endsFlags hsettled hstep' hends
      obtain ⟨start, on, hflags, rfl⟩ := hends
      exact ⟨hsettled, hflags ▸ .here start on ts⟩
    · obtain ⟨u, hstep, hlike⟩ := (h.step hextra hends).precedes hstep'
      -- what comes before the expression has come before it all along
      have hunsettled : u'.isSettled = false → r'.isSettled = false := by
        intro hu
        rcases step_cases hstep' with ⟨-, hkeeps⟩ | ⟨hr, -⟩
        · exact Bool.not_eq_true _ ▸ fun hr => absurd ((hkeeps hr).symm.trans hu) nofun
        · exact hr
      have hearly : u'.isSettled = false →
          Early r'.frame.verbose r'.mode t u'.mode ∧ u'.frame.verbose = r'.frame.verbose :=
        fun hu => early_of_step hstep' hends hu (hmode (hunsettled hu))
      rcases ih hlike (fun hu => (hearly hu).1.ne_repeated) hrest with ⟨s, hs, hlike'⟩ | ⟨hu, hahead⟩
      · refine .inl ⟨s, ?_, hlike'⟩
        rw [readTokens_cons, hstep]
        exact hs
      · obtain ⟨hone, hverbose⟩ := hearly hu
        exact .inr ⟨hunsettled hu, .later hone (hverbose ▸ hahead)⟩

/-- The computation is refused, and not for a repetition. -/
def Refuses {α : Type} (x : Except ReadError α) : Prop :=
  ∃ e, x = .error e ∧ e.cause ≠ .repetitionTooLarge

theorem Refuses.bind {α β : Type} {x : Except ReadError α} (h : Refuses x)
    (f : α → Except ReadError β) : Refuses (x >>= f) := by
  obtain ⟨e, rfl, he⟩ := h
  exact ⟨e, rfl, he⟩

theorem addFlag_or_refuses (on : List FlagLetter) (letter : FlagLetter) (stop : Nat) :
    addFlag on letter stop = .ok (on ++ [letter]) ∨ Refuses (addFlag on letter stop) := by
  unfold addFlag
  by_cases hlocale : letter = .locale
  · exact .inr ⟨⟨.localeFlag, some stop⟩, if_pos hlocale, nofun⟩
  · rw [if_neg hlocale]
    by_cases htype : (letter.isType && on.any fun l => l.isType && l != letter) = true
    · exact .inr ⟨⟨.incompatibleFlags, some stop⟩, if_pos htype, nofun⟩
    · exact .inl (if_neg htype)

/-- A flag letter means nothing else. -/
theorem readExtension_flag {c : Char} {letter : FlagLetter} (hc : flagLetter? c = some letter)
    (r : Reader) (start here : Nat) : r.readExtension start here (.char c) =
      addFlag [] letter (here + 1) >>= fun on => .ok (r.enter (.flagsOn start on)) := by
  unfold flagLetter? at hc
  split at hc
  case h_9 => exact absurd hc nofun
  all_goals
    obtain rfl := Option.some.inj hc
    rfl

theorem readFlagOn_flag {c : Char} {letter : FlagLetter} (hc : flagLetter? c = some letter)
    (r : Reader) (start : Nat) (on : List FlagLetter) (here : Nat) :
    r.readFlagOn start on here (.char c) =
      addFlag on letter (here + 1) >>= fun on => .ok (r.enter (.flagsOn start on)) := by
  unfold flagLetter? at hc
  split at hc
  case h_9 => exact absurd hc nofun
  all_goals
    obtain rfl := Option.some.inj hc
    rfl

variable [CharacterNames]

/-- What may come before everything is read wherever it stands, or a flag letter is refused. -/
theorem Early.readToken {r : Reader} {t : Token} {mode mode' : Mode} (hmode : LikeMode r.mode mode)
    (h : Early r.frame.verbose mode t mode') (here : Nat) :
    (∃ m, r.readToken here t = .ok (r.enter m) ∧ LikeMode m mode') ∨
      Refuses (r.readToken here t) := by
  have hstays : ∀ {stop : Token} {m : Mode}, r.mode = m → t ≠ stop →
      (.ok (if t = stop then r.enter .plain else r) : Except ReadError Reader) =
        .ok (r.enter m) := by
    intro stop m hm ht
    rw [if_neg ht, enter_mode hm]
  have hflag : ∀ (on : List FlagLetter) (letter : FlagLetter) (start start' : Nat)
      {x : Except ReadError Reader}, (x = addFlag on letter (here + 1) >>= fun on =>
        .ok (r.enter (.flagsOn start on))) →
      (∃ m, x = .ok (r.enter m) ∧ LikeMode m (.flagsOn start' (on ++ [letter]))) ∨ Refuses x := by
    rintro on letter start start' _ rfl
    rcases addFlag_or_refuses on letter (here + 1) with hadded | hrefused
    · exact .inl ⟨_, by rw [hadded]; rfl, .flagsOn start start' _⟩
    · exact .inr (hrefused.bind _)
  unfold Reader.readToken
  generalize hm : r.mode = m at hmode
  cases h with
  | opening start' =>
    cases hmode with
    | plain => exact .inl ⟨_, readPlain_paren r here, .opening here start'⟩
  | extension start' =>
    cases hmode with
    | opening start => exact .inl ⟨_, rfl, .extension start start'⟩
  | comment start' =>
    cases hmode with
    | extension start => exact .inl ⟨_, rfl, .comment start start'⟩
  | inComment start' ht =>
    cases hmode with
    | comment start => exact .inl ⟨_, hstays hm ht, .comment start start'⟩
  | endComment start' =>
    cases hmode with
    | comment start => exact .inl ⟨_, rfl, .plain⟩
  | @flag start' c letter hc =>
    cases hmode with
    | extension start => exact hflag [] letter start start' (readExtension_flag hc r start here)
  | @nextFlag start' on c letter hc =>
    cases hmode with
    | flagsOn start => exact hflag on letter start start' (readFlagOn_flag hc r start on here)
  | blank hverbose hc =>
    cases hmode with
    | plain =>
      refine .inl ⟨_, ?_, .plain⟩
      simp only [readPlain, hverbose, hc]
      rfl
  | lineComment hverbose =>
    cases hmode with
    | plain =>
      refine .inl ⟨_, ?_, .lineComment⟩
      simp only [readPlain, hverbose]
      rfl
  | inLineComment ht =>
    cases hmode with
    | lineComment => exact .inl ⟨_, hstays hm ht, .lineComment⟩
  | endLineComment =>
    cases hmode with
    | lineComment => exact .inl ⟨_, rfl, .plain⟩

/-- **Where something has been read, flags for the whole expression are refused.** -/
theorem refuses_of_flagsAhead {r : Reader} {mode : Mode} {ts : List Token}
    (hbegun : r.isBegun = true) (hmode : LikeMode r.mode mode)
    (h : FlagsAhead r.frame.verbose mode ts) : Refuses (r.readTokens ts) := by
  generalize hverbose : r.frame.verbose = verbose at h
  induction h generalizing r with
  | here start' on rest =>
    rw [readTokens_cons]
    refine Refuses.bind (Refuses.bind ?_ _) _
    unfold Reader.readToken
    generalize r.mode = m at hmode
    cases hmode with
    | flagsOn start =>
      rw [isBegun] at hbegun
      exact ⟨⟨.globalFlagsInside, some start⟩, if_pos hbegun, fun h => Cause.noConfusion h⟩
  | @later mode mode' t ts hearly _ ih =>
    rw [readTokens_cons]
    rcases (hverbose ▸ hearly).readToken hmode r.position with ⟨m, hread, hm⟩ | hrefused
    · unfold Reader.step
      rw [hread]
      exact ih hbegun hm hverbose
    · exact Refuses.bind (hrefused.bind _) _

/-! ## Before a dollar -/

/-- Where the text may end and no comment is open, a dollar is an anchor. -/
theorem readToken_dollar_of_closeMode {r closed : Reader} (h : r.closeMode = .ok closed)
    (hmode : r.mode ≠ .lineComment) :
    r.readToken r.position (.char '$') = .ok (closed.push (.assertion .lineEnd)) := by
  cases hm : r.mode with
  | plain =>
    simp only [closeMode, hm] at h
    obtain rfl := Except.ok.inj h
    simp only [readToken, hm, readPlain_dollar]
  | lineComment => exact absurd hm hmode
  | repeated =>
    simp only [closeMode, hm] at h
    obtain rfl := Except.ok.inj h
    simp only [readToken, hm, readPlain_dollar]
    rfl
  | counting start low high =>
    simp only [closeMode, hm] at h
    obtain rfl := Except.ok.inj h
    have hdigit : isAsciiDigit '$' = false := by decide
    simp [readToken, hm, readCount, hdigit, readPlain_dollar]
  | escape start e =>
    simp only [closeMode, hm] at h
    cases he : e.finish start r.position with
    | error _ =>
      rw [he] at h
      cases h
    | ok m =>
      simp only [he] at h
      simp only [readToken, hm, feed_dollar he]
      change (r.pushMeaning m start r.position >>= _) = _
      rw [show r.pushMeaning m start r.position = .ok closed from h]
      exact readPlain_dollar closed r.position
  | set => exact absurd h (closeMode_set_ne_ok hm closed)
  | name start use nameStart text =>
    simp only [closeMode, hm] at h
    split at h <;> cases h
  | opening | extension | extensionP | lookBehind | comment | flagsOn | flagsOff =>
    simp only [closeMode, hm] at h
    cases h

/-- **What is complete at the end is complete behind a dollar.** -/
theorem finish_dollar {r : Reader} {read₀ : Regex × Flags} (h : r.finish = .ok read₀) :
    ∃ s read₁, r.step (.char '$') = .ok s ∧ s.finish = .ok read₁ := by
  obtain ⟨closed, hclosed, hcomplete, -⟩ := finish_ok h
  -- a reader that may end, and does not mind where it is
  suffices hread : ∃ u : Reader, r.readToken r.position (.char '$') = .ok u ∧ u.IsComplete ∧
      (u.mode = .plain ∨ u.mode = .lineComment) by
    obtain ⟨u, hu, hcomplete, hmode⟩ := hread
    refine ⟨{ u with position := r.position + 1 }, _, ?_,
      finish_eq_ok (closeMode_of_idle hmode _) (hcomplete.move u.mode _)⟩
    unfold Reader.step
    rw [hu]
    rfl
  by_cases hmode : r.mode = .lineComment
  · simp only [closeMode, hmode] at hclosed
    obtain rfl := Except.ok.inj hclosed
    refine ⟨r, ?_, hcomplete, .inr hmode⟩
    simp only [readToken, hmode]
    rfl
  · have hpushed := (isComplete_push_assertion_iff closed .lineEnd closed.position).mpr hcomplete
    exact ⟨_, readToken_dollar_of_closeMode hclosed hmode, hpushed, .inl rfl⟩

end Reader

/-! ## Whole expressions -/

variable [CharacterNames]

/-- **A caret is refused in front of flags for the whole expression.** -/
theorem refuses_caret {flags : Flags} {source : List Char}
    (h : BeginsWithFlags flags.verbose (tokens source).1) :
    Reader.Refuses (read flags ('^' :: source)) := by
  unfold read
  rw [tokens_char (by decide)]
  refine Reader.Refuses.bind ?_ _
  rw [Reader.readTokens_cons, Reader.step_caret]
  exact Reader.refuses_of_flagsAhead rfl .plain (Reader.flagsAhead_plain_iff.mpr h)

/-- **A text can be read behind a caret if it can be read by itself and no flags for the whole
expression come first.** -/
theorem isValid_caret_iff {flags : Flags} {source : List Char} :
    IsValid flags ('^' :: source) ↔
      IsValid flags source ∧ ¬ BeginsWithFlags flags.verbose (tokens source).1 := by
  constructor
  · rintro ⟨⟨regex, flags'⟩, hread⟩
    refine ⟨?_, fun hbegins => ?_⟩
    · obtain ⟨regex', hread', -⟩ := read_of_caret hread
      exact ⟨_, hread'⟩
    · obtain ⟨e, hrefused, -⟩ := refuses_caret hbegins
      exact absurd (hrefused.symm.trans hread) nofun
  · rintro ⟨⟨read₀, hread⟩, hbegins⟩
    obtain ⟨r', hr', htokens, hfinish'⟩ := exists_of_read hread
    have hlike := Reader.prefaced_of_caret (Reader.step_caret flags)
    rcases hlike.readTokens_or_flagsAhead (by simp) (fun _ => nofun) hr' with
      ⟨r, hr, hlike'⟩ | ⟨-, hahead⟩
    · obtain ⟨read₁, hfinish, -⟩ :=
        (hlike'.finish (by simp) hlike'.flags_eq).precedes hfinish'
      refine ⟨read₁, read_eq_ok_of_finish ?_ ?_ hfinish⟩
      · rw [tokens_char (by decide), htokens]
      · rw [tokens_char (by decide), Reader.readTokens_cons, Reader.step_caret]
        exact hr
    · exact absurd (Reader.flagsAhead_plain_iff.mp hahead) hbegins

/-- **A dollar at the end makes no difference to whether a text can be read.** -/
theorem isValid_dollar_iff {flags : Flags} {source : List Char} (htokens : (tokens source).2 = false) :
    IsValid flags (source ++ ['$']) ↔ IsValid flags source := by
  constructor
  · rintro ⟨⟨regex, flags'⟩, hread⟩
    obtain ⟨regex', hread', -⟩ := read_of_dollar htokens hread
    exact ⟨_, hread'⟩
  · rintro ⟨read₀, hread⟩
    obtain ⟨r, hr, -, hfinish⟩ := exists_of_read hread
    obtain ⟨s, read₁, hs, hfinish'⟩ := Reader.finish_dollar hfinish
    refine ⟨read₁, read_eq_ok_of_finish (by rw [tokens_append htokens]; rfl) ?_ hfinish'⟩
    rw [tokens_append htokens, Reader.readTokens_append, hr]
    exact (Reader.readTokens_singleton r _).trans hs

end RouteTree.Regex
