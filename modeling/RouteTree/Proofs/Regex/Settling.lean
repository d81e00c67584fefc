import RouteTree.Proofs.Regex.Prefacing

/-!
# Flags for the whole expression

Flags for the whole expression come before everything else, so up to there a text holds flags and
comments only, and blanks where those are skipped (`Early`). **Once there is more, or a construct is
open that will be more, flags do not change** (`step_cases`, `flags_of_readTokens`, `stays_closeMode`).
Hence a text that has blanks skipped reads the same if they are skipped from the beginning
(`readTokens_verbosely`).
-/

namespace RouteTree.Regex

open Text

/-- If the computation succeeds, its result is as described. -/
def Ensures {ε α : Type} (P : α → Prop) (x : Except ε α) : Prop := ∀ a, x = .ok a → P a

namespace Ensures

variable {ε α β : Type} {P : α → Prop} {Q : β → Prop}

theorem ok {a : α} (h : P a) : Ensures P (.ok a : Except ε α) := by
  intro b hb
  obtain rfl := Except.ok.inj hb
  exact h

theorem error {e : ε} : Ensures P (.error e) := nofun

theorem bind {x : Except ε β} {f : β → Except ε α} (h : ∀ b, x = .ok b → Ensures P (f b)) :
    Ensures P (x >>= f) := by
  intro a ha
  cases x with
  | error e => exact absurd ha nofun
  | ok b => exact h b rfl a ha

theorem ite {p : Prop} [Decidable p] {x y : Except ε α} (hx : Ensures P x) (hy : Ensures P y) :
    Ensures P (if p then x else y) := by
  split
  · exact hx
  · exact hy

theorem mono {P' : α → Prop} {x : Except ε α} (h : Ensures P x) (hP : ∀ a, P a → P' a) :
    Ensures P' x := fun a ha => hP a (h a ha)

end Ensures

/-- Will the construct add to the expression, if it is completed? -/
def Mode.owes : Mode → Bool
  | .counting .. | .escape .. | .set .. | .extensionP _ | .lookBehind _ | .name .. | .flagsOff .. =>
    true
  | _ => false

namespace Reader

/-- Is it too late for flags for the whole expression? -/
def isSettled (r : Reader) : Bool := r.isBegun || r.mode.owes

/-- The expression is begun now. -/
structure Adds (r s : Reader) : Prop where
  flags : s.flags = r.flags
  begun : s.isBegun = true

/-- The expression is begun now, or is what it was. -/
structure Stays (r s : Reader) : Prop where
  flags : s.flags = r.flags
  begun : r.isBegun = true → s.isBegun = true

/-- It is too late now for flags for the whole expression. -/
structure Settles (r s : Reader) : Prop extends Stays r s where
  settled : s.isSettled = true

/-- How flags, comments and blanks are read, up to the end of the flags. They are all that may come
before flags for the whole expression. -/
inductive Early (verbose : Bool) : Mode → Token → Mode → Prop where
  | opening (start : Nat) : Early verbose .plain (.char '(') (.opening start)
  | extension (start : Nat) : Early verbose (.opening start) (.char '?') (.extension start)
  | comment (start : Nat) : Early verbose (.extension start) (.char '#') (.comment start)
  | inComment (start : Nat) {t : Token} (ht : t ≠ .char ')') :
    Early verbose (.comment start) t (.comment start)
  | endComment (start : Nat) : Early verbose (.comment start) (.char ')') .plain
  | flag (start : Nat) {c : Char} {letter : FlagLetter} (hc : flagLetter? c = some letter) :
    Early verbose (.extension start) (.char c) (.flagsOn start [letter])
  | nextFlag (start : Nat) (on : List FlagLetter) {c : Char} {letter : FlagLetter}
    (hc : flagLetter? c = some letter) :
    Early verbose (.flagsOn start on) (.char c) (.flagsOn start (on ++ [letter]))
  | blank (hverbose : verbose = true) {c : Char} (hc : isAsciiSpace c = true) :
    Early verbose .plain (.char c) .plain
  | lineComment (hverbose : verbose = true) : Early verbose .plain (.char '#') .lineComment
  | inLineComment {t : Token} (ht : t ≠ .char '\n') : Early verbose .lineComment t .lineComment
  | endLineComment : Early verbose .lineComment (.char '\n') .plain

/-- What a token at `here` may do to a reader. Before the expression is begun, nothing can have been
repeated, though the mode alone does not tell. -/
inductive Reads [CharacterNames] (r : Reader) (here : Nat) (t : Token) (s : Reader) : Prop where
  /-- It begins the expression, or a construct that will. -/
  | settles (h : Settles r s)
  /-- It is skipped, or begins a comment, where blanks are skipped. -/
  | skips (hmode : r.mode.owes = false) (hverbose : r.frame.verbose = true) (mode : Mode)
    (h : s = r.enter mode) (hearly : r.mode ≠ .repeated → Early r.frame.verbose r.mode t mode)
  /-- It begins or ends a construct that may come before everything. -/
  | enters (hmode : r.mode.owes = false) (mode : Mode) (h : s = r.enter mode)
    (hearly : r.mode ≠ .repeated → Early r.frame.verbose r.mode t mode)
    (hsame : ∀ r' : Reader, r'.mode = r.mode → r'.frame.items = r.frame.items →
      r'.readToken here t = .ok (r'.enter mode))
  /-- It ends the flags for the whole expression. -/
  | sets (start : Nat) (on : List FlagLetter) (hmode : r.mode = .flagsOn start on)
    (ht : t = .char ')') (h : r.setGlobalFlags start on = .ok s)

variable {r s u : Reader}

namespace Adds

theorem stays (h : Adds r s) : Stays r s := ⟨h.flags, fun _ => h.begun⟩

theorem settles (h : Adds r s) : Settles r s := ⟨h.stays, by rw [isSettled, h.begun, Bool.true_or]⟩

theorem andStays (h : Adds r s) (h' : Stays s u) : Adds r u :=
  ⟨h'.flags.trans h.flags, h'.begun h.begun⟩

end Adds

theorem Stays.enter (r : Reader) (mode : Mode) : Stays r (r.enter mode) := ⟨rfl, id⟩

theorem Settles.enter (r : Reader) {mode : Mode} (h : mode.owes = true) :
    Settles r (r.enter mode) := by
  refine ⟨.enter r mode, ?_⟩
  change ((r.enter mode).isBegun || mode.owes) = true
  rw [h, Bool.or_true]

/-! ## What adds to the expression -/

theorem adds_push (r : Reader) (item : Regex) : Adds r (r.push item) := by
  refine ⟨rfl, ?_⟩
  simp [isBegun, push]

theorem adds_pushBrace (r : Reader) (low : List Char) (high : Option (List Char)) :
    Adds r (r.pushBrace low high) := by
  have hmore : ∀ (text : List Char) (s : Reader), Adds r s →
      Adds r (text.foldl (fun r c => r.push (.code c.toNat)) s) := by
    intro text
    induction text with
    | nil => exact fun _ h => h
    | cons c cs ih => exact fun s h => ih _ (h.andStays (adds_push s _).stays)
  unfold Reader.pushBrace
  exact hmore (low ++ _) (r.push (.code '{'.toNat)) (adds_push r _)

theorem adds_repeatLast (r : Reader) (start least : Nat) (most : Option Nat) :
    Ensures (Adds r) (r.repeatLast start least most) := by
  unfold Reader.repeatLast
  split
  · exact .error
  · exact .error
  · exact .error
  · exact .ok ⟨rfl, by simp [isBegun]⟩

theorem adds_repeatCounted (r : Reader) (start : Nat) (low : List Char)
    (high : Option (List Char)) : Ensures (Adds r) (r.repeatCounted start low high) :=
  .ite .error (.ite .error (.ite .error (adds_repeatLast r _ _ _)))

theorem adds_openGroup (r : Reader) (opening : Opening) (start : Nat) (verbose : Bool) :
    Adds r (r.openGroup opening start verbose) := by
  refine ⟨rfl, ?_⟩
  simp [isBegun, openGroup]

theorem adds_openCapture (r : Reader) (start : Nat) (name : Option (List Char)) :
    Adds r (r.openCapture start name) :=
  ⟨rfl, (adds_openGroup _ _ _ _).begun⟩

theorem adds_nextBranch (r : Reader) (here : Nat) : Ensures (Adds r) (r.nextBranch here) := by
  unfold Reader.nextBranch
  split
  · exact .error
  · exact .ok ⟨rfl, by simp [isBegun]⟩

theorem adds_closeGroup (r : Reader) (here : Nat) : Ensures (Adds r) (r.closeGroup here) := by
  unfold Reader.closeGroup
  split
  · exact .error
  · dsimp only
    split
    · exact .error
    all_goals exact .ok ⟨rfl, (adds_push _ _).begun⟩

theorem adds_pushReference (r : Reader) (index start stop : Nat) :
    Ensures (Adds r) (r.pushReference index start stop) :=
  .ite .error (.ite .error (.bind fun _ _ => .ok (adds_push r _)))

theorem adds_pushMeaning (r : Reader) (m : Meaning) (start stop : Nat) :
    Ensures (Adds r) (r.pushMeaning m start stop) := by
  cases m with
  | code n => exact .ok (adds_push r _)
  | reference index => exact adds_pushReference r index start stop

theorem adds_closeName (r : Reader) (start : Nat) (use : NameUse) (nameStart : Nat)
    (name : List Char) (here : Nat) :
    Ensures (Adds r) (r.closeName start use nameStart name here) := by
  unfold Reader.closeName
  refine .ite .error ?_
  cases use with
  | capture =>
    refine .ite .error ?_
    split
    · exact .error
    · exact .ok (adds_openCapture r start _)
  | reference =>
    refine .ite .error ?_
    split
    · exact .error
    · exact .ite .error (.bind fun _ _ => .ok (adds_push r _))
  | conditional =>
    refine .bind fun index _ => .bind fun _ _ => .ok ?_
    exact ⟨rfl, (adds_openGroup _ _ _ _).begun⟩

theorem adds_openScoped (r : Reader) (start : Nat) (on off : List FlagLetter) (here : Nat) :
    Ensures (Adds r) (r.openScoped start on off here) :=
  .ite .error (.ite .error (.ok (adds_openGroup r _ _ _)))

theorem adds_openBehind (r : Reader) (start : Nat) (negated : Bool) :
    Adds r (r.openBehind start negated) :=
  ⟨rfl, (adds_openGroup _ _ _ _).begun⟩

/-! ## What one token changes -/

theorem settles_readEscape (r : Reader) (c : Char) (here : Nat) :
    Ensures (Settles r) (r.readEscape c here) := by
  unfold Reader.readEscape
  split
  · exact .ok (adds_push r _).settles
  · exact .ok (adds_push r _).settles
  · exact .ok (adds_push r _).settles
  · exact .ok (.enter r rfl)
  · refine .ite (.ok (.enter r rfl)) (.ite (.ok (.enter r rfl)) (.ite .error ?_))
    exact .ok (adds_push r _).settles

theorem readPlain_paren (r : Reader) (here : Nat) :
    r.readPlain here (.char '(') = .ok (r.enter (.opening here)) := by
  have hplain : isAsciiSpace '(' = false ∧ ('(' == '#') = false := by decide
  simp [Reader.readPlain, hplain]

/-- A parenthesis opens a group; everything else begins the expression, if blanks are not skipped. -/
theorem readPlain_cases (r : Reader) (here : Nat) (t : Token) :
    Ensures (fun s => Settles r s ∨
      (r.frame.verbose = true ∧ ∃ mode, s = r.enter mode ∧ Early r.frame.verbose .plain t mode) ∨
      t = .char '(' ∧ s = r.enter (.opening here)) (r.readPlain here t) := by
  cases t with
  | escaped c => exact (settles_readEscape r c here).mono fun _ => .inl
  | char c =>
    unfold Reader.readPlain
    dsimp only
    split
    · rename_i hblank
      obtain ⟨hverbose, hspace⟩ := Bool.and_eq_true_iff.mp hblank
      exact .ok (.inr (.inl ⟨hverbose, _, rfl, .blank hverbose hspace⟩))
    · split
      · rename_i hcomment
        obtain ⟨hverbose, hhash⟩ := Bool.and_eq_true_iff.mp hcomment
        obtain rfl := eq_of_beq hhash
        exact .ok (.inr (.inl ⟨hverbose, _, rfl, .lineComment hverbose⟩))
      · split
        · exact (adds_nextBranch r here).mono fun _ h => .inl h.settles
        · exact (adds_closeGroup r here).mono fun _ h => .inl h.settles
        · exact .ok (.inr (.inr ⟨rfl, rfl⟩))
        · exact .ok (.inl (.enter r rfl))
        · exact .ok (.inl (.enter r rfl))
        · exact .ok (.inl (adds_push r _).settles)
        · exact .ok (.inl (adds_push r _).settles)
        · exact .ok (.inl (adds_push r _).settles)
        · exact (adds_repeatLast r here 0 none).mono fun _ h => .inl h.settles
        · exact (adds_repeatLast r here 1 none).mono fun _ h => .inl h.settles
        · exact (adds_repeatLast r here 0 (some 1)).mono fun _ h => .inl h.settles
        · exact .ok (.inl (adds_push r _).settles)

theorem stays_readPlain (r : Reader) (here : Nat) (t : Token) :
    Ensures (Stays r) (r.readPlain here t) := by
  intro s hs
  rcases readPlain_cases r here t s hs with h | ⟨-, mode, rfl, -⟩ | ⟨-, rfl⟩
  · exact h.toStays
  · exact .enter r _
  · exact .enter r _

theorem adds_readPlain (h : Adds r s) (here : Nat) (t : Token) :
    Ensures (Adds r) (s.readPlain here t) :=
  (stays_readPlain s here t).mono fun _ => h.andStays

theorem settles_readCount (r : Reader) (start : Nat) (low : List Char) (high : Option (List Char))
    (here : Nat) (t : Token) : Ensures (Settles r) (r.readCount start low high here t) := by
  have hbrace := (adds_readPlain (adds_pushBrace r low high) here t).mono fun _ => Adds.settles
  unfold Reader.readCount
  cases t with
  | escaped c => exact hbrace
  | char c =>
    refine .ite ?_ (.ite (.ok (.enter r rfl)) (.ite ?_ hbrace))
    · cases high <;> exact .ok (.enter r rfl)
    · exact (adds_repeatCounted r start low high).mono fun _ => Adds.settles

theorem settles_readFlagOff (r : Reader) (start : Nat) (on off : List FlagLetter) (here : Nat)
    (t : Token) : Ensures (Settles r) (r.readFlagOff start on off here t) := by
  unfold Reader.readFlagOff
  cases t with
  | escaped c => exact .error
  | char c =>
    refine .ite ((adds_openScoped r start on off here).mono fun _ => Adds.settles) ?_
    dsimp only
    split
    · exact .ite .error (.ok (.enter r rfl))
    · exact .error

theorem addFlag_ok {on letters : List FlagLetter} {letter : FlagLetter} {stop : Nat}
    (h : addFlag on letter stop = .ok letters) : letters = on ++ [letter] := by
  have hadded : Ensures (fun letters => letters = on ++ [letter]) (addFlag on letter stop) :=
    .ite .error (.ite .error (.ok rfl))
  exact hadded letters h

/-- Flags are turned on or have come to their end, or a group is opened under them. -/
theorem readFlagOn_cases (r : Reader) (start : Nat) (on : List FlagLetter) (here : Nat) (t : Token) :
    Ensures (fun s => Settles r s ∨ t = .char ')' ∧ r.setGlobalFlags start on = .ok s ∨
      ∃ mode : Mode, s = r.enter mode ∧ Early r.frame.verbose (.flagsOn start on) t mode ∧
        ∀ r' : Reader, r'.readFlagOn start on here t = .ok (r'.enter mode))
      (r.readFlagOn start on here t) := by
  unfold Reader.readFlagOn
  split
  · exact fun s hs => .inr (.inl ⟨rfl, hs⟩)
  · exact .ite .error ((adds_openScoped r start on [] here).mono fun _ h => .inl h.settles)
  · exact .ite .error (.ok (.inl (.enter r rfl)))
  · split
    · rename_i letter hletter
      refine .bind fun letters hletters => .ok (.inr (.inr ⟨_, rfl, ?_, fun r' => ?_⟩))
      · obtain rfl := addFlag_ok hletters
        exact .nextFlag start on hletter
      · simp only [hletters]
        rfl
    · exact .error
  · exact .error

/-- Flags are turned on or a comment begins, or a group is opened. -/
theorem readExtension_cases (r : Reader) (start here : Nat) (t : Token) :
    Ensures (fun s => Settles r s ∨ ∃ mode : Mode, s = r.enter mode ∧
      Early r.frame.verbose (.extension start) t mode ∧
      ∀ r' : Reader, r'.readExtension start here t = .ok (r'.enter mode))
      (r.readExtension start here t) := by
  have hgroup : ∀ opening, Settles r (r.openGroup opening start r.frame.verbose) := fun opening =>
    (adds_openGroup r opening start _).settles
  unfold Reader.readExtension
  cases t with
  | escaped c => exact .error
  | char c =>
    dsimp only
    split
    · exact .ok (.inl (.enter r rfl))
    · exact .ok (.inl (hgroup _))
    · exact .ok (.inr ⟨_, rfl, .comment start, fun _ => rfl⟩)
    · exact .ok (.inl (hgroup _))
    · exact .ok (.inl (hgroup _))
    · exact .ok (.inl (.enter r rfl))
    · exact .ok (.inl (.enter r rfl))
    · exact .ok (.inl (hgroup _))
    · exact .ok (.inl (.enter r rfl))
    · split
      · rename_i letter hletter
        refine .bind fun letters hletters => .ok (.inr ⟨_, rfl, ?_, fun r' => ?_⟩)
        · obtain rfl := addFlag_ok hletters
          exact .flag start hletter
        · simp only [hletters]
          rfl
      · exact .error

theorem enter_mode {mode : Mode} (h : r.mode = mode) : r.enter mode = r := by
  subst h
  rfl

/-- Only a repetition can be made lazy or possessive. -/
theorem changeGreed_cases (r : Reader) (greed : Greed) : Adds r (r.changeGreed greed) ∨
    ∀ r' : Reader, r'.frame.items = r.frame.items → r'.changeGreed greed = r'.enter .plain := by
  unfold Reader.changeGreed
  split
  · exact .inl ⟨rfl, by simp [isBegun]⟩
  · rename_i hother
    refine .inr fun r' hitems => ?_
    split
    · rename_i hiterate
      exact absurd (hitems.symm.trans hiterate) (hother _ _ _ _ _)
    · rfl

variable [CharacterNames]

/-- A construct begins or ends that may come before everything. -/
theorem Reads.enter {here : Nat} {t : Token} {mode mode' : Mode} (hmode : r.mode = mode)
    (howes : mode.owes = false) (hearly : Early r.frame.verbose mode t mode')
    (hread : ∀ r' : Reader, r'.mode = mode → r'.readToken here t = .ok (r'.enter mode')) :
    Reads r here t (r.enter mode') := by
  subst hmode
  exact .enters howes mode' rfl (fun _ => hearly) fun r' hmode' _ => hread r' hmode'

/-- Comments are skipped up to their end. -/
theorem Reads.comment {here : Nat} {t stop : Token} {mode : Mode} (hmode : r.mode = mode)
    (howes : mode.owes = false) (hin : t ≠ stop → Early r.frame.verbose mode t mode)
    (hend : Early r.frame.verbose mode stop .plain) (hread : ∀ r' : Reader, r'.mode = mode →
      r'.readToken here t = .ok (if t = stop then r'.enter .plain else r')) :
    Reads r here t (if t = stop then r.enter .plain else r) := by
  by_cases hstop : t = stop
  · rw [if_pos hstop]
    refine .enter hmode howes (hstop ▸ hend) fun r' hmode' => ?_
    rw [hread r' hmode', if_pos hstop]
  · have hstays : Reads r here t (r.enter mode) :=
      .enter hmode howes (hin hstop) fun r' hmode' => by
        rw [hread r' hmode', if_neg hstop, enter_mode hmode']
    rw [enter_mode hmode] at hstays
    rwa [if_neg hstop]

/-- Behind a repetition comes what says how greedy it is, or what stands outside. -/
theorem readToken_repeated (hmode : r.mode = .repeated) (here : Nat) (t : Token) :
    Ensures (Reads r here t) (r.readToken here t) := by
  have howes : r.mode.owes = false := by rw [hmode]; rfl
  have hgreed : ∀ greed, (∀ r' : Reader, r'.mode = .repeated →
      r'.readToken here t = .ok (r'.changeGreed greed)) → Reads r here t (r.changeGreed greed) := by
    intro greed hread
    rcases changeGreed_cases r greed with h | h
    · exact .settles h.settles
    · refine .enters howes .plain (h r rfl) (absurd hmode) fun r' hmode' hitems => ?_
      rw [hread r' (hmode'.trans hmode), h r' hitems]
  unfold Reader.readToken
  rw [hmode]
  dsimp only
  split
  · exact .ok (hgreed .lazy fun r' hmode' => by simp only [Reader.readToken, hmode']; rfl)
  · exact .ok (hgreed .possessive fun r' hmode' => by simp only [Reader.readToken, hmode']; rfl)
  · refine (readPlain_cases (r.enter .plain) here t).mono fun s hs => ?_
    rcases hs with h | ⟨hverbose, mode, rfl, hearly⟩ | ⟨rfl, rfl⟩
    · exact .settles ⟨⟨h.flags, h.begun⟩, h.settled⟩
    · exact .skips howes hverbose mode rfl (absurd hmode)
    · refine .enters howes (.opening here) rfl (absurd hmode) fun r' hmode' _ => ?_
      simp only [Reader.readToken, hmode'.trans hmode]
      exact readPlain_paren (r'.enter .plain) here

/-- **What one token does.** -/
theorem readToken_cases (r : Reader) (here : Nat) (t : Token) :
    Ensures (Reads r here t) (r.readToken here t) := by
  unfold Reader.readToken
  cases hmode : r.mode with
  | plain =>
    refine (readPlain_cases r here t).mono fun s hs => ?_
    rcases hs with h | ⟨hverbose, mode, rfl, hearly⟩ | ⟨rfl, rfl⟩
    · exact .settles h
    · exact .skips (by rw [hmode]; rfl) hverbose mode rfl fun _ => hmode ▸ hearly
    · refine .enter hmode rfl (.opening here) fun r' hmode' => ?_
      simp only [Reader.readToken, hmode']
      exact readPlain_paren r' here
  | lineComment =>
    refine .ok (.comment hmode rfl .inLineComment .endLineComment fun r' hmode' => ?_)
    simp only [Reader.readToken, hmode']
    rfl
  | repeated =>
    have hreads := readToken_repeated hmode here t
    unfold Reader.readToken at hreads
    rwa [hmode] at hreads
  | counting start low high =>
    exact (settles_readCount r start low high here t).mono fun _ => .settles
  | escape start e =>
    refine .bind fun fed _ => ?_
    cases fed with
    | more e => exact .ok (.settles (.enter r rfl))
    | ended m => exact (adds_pushMeaning r m _ _).mono fun _ h => .settles h.settles
    | before m =>
      refine .bind fun s hs => ?_
      exact (adds_readPlain (adds_pushMeaning r m _ _ s hs) here t).mono fun _ h =>
        .settles h.settles
  | set start negated items phase =>
    refine .ite (.ok (.settles (.enter r rfl))) (.bind fun read _ => ?_)
    obtain ⟨items, phase⟩ := read
    cases phase with
    | none => exact .ok (.settles (adds_push r _).settles)
    | some phase => exact .ok (.settles (.enter r rfl))
  | opening start =>
    dsimp only
    by_cases hquestion : t = .char '?'
    · rw [if_pos hquestion]
      refine .ok (.enter hmode rfl (hquestion ▸ .extension start) fun r' hmode' => ?_)
      simp only [Reader.readToken, hmode', if_pos hquestion]
      rfl
    · rw [if_neg hquestion]
      exact (adds_readPlain (adds_openCapture r start none) here t).mono fun _ h =>
        .settles h.settles
  | extension start =>
    refine (readExtension_cases r start here t).mono fun s hs => ?_
    rcases hs with h | ⟨mode, rfl, hearly, hsame⟩
    · exact .settles h
    · refine .enter hmode rfl hearly fun r' hmode' => ?_
      simp only [Reader.readToken, hmode']
      exact hsame r'
  | extensionP start =>
    dsimp only
    split
    · exact .ok (.settles (.enter r rfl))
    · exact .ok (.settles (.enter r rfl))
    · exact .error
  | lookBehind start =>
    dsimp only
    split
    · exact .ok (.settles (adds_openBehind r start _).settles)
    · exact .ok (.settles (adds_openBehind r start _).settles)
    · exact .error
  | name start use nameStart text =>
    refine .ite ?_ (.ok (.settles (.enter r rfl)))
    exact (adds_closeName r start use nameStart text here).mono fun _ h => .settles h.settles
  | comment start =>
    refine .ok (.comment hmode rfl (.inComment start) (.endComment start) fun r' hmode' => ?_)
    simp only [Reader.readToken, hmode']
    rfl
  | flagsOn start on =>
    refine (readFlagOn_cases r start on here t).mono fun s hs => ?_
    rcases hs with h | ⟨ht, h⟩ | ⟨mode, rfl, hearly, hsame⟩
    · exact .settles h
    · exact .sets start on hmode ht h
    · refine .enter hmode rfl hearly fun r' hmode' => ?_
      simp only [Reader.readToken, hmode']
      exact hsame r'
  | flagsOff start on off =>
    exact (settles_readFlagOff r start on off here t).mono fun _ => .settles

/-! ## Flags that come from the text -/

theorem step_ok {t : Token} (h : r.step t = .ok s) :
    ∃ u, r.readToken r.position t = .ok u ∧ s = { u with position := r.position + t.length } := by
  unfold Reader.step at h
  cases hread : r.readToken r.position t with
  | error e =>
    rw [hread] at h
    exact absurd h nofun
  | ok u =>
    rw [hread] at h
    exact ⟨u, rfl, (Except.ok.inj h).symm⟩

theorem readTokens_cons_ok {t : Token} {ts : List Token} (h : r.readTokens (t :: ts) = .ok s) :
    ∃ u, r.step t = .ok u ∧ u.readTokens ts = .ok s := by
  rw [readTokens_cons] at h
  cases hstep : r.step t with
  | error e =>
    rw [hstep] at h
    exact absurd h nofun
  | ok u =>
    rw [hstep] at h
    exact ⟨u, rfl, h⟩

omit [CharacterNames] in
/-- Before the end of a construct that adds nothing, it is late only if the expression is begun. -/
theorem Stays.settled (h : Stays r s) (hmode : r.mode.owes = false) (hsettled : r.isSettled = true) :
    s.isSettled = true := by
  rw [isSettled, hmode, Bool.or_false] at hsettled
  rw [isSettled, h.begun hsettled, Bool.true_or]

/-- **Either the flags stay, or it was not too late for them.** -/
theorem step_cases {t : Token} (h : r.step t = .ok s) :
    s.flags = r.flags ∧ (r.isSettled = true → s.isSettled = true) ∨
      r.isSettled = false ∧ s.isSettled = false := by
  obtain ⟨u, hu, rfl⟩ := step_ok h
  cases readToken_cases r r.position t u hu with
  | settles h => exact .inl ⟨h.flags, fun _ => h.settled⟩
  | skips hmode _ mode h =>
    subst h
    exact .inl ⟨rfl, (Stays.enter r mode).settled hmode⟩
  | enters hmode mode h =>
    subst h
    exact .inl ⟨rfl, (Stays.enter r mode).settled hmode⟩
  | sets start on hmode ht h =>
    obtain ⟨hbegun, rfl⟩ := setGlobalFlags_ok h
    refine .inr ⟨?_, ?_⟩
    · rw [isSettled, hbegun, hmode]
      rfl
    · exact (Bool.or_false _).trans hbegun

/-- The reader with blanks being skipped. -/
def verbosely (r : Reader) : Reader :=
  { r with
    flags := { r.flags with verbose := true }
    frame := { r.frame with verbose := true } }

omit [CharacterNames] in
theorem verbosely_eq (hflags : r.flags.verbose = true) (hframe : r.frame.verbose = true) :
    r.verbosely = r := by
  obtain ⟨_, ⟨⟩, ⟨⟩⟩ := r
  subst hflags hframe
  rfl

omit [CharacterNames] in
theorem apply_globalChange_verbosely (on : List FlagLetter) (flags : Flags) :
    (globalChange on).apply { flags with verbose := true } =
      { (globalChange on).apply flags with verbose := true } := by
  have hletters := verbose_globalChange on
  have hverbose : (globalChange on).verbose.getD true = true := by
    cases hbit : (globalChange on).verbose with
    | none => rfl
    | some bit =>
      cases bit with
      | false => exact absurd hbit hletters
      | true => rfl
  simp [FlagChange.apply, hverbose]

/-- Where blanks are not skipped, skipping them makes no difference before the expression begins. -/
theorem step_verbosely {t : Token} (hframe : r.frame.verbose = r.flags.verbose)
    (hverbose : r.flags.verbose = false) (h : r.step t = .ok s) (hs : s.isSettled = false) :
    r.verbosely.step t = .ok s.verbosely ∧ s.frame.verbose = s.flags.verbose := by
  obtain ⟨u, hu, rfl⟩ := step_ok h
  suffices hread : r.verbosely.readToken r.position t = .ok u.verbosely ∧
      u.frame.verbose = u.flags.verbose by
    refine ⟨?_, hread.2⟩
    unfold Reader.step
    change (r.verbosely.readToken r.position t >>= _) = _
    rw [hread.1]
    rfl
  cases readToken_cases r r.position t u hu with
  | settles h => exact absurd (h.settled.symm.trans hs) nofun
  | skips hmode hskips => exact absurd (hskips.symm.trans (hframe.trans hverbose)) nofun
  | enters hmode mode h hearly hsame =>
    subst h
    exact ⟨hsame r.verbosely rfl rfl, hframe⟩
  | sets start on hmode ht h =>
    obtain ⟨hbegun, rfl⟩ := setGlobalFlags_ok h
    have hbegun' : r.verbosely.isBegun = false := hbegun
    have hmode' : r.verbosely.mode = .flagsOn start on := hmode
    subst ht
    refine ⟨?_, rfl⟩
    simp only [Reader.readToken, hmode', Reader.readFlagOn, setGlobalFlags_eq_ok hbegun']
    simp only [verbosely, apply_globalChange_verbosely]

/-- Once it is too late for flags, they stay. -/
theorem flags_of_readTokens {ts : List Token} (hr : r.isSettled = true)
    (h : r.readTokens ts = .ok s) : s.flags = r.flags := by
  induction ts generalizing r with
  | nil =>
    obtain rfl := Except.ok.inj h
    rfl
  | cons t ts ih =>
    obtain ⟨u, hstep, hrest⟩ := readTokens_cons_ok h
    rcases step_cases hstep with ⟨hflags, hsettled⟩ | ⟨hnot, -⟩
    · exact (ih (hsettled hr) hrest).trans hflags
    · exact absurd (hr.symm.trans hnot) nofun

/-- **If it is the text that has blanks skipped, they can be skipped from the beginning.** -/
theorem readTokens_verbosely {ts : List Token} (hframe : r.frame.verbose = r.flags.verbose)
    (h : r.readTokens ts = .ok s) (hs : s.flags.verbose = true) :
    r.verbosely.readTokens ts = .ok s := by
  induction ts generalizing r with
  | nil =>
    obtain rfl := Except.ok.inj h
    rw [verbosely_eq hs (hframe.trans hs)]
    rfl
  | cons t ts ih =>
    cases hverbose : r.flags.verbose with
    | true => rw [verbosely_eq hverbose (hframe.trans hverbose), h]
    | false =>
      obtain ⟨u, hstep, hrest⟩ := readTokens_cons_ok h
      cases hsettled : u.isSettled with
      | true =>
        -- the flags are those from before the token, which skip no blanks
        have hflags : u.flags = r.flags := by
          rcases step_cases hstep with ⟨hflags, -⟩ | ⟨-, hnot⟩
          · exact hflags
          · exact absurd (hsettled.symm.trans hnot) nofun
        rw [flags_of_readTokens hsettled hrest, hflags, hverbose] at hs
        exact absurd hs nofun
      | false =>
        obtain ⟨hverbosely, hframe'⟩ := step_verbosely hframe hverbose hstep hsettled
        rw [readTokens_cons, hverbosely]
        exact ih hframe' hrest

omit [CharacterNames] in
/-- The end of the text changes no flags. -/
theorem stays_closeMode (r : Reader) : Ensures (Stays r) r.closeMode := by
  intro closed hclosed
  cases hmode : r.mode with
  | plain | lineComment | repeated =>
    simp only [closeMode, hmode] at hclosed
    obtain rfl := Except.ok.inj hclosed
    exact ⟨rfl, id⟩
  | counting start low high =>
    simp only [closeMode, hmode] at hclosed
    obtain rfl := Except.ok.inj hclosed
    exact (adds_pushBrace r low high).stays
  | escape start e =>
    simp only [closeMode, hmode] at hclosed
    have hpushed : Ensures (Adds r)
        (e.finish start r.position >>= fun m => r.pushMeaning m start r.position) :=
      .bind fun m _ => adds_pushMeaning r m start r.position
    exact (hpushed closed hclosed).stays
  | set => exact absurd hclosed (closeMode_set_ne_ok hmode closed)
  | name start use nameStart text =>
    simp only [closeMode, hmode] at hclosed
    split at hclosed <;> cases hclosed
  | opening | extension | extensionP | lookBehind | comment | flagsOn | flagsOff =>
    simp only [closeMode, hmode] at hclosed
    cases hclosed

end Reader

end RouteTree.Regex
