import RouteTree.Proofs.Regex.Rereading

/-!
# Anchors at both ends

**An expression that can be read between anchors can be read without either of them, and matches the
same texts from end to end** (`read_between`). The anchors are not around the expression: `^a|b$`
anchors one branch at each end.

A full match begins where `^` holds, so it makes no difference in front of a branch
(`fullMatch_eq_of_likeWhole`). It ends where `$` holds, so that makes none behind the last branch
(`fullMatch_dollar`). A dollar is read as an anchor unless it stands in a comment, or in something that
the end of the text would leave open (`Reader.Prefaced.finish_of_dollar`).
-/

namespace RouteTree.Regex

open Text

/-! ## Matching -/

section

variable (flags : Flags)

theorem search_sequence_cons (r : Regex) (rs : List Regex) (s : Cursor)
    (follow : Cursor → Option Cursor) :
    (sequence (r :: rs)).search flags s follow =
      r.search flags s fun s' => (sequence rs).search flags s' follow := by
  cases rs <;> rfl

/-- One list after another. -/
theorem search_sequence_append (rs rs' : List Regex) (s : Cursor)
    (follow : Cursor → Option Cursor) :
    (sequence (rs ++ rs')).search flags s follow =
      (sequence rs).search flags s fun s' => (sequence rs').search flags s' follow := by
  induction rs generalizing s with
  | nil => rfl
  | cons r rs ih =>
    rw [List.cons_append, search_sequence_cons, search_sequence_cons]
    exact congrArg (r.search flags s) (funext ih)

/-- The alternatives are tried in order. -/
theorem search_choice (alternatives : List Regex) (last : Regex) (s : Cursor)
    (follow : Cursor → Option Cursor) :
    (choice alternatives last).search flags s follow =
      (alternatives ++ [last]).findSome? fun r => r.search flags s follow := by
  induction alternatives with
  | nil =>
    change last.search flags s follow = _
    cases hlast : last.search flags s follow <;> simp [hlast]
  | cons r rs ih =>
    change (Regex.alt r (choice rs last)).search flags s follow = _
    rw [search, ih, List.cons_append, List.findSome?_cons]
    cases r.search flags s follow <;> rfl

/-- At the beginning of a text, anchors make no difference. -/
theorem search_anchors {anchors : List Regex}
    (hanchors : ∀ item ∈ anchors, item = .assertion .lineStart) (rs : List Regex) (s : Cursor)
    (hs : s.before = []) (follow : Cursor → Option Cursor) :
    (sequence (anchors ++ rs)).search flags s follow = (sequence rs).search flags s follow := by
  induction anchors with
  | nil => rfl
  | cons item anchors ih =>
    obtain ⟨rfl, hrest⟩ := List.forall_mem_cons.mp hanchors
    have hholds : Assertion.lineStart.holds flags s = true := by simp [Assertion.holds, hs]
    rw [List.cons_append, search_sequence_cons, search]
    rw [if_pos hholds, ih hrest]

/-- **In front of an expression, anchors make no difference to full matches.** -/
theorem fullMatch_eq_of_likeWhole {extra : List Regex}
    (hextra : ∀ item ∈ extra, item = .assertion .lineStart) {f f' : Frame}
    (h : Reader.LikeWhole extra f f') (subject : List Char) :
    f.body.fullMatch flags subject = f'.body.fullMatch flags subject := by
  have hextra' : ∀ item ∈ extra.reverse, item = .assertion .lineStart := fun item hitem =>
    hextra item (List.mem_reverse.mp hitem)
  have hanchors := fun rs follow =>
    search_anchors flags hextra' rs (Cursor.start subject) rfl follow
  unfold fullMatch
  cases h with
  | first start start' verbose items =>
    simp only [Frame.body, search_choice, List.reverse_append, List.reverse_nil, List.nil_append,
      List.findSome?_cons, hanchors]
  | later start start' verbose branches begun items =>
    simp only [Frame.body, search_choice, List.reverse_append, List.reverse_singleton,
      List.cons_append, List.findSome?_cons, hanchors]

/-- **Behind an expression, an anchor makes no difference to full matches.** -/
theorem fullMatch_dollar {f : Frame} (hwhole : f.opening = .whole) (subject : List Char) :
    ({ f with items := .assertion .lineEnd :: f.items } : Frame).body.fullMatch flags subject =
      f.body.fullMatch flags subject := by
  -- where a full match may end, the anchor holds
  have hend : (fun s : Cursor => (sequence [.assertion .lineEnd]).search flags s fun s' =>
      if s'.after.isEmpty then some s' else none) =
        fun s => if s.after.isEmpty then some s else none := by
    funext s
    by_cases hafter : s.after = []
    · simp [sequence, search, Assertion.holds, hafter]
    · simp [sequence, search, hafter]
  have hbody : ∀ items, ({ f with items } : Frame).body =
      choice f.branches.reverse (sequence items.reverse) := by
    intro items
    simp only [Frame.body, hwhole]
  unfold fullMatch
  rw [hbody, show f.body = _ from hbody f.items, search_choice, search_choice,
    List.findSome?_append, List.findSome?_append, List.reverse_cons]
  simp only [List.findSome?_cons, search_sequence_append, hend]

end

/-! ## Reading a dollar -/

variable [CharacterNames]

/-- A dollar ends an escape, or the escape has no end yet. -/
theorem feed_dollar_cases {e : Escape} {start here : Nat} {fed : Fed}
    (h : e.feed start here (.char '$') = .ok fed) :
    (∃ m, fed = .before m ∧ e.finish start here = .ok m) ∨
      ∃ name, fed = .more (.characterNameIn name) := by
  have hbefore : (e.finish start here).map Fed.before = .ok fed →
      ∃ m, fed = .before m ∧ e.finish start here = .ok m := by
    intro hmap
    cases hfinish : e.finish start here with
    | error cause =>
      rw [hfinish] at hmap
      exact absurd hmap nofun
    | ok m =>
      rw [hfinish] at hmap
      exact ⟨m, (Except.ok.inj hmap).symm, rfl⟩
  have hdigit : isHexDigit '$' = false ∧ isOctalDigit '$' = false ∧ isAsciiDigit '$' = false := by
    decide
  cases e with
  | hex letter wanted digits =>
    simp only [Escape.feed, hdigit] at h
    exact .inl (hbefore h)
  | octal digits =>
    simp only [Escape.feed, hdigit] at h
    exact .inl (hbefore h)
  | number digits =>
    simp only [Escape.feed, hdigit] at h
    exact .inl (hbefore (by simpa using h))
  | characterName => exact absurd h (by simp [Escape.feed])
  | characterNameIn name =>
    have hmore : Fed.more (.characterNameIn (name ++ ['$'])) = fed := by
      simpa [Escape.feed, Token.chars] using h
    exact .inr ⟨_, hmore.symm⟩

namespace Reader

/-- A set does not end with a dollar. -/
theorem readSet_dollar (items : List SetItem) (phase : SetPhase) (here : Nat) :
    Ensures (fun read => read.2 ≠ none) (readSet items phase here (.char '$')) := by
  have hmember : ∀ items lower,
      Ensures (fun read => read.2 ≠ none) (readMember items lower here (.char '$')) := by
    intro items lower
    exact .bind fun read _ => .ok nofun
  have hafter : ∀ items lower,
      Ensures (fun read => read.2 ≠ none) (readAfter items lower here (.char '$')) :=
    fun items lower => .ite (.ok nofun) (hmember _ none)
  cases phase with
  | opened | member => exact hmember items none
  | after lower => exact hafter items lower
  | upper lower => exact hmember items (some lower)
  | escape lower letter start e =>
    refine .bind fun fed _ => ?_
    cases fed with
    | more e => exact .ok nofun
    | ended m => exact .bind fun read _ => .ok nofun
    | before m =>
      refine .bind fun read _ => ?_
      obtain ⟨items, phase⟩ := read
      cases phase with
      | after lower => exact hafter items lower
      | opened | member | upper | escape => exact hmember items none

omit [CharacterNames] in
/-- Where nothing but groups is open, a dollar is an anchor. -/
theorem readPlain_dollar (r : Reader) (here : Nat) :
    r.readPlain here (.char '$') = .ok (r.push (.assertion .lineEnd)) := by
  have hplain : isAsciiSpace '$' = false ∧ ('$' == '#') = false := by decide
  simp [readPlain, hplain]

/-- What a dollar does before the end of a text that is complete with it. -/
inductive ReadsDollar (r s : Reader) : Prop where
  /-- It stands in a comment. -/
  | comments (hmode : r.mode = .lineComment) (h : s = r)
  /-- It is an anchor behind what the end of the text would leave. -/
  | anchors (closed : Reader) (hclosed : r.closeMode = .ok closed)
    (h : s = closed.push (.assertion .lineEnd))
  /-- The text is not complete with it. -/
  | opens (h : ∀ position read, { s with position }.finish ≠ .ok read)

theorem readToken_dollar (r : Reader) :
    Ensures (ReadsDollar r) (r.readToken r.position (.char '$')) := by
  have hopen : ∀ {s : Reader}, (∀ position closed, { s with position }.closeMode ≠ .ok closed) →
      ReadsDollar r s := by
    intro s hs
    refine .opens fun position read hread => ?_
    obtain ⟨closed, hclosed⟩ := exists_closeMode_of_finish hread
    exact hs position closed hclosed
  cases hmode : r.mode with
  | plain =>
    simp only [readToken, hmode, readPlain_dollar]
    exact .ok (.anchors r (by simp only [closeMode, hmode]; rfl) rfl)
  | lineComment =>
    simp only [readToken, hmode]
    exact .ok (.comments hmode rfl)
  | repeated =>
    simp only [readToken, hmode, readPlain_dollar]
    exact .ok (.anchors r (by simp only [closeMode, hmode]; rfl) rfl)
  | counting start low high =>
    have hcount : r.readCount start low high r.position (.char '$') =
        .ok ((r.pushBrace low high).push (.assertion .lineEnd)) := by
      have hdigit : isAsciiDigit '$' = false := by decide
      simp [readCount, hdigit, readPlain_dollar]
    simp only [readToken, hmode, hcount]
    exact .ok (.anchors _ (by simp only [closeMode, hmode]; rfl) rfl)
  | escape start e =>
    simp only [readToken, hmode]
    refine .bind fun fed hfed => ?_
    rcases feed_dollar_cases hfed with ⟨m, rfl, hfinish⟩ | ⟨name, rfl⟩
    · refine .bind fun closed hclosed => ?_
      rw [readPlain_dollar]
      refine .ok (.anchors closed ?_ rfl)
      simp only [closeMode, hmode, hfinish]
      exact hclosed
    · refine .ok (hopen fun position closed hclosed => ?_)
      simp only [closeMode, enter, Escape.finish] at hclosed
      split at hclosed <;> cases hclosed
  | set start negated items phase =>
    simp only [readToken, hmode]
    rw [if_neg (by simp)]
    refine .bind fun read hread => ?_
    obtain ⟨items', phase'⟩ := read
    cases phase' with
    | none => exact absurd rfl (readSet_dollar items phase r.position _ hread)
    | some phase' => exact .ok (hopen fun _ => closeMode_set_ne_ok rfl)
  | opening start =>
    simp only [readToken, hmode, readPlain_dollar]
    rw [if_neg (by simp)]
    refine .ok (.opens fun position read hread => ?_)
    -- the group that the parenthesis opened is still open
    obtain ⟨closed, hclosed, hcomplete, -⟩ := finish_ok hread
    obtain rfl := Except.ok.inj hclosed
    exact absurd hcomplete.outer (List.cons_ne_nil _ _)
  | extension start =>
    simp only [readToken, hmode]
    exact .error
  | extensionP start =>
    simp only [readToken, hmode]
    exact .error
  | lookBehind start =>
    simp only [readToken, hmode]
    exact .error
  | name start use nameStart text =>
    simp only [readToken, hmode]
    rw [if_neg (by cases use <;> decide)]
    refine .ok (hopen fun position closed hclosed => ?_)
    simp only [closeMode, enter] at hclosed
    split at hclosed <;> cases hclosed
  | comment start =>
    simp only [readToken, hmode]
    refine .ok (hopen fun position closed hclosed => ?_)
    rw [if_neg (by simp)] at hclosed
    simp only [closeMode, hmode] at hclosed
    cases hclosed
  | flagsOn start on =>
    simp only [readToken, hmode]
    exact .error
  | flagsOff start on off =>
    have hcolon : ('$' == ':') = false := by decide
    simp only [readToken, hmode, readFlagOff, hcolon, Bool.false_and]
    exact .error

/-- **A dollar at the end may be left out.** -/
theorem Prefaced.finish_of_dollar {extra : List Regex} {flags flags' : Flags} {r r' s : Reader}
    {read : Regex × Flags} (h : Prefaced extra flags flags' r r')
    (hstep : r.step (.char '$') = .ok s) (hfinish : s.finish = .ok read) :
    ∃ regex, r.finish = .ok (regex, read.2) ∧
      ∀ subject, regex.fullMatch read.2 subject = read.1.fullMatch read.2 subject := by
  obtain ⟨u, hu, rfl⟩ := step_ok hstep
  cases readToken_dollar r u hu with
  | comments hmode heq =>
    subst heq
    obtain ⟨closed, hclosed, hcomplete, rfl⟩ := finish_ok hfinish
    obtain rfl := Except.ok.inj ((closeMode_of_idle (.inr hmode) _).symm.trans hclosed)
    have hread : u.finish = .ok (u.frame.body, u.flags) :=
      finish_eq_ok (closeMode_of_idle (.inr hmode) u.position) (hcomplete.move u.mode u.position)
    exact ⟨_, hread, fun _ => rfl⟩
  | anchors closed hclosed heq =>
    subst heq
    obtain ⟨_, hplain, hpushed, rfl⟩ := finish_ok hfinish
    obtain rfl := Except.ok.inj hplain
    have hcomplete := (isComplete_push_assertion_iff closed .lineEnd _).mp hpushed
    have hread : r.finish = .ok (closed.frame.body, closed.flags) := finish_eq_ok hclosed hcomplete
    obtain ⟨closed', -, hlike⟩ := h.closeMode.follows closed hclosed
    have hwhole := hlike.frames.likeWhole hcomplete.outer
    refine ⟨_, hread, fun subject => ?_⟩
    exact (fullMatch_dollar closed.flags hwhole.opening subject).symm
  | opens hopen => exact absurd hfinish (hopen _ read)

theorem readTokens_singleton (r : Reader) (t : Token) : r.readTokens [t] = r.step t := by
  rw [readTokens_cons]
  cases r.step t <;> rfl

/-- At the beginning, a caret is an anchor. -/
theorem step_caret (flags : Flags) : (Reader.initial flags).step (.char '^') =
    .ok { (Reader.initial flags).push (.assertion .lineStart) with position := 1 } := by
  have hplain : isAsciiSpace '^' = false ∧ ('^' == '#') = false := by decide
  have hread : (Reader.initial flags).readPlain 0 (.char '^') =
      .ok ((Reader.initial flags).push (.assertion .lineStart)) := by
    simp [readPlain, hplain]
  unfold Reader.step
  change ((Reader.initial flags).readPlain 0 (.char '^') >>= _) = _
  rw [hread]
  rfl

/-- The reader behind a caret has read what the reader at the beginning has, and the anchor. -/
theorem prefaced_of_caret {flags : Flags} {r : Reader}
    (h : (Reader.initial flags).step (.char '^') = .ok r) :
    Prefaced [.assertion .lineStart] flags flags r (Reader.initial flags) := by
  obtain rfl := Except.ok.inj ((step_caret flags).symm.trans h)
  exact
    { changed := ⟨{}, (Option.some_ne_none false).symm, rfl, rfl⟩
      verbose := rfl
      frames := .whole (.first 0 0 flags.verbose [])
      widths := rfl
      names := rfl
      behind := rfl
      conditions := rfl
      unicode := rfl
      mode := .plain }

end Reader

/-! ## Whole expressions -/

/-- A text between anchors, of which each may be missing. -/
inductive Around (source : List Char) : List Char → Prop where
  | bare : Around source source
  | caret : Around source ('^' :: source)
  | dollar : Around source (source ++ ['$'])
  | both : Around source ('^' :: (source ++ ['$']))

/-- The text can be read under the flags, which are all there are, and matches what `regex` does from
end to end. -/
def ReadsAlike (flags flags' : Flags) (regex : Regex) (text : List Char) : Prop :=
  ∃ regex', read flags text = .ok (regex', flags') ∧
    ∀ subject, regex'.fullMatch flags' subject = regex.fullMatch flags' subject

/-- What reading an expression behind a caret comes to. -/
theorem exists_of_read_caret {flags : Flags} {source : List Char} {read₀ : Regex × Flags}
    (h : read flags ('^' :: source) = .ok read₀) :
    ∃ begun r, (Reader.initial flags).step (.char '^') = .ok begun ∧
      begun.readTokens (tokens source).1 = .ok r ∧ (tokens source).2 = false ∧
      r.finish = .ok read₀ := by
  obtain ⟨r, hr, htokens, hfinish⟩ := exists_of_read h
  rw [tokens_char (by decide)] at hr htokens
  obtain ⟨begun, hstep, hrest⟩ := Reader.readTokens_cons_ok hr
  exact ⟨begun, r, hstep, hrest, htokens, hfinish⟩

/-- **An anchor at the beginning may be left out.** -/
theorem read_of_caret {flags flags' : Flags} {source : List Char} {regex : Regex}
    (h : read flags ('^' :: source) = .ok (regex, flags')) :
    ReadsAlike flags flags' regex source := by
  obtain ⟨begun, r, hstep, hr, htokens, hfinish⟩ := exists_of_read_caret h
  obtain ⟨r', hr', hlike⟩ :=
    (Reader.prefaced_of_caret hstep).readTokens (by simp) (tokens source).1 r hr
  obtain ⟨⟨regex', _⟩, hfinish', ⟨f, f', hwhole, rfl, rfl⟩, change, -, rfl, rfl⟩ :=
    (hlike.finish (by simp) hlike.flags_eq).follows _ hfinish
  refine ⟨_, read_eq_ok_of_finish htokens hr' hfinish', fun subject => ?_⟩
  exact (fullMatch_eq_of_likeWhole _ (by simp) hwhole subject).symm

/-- What reading an expression before a dollar comes to. -/
theorem exists_of_read_dollar {flags : Flags} {source : List Char} {read₀ : Regex × Flags}
    (htokens : (tokens source).2 = false) (h : read flags (source ++ ['$']) = .ok read₀) :
    ∃ r s, (Reader.initial flags).readTokens (tokens source).1 = .ok r ∧
      r.step (.char '$') = .ok s ∧ s.finish = .ok read₀ := by
  obtain ⟨s, hs, -, hfinish⟩ := exists_of_read h
  rw [tokens_append htokens, Reader.readTokens_append] at hs
  cases hr : (Reader.initial flags).readTokens (tokens source).1 with
  | error e =>
    rw [hr] at hs
    exact absurd hs nofun
  | ok r =>
    rw [hr] at hs
    refine ⟨r, s, rfl, ?_, hfinish⟩
    rw [← Reader.readTokens_singleton]
    exact hs

/-- **An anchor at the end may be left out.** -/
theorem read_of_dollar {flags flags' : Flags} {source : List Char} {regex : Regex}
    (htokens : (tokens source).2 = false) (h : read flags (source ++ ['$']) = .ok (regex, flags')) :
    ReadsAlike flags flags' regex source := by
  obtain ⟨r, s, hr, hdollar, hfinish⟩ := exists_of_read_dollar htokens h
  obtain ⟨r', -, hlike⟩ := (Reader.prefaced_initial rfl).readTokens (by simp) _ r hr
  obtain ⟨regex', hfinish', hsame⟩ := hlike.finish_of_dollar hdollar hfinish
  exact ⟨regex', read_eq_ok_of_finish htokens hr hfinish', hsame⟩

/-- **What can be read between anchors can be read without either of them**, and matches the same texts
from end to end. -/
theorem read_between {flags flags' : Flags} {source : List Char} {regex : Regex}
    (htokens : (tokens source).2 = false)
    (h : read flags ('^' :: (source ++ ['$'])) = .ok (regex, flags')) :
    ∀ text, Around source text → ReadsAlike flags flags' regex text := by
  obtain ⟨begun, hbegun, hsame⟩ : ReadsAlike flags flags' regex ('^' :: source) :=
    read_of_dollar (by rw [tokens_char (by decide), htokens]) h
  have hbare : ReadsAlike flags flags' regex source := by
    obtain ⟨bare, hbare, hsame'⟩ := read_of_caret hbegun
    exact ⟨bare, hbare, fun subject => (hsame' subject).trans (hsame subject)⟩
  intro text htext
  cases htext with
  | bare => exact hbare
  | caret => exact ⟨begun, hbegun, hsame⟩
  | dollar => exact read_of_caret h
  | both => exact ⟨regex, h, fun _ => rfl⟩

end RouteTree.Regex
