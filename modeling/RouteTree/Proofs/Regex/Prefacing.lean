import RouteTree.Proofs.Regex.Positions

/-!
# Anchors before an expression

**What can be read behind anchors can be read without them**, and comes to the same but for these
anchors (`Prefaced.readTokens`, `Prefaced.closeMode`). Two readers take the same tokens here, the first
with anchors before everything else. Inside groups they have read the same. The frame of the whole
expression has the anchors at the far end of its first branch, and the last item is the same wherever
the second reader has one to repeat.

Where flags are read does not matter, and of the flags only whether blanks are skipped. So the two
may also have begun under different flags, as long as both skip blanks or both do not; every change of
flags is then made to both.
-/

namespace RouteTree

namespace FlagChange

/-- One change after another. -/
def andThen (c d : FlagChange) : FlagChange where
  ascii := d.ascii.or c.ascii
  ignoreCase := d.ignoreCase.or c.ignoreCase
  multiline := d.multiline.or c.multiline
  dotAll := d.dotAll.or c.dotAll
  verbose := d.verbose.or c.verbose
  template := d.template.or c.template

@[simp] theorem apply_andThen (c d : FlagChange) (flags : Flags) :
    (c.andThen d).apply flags = d.apply (c.apply flags) := by
  simp [apply, andThen, Option.getD_or]

/-- A change made again changes nothing. -/
@[simp] theorem apply_apply (c : FlagChange) (flags : Flags) :
    c.apply (c.apply flags) = c.apply flags := by
  have hbit : ∀ (o : Option Bool) (b : Bool), o.getD (o.getD b) = o.getD b := by
    intro o b
    cases o <;> rfl
  simp [apply, hbit]

end FlagChange

namespace Regex

open Text

/-- Flags that are turned on do not turn the skipping of blanks off. -/
theorem verbose_changeOfLetters (on : List FlagLetter) :
    (changeOfLetters on []).verbose ≠ some false := by
  have hwrite : ∀ (letters : List FlagLetter) (change : FlagChange), change.verbose ≠ some false →
      (letters.foldl (FlagLetter.write true) change).verbose ≠ some false := by
    intro letters
    induction letters with
    | nil => exact fun _ h => h
    | cons letter letters ih =>
      intro change h
      refine ih _ ?_
      cases letter with
      | verbose => exact nofun
      | _ => exact h
  exact hwrite on {} nofun

theorem verbose_globalChange (on : List FlagLetter) : (globalChange on).verbose ≠ some false :=
  verbose_changeOfLetters _

namespace Reader

/-! ## What is open -/

/-- The same construct is open, perhaps elsewhere. -/
inductive LikeMode : Mode → Mode → Prop where
  | plain : LikeMode .plain .plain
  | lineComment : LikeMode .lineComment .lineComment
  | repeated : LikeMode .repeated .repeated
  | counting (start start' : Nat) (low : List Char) (high : Option (List Char)) :
    LikeMode (.counting start low high) (.counting start' low high)
  | escape (start start' : Nat) (e : Escape) : LikeMode (.escape start e) (.escape start' e)
  | set (start start' : Nat) (negated : Bool) (items : List SetItem) {phase phase' : SetPhase} :
    SamePhase phase phase' →
      LikeMode (.set start negated items phase) (.set start' negated items phase')
  | opening (start start' : Nat) : LikeMode (.opening start) (.opening start')
  | extension (start start' : Nat) : LikeMode (.extension start) (.extension start')
  | extensionP (start start' : Nat) : LikeMode (.extensionP start) (.extensionP start')
  | lookBehind (start start' : Nat) : LikeMode (.lookBehind start) (.lookBehind start')
  | name (start start' : Nat) (use : NameUse) (nameStart nameStart' : Nat) (text : List Char) :
    LikeMode (.name start use nameStart text) (.name start' use nameStart' text)
  | comment (start start' : Nat) : LikeMode (.comment start) (.comment start')
  | flagsOn (start start' : Nat) (on : List FlagLetter) :
    LikeMode (.flagsOn start on) (.flagsOn start' on)
  | flagsOff (start start' : Nat) (on off : List FlagLetter) :
    LikeMode (.flagsOff start on off) (.flagsOff start' on off)

/-- The same has been read in a group, perhaps elsewhere. -/
structure LikeFrame (f f' : Frame) : Prop where
  opening : f.opening = f'.opening
  verbose : f.verbose = f'.verbose
  branches : f.branches = f'.branches
  items : f.items = f'.items

/-- The same has been read of the whole expression, but for the anchors `extra` at its beginning. -/
inductive LikeWhole (extra : List Regex) : Frame → Frame → Prop where
  | first (start start' : Nat) (verbose : Bool) (items : List Regex) :
    LikeWhole extra ⟨.whole, start, verbose, [], items ++ extra⟩ ⟨.whole, start', verbose, [], items⟩
  | later (start start' : Nat) (verbose : Bool) (branches : List Regex) (begun : List Regex)
    (items : List Regex) :
    LikeWhole extra
      ⟨.whole, start, verbose, branches ++ [sequence (extra.reverse ++ begun)], items⟩
      ⟨.whole, start', verbose, branches ++ [sequence begun], items⟩

/-- The same groups are open around the same place. -/
inductive Stacks (extra : List Regex) : Frame → List Frame → Frame → List Frame → Prop where
  | whole {f f' : Frame} (h : LikeWhole extra f f') : Stacks extra f [] f' []
  | group {f f' g g' : Frame} {gs gs' : List Frame} (h : LikeFrame f f')
    (outer : Stacks extra g gs g' gs') : Stacks extra f (g :: gs) f' (g' :: gs')

theorem LikeFrame.body {f f' : Frame} (h : LikeFrame f f') : f.body = f'.body := by
  rw [Frame.body, Frame.body, h.opening, h.branches, h.items]

theorem LikeWhole.opening {extra : List Regex} {f f' : Frame} (h : LikeWhole extra f f') :
    f.opening = .whole := by
  cases h <;> rfl

namespace Stacks

variable {extra : List Regex} {f f' : Frame} {gs gs' : List Frame}

theorem opening (h : Stacks extra f gs f' gs') : f.opening = f'.opening := by
  cases h with
  | whole h => cases h <;> rfl
  | group h => exact h.opening

theorem verbose (h : Stacks extra f gs f' gs') : f.verbose = f'.verbose := by
  cases h with
  | whole h => cases h <;> rfl
  | group h => exact h.verbose

theorem outer_eq_nil_iff (h : Stacks extra f gs f' gs') : gs = [] ↔ gs' = [] := by
  cases h with
  | whole => exact Iff.rfl
  | group => simp

/-- Where no group is open, the whole expression is being read. -/
theorem likeWhole (h : Stacks extra f gs f' gs') (hgs : gs = []) : LikeWhole extra f f' := by
  cases h with
  | whole h => exact h
  | group => exact absurd hgs (List.cons_ne_nil _ _)

/-- Inside a group, the same branches are complete. -/
theorem branches (h : Stacks extra f gs f' gs') (hopening : f'.opening ≠ .whole) :
    f.branches = f'.branches := by
  cases h with
  | whole h => cases h <;> exact absurd rfl hopening
  | group h => exact h.branches

/-- The last items may be replaced, if they are the same. -/
theorem replace (h : Stacks extra f gs f' gs') {last rest rest' : List Regex}
    (hitems : f.items = last ++ rest) (hitems' : f'.items = last ++ rest') (new : List Regex) :
    Stacks extra { f with items := new ++ rest } gs { f' with items := new ++ rest' } gs' := by
  cases h with
  | whole h =>
    cases h with
    | first start start' verbose items =>
      obtain rfl : items = last ++ rest' := hitems'
      obtain rfl : rest' ++ extra = rest := by
        change last ++ rest' ++ extra = last ++ rest at hitems
        rw [List.append_assoc] at hitems
        exact List.append_cancel_left hitems
      have hfirst : LikeWhole extra _ _ := .first start start' verbose (new ++ rest')
      rw [List.append_assoc] at hfirst
      exact .whole hfirst
    | later start start' verbose branches begun items =>
      obtain rfl : rest = rest' := List.append_cancel_left (hitems.symm.trans hitems')
      exact .whole (.later start start' verbose branches begun (new ++ rest))
  | group h outer =>
    have heq := h.items
    rw [hitems, hitems'] at heq
    obtain rfl := List.append_cancel_left heq
    exact .group ⟨h.opening, h.verbose, h.branches, rfl⟩ outer

theorem replaceLast (h : Stacks extra f gs f' gs') {item : Regex} {rest rest' : List Regex}
    (hitems : f.items = item :: rest) (hitems' : f'.items = item :: rest') (new : Regex) :
    Stacks extra { f with items := new :: rest } gs { f' with items := new :: rest' } gs' := by
  have hlast : f.items = [item] ++ rest := hitems
  exact h.replace hlast hitems' [new]

theorem push (h : Stacks extra f gs f' gs') (item : Regex) :
    Stacks extra { f with items := item :: f.items } gs { f' with items := item :: f'.items } gs' :=
  h.replace (List.nil_append _).symm (List.nil_append _).symm [item]

/-- Where the second reader has an item, the first one has the same. -/
theorem last (h : Stacks extra f gs f' gs') {item : Regex} {rest' : List Regex}
    (hitems : f'.items = item :: rest') : ∃ rest, f.items = item :: rest := by
  cases h with
  | whole h =>
    cases h with
    | first start start' verbose items =>
      obtain rfl : items = item :: rest' := hitems
      exact ⟨rest' ++ extra, rfl⟩
    | later => exact ⟨rest', hitems⟩
  | group h outer => exact ⟨rest', h.items.trans hitems⟩

/-- Where the second reader has no item, the first one has the anchors at most. -/
theorem none (h : Stacks extra f gs f' gs') (hitems : f'.items = []) :
    f.items = [] ∨ f.items = extra := by
  cases h with
  | whole h =>
    cases h with
    | first start start' verbose items =>
      obtain rfl : items = [] := hitems
      exact .inr rfl
    | later => exact .inl hitems
  | group h outer => exact .inl (h.items.trans hitems)

theorem nextBranch (h : Stacks extra f gs f' gs') (verbose : Bool) :
    Stacks extra
      { f with branches := sequence f.items.reverse :: f.branches, items := [], verbose } gs
      { f' with branches := sequence f'.items.reverse :: f'.branches, items := [], verbose } gs' := by
  cases h with
  | whole h =>
    cases h with
    | first start start' _ items =>
      -- the anchors are now in a branch that is complete
      have hlater : LikeWhole extra _ _ := .later start start' verbose [] items.reverse []
      rw [← List.reverse_append] at hlater
      exact .whole hlater
    | later start start' _ branches begun items =>
      exact .whole (.later start start' verbose (sequence items.reverse :: branches) begun [])
  | group h outer =>
    exact .group ⟨h.opening, rfl, by rw [h.branches, h.items], rfl⟩ outer

end Stacks

/-- Is anything but flags and comments complete? -/
def isBegun (r : Reader) : Bool :=
  !r.outer.isEmpty || !r.frame.branches.isEmpty || !r.frame.items.isEmpty

theorem setGlobalFlags_ok {r s : Reader} {start : Nat} {on : List FlagLetter}
    (h : r.setGlobalFlags start on = .ok s) :
    r.isBegun = false ∧ s = { r with
      flags := (globalChange on).apply r.flags
      unicode := r.unicode || on.contains .unicode
      frame := { r.frame with verbose := ((globalChange on).apply r.flags).verbose }
      mode := .plain } := by
  unfold Reader.setGlobalFlags at h
  cases hbegun : r.isBegun with
  | true =>
    rw [isBegun] at hbegun
    simp only [hbegun] at h
    exact absurd h nofun
  | false =>
    rw [isBegun] at hbegun
    simp only [hbegun] at h
    exact ⟨rfl, (Except.ok.inj h).symm⟩

theorem setGlobalFlags_eq_ok {r : Reader} (h : r.isBegun = false) (start : Nat)
    (on : List FlagLetter) :
    r.setGlobalFlags start on = .ok { r with
      flags := (globalChange on).apply r.flags
      unicode := r.unicode || on.contains .unicode
      frame := { r.frame with verbose := ((globalChange on).apply r.flags).verbose }
      mode := .plain } := by
  rw [isBegun] at h
  unfold Reader.setGlobalFlags
  simp only [h]
  rfl

/-- Where the first reader has read nothing, there are no anchors. -/
theorem Stacks.of_isBegun_eq_false {extra : List Regex} {r r' : Reader}
    (h : Stacks extra r.frame r.outer r'.frame r'.outer) (hbegun : r.isBegun = false) :
    r'.isBegun = false ∧ ∀ verbose, Stacks extra { r.frame with verbose } r.outer
      { r'.frame with verbose } r'.outer := by
  unfold isBegun at hbegun ⊢
  generalize r.frame = f, r.outer = gs at h hbegun
  generalize r'.frame = f', r'.outer = gs' at h
  cases h with
  | whole h =>
    cases h with
    | first start start' _ items =>
      have hitems : items ++ extra = [] := by simpa using hbegun
      obtain ⟨rfl, rfl⟩ := List.append_eq_nil_iff.mp hitems
      exact ⟨rfl, fun verbose => .whole (.first start start' verbose [])⟩
    | later => simp at hbegun
  | group => simp at hbegun

/-- Does the token end flags for the whole expression? -/
def EndsFlags (r : Reader) (t : Token) : Prop :=
  ∃ start on, r.mode = .flagsOn start on ∧ t = .char ')'

/-- A conditional has two branches at most. -/
theorem branches_of_nextBranch {r s : Reader} {here index : Nat} (h : r.nextBranch here = .ok s)
    (hopening : r.frame.opening = .conditional index) : r.frame.branches = [] := by
  unfold Reader.nextBranch at h
  rw [hopening] at h
  cases hbranches : r.frame.branches with
  | nil => rfl
  | cons branch branches =>
    rw [hbranches] at h
    exact absurd h nofun

theorem nextBranch_eq_ok {r : Reader}
    (h : ∀ index, r.frame.opening = .conditional index → r.frame.branches = []) (here : Nat) :
    r.nextBranch here = .ok { r with
      frame := { r.frame with
        branches := sequence r.frame.items.reverse :: r.frame.branches
        items := []
        verbose := if r.frame.opening = .whole then r.flags.verbose else r.frame.verbose }
      mode := .plain } := by
  unfold Reader.nextBranch
  split
  · rename_i index branch branches hopening hbranches
    exact absurd ((h index hopening).symm.trans hbranches) nofun
  · rfl

/-- The first reader has read the same as the second, with the anchors `extra` before everything;
they began under `flags` and `flags'`. -/
structure Prefaced (extra : List Regex) (flags flags' : Flags) (r r' : Reader) : Prop where
  changed : ∃ change : FlagChange, change.verbose ≠ some false ∧ r.flags = change.apply flags ∧
    r'.flags = change.apply flags'
  verbose : r.flags.verbose = r'.flags.verbose
  frames : Stacks extra r.frame r.outer r'.frame r'.outer
  widths : r.widths = r'.widths
  names : r.names = r'.names
  behind : r.behind = r'.behind
  conditions : r.conditions.map Prod.fst = r'.conditions.map Prod.fst
  unicode : r.unicode = r'.unicode
  mode : LikeMode r.mode r'.mode

namespace Prefaced

variable {extra : List Regex} {flags flags' : Flags} {r r' : Reader}

theorem write (h : Prefaced extra flags flags' r r') {f f' : Frame} {gs gs' : List Frame}
    {mode mode' : Mode} (hstacks : Stacks extra f gs f' gs') (hmode : LikeMode mode mode') :
    Prefaced extra flags flags' { r with frame := f, outer := gs, mode }
      { r' with frame := f', outer := gs', mode := mode' } :=
  { h with frames := hstacks, mode := hmode }

theorem move (h : Prefaced extra flags flags' r r') (position position' : Nat) :
    Prefaced extra flags flags' { r with position } { r' with position := position' } :=
  { h with }

theorem enter (h : Prefaced extra flags flags' r r') {mode mode' : Mode}
    (hmode : LikeMode mode mode') : Prefaced extra flags flags' (r.enter mode) (r'.enter mode') :=
  h.write h.frames hmode

theorem push (h : Prefaced extra flags flags' r r') (item : Regex) :
    Prefaced extra flags flags' (r.push item) (r'.push item) :=
  h.write (h.frames.push item) .plain

theorem push_of_eq (h : Prefaced extra flags flags' r r') {item item' : Regex}
    (heq : item = item') : Prefaced extra flags flags' (r.push item) (r'.push item') :=
  heq ▸ h.push item

theorem pushBrace (h : Prefaced extra flags flags' r r') (low : List Char)
    (high : Option (List Char)) :
    Prefaced extra flags flags' (r.pushBrace low high) (r'.pushBrace low high) := by
  unfold Reader.pushBrace
  generalize '{' :: low ++ _ = text
  induction text generalizing r r' with
  | nil => exact h
  | cons c cs ih => exact ih (h.push (.code c.toNat))

/-! ## Repetitions -/

section

variable (hextra : ∀ item ∈ extra, item = .assertion .lineStart)

include hextra

/-- Where the second reader has no item, the last item of the first is an anchor. -/
theorem items_eq (h : Prefaced extra flags flags' r r') (hitems : r'.frame.items = []) :
    r.frame.items = [] ∨ ∃ rest, r.frame.items = .assertion .lineStart :: rest := by
  rcases h.frames.none hitems with hnone | hall
  · exact .inl hnone
  · cases extra with
    | nil => exact .inl hall
    | cons item rest =>
      obtain rfl := hextra item List.mem_cons_self
      exact .inr ⟨rest, hall⟩

theorem repeatLast (h : Prefaced extra flags flags' r r') (start start' least : Nat)
    (most : Option Nat) :
    Agrees (Prefaced extra flags flags') (r.repeatLast start least most)
      (r'.repeatLast start' least most) := by
  unfold Reader.repeatLast
  cases hlast : r'.frame.items with
  | nil =>
    rcases h.items_eq hextra hlast with hitems | ⟨rest, hitems⟩ <;> rw [hitems] <;> exact .error
  | cons item rest' =>
    obtain ⟨rest, hrest⟩ := h.frames.last hlast
    rw [hrest]
    have hiterate := h.write
      (h.frames.replaceLast hrest hlast (.iterate .greedy least most item)) .repeated
    cases item <;> first | exact .error | exact .ok hiterate

theorem changeGreed (h : Prefaced extra flags flags' r r') (greed : Greed) :
    Prefaced extra flags flags' (r.changeGreed greed) (r'.changeGreed greed) := by
  unfold Reader.changeGreed
  cases hlast : r'.frame.items with
  | nil =>
    rcases h.items_eq hextra hlast with hitems | ⟨rest, hitems⟩ <;> rw [hitems] <;>
      exact h.enter .plain
  | cons item rest' =>
    obtain ⟨rest, hrest⟩ := h.frames.last hlast
    rw [hrest]
    cases item with
    | iterate _ least most body =>
      exact h.write (h.frames.replaceLast hrest hlast (.iterate greed least most body)) .plain
    | _ => exact h.enter .plain

theorem repeatCounted (h : Prefaced extra flags flags' r r') (start start' : Nat)
    (low : List Char) (high : Option (List Char)) :
    Agrees (Prefaced extra flags flags') (r.repeatCounted start low high)
      (r'.repeatCounted start' low high) := by
  unfold Reader.repeatCounted
  exact .ite .error (.ite .error (.ite .error (h.repeatLast hextra _ _ _ _)))

end

/-! ## Groups -/

theorem openGroup (h : Prefaced extra flags flags' r r') (opening : Opening) (start start' : Nat)
    {verbose verbose' : Bool} (hverbose : verbose = verbose') :
    Prefaced extra flags flags' (r.openGroup opening start verbose)
      (r'.openGroup opening start' verbose') :=
  h.write (.group ⟨rfl, hverbose, rfl, rfl⟩ h.frames) .plain

theorem openCapture (h : Prefaced extra flags flags' r r') (start start' : Nat)
    (name : Option (List Char)) :
    Prefaced extra flags flags' (r.openCapture start name) (r'.openCapture start' name) := by
  have hnamed : ∀ known known', known = known' → Prefaced extra flags flags'
      { r with widths := r.widths ++ [none], names := known }
      { r' with widths := r'.widths ++ [none], names := known' } :=
    fun _ _ hknown => { h with widths := by rw [h.widths], names := hknown }
  unfold Reader.openCapture
  dsimp only
  rw [h.names, h.widths]
  rw [h.widths] at hnamed
  exact (hnamed _ _ rfl).openGroup _ start start' h.frames.verbose

theorem nextBranch (h : Prefaced extra flags flags' r r') (here here' : Nat) :
    Agrees (Prefaced extra flags flags') (r.nextBranch here) (r'.nextBranch here') := by
  -- both or none are conditionals that have their branches
  have hfull : (∀ index, r.frame.opening = .conditional index → r.frame.branches = []) ↔
      ∀ index, r'.frame.opening = .conditional index → r'.frame.branches = [] := by
    rw [h.frames.opening]
    refine forall_congr' fun index => imp_congr_right fun hopening => ?_
    rw [h.frames.branches (by rw [hopening]; nofun)]
  by_cases hroom : ∀ index, r'.frame.opening = .conditional index → r'.frame.branches = []
  · have hverbose : (if r.frame.opening = .whole then r.flags.verbose else r.frame.verbose) =
        if r'.frame.opening = .whole then r'.flags.verbose else r'.frame.verbose := by
      rw [h.verbose, h.frames.verbose, h.frames.opening]
    have hstacks := h.frames.nextBranch
      (if r'.frame.opening = .whole then r'.flags.verbose else r'.frame.verbose)
    rw [nextBranch_eq_ok (hfull.mpr hroom), nextBranch_eq_ok hroom, hverbose]
    exact .ok (h.write hstacks .plain)
  · exact .of_ne_ok (fun s hs => hroom (hfull.mp fun index => branches_of_nextBranch hs))
      fun s hs => hroom fun index => branches_of_nextBranch hs

theorem closeGroup (h : Prefaced extra flags flags' r r') (here here' : Nat) :
    Agrees (Prefaced extra flags flags') (r.closeGroup here) (r'.closeGroup here') := by
  have hstacks := h.frames
  unfold Reader.closeGroup
  generalize r.frame = f, r.outer = gs at hstacks
  generalize r'.frame = f', r'.outer = gs' at hstacks
  cases hstacks with
  | whole => exact .error
  | @group _ _ g g' gs gs' hlike houter =>
    have hback := h.write houter h.mode
    have hbody := hlike.body
    have hwidth : f.body.width r.widths = f'.body.width r'.widths := by rw [hbody, h.widths]
    dsimp only
    rw [hlike.opening]
    split
    · exact .error
    · rename_i index _
      have hclosed : Prefaced extra flags flags'
          { r with
            frame := g
            outer := gs
            widths := r.widths.set (index - 1) (some (f.body.width r.widths)) }
          { r' with
            frame := g'
            outer := gs'
            widths := r'.widths.set (index - 1) (some (f'.body.width r'.widths)) } :=
        { hback with widths := by rw [hwidth, h.widths] }
      exact .ok (hclosed.push_of_eq (by rw [hbody]))
    · exact .ok (hback.push_of_eq (by rw [hbody]))
    · exact .ok (hback.push_of_eq (by rw [hbody]))
    · exact .ok (hback.push_of_eq (by rw [hbody]))
    · rename_i negated behind _
      have hclosed : Prefaced extra flags flags'
          { r with frame := g, outer := gs, behind } { r' with frame := g', outer := gs', behind } :=
        { hback with behind := rfl }
      exact .ok (hclosed.push_of_eq (by rw [hwidth, hbody]))
    · exact .ok (hback.push_of_eq hbody)

/-! ## References, names and flags -/

theorem isClosed_eq (h : Prefaced extra flags flags' r r') (index : Nat) :
    r.isClosed index = r'.isClosed index := by
  rw [isClosed, isClosed, h.widths]

theorem checkBehind (h : Prefaced extra flags flags' r r') (index stop stop' : Nat) :
    Agrees Eq (r.checkBehind index stop) (r'.checkBehind index stop') := by
  unfold Reader.checkBehind
  rw [h.behind, h.isClosed_eq]
  split
  · exact .ok rfl
  · exact .ite .error (.ite .error (.ok rfl))

theorem pushReference (h : Prefaced extra flags flags' r r') (index start stop start' stop' : Nat) :
    Agrees (Prefaced extra flags flags') (r.pushReference index start stop)
      (r'.pushReference index start' stop') := by
  unfold Reader.pushReference
  rw [h.widths, h.isClosed_eq]
  refine .ite .error (.ite .error ?_)
  exact (h.checkBehind index stop stop').bind fun _ _ _ => .ok (h.push _)

theorem conditionIndex (h : Prefaced extra flags flags' r r') (name : List Char)
    (nameStart nameStart' : Nat) :
    Agrees Eq (r.conditionIndex name nameStart) (r'.conditionIndex name nameStart') := by
  unfold Reader.conditionIndex groupNamed?
  rw [h.names]
  refine .ite ?_ ?_
  · split
    · exact .error
    · exact .ok rfl
  · split
    · exact .error
    · exact .error
    · exact .ite .error (.ite .error (.ok rfl))

/-- Whether a condition is new does not depend on where the others were mentioned. -/
theorem lookup_isNone (conditions : List (Nat × Nat)) (index : Nat) :
    (conditions.lookup index).isNone = !(conditions.map Prod.fst).contains index := by
  induction conditions with
  | nil => rfl
  | cons c conditions ih =>
    rw [List.lookup_cons, List.map_cons, List.contains_cons]
    cases hc : index == c.1 with
    | true => rfl
    | false => exact ih

theorem openConditional (h : Prefaced extra flags flags' r r')
    (index start start' nameStart nameStart' : Nat) (named : Bool) :
    Prefaced extra flags flags'
      ({ r with
        conditions :=
          if named && (r.conditions.lookup index).isNone then r.conditions ++ [(index, nameStart)]
          else r.conditions }.openGroup (.conditional index) start r.frame.verbose)
      ({ r' with
        conditions :=
          if named && (r'.conditions.lookup index).isNone then
            r'.conditions ++ [(index, nameStart')]
          else r'.conditions }.openGroup (.conditional index) start' r'.frame.verbose) := by
  have hnew : (r.conditions.lookup index).isNone = (r'.conditions.lookup index).isNone := by
    rw [lookup_isNone, lookup_isNone, h.conditions]
  rw [hnew]
  split
  · have hadded : Prefaced extra flags flags'
        { r with conditions := r.conditions ++ [(index, nameStart)] }
        { r' with conditions := r'.conditions ++ [(index, nameStart')] } :=
      { h with conditions := by rw [List.map_append, List.map_append, h.conditions]; rfl }
    exact hadded.openGroup _ start start' h.frames.verbose
  · exact h.openGroup _ start start' h.frames.verbose

theorem closeName (h : Prefaced extra flags flags' r r') (start start' : Nat) (use : NameUse)
    (nameStart nameStart' : Nat) (name : List Char) (here here' : Nat) :
    Agrees (Prefaced extra flags flags') (r.closeName start use nameStart name here)
      (r'.closeName start' use nameStart' name here') := by
  unfold Reader.closeName
  refine .ite .error ?_
  cases use with
  | capture =>
    refine .ite .error ?_
    unfold groupNamed?
    rw [h.names]
    split
    · exact .error
    · exact .ok (h.openCapture start start' (some name))
  | reference =>
    refine .ite .error ?_
    unfold groupNamed?
    rw [h.names]
    split
    · exact .error
    · rw [h.isClosed_eq]
      refine .ite .error ?_
      exact (h.checkBehind _ _ _).bind fun _ _ _ => .ok (h.push _)
  | conditional =>
    refine (h.conditionIndex name nameStart nameStart').bind ?_
    rintro index _ rfl
    refine (h.checkBehind index _ _).bind fun _ _ _ => .ok ?_
    exact h.openConditional index start start' nameStart nameStart' (!isIdentifier name)

theorem agrees_addFlag (on : List FlagLetter) (letter : FlagLetter) (stop stop' : Nat) :
    Agrees Eq (addFlag on letter stop) (addFlag on letter stop') :=
  .ite .error (.ite .error (.ok rfl))

theorem changed_globalChange (h : Prefaced extra flags flags' r r') (on : List FlagLetter) :
    ∃ change : FlagChange, change.verbose ≠ some false ∧
      (globalChange on).apply r.flags = change.apply flags ∧
      (globalChange on).apply r'.flags = change.apply flags' := by
  obtain ⟨change, hchange, hflags, hflags'⟩ := h.changed
  refine ⟨change.andThen (globalChange on), ?_, ?_, ?_⟩
  · have hletters := verbose_globalChange on
    change (globalChange on).verbose.or change.verbose ≠ some false
    cases hbit : (globalChange on).verbose with
    | none => exact hchange
    | some bit =>
      rw [hbit] at hletters
      exact hletters
  · rw [hflags, FlagChange.apply_andThen]
  · rw [hflags', FlagChange.apply_andThen]

/-- Flags for the whole expression come before everything, so there are no anchors. -/
theorem setGlobalFlags (h : Prefaced extra flags flags' r r') (start start' : Nat)
    (on : List FlagLetter) :
    Follows (Prefaced extra flags flags') (r.setGlobalFlags start on)
      (r'.setGlobalFlags start' on) := by
  intro s hs
  obtain ⟨hbegun, rfl⟩ := setGlobalFlags_ok hs
  obtain ⟨hbegun', hstacks⟩ := h.frames.of_isBegun_eq_false hbegun
  have hverbose : ((globalChange on).apply r.flags).verbose =
      ((globalChange on).apply r'.flags).verbose :=
    congrArg (Option.getD (globalChange on).verbose) h.verbose
  refine ⟨_, setGlobalFlags_eq_ok hbegun' start' on, ?_⟩
  exact { h with
    changed := h.changed_globalChange on
    unicode := by rw [h.unicode]
    verbose := hverbose
    frames := hverbose ▸ hstacks _
    mode := .plain }

theorem openScoped (h : Prefaced extra flags flags' r r') (start start' : Nat)
    (on off : List FlagLetter) (here here' : Nat) :
    Agrees (Prefaced extra flags flags') (r.openScoped start on off here)
      (r'.openScoped start' on off here') := by
  refine .ite .error (.ite .error (.ok ?_))
  exact h.openGroup _ start start' (by rw [h.frames.verbose])

theorem readFlagOn (h : Prefaced extra flags flags' r r') (start start' : Nat)
    (on : List FlagLetter) (here here' : Nat) {t : Token} (ht : t ≠ .char ')') :
    Agrees (Prefaced extra flags flags') (r.readFlagOn start on here t)
      (r'.readFlagOn start' on here' t) := by
  unfold Reader.readFlagOn
  split
  · exact absurd rfl ht
  · exact .ite .error (h.openScoped start start' on [] here here')
  · exact .ite .error (.ok (h.enter (.flagsOff start start' on [])))
  · split
    · refine (agrees_addFlag on _ _ _).bind ?_
      rintro letters _ rfl
      exact .ok (h.enter (.flagsOn start start' letters))
    · exact .error
  · exact .error

theorem readFlagOff (h : Prefaced extra flags flags' r r') (start start' : Nat)
    (on off : List FlagLetter) (here here' : Nat) (t : Token) :
    Agrees (Prefaced extra flags flags') (r.readFlagOff start on off here t)
      (r'.readFlagOff start' on off here' t) := by
  unfold Reader.readFlagOff
  cases t with
  | escaped c => exact .error
  | char c =>
    refine .ite (h.openScoped start start' on off here here') ?_
    dsimp only
    split
    · exact .ite .error (.ok (h.enter (.flagsOff start start' on _)))
    · exact .error

/-! ## Tokens -/

theorem pushMeaning (h : Prefaced extra flags flags' r r') (m : Meaning)
    (start stop start' stop' : Nat) :
    Agrees (Prefaced extra flags flags') (r.pushMeaning m start stop)
      (r'.pushMeaning m start' stop') := by
  cases m with
  | code n => exact .ok (h.push (.code n))
  | reference index => exact h.pushReference index start stop start' stop'

theorem readEscape (h : Prefaced extra flags flags' r r') (c : Char) (here here' : Nat) :
    Agrees (Prefaced extra flags flags') (r.readEscape c here) (r'.readEscape c here') := by
  unfold Reader.readEscape
  split
  · exact .ok (h.push _)
  · exact .ok (h.push _)
  · exact .ok (h.push _)
  · exact .ok (h.enter (.escape here here' _))
  · refine .ite (.ok (h.enter (.escape here here' _))) ?_
    refine .ite (.ok (h.enter (.escape here here' _))) ?_
    exact .ite .error (.ok (h.push _))

theorem openBehind (h : Prefaced extra flags flags' r r') (start start' : Nat) (negated : Bool) :
    Prefaced extra flags flags' (r.openBehind start negated) (r'.openBehind start' negated) := by
  have hbehind : Prefaced extra flags flags'
      { r with behind := some (r.behind.getD r.widths.length) }
      { r' with behind := some (r'.behind.getD r'.widths.length) } :=
    { h with behind := by rw [h.behind, h.widths] }
  unfold Reader.openBehind
  rw [h.behind] at hbehind ⊢
  exact hbehind.openGroup _ start start' h.frames.verbose

theorem readExtension (h : Prefaced extra flags flags' r r') (start start' here here' : Nat)
    (t : Token) :
    Agrees (Prefaced extra flags flags') (r.readExtension start here t)
      (r'.readExtension start' here' t) := by
  have hgroup : ∀ opening, Prefaced extra flags flags'
      (r.openGroup opening start r.frame.verbose) (r'.openGroup opening start' r'.frame.verbose) :=
    fun opening => h.openGroup opening start start' h.frames.verbose
  unfold Reader.readExtension
  cases t with
  | escaped c => exact .error
  | char c =>
    dsimp only
    split
    · exact .ok (h.enter (.extensionP start start'))
    · exact .ok (hgroup _)
    · exact .ok (h.enter (.comment start start'))
    · exact .ok (hgroup _)
    · exact .ok (hgroup _)
    · exact .ok (h.enter (.lookBehind start start'))
    · exact .ok (h.enter (.name start start' .conditional _ _ []))
    · exact .ok (hgroup _)
    · exact .ok (h.enter (.flagsOff start start' [] []))
    · split
      · refine (agrees_addFlag [] _ _ _).bind ?_
        rintro letters _ rfl
        exact .ok (h.enter (.flagsOn start start' letters))
      · exact .error

section

variable (hextra : ∀ item ∈ extra, item = .assertion .lineStart)

include hextra

theorem readPlain (h : Prefaced extra flags flags' r r') (here here' : Nat) (t : Token) :
    Agrees (Prefaced extra flags flags') (r.readPlain here t) (r'.readPlain here' t) := by
  cases t with
  | escaped c => exact h.readEscape c here here'
  | char c =>
    unfold Reader.readPlain
    dsimp only
    rw [h.frames.verbose]
    refine .ite (.ok (h.enter .plain)) (.ite (.ok (h.enter .lineComment)) ?_)
    split
    · exact h.nextBranch here here'
    · exact h.closeGroup here here'
    · exact .ok (h.enter (.opening here here'))
    · exact .ok (h.enter (.set here here' false [] (.refl .opened)))
    · exact .ok (h.enter (.counting here here' [] none))
    · exact .ok (h.push .any)
    · exact .ok (h.push (.assertion .lineStart))
    · exact .ok (h.push (.assertion .lineEnd))
    · exact h.repeatLast hextra here here' 0 none
    · exact h.repeatLast hextra here here' 1 none
    · exact h.repeatLast hextra here here' 0 (some 1)
    · exact .ok (h.push (.code c.toNat))

theorem readCount (h : Prefaced extra flags flags' r r') (start start' : Nat) (low : List Char)
    (high : Option (List Char)) (here here' : Nat) (t : Token) :
    Agrees (Prefaced extra flags flags') (r.readCount start low high here t)
      (r'.readCount start' low high here' t) := by
  have hbrace := (h.pushBrace low high).readPlain hextra here here' t
  unfold Reader.readCount
  cases t with
  | escaped c => exact hbrace
  | char c =>
    refine .ite ?_ (.ite ?_ (.ite ?_ hbrace))
    · cases high <;> exact .ok (h.enter (.counting start start' _ _))
    · exact .ok (h.enter (.counting start start' _ _))
    · exact h.repeatCounted hextra start start' low high

variable [CharacterNames]

/-- Both take a token that ends no flags, or none does. -/
theorem readToken (h : Prefaced extra flags flags' r r') (here here' : Nat) {t : Token}
    (ht : ¬ r'.EndsFlags t) :
    Agrees (Prefaced extra flags flags') (r.readToken here t) (r'.readToken here' t) := by
  have hmode := h.mode
  unfold EndsFlags at ht
  unfold Reader.readToken
  generalize r.mode = mode at hmode
  generalize r'.mode = mode' at hmode ht
  cases hmode with
  | plain => exact h.readPlain hextra here here' t
  | lineComment =>
    refine .ok ?_
    split
    · exact h.enter .plain
    · exact h
  | repeated =>
    dsimp only
    split
    · exact .ok (h.changeGreed hextra .lazy)
    · exact .ok (h.changeGreed hextra .possessive)
    · exact (h.enter .plain).readPlain hextra here here' t
  | counting start start' low high => exact h.readCount hextra start start' low high here here' t
  | escape start start' e =>
    refine (Agrees.of_toOption (e.toOption_feed t start here start' here')).bind ?_
    rintro fed _ rfl
    cases fed with
    | more e => exact .ok (h.enter (.escape start start' e))
    | ended m => exact h.pushMeaning m _ _ _ _
    | before m =>
      exact (h.pushMeaning m _ _ _ _).bind fun _ _ hread => hread.readPlain hextra here here' t
  | @set start start' negated items phase phase' hphase =>
    have hopened : phase = .opened ↔ phase' = .opened := by
      cases hphase <;> simp
    simp only [hopened]
    refine .ite (.ok (h.enter (.set start start' true [] (.refl .member)))) ?_
    refine (agrees_readSet items hphase here here' t).bind ?_
    intro read read' hread
    cases hread with
    | ended items => exact .ok (h.push (setOf negated items))
    | more items hphase => exact .ok (h.enter (.set start start' negated items hphase))
  | opening start start' =>
    refine .ite (.ok (h.enter (.extension start start'))) ?_
    exact (h.openCapture start start' none).readPlain hextra here here' t
  | extension start start' => exact h.readExtension start start' here here' t
  | extensionP start start' =>
    dsimp only
    split
    · exact .ok (h.enter (.name start start' .capture _ _ []))
    · exact .ok (h.enter (.name start start' .reference _ _ []))
    · exact .error
  | lookBehind start start' =>
    dsimp only
    split
    · exact .ok (h.openBehind start start' false)
    · exact .ok (h.openBehind start start' true)
    · exact .error
  | name start start' use nameStart nameStart' text =>
    refine .ite (h.closeName start start' use nameStart nameStart' text here here') ?_
    exact .ok (h.enter (.name start start' use nameStart nameStart' _))
  | comment start start' =>
    refine .ok ?_
    split
    · exact h.enter .plain
    · exact h
  | flagsOn start start' on =>
    exact h.readFlagOn start start' on here here' fun hclose => ht ⟨start', on, rfl, hclose⟩
  | flagsOff start start' on off => exact h.readFlagOff start start' on off here here' t

theorem step (h : Prefaced extra flags flags' r r') {t : Token} (ht : ¬ r'.EndsFlags t) :
    Agrees (Prefaced extra flags flags') (r.step t) (r'.step t) :=
  (h.readToken hextra r.position r'.position ht).bind fun _ _ hread =>
    .ok (hread.move (r.position + t.length) (r'.position + t.length))

/-- What the first reader takes, the second does. -/
theorem follows_step (h : Prefaced extra flags flags' r r') (t : Token) :
    Follows (Prefaced extra flags flags') (r.step t) (r'.step t) := by
  by_cases ht : r'.EndsFlags t
  · obtain ⟨start', on, hmode', rfl⟩ := ht
    have hmode := h.mode
    rw [hmode'] at hmode
    generalize hstart : r.mode = mode at hmode
    cases hmode with
    | flagsOn start =>
      unfold Reader.step
      simp only [Reader.readToken, hstart, hmode']
      exact (h.setGlobalFlags start start' on).bind fun _ _ hread =>
        Agrees.follows (.ok (hread.move _ _))
  · exact (h.step hextra ht).follows

/-- **What can be read behind anchors can be read without them.** -/
theorem readTokens (h : Prefaced extra flags flags' r r') (ts : List Token) :
    Follows (Prefaced extra flags flags') (r.readTokens ts) (r'.readTokens ts) := by
  unfold Reader.readTokens
  induction ts generalizing r r' with
  | nil => exact Agrees.follows (.ok h)
  | cons t ts ih =>
    rw [List.foldlM_cons, List.foldlM_cons]
    exact (h.follows_step hextra t).bind fun _ _ hstep => ih hstep

end

/-! ## The end of the text -/

theorem closeMode (h : Prefaced extra flags flags' r r') :
    Agrees (Prefaced extra flags flags') r.closeMode r'.closeMode := by
  have hmode := h.mode
  generalize hm : r.mode = mode at hmode
  generalize hm' : r'.mode = mode' at hmode
  cases hmode with
  | plain | lineComment | repeated =>
    simp only [Reader.closeMode, hm, hm']
    exact .ok h
  | counting start start' low high =>
    simp only [Reader.closeMode, hm, hm']
    exact .ok (h.pushBrace low high)
  | escape start start' e =>
    simp only [Reader.closeMode, hm, hm']
    refine (Agrees.of_toOption (e.toOption_finish start _ start' _)).bind ?_
    rintro m _ rfl
    exact h.pushMeaning m _ _ _ _
  | set => exact .of_ne_ok (closeMode_set_ne_ok hm) (closeMode_set_ne_ok hm')
  | name start start' use nameStart nameStart' text =>
    simp only [Reader.closeMode, hm, hm']
    exact .ite .error .error
  | opening | extension | extensionP | lookBehind | comment | flagsOn | flagsOff =>
    simp only [Reader.closeMode, hm, hm']
    exact .error

end Prefaced

end Reader

end Regex

end RouteTree
