import RouteTree.Regex.Escape

/-!
# Reading regular expressions

The reader is a machine that takes one token at a time. Its state is the group it is in, the groups
around that, what is known about the groups so far, and a `Mode` that says which construct, if any,
the last tokens have left open. Reading a text is a left fold, so what is read before and after a
token can be told apart in proofs: `Reader.readTokens_append`.

Where the token that closes a construct is not part of it, the construct is closed first and the
token is read as an ordinary one.
-/

namespace RouteTree.Regex

open Text

variable [CharacterNames]

/-- What kind of group is open. -/
inductive Opening where
  /-- The whole expression. -/
  | whole
  | capture (index : Nat)
  | scoped (change : FlagChange)
  | atomic
  | ahead (negated : Bool)
  /-- A look behind; `outer` is what `Reader.behind` was before it. -/
  | behind (negated : Bool) (outer : Option Nat)
  | conditional (index : Nat)
deriving DecidableEq, Repr

/-- An open group. -/
structure Frame where
  opening : Opening
  /-- Where its parenthesis stands. -/
  start : Nat
  /-- Are blanks and comments skipped in it? -/
  verbose : Bool
  /-- The branches that are complete, last first. -/
  branches : List Regex := []
  /-- The items of the branch being read, last first. -/
  items : List Regex := []
deriving DecidableEq, Repr

/-- What the branches of a group come to. -/
def Frame.body (f : Frame) : Regex :=
  match f.opening with
  | .conditional index =>
    match f.branches with
    | [] => .conditional index (sequence f.items.reverse) .empty
    | present :: _ => .conditional index present (sequence f.items.reverse)
  | _ => choice f.branches.reverse (sequence f.items.reverse)

/-- An inline flag letter. -/
inductive FlagLetter where
  | ignoreCase
  | locale
  | multiline
  | dotAll
  | verbose
  | ascii
  | template
  | unicode
deriving DecidableEq, Repr

/-- The flag a letter stands for. -/
def flagLetter? : Char → Option FlagLetter
  | 'i' => some .ignoreCase
  | 'L' => some .locale
  | 'm' => some .multiline
  | 's' => some .dotAll
  | 'x' => some .verbose
  | 'a' => some .ascii
  | 't' => some .template
  | 'u' => some .unicode
  | _ => none

/-- Flags of which a group can have only one. -/
def FlagLetter.isType : FlagLetter → Bool
  | .ascii | .locale | .unicode => true
  | _ => false

/-- Turns one flag on or off. -/
def FlagLetter.write (on : Bool) (change : FlagChange) : FlagLetter → FlagChange
  | .ignoreCase => { change with ignoreCase := some on }
  | .multiline => { change with multiline := some on }
  | .dotAll => { change with dotAll := some on }
  | .verbose => { change with verbose := some on }
  | .ascii => { change with ascii := some on }
  | .unicode => { change with ascii := some (!on) }
  | .template => { change with template := some on }
  | .locale => change

/-- The change that turns the first letters on and then the second off. -/
def changeOfLetters (on off : List FlagLetter) : FlagChange :=
  off.foldl (FlagLetter.write false) (on.foldl (FlagLetter.write true) {})

/-- The change that flags for the whole expression make. They only ever turn flags on. -/
def globalChange (on : List FlagLetter) : FlagChange := changeOfLetters (on.filter (· != .unicode)) []

/-- What a name between brackets is for. -/
inductive NameUse where
  | capture
  | reference
  | conditional
deriving DecidableEq, Repr

/-- The character that ends a name. -/
def NameUse.terminator : NameUse → Char
  | .capture => '>'
  | .reference | .conditional => ')'

/-- A member of a set that may still become the lower end of a range, and how it was begun. -/
structure Lower where
  item : SetItem
  text : List Char
deriving DecidableEq, Repr

/-- What a set expects next. -/
inductive SetPhase where
  /-- The set has just been opened. -/
  | opened
  /-- A member, or the end. -/
  | member
  /-- A hyphen, if the member just read begins a range. -/
  | after (lower : Lower)
  /-- The upper end of a range. -/
  | upper (lower : Lower)
  /-- More of an escape, which is a member or, given `lower`, the upper end of a range. -/
  | escape (lower : Option Lower) (letter : Char) (start : Nat) (e : Escape)
deriving DecidableEq, Repr

/-- The construct that is open besides the groups. -/
inductive Mode where
  | plain
  /-- A comment up to the end of the line. -/
  | lineComment
  /-- A repetition has just been read and may still become lazy or possessive. -/
  | repeated
  /-- The braces of a repetition. -/
  | counting (start : Nat) (low : List Char) (high : Option (List Char))
  | escape (start : Nat) (e : Escape)
  | set (start : Nat) (negated : Bool) (items : List SetItem) (phase : SetPhase)
  /-- After a parenthesis. -/
  | opening (start : Nat)
  /-- After `(?` -/
  | extension (start : Nat)
  /-- After `(?P` -/
  | extensionP (start : Nat)
  /-- After `(?<` -/
  | lookBehind (start : Nat)
  | name (start : Nat) (use : NameUse) (nameStart : Nat) (text : List Char)
  /-- A comment group. -/
  | comment (start : Nat)
  /-- Inline flags that are turned on. -/
  | flagsOn (start : Nat) (on : List FlagLetter)
  /-- Inline flags that are turned off; none of them has been read if `off` is empty. -/
  | flagsOff (start : Nat) (on off : List FlagLetter)
deriving DecidableEq, Repr

/-- The state of reading. -/
structure Reader where
  /-- The number of characters read. -/
  position : Nat
  flags : Flags
  frame : Frame
  /-- The groups around `frame`, innermost first. -/
  outer : List Frame
  /-- For each group, in order, its width once it is closed. -/
  widths : List (Option Width)
  /-- The named groups. -/
  names : List (List Char × Nat)
  /-- Inside a look behind, the number of groups that were opened before it. -/
  behind : Option Nat
  /-- The groups that conditionals ask for by number, with the position of the first mention. -/
  conditions : List (Nat × Nat)
  /-- Do flags for the whole expression ask for Unicode? -/
  unicode : Bool
  mode : Mode
deriving DecidableEq, Repr

namespace Reader

/-- The state before the first token. -/
def initial (flags : Flags) : Reader where
  position := 0
  flags := flags
  frame := { opening := .whole, start := 0, verbose := flags.verbose }
  outer := []
  widths := []
  names := []
  behind := none
  conditions := []
  unicode := false
  mode := .plain

/-- Appends an item to the branch being read. -/
def push (r : Reader) (item : Regex) : Reader :=
  { r with frame := { r.frame with items := item :: r.frame.items }, mode := .plain }

/-- Goes on in another mode. -/
def enter (r : Reader) (mode : Mode) : Reader := { r with mode := mode }

/-- Refuses the text. -/
def refuse {α : Type} (cause : Cause) (position : Nat) : Except ReadError α :=
  .error ⟨cause, some position⟩

/-! ### Repetitions -/

/-- A repetition must be written with fewer than this many times. -/
def repetitionBound : Nat := Nat.pow 2 32 - 1

/-- Repeats the last item; the repetition is written at `start`. -/
def repeatLast (r : Reader) (start least : Nat) (most : Option Nat) : Except ReadError Reader :=
  match r.frame.items with
  | [] | .assertion _ :: _ => refuse .nothingToRepeat start
  | .iterate _ _ _ _ :: _ => refuse .multipleRepeat start
  | item :: rest =>
    .ok { r with
      frame := { r.frame with items := .iterate .greedy least most item :: rest }
      mode := .repeated }

/-- Changes the order in which the repetition just read tries its counts. -/
def changeGreed (r : Reader) (greed : Greed) : Reader :=
  match r.frame.items with
  | .iterate _ least most item :: rest =>
    { r with
      frame := { r.frame with items := .iterate greed least most item :: rest }
      mode := .plain }
  | _ => { r with mode := .plain }

/-- The braces turned out to be none of a repetition: they and what follows them stand for
themselves. -/
def pushBrace (r : Reader) (low : List Char) (high : Option (List Char)) : Reader :=
  let text := '{' :: low ++ (match high with | none => [] | some h => ',' :: h)
  text.foldl (fun r c => r.push (.code c.toNat)) r

/-- A repetition between braces is complete. Without a comma the two bounds are one. -/
def repeatCounted (r : Reader) (start : Nat) (low : List Char) (high : Option (List Char)) :
    Except ReadError Reader := do
  let upper := high.getD low
  let least := numeral 10 low
  let most := if upper.isEmpty then none else some (numeral 10 upper)
  if repetitionBound ≤ least then refuse .repetitionTooLarge start
  if repetitionBound ≤ most.getD 0 then refuse .repetitionTooLarge start
  if (most.map (decide <| · < least)).getD false then refuse .leastAboveMost (start + 1)
  r.repeatLast start least most

/-! ### Groups -/

/-- Opens a group. -/
def openGroup (r : Reader) (opening : Opening) (start : Nat) (verbose : Bool) : Reader :=
  { r with
    outer := r.frame :: r.outer
    frame := { opening, start, verbose }
    mode := .plain }

/-- Opens a group that captures, and names it if a name is given. -/
def openCapture (r : Reader) (start : Nat) (name : Option (List Char)) : Reader :=
  let index := r.widths.length + 1
  let names := match name with
    | none => r.names
    | some n => (n, index) :: r.names
  { r with widths := r.widths ++ [none], names }.openGroup (.capture index) start r.frame.verbose

/-- Begins the next branch, at a bar that stands at `here`. -/
def nextBranch (r : Reader) (here : Nat) : Except ReadError Reader :=
  match r.frame.opening, r.frame.branches with
  | .conditional _, _ :: _ => refuse .tooManyBranches here
  | opening, branches =>
    .ok { r with
      frame := { r.frame with
        branches := sequence r.frame.items.reverse :: branches
        items := []
        verbose := if opening = .whole then r.flags.verbose else r.frame.verbose }
      mode := .plain }

/-- Do the flags of the whole expression ask for ASCII and for Unicode? -/
def clashes (r : Reader) : Bool := r.unicode && r.flags.ascii

/-- What is wrong with a parenthesis that closes no group. Clashing flags are told first. -/
def unbalanced (r : Reader) (here : Nat) : ReadError :=
  if r.clashes then ⟨.asciiAndUnicode, none⟩ else ⟨.unbalancedGroup, some here⟩

/-- Closes the innermost group, at a parenthesis that stands at `here`. -/
def closeGroup (r : Reader) (here : Nat) : Except ReadError Reader :=
  match r.outer with
  | [] => .error (r.unbalanced here)
  | frame :: outer =>
    let body := r.frame.body
    let r' := { r with frame, outer }
    match r.frame.opening with
    | .whole => .error (r.unbalanced here)
    | .capture index =>
      .ok ({ r' with widths := r.widths.set (index - 1) (some (body.width r.widths)) }.push
        (.capture index body))
    | .scoped change => .ok (r'.push (.scoped change body))
    | .atomic => .ok (r'.push (.atomic body))
    | .ahead negated => .ok (r'.push (.ahead negated body))
    | .behind negated behind =>
      .ok ({ r' with behind }.push (.behind negated (body.width r.widths).least body))
    | .conditional _ => .ok (r'.push body)

/-! ### References and names -/

/-- Is the group with this number closed? -/
def isClosed (r : Reader) (index : Nat) : Bool := ((r.widths[index - 1]?).join).isSome

/-- A look behind may not refer to a group that is open or was opened inside it; `stop` is where the
reference ends. -/
def checkBehind (r : Reader) (index stop : Nat) : Except ReadError Unit :=
  match r.behind with
  | none => .ok ()
  | some groups =>
    if !r.isClosed index then refuse .referenceToOpenGroup stop
    else if groups < index then refuse .referenceWithinLookBehind stop
    else .ok ()

/-- Refers to a group by its number. -/
def pushReference (r : Reader) (index start stop : Nat) : Except ReadError Reader := do
  if r.widths.length < index then refuse (.invalidReference index) (start + 1)
  if !r.isClosed index then refuse .referenceToOpenGroup start
  r.checkBehind index stop
  return r.push (.reference index)

/-- The number of the group with a name. -/
def groupNamed? (r : Reader) (name : List Char) : Option Nat := r.names.lookup name

/-- No expression has so many groups. -/
def groupBound : Nat := Nat.pow 2 30 - 1

/-- The number of the group that a conditional asks for, which it names or writes as any number may be
written. -/
def conditionIndex (r : Reader) (name : List Char) (nameStart : Nat) : Except ReadError Nat :=
  if isIdentifier name then
    match r.groupNamed? name with
    | none => refuse (.unknownGroupName name) nameStart
    | some index => .ok index
  else
    match integer? name with
    | none | some (.negSucc _) => refuse (.badGroupName name) nameStart
    | some (.ofNat index) =>
      if index = 0 then refuse .badGroupNumber nameStart
      else if groupBound ≤ index then refuse (.invalidReference index) nameStart
      else .ok index

/-- A name is complete; its closing bracket stands at `here`. -/
def closeName (r : Reader) (start : Nat) (use : NameUse) (nameStart : Nat) (name : List Char)
    (here : Nat) : Except ReadError Reader := do
  if name.isEmpty then refuse (.missingName "group name") here
  match use with
  | .capture =>
    if !isIdentifier name then refuse (.badGroupName name) nameStart
    match r.groupNamed? name with
    | some before => refuse (.redefinedGroup name (r.widths.length + 1) before) nameStart
    | none => return r.openCapture start (some name)
  | .reference =>
    if !isIdentifier name then refuse (.badGroupName name) nameStart
    match r.groupNamed? name with
    | none => refuse (.unknownGroupName name) nameStart
    | some index =>
      if !r.isClosed index then refuse .referenceToOpenGroup nameStart
      r.checkBehind index (here + 1)
      return r.push (.reference index)
  | .conditional =>
    let index ← r.conditionIndex name nameStart
    r.checkBehind index (here + 1)
    let numbered := !isIdentifier name && (r.conditions.lookup index).isNone
    let conditions := if numbered then r.conditions ++ [(index, nameStart)] else r.conditions
    return { r with conditions }.openGroup (.conditional index) start r.frame.verbose

/-! ### Inline flags -/

/-- Adds a flag letter that ends at `stop` to those turned on. -/
def addFlag (on : List FlagLetter) (letter : FlagLetter) (stop : Nat) :
    Except ReadError (List FlagLetter) := do
  if letter = .locale then refuse .localeFlag stop
  if letter.isType && on.any (fun l => l.isType && l != letter) then
    refuse .incompatibleFlags stop
  return on ++ [letter]

/-- Flags for the whole expression, which stand before everything else. -/
def setGlobalFlags (r : Reader) (start : Nat) (on : List FlagLetter) : Except ReadError Reader := do
  let flags := (globalChange on).apply r.flags
  if !r.outer.isEmpty || !r.frame.branches.isEmpty || !r.frame.items.isEmpty then
    refuse .globalFlagsInside start
  return { r with
    flags
    unicode := r.unicode || on.contains .unicode
    frame := { r.frame with verbose := flags.verbose }
    mode := .plain }

/-- Opens a group under changed flags; the colon stands at `here`. -/
def openScoped (r : Reader) (start : Nat) (on off : List FlagLetter) (here : Nat) :
    Except ReadError Reader := do
  if off.contains .template then refuse .globalFlagOff here
  if on.any off.contains then refuse .flagOnAndOff here
  let change := changeOfLetters on off
  return r.openGroup (.scoped change) start (change.verbose.getD r.frame.verbose)

/-- Reads a token among the flags that are turned on. -/
def readFlagOn (r : Reader) (start : Nat) (on : List FlagLetter) (here : Nat) (t : Token) :
    Except ReadError Reader := do
  match t with
  | .char ')' => r.setGlobalFlags start on
  | .char ':' =>
    if on.contains .template then refuse .globalFlagOn here
    r.openScoped start on [] here
  | .char '-' =>
    if on.contains .template then refuse .globalFlagOn here
    return r.enter (.flagsOff start on [])
  | .char c =>
    match flagLetter? c with
    | some letter => return r.enter (.flagsOn start (← addFlag on letter (here + 1)))
    | none => refuse (if isLetter c then .unknownFlag else .missingFlagEnd) here
  | .escaped _ => refuse .missingFlagEnd here

/-- Reads a token among the flags that are turned off. -/
def readFlagOff (r : Reader) (start : Nat) (on off : List FlagLetter) (here : Nat) (t : Token) :
    Except ReadError Reader := do
  let missing := if off.isEmpty then Cause.missingFlag else .missingColon
  match t with
  | .char c =>
    if c == ':' && !off.isEmpty then r.openScoped start on off here
    else
      match flagLetter? c with
      | some letter =>
        if letter.isType then refuse .typeFlagOff (here + 1)
        return r.enter (.flagsOff start on (off ++ [letter]))
      | none => refuse (if isLetter c then .unknownFlag else missing) here
  | .escaped _ => refuse missing here

/-! ### Sets -/

/-- The set as an expression: one code point alone stands for itself. -/
def setOf (negated : Bool) (items : List SetItem) : Regex :=
  match negated, items.eraseDups with
  | false, [.code n] => .code n
  | _, distinct => .set negated distinct

/-- The range from `lower` to `upper`, which ends at `stop`. -/
def rangeOf (lower : Lower) (upper : SetItem) (text : List Char) (stop : Nat) :
    Except ReadError SetItem :=
  let bad := refuse (.badRange lower.text text) (stop - (lower.text.length + 1 + text.length))
  match lower.item, upper with
  | .code low, .code high => if high < low then bad else .ok (.range low high)
  | _, _ => bad

/-- An escape inside a set: its first token says it all, or it goes on. -/
def setEscape (c : Char) (start : Nat) : Except ReadError (SetItem ⊕ Escape) :=
  match controlCode? c, escapedCategory? c, escapeOfLetter? c with
  | some n, _, _ => .ok (.inl (.code n))
  | _, some (category, negated), _ => .ok (.inl (.category category negated))
  | _, _, some e => .ok (.inr e)
  | _, _, _ =>
    if c == 'b' then .ok (.inl (.code 8))
    else if isOctalDigit c then .ok (.inr (.octal [c]))
    else if isAsciiDigit c || isAsciiLetter c then refuse (.badEscape ['\\', c]) start
    else .ok (.inl (.code c.toNat))

/-- A member has been read: it begins a range or, given `lower`, ends one. -/
def afterMember (items : List SetItem) (lower : Option Lower) (item : SetItem) (text : List Char)
    (stop : Nat) : Except ReadError (List SetItem × SetPhase) :=
  match lower with
  | none => .ok (items, .after ⟨item, text⟩)
  | some l => do return (items ++ [← rangeOf l item text stop], .member)

/-- Reads a member of a set, or its end, at `here`. The end is `none`. -/
def readMember (items : List SetItem) (lower : Option Lower) (here : Nat) (t : Token) :
    Except ReadError (List SetItem × Option SetPhase) := do
  match t with
  | .escaped c =>
    match ← setEscape c here with
    | .inl item =>
      let (items, phase) ← afterMember items lower item t.chars (here + 2)
      return (items, some phase)
    | .inr e => return (items, some (.escape lower c here e))
  | .char c =>
    match c, lower with
    | ']', some l => return (items ++ [l.item, .code '-'.toNat], none)
    | ']', none =>
      if items.isEmpty then return (items, some (.after ⟨.code c.toNat, [c]⟩))
      else return (items, none)
    | _, _ =>
      let (items, phase) ← afterMember items lower (.code c.toNat) [c] (here + 1)
      return (items, some phase)

/-- Reads a token where a set expects a hyphen or its next member. -/
def readAfter (items : List SetItem) (lower : Lower) (here : Nat) (t : Token) :
    Except ReadError (List SetItem × Option SetPhase) :=
  if t = .char '-' then .ok (items, some (.upper lower))
  else readMember (items ++ [lower.item]) none here t

/-- The member that an escape of several tokens stands for. No group is referred to in a set. -/
def Meaning.item : Meaning → SetItem
  | .code n | .reference n => .code n

/-- Reads a token inside a set. -/
def readSet (items : List SetItem) (phase : SetPhase) (here : Nat) (t : Token) :
    Except ReadError (List SetItem × Option SetPhase) := do
  match phase with
  | .opened | .member => readMember items none here t
  | .after lower => readAfter items lower here t
  | .upper lower => readMember items (some lower) here t
  | .escape lower letter start e =>
    match ← e.feed start here t with
    | .more e => return (items, some (.escape lower letter start e))
    | .ended m =>
      let (items, phase) ← afterMember items lower (Meaning.item m) ['\\', letter] (here + t.length)
      return (items, some phase)
    | .before m =>
      let (items, phase) ← afterMember items lower (Meaning.item m) ['\\', letter] here
      match phase with
      | .after lower => readAfter items lower here t
      | _ => readMember items none here t

/-! ### One token -/

/-- Reads an escape that begins outside sets. -/
def readEscape (r : Reader) (c : Char) (here : Nat) : Except ReadError Reader :=
  match escapedAssertion? c, escapedCategory? c, controlCode? c, escapeOfLetter? c with
  | some a, _, _, _ => .ok (r.push (.assertion a))
  | _, some (category, negated), _, _ => .ok (r.push (.set false [.category category negated]))
  | _, _, some n, _ => .ok (r.push (.code n))
  | _, _, _, some e => .ok (r.enter (.escape here e))
  | _, _, _, _ =>
    if c == '0' then .ok (r.enter (.escape here (.octal [c])))
    else if isAsciiDigit c then .ok (r.enter (.escape here (.number [c])))
    else if isAsciiLetter c then refuse (.badEscape ['\\', c]) here
    else .ok (r.push (.code c.toNat))

/-- Reads a token that no open construct claims. -/
def readPlain (r : Reader) (here : Nat) (t : Token) : Except ReadError Reader :=
  match t with
  | .escaped c => r.readEscape c here
  | .char c =>
    if r.frame.verbose && isAsciiSpace c then .ok (r.enter .plain)
    else if r.frame.verbose && c == '#' then .ok (r.enter .lineComment)
    else
      match c with
      | '|' => r.nextBranch here
      | ')' => r.closeGroup here
      | '(' => .ok (r.enter (.opening here))
      | '[' => .ok (r.enter (.set here false [] .opened))
      | '{' => .ok (r.enter (.counting here [] none))
      | '.' => .ok (r.push .any)
      | '^' => .ok (r.push (.assertion .lineStart))
      | '$' => .ok (r.push (.assertion .lineEnd))
      | '*' => r.repeatLast here 0 none
      | '+' => r.repeatLast here 1 none
      | '?' => r.repeatLast here 0 (some 1)
      | _ => .ok (r.push (.code c.toNat))

/-- The expression goes on with what an escape of several tokens stands for. -/
def pushMeaning (r : Reader) (m : Meaning) (start stop : Nat) : Except ReadError Reader :=
  match m with
  | .code n => .ok (r.push (.code n))
  | .reference index => r.pushReference index start stop

/-- Reads a token between the braces of a repetition. -/
def readCount (r : Reader) (start : Nat) (low : List Char) (high : Option (List Char)) (here : Nat)
    (t : Token) : Except ReadError Reader :=
  match t with
  | .escaped _ => (r.pushBrace low high).readPlain here t
  | .char c =>
    if isAsciiDigit c then
      match high with
      | none => .ok (r.enter (.counting start (low ++ [c]) none))
      | some h => .ok (r.enter (.counting start low (some (h ++ [c]))))
    else if c == ',' && high.isNone then .ok (r.enter (.counting start low (some [])))
    else if c == '}' && !(low.isEmpty && high.isNone) then r.repeatCounted start low high
    else (r.pushBrace low high).readPlain here t

/-- Reads the token after `(?`. -/
def readExtension (r : Reader) (start here : Nat) (t : Token) : Except ReadError Reader := do
  let unknown : Except ReadError Reader := refuse (.unknownExtension ('?' :: t.chars)) (start + 1)
  match t with
  | .escaped _ => unknown
  | .char c =>
    match c with
    | 'P' => return r.enter (.extensionP start)
    | ':' => return r.openGroup (.scoped {}) start r.frame.verbose
    | '#' => return r.enter (.comment start)
    | '=' => return r.openGroup (.ahead false) start r.frame.verbose
    | '!' => return r.openGroup (.ahead true) start r.frame.verbose
    | '<' => return r.enter (.lookBehind start)
    | '(' => return r.enter (.name start .conditional (here + 1) [])
    | '>' => return r.openGroup .atomic start r.frame.verbose
    | '-' => return r.enter (.flagsOff start [] [])
    | _ =>
      match flagLetter? c with
      | some letter => return r.enter (.flagsOn start (← addFlag [] letter (here + 1)))
      | none => unknown

/-- Opens a look behind. Inside an outer one, references keep to the groups before that. -/
def openBehind (r : Reader) (start : Nat) (negated : Bool) : Reader :=
  { r with behind := some (r.behind.getD r.widths.length) }.openGroup
    (.behind negated r.behind) start r.frame.verbose

/-- Reads the token at `here`. -/
def readToken (r : Reader) (here : Nat) (t : Token) : Except ReadError Reader := do
  match r.mode with
  | .plain => r.readPlain here t
  | .lineComment => return if t = .char '\n' then r.enter .plain else r
  | .repeated =>
    match t with
    | .char '?' => return r.changeGreed .lazy
    | .char '+' => return r.changeGreed .possessive
    | _ => (r.enter .plain).readPlain here t
  | .counting start low high => r.readCount start low high here t
  | .escape start e =>
    match ← e.feed start here t with
    | .more e => return r.enter (.escape start e)
    | .ended m => r.pushMeaning m start (here + t.length)
    | .before m => (← r.pushMeaning m start here).readPlain here t
  | .set start negated items phase =>
    if phase = .opened ∧ t = .char '^' then return r.enter (.set start true [] .member)
    match ← readSet items phase here t with
    | (items, some phase) => return r.enter (.set start negated items phase)
    | (items, none) => return r.push (setOf negated items)
  | .opening start =>
    if t = .char '?' then return r.enter (.extension start)
    else (r.openCapture start none).readPlain here t
  | .extension start => r.readExtension start here t
  | .extensionP start =>
    match t with
    | .char '<' => return r.enter (.name start .capture (here + 1) [])
    | .char '=' => return r.enter (.name start .reference (here + 1) [])
    | _ => refuse (.unknownExtension ('?' :: 'P' :: t.chars)) (start + 1)
  | .lookBehind start =>
    match t with
    | .char '=' => return r.openBehind start false
    | .char '!' => return r.openBehind start true
    | _ => refuse (.unknownExtension ('?' :: '<' :: t.chars)) (start + 1)
  | .name start use nameStart text =>
    if t = .char use.terminator then r.closeName start use nameStart text here
    else return r.enter (.name start use nameStart (text ++ t.chars))
  | .comment _ => return if t = .char ')' then r.enter .plain else r
  | .flagsOn start on => r.readFlagOn start on here t
  | .flagsOff start on off => r.readFlagOff start on off here t

/-- Reads one token and moves past it. -/
def step (r : Reader) (t : Token) : Except ReadError Reader := do
  let r' ← r.readToken r.position t
  return { r' with position := r.position + t.length }

/-- Reads tokens one after another. -/
def readTokens (r : Reader) (ts : List Token) : Except ReadError Reader := ts.foldlM step r

theorem readTokens_append (r : Reader) (ts us : List Token) :
    r.readTokens (ts ++ us) = (r.readTokens ts).bind (·.readTokens us) := by
  simp only [readTokens, List.foldlM_append]
  rfl

/-! ### The end of the text -/

/-- Closes the construct that is open at the end, if it can end there. -/
def closeMode (r : Reader) : Except ReadError Reader := do
  let stop := r.position
  match r.mode with
  | .plain | .lineComment | .repeated => return r
  | .counting _ low high => return r.pushBrace low high
  | .escape start e => r.pushMeaning (← e.finish start stop) start stop
  | .set start _ items phase =>
    match phase with
    | .escape lower letter escapeStart e =>
      let m ← e.finish escapeStart stop
      let _ ← afterMember items lower (Meaning.item m) ['\\', letter] stop
      refuse .unterminatedSet start
    | _ => refuse .unterminatedSet start
  | .opening start => refuse .unterminatedGroup start
  | .extension _ | .extensionP _ | .lookBehind _ => refuse .unexpectedEnd stop
  | .name _ use nameStart text =>
    if text.isEmpty then refuse (.missingName "group name") stop
    else refuse (.unterminatedName use.terminator) nameStart
  | .comment start => refuse .unterminatedComment start
  | .flagsOn _ _ => refuse .missingFlagEnd stop
  | .flagsOff _ _ off => refuse (if off.isEmpty then .missingFlag else .missingColon) stop

end Reader

/-- What is wrong with the width of a look behind, if anything. -/
def behindFault? (w : Width) : Option Cause :=
  if Nat.pow 2 32 ≤ w.least then some .lookBehindTooFar
  else if w.least ≠ w.most then some .lookBehindWidth
  else none

/-- Why an expression is refused that has been read to its end, if it is: it looks behind over texts of
several lengths, or repeats something where nothing may be repeated. -/
def fault? (template : Bool) (groups : List (Option Width)) : Regex → Option Cause
  | .empty | .code _ | .any | .set _ _ | .assertion _ | .reference _ => none
  | .cat a b | .alt a b | .conditional _ a b =>
    (a.fault? template groups).or (b.fault? template groups)
  | .iterate greed _ _ body =>
    if template then some (.repeatInTemplate greed) else body.fault? template groups
  | .capture _ body | .scoped _ body | .atomic body | .ahead _ body => body.fault? template groups
  | .behind _ _ body => (behindFault? (body.width groups)).or (body.fault? template groups)

namespace Reader

/-- The expression that has been read, if nothing is left open. -/
def finish (r : Reader) : Except ReadError (Regex × Flags) := do
  let r ← r.closeMode
  if !r.outer.isEmpty then refuse .unterminatedGroup r.frame.start
  if r.clashes then throw ⟨.asciiAndUnicode, none⟩
  match r.conditions.find? (r.widths.length < ·.1) with
  | some (index, position) => refuse (.invalidReference index) position
  | none => pure ()
  match r.frame.body.fault? r.flags.template r.widths with
  | some cause => throw ⟨cause, none⟩
  | none => return (r.frame.body, r.flags)

end Reader

/-- Reads a regular expression under flags, to which it may add. -/
def read (flags : Flags) (text : List Char) : Except ReadError (Regex × Flags) := do
  let (ts, dangling) := tokens text
  let r ← (Reader.initial flags).readTokens ts
  if dangling then throw ⟨.escapeAtEnd, some (text.length - 1)⟩
  r.finish

end RouteTree.Regex
