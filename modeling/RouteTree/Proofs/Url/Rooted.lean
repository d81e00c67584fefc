import RouteTree.Proofs.Template.Joining
import RouteTree.Proofs.Text.Percents
import RouteTree.Proofs.Url.Serving

/-!
# Slashes of paths

**The path of a url has no two slashes side by side if its uri has none** (`pathText_single`). A
placeholder takes the slash before it along, so behind a slash that is text of the uri there is
other text; and a value that is shown has at least one character and, being percent encoded, no
slash.

Whether the path begins with a slash is another matter (`head?_pathText_iff`). A placeholder that is
left out takes its slash with it, and the path begins with what stands behind: text, or a placeholder
without a slash. Only where nothing is left at all the path is a slash.
-/

namespace RouteTree

open Text Template

/-! ## Values that are shown -/

theorem Decimal.render_ne_nil (style : Style) (d : Decimal) : render style d ≠ [] := by
  unfold render
  dsimp only
  split
  · split <;> simp
  · simp

theorem Binary64.text_ne_empty (x : Binary64) : x.text ≠ "" := by
  unfold text
  split
  · decide
  · split <;> decide
  · rename_i m q _
    have hbody : (if m = 0 then ['0', '.', '0']
        else (Decimal.shortest m q).render Decimal.Style.standard) ≠ [] := by
      split
      · exact List.cons_ne_nil _ _
      · exact Decimal.render_ne_nil _ _
    dsimp only
    split
    · simp
    · simpa using hbody

theorem repr_int_ne_empty (n : Int) : n.repr ≠ "" := by
  cases n with
  | ofNat n => exact Nat.repr_ne_empty
  | negSucc n => simp [Int.repr]

namespace Url

/-- A value that is not vacant is written with at least one character. -/
theorem written_ne_nil {v : Value} (h : isVacant v = false) : v.written.toList ≠ [] := by
  have hshown : ∀ {text : String}, text ≠ "" → text.toList ≠ [] := fun hne => by simpa using hne
  refine hshown ?_
  cases v with
  | null => exact absurd h nofun
  | bool b => cases b <;> decide
  | int n => exact repr_int_ne_empty n
  | float x => exact x.text_ne_empty
  | str s => simpa [isVacant] using h
  | list items => simp [Value.written, Value.text, Value.shown]
  | tuple items =>
    simp only [Value.written, Value.text, Value.shown]
    split <;> simp
  | map entries => simp [Value.written, Value.text, Value.shown]
  | pattern p => simp [Value.written, Value.text, Value.shown, Pattern.shown]
  | serializer s => simp [Value.written, Value.text, Value.shown]

theorem percentEncode_ne_nil {text : List Char} (h : text ≠ []) : percentEncode text ≠ [] := by
  intro hnil
  have hempty : percentDecode [] = some [] := percentDecode_percentEncode []
  have htext := percentDecode_percentEncode text
  rw [hnil, hempty] at htext
  exact h (Option.some.inj htext).symm

/-- What a placeholder shows is some text without slashes and question marks, behind the slash of the
placeholder. -/
theorem exists_shown (p : Placeholder) {v : Value} (h : isVacant v = false) :
    ∃ text, text ≠ [] ∧ '/' ∉ text ∧ '?' ∉ text ∧
      shown true p v = (if p.slash then ['/'] else []) ++ text := by
  refine ⟨percentEncode v.written.toList, percentEncode_ne_nil (written_ne_nil h),
    not_mem_percentEncode (by decide) (by decide) _,
    not_mem_percentEncode (by decide) (by decide) _, ?_⟩
  rw [shown, if_neg (by simp [h])]
  rfl

/-! ## Slashes side by side -/

theorem shownText_other (encode : Bool) (c : Char) (ps : List (Piece (Placeholder × Value))) :
    shownText encode (.other c :: ps) = c :: shownText encode ps := rfl

theorem shownText_found (encode : Bool) (p : Placeholder) (v : Value) (text : List Char)
    (ps : List (Piece (Placeholder × Value))) :
    shownText encode (.found (p, v) text :: ps) = shown encode p v ++ shownText encode ps := rfl

/-- Where no placeholder begins, what is shown begins as the uri does. -/
theorem head?_shownText_of_none {cs : List Char} (h : placeholder cs = none) (encode : Bool)
    (params : Params) (taken : List (List Char)) :
    (shownText encode (served params taken (pieces placeholder cs))).head? = cs.head? := by
  cases cs with
  | nil => rfl
  | cons c cs =>
    rw [pieces_cons_of_none h]
    rfl

/-- A slash that no placeholder takes along has no placeholder behind it. -/
theorem placeholder_eq_none_of_slash {cs : List Char} (h : placeholder ('/' :: cs) = none)
    (hcs : cs.head? ≠ some '/') : placeholder cs = none := by
  have hcolon : colonParam cs = none := by simpa [placeholder] using h
  rw [placeholder_of_head?_ne hcs, hcolon, Option.map_none]

/-- Text without slashes, behind a slash or not, keeps apart what stands before and behind it. -/
theorem squeeze_lead_append (slash : Bool) {text : List Char} (hne : text ≠ []) (htext : '/' ∉ text)
    (rest : List Char) :
    squeeze '/' ((if slash then ['/'] else []) ++ text ++ rest) =
      (if slash then ['/'] else []) ++ text ++ squeeze '/' rest := by
  cases slash with
  | false => exact squeeze_append_of_not_mem htext rest
  | true =>
    obtain ⟨c, cs, rfl⟩ := List.exists_cons_of_ne_nil hne
    have hc : c ≠ '/' := fun hc => htext (hc ▸ List.mem_cons_self)
    have hhead : (c :: cs ++ rest).head? ≠ some '/' := by simpa using hc
    change squeeze '/' ('/' :: (c :: cs ++ rest)) = '/' :: (c :: cs ++ squeeze '/' rest)
    rw [squeeze_cons fun _ => hhead, squeeze_append_of_not_mem htext]

/-- **What is shown of a uri without two slashes side by side has none either.** -/
theorem squeeze_shownText {cs : List Char} (h : ¬ ['/', '/'] <:+: cs) (params : Params)
    (taken : List (List Char)) :
    squeeze '/' (shownText true (served params taken (pieces placeholder cs))) =
      shownText true (served params taken (pieces placeholder cs)) := by
  induction cs using scan_induction placeholder_consumes generalizing taken with
  | nil => rfl
  | other c cs hnone ih =>
    have hcs : ¬ ['/', '/'] <:+: cs := fun hin => h (hin.trans (List.suffix_cons c cs).isInfix)
    rw [pieces_cons_of_none hnone, served, shownText_other]
    refine (squeeze_cons fun hc => ?_).trans (congrArg (c :: ·) (ih hcs taken))
    -- behind a slash of the uri, the uri goes on with other text
    subst hc
    have hhead : cs.head? ≠ some '/' := fun hhead => by
      obtain ⟨tail, rfl⟩ := List.head?_eq_some_iff.mp hhead
      exact h ⟨[], tail, rfl⟩
    rwa [head?_shownText_of_none (placeholder_eq_none_of_slash hnone hhead)]
  | found text p rest hne hsome ih =>
    have hrest : ¬ ['/', '/'] <:+: rest := fun hin =>
      h (hin.trans (List.suffix_append text rest).isInfix)
    have hih := ih hrest (taken ++ [p.param.name])
    rw [pieces_append_of_some hne hsome, served, shownText_found]
    generalize (if p.param.name ∈ taken then Value.null else valueFor params p.param) = v
    cases hv : isVacant v with
    | true =>
      rw [shown, if_pos hv, List.nil_append]
      exact hih
    | false =>
      obtain ⟨shownValue, hshown, hslash, -, heq⟩ := exists_shown p hv
      rw [heq, squeeze_lead_append p.slash hshown hslash, hih]

/-- **The path of a rooted uri has no two slashes side by side.** -/
theorem pathText_single {uri : String} (h : ¬ ['/', '/'] <:+: uri.toList) (params : Params) :
    ¬ ['/', '/'] <:+: pathText true uri params := by
  unfold pathText orSlash
  split
  · decide
  · exact squeeze_eq_self_iff.mp (squeeze_shownText h params [])

/-! ## The first slash -/

/-- Is the piece a placeholder that is left out? -/
def isLeftOut : Piece (Placeholder × Value) → Bool
  | .other _ => false
  | .found e _ => isVacant e.2

/-- Does the piece begin with a slash? -/
def leads : Piece (Placeholder × Value) → Bool
  | .other c => c == '/'
  | .found e _ => e.1.slash

/-- Placeholders that are left out leave nothing behind. -/
theorem shownText_dropWhile (encode : Bool) (ps : List (Piece (Placeholder × Value))) :
    shownText encode (ps.dropWhile isLeftOut) = shownText encode ps := by
  induction ps with
  | nil => rfl
  | cons piece ps ih =>
    cases hpiece : isLeftOut piece with
    | false => rw [List.dropWhile_cons_of_neg (by simp [hpiece])]
    | true =>
      rw [List.dropWhile_cons_of_pos hpiece, ih]
      cases piece with
      | other c => exact absurd hpiece nofun
      | found e text =>
        have hvacant : isVacant e.2 = true := hpiece
        rw [shownText_found, shown, if_pos hvacant, List.nil_append]

/-- A piece that is not left out shows something, which begins with a slash if the piece does. -/
theorem head?_shownText_cons {piece : Piece (Placeholder × Value)} (h : isLeftOut piece = false)
    (ps : List (Piece (Placeholder × Value))) :
    shownText true (piece :: ps) ≠ [] ∧
      ((shownText true (piece :: ps)).head? = some '/' ↔ leads piece = true) := by
  cases piece with
  | other c => exact ⟨List.cons_ne_nil _ _, by simp [shownText_other, leads]⟩
  | found e text =>
    obtain ⟨p, v⟩ := e
    obtain ⟨shownValue, hne, hslash, -, heq⟩ := exists_shown p h
    obtain ⟨c, cs, rfl⟩ := List.exists_cons_of_ne_nil hne
    have hc : c ≠ '/' := fun hc => hslash (hc ▸ List.mem_cons_self)
    rw [shownText_found, heq, leads]
    cases p.slash with
    | true => simp
    | false => simp [hc]

/-- **When a path begins with a slash**: if nothing is left when the placeholders at its beginning are
left out, or what is left begins with a slash. -/
theorem head?_pathText_iff (uri : String) (params : Params) :
    (pathText true uri params).head? = some '/' ↔
      ((servedUri uri params).dropWhile isLeftOut).head?.all leads = true := by
  unfold pathText
  rw [← shownText_dropWhile]
  have hkept : ∀ piece ∈ ((servedUri uri params).dropWhile isLeftOut).head?,
      isLeftOut piece = false := fun piece hpiece => by
    have hhead := List.head?_dropWhile_not isLeftOut (servedUri uri params)
    rw [Option.mem_def.mp hpiece] at hhead
    simpa using hhead
  cases hleft : (servedUri uri params).dropWhile isLeftOut with
  | nil => simp [shownText, orSlash]
  | cons piece ps =>
    rw [hleft] at hkept
    obtain ⟨hne, hhead⟩ := head?_shownText_cons (hkept piece rfl) ps
    rw [orSlash, if_neg (by simpa using hne), hhead]
    simp

/-- The first piece of a uri that begins with a slash takes the slash along. -/
theorem leads_of_mem_head? {cs : List Char} (hcs : cs.head? = some '/') (params : Params)
    (taken : List (List Char)) :
    ∀ piece ∈ (served params taken (pieces placeholder cs)).head?, leads piece = true := by
  obtain ⟨tail, rfl⟩ := List.head?_eq_some_iff.mp hcs
  intro piece hpiece
  cases hread : placeholder ('/' :: tail) with
  | none =>
    rw [pieces_cons_of_none hread] at hpiece
    obtain rfl : .other '/' = piece := Option.some.inj hpiece
    rfl
  | some found =>
    obtain ⟨p, rest⟩ := found
    obtain ⟨text, hne, heq⟩ := placeholder_consumes _ _ _ hread
    have hslash : p.slash = true := by
      obtain ⟨param, -, hparam⟩ : ∃ param, colonParam tail = some (param, rest) ∧
          Placeholder.mk true param = p := by simpa [placeholder] using hread
      rw [← hparam]
    rw [heq] at hread hpiece
    rw [pieces_append_of_some hne hread] at hpiece
    obtain rfl := Option.some.inj hpiece
    exact hslash

/-- If the first placeholder is not left out, the path of a uri that begins with a slash does, too. -/
theorem head?_pathText_of_kept {uri : String} {params : Params} (huri : uri.toList.head? = some '/')
    (hkept : (servedUri uri params).head?.all (!isLeftOut ·) = true) :
    (pathText true uri params).head? = some '/' := by
  rw [head?_pathText_iff]
  have hleads := leads_of_mem_head? huri params []
  unfold servedUri at hkept ⊢
  cases hserved : served params [] (pieces placeholder uri.toList) with
  | nil => rfl
  | cons piece ps =>
    rw [hserved] at hkept hleads
    rw [List.dropWhile_cons_of_neg (by simpa using hkept)]
    exact hleads piece rfl

/-! ## Question marks -/

/-- A question mark in the path is text of the uri. -/
theorem mem_pathText {uri : String} {params : Params} (h : '?' ∈ pathText true uri params) :
    .other '?' ∈ pieces placeholder uri.toList := by
  have hshown : '?' ∈ shownText true (servedUri uri params) := by
    unfold pathText orSlash at h
    split at h
    · exact absurd h (by decide)
    · exact h
  unfold servedUri at hshown
  generalize ([] : List (List Char)) = taken at hshown
  generalize pieces placeholder uri.toList = ps at hshown ⊢
  induction ps generalizing taken with
  | nil => exact absurd hshown List.not_mem_nil
  | cons piece ps ih =>
    cases piece with
    | other c =>
      rcases List.mem_cons.mp hshown with rfl | hshown
      · exact List.mem_cons_self
      · exact List.mem_cons_of_mem _ (ih taken hshown)
    | found p text =>
      rw [served, shownText_found] at hshown
      refine List.mem_cons_of_mem _ (ih _ ((List.mem_append.mp hshown).resolve_left fun hvalue => ?_))
      generalize (if p.param.name ∈ taken then Value.null else valueFor params p.param) = v at hvalue
      cases hv : isVacant v with
      | true =>
        rw [shown, if_pos hv] at hvalue
        exact absurd hvalue List.not_mem_nil
      | false =>
        obtain ⟨shownValue, -, -, hmark, heq⟩ := exists_shown p hv
        rw [heq] at hvalue
        rcases List.mem_append.mp hvalue with hlead | hvalue
        · cases p.slash <;> simp at hlead
        · exact hmark hvalue

end Url

end RouteTree
