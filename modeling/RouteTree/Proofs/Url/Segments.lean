import Mathlib.Data.List.Forall2
import RouteTree.Proofs.Template.Tokens
import RouteTree.Proofs.Text.Percents
import RouteTree.Proofs.Url.Filling

/-!
# Paths can be read back

**A path tells the segments it was built from** (`build_shows`). The uri here is a list of segments,
each text or a parameter alone. Cut at its slashes, the path of the url has a piece for each segment,
in order: text is there as it was, and the value of a parameter is what its piece decodes to. A
parameter without a value has no piece. So no value adds a segment, joins two, or begins the query.

The scan for placeholders finds the parameters and nothing else (`pieces_uriText`), so filling is an
induction along the segments (`eq_of_fill`). As no two parameters have one name, none takes away the
value of another.
-/

namespace RouteTree.Url

open Text Template

/-- A segment of a uri: text, or a parameter alone. -/
inductive Segment where
  | literal (text : List Char)
  | param (p : Param)

namespace Segment

/-- The segment as it stands in the uri. -/
def text : Segment → List Char
  | .literal text => text
  | .param p => p.colon

/-- Text of a segment is not empty and has no sign of a uri in it; a parameter has a name. -/
inductive IsPlain : Segment → Prop where
  | literal {text : List Char} (hne : text ≠ []) (hslash : '/' ∉ text) (hcolon : ':' ∉ text)
    (hmark : '?' ∉ text) : IsPlain (.literal text)
  | param {p : Param} (hp : p.IsNamed) : IsPlain (.param p)

/-- The name of a parameter. -/
def name? : Segment → Option (List Char)
  | .literal _ => none
  | .param p => some p.name

/-- Is the segment in the path? A parameter without a value is not. -/
def isShown (params : Params) : Segment → Bool
  | .literal _ => true
  | .param p => !isVacant (valueFor params p)

/-- The segment as it stands in the path. -/
def filled (params : Params) : Segment → List Char
  | .literal text => text
  | .param p => percentEncode (valueFor params p).written.toList

/-- A piece of a path shows the segment. -/
def Shows (params : Params) : Segment → List Char → Prop
  | .literal text, piece => piece = text
  | .param p, piece => percentDecode piece = some (valueFor params p).written.toList

/-- What the scan for placeholders makes of the segment and the slash before it. -/
def pieces : Segment → List (Piece Placeholder)
  | .literal text => ('/' :: text).map .other
  | .param p => [.found ⟨true, p⟩ ('/' :: p.colon)]

theorem shows_filled (params : Params) (s : Segment) : s.Shows params (s.filled params) := by
  cases s with
  | literal text => rfl
  | param p => exact percentDecode_percentEncode _

/-- Neither slashes nor question marks are in what a segment is filled with. -/
theorem IsPlain.not_mem_filled {s : Segment} (h : s.IsPlain) (params : Params) :
    '/' ∉ s.filled params ∧ '?' ∉ s.filled params := by
  cases h with
  | literal hne hslash hcolon hmark => exact ⟨hslash, hmark⟩
  | param hp =>
    exact ⟨not_mem_percentEncode (by decide) (by decide) _,
      not_mem_percentEncode (by decide) (by decide) _⟩

end Segment

/-- The uri of the segments, each behind a slash. -/
def uriText (segments : List Segment) : List Char := segments.flatMap fun s => '/' :: s.text

/-! ## Placeholders of a uri -/

theorem placeholder_skips {c : Char} (hslash : c ≠ '/') (hcolon : c ≠ ':') :
    placeholder.Skips c := by
  intro cs
  have hhead : (c :: cs).head? ≠ some '/' := fun heq => hslash (Option.some.inj heq)
  rw [placeholder_of_head?_ne hhead, colonParam_skips hcolon, Option.map_none]

/-- Behind a parameter, the uri goes on with a slash or ends. -/
theorem endsName_uriText (segments : List Segment) : EndsName (uriText segments) := by
  cases segments with
  | nil => exact nofun
  | cons s segments => exact endsName_cons (by decide) (by decide)

theorem pieces_segment_append {s : Segment} (h : s.IsPlain) (segments : List Segment) :
    pieces placeholder ('/' :: s.text ++ uriText segments) =
      s.pieces ++ pieces placeholder (uriText segments) := by
  cases h with
  | @literal text hne hslash hcolon hmark =>
    obtain ⟨c, cs, rfl⟩ := List.exists_cons_of_ne_nil hne
    have hfree : ∀ d ∈ c :: cs, d ≠ '/' ∧ d ≠ ':' := fun d hd =>
      ⟨fun heq => hslash (heq ▸ hd), fun heq => hcolon (heq ▸ hd)⟩
    have hnone : placeholder ('/' :: (c :: cs ++ uriText segments)) = none := by
      have hcolonParam := colonParam_skips (hfree c List.mem_cons_self).2 (cs ++ uriText segments)
      simpa [placeholder] using hcolonParam
    change pieces placeholder ('/' :: (c :: cs ++ uriText segments)) = _
    rw [pieces_cons_of_none hnone, pieces_append_of_skips fun d hd =>
      placeholder_skips (hfree d hd).1 (hfree d hd).2]
    rfl
  | @param p hp =>
    have hsome : placeholder ('/' :: p.colon ++ uriText segments) =
        some (⟨true, p⟩, uriText segments) := by
      have hread := colonParam_append hp fun _ => endsName_uriText segments
      simp [placeholder, hread]
    change pieces placeholder ('/' :: p.colon ++ uriText segments) = _
    rw [pieces_append_of_some (List.cons_ne_nil _ _) hsome]
    rfl

/-- **The placeholders of a uri are its parameters.** -/
theorem pieces_uriText {segments : List Segment} (h : ∀ s ∈ segments, s.IsPlain) :
    pieces placeholder (uriText segments) = segments.flatMap Segment.pieces := by
  induction segments with
  | nil => rfl
  | cons s segments ih =>
    obtain ⟨hs, hsegments⟩ := List.forall_mem_cons.mp h
    change pieces placeholder ('/' :: s.text ++ uriText segments) = _
    rw [pieces_segment_append hs, ih hsegments, List.flatMap_cons]

/-! ## Filling -/

/-- What the segments are filled with depends on the values of their parameters alone. -/
theorem flatMap_filled_congr {segments : List Segment} {params params' : Params}
    (h : ∀ p, .param p ∈ segments → valueFor params' p = valueFor params p) :
    (segments.filter (·.isShown params')).flatMap (fun s => '/' :: s.filled params') =
      (segments.filter (·.isShown params)).flatMap fun s => '/' :: s.filled params := by
  have hsame : ∀ s ∈ segments,
      s.isShown params' = s.isShown params ∧ s.filled params' = s.filled params := by
    intro s hs
    cases s with
    | literal text => exact ⟨rfl, rfl⟩
    | param p => simp only [Segment.isShown, Segment.filled, h p hs, and_self]
  rw [List.filter_congr fun s hs => (hsame s hs).1]
  exact List.flatMap_congr fun s hs => by rw [(hsame s (List.mem_of_mem_filter hs)).2]

/-- **The text is that of the segments that are shown.** -/
theorem eq_of_fill {uri : String} {constraints : Constraints} {segments : List Segment}
    {params left : Params} {text : List Char} (hnames : (segments.filterMap (·.name?)).Nodup)
    (h : fill uri constraints true (segments.flatMap Segment.pieces) params = .ok (text, left)) :
    text = (segments.filter (·.isShown params)).flatMap fun s => '/' :: s.filled params := by
  induction segments generalizing params text with
  | nil =>
    obtain ⟨rfl, -⟩ := Prod.mk.inj (Except.ok.inj h)
    rfl
  | cons s segments ih =>
    cases s with
    | literal cs =>
      rw [List.flatMap_cons, Segment.pieces, fill_map_other_append] at h
      cases hrest : fill uri constraints true (segments.flatMap Segment.pieces) params with
      | error fault =>
        rw [hrest] at h
        exact absurd h nofun
      | ok filled =>
        obtain ⟨after, left'⟩ := filled
        rw [hrest] at h
        obtain ⟨rfl, rfl⟩ := Prod.mk.inj (Except.ok.inj h)
        rw [ih hnames hrest]
        rfl
    | param p =>
      obtain ⟨hfresh, hnames⟩ := List.nodup_cons.mp hnames
      obtain ⟨after, hafter, hp⟩ := fill_found_ok h
      -- the other parameters have other names, and so their values
      have hothers : after =
          (segments.filter (·.isShown params)).flatMap fun s => '/' :: s.filled params := by
        rw [ih hnames hafter]
        refine flatMap_filled_congr fun q hq => valueFor_erase (fun heq => hfresh ?_) params
        exact heq ▸ List.mem_filterMap.mpr ⟨.param q, hq, rfl⟩
      rcases hp with ⟨hvacant, -, rfl⟩ | ⟨hvalue, -, rfl⟩
      · rw [hothers, List.filter_cons_of_neg (by simp [Segment.isShown, hvacant])]
      · rw [hothers, List.filter_cons_of_pos (by simp [Segment.isShown, hvalue])]
        rfl

/-! ## The path -/

/-- Cut at its slashes, a path has the segments it was put together from. -/
theorem splitOn_segments {filled : List (List Char)} (h : ∀ piece ∈ filled, '/' ∉ piece) :
    (filled.flatMap ('/' :: ·)).splitOn '/' = [] :: filled := by
  have hjoin : filled.flatMap ('/' :: ·) = ['/'].intercalate ([] :: filled) := by
    clear h
    cases filled with
    | nil => rfl
    | cons piece filled =>
      induction filled generalizing piece with
      | nil => simp [List.intercalate]
      | cons next filled ih =>
        rw [List.flatMap_cons, ih next]
        simp [List.intercalate]
  rw [hjoin]
  refine List.splitOn_intercalate '/' ?_ (List.cons_ne_nil _ _)
  exact List.forall_mem_cons.mpr ⟨nofun, h⟩

/-- **A path shows the segments of its uri.** Up to the first question mark, the url has a piece for
every segment that is text or has a value, and nothing else; where there is none, it is a slash. -/
theorem build_shows {serializers : Serializers} {segments : List Segment} {params options : Params}
    {constraints : Constraints} {url : String} (hsegments : ∀ s ∈ segments, s.IsPlain)
    (hnames : (segments.filterMap (·.name?)).Nodup)
    (hencode : Query.isOn options "encode" true = true)
    (h : build serializers (String.ofList (uriText segments)) params constraints options =
      .ok url) :
    (segments.filter (·.isShown params) = [] → url.toList.takeWhile (· != '?') = ['/']) ∧
      (segments.filter (·.isShown params) ≠ [] →
        ∃ shown, (url.toList.takeWhile (· != '?')).splitOn '/' = [] :: shown ∧
          List.Forall₂ (Segment.Shows params) (segments.filter (·.isShown params)) shown) := by
  obtain ⟨text, left, query, hfill, -, rfl⟩ := build_ok h
  rw [hencode, String.toList_ofList, pieces_uriText hsegments] at hfill
  have htext := eq_of_fill hnames hfill
  have hplain : ∀ s ∈ segments.filter (·.isShown params), s.IsPlain := fun s hs =>
    hsegments s (List.mem_of_mem_filter hs)
  generalize segments.filter (·.isShown params) = visible at htext hplain
  subst htext
  refine ⟨?_, fun hsome => ?_⟩
  · rintro rfl
    have hslash : '?' ∉ ['/'] := by decide
    exact takeWhile_withQuery hslash query
  · have hmark : '?' ∉ visible.flatMap fun s => '/' :: s.filled params := by
      intro hin
      obtain ⟨s, hs, hin⟩ := List.mem_flatMap.mp hin
      rcases List.mem_cons.mp hin with heq | hin
      · exact absurd heq (by decide)
      · exact ((hplain s hs).not_mem_filled params).2 hin
    have hne : (visible.flatMap fun s => '/' :: s.filled params).isEmpty = false := by
      obtain ⟨s, rest, rfl⟩ := List.exists_cons_of_ne_nil hsome
      rfl
    refine ⟨visible.map (·.filled params), ?_, ?_⟩
    · rw [hne, if_neg (by decide), takeWhile_withQuery hmark, ← List.flatMap_map]
      refine splitOn_segments fun piece hpiece => ?_
      obtain ⟨s, hs, rfl⟩ := List.mem_map.mp hpiece
      exact ((hplain s hs).not_mem_filled params).1
    · rw [List.forall₂_map_right_iff]
      exact List.forall₂_same.mpr fun s _ => s.shows_filled params

/-- Two parameters in a row, the second one without a value, and an optional one at the end. -/
def sampleSegments : List Segment :=
  [.param ⟨"file".toList, false⟩, .param ⟨"lang".toList, true⟩, .literal "d e".toList,
    .param ⟨"tag".toList, true⟩]

/-- Signs of a url in a value, and a parameter for the query. -/
def sampleParams : Params :=
  ⟨[(.str "file", .str "a/b?c#d%2F&é"), (.str "lang", .null), (.str "page", .int 2),
    (.str "tag", .int 7)]⟩

/-- The url of the two. -/
def sampleUrl : String := "/a%2Fb%3Fc%23d%252F%26%C3%A9/d e/7?page=2"

theorem build_shows_sampleSegments :
    (∀ s ∈ sampleSegments, s.IsPlain) ∧ (sampleSegments.filterMap (·.name?)).Nodup ∧
      Query.isOn OrderedMap.empty "encode" true = true ∧
      build .none (String.ofList (uriText sampleSegments)) sampleParams OrderedMap.empty
        OrderedMap.empty = .ok sampleUrl ∧
      (sampleSegments.filter (·.isShown sampleParams) = [] →
        sampleUrl.toList.takeWhile (· != '?') = ['/']) ∧
      (sampleSegments.filter (·.isShown sampleParams) ≠ [] →
        ∃ shown, (sampleUrl.toList.takeWhile (· != '?')).splitOn '/' = [] :: shown ∧
          List.Forall₂ (Segment.Shows sampleParams)
            (sampleSegments.filter (·.isShown sampleParams)) shown) := by
  have hplain : ∀ s ∈ sampleSegments, s.IsPlain := by
    intro s hs
    simp only [sampleSegments, List.mem_cons, List.not_mem_nil, or_false] at hs
    rcases hs with rfl | rfl | rfl | rfl
    · exact .param ⟨by decide, List.all_eq_true.mp (by decide)⟩
    · exact .param ⟨by decide, List.all_eq_true.mp (by decide)⟩
    · exact .literal (by decide) (by decide) (by decide) (by decide)
    · exact .param ⟨by decide, List.all_eq_true.mp (by decide)⟩
  have hnames : (sampleSegments.filterMap (·.name?)).Nodup := by decide
  have hbuild : build .none (String.ofList (uriText sampleSegments)) sampleParams OrderedMap.empty
      OrderedMap.empty = .ok sampleUrl := by
    rw [build, String.toList_ofList, pieces_uriText hplain]
    rfl
  exact ⟨hplain, hnames, rfl, hbuild, build_shows hplain hnames rfl hbuild⟩

end RouteTree.Url
