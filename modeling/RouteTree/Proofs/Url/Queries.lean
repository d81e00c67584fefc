import Mathlib.Data.List.Forall2
import RouteTree.Proofs.Text.Percents
import RouteTree.Url.Query

/-!
# Queries can be read back

**A query tells the pairs it was made from** (`serialize_decodes`): cut at every `&` it has one piece
for each pair, cut at its `=` a piece has the key and the text of the pair, both in percent encoding.
A query without pairs is empty, and no other is: a pair of an empty key and an empty text still
writes its `=`.

Whatever stands in keys and texts, neither of the two signs is in what percent encoding makes of it, so
both cuts find the signs that the query put there (`splitOn_pairText`, `splitOn_text`).
-/

namespace RouteTree.Query

open Text

/-- The piece is a key and a text in percent encoding, with the only equals sign between them. -/
def Writes (piece : List Char) (pair : List Char × List Char) : Prop :=
  ∃ key value, piece.splitOn '=' = [key, value] ∧ percentDecode key = some pair.1 ∧
    percentDecode value = some pair.2

theorem splitOn_pairText (pair : List Char × List Char) :
    (pairText true pair).splitOn '=' = [percentEncode pair.1, percentEncode pair.2] := by
  have hsign : ∀ side ∈ [percentEncode pair.1, percentEncode pair.2], '=' ∉ side := by
    intro side hside
    rcases List.mem_pair.mp hside with rfl | rfl <;>
      exact not_mem_percentEncode (by decide) (by decide) _
  have hjoin : pairText true pair = ['='].intercalate [percentEncode pair.1, percentEncode pair.2] := by
    simp [pairText, List.intercalate]
  rw [hjoin, List.splitOn_intercalate '=' hsign (List.cons_ne_nil _ _)]

theorem writes_pairText (pair : List Char × List Char) : Writes (pairText true pair) pair :=
  ⟨_, _, splitOn_pairText pair, percentDecode_percentEncode _, percentDecode_percentEncode _⟩

theorem ampersand_not_mem_pairText (pair : List Char × List Char) : '&' ∉ pairText true pair := by
  have hside : ∀ s, '&' ∉ percentEncode s := not_mem_percentEncode (by decide) (by decide)
  simp [pairText, hside]

/-- Cut at its ampersands, a query has the pieces it was made from. -/
theorem splitOn_text {ps : List (List Char × List Char)} (h : ps ≠ []) :
    (text true ps).splitOn '&' = ps.map (pairText true) := by
  refine List.splitOn_intercalate '&' ?_ (by simpa using h)
  intro piece hpiece
  obtain ⟨pair, -, rfl⟩ := List.mem_map.mp hpiece
  exact ampersand_not_mem_pairText pair

variable {serializers : Serializers}

/-- The query of the parameters, where no serializer answers in its place. -/
theorem serialize_eq {params options : Params} {format : ArrayFormat}
    (hserializer : (options.get? (.str "serializer")).getD .null = .null)
    (hformat : arrayFormat options = .ok format) :
    serialize serializers params options = .ok (.str (String.ofList (text (isOn options "encode" true)
      (pairs format (isOn options "allow_dots" false) params)))) := by
  unfold serialize serialize?
  rw [hserializer]
  simp only [hformat]
  rfl

/-- **A query decodes to the pairs of the parameters**, in order. -/
theorem serialize_decodes {params options : Params} {format : ArrayFormat}
    (hserializer : (options.get? (.str "serializer")).getD .null = .null)
    (hformat : arrayFormat options = .ok format) (hencode : isOn options "encode" true = true) :
    ∃ query : String, serialize serializers params options = .ok (.str query) ∧
      (pairs format (isOn options "allow_dots" false) params = [] → query = "") ∧
      (pairs format (isOn options "allow_dots" false) params ≠ [] →
        List.Forall₂ Writes (query.toList.splitOn '&')
          (pairs format (isOn options "allow_dots" false) params)) := by
  refine ⟨_, serialize_eq hserializer hformat, ?_, ?_⟩
  · intro hnone
    rw [hnone]
    rfl
  · intro hsome
    rw [String.toList_ofList, hencode, splitOn_text hsome, List.forall₂_map_left_iff]
    exact List.forall₂_same.mpr fun pair _ => writes_pairText pair

/-- Signs of a query in keys and texts, a list in a map, an empty list, and an empty key. -/
def sampleParams : Params :=
  ⟨[(.str "filter", .map [(.str "a&b", .list [.str "x=y", .null]), (.str "none", .list [])]),
    (.str "é", .str "50%+"), (.str "", .bool true)]⟩

/-- Dots for the steps through maps, and empty brackets for those through lists. -/
def sampleOptions : Params :=
  ⟨[(.str "array_format", .str "brackets"), (.str "allow_dots", .bool true)]⟩

theorem serialize_decodes_sampleParams :
    (sampleOptions.get? (.str "serializer")).getD .null = .null ∧
      arrayFormat sampleOptions = .ok .brackets ∧ isOn sampleOptions "encode" true = true ∧
      ∃ query : String, serialize .none sampleParams sampleOptions = .ok (.str query) ∧
        (pairs .brackets (isOn sampleOptions "allow_dots" false) sampleParams = [] → query = "") ∧
        (pairs .brackets (isOn sampleOptions "allow_dots" false) sampleParams ≠ [] →
          List.Forall₂ Writes (query.toList.splitOn '&')
            (pairs .brackets (isOn sampleOptions "allow_dots" false) sampleParams)) :=
  ⟨rfl, rfl, rfl, serialize_decodes rfl rfl rfl⟩

example : serialize .none sampleParams sampleOptions =
    .ok (.str "filter.a%26b%5B%5D=x%3Dy&filter.a%26b%5B%5D=&%C3%A9=50%25%2B&=true") := by
  rfl

end RouteTree.Query
