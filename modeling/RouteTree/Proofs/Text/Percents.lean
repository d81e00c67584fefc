import RouteTree.Text.Percent

/-!
# Percent encoding loses nothing

**What is written in percent encoding can be read back** (`percentDecode_percentEncode`), and of the
characters that are no unreserved ones there is none in it but the percent sign
(`not_mem_percentEncode`). So a text in percent encoding cannot be mistaken for the structure of a url
around it.

Reading back goes in two steps, each an induction along the text: the bytes are those of the UTF-8
form (`percentBytes_percentEncode`), and of these the first byte tells how many belong to the first
character (`utf8Front_utf8`).
-/

namespace RouteTree.Text

/-! ## UTF-8 -/

theorem toNat_lt (c : Char) : c.toNat < 0x110000 := by
  have hvalid : c.val.toNat.isValidChar := c.valid
  simp only [Nat.isValidChar] at hvalid
  change c.val.toNat < 0x110000
  omega

/-- The bytes of a character are those that texts are stored by. -/
theorem utf8_toNat (c : Char) : utf8 c.toNat = (String.utf8EncodeChar c).map (·.toNat) := by
  have hlt := toNat_lt c
  unfold utf8 String.utf8EncodeChar
  simp only [Char.toNat] at hlt ⊢
  generalize c.val.toNat = n at hlt
  -- both tell in the same way how many bytes there are
  by_cases h₁ : n < 0x80
  · rw [if_pos h₁, if_pos (show n ≤ 0x7f by omega)]
    simp
    omega
  · rw [if_neg h₁, if_neg (show ¬ n ≤ 0x7f by omega)]
    by_cases h₂ : n < 0x800
    · rw [if_pos h₂, if_pos (show n ≤ 0x7ff by omega)]
      simp
      omega
    · rw [if_neg h₂, if_neg (show ¬ n ≤ 0x7ff by omega)]
      by_cases h₃ : n < 0x10000
      · rw [if_pos h₃, if_pos (show n ≤ 0xffff by omega)]
        simp
        omega
      · rw [if_neg h₃, if_neg (show ¬ n ≤ 0xffff by omega)]
        simp
        omega

theorem lt_of_mem_utf8 {c : Char} {b : Nat} (h : b ∈ utf8 c.toNat) : b < 256 := by
  rw [utf8_toNat] at h
  obtain ⟨byte, -, rfl⟩ := List.mem_map.mp h
  exact byte.toNat_lt

/-- The first byte tells how many bytes write the character. -/
theorem utf8Front_utf8 (c : Char) (rest : List Nat) :
    utf8Front (utf8 c.toNat ++ rest) = some (c.toNat, rest) := by
  have hlt := toNat_lt c
  generalize c.toNat = n at hlt
  unfold utf8
  split
  · simp [utf8Front, *]
  · split
    · simp only [List.cons_append, List.nil_append, utf8Front]
      rw [if_neg (by omega), if_pos (by omega)]
      simp only [Option.some.injEq, Prod.mk.injEq, and_true]
      omega
    · split
      · simp only [List.cons_append, List.nil_append, utf8Front]
        rw [if_neg (by omega), if_neg (by omega), if_pos (by omega)]
        simp only [Option.some.injEq, Prod.mk.injEq, and_true]
        omega
      · simp only [List.cons_append, List.nil_append, utf8Front]
        rw [if_neg (by omega), if_neg (by omega), if_neg (by omega)]
        simp only [Option.some.injEq, Prod.mk.injEq, and_true]
        omega

theorem utf8Text_flatMap (s : List Char) : utf8Text (s.flatMap fun c => utf8 c.toNat) = some s := by
  induction s with
  | nil =>
    rw [List.flatMap_nil, utf8Text]
    rfl
  | cons c s ih =>
    rw [List.flatMap_cons, utf8Text]
    split
    · rename_i hnone
      rw [utf8Front_utf8] at hnone
      exact absurd hnone (Option.some_ne_none _)
    · rename_i n rest hsome
      rw [utf8Front_utf8] at hsome
      obtain ⟨rfl, rfl⟩ := Prod.mk.inj (Option.some.inj hsome)
      rw [if_pos ⟨c.valid, rfl⟩, ih, Option.map_some, Char.ofNat_toNat]

/-! ## Percent signs -/

/-- A digit is unreserved, and is read as the number it was written for. -/
theorem hexDigit_spec : ∀ n < 16,
    isUnreserved (hexDigit n) = true ∧ isHexDigit (hexDigit n) = true ∧
      hexDigitValue (hexDigit n) = n := by
  decide

theorem percentBytes_percentByte {b : Nat} (h : b < 256) (rest : List Char) :
    percentBytes (percentByte b ++ rest) = b :: percentBytes rest := by
  obtain ⟨-, hhigh, hhighValue⟩ := hexDigit_spec (b / 16) (by omega)
  obtain ⟨-, hlow, hlowValue⟩ := hexDigit_spec (b % 16) (by omega)
  simp only [percentByte, List.cons_append, List.nil_append, percentBytes, hhigh, hlow, Bool.and_self,
    if_true, hhighValue, hlowValue, List.cons.injEq, and_true]
  omega

theorem percentBytes_flatMap {bytes : List Nat} (h : ∀ b ∈ bytes, b < 256) (rest : List Char) :
    percentBytes (bytes.flatMap percentByte ++ rest) = bytes ++ percentBytes rest := by
  induction bytes with
  | nil => rfl
  | cons b bytes ih =>
    rw [List.flatMap_cons, List.append_assoc, percentBytes_percentByte (h b List.mem_cons_self),
      ih fun b hb => h b (List.mem_cons_of_mem _ hb), List.cons_append]

/-- A character that is no percent sign stands for its own bytes. -/
theorem percentBytes_cons_of_ne {c : Char} (h : c ≠ '%') (rest : List Char) :
    percentBytes (c :: rest) = utf8 c.toNat ++ percentBytes rest := by
  rw [percentBytes]
  rintro a b rest rfl
  exact absurd rfl h

/-- **Percent encoding keeps the bytes.** -/
theorem percentBytes_percentEncode (s : List Char) :
    percentBytes (percentEncode s) = s.flatMap fun c => utf8 c.toNat := by
  induction s with
  | nil =>
    rw [percentEncode, List.flatMap_nil, percentBytes]
    rfl
  | cons c s ih =>
    change percentBytes (percentChar c ++ percentEncode s) = _
    rw [List.flatMap_cons, ← ih]
    unfold percentChar
    split
    · rename_i hunreserved
      refine percentBytes_cons_of_ne ?_ _
      rintro rfl
      exact absurd hunreserved (by decide)
    · exact percentBytes_flatMap (fun _ => lt_of_mem_utf8) _

/-- **What is written in percent encoding can be read back.** -/
theorem percentDecode_percentEncode (s : List Char) : percentDecode (percentEncode s) = some s := by
  rw [percentDecode, percentBytes_percentEncode, utf8Text_flatMap]

/-- A slash in two bytes is not its UTF-8 form. -/
example : percentDecode "a%2Fb%C0%AF".toList = none := by
  cbv

/-! ## What is not in a text in percent encoding -/

theorem isUnreserved_of_mem_percentByte {b : Nat} (h : b < 256) {c : Char} (hc : c ∈ percentByte b)
    (hne : c ≠ '%') : isUnreserved c = true := by
  simp only [percentByte, List.mem_cons, List.not_mem_nil, or_false] at hc
  rcases hc with rfl | rfl | rfl
  · exact absurd rfl hne
  · exact (hexDigit_spec _ (by omega)).1
  · exact (hexDigit_spec _ (by omega)).1

/-- **There is no reserved character in a text in percent encoding**, apart from percent signs. -/
theorem not_mem_percentEncode {c : Char} (h : isUnreserved c = false) (hne : c ≠ '%')
    (s : List Char) : c ∉ percentEncode s := by
  intro hc
  obtain ⟨d, -, hd⟩ := List.mem_flatMap.mp hc
  refine absurd (?_ : isUnreserved c = true) (by simp [h])
  unfold percentChar at hd
  split at hd
  · obtain rfl := List.mem_singleton.mp hd
    assumption
  · obtain ⟨b, hb, hcb⟩ := List.mem_flatMap.mp hd
    exact isUnreserved_of_mem_percentByte (lt_of_mem_utf8 hb) hcb hne

end RouteTree.Text
