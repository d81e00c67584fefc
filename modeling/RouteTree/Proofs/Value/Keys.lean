import Mathlib.Tactic.Ring
import RouteTree.Value.Basic

/-!
# Values as keys

Values name keys by `sameKey`: texts by themselves, tuples item by item, and truth values, integers
and floats by the number they stand for. **To name the same key is symmetric and transitive**
(`Value.partialEquivBEq`). It is not reflexive: what is not a number equals not even itself, and a
list or a map is no key.

Numbers compare exactly, at whatever power of two their mantissas are brought to
(`Extended.same_finite_iff`).
-/

namespace RouteTree

namespace Extended

theorem scaled_eq_mul {m q base lower : Int} (h : base ≤ q) (hlower : lower ≤ base) :
    scaled m q lower = scaled m q base * 2 ^ (base - lower).toNat := by
  have hexponent : (q - lower).toNat = (q - base).toNat + (base - lower).toNat := by omega
  change m * 2 ^ (q - lower).toNat = m * 2 ^ (q - base).toNat * 2 ^ (base - lower).toNat
  rw [hexponent, pow_add]
  ring

theorem same_finite {m q n r : Int} :
    (finite m q).same (finite n r) = true ↔ scaled m q (min q r) = scaled n r (min q r) := by
  have hmin : min r q = min q r := min_comm r q
  simp only [same, lt, hmin, Bool.and_eq_true, Bool.not_eq_true', decide_eq_false_iff_not, not_lt]
  exact ⟨fun ⟨h, h'⟩ => le_antisymm h' h, fun h => ⟨h.ge, h.le⟩⟩

/-- Two finite numbers are the same if they are at any common power of two. -/
theorem same_finite_iff {m q n r base : Int} (hq : base ≤ q) (hr : base ≤ r) :
    (finite m q).same (finite n r) = true ↔ scaled m q base = scaled n r base := by
  have hpos : (2 : Int) ^ (min q r - base).toNat ≠ 0 := pow_ne_zero _ (by decide)
  rw [same_finite, scaled_eq_mul (min_le_left q r) (le_min hq hr),
    scaled_eq_mul (min_le_right q r) (le_min hq hr)]
  exact (mul_left_inj' hpos).symm

theorem same_symm (x y : Extended) : x.same y = y.same x := Bool.and_comm _ _

theorem same_trans {x y z : Extended} (h : x.same y = true) (h' : y.same z = true) :
    x.same z = true := by
  cases y with
  | minusInfinity =>
    obtain rfl : x = minusInfinity := by cases x <;> simp [same, lt] at h ⊢
    exact h'
  | plusInfinity =>
    obtain rfl : x = plusInfinity := by cases x <;> simp [same, lt] at h ⊢
    exact h'
  | finite n r =>
    obtain ⟨m, q, rfl⟩ : ∃ m q, x = finite m q := by cases x <;> simp [same, lt] at h ⊢
    obtain ⟨k, s, rfl⟩ : ∃ k s, z = finite k s := by cases z <;> simp [same, lt] at h' ⊢
    -- all three at one power of two
    have hq : min q (min r s) ≤ q := by omega
    have hr : min q (min r s) ≤ r := by omega
    have hs : min q (min r s) ≤ s := by omega
    rw [same_finite_iff hq hr] at h
    rw [same_finite_iff hr hs] at h'
    rw [same_finite_iff hq hs, h, h']

end Extended

namespace Value

theorem sameNumber_symm (v w : Value) : v.sameNumber w = w.sameNumber v := by
  unfold sameNumber
  cases v.number? <;> cases w.number? <;> first | rfl | exact Extended.same_symm _ _

theorem sameNumber_trans {u v w : Value} (h : u.sameNumber v = true) (h' : v.sameNumber w = true) :
    u.sameNumber w = true := by
  unfold sameNumber at h h' ⊢
  cases hu : u.number? <;> cases hv : v.number? <;> cases hw : w.number? <;>
    simp only [hu, hv, hw] at h h' ⊢ <;> first | exact Extended.same_trans h h' | contradiction

/-- What stands for a number names the key of the number. -/
theorem sameKey_of_number {v : Value} (h : v.number?.isSome = true) (w : Value) :
    v.sameKey w = v.sameNumber w := by
  cases v <;> first | rfl | exact absurd h nofun

theorem isSome_number_of_sameNumber {v w : Value} (h : v.sameNumber w = true) :
    w.number?.isSome = true := by
  unfold sameNumber at h
  cases hw : w.number? with
  | none => cases hv : v.number? <;> simp [hv, hw] at h
  | some x => rfl

/-- Behind a number, the key that is named is that of a number. -/
theorem sameNumber_of_sameKey {u v w : Value} (h : u.sameNumber v = true)
    (h' : v.sameKey w = true) : v.sameNumber w = true := by
  rwa [← sameKey_of_number (isSome_number_of_sameNumber h)]

theorem sameKey_of_sameNumber {v w : Value} (h : v.sameNumber w = true) : w.sameKey v = true := by
  rw [sameKey_of_number (isSome_number_of_sameNumber h), sameNumber_symm, h]

mutual

theorem sameKey_symm : ∀ {v w : Value}, v.sameKey w = true → w.sameKey v = true
  | .null, w, h => by cases w <;> first | rfl | exact absurd h nofun
  | .str s, w, h => by
    cases w with
    | str t =>
      obtain rfl : s = t := by simpa [sameKey] using h
      exact h
    | _ => exact absurd h nofun
  | .tuple vs, w, h => by
    cases w with
    | tuple ws => exact sameKeys_symm h
    | _ => exact absurd h nofun
  | .pattern p, w, h => by
    cases w with
    | pattern q =>
      simp only [sameKey, Bool.and_eq_true, beq_iff_eq] at h ⊢
      exact ⟨h.1.symm, h.2.symm⟩
    | _ => exact absurd h nofun
  | .serializer n, w, h => by
    cases w with
    | serializer m =>
      obtain rfl : n = m := by simpa [sameKey] using h
      exact h
    | _ => exact absurd h nofun
  | .bool _, _, h | .int _, _, h | .float _, _, h => sameKey_of_sameNumber h
  | .list _, _, h | .map _, _, h => absurd h nofun

theorem sameKeys_symm : ∀ {vs ws : List Value}, sameKeys vs ws = true → sameKeys ws vs = true
  | [], ws, h => by
    obtain rfl : ws = [] := by simpa [sameKeys] using h
    rfl
  | v :: vs, ws, h => by
    cases ws with
    | nil => exact absurd h nofun
    | cons w ws =>
      simp only [sameKeys, Bool.and_eq_true] at h ⊢
      exact ⟨sameKey_symm h.1, sameKeys_symm h.2⟩

end

mutual

theorem sameKey_trans : ∀ {u v w : Value}, u.sameKey v = true → v.sameKey w = true →
    u.sameKey w = true
  | .null, v, w, h, h' => by
    cases v with
    | null => exact h'
    | _ => exact absurd h nofun
  | .str s, v, w, h, h' => by
    cases v with
    | str t =>
      obtain rfl : s = t := by simpa [sameKey] using h
      exact h'
    | _ => exact absurd h nofun
  | .tuple us, v, w, h, h' => by
    cases v with
    | tuple vs =>
      cases w with
      | tuple ws => exact sameKeys_trans h h'
      | _ => exact absurd h' nofun
    | _ => exact absurd h nofun
  | .pattern p, v, w, h, h' => by
    cases v with
    | pattern q =>
      cases w with
      | pattern r =>
        simp only [sameKey, Bool.and_eq_true, beq_iff_eq] at h h' ⊢
        exact ⟨h.1.trans h'.1, h.2.trans h'.2⟩
      | _ => exact absurd h' nofun
    | _ => exact absurd h nofun
  | .bool b, v, w, h, h' => sameNumber_trans h (sameNumber_of_sameKey h h')
  | .int n, v, w, h, h' => sameNumber_trans h (sameNumber_of_sameKey h h')
  | .float x, v, w, h, h' => sameNumber_trans h (sameNumber_of_sameKey h h')
  | .serializer n, v, w, h, h' => by
    cases v with
    | serializer m =>
      obtain rfl : n = m := by simpa [sameKey] using h
      exact h'
    | _ => exact absurd h nofun
  | .list _, _, _, h, _ | .map _, _, _, h, _ => absurd h nofun

theorem sameKeys_trans : ∀ {us vs ws : List Value}, sameKeys us vs = true →
    sameKeys vs ws = true → sameKeys us ws = true
  | [], vs, ws, h, h' => by
    obtain rfl : vs = [] := by simpa [sameKeys] using h
    exact h'
  | u :: us, vs, ws, h, h' => by
    cases vs with
    | nil => exact absurd h nofun
    | cons v vs =>
      cases ws with
      | nil => exact absurd h' nofun
      | cons w ws =>
        simp only [sameKeys, Bool.and_eq_true] at h h' ⊢
        exact ⟨sameKey_trans h.1 h'.1, sameKeys_trans h.2 h'.2⟩

end

/-- **To name the same key is symmetric and transitive.** -/
instance partialEquivBEq : PartialEquivBEq Value where
  symm := sameKey_symm
  trans := sameKey_trans

end Value

end RouteTree
