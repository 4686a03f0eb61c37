import Mathlib
import Newswire.Double.Reading

/-!
On which side of nought a double lies, if on any: what is not a number lies on none. Comparing with
nought asks for the side alone, and so does the question whether something is not a number. Rounding
may bring a number to nought, but never to the other side, and never makes it something that is not
a number.
-/

namespace Newswire.Double

open Float.Model Float.Model.UnpackedFloat

/-- Where a double lies. -/
inductive Side where
  | none | below | nought | above
deriving DecidableEq

def Side.ofSign : Sign → Side
  | .negative => .below
  | .positive => .above

def Side.ofUnpacked : UnpackedFloat → Side
  | .notANumber => .none
  | .infinity s => .ofSign s
  | .zero _ => .nought
  | .finite s _ _ _ => .ofSign s

def Side.AtLeastNought (s : Side) : Prop :=
  s = .nought ∨ s = .above
deriving Decidable

def side (x : Float) : Side :=
  .ofUnpacked x.toModel.unpack

theorem Side.ofSign_ne_none (s : Sign) : Side.ofSign s ≠ .none := by
  cases s <;> decide

/-! ### Comparing with nought -/

variable {x y : Float}

theorem unpack_nought : (0.0 : Float).toModel.unpack = .zero .positive := rfl

theorem isNaN_iff : x.isNaN = true ↔ side x = .none := by
  show x.toModel.unpack.isNaN = true ↔ Side.ofUnpacked x.toModel.unpack = .none
  cases x.toModel.unpack with
  | notANumber => exact ⟨fun _ => rfl, fun _ => rfl⟩
  | zero s => exact ⟨fun h => (nomatch h), fun h => nomatch h⟩
  | infinity s => exact ⟨fun h => (nomatch h), fun h => absurd h (Side.ofSign_ne_none s)⟩
  | finite s m e hm => exact ⟨fun h => (nomatch h), fun h => absurd h (Side.ofSign_ne_none s)⟩

theorem compare_nought (u : UnpackedFloat) :
    u.compare (.zero .positive) = match Side.ofUnpacked u with
      | .none => none
      | .below => some .lt
      | .nought => some .eq
      | .above => some .gt := by
  cases u with
  | notANumber => rfl
  | zero s => rfl
  | infinity s => cases s <;> rfl
  | finite s m e hm => cases s <;> rfl

theorem nought_compare (u : UnpackedFloat) :
    (UnpackedFloat.zero .positive).compare u = match Side.ofUnpacked u with
      | .none => none
      | .below => some .gt
      | .nought => some .eq
      | .above => some .lt := by
  cases u with
  | notANumber => rfl
  | zero s => rfl
  | infinity s => cases s <;> rfl
  | finite s m e hm => cases s <;> rfl

theorem lt_iff : x < y ↔ x.toModel.unpack.compare y.toModel.unpack = some .lt := by
  show decide ((x.toModel.unpack.compare y.toModel.unpack == some .lt) = true) = true ↔ _
  rw [decide_eq_true_eq, beq_iff_eq]

theorem le_iff : x ≤ y ↔ (x.toModel.unpack.compare y.toModel.unpack).any (·.isLE) = true := by
  show decide ((x.toModel.unpack.compare y.toModel.unpack).any (·.isLE) = true) = true ↔ _
  rw [decide_eq_true_eq]

theorem lt_nought_iff : x < 0.0 ↔ side x = .below := by
  rw [lt_iff, unpack_nought, compare_nought]
  unfold side
  cases Side.ofUnpacked x.toModel.unpack <;> decide

theorem le_nought_iff : x ≤ 0.0 ↔ side x = .below ∨ side x = .nought := by
  rw [le_iff, unpack_nought, compare_nought]
  unfold side
  cases Side.ofUnpacked x.toModel.unpack <;> decide

theorem nought_lt_iff : 0.0 < x ↔ side x = .above := by
  rw [lt_iff, unpack_nought, nought_compare]
  unfold side
  cases Side.ofUnpacked x.toModel.unpack <;> decide

theorem nought_le_iff : 0.0 ≤ x ↔ (side x).AtLeastNought := by
  rw [le_iff, unpack_nought, nought_compare]
  unfold side
  cases Side.ofUnpacked x.toModel.unpack <;> decide

theorem nought_le_of_lt (h : 0.0 < x) : 0.0 ≤ x :=
  nought_le_iff.mpr (.inr (nought_lt_iff.mp h))

theorem eq_notANumber {u : UnpackedFloat} (h : Side.ofUnpacked u = .none) : u = .notANumber := by
  cases u with
  | notANumber => rfl
  | zero s => cases h
  | infinity s => exact absurd h (Side.ofSign_ne_none s)
  | finite s m e hm => exact absurd h (Side.ofSign_ne_none s)

theorem not_lt_of_isNaN (h : x.isNaN = true) : ¬ x < y := by
  rw [lt_iff, eq_notANumber (isNaN_iff.mp h)]
  exact fun hlt => nomatch hlt

theorem not_nought_lt_of_isNaN (h : x.isNaN = true) : ¬ 0.0 < x := by
  rw [nought_lt_iff, isNaN_iff.mp h]
  decide

theorem not_nought_le_of_isNaN (h : x.isNaN = true) : ¬ 0.0 ≤ x := by
  rw [nought_le_iff, isNaN_iff.mp h]
  decide

theorem not_le_nought_iff : ¬ x ≤ 0.0 ↔ 0.0 < x ∨ x.isNaN = true := by
  rw [le_nought_iff, nought_lt_iff, isNaN_iff]
  cases side x <;> decide

theorem not_lt_nought_iff : ¬ x < 0.0 ↔ 0.0 ≤ x ∨ x.isNaN = true := by
  rw [lt_nought_iff, nought_le_iff, isNaN_iff]
  cases side x <;> decide

theorem nought_lt_iff_of_not_le (h : ¬ x ≤ 0.0) : 0.0 < x ↔ x.isNaN = false := by
  rw [Bool.eq_false_iff]
  constructor
  · exact fun hpos hnan => not_nought_lt_of_isNaN hnan hpos
  · exact fun hnumber => (not_le_nought_iff.mp h).resolve_right hnumber

theorem nought_le_iff_of_not_lt (h : ¬ x < 0.0) : 0.0 ≤ x ↔ x.isNaN = false := by
  rw [Bool.eq_false_iff]
  constructor
  · exact fun hpos hnan => not_nought_le_of_isNaN hnan hpos
  · exact fun hnumber => (not_lt_nought_iff.mp h).resolve_right hnumber

/-! ### Packing -/

theorem unpackSign_packComponents (spec : Format) (s : Sign) (e : BitVec spec.exponentBits)
    (m : BitVec spec.mantissaBitsWithoutImplicit) :
    unpackSign (packComponents spec s e m) = s.toBitVec := by
  ext i hi
  have hlast : i = 0 := Nat.lt_one_iff.mp hi
  -- the sign stands above the exponent, which stands above the mantissa
  simp [unpackSign, packComponents, hlast, BitVec.getLsbD_eq_getElem, BitVec.getLsbD_append,
    BitVec.getElem_append]

theorem ofBitVec_toBitVec (s : Sign) : Sign.ofBitVec s.toBitVec = s := by
  cases s <;> rfl

theorem ofNat_ne_allOnes {bits n : Nat} (h : n + 1 < 2 ^ bits) :
    BitVec.ofNat bits n ≠ -BitVec.ofNat bits 1 := by
  intro heq
  have hval := congrArg BitVec.toNat heq
  rw [BitVec.toNat_ofNat, Nat.mod_eq_of_lt (by omega), BitVec.neg_one_eq_allOnes,
    BitVec.toNat_allOnes] at hval
  omega

theorem side_packComponents (spec : Format) (s : Sign) {e : BitVec spec.exponentBits}
    (m : BitVec spec.mantissaBitsWithoutImplicit) (he : e ≠ -BitVec.ofNat _ 1) :
    Side.ofUnpacked (unpack spec (packComponents spec s e m)) = .ofSign s ∨
      Side.ofUnpacked (unpack spec (packComponents spec s e m)) = .nought := by
  unfold UnpackedFloat.unpack
  simp only [unpackMantissa_packComponents, unpackExponent_packComponents,
    unpackSign_packComponents, ofBitVec_toBitVec, if_neg he]
  split
  · split
    · exact .inr rfl
    · exact .inl rfl
  · exact .inl rfl

theorem side_packedInfinity (spec : Format) (s : Sign) :
    Side.ofUnpacked (unpack spec (packedInfinity spec s)) = .ofSign s := by
  unfold UnpackedFloat.unpack packedInfinity
  simp only [unpackMantissa_packComponents, unpackExponent_packComponents,
    unpackSign_packComponents, ofBitVec_toBitVec, if_true]
  rfl

/-- Packing leaves what is not a number as it is; and a number stays on its side or comes to
nought. -/
theorem side_pack (u : UnpackedFloat) :
    side (.ofModel (.pack u)) = .ofUnpacked u ∨
      side (.ofModel (.pack u)) = .nought ∧ Side.ofUnpacked u ≠ .none := by
  have hpacked : side (.ofModel (.pack u))
      = .ofUnpacked (unpack .binary64 (pack .binary64 u)) := rfl
  rw [hpacked]
  cases u with
  | notANumber => exact .inl rfl
  | infinity s => exact .inl (side_packedInfinity _ s)
  | zero s => exact .inl (by cases s <;> rfl)
  | finite s m e hm =>
    have hnumber : Side.ofUnpacked (.finite s m e hm) ≠ .none := Side.ofSign_ne_none s
    have hcomponents {e' : BitVec 11} (m' : BitVec 52) (he' : e' ≠ -BitVec.ofNat 11 1) :
        Side.ofUnpacked (unpack .binary64 (packComponents .binary64 s e' m')) = .ofSign s ∨
          Side.ofUnpacked (unpack .binary64 (packComponents .binary64 s e' m')) = .nought ∧
            Side.ofUnpacked (.finite s m e hm) ≠ .none :=
      (side_packComponents .binary64 s m' he').imp_right fun h => ⟨h, hnumber⟩
    unfold UnpackedFloat.pack
    dsimp only
    split
    · exact .inl (side_packedInfinity _ s)
    · next hfits =>
      split
      · exact hcomponents _ (ofNat_ne_allOnes (Nat.lt_of_not_le hfits))
      · exact hcomponents _ (by decide)

theorem isNaN_pack (u : UnpackedFloat) :
    (Float.ofModel (.pack u)).isNaN = true ↔ Side.ofUnpacked u = .none := by
  rw [isNaN_iff]
  rcases side_pack u with h | ⟨h, hnumber⟩
  · rw [h]
  · rw [h]
    exact ⟨fun hnone => (nomatch hnone), fun hnone => absurd hnone hnumber⟩

/-! ### Arithmetic -/

theorem isNaN_neg (x : Float) : (-x).isNaN = x.isNaN := by
  have hneg : (-x).isNaN = true ↔ Side.ofUnpacked x.toModel.unpack.neg = .none := isNaN_pack _
  have hsame : Side.ofUnpacked x.toModel.unpack.neg = .none ↔ side x = .none := by
    unfold side
    cases x.toModel.unpack with
    | notANumber => exact .rfl
    | zero s => exact .rfl
    | infinity s => cases s <;> decide
    | finite s m e hm =>
      exact iff_of_false (Side.ofSign_ne_none (-s)) (Side.ofSign_ne_none s)
  rw [Bool.eq_iff_iff, hneg, hsame, isNaN_iff]

theorem side_roundWithAccuracy (spec : Format) (s : Sign) (m : Nat) (e : Int) (a : Accuracy) :
    Side.ofUnpacked (roundWithAccuracy spec s m e a) = .nought ∨
      Side.ofUnpacked (roundWithAccuracy spec s m e a) = .ofSign s := by
  unfold roundWithAccuracy
  dsimp only
  split
  · exact .inl rfl
  · exact .inr rfl

theorem roundWithAccuracy_ne_none (spec : Format) (s : Sign) (m : Nat) (e : Int) (a : Accuracy) :
    Side.ofUnpacked (roundWithAccuracy spec s m e a) ≠ .none := by
  rcases side_roundWithAccuracy spec s m e a with h | h
  · rw [h]
    decide
  · rw [h]
    exact Side.ofSign_ne_none s

theorem normalize_ne_none (spec : Format) (n e : Int) (s : Sign) :
    Side.ofUnpacked (UnpackedFloat.normalize spec n e s) ≠ .none := by
  unfold UnpackedFloat.normalize
  split
  · exact roundWithAccuracy_ne_none spec _ _ _ _
  · exact fun h => nomatch h
  · exact roundWithAccuracy_ne_none spec _ _ _ _

theorem side_normalize (spec : Format) {n : Int} (hn : 0 < n) (e : Int) (s : Sign) :
    (Side.ofUnpacked (UnpackedFloat.normalize spec n e s)).AtLeastNought := by
  have hcompare : compare n 0 = .gt := Int.compare_eq_gt.mpr hn
  unfold UnpackedFloat.normalize
  rw [hcompare]
  exact side_roundWithAccuracy spec .positive _ _ _

theorem fst_decreaseExponent_pos {m : Nat} (hm : 0 < m) (e target : Int) :
    0 < (decreaseExponent m e target).1 := by
  show 0 < m <<< (e - target).toNat
  rw [Nat.shiftLeft_eq]
  exact Nat.mul_pos hm (Nat.two_pow_pos _)

/-- The sum of doubles that are not below nought is not below it either, and not undefined: two
infinities of one sign have a sum. -/
theorem side_add (spec : Format) {u v : UnpackedFloat} (hu : (Side.ofUnpacked u).AtLeastNought)
    (hv : (Side.ofUnpacked v).AtLeastNought) :
    (Side.ofUnpacked (UnpackedFloat.add spec u v)).AtLeastNought := by
  have hnone : ¬ Side.none.AtLeastNought := by decide
  have hbelow : ¬ Side.below.AtLeastNought := by decide
  cases u with
  | notANumber => exact absurd hu hnone
  | zero s =>
    cases v with
    | notANumber => exact absurd hv hnone
    | zero t => cases s <;> cases t <;> exact .inl rfl
    | infinity t => exact hv
    | finite t m e hm => exact hv
  | infinity s =>
    cases s with
    | negative => exact absurd hu hbelow
    | positive =>
      cases v with
      | notANumber => exact absurd hv hnone
      | zero t => exact hu
      | finite t m e hm => exact hu
      | infinity t =>
        -- only infinities of different signs have no sum
        cases t with
        | negative => exact absurd hv hbelow
        | positive => exact hu
  | finite s m e hm =>
    cases s with
    | negative => exact absurd hu hbelow
    | positive =>
      cases v with
      | notANumber => exact absurd hv hnone
      | zero t => exact hu
      | infinity t => exact hv
      | finite t n f hn =>
        cases t with
        | negative => exact absurd hv hbelow
        | positive =>
          -- both are brought to the smaller exponent, where their sum is exact
          have hm' := fst_decreaseExponent_pos hm e (min e f)
          have hn' := fst_decreaseExponent_pos hn f (min e f)
          refine side_normalize spec ?_ _ _
          show 0 < ((decreaseExponent m e (min e f)).1 : Int) + (decreaseExponent n f (min e f)).1
          omega

theorem nought_le_add (hx : 0.0 ≤ x) (hy : 0.0 ≤ y) : 0.0 ≤ x + y := by
  rw [nought_le_iff] at hx hy ⊢
  have hsum := side_add .binary64 hx hy
  rcases side_pack (UnpackedFloat.add .binary64 x.toModel.unpack y.toModel.unpack) with h | ⟨h, _⟩
  · exact h ▸ hsum
  · exact .inl h

theorem isNaN_add (h : x.isNaN = true ∨ y.isNaN = true) : (x + y).isNaN = true := by
  rw [isNaN_iff, isNaN_iff] at h
  refine (isNaN_pack _).mpr ?_
  rcases h with h | h
  · rw [eq_notANumber h]
    rfl
  · rw [eq_notANumber h]
    cases x.toModel.unpack <;> rfl

theorem isNaN_sub (h : x.isNaN = true) (y : Float) : (x - y).isNaN = true := by
  refine (isNaN_pack _).mpr ?_
  rw [eq_notANumber (isNaN_iff.mp h)]
  rfl

theorem mul_ne_none (spec : Format) {u v : UnpackedFloat} (hu : Side.ofUnpacked u ≠ .none)
    (hfinite : v.isFinite = true) (hv : Side.ofUnpacked v ≠ .nought) :
    Side.ofUnpacked (UnpackedFloat.mul spec u v) ≠ .none := by
  cases v with
  | notANumber => cases hfinite
  | infinity s => cases hfinite
  | zero s => exact absurd rfl hv
  | finite s m e hm =>
    cases u with
    | notANumber => exact absurd rfl hu
    | zero t => exact fun h => nomatch h
    | infinity t => exact Side.ofSign_ne_none _
    | finite t n f hn => exact roundWithAccuracy_ne_none spec _ _ _ _

theorem div_ne_none (spec : Format) {u v : UnpackedFloat} (hu : Side.ofUnpacked u ≠ .none)
    (hfinite : v.isFinite = true) (hv : Side.ofUnpacked v ≠ .nought) :
    Side.ofUnpacked (UnpackedFloat.div spec u v) ≠ .none := by
  cases v with
  | notANumber => cases hfinite
  | infinity s => cases hfinite
  | zero s => exact absurd rfl hv
  | finite s m e hm =>
    cases u with
    | notANumber => exact absurd rfl hu
    | zero t => exact fun h => nomatch h
    | infinity t => exact Side.ofSign_ne_none _
    | finite t n f hn => exact roundWithAccuracy_ne_none spec _ _ _ _

/-! ### Decimals -/

theorem unpacked_ofScientific_ne_none (spec : Format) (m : Nat) (e : Int) :
    Side.ofUnpacked (UnpackedFloat.ofScientific spec m e) ≠ .none := by
  unfold UnpackedFloat.ofScientific
  split
  · exact fun h => nomatch h
  split
  · exact fun h => nomatch h
  split
  · exact fun h => nomatch h
  split
  · exact mul_ne_none spec (Side.ofSign_ne_none .positive) rfl fun h => nomatch h
  · exact div_ne_none spec (Side.ofSign_ne_none .positive) rfl fun h => nomatch h

theorem powersOfTen_finite (e : Fin 23) :
    Float.exactlyRepresentablePowersOfTen[e].toModel.unpack.isFinite = true ∧
      side Float.exactlyRepresentablePowersOfTen[e] ≠ .nought := by
  revert e
  decide

theorem isNaN_ofScientific (m : Nat) (negative : Bool) (e : Nat) :
    (Float.ofScientific m negative e).isNaN = false := by
  rw [Bool.eq_false_iff]
  unfold Float.ofScientific
  split
  · next h =>
    obtain ⟨hfinite, hpower⟩ := powersOfTen_finite ⟨e, Nat.lt_succ_of_le h.2⟩
    have hnumber : side m.toUInt64.toFloat ≠ .none := fun hnone =>
      normalize_ne_none _ _ _ _ ((isNaN_pack _).mp (isNaN_iff.mpr hnone))
    dsimp only
    split
    · exact fun hnan => div_ne_none _ hnumber hfinite hpower ((isNaN_pack _).mp hnan)
    · exact fun hnan => mul_ne_none _ hnumber hfinite hpower ((isNaN_pack _).mp hnan)
  · exact fun hnan => unpacked_ofScientific_ne_none _ _ _ ((isNaN_pack _).mp hnan)

end Newswire.Double
