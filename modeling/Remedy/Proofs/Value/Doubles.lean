import Mathlib
import Remedy.Value.Order
/-!
# Proofs.Value.Doubles — the order of doubles, and whole numbers among them

Every double that is a number has a rank among the integers, its bit pattern with the sign for a sign (`rank`), and two
doubles compare as their ranks do (`compareFloat_eq`).  A whole number that becomes a double keeps its place: its
mantissa is cut to 53 bits and rounded, which respects the order of mantissas, and where rounding carries into the
exponent the bit pattern is still the next one.  So a greater whole number never becomes a lesser double
(`rankOfInt_mono`).
-/
namespace Remedy

open Float.Model (Format UnpackedFloat)
open Float.Model.UnpackedFloat (Sign ExtendedMantissa unpackExponent unpackMantissa)

namespace Double

/-! ## Ranks -/

def bits (m : Nat) (e : Int) : Int := (e + 1074) * 0x10000000000000 + m

def rankOf : UnpackedFloat → Option Int
  | .notANumber => none
  | .infinity s => some (s.apply 0x7ff0000000000000)
  | .zero _ => some 0
  | .finite s m e _ => some (s.apply (bits m e))

/-- **The rank of a double**; one that is not a number has none. -/
def rank (x : Float) : Option Int := rankOf x.toModel.unpack

def compareRanks (a b : Option Int) : Option Ordering := a.bind fun a => b.map fun b => compare a b

/-- **A mantissa and an exponent as they are kept**: the mantissa has 53 bits, or fewer with the least exponent. -/
structure Kept (m : Nat) (e : Int) : Prop where
  mantissa : m < 0x20000000000000
  least : -1074 ≤ e
  greatest : e ≤ 971
  leading : e = -1074 ∨ 0x10000000000000 ≤ m

/-- An unpacked double as unpacking gives it. -/
def IsKept : UnpackedFloat → Prop
  | .finite _ m e _ => Kept m e
  | _ => True

theorem isKept_unpack (b : BitVec Format.binary64.numBits) : IsKept (UnpackedFloat.unpack .binary64 b) := by
  have hbias : (Format.binary64.exponentBias : Int) + (Format.binary64.mantissaBitsWithoutImplicit : Int) = 1075 := rfl
  unfold Float.Model.UnpackedFloat.unpack
  simp only [hbias]
  have hm : (unpackMantissa b).toNat < 0x10000000000000 := (unpackMantissa b).isLt
  have he : (unpackExponent b).toNat < 0x800 := (unpackExponent b).isLt
  split
  · split <;> trivial
  · rename_i htop
    have htop : (unpackExponent b).toNat ≠ 0x7ff := fun h => htop (BitVec.eq_of_toNat_eq h)
    split
    · rename_i hzero
      split
      · trivial
      · have he0 : (unpackExponent b).toNat = 0 := congrArg BitVec.toNat hzero
        refine ⟨?_, ?_, ?_, .inl ?_⟩ <;> omega
    · rename_i hzero
      have he0 : (unpackExponent b).toNat ≠ 0 := fun h => hzero (BitVec.eq_of_toNat_eq h)
      have happend : (1#1 ++ unpackMantissa b).toNat = 0x10000000000000 + (unpackMantissa b).toNat := by
        rw [BitVec.toNat_append, ← Nat.shiftLeft_add_eq_or_of_lt (unpackMantissa b).isLt]
        rfl
      refine ⟨?_, ?_, ?_, .inr ?_⟩ <;> omega

theorem bits_pos {m : Nat} {e : Int} (h : Kept m e) (hm : 0 < m) : 0 < bits m e := by
  obtain ⟨-, he, -, -⟩ := h
  unfold bits
  omega

theorem bits_lt {m : Nat} {e : Int} (h : Kept m e) : bits m e < 0x7ff0000000000000 := by
  obtain ⟨hm, -, he, -⟩ := h
  unfold bits
  omega

/-- **Bit patterns are ordered** by the exponent first and then by the mantissa. -/
theorem compare_bits {m m' : Nat} {e e' : Int} (h : Kept m e) (h' : Kept m' e') :
    compare (bits m e) (bits m' e') = (compare e e').then (compare m m') := by
  obtain ⟨hm, he, -, hl⟩ := h
  obtain ⟨hm', he', -, hl'⟩ := h'
  unfold bits
  rcases Int.lt_trichotomy e e' with hlt | rfl | hgt
  · rw [Int.compare_eq_lt.2 hlt]
    exact Int.compare_eq_lt.2 (by omega)
  · rw [Int.compare_eq_eq.2 rfl]
    show compare _ _ = compare m m'
    rcases Nat.lt_trichotomy m m' with hlt | rfl | hgt
    · rw [Nat.compare_eq_lt.2 hlt]
      exact Int.compare_eq_lt.2 (by omega)
    · rw [Nat.compare_eq_eq.2 rfl]
      exact Int.compare_eq_eq.2 rfl
    · rw [Nat.compare_eq_gt.2 hgt]
      exact Int.compare_eq_gt.2 (by omega)
  · rw [Int.compare_eq_gt.2 hgt]
    exact Int.compare_eq_gt.2 (by omega)

theorem compare_neg (a b : Int) : compare (-a) (-b) = (compare a b).swap := by
  rcases Int.lt_trichotomy a b with h | rfl | h
  · rw [Int.compare_eq_lt.2 h]
    exact Int.compare_eq_gt.2 (by omega)
  · rw [Int.compare_eq_eq.2 rfl, Int.compare_eq_eq.2 rfl]
    rfl
  · rw [Int.compare_eq_gt.2 h]
    exact Int.compare_eq_lt.2 (by omega)

/-- **Unpacked doubles compare as their ranks do.** -/
theorem compare_eq {u v : UnpackedFloat} (hu : IsKept u) (hv : IsKept v) :
    u.compare v = compareRanks (rankOf u) (rankOf v) := by
  have hlt : ∀ {a b : Int}, a < b → some Ordering.lt = some (compare a b) :=
    fun h => congrArg some (Int.compare_eq_lt.2 h).symm
  have hgt : ∀ {a b : Int}, b < a → some Ordering.gt = some (compare a b) :=
    fun h => congrArg some (Int.compare_eq_gt.2 h).symm
  cases u with
  | notANumber => rfl
  | infinity s =>
    cases v with
    | notANumber => cases s <;> rfl
    | infinity s' => cases s <;> cases s' <;> rfl
    | zero s' => cases s <;> rfl
    | finite s' m e hm =>
      have hpos := bits_pos hv hm
      have htop := bits_lt hv
      cases s with
      | negative => exact hlt (by cases s' <;> simp only [Sign.apply] <;> omega)
      | positive => exact hgt (by cases s' <;> simp only [Sign.apply] <;> omega)
  | zero s =>
    cases v with
    | notANumber => rfl
    | infinity s' => cases s' <;> rfl
    | zero s' => rfl
    | finite s' m e hm =>
      have hpos := bits_pos hv hm
      cases s' with
      | negative => exact hgt (Int.neg_neg_of_pos hpos)
      | positive => exact hlt hpos
  | finite s m e hm =>
    have hpos := bits_pos hu hm
    have htop := bits_lt hu
    cases v with
    | notANumber => cases s <;> rfl
    | infinity s' =>
      cases s' with
      | negative => cases s <;> exact hgt (by simp only [Sign.apply]; omega)
      | positive => cases s <;> exact hlt (by simp only [Sign.apply]; omega)
    | zero s' =>
      cases s with
      | negative => exact hlt (Int.neg_neg_of_pos hpos)
      | positive => exact hgt hpos
    | finite s' m' e' hm' =>
      have hpos' := bits_pos hv hm'
      cases s <;> cases s'
      · exact congrArg some (((compare_bits hu hv).symm ▸ compare_neg _ _).symm)
      · exact hlt (by simp only [Sign.apply]; omega)
      · exact hgt (by simp only [Sign.apply]; omega)
      · exact congrArg some (compare_bits hu hv).symm

theorem isKept_toModel (x : Float) : IsKept x.toModel.unpack := isKept_unpack _

theorem compareRanks_swap (a b : Option Int) : compareRanks b a = (compareRanks a b).map Ordering.swap := by
  cases a with
  | none => cases b <;> rfl
  | some a =>
    cases b with
    | none => rfl
    | some b => exact congrArg some Std.OrientedOrd.eq_swap

end Double

open Double in
/-- **Doubles compare as their ranks do.** -/
theorem compareFloat_eq (x y : Float) : compareFloat x y = compareRanks (rank x) (rank y) := by
  have hxy := compare_eq (isKept_toModel x) (isKept_toModel y)
  have hyx := compare_eq (isKept_toModel y) (isKept_toModel x)
  rw [compareRanks_swap (rankOf x.toModel.unpack)] at hyx
  have hlt : x < y ↔ compareRanks (rank x) (rank y) = some .lt := by
    refine decide_eq_true_iff.trans ?_
    show (x.toModel.unpack.compare y.toModel.unpack == some .lt) = true ↔ _
    rw [hxy, beq_iff_eq]
    rfl
  have heq : (x == y) = true ↔ compareRanks (rank x) (rank y) = some .eq := by
    show (x.toModel.unpack.compare y.toModel.unpack == some .eq) = true ↔ _
    rw [hxy, beq_iff_eq]
    rfl
  have hgt : y < x ↔ compareRanks (rank x) (rank y) = some .gt := by
    refine decide_eq_true_iff.trans ?_
    show (y.toModel.unpack.compare x.toModel.unpack == some .lt) = true ↔ _
    rw [hyx, beq_iff_eq]
    show (compareRanks (rank x) (rank y)).map _ = _ ↔ _
    cases compareRanks (rank x) (rank y) with
    | none => exact ⟨nofun, nofun⟩
    | some o => cases o <;> decide
  unfold compareFloat
  simp only [hlt, heq, hgt]
  cases compareRanks (rank x) (rank y) with
  | none => rfl
  | some o => cases o <;> rfl

namespace Double

/-! ## Rounding -/

/-- What has been cut off an extended mantissa, as two more bits of it. -/
def code (em : ExtendedMantissa) : Nat := 4 * em.mantissa + 2 * em.roundBit.toNat + em.stickyBit.toNat

def shifted (k : Nat) (em : ExtendedMantissa) : ExtendedMantissa := k.repeat ExtendedMantissa.shiftRightOne em

def whole (m : Nat) : ExtendedMantissa := ⟨m, false, false⟩

/-- Moving by one bit keeps of what is cut off whether there was anything. -/
theorem code_shiftRightOne (em : ExtendedMantissa) :
    code em.shiftRightOne = 2 * (code em / 4) + min 1 (code em % 4) := by
  obtain ⟨m, r, s⟩ := em
  have hbit : (m % 2 != 0).toNat = m % 2 := by
    rcases Nat.mod_two_eq_zero_or_one m with h | h <;> rw [h] <;> rfl
  show 4 * (m / 2) + 2 * (m % 2 != 0).toNat + (r || s).toNat =
    2 * ((4 * m + 2 * r.toNat + s.toNat) / 4) + min 1 ((4 * m + 2 * r.toNat + s.toNat) % 4)
  rw [hbit]
  cases r <;> cases s <;> simp only [Bool.toNat, Bool.or, cond] <;> omega

/-- Rounding goes to the nearer mantissa, and to the even one if both are as near. -/
theorem roundedMantissa_eq (em : ExtendedMantissa) :
    em.roundedMantissa = code em / 4 +
      if code em % 4 = 3 then 1 else if code em % 4 = 2 then code em / 4 % 2 else 0 := by
  obtain ⟨m, r, s⟩ := em
  have hquot : code ⟨m, r, s⟩ / 4 = m := by
    show (4 * m + 2 * r.toNat + s.toNat) / 4 = m
    cases r <;> cases s <;> simp only [Bool.toNat, cond] <;> omega
  have hrem : code ⟨m, r, s⟩ % 4 = 2 * r.toNat + s.toNat := by
    show (4 * m + 2 * r.toNat + s.toNat) % 4 = 2 * r.toNat + s.toNat
    cases r <;> cases s <;> simp only [Bool.toNat, cond] <;> omega
  rw [hquot, hrem]
  cases r <;> cases s <;> rfl

/-- **Moving to the right keeps the order.** -/
theorem code_shifted_mono : ∀ (k : Nat) {a b : ExtendedMantissa}, code a ≤ code b →
    code (shifted k a) ≤ code (shifted k b)
  | 0, _, _, h => h
  | k + 1, a, b, h => by
    have hk := code_shifted_mono k h
    show code (shifted k a).shiftRightOne ≤ code (shifted k b).shiftRightOne
    rw [code_shiftRightOne, code_shiftRightOne]
    omega

/-- **Rounding keeps the order.** -/
theorem roundedMantissa_mono {a b : ExtendedMantissa} (h : code a ≤ code b) :
    a.roundedMantissa ≤ b.roundedMantissa := by
  rw [roundedMantissa_eq, roundedMantissa_eq]
  split <;> split <;> (try split) <;> (try split) <;> omega

theorem mantissa_shifted (m : Nat) : ∀ k : Nat, (shifted k (whole m)).mantissa = m / 2 ^ k
  | 0 => (Nat.div_one m).symm
  | k + 1 => by
    show (shifted k (whole m)).mantissa / 2 = _
    rw [mantissa_shifted m k, Nat.div_div_eq_div_mul, Nat.pow_succ]

theorem shifted_exact (m : Nat) : ∀ k : Nat, shifted k (whole (m * 2 ^ k)) = whole m
  | 0 => by rw [Nat.pow_zero, Nat.mul_one]; rfl
  | k + 1 => by
    show (shifted k (whole (m * 2 ^ (k + 1)))).shiftRightOne = _
    rw [Nat.pow_succ, ← Nat.mul_assoc, Nat.mul_right_comm, shifted_exact (m * 2) k]
    unfold whole ExtendedMantissa.shiftRightOne
    simp

theorem roundedMantissa_bounds (em : ExtendedMantissa) :
    em.mantissa ≤ em.roundedMantissa ∧ em.roundedMantissa ≤ em.mantissa + 1 := by
  have hquot : code em / 4 = em.mantissa := by
    unfold code
    cases em.roundBit <;> cases em.stickyBit <;> simp only [Bool.toNat, cond] <;> omega
  rw [roundedMantissa_eq, hquot]
  split
  · omega
  · split <;> omega

def Full (m : Nat) : Prop := 0x10000000000000 ≤ m ∧ m < 0x20000000000000

theorem Full.log2 {m : Nat} (h : Full m) : m.log2 = 52 :=
  (Nat.log2_eq_iff (Nat.ne_of_gt (Nat.lt_of_lt_of_le (by decide) h.1))).2 h

theorem Full.pos {m : Nat} (h : Full m) : 0 < m := Nat.lt_of_lt_of_le (by decide) h.1

theorem full_div {m k : Nat} (h : m.log2 = 52 + k) : Full (m / 2 ^ k) := by
  have hne : m ≠ 0 := by
    rintro rfl
    rw [Nat.log2_zero] at h
    omega
  have hlow := Nat.log2_self_le hne
  have hhigh : m < 2 ^ (m.log2 + 1) := Nat.lt_log2_self
  rw [h, Nat.pow_add] at hlow
  rw [h, Nat.add_right_comm, Nat.pow_add] at hhigh
  exact ⟨(Nat.le_div_iff_mul_le (Nat.two_pow_pos k)).2 hlow, (Nat.div_lt_iff_lt_mul (Nat.two_pow_pos k)).2 hhigh⟩

theorem unpackSign_packComponents (s : Sign) (ev : BitVec 11) (mv : BitVec 52) :
    Sign.ofBitVec (Float.Model.UnpackedFloat.unpackSign
      (Float.Model.UnpackedFloat.packComponents .binary64 s ev mv)) = s := by
  unfold Float.Model.UnpackedFloat.unpackSign Float.Model.UnpackedFloat.packComponents BitVec.extractLsb
  rw [BitVec.extractLsb'_append_eq_of_le (by decide), BitVec.extractLsb'_append_eq_of_le (by decide)]
  cases s <;> rfl

/-- **Packing loses nothing** of a mantissa of 53 bits. -/
theorem unpack_pack {s : Sign} {m : Nat} {e : Int} (hm : 0 < m) (hf : Full m) (hk : Kept m e) :
    UnpackedFloat.unpack .binary64 (UnpackedFloat.pack .binary64 (.finite s m e hm)) = .finite s m e hm := by
  obtain ⟨-, hle, hge, -⟩ := hk
  have hbias : (e + (Format.binary64.exponentBias : Int) + (Format.binary64.mantissaBitsWithoutImplicit : Int)).toNat =
      (e + 1075).toNat := by
    show (e + 1023 + 52).toNat = _
    omega
  have hexp : (BitVec.ofNat 11 (e + 1075).toNat).toNat = (e + 1075).toNat := by
    rw [BitVec.toNat_ofNat]
    exact Nat.mod_eq_of_lt (by omega)
  have hmant : (1#1 ++ BitVec.ofNat 52 m).toNat = m := by
    rw [BitVec.toNat_append, ← Nat.shiftLeft_add_eq_or_of_lt (BitVec.ofNat 52 m).isLt, BitVec.toNat_ofNat]
    show 0x10000000000000 + m % 0x10000000000000 = m
    obtain ⟨h, h'⟩ := hf
    omega
  have hpack : UnpackedFloat.pack .binary64 (.finite s m e hm) =
      Float.Model.UnpackedFloat.packComponents .binary64 s (BitVec.ofNat 11 (e + 1075).toNat) (BitVec.ofNat 52 m) := by
    unfold Float.Model.UnpackedFloat.pack
    simp only [hbias, hf.log2]
    rw [if_neg (by show ¬ 2048 ≤ _; omega), if_pos (show 52 + 1 = Format.binary64.mantissaBits from rfl)]
  rw [hpack]
  unfold Float.Model.UnpackedFloat.unpack
  simp only [Float.Model.UnpackedFloat.unpackMantissa_packComponents,
    Float.Model.UnpackedFloat.unpackExponent_packComponents, unpackSign_packComponents]
  have htop : BitVec.ofNat 11 (e + 1075).toNat ≠ -1#11 := fun h => by
    have hval : (e + 1075).toNat = 2047 := hexp.symm.trans (congrArg BitVec.toNat h)
    omega
  have hzero : BitVec.ofNat 11 (e + 1075).toNat ≠ 0#11 := fun h => by
    have hval : (e + 1075).toNat = 0 := hexp.symm.trans (congrArg BitVec.toNat h)
    omega
  have hback : ((BitVec.ofNat 11 (e + 1075).toNat).toNat : Int) - (1023 + 52) = e := by
    rw [hexp]
    omega
  rw [if_neg htop, if_neg hzero]
  exact (UnpackedFloat.finite.injEq ..).mpr ⟨rfl, hmant, hback⟩

/-- **A double with 53 bits of mantissa** and the bit pattern of another mantissa and exponent. -/
def IsFull (u : UnpackedFloat) (s : Sign) (b : Int) : Prop :=
  ∃ m e hm, u = .finite s m e hm ∧ Full m ∧ Kept m e ∧ bits m e = b

theorem shiftToTargetExponent_eq {m k : Nat} {e : Int} (h : m.log2 = 52 + k) (he : -1074 ≤ e + k) :
    Float.Model.UnpackedFloat.shiftToTargetExponent .binary64 m e .exact = (shifted k (whole m), e + k) := by
  have htarget : Format.binary64.targetExponent (Float.Model.totalExponent m e) = e + k := by
    show max ((m.log2 : Int) + 1 + e - 53) (-1074) = e + k
    omega
  have hamount : (e + k - e).toNat = k := by omega
  unfold Float.Model.UnpackedFloat.shiftToTargetExponent
  simp only [htarget]
  unfold Float.Model.UnpackedFloat.shiftToExponent
  simp only [hamount]
  rfl

/-- **Rounding a long mantissa** cuts it to 53 bits and rounds; a carry goes into the exponent. -/
theorem roundWithAccuracy_full (s : Sign) {m k : Nat} {e : Int} (h : m.log2 = 52 + k) (he : -1074 ≤ e + k)
    (he' : e + k ≤ 970) :
    IsFull (Float.Model.UnpackedFloat.roundWithAccuracy .binary64 s m e .exact) s
      (bits (shifted k (whole m)).roundedMantissa (e + k)) := by
  obtain ⟨hlow, hhigh⟩ := full_div h
  obtain ⟨hdown, hup⟩ := roundedMantissa_bounds (shifted k (whole m))
  rw [mantissa_shifted] at hdown hup
  unfold Float.Model.UnpackedFloat.roundWithAccuracy
  rw [shiftToTargetExponent_eq h he]
  simp only
  generalize (shifted k (whole m)).roundedMantissa = r at hdown hup
  by_cases hr : r < 0x20000000000000
  · have hfull : Full r := ⟨Nat.le_trans hlow hdown, hr⟩
    have hagain := shiftToTargetExponent_eq (k := 0) (e := e + k) (hfull.log2) (by omega)
    simp only [hagain]
    rw [dif_neg (show (shifted 0 (whole r)).mantissa ≠ 0 from Nat.ne_of_gt hfull.pos)]
    refine ⟨r, e + k + (0 : Nat), hfull.pos, rfl, hfull, ⟨hr, by omega, by omega, .inr hfull.1⟩, ?_⟩
    exact congrArg (bits r) (Int.add_zero _)
  · have hcarry : r = 0x20000000000000 := by omega
    subst hcarry
    have hagain := shiftToTargetExponent_eq (m := 0x20000000000000) (k := 1) (e := e + k) (by decide) (by omega)
    simp only [hagain]
    rw [dif_neg (by decide)]
    have hfull : Full 0x10000000000000 := ⟨by decide, by decide⟩
    refine ⟨_, _, hfull.pos, rfl, hfull, ⟨hfull.2, by omega, by omega, .inr hfull.1⟩, ?_⟩
    unfold bits
    omega

/-! ## Whole numbers as doubles -/

theorem log2_mul_two_pow {m : Nat} (hm : 0 < m) (k : Nat) : (m * 2 ^ k).log2 = m.log2 + k := by
  have hpow := Nat.two_pow_pos k
  refine (Nat.log2_eq_iff (Nat.ne_of_gt (Nat.mul_pos hm hpow))).2 ⟨?_, ?_⟩
  · rw [Nat.pow_add]
    exact Nat.mul_le_mul_right _ (Nat.log2_self_le (Nat.ne_of_gt hm))
  · rw [Nat.add_right_comm, Nat.pow_add]
    exact Nat.mul_lt_mul_of_pos_right Nat.lt_log2_self hpow

/-- The mantissa that a whole number gets. -/
def rounded (m : Nat) : Nat := (shifted (m.log2 + 1) (whole (m * 2 ^ 53))).roundedMantissa

/-- **The bit pattern that a whole number gets**, without the sign. -/
def magnitude (m : Nat) : Int := if m = 0 then 0 else bits (rounded m) (m.log2 - 52)

theorem unpack_pack_full {u : UnpackedFloat} {s : Sign} {b : Int} (h : IsFull u s b) :
    (Float.Model.pack u).unpack = u := by
  obtain ⟨m, e, hm, rfl, hf, hk, -⟩ := h
  exact unpack_pack hm hf hk

theorem isFull_neg {u : UnpackedFloat} {s : Sign} {b : Int} (h : IsFull u s b) : IsFull u.neg (-s) b := by
  obtain ⟨m, e, hm, rfl, hf, hk, hb⟩ := h
  exact ⟨m, e, hm, rfl, hf, hk, hb⟩

theorem rounded_bounds {m : Nat} (hm : 0 < m) : 0x10000000000000 ≤ rounded m ∧ rounded m ≤ 0x20000000000000 := by
  have hlog : (m * 2 ^ 53).log2 = 52 + (m.log2 + 1) := by
    rw [log2_mul_two_pow hm]
    omega
  obtain ⟨hlow, hhigh⟩ := full_div hlog
  obtain ⟨hdown, hup⟩ := roundedMantissa_bounds (shifted (m.log2 + 1) (whole (m * 2 ^ 53)))
  rw [mantissa_shifted] at hdown hup
  exact ⟨Nat.le_trans hlow hdown, Nat.le_trans hup hhigh⟩

theorem mul_one_full {u : UnpackedFloat} {b : Int} (h : IsFull u .positive b) (hb : b < 0x7f00000000000000) :
    IsFull (UnpackedFloat.mul .binary64 u (Float.Model.ofBits 0x3FF0000000000000).unpack) .positive b := by
  have hone : (Float.Model.ofBits 0x3FF0000000000000).unpack = .finite .positive (2 ^ 52) (-52) (by decide) := by
    rfl
  obtain ⟨m, e, hm, rfl, hf, hk, rfl⟩ := h
  have hle : e + (-52) + (52 : Nat) ≤ 970 := by
    have hlow := hf.1
    unfold bits at hb
    omega
  have hlog : (m * 2 ^ 52).log2 = 52 + 52 := by rw [log2_mul_two_pow hm, hf.log2]
  have hround := roundWithAccuracy_full .positive hlog (by have := hk.least; omega) hle
  rw [shifted_exact] at hround
  have hback : e + (-52) + (52 : Nat) = e := by omega
  rw [hback] at hround
  rw [hone]
  exact hround

theorem rounded_of_lt {m k : Nat} (h : m.log2 + k = 52) : rounded m = m * 2 ^ k := by
  have hsplit : m * 2 ^ 53 = m * 2 ^ k * 2 ^ (m.log2 + 1) := by
    rw [Nat.mul_assoc, ← Nat.pow_add]
    congr 2
    omega
  unfold rounded
  rw [hsplit, shifted_exact]
  rfl

theorem isFull_ofUInt64 {m k : Nat} (hm : 0 < m) (h : m.log2 + k = 52) :
    IsFull (UnpackedFloat.ofUInt64 .binary64 m.toUInt64) .positive (magnitude m) := by
  have hlt : m < 2 ^ 64 := by
    refine Nat.lt_of_lt_of_le Nat.lt_log2_self (Nat.pow_le_pow_right (by decide) ?_)
    omega
  have hnat : m.toUInt64.toNat = m := Nat.mod_eq_of_lt hlt
  have hlog : (m * 2 ^ k).log2 = 52 + 0 := by rw [log2_mul_two_pow hm, h]
  have hround := roundWithAccuracy_full .positive (e := (m.log2 : Int) - 52) hlog (by omega) (by omega)
  have htarget : Format.binary64.targetExponent (Float.Model.totalExponent m 0) = (m.log2 : Int) - 52 := by
    show max ((m.log2 : Int) + 1 + 0 - 53) (-1074) = _
    omega
  have hamount : (0 - ((m.log2 : Int) - 52)).toNat = k := by omega
  have hcompare : compare (m : Int) 0 = .gt := Int.compare_eq_gt.2 (by omega)
  have hunfold : UnpackedFloat.ofUInt64 .binary64 m.toUInt64 =
      Float.Model.UnpackedFloat.roundWithAccuracy .binary64 .positive (m * 2 ^ k) ((m.log2 : Int) - 52) .exact := by
    unfold Float.Model.UnpackedFloat.ofUInt64 Float.Model.UnpackedFloat.ofNat Float.Model.UnpackedFloat.ofInt
    rw [hnat]
    unfold Float.Model.UnpackedFloat.normalize
    rw [hcompare]
    show UnpackedFloat.round .binary64 .positive m 0 = _
    unfold Float.Model.UnpackedFloat.round
    simp only [htarget]
    unfold Float.Model.UnpackedFloat.decreaseExponent
    simp only [hamount, Nat.shiftLeft_eq]
    congr 1
    omega
  have hmagnitude : magnitude m = bits (m * 2 ^ k) ((m.log2 : Int) - 52 + (0 : Nat)) := by
    unfold magnitude
    rw [if_neg (Nat.ne_of_gt hm), rounded_of_lt h, Int.natCast_zero, Int.add_zero]
  rw [hunfold, hmagnitude]
  exact hround

theorem isFull_ofScientific {m : Nat} (hm : 0 < m) (h : m.log2 < 64) :
    IsFull (UnpackedFloat.ofScientific .binary64 m 0) .positive (magnitude m) := by
  have hlog : (m * 2 ^ 53).log2 = 52 + (m.log2 + 1) := by
    rw [log2_mul_two_pow hm]
    omega
  have hround := roundWithAccuracy_full .positive (e := -53) hlog (by omega) (by omega)
  have hexp : (-53 : Int) + (m.log2 + 1 : Nat) = (m.log2 : Int) - 52 := by omega
  have hmagnitude : magnitude m = bits (rounded m) ((m.log2 : Int) - 52) := if_neg (Nat.ne_of_gt hm)
  rw [hexp] at hround
  have hunfold : UnpackedFloat.ofScientific .binary64 m 0 =
      Float.Model.UnpackedFloat.roundWithAccuracy .binary64 .positive (m * 2 ^ 53) (-53) .exact := by
    unfold Float.Model.UnpackedFloat.ofScientific
    rw [dif_neg (Nat.ne_of_gt hm), if_neg (by decide), if_neg (by show ¬ (0 : Int) < -(2048 + (m.log2 : Int)); omega),
      if_pos (by decide)]
    show Float.Model.UnpackedFloat.roundWithAccuracy .binary64 .positive (m <<< 53 * 1) (-53) .exact = _
    rw [Nat.mul_one, Nat.shiftLeft_eq]
  rw [hunfold, hmagnitude]
  exact hround

/-- **A whole number becomes the double with its bit pattern.** -/
theorem isFull_ofNat {m : Nat} (hm : 0 < m) (h : m.log2 < 64) :
    IsFull (Float.ofNat m).toModel.unpack .positive (magnitude m) := by
  show IsFull (Float.ofScientific m false 0).toModel.unpack .positive (magnitude m)
  unfold Float.ofScientific
  split
  · rename_i hlt
    have hlog : m.log2 < 53 := (Nat.log2_lt (Nat.ne_of_gt hm)).2 hlt.1
    have hsmall : magnitude m < 0x7f00000000000000 := by
      obtain ⟨-, hup⟩ := rounded_bounds hm
      unfold magnitude bits
      rw [if_neg (Nat.ne_of_gt hm)]
      omega
    have hfull := isFull_ofUInt64 hm (k := 52 - m.log2) (by omega)
    have hone := mul_one_full hfull hsmall
    show IsFull (Float.Model.pack (UnpackedFloat.mul .binary64
      (Float.Model.pack (UnpackedFloat.ofUInt64 .binary64 m.toUInt64)).unpack
      (Float.Model.ofBits 0x3FF0000000000000).unpack)).unpack .positive (magnitude m)
    rw [unpack_pack_full hfull, unpack_pack_full hone]
    exact hone
  · have hfull := isFull_ofScientific hm h
    show IsFull (Float.Model.pack (UnpackedFloat.ofScientific .binary64 m 0)).unpack .positive (magnitude m)
    rw [unpack_pack_full hfull]
    exact hfull

theorem rank_of_isFull {x : Float} {s : Sign} {b : Int} (h : IsFull x.toModel.unpack s b) :
    rank x = some (s.apply b) := by
  obtain ⟨m, e, hm, hu, -, -, rfl⟩ := h
  unfold rank
  rw [hu]
  rfl

/-- **The rank that a whole number gets.** -/
def rankOfInt (n : Int) : Int := if 0 ≤ n then magnitude n.natAbs else -magnitude n.natAbs

theorem rank_ofInt {n : Int} (h : n.natAbs < 2 ^ 64) : rank (Float.ofInt n) = some (rankOfInt n) := by
  have hlog : ∀ {m : Nat}, 0 < m → m < 2 ^ 64 → m.log2 < 64 := fun hm hlt => (Nat.log2_lt (Nat.ne_of_gt hm)).2 hlt
  cases n with
  | ofNat m =>
    have hm : m < 2 ^ 64 := h
    by_cases hzero : m = 0
    · subst hzero
      rfl
    · exact rank_of_isFull (isFull_ofNat (Nat.pos_of_ne_zero hzero) (hlog (Nat.pos_of_ne_zero hzero) hm))
  | negSucc m =>
    have hm : m + 1 < 2 ^ 64 := h
    have hfull := isFull_neg (isFull_ofNat (Nat.succ_pos m) (hlog (Nat.succ_pos m) hm))
    refine rank_of_isFull (s := .negative) (x := (Float.ofNat (m + 1)).neg) (b := magnitude (m + 1)) ?_
    show IsFull (Float.Model.pack (Float.ofNat (m + 1)).toModel.unpack.neg).unpack .negative (magnitude (m + 1))
    rw [unpack_pack_full hfull]
    exact hfull

/-- **A greater number has no lesser bit pattern**: of two numbers with as many bits the greater one is not rounded to
less, and rounding a number never passes the first one that has more bits. -/
theorem magnitude_mono {m m' : Nat} (h : m ≤ m') : magnitude m ≤ magnitude m' := by
  unfold magnitude bits
  by_cases hzero : m = 0
  · rw [if_pos hzero]
    split
    · exact Int.le_refl 0
    · omega
  · have hzero' : m' ≠ 0 := by omega
    obtain ⟨hlow, hhigh⟩ := rounded_bounds (Nat.pos_of_ne_zero hzero)
    obtain ⟨hlow', hhigh'⟩ := rounded_bounds (Nat.pos_of_ne_zero hzero')
    have hlog : m.log2 ≤ m'.log2 := (Nat.le_log2 hzero').2 (Nat.le_trans (Nat.log2_self_le hzero) h)
    rw [if_neg hzero, if_neg hzero']
    rcases Nat.lt_or_eq_of_le hlog with hlt | heq
    · omega
    · have hround : rounded m ≤ rounded m' := by
        unfold rounded
        rw [heq]
        refine roundedMantissa_mono (code_shifted_mono _ ?_)
        show 4 * (m * 2 ^ 53) + 2 * 0 + 0 ≤ 4 * (m' * 2 ^ 53) + 2 * 0 + 0
        omega
      omega

theorem magnitude_nonneg (m : Nat) : 0 ≤ magnitude m := magnitude_mono (Nat.zero_le m)

/-- **A greater whole number never becomes a lesser double.** -/
theorem rankOfInt_mono {n n' : Int} (h : n ≤ n') : rankOfInt n ≤ rankOfInt n' := by
  have hnonneg := magnitude_nonneg n.natAbs
  have hnonneg' := magnitude_nonneg n'.natAbs
  unfold rankOfInt
  split
  · have hmono : magnitude n.natAbs ≤ magnitude n'.natAbs := magnitude_mono (by omega)
    split <;> omega
  · split
    · omega
    · have hmono : magnitude n'.natAbs ≤ magnitude n.natAbs := magnitude_mono (by omega)
      omega

end Double

end Remedy
