import Mathlib.Logic.Relation
import Remedy.Expr.Apply
import Remedy.Proofs.Value.Doubles
/-!
# Proofs.Value.Comparison — how far comparing values is an order

Values are comparable only within a family: truth values, the absent value, numbers, and time spans with texts.  Two
numbers compare as their ranks among the doubles unless both are whole, and a time span compares with the span that a
text spells.  Two texts, though, compare as texts, and two whole numbers exactly.  So three values that are comparable
are ordered consistently unless they show the difference (`Discord`): two whole numbers that have become one double
between them, or two texts that are ordered in one way and their time spans in the other.  Reversing a comparison always
reverses its result, and `<` makes no cycle unless a time span stands among such texts (`compare_orderly`).
-/
namespace Remedy.Value

open Double (rank rankOfInt compareRanks)

variable {a b c : Value} {f : Value → Option Int}

/-! ## Relations -/

def Below (a b : Value) : Prop := a.compare? b = some .lt

def AtMost (a b : Value) : Prop := ∃ o, a.compare? b = some o ∧ o.isLE = true

def Even (a b : Value) : Prop := a.compare? b = some .eq

def Comparable (a b : Value) : Prop := ∃ o, a.compare? b = some o

/-- **Of three values the first sets the others at odds**: a double that two different whole numbers have become, or a
time span that is not outside the spans of two texts whose order as texts is another than that of their spans. -/
def SetsAtOdds : Value → Value → Value → Prop
  | .float x, .int m, .int n => m ≠ n ∧ Even (.int m) (.float x) ∧ Even (.int n) (.float x)
  | .timespan d, .string s, .string t => ∃ p q, Timespan.parse? s = some p ∧ Timespan.parse? t = some q ∧
      compare s t ≠ compare p.nanos q.nanos ∧ min p.nanos q.nanos ≤ d.nanos ∧ d.nanos ≤ max p.nanos q.nanos
  | _, _, _ => False

def Discord (a b c : Value) : Prop := SetsAtOdds a b c ∨ SetsAtOdds b a c ∨ SetsAtOdds c a b

/-! ## Measures -/

/-- The rank of a number among the doubles. -/
def scale? : Value → Option Int
  | .int n => some (rankOfInt n.toInt)
  | .float x => rank x
  | _ => none

/-- The length of a time span, or of the one that a text spells. -/
def span? : Value → Option Int
  | .timespan d => some d.nanos
  | .string s => (Timespan.parse? s).map fun d => (d.nanos : Int)
  | _ => none

def isTemporal (v : Value) : Bool := v.isTimespan || v.isString

theorem rank_int (n : Int64) : rank (Float.ofInt n.toInt) = some (rankOfInt n.toInt) := by
  refine Double.rank_ofInt ?_
  have hle := n.le_toInt
  have hlt := n.toInt_lt
  omega

theorem compare_cast (m n : Nat) : compare (m : Int) (n : Int) = compare m n := by
  rcases Nat.lt_trichotomy m n with h | rfl | h
  · rw [Nat.compare_eq_lt.2 h]
    exact Int.compare_eq_lt.2 (Int.ofNat_lt.2 h)
  · rw [Nat.compare_eq_eq.2 rfl]
    exact Int.compare_eq_eq.2 rfl
  · rw [Nat.compare_eq_gt.2 h]
    exact Int.compare_eq_gt.2 (Int.ofNat_lt.2 h)

/-- **Two values compare as a measure does.** -/
def Measured (f : Value → Option Int) (a b : Value) : Prop := a.compare? b = compareRanks (f a) (f b)

/-- **Two numbers compare by rank** unless both are whole. -/
theorem measured_scale (ha : a.isNumeric = true) (hb : b.isNumeric = true) (h : a.isInt = false ∨ b.isInt = false) :
    Measured scale? a b := by
  cases a <;> cases ha
  all_goals cases b <;> cases hb
  · rcases h with h | h <;> cases h
  · exact (compareFloat_eq _ _).trans (by rw [rank_int]; rfl)
  · exact (compareFloat_eq _ _).trans (by rw [rank_int]; rfl)
  · exact compareFloat_eq _ _

/-- **Time spans and texts compare by length** unless both are texts. -/
theorem measured_span (ha : a.isTemporal = true) (hb : b.isTemporal = true)
    (h : a.isTimespan = true ∨ b.isTimespan = true) : Measured span? a b := by
  have hspans : ∀ d e : Timespan, some (compare d.nanos e.nanos) = compareRanks (some d.nanos) (some e.nanos) :=
    fun d e => congrArg some (compare_cast d.nanos e.nanos).symm
  cases a <;> cases ha
  all_goals cases b <;> cases hb
  · rcases h with h | h <;> cases h
  · rename_i s e
    show (Timespan.parse? s).map _ = compareRanks ((Timespan.parse? s).map _) _
    cases Timespan.parse? s with
    | none => rfl
    | some d => exact hspans d e
  · rename_i d s
    show (Timespan.parse? s).map _ = compareRanks _ ((Timespan.parse? s).map _)
    cases Timespan.parse? s with
    | none => rfl
    | some e => exact hspans d e
  · exact hspans _ _

/-! ## Comparable values -/

/-- **Values that are comparable are of one family.** -/
theorem Comparable.cases (h : Comparable a b) :
    (∃ p q, a = .bool p ∧ b = .bool q) ∨ (a = .null ∧ b = .null) ∨ (a.isNumeric = true ∧ b.isNumeric = true) ∨
      (a.isTemporal = true ∧ b.isTemporal = true) := by
  obtain ⟨o, ho⟩ := h
  cases a <;> cases b <;> first
    | exact .inl ⟨_, _, rfl, rfl⟩
    | exact .inr (.inl ⟨rfl, rfl⟩)
    | exact .inr (.inr (.inl ⟨rfl, rfl⟩))
    | exact .inr (.inr (.inr ⟨rfl, rfl⟩))
    | cases ho

/-- **Reversing a comparison reverses its result.** -/
theorem compare?_swap (a b : Value) : b.compare? a = (a.compare? b).map Ordering.swap := by
  have hmeasured : ∀ {f : Value → Option Int}, Measured f a b → Measured f b a →
      b.compare? a = (a.compare? b).map Ordering.swap := by
    intro f hab hba
    rw [hba, hab]
    exact Double.compareRanks_swap _ _
  cases a <;> cases b <;> first
    | exact congrArg some Std.OrientedOrd.eq_swap
    | exact hmeasured (measured_scale rfl rfl (.inl rfl)) (measured_scale rfl rfl (.inl rfl))
    | exact hmeasured (measured_scale rfl rfl (.inl rfl)) (measured_scale rfl rfl (.inr rfl))
    | exact hmeasured (measured_scale rfl rfl (.inr rfl)) (measured_scale rfl rfl (.inl rfl))
    | exact hmeasured (measured_span rfl rfl (.inl rfl)) (measured_span rfl rfl (.inr rfl))
    | exact hmeasured (measured_span rfl rfl (.inr rfl)) (measured_span rfl rfl (.inl rfl))
    | rfl

/-! ## Comparing by a measure -/

theorem compareRanks_eq_some {o : Ordering} {x y : Option Int} :
    compareRanks x y = some o ↔ ∃ p q, x = some p ∧ y = some q ∧ compare p q = o := by
  cases x with
  | none => exact ⟨nofun, nofun⟩
  | some p =>
    cases y with
    | none => exact ⟨nofun, nofun⟩
    | some q =>
      refine ⟨fun h => ⟨p, q, rfl, rfl, Option.some.inj h⟩, ?_⟩
      rintro ⟨_, _, ⟨⟩, ⟨⟩, rfl⟩
      rfl

theorem Measured.eq_some (h : Measured f a b) {o : Ordering} :
    a.compare? b = some o ↔ ∃ p q, f a = some p ∧ f b = some q ∧ compare p q = o := by
  rw [h]
  exact compareRanks_eq_some

theorem Measured.comparable (h : Measured f a b) : Comparable a b ↔ ∃ p q, f a = some p ∧ f b = some q := by
  constructor
  · rintro ⟨o, ho⟩
    obtain ⟨p, q, hp, hq, -⟩ := h.eq_some.1 ho
    exact ⟨p, q, hp, hq⟩
  · rintro ⟨p, q, hp, hq⟩
    exact ⟨compare p q, h.eq_some.2 ⟨p, q, hp, hq, rfl⟩⟩

theorem Measured.atMost (h : Measured f a b) : AtMost a b ↔ ∃ p q, f a = some p ∧ f b = some q ∧ p ≤ q := by
  constructor
  · rintro ⟨o, ho, hle⟩
    obtain ⟨p, q, hp, hq, rfl⟩ := h.eq_some.1 ho
    exact ⟨p, q, hp, hq, Int.isLE_compare.1 hle⟩
  · rintro ⟨p, q, hp, hq, hle⟩
    exact ⟨compare p q, h.eq_some.2 ⟨p, q, hp, hq, rfl⟩, Int.isLE_compare.2 hle⟩

theorem Measured.below (h : Measured f a b) : Below a b ↔ ∃ p q, f a = some p ∧ f b = some q ∧ p < q := by
  simp only [Below, h.eq_some, Int.compare_eq_lt]

theorem Measured.even (h : Measured f a b) : Even a b ↔ ∃ p q, f a = some p ∧ f b = some q ∧ p = q := by
  simp only [Even, h.eq_some, Int.compare_eq_eq]

theorem atMost_int {m n : Int64} : AtMost (.int m) (.int n) ↔ m.toInt ≤ n.toInt := by
  constructor
  · rintro ⟨_, ⟨⟩, hle⟩
    exact Int.isLE_compare.1 hle
  · exact fun h => ⟨_, rfl, Int.isLE_compare.2 h⟩

theorem atMost_string {s t : String} : AtMost (.string s) (.string t) ↔ (compare s t).isLE = true := by
  constructor
  · rintro ⟨_, ⟨⟩, hle⟩
    exact hle
  · exact fun h => ⟨_, rfl, h⟩

/-! ## Three values -/

theorem int_or_not (a b : Value) : (∃ m n, a = .int m ∧ b = .int n) ∨ a.isInt = false ∨ b.isInt = false := by
  cases a with
  | int m =>
    cases b with
    | int n => exact .inl ⟨m, n, rfl, rfl⟩
    | _ => exact .inr (.inr rfl)
  | _ => exact .inr (.inl rfl)

theorem AtMost.scale (ha : a.isNumeric = true) (hb : b.isNumeric = true) (h : AtMost a b) :
    ∃ p q, scale? a = some p ∧ scale? b = some q ∧ p ≤ q := by
  rcases int_or_not a b with ⟨m, n, rfl, rfl⟩ | hnot
  · exact ⟨_, _, rfl, rfl, Double.rankOfInt_mono (atMost_int.1 h)⟩
  · exact (measured_scale ha hb hnot).atMost.1 h

/-- **Numbers are ordered consistently** unless two whole ones have become the double between them. -/
theorem AtMost.trans_numeric (ha : a.isNumeric = true) (hb : b.isNumeric = true) (hc : c.isNumeric = true)
    (hodd : ¬ SetsAtOdds b a c) (hab : AtMost a b) (hbc : AtMost b c) : AtMost a c := by
  obtain ⟨p, q, hp, hq, hpq⟩ := hab.scale ha hb
  obtain ⟨q', r, hq', hr, hqr⟩ := hbc.scale hb hc
  obtain rfl : q = q' := Option.some.inj (hq.symm.trans hq')
  rcases int_or_not a c with ⟨m, n, rfl, rfl⟩ | hnot
  · refine atMost_int.2 (Int.not_lt.1 fun hlt => ?_)
    cases b with
    | int k =>
      have hmk := atMost_int.1 hab
      have hkn := atMost_int.1 hbc
      omega
    | float x =>
      -- the greater number has no lesser rank, so all three have one rank
      have hrp : r ≤ p := by
        rw [← Option.some.inj hp, ← Option.some.inj hr]
        exact Double.rankOfInt_mono (Int.le_of_lt hlt)
      refine hodd ⟨fun h => Int.lt_irrefl _ (h ▸ hlt), ?_, ?_⟩
      · exact (measured_scale rfl rfl (.inr rfl)).even.2 ⟨p, q, hp, hq, by omega⟩
      · exact (measured_scale rfl rfl (.inr rfl)).even.2 ⟨r, q, hr, hq, by omega⟩
    | _ => cases hb
  · exact (measured_scale ha hc hnot).atMost.2 ⟨p, r, hp, hr, Int.le_trans hpq hqr⟩

theorem AtMost.trans_measured (mab : Measured f a b) (mbc : Measured f b c) (mac : Measured f a c) (hab : AtMost a b)
    (hbc : AtMost b c) : AtMost a c := by
  obtain ⟨p, q, hp, hq, hpq⟩ := mab.atMost.1 hab
  obtain ⟨q', r, hq', hr, hqr⟩ := mbc.atMost.1 hbc
  obtain rfl : q = q' := Option.some.inj (hq.symm.trans hq')
  exact mac.atMost.2 ⟨p, r, hp, hr, Int.le_trans hpq hqr⟩

theorem span?_string {s : String} {x : Int} :
    span? (.string s) = some x ↔ ∃ p, Timespan.parse? s = some p ∧ (p.nanos : Int) = x := Option.map_eq_some_iff

/-- **A time span sets two texts at odds** if it is not outside their spans, whose order is another than theirs. -/
theorem setsAtOdds_timespan {d : Timespan} {s t : String} {p q : Int} (hp : span? (.string s) = some p)
    (hq : span? (.string t) = some q) : SetsAtOdds (.timespan d) (.string s) (.string t) ↔
      compare s t ≠ compare p q ∧ min p q ≤ d.nanos ∧ d.nanos ≤ max p q := by
  obtain ⟨x, hx, rfl⟩ := span?_string.1 hp
  obtain ⟨y, hy, rfl⟩ := span?_string.1 hq
  rw [compare_cast]
  constructor
  · rintro ⟨x', y', hx', hy', hne, hmin, hmax⟩
    rw [hx] at hx'
    rw [hy] at hy'
    cases hx'
    cases hy'
    exact ⟨hne, by omega, by omega⟩
  · rintro ⟨hne, hmin, hmax⟩
    exact ⟨x, y, hx, hy, hne, by omega, by omega⟩

/-- **A time span that does not set two texts at odds** is outside their spans, or they are in the order of these. -/
theorem order_of_not_setsAtOdds {d : Timespan} {s t : String} {p q : Int} (hp : span? (.string s) = some p)
    (hq : span? (.string t) = some q) (h : ¬ SetsAtOdds (.timespan d) (.string s) (.string t)) :
    ((compare s t).isLE = true ↔ p ≤ q) ∨ (d.nanos < p ∧ d.nanos < q) ∨ (p < d.nanos ∧ q < d.nanos) := by
  by_cases heq : compare s t = compare p q
  · rw [heq]
    exact .inl Int.isLE_compare
  · have hnot : ¬ (min p q ≤ d.nanos ∧ d.nanos ≤ max p q) :=
      fun hbetween => h ((setsAtOdds_timespan hp hq).2 ⟨heq, hbetween⟩)
    refine .inr ?_
    omega

/-- **Time spans and texts are ordered consistently** unless one of them sets the others at odds. -/
theorem AtMost.trans_temporal (ha : a.isTemporal = true) (hb : b.isTemporal = true) (hc : c.isTemporal = true)
    (hodd : ¬ Discord a b c) (hac : Comparable a c) (hab : AtMost a b) (hbc : AtMost b c) : AtMost a c := by
  obtain ⟨hodd_a, hodd_b, hodd_c⟩ : ¬ SetsAtOdds a b c ∧ ¬ SetsAtOdds b a c ∧ ¬ SetsAtOdds c a b := by
    unfold Discord at hodd
    simpa only [not_or] using hodd
  cases a <;> cases ha
  all_goals cases b <;> cases hb
  all_goals cases c <;> cases hc
  · exact atMost_string.2 (Std.TransCmp.isLE_trans (atMost_string.1 hab) (atMost_string.1 hbc))
  · -- two texts, then a time span
    have hle := atMost_string.1 hab
    obtain ⟨q, d, hq, ⟨⟩, hqd⟩ := (measured_span rfl rfl (.inr rfl)).atMost.1 hbc
    obtain ⟨p, _, hp, ⟨⟩⟩ := (measured_span rfl rfl (.inr rfl)).comparable.1 hac
    refine (measured_span rfl rfl (.inr rfl)).atMost.2 ⟨p, _, hp, rfl, ?_⟩
    rcases order_of_not_setsAtOdds hp hq hodd_c with hiff | hout | hout
    · exact Int.le_trans (hiff.1 hle) hqd
    · omega
    · omega
  · -- a time span between two texts
    obtain ⟨p, d, hp, ⟨⟩, hpd⟩ := (measured_span rfl rfl (.inr rfl)).atMost.1 hab
    obtain ⟨_, q, ⟨⟩, hq, hdq⟩ := (measured_span rfl rfl (.inl rfl)).atMost.1 hbc
    refine atMost_string.2 ?_
    rcases order_of_not_setsAtOdds hp hq hodd_b with hiff | hout | hout
    · exact hiff.2 (Int.le_trans hpd hdq)
    · omega
    · omega
  · exact hab.trans_measured (measured_span rfl rfl (.inr rfl)) (measured_span rfl rfl (.inl rfl))
      (measured_span rfl rfl (.inr rfl)) hbc
  · -- a time span, then two texts
    have hle := atMost_string.1 hbc
    obtain ⟨d, p, ⟨⟩, hp, hdp⟩ := (measured_span rfl rfl (.inl rfl)).atMost.1 hab
    obtain ⟨_, q, ⟨⟩, hq⟩ := (measured_span rfl rfl (.inl rfl)).comparable.1 hac
    refine (measured_span rfl rfl (.inl rfl)).atMost.2 ⟨_, q, rfl, hq, ?_⟩
    rcases order_of_not_setsAtOdds hp hq hodd_a with hiff | hout | hout
    · exact Int.le_trans hdp (hiff.1 hle)
    · omega
    · omega
  · exact hab.trans_measured (measured_span rfl rfl (.inl rfl)) (measured_span rfl rfl (.inr rfl))
      (measured_span rfl rfl (.inl rfl)) hbc
  · exact hab.trans_measured (measured_span rfl rfl (.inl rfl)) (measured_span rfl rfl (.inl rfl))
      (measured_span rfl rfl (.inl rfl)) hbc
  · exact hab.trans_measured (measured_span rfl rfl (.inl rfl)) (measured_span rfl rfl (.inl rfl))
      (measured_span rfl rfl (.inl rfl)) hbc

theorem AtMost.comparable (h : AtMost a b) : Comparable a b := ⟨h.choose, h.choose_spec.1⟩

theorem Comparable.symm (h : Comparable a b) : Comparable b a := by
  obtain ⟨o, ho⟩ := h
  exact ⟨o.swap, by rw [compare?_swap, ho]; rfl⟩

theorem Comparable.numeric (h : Comparable a b) (ha : a.isNumeric = true) : b.isNumeric = true := by
  rcases h.cases with ⟨_, _, rfl, _⟩ | ⟨rfl, _⟩ | ⟨_, hb⟩ | ⟨ha', _⟩
  · cases ha
  · cases ha
  · exact hb
  · cases a <;> cases ha <;> cases ha'

theorem Comparable.temporal (h : Comparable a b) (ha : a.isTemporal = true) : b.isTemporal = true := by
  rcases h.cases with ⟨_, _, rfl, _⟩ | ⟨rfl, _⟩ | ⟨ha', _⟩ | ⟨_, hb⟩
  · cases ha
  · cases ha
  · cases a <;> cases ha <;> cases ha'
  · exact hb

/-- **Three values that are comparable are ordered consistently** unless one of them sets the others at odds. -/
theorem AtMost.trans (hac : Comparable a c) (hodd : ¬ Discord a b c) (hab : AtMost a b) (hbc : AtMost b c) :
    AtMost a c := by
  rcases hab.comparable.cases with ⟨p, q, rfl, rfl⟩ | ⟨rfl, rfl⟩ | ⟨ha, hb⟩ | ⟨ha, hb⟩
  · rcases hac.cases with ⟨_, r, _, rfl⟩ | ⟨⟨⟩, _⟩ | ⟨⟨⟩, _⟩ | ⟨⟨⟩, _⟩
    obtain ⟨_, ⟨⟩, hpq⟩ := hab
    obtain ⟨_, ⟨⟩, hqr⟩ := hbc
    exact ⟨_, rfl, Std.TransCmp.isLE_trans hpq hqr⟩
  · exact hbc
  · exact hab.trans_numeric ha hb (hac.numeric ha) (fun h => hodd (.inr (.inl h))) hbc
  · exact hab.trans_temporal ha hb (hac.temporal ha) hodd hac hbc

theorem SetsAtOdds.symm (h : SetsAtOdds a b c) : SetsAtOdds a c b := by
  unfold SetsAtOdds at h
  split at h
  · exact ⟨Ne.symm h.1, h.2.2, h.2.1⟩
  · obtain ⟨p, q, hp, hq, hne, hmin, hmax⟩ := h
    refine ⟨q, p, hq, hp, fun he => hne ?_, by omega, by omega⟩
    rw [Std.OrientedOrd.eq_swap, he, ← Std.OrientedOrd.eq_swap]
  · cases h

theorem Discord.symm (h : Discord a b c) : Discord c b a := by
  rcases h with h | h | h
  · exact .inr (.inr h.symm)
  · exact .inr (.inl h.symm)
  · exact .inl h.symm

theorem even_iff : Even a b ↔ AtMost a b ∧ AtMost b a := by
  constructor
  · intro h
    exact ⟨⟨_, h, rfl⟩, .eq, by rw [compare?_swap, h]; rfl, rfl⟩
  · rintro ⟨⟨o, ho, hle⟩, o', ho', hle'⟩
    rw [compare?_swap, ho] at ho'
    cases ho'
    cases o with
    | lt => cases hle'
    | eq => exact ho
    | gt => cases hle

/-- **Equality is transitive** where the order is. -/
theorem Even.trans (hac : Comparable a c) (hodd : ¬ Discord a b c) (hab : Even a b) (hbc : Even b c) : Even a c := by
  obtain ⟨hab, hba⟩ := even_iff.1 hab
  obtain ⟨hbc, hcb⟩ := even_iff.1 hbc
  exact even_iff.2 ⟨hab.trans hac hodd hbc, hcb.trans hac.symm (fun h => hodd h.symm) hba⟩

/-- **Values at odds are not ordered consistently**: in one of two directions the order is not transitive. -/
theorem SetsAtOdds.violates (h : SetsAtOdds b a c) : Comparable a b ∧ Comparable b c ∧ Comparable a c ∧
    ((AtMost a b ∧ AtMost b c ∧ ¬ AtMost a c) ∨ (AtMost c b ∧ AtMost b a ∧ ¬ AtMost c a)) := by
  unfold SetsAtOdds at h
  split at h
  · rename_i x m n
    obtain ⟨hne, hm, hn⟩ := h
    obtain ⟨hmx, hxm⟩ := even_iff.1 hm
    obtain ⟨hnx, hxn⟩ := even_iff.1 hn
    refine ⟨hmx.comparable, hxn.comparable, ⟨_, rfl⟩, ?_⟩
    rcases Int.lt_or_gt_of_ne (fun he => hne (Int64.toInt.inj he)) with hlt | hgt
    · exact .inr ⟨hnx, hxm, fun h => absurd (atMost_int.1 h) (Int.not_le.2 hlt)⟩
    · exact .inl ⟨hmx, hxn, fun h => absurd (atMost_int.1 h) (Int.not_le.2 hgt)⟩
  · rename_i d s t
    obtain ⟨p, q, hp, hq, hne, hmin, hmax⟩ := h
    have hs : ∃ x : Int, span? (.string s) = some x ∧ x = p.nanos := ⟨_, span?_string.2 ⟨p, hp, rfl⟩, rfl⟩
    have ht : ∃ x : Int, span? (.string t) = some x ∧ x = q.nanos := ⟨_, span?_string.2 ⟨q, hq, rfl⟩, rfl⟩
    obtain ⟨x, hx, rfl⟩ := hs
    obtain ⟨y, hy, rfl⟩ := ht
    have hup : ∀ {s : String} {p : Timespan}, span? (.string s) = some p.nanos → p.nanos ≤ d.nanos →
        AtMost (.string s) (.timespan d) := fun hp hle =>
      (measured_span rfl rfl (.inr rfl)).atMost.2 ⟨_, _, hp, rfl, Int.ofNat_le.2 hle⟩
    have hdown : ∀ {s : String} {p : Timespan}, span? (.string s) = some p.nanos → d.nanos ≤ p.nanos →
        AtMost (.timespan d) (.string s) := fun hp hle =>
      (measured_span rfl rfl (.inl rfl)).atMost.2 ⟨_, _, rfl, hp, Int.ofNat_le.2 hle⟩
    refine ⟨(measured_span rfl rfl (.inr rfl)).comparable.2 ⟨_, _, hx, rfl⟩,
      (measured_span rfl rfl (.inl rfl)).comparable.2 ⟨_, _, rfl, hy⟩, ⟨_, rfl⟩, ?_⟩
    cases ho : compare s t with
    | lt =>
      have hle : q.nanos ≤ p.nanos := Nat.not_lt.1 fun hlt => hne (ho.trans (Nat.compare_eq_lt.2 hlt).symm)
      refine .inr ⟨hup hy (by omega), hdown hx (by omega), fun h => ?_⟩
      exact Std.OrientedCmp.not_isLE_of_lt ho (atMost_string.1 h)
    | eq =>
      obtain rfl := Std.LawfulEqOrd.eq_of_compare ho
      rw [hp] at hq
      cases hq
      exact absurd (ho.trans (Nat.compare_eq_eq.2 rfl).symm) hne
    | gt =>
      have hle : p.nanos ≤ q.nanos := Nat.not_lt.1 fun hlt => hne (ho.trans (Nat.compare_eq_gt.2 hlt).symm)
      refine .inl ⟨hup hx (by omega), hdown hy (by omega), fun h => ?_⟩
      rw [atMost_string, ho] at h
      cases h
  · cases h

/-! ## Cycles -/

/-- **Among some values a time span stands with two texts** of which one is less than the other as a text and spells the
longer time span. -/
def Inverted (among : Value → Prop) : Prop := ∃ d s t p q, among (.timespan d) ∧ among (.string s) ∧ among (.string t) ∧
  Timespan.parse? s = some p ∧ Timespan.parse? t = some q ∧ compare s t = .lt ∧ q.nanos < p.nanos

def Step (among : Value → Prop) (a b : Value) : Prop := among a ∧ among b ∧ Below a b

open Relation (TransGen)

variable {among : Value → Prop} {v w : Value}

theorem Below.comparable (h : Below a b) : Comparable a b := ⟨_, h⟩

def wholeOf : Value → Int
  | .int n => n.toInt
  | _ => 0

/-- One number has a lesser rank than another, or is the lesser whole number of one rank. -/
def Lower (a b : Value) : Prop := ∃ p q, scale? a = some p ∧ scale? b = some q ∧
  (p < q ∨ (p = q ∧ wholeOf a < wholeOf b))

theorem Lower.trans (hab : Lower a b) (hbc : Lower b c) : Lower a c := by
  obtain ⟨p, q, hp, hq, hpq⟩ := hab
  obtain ⟨q', r, hq', hr, hqr⟩ := hbc
  obtain rfl : q = q' := Option.some.inj (hq.symm.trans hq')
  exact ⟨p, r, hp, hr, by omega⟩

theorem not_lower_self (a : Value) : ¬ Lower a a := by
  rintro ⟨p, q, hp, hq, h⟩
  obtain rfl : p = q := Option.some.inj (hp.symm.trans hq)
  omega

theorem Below.lower (ha : a.isNumeric = true) (hb : b.isNumeric = true) (h : Below a b) : Lower a b := by
  rcases int_or_not a b with ⟨m, n, rfl, rfl⟩ | hnot
  · have hlt : m.toInt < n.toInt := Int.compare_eq_lt.1 (Option.some.inj h)
    have hmono := Double.rankOfInt_mono (Int.le_of_lt hlt)
    refine ⟨_, _, rfl, rfl, ?_⟩
    rcases Int.lt_or_eq_of_le hmono with hrank | hrank
    · exact .inl hrank
    · exact .inr ⟨hrank, hlt⟩
  · obtain ⟨p, q, hp, hq, hlt⟩ := (measured_scale ha hb hnot).below.1 h
    exact ⟨p, q, hp, hq, .inl hlt⟩

/-- **Numbers make no cycle**: each step leads to a greater rank, or to a greater whole number of the same. -/
theorem lower_of_steps (hv : v.isNumeric = true) (h : TransGen (Step among) v w) :
    w.isNumeric = true ∧ Lower v w := by
  induction h with
  | single h =>
    have hw := h.2.2.comparable.numeric hv
    exact ⟨hw, h.2.2.lower hv hw⟩
  | tail _ h ih =>
    have hw := h.2.2.comparable.numeric ih.1
    exact ⟨hw, ih.2.trans (h.2.2.lower ih.1 hw)⟩

theorem bool_of_steps {p : Bool} (h : TransGen (Step among) (.bool p) w) : ∃ q, w = .bool q ∧ compare p q = .lt := by
  have hstep : ∀ {p : Bool} {w : Value}, Below (.bool p) w → ∃ q, w = .bool q ∧ compare p q = .lt := by
    intro p w h
    rcases h.comparable.cases with ⟨_, q, _, rfl⟩ | ⟨⟨⟩, _⟩ | ⟨⟨⟩, _⟩ | ⟨⟨⟩, _⟩
    exact ⟨q, rfl, Option.some.inj h⟩
  induction h with
  | single h => exact hstep h.2.2
  | tail _ h ih =>
    obtain ⟨q, rfl, hpq⟩ := ih
    obtain ⟨r, rfl, hqr⟩ := hstep h.2.2
    exact ⟨r, rfl, Std.TransCmp.lt_trans hpq hqr⟩

/-- **What comes after a time span**: a longer one, or a text that is at least one that spells a longer one. -/
def Ahead (among : Value → Prop) (d : Timespan) : Value → Prop
  | .timespan e => d.nanos < e.nanos
  | .string t => ∃ s p, among (.string s) ∧ Timespan.parse? s = some p ∧ d.nanos < p.nanos ∧ (compare s t).isLE = true
  | _ => False

theorem Below.spans (ha : a.isTemporal = true) (hb : b.isTemporal = true)
    (h : a.isTimespan = true ∨ b.isTimespan = true) (hlt : Below a b) :
    ∃ p q, span? a = some p ∧ span? b = some q ∧ p < q := (measured_span ha hb h).below.1 hlt

/-- **One step further**: from a text to a time span it leads to a longer one, since texts are not inverted. -/
theorem Ahead.step {d : Timespan} (hinv : ¬ Inverted among) (hd : among (.timespan d))
    (h : v = .timespan d ∨ Ahead among d v) (hs : Step among v w) : Ahead among d w := by
  obtain ⟨hv, hw, hbelow⟩ := hs
  have htemporal : v.isTemporal = true := by
    rcases h with rfl | h
    · rfl
    · cases v <;> first | rfl | cases h
  have htemporal' := hbelow.comparable.temporal htemporal
  cases v <;> cases htemporal
  · rename_i t
    obtain ⟨s, p, hs, hp, hdp, hst⟩ := h.resolve_left nofun
    cases w <;> cases htemporal'
    · rename_i t'
      have hlt : compare t t' = .lt := Option.some.inj hbelow
      exact ⟨s, p, hs, hp, hdp, Std.TransCmp.isLE_trans hst (Ordering.isLE_of_eq_lt hlt)⟩
    · rename_i e
      obtain ⟨_, _, hx, ⟨⟩, hlt⟩ := hbelow.spans rfl rfl (.inr rfl)
      obtain ⟨q, hq, rfl⟩ := span?_string.1 hx
      have hpq : p.nanos ≤ q.nanos := by
        cases ho : compare s t with
        | lt => exact Nat.not_lt.1 fun hqp => hinv ⟨d, s, t, p, q, hd, hs, hv, hp, hq, ho, hqp⟩
        | eq =>
          obtain rfl := Std.LawfulEqOrd.eq_of_compare ho
          rw [hp] at hq
          cases hq
          exact Nat.le_refl _
        | gt =>
          rw [ho] at hst
          cases hst
      show d.nanos < e.nanos
      omega
  · rename_i e
    have hde : d.nanos ≤ e.nanos := by
      rcases h with h | h
      · cases h
        exact Nat.le_refl _
      · exact Nat.le_of_lt h
    cases w <;> cases htemporal'
    · rename_i t
      obtain ⟨_, _, ⟨⟩, hy, hlt⟩ := hbelow.spans rfl rfl (.inl rfl)
      obtain ⟨q, hq, rfl⟩ := span?_string.1 hy
      exact ⟨t, q, hw, hq, by omega, Std.ReflCmp.isLE_rfl⟩
    · rename_i e'
      obtain ⟨_, _, ⟨⟩, ⟨⟩, hlt⟩ := hbelow.spans rfl rfl (.inl rfl)
      show d.nanos < e'.nanos
      omega

theorem ahead_of_steps {d : Timespan} (hinv : ¬ Inverted among) (h : TransGen (Step among) (.timespan d) w) :
    Ahead among d w := by
  have hd : among (.timespan d) := by
    obtain ⟨_, h, -⟩ := TransGen.head'_iff.1 h
    exact h.1
  induction h with
  | single h => exact .step hinv hd (.inl rfl) h
  | tail _ h ih => exact .step hinv hd (.inr ih) h

theorem string_of_steps {s : String} (h : TransGen (Step among) (.string s) w) :
    (∃ t, w = .string t ∧ compare s t = .lt) ∨ ∃ d, TransGen (Step among) (.string s) (.timespan d) ∧
      (w = .timespan d ∨ TransGen (Step among) (.timespan d) w) := by
  have hstep : ∀ {t : String} {w : Value}, Below (.string t) w →
      (∃ t', w = .string t' ∧ compare t t' = .lt) ∨ ∃ d, w = .timespan d := by
    intro t w h
    have hw := h.comparable.temporal rfl
    cases w <;> cases hw
    · exact .inl ⟨_, rfl, Option.some.inj h⟩
    · exact .inr ⟨_, rfl⟩
  induction h with
  | single h =>
    rcases hstep h.2.2 with ht | ⟨d, rfl⟩
    · exact .inl ht
    · exact .inr ⟨d, .single h, .inl rfl⟩
  | tail hfirst h ih =>
    rcases ih with ⟨t, rfl, hst⟩ | ⟨d, hd, hrest⟩
    · rcases hstep h.2.2 with ⟨t', rfl, htt⟩ | ⟨d, rfl⟩
      · exact .inl ⟨t', rfl, Std.TransCmp.lt_trans hst htt⟩
      · exact .inr ⟨d, hfirst.tail h, .inl rfl⟩
    · rcases hrest with rfl | hrest
      · exact .inr ⟨d, hd, .inr (.single h)⟩
      · exact .inr ⟨d, hd, .inr (hrest.tail h)⟩

/-- **Less than makes no cycle** among values of which no time span stands with inverted texts. -/
theorem acyclic (hinv : ¬ Inverted among) (v : Value) : ¬ TransGen (Step among) v v := by
  have htimespan : ∀ d : Timespan, ¬ TransGen (Step among) (.timespan d) (.timespan d) := fun d h =>
    absurd (ahead_of_steps hinv h : d.nanos < d.nanos) (Nat.lt_irrefl _)
  intro h
  obtain ⟨w, hfirst, -⟩ := TransGen.head'_iff.1 h
  rcases hfirst.2.2.comparable.cases with ⟨p, _, rfl, _⟩ | ⟨rfl, rfl⟩ | ⟨hv, _⟩ | ⟨hv, _⟩
  · obtain ⟨q, ⟨⟩, hlt⟩ := bool_of_steps h
    rw [Std.ReflOrd.compare_self] at hlt
    cases hlt
  · cases hfirst.2.2
  · exact not_lower_self v (lower_of_steps hv h).2
  · cases v <;> cases hv
    · rcases string_of_steps h with ⟨t, ⟨⟩, hlt⟩ | ⟨d, hd, hrest⟩
      · rw [Std.ReflOrd.compare_self] at hlt
        cases hlt
      · exact htimespan d ((hrest.resolve_left nofun).trans hd)
    · exact htimespan _ h

/-! ## The order of values -/

theorem looselyEquals_iff (h : Comparable a b) : a.looselyEquals b = true ↔ Even a b := by
  rcases h.cases with ⟨_, _, rfl, rfl⟩ | ⟨rfl, rfl⟩ | ⟨ha, hb⟩ | ⟨ha, hb⟩
  · exact beq_iff_eq
  · exact beq_iff_eq
  · cases a <;> cases ha <;> exact beq_iff_eq
  · cases a <;> cases ha <;> exact beq_iff_eq

theorem lt_iff_below (w : Func.Surroundings) : Func.lt.apply w [a, b] = .ok (.bool true) ↔ Below a b := by
  show Func.ordered .lt Ordering.isLT a b = _ ↔ _
  unfold Func.ordered Below
  cases a.compare? b with
  | none => exact ⟨nofun, nofun⟩
  | some o =>
    cases o with
    | lt => exact ⟨fun _ => rfl, fun _ => rfl⟩
    | eq => exact ⟨nofun, nofun⟩
    | gt => exact ⟨nofun, nofun⟩

/-- **What is known of the order of values.**  Reversing a comparison reverses its result, or neither has one.  Three
values that are comparable are ordered consistently unless one of them sets the others at odds, and those that are even
are; the same holds of loose equality.  Values at odds are not ordered consistently.  What rules see as less makes no
cycle, of whatever length, among values of which no time span stands with inverted texts. -/
structure Orderly : Prop where
  reverse : ∀ a b : Value, b.compare? a = (a.compare? b).map Ordering.swap
  transitive : ∀ a b c, Comparable a b → Comparable b c → Comparable a c → ¬ Discord a b c →
    AtMost a b → AtMost b c → AtMost a c
  even : ∀ a b c, Comparable a b → Comparable b c → Comparable a c → ¬ Discord a b c →
    Even a b → Even b c → Even a c
  loosely : ∀ a b c : Value, Comparable a b → Comparable b c → Comparable a c → ¬ Discord a b c →
    a.looselyEquals b = true → b.looselyEquals c = true → a.looselyEquals c = true
  atOdds : ∀ a b c, SetsAtOdds b a c → Comparable a b ∧ Comparable b c ∧ Comparable a c ∧
    ((AtMost a b ∧ AtMost b c ∧ ¬ AtMost a c) ∨ (AtMost c b ∧ AtMost b a ∧ ¬ AtMost c a))
  acyclic : ∀ (w : Func.Surroundings) (among : Value → Prop), ¬ Inverted among → ∀ v : Value,
    ¬ TransGen (fun a b => among a ∧ among b ∧ Func.lt.apply w [a, b] = .ok (.bool true)) v v

/-- **Comparing values is an order** but for values at odds. -/
theorem compare_orderly : Orderly where
  reverse := compare?_swap
  transitive _ _ _ _ _ hac hodd hab hbc := hab.trans hac hodd hbc
  even _ _ _ _ _ hac hodd hab hbc := hab.trans hac hodd hbc
  loosely _ _ _ cab cbc cac hodd hab hbc :=
    (looselyEquals_iff cac).2 (.trans cac hodd ((looselyEquals_iff cab).1 hab) ((looselyEquals_iff cbc).1 hbc))
  atOdds _ _ _ h := h.violates
  acyclic w among hinv v h := by
    refine acyclic hinv v (TransGen.mono (fun a b hab => ?_) _ _ h)
    exact ⟨hab.1, hab.2.1, (lt_iff_below w).1 hab.2.2⟩

/-- Half past nine is after a text and before another that is less than the first; and one double is even with two whole
numbers that are not. -/
theorem compare_at_odds :
    (Below (.string "9:00:00") (.timespan ⟨34200000000000, by decide⟩) ∧
      Below (.timespan ⟨34200000000000, by decide⟩) (.string "10:00:00") ∧
        Below (.string "10:00:00") (.string "9:00:00")) ∧
    (Even (.int 9007199254740993) (.float 9007199254740992) ∧ Even (.float 9007199254740992) (.int 9007199254740992) ∧
      ¬ AtMost (.int 9007199254740993) (.int 9007199254740992)) := by
  unfold Below Even
  refine ⟨⟨by decide +kernel, by decide +kernel, by decide +kernel⟩, by decide +kernel, by decide +kernel, ?_⟩
  rw [atMost_int]
  decide

end Remedy.Value
