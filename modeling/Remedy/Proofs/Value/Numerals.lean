import Remedy.Proofs.Text.Characters
import Remedy.Value.Text
/-!
# Proofs.Value.Numerals — numbers and time spans are read back from their text

A word without quotes is tried as a whole number, as a floating point number and as a time span, in this order.  The
text of a whole number is read at the first try (`Value.ofWord_int`).  The clock form of a time span has colons, which
no number has, so the first two tries fail; the three fields between the colons give back the days and hours, the
minutes, and the seconds and milliseconds, which are the whole of it when it has no parts below a millisecond
(`Value.ofWord_timespan`).  What there is below a millisecond is not written, and time spans have one text just if they
are the same without it (`Timespan.text_read_back`).
-/
namespace Remedy

/-! ## Whole numbers -/

namespace Decimal

theorem ofDigits_eq_ofDigitChars : ∀ (cs : List Char) (acc : Nat), ofDigits acc cs = Nat.ofDigitChars 10 cs acc
  | [], _ => rfl
  | c :: cs, acc => by
    have hstep : acc * 10 + digitValue c = 10 * acc + (c.toNat - '0'.toNat) :=
      congrArg (· + digitValue c) (Nat.mul_comm acc 10)
    rw [Nat.ofDigitChars_cons, ← hstep]
    exact ofDigits_eq_ofDigitChars cs _

theorem isDigit_of_mem_toDigits {n : Nat} {c : Char} (h : c ∈ Nat.toDigits 10 n) : isDigit c = true :=
  Text.isDigit_iff.2 (Nat.isDigit_of_mem_toDigits (by decide) (by decide) h)

theorem natural?_of_digits {cs : List Char} (hne : cs ≠ []) (h : ∀ c ∈ cs, isDigit c = true) :
    natural? cs = some (ofDigits 0 cs) := by
  have hall : cs.all isDigit = true := List.all_eq_true.2 h
  simp [natural?, hne, hall]

theorem natural?_toDigits (n : Nat) : natural? (Nat.toDigits 10 n) = some n := by
  rw [natural?_of_digits Nat.toDigits_ne_nil fun c => isDigit_of_mem_toDigits, ofDigits_eq_ofDigitChars,
    Nat.ofDigitChars_ten_toDigits]

theorem isDigit_of_natural? {cs : List Char} {n : Nat} (h : natural? cs = some n) : ∀ c ∈ cs, isDigit c = true := by
  unfold natural? at h
  split at h
  · rename_i hcs
    rw [Bool.and_eq_true] at hcs
    exact List.all_eq_true.1 hcs.2
  · cases h

theorem natural?_eq_none {cs : List Char} {c : Char} (hc : c ∈ cs) (hdigit : isDigit c = false) : natural? cs = none :=
  Option.eq_none_iff_forall_ne_some.2 fun _ h => by
    rw [isDigit_of_natural? h c hc] at hdigit
    cases hdigit

theorem unsigned?_of_natural? {cs : List Char} {n : Nat} (h : natural? cs = some n) (hn : n < 0x10000000000000000) :
    unsigned? cs = some n := by
  unfold unsigned?
  split
  · exact absurd (isDigit_of_natural? h '+' (by simp)) (by decide)
  · dsimp only
    rw [h, Option.filter_some, if_pos (decide_eq_true hn)]

theorem signed?_of_natural? {cs : List Char} {n : Nat} (h : natural? cs = some n) (hn : (n : Int) < 0x8000000000000000) :
    signed? cs = some (Int64.ofInt n) := by
  unfold signed?
  split
  · exact absurd (isDigit_of_natural? h '-' (by simp)) (by decide)
  · exact absurd (isDigit_of_natural? h '+' (by simp)) (by decide)
  · have hrange : (decide (-0x8000000000000000 ≤ (n : Int)) && decide ((n : Int) < 0x8000000000000000)) = true := by
      rw [Bool.and_eq_true, decide_eq_true_eq, decide_eq_true_eq]
      omega
    simp only [h, Option.bind_eq_bind, Option.bind_some, Option.pure_def, Option.map_some, Option.filter_some,
      if_pos hrange]

theorem signed?_minus {cs : List Char} {n : Nat} (h : natural? cs = some n) (hn : (n : Int) ≤ 0x8000000000000000) :
    signed? ('-' :: cs) = some (Int64.ofInt (-n)) := by
  have hrange : (decide (-0x8000000000000000 ≤ -(n : Int)) && decide (-(n : Int) < 0x8000000000000000)) = true := by
    rw [Bool.and_eq_true, decide_eq_true_eq, decide_eq_true_eq]
    omega
  simp only [signed?, h, Option.bind_eq_bind, Option.bind_some, Option.pure_def, Option.map_some, Option.filter_some,
    if_pos hrange]

theorem toList_repr : ∀ n : Int, n.repr.toList =
    match n with
    | .ofNat m => Nat.toDigits 10 m
    | .negSucc m => '-' :: Nat.toDigits 10 (m + 1)
  | .ofNat _ => Nat.toList_repr
  | .negSucc m => by
    have hminus : "-".toList = ['-'] := rfl
    simp only [Int.repr, String.toList_append, Nat.toList_repr, hminus, List.singleton_append]

/-- **A whole number is read back from its text.** -/
theorem signed?_toString (n : Int64) : signed? (toString n.toInt).toList = some n := by
  have hlo := n.le_toInt
  have hhi := n.toInt_lt
  rw [← congrArg some n.ofInt_toInt, Int.toString_eq_repr, toList_repr]
  cases hn : n.toInt with
  | ofNat m =>
    rw [hn, Int.ofNat_eq_natCast] at hhi
    exact signed?_of_natural? (natural?_toDigits m) hhi
  | negSucc m =>
    have hbound : ((m + 1 : Nat) : Int) ≤ 0x8000000000000000 := by omega
    have hneg : -((m + 1 : Nat) : Int) = Int.negSucc m := by omega
    have hread := signed?_minus (natural?_toDigits (m + 1)) hbound
    rwa [hneg] at hread

theorem signed?_eq_none {cs : List Char} {c : Char} (hc : c ∈ cs) (hdigit : isDigit c = false) (hminus : c ≠ '-')
    (hplus : c ≠ '+') : signed? cs = none := by
  have hrest {d : Char} {rest : List Char} (h : c ∈ d :: rest) (hd : c ≠ d) : natural? rest = none :=
    natural?_eq_none ((List.mem_cons.1 h).resolve_left hd) hdigit
  unfold signed?
  split
  · rw [hrest hc hminus]
    rfl
  · rw [hrest hc hplus]
    rfl
  · rw [natural?_eq_none hc hdigit]
    rfl

end Decimal

/-! ## Floating point numbers -/

namespace Decimal

theorem positional_chars (d : Digits) : ∀ c ∈ d.positional, isDigit c = true ∨ c = '.' := by
  have hdigits : ∀ c ∈ Nat.toDigits 10 d.digits, isDigit c = true := fun c => isDigit_of_mem_toDigits
  have hzeros : ∀ n, ∀ c ∈ List.replicate n '0', isDigit c = true := fun n c hc => by
    rw [List.eq_of_mem_replicate hc]
    rfl
  intro c hc
  unfold Digits.positional at hc
  simp only at hc
  split at hc
  · exact (List.mem_append.1 hc).elim (fun hc => .inl (hdigits c hc)) fun hc => .inl (hzeros _ c hc)
  · split at hc
    · rcases List.mem_append.1 hc with hc | hc
      · rcases List.mem_append.1 hc with hc | hc
        · exact .inl (hdigits c (List.mem_of_mem_take hc))
        · exact .inr (List.mem_singleton.1 hc)
      · exact .inl (hdigits c (List.mem_of_mem_drop hc))
    · rcases List.mem_append.1 hc with hc | hc
      · rcases List.mem_append.1 hc with hc | hc
        · rcases List.mem_cons.1 hc with rfl | hc
          · exact .inl rfl
          · exact .inr (List.mem_singleton.1 hc)
        · exact .inl (hzeros _ c hc)
      · exact .inl (hdigits c hc)

theorem positional_start (d : Digits) : Term.startsWith isDigit d.positional = true := by
  have hdigits : Term.startsWith isDigit (Nat.toDigits 10 d.digits) = true :=
    Term.startsWith_of_forall Nat.toDigits_ne_nil fun c => isDigit_of_mem_toDigits
  unfold Digits.positional
  simp only
  split
  · exact Term.startsWith_append _ hdigits
  · split
    · rename_i hpoint
      rw [List.append_assoc]
      refine Term.startsWith_append _ ?_
      obtain ⟨n, hn⟩ := Int.eq_ofNat_of_zero_le (Int.le_of_lt hpoint)
      obtain ⟨n, rfl⟩ := Nat.exists_eq_add_one_of_ne_zero (show n ≠ 0 by omega)
      rw [hn, Int.toNat_natCast]
      cases hds : Nat.toDigits 10 d.digits with
      | nil => exact absurd hds Nat.toDigits_ne_nil
      | cons c cs => rwa [hds] at hdigits
    · rfl

/-- **The characters of a floating point number**: digits and points after a minus sign or none, a digit first, or one
of the words `NaN` and `inf`. -/
theorem floatText_eq (x : Float) : (floatText x).toList = ['N', 'a', 'N'] ∨
    ∃ sign body, (floatText x).toList = sign ++ body ∧ (sign = [] ∨ sign = ['-']) ∧
      (body = ['i', 'n', 'f'] ∨ Term.startsWith isDigit body = true ∧ ∀ c ∈ body, isDigit c = true ∨ c = '.') := by
  have hsign : (if isNegative x then ['-'] else []) = [] ∨ (if isNegative x then ['-'] else []) = ['-'] := by
    split
    · exact .inr rfl
    · exact .inl rfl
  unfold floatText
  cases kind x with
  | nan => exact .inl (show "NaN".toList = _ by decide)
  | infinite => exact .inr ⟨_, _, String.toList_ofList, hsign, .inl rfl⟩
  | zero => exact .inr ⟨_, _, String.toList_ofList, hsign, .inr ⟨rfl, List.forall_mem_singleton.2 (.inl rfl)⟩⟩
  | finite b => exact .inr ⟨_, _, String.toList_ofList, hsign, .inr ⟨positional_start _, positional_chars _⟩⟩

end Decimal

/-! ## The clock form -/

namespace Text

theorem pieces_of_not_mem {sep : Char} : ∀ {cs : List Char}, sep ∉ cs → pieces sep cs = [cs]
  | [], _ => rfl
  | c :: cs, h => by
    rw [List.mem_cons, not_or] at h
    rw [pieces, if_neg (Ne.symm h.1), pieces_of_not_mem h.2]

theorem pieces_append {sep : Char} {rest : List Char} : ∀ {cs : List Char}, sep ∉ cs →
    pieces sep (cs ++ sep :: rest) = cs :: pieces sep rest
  | [], _ => if_pos rfl
  | c :: cs, h => by
    rw [List.mem_cons, not_or] at h
    rw [List.cons_append, pieces, if_neg (Ne.symm h.1), pieces_append h.2]

theorem cutAt_of_not_mem {sep : Char} : ∀ {cs : List Char}, sep ∉ cs → cutAt sep cs = none
  | [], _ => rfl
  | c :: cs, h => by
    rw [List.mem_cons, not_or] at h
    rw [cutAt, if_neg (Ne.symm h.1), cutAt_of_not_mem h.2]
    rfl

theorem cutAt_append {sep : Char} {rest : List Char} : ∀ {cs : List Char}, sep ∉ cs →
    cutAt sep (cs ++ sep :: rest) = some (cs, rest)
  | [], _ => if_pos rfl
  | c :: cs, h => by
    rw [List.mem_cons, not_or] at h
    rw [List.cons_append, cutAt, if_neg (Ne.symm h.1), cutAt_append h.2]
    rfl

end Text

namespace Timespan

open Decimal

theorem padded_digits {width n : Nat} : ∀ c ∈ padded width n, isDigit c = true := fun c hc => by
  rcases List.mem_append.1 hc with hc | hc
  · rw [List.eq_of_mem_replicate hc]
    rfl
  · exact isDigit_of_mem_toDigits hc

theorem padded_ne_nil {width n : Nat} : padded width n ≠ [] :=
  List.append_ne_nil_of_right_ne_nil _ Nat.toDigits_ne_nil

theorem ofDigits_padded {width n : Nat} : ofDigits 0 (padded width n) = n := by
  rw [ofDigits_eq_ofDigitChars, padded, Nat.ofDigitChars_append, Nat.ofDigitChars_replicate_zero, Nat.mul_zero,
    Nat.ofDigitChars_ten_toDigits]

theorem unsigned?_padded {width n : Nat} (h : n < 0x10000000000000000) : unsigned? (padded width n) = some n := by
  refine unsigned?_of_natural? ?_ h
  rw [natural?_of_digits padded_ne_nil padded_digits, ofDigits_padded]

theorem length_padded {width n : Nat} (h : (Nat.toDigits 10 n).length ≤ width) : (padded width n).length = width := by
  simp only [padded, List.length_append, List.length_replicate]
  omega

theorem not_mem_of_digits {cs : List Char} {c : Char} (h : ∀ d ∈ cs, isDigit d = true) (hc : isDigit c = false) :
    c ∉ cs := fun hmem => by
  rw [h c hmem] at hc
  cases hc

def dayHourField (days hours : Nat) : List Char :=
  (if 0 < days then Nat.toDigits 10 days ++ ['.'] else []) ++ padded 2 hours

def secondField (seconds millis : Nat) : List Char :=
  padded 2 seconds ++ if 0 < millis then '.' :: padded 3 millis else []

def FieldChar (c : Char) : Prop := isDigit c = true ∨ c = '.'

theorem dayHourField_chars {days hours : Nat} : ∀ c ∈ dayHourField days hours, FieldChar c := fun c hc => by
  rcases List.mem_append.1 hc with hc | hc
  · split at hc
    · rcases List.mem_append.1 hc with hc | hc
      · exact .inl (isDigit_of_mem_toDigits hc)
      · exact .inr (List.mem_singleton.1 hc)
    · cases hc
  · exact .inl (padded_digits c hc)

theorem secondField_chars {seconds millis : Nat} : ∀ c ∈ secondField seconds millis, FieldChar c := fun c hc => by
  rcases List.mem_append.1 hc with hc | hc
  · exact .inl (padded_digits c hc)
  · split at hc
    · exact (List.mem_cons.1 hc).elim .inr fun hc => .inl (padded_digits c hc)
    · cases hc

theorem colon_not_mem {cs : List Char} (h : ∀ c ∈ cs, FieldChar c) : ':' ∉ cs := fun hc =>
  (h _ hc).elim (by decide) (by decide)

theorem daysHours?_dayHourField {days hours : Nat} (hdays : days < 0x10000000000000000) (hhours : hours < 24) :
    daysHours? (dayHourField days hours) = some (days, hours) := by
  have hunsigned : unsigned? (padded 2 hours) = some hours := unsigned?_padded (by omega)
  have hpoint {cs : List Char} (h : ∀ c ∈ cs, isDigit c = true) : '.' ∉ cs := not_mem_of_digits h rfl
  by_cases hzero : 0 < days
  · rw [dayHourField, if_pos hzero, List.append_assoc, List.singleton_append, daysHours?,
      Text.cutAt_append (hpoint fun c => isDigit_of_mem_toDigits)]
    simp only [unsigned?_of_natural? (natural?_toDigits days) hdays, hunsigned]
  · rw [dayHourField, if_neg hzero, List.nil_append, daysHours?, Text.cutAt_of_not_mem (hpoint padded_digits), hunsigned,
      Nat.eq_zero_of_not_pos hzero]
    rfl

theorem secondsNanos?_secondField {seconds millis : Nat} (hseconds : seconds < 60) (hmillis : millis < 1000) :
    secondsNanos? (secondField seconds millis) = some (seconds, millis * 1000000) := by
  have hunsigned : unsigned? (padded 2 seconds) = some seconds := unsigned?_padded (by omega)
  have hpoint : '.' ∉ padded 2 seconds := not_mem_of_digits padded_digits rfl
  by_cases hzero : 0 < millis
  · -- three digits are milliseconds: six zeros fill the fraction up to nanoseconds
    have hlength : (padded 3 millis).length = 3 := 
      length_padded ((Nat.length_toDigits_le_iff (by decide) (by decide)).2 hmillis)
    have hfraction : ofDigits 0 (padded 3 millis ++ List.replicate 6 '0') = millis * 1000000 := by
      rw [ofDigits_eq_ofDigitChars, Nat.ofDigitChars_append, Nat.ofDigitChars_replicate_zero,
        ← ofDigits_eq_ofDigitChars, ofDigits_padded, Nat.mul_comm]
    have hall : (padded 3 millis).all isDigit = true := List.all_eq_true.2 padded_digits
    rw [secondField, if_pos hzero, secondsNanos?, Text.cutAt_append hpoint]
    simp only [List.isEmpty_eq_false_iff.2 padded_ne_nil, hlength, hall, hunsigned, hfraction, Option.map_some]
    rfl
  · rw [secondField, if_neg hzero, List.append_nil, secondsNanos?, Text.cutAt_of_not_mem hpoint, hunsigned,
      Nat.eq_zero_of_not_pos hzero]
    rfl

theorem chars_eq (d : Timespan) : d.chars =
    dayHourField (d.seconds / 86400) (d.seconds % 86400 / 3600) ++ ':' :: (padded 2 (d.seconds % 3600 / 60) ++
      ':' :: secondField (d.seconds % 60) (d.subsecond / 1000000)) := by
  simp only [chars, dayHourField, secondField, List.append_assoc, List.cons_append]

theorem chars_kind (d : Timespan) : ∀ c ∈ d.chars, FieldChar c ∨ c = ':' := fun c hc => by
  rw [chars_eq, List.mem_append, List.mem_cons, List.mem_append, List.mem_cons] at hc
  rcases hc with hc | hc | hc | hc | hc
  · exact .inl (dayHourField_chars c hc)
  · exact .inr hc
  · exact .inl (.inl (padded_digits c hc))
  · exact .inr hc
  · exact .inl (secondField_chars c hc)

/-- A clock form starts with digits; a point or a colon ends them, and another digit comes next. -/
theorem chars_start (d : Timespan) : ∃ digits c rest, d.chars = digits ++ c :: rest ∧ digits ≠ [] ∧
    (∀ c ∈ digits, isDigit c = true) ∧ (c = '.' ∨ c = ':') ∧ Term.startsWith isDigit rest = true := by
  have hstarts {width n : Nat} (more : List Char) : Term.startsWith isDigit (padded width n ++ more) = true :=
    Term.startsWith_append more (Term.startsWith_of_forall padded_ne_nil padded_digits)
  rw [chars_eq, dayHourField]
  split
  · rw [List.append_assoc, List.append_assoc, List.singleton_append]
    exact ⟨_, _, _, rfl, Nat.toDigits_ne_nil, fun c => isDigit_of_mem_toDigits, .inl rfl, hstarts _⟩
  · exact ⟨_, _, _, rfl, padded_ne_nil, padded_digits, .inr rfl, hstarts _⟩

theorem isDigit_chars (d : Timespan) : Term.startsWith isDigit d.chars = true := by
  obtain ⟨digits, c, rest, heq, hne, hdigits, -, -⟩ := d.chars_start
  rw [heq]
  exact Term.startsWith_append _ (Term.startsWith_of_forall hne hdigits)

theorem tight_chars (d : Timespan) : Text.Tight d.chars :=
  .of_forall (Term.startsWith_ne_nil d.isDigit_chars) fun c hc => by
    rcases d.chars_kind c hc with (hc | rfl) | rfl
    · exact Text.isBlank_of_isIdentRest (Text.isIdentRest_of_isDigit hc)
    · rfl
    · rfl

theorem ofNanos?_nanos (d : Timespan) : ofNanos? d.nanos = some d := dif_pos d.inRange

theorem pieces_chars (d : Timespan) : Text.pieces ':' d.chars =
    [dayHourField (d.seconds / 86400) (d.seconds % 86400 / 3600), padded 2 (d.seconds % 3600 / 60),
      secondField (d.seconds % 60) (d.subsecond / 1000000)] := by
  rw [chars_eq, Text.pieces_append (colon_not_mem dayHourField_chars),
    Text.pieces_append (not_mem_of_digits padded_digits rfl), Text.pieces_of_not_mem (colon_not_mem secondField_chars)]

/-- **A time span of whole milliseconds is read back from its clock form.** -/
theorem ofChars?_chars (d : Timespan) (hmillis : d.nanos % 1000000 = 0) : ofChars? d.chars = some d := by
  have hrange := d.inRange
  have hseconds : d.seconds < 18446744073709551616 := by unfold seconds; omega
  have hfirst : daysHours? (dayHourField (d.seconds / 86400) (d.seconds % 86400 / 3600)) = some (_, _) :=
    daysHours?_dayHourField (by omega) (by omega)
  have hsecond : unsigned? (padded 2 (d.seconds % 3600 / 60)) = some _ := unsigned?_padded (by omega)
  have hlength : (padded 2 (d.seconds % 3600 / 60)).length = 2 := 
    length_padded ((Nat.length_toDigits_le_iff (by decide) (by decide)).2 (by omega))
  have hthird : secondsNanos? (secondField (d.seconds % 60) (d.subsecond / 1000000)) = some (_, _) :=
    secondsNanos?_secondField (by omega) (by unfold subsecond; omega)
  have htotal : (d.seconds / 86400 * 86400 + d.seconds % 86400 / 3600 * 3600 + d.seconds % 3600 / 60 * 60 +
      d.seconds % 60) * 1000000000 + d.subsecond / 1000000 * 1000000 = d.nanos := by
    unfold seconds subsecond
    omega
  rw [ofChars?, d.tight_chars.trim, pieces_chars]
  simp only [ofFields?, hfirst, hsecond, hthird, hlength, htotal]
  rw [if_neg, ofNanos?_nanos]
  simp only [Bool.or_eq_true, decide_eq_true_eq]
  omega

/-- **The time span without what is below a millisecond.** -/
def wholeMillis (d : Timespan) : Timespan :=
  ⟨d.nanos - d.nanos % 1000000, Nat.lt_of_le_of_lt (Nat.sub_le ..) d.inRange⟩

theorem wholeMillis_mod (d : Timespan) : d.wholeMillis.nanos % 1000000 = 0 := by
  simp only [wholeMillis]
  omega

theorem wholeMillis_of_mod {d : Timespan} (h : d.nanos % 1000000 = 0) : d.wholeMillis = d := by
  cases d
  simp_all [wholeMillis]

theorem chars_wholeMillis (d : Timespan) : d.wholeMillis.chars = d.chars := by
  have hseconds : d.wholeMillis.seconds = d.seconds := by
    simp only [wholeMillis, seconds]
    omega
  have hmillis : d.wholeMillis.subsecond / 1000000 = d.subsecond / 1000000 := by
    simp only [wholeMillis, subsecond]
    omega
  rw [chars_eq, chars_eq, hseconds, hmillis]

end Timespan

/-! ## Words -/

namespace Value

theorem ofWord_of_signed? {cs : List Char} {n : Int64} (h : Decimal.signed? cs = some n) : ofWord cs = .int n := by
  have hword {word : List Char} (hnone : Decimal.signed? word = none) : cs ≠ word := fun heq => by
    rw [heq, hnone] at h
    cases h
  rw [ofWord, if_neg (hword (by decide)), if_neg (hword (by decide)), if_neg (hword (by decide)), h]

/-- **A whole number is read back as a word.** -/
theorem ofWord_int (n : Int64) : ofWord (toString n.toInt).toList = .int n := ofWord_of_signed? (Decimal.signed?_toString n)

theorem looksNumeric_of_colon {cs : List Char} (h : ':' ∈ cs) : looksNumeric cs = false := by
  have hbody : ∀ (c : Char) {body : List Char}, ':' ∈ body → (Decimal.isDigit c && body.all fun c =>
      Decimal.isDigit c || c == '.' || c == 'e' || c == 'E' || c == '+' || c == '-') = false := by
    intro c body h
    refine (congrArg (Decimal.isDigit c && ·) ?_).trans (Bool.and_false _)
    exact List.all_eq_false.2 ⟨':', h, by decide⟩
  unfold looksNumeric
  split
  · rename_i rest
    have hrest := (List.mem_cons.1 h).resolve_left (by decide)
    cases rest with
    | nil => cases hrest
    | cons c cs => exact hbody c hrest
  · cases cs with
    | nil => cases h
    | cons c cs => exact hbody c h

/-- **A time span of whole milliseconds is read back as a word.** -/
theorem ofWord_timespan (d : Timespan) (hmillis : d.nanos % 1000000 = 0) : ofWord d.chars = .timespan d := by
  have hcolon : ':' ∈ d.chars := by
    rw [Timespan.chars_eq]
    simp
  have hword {cs : List Char} (h : ':' ∉ cs) : d.chars ≠ cs := fun heq => h (heq ▸ hcolon)
  have hsigned : Decimal.signed? d.chars = none := Decimal.signed?_eq_none hcolon rfl (by decide) (by decide)
  have hfloat : floatLiteral? d.chars = none := by
    rw [floatLiteral?, looksNumeric_of_colon hcolon]
    rfl
  rw [ofWord, if_neg (hword (by decide)), if_neg (hword (by decide)), if_neg (hword (by decide)), hsigned]
  simp only [hfloat, Timespan.ofChars?_chars d hmillis]

/-- A time span with parts below a millisecond is read as one without them. -/
theorem ofWord_chars (d : Timespan) : ofWord d.chars = .timespan d.wholeMillis := by
  rw [← d.chars_wholeMillis, ofWord_timespan _ d.wholeMillis_mod]

theorem ofWord_timespan_iff (d : Timespan) : ofWord d.chars = .timespan d ↔ d.nanos % 1000000 = 0 := by
  refine ⟨fun h => ?_, ofWord_timespan d⟩
  rw [ofWord_chars] at h
  rw [← Value.timespan.inj h]
  exact d.wholeMillis_mod

end Value

/-- **The clock form of a time span is read back** as the time span without what is below a millisecond, by itself and
as a word, where it might have been a number or any text.  So time spans have the same clock form just if they differ
below a millisecond only, and those of whole milliseconds have clock forms of their own. -/
theorem Timespan.text_read_back :
    (∀ d : Timespan, parse? d.text = some d.wholeMillis ∧ Value.parse d.text = .timespan d.wholeMillis) ∧
      (∀ d e : Timespan, d.text = e.text ↔ d.wholeMillis = e.wholeMillis) ∧
        Function.Injective fun d : { d : Timespan // d.nanos % 1000000 = 0 } => d.val.text := by
  have hparse (d : Timespan) : parse? d.text = some d.wholeMillis := by
    rw [parse?, text, String.toList_ofList, ← d.chars_wholeMillis, ofChars?_chars _ d.wholeMillis_mod]
  have hiff (d e : Timespan) : d.text = e.text ↔ d.wholeMillis = e.wholeMillis := by
    refine ⟨fun h => ?_, fun h => ?_⟩
    · have hread := hparse d
      rw [h, hparse e] at hread
      exact (Option.some.inj hread).symm
    · rw [text, text, ← d.chars_wholeMillis, h, e.chars_wholeMillis]
  refine ⟨fun d => ⟨hparse d, ?_⟩, hiff, fun d e h => Subtype.ext ?_⟩
  · rw [Value.parse, text, String.toList_ofList, Value.ofWord_chars]
  · rw [← wholeMillis_of_mod d.property, ← wholeMillis_of_mod e.property]
    exact (hiff d e).1 h

example : (⟨93784005678901, by decide⟩ : Timespan).text = "1.02:03:04.005" := by decide

end Remedy
