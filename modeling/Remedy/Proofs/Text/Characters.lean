import Mathlib.Data.List.TakeWhile
import Remedy.Term.Parser
/-!
# Proofs.Text.Characters — the characters that texts are cut at

A reader takes the longest run of characters of one kind and passes over the white space after it.  That a written word
is taken whole, and nothing after it, needs two things: the word is all of that kind, and what follows does not go on
with it (`takeWhile_run`, `dropWhile_run`).  That nothing of a word is passed over as white space needs the one fact
about the Unicode tables that is used here: white space is in no identifier (`isBlank_of_isIdentRest`).
-/
namespace Remedy

namespace Text

/-! ## Classes of characters -/

theorem not_mem_of_test {p : Char → Bool} {c : Char} {ds : List Char} (h : p c = true)
    (hds : ds.all (fun d => !p d) = true) : c ∉ ds := fun hc => by
  have hfails := List.all_eq_true.1 hds c hc
  rw [h] at hfails
  cases hfails

namespace Ranges

def Has (n : Nat) (pairs : List (Nat × Nat)) : Prop := ∃ p ∈ pairs, p.1 ≤ n ∧ n ≤ p.2

instance (n : Nat) (pairs : List (Nat × Nat)) : Decidable (Has n pairs) := inferInstanceAs (Decidable (∃ p ∈ pairs, _))

theorem has_of_search {r : Ranges} {n : Nat} : ∀ {fuel lo hi : Nat}, r.search n fuel lo hi = true → Has n r.toList
  | 0, _, _, h => nomatch h
  | fuel + 1, lo, hi, h => by
    unfold search at h
    split at h
    · dsimp only at h
      split at h
      · cases h
      · rename_i first last hmid
        split at h
        · exact has_of_search h
        · split at h
          · exact has_of_search h
          · exact ⟨(first, last), Array.mem_toList_iff.2 (Array.mem_of_getElem? hmid), by omega, by omega⟩
    · cases h

theorem has_of_contains {r : Ranges} {c : Char} (h : r.contains c = true) : Has c.toNat r.toList := has_of_search h

theorem has_of_joinFrom {n : Nat} : ∀ {pairs : List (Nat × Nat)} {first last : Nat},
    Has n (joinFrom first last pairs) → Has n ((first, last) :: pairs)
  | [], _, _, h => h
  | (a, b) :: rest, first, last, h => by
    unfold joinFrom at h
    split at h
    · -- two ranges that touch: what lies in their union lies in one of them
      obtain ⟨p, hp, hfirst, hlast⟩ := has_of_joinFrom h
      rcases List.mem_cons.1 hp with rfl | hp
      · by_cases hn : n ≤ last
        · exact ⟨(first, last), by simp, hfirst, hn⟩
        · refine ⟨(a, b), by simp, ?_, ?_⟩ <;> simp only at hlast ⊢ <;> omega
      · exact ⟨p, by simp [hp], hfirst, hlast⟩
    · obtain ⟨p, hp, hn⟩ := h
      rcases List.mem_cons.1 hp with rfl | hp
      · exact ⟨_, by simp, hn⟩
      · obtain ⟨q, hq, hn⟩ := has_of_joinFrom ⟨p, hp, hn⟩
        exact ⟨q, List.mem_cons_of_mem _ hq, hn⟩

theorem has_of_joined {n : Nat} : ∀ {pairs : List (Nat × Nat)}, Has n (joined pairs) → Has n pairs
  | [], h => h
  | (_, _) :: _, h => has_of_joinFrom h

/-- **A union has no character that neither class has.** -/
theorem has_of_union {r s : Ranges} {n : Nat} (h : Has n (r ∪ s).toList) : Has n r.toList ∨ Has n s.toList := by
  obtain ⟨p, hp, hn⟩ := has_of_joined h
  rcases List.mem_merge.1 hp with hp | hp
  · exact .inl ⟨p, hp, hn⟩
  · exact .inr ⟨p, hp, hn⟩

end Ranges

/-! ## White space -/

def blanks : List Nat :=
  [0x09, 0x0A, 0x0B, 0x0C, 0x0D, 0x20, 0x85, 0xA0, 0x1680, 0x2000, 0x2001, 0x2002, 0x2003, 0x2004, 0x2005, 0x2006,
    0x2007, 0x2008, 0x2009, 0x200A, 0x2028, 0x2029, 0x202F, 0x205F, 0x3000]

theorem mem_blanks {c : Char} (h : isBlank c = true) : c.toNat ∈ blanks := by
  simp only [isBlank, Bool.or_eq_true, Bool.and_eq_true, decide_eq_true_eq, beq_iff_eq] at h
  simp only [blanks, List.mem_cons, List.not_mem_nil, or_false]
  omega

theorem not_isAlphabetic_of_blanks : ∀ n ∈ blanks, isAlphabetic (Char.ofNat n) = false := by decide +kernel

theorem not_isDigit_of_blanks : ∀ n ∈ blanks, (Char.ofNat n).isDigit = false := by decide +kernel

theorem not_number_of_blanks : ∀ n ∈ blanks,
    ¬ Ranges.Has n decimalDigits.toList ∧ ¬ Ranges.Has n letterNumbers.toList ∧ ¬ Ranges.Has n otherNumbers.toList := by
  decide +kernel

theorem isNumeric_of_isBlank {c : Char} (h : isBlank c = true) : isNumeric c = false := by
  have hc := mem_blanks h
  unfold isNumeric
  split
  · rw [← Char.ofNat_toNat c]
    exact not_isDigit_of_blanks _ hc
  · obtain ⟨hdecimal, hletter, hother⟩ := not_number_of_blanks _ hc
    refine Bool.eq_false_iff.2 fun hnumber => ?_
    rcases Ranges.has_of_union (Ranges.has_of_contains hnumber) with h | h
    · exact (Ranges.has_of_union h).elim hdecimal hletter
    · exact hother h

/-- **White space is in no identifier.** -/
theorem isBlank_of_isIdentRest {c : Char} (h : isIdentRest c = true) : isBlank c = false := by
  refine Bool.eq_false_iff.2 fun hblank => ?_
  have halpha := not_isAlphabetic_of_blanks _ (mem_blanks hblank)
  rw [Char.ofNat_toNat] at halpha
  simp only [isIdentRest, isAlphanumeric, halpha, isNumeric_of_isBlank hblank, Bool.false_or, beq_iff_eq] at h
  subst h
  exact absurd hblank (by decide)

theorem isIdentRest_of_isIdentStart {c : Char} (h : isIdentStart c = true) : isIdentRest c = true := by
  simp only [isIdentStart, isIdentRest, isAlphanumeric, Bool.or_eq_true] at h ⊢
  exact h.imp_left .inl

theorem digit_range {c : Char} (h : Decimal.isDigit c = true) : 48 ≤ c.toNat ∧ c.toNat ≤ 57 := by
  simp only [Decimal.isDigit, Bool.and_eq_true, decide_eq_true_eq, Char.le_def, UInt32.le_iff_toNat_le] at h
  exact h

theorem isDigit_iff {c : Char} : Decimal.isDigit c = true ↔ c.isDigit = true := by
  simp only [Decimal.isDigit, Char.isDigit, Bool.and_eq_true, decide_eq_true_eq]
  exact Iff.rfl

theorem isIdentRest_of_isDigit {c : Char} (h : Decimal.isDigit c = true) : isIdentRest c = true := by
  have hc := digit_range h
  have hnumber : isNumeric c = true := (if_pos (by omega)).trans (isDigit_iff.1 h)
  rw [isIdentRest, isAlphanumeric, hnumber, Bool.or_true, Bool.true_or]

theorem not_isIdentStart_of_isDigit {c : Char} (h : Decimal.isDigit c = true) : isIdentStart c = false := by
  have hdigits : ∀ n ∈ List.range' 48 10, isIdentStart (Char.ofNat n) = false := by decide
  have hc := digit_range h
  rw [← Char.ofNat_toNat c]
  exact hdigits _ (List.mem_range'_1.2 (by omega))

theorem not_isDigit_of_isIdentStart {c : Char} (h : isIdentStart c = true) : Decimal.isDigit c = false :=
  Bool.eq_false_iff.2 fun hdigit => by
    rw [not_isIdentStart_of_isDigit hdigit] at h
    cases h

end Text

/-! ## The first and the last character -/

namespace Term

section Ends

variable {p q : Char → Bool} {cs : List Char}

theorem startsWith_ne_nil (h : startsWith p cs = true) : cs ≠ [] := by
  rintro rfl
  cases h

theorem startsWith_append (rest : List Char) (h : startsWith p cs = true) : startsWith p (cs ++ rest) = true := by
  cases cs with
  | nil => cases h
  | cons c cs => exact h

theorem startsWith_append_eq (rest : List Char) (hne : cs ≠ []) : startsWith p (cs ++ rest) = startsWith p cs := by
  cases cs with
  | nil => exact absurd rfl hne
  | cons c cs => rfl

theorem startsWith_imp (h : startsWith p cs = true) (hpq : ∀ c, p c = true → q c = true) : startsWith q cs = true := by
  cases cs with
  | nil => cases h
  | cons c cs => exact hpq c h

theorem startsWith_of_forall (hne : cs ≠ []) (h : ∀ c ∈ cs, p c = true) : startsWith p cs = true := by
  cases cs with
  | nil => exact absurd rfl hne
  | cons c cs => exact h c (by simp)

theorem finish_append (before : List Char) (h : startsWith p cs.reverse = true) :
    startsWith p (before ++ cs).reverse = true := by
  rw [List.reverse_append]
  exact startsWith_append _ h

theorem finish_of_forall (hne : cs ≠ []) (h : ∀ c ∈ cs, p c = true) : startsWith p cs.reverse = true :=
  startsWith_of_forall (fun heq => hne (List.reverse_eq_nil_iff.1 heq)) fun c hc => h c (List.mem_reverse.1 hc)

end Ends

end Term

namespace Text

/-! ## Runs -/

section Runs

variable {p : Char → Bool} {cs rest : List Char}

theorem takeWhile_eq_nil (h : Term.startsWith p rest = false) : rest.takeWhile p = [] := by
  cases rest with
  | nil => rfl
  | cons c cs => exact List.takeWhile_cons_of_neg (Bool.eq_false_iff.1 h)

theorem dropWhile_eq_self (h : Term.startsWith p rest = false) : rest.dropWhile p = rest := by
  cases rest with
  | nil => rfl
  | cons c cs => exact List.dropWhile_cons_of_neg (Bool.eq_false_iff.1 h)

/-- **A word is taken whole**, and nothing of what follows it. -/
theorem takeWhile_run (hcs : ∀ c ∈ cs, p c = true) (h : Term.startsWith p rest = false) :
    (cs ++ rest).takeWhile p = cs := by
  rw [List.takeWhile_append_of_pos hcs, takeWhile_eq_nil h, List.append_nil]

theorem dropWhile_run (hcs : ∀ c ∈ cs, p c = true) (h : Term.startsWith p rest = false) :
    (cs ++ rest).dropWhile p = rest := by
  rw [List.dropWhile_append_of_pos hcs, dropWhile_eq_self h]

theorem trimStart_eq_self (h : Term.startsWith isBlank rest = false) : trimStart rest = rest := dropWhile_eq_self h

theorem startsWith_trimStart (cs : List Char) : Term.startsWith isBlank (trimStart cs) = false := by
  unfold trimStart
  induction cs with
  | nil => rfl
  | cons c cs ih =>
    rw [List.dropWhile_cons]
    split
    · exact ih
    · rename_i hc
      exact Bool.eq_false_iff.2 hc

theorem trimStart_trimStart (cs : List Char) : trimStart (trimStart cs) = trimStart cs :=
  trimStart_eq_self (startsWith_trimStart cs)

end Runs

/-! ## White space at the ends -/

/-- A text that is not empty and has no white space at its ends. -/
structure Tight (cs : List Char) : Prop where
  start : Term.startsWith (!isBlank ·) cs = true
  finish : Term.startsWith (!isBlank ·) cs.reverse = true

theorem Tight.of_forall {cs : List Char} (hne : cs ≠ []) (h : ∀ c ∈ cs, isBlank c = false) : Tight cs := by
  have hsolid : ∀ c ∈ cs, (!isBlank c) = true := fun c hc => by
    rw [h c hc]
    rfl
  exact ⟨Term.startsWith_of_forall hne hsolid, Term.finish_of_forall hne hsolid⟩

theorem Tight.ne_nil {cs : List Char} (h : Tight cs) : cs ≠ [] := Term.startsWith_ne_nil h.start

theorem Tight.exists_solid {cs : List Char} (h : Tight cs) : ∃ c ∈ cs, isBlank c = false := by
  have hstart := h.start
  cases cs with
  | nil => cases hstart
  | cons c cs => exact ⟨c, by simp, by simpa [Term.startsWith] using hstart⟩

theorem dropWhile_tight {cs : List Char} (h : Term.startsWith (!isBlank ·) cs = true) (rest : List Char) :
    (cs ++ rest).dropWhile isBlank = cs ++ rest := by
  cases cs with
  | nil => cases h
  | cons c cs =>
    have hc : isBlank c = false := by simpa [Term.startsWith] using h
    exact dropWhile_eq_self hc

/-- **White space around a tight text is trimmed**, and nothing of the text. -/
theorem trim_tight {cs before after : List Char} (h : Tight cs) (hbefore : ∀ c ∈ before, isBlank c = true)
    (hafter : ∀ c ∈ after, isBlank c = true) : trim (before ++ (cs ++ after)) = cs := by
  rw [trim, trimStart, List.dropWhile_append_of_pos hbefore, dropWhile_tight h.start, trimEnd, List.reverse_append,
    List.dropWhile_append_of_pos fun c hc => hafter c (List.mem_reverse.1 hc)]
  have hfinish := dropWhile_tight h.finish []
  rw [List.append_nil] at hfinish
  rw [hfinish, List.reverse_reverse]

theorem Tight.trim {cs : List Char} (h : Tight cs) : trim cs = cs := by
  have htrim : Text.trim ([] ++ (cs ++ [])) = cs := trim_tight h (fun _ h => nomatch h) fun _ h => nomatch h
  rwa [List.nil_append, List.append_nil] at htrim

theorem trim_blank_before {cs : List Char} (h : Tight cs) : trim (' ' :: cs) = cs := by
  have htrim : Text.trim ([' '] ++ (cs ++ [])) = cs := trim_tight h (List.forall_mem_singleton.2 rfl) fun _ h => nomatch h
  rwa [List.append_nil] at htrim

theorem trim_blank_after {cs : List Char} (h : Tight cs) : trim (cs ++ [' ']) = cs := by
  have htrim : Text.trim ([] ++ (cs ++ [' '])) = cs := trim_tight h (fun _ h => nomatch h) (List.forall_mem_singleton.2 rfl)
  rwa [List.nil_append] at htrim

theorem trim_ne_nil {cs : List Char} {c : Char} (hc : c ∈ cs) (hsolid : isBlank c = false) : trim cs ≠ [] := fun heq => by
  rw [Text.trim, trimEnd, List.reverse_eq_nil_iff, List.dropWhile_eq_nil_iff] at heq
  have hstart := startsWith_trimStart cs
  cases htrim : trimStart cs with
  | nil =>
    rw [List.dropWhile_eq_nil_iff.1 htrim c hc] at hsolid
    cases hsolid
  | cons d ds =>
    rw [htrim] at heq hstart
    exact Bool.false_ne_true (hstart.symm.trans (heq d (by simp)))

end Text

end Remedy
