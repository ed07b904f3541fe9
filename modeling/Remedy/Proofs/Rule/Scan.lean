import Remedy.Proofs.Text.Characters
import Remedy.Rule.Parser
/-!
# Proofs.Rule.Scan — passing over texts that close what they open

The neck of a rule, the commas between its goals and the signs inside a goal are all looked for by scans that know
nothing of terms: they count brackets and follow quotes.  A text is *nested* when it closes every bracket and every
quote that it opens (`Nested`); every scan comes out of such a text as it went in, having met outside brackets only
characters of one kind (`outerFrom_nested`, `balanced_nested`).  So a rule is cut at the separators written between its
nested parts and nowhere else (`neck?_of_nested`, `splitOuter_join`).
-/
namespace Remedy

namespace Text

/-- What may stand between double quotes: a backslash takes the next character with it. -/
inductive InQuotes : List Char → Prop
  | nil : InQuotes []
  | char {c : Char} {cs : List Char} (hquote : c ≠ '"') (hslash : c ≠ '\\') (hrest : InQuotes cs) : InQuotes (c :: cs)
  | escape {c : Char} {cs : List Char} (hrest : InQuotes cs) : InQuotes ('\\' :: c :: cs)

def isFlat (c : Char) : Bool := !isQuote c && !isOpening c && !isClosing c

def arePair (o c : Char) : Bool := (o == '(' && c == ')') || (o == '[' && c == ']')

/-- **A text that closes what it opens**, its characters outside quotes and brackets being of one kind. -/
inductive Nested : (Char → Prop) → List Char → Prop
  | nil {P : Char → Prop} : Nested P []
  | flat {P : Char → Prop} {c : Char} {cs : List Char} (hflat : isFlat c = true) (hc : P c) (hrest : Nested P cs) :
      Nested P (c :: cs)
  | quoted {P : Char → Prop} {inner cs : List Char} (hinner : InQuotes inner) (hrest : Nested P cs) :
      Nested P ('"' :: (inner ++ '"' :: cs))
  | bracket {P : Char → Prop} {o c : Char} {inner cs : List Char} (hpair : arePair o c = true)
      (hinner : Nested (fun _ => True) inner) (hrest : Nested P cs) : Nested P (o :: (inner ++ c :: cs))

section Nested

variable {P Q : Char → Prop} {cs ds : List Char}

theorem arePair_cases {o c : Char} (h : arePair o c = true) : (o = '(' ∧ c = ')') ∨ (o = '[' ∧ c = ']') := by
  simpa only [arePair, Bool.or_eq_true, Bool.and_eq_true, beq_iff_eq] using h

theorem Nested.imp (h : Nested P cs) (hPQ : ∀ c, P c → Q c) : Nested Q cs := by
  induction h with
  | nil => exact .nil
  | flat hflat hc _ ih => exact .flat hflat (hPQ _ hc) (ih hPQ)
  | quoted hinner _ ih => exact .quoted hinner (ih hPQ)
  | bracket hpair hinner _ _ ih => exact .bracket hpair hinner (ih hPQ)

theorem Nested.append (h : Nested P cs) (h' : Nested P ds) : Nested P (cs ++ ds) := by
  induction h with
  | nil => exact h'
  | flat hflat hc _ ih => exact .flat hflat hc (ih h')
  | quoted hinner _ ih =>
    rw [List.cons_append, List.append_assoc]
    exact .quoted hinner (ih h')
  | bracket hpair hinner _ _ ih =>
    rw [List.cons_append, List.append_assoc]
    exact .bracket hpair hinner (ih h')

theorem Nested.of_flat (h : ∀ c ∈ cs, isFlat c = true ∧ P c) : Nested P cs := by
  induction cs with
  | nil => exact .nil
  | cons c cs ih => exact .flat (h c (by simp)).1 (h c (by simp)).2 (ih fun d hd => h d (by simp [hd]))

theorem Nested.of_cons {c : Char} (h : Nested P (c :: cs)) (hflat : isFlat c = true) : P c ∧ Nested P cs := by
  generalize heq : c :: cs = ds at h
  cases h with
  | nil => cases heq
  | flat _ hc hrest =>
    cases heq
    exact ⟨hc, hrest⟩
  | quoted _ _ =>
    cases heq
    cases hflat
  | bracket hpair _ _ =>
    cases heq
    rcases arePair_cases hpair with ⟨rfl, -⟩ | ⟨rfl, -⟩ <;> cases hflat

theorem Nested.inBrackets {o c : Char} (hpair : arePair o c = true) (h : Nested (fun _ => True) cs) :
    Nested P (o :: (cs ++ [c])) := .bracket hpair h .nil

end Nested

/-! ## The scan for separators -/

theorem outerFrom_inQuotes {inner : List Char} (h : InQuotes inner) (depth : Nat) (rest : List Char) : ∀ i : Nat,
    outerFrom i depth (some ⟨'"', false⟩) (inner ++ '"' :: rest) =
      outerFrom (i + inner.length + 1) depth none rest := by
  induction h with
  | nil => exact fun _ => rfl
  | @char c cs hquote hslash _ ih =>
    intro i
    have hnext : OpenQuote.next ⟨'"', false⟩ c = some ⟨'"', false⟩ := by
      simp [OpenQuote.next, hquote, hslash]
    rw [List.cons_append, outerFrom, hnext, ih, List.length_cons, Nat.add_right_comm i 1, Nat.add_assoc i]
  | @escape c cs _ ih =>
    intro i
    have hskip : outerFrom i depth (some ⟨'"', false⟩) ('\\' :: c :: (cs ++ '"' :: rest)) =
        outerFrom (i + 1 + 1) depth (some ⟨'"', false⟩) (cs ++ '"' :: rest) := rfl
    rw [List.cons_append, List.cons_append, hskip, ih, List.length_cons, List.length_cons]
    congr 1
    omega

theorem isFlat_iff {c : Char} (h : isFlat c = true) : isQuote c = false ∧ isOpening c = false ∧ isClosing c = false := by
  simp only [isFlat, Bool.and_eq_true, Bool.not_eq_true'] at h
  exact ⟨h.1.1, h.1.2, h.2⟩

theorem outerFrom_flat {c : Char} (h : isFlat c = true) (i depth : Nat) (rest : List Char) :
    outerFrom i depth none (c :: rest) =
      (if depth = 0 then [(i, c)] else []) ++ outerFrom (i + 1) depth none rest := by
  obtain ⟨hquote, hopening, hclosing⟩ := isFlat_iff h
  rw [outerFrom]
  simp only [hquote, hopening, hclosing, Bool.false_eq_true, if_false]
  split <;> rfl

theorem outerFrom_opening {o c : Char} (h : arePair o c = true) (i depth : Nat) (rest : List Char) :
    outerFrom i depth none (o :: rest) = outerFrom (i + 1) (depth + 1) none rest := by
  rcases arePair_cases h with ⟨rfl, -⟩ | ⟨rfl, -⟩ <;> rfl

theorem outerFrom_closing {o c : Char} (h : arePair o c = true) (i depth : Nat) (rest : List Char) :
    outerFrom i (depth + 1) none (c :: rest) = outerFrom (i + 1) depth none rest := by
  rcases arePair_cases h with ⟨-, rfl⟩ | ⟨-, rfl⟩ <;> rfl

/-- **The scan comes out of a nested text as it went in**, with characters of its kind, or with none in brackets. -/
theorem outerFrom_nested {P : Char → Prop} {cs : List Char} (h : Nested P cs) : ∀ (i depth : Nat) (rest : List Char),
    ∃ out, outerFrom i depth none (cs ++ rest) = out ++ outerFrom (i + cs.length) depth none rest ∧
      (∀ p ∈ out, P p.2) ∧ (0 < depth → out = []) := by
  induction h with
  | nil => exact fun i depth rest => ⟨[], rfl, (fun _ h => nomatch h), fun _ => rfl⟩
  | @flat P c cs hflat hc _ ih =>
    intro i depth rest
    obtain ⟨out, hout, hkind, hdeep⟩ := ih (i + 1) depth rest
    refine ⟨(if depth = 0 then [(i, c)] else []) ++ out, ?_, fun p hp => ?_, fun hdepth => ?_⟩
    · rw [List.cons_append, outerFrom_flat hflat, hout, List.append_assoc, List.length_cons, Nat.add_right_comm i 1,
        Nat.add_assoc i]
    · rcases List.mem_append.1 hp with hp | hp
      · split at hp
        · rw [List.mem_singleton.1 hp]
          exact hc
        · cases hp
      · exact hkind p hp
    · rw [if_neg (by omega), hdeep hdepth]
      rfl
  | @quoted P inner cs hinner _ ih =>
    intro i depth rest
    obtain ⟨out, hout, hkind, hdeep⟩ := ih (i + 1 + inner.length + 1) depth rest
    refine ⟨out, ?_, hkind, hdeep⟩
    have hopen : outerFrom i depth none ('"' :: (inner ++ '"' :: (cs ++ rest))) =
        outerFrom (i + 1) depth (some ⟨'"', false⟩) (inner ++ '"' :: (cs ++ rest)) := rfl
    rw [List.cons_append, List.append_assoc, List.cons_append, hopen, outerFrom_inQuotes hinner, hout]
    simp only [List.length_cons, List.length_append]
    congr 2
    omega
  | @bracket P o c inner cs hpair _ _ ihinner ih =>
    intro i depth rest
    obtain ⟨deep, hdeep, -, hnone⟩ := ihinner (i + 1) (depth + 1) (c :: (cs ++ rest))
    obtain ⟨out, hout, hkind, hempty⟩ := ih (i + 1 + inner.length + 1) depth rest
    refine ⟨out, ?_, hkind, hempty⟩
    rw [List.cons_append, List.append_assoc, List.cons_append, outerFrom_opening hpair, hdeep, hnone (Nat.succ_pos _),
      List.nil_append, outerFrom_closing hpair, hout]
    simp only [List.length_cons, List.length_append]
    congr 2
    omega

theorem outer_kind {P : Char → Prop} {cs : List Char} (h : Nested P cs) : ∀ p ∈ outer cs, P p.2 := by
  obtain ⟨out, hout, hkind, -⟩ := outerFrom_nested h 0 0 []
  have houter : outer cs = out := by rwa [List.append_nil, outerFrom, List.append_nil] at hout
  rw [houter]
  exact hkind

/-! ## Cutting at separators -/

theorem partsAt_join {sep : Char} (hsep : isFlat sep = true) : ∀ {parts : List (List Char)}, parts ≠ [] →
    (∀ p ∈ parts, Nested (· ≠ sep) p) → ∀ pre : List Char,
      partsAt (pre ++ List.intercalate [sep] parts) pre.length
        (((outerFrom pre.length 0 none (List.intercalate [sep] parts)).filter (·.2 == sep)).map (·.1)) =
          parts.map trim
  | [], hne, _, _ => absurd rfl hne
  | [p], _, h, pre => by
    obtain ⟨out, hout, hkind, -⟩ := outerFrom_nested (h p (by simp)) pre.length 0 []
    rw [List.append_nil, outerFrom, List.append_nil] at hout
    have hnone : out.filter (·.2 == sep) = [] :=
      List.filter_eq_nil_iff.2 fun q hq => by simpa using hkind q hq
    rw [List.intercalate_singleton, hout, hnone, List.map_nil, partsAt, List.drop_left]
    rfl
  | p :: q :: parts, _, h, pre => by
    obtain ⟨out, hout, hkind, -⟩ := outerFrom_nested (h p (by simp)) pre.length 0
      (sep :: List.intercalate [sep] (q :: parts))
    have hnone : out.filter (·.2 == sep) = [] :=
      List.filter_eq_nil_iff.2 fun q hq => by simpa using hkind q hq
    have hjoin : List.intercalate [sep] (p :: q :: parts) = p ++ sep :: List.intercalate [sep] (q :: parts) := by
      simp
    have hslice : slice (pre ++ (p ++ sep :: List.intercalate [sep] (q :: parts))) pre.length
        (pre.length + p.length) = p := by
      rw [slice, List.drop_left, Nat.add_sub_cancel_left, List.take_left]
    -- what stands before the next part is all that has been passed over, the separator included
    have hlength : (pre ++ p ++ [sep]).length = pre.length + p.length + 1 := by
      simp [Nat.add_assoc]
    have htext : pre ++ p ++ [sep] ++ List.intercalate [sep] (q :: parts) =
        pre ++ (p ++ sep :: List.intercalate [sep] (q :: parts)) := by simp
    have hrest := partsAt_join hsep (List.cons_ne_nil q parts) (fun r hr => h r (List.mem_cons_of_mem _ hr))
      (pre ++ p ++ [sep])
    rw [htext, hlength] at hrest
    have hcut (more : List (Nat × Char)) : ((pre.length + p.length, sep) :: more).filter (·.2 == sep) =
        (pre.length + p.length, sep) :: more.filter (·.2 == sep) := List.filter_cons_of_pos (beq_self_eq_true sep)
    rw [hjoin, hout, outerFrom_flat hsep, if_pos rfl, List.filter_append, hnone, List.nil_append, List.singleton_append,
      hcut, List.map_cons, partsAt, hslice, hrest]
    rfl

/-- **A text is cut at the separators between its nested parts** and nowhere else. -/
theorem splitOuter_join {sep : Char} {parts : List (List Char)} (hsep : isFlat sep = true) (hne : parts ≠ [])
    (h : ∀ p ∈ parts, Nested (· ≠ sep) p) : splitOuter sep (List.intercalate [sep] parts) = parts.map trim :=
  partsAt_join hsep hne h []

end Text

namespace Rule

/-! ## The neck -/

theorem neck?_cons {i : Nat} {c : Char} (hc : c ≠ ':') (rest : List (Nat × Char)) :
    neck? ((i, c) :: rest) = neck? rest := by
  rw [neck?.eq_def ((i, c) :: rest)]
  split
  · rename_i heq
    cases heq
    exact absurd rfl hc
  · rename_i heq
    cases heq
    rfl
  · rename_i heq
    cases heq

theorem neck?_skip {more : List (Nat × Char)} : ∀ {out : List (Nat × Char)}, (∀ p ∈ out, p.2 ≠ ':') →
    neck? (out ++ more) = neck? more
  | [], _ => rfl
  | (i, c) :: out, h => by
    rw [List.cons_append, neck?_cons (h (i, c) (by simp)), neck?_skip fun p hp => h p (by simp [hp])]

theorem neck?_of_nested {cs : List Char} (h : Text.Nested (· ≠ ':') cs) : neck? (Text.outer cs) = none := by
  rw [← List.append_nil (Text.outer cs)]
  exact neck?_skip (Text.outer_kind h)

/-- **The neck is found behind the head**, whatever stands in the body. -/
theorem neck?_written {cs : List Char} (h : Text.Nested (· ≠ ':') cs) (body : List Char) :
    neck? (Text.outer (cs ++ ' ' :: ':' :: '-' :: body)) = some (cs.length + 1) := by
  obtain ⟨out, hout, hkind, -⟩ := Text.outerFrom_nested h 0 0 (' ' :: ':' :: '-' :: body)
  rw [Text.outer, hout, neck?_skip hkind, Nat.zero_add]
  exact (neck?_cons (by decide) _).trans (if_pos rfl)

/-! ## Round brackets -/

theorem balanced_inQuotes {inner : List Char} (h : Text.InQuotes inner) (depth : Nat) (rest : List Char) :
    balanced depth (some ⟨'"', false⟩) (inner ++ '"' :: rest) = balanced depth none rest := by
  induction h with
  | nil => rfl
  | @char c cs hquote hslash _ ih =>
    have hnext : Text.OpenQuote.next ⟨'"', false⟩ c = some ⟨'"', false⟩ := by
      simp [Text.OpenQuote.next, hquote, hslash]
    rw [List.cons_append, balanced, hnext, ih]
  | @escape c cs _ ih => exact ih

/-- **A nested text keeps the balance** of round brackets. -/
theorem balanced_nested {P : Char → Prop} {cs : List Char} (h : Text.Nested P cs) : ∀ (depth : Nat) (rest : List Char),
    balanced depth none (cs ++ rest) = balanced depth none rest := by
  induction h with
  | nil => exact fun _ _ => rfl
  | @flat P c cs hflat _ _ ih =>
    intro depth rest
    obtain ⟨hquote, hopening, hclosing⟩ := Text.isFlat_iff hflat
    have hopen : c ≠ '(' := by
      rintro rfl
      cases hopening
    have hclose : c ≠ ')' := by
      rintro rfl
      cases hclosing
    rw [List.cons_append, balanced.eq_def depth none (c :: (cs ++ rest))]
    simp only [hquote, hopen, hclose, Bool.false_eq_true, if_false]
    exact ih depth rest
  | @quoted P inner cs hinner _ ih =>
    intro depth rest
    have hopen : balanced depth none ('"' :: (inner ++ '"' :: (cs ++ rest))) =
        balanced depth (some ⟨'"', false⟩) (inner ++ '"' :: (cs ++ rest)) := rfl
    rw [List.cons_append, List.append_assoc, List.cons_append, hopen, balanced_inQuotes hinner, ih]
  | @bracket P o c inner cs hpair _ _ ihinner ih =>
    intro depth rest
    rw [List.cons_append, List.append_assoc, List.cons_append]
    rcases Text.arePair_cases hpair with ⟨rfl, rfl⟩ | ⟨rfl, rfl⟩
    · exact (ihinner (depth + 1) (')' :: (cs ++ rest))).trans (ih depth rest)
    · exact (ihinner depth (']' :: (cs ++ rest))).trans (ih depth rest)

end Rule

end Remedy
