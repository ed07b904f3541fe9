import Remedy.Proofs.Term.Variables
import Remedy.Proofs.Value.Numerals
/-!
# Proofs.Term.Plain — the terms whose text says all of them

A text is written with escapes that the reader of terms does not know, a floating point number may lose its point, and
a functor may be any text.  A term is *plain* when none of this happens in it: its constants are truth values, null,
whole numbers, time spans of whole milliseconds and texts without such escapes, its functors are identifiers, and the
names of its arguments are identifiers or numbers.  Whether its slots are numbered as a reader numbers them is a matter
of its variables alone (`VarTable.number?`).
-/
namespace Remedy

/-- The character stands between quotes as itself, or behind an escape that the reader of terms knows. -/
def Text.ReadsBack (c : Char) : Prop := Text.quoteChar c = [c] ∨ c ∈ ['"', '\\', '\n', '\t']

instance (c : Char) : Decidable (Text.ReadsBack c) := inferInstanceAs (Decidable (_ ∨ _))

/-- **A constant whose text says all of it.** -/
inductive Value.Plain : Value → Prop
  | bool (b : Bool) : Plain (.bool b)
  | int (n : Int64) : Plain (.int n)
  | null : Plain .null
  | timespan {d : Timespan} (h : d.nanos % 1000000 = 0) : Plain (.timespan d)
  | string {s : String} (h : ∀ c ∈ s.toList, Text.ReadsBack c) : Plain (.string s)

theorem Value.plain_of_all {s : String} (h : s.toList.all (fun c => decide (Text.ReadsBack c)) = true) :
    Value.Plain (.string s) := .string fun c hc => of_decide_eq_true (List.all_eq_true.1 h c hc)

theorem Value.toList_display_timespan (d : Timespan) : (Value.timespan d).display.toList = d.chars := String.toList_ofList

theorem Value.toList_display_string (s : String) : (Value.string s).display.toList =
    '"' :: (s.toList.flatMap Text.quoteChar ++ ['"']) := String.toList_ofList

namespace VarTable

/-- **Variables appear one after the other**: the table with all of them, if each has the slot that the table gives it:
that of its name, or the next one for a new name and for an anonymous variable. -/
def number? (t : VarTable) : List (String × Nat) → Option VarTable
  | [] => some t
  | (name, slot) :: rest => if (t.slot name).1 = slot then (t.slot name).2.number? rest else none

theorem number?_append : ∀ {vs ws : List (String × Nat)} {t t' : VarTable}, t.number? (vs ++ ws) = some t' →
    ∃ t₁, t.number? vs = some t₁ ∧ t₁.number? ws = some t'
  | [], _, t, _, h => ⟨t, rfl, h⟩
  | (name, slot) :: vs, ws, t, t', h => by
    rw [List.cons_append, number?] at h
    rw [number?]
    split at h
    · rename_i hslot
      rw [if_pos hslot]
      exact number?_append h
    · cases h

theorem number?_singleton {t t' : VarTable} {name : String} {slot : Nat} (h : t.number? [(name, slot)] = some t') :
    t.slot name = (slot, t') := by
  rw [number?] at h
  split at h
  · rename_i hslot
    exact Prod.ext hslot (Option.some.inj h)
  · cases h

end VarTable

namespace Term

/-- **An identifier.** -/
structure IsIdentifier (cs : List Char) : Prop where
  start : startsWith Text.isIdentStart cs = true
  rest : ∀ c ∈ cs, Text.isIdentRest c = true

instance (cs : List Char) : Decidable (IsIdentifier cs) :=
  decidable_of_iff (startsWith Text.isIdentStart cs = true ∧ cs.all Text.isIdentRest = true)
    ⟨fun h => ⟨h.1, List.all_eq_true.1 h.2⟩, fun h => ⟨h.start, List.all_eq_true.2 h.rest⟩⟩

/-- What may stand before the colon of an argument: an identifier or a number. -/
def IsLabel (cs : List Char) : Prop := IsIdentifier cs ∨ cs ≠ [] ∧ ∀ c ∈ cs, Decimal.isDigit c = true

instance (cs : List Char) : Decidable (IsLabel cs) :=
  decidable_of_iff (IsIdentifier cs ∨ cs ≠ [] ∧ cs.all Decimal.isDigit = true)
    (or_congr_right (and_congr_right fun _ => List.all_eq_true))

/-- **A term whose text says all of it.** -/
inductive Plain : Term → Prop
  | const {v : Value} (h : v.Plain) : Plain (.const v)
  | var {name : String} {slot : Nat} (hne : name.toList ≠ []) (h : ∀ c ∈ name.toList, Text.isIdentRest c = true) :
      Plain (.var name slot)
  | nil : Plain .nil
  | cell {head tail : Term} (hhead : Plain head) (htail : Plain tail) : Plain (cell head tail)
  | compound {functor : String} {args : List (Arg Term)} (hfunctor : IsIdentifier functor.toList)
      (hanonymous : functor ≠ "_") (hne : args ≠ []) (hnames : ∀ a ∈ args, ∀ name ∈ a.name, IsLabel name.toList)
      (hargs : ∀ a ∈ args, Plain a.value) : Plain (.compound functor args)

/-! ## The text of a term -/

theorem IsIdentifier.ne_cellFunctor {name : String} (h : IsIdentifier name.toList) : name ≠ cellFunctor := by
  rintro rfl
  exact absurd h.start (by decide)

theorem chars_const (v : Value) : (Term.const v).chars false = v.display.toList := rfl

theorem chars_cell (inList : Bool) (head tail : Term) : (cell head tail).chars inList =
    (if inList then [',', ' '] else ['[']) ++ head.chars false ++ tail.chars true := if_pos rfl

theorem chars_compound {functor : String} (h : functor ≠ cellFunctor) (inList : Bool) :
    ∀ args : List (Arg Term), (Term.compound functor args).chars inList =
      closed inList (callChars functor (argChars args) args.isEmpty)
  | [_, _] => if_neg h
  | [] | [_] | _ :: _ :: _ :: _ => by
    rw [chars]
    intro _ _ heq
    cases heq

theorem argChars_cons (a : Arg Term) : ∀ {rest : List (Arg Term)}, rest ≠ [] →
    argChars (a :: rest) = nameChars a.name ++ a.value.chars false ++ ',' :: ' ' :: argChars rest
  | [], h => absurd rfl h
  | _ :: _, _ => rfl

theorem chars_of_args {functor : String} {args : List (Arg Term)} (hfunctor : IsIdentifier functor.toList)
    (hne : args ≠ []) : (Term.compound functor args).chars false =
      functor.toList ++ '(' :: (argChars args ++ [')']) := by
  have hargs : args.isEmpty = false := List.isEmpty_eq_false_iff.2 hne
  rw [chars_compound hfunctor.ne_cellFunctor, hargs]
  exact List.append_assoc functor.toList ('(' :: argChars args) [')']

theorem chars_compound_tail {functor : String} (hfunctor : IsIdentifier functor.toList) (args : List (Arg Term)) :
    (Term.compound functor args).chars true = closed true ((Term.compound functor args).chars false) := by
  rw [chars_compound hfunctor.ne_cellFunctor, chars_compound hfunctor.ne_cellFunctor]
  rfl

/-! ## The first character -/

def opens (c : Char) : Bool :=
  c == '?' || c == '"' || c == '[' || c == '-' || Decimal.isDigit c || Text.isIdentStart c

theorem opens_of_isIdentStart {c : Char} (h : Text.isIdentStart c = true) : opens c = true := by
  rw [opens, h, Bool.or_true]

theorem opens_of_isDigit {c : Char} (h : Decimal.isDigit c = true) : opens c = true := by
  rw [opens, h, Bool.or_true, Bool.true_or]

theorem not_blank_of_opens {c : Char} (h : opens c = true) : Text.isBlank c = false := by
  simp only [opens, Bool.or_eq_true, beq_iff_eq] at h
  rcases h with ((((rfl | rfl) | rfl) | rfl) | h) | h
  · rfl
  · rfl
  · rfl
  · rfl
  · exact Text.isBlank_of_isIdentRest (Text.isIdentRest_of_isDigit h)
  · exact Text.isBlank_of_isIdentRest (Text.isIdentRest_of_isIdentStart h)

theorem trimStart_of_opens {cs : List Char} (h : startsWith opens cs = true) : Text.trimStart cs = cs := by
  refine Text.trimStart_eq_self ?_
  cases cs with
  | nil => rfl
  | cons c cs => exact not_blank_of_opens h

theorem IsIdentifier.opens {cs : List Char} (h : IsIdentifier cs) : startsWith opens cs = true :=
  startsWith_imp h.start fun _ => opens_of_isIdentStart

theorem IsLabel.opens {cs : List Char} (h : IsLabel cs) : startsWith opens cs = true := by
  rcases h with h | ⟨hne, h⟩
  · exact h.opens
  · exact startsWith_imp (startsWith_of_forall hne h) fun _ => opens_of_isDigit

def opensNumber (c : Char) : Bool := c == '-' || Decimal.isDigit c

theorem opens_of_opensNumber {c : Char} (h : opensNumber c = true) : opens c = true := by
  rw [opensNumber, Bool.or_eq_true, beq_iff_eq] at h
  rcases h with rfl | h
  · rfl
  · exact opens_of_isDigit h

theorem opensNumber_of_isDigit {c : Char} (h : Decimal.isDigit c = true) : opensNumber c = true := by
  rw [opensNumber, h, Bool.or_true]

theorem numeral_chars (n : Int) : ∀ c ∈ (toString n).toList, opensNumber c = true := by
  rw [Int.toString_eq_repr, Decimal.toList_repr]
  cases n with
  | ofNat m => exact fun c hc => opensNumber_of_isDigit (Decimal.isDigit_of_mem_toDigits hc)
  | negSucc m =>
    intro c hc
    rcases List.mem_cons.1 hc with rfl | hc
    · rfl
    · exact opensNumber_of_isDigit (Decimal.isDigit_of_mem_toDigits hc)

theorem numeral_ne_nil (n : Int) : (toString n).toList ≠ [] := by
  rw [Int.toString_eq_repr, Decimal.toList_repr]
  cases n with
  | ofNat m => exact Nat.toDigits_ne_nil
  | negSucc m => exact List.cons_ne_nil _ _

theorem opensNumber_numeral (n : Int) : startsWith opensNumber (toString n).toList = true :=
  startsWith_of_forall (numeral_ne_nil n) (numeral_chars n)

/-- **The text of a plain term starts like one.** -/
theorem Plain.opens {t : Term} (h : Plain t) : startsWith opens (t.chars false) = true := by
  cases h with
  | const h =>
    cases h with
    | bool b => cases b <;> rfl
    | int n => exact startsWith_imp (opensNumber_numeral n.toInt) fun _ => opens_of_opensNumber
    | null => rfl
    | @timespan d _ =>
      rw [chars_const, Value.toList_display_timespan]
      exact startsWith_imp d.isDigit_chars fun _ => opens_of_isDigit
    | string _ =>
      rw [chars_const, Value.toList_display_string]
      rfl
  | var hne h =>
    simp only [chars, closed, varChars, Bool.false_eq_true, if_false]
    split <;> rfl
  | nil => rfl
  | cell _ _ =>
    rw [chars_cell]
    rfl
  | compound hfunctor _ hne _ _ =>
    rw [chars_of_args hfunctor hne]
    exact startsWith_append _ hfunctor.opens

theorem opens_argChars {args : List (Arg Term)} (hne : args ≠ [])
    (hnames : ∀ a ∈ args, ∀ name ∈ a.name, IsLabel name.toList) (hargs : ∀ a ∈ args, Plain a.value) :
    startsWith opens (argChars args) = true := by
  have hfirst (a : Arg Term) (ha : a ∈ args) (rest : List Char) :
      startsWith opens (nameChars a.name ++ (a.value.chars false ++ rest)) = true := by
    cases hname : a.name with
    | none => exact startsWith_append rest (hargs a ha).opens
    | some name => exact startsWith_append _ (startsWith_append _ (hnames a ha name hname).opens)
  cases args with
  | nil => exact absurd rfl hne
  | cons a rest =>
    have ha := hfirst a (by simp)
    by_cases hrest : rest = []
    · subst hrest
      have hlast := ha []
      rwa [List.append_nil] at hlast
    · rw [argChars_cons a hrest, List.append_assoc]
      exact ha _

end Term

end Remedy
