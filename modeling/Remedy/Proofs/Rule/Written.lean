import Remedy.Proofs.Program.Reading
import Remedy.Proofs.Rule.Scan
import Remedy.Proofs.Term.RoundTrip
/-!
# Proofs.Rule.Written — the text of plain terms, calls and goals

The text of a plain term closes what it opens, and outside brackets it has no blank, no comma and no sign of an
expression (`Term.Plain.nested`); a call has only its functor there (`Call.Plain.nested`).  A goal is *plain* when it
is a cut, a call of plain arguments, two plain terms with an equals sign between them, or the negation of a plain goal;
it has no comma outside brackets, and neither starts nor ends with a blank (`Goal.Plain.nested`, `Goal.Plain.tight`).
-/
namespace Remedy

/-- A character that separates nothing: no blank, no comma, no sign of an expression. -/
def IsQuiet (c : Char) : Prop := c ≠ ' ' ∧ c ≠ ',' ∧ Rule.isTestSign c = false

instance (c : Char) : Decidable (IsQuiet c) := inferInstanceAs (Decidable (_ ∧ _ ∧ _))

/-- **A call whose text says all of it**: words that mean something else name no predicate. -/
structure Call.Plain (c : Call) : Prop where
  functor : Term.IsIdentifier c.functor.toList
  free : c.functor ∉ ["_", "not", "true", "false", "null"]
  names : ∀ a ∈ c.args, ∀ name ∈ a.name, Term.IsLabel name.toList
  args : ∀ a ∈ c.args, a.value.Plain

/-- **A goal whose text says all of it.** -/
inductive Goal.Plain : Goal Unit → Prop
  | call {c : Call} (h : c.Plain) : Plain (.call () c)
  | cut : Plain .cut
  | unify {a b : Term} (ha : a.Plain) (hb : b.Plain) : Plain (.unify a b)
  | not {g : Goal Unit} (h : Plain g) : Plain (.not g)

namespace Text

theorem readsBack_of_ascii {c : Char} (hlow : 0x20 ≤ c.toNat) (hhigh : c.toNat ≤ 0x7E) : ReadsBack c := by
  have hdecided : ∀ n ∈ List.range' 0x20 95, ReadsBack (Char.ofNat n) := by decide +kernel
  rw [← Char.ofNat_toNat c]
  exact hdecided _ (List.mem_range'_1.2 (by omega))

theorem isFlat_of_isIdentRest {c : Char} (h : isIdentRest c = true) : isFlat c = true := by
  have hother : c ∉ ['"', '\'', '(', '[', '{', ')', ']', '}'] := not_mem_of_test h (by decide)
  simp only [List.mem_cons, List.not_mem_nil, or_false, not_or] at hother
  simp [isFlat, isQuote, isOpening, isClosing, hother]

theorem isQuiet_of_isIdentRest {c : Char} (h : isIdentRest c = true) : IsQuiet c := by
  have hother : c ∉ [' ', ',', '=', '<', '>', '!', '~', '&', '|'] := not_mem_of_test h (by decide)
  simp only [List.mem_cons, List.not_mem_nil, or_false, not_or] at hother
  simp [IsQuiet, Rule.isTestSign, hother]

theorem inQuotes_quoteChar {c : Char} (h : ReadsBack c) {cs : List Char} (hcs : InQuotes cs) :
    InQuotes (quoteChar c ++ cs) := by
  rcases h with h | h
  · have hne (d : Char) (hd : quoteChar d ≠ [d]) : c ≠ d := fun heq => hd (heq ▸ h)
    rw [h]
    exact .char (hne '"' (by decide)) (hne '\\' (by decide)) hcs
  · simp only [List.mem_cons, List.not_mem_nil, or_false] at h
    rcases h with rfl | rfl | rfl | rfl <;> exact .escape hcs

theorem inQuotes_flatMap : ∀ {cs : List Char}, (∀ c ∈ cs, ReadsBack c) → InQuotes (cs.flatMap quoteChar)
  | [], _ => .nil
  | c :: cs, h => by
    rw [List.flatMap_cons]
    exact inQuotes_quoteChar (h c (by simp)) (inQuotes_flatMap fun d hd => h d (by simp [hd]))

end Text

namespace Term

open Text (Nested)

theorem nested_word {cs : List Char} (h : ∀ c ∈ cs, Text.isIdentRest c = true) :
    Nested (fun c => Text.isIdentRest c = true) cs :=
  .of_flat fun c hc => ⟨Text.isFlat_of_isIdentRest (h c hc), h c hc⟩

theorem IsLabel.isIdentRest {cs : List Char} (h : IsLabel cs) : ∀ c ∈ cs, Text.isIdentRest c = true := by
  rcases h with h | ⟨-, h⟩
  · exact h.rest
  · exact fun c hc => Text.isIdentRest_of_isDigit (h c hc)

theorem isFlat_and_isQuiet_of_opensNumber {c : Char} (h : opensNumber c = true) : Text.isFlat c = true ∧ IsQuiet c := by
  rw [opensNumber, Bool.or_eq_true, beq_iff_eq] at h
  rcases h with rfl | h
  · exact ⟨rfl, by decide⟩
  · have hrest := Text.isIdentRest_of_isDigit h
    exact ⟨Text.isFlat_of_isIdentRest hrest, Text.isQuiet_of_isIdentRest hrest⟩

theorem nested_inside {P : Char → Prop} {cs : List Char} (h : Nested P cs) : Nested (fun _ => True) cs :=
  h.imp fun _ _ => trivial

theorem nested_flat {cs : List Char} (h : ∀ c ∈ cs, Text.isFlat c = true) : Nested (fun _ => True) cs :=
  .of_flat fun c hc => ⟨h c hc, trivial⟩

theorem nested_nameChars {name : Option String} (h : ∀ n ∈ name, IsLabel n.toList) :
    Nested (fun _ => True) (nameChars name) := by
  cases name with
  | none => exact .nil
  | some name => exact (nested_inside (nested_word (h name rfl).isIdentRest)).append (nested_flat (List.all_eq_true.1 rfl))

theorem nested_argChars : ∀ {args : List (Arg Term)}, (∀ a ∈ args, ∀ name ∈ a.name, IsLabel name.toList) →
    (∀ a ∈ args, Nested IsQuiet (a.value.chars false)) → Nested (fun _ => True) (argChars args)
  | [], _, _ => .nil
  | a :: rest, hnames, hargs => by
    have ha := (nested_nameChars (hnames a (by simp))).append (nested_inside (hargs a (by simp)))
    by_cases hrest : rest = []
    · subst hrest
      exact ha
    · have hmore : Nested (fun _ => True) (argChars rest) :=
        nested_argChars (fun b hb => hnames b (by simp [hb])) fun b hb => hargs b (by simp [hb])
      rw [argChars_cons a hrest]
      exact ha.append (.flat rfl trivial (.flat rfl trivial hmore))

theorem nested_call {functor : List Char} {args : List (Arg Term)} (hfunctor : IsIdentifier functor)
    (hnames : ∀ a ∈ args, ∀ name ∈ a.name, IsLabel name.toList)
    (hargs : ∀ a ∈ args, Nested IsQuiet (a.value.chars false)) :
    Nested (fun c => Text.isIdentRest c = true) (functor ++ '(' :: (argChars args ++ [')'])) :=
  (nested_word hfunctor.rest).append (.inBrackets rfl (nested_argChars hnames hargs))

theorem nested_const {v : Value} (h : v.Plain) : Nested IsQuiet v.display.toList := by
  have hword {cs : List Char} (h : ∀ c ∈ cs, Text.isIdentRest c = true) : Nested IsQuiet cs :=
    (nested_word h).imp fun _ => Text.isQuiet_of_isIdentRest
  cases h with
  | bool b => cases b <;> exact hword (List.all_eq_true.1 rfl)
  | int n => exact .of_flat fun c hc => isFlat_and_isQuiet_of_opensNumber (numeral_chars n.toInt c hc)
  | null => exact hword (List.all_eq_true.1 rfl)
  | @timespan d _ =>
    rw [Value.toList_display_timespan]
    refine .of_flat fun c hc => ?_
    rcases d.chars_kind c hc with (hc | rfl) | rfl
    · exact isFlat_and_isQuiet_of_opensNumber (opensNumber_of_isDigit hc)
    · exact ⟨rfl, by decide⟩
    · exact ⟨rfl, by decide⟩
  | string h =>
    rw [Value.toList_display_string]
    exact .quoted (Text.inQuotes_flatMap h) .nil

/-- **A plain term closes what it opens** and has only quiet characters outside brackets; where it ends a list, the
bracket that closes the list comes last. -/
theorem Plain.nested {t : Term} (h : Plain t) : Nested IsQuiet (t.chars false) ∧
    ∃ inner, t.chars true = inner ++ [']'] ∧ Nested (fun _ => True) inner := by
  have hbar {cs : List Char} (h : Nested IsQuiet cs) :
      ∃ inner, closed true cs = inner ++ [']'] ∧ Nested (fun _ => True) inner :=
    ⟨' ' :: '|' :: ' ' :: cs, rfl, .flat rfl trivial (.flat rfl trivial (.flat rfl trivial (nested_inside h)))⟩
  induction h with
  | const h => exact ⟨nested_const h, hbar (nested_const h)⟩
  | @var name slot _ h =>
    have hchars : Nested IsQuiet (varChars name) := by
      unfold varChars
      split
      · exact .flat rfl (by decide) .nil
      · exact .flat rfl (by decide) ((nested_word h).imp fun _ => Text.isQuiet_of_isIdentRest)
    exact ⟨hchars, hbar hchars⟩
  | nil => exact ⟨.inBrackets rfl .nil, [], rfl, .nil⟩
  | @cell head tail _ _ ihhead ihtail =>
    obtain ⟨inner, hinner, hnested⟩ := ihtail.2
    have hitems := (nested_inside ihhead.1).append hnested
    have hopen : (Term.cell head tail).chars false = '[' :: (head.chars false ++ inner ++ [']']) := by
      rw [chars_cell, hinner]
      simp
    have htail : (Term.cell head tail).chars true = (',' :: ' ' :: (head.chars false ++ inner)) ++ [']'] := by
      rw [chars_cell, hinner]
      simp
    rw [hopen]
    exact ⟨.inBrackets rfl hitems, _, htail, .flat rfl trivial (.flat rfl trivial hitems)⟩
  | @compound functor args hfunctor _ hne hnames _ ihargs =>
    have hcall := (nested_call hfunctor hnames fun a ha => (ihargs a ha).1).imp fun _ => Text.isQuiet_of_isIdentRest
    rw [← chars_of_args hfunctor hne] at hcall
    rw [chars_compound_tail hfunctor]
    exact ⟨hcall, hbar hcall⟩

/-! ## The ends of a text -/

theorem solid_of_opens {c : Char} (h : opens c = true) : (!Text.isBlank c) = true := by
  rw [not_blank_of_opens h]
  rfl

theorem solid_of_isIdentRest {c : Char} (h : Text.isIdentRest c = true) : (!Text.isBlank c) = true := by
  rw [Text.isBlank_of_isIdentRest h]
  rfl

theorem IsIdentifier.finish {cs : List Char} (h : IsIdentifier cs) : startsWith (!Text.isBlank ·) cs.reverse = true := by
  exact finish_of_forall (startsWith_ne_nil h.start) fun c hc => solid_of_isIdentRest (h.rest c hc)

theorem finish_const {v : Value} (h : v.Plain) : startsWith (!Text.isBlank ·) v.display.toList.reverse = true := by
  cases h with
  | bool b => cases b <;> rfl
  | int n =>
    exact finish_of_forall (numeral_ne_nil n.toInt) fun c hc =>
      solid_of_opens (opens_of_opensNumber (numeral_chars n.toInt c hc))
  | null => rfl
  | @timespan d _ =>
    rw [Value.toList_display_timespan]
    exact d.tight_chars.finish
  | @string s _ =>
    rw [Value.toList_display_string, ← List.cons_append]
    exact finish_append _ rfl

/-- **The text of a plain term neither starts nor ends with a blank.** -/
theorem Plain.tight {t : Term} (h : Plain t) : Text.Tight (t.chars false) := by
  refine ⟨startsWith_imp h.opens fun _ => solid_of_opens, ?_⟩
  cases h with
  | const h => exact finish_const h
  | @var name slot hne h =>
    have hchars : (Term.var name slot).chars false = varChars name := rfl
    rw [hchars, varChars]
    split
    · rfl
    · exact finish_append ['?'] (finish_of_forall hne fun c hc => solid_of_isIdentRest (h c hc))
  | nil => rfl
  | cell _ htail =>
    obtain ⟨inner, hinner, -⟩ := htail.nested.2
    rw [chars_cell, hinner, ← List.append_assoc]
    exact finish_append _ rfl
  | compound hfunctor _ hne _ _ =>
    rw [chars_of_args hfunctor hne, ← List.cons_append, ← List.append_assoc]
    exact finish_append _ rfl

end Term

namespace Call

theorem Plain.term {c : Call} (h : c.Plain) (hne : c.args ≠ []) : (Term.compound c.functor c.args).Plain :=
  .compound h.functor (fun heq => h.free (by simp [heq])) hne h.names h.args

theorem chars_of_args {c : Call} (h : c.Plain) (hne : c.args ≠ []) :
    c.chars = c.functor.toList ++ '(' :: (Term.argChars c.args ++ [')']) := by
  rw [← Term.chars_of_args h.functor hne, Term.chars_compound h.functor.ne_cellFunctor]
  rfl

theorem chars_of_bare {c : Call} (hbare : c.args = []) : c.chars = c.functor.toList := by
  rw [chars, hbare]
  rfl

/-- **A plain call has only its functor outside brackets.** -/
theorem Plain.nested {c : Call} (h : c.Plain) : Text.Nested (fun c => Text.isIdentRest c = true) c.chars := by
  by_cases hbare : c.args = []
  · rw [chars_of_bare hbare]
    exact Term.nested_word h.functor.rest
  · rw [chars_of_args h hbare]
    exact Term.nested_call h.functor h.names fun a ha => (h.args a ha).nested.1

theorem Plain.opens {c : Call} (h : c.Plain) : Term.startsWith Term.opens c.chars = true := by
  by_cases hbare : c.args = []
  · rw [chars_of_bare hbare]
    exact h.functor.opens
  · rw [chars_of_args h hbare]
    exact Term.startsWith_append _ h.functor.opens

theorem Plain.tight {c : Call} (h : c.Plain) : Text.Tight c.chars := by
  refine ⟨Term.startsWith_imp h.opens fun _ => Term.solid_of_opens, ?_⟩
  by_cases hbare : c.args = []
  · rw [chars_of_bare hbare]
    exact h.functor.finish
  · have ht := (h.term hbare).tight.finish
    rwa [Term.chars_of_args h.functor hbare, ← chars_of_args h hbare] at ht

end Call

namespace Goal

def chars (g : Goal Unit) : List Char := g.display.toList

theorem chars_call (c : Call) : (Goal.call () c).chars = c.chars := String.toList_ofList

theorem chars_cut : (Goal.cut : Goal Unit).chars = ['!'] := rfl

theorem chars_unify (a b : Term) :
    (Goal.unify a b : Goal Unit).chars = a.chars false ++ (' ' :: '=' :: ' ' :: b.chars false) := by
  have hsign : " = ".toList = [' ', '=', ' '] := rfl
  simp [chars, display, Term.display, hsign]

theorem chars_not (g : Goal Unit) : (Goal.not g).chars = 'n' :: 'o' :: 't' :: '(' :: (g.chars ++ [')']) := by
  have hopen : "not(".toList = ['n', 'o', 't', '('] := rfl
  have hclose : ")".toList = [')'] := rfl
  simp [chars, display, hopen, hclose]

/-- **A plain goal has no comma outside brackets.** -/
theorem Plain.nested {g : Goal Unit} (h : g.Plain) : Text.Nested (· ≠ ',') g.chars := by
  induction h with
  | @call c h =>
    rw [chars_call]
    exact h.nested.imp fun c hc => (Text.isQuiet_of_isIdentRest hc).2.1
  | cut => exact .flat rfl (by decide) .nil
  | @unify a b ha hb =>
    rw [chars_unify]
    have hquiet {cs : List Char} (h : Text.Nested IsQuiet cs) : Text.Nested (· ≠ ',') cs := h.imp fun _ hc => hc.2.1
    exact (hquiet ha.nested.1).append
      (.flat rfl (by decide) (.flat rfl (by decide) (.flat rfl (by decide) (hquiet hb.nested.1))))
  | @not g _ ih =>
    rw [chars_not]
    exact .flat rfl (by decide) (.flat rfl (by decide) (.flat rfl (by decide)
      (.inBrackets rfl (Term.nested_inside ih))))

/-- **The text of a plain goal neither starts nor ends with a blank.** -/
theorem Plain.tight {g : Goal Unit} (h : g.Plain) : Text.Tight g.chars := by
  cases h with
  | @call c h =>
    rw [chars_call]
    exact h.tight
  | cut => exact ⟨rfl, rfl⟩
  | @unify a b ha hb =>
    rw [chars_unify]
    exact ⟨Term.startsWith_append _ ha.tight.start,
      Term.finish_append _ (Term.finish_append [' ', '=', ' '] hb.tight.finish)⟩
  | @not g h =>
    rw [chars_not]
    exact ⟨rfl, Term.finish_append ('n' :: 'o' :: 't' :: '(' :: g.chars) rfl⟩

end Goal

end Remedy
