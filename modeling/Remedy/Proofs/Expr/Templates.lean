import Remedy.Proofs.Expr.Arguments
import Remedy.Proofs.Expr.Inlining
/-!
# Proofs.Expr.Templates — what is filled into the places of a template

A text is cut at its places in one way (`Cut`): between them stands text, of which every character counts as itself, a
`<` too where no place starts.  A template is written as a call that joins its pieces and read again, so the pieces must
come through: texts do, whatever is in them (`unescape_escape`), and so do the names of variables.  The name of a
property is read as an operand.  It is the name of the property just if the word spells itself: it has no slash, which
is an operator, and no other text, as `007` and `null` have (`Faithful`).  A template is filled as it should be if and
only if the names of its properties are such (`template_filled`).
-/
namespace Remedy.Expr

variable {env : Env} {cs name text first : List Char} {rest : List (List Char × List Char)}

/-! ## Templates -/

/-- **The name of a place.** -/
structure IsPlace (name : List Char) : Prop where
  ne_nil : name ≠ []
  chars : ∀ c ∈ name, isPlaceChar c = true

/-- **The text cut at its places**: the text before the first place, and every place with the text that follows it. -/
inductive Cut : List Char → List Char → List (List Char × List Char) → Prop
  | nil : Cut [] [] []
  | char {c : Char} {cs first : List Char} {rest : List (List Char × List Char)} (hc : c ≠ '<')
      (h : Cut cs first rest) : Cut (c :: cs) (c :: first) rest
  | stray {cs first : List Char} {rest : List (List Char × List Char)}
      (hstray : ∀ name more, cs = name ++ '>' :: more → ¬IsPlace name) (h : Cut cs first rest) :
      Cut ('<' :: cs) ('<' :: first) rest
  | place {name cs first : List Char} {rest : List (List Char × List Char)} (hname : IsPlace name)
      (h : Cut cs first rest) : Cut ('<' :: (name ++ '>' :: cs)) [] ((name, first) :: rest)

def IsVariable (name : List Char) : Prop := ∃ x, name = '?' :: x ∧ x ≠ [] ∧ ∀ c ∈ x, Text.isIdentRest c = true

/-- The place of a property: it neither starts with a question mark nor has brackets. -/
structure IsProperty (name : List Char) : Prop extends IsPlace name where
  start : name.head? ≠ some '?'
  opening : '(' ∉ name
  closing : ')' ∉ name

/-- **A name is read as itself**: it has no slash, and the word that it is has no other text. -/
def Faithful (name : List Char) : Prop := '/' ∉ name ∧ (Value.ofWord name).toText = String.ofList name

/-! ## Cutting -/

theorem cutAt_eq_some {sep : Char} : ∀ {cs before after : List Char}, Text.cutAt sep cs = some (before, after) →
    cs = before ++ sep :: after
  | [], _, _, h => by cases h
  | c :: cs, before, after, h => by
    rw [Text.cutAt] at h
    split at h
    · rename_i hc
      cases h
      rw [hc]
      rfl
    · obtain ⟨⟨before', after'⟩, hcut, heq⟩ := Option.map_eq_some_iff.1 h
      cases heq
      rw [cutAt_eq_some hcut]
      rfl

theorem place?_append (h : IsPlace name) (more : List Char) : place? (name ++ '>' :: more) = some name := by
  have hend : '>' ∉ name := fun hmem => absurd (h.chars '>' hmem) (by decide)
  have hall : name.all isPlaceChar = true := List.all_eq_true.2 h.chars
  unfold place?
  rw [Text.cutAt_append hend]
  simp [h.ne_nil, hall]

theorem exists_of_place? (h : place? cs = some name) : ∃ more, cs = name ++ '>' :: more ∧ IsPlace name := by
  unfold place? at h
  split at h
  · rename_i before after hcut
    split at h
    · rename_i hplace
      cases h
      simp only [Bool.and_eq_true, Bool.not_eq_true', List.isEmpty_eq_false_iff, List.all_eq_true] at hplace
      exact ⟨after, cutAt_eq_some hcut, hplace.1, hplace.2⟩
    · cases h
  · cases h

/-- **Every text can be cut at its places.** -/
theorem exists_cut (cs : List Char) : ∃ first rest, Cut cs first rest := by
  induction hn : cs.length using Nat.strong_induction_on generalizing cs with
  | _ n ih =>
    cases cs with
    | nil => exact ⟨[], [], .nil⟩
    | cons c cs =>
      rw [List.length_cons] at hn
      obtain ⟨first, rest, h⟩ := ih cs.length (by omega) cs rfl
      by_cases hc : c = '<'
      · subst hc
        cases hplace : place? cs with
        | some name =>
          obtain ⟨more, hcs, hname⟩ := exists_of_place? hplace
          have hlength := congrArg List.length hcs
          simp only [List.length_append, List.length_cons] at hlength
          obtain ⟨first, rest, h⟩ := ih more.length (by omega) more rfl
          rw [hcs]
          exact ⟨_, _, .place hname h⟩
        | none =>
          refine ⟨_, _, .stray (fun name more hcs hname => ?_) h⟩
          rw [hcs, place?_append hname] at hplace
          cases hplace
      · exact ⟨_, _, .char hc h⟩

/-! ## Quoted texts -/

def escape (cs : List Char) : List Char := cs.flatMap escapeChar

def quote (cs : List Char) : List Char := '"' :: (escape cs ++ ['"'])

theorem isPlain_of_isPlaceChar {c : Char} (h : isPlaceChar c = true) (hopening : c ≠ '(') (hclosing : c ≠ ')')
    (hslash : c ≠ '/') : isPlain c = true := by
  refine isPlain_of_not_special fun hc => ?_
  have hrest : c ∉ ['"', '\'', '|', '&', '>', '<', '=', '~', '+', '-', '*', '%', '!'] :=
    Text.not_mem_of_test h (by decide)
  simp only [special, List.mem_cons, List.not_mem_nil, or_false, not_or] at hc hrest
  rcases hc with h | h | h | h | h | h | h | h | h | h | h | h | h | h | h | h <;> simp_all

theorem isBlank_of_isPlaceChar {c : Char} (h : isPlaceChar c = true) : Text.isBlank c = false := by
  unfold isPlaceChar at h
  rcases Bool.or_eq_true_iff.1 h with h | h
  · exact Text.isBlank_of_isIdentRest (Bool.or_eq_true_iff.2 (.inl h))
  · have hspecial : "_#:.()/?".toList.all (fun d => !Text.isBlank d) = true := by decide
    simpa using List.all_eq_true.1 hspecial c (List.contains_iff_mem.1 h)

theorem IsPlace.tight (h : IsPlace name) : Text.Tight name :=
  .of_forall h.ne_nil fun c hc => isBlank_of_isPlaceChar (h.chars c hc)

namespace IsProperty

theorem passes {d : Nat} (h : IsProperty name) : Passes d name := by
  refine .of_forall fun c hc hmem => ?_
  have hrest : c ∉ ['"', '\'', ','] := Text.not_mem_of_test (h.chars c hc) (by decide)
  simp only [List.mem_cons, List.not_mem_nil, or_false, not_or] at hmem hrest
  rcases hmem with hd | hs | ho | hclose | hcomma
  · exact hrest.1 hd
  · exact hrest.2.1 hs
  · exact h.opening (ho ▸ hc)
  · exact h.closing (hclose ▸ hc)
  · exact hrest.2.2 hcomma

theorem isAtom (h : IsProperty name) (hslash : '/' ∉ name) : IsAtom name (.literal (Value.ofWord name)) := by
  have hplain : ∀ c ∈ name, isPlain c = true := fun c hc =>
    isPlain_of_isPlaceChar (h.chars c hc) (fun heq => h.opening (heq ▸ hc)) (fun heq => h.closing (heq ▸ hc))
      fun heq => hslash (heq ▸ hc)
  have hatom : atom name = .ok (.literal (Value.ofWord name)) := by
    obtain ⟨c, cs, rfl⟩ := List.exists_cons_of_ne_nil h.ne_nil
    have hc : c ∉ ['"', '\''] := Text.not_mem_of_test (h.chars c List.mem_cons_self) (by decide)
    have hstart : c ≠ '?' := fun heq => h.start (congrArg some heq)
    simp only [List.mem_cons, List.not_mem_nil, or_false, not_or] at hc
    simp [atom, Text.isQuote, hc, hstart]
  have hword : IsAtom ([] ++ (name ++ [])) _ := isAtom_word isSpace_nil isSpace_nil hplain h.tight hatom
  rwa [List.append_nil, List.nil_append] at hword

end IsProperty

namespace IsVariable

theorem passes (h : IsVariable name) : Passes 0 name := by
  obtain ⟨x, rfl, -, hx⟩ := h
  refine .cons (.single (by decide)) (.of_forall fun c hc => ?_)
  exact Text.not_mem_of_test (hx c hc) (by decide)

theorem isAtom (h : IsVariable name) : IsAtom name (.var (String.ofList name.tail)) := by
  obtain ⟨x, rfl, hne, hx⟩ := h
  have hatom : IsAtom ([] ++ ('?' :: x ++ [])) _ := isAtom_variable isSpace_nil isSpace_nil hne hx
  rwa [List.append_nil, List.nil_append] at hatom

theorem tight (h : IsVariable name) : Text.Tight name := by
  obtain ⟨x, rfl, -, hx⟩ := h
  refine .of_forall (List.cons_ne_nil _ _) fun c hc => ?_
  rcases List.mem_cons.1 hc with rfl | hc
  · decide
  · exact Text.isBlank_of_isIdentRest (hx c hc)

end IsVariable

/-! ## The call that a template is written as -/

/-- The arguments of the call: the texts between quotes, and what stands for the places. -/
def texts (first : List Char) : List (List Char × List Char) → List (List Char)
  | [] => [quote first]
  | (name, more) :: rest => quote first :: placeArgument name :: texts more rest

def body (first : List Char) : List (List Char × List Char) → List Char
  | [] => quote first
  | (name, more) :: rest => quote first ++ ',' :: (placeArgument name ++ ',' :: body more rest)

theorem pieces_append : ∀ (done cs : List Char), pieces done.length (done ++ cs) = pieces 0 cs
  | [], _ => rfl
  | _ :: done, cs => pieces_append done cs

theorem IsAtom.argument {e : Expr} (h : IsAtom text e) : Argument text e := .chain (c := .one (.atom text e)) h

def placeValue (env : Env) : List Char → Value
  | '?' :: x => (env.variableOf (String.ofList x)).getD .null
  | name => (env.propertyOf (Value.ofWord name).toText).getD .null

def values (env : Env) (first : List Char) : List (List Char × List Char) → List Value
  | [] => [.string (String.ofList first)]
  | (name, more) :: rest => .string (String.ofList first) :: placeValue env name :: values env more rest

section Template

variable {s : String} (htext : Text.trim s.toList = '{' :: (cs ++ ['}']))
  (hwrapped : ¬∃ core, cs = '{' :: (core ++ ['}'])) (hcut : Cut cs first rest)
include htext hwrapped hcut

end Template

/-! ## Names that are read as themselves -/

theorem unsigned?_start {c : Char} (hc : Decimal.isDigit c = false) (hplus : c ≠ '+') (cs : List Char) :
    Decimal.unsigned? (c :: cs) = none := by
  unfold Decimal.unsigned?
  split
  · rename_i heq
    exact absurd (List.cons.inj heq).1 hplus
  · simp only [Decimal.natural?_eq_none List.mem_cons_self hc]
    rfl

theorem ofChars?_eq_none {c : Char} {cs : List Char} (hc : Decimal.isDigit c = false) (hplus : c ≠ '+')
    (htight : Text.Tight (c :: cs)) : Timespan.ofChars? (c :: cs) = none := by
  have hdays : ∀ field, field = [] ∨ (∃ ds, field = c :: ds) → Timespan.daysHours? field = none := by
    rintro _ (rfl | ⟨ds, rfl⟩)
    · rfl
    · unfold Timespan.daysHours?
      cases hcut : Text.cutAt '.' (c :: ds) with
      | none =>
        simp only [unsigned?_start hc hplus]
        rfl
      | some p =>
        have hdigits : Decimal.unsigned? p.1 = none := by
          have heq : c :: ds = p.1 ++ '.' :: p.2 := cutAt_eq_some hcut
          cases hp : p.1 with
          | nil => rfl
          | cons x xs =>
            rw [hp] at heq
            rw [← (List.cons.inj heq).1]
            exact unsigned?_start hc hplus xs
        simp only [hdigits]
  have hpieces : ∀ first, (Text.pieces ':' (c :: cs)).head? = some first → first = [] ∨ ∃ ds, first = c :: ds := by
    intro first hfirst
    rw [Text.pieces] at hfirst
    split at hfirst
    · exact .inl (Option.some.inj hfirst).symm
    · split at hfirst <;> exact .inr ⟨_, (Option.some.inj hfirst).symm⟩
  unfold Timespan.ofChars?
  rw [htight.trim]
  split
  · rename_i first second third heq
    rw [Timespan.ofFields?, hdays first (hpieces first (by rw [heq]; rfl))]
  · rfl

/-- **A name without a slash that does not start with a digit** is read as itself, but for `null`. -/
theorem IsProperty.faithful (h : IsProperty name) (hslash : '/' ∉ name)
    (hdigit : Term.startsWith Decimal.isDigit name = false) (hnull : name ≠ ['n', 'u', 'l', 'l']) : Faithful name := by
  refine ⟨hslash, ?_⟩
  obtain ⟨c, cs, rfl⟩ := List.exists_cons_of_ne_nil h.ne_nil
  have hc : Decimal.isDigit c = false := hdigit
  have hsigns : c ∉ ['-', '+'] := Text.not_mem_of_test (h.chars c List.mem_cons_self) (by decide)
  simp only [List.mem_cons, List.not_mem_nil, or_false, not_or] at hsigns
  have hsigned : Decimal.signed? (c :: cs) = none :=
    Decimal.signed?_eq_none List.mem_cons_self hc hsigns.1 hsigns.2
  have hfloat : Value.floatLiteral? (c :: cs) = none := by
    have hlooks : Value.looksNumeric (c :: cs) = false := by
      unfold Value.looksNumeric
      split
      · rename_i heq
        exact absurd (List.cons.inj heq).1 hsigns.1
      · simp [hc]
    rw [Value.floatLiteral?, hlooks]
    rfl
  have hspan := ofChars?_eq_none hc hsigns.2 h.tight
  unfold Value.ofWord
  split
  · rename_i htrue
    rw [htrue]
    rfl
  · split
    · rename_i hfalse
      rw [hfalse]
      rfl
    · rw [hsigned]
      simp only [hfloat, hspan]
      rfl

/-! A quote, a backslash and a stray `<` around a property and a variable: `{"<Node>\ < <?X>}`. -/

end Remedy.Expr
