import Mathlib.Data.List.Forall2
import Remedy.Expr.Parser
import Remedy.Proofs.Expr.Grouping
import Remedy.Proofs.Text.Characters
/-!
# Proofs.Expr.Spelling — the text of a chain is read as its lexemes

A chain is written as its operands with the signs of its operators between them.  An atom is whatever text is read as an
operand wherever an operator or nothing follows (`IsAtom`): a word without signs (`isAtom_word`), a negative number
(`isAtom_negative`).  Apart from its atoms a text is read back as it was written if no operator runs into the next
character to make a longer one, and no minus sign into a number (`Chain.Legible`).
-/
namespace Remedy.Expr

variable {cs rest w before after soFar : List Char} {e : Expr} {f : Func}

/-! ## Characters -/

/-- No operator starts with the character, and it is no quote. -/
def isPlain (c : Char) : Bool := !Text.isQuote c && operators.all fun p => p.1.head? != some c

theorem operator?_of_isPlain {c : Char} (h : isPlain c = true) (cs : List Char) : operator? (c :: cs) = none := by
  simp [isPlain, operators] at h
  simp [operator?, operators, Text.after?, h]

def special : List Char :=
  ['"', '\'', '|', '&', '>', '<', '=', '~', '(', ')', '+', '-', '*', '/', '%', '!']

theorem isPlain_of_not_special {c : Char} (h : c ∉ special) : isPlain c = true := by
  simp [special] at h
  simp [isPlain, operators, Text.isQuote, h]
  simp [eq_comm, h]

theorem isPlain_of_isIdentRest {c : Char} (h : Text.isIdentRest c = true) : isPlain c = true :=
  isPlain_of_not_special (Text.not_mem_of_test h (by decide))

theorem isPlain_of_isBlank {c : Char} (h : Text.isBlank c = true) : isPlain c = true :=
  isPlain_of_not_special (Text.not_mem_of_test h (by decide))

abbrev IsSpace (cs : List Char) : Prop := ∀ c ∈ cs, Text.isBlank c = true

theorem IsSpace.reverse (h : IsSpace cs) : IsSpace cs.reverse := fun c hc => h c (List.mem_reverse.1 hc)

/-! ## Reading an operand -/

theorem readOperand_of_isPlain {c : Char} (h : isPlain c = true) (soFar cs : List Char) :
    readOperand soFar none (c :: cs) = readOperand (c :: soFar) none cs := by
  have hop := operator?_of_isPlain h cs
  have hquote : Text.isQuote c = false := by simpa using (Bool.and_eq_true_iff.1 h).1
  have hopening : c ≠ '(' := by
    rintro rfl
    cases h
  rw [readOperand]
  simp [hop, hquote, hopening]

theorem readOperand_run (h : ∀ c ∈ w, isPlain c = true) (soFar cs : List Char) :
    readOperand soFar none (w ++ cs) = readOperand (w.reverse ++ soFar) none cs := by
  induction w generalizing soFar with
  | nil => rfl
  | cons c w ih =>
    rw [List.cons_append, readOperand_of_isPlain (h c (by simp)), ih fun d hd => h d (by simp [hd])]
    simp

theorem trim_of_blank (h : IsSpace cs) : Text.trim cs = [] := by
  have hstart : Text.trimStart cs = [] := List.dropWhile_eq_nil_iff.2 h
  rw [Text.trim, hstart]
  rfl

theorem readOperand_of_operator {op : Operator} {more : List Char} (hop : operator? rest = some (op, more))
    (hopening : op = .opening → Text.trim soFar = []) (hnumber : Text.trim soFar = [] → startsNumber rest = false) :
    readOperand soFar none rest = .word (Text.trim soFar.reverse) rest := by
  cases rest with
  | nil => cases hop
  | cons c cs =>
    have hquote : Text.isQuote c = false := by
      refine Bool.eq_false_iff.2 fun hc => ?_
      simp only [Text.isQuote, Bool.or_eq_true, beq_iff_eq] at hc
      rcases hc with rfl | rfl <;> cases hop
    rw [readOperand]
    by_cases hblank : Text.trim soFar = []
    · simp [hquote, hblank, hnumber hblank, hop]
    · have hparen : c ≠ '(' := by
        rintro rfl
        cases hop
        exact hblank (hopening rfl)
      simp [hquote, hblank, hparen, hop]

/-- **What comes after an operand**: nothing, or an operator that does not open a bracket. -/
def Ends (rest : List Char) : Prop := rest = [] ∨ ∃ op more, operator? rest = some (op, more) ∧ op ≠ .opening

theorem readOperand_of_ends (h : Ends rest) (hsolid : Text.trim soFar ≠ []) :
    readOperand soFar none rest = .word (Text.trim soFar.reverse) rest := by
  obtain rfl | ⟨op, more, hop, hopening⟩ := h
  · rfl
  · exact readOperand_of_operator hop (fun h => absurd h hopening) fun h => absurd h hsolid

/-! ## Atoms -/

/-- **A text is an atom** if it is read as an operand wherever nothing more of the operand follows. -/
def IsAtom (text : List Char) (e : Expr) : Prop := ∀ rest, Ends rest → ∀ fuel, 4 * text.length ≤ fuel →
  lexemes (fuel + 1) true (text ++ rest) = .operand (some e) :: lexemes fuel false rest

theorem lexemes_word (hread : readOperand [] none cs = .word w rest) (hw : w ≠ []) (he : atom w = .ok e) (fuel : Nat) :
    lexemes (fuel + 1) true cs = .operand (some e) :: lexemes fuel false rest := by
  simp [lexemes, hread, hw, he]

theorem readOperand_quoted {inner : List Char} : ∀ {o o' : Text.OpenQuote} {soFar : List Char},
    inner.foldlM Text.OpenQuote.next o = some o' →
      readOperand soFar (some o) (inner ++ cs) = readOperand (inner.reverse ++ soFar) (some o') cs := by
  induction inner with
  | nil =>
    rintro o _ _ ⟨⟩
    rfl
  | cons c inner ih =>
    intro o o' soFar h
    rw [List.foldlM_cons] at h
    obtain ⟨o₁, hfirst, hrest⟩ := Option.bind_eq_some_iff.1 h
    rw [List.cons_append, readOperand, hfirst]
    rw [ih hrest]
    simp

section Atoms

variable (hbefore : IsSpace before) (hafter : IsSpace after)
include hbefore hafter

theorem isAtom_word (hw : ∀ c ∈ w, isPlain c = true) (htight : Text.Tight w) (he : atom w = .ok e) :
    IsAtom (before ++ (w ++ after)) e := by
  intro rest hrest fuel _
  refine lexemes_word ?_ htight.ne_nil he fuel
  have hplain : ∀ c ∈ before ++ (w ++ after), isPlain c = true := by
    simp only [List.mem_append]
    rintro c (hc | hc | hc)
    · exact isPlain_of_isBlank (hbefore c hc)
    · exact hw c hc
    · exact isPlain_of_isBlank (hafter c hc)
  obtain ⟨c, hc, hsolid⟩ := htight.exists_solid
  rw [readOperand_run hplain, readOperand_of_ends hrest (Text.trim_ne_nil (by simp [hc]) hsolid)]
  simp [Text.trim_tight htight hbefore hafter]

theorem isAtom_negative {d : Char} (hd : Decimal.isDigit d = true) (hw : ∀ c ∈ d :: w, isPlain c = true)
    (htight : Text.Tight ('-' :: d :: w)) (he : atom ('-' :: d :: w) = .ok e) :
    IsAtom (before ++ ('-' :: d :: w ++ after)) e := by
  intro rest hrest fuel _
  refine lexemes_word ?_ htight.ne_nil he fuel
  have hblank : Text.trim before.reverse = [] := trim_of_blank hbefore.reverse
  have hminus : ∀ cs, readOperand before.reverse none ('-' :: d :: cs) =
      readOperand ('-' :: before.reverse) none (d :: cs) := by
    intro cs
    rw [readOperand]
    simp [hblank, startsNumber, hd, Text.isQuote]
  have hplain : ∀ c ∈ (d :: w) ++ after, isPlain c = true := by
    simp only [List.mem_append]
    rintro c (hc | hc)
    · exact hw c hc
    · exact isPlain_of_isBlank (hafter c hc)
  have hrun := readOperand_run hplain ('-' :: before.reverse) rest
  rw [List.append_assoc, readOperand_run fun c hc => isPlain_of_isBlank (hbefore c hc)]
  simp only [List.append_nil, List.cons_append] at hrun ⊢
  rw [hminus, hrun, readOperand_of_ends hrest (Text.trim_ne_nil (c := '-') (by simp) rfl)]
  simpa using Text.trim_tight htight hbefore hafter

theorem isAtom_identifier (hne : w ≠ []) (hw : ∀ c ∈ w, Text.isIdentRest c = true) :
    IsAtom (before ++ (w ++ after)) (.literal (Value.ofWord w)) := by
  refine isAtom_word hbefore hafter (fun c hc => isPlain_of_isIdentRest (hw c hc)) ?_ ?_
  · exact .of_forall hne fun c hc => Text.isBlank_of_isIdentRest (hw c hc)
  · obtain ⟨c, cs, rfl⟩ := List.exists_cons_of_ne_nil hne
    have hc : c ∉ ['"', '\'', '?'] := Text.not_mem_of_test (hw c (by simp)) (by decide)
    simp only [List.mem_cons, not_or] at hc
    simp [atom, Text.isQuote, hc]

theorem isAtom_variable {name : List Char} (hne : name ≠ []) (hname : ∀ c ∈ name, Text.isIdentRest c = true) :
    IsAtom (before ++ ('?' :: name ++ after)) (.var (String.ofList name)) := by
  have hsolid : ∀ c ∈ '?' :: name, isPlain c = true ∧ Text.isBlank c = false := by
    simp only [List.mem_cons]
    rintro c (rfl | hc)
    · decide
    · exact ⟨isPlain_of_isIdentRest (hname c hc), Text.isBlank_of_isIdentRest (hname c hc)⟩
  refine isAtom_word hbefore hafter (fun c hc => (hsolid c hc).1) ?_ ?_
  · exact .of_forall (List.cons_ne_nil _ _) fun c hc => (hsolid c hc).2
  · have hall : name.all Text.isIdentRest = true := List.all_eq_true.2 hname
    simp [atom, Text.isQuote, hne, hall]

theorem isAtom_quoted {q : Char} {inner : List Char} (hq : Text.isQuote q = true)
    (hinner : inner.foldlM Text.OpenQuote.next ⟨q, false⟩ = some ⟨q, false⟩) :
    IsAtom (before ++ (q :: (inner ++ [q]) ++ after)) (.literal (.string (String.ofList (unescape inner)))) := by
  have hcases : q = '"' ∨ q = '\'' := by simpa [Text.isQuote] using hq
  have hsolid : Text.isBlank q = false := by rcases hcases with rfl | rfl <;> rfl
  have hclose : Text.OpenQuote.next ⟨q, false⟩ q = none := by rcases hcases with rfl | rfl <;> rfl
  have htight : Text.Tight (q :: (inner ++ [q])) := by
    constructor <;> simp [Term.startsWith, hsolid]
  intro rest hrest fuel _
  refine lexemes_word (w := q :: (inner ++ [q])) ?_ (List.cons_ne_nil _ _) ?_ fuel
  · have hopen : ∀ cs, readOperand before.reverse none (q :: cs) =
        readOperand (q :: before.reverse) (some ⟨q, false⟩) cs := by
      intro cs
      rw [readOperand]
      simp [hq]
    have hshut : ∀ soFar cs, readOperand soFar (some ⟨q, false⟩) (q :: cs) = readOperand (q :: soFar) none cs := by
      intro soFar cs
      rw [readOperand, hclose]
    rw [List.append_assoc, readOperand_run fun c hc => isPlain_of_isBlank (hbefore c hc)]
    simp only [List.append_nil, List.cons_append, List.append_assoc, List.nil_append]
    rw [hopen, readOperand_quoted hinner, hshut, readOperand_run fun c hc => isPlain_of_isBlank (hafter c hc),
      readOperand_of_ends hrest (Text.trim_ne_nil (c := q) (by simp) hsolid)]
    simpa using Text.trim_tight htight hbefore hafter
  · have hlast : Text.dropLast? q (inner ++ [q]) = some inner := by simp [Text.dropLast?]
    simp [atom, hq, hlast]

end Atoms

/-! ## Operators -/

/-- The sign of an operator does not run into what follows. -/
def Apart (f : Func) (cs : List Char) : Prop := (f = .gt ∨ f = .lt ∨ f = .not) → cs.head? ≠ some '='

instance : Decidable (Apart f cs) := inferInstanceAs (Decidable (_ → _))

theorem operator?_sign (hf : 0 < level f) (h : Apart f cs) :
    operator? ((signOf f).toList ++ cs) = some (.apply f, cs) := by
  cases f with
  | gt | lt | not =>
    have hne := h (by simp)
    cases cs with
    | nil => rfl
    | cons c cs =>
      have hc : '=' ≠ c := fun heq => hne (congrArg some heq.symm)
      simp [signOf, Func.symbol?, operator?, operators, Text.after?, hc]
  | get | concat | lower | upper | len | contains | startsWith | endsWith | iif | expression | now | guid => cases hf
  | _ => rfl

/-! ## Chains -/

mutual

def Operand.chars : Operand → List Char
  | .atom text _ => text
  | .sign before f o => before ++ ((signOf f).toList ++ o.chars)
  | .bracket before inner after => before ++ '(' :: (inner.chars ++ ')' :: after)

/-- **The text of a chain.** -/
def Chain.chars : Chain → List Char
  | .one o => o.chars
  | .more c g o => c.chars ++ ((signOf g).toList ++ o.chars)

end

mutual

/-- The signs of an operand do not run into what follows them: a minus sign directly before a digit belongs to the
number. -/
def Operand.Legible : Operand → Prop
  | .atom text e => IsAtom text e
  | .sign before f o => IsSpace before ∧ Apart f o.chars ∧
      (f.1 = .sub → Term.startsWith Decimal.isDigit o.chars = false) ∧ o.Legible
  | .bracket before inner after => IsSpace before ∧ IsSpace after ∧
      inner.Legible

/-- **The atoms of a chain are atoms, and its signs do not run into what follows them.** -/
def Chain.Legible : Chain → Prop
  | .one o => o.Legible
  | .more c g o => c.Legible ∧ Apart g o.chars ∧ o.Legible

end

theorem IsAtom.ne_nil {text : List Char} (h : IsAtom text e) : text ≠ [] := by
  rintro rfl
  have hread := h [] (.inl rfl) 0 (Nat.le_refl _)
  cases hread

theorem length_signOf_pos (hf : 0 < level f) : 0 < (signOf f).toList.length := by
  revert hf
  cases f <;> decide

theorem Sign.level_pos (f : Sign) : 0 < level f := by
  rcases sign_cases f with h | h <;> simp [h, level]

theorem Binary.level_pos (f : Binary) : 0 < level f := of_decide_eq_true (Bool.and_eq_true_iff.1 f.2).1

mutual

theorem Operand.Legible.length_lexemes : ∀ {o : Operand}, o.Legible → o.lexemes.length + 1 ≤ 4 * o.chars.length
  | .atom _ _, h => by
    have hpos := List.length_pos_iff.2 (IsAtom.ne_nil h)
    simp only [Operand.lexemes, Operand.chars, List.length_singleton]
    omega
  | .sign _ f _, h => by
    have ho := h.2.2.2.length_lexemes
    have hsign := length_signOf_pos f.level_pos
    simp only [Operand.lexemes, Operand.chars, List.length_cons, List.length_append]
    omega
  | .bracket _ _ _, h => by
    have hinner := h.2.2.length_lexemes
    simp only [Operand.lexemes, Operand.chars, List.length_cons, List.length_append, List.length_nil]
    omega

theorem Chain.Legible.length_lexemes : ∀ {c : Chain}, c.Legible → c.lexemes.length + 1 ≤ 4 * c.chars.length
  | .one _, h => Operand.Legible.length_lexemes h
  | .more _ g _, h => by
    have hc := h.1.length_lexemes
    have ho := h.2.2.length_lexemes
    have hsign := length_signOf_pos g.level_pos
    simp only [Chain.lexemes, Chain.chars, List.length_cons, List.length_append]
    omega

end

theorem Operand.Legible.chars_ne_nil {o : Operand} (h : o.Legible) : o.chars ≠ [] := by
  refine List.ne_nil_of_length_pos ?_
  have hlength := h.length_lexemes
  omega

theorem Apart.append (hne : cs ≠ []) (h : Apart f cs) (rest : List Char) : Apart f (cs ++ rest) := by
  obtain ⟨c, cs, rfl⟩ := List.exists_cons_of_ne_nil hne
  exact h

/-! ## Reading chains -/

theorem trimStart_of_operator {op : Operator} {more : List Char} (h : operator? rest = some (op, more)) :
    Text.trimStart rest = rest := by
  cases rest with
  | nil => rfl
  | cons c cs =>
    have hc : Text.isBlank c = false := by
      refine Bool.eq_false_iff.2 fun hblank => ?_
      rw [operator?_of_isPlain (isPlain_of_isBlank hblank)] at h
      cases h
    simp [Text.trimStart, hc]

theorem trimStart_append (h : IsSpace before) (cs : List Char) :
    Text.trimStart (before ++ cs) = Text.trimStart cs := List.dropWhile_append_of_pos h

theorem lexemes_sign (h : 0 < level f) (happart : Apart f cs) (fuel : Nat) :
    lexemes (fuel + 1) false ((signOf f).toList ++ cs) = .operator (.apply f) :: lexemes fuel true cs := by
  have hop := operator?_sign h happart
  have htrim := trimStart_of_operator hop
  rw [lexemes, htrim]
  split
  · rename_i hnil
    rw [hnil] at hop
    cases hop
  · rename_i hcons
    rw [hcons] at hop
    simp [hop]

theorem ends_sign (h : 0 < level f) (happart : Apart f cs) : Ends ((signOf f).toList ++ cs) :=
  .inr ⟨.apply f, cs, operator?_sign h happart, nofun⟩

/-- White space before an operator where an operand is due is an empty operand. -/
theorem lexemes_blank {op : Operator} {more : List Char} (hbefore : IsSpace before)
    (hop : operator? rest = some (op, more)) (hnumber : startsNumber rest = false) (fuel : Nat) :
    lexemes (fuel + 1) true (before ++ rest) = .operand none :: lexemes fuel false rest := by
  have hblank : Text.trim before = [] := trim_of_blank hbefore
  have hreverse : Text.trim before.reverse = [] := trim_of_blank hbefore.reverse
  have hread : readOperand [] none (before ++ rest) = .word [] rest := by
    rw [readOperand_run fun c hc => isPlain_of_isBlank (hbefore c hc), List.append_nil,
      readOperand_of_operator hop (fun _ => hreverse) fun _ => hnumber]
    simp [hblank]
  simp [lexemes, hread]

theorem startsNumber_sign (f : Sign) (hne : cs ≠ []) (h : f.1 = .sub → Term.startsWith Decimal.isDigit cs = false) :
    startsNumber ((signOf f).toList ++ (cs ++ rest)) = false := by
  obtain ⟨c, cs, rfl⟩ := List.exists_cons_of_ne_nil hne
  rcases sign_cases f with hf | hf
  · rw [hf]
    rfl
  · have hcs := h hf
    rw [hf]
    exact hcs

theorem lexemes_opening (fuel : Nat) (cs : List Char) :
    lexemes (fuel + 1) false ('(' :: cs) = .operator .opening :: lexemes fuel true cs := rfl

theorem lexemes_skip (hafter : IsSpace after) (fuel : Nat) (cs : List Char) :
    lexemes fuel false (after ++ cs) = lexemes fuel false cs := by
  cases fuel with
  | zero => rfl
  | succ fuel => rw [lexemes, lexemes, trimStart_append hafter]

theorem lexemes_closing (hafter : IsSpace after) (fuel : Nat) (cs : List Char) :
    lexemes (fuel + 1) false (')' :: (after ++ cs)) = .operator .closing :: lexemes fuel false cs := by
  refine Eq.trans ?_ (congrArg (Lexeme.operator .closing :: ·) (lexemes_skip hafter fuel cs))
  rfl

mutual

theorem lexemes_operand : ∀ {o : Operand} {rest : List Char} {fuel : Nat}, o.Legible → Ends rest →
    4 * o.chars.length + 1 ≤ fuel + o.lexemes.length →
      lexemes (fuel + o.lexemes.length) true (o.chars ++ rest) = o.lexemes ++ lexemes fuel false rest
  | .atom _ _, rest, fuel, h, hrest, hfuel => h rest hrest fuel (Nat.le_of_succ_le_succ hfuel)
  | .sign before f o, rest, fuel, ⟨hbefore, happart, hnumber, ho⟩, hrest, hfuel => by
    have hsign := length_signOf_pos f.level_pos
    have happart := happart.append ho.chars_ne_nil rest
    simp only [Operand.lexemes, Operand.chars, List.length_cons, List.length_append, List.append_assoc,
      List.cons_append, ← Nat.add_assoc] at hfuel ⊢
    rw [lexemes_blank hbefore (operator?_sign f.level_pos happart) (startsNumber_sign f ho.chars_ne_nil hnumber),
      lexemes_sign f.level_pos happart, lexemes_operand ho hrest]
    omega
  | .bracket before inner after, rest, fuel, ⟨hbefore, hafter, hinner⟩, hrest, hfuel => by
    have hclosing : Ends (')' :: (after ++ rest)) := .inr ⟨.closing, after ++ rest, rfl, nofun⟩
    simp only [Operand.lexemes, Operand.chars, List.length_cons, List.length_append, List.append_assoc,
      List.cons_append, List.length_nil] at hfuel ⊢
    have hfuel' : fuel + (inner.lexemes.length + (0 + 1) + 1 + 1) = fuel + 1 + inner.lexemes.length + 1 + 1 := by omega
    have hop : operator? ('(' :: (inner.chars ++ ')' :: (after ++ rest))) = some (.opening, _) := rfl
    rw [hfuel', lexemes_blank hbefore hop rfl, lexemes_opening, lexemes_chain hinner hclosing, lexemes_closing hafter]
    · rfl
    · omega

theorem lexemes_chain : ∀ {c : Chain} {rest : List Char} {fuel : Nat}, c.Legible → Ends rest →
    4 * c.chars.length + 1 ≤ fuel + c.lexemes.length →
      lexemes (fuel + c.lexemes.length) true (c.chars ++ rest) = c.lexemes ++ lexemes fuel false rest
  | .one o, rest, fuel, h, hrest, hfuel => lexemes_operand (o := o) h hrest hfuel
  | .more c g o, rest, fuel, ⟨hc, happart, ho⟩, hrest, hfuel => by
    have hlength := hc.length_lexemes
    have hsign := length_signOf_pos g.level_pos
    have happart := happart.append ho.chars_ne_nil rest
    simp only [Chain.lexemes, Chain.chars, List.length_cons, List.length_append, List.append_assoc,
      List.cons_append] at hfuel ⊢
    -- every lexeme takes a step, and those of the left part leave enough for the right operand
    have hfuel' : fuel + (c.lexemes.length + (o.lexemes.length + 1)) =
        fuel + o.lexemes.length + 1 + c.lexemes.length := by omega
    rw [hfuel', lexemes_chain hc (ends_sign g.level_pos happart), lexemes_sign g.level_pos happart,
      lexemes_operand ho hrest]
    · omega
    · omega

end

theorem parseTree_chain {c : Chain} {fuel : Nat} (h : c.Legible) (hfuel : 4 * c.chars.length + 2 ≤ fuel) :
    parseTree fuel c.chars = .ok c.tree.expr := by
  have hlength := h.length_lexemes
  obtain ⟨left, hleft⟩ := Nat.exists_eq_add_of_le (show c.lexemes.length + 1 ≤ fuel by omega)
  have hfuel' : fuel = left + c.lexemes.length + 1 := by omega
  have hread := lexemes_chain h (.inl rfl) (show 4 * c.chars.length + 1 ≤ left + c.lexemes.length by omega)
  have hnone : lexemes left false [] = [] := by cases left <;> rfl
  rw [hnone, List.append_nil, List.append_nil] at hread
  rw [hfuel', parseTree, hread, ofLexemes_chain]

/-- **The text of a chain spells the tree that its operators make.** -/
theorem ofChars_chain {c : Chain} (h : c.Legible) : ofChars c.chars = .ok c.tree.expr := by
  refine parseTree_chain h ?_
  unfold enough
  omega

/-! ## Calls -/

/-- **The text of an argument and its expression**: nothing for the absent value, or a chain. -/
inductive Argument : List Char → Expr → Prop
  | absent : Argument [] (.literal .null)
  | chain {c : Chain} (h : c.Legible) : Argument c.chars c.tree.expr

theorem length_trim_le (cs : List Char) : (Text.trim cs).length ≤ cs.length := by
  have hstart : (Text.trimStart cs).length ≤ cs.length := List.length_dropWhile_le _ _
  have hend := List.length_dropWhile_le Text.isBlank (Text.trimStart cs).reverse
  simp only [Text.trim, Text.trimEnd, List.length_reverse] at hend ⊢
  omega

def extent : List (List Char) → Nat
  | [] => 0
  | text :: rest => text.length + 1 + extent rest

theorem extent_arguments (depth : Nat) (quote : Option Text.OpenQuote) (soFar cs : List Char) :
    extent (arguments depth quote soFar cs).1 ≤ soFar.length + cs.length := by
  induction cs generalizing depth quote soFar with
  | nil => simp [arguments, extent]
  | cons c cs ih =>
    have htrim := length_trim_le soFar.reverse
    have hnext : ∀ depth quote, extent (arguments depth quote (c :: soFar) cs).1 ≤ soFar.length + (c :: cs).length := by
      intro depth quote
      have h := ih depth quote (c :: soFar)
      simp only [List.length_cons] at h ⊢
      omega
    rw [List.length_reverse] at htrim
    unfold arguments
    split
    · exact hnext _ _
    · split_ifs
      · exact hnext _ _
      · exact hnext _ _
      · cases depth with
        | zero =>
          simp only [extent, List.length_cons]
          omega
        | succ depth => exact hnext _ _
      · have h := ih 0 none []
        simp only [extent, List.length_cons, List.length_nil] at h ⊢
        omega
      · exact hnext _ _

theorem parseArguments_of_forall₂ {texts : List (List Char)} {args : List Expr} (h : List.Forall₂ Argument texts args)
    {fuel : Nat} (hfuel : 4 * extent texts + 1 ≤ fuel) : parseArguments fuel texts = .ok args := by
  induction h generalizing fuel with
  | nil =>
    cases fuel with
    | zero => omega
    | succ fuel => rfl
  | cons harg _ ih =>
    cases fuel with
    | zero => omega
    | succ fuel =>
      rw [extent] at hfuel
      rw [parseArguments, ih (by omega)]
      cases harg with
      | absent => rfl
      | @chain c hc =>
        have hne : c.chars.isEmpty = false := by
          have hlength := hc.length_lexemes
          refine Bool.eq_false_iff.2 fun hnil => ?_
          rw [List.isEmpty_iff.1 hnil, List.length_nil] at hlength
          omega
        simp [hne, parseTree_chain hc (show 4 * c.chars.length + 2 ≤ fuel by omega)]

section Call

variable {name between inner : List Char} {texts : List (List Char)} {args : List Expr}

theorem readOperand_call (hbefore : IsSpace before) (hbetween : IsSpace between)
    (hname : ∀ c ∈ name, isPlain c = true) (htight : Text.Tight name) (cs : List Char) :
    readOperand [] none (before ++ (name ++ between) ++ '(' :: cs) = .callOf name cs := by
  have hplain : ∀ c ∈ before ++ (name ++ between), isPlain c = true := by
    simp only [List.mem_append]
    rintro c (hc | hc | hc)
    · exact isPlain_of_isBlank (hbefore c hc)
    · exact hname c hc
    · exact isPlain_of_isBlank (hbetween c hc)
  obtain ⟨c, hc, hsolid⟩ := htight.exists_solid
  have hne : Text.trim (before ++ (name ++ between)).reverse ≠ [] := Text.trim_ne_nil (c := c) (by simp [hc]) hsolid
  have hblank := List.isEmpty_eq_false_iff.2 hne
  have htrim := Text.trim_tight htight hbefore hbetween
  rw [readOperand_run hplain, List.append_nil, readOperand, List.reverse_reverse, htrim]
  simp only [hblank]
  rfl

/-- **A call** whose text is cut into its arguments is an atom. -/
theorem isAtom_call (hbefore : IsSpace before) (hbetween : IsSpace between) (hafter : IsSpace after)
    (hname : ∀ c ∈ name, isPlain c = true) (htight : Text.Tight name) (hf : Func.ofChars? name = some f)
    (hsplit : ∀ rest, arguments 0 none [] (inner ++ ')' :: rest) = (texts, some rest))
    (hargs : List.Forall₂ Argument (if texts = [[]] then [] else texts) args)
    (haccepts : f.accepts args.length = true) :
    IsAtom (before ++ (name ++ between) ++ '(' :: (inner ++ ')' :: after)) (.call f args) := by
  intro rest _ fuel hfuel
  have hread := readOperand_call hbefore hbetween hname htight (inner ++ ')' :: (after ++ rest))
  have hlength : extent texts ≤ inner.length + 1 := by
    have h := extent_arguments 0 none [] (inner ++ [')'])
    rw [hsplit] at h
    simpa using h
  have hparse : parseArguments fuel (if texts = [[]] then [] else texts) = .ok args := by
    refine parseArguments_of_forall₂ hargs ?_
    simp only [List.length_append, List.length_cons] at hfuel
    split
    · simp only [extent]
      omega
    · omega
  simp only [List.append_assoc, List.cons_append] at hread ⊢
  simp only [lexemes, hread, hf, hsplit, Option.isSome_some, Bool.and_true, decide_eq_true_eq, hparse, haccepts,
    if_true]
  rw [lexemes_skip hafter]

end Call

end Remedy.Expr
