import Remedy.Proofs.Expr.Arguments
import Remedy.Proofs.Expr.Inlining
import Remedy.Proofs.Term.Plain
/-!
# Proofs.Expr.Printing — which expressions are built again from their text

An expression is written with the signs of its operators, and every operation with two operands is in brackets, so its
text is again that of an operand.  What comes back is the expression itself but for four things.  A constant may have a
text that is read as another one.  A minus sign directly before a digit belongs to the number.  A sign before the left
operand of an operator of a higher level takes the whole operation under it, and there are no brackets to stop it.  And
an operator that needs two operands is written before its argument when a call has just one; such a text is not read at
all, whatever stands around it (`group_of_dangling`).  An expression in which none of this happens is *lasting*
(`Lasting`), and these are just the expressions that are built again from their text (`build_display`).

What is built has been spelled (`Spelled`): that is all that is known of it beforehand.  By induction on such an
expression, its text is an operand, which is the expression just if the expression lasts, or it is not read and the
expression does not last (`Spelled.reread`); there is one lemma for each form in which an expression is written.
-/
namespace Remedy

/-! ## Constants that are read back -/

/-- **A constant that is read from its text**: a plain one, or a floating point number whose text is read as it. -/
inductive Value.Lasting : Value → Prop
  | plain {v : Value} (h : v.Plain) : Lasting v
  | float {x : Float} (h : Value.ofWord (Decimal.floatText x).toList = .float x) : Lasting (.float x)

theorem Value.lasting_string {s : String} : (Value.string s).Lasting ↔ ∀ c ∈ s.toList, Text.ReadsBack c := by
  refine ⟨fun h => ?_, fun h => .plain (.string h)⟩
  cases h with
  | plain h =>
    cases h with
    | string h => exact h

theorem Value.lasting_iff {v : Value} (hjson : v.isJson = false) (hstring : v.isString = false) :
    v.Lasting ↔ Value.ofWord v.display.toList = v := by
  cases v with
  | bool b =>
    refine ⟨fun _ => ?_, fun _ => .plain (.bool b)⟩
    cases b <;> rfl
  | int n => exact ⟨fun _ => ofWord_int n, fun _ => .plain (.int n)⟩
  | float x =>
    refine ⟨fun h => ?_, .float⟩
    cases h with
    | plain h => cases h
    | float h => exact h
  | string s => cases hstring
  | timespan d =>
    rw [toList_display_timespan, ofWord_timespan_iff]
    refine ⟨fun h => ?_, fun h => .plain (.timespan h)⟩
    cases h with
    | plain h =>
      cases h with
      | timespan h => exact h
  | json j => cases hjson
  | null => exact ⟨fun _ => rfl, fun _ => .plain .null⟩

namespace Expr

variable {e : Expr} {f : Func} {a b : Expr} {args : List Expr} {cs cs' rest before after : List Char}
  {lefts : List (Option Expr)} {waiting : List Operator} {top : Option Expr}

/-! ## Lexemes one by one -/

theorem lexemes_due (fuel : Nat) (cs : List Char) : (∃ cause, lexemes (fuel + 1) true cs = [.failed cause]) ∨
    ∃ x rest, lexemes (fuel + 1) true cs = .operand x :: lexemes fuel false rest := by
  rw [lexemes]
  split
  · exact .inl ⟨_, rfl⟩
  · split
    · exact .inr ⟨_, _, rfl⟩
    · split
      · exact .inr ⟨_, _, rfl⟩
      · exact .inl ⟨_, rfl⟩
  · split
    · exact .inl ⟨_, rfl⟩
    · split
      split
      · exact .inl ⟨_, rfl⟩
      · exact .inl ⟨_, rfl⟩
      · split
        · exact .inr ⟨_, _, rfl⟩
        · exact .inl ⟨_, rfl⟩

theorem lexemes_taken (fuel : Nat) (cs : List Char) : lexemes (fuel + 1) false cs = [] ∨
    (∃ cause, lexemes (fuel + 1) false cs = [.failed cause]) ∨
      (∃ rest, lexemes (fuel + 1) false cs = .operator .closing :: lexemes fuel false rest) ∨
        ∃ op rest, op ≠ .closing ∧ lexemes (fuel + 1) false cs = .operator op :: lexemes fuel true rest := by
  rw [lexemes]
  split
  · exact .inl rfl
  · split
    · exact .inr (.inl ⟨_, rfl⟩)
    · exact .inr (.inr (.inl ⟨_, rfl⟩))
    · rename_i op after hother _
      exact .inr (.inr (.inr ⟨op, after, hother, rfl⟩))

/-- **An operator that dangles is never read**, whatever comes after it. -/
theorem group_of_dangling : ∀ (fuel : Nat) {lefts : List (Option Expr)} {waiting : List Operator},
    Dangling lefts waiting → (∀ cs, group ⟨lefts, waiting⟩ (lexemes fuel true cs) ≠ .ok e) ∧
      ∀ top cs, group ⟨top :: lefts, waiting⟩ (lexemes fuel false cs) ≠ .ok e
  | 0, lefts, waiting, h => ⟨fun _ => finish_of_balanced h.balanced, fun _ _ => finish_of_dangling h⟩
  | fuel + 1, lefts, waiting, h => by
    constructor
    · intro cs
      rcases lexemes_due fuel cs with ⟨cause, hlex⟩ | ⟨x, rest, hlex⟩
      · rw [hlex]
        rintro ⟨⟩
      · rw [hlex, group]
        exact (group_of_dangling fuel h).2 x rest
    · intro top cs
      rcases lexemes_taken fuel cs with hlex | ⟨cause, hlex⟩ | ⟨rest, hlex⟩ | ⟨op, rest, hop, hlex⟩
      · rw [hlex]
        exact finish_of_dangling h
      · rw [hlex]
        rintro ⟨⟩
      · rw [hlex, group]
        split
        · rename_i s hpush
          obtain ⟨top', lefts', hoperands, hs⟩ := kept_dangling.close h hpush
          have hrest := (group_of_dangling fuel hs).2 top' rest
          rwa [← hoperands] at hrest
        · rintro ⟨⟩
      · rw [hlex, group]
        split
        · rename_i s hpush
          exact (group_of_dangling fuel (kept_dangling.push hop h hpush)).1 rest
        · rintro ⟨⟩

/-! ## What texts spell -/

/-- **An expression that a text can spell**: its constants are no documents, its variables have names, and its functions
take the arguments that they have. -/
inductive Spelled : Expr → Prop
  | literal {v : Value} (h : v.isJson = false) : Spelled (.literal v)
  | var {name : String} (hne : name.toList ≠ []) (h : ∀ c ∈ name.toList, Text.isIdentRest c = true) :
      Spelled (.var name)
  | call {f : Func} {args : List Expr} (haccepts : f.accepts args.length = true) (hargs : ∀ a ∈ args, Spelled a) :
      Spelled (.call f args)

theorem isJson_ofWord (w : List Char) : (Value.ofWord w).isJson = false := by
  unfold Value.ofWord
  repeat' split
  all_goals rfl

theorem spelled_of_atom (h : atom cs = .ok e) : Spelled e := by
  unfold atom at h
  split at h
  · cases h
    exact .literal rfl
  · rename_i c rest
    split at h
    · split at h
      · cases h
        exact .literal rfl
      · cases h
    · split at h
      · split at h
        · cases h
        · rename_i hname
          cases h
          simp only [Bool.or_eq_true, Bool.not_eq_true', not_or, Bool.not_eq_true, Bool.not_eq_false] at hname
          refine .var ?_ ?_
          · rw [String.toList_ofList]
            exact List.isEmpty_eq_false_iff.1 hname.1
          · rw [String.toList_ofList]
            exact List.all_eq_true.1 hname.2
      · cases h
        exact .literal (isJson_ofWord _)

/-- An operator takes two arguments, or it is the negation. -/
def IsOperator (f : Func) : Prop := f = .not ∨ f.accepts 2 = true

structure SpelledStacks (s : Stacks) : Prop where
  operands : ∀ e, some e ∈ s.operands → Spelled e
  waiting : ∀ f, .apply f ∈ s.waiting → IsOperator f

theorem spelled_reduce {operands operands' : List (Option Expr)} (hf : IsOperator f)
    (h : ∀ e, some e ∈ operands → Spelled e) (hreduce : reduce f operands = .ok operands') :
    ∀ e, some e ∈ operands' → Spelled e := by
  unfold reduce at hreduce
  split at hreduce
  · cases hreduce
  · rename_i b rest
    split at hreduce
    · rename_i hsign
      cases hreduce
      have hone : f.accepts 1 = true := by
        revert hsign
        cases f <;> decide
      intro e he
      rcases List.mem_cons.1 he with he | he
      · cases he
        exact .call hone (List.forall_mem_singleton.2 (h b List.mem_cons_self))
      · exact h e (List.mem_cons_of_mem _ (List.mem_cons_of_mem _ he))
    · cases hreduce
  · rename_i b a rest
    split at hreduce
    · cases hreduce
    · rename_i hnot
      cases hreduce
      intro e he
      rcases List.mem_cons.1 he with he | he
      · cases he
        refine .call (hf.resolve_left hnot) (List.forall_mem_cons.2 ⟨h a ?_, List.forall_mem_singleton.2 (h b ?_)⟩)
        · exact List.mem_cons_of_mem _ List.mem_cons_self
        · exact List.mem_cons_self
      · exact h e (List.mem_cons_of_mem _ (List.mem_cons_of_mem _ he))
  · cases hreduce

theorem spelled_reduceFrom {n : Nat} {s' : Stacks} : ∀ {waiting : List Operator} {operands : List (Option Expr)},
    SpelledStacks ⟨operands, waiting⟩ → reduceFrom n operands waiting = .ok s' → SpelledStacks s'
  | [], _, h, hreduce => by
    cases hreduce
    exact h
  | .opening :: _, _, h, hreduce => by
    cases hreduce
    exact h
  | .closing :: _, _, h, hreduce => by
    cases hreduce
    exact h
  | .apply f :: waiting, operands, h, hreduce => by
    rw [reduceFrom] at hreduce
    split at hreduce
    · split at hreduce
      · rename_i operands' hf
        have hrest : ∀ g, .apply g ∈ waiting → IsOperator g := fun g hg => h.waiting g (List.mem_cons_of_mem _ hg)
        have hoperands := spelled_reduce (h.waiting f List.mem_cons_self) h.operands hf
        exact spelled_reduceFrom ⟨hoperands, hrest⟩ hreduce
      · cases hreduce
    · cases hreduce
      exact h

theorem SpelledStacks.push {s s' : Stacks} {op : Operator} (h : SpelledStacks s)
    (hop : ∀ f, op = .apply f → IsOperator f) (hpush : s.push op = .ok s') : SpelledStacks s' := by
  have hcons : ∀ {s : Stacks}, SpelledStacks s → SpelledStacks ⟨s.operands, op :: s.waiting⟩ := fun hs =>
    ⟨hs.operands, fun f hf => (List.mem_cons.1 hf).elim (fun heq => hop f heq.symm) (hs.waiting f)⟩
  unfold Stacks.push at hpush
  split at hpush
  · split at hpush
    · cases hpush
    · cases hpush
      exact hcons (s := ⟨s.operands.tail, s.waiting⟩) ⟨fun e he => h.operands e (List.mem_of_mem_tail he), h.waiting⟩
  · unfold closeBracket at hpush
    split at hpush
    · cases hpush
    · rename_i operands waiting hreduce
      cases hpush
      have hs := spelled_reduceFrom h hreduce
      exact ⟨hs.operands, fun f hf => hs.waiting f (List.mem_cons_of_mem _ hf)⟩
    · cases hpush
  · split at hpush
    · cases hpush
      exact hcons h
    · split at hpush
      · cases hpush
      · rename_i s hreduce
        cases hpush
        exact hcons (spelled_reduceFrom h hreduce)

def SpelledLexeme : Lexeme → Prop
  | .operand (some e) => Spelled e
  | .operator (.apply f) => IsOperator f
  | _ => True

theorem spelled_group : ∀ {lexemes : List Lexeme} {s : Stacks}, (∀ l ∈ lexemes, SpelledLexeme l) → SpelledStacks s →
    group s lexemes = .ok e → Spelled e
  | [], s, _, h, hgroup => by
    rw [group, Stacks.finish] at hgroup
    split at hgroup
    · cases hgroup
    · cases hgroup
    · rename_i hreduce
      cases hgroup
      exact (spelled_reduceFrom h hreduce).operands e List.mem_cons_self
    · cases hgroup
    · cases hgroup
  | .operand x :: rest, s, hl, h, hgroup => by
    have hrest : ∀ l ∈ rest, SpelledLexeme l := fun l hmem => hl l (List.mem_cons_of_mem _ hmem)
    refine spelled_group (s := ⟨x :: s.operands, s.waiting⟩) hrest ⟨fun e he => ?_, h.waiting⟩ hgroup
    rcases List.mem_cons.1 he with he | he
    · subst he
      exact hl _ List.mem_cons_self
    · exact h.operands e he
  | .operator op :: rest, s, hl, h, hgroup => by
    rw [group] at hgroup
    split at hgroup
    · rename_i s' hpush
      refine spelled_group (fun l hmem => hl l (List.mem_cons_of_mem _ hmem)) (h.push (fun f hf => ?_) hpush) hgroup
      subst hf
      exact hl _ List.mem_cons_self
    · cases hgroup
  | .failed cause :: rest, s, hl, h, hgroup => by cases hgroup

theorem isOperator_of_operator? {more : List Char} (h : operator? cs = some (.apply f, more)) : IsOperator f := by
  obtain ⟨⟨sign, op⟩, hmem, hafter⟩ := List.exists_of_findSome?_eq_some h
  obtain ⟨rest, -, heq⟩ := Option.map_eq_some_iff.1 hafter
  cases heq
  have hall : ∀ p ∈ operators, ∀ g, p.2 = .apply g → IsOperator g := by
    unfold IsOperator
    simp [operators]
    decide
  exact hall _ hmem f rfl

structure ReadSpelled (fuel : Nat) : Prop where
  tree : ∀ cs e, parseTree fuel cs = .ok e → Spelled e
  lexemes : ∀ due cs, ∀ l ∈ lexemes fuel due cs, SpelledLexeme l
  arguments : ∀ texts args, parseArguments fuel texts = .ok args → ∀ a ∈ args, Spelled a

theorem spelled_failed (cause : ParseCause) : ∀ l ∈ [Lexeme.failed cause], SpelledLexeme l :=
  List.forall_mem_singleton.2 trivial

section Step

variable {fuel : Nat} (h : ReadSpelled fuel)
include h

theorem spelled_operand (cs : List Char) : ∀ l ∈ lexemes (fuel + 1) true cs, SpelledLexeme l := by
  rw [lexemes]
  split
  · exact spelled_failed _
  · split
    · exact List.forall_mem_cons.2 ⟨trivial, h.lexemes _ _⟩
    · split
      · rename_i hatom
        exact List.forall_mem_cons.2 ⟨spelled_of_atom hatom, h.lexemes _ _⟩
      · exact spelled_failed _
  · split
    · exact spelled_failed _
    · split
      split
      · exact spelled_failed _
      · exact spelled_failed _
      · rename_i hargs
        split
        · rename_i haccepts
          exact List.forall_mem_cons.2 ⟨.call haccepts (h.arguments _ _ hargs), h.lexemes _ _⟩
        · exact spelled_failed _

theorem spelled_operator (cs : List Char) : ∀ l ∈ lexemes (fuel + 1) false cs, SpelledLexeme l := by
  rw [lexemes]
  split
  · exact List.forall_mem_nil _
  · split
    · exact spelled_failed _
    · exact List.forall_mem_cons.2 ⟨trivial, h.lexemes _ _⟩
    · rename_i op after _ hop
      refine List.forall_mem_cons.2 ⟨?_, h.lexemes _ _⟩
      cases op with
      | apply f => exact isOperator_of_operator? hop
      | _ => trivial

theorem spelled_arguments {texts : List (List Char)} (hread : parseArguments (fuel + 1) texts = .ok args) :
    ∀ a ∈ args, Spelled a := by
  cases texts with
  | nil =>
    rw [parseArguments] at hread
    cases hread
    exact List.forall_mem_nil _
  | cons text texts =>
    rw [parseArguments] at hread
    split at hread
    · cases hread
    · rename_i e he
      split at hread
      · cases hread
      · rename_i es hes
        cases hread
        refine List.forall_mem_cons.2 ⟨?_, h.arguments _ _ hes⟩
        split at he
        · cases he
          exact .literal rfl
        · exact h.tree _ _ he

theorem spelled_tree (hread : parseTree (fuel + 1) cs = .ok e) : Spelled e := by
  rw [parseTree] at hread
  exact spelled_group (h.lexemes true cs) ⟨fun e he => (List.not_mem_nil he).elim,
    fun f hf => (List.not_mem_nil hf).elim⟩ hread

end Step

/-- **What is read has been spelled.** -/
theorem readSpelled : ∀ fuel : Nat, ReadSpelled fuel
  | 0 => by
    refine ⟨fun cs e h => ?_, fun due cs => ?_, fun texts args h => ?_⟩
    · cases h
    · cases due <;> exact List.forall_mem_nil _
    · cases h
  | fuel + 1 => by
    have h := readSpelled fuel
    refine ⟨fun cs e => spelled_tree h, fun due cs => ?_, fun texts args => spelled_arguments h⟩
    cases due with
    | true => exact spelled_operand h cs
    | false => exact spelled_operator h cs

/-- **Folding keeps an expression spelled.** -/
theorem Spelled.fold (h : Spelled e) : Spelled e.fold := by
  induction h with
  | literal h => exact .literal h
  | var hne h => exact .var hne h
  | @call f args haccepts _ ih =>
    have hfolded : ∀ a ∈ args.map Expr.fold, Spelled a := by
      intro a ha
      obtain ⟨b, hb, rfl⟩ := List.mem_map.1 ha
      exact ih b hb
    have hvalues : (args.map Expr.fold).all isLiteral = true → ∀ a ∈ args.map Expr.fold, NoJson (eval Env.empty a) := by
      intro hliterals a ha
      have hliteral := List.all_eq_true.1 hliterals a ha
      cases hfolded a ha with
      | literal h =>
        rw [eval]
        exact .ok h
      | var _ _ => cases hliteral
      | call _ _ => cases hliteral
    rw [Expr.fold, foldAll_eq_map, foldCall]
    have hcall : Spelled (.call f (args.map Expr.fold)) := by
      refine .call ?_ hfolded
      rwa [List.length_map]
    split
    · rename_i hfold
      obtain ⟨hf, hliterals⟩ := Bool.and_eq_true_iff.1 hfold
      split
      · rename_i v hv
        exact .literal (noJson_eval hf (hvalues hliterals) v hv)
      · exact hcall
    · exact hcall

/-- **What is built has been spelled**, and is folded. -/
theorem spelled_of_build {s : String} (h : build s = .ok e) : Spelled e ∧ ∃ e₀ : Expr, e = e₀.fold := by
  obtain ⟨e₀, ⟨fuel, -, hread⟩, rfl⟩ := exists_read_of_build h
  exact ⟨((readSpelled fuel).tree _ _ hread).fold, e₀, rfl⟩

/-! ## The three forms of a call -/

/-- The call is written with the name of its function: the function has no sign, or the call has neither one argument
nor two. -/
def IsNamed (f : Func) (args : List Expr) : Prop := f.symbol? = none ∨ args.length ≠ 1 ∧ args.length ≠ 2

theorem call_cases (h : f.accepts args.length = true) : IsNamed f args ∨ (∃ a, args = [a] ∧ 0 < level f) ∨
    ∃ a b, args = [a, b] ∧ isBinary f = true := by
  match args with
  | [] => exact .inl (.inr ⟨by simp, by simp⟩)
  | [a] =>
    by_cases hlevel : 0 < level f
    · exact .inr (.inl ⟨a, rfl, hlevel⟩)
    · refine .inl (.inl ?_)
      revert hlevel
      cases f <;> decide
  | [a, b] =>
    cases hbinary : isBinary f with
    | true => exact .inr (.inr ⟨a, b, rfl, rfl⟩)
    | false =>
      refine .inl (.inl ?_)
      revert h hbinary
      simp only [List.length_cons, List.length_nil]
      cases f <;> decide
  | _ :: _ :: _ :: _ => exact .inl (.inr ⟨by simp, by simp⟩)

theorem not_isNamed_sign (h : 0 < level f) : ¬IsNamed f [a] := by
  rintro (hnone | ⟨hone, -⟩)
  · revert h hnone
    cases f <;> decide
  · exact hone rfl

theorem not_isNamed_both (h : isBinary f = true) : ¬IsNamed f [a, b] := by
  rintro (hnone | ⟨-, htwo⟩)
  · revert h hnone
    cases f <;> decide
  · exact htwo rfl

theorem symbol?_of_level (h : 0 < level f) : f.symbol? = some (signOf f) := by
  revert h
  cases f <;> decide

theorem chars_sign (h : 0 < level f) (a : Expr) : (Expr.call f [a]).chars = (signOf f).toList ++ a.chars := by
  rw [Expr.chars, symbol?_of_level h]

theorem chars_both (h : 0 < level f) (a b : Expr) : (Expr.call f [a, b]).chars =
    '(' :: (a.chars ++ [' '] ++ ((signOf f).toList ++ ([' '] ++ b.chars)) ++ [')']) := by
  rw [Expr.chars, symbol?_of_level h]
  simp

theorem chars_named (h : IsNamed f args) :
    (Expr.call f args).chars = f.name.toList ++ '(' :: (argChars args ++ [')']) := by
  match args with
  | [] => simp [Expr.chars]
  | [a] =>
    rw [Expr.chars, h.resolve_right fun h => h.1 rfl]
    simp
  | [a, b] =>
    rw [Expr.chars, h.resolve_right fun h => h.2 rfl]
    simp
  | _ :: _ :: _ :: _ => simp [Expr.chars]

/-! ## Constants -/

def isWordChar (c : Char) : Bool := Text.isIdentRest c || c == '.' || c == ':'

theorem isWordChar_of_isDigit {c : Char} (h : Decimal.isDigit c = true) : isWordChar c = true := by
  rw [isWordChar, Text.isIdentRest_of_isDigit h]
  rfl

theorem not_mem_of_isWordChar {c : Char} (h : isWordChar c = true) : c ∉ '{' :: '?' :: ',' :: special :=
  Text.not_mem_of_test h (by decide)

theorem isPlain_of_isWordChar {c : Char} (h : isWordChar c = true) : isPlain c = true :=
  isPlain_of_not_special fun hc => not_mem_of_isWordChar h (by simp [hc])

theorem isBlank_of_isWordChar {c : Char} (h : isWordChar c = true) : Text.isBlank c = false := by
  simp only [isWordChar, Bool.or_eq_true, beq_iff_eq] at h
  rcases h with (h | rfl) | rfl
  · exact Text.isBlank_of_isIdentRest h
  · rfl
  · rfl

/-- A minus sign or none, and the rest of a constant that is written without quotes. -/
structure IsWord (sign body : List Char) : Prop where
  sign : sign = [] ∨ sign = ['-'] ∧ (body = ['i', 'n', 'f'] ∨ Term.startsWith Decimal.isDigit body = true)
  ne_nil : body ≠ []
  chars : ∀ c ∈ body, isWordChar c = true

theorem IsWord.of_digits {sign body : List Char} (hsign : sign = [] ∨ sign = ['-'])
    (hstart : Term.startsWith Decimal.isDigit body = true)
    (h : ∀ c ∈ body, Decimal.isDigit c = true ∨ c = '.' ∨ c = ':') : IsWord sign body where
  sign := hsign.imp_right fun hminus => ⟨hminus, .inr hstart⟩
  ne_nil := Term.startsWith_ne_nil hstart
  chars := fun c hc => by
    rcases h c hc with hc | rfl | rfl
    · exact isWordChar_of_isDigit hc
    · rfl
    · rfl

/-- **A constant that is no document** is a text, or it is written as a word. -/
theorem literal_cases {v : Value} (hjson : v.isJson = false) :
    (∃ s, v = .string s) ∨ v.isString = false ∧ ∃ sign body, v.display.toList = sign ++ body ∧ IsWord sign body := by
  have hword : ∀ {w : List Char}, w ≠ [] → w.all isWordChar = true → IsWord [] w := fun hne h =>
    ⟨.inl rfl, hne, List.all_eq_true.1 h⟩
  cases v with
  | bool b => cases b <;> exact .inr ⟨rfl, [], _, rfl, hword (by decide) (by decide)⟩
  | int n =>
    have hdigits : ∀ m, IsWord [] (Nat.toDigits 10 m) ∧ IsWord ['-'] (Nat.toDigits 10 m) := by
      intro m
      have h : ∀ c ∈ Nat.toDigits 10 m, Decimal.isDigit c = true := fun c => Decimal.isDigit_of_mem_toDigits
      have hstart := Term.startsWith_of_forall Nat.toDigits_ne_nil h
      refine ⟨.of_digits (.inl rfl) hstart ?_, .of_digits (.inr rfl) hstart ?_⟩ <;> exact fun c hc => .inl (h c hc)
    rw [Value.display, Int.toString_eq_repr, Decimal.toList_repr]
    cases n.toInt with
    | ofNat m => exact .inr ⟨rfl, [], _, rfl, (hdigits m).1⟩
    | negSucc m => exact .inr ⟨rfl, ['-'], _, rfl, (hdigits (m + 1)).2⟩
  | float x =>
    rw [Value.display]
    rcases Decimal.floatText_eq x with heq | ⟨sign, body, heq, hsign, hbody⟩
    · exact .inr ⟨rfl, [], _, heq, hword (by decide) (by decide)⟩
    · refine .inr ⟨rfl, sign, body, heq, ?_⟩
      rcases hbody with rfl | ⟨hstart, hchars⟩
      · exact ⟨hsign.imp_right fun hminus => ⟨hminus, .inl rfl⟩, by decide, List.all_eq_true.1 (by decide)⟩
      · exact .of_digits hsign hstart fun c hc => (hchars c hc).imp_right .inl
  | string s => exact .inl ⟨s, rfl⟩
  | timespan d =>
    rw [Value.toList_display_timespan]
    refine .inr ⟨rfl, [], _, rfl, .of_digits (.inl rfl) d.isDigit_chars fun c hc => ?_⟩
    rcases d.chars_kind c hc with (hc | rfl) | rfl
    · exact .inl hc
    · exact .inr (.inl rfl)
    · exact .inr (.inr rfl)
  | json j => cases hjson
  | null => exact .inr ⟨rfl, [], _, rfl, hword (by decide) (by decide)⟩

namespace IsWord

variable {sign body : List Char}

theorem atom_body (h : IsWord sign body) : atom body = .ok (.literal (Value.ofWord body)) := by
  obtain ⟨c, cs, rfl⟩ := List.exists_cons_of_ne_nil h.ne_nil
  have hc := not_mem_of_isWordChar (h.chars c List.mem_cons_self)
  simp only [special, List.mem_cons, not_or] at hc
  simp [atom, Text.isQuote, hc]

theorem tight (h : IsWord sign body) : Text.Tight (sign ++ body) := by
  refine .of_forall (List.append_ne_nil_of_right_ne_nil _ h.ne_nil) fun c hc => ?_
  rcases List.mem_append.1 hc with hc | hc
  · rcases h.sign with rfl | ⟨rfl, -⟩
    · cases hc
    · rw [List.mem_singleton.1 hc]
      rfl
  · exact isBlank_of_isWordChar (h.chars c hc)

theorem passes {d : Nat} (h : IsWord sign body) : Passes d (sign ++ body) := by
  refine .of_forall fun c hc hmem => ?_
  rcases List.mem_append.1 hc with hc | hc
  · rcases h.sign with rfl | ⟨rfl, -⟩
    · cases hc
    · rw [List.mem_singleton.1 hc] at hmem
      revert hmem
      decide
  · exact Text.not_mem_of_test (h.chars c hc) (by decide) hmem

/-- **A word is read as the constant that it spells**, but `-inf`. -/
theorem isAtom (h : IsWord sign body) (hfinite : sign = [] ∨ Term.startsWith Decimal.isDigit body = true)
    (hbefore : IsSpace before) (hafter : IsSpace after) :
    IsAtom (before ++ (sign ++ body ++ after)) (.literal (Value.ofWord (sign ++ body))) := by
  have hplain : ∀ c ∈ body, isPlain c = true := fun c hc => isPlain_of_isWordChar (h.chars c hc)
  have htight := h.tight
  rcases h.sign with rfl | ⟨rfl, -⟩
  · exact isAtom_word hbefore hafter hplain htight h.atom_body
  · have hdigit := hfinite.resolve_left (by decide)
    obtain ⟨d, ds, rfl⟩ := List.exists_cons_of_ne_nil h.ne_nil
    exact isAtom_negative hbefore hafter hdigit hplain htight rfl

end IsWord

/-! ## Quoted texts -/

theorem exists_digitChar : ∀ {n : Nat} {c : Char}, c ∈ Nat.toDigits 16 n → ∃ d, c = Nat.digitChar d := by
  intro n
  induction n using Nat.strongRecOn with
  | ind n ih =>
    intro c hc
    rw [Nat.toDigits_eq_if (by decide)] at hc
    split at hc
    · exact ⟨n, List.mem_singleton.1 hc⟩
    · rcases List.mem_append.1 hc with hc | hc
      · exact ih (n / 16) (by omega) hc
      · exact ⟨n % 16, List.mem_singleton.1 hc⟩

/-- **A character that is not read back** is written with an escape that stands for another character. -/
theorem quoteChar_of_not_readsBack {c : Char} (h : ¬Text.ReadsBack c) : ∃ d more, Text.quoteChar c = '\\' :: d :: more ∧
    d ∈ ['r', '0', 'u'] ∧ ∀ x ∈ more, x ≠ '"' ∧ x ≠ '\\' := by
  obtain ⟨hself, hread⟩ := not_or.1 h
  simp only [List.mem_cons, List.not_mem_nil, or_false, not_or] at hread
  obtain ⟨hquote, hslash, hfeed, htab⟩ := hread
  rw [Text.quoteChar, if_neg hquote, if_neg hslash, if_neg hfeed, if_neg htab] at hself ⊢
  split_ifs at hself ⊢
  · exact ⟨'r', [], rfl, by decide, List.forall_mem_nil _⟩
  · exact ⟨'0', [], rfl, by decide, List.forall_mem_nil _⟩
  · refine ⟨'u', _, rfl, by decide, fun x hx => ?_⟩
    rcases List.mem_cons.1 hx with rfl | hx
    · decide
    · rcases List.mem_append.1 hx with hx | hx
      · obtain ⟨d, rfl⟩ := exists_digitChar hx
        exact ⟨Nat.digitChar_ne _ rfl, Nat.digitChar_ne _ rfl⟩
      · rw [List.mem_singleton.1 hx]
        decide
  · exact absurd rfl hself

theorem quoteChar_cases (c : Char) : (Text.quoteChar c = [c] ∧ c ≠ '"' ∧ c ≠ '\\') ∨ c ∈ ['"', '\\', '\n', '\t'] ∨
    ¬Text.ReadsBack c := by
  by_cases hlisted : c ∈ ['"', '\\', '\n', '\t']
  · exact .inr (.inl hlisted)
  · by_cases hself : Text.quoteChar c = [c]
    · refine .inl ⟨hself, ?_, ?_⟩ <;> rintro rfl <;> exact hlisted (by decide)
    · exact .inr (.inr (not_or.2 ⟨hself, hlisted⟩))

theorem foldlM_quoteChar : ∀ cs : List Char,
    (cs.flatMap Text.quoteChar).foldlM Text.OpenQuote.next ⟨'"', false⟩ = some ⟨'"', false⟩
  | [] => rfl
  | c :: cs => by
    have hkept : ∀ {more : List Char}, (∀ x ∈ more, x ≠ '"' ∧ x ≠ '\\') →
        more.foldlM Text.OpenQuote.next ⟨'"', false⟩ = some ⟨'"', false⟩ := by
      intro more hmore
      induction more with
      | nil => rfl
      | cons x more ih =>
        obtain ⟨hquote, hslash⟩ := hmore x List.mem_cons_self
        rw [List.foldlM_cons, next_of_ne hquote hslash]
        exact ih fun y hy => hmore y (List.mem_cons_of_mem x hy)
    have hchar : (Text.quoteChar c).foldlM Text.OpenQuote.next ⟨'"', false⟩ = some ⟨'"', false⟩ := by
      rcases quoteChar_cases c with ⟨hself, hne⟩ | hlisted | hnot
      · rw [hself]
        exact hkept (List.forall_mem_singleton.2 hne)
      · simp only [List.mem_cons, List.not_mem_nil, or_false] at hlisted
        rcases hlisted with rfl | rfl | rfl | rfl <;> rfl
      · obtain ⟨d, more, hchars, -, hmore⟩ := quoteChar_of_not_readsBack hnot
        have hrest := hkept hmore
        rw [hchars]
        exact hrest
    rw [List.flatMap_cons, List.foldlM_append, hchar]
    exact foldlM_quoteChar cs

theorem unescape_of_readsBack {c : Char} (h : Text.ReadsBack c) (rest : List Char) :
    unescape (Text.quoteChar c ++ rest) = c :: unescape rest := by
  rcases quoteChar_cases c with ⟨hself, -, hslash⟩ | hlisted | hnot
  · rw [hself]
    exact unescape_cons hslash rest
  · simp only [List.mem_cons, List.not_mem_nil, or_false] at hlisted
    rcases hlisted with rfl | rfl | rfl | rfl <;> rfl
  · exact absurd h hnot

/-- **A quoted text is read as itself** if all of its characters are. -/
theorem unescape_flatMap : ∀ {cs : List Char}, unescape (cs.flatMap Text.quoteChar) = cs ↔ ∀ c ∈ cs, Text.ReadsBack c
  | [] => ⟨fun _ => List.forall_mem_nil _, fun _ => rfl⟩
  | c :: cs => by
    rw [List.flatMap_cons, List.forall_mem_cons]
    by_cases hc : Text.ReadsBack c
    · rw [unescape_of_readsBack hc, List.cons_inj_right, unescape_flatMap]
      exact ⟨fun h => ⟨hc, h⟩, And.right⟩
    · refine ⟨fun h => ?_, fun h => absurd h.1 hc⟩
      obtain ⟨d, more, hchars, hd, -⟩ := quoteChar_of_not_readsBack hc
      simp only [List.mem_cons, List.not_mem_nil, or_false] at hd
      rw [hchars] at h
      rcases hd with rfl | rfl | rfl <;> exact absurd (by decide) ((List.cons.inj h).1 ▸ hc)

/-! ## The ends of texts -/

def opens (c : Char) : Bool := !Text.isBlank c && c != '=' && c != '{'

theorem opens_of_isWordChar {c : Char} (h : isWordChar c = true) : opens c = true := by
  have hnot := not_mem_of_isWordChar h
  simp only [special, List.mem_cons, not_or] at hnot
  simp [opens, isBlank_of_isWordChar h, hnot]

theorem IsWord.opens {sign body : List Char} (h : IsWord sign body) :
    Term.startsWith Expr.opens (sign ++ body) = true := by
  rcases h.sign with rfl | ⟨rfl, -⟩
  · exact Term.startsWith_of_forall h.ne_nil fun c hc => opens_of_isWordChar (h.chars c hc)
  · rfl

theorem opens_name (f : Func) : Term.startsWith opens f.name.toList = true := by
  cases f <;> decide

theorem isIdentRest_name (f : Func) : ∀ c ∈ f.name.toList, Text.isIdentRest c = true := by
  refine List.all_eq_true.1 ?_
  cases f <;> decide

theorem opens_sign (hlevel : 0 < level f) (haccepts : f.accepts 1 = true) :
    Term.startsWith opens (signOf f).toList = true := by
  revert hlevel haccepts
  cases f <;> decide

theorem passes_signOf (f : Func) {d : Nat} : Passes d (signOf f).toList := by
  have hsign : (signOf f).toList.all (fun c => decide (c ∉ ['"', '\'', '(', ')', ','])) = true := by
    cases f <;> decide
  exact .of_forall fun c hc => of_decide_eq_true (List.all_eq_true.1 hsign c hc)

theorem Apart.of_opens (h : Term.startsWith opens cs = true) : Apart f cs := by
  intro _ hequals
  cases cs with
  | nil => cases h
  | cons c cs =>
    cases hequals
    cases h

theorem Spelled.opens (h : Spelled e) : Term.startsWith opens e.chars = true := by
  induction h with
  | @literal v h =>
    rw [Expr.chars]
    rcases literal_cases h with ⟨s, rfl⟩ | ⟨-, sign, body, hchars, hword⟩
    · rw [Value.toList_display_string]
      rfl
    · rw [hchars]
      exact hword.opens
  | var _ _ => rfl
  | call haccepts _ ih =>
    rcases call_cases haccepts with hnamed | ⟨a, rfl, hlevel⟩ | ⟨a, b, rfl, hbinary⟩
    · rw [chars_named hnamed]
      exact Term.startsWith_append _ (opens_name _)
    · rw [chars_sign hlevel]
      exact Term.startsWith_append _ (opens_sign hlevel haccepts)
    · rw [chars_both (Binary.level_pos ⟨_, hbinary⟩)]
      rfl

theorem Spelled.finish (h : Spelled e) : Term.startsWith (!Text.isBlank ·) e.chars.reverse = true := by
  induction h with
  | @literal v h =>
    rw [Expr.chars]
    rcases literal_cases h with ⟨s, rfl⟩ | ⟨-, sign, body, hchars, hword⟩
    · rw [Value.toList_display_string]
      exact Term.finish_append ('"' :: s.toList.flatMap Text.quoteChar) rfl
    · rw [hchars]
      exact hword.tight.finish
  | @var name hne h =>
    refine Term.finish_append ['?'] (Term.finish_of_forall hne fun c hc => ?_)
    rw [Text.isBlank_of_isIdentRest (h c hc)]
    rfl
  | @call f args haccepts _ ih =>
    have hbracket : ∀ cs : List Char, Term.startsWith (!Text.isBlank ·) (cs ++ [')']).reverse = true := fun cs =>
      Term.finish_append cs rfl
    rcases call_cases haccepts with hnamed | ⟨a, rfl, hlevel⟩ | ⟨a, b, rfl, hbinary⟩
    · rw [chars_named hnamed]
      exact Term.finish_append _ (hbracket ('(' :: argChars args))
    · rw [chars_sign hlevel]
      exact Term.finish_append _ (ih a List.mem_cons_self)
    · rw [chars_both (Binary.level_pos ⟨_, hbinary⟩)]
      exact hbracket ('(' :: _)

theorem Spelled.tight (h : Spelled e) : Text.Tight e.chars where
  start := Term.startsWith_imp h.opens fun c hc => by
    simp only [Expr.opens, Bool.and_eq_true] at hc
    exact hc.1.1
  finish := h.finish

theorem argChars_cons (a : Expr) {args : List Expr} (hne : args ≠ []) :
    argChars (a :: args) = a.chars ++ ',' :: ([' '] ++ argChars args) := by
  cases args with
  | nil => exact absurd rfl hne
  | cons b args => rfl

theorem passes_argChars : ∀ {args : List Expr}, (∀ a ∈ args, Passes 0 a.chars) → Passes 1 (argChars args)
  | [], _ => .nil
  | [a], h => (h a List.mem_cons_self).mono
  | a :: b :: args, h => by
    rw [argChars_cons a (List.cons_ne_nil b args)]
    refine (h a List.mem_cons_self).mono.append (.cons .comma ?_)
    exact .append (.single (by decide)) (passes_argChars fun c hc => h c (List.mem_cons_of_mem a hc))

/-- **The text of an expression is passed over** as a part of an argument. -/
theorem Spelled.passes (h : Spelled e) : Passes 0 e.chars := by
  induction h with
  | @literal v h =>
    rw [Expr.chars]
    rcases literal_cases h with ⟨s, rfl⟩ | ⟨-, sign, body, hchars, hword⟩
    · rw [Value.toList_display_string]
      exact .quoted rfl (foldlM_quoteChar s.toList)
    · rw [hchars]
      exact hword.passes
  | @var name _ h =>
    refine .cons (.single (by decide)) (.of_forall fun c hc => ?_)
    exact Text.not_mem_of_test (h c hc) (by decide)
  | @call f args haccepts _ ih =>
    have hbracket : ∀ {cs : List Char}, Passes 1 cs → Passes 0 ('(' :: (cs ++ [')'])) := Passes.bracket
    have hblank : ∀ {d : Nat}, Passes d [' '] := .single (by decide)
    rcases call_cases haccepts with hnamed | ⟨a, rfl, hlevel⟩ | ⟨a, b, rfl, hbinary⟩
    · rw [chars_named hnamed]
      refine .append (.of_forall fun c hc => ?_) (hbracket (passes_argChars ih))
      exact Text.not_mem_of_test (isIdentRest_name f c hc) (by decide)
    · rw [chars_sign hlevel]
      exact .append (passes_signOf f) (ih a List.mem_cons_self)
    · have hlevel := Binary.level_pos ⟨f, hbinary⟩
      have ha := (ih a List.mem_cons_self).mono (d := 1)
      have hb := (ih b (by simp)).mono (d := 1)
      rw [chars_both hlevel]
      exact hbracket ((ha.append hblank).append ((passes_signOf f).append (hblank.append hb)))

/-! ## What is kept -/

/-- **What an expression is as an operand**: its signs, and the rest. -/
def tree : Expr → Tree
  | .call f [a] => if h : isSign f = true then .sign ⟨f, h⟩ a.tree else .leaf (.call f [a])
  | e => .leaf e

theorem expr_tree : ∀ e : Expr, e.tree.expr = e
  | .literal _ | .var _ | .call _ [] | .call _ (_ :: _ :: _) => rfl
  | .call f [a] => by
    rw [tree]
    split
    · rw [Tree.expr, expr_tree a]
    · rfl

theorem tree_sign (f : Sign) (a : Expr) : (Expr.call f [a]).tree = .sign f a.tree := by
  rw [tree, dif_pos f.2]

/-- **An expression that is built again from its text**: its constants are read from theirs, no minus sign stands before
a digit, no sign on the left of an operator takes the operation under it, and only signs of one operand have one. -/
inductive Lasting : Expr → Prop
  | literal {v : Value} (h : v.Lasting) : Lasting (.literal v)
  | var (name : String) : Lasting (.var name)
  | sign (f : Sign) {a : Expr} (hdigit : f.1 = .sub → Term.startsWith Decimal.isDigit a.chars = false)
      (ha : Lasting a) : Lasting (.call f [a])
  | both (g : Binary) {a b : Expr} (ha : Lasting a) (hb : Lasting b) (hleft : a.tree.waits (level g) = false) :
      Lasting (.call g [a, b])
  | named {f : Func} {args : List Expr} (h : IsNamed f args) (hargs : ∀ a ∈ args, Lasting a) : Lasting (.call f args)

theorem Lasting.of_sign (hlevel : 0 < level f) (h : (Expr.call f [a]).Lasting) : isSign f = true ∧
    (f = .sub → Term.startsWith Decimal.isDigit a.chars = false) ∧ a.Lasting := by
  cases h with
  | sign f hdigit ha => exact ⟨f.2, hdigit, ha⟩
  | named h _ => exact absurd h (not_isNamed_sign hlevel)

theorem Lasting.of_both (hbinary : isBinary f = true) (h : (Expr.call f [a, b]).Lasting) :
    a.Lasting ∧ b.Lasting ∧ a.tree.waits (level f) = false := by
  cases h with
  | both g ha hb hleft => exact ⟨ha, hb, hleft⟩
  | named h _ => exact absurd h (not_isNamed_both hbinary)

theorem isSign_level (h : isSign f = true) : 0 < level f := Sign.level_pos ⟨f, h⟩

theorem tree_named (h : IsNamed f args) : (Expr.call f args).tree = .leaf (.call f args) := by
  match args with
  | [] => rfl
  | [a] => rw [tree, dif_neg fun hsign => not_isNamed_sign (isSign_level hsign) h]
  | _ :: _ :: _ => rfl

theorem Lasting.of_named (hnamed : IsNamed f args) (h : (Expr.call f args).Lasting) : ∀ a ∈ args, a.Lasting := by
  cases h with
  | sign f _ _ => exact absurd hnamed (not_isNamed_sign f.level_pos)
  | both g _ _ _ => exact absurd hnamed (not_isNamed_both g.2)
  | named _ hargs => exact hargs

/-! ## What is not read -/

/-- No expression with this text as its next operand is read, wherever an operand is due. -/
def Unread (text : List Char) : Prop := ∀ rest, Ends rest → ∀ fuel, 4 * text.length + 1 ≤ fuel → ∀ s : Stacks,
  Balanced s.operands s.waiting → ∀ e, group s (lexemes fuel true (text ++ rest)) ≠ .ok e

theorem dangling_push {s' : Stacks} (h : Balanced lefts waiting) (hf : isSign f = false)
    (hpush : (Stacks.mk (none :: lefts) waiting).push (.apply f) = .ok s') : Dangling s'.operands s'.waiting := by
  have hreduce : ∀ s, reduceFrom (level f) (none :: lefts) waiting = .ok s → s = ⟨none :: lefts, waiting⟩ := by
    intro s hs
    cases h with
    | nil => exact (Except.ok.inj hs).symm
    | opening _ => exact (Except.ok.inj hs).symm
    | apply x g _ =>
      rw [reduceFrom] at hs
      split at hs
      · cases hs
      · exact (Except.ok.inj hs).symm
  rw [Stacks.push, hf] at hpush
  simp only at hpush
  split at hpush
  · cases hpush
  · rename_i s hs
    cases hpush
    rw [hreduce s hs]
    exact .here hf h

/-- Where an operand is due, a sign has nothing on its left. -/
theorem lexemes_sign_due (hbefore : IsSpace before) (hlevel : 0 < level f) (hopens : Term.startsWith opens cs = true)
    (hnumber : f = .sub → Term.startsWith Decimal.isDigit cs = false) (fuel : Nat) :
    lexemes (fuel + 2) true (before ++ ((signOf f).toList ++ cs)) =
      .operand none :: .operator (.apply f) :: lexemes fuel true cs := by
  have happart : Apart f cs := .of_opens hopens
  have hstarts : startsNumber ((signOf f).toList ++ cs) = false := by
    obtain ⟨c, cs, rfl⟩ := List.exists_cons_of_ne_nil (Term.startsWith_ne_nil hopens)
    cases f with
    | sub => exact hnumber rfl
    | _ => first | rfl | cases hlevel
  rw [lexemes_blank hbefore (operator?_sign hlevel happart) hstarts, lexemes_sign hlevel happart]

/-- **A sign that is none of one operand** is not read with one. -/
theorem unread_sign (hbefore : IsSpace before) (hlevel : 0 < level f) (hsign : isSign f = false)
    (hopens : Term.startsWith opens cs = true) : Unread (before ++ ((signOf f).toList ++ cs)) := by
  intro rest _ fuel hfuel s hs e hread
  have hlength := length_signOf_pos hlevel
  simp only [List.length_append] at hfuel
  obtain ⟨fuel, rfl⟩ := Nat.exists_eq_add_of_le' (show 2 ≤ fuel by omega)
  rw [List.append_assoc, List.append_assoc, lexemes_sign_due hbefore hlevel (Term.startsWith_append rest hopens), group,
    group] at hread
  · split at hread
    · rename_i s' hpush
      exact (group_of_dangling fuel (dangling_push hs hsign hpush)).1 _ hread
    · cases hread
  · rintro rfl
    cases hsign

theorem Unread.sign (hbefore : IsSpace before) (hsign : isSign f = true)
    (hopens : Term.startsWith opens cs = true) (hnumber : f = .sub → Term.startsWith Decimal.isDigit cs = false)
    (h : Unread cs) : Unread (before ++ ((signOf f).toList ++ cs)) := by
  intro rest hrest fuel hfuel s hs e hread
  have hlevel : 0 < level f := Sign.level_pos ⟨f, hsign⟩
  have hlength := length_signOf_pos hlevel
  simp only [List.length_append] at hfuel
  obtain ⟨fuel, rfl⟩ := Nat.exists_eq_add_of_le' (show 2 ≤ fuel by omega)
  have hpush : (Stacks.mk (none :: s.operands) s.waiting).push (.apply f) =
      .ok ⟨none :: s.operands, .apply f :: s.waiting⟩ := by
    simp only [Stacks.push, hsign]
  rw [List.append_assoc, List.append_assoc, lexemes_sign_due hbefore hlevel (Term.startsWith_append rest hopens), group,
    group, hpush] at hread
  · exact h rest hrest fuel (by omega) _ (.apply none f hs) e hread
  · intro hf
    rw [Term.startsWith_append_eq _ (Term.startsWith_ne_nil hopens)]
    exact hnumber hf

theorem Unread.left (g : Binary) (happart : Apart g.1 cs') (hne : cs' ≠ []) (h : Unread cs) :
    Unread (cs ++ ((signOf g).toList ++ cs')) := by
  intro rest _ fuel hfuel s hs e
  have hends : Ends ((signOf g).toList ++ (cs' ++ rest)) := ends_sign g.level_pos (happart.append hne rest)
  simp only [List.length_append] at hfuel
  rw [List.append_assoc, List.append_assoc]
  exact h _ hends fuel (by omega) s hs e

theorem Unread.right {o : Operand} (ho : o.Legible) (g : Binary) (happart : Apart g.1 cs) (hne : cs ≠ [])
    (h : Unread cs) : Unread (o.chars ++ ((signOf g).toList ++ cs)) := by
  intro rest hrest fuel hfuel s hs e hread
  have happart := happart.append hne rest
  have hsign := length_signOf_pos g.level_pos
  have hlexemes := ho.length_lexemes
  simp only [List.length_append] at hfuel
  obtain ⟨left, hleft⟩ := Nat.exists_eq_add_of_le (show o.lexemes.length + 1 ≤ fuel by omega)
  have hfuel' : fuel = left + 1 + o.lexemes.length := by omega
  rw [hfuel', List.append_assoc, List.append_assoc, lexemes_operand ho (ends_sign g.level_pos happart) (by omega),
    lexemes_sign g.level_pos happart, group_operand, group] at hread
  obtain ⟨top, lefts, hoperands, hbalanced⟩ := Balanced.load o.tree hs
  generalize o.tree.load s = s' at hread hoperands hbalanced
  obtain ⟨operands, waiting⟩ := s'
  obtain rfl : operands = top :: lefts := hoperands
  split at hread
  · rename_i s'' hpush
    have hop : Operator.apply g.1 ≠ .closing := by rintro ⟨⟩
    exact h rest hrest left (by omega) s'' (kept_balanced.push hop hbalanced hpush) e hread
  · cases hread

theorem Unread.bracket (hbefore : IsSpace before) (h : Unread cs) :
    Unread (before ++ '(' :: (cs ++ ')' :: after)) := by
  intro rest _ fuel hfuel s hs e hread
  have hends : Ends (')' :: (after ++ rest)) := .inr ⟨.closing, after ++ rest, rfl, by rintro ⟨⟩⟩
  have hop : operator? ('(' :: (cs ++ ')' :: (after ++ rest))) = some (.opening, _) := rfl
  simp only [List.length_append, List.length_cons] at hfuel
  obtain ⟨fuel, rfl⟩ := Nat.exists_eq_add_of_le' (show 2 ≤ fuel by omega)
  simp only [List.append_assoc, List.cons_append] at hread
  rw [lexemes_blank hbefore hop rfl, lexemes_opening, group, group, Stacks.push] at hread
  exact h _ hends fuel (by omega) ⟨s.operands, .opening :: s.waiting⟩ (.opening hs) e hread

theorem Unread.not_read (h : Unread cs) : ¬Read cs e := by
  rintro ⟨fuel, hfuel, hread⟩
  obtain ⟨fuel, rfl⟩ := Nat.exists_eq_add_of_le' (show 1 ≤ fuel by omega)
  have hnone := h [] (.inl rfl) fuel (by omega) ⟨[], []⟩ .nil e
  rw [List.append_nil] at hnone
  rw [parseTree, ofLexemes] at hread
  exact hnone hread

/-! ## Calls by name -/

theorem ofChars?_name (f : Func) : Func.ofChars? f.name.toList = some f := by
  cases f <;> decide +kernel

/-- **The arguments of a call are cut where they were written.** -/
theorem arguments_argChars (rest : List Char) : ∀ {args : List Expr} {before : List Char}, IsSpace before → args ≠ [] →
    (∀ a ∈ args, Spelled a) →
      arguments 0 none [] (before ++ (argChars args ++ ')' :: rest)) = (args.map Expr.chars, some rest)
  | [], _, _, hne, _ => absurd rfl hne
  | a :: args, before, hbefore, _, h => by
    have ha := h a List.mem_cons_self
    have hspace : Passes 0 before := .of_forall fun c hc => Text.not_mem_of_test (hbefore c hc) (by decide)
    have hpasses : Passes 0 (before ++ a.chars) := hspace.append ha.passes
    have htrim : Text.trim (before ++ a.chars) = a.chars := by
      have htrim := Text.trim_tight ha.tight hbefore isSpace_nil
      rwa [List.append_nil] at htrim
    cases args with
    | nil =>
      have hlast := arguments_last hpasses rest
      rw [htrim, List.append_assoc] at hlast
      exact hlast
    | cons b args =>
      have hrest : arguments 0 none [] ([' '] ++ (argChars (b :: args) ++ ')' :: rest)) = (_, some rest) :=
        arguments_argChars rest isSpace_single (List.cons_ne_nil _ _) fun c hc => h c (List.mem_cons_of_mem a hc)
      have hnext := arguments_next hpasses ([' '] ++ (argChars (b :: args) ++ ')' :: rest))
      rw [htrim, hrest] at hnext
      rw [argChars_cons a (List.cons_ne_nil _ _)]
      simpa using hnext

theorem isPlain_name (f : Func) : ∀ c ∈ f.name.toList, isPlain c = true := fun c hc =>
  isPlain_of_isIdentRest (isIdentRest_name f c hc)

theorem tight_name (f : Func) : Text.Tight f.name.toList :=
  .of_forall (Term.startsWith_ne_nil (opens_name f)) fun c hc => Text.isBlank_of_isIdentRest (isIdentRest_name f c hc)

theorem map_chars_ne (h : ∀ a ∈ args, Spelled a) : args.map Expr.chars ≠ [[]] := by
  intro heq
  cases args with
  | nil => cases heq
  | cons a args => exact (h a List.mem_cons_self).tight.ne_nil (List.cons.inj heq).1

theorem readOperand_name (hbefore : IsSpace before) (f : Func) (cs : List Char) :
    readOperand [] none (before ++ (f.name.toList ++ '(' :: cs)) = .callOf f.name.toList cs := by
  have hread := readOperand_call hbefore isSpace_nil (isPlain_name f) (tight_name f) cs
  rwa [List.append_nil, List.append_assoc] at hread

/-- **A call with an argument that is not read** is not read itself. -/
theorem unread_named (hbefore : IsSpace before) (hargs : ∀ a ∈ args, Spelled a) (ha : a ∈ args) (h : Unread a.chars) :
    Unread (before ++ (f.name.toList ++ '(' :: (argChars args ++ ')' :: after))) := by
  intro rest _ fuel hfuel s _ e hread
  have hsplit : ∀ rest, arguments 0 none [] (argChars args ++ ')' :: rest) = (args.map Expr.chars, some rest) :=
    fun rest => arguments_argChars rest isSpace_nil (List.ne_nil_of_mem ha) hargs
  have hlength : extent (args.map Expr.chars) ≤ (argChars args).length + 1 := by
    have hextent := extent_arguments 0 none [] (argChars args ++ [')'])
    rw [hsplit] at hextent
    simpa using hextent
  simp only [List.length_append, List.length_cons] at hfuel
  obtain ⟨fuel, rfl⟩ := Nat.exists_eq_add_of_le' (show 1 ≤ fuel by omega)
  have hname := readOperand_name hbefore f (argChars args ++ ')' :: (after ++ rest))
  have hne : args.map Expr.chars ≠ [[]] := map_chars_ne hargs
  simp only [List.append_assoc, List.cons_append] at hread
  rw [lexemes, hname] at hread
  simp only [ofChars?_name, hsplit, hne, decide_false, Bool.false_and, Bool.false_eq_true, if_false] at hread
  cases hparse : parseArguments fuel (args.map Expr.chars) with
  | error cause =>
    rw [hparse] at hread
    cases hread
  | ok es =>
    have hforall := forall₂_read (by omega) hparse fun t ht => by
      obtain ⟨b, hb, rfl⟩ := List.mem_map.1 ht
      exact (hargs b hb).tight.ne_nil
    obtain ⟨i, hi, heq⟩ := List.getElem_of_mem (List.mem_map_of_mem (f := Expr.chars) ha)
    have hget := hforall.get hi (hforall.length_eq ▸ hi)
    rw [List.get_eq_getElem, heq] at hget
    exact h.not_read hget

/-! ## What is read -/

/-- **An operand is what the text of an expression is read as**, with white space around it; it is the expression just
if the expression lasts. -/
structure Operand.Rereads (o : Operand) (e : Expr) (before after : List Char) : Prop where
  legible : o.Legible
  chars : o.chars = before ++ (e.chars ++ after)
  lasting : o.tree.expr.fold = e → e.Lasting
  tree : e.Lasting → o.tree = e.tree

theorem Operand.Rereads.chars_eq {o : Operand} (h : o.Rereads e [] []) : o.chars = e.chars := by
  have hchars := h.chars
  rwa [List.nil_append, List.append_nil] at hchars

/-- **What the text of an expression comes to**: an operand, or nothing if the expression does not last. -/
def Reread (e : Expr) (before after : List Char) : Prop :=
  (∃ o : Operand, o.Rereads e before after) ∨ Unread (before ++ (e.chars ++ after)) ∧ ¬e.Lasting

theorem Tree.extend_of_not_waits {g : Binary} {t r : Tree} (h : t.waits (level g) = false) :
    t.extend g r = .both g t r := by
  cases t with
  | leaf e => rfl
  | _ => rw [Tree.extend, h, if_neg Bool.false_ne_true]

/-- **An operation goes under a sign** at the root of its left operand that waits for it. -/
theorem Operand.exists_sign {o : Operand} {g : Binary} (h : o.tree.waits (level g) = true) (r : Tree) :
    ∃ (f : Sign) (e : Expr), (o.tree.extend g r).expr = .call f [e] := by
  cases o with
  | atom text e => cases h
  | bracket before inner after => cases h
  | sign before f o =>
    refine ⟨f, (o.tree.extend g r).expr, ?_⟩
    rw [Operand.tree] at h ⊢
    rw [Tree.extend, h, if_pos rfl, Tree.expr]

theorem startsWith_digit_name (f : Func) (cs : List Char) :
    Term.startsWith Decimal.isDigit (f.name.toList ++ cs) = false := by
  cases f <;> rfl

theorem startsWith_digit_sign (h : 0 < level f) (cs : List Char) :
    Term.startsWith Decimal.isDigit ((signOf f).toList ++ cs) = false := by
  cases f <;> first | rfl | cases h

/-- **A text that starts with a digit** is that of a constant, and with a minus sign before it, it is still one. -/
theorem Spelled.exists_digit (h : Spelled e) (hdigit : Term.startsWith Decimal.isDigit e.chars = true) :
    ∃ v, e = .literal v ∧ IsWord ['-'] e.chars := by
  cases h with
  | @literal v hjson =>
    refine ⟨v, rfl, ?_⟩
    rw [Expr.chars] at hdigit ⊢
    rcases literal_cases hjson with ⟨s, rfl⟩ | ⟨-, sign, body, hchars, hword⟩
    · rw [Value.toList_display_string] at hdigit
      cases hdigit
    · rw [hchars] at hdigit ⊢
      rcases hword.sign with rfl | ⟨rfl, -⟩
      · exact ⟨.inr ⟨rfl, .inr hdigit⟩, hword.ne_nil, hword.chars⟩
      · cases hdigit
  | var _ _ => cases hdigit
  | call haccepts _ =>
    rcases call_cases haccepts with hnamed | ⟨a, rfl, hlevel⟩ | ⟨a, b, rfl, hbinary⟩
    · rw [chars_named hnamed, startsWith_digit_name] at hdigit
      cases hdigit
    · rw [chars_sign hlevel, startsWith_digit_sign hlevel] at hdigit
      cases hdigit
    · rw [chars_both (Binary.level_pos ⟨_, hbinary⟩)] at hdigit
      cases hdigit

theorem rereads_cases : ∀ {args : List Expr}, (∀ a ∈ args, Reread a [] []) →
    (∃ os : List Operand, List.Forall₂ (fun o a => Operand.Rereads o a [] []) os args) ∨
      ∃ a ∈ args, Unread a.chars ∧ ¬a.Lasting
  | [], _ => .inl ⟨[], .nil⟩
  | a :: args, h => by
    rcases h a List.mem_cons_self with ⟨o, ho⟩ | ⟨hunread, hlasting⟩
    · rcases rereads_cases fun b hb => h b (List.mem_cons_of_mem a hb) with ⟨os, hos⟩ | ⟨b, hb, hunread⟩
      · exact .inl ⟨o :: os, .cons ho hos⟩
      · exact .inr ⟨b, List.mem_cons_of_mem a hb, hunread⟩
    · rw [List.append_nil] at hunread
      exact .inr ⟨a, List.mem_cons_self, hunread, hlasting⟩

section Arguments

variable {os : List Operand} (h : List.Forall₂ (fun o a => Operand.Rereads o a [] []) os args)
include h

theorem forall₂_rereads : List.Forall₂ Argument (args.map Expr.chars) (os.map fun o => o.tree.expr) := by
  induction h with
  | nil => exact .nil
  | @cons o a os args ho _ ih =>
    refine .cons ?_ ih
    have harg : Argument o.chars o.tree.expr := .chain (c := .one o) ho.legible
    rwa [ho.chars_eq] at harg

theorem lasting_of_rereads (hread : (os.map fun o => o.tree.expr).map Expr.fold = args) : ∀ a ∈ args, a.Lasting := by
  induction h with
  | nil => exact List.forall_mem_nil _
  | cons ho _ ih =>
    obtain ⟨hfirst, hrest⟩ := List.cons.inj hread
    exact List.forall_mem_cons.2 ⟨ho.lasting hfirst, ih hrest⟩

theorem rereads_of_lasting (hlasting : ∀ a ∈ args, a.Lasting) : (os.map fun o => o.tree.expr) = args := by
  induction h with
  | nil => rfl
  | cons ho _ ih =>
    obtain ⟨ha, hrest⟩ := List.forall_mem_cons.1 hlasting
    rw [List.map_cons, ih hrest, ho.tree ha, expr_tree]

end Arguments

theorem Operand.Rereads.sign (hbefore : IsSpace before) (f : Sign) {o : Operand} (h : o.Rereads a [] after)
    (ha : Spelled a) (hdigit : f.1 = .sub → Term.startsWith Decimal.isDigit a.chars = false) :
    (Operand.sign before f o).Rereads (.call f [a]) before after where
  legible := by
    have hchars : o.chars = a.chars ++ after := h.chars
    refine ⟨hbefore, ?_, ?_, h.legible⟩
    · rw [hchars]
      exact .of_opens (Term.startsWith_append after ha.opens)
    · rw [hchars, Term.startsWith_append_eq _ ha.tight.ne_nil]
      exact hdigit
  chars := by
    have hchars : o.chars = a.chars ++ after := h.chars
    rw [Operand.chars, hchars, chars_sign f.level_pos, List.append_assoc]
  lasting := fun hread => .sign f hdigit (h.lasting (List.cons.inj (fold_eq_call hread).2).1)
  tree := fun hread => by rw [Operand.tree, h.tree (hread.of_sign f.level_pos).2.2, tree_sign]

section Forms

variable (hbefore : IsSpace before) (hafter : IsSpace after)
include hbefore hafter

theorem reread_string (s : String) : Reread (.literal (.string s)) before after := by
  have hatom := isAtom_quoted hbefore hafter rfl (foldlM_quoteChar s.toList)
  refine .inl ⟨.atom _ _, hatom, ?_, fun h => ?_, fun h => ?_⟩
  · rw [Operand.chars, Expr.chars, Value.toList_display_string]
  · have hread := congrArg String.toList (Value.string.inj (Expr.literal.inj h))
    rw [String.toList_ofList] at hread
    exact .literal (Value.lasting_string.2 (unescape_flatMap.1 hread))
  · cases h with
    | literal h =>
      rw [Operand.tree, unescape_flatMap.2 (Value.lasting_string.1 h), String.ofList_toList]
      rfl

theorem reread_word {v : Value} {sign body : List Char} (hjson : v.isJson = false) (hstring : v.isString = false)
    (hchars : v.display.toList = sign ++ body) (h : IsWord sign body) : Reread (.literal v) before after := by
  have hiff := Value.lasting_iff hjson hstring
  rw [hchars] at hiff
  have hlasting : (Expr.literal v).Lasting → Value.ofWord (sign ++ body) = v := by
    intro h
    cases h with
    | literal h => exact hiff.1 h
  by_cases hfinite : sign = [] ∨ Term.startsWith Decimal.isDigit body = true
  · refine .inl ⟨.atom _ _, h.isAtom hfinite hbefore hafter, ?_, fun hread => ?_, fun hread => ?_⟩
    · rw [Operand.chars, Expr.chars, hchars]
    · exact .literal (hiff.2 (Expr.literal.inj hread))
    · rw [Operand.tree, hlasting hread]
      rfl
  · -- a minus sign before `inf` is an operator
    obtain ⟨hsign, hdigit⟩ := not_or.1 hfinite
    obtain ⟨rfl, hinf⟩ := h.sign.resolve_left hsign
    obtain rfl := hinf.resolve_right hdigit
    have hbody : IsWord [] ['i', 'n', 'f'] := ⟨.inl rfl, h.ne_nil, h.chars⟩
    have hatom := hbody.isAtom (.inl rfl) isSpace_nil hafter
    have hlegible : (Operand.sign before minus (.atom _ _)).Legible := ⟨hbefore, .of_opens rfl, fun _ => rfl, hatom⟩
    refine .inl ⟨_, hlegible, ?_, fun hread => ?_, fun hread => ?_⟩
    · rw [Operand.chars, Operand.chars, Expr.chars, hchars]
      rfl
    · cases hread
    · have hv : Value.ofWord (['-'] ++ ['i', 'n', 'f']) = .string "-inf" := rfl
      rw [← hlasting hread, hv] at hstring
      cases hstring

theorem reread_literal {v : Value} (hjson : v.isJson = false) : Reread (.literal v) before after := by
  rcases literal_cases hjson with ⟨s, rfl⟩ | ⟨hstring, sign, body, hchars, hword⟩
  · exact reread_string hbefore hafter s
  · exact reread_word hbefore hafter hjson hstring hchars hword

theorem reread_var {name : String} (hne : name.toList ≠ []) (hname : ∀ c ∈ name.toList, Text.isIdentRest c = true) :
    Reread (.var name) before after := by
  have hatom := isAtom_variable hbefore hafter hne hname
  rw [String.ofList_toList] at hatom
  exact .inl ⟨.atom _ _, hatom, rfl, fun _ => .var name, fun _ => rfl⟩

/-- A minus sign before a digit belongs to the constant. -/
theorem reread_minus (ha : Spelled a) (hdigit : Term.startsWith Decimal.isDigit a.chars = true) :
    Reread (.call .sub [a]) before after := by
  obtain ⟨v, rfl, hword⟩ := ha.exists_digit hdigit
  refine .inl ⟨.atom _ _, hword.isAtom (.inr hdigit) hbefore hafter, rfl, fun hread => ?_, fun hread => ?_⟩
  · cases hread
  · rw [(hread.of_sign (by decide)).2.1 rfl] at hdigit
    cases hdigit

theorem reread_sign (hlevel : 0 < level f) (ha : Spelled a) (ih : Reread a [] after) :
    Reread (.call f [a]) before after := by
  by_cases hnumber : f = .sub ∧ Term.startsWith Decimal.isDigit a.chars = true
  · obtain ⟨rfl, hdigit⟩ := hnumber
    exact reread_minus hbefore hafter ha hdigit
  · have hdigit : f = .sub → Term.startsWith Decimal.isDigit a.chars = false := fun hf =>
      Bool.eq_false_iff.2 fun hdigit => hnumber ⟨hf, hdigit⟩
    have hopens : Term.startsWith opens (a.chars ++ after) = true := Term.startsWith_append after ha.opens
    have hchars : before ++ ((Expr.call f [a]).chars ++ after) =
        before ++ ((signOf f).toList ++ (a.chars ++ after)) := by
      rw [chars_sign hlevel, List.append_assoc]
    unfold Reread
    rw [hchars]
    cases hsign : isSign f with
    | false =>
      refine .inr ⟨unread_sign hbefore hlevel hsign hopens, fun h => ?_⟩
      rw [(h.of_sign hlevel).1] at hsign
      cases hsign
    | true =>
      rcases ih with ⟨o, ho⟩ | ⟨hunread, hlasting⟩
      · exact .inl ⟨_, ho.sign hbefore ⟨f, hsign⟩ ha hdigit⟩
      · refine .inr ⟨hunread.sign hbefore hsign hopens ?_, fun h => hlasting (h.of_sign hlevel).2.2⟩
        rw [Term.startsWith_append_eq _ ha.tight.ne_nil]
        exact hdigit

theorem Operand.Rereads.both (g : Binary) {oa ob : Operand} (ha : oa.Rereads a [] [' ']) (hb : ob.Rereads b [' '] []) :
    (Operand.bracket before (.more (.one oa) g ob) after).Rereads (.call g [a, b]) before after where
  legible := by
    refine ⟨hbefore, hafter, ha.legible, ?_, hb.legible⟩
    rw [hb.chars]
    rintro - ⟨⟩
  chars := by
    have hinner : (Chain.more (.one oa) g ob).chars = oa.chars ++ ((signOf g).toList ++ ob.chars) := rfl
    rw [Operand.chars, hinner, ha.chars, hb.chars, chars_both g.level_pos]
    simp
  lasting := fun hread => by
    change (oa.tree.extend g ob.tree).expr.fold = .call g [a, b] at hread
    cases hwaits : oa.tree.waits (level g) with
    | true =>
      obtain ⟨f', e, hsign⟩ := Operand.exists_sign hwaits ob.tree
      rw [hsign] at hread
      cases (fold_eq_call hread).2
    | false =>
      rw [Tree.extend_of_not_waits hwaits, Tree.expr] at hread
      have hargs := (fold_eq_call hread).2
      simp only [List.map_cons, List.map_nil, List.cons.injEq, and_true] at hargs
      have hlasting := ha.lasting hargs.1
      rw [ha.tree hlasting] at hwaits
      exact .both g hlasting (hb.lasting hargs.2) hwaits
  tree := fun hread => by
    obtain ⟨hla, hlb, hleft⟩ := hread.of_both g.2
    change Tree.leaf (oa.tree.extend g ob.tree).expr = .leaf (.call g [a, b])
    rw [ha.tree hla, hb.tree hlb, Tree.extend_of_not_waits hleft, Tree.expr, expr_tree, expr_tree]

theorem reread_both (g : Binary) (iha : Reread a [] [' ']) (ihb : Reread b [' '] []) :
    Reread (.call g [a, b]) before after := by
  have hchars : before ++ ((Expr.call g [a, b]).chars ++ after) = before ++ '(' ::
      ([] ++ (a.chars ++ [' ']) ++ ((signOf g).toList ++ ([' '] ++ (b.chars ++ []))) ++ ')' :: after) := by
    rw [chars_both g.level_pos]
    simp
  have happart : ∀ rest, Apart g.1 ([' '] ++ rest) := by rintro rest - ⟨⟩
  have hne : ∀ rest : List Char, [' '] ++ rest ≠ [] := fun rest => List.cons_ne_nil _ _
  unfold Reread
  rw [hchars]
  rcases iha with ⟨oa, hoa⟩ | ⟨hunread, hlasting⟩
  · rcases ihb with ⟨ob, hob⟩ | ⟨hunread, hlasting⟩
    · exact .inl ⟨_, hoa.both hbefore hafter g hob⟩
    · rw [← hoa.chars]
      refine .inr ⟨(hunread.right hoa.legible g (happart _) (hne _)).bracket hbefore, fun h => ?_⟩
      exact hlasting (h.of_both g.2).2.1
  · refine .inr ⟨(hunread.left g (happart _) (hne _)).bracket hbefore, fun h => ?_⟩
    exact hlasting (h.of_both g.2).1

theorem isAtom_named (hargs : ∀ a ∈ args, Spelled a) {args' : List Expr}
    (hread : List.Forall₂ Argument (args.map Expr.chars) args') (haccepts : f.accepts args'.length = true) :
    IsAtom (before ++ (f.name.toList ++ '(' :: (argChars args ++ ')' :: after))) (.call f args') := by
  have hcall : ∀ {texts : List (List Char)},
      (∀ rest, arguments 0 none [] (argChars args ++ ')' :: rest) = (texts, some rest)) →
        List.Forall₂ Argument (if texts = [[]] then [] else texts) args' →
          IsAtom (before ++ (f.name.toList ++ []) ++ '(' :: (argChars args ++ ')' :: after)) (.call f args') :=
    fun hsplit hargs =>
      isAtom_call hbefore isSpace_nil hafter (isPlain_name f) (tight_name f) (ofChars?_name f) hsplit hargs haccepts
  rw [List.append_nil, List.append_assoc] at hcall
  cases args with
  | nil =>
    cases hread
    exact hcall (fun _ => rfl) .nil
  | cons a args =>
    refine hcall (fun rest => arguments_argChars rest isSpace_nil (List.cons_ne_nil _ _) hargs) ?_
    rwa [if_neg (map_chars_ne hargs)]

theorem reread_named (hnamed : IsNamed f args) (haccepts : f.accepts args.length = true)
    (hargs : ∀ a ∈ args, Spelled a) (ih : ∀ a ∈ args, Reread a [] []) : Reread (.call f args) before after := by
  have hchars : before ++ ((Expr.call f args).chars ++ after) =
      before ++ (f.name.toList ++ '(' :: (argChars args ++ ')' :: after)) := by
    rw [chars_named hnamed]
    simp
  unfold Reread
  rw [hchars]
  rcases rereads_cases ih with ⟨os, hos⟩ | ⟨a, ha, hunread, hlasting⟩
  · have hlength : (os.map fun o => o.tree.expr).length = args.length := by
      rw [List.length_map]
      exact hos.length_eq
    rw [← hlength] at haccepts
    have hatom := isAtom_named hbefore hafter hargs (forall₂_rereads hos) haccepts
    refine .inl ⟨.atom _ _, hatom, hchars.symm, fun hread => ?_, fun hread => ?_⟩
    · exact .named hnamed (lasting_of_rereads hos (fold_eq_call hread).2)
    · rw [Operand.tree, rereads_of_lasting hos (hread.of_named hnamed), tree_named hnamed]
  · exact .inr ⟨unread_named hbefore hargs ha hunread, fun h => hlasting (h.of_named hnamed a ha)⟩

end Forms

/-- **The text of a spelled expression is read as the expression just if it lasts.** -/
theorem Spelled.reread (h : Spelled e) : ∀ {before after : List Char}, IsSpace before → IsSpace after →
    Reread e before after := by
  induction h with
  | literal h => exact fun hbefore hafter => reread_literal hbefore hafter h
  | var hne h => exact fun hbefore hafter => reread_var hbefore hafter hne h
  | call haccepts hargs ih =>
    intro before after hbefore hafter
    rcases call_cases haccepts with hnamed | ⟨a, rfl, hlevel⟩ | ⟨a, b, rfl, hbinary⟩
    · exact reread_named hbefore hafter hnamed haccepts hargs fun a ha => ih a ha isSpace_nil isSpace_nil
    · have ha : a ∈ [a] := List.mem_cons_self
      exact reread_sign hbefore hafter hlevel (hargs a ha) (ih a ha isSpace_nil hafter)
    · have ha := ih a List.mem_cons_self isSpace_nil isSpace_single
      have hb := ih b (List.mem_cons_of_mem a List.mem_cons_self) isSpace_single isSpace_nil
      exact reread_both hbefore hafter ⟨_, hbinary⟩ ha hb

theorem Spelled.expand (h : Spelled e) : expand (Text.trim e.display.toList) = e.chars := by
  have hopens := h.opens
  rw [display, String.toList_ofList, h.tight.trim]
  obtain ⟨c, cs, hcs⟩ := List.exists_cons_of_ne_nil h.tight.ne_nil
  rw [hcs] at hopens ⊢
  have hc : '{' ≠ c := by
    rintro rfl
    cases hopens
  simp [Expr.expand, between?, Text.after?, hc]

/-- **An expression that has been built is built again from its text just if it lasts**: all of its functions,
arguments, variables and constants come back if its constants are read from their texts, no minus sign stands before a
digit or among the signs on the left of an operator of a higher level, and no other operator has just one argument;
else the text is not read, or it is that of another expression. -/
theorem build_display {text : String} (h : build text = .ok e) : build e.display = .ok e ↔ e.Lasting := by
  obtain ⟨hspelled, e₀, rfl⟩ := spelled_of_build h
  constructor
  · intro hbuild
    obtain ⟨e₁, hread, heq⟩ := exists_read_of_build hbuild
    rw [hspelled.expand] at hread
    rcases hspelled.reread isSpace_nil isSpace_nil with ⟨o, ho⟩ | ⟨hunread, -⟩
    · rw [← ho.chars_eq] at hread
      have htree : e₁ = o.tree.expr := Read.eq_tree (c := .one o) hread ho.legible
      rw [htree] at heq
      exact ho.lasting heq.symm
    · rw [List.nil_append, List.append_nil] at hunread
      exact absurd hread hunread.not_read
  · intro hlasting
    rcases hspelled.reread isSpace_nil isSpace_nil with ⟨o, ho⟩ | ⟨-, hnot⟩
    · have htree : (Chain.one o).tree.expr = e₀.fold := by
        rw [Chain.tree, ho.tree hlasting, expr_tree]
      rw [build_chain (c := .one o) ho.legible (hspelled.expand.trans ho.chars_eq.symm), htree, fold_fold]
    · exact absurd hlasting hnot

theorem build_display_quotients : ∃ e, build "8 / -?X / 2" = .ok e ∧ e.display = "(8 / -(?X / 2))" ∧ e.Lasting ∧
    build e.display = .ok e := by
  have hbuild : build "8 / -?X / 2" = .ok quotients.tree.expr.fold := build_chain legible_quotients (by decide +kernel)
  have hnumber : ∀ n : Int64, (Expr.literal (.int n)).Lasting := fun n => .literal (.plain (.int n))
  have hquotient : (Expr.call .div [.var "X", .literal (.int 2)]).Lasting :=
    .both ⟨.div, rfl⟩ (.var "X") (hnumber 2) rfl
  have hlasting : quotients.tree.expr.fold.Lasting :=
    .both ⟨.div, rfl⟩ (hnumber 8) (.sign minus (fun _ => rfl) hquotient) rfl
  exact ⟨_, hbuild, by decide, hlasting, (build_display hbuild).2 hlasting⟩

/-! A minus sign in brackets is written without them, and the operator after it goes under the sign; a plus sign with
one argument is not read at all. -/

theorem isBinary_mul : isBinary .mul = true := rfl

/-- `(-?X) * 2`. -/
def opposite : Chain :=
  .more (.one (.bracket [] (.one (.sign [] minus (.atom ['?', 'X'] (.var "X")))) [' '])) ⟨.mul, isBinary_mul⟩
    (.atom [' ', '2'] (.literal (.int 2)))

/-- `(-?X * 2)`. -/
def oppositeProduct : Chain :=
  .one (.bracket [] (.more (.one (.sign [] minus (.atom ['?', 'X', ' '] (.var "X")))) ⟨.mul, isBinary_mul⟩
    (.atom [' ', '2'] (.literal (.int 2)))) [])

/-- `add(?X)`. -/
def onlyTerm : Chain := .one (.atom ['a', 'd', 'd', '(', '?', 'X', ')'] (.call .add [.var "X"]))

theorem spelled_X : Spelled (.var "X") := .var (by decide) (List.forall_mem_singleton.2 rfl)

theorem legible_onlyTerm : onlyTerm.Legible := by
  have hx : Argument (Chain.one (.atom _ _)).chars _ :=
    .chain (c := .one (.atom _ _)) (isAtom_X isSpace_nil isSpace_nil)
  have hatom : IsAtom ([] ++ (Func.add.name.toList ++ '(' :: (argChars [.var "X"] ++ [')']))) (.call .add [.var "X"]) :=
    isAtom_named isSpace_nil isSpace_nil (List.forall_mem_singleton.2 spelled_X) (.cons hx .nil) rfl
  exact hatom

theorem operator_under_sign : (∃ e e', build "(-?X) * 2" = .ok e ∧ e.display = "(-?X * 2)" ∧
    build e.display = .ok e' ∧ e'.display = "-(?X * 2)" ∧ e' ≠ e) ∧
      ∃ e, build "add(?X)" = .ok e ∧ e.display = "+?X" ∧ ∀ e', build e.display ≠ .ok e' := by
  have hx := isAtom_X isSpace_nil isSpace_nil
  have hx' := isAtom_X isSpace_nil isSpace_single
  have hopposite : opposite.Legible :=
    ⟨⟨isSpace_nil, isSpace_single, isSpace_nil, by decide, fun _ => rfl, hx⟩, by decide, isAtom_two⟩
  have hproduct : oppositeProduct.Legible :=
    ⟨isSpace_nil, isSpace_nil, ⟨isSpace_nil, by decide, fun _ => rfl, hx'⟩, by decide, isAtom_two⟩
  have hbuild : build "(-?X) * 2" = .ok opposite.tree.expr.fold := build_chain hopposite (by decide +kernel)
  have hagain : build opposite.tree.expr.fold.display = .ok oppositeProduct.tree.expr.fold :=
    build_chain hproduct (by decide +kernel)
  have hterm : build "add(?X)" = .ok onlyTerm.tree.expr.fold := build_chain legible_onlyTerm (by decide +kernel)
  refine ⟨⟨_, _, hbuild, by decide, hagain, by decide, fun heq => ?_⟩, _, hterm, by decide, fun e' hread => ?_⟩
  · cases heq
  · obtain ⟨e₁, hread, -⟩ := exists_read_of_build hread
    have hspelled : Spelled onlyTerm.tree.expr.fold := .call rfl (List.forall_mem_singleton.2 spelled_X)
    rw [hspelled.expand] at hread
    have hunread : Unread onlyTerm.tree.expr.fold.chars :=
      unread_sign (f := .add) isSpace_nil (by decide) rfl spelled_X.opens
    exact hunread.not_read hread

end Expr

end Remedy
