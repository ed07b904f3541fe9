import Remedy.Expr.Build
import Remedy.Proofs.Expr.Folding
import Remedy.Proofs.Expr.Precedence
import Remedy.Proofs.Expr.Spelling
import Remedy.Proofs.Value.Numerals
/-!
# Proofs.Expr.Inlining — operators are grouped by their levels, and a number is written for a variable

A number in the place of a variable keeps the tree, but for one case: a minus sign directly before the variable becomes
part of the number (`Tree.Alike`), and an operator of a higher level, which the sign would have taken under it, then has
the negative number on its left.  With this case left out (`Chain.Inlines`), binding the variable and writing the number
come to the same; the operators of either text are grouped by their levels unless a minus sign keeps one from another
(`Chain.operators_by_level`).
-/
namespace Remedy.Expr

variable {env : Env} {f : Func}

/-! ## Trees of the same value -/

/-- Two expressions have one value, or none for one cause. -/
abbrev Same (env : Env) (e e' : Expr) : Prop := Agree (fun _ _ => True) (eval env e) (eval env e')

theorem Same.call {args args' : List Expr} (h : List.Forall₂ (Same env) args args') :
    Same env (.call f args) (.call f args') := Agree.call (fun _ => rfl) rfl h fun _ => trivial

def minus : Sign := ⟨.sub, rfl⟩

namespace Tree

/-- **Two trees differ in their leaves only**, and in that a negative leaf stands for a minus sign and its operand; the
mark tells whether the last leaf does so. -/
inductive Alike (env : Env) : Bool → Tree → Tree → Prop
  | leaf {e e' : Expr} (h : Same env e e') : Alike env false (.leaf e) (.leaf e')
  | negative {e e' : Expr} (h : Same env (.call .sub [e]) e') : Alike env true (.sign minus (.leaf e)) (.leaf e')
  | sign {m : Bool} {t t' : Tree} (f : Sign) (h : Alike env m t t') : Alike env m (.sign f t) (.sign f t')
  | both {k m : Bool} {l l' r r' : Tree} (f : Binary) (hl : Alike env k l l') (hr : Alike env m r r') :
      Alike env m (.both f l r) (.both f l' r')

variable {k m : Bool} {g : Binary} {r r' t t' : Tree}

theorem Alike.waits {n : Nat} (h : Alike env m t t') (hm : m = true → n ≤ level .sub) : t.waits n = t'.waits n := by
  induction h with
  | leaf => rfl
  | negative => simp [Tree.waits, minus, Nat.not_lt.2 (hm rfl)]
  | sign _ _ ih => simp [Tree.waits, ih hm]
  | both _ _ _ _ ih => simp [Tree.waits, ih hm]

/-- **One more operator** finds its place in both trees. -/
theorem Alike.extend (h : Alike env m t t') (hm : m = true → level g ≤ level .sub) (hr : Alike env k r r') :
    Alike env k (t.extend g r) (t'.extend g r') := by
  -- the minus sign does not wait for operators of its level or lower ones
  have hwaits := h.waits hm
  induction h with
  | leaf h => exact .both g (.leaf h) hr
  | negative h =>
    rw [Tree.extend, Tree.extend, hwaits]
    exact .both g (.negative h) hr
  | sign f h ih =>
    rw [Tree.extend, Tree.extend, hwaits]
    split
    · exact .sign f (ih hm (h.waits hm))
    · exact .both g (.sign f h) hr
  | both f hl h _ ih =>
    rw [Tree.extend, Tree.extend, hwaits]
    split
    · exact .both f hl (ih hm (h.waits hm))
    · exact .both g (.both f hl h) hr

theorem Alike.same (h : Alike env m t t') : Same env t.expr t'.expr := by
  induction h with
  | leaf h => exact h
  | negative h => exact h
  | sign _ _ ih => exact Same.call (.cons ih .nil)
  | both _ _ _ ihl ihr => exact Same.call (.cons ihl (.cons ihr .nil))

end Tree

/-! ## Numbers as atoms -/

section Numbers

variable {n : Nat} {before after : List Char} (hbefore : IsSpace before) (hafter : IsSpace after)

theorem isIdentRest_of_mem_toDigits : ∀ c ∈ Nat.toDigits 10 n, Text.isIdentRest c = true :=
  fun _ hc => Text.isIdentRest_of_isDigit (Decimal.isDigit_of_mem_toDigits hc)

include hbefore hafter

theorem isAtom_toDigits (hn : (n : Int) < 0x8000000000000000) :
    IsAtom (before ++ (Nat.toDigits 10 n ++ after)) (.literal (.int (.ofInt n))) := by
  rw [← Value.ofWord_of_signed? (Decimal.signed?_of_natural? (Decimal.natural?_toDigits n) hn)]
  exact isAtom_identifier hbefore hafter Nat.toDigits_ne_nil isIdentRest_of_mem_toDigits

theorem isAtom_minus_toDigits (hn : (n : Int) < 0x8000000000000000) :
    IsAtom (before ++ ('-' :: Nat.toDigits 10 n ++ after)) (.literal (.int (.ofInt (-n)))) := by
  have hword := Value.ofWord_of_signed? (Decimal.signed?_minus (Decimal.natural?_toDigits n) (Int.le_of_lt hn))
  have hrest := isIdentRest_of_mem_toDigits (n := n)
  have hdigit : ∀ c ∈ Nat.toDigits 10 n, Decimal.isDigit c = true := fun _ => Decimal.isDigit_of_mem_toDigits
  obtain ⟨d, ds, hdigits⟩ := List.exists_cons_of_ne_nil (Nat.toDigits_ne_nil (n := n) (b := 10))
  rw [hdigits] at hword hrest hdigit ⊢
  refine isAtom_negative hbefore hafter (hdigit d (by simp)) (fun c hc => isPlain_of_isIdentRest (hrest c hc)) ?_ ?_
  · refine .of_forall (List.cons_ne_nil _ _) fun c hc => ?_
    rcases List.mem_cons.1 hc with rfl | hc
    · rfl
    · exact Text.isBlank_of_isIdentRest (hrest c hc)
  · rw [← hword]
    rfl

end Numbers

/-! ## A number in the place of a variable -/

mutual

/-- **An operand with a number for a variable**: in its place, together with a minus sign directly before it, or in
other atoms, which keep their values.  The mark tells whether the number has taken up a minus sign. -/
inductive Operand.Inlines (env : Env) (x : String) (n : Nat) : Bool → Operand → Operand → Prop
  | place {before after : List Char} (hbefore : IsSpace before) (hafter : IsSpace after) :
      Operand.Inlines env x n false (.atom (before ++ ('?' :: x.toList ++ after)) (.var x))
        (.atom (before ++ (Nat.toDigits 10 n ++ after)) (.literal (.int (.ofInt n))))
  | negative {before after : List Char} (hbefore : IsSpace before) (hafter : IsSpace after) :
      Operand.Inlines env x n true (.sign before minus (.atom ('?' :: x.toList ++ after) (.var x)))
        (.atom (before ++ ('-' :: Nat.toDigits 10 n ++ after)) (.literal (.int (.ofInt (-n)))))
  | other {text text' : List Char} {e e' : Expr} (hatom : IsAtom text' e') (hsame : Same env e e')
      (hstart : text'.head? = some '=' → text.head? = some '=') :
      Operand.Inlines env x n false (.atom text e) (.atom text' e')
  | sign {m : Bool} {o o' : Operand} (before : List Char) (f : Sign)
      (hminus : f.1 = .sub → Term.startsWith Decimal.isDigit o'.chars = false) (h : Operand.Inlines env x n m o o') :
      Operand.Inlines env x n m (.sign before f o) (.sign before f o')
  | bracket {m : Bool} {c c' : Chain} (before after : List Char) (h : Chain.Inlines env x n m c c') :
      Operand.Inlines env x n false (.bracket before c after) (.bracket before c' after)

/-- **A chain with a number for a variable**; no operator of a higher level than the minus sign comes after a number
that has taken one up. -/
inductive Chain.Inlines (env : Env) (x : String) (n : Nat) : Bool → Chain → Chain → Prop
  | one {m : Bool} {o o' : Operand} (h : Operand.Inlines env x n m o o') : Chain.Inlines env x n m (.one o) (.one o')
  | more {k m : Bool} {c c' : Chain} {o o' : Operand} (g : Binary) (h : Chain.Inlines env x n k c c')
      (hlevel : k = true → level g ≤ level .sub) (ho : Operand.Inlines env x n m o o') :
      Chain.Inlines env x n m (.more c g o) (.more c' g o')

end

variable {x : String} {n : Nat} {m : Bool} {o o' : Operand} {c c' : Chain}

theorem same_number (hx : env.variableOf x = some (.int (.ofInt n))) :
    Same env (.var x) (.literal (.int (.ofInt n))) := by
  rw [Same, eval, eval, hx]
  exact .value _

theorem same_negative (hn : (n : Int) < 0x8000000000000000) (hx : env.variableOf x = some (.int (.ofInt n))) :
    Same env (.call .sub [.var x]) (.literal (.int (.ofInt (-n)))) := by
  have htoInt : (Int64.ofInt n).toInt = n := Int64.toInt_ofInt_of_le (by omega) hn
  have hfits : -0x8000000000000000 ≤ -(n : Int) ∧ -(n : Int) < 0x8000000000000000 := by omega
  have hvalue : eval env (.call .sub [.var x]) = .ok (.int (.ofInt (-n))) := by
    rw [eval_strict (by rfl), evalAll, eval, hx, evalAll]
    simp [inCall, Func.apply, Func.difference, Func.fitting, htoInt, hfits, Except.map]
  rw [Same, hvalue, eval]
  exact .value _

theorem head?_append_imp {cs cs' : List Char} (before : List Char)
    (h : cs'.head? = some '=' → cs.head? = some '=') (hstart : (before ++ cs').head? = some '=') :
    (before ++ cs).head? = some '=' := by
  cases before with
  | nil => exact h hstart
  | cons c before => exact hstart

theorem Operand.Inlines.head (h : Operand.Inlines env x n m o o') (hstart : o'.chars.head? = some '=') :
    o.chars.head? = some '=' := by
  cases h with
  | @place before after =>
    refine head?_append_imp before ?_ hstart
    have hdigit := Decimal.isDigit_of_mem_toDigits (n := n) (c := '=')
    obtain ⟨d, ds, hdigits⟩ := List.exists_cons_of_ne_nil (Nat.toDigits_ne_nil (n := n) (b := 10))
    rw [hdigits] at hdigit ⊢
    rintro ⟨⟩
    exact absurd (hdigit (by simp)) (by decide)
  | @negative before after =>
    refine head?_append_imp before ?_ hstart
    exact id
  | other _ _ h => exact h hstart
  | sign before f _ _ =>
    refine head?_append_imp before ?_ hstart
    rcases sign_cases f with hf | hf <;> rw [hf] <;> exact id
  | bracket before _ _ =>
    refine head?_append_imp before ?_ hstart
    exact id

mutual

theorem Operand.Inlines.alike (hn : (n : Int) < 0x8000000000000000) (hx : env.variableOf x = some (.int (.ofInt n))) :
    ∀ {m : Bool} {o o' : Operand}, Operand.Inlines env x n m o o' → Tree.Alike env m o.tree o'.tree
  | _, _, _, .place _ _ => .leaf (same_number hx)
  | _, _, _, .negative _ _ => .negative (same_negative hn hx)
  | _, _, _, .other _ hsame _ => .leaf hsame
  | _, _, _, .sign _ f _ h => .sign f (h.alike hn hx)
  | _, _, _, .bracket _ _ h => .leaf (h.alike hn hx).same

theorem Chain.Inlines.alike (hn : (n : Int) < 0x8000000000000000) (hx : env.variableOf x = some (.int (.ofInt n))) :
    ∀ {m : Bool} {c c' : Chain}, Chain.Inlines env x n m c c' → Tree.Alike env m c.tree c'.tree
  | _, _, _, .one h => h.alike hn hx
  | _, _, _, .more _ h hlevel ho => (h.alike hn hx).extend hlevel (ho.alike hn hx)

end

mutual

theorem Operand.Inlines.legible (hn : (n : Int) < 0x8000000000000000) :
    ∀ {m : Bool} {o o' : Operand}, Operand.Inlines env x n m o o' → o.Legible → o'.Legible
  | _, _, _, .place hbefore hafter, _ => isAtom_toDigits hbefore hafter hn
  | _, _, _, .negative hbefore hafter, _ => isAtom_minus_toDigits hbefore hafter hn
  | _, _, _, .other hatom _ _, _ => hatom
  | _, _, _, .sign _ _ hminus h, ⟨hbefore, happart, _, ho⟩ =>
    ⟨hbefore, fun hf hstart => happart hf (h.head hstart), hminus, h.legible hn ho⟩
  | _, _, _, .bracket _ _ h, ⟨hbefore, hafter, hinner⟩ => ⟨hbefore, hafter, h.legible hn hinner⟩

theorem Chain.Inlines.legible (hn : (n : Int) < 0x8000000000000000) :
    ∀ {m : Bool} {c c' : Chain}, Chain.Inlines env x n m c c' → c.Legible → c'.Legible
  | _, _, _, .one h, ho => Operand.Inlines.legible hn h ho
  | _, _, _, .more _ h _ ho, ⟨hc, happart, hlegible⟩ =>
    ⟨h.legible hn hc, fun hf hstart => happart hf (ho.head hstart), ho.legible hn hlegible⟩

end

/-! ## The tree of a text -/

theorem Same.symm {e e' : Expr} (h : Same env e e') : Same env e' e := by
  unfold Same at h ⊢
  generalize eval env e = r, eval env e' = r' at h
  cases h with
  | value v => exact .value v
  | error cause _ => exact .error cause trivial

theorem Same.trans {e e' e'' : Expr} (h : Same env e e') (h' : Same env e' e'') : Same env e e'' :=
  Agree.trans (fun _ _ _ _ _ => trivial) h h'

theorem Same.fold {e e' : Expr} (h : Same env e e') : Same env e.fold e'.fold := by
  have hfold : ∀ e, Same env e (Expr.fold e) := agree_fold fun _ _ _ => trivial
  exact ((hfold e).symm.trans h).trans (hfold e')

theorem build_chain {text : String} (h : c.Legible) (htext : expand (Text.trim text.toList) = c.chars) :
    build text = .ok c.tree.expr.fold := by
  have hlength := h.length_lexemes
  have hne : (Text.trim text.toList).isEmpty = false := by
    refine Bool.eq_false_iff.2 fun hnil => ?_
    have hnone : (expand []).length = 0 := rfl
    rw [List.isEmpty_iff.1 hnil] at htext
    rw [← htext, hnone] at hlength
    omega
  simp [build, hne, htext, ofChars_chain h]

/-- **The text of a chain spells a tree with the atoms, signs and operators in their order, whose operators are grouped
by their levels** just if no minus sign keeps an operator from one before it; there is no other such grouping.  With a
number written for a variable, the expression has the value that it has if the variable is bound to the number. -/
theorem Chain.operators_by_level {c : Chain} (h : c.Legible) :
    (ofChars c.chars = .ok c.tree.expr ∧
      ∀ text : String, expand (Text.trim text.toList) = c.chars → build text = .ok c.tree.expr.fold) ∧
    c.tree.row = c.row ∧ (c.tree.shape.ByLevel 0 ↔ c.Undisturbed) ∧
    (c.tree.shape = c.bare.tree.shape ↔ c.Undisturbed) ∧
    (c.Undisturbed → ∀ s : Shape, s.ByLevel 0 → s.row = c.tree.shape.row → s = c.tree.shape) ∧
    ∀ (env : Env) (x : String) (n : Nat), (n : Int) < 0x8000000000000000 →
      env.variableOf x = some (.int (.ofInt n)) → ∀ (m : Bool) (c' : Chain), Chain.Inlines env x n m c c' →
        (∀ text : String, expand (Text.trim text.toList) = c'.chars → build text = .ok c'.tree.expr.fold) ∧
          Same env c.tree.expr.fold c'.tree.expr.fold := by
  refine ⟨⟨ofChars_chain h, fun text => build_chain h⟩, c.row_tree, c.byLevel_iff_undisturbed, c.shape_bare_iff, ?_, ?_⟩
  · intro hc s hs hrow
    exact Shape.eq_of_row_eq hs (c.byLevel_iff_undisturbed.2 hc) hrow
  · intro env x n hn hx m c' hinlines
    refine ⟨fun text => build_chain (hinlines.legible hn h), ?_⟩
    exact (hinlines.alike hn hx).same.fold

def Env.binding (x : String) (n : Nat) : Env :=
  ⟨fun name => if name = x then some (.int (.ofInt n)) else none, fun _ => none, Env.still⟩

/-- `-?X + len("abc") * ?X`. -/
def weighted : Chain :=
  .more (.more (.one (.sign [] minus (.atom ['?', 'X', ' '] (.var "X")))) ⟨.add, rfl⟩
    (.atom [' ', 'l', 'e', 'n', '(', '"', 'a', 'b', 'c', '"', ')', ' '] (.call .len [.literal (.string "abc")])))
    ⟨.mul, rfl⟩ (.atom [' ', '?', 'X'] (.var "X"))

/-- `-3 + len("abc") * 3`. -/
def weightedThree : Chain :=
  .more (.more (.one (.atom ['-', '3', ' '] (.literal (.int (-3))))) ⟨.add, rfl⟩
    (.atom [' ', 'l', 'e', 'n', '(', '"', 'a', 'b', 'c', '"', ')', ' '] (.call .len [.literal (.string "abc")])))
    ⟨.mul, rfl⟩ (.atom [' ', '3'] (.literal (.int 3)))

theorem isSpace_nil : IsSpace [] := List.forall_mem_nil _

theorem isSpace_single : IsSpace [' '] := List.forall_mem_singleton.2 rfl

theorem isAtom_X (hbefore : IsSpace before) (hafter : IsSpace after) :
    IsAtom (before ++ ('?' :: ['X'] ++ after)) (.var "X") :=
  isAtom_variable hbefore hafter (List.cons_ne_nil _ _) (List.forall_mem_singleton.2 rfl)

theorem isAtom_len : IsAtom ([' '] ++ (['l', 'e', 'n'] ++ []) ++ '(' :: (['"', 'a', 'b', 'c', '"'] ++ ')' :: [' ']))
    (.call .len [.literal (.string "abc")]) := by
  have habc : IsAtom ([] ++ ('"' :: (['a', 'b', 'c'] ++ ['"']) ++ [])) (.literal (.string "abc")) :=
    isAtom_quoted isSpace_nil isSpace_nil rfl rfl
  have hargument : Argument (Chain.one (.atom _ _)).chars _ := .chain (c := .one (.atom _ _)) habc
  have htight : Text.Tight ['l', 'e', 'n'] := ⟨rfl, rfl⟩
  have hplain : ∀ c ∈ ['l', 'e', 'n'], isPlain c = true := List.all_eq_true.1 rfl
  have hsplit : ∀ rest, arguments 0 none [] (['"', 'a', 'b', 'c', '"'] ++ ')' :: rest) = ([_], some rest) :=
    fun _ => rfl
  exact isAtom_call isSpace_single isSpace_nil isSpace_single hplain htight (by decide +kernel) hsplit
    (.cons hargument .nil) rfl

theorem legible_weighted : weighted.Legible := by
  have hx := isAtom_X isSpace_nil isSpace_single
  have hx' := isAtom_X isSpace_single isSpace_nil
  exact ⟨⟨⟨isSpace_nil, by decide, fun _ => rfl, hx⟩, by decide, isAtom_len⟩, by decide, hx'⟩

theorem inlines_weighted : Chain.Inlines (Env.binding "X" 3) "X" 3 false weighted weightedThree := by
  refine .more (k := false) _ (.more _ (.one (.negative isSpace_nil isSpace_single)) ?_ ?_) Bool.noConfusion ?_
  · intro _
    exact Nat.le_refl _
  · exact .other isAtom_len (Agree.refl (fun _ => trivial) _) id
  · exact .place isSpace_single isSpace_nil

theorem operators_by_level_weighted : weighted.Legible ∧ weighted.Undisturbed ∧ weighted.tree.shape.ByLevel 0 ∧
    build "-?X + len(\"abc\") * ?X" = .ok weighted.tree.expr.fold ∧
    build "-3 + len(\"abc\") * 3" = .ok weightedThree.tree.expr.fold ∧
      eval (Env.binding "X" 3) weighted.tree.expr.fold = .ok (.int 6) := by
  obtain ⟨⟨-, hbuild⟩, -, hlevel, -, -, hnumber⟩ := Chain.operators_by_level legible_weighted
  obtain ⟨hwritten, hsame⟩ := hnumber (Env.binding "X" 3) "X" 3 (by decide) rfl _ _ inlines_weighted
  have hundisturbed : weighted.Undisturbed := by decide
  have hvalue : eval (Env.binding "X" 3) weightedThree.tree.expr.fold = .ok (.int 6) := rfl
  exact ⟨legible_weighted, hundisturbed, hlevel.2 hundisturbed, hbuild _ (by decide +kernel),
    hwritten _ (by decide +kernel), (hsame.ok_iff _).2 hvalue⟩

/-- `8 / -?X / 2`. -/
def quotients : Chain :=
  .more (.more (.one (.atom ['8', ' '] (.literal (.int 8)))) ⟨.div, rfl⟩
    (.sign [' '] minus (.atom ['?', 'X', ' '] (.var "X")))) ⟨.div, rfl⟩ (.atom [' ', '2'] (.literal (.int 2)))

/-- `8 / -2 / 2`. -/
def quotientsTwo : Chain :=
  .more (.more (.one (.atom ['8', ' '] (.literal (.int 8)))) ⟨.div, rfl⟩
    (.atom [' ', '-', '2', ' '] (.literal (.int (-2))))) ⟨.div, rfl⟩ (.atom [' ', '2'] (.literal (.int 2)))

theorem isAtom_eight : IsAtom ([] ++ (['8'] ++ [' '])) (.literal (.int 8)) :=
  isAtom_identifier isSpace_nil isSpace_single (List.cons_ne_nil _ _) (List.forall_mem_singleton.2 rfl)

theorem isAtom_two : IsAtom ([' '] ++ (['2'] ++ [])) (.literal (.int 2)) :=
  isAtom_identifier isSpace_single isSpace_nil (List.cons_ne_nil _ _) (List.forall_mem_singleton.2 rfl)

theorem legible_quotients : quotients.Legible := by
  have hx := isAtom_X isSpace_nil isSpace_single
  exact ⟨⟨isAtom_eight, by decide, isSpace_single, by decide, fun _ => rfl, hx⟩, by decide, isAtom_two⟩

theorem legible_quotientsTwo : quotientsTwo.Legible := by
  have hminus := isAtom_minus_toDigits (n := 2) isSpace_single isSpace_single (by decide)
  exact ⟨⟨isAtom_eight, by decide, hminus⟩, by decide, isAtom_two⟩

/-- A minus sign before the variable takes the second quotient under it; written before the number, it does not. -/
theorem quotient_under_minus : (∃ e, build "8 / -?X / 2" = .ok e ∧ e.display = "(8 / -(?X / 2))" ∧
    e.eval (Env.binding "X" 2) = .ok (.int (-8))) ∧
      ∃ e, build "8 / -2 / 2" = .ok e ∧ e.eval (Env.binding "X" 2) = .ok (.int (-2)) := by
  have htaken : build "8 / -?X / 2" = .ok quotients.tree.expr.fold := build_chain legible_quotients (by decide +kernel)
  have hwritten : build "8 / -2 / 2" = .ok quotientsTwo.tree.expr.fold :=
    build_chain legible_quotientsTwo (by decide +kernel)
  exact ⟨⟨_, htaken, by decide, rfl⟩, _, hwritten, rfl⟩

end Remedy.Expr
