import Remedy.Expr.Operator
/-!
# Proofs.Expr.Grouping — what the two stacks make of operands and operators

A chain is a sequence of operands with binary operators between them; an operand is an atom behind any number of signs.
The stacks hold the right edge of a tree: every operator that waits, with what stands on its left, and the last operand
on top (`Tree.load`).  One more operator takes what is on top for its left operand, down to the last operator that is of
a lower level (`Tree.extend`).  So the lexemes of a chain make the tree that grows by its operators, one after the other
(`ofLexemes_chain`).  A binary operator with nothing on its left is never applied: there is no tree then, whatever
comes after it (`finish_of_dangling`).
-/
namespace Remedy.Expr

/-- An operator that can stand before its only operand. -/
abbrev Sign := { f : Func // isSign f = true }

theorem sign_cases : ∀ f : Sign, f.1 = .not ∨ f.1 = .sub := by
  rintro ⟨f, hf⟩
  simpa [isSign] using hf

def isBinary (f : Func) : Bool := decide (0 < level f) && f != .not

abbrev Binary := { f : Func // isBinary f = true }

/-! ## Trees -/

/-- **A tree of operators**: signs with one operand, binary operators with two. -/
inductive Tree
  | leaf (e : Expr)
  | sign (f : Sign) (t : Tree)
  | both (f : Binary) (l r : Tree)

namespace Tree

def expr : Tree → Expr
  | leaf e => e
  | sign f t => .call f [t.expr]
  | both f l r => .call f [l.expr, r.expr]

/-- **Some operator at the right edge of a tree is of a level below `n`.** -/
def waits (n : Nat) : Tree → Bool
  | leaf _ => false
  | sign f t => decide (level f < n) || t.waits n
  | both f _ t => decide (level f < n) || t.waits n

/-- **The tree with one more operator and its right operand**, below the last operator at its right edge that is of a
lower level. -/
def extend (g : Binary) : Tree → Tree → Tree
  | leaf e, r => both g (leaf e) r
  | sign f t, r => if (sign f t).waits (level g) then sign f (t.extend g r) else both g (sign f t) r
  | both f l t, r => if (both f l t).waits (level g) then both f l (t.extend g r) else both g (both f l t) r

/-- The stacks with a tree on top: its right edge, from the root down. -/
def load : Tree → Stacks → Stacks
  | leaf e, s => ⟨some e :: s.operands, s.waiting⟩
  | sign f t, s => t.load ⟨none :: s.operands, .apply f :: s.waiting⟩
  | both f l t, s => t.load ⟨some l.expr :: s.operands, .apply f :: s.waiting⟩

theorem waits_zero : ∀ t : Tree, t.waits 0 = false
  | leaf _ => rfl
  | sign _ t | both _ _ t => (Bool.false_or _).trans t.waits_zero

theorem load_operands : ∀ (t : Tree) (s : Stacks), ∃ e rest, (t.load s).operands = some e :: rest
  | leaf e, s => ⟨e, s.operands, rfl⟩
  | sign _ t, _ | both _ _ t, _ => t.load_operands _

end Tree

/-! ## Applying operators -/

variable {n : Nat} {operands : List (Option Expr)} {waiting : List Operator} {s : Stacks} {g : Binary}

/-- The last operator that waits is of a level below `n`, or it is a bracket, or none waits. -/
def Stops (n : Nat) (waiting : List Operator) : Prop := ∀ f rest, waiting = .apply f :: rest → level f < n

theorem reduceFrom_of_stops (h : Stops n waiting) : reduceFrom n operands waiting = .ok ⟨operands, waiting⟩ := by
  unfold reduceFrom
  split
  · rename_i f rest
    rw [if_neg (Nat.not_le.2 (h f rest rfl))]
  · rfl

/-- Where an operator of a lower level waits, but not above the last operand, it is the last one. -/
theorem stops_apply {f : Func} {t : Tree} (h : (decide (level f < n) || t.waits n) = true) (ht : t.waits n = false) :
    Stops n (.apply f :: waiting) := by
  rintro _ _ ⟨⟩
  simpa [ht] using h

theorem reduceFrom_apply {f : Func} {operands' : List (Option Expr)} (hlevel : n ≤ level f)
    (h : reduce f operands = .ok operands') :
    reduceFrom n operands (.apply f :: waiting) = reduceFrom n operands' waiting := by
  rw [reduceFrom, if_pos hlevel, h]

theorem reduce_sign (f : Sign) (e : Expr) :
    reduce f (some e :: none :: operands) = .ok (some (.call f [e]) :: operands) := by
  rw [reduce, if_pos f.2]

theorem ne_not_of_isBinary {f : Func} (h : isBinary f = true) : f ≠ .not := by
  rintro rfl
  cases h

theorem reduce_both (f : Binary) (a b : Expr) :
    reduce f (some b :: some a :: operands) = .ok (some (.call f [a, b]) :: operands) := by
  rw [reduce, if_neg (ne_not_of_isBinary f.2)]

/-- **A tree without an operator below the level is applied whole.** -/
theorem reduceFrom_load : ∀ {t : Tree} {s : Stacks}, t.waits n = false →
    reduceFrom n (t.load s).operands (t.load s).waiting = reduceFrom n (some t.expr :: s.operands) s.waiting
  | .leaf _, _, _ => rfl
  | .sign f t, s, h => by
    obtain ⟨hlevel, ht⟩ := Bool.or_eq_false_iff.1 h
    rw [Tree.load, reduceFrom_load ht]
    exact reduceFrom_apply (Nat.not_lt.1 (of_decide_eq_false hlevel)) (reduce_sign f t.expr)
  | .both f l t, s, h => by
    obtain ⟨hlevel, ht⟩ := Bool.or_eq_false_iff.1 h
    rw [Tree.load, reduceFrom_load ht]
    exact reduceFrom_apply (Nat.not_lt.1 (of_decide_eq_false hlevel)) (reduce_both f l.expr t.expr)

/-- **What one more operator leaves waiting** is what lies above its place in the tree. -/
theorem exists_reduceFrom_load : ∀ {t : Tree} {s : Stacks}, (t.waits (level g) = false → Stops (level g) s.waiting) →
    ∃ operands waiting, reduceFrom (level g) (t.load s).operands (t.load s).waiting = .ok ⟨operands, waiting⟩ ∧
      ∀ r : Tree, r.load ⟨operands, .apply g :: waiting⟩ = (t.extend g r).load s
  | .leaf e, s, h => ⟨some e :: s.operands, s.waiting, reduceFrom_of_stops (h rfl), fun _ => rfl⟩
  | .sign f t, s, h => by
    cases hwaits : (Tree.sign f t).waits (level g) with
    | false =>
      refine ⟨_, _, (reduceFrom_load hwaits).trans (reduceFrom_of_stops (h hwaits)), fun r => ?_⟩
      rw [Tree.extend, hwaits]
      rfl
    | true =>
      obtain ⟨operands, waiting, hreduce, hload⟩ :=
        exists_reduceFrom_load (t := t) (s := ⟨none :: s.operands, _⟩) (stops_apply hwaits)
      refine ⟨operands, waiting, hreduce, fun r => ?_⟩
      rw [hload r, Tree.extend, hwaits]
      rfl
  | .both f l t, s, h => by
    cases hwaits : (Tree.both f l t).waits (level g) with
    | false =>
      refine ⟨_, _, (reduceFrom_load hwaits).trans (reduceFrom_of_stops (h hwaits)), fun r => ?_⟩
      rw [Tree.extend, hwaits]
      rfl
    | true =>
      obtain ⟨operands, waiting, hreduce, hload⟩ :=
        exists_reduceFrom_load (t := t) (s := ⟨some l.expr :: s.operands, _⟩) (stops_apply hwaits)
      refine ⟨operands, waiting, hreduce, fun r => ?_⟩
      rw [hload r, Tree.extend, hwaits]
      rfl

theorem push_of_operand {f : Func} {e : Expr} {rest : List (Option Expr)} (h : s.operands = some e :: rest)
    (hreduce : reduceFrom (level f) s.operands s.waiting = .ok ⟨operands, waiting⟩) :
    s.push (.apply f) = .ok ⟨operands, .apply f :: waiting⟩ := by
  rw [h] at hreduce
  -- with an operand on top, a minus sign is the binary one
  unfold Stacks.push
  simp only [h, hreduce]
  cases isSign f <;> rfl

/-- **An operator after a tree** is taken in, and with its right operand on top the stacks hold the extended tree. -/
theorem exists_push_load (t : Tree) (h : Stops (level g) s.waiting) :
    ∃ s', (t.load s).push (.apply g) = .ok s' ∧ ∀ r : Tree, r.load s' = (t.extend g r).load s := by
  obtain ⟨e, rest, hoperands⟩ := t.load_operands s
  obtain ⟨operands, waiting, hreduce, hload⟩ := exists_reduceFrom_load (t := t) fun _ => h
  exact ⟨⟨operands, .apply g :: waiting⟩, push_of_operand hoperands hreduce, hload⟩

/-! ## Chains -/

mutual

/-- **An operand as it is written**: an atom with the expression that it spells, or a bracket, behind signs; white space
may stand before a sign and on both sides of a bracket. -/
inductive Operand
  | atom (text : List Char) (e : Expr)
  | sign (before : List Char) (f : Sign) (o : Operand)
  | bracket (before : List Char) (inner : Chain) (after : List Char)

/-- **A chain**: operands with binary operators between them. -/
inductive Chain
  | one (o : Operand)
  | more (c : Chain) (g : Binary) (o : Operand)

end

mutual

def Operand.lexemes : Operand → List Lexeme
  | .atom _ e => [.operand (some e)]
  | .sign _ f o => .operand none :: .operator (.apply f) :: o.lexemes
  | .bracket _ inner _ => .operand none :: .operator .opening :: (inner.lexemes ++ [.operator .closing])

def Chain.lexemes : Chain → List Lexeme
  | .one o => o.lexemes
  | .more c g o => c.lexemes ++ .operator (.apply g) :: o.lexemes

end

mutual

def Operand.tree : Operand → Tree
  | .atom _ e => .leaf e
  | .sign _ f o => .sign f o.tree
  | .bracket _ inner _ => .leaf inner.tree.expr

/-- **The tree of a chain**, which grows by its operators, from the left. -/
def Chain.tree : Chain → Tree
  | .one o => o.tree
  | .more c g o => c.tree.extend g o.tree

end

mutual

/-- **The lexemes of an operand put its tree on the stacks.** -/
theorem group_operand : ∀ (o : Operand) (s : Stacks) (rest : List Lexeme),
    group s (o.lexemes ++ rest) = group (o.tree.load s) rest
  | .atom _ _, _, _ => rfl
  | .sign _ f o, s, rest => by
    have hpush : (Stacks.mk (none :: s.operands) s.waiting).push (.apply f) =
        .ok ⟨none :: s.operands, .apply f :: s.waiting⟩ := by
      unfold Stacks.push
      simp only [f.2]
    rw [Operand.lexemes, List.cons_append, List.cons_append, group, group, hpush]
    exact group_operand o _ rest
  | .bracket _ inner _, s, rest => by
    have hopen : ∀ n, Stops n (Operator.opening :: s.waiting) := nofun
    have hclose : (inner.tree.load ⟨s.operands, .opening :: s.waiting⟩).push .closing =
        .ok ⟨some inner.tree.expr :: s.operands, s.waiting⟩ := by
      rw [Stacks.push, closeBracket, reduceFrom_load inner.tree.waits_zero, reduceFrom_of_stops (hopen 0)]
    rw [Operand.lexemes, List.cons_append, List.cons_append, List.append_assoc, group, group, Stacks.push]
    refine (group_chain inner ⟨s.operands, .opening :: s.waiting⟩ hopen _).trans ?_
    rw [List.singleton_append, group, hclose]
    rfl

/-- **The lexemes of a chain put its tree on the stacks**, if no operator waits before it. -/
theorem group_chain : ∀ (c : Chain) (s : Stacks), (∀ n, Stops n s.waiting) → ∀ rest : List Lexeme,
    group s (c.lexemes ++ rest) = group (c.tree.load s) rest
  | .one o, s, _, rest => group_operand o s rest
  | .more c g o, s, hs, rest => by
    obtain ⟨s', hpush, hload⟩ := exists_push_load (g := g) c.tree (hs (level g))
    rw [Chain.lexemes, List.append_assoc, group_chain c s hs, List.cons_append, group, hpush]
    refine (group_operand o s' rest).trans ?_
    rw [hload, Chain.tree]

end

/-- **The two stacks make the tree of a chain of its lexemes.** -/
theorem ofLexemes_chain (c : Chain) : ofLexemes c.lexemes = .ok c.tree.expr := by
  have hnone : ∀ n, Stops n [] := nofun
  have hgroup := group_chain c ⟨[], []⟩ hnone []
  rw [List.append_nil] at hgroup
  rw [ofLexemes, hgroup, group, Stacks.finish, reduceFrom_load c.tree.waits_zero, reduceFrom_of_stops (hnone 0)]

/-! ## Empty operands -/

/-- **The stacks where an operand is due**: every operator that waits has an operand on its left, empty or not. -/
inductive Balanced : List (Option Expr) → List Operator → Prop
  | nil : Balanced [] []
  | apply {lefts : List (Option Expr)} {waiting : List Operator} (x : Option Expr) (f : Func)
      (h : Balanced lefts waiting) : Balanced (x :: lefts) (.apply f :: waiting)
  | opening {lefts : List (Option Expr)} {waiting : List Operator} (h : Balanced lefts waiting) :
      Balanced lefts (.opening :: waiting)

/-- **Some binary operator has nothing on its left.** -/
inductive Dangling : List (Option Expr) → List Operator → Prop
  | here {lefts : List (Option Expr)} {waiting : List Operator} {f : Func} (hf : isSign f = false)
      (h : Balanced lefts waiting) : Dangling (none :: lefts) (.apply f :: waiting)
  | apply {lefts : List (Option Expr)} {waiting : List Operator} (x : Option Expr) (f : Func)
      (h : Dangling lefts waiting) : Dangling (x :: lefts) (.apply f :: waiting)
  | opening {lefts : List (Option Expr)} {waiting : List Operator} (h : Dangling lefts waiting) :
      Dangling lefts (.opening :: waiting)

abbrev Due := List (Option Expr) → List Operator → Prop

/-- **What operators preserve where an operand is due**: a waiting operator may be added, or applied with what is on its
left, and brackets may be opened and closed. -/
structure Due.Kept (P : Due) : Prop where
  exists_left : ∀ {lefts waiting f}, P lefts (.apply f :: waiting) → ∃ x rest, lefts = x :: rest
  reduce : ∀ {top x lefts waiting f operands}, P (x :: lefts) (.apply f :: waiting) →
    Expr.reduce f (top :: x :: lefts) = .ok operands → ∃ top', operands = top' :: lefts ∧ P lefts waiting
  apply : ∀ {lefts waiting} (x f), P lefts waiting → P (x :: lefts) (.apply f :: waiting)
  opening : ∀ {lefts waiting}, P lefts waiting → P lefts (.opening :: waiting)
  closing : ∀ {lefts waiting}, P lefts (.opening :: waiting) → P lefts waiting

variable {P : Due} {lefts : List (Option Expr)} {top : Option Expr} {s' : Stacks}

theorem exists_of_reduce {f : Func} {x : Option Expr} (h : reduce f (top :: x :: lefts) = .ok operands) :
    (∃ top', operands = top' :: lefts) ∧ (x = none → isSign f = true) := by
  cases top with
  | none => cases h
  | some b =>
    cases x with
    | none =>
      rw [reduce] at h
      split at h
      · rename_i hf
        exact ⟨⟨_, (Except.ok.inj h).symm⟩, fun _ => hf⟩
      · cases h
    | some a =>
      rw [reduce] at h
      split at h
      · cases h
      · exact ⟨⟨_, (Except.ok.inj h).symm⟩, nofun⟩

theorem kept_balanced : Due.Kept Balanced where
  exists_left h := by
    cases h with
    | apply x f _ => exact ⟨_, _, rfl⟩
  reduce h hreduce := by
    obtain ⟨⟨top', rfl⟩, -⟩ := exists_of_reduce hreduce
    cases h with
    | apply _ _ h => exact ⟨top', rfl, h⟩
  apply x f h := .apply x f h
  opening h := .opening h
  closing h := by
    cases h with
    | opening h => exact h

theorem kept_dangling : Due.Kept Dangling where
  exists_left h := by
    cases h with
    | here _ _ => exact ⟨_, _, rfl⟩
    | apply x f _ => exact ⟨_, _, rfl⟩
  reduce h hreduce := by
    obtain ⟨⟨top', rfl⟩, hsign⟩ := exists_of_reduce hreduce
    cases h with
    | here hf _ =>
      rw [hsign rfl] at hf
      cases hf
    | apply _ _ h => exact ⟨top', rfl, h⟩
  apply x f h := .apply x f h
  opening h := .opening h
  closing h := by
    cases h with
    | opening h => exact h

theorem Dangling.balanced (h : Dangling lefts waiting) : Balanced lefts waiting := by
  induction h with
  | here _ h => exact .apply _ _ h
  | apply x f _ ih => exact .apply x f ih
  | opening _ ih => exact .opening ih

theorem Due.Kept.reduceFrom (hP : P.Kept) : ∀ {waiting : List Operator} {lefts : List (Option Expr)}
    {top : Option Expr}, P lefts waiting → reduceFrom n (top :: lefts) waiting = .ok s' →
      ∃ top' lefts', s'.operands = top' :: lefts' ∧ P lefts' s'.waiting
  | [], lefts, top, h, hreduce => by
    cases hreduce
    exact ⟨top, lefts, rfl, h⟩
  | .opening :: waiting, lefts, top, h, hreduce => by
    cases hreduce
    exact ⟨top, lefts, rfl, h⟩
  | .closing :: waiting, lefts, top, h, hreduce => by
    cases hreduce
    exact ⟨top, lefts, rfl, h⟩
  | .apply f :: waiting, lefts, top, h, hreduce => by
    rw [Expr.reduceFrom] at hreduce
    split at hreduce
    · obtain ⟨x, rest, rfl⟩ := hP.exists_left h
      split at hreduce
      · rename_i operands hf
        obtain ⟨top', rfl, hrest⟩ := hP.reduce h hf
        exact hP.reduceFrom hrest hreduce
      · cases hreduce
    · cases hreduce
      exact ⟨top, lefts, rfl, h⟩

/-- **An operator or an opening bracket** makes an operand due. -/
theorem Due.Kept.push (hP : P.Kept) {op : Operator} (hop : op ≠ .closing) (h : P lefts waiting)
    (hpush : (Stacks.mk (top :: lefts) waiting).push op = .ok s') : P s'.operands s'.waiting := by
  cases op with
  | closing => exact absurd rfl hop
  | opening =>
    cases top with
    | some a => cases hpush
    | none =>
      cases hpush
      exact hP.opening h
  | apply f =>
    have hbinary : ∀ s, Expr.reduceFrom (level f) (top :: lefts) waiting = .ok s →
        P s.operands (.apply f :: s.waiting) := by
      intro s hs
      obtain ⟨top', lefts', hoperands, hrest⟩ := hP.reduceFrom h hs
      rw [hoperands]
      exact hP.apply top' f hrest
    unfold Stacks.push at hpush
    simp only at hpush
    split at hpush
    · cases hpush
      exact hP.apply _ f h
    · split at hpush
      · cases hpush
      · rename_i s hs
        cases hpush
        exact hbinary s hs

theorem Due.Kept.close (hP : P.Kept) (h : P lefts waiting)
    (hpush : (Stacks.mk (top :: lefts) waiting).push .closing = .ok s') :
    ∃ top' lefts', s'.operands = top' :: lefts' ∧ P lefts' s'.waiting := by
  rw [Stacks.push, closeBracket] at hpush
  split at hpush
  · cases hpush
  · rename_i operands waiting' hreduce
    obtain ⟨top', lefts', hoperands, hrest⟩ := hP.reduceFrom h hreduce
    cases hpush
    exact ⟨top', lefts', hoperands, hP.closing hrest⟩
  · cases hpush

theorem ne_apply_of_reduceFrom : ∀ {waiting : List Operator} {operands : List (Option Expr)},
    reduceFrom 0 operands waiting = .ok s' → ∀ f rest, s'.waiting ≠ .apply f :: rest
  | [], _, h, f, rest, heq => by
    cases h
    cases heq
  | .opening :: _, _, h, f, rest, heq => by
    cases h
    cases heq
  | .closing :: _, _, h, f, rest, heq => by
    cases h
    cases heq
  | .apply g :: waiting, operands, h, f, rest, heq => by
    rw [reduceFrom, if_pos (Nat.zero_le _)] at h
    split at h
    · exact ne_apply_of_reduceFrom h f rest heq
    · cases h

/-- **There is no tree** while a binary operator has nothing on its left. -/
theorem finish_of_dangling {e : Expr} (h : Dangling lefts waiting) :
    (Stacks.mk (top :: lefts) waiting).finish ≠ .ok e := by
  intro hfinish
  unfold Stacks.finish at hfinish
  cases hreduce : reduceFrom 0 (top :: lefts) waiting with
  | error cause =>
    rw [hreduce] at hfinish
    cases hfinish
  | ok s =>
    obtain ⟨top', lefts', hoperands, hrest⟩ := kept_dangling.reduceFrom h hreduce
    have happly := ne_apply_of_reduceFrom hreduce
    obtain ⟨operands, waiting⟩ := s
    rw [hreduce] at hfinish
    cases hrest with
    | here _ _ => exact happly _ _ rfl
    | apply _ _ _ => exact happly _ _ rfl
    | opening _ => cases hfinish

theorem Balanced.swap {x y : Option Expr} (h : Balanced (x :: lefts) waiting) : Balanced (y :: lefts) waiting := by
  generalize hl : x :: lefts = l at h
  induction h with
  | nil => cases hl
  | apply z f h _ =>
    cases hl
    exact .apply y f h
  | opening _ ih => exact .opening (ih hl)

/-- With one operand missing, all are used up, or a bracket stays open. -/
theorem Balanced.reduceFrom : ∀ {waiting : List Operator} {lefts : List (Option Expr)}, Balanced lefts waiting →
    reduceFrom 0 lefts waiting = .ok s' → s'.operands = [] ∨ ∃ rest, s'.waiting = .opening :: rest
  | [], _, .nil, hreduce => by
    cases hreduce
    exact .inl rfl
  | .opening :: waiting, _, .opening _, hreduce => by
    cases hreduce
    exact .inr ⟨_, rfl⟩
  | .apply f :: waiting, _, @Balanced.apply lefts _ x _ h, hreduce => by
    rw [Expr.reduceFrom, if_pos (Nat.zero_le _)] at hreduce
    cases lefts with
    | nil => cases x <;> cases hreduce
    | cons y rest =>
      split at hreduce
      · rename_i operands hf
        obtain ⟨⟨top', rfl⟩, -⟩ := exists_of_reduce hf
        exact Balanced.reduceFrom h.swap hreduce
      · cases hreduce

theorem finish_of_balanced {e : Expr} (h : Balanced lefts waiting) : (Stacks.mk lefts waiting).finish ≠ .ok e := by
  intro hfinish
  unfold Stacks.finish at hfinish
  cases hreduce : Expr.reduceFrom 0 lefts waiting with
  | error cause =>
    rw [hreduce] at hfinish
    cases hfinish
  | ok s =>
    obtain ⟨operands, rest⟩ := s
    rw [hreduce] at hfinish
    rcases h.reduceFrom hreduce with hnil | ⟨more, hopening⟩
    · cases (show operands = [] from hnil)
      cases rest <;> cases hfinish
    · cases (show rest = .opening :: more from hopening)
      cases hfinish

theorem Balanced.load : ∀ (t : Tree) {s : Stacks}, Balanced s.operands s.waiting →
    ∃ top lefts, (t.load s).operands = top :: lefts ∧ Balanced lefts (t.load s).waiting
  | .leaf e, s, h => ⟨some e, s.operands, rfl, h⟩
  | .sign f t, _, h => Balanced.load t (.apply none f h)
  | .both f l t, _, h => Balanced.load t (.apply (some l.expr) f h)

end Remedy.Expr
