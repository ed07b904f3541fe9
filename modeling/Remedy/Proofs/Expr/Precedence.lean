import Remedy.Proofs.Expr.Grouping
/-!
# Proofs.Expr.Precedence — where signs upset the levels of operators

Without its signs a tree is a shape.  Operators are grouped by their levels if each has operators of its own or higher
levels on its left and of higher levels only on its right (`Shape.ByLevel`); a row of operators has one such shape
(`Shape.eq_of_row_eq`).  One more operator keeps to the levels just if the operator above its place is of a lower level
(`Tree.Lands`).  A minus sign does not make room for operators of higher levels, so one of these can come to stand below
an operator that should have been applied before it (`Chain.Blocks`), and only so (`byLevel_iff_undisturbed`).
-/
namespace Remedy.Expr

variable {n m : Nat} {f g : Binary} {e : Expr} {r : Tree}

/-! ## Shapes -/

inductive Shape
  | leaf (e : Expr)
  | both (f : Binary) (l r : Shape)

namespace Shape

/-- **Operators of level `n` or higher, grouped by their levels**; those of one level from the left. -/
def ByLevel (n : Nat) : Shape → Prop
  | leaf _ => True
  | both f l r => n ≤ level f ∧ l.ByLevel (level f) ∧ r.ByLevel (level f + 1)

/-- The atoms and the operators between them. -/
def row : Shape → List (Expr ⊕ Binary)
  | leaf e => [.inl e]
  | both f l r => l.row ++ .inr f :: r.row

theorem ByLevel.mono : ∀ {s : Shape}, s.ByLevel n → m ≤ n → s.ByLevel m
  | leaf _, _, _ => trivial
  | both _ _ _, ⟨hf, hl, hr⟩, h => ⟨Nat.le_trans h hf, hl, hr⟩

theorem ByLevel.le_level : ∀ {s : Shape} {n : Nat}, s.ByLevel n → .inr f ∈ s.row → n ≤ level f
  | leaf _, _, _, hf => by simp [row] at hf
  | both g l r, n, ⟨hg, hl, hr⟩, hf => by
    simp only [row, List.mem_append, List.mem_cons, Sum.inr.injEq] at hf
    rcases hf with hf | rfl | hf
    · exact Nat.le_trans hg (hl.le_level hf)
    · exact hg
    · exact Nat.le_trans hg (Nat.le_of_succ_le (hr.le_level hf))

theorem length_row_pos : ∀ s : Shape, 0 < s.row.length
  | leaf _ => Nat.one_pos
  | both _ _ _ => by
    simp only [row, List.length_append, List.length_cons]
    omega

/-- **A row of operators is grouped by their levels in one way only.** -/
theorem eq_of_row_eq : ∀ {s s' : Shape} {n m : Nat}, s.ByLevel n → s'.ByLevel m → s.row = s'.row → s = s'
  | leaf _, leaf _, _, _, _, _, h => by
    cases h
    rfl
  | leaf _, both f l r, _, _, _, _, h | both f l r, leaf _, _, _, _, _, h => by
    have hlength := congrArg List.length h
    have hl := length_row_pos l
    simp only [row, List.length_append, List.length_cons, List.length_nil] at hlength
    omega
  | both f l r, both f' l' r', _, _, ⟨_, hl, hr⟩, ⟨_, hl', hr'⟩, h => by
    rw [row, row] at h
    -- if the roots stood apart, each would lie on a side of the other where its level is too low
    rcases List.append_eq_append_iff.1 h with ⟨between, hfirst, hsecond⟩ | ⟨between, hfirst, hsecond⟩ <;>
      rcases between with _ | ⟨a, between⟩
    · obtain ⟨hroot, hrest⟩ := List.cons.inj hsecond
      rw [List.append_nil] at hfirst
      rw [Sum.inr.inj hroot, eq_of_row_eq hl hl' hfirst.symm, eq_of_row_eq hr hr' hrest]
    · obtain ⟨rfl, hrest⟩ := List.cons.inj hsecond
      have hle : level f' ≤ level f := hl'.le_level (by simp [hfirst])
      have hlt : level f + 1 ≤ level f' := hr.le_level (by simp [hrest])
      omega
    · obtain ⟨hroot, hrest⟩ := List.cons.inj hsecond
      rw [List.append_nil] at hfirst
      rw [Sum.inr.inj hroot, eq_of_row_eq hl hl' hfirst, eq_of_row_eq hr hr' hrest.symm]
    · obtain ⟨rfl, hrest⟩ := List.cons.inj hsecond
      have hle : level f ≤ level f' := hl.le_level (by simp [hfirst])
      have hlt : level f' + 1 ≤ level f := hr'.le_level (by simp [hrest])
      omega

end Shape

/-! ## Trees -/

inductive Token
  | atom (e : Expr)
  | sign (f : Sign)
  | op (f : Binary)

namespace Tree

/-- The atoms, signs and operators of a tree, as they are written. -/
def row : Tree → List Token
  | leaf e => [.atom e]
  | sign f t => .sign f :: t.row
  | both f l r => l.row ++ .op f :: r.row

def shape : Tree → Shape
  | leaf e => .leaf e
  | sign _ t => t.shape
  | both f l r => .both f l.shape r.shape

/-- **The operator above the place of a further one is of a lower level**; above the tree there are only operators of
levels below `n`. -/
def Lands (n : Nat) (g : Binary) : Tree → Prop
  | leaf _ => n ≤ level g
  | sign _ t => t.Lands n g
  | both f l t => if (both f l t).waits (level g) then t.Lands (level f + 1) g else n ≤ level g

theorem lands_of_not_waits : ∀ {t : Tree}, t.waits (level g) = false → (t.Lands n g ↔ n ≤ level g)
  | leaf _, _ => Iff.rfl
  | sign _ t, h => lands_of_not_waits (t := t) (Bool.or_eq_false_iff.1 h).2
  | both _ _ _, h => by simp [Lands, h]

theorem lands_of_shape : ∀ {t : Tree}, t.shape = .leaf e → (t.Lands n g ↔ n ≤ level g)
  | leaf _, _ => Iff.rfl
  | sign _ t, h => lands_of_shape (t := t) h

theorem byLevel_of_not_waits : ∀ {t : Tree}, t.shape.ByLevel n → t.waits m = false → t.shape.ByLevel m
  | leaf _, _, _ => trivial
  | sign _ t, h, hw => byLevel_of_not_waits (t := t) h (Bool.or_eq_false_iff.1 hw).2
  | both _ _ _, ⟨_, hl, hr⟩, hw => ⟨Nat.not_lt.1 (of_decide_eq_false (Bool.or_eq_false_iff.1 hw).1), hl, hr⟩

theorem byLevel_both {t : Tree} (hr : r.shape = .leaf e) (h : t.shape.ByLevel n) (hw : t.waits (level g) = false) :
    (both g t r).shape.ByLevel n ↔ n ≤ level g := by
  rw [shape, hr]
  constructor
  · intro h
    exact h.1
  · intro hn
    exact ⟨hn, byLevel_of_not_waits h hw, trivial⟩

/-- **One more operator keeps to the levels** just if the operator above its place is of a lower level. -/
theorem byLevel_extend (hr : r.shape = .leaf e) : ∀ {t : Tree} {n : Nat}, t.shape.ByLevel n →
    ((t.extend g r).shape.ByLevel n ↔ t.Lands n g)
  | leaf _, _, h => byLevel_both hr h rfl
  | sign f t, n, h => by
    by_cases hw : (sign f t).waits (level g) = true
    · rw [extend, if_pos hw]
      exact byLevel_extend (t := t) hr h
    · rw [lands_of_not_waits (Bool.eq_false_iff.2 hw), extend, if_neg hw]
      exact byLevel_both hr h (Bool.eq_false_iff.2 hw)
  | both f l t, n, h => by
    by_cases hw : (both f l t).waits (level g) = true
    · rw [extend, if_pos hw, Lands, if_pos hw, ← byLevel_extend hr h.2.2]
      constructor
      · intro h
        exact h.2.2
      · intro ht
        exact ⟨h.1, h.2.1, ht⟩
    · rw [lands_of_not_waits (Bool.eq_false_iff.2 hw), extend, if_neg hw]
      exact byLevel_both hr h (Bool.eq_false_iff.2 hw)

theorem byLevel_of_extend : ∀ {t : Tree} {n : Nat}, (t.extend g r).shape.ByLevel n → t.shape.ByLevel n
  | leaf _, _, _ => trivial
  | sign f t, n, h => by
    rw [extend] at h
    split at h
    · exact byLevel_of_extend (t := t) h
    · exact h.2.1.mono h.1
  | both f l t, n, h => by
    rw [extend] at h
    split at h
    · exact ⟨h.1, h.2.1, byLevel_of_extend h.2.2⟩
    · exact h.2.1.mono h.1

/-! ## The next operator but one -/

theorem not_waits_mono : ∀ {t : Tree}, t.waits n = false → m ≤ n → t.waits m = false
  | leaf _, _, _ => rfl
  | sign _ t, h, hm | both _ _ t, h, hm => by
    simp only [waits, Bool.or_eq_false_iff, decide_eq_false_iff_not, Nat.not_lt] at h ⊢
    exact ⟨Nat.le_trans hm h.1, not_waits_mono h.2 hm⟩

theorem waits_extend_of_lt (h : level f < n) : ∀ t : Tree, (t.extend f r).waits n = true
  | leaf _ => by simp [extend, waits, h]
  | sign _ t | both _ _ t => by
    rw [extend]
    split
    · simp [waits, waits_extend_of_lt h t]
    · simp [waits, h]

theorem waits_extend_of_le (h : n ≤ level f) : ∀ t : Tree, (t.extend f r).waits n = (r.waits n || t.waits n)
  | leaf _ => by simp [extend, waits, Nat.not_lt.2 h]
  | sign _ t | both _ _ t => by
    rw [extend]
    split
    · simp [waits, waits_extend_of_le h t, Bool.or_left_comm]
    · rename_i hw
      rw [not_waits_mono (Bool.eq_false_iff.2 hw) h]
      simp [waits, Nat.not_lt.2 h]

theorem lands_both {t : Tree} (hr : r.shape = .leaf e) (hw : t.waits (level f) = false) :
    (both f t r).Lands n g ↔ level f < level g ∨ r.waits (level g) = false ∧ t.Lands n g := by
  by_cases hlt : level f < level g
  · simp only [Lands, waits, hlt, decide_true, Bool.true_or, if_true, lands_of_shape hr, true_or, iff_true]
    exact hlt
  · have hle := Nat.not_lt.1 hlt
    cases hwr : r.waits (level g) with
    | true =>
      have hwaits : (both f t r).waits (level g) = true := by simp [waits, hwr]
      rw [Lands, if_pos hwaits, lands_of_shape hr, Nat.add_one_le_iff]
      simp
    | false => simp [Lands, waits, hwr, hlt, lands_of_not_waits (not_waits_mono hw hle)]

/-- **Where the next operator but one lands**: in the right operand of the one before, or, if no sign there makes it
wait, where it would have landed without that one. -/
theorem lands_extend (hr : r.shape = .leaf e) : ∀ {t : Tree} {n : Nat},
    (t.extend f r).Lands n g ↔ level f < level g ∨ r.waits (level g) = false ∧ t.Lands n g
  | leaf _, _ => lands_both hr rfl
  | sign h t, n => by
    by_cases hw : (sign h t).waits (level f) = true
    · rw [extend, if_pos hw]
      exact lands_extend (t := t) hr
    · rw [extend, if_neg hw]
      exact lands_both hr (Bool.eq_false_iff.2 hw)
  | both h l t, n => by
    by_cases hw : (both h l t).waits (level f) = true
    · rw [extend, if_pos hw]
      have ih : (t.extend f r).Lands (level h + 1) g ↔ _ := lands_extend hr
      -- whether the further operator goes below the root is up to what the root has been extended by
      by_cases hlt : level f < level g
      · simp [Lands, waits, waits_extend_of_lt hlt t, ih, hlt]
      · have hwaits := waits_extend_of_le (r := r) (Nat.not_lt.1 hlt) t
        cases hwr : r.waits (level g) with
        | true => simp [Lands, waits, hwaits, ih, hlt, hwr]
        | false => simp [Lands, waits, hwaits, ih, hlt, hwr]
    · rw [extend, if_neg hw]
      exact lands_both hr (Bool.eq_false_iff.2 hw)

theorem row_extend : ∀ t : Tree, (t.extend g r).row = t.row ++ .op g :: r.row
  | leaf _ => rfl
  | sign _ t => by
    rw [extend]
    split
    · simp [row, row_extend t]
    · rfl
  | both _ l t => by
    rw [extend]
    split
    · simp [row, row_extend t]
    · rfl

end Tree

/-! ## Chains -/

def Operand.negated : Operand → Bool
  | .atom _ _ => false
  | .sign _ f o => f.1 == .sub || o.negated
  | .bracket _ _ _ => false

/-- **A minus sign keeps an operator from one that should be applied before it.** -/
def Chain.Blocks (g : Binary) : Chain → Prop
  | .one _ => False
  | .more c f o => level g ≤ level f ∧ (o.negated = true ∧ level .sub < level g ∨ c.Blocks g)

/-- No operator of a chain is kept from one before it. -/
def Chain.Undisturbed : Chain → Prop
  | .one _ => True
  | .more c g _ => c.Undisturbed ∧ ¬c.Blocks g

instance decidableBlocks (g : Binary) : ∀ c : Chain, Decidable (c.Blocks g)
  | .one _ => inferInstanceAs (Decidable False)
  | .more c f o =>
    have := decidableBlocks g c
    inferInstanceAs (Decidable (level g ≤ level f ∧ (o.negated = true ∧ level .sub < level g ∨ c.Blocks g)))

instance decidableUndisturbed : ∀ c : Chain, Decidable c.Undisturbed
  | .one _ => inferInstanceAs (Decidable True)
  | .more c g _ =>
    have := decidableUndisturbed c
    inferInstanceAs (Decidable (c.Undisturbed ∧ ¬c.Blocks g))

def Operand.row : Operand → List Token
  | .atom _ e => [.atom e]
  | .sign _ f o => .sign f :: o.row
  | .bracket _ inner _ => [.atom inner.tree.expr]

def Chain.row : Chain → List Token
  | .one o => o.row
  | .more c g o => c.row ++ .op g :: o.row

theorem Operand.row_tree : ∀ o : Operand, o.tree.row = o.row
  | .atom _ _ => rfl
  | .sign _ f o => congrArg (Token.sign f :: ·) o.row_tree
  | .bracket _ _ _ => rfl

theorem Chain.row_tree : ∀ c : Chain, c.tree.row = c.row
  | .one o => o.row_tree
  | .more c g o => by rw [Chain.tree, Tree.row_extend, c.row_tree, o.row_tree, Chain.row]

theorem level_le_not : ∀ f : Func, level f ≤ level .not := by
  intro f
  cases f <;> decide

theorem Operand.exists_shape : ∀ o : Operand, ∃ e, o.tree.shape = .leaf e
  | .atom _ e => ⟨e, rfl⟩
  | .sign _ _ o => o.exists_shape
  | .bracket _ inner _ => ⟨inner.tree.expr, rfl⟩

theorem Operand.waits_tree : ∀ o : Operand, o.tree.waits (level g) = (o.negated && decide (level .sub < level g))
  | .atom _ _ => rfl
  | .bracket _ _ _ => rfl
  | .sign _ f o => by
    rw [Operand.tree, Tree.waits, Operand.waits_tree o, Operand.negated]
    rcases sign_cases f with h | h
    · have hne : (Func.not == Func.sub) = false := rfl
      simp [h, hne, Nat.not_lt.2 (level_le_not g)]
    · simp [h]

theorem Chain.lands_tree : ∀ c : Chain, c.tree.Lands 0 g ↔ ¬c.Blocks g
  | .one o => by
    obtain ⟨e, he⟩ := o.exists_shape
    simp [Chain.tree, Tree.lands_of_shape he, Chain.Blocks]
  | .more c f o => by
    obtain ⟨e, he⟩ := o.exists_shape
    rw [Chain.tree, Tree.lands_extend he, c.lands_tree, o.waits_tree, Chain.Blocks]
    by_cases hlt : level f < level g
    · simp [hlt, Nat.not_le.2 hlt]
    · cases hn : o.negated <;> simp [hlt, Nat.not_lt.1 hlt]

/-- **The operators of a chain are grouped by their levels** just if no minus sign keeps one from another. -/
theorem Chain.byLevel_iff_undisturbed : ∀ c : Chain, c.tree.shape.ByLevel 0 ↔ c.Undisturbed
  | .one o => by
    obtain ⟨e, he⟩ := o.exists_shape
    simp [Chain.tree, he, Shape.ByLevel, Chain.Undisturbed]
  | .more c g o => by
    obtain ⟨e, he⟩ := o.exists_shape
    rw [Chain.tree, Chain.Undisturbed, ← c.byLevel_iff_undisturbed, ← c.lands_tree]
    constructor
    · intro h
      have hc := Tree.byLevel_of_extend h
      exact ⟨hc, (Tree.byLevel_extend he hc).1 h⟩
    · rintro ⟨hc, hlands⟩
      exact (Tree.byLevel_extend he hc).2 hlands

/-! ## Chains without signs -/

def Operand.bare : Operand → Operand
  | .atom text e => .atom text e
  | .sign _ _ o => o.bare
  | .bracket before inner after => .bracket before inner after

/-- **A chain without its signs**, but for those inside its atoms and brackets. -/
def Chain.bare : Chain → Chain
  | .one o => .one o.bare
  | .more c g o => .more c.bare g o.bare

theorem Operand.negated_bare : ∀ o : Operand, o.bare.negated = false
  | .atom _ _ => rfl
  | .sign _ _ o => o.negated_bare
  | .bracket _ _ _ => rfl

theorem Chain.not_blocks_bare : ∀ c : Chain, ¬c.bare.Blocks g
  | .one _ => id
  | .more c f o => by simp [Chain.bare, Chain.Blocks, o.negated_bare, c.not_blocks_bare]

theorem Chain.undisturbed_bare : ∀ c : Chain, c.bare.Undisturbed
  | .one _ => trivial
  | .more c _ _ => ⟨c.undisturbed_bare, c.not_blocks_bare⟩

def Token.bare? : Token → Option (Expr ⊕ Binary)
  | atom e => some (.inl e)
  | sign _ => none
  | op f => some (.inr f)

theorem Tree.row_shape : ∀ t : Tree, t.shape.row = t.row.filterMap Token.bare?
  | leaf _ => rfl
  | sign _ t => t.row_shape
  | both f l r => by
    rw [shape, Shape.row, l.row_shape, r.row_shape, row, List.filterMap_append]
    rfl

theorem Operand.row_bare : ∀ o : Operand, o.bare.row.filterMap Token.bare? = o.row.filterMap Token.bare?
  | .atom _ _ => rfl
  | .sign _ _ o => o.row_bare
  | .bracket _ _ _ => rfl

theorem Chain.row_bare : ∀ c : Chain, c.bare.row.filterMap Token.bare? = c.row.filterMap Token.bare?
  | .one o => o.row_bare
  | .more c g o => by
    simp only [Chain.bare, Chain.row, List.filterMap_append, List.filterMap_cons, c.row_bare, o.row_bare]

/-- **The signs do not change how operators are grouped** just if no minus sign keeps one from another. -/
theorem Chain.shape_bare_iff (c : Chain) : c.tree.shape = c.bare.tree.shape ↔ c.Undisturbed := by
  have hbare := c.bare.byLevel_iff_undisturbed.2 c.undisturbed_bare
  constructor
  · intro h
    rw [← c.byLevel_iff_undisturbed, h]
    exact hbare
  · intro h
    refine Shape.eq_of_row_eq (c.byLevel_iff_undisturbed.2 h) hbare ?_
    rw [Tree.row_shape, Tree.row_shape, Chain.row_tree, Chain.row_tree, Chain.row_bare]

end Remedy.Expr
