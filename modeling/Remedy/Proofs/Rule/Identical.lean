import Remedy.Program.Basic
/-!
# Proofs.Rule.Identical — equality of rules that can be computed

Values hold floating point numbers, so the equality of rules is not decidable.  That of rules whose constants are whole
numbers and that have no templates is: what is found to be identical is equal (`Clause.eq_of_identical`,
`Predicate.eq_of_identical`), which lets rules that have been compiled be compared with rules that are written down.
-/
namespace Remedy

/-- The two values are the same whole number. -/
def Value.identical : Value → Value → Bool
  | .int m, .int n => m == n
  | _, _ => false

mutual

/-- The two expressions are the same, and their constants are whole numbers. -/
def Expr.identical : Expr → Expr → Bool
  | .literal v, .literal w => v.identical w
  | .var m, .var n => m == n
  | .call f as, .call g bs => decide (f = g) && Expr.identicalArgs as bs
  | _, _ => false

def Expr.identicalArgs : List Expr → List Expr → Bool
  | [], [] => true
  | a :: as, b :: bs => Expr.identical a b && Expr.identicalArgs as bs
  | _, _ => false

end

mutual

/-- The two terms are the same, their constants are whole numbers, and nothing in them is a template. -/
def Term.identical : Term → Term → Bool
  | .const v, .const w => v.identical w
  | .var m i, .var n j => m == n && i == j
  | .compound f as, .compound g bs => f == g && Term.identicalArgs as bs
  | .nil, .nil => true
  | _, _ => false

def Term.identicalArgs : List (Arg Term) → List (Arg Term) → Bool
  | [], [] => true
  | a :: as, b :: bs => a.name == b.name && Term.identical a.value b.value && Term.identicalArgs as bs
  | _, _ => false

end

/-- The goals are the same: a cut, a test, a value that is computed, or a call of an own predicate. -/
def Goal.identical : Goal Callee → Goal Callee → Bool
  | .cut, .cut => true
  | .is t d, .is u e => t.identical u && d.identical e
  | .test d, .test e => d.identical e
  | .call (.own m) c, .call (.own n) d =>
    m == n && c.functor == d.functor && Term.identicalArgs c.args d.args
  | _, _ => false

def identicalAll {α : Type} (same : α → α → Bool) : List α → List α → Bool
  | [], [] => true
  | a :: as, b :: bs => same a b && identicalAll same as bs
  | _, _ => false

/-- The rules are the same, and their constants are whole numbers. -/
def Clause.identical (c d : Clause Callee) : Bool :=
  c.head.functor == d.head.functor && Term.identicalArgs c.head.args d.head.args &&
    identicalAll Goal.identical c.body d.body && decide (c.vars = d.vars) && c.text == d.text && c.line == d.line

/-- The predicates are the same; they have no contract, and the constants of their rules are whole numbers. -/
def Predicate.identical (p q : Predicate) : Bool :=
  p.name == q.name && decide (p.kind = q.kind) && p.isPublic == q.isPublic &&
    identicalAll Clause.identical p.clauses q.clauses && p.contract.isEmpty && q.contract.isEmpty

theorem Value.eq_of_identical : ∀ {v w : Value}, v.identical w = true → v = w
  | .int _, .int _, h => congrArg Value.int (eq_of_beq h)

mutual

theorem Expr.eq_of_identical : ∀ {d e : Expr}, d.identical e = true → d = e
  | .literal _, .literal _, h => congrArg Expr.literal (Value.eq_of_identical h)
  | .var m, .var n, h => congrArg Expr.var (eq_of_beq h)
  | .call f as, .call g bs, h => by
    rw [Expr.identical, Bool.and_eq_true, decide_eq_true_iff] at h
    rw [h.1, Expr.eq_of_identicalArgs h.2]
  | .literal _, .var _, h | .literal _, .call _ _, h | .var _, .literal _, h | .var _, .call _ _, h
  | .call _ _, .literal _, h | .call _ _, .var _, h => by
    cases h

theorem Expr.eq_of_identicalArgs : ∀ {as bs : List Expr}, Expr.identicalArgs as bs = true → as = bs
  | [], [], _ => rfl
  | a :: as, b :: bs, h => by
    rw [Expr.identicalArgs, Bool.and_eq_true] at h
    rw [Expr.eq_of_identical h.1, Expr.eq_of_identicalArgs h.2]

end

mutual

theorem Term.eq_of_identical : ∀ {t u : Term}, t.identical u = true → t = u
  | .var m i, .var n j, h => by
    rw [Term.identical, Bool.and_eq_true] at h
    rw [eq_of_beq h.1, eq_of_beq h.2]
  | .compound f as, .compound g bs, h => by
    rw [Term.identical, Bool.and_eq_true] at h
    rw [eq_of_beq h.1, Term.eq_of_identicalArgs h.2]
  | .nil, .nil, _ => rfl
  | .const _, .const _, h => congrArg Term.const (Value.eq_of_identical h)
  | .const _, .var _ _, h | .const _, .compound _ _, h | .const _, .template _, h | .const _, .nil, h
  | .template _, _, h | .var _ _, .const _, h | .var _ _, .compound _ _, h
  | .var _ _, .template _, h | .var _ _, .nil, h | .compound _ _, .const _, h | .compound _ _, .var _ _, h
  | .compound _ _, .template _, h | .compound _ _, .nil, h | .nil, .const _, h | .nil, .var _ _, h
  | .nil, .compound _ _, h | .nil, .template _, h => by
    cases h

theorem Term.eq_of_identicalArgs : ∀ {as bs : List (Arg Term)}, Term.identicalArgs as bs = true → as = bs
  | [], [], _ => rfl
  | ⟨m, a⟩ :: as, ⟨n, b⟩ :: bs, h => by
    rw [Term.identicalArgs, Bool.and_eq_true, Bool.and_eq_true] at h
    obtain ⟨⟨hname, hvalue⟩, hrest⟩ := h
    obtain rfl : m = n := eq_of_beq hname
    obtain rfl : a = b := Term.eq_of_identical hvalue
    rw [Term.eq_of_identicalArgs hrest]

end

theorem Goal.eq_of_identical : ∀ {g h : Goal Callee}, g.identical h = true → g = h
  | .cut, .cut, _ => rfl
  | .is t d, .is u e, h => by
    rw [Goal.identical, Bool.and_eq_true] at h
    rw [Term.eq_of_identical h.1, Expr.eq_of_identical h.2]
  | .test d, .test e, h => congrArg Goal.test (Expr.eq_of_identical h)
  | .call (.own m) ⟨f, as⟩, .call (.own n) ⟨g, bs⟩, h => by
    rw [Goal.identical, Bool.and_eq_true, Bool.and_eq_true] at h
    obtain ⟨⟨hindex, hfunctor⟩, hargs⟩ := h
    obtain rfl : m = n := eq_of_beq hindex
    obtain rfl : f = g := eq_of_beq hfunctor
    obtain rfl : as = bs := Term.eq_of_identicalArgs hargs
    rfl

theorem eq_of_identicalAll {α : Type} {same : α → α → Bool} (hsame : ∀ {a b}, same a b = true → a = b) :
    ∀ {as bs : List α}, identicalAll same as bs = true → as = bs
  | [], [], _ => rfl
  | a :: as, b :: bs, h => by
    rw [identicalAll, Bool.and_eq_true] at h
    rw [hsame h.1, eq_of_identicalAll hsame h.2]

theorem Clause.eq_of_identical : ∀ {c d : Clause Callee}, c.identical d = true → c = d
  | ⟨⟨f, as⟩, body, vars, text, line⟩, ⟨⟨g, bs⟩, body', vars', text', line'⟩, h => by
    simp only [Clause.identical, Bool.and_eq_true, decide_eq_true_eq, beq_iff_eq] at h
    obtain ⟨⟨⟨⟨⟨rfl, hargs⟩, hbody⟩, rfl⟩, rfl⟩, rfl⟩ := h
    rw [Term.eq_of_identicalArgs hargs, eq_of_identicalAll Goal.eq_of_identical hbody]

theorem Predicate.eq_of_identical : ∀ {p q : Predicate}, p.identical q = true → p = q
  | ⟨name, kind, isPublic, clauses, contract⟩, ⟨name', kind', isPublic', clauses', contract'⟩, h => by
    simp only [Predicate.identical, Bool.and_eq_true, decide_eq_true_eq, beq_iff_eq, List.isEmpty_iff] at h
    obtain ⟨⟨⟨⟨⟨rfl, rfl⟩, rfl⟩, hclauses⟩, rfl⟩, rfl⟩ := h
    rw [eq_of_identicalAll Clause.eq_of_identical hclauses]

end Remedy
