import Remedy.Proofs.Bindings.Meaning
import Remedy.Proofs.Program.System
import Remedy.Proofs.Query.Simulation
/-!
# Proofs.Query.Matching — which of the rules for lists fit a call

The rules for lists come in pairs: one for the empty list and one for a cell, which goes on with the rest of the list.
Of such a pair the first argument decides if it is given (`unfit_nil`, `unfit_cell`).  What a rule that fits leaves given
and open is said for each of them, and so is what an answer of the call that it makes comes to for its own call: a list
is split or joined item by item, searched, measured or reversed.
-/
namespace Remedy

namespace Lists

open Bindings (Extends Takes Clashes Open)
open Query (Copy Answers headed)

variable {b c d : Bindings} {s t u v x xs : Term} {m n : String} {i j k : Nat}

/-! ## Heads and goals -/

section Heads

variable {name : String} {ts us : List Term} {body : List (Goal Callee)} {names : List String} {I : List Nat}

theorem headed_rule (h : ts.length = us.length) (b : Bindings) (k : Nat) (body : List (Goal Callee))
    (names : List String) : headed b ⟨name, positional ts⟩ (rule k name us body names) =
      (b.allocate names.length).2.unifyAll (List.zipWith .pair ts (us.map (Term.offset b.size))) := by
  have hhead : (rule k name us body names).head.offset b.size = ⟨name, positional (us.map (Term.offset b.size))⟩ :=
    Call.offset_positional b.size name us
  unfold headed Bindings.unifyCall
  rw [hhead]
  exact congrArg _ (Bindings.callEquations_positional name (h.trans (List.length_map _).symm))

/-- **A rule fits** if the equations of its arguments are taken up. -/
theorem headed_of_takes (hl : ts.length = us.length)
    (h : Takes (b.allocate names.length).2 (List.zipWith .pair ts (us.map (Term.offset b.size))) k I c)
    (hk : k ≤ 10) : headed b ⟨name, positional ts⟩ (rule i name us body names) = (c, true) := by
  rw [headed_rule hl]
  exact Bindings.unifyAll_of_solves h.solves (Nat.le_trans hk (by decide))

theorem unfit_of_clashes (hl : ts.length = us.length)
    (h : Clashes k (b.allocate names.length).2 (List.zipWith .pair ts (us.map (Term.offset b.size)))) (hk : k ≤ 10) :
    (headed b ⟨name, positional ts⟩ (rule i name us body names)).2 = false := by
  rw [headed_rule hl]
  exact Bindings.unifyAll_of_clashes h (Nat.le_trans hk (by decide))

/-- **A goal that is a call** has the answers of the call. -/
theorem ofGoal_goal (props : String → Option Value) (call : Nat → Callee → Call → Bindings → Answers) (copy : Copy)
    (hargs : ∀ env, Term.instantiateArgs env copy.base (positional ts) = .ok (positional us)) (b : Bindings) :
    Answers.ofGoal props call copy (goal i name ts) b = call copy.owner (.own i) ⟨name, positional us⟩ b := by
  unfold goal
  rw [Answers.ofGoal]
  simp only [hargs]

theorem ofBody_goal (props : String → Option Value) (call : Nat → Callee → Call → Bindings → Answers) (copy : Copy)
    (hargs : ∀ env, Term.instantiateArgs env copy.base (positional ts) = .ok (positional us)) (b : Bindings) :
    Answers.ofBody props call copy [goal i name ts] b = call copy.owner (.own i) ⟨name, positional us⟩ b := by
  rw [Answers.ofBody, ofGoal_goal props call copy hargs]
  exact Answers.bind_answer _

/-- **The end of a list** does not fit a rule for cells. -/
theorem unfit_nil (hl : ts.length = us.length) (ht : b.Denotes t .nil) (u v : Term) :
    (headed b ⟨name, positional (t :: ts)⟩ (rule i name (.cell u v :: us) body names)).2 = false := by
  have hclash := (Bindings.clashes_nil_cell (ht.kept (Extends.refl.allocate names.length)) (u.offset b.size)
    (v.offset b.size)).append_right (List.zipWith .pair ts (us.map (Term.offset b.size)))
  rw [← Term.offset_cell] at hclash
  exact unfit_of_clashes (congrArg (· + 1) hl) hclash (by decide)

/-- **A list with a first item** does not fit a rule for the empty list. -/
theorem unfit_cell (hl : ts.length = us.length) (ht : b.Denotes t (.cell x xs)) :
    (headed b ⟨name, positional (t :: ts)⟩ (rule i name (.nil :: us) body names)).2 = false := by
  have hclash := (Bindings.clashes_cell_nil (ht.kept (Extends.refl.allocate names.length))).append_right
    (List.zipWith .pair ts (us.map (Term.offset b.size)))
  exact unfit_of_clashes (congrArg (· + 1) hl) hclash (by decide)

end Heads

/-- **An answer gives a term**, the first being what stands for it in the call. -/
structure Gives (b : Bindings) (t : Term) (c : Bindings) (u : Term) : Prop where
  extended : Extends b c
  denotes : c.Denotes t u

/-! ## Splitting a list -/

/-- **An answer gives two lists**, the items of a list up to some place and those after it. -/
structure Splits (b : Bindings) (s t : Term) (c : Bindings) (p : List Term × List Term) : Prop where
  extended : Extends b c
  front : c.Denotes s (.list p.1 .nil)
  back : c.Denotes t (.list p.2 .nil)

theorem fit_splitNil (hi : b.Open i) (hj : b.Open j) (hne : i ≠ j) {l : List Term} (ht : b.Denotes t (.list l .nil)) :
    ∃ c, headed b ⟨"append", positional [.var m i, .var n j, t]⟩ appendNil = (c, true) ∧
      Splits b (.var m i) (.var n j) c ([], l) := by
  have hlt := hi.lt
  have hlt' := hj.lt
  have hnew : Extends b (b.allocate 1).2 := Extends.refl.allocate 1
  obtain ⟨c₁, h₁, hfront⟩ := Bindings.exists_takes_open (hi.allocate 1) (Eq.refl (Term.isVar .nil))
  have hYs : c₁.Open (0 + b.size) := h₁.open_one (Bindings.open_new Nat.one_pos) (by omega)
  obtain ⟨c₂, h₂, hback⟩ := Bindings.exists_takes_link (h₁.open_one (hj.allocate 1) (Ne.symm hne)) hYs (by omega)
  have hgiven := ht.kept (hnew.trans (h₁.extended.trans h₂.extended))
  obtain ⟨c₃, h₃, hrest⟩ := Bindings.exists_takes_given hgiven (h₂.open_one hYs (by omega))
  have hall := h₁.cons (h₂.cons h₃)
  refine ⟨c₃, headed_of_takes rfl hall (by decide), hnew.trans hall.extended, ?_, ?_⟩
  · exact Bindings.denotes_var ((h₂.extended.trans h₃.extended).lookup?_eq hfront) (Bindings.denotes_self rfl)
  · exact Bindings.denotes_var (h₃.extended.lookup?_eq hback) hrest

/-- **A first item is kept for the front**, and the rest of the list is split in every way. -/
theorem fit_splitCell (hi : b.Open i) (hj : b.Open j) (hne : i ≠ j) (ht : b.Denotes t (.cell x xs)) :
    ∃ c, headed b ⟨"append", positional [.var m i, .var n j, t]⟩ appendCell = (c, true) ∧ Extends b c ∧
      c.Open (1 + b.size) ∧ c.Open (2 + b.size) ∧ c.Denotes (.var "Zs" (3 + b.size)) xs ∧
      ∀ d u v, Extends c d → d.Denotes (.var "Xs" (1 + b.size)) u → d.Denotes (.var "Ys" (2 + b.size)) v →
        d.Denotes (.var m i) (.cell x u) ∧ d.Denotes (.var n j) v := by
  have hlt := hi.lt
  have hlt' := hj.lt
  have hnew : Extends b (b.allocate 4).2 := Extends.refl.allocate 4
  have hfresh : ∀ k < 4, (b.allocate 4).2.Open (k + b.size) := fun k hk => Bindings.open_new hk
  obtain ⟨c₁, h₁, hfront⟩ := Bindings.exists_takes_open (hi.allocate 4)
    (Eq.refl (Term.cell (.var "X" (0 + b.size)) (.var "Xs" (1 + b.size))).isVar)
  have hopen₁ : ∀ k < 4, c₁.Open (k + b.size) := fun k hk => h₁.open_one (hfresh k hk) (by omega)
  obtain ⟨c₂, h₂, hback⟩ := Bindings.exists_takes_link (h₁.open_one (hj.allocate 4) (Ne.symm hne))
    (hopen₁ 2 (by decide)) (by omega)
  have hopen₂ : ∀ k < 4, c₂.Open (k + b.size) := fun k hk => h₂.open_one (hopen₁ k hk) (by omega)
  have hgiven := ht.kept (hnew.trans (h₁.extended.trans h₂.extended))
  obtain ⟨c₃, h₃, hX, hZs⟩ := Bindings.exists_takes_cell hgiven (hopen₂ 0 (by decide)) (hopen₂ 3 (by decide)) (by omega)
  have hall := h₁.cons (h₂.cons h₃)
  refine ⟨c₃, headed_of_takes rfl hall (by decide), hnew.trans hall.extended,
    h₃.open_two (hopen₂ 1 (by decide)) (by omega) (by omega), h₃.open_two (hopen₂ 2 (by decide)) (by omega) (by omega),
    hZs, fun d u v hd hu hv => ⟨?_, ?_⟩⟩
  · exact Bindings.denotes_var (((h₂.extended.trans h₃.extended).trans hd).lookup?_eq hfront)
      (Bindings.denotes_cell (hX.kept hd) hu)
  · exact Bindings.denotes_var ((h₃.extended.trans hd).lookup?_eq hback) hv

theorem unfit_splitCell (hi : b.Open i) (hj : b.Open j) (hne : i ≠ j) (ht : b.Denotes t .nil) :
    (headed b ⟨"append", positional [.var m i, .var n j, t]⟩ appendCell).2 = false := by
  have hlt := hj.lt
  obtain ⟨c₁, h₁, -⟩ := Bindings.exists_takes_open (hi.allocate 4)
    (Eq.refl (Term.cell (.var "X" (0 + b.size)) (.var "Xs" (1 + b.size))).isVar)
  have hlt' := hi.lt
  have hYs : c₁.Open (2 + b.size) := h₁.open_one (Bindings.open_new (by decide)) (by omega)
  obtain ⟨c₂, h₂, -⟩ := Bindings.exists_takes_link (h₁.open_one (hj.allocate 4) (Ne.symm hne)) hYs (by omega)
  have hboth := h₁.cons h₂
  have hgiven := ht.kept ((Extends.refl.allocate 4).trans hboth.extended)
  exact unfit_of_clashes rfl (hboth.solves.clashes (Bindings.clashes_nil_cell hgiven _ _)) (by decide)

/-! ## Joining lists -/

/-- **Where the list is at its end** the result is what the second argument is. -/
theorem fit_restNil (hi : b.Open i) (ht : b.Denotes t .nil) (hs : b.Denotes s u) (name : String) :
    ∃ c, headed b ⟨name, positional [t, s, .var m i]⟩ (rule k name [.nil, .var "Ys" 0, .var "Ys" 0] [] ["Ys"]) =
      (c, true) ∧ Gives b (.var m i) c u := by
  have hlt := hi.lt
  have hnew : Extends b (b.allocate 1).2 := Extends.refl.allocate 1
  have h₁ := Bindings.takes_nil (ht.kept hnew)
  obtain ⟨c₂, h₂, hYs⟩ := Bindings.exists_takes_given (hs.kept hnew) (Bindings.open_new Nat.one_pos)
  obtain ⟨c₃, h₃, hresult⟩ := Bindings.exists_takes_known (h₂.open_one (hi.allocate 1) (by omega)) hYs
  have hall := h₁.cons (h₂.cons h₃)
  exact ⟨c₃, headed_of_takes rfl hall (by decide), hnew.trans hall.extended, hresult⟩

/-- **A first item is put before what comes of the rest.** -/
theorem fit_joinCell (hi : b.Open i) (ht : b.Denotes t (.cell x xs)) (hs : b.Denotes s u) :
    ∃ c, headed b ⟨"append", positional [t, s, .var m i]⟩ appendCell = (c, true) ∧ Extends b c ∧
      c.Denotes (.var "Xs" (1 + b.size)) xs ∧ c.Denotes (.var "Ys" (2 + b.size)) u ∧ c.Open (3 + b.size) ∧
      ∀ d v, Extends c d → d.Denotes (.var "Zs" (3 + b.size)) v → d.Denotes (.var m i) (.cell x v) := by
  have hlt := hi.lt
  have hnew : Extends b (b.allocate 4).2 := Extends.refl.allocate 4
  have hfresh : ∀ k < 4, (b.allocate 4).2.Open (k + b.size) := fun k hk => Bindings.open_new hk
  obtain ⟨c₁, h₁, hX, hXs⟩ := Bindings.exists_takes_cell (ht.kept hnew) (hfresh 0 (by decide)) (hfresh 1 (by decide))
    (by omega)
  obtain ⟨c₂, h₂, hYs⟩ := Bindings.exists_takes_given (hs.kept (hnew.trans h₁.extended))
    (h₁.open_two (hfresh 2 (by decide)) (by omega) (by omega))
  have hopen : ∀ k, (b.allocate 4).2.Open k → k ≠ 0 + b.size → k ≠ 1 + b.size → k ≠ 2 + b.size → c₂.Open k :=
    fun k hk h0 h1 h2 => h₂.open_one (h₁.open_two hk h0 h1) h2
  obtain ⟨c₃, h₃, hresult⟩ := Bindings.exists_takes_open (hopen i (hi.allocate 4) (by omega) (by omega) (by omega))
    (Eq.refl (Term.cell (.var "X" (0 + b.size)) (.var "Zs" (3 + b.size))).isVar)
  have hall := h₁.cons (h₂.cons h₃)
  refine ⟨c₃, headed_of_takes rfl hall (by decide), hnew.trans hall.extended,
    hXs.kept (h₂.extended.trans h₃.extended), hYs.kept h₃.extended,
    h₃.open_one (hopen _ (hfresh 3 (by decide)) (by omega) (by omega) (by omega)) (by omega), fun d v hd hv => ?_⟩
  exact Bindings.denotes_var (hd.lookup?_eq hresult)
    (Bindings.denotes_cell (hX.kept ((h₂.extended.trans h₃.extended).trans hd)) hv)

/-! ## Searching a list -/

/-- **The first item is an answer.** -/
theorem fit_memberFirst (hi : b.Open i) (ht : b.Denotes t (.cell x xs)) :
    ∃ c, headed b ⟨"member", positional [.var m i, t]⟩ memberFirst = (c, true) ∧ Gives b (.var m i) c x := by
  have hlt := hi.lt
  have hnew : Extends b (b.allocate 2).2 := Extends.refl.allocate 2
  have hfresh : ∀ k < 2, (b.allocate 2).2.Open (k + b.size) := fun k hk => Bindings.open_new hk
  obtain ⟨c₁, h₁, hlink⟩ := Bindings.exists_takes_link (hi.allocate 2) (hfresh 0 (by decide)) (by omega)
  have hopen : ∀ k < 2, c₁.Open (k + b.size) := fun k hk => h₁.open_one (hfresh k hk) (by omega)
  obtain ⟨c₂, h₂, hX, -⟩ := Bindings.exists_takes_cell (ht.kept (hnew.trans h₁.extended)) (hopen 0 (by decide))
    (hopen 1 (by decide)) (by omega)
  have hall := h₁.cons h₂
  exact ⟨c₂, headed_of_takes rfl hall (by decide), hnew.trans hall.extended,
    Bindings.denotes_var (h₂.extended.lookup?_eq hlink) hX⟩

/-- **The rest of the list is searched for further answers.** -/
theorem fit_memberRest (hi : b.Open i) (ht : b.Denotes t (.cell x xs)) :
    ∃ c, headed b ⟨"member", positional [.var m i, t]⟩ memberRest = (c, true) ∧ Extends b c ∧ c.Open (0 + b.size) ∧
      c.Denotes (.var "Xs" (2 + b.size)) xs ∧
      ∀ d v, Extends c d → d.Denotes (.var "X" (0 + b.size)) v → d.Denotes (.var m i) v := by
  have hlt := hi.lt
  have hnew : Extends b (b.allocate 3).2 := Extends.refl.allocate 3
  have hfresh : ∀ k < 3, (b.allocate 3).2.Open (k + b.size) := fun k hk => Bindings.open_new hk
  obtain ⟨c₁, h₁, hlink⟩ := Bindings.exists_takes_link (hi.allocate 3) (hfresh 0 (by decide)) (by omega)
  have hopen : ∀ k < 3, c₁.Open (k + b.size) := fun k hk => h₁.open_one (hfresh k hk) (by omega)
  obtain ⟨c₂, h₂, -, hXs⟩ := Bindings.exists_takes_cell (ht.kept (hnew.trans h₁.extended)) (hopen 1 (by decide))
    (hopen 2 (by decide)) (by omega)
  have hall := h₁.cons h₂
  refine ⟨c₂, headed_of_takes rfl hall (by decide), hnew.trans hall.extended,
    h₂.open_two (hopen 0 (by decide)) (by omega) (by omega), hXs, fun d v hd hv => ?_⟩
  exact Bindings.denotes_var ((h₂.extended.trans hd).lookup?_eq hlink) hv

theorem unfit_member (hi : b.Open i) (ht : b.Denotes t .nil) (u v : Term) (names : List String)
    (hnames : 0 < names.length) (body : List (Goal Callee)) :
    (headed b ⟨"member", positional [.var m i, t]⟩ (rule k "member" [.var "X" 0, .cell u v] body names)).2 = false := by
  have hlt := hi.lt
  obtain ⟨c₁, h₁, -⟩ := Bindings.exists_takes_link (hi.allocate names.length) (Bindings.open_new hnames) (by omega)
  have hgiven := ht.kept ((Extends.refl.allocate names.length).trans h₁.extended)
  have hclash := h₁.solves.clashes (Bindings.clashes_nil_cell hgiven (u.offset b.size) (v.offset b.size))
  rw [← Term.offset_cell] at hclash
  exact unfit_of_clashes rfl hclash (by decide)

/-! ## Measuring a list -/

/-- **An answer gives a number**, and leaves open what was open besides. -/
structure Counts (b : Bindings) (name : String) (i : Nat) (c : Bindings) (k : Nat) : Prop where
  extended : Extends b c
  denotes : c.Denotes (.var name i) (.const (.int (Int64.ofNat k)))
  open_ : ∀ j, b.Open j → j ≠ i → c.Open j

theorem fit_lengthNil (hi : b.Open i) (ht : b.Denotes t .nil) :
    ∃ c, headed b ⟨"length", positional [t, .var m i]⟩ lengthNil = (c, true) ∧ Counts b m i c 0 := by
  have hnew : Extends b (b.allocate 0).2 := Extends.refl.allocate 0
  have h₁ := Bindings.takes_nil (ht.kept hnew)
  obtain ⟨c₂, h₂, hresult⟩ := Bindings.exists_takes_open (hi.allocate 0) (Eq.refl (Term.const (.int 0)).isVar)
  have hall := h₁.cons h₂
  exact ⟨c₂, headed_of_takes rfl hall (by decide), hnew.trans hall.extended,
    Bindings.denotes_var hresult (Bindings.denotes_self rfl), fun j hj hne => h₂.open_one (hj.allocate 0) hne⟩

/-- **The rest of the list is measured first**; what was open stays so, but for the result. -/
theorem fit_lengthCell (hi : b.Open i) (ht : b.Denotes t (.cell x xs)) :
    ∃ c, headed b ⟨"length", positional [t, .var m i]⟩ lengthCell = (c, true) ∧ Extends b c ∧
      c.Denotes (.var "Xs" (1 + b.size)) xs ∧ c.Open (2 + b.size) ∧ c.Open (3 + b.size) ∧
      c.lookup? i = some (.var "Y" (2 + b.size)) ∧ ∀ j, b.Open j → j ≠ i → c.Open j := by
  have hlt := hi.lt
  have hnew : Extends b (b.allocate 4).2 := Extends.refl.allocate 4
  have hfresh : ∀ k < 4, (b.allocate 4).2.Open (k + b.size) := fun k hk => Bindings.open_new hk
  obtain ⟨c₁, h₁, -, hXs⟩ := Bindings.exists_takes_cell (ht.kept hnew) (hfresh 0 (by decide)) (hfresh 1 (by decide))
    (by omega)
  have hY := h₁.open_two (hfresh 2 (by decide)) (by omega) (by omega)
  have hZ := h₁.open_two (hfresh 3 (by decide)) (by omega) (by omega)
  obtain ⟨c₂, h₂, hlink⟩ := Bindings.exists_takes_link (h₁.open_two (hi.allocate 4) (by omega) (by omega)) hY (by omega)
  have hall := h₁.cons h₂
  refine ⟨c₂, headed_of_takes rfl hall (by decide), hnew.trans hall.extended, hXs.kept h₂.extended,
    h₂.open_one hY (by omega), h₂.open_one hZ (by omega), hlink, fun j hj hne => ?_⟩
  have hjlt := hj.lt
  exact h₂.open_one (h₁.open_two (hj.allocate 4) (by omega) (by omega)) hne

/-! ## Reversing a list -/

/-- **A first item is put before what has been reversed.** -/
theorem fit_reversingCell (hi : b.Open i) (ht : b.Denotes t (.cell x xs)) (hs : b.Denotes s u) :
    ∃ c, headed b ⟨"_reverse", positional [t, s, .var m i]⟩ reversingCell = (c, true) ∧ Extends b c ∧
      c.Denotes (.var "Xs" (1 + b.size)) xs ∧
      c.Denotes (.cell (.var "X" (0 + b.size)) (.var "A" (2 + b.size))) (.cell x u) ∧ c.Open (3 + b.size) ∧
      ∀ d v, Extends c d → d.Denotes (.var "Ys" (3 + b.size)) v → d.Denotes (.var m i) v := by
  have hlt := hi.lt
  have hnew : Extends b (b.allocate 4).2 := Extends.refl.allocate 4
  have hfresh : ∀ k < 4, (b.allocate 4).2.Open (k + b.size) := fun k hk => Bindings.open_new hk
  obtain ⟨c₁, h₁, hX, hXs⟩ := Bindings.exists_takes_cell (ht.kept hnew) (hfresh 0 (by decide)) (hfresh 1 (by decide))
    (by omega)
  obtain ⟨c₂, h₂, hA⟩ := Bindings.exists_takes_given (hs.kept (hnew.trans h₁.extended))
    (h₁.open_two (hfresh 2 (by decide)) (by omega) (by omega))
  have hYs := h₂.open_one (h₁.open_two (hfresh 3 (by decide)) (by omega) (by omega)) (by omega)
  obtain ⟨c₃, h₃, hlink⟩ := Bindings.exists_takes_link
    (h₂.open_one (h₁.open_two (hi.allocate 4) (by omega) (by omega)) (by omega)) hYs (by omega)
  have hall := h₁.cons (h₂.cons h₃)
  refine ⟨c₃, headed_of_takes rfl hall (by decide), hnew.trans hall.extended,
    hXs.kept (h₂.extended.trans h₃.extended), ?_, h₃.open_one hYs (by omega), fun d v hd hv => ?_⟩
  · exact Bindings.denotes_cell (hX.kept (h₂.extended.trans h₃.extended)) (hA.kept h₃.extended)
  · exact Bindings.denotes_var (hd.lookup?_eq hlink) hv

theorem fit_reverseAll (hi : b.Open i) (ht : b.Denotes t u) :
    ∃ c, headed b ⟨"reverse", positional [t, .var m i]⟩ reverseAll = (c, true) ∧ Extends b c ∧
      c.Denotes (.var "Xs" (0 + b.size)) u ∧ c.Open (1 + b.size) ∧
      ∀ d v, Extends c d → d.Denotes (.var "Ys" (1 + b.size)) v → d.Denotes (.var m i) v := by
  have hlt := hi.lt
  have hnew : Extends b (b.allocate 2).2 := Extends.refl.allocate 2
  have hfresh : ∀ k < 2, (b.allocate 2).2.Open (k + b.size) := fun k hk => Bindings.open_new hk
  obtain ⟨c₁, h₁, hXs⟩ := Bindings.exists_takes_given (ht.kept hnew) (hfresh 0 (by decide))
  have hYs := h₁.open_one (hfresh 1 (by decide)) (by omega)
  obtain ⟨c₂, h₂, hlink⟩ := Bindings.exists_takes_link (h₁.open_one (hi.allocate 2) (by omega)) hYs (by omega)
  have hall := h₁.cons h₂
  exact ⟨c₂, headed_of_takes rfl hall (by decide), hnew.trans hall.extended, hXs.kept h₂.extended,
    h₂.open_one hYs (by omega), fun d v hd hv => Bindings.denotes_var (hd.lookup?_eq hlink) hv⟩

end Lists

end Remedy
