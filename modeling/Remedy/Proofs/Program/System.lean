import Remedy.Program.System
import Remedy.Proofs.Bindings.Equations
import Remedy.Proofs.Program.Names
import Remedy.Proofs.Rule.Identical
/-!
# Proofs.Program.System — the rules of the system library

The rules of the system library are written down as what compiling makes of them: the variables of a rule are numbered
in the order in which they appear, and a call of a predicate of the library goes to its place.  There are the rules that
take lists apart and put them together, for `append`, `member`, `length` and `reverse`, which leaves the work to a
predicate of its own that no other module can call.

There are two predicates besides that put an item where it belongs in a sorted list: into a list of values, each of
which is its own key, and into a list of pairs with a key and a value.  Their rules are the same but for the shape of
an item (`Insertion.rules`).  With the rules for lists they are all that the library has, which is found by compiling it
(`predicates_system`).  What they are to compute is said without rules by `put`: the item stands where one with its key
stood, or before the first with a greater key.
-/
namespace Remedy

/-! ## Taking lists apart -/

namespace Lists

/-- The rule of the system library with a number: its head, its goals and the names of its variables. -/
def rule (n : Nat) (name : String) (args : List Term) (body : List (Goal Callee)) (names : List String) :
    Clause Callee :=
  ⟨⟨name, positional args⟩, body, ⟨names⟩, systemRules.getD n "", n + 1⟩

def goal (index : Nat) (name : String) (args : List Term) : Goal Callee := .call (.own index) ⟨name, positional args⟩

def repeating : Predicate :=
  ⟨"repeat", .rules, true, [rule 0 "repeat" [] [] [], rule 1 "repeat" [] [goal 0 "repeat" []] []], []⟩

/-- `append([], ?Ys, ?Ys)`. -/
def appendNil : Clause Callee := rule 2 "append" [.nil, .var "Ys" 0, .var "Ys" 0] [] ["Ys"]

/-- `append([?X|?Xs], ?Ys, [?X|?Zs]) :- append(?Xs, ?Ys, ?Zs)`. -/
def appendCell : Clause Callee :=
  rule 3 "append" [.cell (.var "X" 0) (.var "Xs" 1), .var "Ys" 2, .cell (.var "X" 0) (.var "Zs" 3)]
    [goal 1 "append" [.var "Xs" 1, .var "Ys" 2, .var "Zs" 3]] ["X", "Xs", "Ys", "Zs"]

def append : Predicate := ⟨"append", .rules, true, [appendNil, appendCell], []⟩

/-- `member(?X, [?X|_])`. -/
def memberFirst : Clause Callee :=
  rule 4 "member" [.var "X" 0, .cell (.var "X" 0) (.var "_" 1)] [] ["X", "_"]

/-- `member(?X, [_|?Xs]) :- member(?X, ?Xs)`. -/
def memberRest : Clause Callee :=
  rule 5 "member" [.var "X" 0, .cell (.var "_" 1) (.var "Xs" 2)] [goal 2 "member" [.var "X" 0, .var "Xs" 2]]
    ["X", "_", "Xs"]

def member : Predicate := ⟨"member", .rules, true, [memberFirst, memberRest], []⟩

/-- `length([], 0)`. -/
def lengthNil : Clause Callee := rule 6 "length" [.nil, .const (.int 0)] [] []

/-- `length([_|?Xs], ?Y) :- length(?Xs, ?Z), ?Y is ?Z + 1`. -/
def lengthCell : Clause Callee :=
  rule 7 "length" [.cell (.var "_" 0) (.var "Xs" 1), .var "Y" 2]
    [goal 3 "length" [.var "Xs" 1, .var "Z" 3], .is (.var "Y" 2) (.call .add [.var "Z", .literal (.int 1)])]
    ["_", "Xs", "Y", "Z"]

def length : Predicate := ⟨"length", .rules, true, [lengthNil, lengthCell], []⟩

/-- `reverse(?Xs, ?Ys) :- _reverse(?Xs, [], ?Ys)`. -/
def reverseAll : Clause Callee :=
  rule 8 "reverse" [.var "Xs" 0, .var "Ys" 1] [goal 5 "_reverse" [.var "Xs" 0, .nil, .var "Ys" 1]] ["Xs", "Ys"]

def reverse : Predicate := ⟨"reverse", .rules, true, [reverseAll], []⟩

/-- `_reverse([], ?Ys, ?Ys)`. -/
def reversingNil : Clause Callee := rule 9 "_reverse" [.nil, .var "Ys" 0, .var "Ys" 0] [] ["Ys"]

/-- `_reverse([?X|?Xs], ?A, ?Ys) :- _reverse(?Xs, [?X|?A], ?Ys)`. -/
def reversingCell : Clause Callee :=
  rule 10 "_reverse" [.cell (.var "X" 0) (.var "Xs" 1), .var "A" 2, .var "Ys" 3]
    [goal 5 "_reverse" [.var "Xs" 1, .cell (.var "X" 0) (.var "A" 2), .var "Ys" 3]] ["X", "Xs", "A", "Ys"]

/-- What `reverse` calls: the items of a list are put one by one before what has been reversed. -/
def reversing : Predicate := ⟨"_reverse", .rules, false, [reversingNil, reversingCell], []⟩

end Lists

/-! ## Where an item belongs -/

section Put

variable {α β : Type} {key : α → Int64} {x : α}

/-- **Puts an item into a list** in place of the one that has its key, or else before the first with a greater key. -/
def put (key : α → Int64) (x : α) : List α → List α
  | [] => [x]
  | y :: ys => if key x = key y then x :: ys else if key x < key y then x :: y :: ys else y :: put key x ys

theorem map_put {key' : β → Int64} {f : α → β} (hf : ∀ a, key' (f a) = key a) : ∀ l : List α,
    (put key x l).map f = put key' (f x) (l.map f)
  | [] => rfl
  | y :: ys => by
    rw [List.map_cons, put, put, hf, hf, ← map_put hf ys]
    split
    · rfl
    · split <;> rfl

theorem eq_or_mem_of_mem_put {z : α} : ∀ {l : List α}, z ∈ put key x l → z = x ∨ z ∈ l
  | [], h => .inl (List.mem_singleton.1 h)
  | y :: ys, h => by
    rw [put] at h
    split at h
    · exact (List.mem_cons.1 h).imp_right (List.mem_cons_of_mem y)
    · split at h
      · exact List.mem_cons.1 h
      · rcases List.mem_cons.1 h with rfl | h
        · exact .inr List.mem_cons_self
        · exact (eq_or_mem_of_mem_put h).imp_right (List.mem_cons_of_mem y)

/-- **What has been put into an ascending list leaves it ascending.** -/
theorem ascending_put : ∀ {l : List α}, l.Pairwise (fun a b => key a < key b) →
    (put key x l).Pairwise fun a b => key a < key b
  | [], _ => List.pairwise_singleton _ x
  | y :: ys, h => by
    obtain ⟨hy, hys⟩ := List.pairwise_cons.1 h
    rw [put]
    split
    · rename_i heq
      exact List.pairwise_cons.2 ⟨fun z hz => heq ▸ hy z hz, hys⟩
    · rename_i hne
      split
      · rename_i hlt
        refine List.pairwise_cons.2 ⟨List.forall_mem_cons.2 ⟨hlt, fun z hz => ?_⟩, h⟩
        exact Int64.lt_trans hlt (hy z hz)
      · rename_i hnlt
        refine List.pairwise_cons.2 ⟨fun z hz => ?_, ascending_put hys⟩
        rcases eq_or_mem_of_mem_put hz with rfl | hz
        · exact Int64.lt_of_le_of_ne (Int64.not_lt.1 hnlt) (Ne.symm hne)
        · exact hy z hz

/-- **What is in the list then**: the item, and all others that have another key. -/
theorem mem_put {z : α} : ∀ {l : List α}, l.Pairwise (fun a b => key a < key b) →
    (z ∈ put key x l ↔ z = x ∨ z ∈ l ∧ key z ≠ key x)
  | [], _ => by
    rw [put, List.mem_singleton]
    exact ⟨.inl, fun h => h.elim id fun h => nomatch h.1⟩
  | y :: ys, h => by
    obtain ⟨hy, hys⟩ := List.pairwise_cons.1 h
    -- what comes after `y` has greater keys, so no key up to that of `y` is found there
    have hafter : ∀ {k : Int64}, ¬key y < k → z ∈ ys → key z ≠ k := fun hk hz heq => hk (heq ▸ hy z hz)
    rw [put, List.mem_cons]
    split
    · rename_i heq
      rw [List.mem_cons]
      refine or_congr_right ⟨fun hz => ⟨.inr hz, hafter (heq ▸ Int64.lt_irrefl) hz⟩, ?_⟩
      rintro ⟨rfl | hz, hne⟩
      · exact absurd heq.symm hne
      · exact hz
    · rename_i hne
      split
      · rename_i hlt
        rw [List.mem_cons, List.mem_cons]
        refine or_congr_right ⟨fun hz => ⟨hz, ?_⟩, And.left⟩
        rcases hz with rfl | hz
        · exact Ne.symm hne
        · exact hafter (Int64.lt_asymm hlt) hz
      · rw [List.mem_cons, mem_put hys]
        constructor
        · rintro (rfl | rfl | ⟨hz, hzx⟩)
          · exact .inr ⟨.inl rfl, Ne.symm hne⟩
          · exact .inl rfl
          · exact .inr ⟨.inr hz, hzx⟩
        · rintro (rfl | ⟨rfl | hz, hzx⟩)
          · exact .inr (.inl rfl)
          · exact .inl rfl
          · exact .inr (.inr ⟨hz, hzx⟩)

/-- **An ascending list is known by what is in it.** -/
theorem eq_of_ascending {l l' : List α} (h : l.Pairwise fun a b => key a < key b)
    (h' : l'.Pairwise fun a b => key a < key b) (hmem : ∀ a, a ∈ l ↔ a ∈ l') : l = l' := by
  have hne : ∀ {a b : α}, key a < key b → a ≠ b := fun hlt heq => by
    rw [heq] at hlt
    exact Int64.lt_irrefl hlt
  have hnodup : ∀ {l : List α}, l.Pairwise (fun a b => key a < key b) → l.Nodup := fun h =>
    List.nodup_iff_pairwise_ne.2 (h.imp hne)
  have hperm : l.Perm l' := (List.perm_ext_iff_of_nodup (hnodup h) (hnodup h')).2 hmem
  exact hperm.eq_of_pairwise (fun _ _ _ _ hab hba => absurd hba (Int64.lt_asymm hab)) h h'

end Put

/-! ## The rules -/

/-- **A predicate of the system library that puts an item into a sorted list**: its name, its place and that of its
first rule; the functor of items, unless they are no more than keys; and the names of the variables for the key and for
the values of an item, of the new item and of one that is in the list. -/
structure Insertion where
  predicate : String
  index : Nat
  first : Nat
  functor : Option String
  key : String × String
  values : List (String × String)
  bare : functor = none → values = []
  named : key.1 ≠ "_" ∧ key.2 ≠ "_"
  distinct : key.2 ∉ key.1 :: values.map (·.1)

namespace Insertion

/-- Values, each of which is its own key. -/
def lists : Insertion where
  predicate := "AddToList"
  index := 6
  first := 11
  functor := none
  key := ("X", "Y")
  values := []
  bare _ := rfl
  named := by decide
  distinct := by decide

/-- Pairs with a key and a value. -/
def maps : Insertion where
  predicate := "AddToMap"
  index := 7
  first := 15
  functor := some "kv"
  key := ("K", "K1")
  values := [("V", "V1")]
  bare h := nomatch h
  named := by decide
  distinct := by decide

def wrap (i : Insertion) (parts : List Term) : Term :=
  match i.functor with
  | some f => .compound f (positional parts)
  | none => parts.headD .nil

def width (i : Insertion) : Nat := i.values.length + 1

def mineNames (i : Insertion) : List String := i.key.1 :: i.values.map (·.1)

def otherNames (i : Insertion) : List String := i.key.2 :: i.values.map (·.2)

def mine (i : Insertion) : Term := i.wrap (Term.vars i.mineNames 0)

/-- An item of the list that has the same key, whatever its values. -/
def same (i : Insertion) : Term := i.wrap (.var i.key.1 0 :: Term.vars (i.values.map fun _ => "_") i.width)

def other (i : Insertion) : Term := i.wrap (Term.vars i.otherNames i.width)

def call (i : Insertion) (item list result : Term) : Call := ⟨i.predicate, positional [item, list, result]⟩

def test (i : Insertion) : Expr := .call .lt [.var i.key.1, .var i.key.2]

/-- The `n`-th rule: how the list and the result look, the goals, and the variables besides those of the item. -/
def rule (i : Insertion) (n : Nat) (list result : Term) (body : List (Goal Callee)) (names : List String) :
    Clause Callee :=
  ⟨i.call i.mine list result, body, ⟨i.mineNames ++ names⟩, systemRules.getD (i.first + n) "", i.first + n + 1⟩

def intoEmpty (i : Insertion) : Clause Callee := i.rule 0 .nil (.cell i.mine .nil) [] []

def inPlace (i : Insertion) : Clause Callee :=
  let rest := Term.var "Ys" (i.width + i.values.length)
  i.rule 1 (.cell i.same rest) (.cell i.mine rest) [.cut] (i.values.map (fun _ => "_") ++ ["Ys"])

def before (i : Insertion) : Clause Callee :=
  let rest := Term.cell i.other (.var "Ys" (i.width + i.width))
  i.rule 2 rest (.cell i.mine rest) [.test i.test, .cut] (i.otherNames ++ ["Ys"])

def after (i : Insertion) : Clause Callee :=
  let rest := Term.var "Ys" (i.width + i.width)
  let result := Term.var "Zs" (i.width + i.width + 1)
  i.rule 3 (.cell i.other rest) (.cell i.other result) [.call (.own i.index) (i.call i.mine rest result)]
    (i.otherNames ++ ["Ys", "Zs"])

def rules (i : Insertion) : List (Clause Callee) := [i.intoEmpty, i.inPlace, i.before, i.after]

def asPredicate (i : Insertion) : Predicate := ⟨i.predicate, .rules, true, i.rules, []⟩

end Insertion

/-! ## The system library -/

def systemPredicates : List Predicate :=
  [Lists.repeating, Lists.append, Lists.member, Lists.length, Lists.reverse, Lists.reversing,
    Insertion.lists.asPredicate, Insertion.maps.asPredicate]

-- the library is a closed term: the kernel compiles its rules and compares what comes of them
theorem identical_systemPredicates :
    identicalAll Predicate.identical systemModule.predicates systemPredicates = true := by decide +kernel

/-- **What compiling makes of the rules of the system library.** -/
theorem predicates_system : systemModule.predicates = systemPredicates :=
  eq_of_identicalAll Predicate.eq_of_identical identical_systemPredicates

theorem inSystem {p : Predicate} {index : Nat} (hat : systemPredicates[index]? = some p)
    (hindex : systemPredicates.findIdx? (·.name == p.name) = some index) (hrules : p.kind = .rules)
    (hbare : p.contract = []) : p.InSystem index := by
  refine ⟨?_, ?_, hrules, hbare⟩
  · unfold RuleModule.index?
    rw [predicates_system, hindex]
  · rw [predicates_system, hat]

/-- **Both predicates for sorted lists are in the system library**, with these rules and without a contract. -/
theorem Insertion.inSystem {i : Insertion} (h : i ∈ [lists, maps]) : i.asPredicate.InSystem i.index := by
  rcases List.mem_cons.1 h with rfl | h
  · exact Remedy.inSystem rfl rfl rfl rfl
  · rcases List.mem_singleton.1 h with rfl
    exact Remedy.inSystem rfl rfl rfl rfl

/-- **The library that has the system library alone has been built by compiling**: if the rules did not compile, these
predicates would not be there. -/
theorem Library.built_initial : Library.initial.Built := by
  have hm : RuleModule.compile ⟨[]⟩ "System" .none (RuleText.numbered systemRules) = .ok systemModule := by
    have hsome : systemModule.predicates ≠ [] := by
      rw [predicates_system]
      exact List.cons_ne_nil _ _
    unfold systemModule at hsome ⊢
    cases hr : RuleModule.compile ⟨[]⟩ "System" .none (RuleText.numbered systemRules) with
    | ok m => rfl
    | error e =>
      rw [hr] at hsome
      exact absurd rfl hsome
  exact .add .empty (List.forall_mem_nil _) hm

/-! ## Modules that call them -/

namespace Insertion

variable {i : Insertion} {l : Library} {m : RuleModule} {owner : Nat}

/-- **In a module the name stands for the predicate of the system library**, and nothing is asked of its arguments. -/
def Known (i : Insertion) (l : Library) (owner : Nat) (m : RuleModule) : Prop :=
  ∃ callee, (m.scope l).resolve? i.predicate = some (.callee callee [] none) ∧ callee.place? owner = some (0, i.index)

/-- **The name is known where it has no other meaning**, neither in the module nor from its provider. -/
theorem known_of_unknown (h : i ∈ [lists, maps]) (hl : l.module? 0 = some systemModule)
    (ho : m.index? i.predicate = none) (hp : (m.scope l).provided? i.predicate = none) : i.Known l owner m := by
  have hbuiltin : Scope.builtin? i.predicate = none := by
    rcases List.mem_cons.1 h with rfl | h
    · rfl
    · rcases List.mem_singleton.1 h with rfl
      rfl
  have hknows : m.Knows l owner i.asPredicate.name i.index :=
    RuleModule.knows_of_unknown (inSystem h) rfl hl ho hp hbuiltin
  exact hknows

/-- **The name is known in the system library itself.** -/
theorem known_system (h : i ∈ [lists, maps]) : i.Known l 0 systemModule := by
  have hknows : systemModule.Knows l 0 i.asPredicate.name i.index := RuleModule.knows_system (inSystem h)
  exact hknows

theorem resolveGoal_of_known (h : i.Known l owner m) (item list result : Term) :
    ∃ callee, m.resolveGoal l (i.call item list result) = .ok (.call callee (i.call item list result)) ∧
      callee.place? owner = some (0, i.index) := by
  have hknows : m.Knows l owner (i.call item list result).functor i.index := h
  exact RuleModule.resolveGoal_of_knows hknows

end Insertion

end Remedy
