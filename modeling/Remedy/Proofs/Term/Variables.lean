import Remedy.Query
/-!
# Proofs.Term.Variables — which variables stand in a term

The variables of a term are listed with their names, anonymous ones too, in the order in which they appear; what is
inside a template does not count, since only its value comes into a term.  Replacing variables, moving slots up and
instantiating do to this list what they do to each of its entries (`mentions_bind`, `mentions_instantiate`).
-/
namespace Remedy

theorem map_eq_ok {ε α β : Type} {x : Except ε α} {f : α → β} {b : β} (h : x.map f = .ok b) :
    ∃ a, x = .ok a ∧ f a = b := by
  cases x with
  | error e => cases h
  | ok a => exact ⟨a, rfl, Except.ok.inj h⟩

theorem bind_eq_ok {ε α β : Type} {x : Except ε α} {f : α → Except ε β} {b : β} (h : x.bind f = .ok b) :
    ∃ a, x = .ok a ∧ f a = .ok b := by
  cases x with
  | error e => cases h
  | ok a => exact ⟨a, rfl, h⟩

theorem eq_ok_of_isOk {α β : Type} {r : Except α β} (h : r.isOk = true) (b : β) : r = .ok (r.toOption.getD b) := by
  cases r with
  | ok a => rfl
  | error _ => cases h

theorem eq_ok_of_toOption {α β : Type} {r : Except α β} {b : β} (h : r.toOption = some b) : r = .ok b := by
  cases r with
  | ok a => exact congrArg Except.ok (Option.some.inj h)
  | error _ => cases h

namespace Term

mutual

/-- **The variables of a term**, each with its slot, in the order in which they appear. -/
def mentions : Term → List (String × Nat)
  | .const _ => []
  | .var name slot => [(name, slot)]
  | .compound _ args => mentionsOf args
  | .template _ => []
  | .nil => []

def mentionsOf : List (Arg Term) → List (String × Nat)
  | [] => []
  | a :: rest => mentions a.value ++ mentionsOf rest

end

def Inside (Q : Nat → Prop) (t : Term) : Prop := ∀ v ∈ t.mentions, Q v.2

def shift (base : Nat) (v : String × Nat) : String × Nat := (v.1, v.2 + base)

theorem mem_mentionsOf {v : String × Nat} : ∀ {args : List (Arg Term)},
    v ∈ mentionsOf args ↔ ∃ a ∈ args, v ∈ a.value.mentions
  | [] => by simp [mentionsOf]
  | a :: rest => by
    rw [mentionsOf, List.mem_append, mem_mentionsOf]
    simp

mutual

theorem mentions_eq_nil : ∀ {t : Term}, t.isGround = true → t.mentions = []
  | .const _, _ => rfl
  | .var _ _, h => nomatch h
  | .compound _ _, h => mentionsOf_eq_nil h
  | .template _, h => nomatch h
  | .nil, _ => rfl

theorem mentionsOf_eq_nil : ∀ {args : List (Arg Term)}, areGround args = true → mentionsOf args = []
  | [], _ => rfl
  | a :: rest, h => by
    rw [areGround, Bool.and_eq_true] at h
    rw [mentionsOf, mentions_eq_nil h.1, mentionsOf_eq_nil h.2]
    rfl

end

mutual

/-- **Replacing variables**: every variable gives way to the variables of what replaces it. -/
theorem mentions_bind (f : String → Nat → Term) : ∀ t : Term,
    (t.bind f).mentions = t.mentions.flatMap fun v => (f v.1 v.2).mentions
  | .const _ | .template _ | .nil => rfl
  | .var _ _ => (List.append_nil _).symm
  | .compound _ args => mentionsOf_bindArgs f args

theorem mentionsOf_bindArgs (f : String → Nat → Term) : ∀ args : List (Arg Term),
    mentionsOf (bindArgs f args) = (mentionsOf args).flatMap fun v => (f v.1 v.2).mentions
  | [] => rfl
  | a :: rest => by
    rw [bindArgs, mentionsOf, mentionsOf, mentions_bind, mentionsOf_bindArgs, List.flatMap_append]

end

theorem isVar_of_isGround : ∀ {t : Term}, t.isGround = true → t.isVar = false
  | .const _, _ | .compound _ _, _ | .template _, _ | .nil, _ => rfl
  | .var _ _, h => nomatch h

mutual

/-- **Replacing variables changes nothing in a term that has none.** -/
theorem bind_of_isGround (f : String → Nat → Term) : ∀ {t : Term}, t.isGround = true → t.bind f = t
  | .const _, _ | .nil, _ => rfl
  | .compound functor args, h => by
    rw [bind, bindArgs_of_areGround f h]

theorem bindArgs_of_areGround (f : String → Nat → Term) : ∀ {args : List (Arg Term)}, areGround args = true →
    bindArgs f args = args
  | [], _ => rfl
  | a :: rest, h => by
    rw [areGround, Bool.and_eq_true] at h
    rw [bindArgs, bind_of_isGround f h.1, bindArgs_of_areGround f h.2]

end

mutual

theorem instantiate_of_isGround (env : Expr.Env) (base : Nat) : ∀ {t : Term}, t.isGround = true →
    t.instantiate env base = .ok t
  | .const _, _ | .nil, _ => rfl
  | .compound functor args, h => by
    rw [instantiate, instantiateArgs_of_areGround env base h]
    rfl

theorem instantiateArgs_of_areGround (env : Expr.Env) (base : Nat) : ∀ {args : List (Arg Term)},
    areGround args = true → instantiateArgs env base args = .ok args
  | [], _ => rfl
  | a :: rest, h => by
    rw [areGround, Bool.and_eq_true] at h
    rw [instantiateArgs, instantiate_of_isGround env base h.1, instantiateArgs_of_areGround env base h.2]
    rfl

end

theorem instantiateArgs_cons {env : Expr.Env} {base : Nat} {a : Arg Term} {rest args' : List (Arg Term)}
    (h : instantiateArgs env base (a :: rest) = .ok args') : ∃ v rest', a.value.instantiate env base = .ok v ∧
      instantiateArgs env base rest = .ok rest' ∧ args' = ⟨a.name, v⟩ :: rest' := by
  rw [instantiateArgs] at h
  split at h
  · cases h
  · rename_i v hv
    obtain ⟨rest', hr, rfl⟩ := map_eq_ok h
    exact ⟨v, rest', hv, hr, rfl⟩

mutual

/-- **A term of a rule at run time** has the variables of the term in the rule, moved up. -/
theorem mentions_instantiate {env : Expr.Env} {base : Nat} :
    ∀ {t u : Term}, t.instantiate env base = .ok u → u.mentions = t.mentions.map (shift base)
  | .const _, _, h | .var _ _, _, h | .nil, _, h => by
    cases h
    rfl
  | .compound functor args, u, h => by
    rw [instantiate] at h
    obtain ⟨args', ha, rfl⟩ := map_eq_ok h
    exact mentionsOf_instantiateArgs ha
  | .template x, u, h => by
    rw [instantiate] at h
    obtain ⟨v, -, rfl⟩ := map_eq_ok h
    rfl

theorem mentionsOf_instantiateArgs {env : Expr.Env} {base : Nat} : ∀ {args args' : List (Arg Term)},
    instantiateArgs env base args = .ok args' → mentionsOf args' = (mentionsOf args).map (shift base)
  | [], _, h => by
    cases h
    rfl
  | a :: rest, args', h => by
    obtain ⟨v, rest', hv, hr, rfl⟩ := instantiateArgs_cons h
    rw [mentionsOf, mentionsOf, mentions_instantiate hv, mentionsOf_instantiateArgs hr, List.map_append]

end

theorem length_instantiateArgs {env : Expr.Env} {base : Nat} : ∀ {args args' : List (Arg Term)},
    instantiateArgs env base args = .ok args' → args'.length = args.length
  | [], _, h => by
    cases h
    rfl
  | a :: rest, args', h => by
    obtain ⟨v, rest', -, hr, rfl⟩ := instantiateArgs_cons h
    rw [List.length_cons, List.length_cons, length_instantiateArgs hr]

/-- **The argument under a key** at run time is the one that the rule has under that key. -/
theorem argAt?_instantiateArgs {env : Expr.Env} {base : Nat} {key : ArgKey} {u : Term} :
    ∀ {i : Nat} {args args' : List (Arg Term)}, instantiateArgs env base args = .ok args' →
      Call.argAt? key i args' = some u → ∃ t, Call.argAt? key i args = some t ∧ t.instantiate env base = .ok u
  | _, [], _, h, hu => by
    cases h
    cases hu
  | i, a :: rest, args', h, hu => by
    obtain ⟨v, rest', hv, hr, rfl⟩ := instantiateArgs_cons h
    rw [Call.argAt?] at hu ⊢
    have hkey : (⟨a.name, v⟩ : Arg Term).key i = a.key i := rfl
    rw [hkey] at hu
    split at hu
    · rename_i hagrees
      cases hu
      exact ⟨a.value, if_pos hagrees, hv⟩
    · rename_i hagrees
      rw [if_neg hagrees]
      exact argAt?_instantiateArgs hr hu

theorem mentions_of_argAt? {key : ArgKey} {t : Term} : ∀ {i : Nat} {args : List (Arg Term)},
    Call.argAt? key i args = some t → ∀ v ∈ t.mentions, v ∈ mentionsOf args
  | _, [], h, _, _ => nomatch h
  | i, a :: rest, h, v, hv => by
    rw [Call.argAt?] at h
    rw [mentionsOf]
    split at h
    · cases h
      exact List.mem_append_left _ hv
    · exact List.mem_append_right _ (mentions_of_argAt? h v hv)

mutual

theorem mentions_of_named : ∀ {t : Term}, ∀ v ∈ t.named, v ∈ t.mentions
  | .const _, _, h | .template _, _, h | .nil, _, h => nomatch h
  | .var name slot, v, h => by
    unfold named at h
    split at h
    · cases h
    · exact h
  | .compound _ args, v, h => mentionsOf_of_namedOf v h

theorem mentionsOf_of_namedOf : ∀ {args : List (Arg Term)}, ∀ v ∈ namedOf args, v ∈ mentionsOf args
  | [], _, h => nomatch h
  | a :: rest, v, h => by
    rw [mentionsOf]
    rcases List.mem_append.1 h with h | h
    · exact List.mem_append_left _ (mentions_of_named v h)
    · exact List.mem_append_right _ (mentionsOf_of_namedOf v h)

end

theorem named_eq_nil {t : Term} (h : t.isGround = true) : t.named = [] :=
  List.eq_nil_iff_forall_not_mem.2 fun v hv => by
    have hmem := mentions_of_named v hv
    rw [mentions_eq_nil h] at hmem
    cases hmem

end Term

namespace Call

def mentions (c : Call) : List (String × Nat) := Term.mentionsOf c.args

def Inside (Q : Nat → Prop) (c : Call) : Prop := ∀ v ∈ c.mentions, Q v.2

theorem mentions_eq_nil {c : Call} (h : c.isGround = true) : c.mentions = [] := Term.mentionsOf_eq_nil h

theorem mentions_offset (base : Nat) (c : Call) : (c.offset base).mentions = c.mentions.map (Term.shift base) := by
  unfold offset
  split
  · rename_i h
    rw [mentions_eq_nil h]
    rfl
  · refine (Term.mentionsOf_bindArgs _ c.args).trans ?_
    exact (List.map_eq_flatMap ..).symm

theorem mentions_of_get? {c : Call} {key : ArgKey} {t : Term} (h : c.get? key = some t) :
    ∀ v ∈ t.mentions, v ∈ c.mentions := Term.mentions_of_argAt? h

theorem Inside.get? {Q : Nat → Prop} {c : Call} (h : c.Inside Q) {key : ArgKey} {t : Term} (ht : c.get? key = some t) :
    t.Inside Q := fun v hv => h v (mentions_of_get? ht v hv)

theorem Inside.arg {Q : Nat → Prop} {c : Call} (h : c.Inside Q) {a : Arg Term} (ha : a ∈ c.args) : a.value.Inside Q :=
  fun v hv => h v (Term.mem_mentionsOf.2 ⟨a, ha, hv⟩)

end Call

theorem Term.mentions_of_asFact? {t : Term} {c : Call} (h : t.asFact? = some c) : ∀ v ∈ c.mentions, v ∈ t.mentions := by
  unfold asFact? at h
  split at h
  · cases h
    exact fun _ hv => hv
  · cases h
    exact fun _ hv => nomatch hv
  · cases h

/-! ## How far the variables of terms reach

The span of a term is one more than its greatest slot, so a term refers only to slots below `n` when its span is at
most `n` (`span_le_iff`).  What is done to terms moves the span as it moves their variables: a ground term has none
(`span_eq_zero`), and moving up and instantiating add the base (`span_offset_le`, `span_instantiate_le`).
-/

namespace Term

mutual

/-- **The span bounds the slots of the variables**, and nothing else. -/
theorem span_le_iff {n : Nat} : ∀ {t : Term}, t.span ≤ n ↔ t.Inside (· < n)
  | .const _ | .template _ | .nil => ⟨(fun _ _ h => nomatch h), fun _ => Nat.zero_le _⟩
  | .var name slot => by
    refine ⟨fun h v hv => ?_, fun h => h (name, slot) List.mem_cons_self⟩
    rcases List.mem_singleton.1 hv with rfl
    exact h
  | .compound _ _ => spanOf_le_iff

theorem spanOf_le_iff {n : Nat} : ∀ {args : List (Arg Term)}, spanOf args ≤ n ↔ ∀ v ∈ mentionsOf args, v.2 < n
  | [] => ⟨(fun _ _ h => nomatch h), fun _ => Nat.zero_le _⟩
  | a :: rest => by
    rw [spanOf, Nat.max_le, mentionsOf, span_le_iff, spanOf_le_iff, List.forall_mem_append]
    exact Iff.rfl

end

theorem span_eq_zero {t : Term} (h : t.isGround = true) : t.span = 0 := by
  refine Nat.le_zero.1 (span_le_iff.2 fun v hv => ?_)
  rw [mentions_eq_nil h] at hv
  cases hv

theorem lt_of_namedOf {args : List (Arg Term)} (v : String × Nat) (h : v ∈ namedOf args) : v.2 < spanOf args :=
  spanOf_le_iff.1 (Nat.le_refl _) v (mentionsOf_of_namedOf v h)

theorem spanOf_instantiateArgs_le {env : Expr.Env} {base : Nat} {args args' : List (Arg Term)}
    (h : instantiateArgs env base args = .ok args') : spanOf args' ≤ spanOf args + base := by
  refine spanOf_le_iff.2 fun v hv => ?_
  rw [mentionsOf_instantiateArgs h] at hv
  obtain ⟨u, hu, rfl⟩ := List.mem_map.1 hv
  exact Nat.add_lt_add_right (spanOf_le_iff.1 (Nat.le_refl _) u hu) base

/-- **A term of a rule at run time** reaches no further than the slots of the rule's variables. -/
theorem span_instantiate_le {env : Expr.Env} {base : Nat} {t u : Term} (h : t.instantiate env base = .ok u) :
    u.span ≤ t.span + base := by
  refine span_le_iff.2 fun v hv => ?_
  rw [mentions_instantiate h] at hv
  obtain ⟨w, hw, rfl⟩ := List.mem_map.1 hv
  exact Nat.add_lt_add_right (span_le_iff.1 (Nat.le_refl _) w hw) base

end Term

namespace Call

theorem span_le_iff {c : Call} {n : Nat} : c.span ≤ n ↔ c.Inside (· < n) := Term.spanOf_le_iff

theorem lt_span {c : Call} {v : String × Nat} (h : v ∈ c.mentions) : v.2 < c.span :=
  span_le_iff.1 (Nat.le_refl _) v h

theorem span_eq_zero {c : Call} (h : c.isGround = true) : c.span = 0 :=
  Term.span_eq_zero (t := .compound c.functor c.args) h

theorem span_offset_le {c : Call} {n base : Nat} (h : c.span ≤ n) : (c.offset base).span ≤ n + base := by
  refine span_le_iff.2 fun v hv => ?_
  rw [mentions_offset] at hv
  obtain ⟨u, hu, rfl⟩ := List.mem_map.1 hv
  exact Nat.add_lt_add_right (span_le_iff.1 h u hu) base

theorem span_of_get? {c : Call} {key : ArgKey} {t : Term} (h : c.get? key = some t) : t.span ≤ c.span :=
  Term.span_le_iff.2 fun _ hv => lt_span (mentions_of_get? h _ hv)

theorem span_of_head? {c : Call} {a : Arg Term} (h : c.args.head? = some a) : a.value.span ≤ c.span :=
  Term.span_le_iff.2 fun _ hv => lt_span (Term.mem_mentionsOf.2 ⟨a, List.mem_of_head? h, hv⟩)

end Call

theorem Term.span_of_asFact? {t : Term} {c : Call} (h : t.asFact? = some c) : c.span ≤ t.span :=
  Call.span_le_iff.2 fun v hv => span_le_iff.1 (Nat.le_refl _) v (mentions_of_asFact? h v hv)

end Remedy
