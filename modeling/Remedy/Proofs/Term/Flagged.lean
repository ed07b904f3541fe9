import Remedy.Proofs.Bindings.Chains
import Remedy.Proofs.Bindings.Ground
import Remedy.Term.Parser
/-!
# Proofs.Term.Flagged — compound terms that keep whether they have variables

A term without variables and templates stays as it is when slots are moved, bound variables are replaced and templates
are evaluated.  To find this out at once, a compound term is stored with a flag that tells whether it has any, and what
is flagged to have none is taken over untouched.  The flag is computed when a compound term is made from its arguments
(`make`), and moving slots copies it.

`Flagged` is the stored form, and its functions trust the flags.  The term that is stored is what is left without them
(`plain`), and storing it computes them all anew (`ofTerm`).  On a term stored in this way every function does what the
full traversal of the plain term does (`offset_ofTerm`, `span_ofTerm`, `replace_ofTerm`, `instantiate_ofTerm`), and so
does resolving in slots that hold such terms (`Log.Faithful.resolve_ofTerm`).  So what comes of it is again a term with
the flags that it would have anew (`Faithful`), and all terms that are ever built are such terms (`Built.faithful`).
-/
namespace Remedy

/-- **A term as it is stored**, with a flag at every compound term that tells whether it has variables or templates. -/
inductive Flagged
  | const (v : Value)
  | var (name : String) (slot : Nat)
  | compound (functor : String) (args : List (Arg Flagged)) (hasVars : Bool)
  | template (e : Expr)
  | nil

theorem Bindings.Acyclic.chainsEnd {b : Bindings} (h : b.Acyclic) : b.ChainsEnd := by
  refine h.induction fun t ih => ?_
  by_cases hended : b.Ended t
  · exact ⟨0, hended⟩
  · -- the slot of `t` holds a term, whose chain ends
    obtain ⟨name, i, rfl, hne⟩ : ∃ name i, t = .var name i ∧ b.lookup? i ≠ none := by simpa [Ended] using hended
    obtain ⟨u, hu⟩ := Option.ne_none_iff_exists'.1 hne
    obtain ⟨n, hn⟩ := ih (name, i) List.mem_cons_self u hu
    refine ⟨n + 1, ?_⟩
    rwa [walkFor, hu]

namespace Flagged

/-! ## Functions that trust the flags -/

/-- What the flag says: the term has no variable and no template. -/
def isGround : Flagged → Bool
  | .const _ => true
  | .var _ _ => false
  | .compound _ _ hasVars => !hasVars
  | .template _ => false
  | .nil => true

/-- **A compound term made from its arguments**: the flag is set if it is set, or a variable or template stands, in one
of them. -/
def make (functor : String) (args : List (Arg Flagged)) : Flagged :=
  .compound functor args (args.any fun a => !a.value.isGround)

def positional (functor : String) (ts : List Flagged) : Flagged := make functor (ts.map fun t => ⟨none, t⟩)

def list (items : List Flagged) (tail : Flagged) : Flagged :=
  items.foldr (fun item rest => positional Term.cellFunctor [item, rest]) tail

def mapArgs {ε : Type} (f : Flagged → Except ε Flagged) (functor : String) (args : List (Arg Flagged)) :
    Except ε Flagged :=
  (args.mapM fun a => (f a.value).map fun t => ⟨a.name, t⟩).map (make functor)

mutual

/-- **The term with every slot moved up**; the flag is copied. -/
def offset (base : Nat) : Flagged → Flagged
  | .const v => .const v
  | .var name slot => .var name (slot + base)
  | .compound functor args hasVars =>
    if !hasVars || base == 0 then .compound functor args hasVars else .compound functor (offsetArgs base args) true
  | .template e => .template e
  | .nil => .nil

def offsetArgs (base : Nat) : List (Arg Flagged) → List (Arg Flagged)
  | [] => []
  | a :: rest => ⟨a.name, offset base a.value⟩ :: offsetArgs base rest

end

mutual

def span : Flagged → Nat
  | .const _ => 0
  | .var _ slot => slot + 1
  | .compound _ args hasVars => if hasVars then spanOf args else 0
  | .template _ => 0
  | .nil => 0

def spanOf : List (Arg Flagged) → Nat
  | [] => 0
  | a :: rest => max (span a.value) (spanOf rest)

end

mutual

/-- **The term with every variable replaced**; what is not taken over is made anew. -/
def replace (f : String → Nat → Flagged) : Flagged → Flagged
  | .const v => .const v
  | .var name slot => f name slot
  | .compound functor args hasVars =>
    if hasVars then make functor (replaceArgs f args) else .compound functor args hasVars
  | .template e => .template e
  | .nil => .nil

def replaceArgs (f : String → Nat → Flagged) : List (Arg Flagged) → List (Arg Flagged)
  | [] => []
  | a :: rest => ⟨a.name, replace f a.value⟩ :: replaceArgs f rest

end

mutual

/-- **The term with its slots moved up and its templates evaluated**; what is not taken over is made anew. -/
def instantiate (env : Expr.Env) (base : Nat) : Flagged → Except Expr.EvalError Flagged
  | .const v => .ok (.const v)
  | .var name slot => .ok (.var name (slot + base))
  | .compound functor args hasVars =>
    if hasVars then (instantiateArgs env base args).map (make functor) else .ok (.compound functor args hasVars)
  | .template e => (e.eval env).map .const
  | .nil => .ok .nil

def instantiateArgs (env : Expr.Env) (base : Nat) : List (Arg Flagged) → Except Expr.EvalError (List (Arg Flagged))
  | [] => .ok []
  | a :: rest =>
    match instantiate env base a.value with
    | .error e => .error e
    | .ok value => (instantiateArgs env base rest).map (⟨a.name, value⟩ :: ·)

end

/-- **The slots, holding stored terms**, and the slots that have been bound. -/
structure Log where
  slots : Array (Option Flagged)
  trail : Stack Nat

namespace Log

variable (log : Log)

def lookup? (slot : Nat) : Option Flagged := (log.slots[slot]?).getD none

def walkFor : Nat → Flagged → Flagged
  | 0, t => t
  | n + 1, .var name slot =>
    match log.lookup? slot with
    | some t => walkFor n t
    | none => .var name slot
  | _ + 1, t => t

def walk (t : Flagged) : Flagged := log.walkFor log.slots.size t

def resolveFor : Nat → Flagged → Flagged
  | 0, t => t
  | n + 1, t => t.replace fun name slot =>
    match log.lookup? slot with
    | some u => resolveFor n u
    | none => .var name slot

/-- **The term with every bound variable replaced** by what it stands for. -/
def resolve (t : Flagged) : Flagged := log.resolveFor (log.slots.size + 1) t

end Log

/-! ## Terms without flags, and flags made anew -/

mutual

/-- **The term without its flags.** -/
def plain : Flagged → Term
  | .const v => .const v
  | .var name slot => .var name slot
  | .compound functor args _ => .compound functor (plainArgs args)
  | .template e => .template e
  | .nil => .nil

def plainArgs : List (Arg Flagged) → List (Arg Term)
  | [] => []
  | a :: rest => ⟨a.name, plain a.value⟩ :: plainArgs rest

end

mutual

/-- **The term stored**, all of its flags made anew. -/
def ofTerm : Term → Flagged
  | .const v => .const v
  | .var name slot => .var name slot
  | .compound functor args => make functor (ofArgs args)
  | .template e => .template e
  | .nil => .nil

def ofArgs : List (Arg Term) → List (Arg Flagged)
  | [] => []
  | a :: rest => ⟨a.name, ofTerm a.value⟩ :: ofArgs rest

end

def Log.plain (log : Log) : Bindings := ⟨log.slots.map (Option.map Flagged.plain), log.trail⟩

theorem plainArgs_eq_map (args : List (Arg Flagged)) : plainArgs args = args.map fun a => ⟨a.name, a.value.plain⟩ := by
  induction args with
  | nil => rfl
  | cons a rest ih => rw [plainArgs, ih, List.map_cons]

theorem ofArgs_eq_map (args : List (Arg Term)) : ofArgs args = args.map fun a => ⟨a.name, ofTerm a.value⟩ := by
  induction args with
  | nil => rfl
  | cons a rest ih => rw [ofArgs, ih, List.map_cons]

mutual

theorem plain_ofTerm : ∀ t : Term, (ofTerm t).plain = t
  | .const _ | .var _ _ | .template _ | .nil => rfl
  | .compound functor args => congrArg (Term.compound functor) (plainArgs_ofArgs args)

theorem plainArgs_ofArgs : ∀ args : List (Arg Term), plainArgs (ofArgs args) = args
  | [] => rfl
  | a :: rest => by rw [ofArgs, plainArgs, plain_ofTerm a.value, plainArgs_ofArgs rest]

end

mutual

/-- **Flags made anew are right.** -/
theorem isGround_ofTerm : ∀ t : Term, (ofTerm t).isGround = t.isGround
  | .const _ | .var _ _ | .template _ | .nil => rfl
  | .compound functor args => by rw [ofTerm, make, isGround, any_ofArgs args, Bool.not_not, Term.isGround]

theorem any_ofArgs : ∀ args : List (Arg Term), ((ofArgs args).any fun a => !a.value.isGround) = !Term.areGround args
  | [] => rfl
  | a :: rest => by rw [ofArgs, List.any_cons, isGround_ofTerm a.value, any_ofArgs rest, Term.areGround, Bool.not_and]

end

theorem ofTerm_compound (functor : String) (args : List (Arg Term)) :
    ofTerm (.compound functor args) = .compound functor (ofArgs args) (!Term.areGround args) := by
  rw [ofTerm, make, any_ofArgs]

/-! ## What the functions do to terms stored anew -/

mutual

theorem isGround_moved (base : Nat) : ∀ t : Term, (t.bind fun name slot => .var name (slot + base)).isGround = t.isGround
  | .const _ | .var _ _ | .template _ | .nil => rfl
  | .compound _ args => areGround_moved base args

theorem areGround_moved (base : Nat) : ∀ args : List (Arg Term),
    Term.areGround (Term.bindArgs (fun name slot => .var name (slot + base)) args) = Term.areGround args
  | [] => rfl
  | a :: rest => by
    rw [Term.bindArgs, Term.areGround, Term.areGround, isGround_moved base a.value, areGround_moved base rest]

end

mutual

/-- **Moving slots** of what has variables leaves it with variables, so the flag may be copied. -/
theorem offset_ofTerm (base : Nat) : ∀ t : Term,
    (ofTerm t).offset base = ofTerm (t.bind fun name slot => .var name (slot + base))
  | .const _ | .var _ _ | .template _ | .nil => rfl
  | .compound functor args => by
    rw [Term.bind, ofTerm_compound, ofTerm_compound, areGround_moved, offset, Bool.not_not]
    cases hground : Term.areGround args with
    | true => rw [Bool.true_or, if_pos rfl, Term.bindArgs_of_areGround _ hground]
    | false =>
      rw [Bool.false_or]
      split
      · rename_i hbase
        obtain rfl := beq_iff_eq.1 hbase
        rw [show (fun name slot => Term.var name (slot + 0)) = Term.var from rfl, Term.bindArgs_var, Bool.not_false]
      · rw [offsetArgs_ofArgs base args, Bool.not_false]

theorem offsetArgs_ofArgs (base : Nat) : ∀ args : List (Arg Term),
    offsetArgs base (ofArgs args) = ofArgs (Term.bindArgs (fun name slot => .var name (slot + base)) args)
  | [] => rfl
  | a :: rest => by
    rw [ofArgs, offsetArgs, offset_ofTerm base a.value, offsetArgs_ofArgs base rest, Term.bindArgs, ofArgs]

end

mutual

theorem span_ofTerm : ∀ t : Term, (ofTerm t).span = t.span
  | .const _ | .var _ _ | .template _ | .nil => rfl
  | .compound functor args => by
    rw [ofTerm_compound, span]
    cases hground : Term.areGround args with
    | true => exact (Term.span_eq_zero (t := .compound functor args) hground).symm
    | false => exact spanOf_ofArgs args

theorem spanOf_ofArgs : ∀ args : List (Arg Term), spanOf (ofArgs args) = Term.spanOf args
  | [] => rfl
  | a :: rest => by rw [ofArgs, spanOf, span_ofTerm a.value, spanOf_ofArgs rest, Term.spanOf]

end

section Replace

variable {f : String → Nat → Flagged} {g : String → Nat → Term}

mutual

theorem replace_ofTerm (h : ∀ name slot, f name slot = ofTerm (g name slot)) : ∀ t : Term,
    (ofTerm t).replace f = ofTerm (t.bind g)
  | .const _ | .template _ | .nil => rfl
  | .var name slot => h name slot
  | .compound functor args => by
    rw [Term.bind, ofTerm_compound, replace]
    cases hground : Term.areGround args with
    | true =>
      rw [Term.bindArgs_of_areGround _ hground, ofTerm_compound, hground]
      rfl
    | false =>
      rw [Bool.not_false, if_pos rfl, replaceArgs_ofArgs h args, ofTerm]

theorem replaceArgs_ofArgs (h : ∀ name slot, f name slot = ofTerm (g name slot)) : ∀ args : List (Arg Term),
    replaceArgs f (ofArgs args) = ofArgs (Term.bindArgs g args)
  | [] => rfl
  | a :: rest => by
    rw [ofArgs, replaceArgs, replace_ofTerm h a.value, replaceArgs_ofArgs h rest, Term.bindArgs, ofArgs]

end

end Replace

mutual

theorem instantiate_ofTerm (env : Expr.Env) (base : Nat) : ∀ t : Term,
    (ofTerm t).instantiate env base = (t.instantiate env base).map ofTerm
  | .const _ | .var _ _ | .nil => rfl
  | .template e => by
    rw [ofTerm, instantiate, Term.instantiate]
    cases e.eval env <;> rfl
  | .compound functor args => by
    cases hground : Term.areGround args with
    | true =>
      rw [Term.instantiate_of_isGround (t := .compound functor args) env base hground, Except.map, ofTerm_compound,
        hground]
      rfl
    | false =>
      rw [ofTerm_compound, hground, instantiate, Bool.not_false, if_pos rfl, instantiateArgs_ofArgs env base args,
        Term.instantiate]
      cases Term.instantiateArgs env base args <;> rfl

theorem instantiateArgs_ofArgs (env : Expr.Env) (base : Nat) : ∀ args : List (Arg Term),
    instantiateArgs env base (ofArgs args) = (Term.instantiateArgs env base args).map ofArgs
  | [] => rfl
  | a :: rest => by
    rw [ofArgs, instantiateArgs, instantiate_ofTerm env base a.value, instantiateArgs_ofArgs env base rest,
      Term.instantiateArgs]
    cases a.value.instantiate env base with
    | error e => rfl
    | ok value => cases Term.instantiateArgs env base rest <;> rfl

end

/-! ## Terms all of whose flags are right -/

variable {functor : String} {args : List (Arg Flagged)} {hasVars : Bool} {t u : Flagged}

/-- **All flags of a term are right**: stored anew, it has the same ones. -/
def Faithful (t : Flagged) : Prop := ofTerm t.plain = t

theorem faithful_ofTerm (t : Term) : (ofTerm t).Faithful := congrArg ofTerm (plain_ofTerm t)

theorem ofArgs_plainArgs (args : List (Arg Flagged)) :
    ofArgs (plainArgs args) = args.map fun a => ⟨a.name, ofTerm a.value.plain⟩ := by
  rw [plainArgs_eq_map, ofArgs_eq_map, List.map_map]
  rfl

/-- **What is made of such terms** is such a term. -/
theorem faithful_make (functor : String) (h : ∀ a ∈ args, a.value.Faithful) : (make functor args).Faithful := by
  have hargs : ofArgs (plainArgs args) = args := by
    rw [ofArgs_plainArgs, List.map_congr_left fun a ha => congrArg (Arg.mk a.name) (h a ha)]
    exact List.map_id args
  rw [Faithful, make, plain, ofTerm, hargs, make]

theorem Faithful.made (h : (compound functor args hasVars).Faithful) :
    (∀ a ∈ args, a.value.Faithful) ∧ hasVars = args.any fun a => !a.value.isGround := by
  rw [Faithful, plain, ofTerm, make] at h
  injection h with _ hargs hflag
  rw [hargs] at hflag
  rw [ofArgs_plainArgs] at hargs
  refine ⟨fun a ha => ?_, hflag.symm⟩
  exact congrArg Arg.value ((List.map_inj_left (g := id)).1 (hargs.trans (List.map_id args).symm) a ha)

inductive Part (u : Flagged) : Flagged → Prop
  | self : Part u u
  | arg {functor : String} {args : List (Arg Flagged)} {hasVars : Bool} {a : Arg Flagged} (ha : a ∈ args)
      (h : Part u a.value) : Part u (.compound functor args hasVars)

theorem Faithful.part (h : t.Faithful) (hu : Part u t) : u.Faithful := by
  induction hu with
  | self => exact h
  | arg ha _ ih => exact ih (h.made.1 _ ha)

def isOpen : Flagged → Bool
  | .var _ _ => true
  | .template _ => true
  | _ => false

theorem Faithful.isGround_part (h : t.Faithful) (hground : t.isGround = true) (hu : Part u t) : u.isGround = true := by
  induction hu with
  | self => exact hground
  | @arg _ args _ a ha _ ih =>
    obtain ⟨hargs, rfl⟩ := h.made
    refine ih (hargs a ha) ?_
    simpa using List.all_eq_true.1 (List.not_any_eq_all_not.symm.trans hground) a ha

mutual

theorem exists_open : ∀ {t : Term}, t.isGround = false → ∃ u, Part u (ofTerm t) ∧ u.isOpen = true
  | .var name slot, _ => ⟨.var name slot, .self, rfl⟩
  | .template e, _ => ⟨.template e, .self, rfl⟩
  | .compound functor args, h => by
    obtain ⟨a, ha, u, hu, hopen⟩ := exists_open_arg h
    exact ⟨u, .arg ha hu, hopen⟩

theorem exists_open_arg : ∀ {args : List (Arg Term)}, Term.areGround args = false →
    ∃ a ∈ ofArgs args, ∃ u, Part u a.value ∧ u.isOpen = true
  | a :: rest, h => by
    rw [Term.areGround, Bool.and_eq_false_iff] at h
    rcases h with ha | hrest
    · exact ⟨_, List.mem_cons_self, exists_open ha⟩
    · obtain ⟨b, hb, hopen⟩ := exists_open_arg hrest
      exact ⟨b, List.mem_cons_of_mem _ hb, hopen⟩

end

/-- **The flag of such a term tells whether a variable or a template stands anywhere in it.** -/
theorem Faithful.isGround_iff (h : t.Faithful) : t.isGround = true ↔ ∀ u, Part u t → u.isOpen = false := by
  constructor
  · intro hground u hu
    have hu := h.isGround_part hground hu
    cases u with
    | var | template => cases hu
    | _ => rfl
  · intro hclosed
    by_contra hground
    rw [Bool.not_eq_true, ← h, isGround_ofTerm] at hground
    obtain ⟨u, hu, hopen⟩ := exists_open hground
    rw [h] at hu
    rw [hclosed u hu] at hopen
    cases hopen

section Mentions

variable {name : String} {i : Nat}

mutual

theorem mentions_of_part : ∀ {t : Term}, Part (.var name i) (ofTerm t) → (name, i) ∈ t.mentions
  | .var _ _, .self => List.mem_cons_self
  | .compound _ _, .arg ha h => mentionsOf_of_part ha h

theorem mentionsOf_of_part : ∀ {args : List (Arg Term)} {a : Arg Flagged}, a ∈ ofArgs args →
    Part (.var name i) a.value → (name, i) ∈ Term.mentionsOf args
  | b :: rest, a, ha, h => by
    rw [Term.mentionsOf]
    rcases List.mem_cons.1 ha with rfl | ha
    · exact List.mem_append_left _ (mentions_of_part h)
    · exact List.mem_append_right _ (mentionsOf_of_part ha h)

end

end Mentions

/-! ## Slots that hold such terms -/

namespace Log

variable {log : Log}

/-- All flags of the terms that slots hold are right. -/
def Faithful (log : Log) : Prop := ∀ i u, log.lookup? i = some u → u.Faithful

theorem lookup?_plain (log : Log) (i : Nat) : log.plain.lookup? i = (log.lookup? i).map Flagged.plain := by
  unfold Bindings.lookup? Log.lookup? Log.plain
  rw [Array.getElem?_map]
  cases log.slots[i]? <;> rfl

theorem Faithful.lookup?_eq (h : log.Faithful) (i : Nat) : log.lookup? i = (log.plain.lookup? i).map ofTerm := by
  rw [lookup?_plain]
  cases hu : log.lookup? i with
  | none => rfl
  | some u => exact congrArg some (h i u hu).symm

theorem Faithful.walkFor_ofTerm (h : log.Faithful) : ∀ (n : Nat) (t : Term),
    log.walkFor n (ofTerm t) = ofTerm (log.plain.walkFor n t)
  | 0, _ => rfl
  | n + 1, .var name i => by
    rw [ofTerm, walkFor, Bindings.walkFor, h.lookup?_eq]
    cases log.plain.lookup? i with
    | none => rfl
    | some u => exact h.walkFor_ofTerm n u
  | _ + 1, .const _ | _ + 1, .compound _ _ | _ + 1, .template _ | _ + 1, .nil => rfl

theorem Faithful.walk_ofTerm (h : log.Faithful) (t : Term) : log.walk (ofTerm t) = ofTerm (log.plain.walk t) := by
  unfold walk Bindings.walk Log.plain
  rw [Array.size_map]
  exact h.walkFor_ofTerm _ t

theorem Faithful.resolveFor_ofTerm (h : log.Faithful) : ∀ (n : Nat) (t : Term),
    log.resolveFor n (ofTerm t) = ofTerm (log.plain.resolveFor n t)
  | 0, _ => rfl
  | n + 1, t => by
    rw [resolveFor, Bindings.resolveFor_eq]
    refine replace_ofTerm (fun name i => ?_) t
    rw [h.lookup?_eq]
    cases hu : log.plain.lookup? i with
    | none => rw [Bindings.resolveFor_free _ _ _ hu]; rfl
    | some u =>
      rw [Bindings.resolveFor_var _ n name hu]
      exact h.resolveFor_ofTerm n u

/-- **Resolving** what is stored is resolving what it is without flags. -/
theorem Faithful.resolve_ofTerm (h : log.Faithful) (t : Term) :
    log.resolve (ofTerm t) = ofTerm (log.plain.resolve t) := by
  unfold resolve Bindings.resolve Log.plain
  rw [Array.size_map]
  exact h.resolveFor_ofTerm _ t

/-- A term followed and, if a compound term comes of it, made anew from its resolved arguments, whatever the flag. -/
def remake (log : Log) (t : Flagged) : Flagged :=
  match log.walk t with
  | .compound functor args _ => make functor (args.map fun a => ⟨a.name, log.resolve a.value⟩)
  | u => u

/-- **Where no slot leads back to itself**, resolving a term is making it anew from its resolved arguments. -/
theorem Faithful.resolve_eq_remake (h : log.Faithful) (hacyclic : log.plain.Acyclic) (ht : t.Faithful) :
    log.resolve t = log.remake t := by
  have hended := hacyclic.chainsEnd.ended_walk t.plain
  rw [← ht, h.resolve_ofTerm, ← hacyclic.resolve_walk .refl, remake, h.walk_ofTerm]
  generalize log.plain.walk t.plain = u at hended ⊢
  cases u with
  | var name i => rw [Bindings.resolve_free (hended name i rfl), ofTerm]
  | compound functor args =>
    rw [Bindings.resolve_compound, ofTerm, ofTerm_compound, ofArgs_eq_map, ofArgs_eq_map]
    simp only [List.map_map]
    refine congrArg (make functor) (List.map_congr_left fun a _ => ?_)
    exact congrArg (Arg.mk a.name) (h.resolve_ofTerm a.value).symm
  | _ =>
    rw [Bindings.resolve_bind]
    rfl

/-- **What has been followed and is flagged to have no variables** may be taken over. -/
theorem Faithful.resolve_eq_walk (h : log.Faithful) (hacyclic : log.plain.Acyclic) (ht : t.Faithful)
    (hground : (log.walk t).isGround = true) : log.resolve t = log.walk t := by
  rw [← ht, h.walk_ofTerm, isGround_ofTerm] at hground
  rw [← ht, h.resolve_ofTerm, h.walk_ofTerm, ← hacyclic.resolve_walk .refl]
  exact congrArg ofTerm (Bindings.resolveFor_of_isGround _ hground _)

theorem Faithful.lookup?_of_resolve (h : log.Faithful) (hacyclic : log.plain.Acyclic) (ht : t.Faithful) {name : String}
    {i : Nat} (hpart : Part (.var name i) (log.resolve t)) : log.lookup? i = none := by
  rw [← ht, h.resolve_ofTerm] at hpart
  have hfree := hacyclic.resolves t.plain (name, i) (mentions_of_part hpart)
  rw [h.lookup?_eq, hfree]
  rfl

end Log

/-! ## All terms that are built -/

/-- **Terms that are built**: by reading a text, where all compound terms are made from their arguments, from arguments,
as lists, by mapping arguments, by moving slots, by resolving and by instantiating; and the parts of such terms, which
is what slots come to hold. -/
inductive Built : Flagged → Prop
  | const (v : Value) : Built (.const v)
  | var (name : String) (slot : Nat) : Built (.var name slot)
  | template (e : Expr) : Built (.template e)
  | nil : Built .nil
  | parsed {vars vars' : VarTable} {text : String} {t : Term} (h : Term.parse vars text = .ok (t, vars')) :
      Built (ofTerm t)
  | make (functor : String) {args : List (Arg Flagged)} (h : ∀ a ∈ args, Built a.value) : Built (make functor args)
  | positional (functor : String) {ts : List Flagged} (h : ∀ t ∈ ts, Built t) : Built (positional functor ts)
  | list {items : List Flagged} {tail : Flagged} (h : ∀ t ∈ items, Built t) (htail : Built tail) :
      Built (list items tail)
  | mapArgs {ε : Type} {f : Flagged → Except ε Flagged} {functor : String} {args : List (Arg Flagged)} {t : Flagged}
      (hf : ∀ a ∈ args, ∀ u, f a.value = .ok u → Built u) (h : mapArgs f functor args = .ok t) : Built t
  | part {t u : Flagged} (h : Built t) (hu : Part u t) : Built u
  | offset (base : Nat) {t : Flagged} (h : Built t) : Built (t.offset base)
  | resolve {log : Log} {t : Flagged} (hlog : ∀ i u, log.lookup? i = some u → Built u)
      (hacyclic : log.plain.Acyclic) (h : Built t) : Built (log.resolve t)
  | instantiate {env : Expr.Env} {base : Nat} {t u : Flagged} (h : Built t) (hu : t.instantiate env base = .ok u) :
      Built u

theorem faithful_positional (functor : String) {ts : List Flagged} (h : ∀ t ∈ ts, t.Faithful) :
    (positional functor ts).Faithful :=
  faithful_make functor (List.forall_mem_map.2 h)

theorem faithful_list {items : List Flagged} {tail : Flagged} (h : ∀ t ∈ items, t.Faithful) (htail : tail.Faithful) :
    (list items tail).Faithful := by
  induction items with
  | nil => exact htail
  | cons item items ih =>
    obtain ⟨hitem, hitems⟩ := List.forall_mem_cons.1 h
    exact faithful_positional _ (List.forall_mem_cons.2 ⟨hitem, List.forall_mem_singleton.2 (ih hitems)⟩)

theorem exists_arg_of_mapM {ε : Type} {f : Flagged → Except ε Flagged} : ∀ {args args' : List (Arg Flagged)},
    (args.mapM fun a => (f a.value).map fun t => (⟨a.name, t⟩ : Arg Flagged)) = .ok args' →
      ∀ a' ∈ args', ∃ a ∈ args, f a.value = .ok a'.value
  | [], _, h, a', ha' => by
    cases h
    cases ha'
  | a :: rest, args', h, a', ha' => by
    rw [List.mapM_cons] at h
    obtain ⟨b, hb, h⟩ := bind_eq_ok h
    obtain ⟨bs, hbs, h⟩ := bind_eq_ok h
    obtain ⟨t, ht, rfl⟩ := map_eq_ok hb
    cases h
    rcases List.mem_cons.1 ha' with rfl | ha'
    · exact ⟨a, List.mem_cons_self, ht⟩
    · obtain ⟨a₀, ha₀, h⟩ := exists_arg_of_mapM hbs a' ha'
      exact ⟨a₀, List.mem_cons_of_mem _ ha₀, h⟩

theorem Faithful.offset (h : t.Faithful) (base : Nat) :
    t.offset base = ofTerm (t.plain.bind fun name slot => .var name (slot + base)) := by
  rw [← offset_ofTerm, h]

theorem Faithful.instantiate (h : t.Faithful) (env : Expr.Env) (base : Nat) :
    t.instantiate env base = (t.plain.instantiate env base).map ofTerm := by
  rw [← instantiate_ofTerm, h]

/-- **All terms that are built have the right flags.** -/
theorem Built.faithful (h : Built t) : t.Faithful := by
  induction h with
  | const | var | template | nil => rfl
  | parsed => exact faithful_ofTerm _
  | make functor _ ih => exact faithful_make functor ih
  | positional functor _ ih => exact faithful_positional functor ih
  | list _ _ ih ihtail => exact faithful_list ih ihtail
  | mapArgs _ h ih =>
    obtain ⟨args', hargs, rfl⟩ := map_eq_ok h
    refine faithful_make _ fun a' ha' => ?_
    obtain ⟨a, ha, hf⟩ := exists_arg_of_mapM hargs a' ha'
    exact ih a ha _ hf
  | part _ hu ih => exact ih.part hu
  | offset base _ ih =>
    rw [ih.offset]
    exact faithful_ofTerm _
  | @resolve log t _ _ _ ihlog ih =>
    rw [← ih, Log.Faithful.resolve_ofTerm ihlog]
    exact faithful_ofTerm _
  | instantiate _ hu ih =>
    rw [ih.instantiate] at hu
    obtain ⟨u, -, rfl⟩ := map_eq_ok hu
    exact faithful_ofTerm u

/-- **Slots that hold terms that have been built.** -/
def Log.Built (log : Log) : Prop := ∀ i u, log.lookup? i = some u → u.Built

theorem Faithful.offset_offset (h : t.Faithful) (a b : Nat) : (t.offset a).offset b = t.offset (a + b) := by
  rw [h.offset a, h.offset (a + b), offset_ofTerm, Term.bind_bind]
  simp only [Term.bind, Nat.add_assoc]

/-- **The flags of all terms that are built are right.**  A part of such a term is flagged to be ground just if no
variable and no template stands in it.  So it makes no difference that parts are passed over that are flagged so: what
comes of moving slots, of the span, of instantiating and of resolving is what comes of the plain term, all of it
traversed, with its flags made anew; moving slots twice is moving them once; and resolving leaves no bound variable. -/
theorem flags_of_built (h : Built t) :
    (∀ u, Part u t → (u.isGround = true ↔ ∀ v, Part v u → v.isOpen = false)) ∧
      (∀ base, t.offset base = ofTerm (t.plain.bind fun name slot => .var name (slot + base)) ∧
        (t.offset base).plain = t.plain.offset base) ∧
        (∀ a b, (t.offset a).offset b = t.offset (a + b)) ∧ t.span = t.plain.span ∧
          (∀ env base, t.instantiate env base = (t.plain.instantiate env base).map ofTerm) ∧
            ∀ log : Log, log.Built → log.plain.Acyclic →
              log.resolve t = (if (log.walk t).isGround then log.walk t else log.remake t) ∧
                log.resolve t = log.remake t ∧ log.resolve t = ofTerm (log.plain.resolve t.plain) ∧
                  ∀ name i, Part (.var name i) (log.resolve t) → log.lookup? i = none := by
  have ht := h.faithful
  refine ⟨fun u hu => (ht.part hu).isGround_iff, fun base => ⟨ht.offset base, ?_⟩, ht.offset_offset, ?_,
    ht.instantiate, fun log hlog hacyclic => ?_⟩
  · rw [ht.offset, plain_ofTerm, Term.offset_eq]
  · rw [← span_ofTerm, ht]
  · have hfaithful : log.Faithful := fun i u hu => (hlog i u hu).faithful
    have hremake := hfaithful.resolve_eq_remake hacyclic ht
    refine ⟨?_, hremake, ?_, fun name i => hfaithful.lookup?_of_resolve hacyclic ht⟩
    · split
      · rename_i hground
        exact hfaithful.resolve_eq_walk hacyclic ht hground
      · exact hremake
    · rw [← hfaithful.resolve_ofTerm, ht]

/-- `g(1)`. -/
def pebble : Flagged := make "g" [⟨none, .const (.int 1)⟩]

/-- `f(g(1), L: [?X, g(1) | ?Y], {get("Name")})`. -/
def mixed : Flagged :=
  make "f" [⟨none, pebble⟩, ⟨some "L", list [.var "X" 0, pebble] (.var "Y" 1)⟩,
    ⟨none, .template (.call .get [.literal (.string "Name")])⟩]

/-- `?X` stands for `?Y`, and `?Y` for the list of `g(1)`. -/
def mixedLog : Log := ⟨#[some (.var "Y" 1), some (list [pebble] .nil)], (Stack.empty.push 1).push 0⟩

theorem flags_of_built_mixed : Built mixed ∧ mixedLog.Built ∧ mixedLog.plain.Acyclic ∧
    (mixedLog.resolve mixed).plain.display = "f(g(1), L: [[g(1)], g(1), g(1)], \x7bget(\"Name\")\x7d)" ∧
      mixedLog.resolve mixed = mixedLog.remake mixed ∧
        (∀ name i, Part (.var name i) (mixedLog.resolve mixed) → mixedLog.lookup? i = none) ∧
          (mixed.offset 2).offset 3 = mixed.offset 5 := by
  have hpebble : Built pebble := .make _ (List.forall_mem_singleton.2 (.const _))
  have hlist : Built (list [.var "X" 0, pebble] (.var "Y" 1)) :=
    .list (List.forall_mem_cons.2 ⟨.var _ _, List.forall_mem_singleton.2 hpebble⟩) (.var _ _)
  have hmixed : Built mixed := .make _ (List.forall_mem_cons.2 ⟨hpebble, List.forall_mem_cons.2 ⟨hlist,
    List.forall_mem_singleton.2 (.template _)⟩⟩)
  have hlog : mixedLog.Built := by
    intro i u hu
    match i, hu with
    | 0, hu =>
      cases hu
      exact .var _ _
    | 1, hu =>
      cases hu
      exact .list (List.forall_mem_singleton.2 hpebble) .nil
  have hacyclic : mixedLog.plain.Acyclic := Bindings.acyclic_of_slots (fun i => 2 - i) (by decide +kernel)
  obtain ⟨-, -, hoffset, -, -, hresolve⟩ := flags_of_built hmixed
  obtain ⟨-, hremake, -, hfree⟩ := hresolve mixedLog hlog hacyclic
  exact ⟨hmixed, hlog, hacyclic, by decide, hremake, hfree, hoffset 2 3⟩

end Flagged

end Remedy
