import Remedy.Proofs.Program.Checks
import Remedy.Proofs.Program.Names
/-!
# Proofs.Program.Rules — a module has all of its rules, and no others

Compiling sorts the rules by what they define, takes the declarations from among them, and leaves rules out.  All of
them are accounted for (`rules_accounted`): the predicates are those that rules define, in the order in which they
appear, and then those that are declared to be dynamic; each has just those of its rules that call nothing which is not
applicable, in their order and with their texts and lines; and a predicate whose rules are all left out is still there.
That a rule is left out excuses it from nothing: rules compile if and only if all of them can be read, the declarations
among them apply, and every call of every other rule is accepted.
-/
namespace Remedy

/-! ## What is to be accounted for -/

def declarationsOf (parsed : List (Clause Unit)) : List (Clause Unit) := parsed.filter isDeclaration

def rulesOf (parsed : List (Clause Unit)) : List (Clause Unit) := parsed.filter (!isDeclaration ·)

/-- The names that rules define, each once, in the order in which they appear. -/
def definedNames (parsed : List (Clause Unit)) : List String :=
  ((rulesOf parsed).map (·.head.functor)).eraseDups

def Arg.isDynamic (a : Arg Term) : Bool :=
  a.name.isNone && (a.value.asConst?.bind Value.asString?).any fun word => Text.asciiLower word = "dynamic"

def Clause.dynamic? (c : Clause Unit) : Option String :=
  match c.head.args with
  | [] => none
  | a :: rest => if rest.any Arg.isDynamic then a.value.asConst?.bind Value.asString? else none

def dynamicNames (parsed : List (Clause Unit)) : List String :=
  ((declarationsOf parsed).filterMap Clause.dynamic?).eraseDups

/-- **A rule is to be left out of a module**: at some depth it calls a name that is no predicate of the module and that
the provider has no use for. -/
def RuleModule.leavesOut (m : RuleModule) (l : Library) (c : Clause Unit) : Bool :=
  c.body.any fun g => g.call?.any fun (_, call) =>
    (m.index? call.functor).isNone && (m.provider.lookup l call.functor).isNotApplicable

/-- The names of predicates, and how they come by what they know. -/
def listing (ps : List Predicate) : List (String × PredicateKind) := ps.map fun p => (p.name, p.kind)

/-- **A module accounts for the rules that it was compiled from**, which have been read as `parsed`. -/
structure RuleModule.Accounts (m : RuleModule) (l : Library) (provider : Provider) (rules : List RuleText)
    (parsed : List (Clause Unit)) : Prop where
  read : rules.map Rule.parse = parsed.map .ok
  texts : rules = parsed.map fun c => ⟨c.text, c.line⟩
  provided : m.provider = provider
  listed : listing m.predicates =
    (definedNames parsed).map (·, .rules) ++ (dynamicNames parsed).map (·, .dynamic)
  unique : (m.predicates.map (·.name)).Nodup
  clauses : ∀ p ∈ m.predicates, p.clauses.map Clause.source =
    (rulesOf parsed).filter fun c => c.head.functor == p.name && !m.leavesOut l c
  defined : ∀ c ∈ rulesOf parsed, ∃ p ∈ m.predicates, p.name = c.head.functor ∧ p.kind = .rules
  accepted : ∀ c ∈ rulesOf parsed, ∀ mentioned call, c.Calls mentioned call → (m.scope l).Accepts mentioned call

/-- **All that rules are asked for**: they can be read, the declarations among them apply, and every call of the others is
accepted. -/
structure Compilable (l : Library) (provider : Provider) (rules : List RuleText) (parsed : List (Clause Unit))
    (declared : Declared) : Prop where
  read : rules.map Rule.parse = parsed.map .ok
  applied : Declared.applyAll ⟨definedBy (rulesOf parsed), []⟩ l provider (declarationsOf parsed) = .ok declared
  accepted : ∀ c ∈ rulesOf parsed, ∀ mentioned call, c.Calls mentioned call →
    (⟨l, declared.predicates, declared.overrides, provider⟩ : Scope).Accepts mentioned call

/-! ## Reading -/

theorem parseRules_iff : ∀ {rules : List RuleText} {parsed : List (Clause Unit)},
    parseRules rules = .ok parsed ↔ rules.map Rule.parse = parsed.map .ok
  | [], parsed => by
    rw [parseRules, List.map_nil, eq_comm (a := []), List.map_eq_nil_iff]
    exact ⟨fun h => (Except.ok.inj h).symm, fun h => congrArg _ h.symm⟩
  | r :: rest, parsed => by
    constructor
    · intro h
      rw [parseRules] at h
      split at h
      · cases h
      · rename_i c hc
        obtain ⟨cs, hr, rfl⟩ := map_eq_ok h
        rw [List.map_cons, List.map_cons, hc, parseRules_iff.1 hr]
    · intro h
      cases parsed with
      | nil => cases h
      | cons c cs =>
        obtain ⟨hc, hr⟩ := List.cons.inj h
        rw [parseRules, hc]
        simp only
        rw [parseRules_iff.2 hr]
        rfl

theorem texts_of_parse {r : RuleText} {c : Clause Unit} (h : Rule.parse r = .ok c) : r = ⟨c.text, c.line⟩ := by
  unfold Rule.parse at h
  split at h
  · cases h
    rfl
  · cases h

/-- **The rules that have been read** have the texts and lines of the rules as they came. -/
theorem texts_of_read : ∀ {rules : List RuleText} {parsed : List (Clause Unit)},
    rules.map Rule.parse = parsed.map .ok → rules = parsed.map fun c => ⟨c.text, c.line⟩
  | [], [], _ => rfl
  | [], _ :: _, h | _ :: _, [], h => nomatch h
  | r :: rest, c :: cs, h => by
    obtain ⟨hc, hr⟩ := List.cons.inj h
    rw [List.map_cons, ← texts_of_parse hc, ← texts_of_read hr]

/-! ## Predicates -/

def enlist {α : Type} [DecidableEq α] (xs : List α) (x : α) : List α := if x ∈ xs then xs else xs ++ [x]

theorem filter_not_mem_concat {α : Type} [DecidableEq α] (xs ps : List α) (x : α) :
    xs.filter (· ∉ ps ++ [x]) = (xs.filter (· ∉ ps)).filter fun y => !y == x := by
  rw [List.filter_filter]
  refine List.filter_congr fun y _ => ?_
  rw [Bool.eq_iff_iff]
  simp [and_comm]

/-- **Items put into a list one after the other** are there once, in the order in which they first came. -/
theorem foldl_enlist {α : Type} [DecidableEq α] : ∀ (xs ps : List α),
    xs.foldl enlist ps = ps ++ (xs.filter (· ∉ ps)).eraseDups
  | [], ps => (List.append_nil ps).symm
  | x :: xs, ps => by
    rw [List.foldl_cons, foldl_enlist xs, enlist]
    by_cases hx : x ∈ ps
    · rw [if_pos hx, List.filter_cons_of_neg (by simpa using hx)]
    · rw [if_neg hx, List.filter_cons_of_pos (by simpa using hx), List.eraseDups_cons, List.append_assoc,
        filter_not_mem_concat]
      rfl

theorem foldl_enlist_nil {α : Type} [DecidableEq α] (xs : List α) : xs.foldl enlist [] = xs.eraseDups := by
  rw [foldl_enlist, List.nil_append, List.filter_eq_self.2 fun _ _ => by simp]

theorem nodup_enlist {α : Type} [DecidableEq α] {xs : List α} (h : xs.Nodup) (x : α) : (enlist xs x).Nodup := by
  unfold enlist
  split
  · exact h
  · rename_i hx
    refine List.nodup_append.2 ⟨h, List.pairwise_singleton _ x, fun a ha b hb hab => hx ?_⟩
    rw [← List.mem_singleton.1 hb, ← hab]
    exact ha

theorem nodup_eraseDups {α : Type} [DecidableEq α] (xs : List α) : xs.eraseDups.Nodup := by
  rw [← foldl_enlist_nil]
  exact List.foldlRecOn xs enlist List.nodup_nil fun _ hps x _ => nodup_enlist hps x

/-- **The predicates that rules define** are those of their names. -/
theorem definedBy_eq (cs : List (Clause Unit)) :
    definedBy cs = ((cs.map (·.head.functor)).eraseDups).map (Predicate.declared · .rules) := by
  rw [← foldl_enlist_nil, List.foldl_map]
  change List.foldl _ (([] : List String).map (Predicate.declared · .rules)) cs = _
  refine List.foldl_hom (List.map (Predicate.declared · .rules)) fun names c => ?_
  have hany : (names.map (Predicate.declared · .rules)).any (·.name == c.head.functor) =
      decide (c.head.functor ∈ names) := by
    rw [List.any_map, Bool.eq_iff_iff, List.any_eq_true, decide_eq_true_eq]
    exact ⟨fun ⟨n, hn, he⟩ => eq_of_beq he ▸ hn, fun h => ⟨_, h, beq_self_eq_true _⟩⟩
  rw [hany, enlist]
  by_cases h : c.head.functor ∈ names
  · rw [if_pos h, if_pos (decide_eq_true h)]
  · rw [if_neg h, if_neg (by simpa using h), List.map_append]
    rfl

theorem listing_definedBy (cs : List (Clause Unit)) :
    listing (definedBy cs) = ((cs.map (·.head.functor)).eraseDups).map (·, .rules) := by
  rw [definedBy_eq, listing, List.map_map]
  rfl

/-! ## Declarations -/

theorem dynamic_see {target : String} {d d' : Declaration} {isPublic : Bool} (h : d.see target isPublic = .ok d') :
    d'.dynamic = d.dynamic := by
  unfold Declaration.see at h
  split at h
  · cases h
  · cases h
    rfl

theorem dynamic_take {target : String} {a : Arg Term} {d d' : Declaration} (h : d.take target a = .ok d') :
    d'.dynamic = (d.dynamic || a.isDynamic) := by
  unfold Declaration.take at h
  unfold Arg.isDynamic
  split at h
  · cases h
  · rename_i word hword
    rw [hword, Option.any_some]
    split at h
    · rename_i hname
      rw [hname, Option.isNone_none, Bool.true_and]
      simp only at h
      split at h
      · rename_i hflag
        cases h
        rw [hflag]
        exact (Bool.or_true _).symm
      · rename_i hflag
        rw [decide_eq_false hflag, Bool.or_false]
        split at h
        · exact dynamic_see h
        · split at h
          · exact dynamic_see h
          · cases h
    · -- a constraint adds to the contract only
      rename_i hname
      rw [hname, Option.isNone_some, Bool.false_and, Bool.or_false]
      split at h
      · cases h
      · obtain ⟨_, -, rfl⟩ := map_eq_ok h
        rfl

theorem dynamic_takeAll {target : String} : ∀ {args : List (Arg Term)} {d d' : Declaration},
    d.takeAll target args = .ok d' → d'.dynamic = (d.dynamic || args.any Arg.isDynamic)
  | [], _, _, h => by
    cases h
    exact (Bool.or_false _).symm
  | a :: rest, d, d', h => by
    rw [Declaration.takeAll] at h
    split at h
    · rename_i d₁ hd
      rw [dynamic_takeAll h, dynamic_take hd, List.any_cons, Bool.or_assoc]
    · cases h

theorem dynamic?_of_ofClause {c : Clause Unit} {target : String} {d : Declaration}
    (h : Declaration.ofClause c = .ok (target, d)) : c.dynamic? = if d.dynamic then some target else none := by
  unfold Declaration.ofClause at h
  split at h
  · cases h
  · split at h
    · cases h
    · rename_i a rest hargs
      split at h
      · cases h
      · rename_i name hname
        obtain ⟨d', hd, heq⟩ := map_eq_ok h
        cases heq
        have hdynamic : c.dynamic? = if rest.any Arg.isDynamic then some target else none := by
          simp only [Clause.dynamic?, hargs, hname]
        rw [hdynamic, dynamic_takeAll hd]
        rfl

theorem kind_declare {p p' : Predicate} {d : Declaration} (h : p.declare d = .ok p') :
    (p'.name = p.name ∧ p'.kind = p.kind) ∧ (d.dynamic = true → p.kind = .dynamic) := by
  unfold Predicate.declare at h
  split at h
  · cases h
  · rename_i hkind
    obtain ⟨contract, -, rfl⟩ := map_eq_ok h
    refine ⟨⟨rfl, rfl⟩, fun hd => ?_⟩
    rw [hd, Bool.true_and, decide_eq_true_eq] at hkind
    cases hp : p.kind with
    | rules => exact absurd hp hkind
    | dynamic => rfl

theorem listing_declareIn {target : String} {d : Declaration} : ∀ {ps ps' : List Predicate},
    declareIn target d ps = .ok ps' → listing ps' = listing ps ∧
      (d.dynamic = true → ∀ k, (listing ps).find? (·.1 == target) = some k → k.2 = .dynamic)
  | [], _, h => by
    cases h
    exact ⟨rfl, fun _ _ h => nomatch h⟩
  | p :: rest, ps', h => by
    rw [declareIn] at h
    split at h
    · rename_i hname
      obtain ⟨p', hp, rfl⟩ := map_eq_ok h
      obtain ⟨⟨hn, hk⟩, hdynamic⟩ := kind_declare hp
      refine ⟨?_, fun hd k hk => ?_⟩
      · rw [listing, listing, List.map_cons, List.map_cons, hn, hk]
      · rw [listing, List.map_cons, List.find?_cons_of_pos (by simpa using hname)] at hk
        cases hk
        exact hdynamic hd
    · rename_i hname
      obtain ⟨ps₁, hr, rfl⟩ := map_eq_ok h
      obtain ⟨hsame, hkind⟩ := listing_declareIn hr
      refine ⟨congrArg ((p.name, p.kind) :: ·) hsame, fun hd k hk => hkind hd k ?_⟩
      rw [listing, List.map_cons, List.find?_cons_of_neg (by simpa using hname)] at hk
      exact hk

theorem predicates_override {s s' : Declared} {l : Library} {provider : Provider} {target : String} {d : Declaration}
    (h : s.override l provider target d = .ok s') : s'.predicates = s.predicates := by
  unfold Declared.override at h
  split at h
  · cases h
  · split at h
    · cases h
    · simp only at h
      split at h
      · cases h
        rfl
      · cases h
      · cases h

/-- **What a declaration does to the predicates**: one that is there stays as it is, and can be declared to be dynamic
only if it is so already; another is added if it is declared to be dynamic. -/
theorem listing_apply {s s' : Declared} {l : Library} {provider : Provider} {target : String} {d : Declaration}
    (h : s.apply l provider target d = .ok s') :
    (target ∈ (listing s.predicates).map Prod.fst → listing s'.predicates = listing s.predicates) ∧
      (target ∉ (listing s.predicates).map Prod.fst →
        listing s'.predicates = listing s.predicates ++ if d.dynamic then [(target, .dynamic)] else []) ∧
      (d.dynamic = true → ∀ k, (listing s.predicates).find? (·.1 == target) = some k → k.2 = .dynamic) := by
  have hmem : s.predicates.any (·.name == target) = true ↔ target ∈ (listing s.predicates).map Prod.fst := by
    rw [listing, List.map_map, List.mem_map, List.any_eq_true]
    exact exists_congr fun p => and_congr_right' beq_iff_eq
  have hfind : target ∉ (listing s.predicates).map Prod.fst →
      ∀ k, (listing s.predicates).find? (·.1 == target) = some k → k.2 = .dynamic := by
    intro hnot k hk
    have hname := List.find?_some hk
    exact absurd (List.mem_map.2 ⟨k, List.mem_of_find?_eq_some hk, eq_of_beq hname⟩) hnot
  unfold Declared.apply at h
  split at h
  · rename_i hany
    obtain ⟨ps, hps, rfl⟩ := map_eq_ok h
    obtain ⟨hsame, hkind⟩ := listing_declareIn hps
    exact ⟨fun _ => hsame, fun hnot => absurd (hmem.1 hany) hnot, hkind⟩
  · rename_i hany
    have hnot := mt hmem.2 hany
    split at h
    · rename_i hd
      obtain ⟨p, hp, rfl⟩ := map_eq_ok h
      obtain ⟨⟨hname, hkind⟩, -⟩ := kind_declare hp
      refine ⟨fun hin => absurd hin hnot, fun _ => ?_, fun _ => hfind hnot⟩
      rw [if_pos hd, listing, List.map_append, List.map_singleton, hname, hkind]
      rfl
    · rename_i hd
      have hsame : listing s'.predicates = listing s.predicates := congrArg listing (predicates_override h)
      refine ⟨fun _ => hsame, fun _ => ?_, fun _ => hfind hnot⟩
      rw [if_neg hd, List.append_nil]
      exact hsame

/-- **What declarations do to the predicates**, by induction on them: those that they declare to be dynamic and that are
not there are added at the end, each once. -/
theorem listing_applyAll {l : Library} {provider : Provider} : ∀ {metas : List (Clause Unit)} {s s' : Declared},
    s.applyAll l provider metas = .ok s' →
      listing s'.predicates = listing s.predicates ++ (((metas.filterMap Clause.dynamic?).filter
        (· ∉ (listing s.predicates).map Prod.fst)).eraseDups).map (·, .dynamic) ∧
      ∀ n ∈ metas.filterMap Clause.dynamic?, ∀ k, (listing s.predicates).find? (·.1 == n) = some k → k.2 = .dynamic
  | [], _, _, h => by
    cases h
    exact ⟨(List.append_nil _).symm, List.forall_mem_nil _⟩
  | c :: rest, s, s', h => by
    rw [Declared.applyAll] at h
    split at h
    · rename_i s₁ hs
      obtain ⟨⟨target, d⟩, hc, happly⟩ := bind_eq_ok hs
      obtain ⟨hthere, hnew, hkind⟩ := listing_apply happly
      obtain ⟨hrest, hkinds⟩ := listing_applyAll h
      have hgrows : ∃ more, listing s₁.predicates = listing s.predicates ++ more := by
        by_cases hin : target ∈ (listing s.predicates).map Prod.fst
        · exact ⟨[], by rw [hthere hin, List.append_nil]⟩
        · exact ⟨_, hnew hin⟩
      have hkinds : ∀ n ∈ rest.filterMap Clause.dynamic?, ∀ k,
          (listing s.predicates).find? (·.1 == n) = some k → k.2 = .dynamic := by
        intro n hn k hk
        obtain ⟨more, hmore⟩ := hgrows
        exact hkinds n hn k (by rw [hmore, List.find?_append, hk, Option.some_or])
      have hdynamic := dynamic?_of_ofClause hc
      cases hd : d.dynamic with
      | false =>
        rw [hd, if_neg Bool.false_ne_true] at hdynamic
        rw [List.filterMap_cons_none hdynamic]
        have hsame : listing s₁.predicates = listing s.predicates := by
          by_cases hin : target ∈ (listing s.predicates).map Prod.fst
          · exact hthere hin
          · rw [hnew hin, hd, if_neg Bool.false_ne_true, List.append_nil]
        rw [hrest, hsame]
        exact ⟨rfl, hkinds⟩
      | true =>
        rw [hd, if_pos rfl] at hdynamic
        rw [List.filterMap_cons_some hdynamic]
        refine ⟨?_, List.forall_mem_cons.2 ⟨hkind hd, hkinds⟩⟩
        by_cases hin : target ∈ (listing s.predicates).map Prod.fst
        · rw [hrest, hthere hin, List.filter_cons_of_neg (by simpa using hin)]
        · have hadded : listing s₁.predicates = listing s.predicates ++ [(target, .dynamic)] := by
            rw [hnew hin, hd, if_pos rfl]
          rw [hrest, hadded, List.map_append, List.map_singleton, filter_not_mem_concat,
            List.filter_cons_of_pos (by simpa using hin), List.eraseDups_cons, List.map_cons, List.append_assoc]
          rfl
    · cases h

/-! ## The module -/

theorem any_omits (m : RuleModule) (l : Library) (c : Clause Unit) :
    c.body.any (m.scope l).omits = m.leavesOut l c := by
  unfold RuleModule.leavesOut Scope.omits
  simp only [RuleModule.any_isNotApplicable]

/-- **The rules of a predicate** are those of the compiled rules that define it. -/
theorem source_filter {compiled : List (Clause Callee)} {cs : List (Clause Unit)} {p : Clause Unit → Bool}
    (h : compiled.map Clause.source = cs.filter p) (name : String) :
    (compiled.filter (·.head.functor == name)).map Clause.source =
      cs.filter fun c => c.head.functor == name && p c := by
  rw [← List.filter_filter, ← h, List.filter_map]
  rfl

/-- **Declared predicates are listed**: those that rules define, and then those that are declared to be dynamic. -/
theorem listing_declared {l : Library} {provider : Provider} {parsed : List (Clause Unit)} {declared : Declared}
    (h : Declared.applyAll ⟨definedBy (rulesOf parsed), []⟩ l provider (declarationsOf parsed) = .ok declared) :
    listing declared.predicates = (definedNames parsed).map (·, .rules) ++ (dynamicNames parsed).map (·, .dynamic) ∧
      ∀ n ∈ dynamicNames parsed, n ∉ definedNames parsed := by
  obtain ⟨hlisting, hkinds⟩ := listing_applyAll h
  have hdefined : listing (definedBy (rulesOf parsed)) = (definedNames parsed).map (·, .rules) := listing_definedBy _
  rw [hdefined] at hlisting hkinds
  have hapart : ∀ n ∈ (declarationsOf parsed).filterMap Clause.dynamic?, n ∉ definedNames parsed := by
    intro n hn hmem
    obtain ⟨k, hk⟩ : ∃ k, ((definedNames parsed).map (·, PredicateKind.rules)).find? (·.1 == n) = some k := by
      rw [← Option.isSome_iff_exists, List.find?_isSome]
      exact ⟨(n, .rules), List.mem_map.2 ⟨n, hmem, rfl⟩, beq_self_eq_true n⟩
    obtain ⟨n', -, rfl⟩ := List.mem_map.1 (List.mem_of_find?_eq_some hk)
    cases hkinds n hn _ hk
  have hnames : ((definedNames parsed).map (·, PredicateKind.rules)).map Prod.fst = definedNames parsed := by
    rw [List.map_map]
    exact List.map_id _
  rw [hnames, List.filter_eq_self.2 fun n hn => decide_eq_true (hapart n hn)] at hlisting
  exact ⟨hlisting, fun n hn => hapart n (List.mem_eraseDups.1 hn)⟩

/-- **A compiled module accounts for its rules.** -/
theorem accounts_compile {l : Library} {name : String} {provider : Provider} {rules : List RuleText} {m : RuleModule}
    (h : RuleModule.compile l name provider rules = .ok m) : ∃ parsed, m.Accounts l provider rules parsed := by
  obtain ⟨parsed, declared, compiled, hparsed, hdeclared, hcompiled, rfl⟩ := compile_iff.1 h
  have hread := parseRules_iff.1 hparsed
  obtain ⟨hlisting, hapart⟩ := listing_declared hdeclared
  have hscope : ∀ clauses : Predicate → List (Clause Callee),
      ((⟨name, declared.predicates.map fun p => { p with clauses := clauses p }, declared.overrides, provider⟩ :
        RuleModule).scope l).resolve? =
      (⟨l, declared.predicates, declared.overrides, provider⟩ : Scope).resolve? := Scope.resolve?_clauses
  refine ⟨parsed, hread, texts_of_read hread, rfl, ?_, ?_, fun p hp => ?_, fun c hc => ?_, fun c hc mentioned call hcall => ?_⟩
  · rw [← hlisting, listing, listing, List.map_map]
    rfl
  · have hnames : ((declared.predicates.map fun p =>
        { p with clauses := compiled.filter (·.head.functor == p.name) }).map (·.name)) =
        definedNames parsed ++ dynamicNames parsed := by
      rw [List.map_map]
      have hfst := congrArg (List.map Prod.fst) hlisting
      rw [List.map_append, List.map_map, List.map_map, listing, List.map_map] at hfst
      refine hfst.trans ?_
      congr 1 <;> exact List.map_id _
    rw [hnames]
    refine List.nodup_append.2 ⟨nodup_eraseDups _, nodup_eraseDups _, fun n hn n' hn' hnn => ?_⟩
    exact hapart n' hn' (hnn ▸ hn)
  · obtain ⟨p₀, -, rfl⟩ := List.mem_map.1 hp
    refine (source_filter (Scope.source_compileClauses hcompiled) p₀.name).trans ?_
    refine List.filter_congr fun c _ => ?_
    rw [← any_omits]
    unfold Scope.omits
    rw [hscope]
  · have hdefined : (c.head.functor, PredicateKind.rules) ∈ listing declared.predicates := by
      rw [hlisting]
      refine List.mem_append_left _ (List.mem_map.2 ⟨_, ?_, rfl⟩)
      exact List.mem_eraseDups.2 (List.mem_map.2 ⟨c, hc, rfl⟩)
    obtain ⟨p, hp, heq⟩ := List.mem_map.1 hdefined
    obtain ⟨hname, hkind⟩ := Prod.mk.inj heq
    exact ⟨_, List.mem_map.2 ⟨p, hp, rfl⟩, hname, hkind⟩
  · have hpass := Scope.compileClauses_iff.1 ⟨_, hcompiled⟩ c hc
    have haccepts := (Scope.compileClause_iff (read_of_parseRules hparsed c (List.mem_filter.1 hc).1)).1 hpass
    exact (haccepts mentioned call hcall).congr (hscope _).symm

/-- **Rules compile** if and only if they meet all that they are asked for. -/
theorem compilable_iff {l : Library} {name : String} {provider : Provider} {rules : List RuleText} :
    (∃ m, RuleModule.compile l name provider rules = .ok m) ↔
      ∃ parsed declared, Compilable l provider rules parsed declared := by
  have hpass : ∀ {parsed : List (Clause Unit)} {declared : Declared}, parseRules rules = .ok parsed →
      ((∃ cs, (⟨l, declared.predicates, declared.overrides, provider⟩ : Scope).compileClauses (rulesOf parsed) =
        .ok cs) ↔ ∀ c ∈ rulesOf parsed, ∀ mentioned call, c.Calls mentioned call →
          (⟨l, declared.predicates, declared.overrides, provider⟩ : Scope).Accepts mentioned call) := by
    intro parsed declared hparsed
    refine Scope.compileClauses_iff.trans (forall₂_congr fun c hc => ?_)
    exact Scope.compileClause_iff (read_of_parseRules hparsed c (List.mem_filter.1 hc).1)
  constructor
  · rintro ⟨m, h⟩
    obtain ⟨parsed, declared, compiled, hparsed, hdeclared, hcompiled, -⟩ := compile_iff.1 h
    exact ⟨parsed, declared, parseRules_iff.1 hparsed, hdeclared, (hpass hparsed).1 ⟨compiled, hcompiled⟩⟩
  · rintro ⟨parsed, declared, hread, happlied, haccepted⟩
    have hparsed := parseRules_iff.2 hread
    obtain ⟨compiled, hcompiled⟩ := (hpass hparsed).2 haccepted
    exact ⟨_, compile_iff.2 ⟨parsed, declared, compiled, hparsed, happlied, hcompiled, rfl⟩⟩

/-- **Compiling neither loses nor invents rules**, whatever the rules, the provider and the library: a module accounts for
all rules that it was compiled from, and rules compile if and only if each of them, left out or not, meets what it is
asked for. -/
theorem rules_accounted (l : Library) (name : String) (provider : Provider) (rules : List RuleText) :
    (∀ m, RuleModule.compile l name provider rules = .ok m → ∃ parsed, m.Accounts l provider rules parsed) ∧
      ((∃ m, RuleModule.compile l name provider rules = .ok m) ↔
        ∃ parsed declared, Compilable l provider rules parsed declared) :=
  ⟨fun _ h => accounts_compile h, compilable_iff⟩

/-! The application knows the name `RestartVm` and has no use for it here.  Of the two rules for `Mitigate` that call it one
does so inside a negation; both are left out, and `Drain` is left without rules. -/

def stopped : Provider := ⟨[("RestartVm", .notApplicable)], []⟩

def upkeepRules : List RuleText := RuleText.numbered ["Mitigate :- RestartVm()",
  "Mitigate :- not(RestartVm()), Seen(1)", "meta(Seen, dynamic)", "Mitigate :- Seen(2)", "Drain :- RestartVm()"]

def upkeep : RuleModule := (RuleModule.compile ⟨[]⟩ "upkeep" stopped upkeepRules).toOption.getD ⟨"", [], [], .none⟩

/-- The rules of the example are accounted for.  A rule that would be left out, since it calls `RestartVm`, does not
compile if it calls a name that means nothing. -/
theorem rules_accounted_upkeep : RuleModule.compile ⟨[]⟩ "upkeep" stopped upkeepRules = .ok upkeep ∧
    listing upkeep.predicates = [("Mitigate", .rules), ("Drain", .rules), ("Seen", .dynamic)] ∧
      upkeep.predicates.map (fun p => p.clauses.map fun c => (c.text, c.line)) =
        [[("Mitigate :- Seen(2)", 4)], [], []] ∧
      (∃ parsed, upkeep.Accounts ⟨[]⟩ stopped upkeepRules parsed) ∧
        ¬ ∃ parsed declared, Compilable ⟨[]⟩ stopped [⟨"Mitigate :- RestartVm(), Drain()", 1⟩] parsed declared := by
  have hok : (RuleModule.compile ⟨[]⟩ "upkeep" stopped upkeepRules).isOk = true := by decide +kernel
  have hm : RuleModule.compile ⟨[]⟩ "upkeep" stopped upkeepRules = .ok upkeep := eq_ok_of_isOk hok _
  have hfails : (RuleModule.compile ⟨[]⟩ "upkeep" stopped [⟨"Mitigate :- RestartVm(), Drain()", 1⟩]).isOk = false := by
    decide +kernel
  refine ⟨hm, by decide +kernel, by decide +kernel, (rules_accounted _ _ _ _).1 _ hm, fun h => ?_⟩
  obtain ⟨m, hcompiles⟩ := (rules_accounted _ "upkeep" _ _).2.2 h
  rw [hcompiles] at hfails
  cases hfails

end Remedy
