import Remedy.Proofs.Program.Declarations
/-!
# Proofs.Program.Order — the order of declarations, and contradictions among them

What is declared of a name goes to the module's own predicate, or else to the provider's, until the name is declared
to be dynamic (`ownDeclarations`, `foreignDeclarations`).  The declarations of some rules apply just if each can be
read and no two that go to the same predicate ask different things of an argument (`Coherent`); then all that they ask
is known, and the last visibility (`Spot.Heeds`).  So their order makes no difference, unless it divides a name between
the module and the provider, or a name is declared to be public in one clause and private in another
(`declarations_in_any_order`, `visibility_overruled`).
-/
namespace Remedy

open Declared (apply applyAll)

variable {l : Library} {provider : Provider} {parsed parsed' : List (Clause Unit)} {n : String} {sp : Spot}

/-! ## What a clause declares -/

/-- The predicate that a clause declares something of. -/
def Clause.target? (c : Clause Unit) : Option String :=
  c.head.args.head?.bind fun a => a.value.asConst?.bind Value.asString?

def Clause.Shows (c : Clause Unit) (b : Bool) : Prop := ∃ a ∈ c.head.args.tail, a.visibility? = some b

def Clause.Asks (c : Clause Unit) (e : ArgKey × Constraint) : Prop := ∃ a ∈ c.head.args.tail, a.constraint? = some e

/-- **A clause declares what its arguments say.** -/
theorem ofClause_eq_ok {c : Clause Unit} {target : String} {d : Declaration}
    (h : Declaration.ofClause c = .ok (target, d)) : c.target? = some target ∧
      (∀ b, d.visibility = some b ↔ c.Shows b) ∧ d.contract.Regular ∧ ∀ e, e ∈ d.contract ↔ c.Asks e := by
  unfold Declaration.ofClause at h
  unfold Clause.target? Clause.Shows Clause.Asks
  split at h
  · cases h
  · split at h
    · cases h
    · rename_i a rest hargs
      split at h
      · cases h
      · rename_i name hname
        obtain ⟨d', hd, heq⟩ := map_eq_ok h
        cases heq
        obtain ⟨hvisible, hregular, hmem⟩ := Declaration.takeAll_eq_ok Contract.regular_nil hd
        rw [hargs]
        refine ⟨hname, fun b => (hvisible b).trans ?_, hregular, fun e => (hmem e).trans ?_⟩
        · exact or_iff_right (Option.some_ne_none b).symm
        · exact or_iff_right List.not_mem_nil

theorem mem_declarationsAbout {metas : List (Clause Unit)} {d : Declaration} :
    d ∈ declarationsAbout n metas ↔ ∃ c ∈ metas, Declaration.ofClause c = .ok (n, d) := by
  unfold declarationsAbout
  rw [List.mem_filterMap]
  refine exists_congr fun c => and_congr_right' ?_
  constructor
  · intro h
    obtain ⟨⟨target, d'⟩, hc, heq⟩ := Option.bind_eq_some_iff.1 h
    split at heq
    · rename_i hn
      cases heq
      rw [eq_ok_of_toOption hc, ← hn]
    · cases heq
  · intro h
    rw [h]
    exact if_pos rfl

theorem regular_declarationsAbout {metas : List (Clause Unit)} :
    ∀ d ∈ declarationsAbout n metas, d.contract.Regular := by
  intro d hd
  obtain ⟨c, -, hc⟩ := mem_declarationsAbout.1 hd
  exact (ofClause_eq_ok hc).2.2.1

/-! ## What becomes of all names -/

/-- The declarations that go to the module's own predicate of a name. -/
def ownDeclarations (parsed : List (Clause Unit)) (n : String) : List Declaration :=
  if n ∈ definedNames parsed then declarationsAbout n (declarationsOf parsed)
  else fromDynamic (declarationsAbout n (declarationsOf parsed))

/-- The declarations that go to the provider's predicate of a name. -/
def foreignDeclarations (parsed : List (Clause Unit)) (n : String) : List Declaration :=
  if n ∈ definedNames parsed then [] else beforeDynamic (declarationsAbout n (declarationsOf parsed))

/-- **The declarations of rules are in order**: each can be read, a predicate with rules is not declared to be dynamic,
no two that go to the same predicate ask different things of an argument, and the provider has what it is told about. -/
structure Coherent (l : Library) (provider : Provider) (parsed : List (Clause Unit)) : Prop where
  formed : ∀ c ∈ declarationsOf parsed, ∃ x, Declaration.ofClause c = .ok x
  ruled : ∀ n ∈ definedNames parsed, ∀ d ∈ ownDeclarations parsed n, d.dynamic = false
  own : ∀ n, Compatible (ownDeclarations parsed n)
  foreign : ∀ n, Suits ((provider.lookup l n).contract? l) (foreignDeclarations parsed n) ∧
    Compatible (foreignDeclarations parsed n)

/-- **What is known of a name is what has been declared**: the last visibility, and all constraints. -/
structure Spot.Heeds (sp : Spot) (parsed : List (Clause Unit)) (n : String) : Prop where
  there : sp.own.isSome = true ↔ n ∈ definedNames parsed ∨ ownDeclarations parsed n ≠ []
  own : ∀ p, sp.own = some p → p.contract.Gathers (ownDeclarations parsed n) ∧
    p.isPublic = lastVisibility (ownDeclarations parsed n) (!Text.startsWith ['_'] n.toList)
  extra : sp.extra.Gathers (foreignDeclarations parsed n)

theorem spot_definedBy (parsed : List (Clause Unit)) (n : String) :
    (⟨definedBy (rulesOf parsed), []⟩ : Declared).spot n =
      ⟨if n ∈ definedNames parsed then some (Predicate.declared n .rules) else none, []⟩ := by
  simp only [Declared.spot, definedBy_eq, List.find?_map, List.find?_nil, Option.map_none, Option.getD_none,
    Spot.mk.injEq, and_true]
  change (List.find? (· == n) (definedNames parsed)).map _ = _
  cases hf : List.find? (· == n) (definedNames parsed) with
  | none =>
    have hnot : n ∉ definedNames parsed := fun hmem => by
      have hne := List.find?_eq_none.1 hf n hmem
      simp at hne
    rw [if_neg hnot]
    rfl
  | some k =>
    have hkey := List.find?_some hf
    simp only [beq_iff_eq] at hkey
    subst hkey
    rw [if_pos (List.mem_of_find?_eq_some hf)]
    rfl

/-- **When the declarations of a name can be heeded.** -/
theorem exists_makesAll_iff (present? : Option Contract) (parsed : List (Clause Unit)) (n : String) :
    (∃ sp, MakesAll present? n (declarationsAbout n (declarationsOf parsed))
      ((⟨definedBy (rulesOf parsed), []⟩ : Declared).spot n) sp) ↔
      (n ∈ definedNames parsed → ∀ d ∈ ownDeclarations parsed n, d.dynamic = false) ∧
        Compatible (ownDeclarations parsed n) ∧ Suits present? (foreignDeclarations parsed n) ∧
          Compatible (foreignDeclarations parsed n) := by
  have hnil : Compatible [] := fun _ h => nomatch h
  have hregular : ∀ d ∈ declarationsAbout n (declarationsOf parsed), d.contract.Regular := regular_declarationsAbout
  rw [spot_definedBy]
  unfold ownDeclarations foreignDeclarations
  by_cases hn : n ∈ definedNames parsed
  · simp only [if_pos hn]
    refine (exists_makesAll_own_iff Contract.gathers_nil hnil hregular).trans ?_
    have hkind : (Predicate.declared n .rules).kind = .rules := rfl
    simp only [hkind, hn, forall_const, List.nil_append]
    exact and_congr_right' (and_iff_left ⟨fun h => absurd rfl h, hnil⟩).symm
  · simp only [if_neg hn]
    rw [exists_makesAll_undefined_iff hregular, and_iff_right fun h => absurd h hn]

/-- **What the declarations of a name come to.** -/
theorem MakesAll.heeds {present? : Option Contract}
    (h : MakesAll present? n (declarationsAbout n (declarationsOf parsed))
      ((⟨definedBy (rulesOf parsed), []⟩ : Declared).spot n) sp) : sp.Heeds parsed n := by
  have hregular : ∀ d ∈ declarationsAbout n (declarationsOf parsed), d.contract.Regular := regular_declarationsAbout
  rw [spot_definedBy] at h
  by_cases hn : n ∈ definedNames parsed
  · have hown : ownDeclarations parsed n = declarationsAbout n (declarationsOf parsed) := if_pos hn
    have hforeign : foreignDeclarations parsed n = [] := if_pos hn
    rw [if_pos hn] at h
    obtain ⟨p, rfl, hvisible, hgathers⟩ :=
      MakesAll.own (p := Predicate.declared n .rules) Contract.gathers_nil hregular h
    refine ⟨iff_of_true rfl (.inl hn), fun p' hp' => ?_, ?_⟩
    · cases hp'
      rw [hown]
      exact ⟨hgathers, hvisible⟩
    · rw [hforeign]
      exact Contract.gathers_nil
  · have hown : ownDeclarations parsed n = fromDynamic (declarationsAbout n (declarationsOf parsed)) := if_neg hn
    have hforeign : foreignDeclarations parsed n = beforeDynamic (declarationsAbout n (declarationsOf parsed)) :=
      if_neg hn
    rw [if_neg hn] at h
    obtain ⟨hextra, hthere, hall⟩ := h.undefined hregular
    refine ⟨?_, ?_, ?_⟩
    · rw [hown, hthere, or_iff_right hn]
    · rw [hown]
      exact hall
    · rwa [hforeign]

/-- **Declarations apply just if they are in order.** -/
theorem applyAll_iff_coherent :
    (∃ s, applyAll ⟨definedBy (rulesOf parsed), []⟩ l provider (declarationsOf parsed) = .ok s) ↔
      Coherent l provider parsed := by
  constructor
  · rintro ⟨s, hs⟩
    obtain ⟨hformed, hmakes⟩ := makesAll_of_applyAll hs
    have hall := fun n => (exists_makesAll_iff _ parsed n).1 ⟨_, hmakes n⟩
    exact ⟨hformed, fun n hn => (hall n).1 hn, fun n => (hall n).2.1, fun n => (hall n).2.2⟩
  · intro h
    exact applyAll_of_makesAll h.formed fun n => (exists_makesAll_iff _ parsed n).2 ⟨h.ruled n, h.own n, h.foreign n⟩

theorem applyAll_eq_error : ∀ {metas : List (Clause Unit)} {s : Declared} {e : CompileError},
    s.applyAll l provider metas = .error e → ∃ c ∈ metas, ∃ cause, e = .invalidMeta c.text cause
  | c :: metas, s, e, h => by
    rw [applyAll] at h
    split at h
    · obtain ⟨c', hc', cause, rfl⟩ := applyAll_eq_error h
      exact ⟨c', List.mem_cons_of_mem c hc', cause, rfl⟩
    · rename_i cause _
      cases h
      exact ⟨c, List.mem_cons_self, cause, rfl⟩

/-- **Rules whose declarations are not in order do not compile**, and the error names one of the declarations. -/
theorem compile_of_not_coherent {name : String} {rules : List RuleText} (hread : rules.map Rule.parse = parsed.map .ok)
    (h : ¬Coherent l provider parsed) :
    ∃ c ∈ declarationsOf parsed, ∃ cause,
      RuleModule.compile l name provider rules = .error (.invalidMeta c.text cause) := by
  cases happly : applyAll ⟨definedBy (rulesOf parsed), []⟩ l provider (declarationsOf parsed) with
  | ok s => exact absurd (applyAll_iff_coherent.1 ⟨s, happly⟩) h
  | error e =>
    obtain ⟨c, hc, cause, rfl⟩ := applyAll_eq_error happly
    refine ⟨c, hc, cause, ?_⟩
    unfold rulesOf declarationsOf at happly
    unfold RuleModule.compile
    simp only [bind, Except.bind, parseRules_iff.2 hread, happly]

def RuleModule.spot (m : RuleModule) (n : String) : Spot := Declared.spot ⟨m.predicates, m.overrides⟩ n

/-- **What a module knows of its names** is what has been declared. -/
theorem heeds_compile {name : String} {rules : List RuleText} {m : RuleModule}
    (hread : rules.map Rule.parse = parsed.map .ok) (h : RuleModule.compile l name provider rules = .ok m) (n : String) :
    (m.spot n).Heeds parsed n := by
  obtain ⟨parsed', declared, compiled, hparsed, hdeclared, -, rfl⟩ := compile_iff.1 h
  rw [parseRules_iff.2 hread] at hparsed
  cases hparsed
  have hheeds := ((makesAll_of_applyAll hdeclared).2 n).heeds
  -- the clauses of a predicate, which come last, are no part of what is declared
  have hspot : (RuleModule.spot ⟨name, declared.predicates.map fun p =>
      { p with clauses := compiled.filter (·.head.functor == p.name) }, declared.overrides, provider⟩ n) =
      ⟨(declared.spot n).own.map fun p => { p with clauses := compiled.filter (·.head.functor == p.name) },
        (declared.spot n).extra⟩ := by
    simp only [RuleModule.spot, Declared.spot, List.find?_map]
    rfl
  rw [hspot]
  refine ⟨by rw [Option.isSome_map]; exact hheeds.there, fun p hp => ?_, hheeds.extra⟩
  obtain ⟨p', hp', rfl⟩ := Option.map_eq_some_iff.1 hp
  exact hheeds.own p' hp'

/-! ## Contradictions -/

/-- **A name is the module's or the provider's throughout**: it is not declared to be dynamic after other
declarations. -/
def Undivided (parsed : List (Clause Unit)) (n : String) : Prop :=
  ownDeclarations parsed n = [] ∨ foreignDeclarations parsed n = []

theorem mem_own_or_foreign {d : Declaration} (h : d ∈ declarationsAbout n (declarationsOf parsed)) :
    d ∈ ownDeclarations parsed n ∨ d ∈ foreignDeclarations parsed n := by
  unfold ownDeclarations foreignDeclarations
  split
  · exact .inl h
  · rw [← beforeDynamic_append_fromDynamic (declarationsAbout n (declarationsOf parsed))] at h
    exact (List.mem_append.1 h).symm

theorem mem_declarationsOf_own {d : Declaration} (h : d ∈ ownDeclarations parsed n) :
    d ∈ declarationsAbout n (declarationsOf parsed) := by
  unfold ownDeclarations at h
  split at h
  · exact h
  · exact (List.dropWhile_sublist _).subset h

theorem Coherent.exists_declaration (h : Coherent l provider parsed) {c : Clause Unit} (hc : c ∈ declarationsOf parsed)
    (ht : c.target? = some n) :
    ∃ d ∈ declarationsAbout n (declarationsOf parsed), Declaration.ofClause c = .ok (n, d) := by
  obtain ⟨⟨target, d⟩, hd⟩ := h.formed c hc
  obtain rfl : target = n := Option.some.inj ((ofClause_eq_ok hd).1.symm.trans ht)
  exact ⟨d, mem_declarationsAbout.2 ⟨c, hc, hd⟩, hd⟩

/-- **Different constraints for one argument** are not in order. -/
theorem Coherent.eq_of_asks (h : Coherent l provider parsed) {c c' : Clause Unit} (hc : c ∈ declarationsOf parsed)
    (hc' : c' ∈ declarationsOf parsed) (ht : c.target? = some n) (ht' : c'.target? = some n) {k : ArgKey}
    {v w : Constraint} (hv : c.Asks (k, v)) (hw : c'.Asks (k, w)) (hu : c = c' ∨ Undivided parsed n) : v = w := by
  obtain ⟨d, hd, hdc⟩ := h.exists_declaration hc ht
  obtain ⟨d', hd', hdc'⟩ := h.exists_declaration hc' ht'
  have hv := ((ofClause_eq_ok hdc).2.2.2 _).2 hv
  have hw := ((ofClause_eq_ok hdc').2.2.2 _).2 hw
  -- both go to the same predicate
  have hsame : (d ∈ ownDeclarations parsed n ∧ d' ∈ ownDeclarations parsed n) ∨
      (d ∈ foreignDeclarations parsed n ∧ d' ∈ foreignDeclarations parsed n) := by
    rcases hu with rfl | hu
    · rw [hdc] at hdc'
      cases hdc'
      exact (mem_own_or_foreign hd).imp (fun h => ⟨h, h⟩) fun h => ⟨h, h⟩
    · rcases hu with hempty | hempty
      · exact .inr ⟨(mem_own_or_foreign hd).resolve_left (by rw [hempty]; exact List.not_mem_nil),
          (mem_own_or_foreign hd').resolve_left (by rw [hempty]; exact List.not_mem_nil)⟩
      · exact .inl ⟨(mem_own_or_foreign hd).resolve_right (by rw [hempty]; exact List.not_mem_nil),
          (mem_own_or_foreign hd').resolve_right (by rw [hempty]; exact List.not_mem_nil)⟩
  rcases hsame with ⟨hm, hm'⟩ | ⟨hm, hm'⟩
  · exact h.own n d hm d' hm' k v w hv hw
  · exact (h.foreign n).2 d hm d' hm' k v w hv hw

/-- **Both visibilities in one clause** are not in order. -/
theorem Coherent.not_shows_both (h : Coherent l provider parsed) {c : Clause Unit} (hc : c ∈ declarationsOf parsed) :
    ¬(c.Shows true ∧ c.Shows false) := by
  rintro ⟨htrue, hfalse⟩
  obtain ⟨⟨target, d⟩, hd⟩ := h.formed c hc
  have hvisible := (ofClause_eq_ok hd).2.1
  have heq := ((hvisible true).2 htrue).symm.trans ((hvisible false).2 hfalse)
  cases heq

/-! ## Another order -/

def Clause.anywhere (c : Clause Unit) : Clause Unit := { c with line := 0 }

theorem anywhere_of_parse {r : RuleText} {c : Clause Unit} (h : Rule.parse r = .ok c) :
    (Rule.parse ⟨r.text, 0⟩).toOption = some c.anywhere := by
  unfold Rule.parse at h ⊢
  split at h
  · rename_i head goals vars heq
    cases h
    rw [heq]
    rfl
  · cases h

theorem anywhere_of_read : ∀ {rules : List RuleText} {parsed : List (Clause Unit)},
    rules.map Rule.parse = parsed.map .ok → parsed.map Clause.anywhere = (rules.map (·.text)).filterMap fun t => (Rule.parse ⟨t, 0⟩).toOption
  | [], [], _ => rfl
  | [], _ :: _, h | _ :: _, [], h => nomatch h
  | r :: rules, c :: parsed, h => by
    obtain ⟨hc, hrest⟩ := List.cons.inj h
    rw [List.map_cons, List.map_cons, List.filterMap_cons, anywhere_of_parse hc, anywhere_of_read hrest]

theorem declarationsAbout_anywhere (parsed : List (Clause Unit)) (n : String) :
    declarationsAbout n (declarationsOf (parsed.map Clause.anywhere)) = declarationsAbout n (declarationsOf parsed) := by
  unfold declarationsAbout declarationsOf
  rw [List.filter_map, List.filterMap_map]
  rfl

theorem mem_definedNames {parsed : List (Clause Unit)} :
    n ∈ definedNames parsed ↔ ∃ c ∈ parsed, isDeclaration c = false ∧ c.head.functor = n := by
  unfold definedNames rulesOf
  rw [List.mem_eraseDups, List.mem_map]
  simp only [List.mem_filter, Bool.not_eq_true', and_assoc]

variable {rules rules' : List RuleText}

/-- **The same rules in another order.** -/
def Shuffled (parsed parsed' : List (Clause Unit)) : Prop :=
  (parsed'.map Clause.anywhere).Perm (parsed.map Clause.anywhere)

theorem shuffled_of_perm (hread : rules.map Rule.parse = parsed.map .ok)
    (hread' : rules'.map Rule.parse = parsed'.map .ok) (h : (rules'.map (·.text)).Perm (rules.map (·.text))) : Shuffled parsed parsed' := by
  unfold Shuffled
  rw [anywhere_of_read hread, anywhere_of_read hread']
  exact h.filterMap _

theorem Shuffled.symm (h : Shuffled parsed parsed') : Shuffled parsed' parsed := List.Perm.symm h

theorem Shuffled.exists_anywhere (h : Shuffled parsed parsed') {c : Clause Unit} (hc : c ∈ parsed') :
    ∃ c₀ ∈ parsed, c₀.anywhere = c.anywhere := List.mem_map.1 (h.mem_iff.1 (List.mem_map_of_mem hc))

theorem head_of_anywhere {c c₀ : Clause Unit} (h : c₀.anywhere = c.anywhere) : c₀.head = c.head :=
  (congrArg Clause.head h : c₀.anywhere.head = c.anywhere.head)

theorem isDeclaration_of_anywhere {c c₀ : Clause Unit} (h : c₀.anywhere = c.anywhere) :
    isDeclaration c₀ = isDeclaration c := by
  unfold isDeclaration
  rw [head_of_anywhere h]

theorem ofClause_of_anywhere {c c₀ : Clause Unit} (h : c₀.anywhere = c.anywhere) :
    Declaration.ofClause c₀ = Declaration.ofClause c :=
  (congrArg Declaration.ofClause h : Declaration.ofClause c₀.anywhere = Declaration.ofClause c.anywhere)

theorem Shuffled.defined (h : Shuffled parsed parsed') (hn : n ∈ definedNames parsed') : n ∈ definedNames parsed := by
  obtain ⟨c, hc, hrule, hname⟩ := mem_definedNames.1 hn
  obtain ⟨c₀, hc₀, heq⟩ := h.exists_anywhere hc
  exact mem_definedNames.2 ⟨c₀, hc₀, by rwa [isDeclaration_of_anywhere heq], by rwa [head_of_anywhere heq]⟩

theorem Shuffled.formed (h : Shuffled parsed parsed')
    (hformed : ∀ c ∈ declarationsOf parsed, ∃ x, Declaration.ofClause c = .ok x) :
    ∀ c ∈ declarationsOf parsed', ∃ x, Declaration.ofClause c = .ok x := by
  intro c hc
  obtain ⟨hc, hdeclares⟩ := List.mem_filter.1 hc
  obtain ⟨c₀, hc₀, heq⟩ := h.exists_anywhere hc
  rw [← ofClause_of_anywhere heq]
  exact hformed c₀ (List.mem_filter.2 ⟨hc₀, by rwa [isDeclaration_of_anywhere heq]⟩)

/-- **What is declared of a name** is the same but for the order. -/
theorem Shuffled.about (h : Shuffled parsed parsed') (n : String) :
    (declarationsAbout n (declarationsOf parsed')).Perm (declarationsAbout n (declarationsOf parsed)) := by
  rw [← declarationsAbout_anywhere parsed', ← declarationsAbout_anywhere parsed]
  exact (h.filter _).filterMap _

/-- **Where a name is undivided in both orders**, the same declarations go to the module's predicate and to the
provider's. -/
theorem Shuffled.perm (h : Shuffled parsed parsed') (hu : Undivided parsed n) (hu' : Undivided parsed' n) :
    (ownDeclarations parsed' n).Perm (ownDeclarations parsed n) ∧
      (foreignDeclarations parsed' n).Perm (foreignDeclarations parsed n) := by
  have habout := h.about n
  unfold Undivided at hu hu'
  by_cases hn : n ∈ definedNames parsed
  · have hn' := h.symm.defined hn
    unfold ownDeclarations foreignDeclarations
    rw [if_pos hn, if_pos hn', if_pos hn, if_pos hn']
    exact ⟨habout, .nil⟩
  · have hn' := fun hn' => hn (h.defined hn')
    unfold ownDeclarations foreignDeclarations at hu hu' ⊢
    rw [if_neg hn, if_neg hn] at hu
    rw [if_neg hn', if_neg hn'] at hu'
    rw [if_neg hn, if_neg hn', if_neg hn, if_neg hn']
    exact parts_perm habout hu hu'

theorem Compatible.perm {ds ds' : List Declaration} (h : Compatible ds) (hds : ds'.Perm ds) : Compatible ds' :=
  h.of_subset hds.subset

theorem Suits.perm {present? : Option Contract} {ds ds' : List Declaration} (h : Suits present? ds) (hds : ds'.Perm ds) :
    Suits present? ds' := by
  intro hne
  obtain ⟨present, hp, hall⟩ := h (by rintro rfl; exact hne hds.eq_nil)
  exact ⟨present, hp, fun d hd => hall d (hds.mem_iff.1 hd)⟩

/-- **Declarations that are in order stay so in another order** of the rules, if all names are undivided. -/
theorem Coherent.shuffled (h : Coherent l provider parsed) (hs : Shuffled parsed parsed')
    (hu : ∀ n, Undivided parsed n ∧ Undivided parsed' n) : Coherent l provider parsed' := by
  have hperm := fun n => hs.perm (hu n).1 (hu n).2
  exact ⟨hs.formed h.formed, fun n hn d hd => h.ruled n (hs.defined hn) d ((hperm n).1.mem_iff.1 hd),
    fun n => (h.own n).perm (hperm n).1, fun n => ⟨(h.foreign n).1.perm (hperm n).2, (h.foreign n).2.perm (hperm n).2⟩⟩

/-- **A name is declared to be public and to be private**, by two clauses or by one. -/
def Disputed (parsed : List (Clause Unit)) (n : String) : Prop :=
  ∃ c ∈ declarationsOf parsed, ∃ c' ∈ declarationsOf parsed, c.target? = some n ∧ c'.target? = some n ∧
    c.Shows true ∧ c'.Shows false

theorem lastVisibility_perm {ds ds' : List Declaration} (h : ds'.Perm ds)
    (hsame : ∀ d ∈ ds, ∀ d' ∈ ds, ¬(d.visibility = some true ∧ d'.visibility = some false)) (v : Bool) :
    lastVisibility ds' v = lastVisibility ds v := by
  unfold lastVisibility
  refine h.foldl_eq' (fun d hd d' hd' v => ?_) v
  have hd := h.mem_iff.1 hd
  have hd' := h.mem_iff.1 hd'
  have hne := hsame d hd d' hd'
  have hne' := hsame d' hd' d hd
  rcases hv : d.visibility with _ | b <;> rcases hv' : d'.visibility with _ | b'
  · rfl
  · rfl
  · rfl
  · rw [hv, hv'] at hne hne'
    cases b <;> cases b' <;> simp_all

/-- **The same is known of a name here and there**, but for a visibility that is disputed. -/
structure Spot.Same (sp sp' : Spot) (disputed : Prop) : Prop where
  there : sp'.own.isSome = sp.own.isSome
  constraints : ∀ p p', sp.own = some p → sp'.own = some p' → p'.contract.Perm p.contract
  visibility : ∀ p p', sp.own = some p → sp'.own = some p' → ¬disputed → p'.isPublic = p.isPublic
  extra : sp'.extra.Perm sp.extra

theorem Spot.Heeds.same {sp' : Spot} (h : sp.Heeds parsed n) (h' : sp'.Heeds parsed' n) (hs : Shuffled parsed parsed')
    (hu : Undivided parsed n) (hu' : Undivided parsed' n) : sp.Same sp' (Disputed parsed n) := by
  obtain ⟨hown, hforeign⟩ := hs.perm hu hu'
  refine ⟨?_, fun p p' hp hp' => ?_, fun p p' hp hp' hundisputed => ?_, h'.extra.perm h.extra hforeign⟩
  · rw [Bool.eq_iff_iff, h'.there, h.there]
    refine or_congr ⟨hs.defined, hs.symm.defined⟩ (not_congr ?_)
    exact ⟨fun he => (he ▸ hown).symm.eq_nil, fun he => (he ▸ hown).eq_nil⟩
  · exact (h'.own p' hp').1.perm (h.own p hp).1 hown
  · rw [(h'.own p' hp').2, (h.own p hp).2]
    refine lastVisibility_perm hown (fun d hd d' hd' ⟨hv, hv'⟩ => hundisputed ?_) _
    obtain ⟨c, hc, hcd⟩ := mem_declarationsAbout.1 (mem_declarationsOf_own hd)
    obtain ⟨c', hc', hcd'⟩ := mem_declarationsAbout.1 (mem_declarationsOf_own hd')
    have hof := ofClause_eq_ok hcd
    have hof' := ofClause_eq_ok hcd'
    exact ⟨c, hc, c', hc', hof.1, hof'.1, (hof.2.1 true).1 hv, (hof'.2.1 false).1 hv'⟩

/-! ## Compiling -/

/-- **Two clauses contradict each other about a name**: they ask different things of an argument, or, if they are the
same clause, it is to be public and private. -/
def Clause.Contradicts (c c' : Clause Unit) : Prop :=
  (∃ k v w, c.Asks (k, v) ∧ c'.Asks (k, w) ∧ v ≠ w) ∨ c = c' ∧ c.Shows true ∧ c.Shows false

/-- **What is declared does not depend on the order of the declarations, and contradictions are rejected.** -/
theorem declarations_in_any_order (l : Library) (name : String) (provider : Provider)
    (hread : rules.map Rule.parse = parsed.map .ok) :
    ((∃ s, applyAll ⟨definedBy (rulesOf parsed), []⟩ l provider (declarationsOf parsed) = .ok s) ↔
      Coherent l provider parsed) ∧
    (¬Coherent l provider parsed → ∃ c ∈ declarationsOf parsed, ∃ cause,
      RuleModule.compile l name provider rules = .error (.invalidMeta c.text cause)) ∧
    (∀ m, RuleModule.compile l name provider rules = .ok m → ∀ n, (m.spot n).Heeds parsed n) ∧
    (∀ n, ∀ c ∈ declarationsOf parsed, ∀ c' ∈ declarationsOf parsed, c.target? = some n → c'.target? = some n →
      c.Contradicts c' → c = c' ∨ Undivided parsed n → ∃ d ∈ declarationsOf parsed, ∃ cause,
        RuleModule.compile l name provider rules = .error (.invalidMeta d.text cause)) ∧
    ∀ rules' parsed', rules'.map Rule.parse = parsed'.map .ok → (rules'.map (·.text)).Perm (rules.map (·.text)) →
      (∀ n, Undivided parsed n ∧ Undivided parsed' n) →
        (Coherent l provider parsed' ↔ Coherent l provider parsed) ∧
        ∀ m m', RuleModule.compile l name provider rules = .ok m → RuleModule.compile l name provider rules' = .ok m' →
          ∀ n, (m.spot n).Same (m'.spot n) (Disputed parsed n) := by
  refine ⟨applyAll_iff_coherent, compile_of_not_coherent hread, fun m hm n => heeds_compile hread hm n, ?_, ?_⟩
  · intro n c hc c' hc' ht ht' hclash hu
    refine compile_of_not_coherent hread fun hcoherent => ?_
    rcases hclash with ⟨k, v, w, hv, hw, hne⟩ | ⟨rfl, hshows⟩
    · exact hne (hcoherent.eq_of_asks hc hc' ht ht' hv hw hu)
    · exact hcoherent.not_shows_both hc hshows
  · intro rules' parsed' hread' hperm hu
    have hs := shuffled_of_perm hread hread' hperm
    refine ⟨⟨fun h => h.shuffled hs.symm fun n => (hu n).symm, fun h => h.shuffled hs hu⟩, fun m m' hm hm' n => ?_⟩
    exact (heeds_compile hread hm n).same (heeds_compile hread' hm' n) hs (hu n).1 (hu n).2

/-! The application has `Reboot`.  The declarations are the same in both lists, and `seen` is dynamic from its first one
on. -/

def rebooter : Provider := ⟨[("Reboot", .predicate ⟨"Reboot", 1, some 1, [], false, 0⟩)], []⟩

def patrol : List RuleText := RuleText.numbered ["p(1)", "meta(p, private, 0: input)", "meta(Reboot, 0: ground)",
  "meta(seen, dynamic)", "meta(p, 1: ground)", "meta(seen, 0: input)"]

def patrolAgain : List RuleText := RuleText.numbered ["meta(seen, dynamic)", "meta(p, 1: ground)",
  "meta(seen, 0: input)", "p(1)", "meta(Reboot, 0: ground)", "meta(p, private, 0: input)"]

def torn : List RuleText := RuleText.numbered ["p(1)", "meta(p, 0: input)", "meta(p, 0: ground)"]

def readOf (rules : List RuleText) : List (Clause Unit) := (parseRules rules).toOption.getD []

/-- Only names that something is declared of can be divided. -/
theorem undivided_of_targets (h : ∀ n ∈ (declarationsOf parsed).filterMap Clause.target?, Undivided parsed n)
    (n : String) : Undivided parsed n := by
  by_cases hn : n ∈ (declarationsOf parsed).filterMap Clause.target?
  · exact h n hn
  · refine .inl (List.eq_nil_iff_forall_not_mem.2 fun d hd => hn ?_)
    obtain ⟨c, hc, hcd⟩ := mem_declarationsAbout.1 (mem_declarationsOf_own hd)
    exact List.mem_filterMap.2 ⟨c, hc, (ofClause_eq_ok hcd).1⟩

instance (parsed : List (Clause Unit)) (n : String) : Decidable (Undivided parsed n) :=
  inferInstanceAs (Decidable (_ = [] ∨ _ = []))

theorem read_readOf (h : (parseRules rules).isOk = true) : rules.map Rule.parse = (readOf rules).map .ok :=
  parseRules_iff.1 (eq_ok_of_isOk h [])

/-- Both lists of rules compile to the same, and the torn one is rejected. -/
theorem declarations_in_any_order_patrol :
    (patrol.map Rule.parse = (readOf patrol).map .ok ∧ patrolAgain.map Rule.parse = (readOf patrolAgain).map .ok ∧
      (patrolAgain.map (·.text)).Perm (patrol.map (·.text)) ∧
        ∀ n, Undivided (readOf patrol) n ∧ Undivided (readOf patrolAgain) n) ∧
    (∃ m m', RuleModule.compile ⟨[]⟩ "patrol" rebooter patrol = .ok m ∧
      RuleModule.compile ⟨[]⟩ "patrol" rebooter patrolAgain = .ok m' ∧
        (∀ n, (m.spot n).Same (m'.spot n) (Disputed (readOf patrol) n))) ∧
    ∃ text cause, RuleModule.compile ⟨[]⟩ "torn" .none torn = .error (.invalidMeta text cause) := by
  have hread : patrol.map Rule.parse = (readOf patrol).map .ok := read_readOf (by decide +kernel)
  have hread' : patrolAgain.map Rule.parse = (readOf patrolAgain).map .ok := read_readOf (by decide +kernel)
  have htorn : torn.map Rule.parse = (readOf torn).map .ok := read_readOf (by decide +kernel)
  have hperm : (patrolAgain.map (·.text)).Perm (patrol.map (·.text)) := by decide +kernel
  have hu : ∀ n, Undivided (readOf patrol) n ∧ Undivided (readOf patrolAgain) n := fun n =>
    ⟨undivided_of_targets (by decide +kernel) n, undivided_of_targets (by decide +kernel) n⟩
  have hok : (RuleModule.compile ⟨[]⟩ "patrol" rebooter patrol).isOk = true := by decide +kernel
  have hok' : (RuleModule.compile ⟨[]⟩ "patrol" rebooter patrolAgain).isOk = true := by decide +kernel
  refine ⟨⟨hread, hread', hperm, hu⟩, ?_, ?_⟩
  · obtain ⟨-, -, -, -, horder⟩ := declarations_in_any_order ⟨[]⟩ "patrol" rebooter hread
    have hm := eq_ok_of_isOk hok ⟨"", [], [], .none⟩
    have hm' := eq_ok_of_isOk hok' ⟨"", [], [], .none⟩
    exact ⟨_, _, hm, hm', (horder patrolAgain _ hread' hperm hu).2 _ _ hm hm'⟩
  · obtain ⟨-, -, -, hclash, -⟩ := declarations_in_any_order ⟨[]⟩ "torn" .none htorn
    have hasks : ∃ c ∈ declarationsOf (readOf torn), ∃ c' ∈ declarationsOf (readOf torn),
        (c.target? = some "p" ∧ c'.target? = some "p") ∧
        (∃ a ∈ c.head.args.tail, a.constraint? = some (.position 0, .input)) ∧
          ∃ a ∈ c'.head.args.tail, a.constraint? = some (.position 0, .ground) := by decide +kernel
    obtain ⟨c, hc, c', hc', ⟨ht, ht'⟩, hv, hw⟩ := hasks
    obtain ⟨d, -, cause, herror⟩ := hclash "p" c hc c' hc' ht ht' (.inl ⟨_, _, _, hv, hw, by decide⟩)
      (.inr (undivided_of_targets (by decide +kernel) "p"))
    exact ⟨d.text, cause, herror⟩

/-- **Two clauses may declare a name to be public and to be private**: the last one counts.  And a declaration that comes
before its name is dynamic is rejected, which is accepted after it. -/
theorem visibility_overruled :
    (∃ m m',
      RuleModule.compile ⟨[]⟩ "p" .none (RuleText.numbered ["p(1)", "meta(p, public)", "meta(p, private)"]) = .ok m ∧
      RuleModule.compile ⟨[]⟩ "p" .none (RuleText.numbered ["p(1)", "meta(p, private)", "meta(p, public)"]) = .ok m' ∧
        (m.spot "p").own.map (·.isPublic) = some false ∧ (m'.spot "p").own.map (·.isPublic) = some true) ∧
    (RuleModule.compile ⟨[]⟩ "q" .none (RuleText.numbered ["meta(q, dynamic)", "meta(q, 0: input)"])).isOk = true ∧
      (RuleModule.compile ⟨[]⟩ "q" .none (RuleText.numbered ["meta(q, 0: input)", "meta(q, dynamic)"])).isOk = false := by
  have hok : (RuleModule.compile ⟨[]⟩ "p" .none
      (RuleText.numbered ["p(1)", "meta(p, public)", "meta(p, private)"])).isOk = true := by decide +kernel
  have hok' : (RuleModule.compile ⟨[]⟩ "p" .none
      (RuleText.numbered ["p(1)", "meta(p, private)", "meta(p, public)"])).isOk = true := by decide +kernel
  refine ⟨⟨_, _, eq_ok_of_isOk hok ⟨"", [], [], .none⟩, eq_ok_of_isOk hok' ⟨"", [], [], .none⟩, ?_, ?_⟩, ?_, ?_⟩
  all_goals decide +kernel

end Remedy
