import Remedy.Proofs.Program.Imprint
/-!
# Proofs.Program.Fingerprint — which modules have the same fingerprint

What the fingerprint is the hash of says of each predicate its name and its outline, and what the overrides are, but
says nothing of the contracts of the module's own predicates.  Names and texts follow one another without a mark
between them; where they can be told apart all the same (`RuleModule.Legible`, `Separable`), two modules have the same
imprint just if they have the same outlines and overrides (`imprint_eq_iff`).
-/
namespace Remedy

/-! ## Overrides -/

/-- What the imprint says of overrides, piece by piece: a name, and the constraints declared under it. -/
inductive Token
  | name (n : String)
  | constraint (key : ArgKey) (c : Constraint)
  deriving DecidableEq

def Token.spelling : Token → String
  | .name n => n
  | .constraint key c => key.text ++ ":" ++ c.name

def tokens (o : String × Contract) : List Token := .name o.1 :: o.2.map fun e => .constraint e.1 e.2

/-- **The tokens of overrides can be told apart**, though nothing stands between them: none of them begins with
another. -/
def Separable (os : List (String × Contract)) : Prop :=
  ∀ t ∈ os.flatMap tokens, ∀ u ∈ os.flatMap tokens, t.spelling.toList <+: u.spelling.toList → t = u

instance (os : List (String × Contract)) : Decidable (Separable os) :=
  inferInstanceAs (Decidable (∀ t ∈ os.flatMap tokens, ∀ u ∈ os.flatMap tokens, _ → t = u))

def spelled (ts : List Token) : List Char := ts.flatMap fun t => t.spelling.toList

theorem overrides_bytes (os : List (String × Contract)) :
    os.flatMap (fun (name, c) => overrideImprint name c) = bytesOf (String.ofList (spelled (os.flatMap tokens))) := by
  have htokens : ∀ o : String × Contract, overrideImprint o.1 o.2 = (tokens o).flatMap fun t => bytesOf t.spelling := by
    intro o
    unfold overrideImprint tokens
    rw [List.flatMap_cons, List.flatMap_map]
    rfl
  rw [bytesOf_eq, String.toList_ofList]
  unfold spelled
  simp only [htokens, bytesOf_eq, List.flatMap_assoc]

/-- **Tokens that can be told apart are known by their text.** -/
theorem spelled_inj {T : Token → Prop} (hT : ∀ t u, T t → T u → t.spelling.toList <+: u.spelling.toList → t = u)
    (hne : ∀ t, T t → t.spelling.toList ≠ []) : ∀ {ts us : List Token}, (∀ t ∈ ts, T t) → (∀ u ∈ us, T u) →
      spelled ts = spelled us → ts = us
  | [], [], _, _, _ => rfl
  | [], u :: us, _, hus, h => absurd (List.append_eq_nil_iff.1 h.symm).1 (hne u (hus u List.mem_cons_self))
  | t :: ts, [], hts, _, h => absurd (List.append_eq_nil_iff.1 h).1 (hne t (hts t List.mem_cons_self))
  | t :: ts, u :: us, hts, hus, h => by
    obtain ⟨ht, hts'⟩ := List.forall_mem_cons.1 hts
    obtain ⟨hu, hus'⟩ := List.forall_mem_cons.1 hus
    have hsplit : t.spelling.toList ++ spelled ts = u.spelling.toList ++ spelled us := h
    have htu : t = u := by
      rcases List.prefix_or_prefix_of_prefix (List.prefix_append _ _) (hsplit ▸ List.prefix_append _ _) with hp | hp
      · exact (hT u t hu ht hp).symm
      · exact hT t u ht hu hp
    subst htu
    rw [spelled_inj hT hne hts' hus' (List.append_cancel_left hsplit)]

theorem tokens_ne_constraint (os : List (String × Contract)) (key : ArgKey) (c : Constraint) (ts : List Token) :
    os.flatMap tokens ≠ .constraint key c :: ts := by
  intro h
  cases os with
  | nil => cases h
  | cons o os => cases (List.cons.inj h).1

theorem constraints_eq {os os' : List (String × Contract)} : ∀ {c c' : Contract},
    c.map (fun e => .constraint e.1 e.2) ++ os.flatMap tokens =
      c'.map (fun e => .constraint e.1 e.2) ++ os'.flatMap tokens → c = c' ∧ os.flatMap tokens = os'.flatMap tokens
  | [], [], h => ⟨rfl, h⟩
  | [], _ :: _, h => absurd h (tokens_ne_constraint os _ _ _)
  | _ :: _, [], h => absurd h.symm (tokens_ne_constraint os' _ _ _)
  | (key, k) :: c, (key', k') :: c', h => by
    obtain ⟨hhead, htail⟩ := List.cons.inj h
    obtain ⟨rfl, rfl⟩ := Token.constraint.inj hhead
    obtain ⟨rfl, hos⟩ := constraints_eq htail
    exact ⟨rfl, hos⟩

theorem tokens_inj : ∀ {os os' : List (String × Contract)}, os.flatMap tokens = os'.flatMap tokens → os = os'
  | [], [], _ => rfl
  | [], _ :: _, h => nomatch h
  | _ :: _, [], h => nomatch h
  | (n, c) :: os, (n', c') :: os', h => by
    rw [List.flatMap_cons, List.flatMap_cons] at h
    obtain ⟨hname, hrest⟩ := List.cons.inj h
    obtain rfl := Token.name.inj hname
    obtain ⟨rfl, hos⟩ := constraints_eq hrest
    rw [tokens_inj hos]

/-! ## The names of overrides -/

theorem names_putContract (name : String) (c : Contract) : ∀ os : List (String × Contract),
    (putContract name c os).map (·.1) = enlist (os.map (·.1)) name
  | [] => by simp [putContract, enlist]
  | (n, old) :: rest => by
    have ih := names_putContract name c rest
    by_cases hn : n = name
    · simp [putContract, enlist, hn]
    · unfold enlist at ih ⊢
      rw [putContract, if_neg hn, List.map_cons, ih]
      by_cases hmem : name ∈ rest.map (·.1)
      · simp [hmem]
      · simp [hmem, Ne.symm hn]

variable {l : Library} {provider : Provider}

theorem nodup_apply {s s' : Declared} {target : String} {d : Declaration} (hs : (s.overrides.map (·.1)).Nodup)
    (h : s.apply l provider target d = .ok s') : (s'.overrides.map (·.1)).Nodup := by
  unfold Declared.apply at h
  split at h
  · obtain ⟨ps, -, rfl⟩ := map_eq_ok h
    exact hs
  · split at h
    · obtain ⟨p, -, rfl⟩ := map_eq_ok h
      exact hs
    · unfold Declared.override at h
      split at h
      · cases h
      · split at h
        · cases h
        · simp only at h
          split at h
          · cases h
            rw [names_putContract]
            exact nodup_enlist hs target
          · cases h
          · cases h

theorem nodup_applyAll : ∀ {metas : List (Clause Unit)} {s s' : Declared}, (s.overrides.map (·.1)).Nodup →
    s.applyAll l provider metas = .ok s' → (s'.overrides.map (·.1)).Nodup
  | [], _, _, hs, h => by
    cases h
    exact hs
  | c :: rest, s, s', hs, h => by
    rw [Declared.applyAll] at h
    split at h
    · rename_i s₁ hs₁
      obtain ⟨⟨target, d⟩, -, happly⟩ := bind_eq_ok hs₁
      exact nodup_applyAll (nodup_apply hs happly) h
    · cases h

/-- **Each predicate of another owner is overridden once.** -/
theorem nodup_overrides {name : String} {rules : List RuleText} {m : RuleModule}
    (h : RuleModule.compile l name provider rules = .ok m) : (m.overrides.map (·.1)).Nodup := by
  obtain ⟨_, _, _, -, hdeclared, -, rfl⟩ := compile_iff.1 h
  exact nodup_applyAll (s := ⟨_, []⟩) List.nodup_nil hdeclared

/-! ## Modules -/

/-- **The parts of a module's imprint can be told apart**: names are not empty, neither names nor texts have any of the
three characters that are marks, and no head has very many arguments. -/
structure RuleModule.Legible (m : RuleModule) : Prop where
  names : ∀ p ∈ m.predicates, p.name ≠ "" ∧ Unmarked p.name
  clauses : ∀ p ∈ m.predicates, ∀ c ∈ p.clauses, Unmarked c.text ∧ c.head.arity < 2 ^ 24
  overrides : ∀ o ∈ m.overrides, o.1 ≠ "" ∧ Unmarked o.1 ∧ ∀ e ∈ o.2, Unmarked e.1.text

theorem le_of_foldl {n : Nat} : ∀ {ns : List Nat} {k : Nat}, k < n → (∀ i ∈ ns, i < n) →
    ns.foldl min k ≤ k ∧ k ≤ ns.foldl max k ∧ ns.foldl max k < n
  | [], k, hk, _ => ⟨Nat.le_refl k, Nat.le_refl k, hk⟩
  | i :: ns, k, hk, h => by
    obtain ⟨hi, hns⟩ := List.forall_mem_cons.1 h
    obtain ⟨hmin, -, -⟩ := le_of_foldl (k := min k i) (by omega) hns
    obtain ⟨-, hmax, hlt⟩ := le_of_foldl (k := max k i) (by omega) hns
    rw [List.foldl_cons, List.foldl_cons]
    exact ⟨by omega, by omega, hlt⟩

theorem legible_outline {m : RuleModule} (h : m.Legible) {p : Predicate} (hp : p ∈ m.predicates) :
    Outline.Legible (p.name, p.outline) := by
  have hclauses := h.clauses p hp
  refine ⟨(h.names p hp).1, (h.names p hp).2, fun t ht => ?_, ?_, fun least most harity => ?_⟩
  · obtain ⟨c, hc, rfl⟩ := List.mem_map.1 ht
    exact (hclauses c hc).1
  · unfold Predicate.outline Predicate.arityRange?
    cases p.clauses <;> simp
  · unfold Predicate.outline Predicate.arityRange? at harity
    simp only at harity
    split at harity
    · cases harity
    · rename_i n ns hns
      obtain ⟨rfl, rfl⟩ := Prod.mk.inj (Option.some.inj harity)
      have hall : ∀ i ∈ n :: ns, i < 2 ^ 24 := by
        rw [← hns]
        exact List.forall_mem_map.2 fun c hc => (hclauses c hc).2
      obtain ⟨hn, hns⟩ := List.forall_mem_cons.1 hall
      obtain ⟨hmin, hmax, hlt⟩ := le_of_foldl hn hns
      exact ⟨Nat.le_trans hmin hmax, hlt⟩

theorem quiet_overrides {m : RuleModule} (h : m.Legible) :
    Quiet ((sortByName (·.1) m.overrides).flatMap fun (name, c) => overrideImprint name c) := by
  rw [overrides_bytes]
  refine Unmarked.quiet fun c hc => ?_
  rw [String.toList_ofList] at hc
  obtain ⟨t, ht, hc⟩ := List.mem_flatMap.1 hc
  obtain ⟨o, ho, ht⟩ := List.mem_flatMap.1 ht
  obtain ⟨-, hname, hkeys⟩ := h.overrides o ((perm_sortByName _ _).mem_iff.1 ho)
  rcases List.mem_cons.1 ht with rfl | ht
  · exact hname c hc
  · obtain ⟨e, he, rfl⟩ := List.mem_map.1 ht
    unfold Token.spelling at hc
    simp only [String.toList_append, List.mem_append] at hc
    rcases hc with (hc | hc) | hc
    · exact hkeys e he c hc
    · rcases List.mem_singleton.1 hc with rfl
      decide
    · have hnames : ∀ k : Constraint, Unmarked k.name := by
        intro k
        cases k <;> decide
      exact hnames e.2 c hc

theorem spelling_ne_nil {m : RuleModule} (h : m.Legible) {t : Token} (ht : t ∈ m.overrides.flatMap tokens) :
    t.spelling.toList ≠ [] := by
  obtain ⟨o, ho, ht⟩ := List.mem_flatMap.1 ht
  rcases List.mem_cons.1 ht with rfl | ht
  · intro hnil
    exact (h.overrides o ho).1 (String.toList_eq_nil_iff.1 hnil)
  · obtain ⟨e, -, rfl⟩ := List.mem_map.1 ht
    simp [Token.spelling]

/-- **The overrides can be told from their part of the imprint.** -/
theorem overrides_eq {m₁ m₂ : RuleModule} (h₁ : m₁.Legible) (h₂ : m₂.Legible)
    (hs : Separable (m₁.overrides ++ m₂.overrides))
    (h : ((sortByName (·.1) m₁.overrides).flatMap fun (name, c) => overrideImprint name c) =
      (sortByName (·.1) m₂.overrides).flatMap fun (name, c) => overrideImprint name c) :
    sortByName (·.1) m₁.overrides = sortByName (·.1) m₂.overrides := by
  rw [overrides_bytes, overrides_bytes] at h
  have hmem : ∀ {m : RuleModule} {t : Token}, t ∈ (sortByName (·.1) m.overrides).flatMap tokens →
      t ∈ m.overrides.flatMap tokens := by
    intro m t ht
    obtain ⟨o, ho, ht⟩ := List.mem_flatMap.1 ht
    exact List.mem_flatMap.2 ⟨o, (perm_sortByName _ _).mem_iff.1 ho, ht⟩
  unfold Separable at hs
  rw [List.flatMap_append] at hs
  refine tokens_inj (spelled_inj (T := fun t => t ∈ m₁.overrides.flatMap tokens ++ m₂.overrides.flatMap tokens)
    (fun t u ht hu => hs t ht u hu) (fun t ht => ?_) (fun t ht => List.mem_append_left _ (hmem ht))
    (fun t ht => List.mem_append_right _ (hmem ht)) (String.ofList_injective (bytesOf_inj h)))
  exact (List.mem_append.1 ht).elim (spelling_ne_nil h₁) (spelling_ne_nil h₂)

def RuleModule.outlines (m : RuleModule) : List (String × Outline) := m.predicates.map fun p => (p.name, p.outline)

theorem under_outlines (m : RuleModule) (n : String) : under m.outlines n = (m.predicate? n).map Predicate.outline := by
  unfold under RuleModule.outlines RuleModule.predicate?
  rw [List.find?_map, Option.map_map]
  rfl

theorem imprint_outlines (m : RuleModule) : m.imprint = (sortByName (·.1) m.outlines).flatMap Outline.imprint ++
    (sortByName (·.1) m.overrides).flatMap fun (name, c) => overrideImprint name c := by
  have heq : Predicate.imprint = fun p => Outline.imprint (p.name, p.outline) := funext imprint_outline
  unfold RuleModule.imprint RuleModule.outlines
  rw [← map_sortByName Predicate.name (·.1) (fun p => (p.name, p.outline)) fun _ => rfl, List.flatMap_map, heq]

/-- **Two modules have the same imprint just if the same is said under every name**: the kind, the visibility and the
numbers of arguments of a predicate and the texts of its clauses, and the constraints declared for a predicate of
another owner.  What is declared for the arguments of the module's own predicates does not count. -/
theorem imprint_eq_iff {name₁ name₂ : String} {rules₁ rules₂ : List RuleText} {m₁ m₂ : RuleModule}
    (h₁ : RuleModule.compile l name₁ provider rules₁ = .ok m₁)
    (h₂ : RuleModule.compile l name₂ provider rules₂ = .ok m₂) (hl₁ : m₁.Legible) (hl₂ : m₂.Legible)
    (hs : Separable (m₁.overrides ++ m₂.overrides)) : m₁.imprint = m₂.imprint ↔
      (∀ n, (m₁.predicate? n).map Predicate.outline = (m₂.predicate? n).map Predicate.outline) ∧
        ∀ n, under m₁.overrides n = under m₂.overrides n := by
  have hnames : ∀ {m : RuleModule} {name : String} {rules : List RuleText},
      RuleModule.compile l name provider rules = .ok m → (m.outlines.map (·.1)).Nodup := by
    intro m name rules h
    obtain ⟨_, haccounts⟩ := accounts_compile h
    unfold RuleModule.outlines
    rw [List.map_map]
    exact haccounts.unique
  have hlegible : ∀ {m : RuleModule}, m.Legible → ∀ e ∈ sortByName (·.1) m.outlines, Outline.Legible e := by
    intro m hm e he
    obtain ⟨p, hp, rfl⟩ := List.mem_map.1 ((perm_sortByName _ _).mem_iff.1 he)
    exact legible_outline hm hp
  simp only [← under_outlines]
  rw [← sortByName_eq_iff (hnames h₁) (hnames h₂), ← sortByName_eq_iff (nodup_overrides h₁) (nodup_overrides h₂),
    imprint_outlines, imprint_outlines]
  constructor
  · intro h
    obtain ⟨houtlines, hoverrides⟩ := imprints_eq (hlegible hl₁) (hlegible hl₂) (quiet_overrides hl₁)
      (quiet_overrides hl₂) h
    exact ⟨houtlines, overrides_eq hl₁ hl₂ hs hoverrides⟩
  · rintro ⟨houtlines, hoverrides⟩
    rw [houtlines, hoverrides]

/-! An application has a predicate `Reboot`.  One module declares what it asks of both arguments at once; another does
so in two facts, and says something of its own predicate besides. -/

def rebooting : Provider := ⟨[("Reboot", .predicate ⟨"Reboot", 2, some 2, [], false, 0⟩)], []⟩

def briefRules : List RuleText := RuleText.numbered ["p(1)", "meta(Reboot, 0: ground, 1: input)"]

def wordyRules : List RuleText :=
  RuleText.numbered ["p(1)", "meta(Reboot, 0: ground)", "meta(p, 0: ground)", "meta(Reboot, 1: input)"]

def brief : RuleModule := (RuleModule.compile ⟨[]⟩ "brief" rebooting briefRules).toOption.getD ⟨"", [], [], .none⟩

def wordy : RuleModule := (RuleModule.compile ⟨[]⟩ "wordy" rebooting wordyRules).toOption.getD ⟨"", [], [], .none⟩

/-- The two modules have the same imprint. -/
theorem imprint_eq_iff_rebooting : (RuleModule.compile ⟨[]⟩ "brief" rebooting briefRules = .ok brief ∧
    RuleModule.compile ⟨[]⟩ "wordy" rebooting wordyRules = .ok wordy ∧ brief.Legible ∧ wordy.Legible ∧
      Separable (brief.overrides ++ wordy.overrides)) ∧ brief.imprint = wordy.imprint := by
  have hbrief : RuleModule.compile ⟨[]⟩ "brief" rebooting briefRules = .ok brief :=
    eq_ok_of_isOk (by decide +kernel) _
  have hwordy : RuleModule.compile ⟨[]⟩ "wordy" rebooting wordyRules = .ok wordy :=
    eq_ok_of_isOk (by decide +kernel) _
  have hlegible : brief.Legible := ⟨by decide +kernel, by decide +kernel, by decide +kernel⟩
  have hlegible' : wordy.Legible := ⟨by decide +kernel, by decide +kernel, by decide +kernel⟩
  have hseparable : Separable (brief.overrides ++ wordy.overrides) := by decide +kernel
  have houtlines : brief.outlines = wordy.outlines := by decide +kernel
  have hoverrides : brief.overrides = wordy.overrides := by decide +kernel
  refine ⟨⟨hbrief, hwordy, hlegible, hlegible', hseparable⟩,
    (imprint_eq_iff hbrief hwordy hlegible hlegible' hseparable).2 ⟨fun n => ?_, fun n => ?_⟩⟩
  · rw [← under_outlines, ← under_outlines, houtlines]
  · rw [hoverrides]

def lenient : RuleModule :=
  (RuleModule.compile ⟨[]⟩ "m" .none (RuleText.numbered ["p(1)"])).toOption.getD ⟨"", [], [], .none⟩

def strict : RuleModule :=
  (RuleModule.compile ⟨[]⟩ "m" .none (RuleText.numbered ["p(1)", "meta(p, 0: ground)"])).toOption.getD
    ⟨"", [], [], .none⟩

/-- **What is declared for the arguments of a module's own predicate leaves no trace in the imprint**: one module asks
that an argument is bound and the other asks nothing. -/
theorem imprint_blind_contract :
    RuleModule.compile ⟨[]⟩ "m" .none (RuleText.numbered ["p(1)"]) = .ok lenient ∧
      RuleModule.compile ⟨[]⟩ "m" .none (RuleText.numbered ["p(1)", "meta(p, 0: ground)"]) = .ok strict ∧
      lenient.imprint = strict.imprint ∧ (lenient.predicate? "p").map (·.contract) = some [] ∧
      (strict.predicate? "p").map (·.contract) = some [(.position 0, .ground)] := by
  have houtlines : lenient.outlines = strict.outlines := by decide +kernel
  have hoverrides : lenient.overrides = strict.overrides := by decide +kernel
  refine ⟨eq_ok_of_isOk (by decide +kernel) _, eq_ok_of_isOk (by decide +kernel) _, ?_, by decide +kernel,
    by decide +kernel⟩
  rw [imprint_outlines, imprint_outlines, houtlines, hoverrides]

end Remedy
