import Mathlib.Data.List.TakeWhile
import Remedy.Proofs.Program.Merging
/-!
# Proofs.Program.Declarations — what declarations come to

A declaration changes what is known of its name and nothing else (`makes_of_apply`), so what becomes of a name is
decided by the declarations of that name alone.  Those that come before the name is declared to be dynamic, if no rules
define it, go to the provider's predicate, the others to the module's own.
-/
namespace Remedy

open Declared (apply applyAll)

variable {l : Library} {provider : Provider} {present? : Option Contract} {n : String} {s s' : Declared}
  {sp sp' sp'' : Spot}

/-! ## One declaration -/

/-- **What declarations have made of a name**: the predicate of the module, and what is asked besides of another
owner's. -/
structure Spot where
  own : Option Predicate
  extra : Contract

def Declared.spot (s : Declared) (n : String) : Spot :=
  ⟨s.predicates.find? (·.name == n), ((s.overrides.find? (·.1 == n)).map (·.2)).getD []⟩

/-- **What one declaration makes of a name.** -/
inductive Makes (present? : Option Contract) (n : String) (d : Declaration) : Spot → Spot → Prop
  | own {p p' : Predicate} (extra : Contract) (h : p.declare d = .ok p') : Makes present? n d ⟨some p, extra⟩ ⟨some p', extra⟩
  | dynamic {p' : Predicate} (extra : Contract) (hd : d.dynamic = true)
    (h : (Predicate.declared n .dynamic).declare d = .ok p') : Makes present? n d ⟨none, extra⟩ ⟨some p', extra⟩
  | foreign {present extra extra' whole : Contract} (hd : d.dynamic = false) (hp : present? = some present)
    (hv : d.visibility = none) (hwhole : Contract.mergeAll (present ++ extra) d.contract = .ok whole)
    (h : extra.mergeAll d.contract = .ok extra') : Makes present? n d ⟨none, extra⟩ ⟨none, extra'⟩

theorem Makes.unique {d : Declaration} (h : Makes present? n d sp sp') (h' : Makes present? n d sp sp'') : sp' = sp'' := by
  cases h with
  | own _ h =>
    obtain ⟨_, h'⟩ := h'
    rw [h] at h'
    cases h'
    rfl
  | dynamic _ hd h =>
    cases h' with
    | dynamic _ _ h' =>
      rw [h] at h'
      cases h'
      rfl
    | foreign hd' => exact absurd hd (by rw [hd']; exact Bool.false_ne_true)
  | foreign hd _ _ _ h =>
    cases h' with
    | dynamic _ hd' => exact absurd hd' (by rw [hd]; exact Bool.false_ne_true)
    | foreign _ _ _ _ h' =>
      rw [h] at h'
      cases h'
      rfl

theorem find?_putContract (c : Contract) (target : String) : ∀ os : List (String × Contract),
    (putContract target c os).find? (·.1 == n) = if target = n then some (n, c) else os.find? (·.1 == n)
  | [] => by
    rw [putContract, List.find?_singleton]
    by_cases h : target = n
    · subst h
      simp
    · simp [h]
  | (m, old) :: rest => by
    have ih := find?_putContract c target rest
    rw [putContract]
    by_cases hm : m = target
    · subst hm
      rw [if_pos rfl]
      by_cases h : m = n
      · rw [List.find?_cons_of_pos (by simpa using h), if_pos h, h]
      · rw [List.find?_cons_of_neg (by simpa using h), List.find?_cons_of_neg (by simpa using h), if_neg h]
    · rw [if_neg hm]
      by_cases h : m = n
      · rw [List.find?_cons_of_pos (by simpa using h), List.find?_cons_of_pos (by simpa using h),
          if_neg fun htarget => hm (h.trans htarget.symm)]
      · rw [List.find?_cons_of_neg (by simpa using h), List.find?_cons_of_neg (by simpa using h), ih]

theorem find?_declareIn {target : String} {d : Declaration} : ∀ {ps ps' : List Predicate},
    declareIn target d ps = .ok ps' →
      (n ≠ target → ps'.find? (·.name == n) = ps.find? (·.name == n)) ∧
      ∀ p, ps.find? (·.name == target) = some p → ∃ p', p.declare d = .ok p' ∧ ps'.find? (·.name == target) = some p'
  | [], _, h => by
    cases h
    exact ⟨fun _ => rfl, fun _ hp => nomatch hp⟩
  | p :: rest, ps', h => by
    rw [declareIn] at h
    split at h
    · rename_i hname
      obtain ⟨p', hp, rfl⟩ := map_eq_ok h
      have hname' : p'.name = target := (kind_declare hp).1.1.trans hname
      refine ⟨fun hne => ?_, fun q hq => ⟨p', ?_, ?_⟩⟩
      · rw [List.find?_cons_of_neg (by simpa [hname'] using Ne.symm hne),
          List.find?_cons_of_neg (by simpa [hname] using Ne.symm hne)]
      · rw [List.find?_cons_of_pos (by simpa using hname)] at hq
        cases hq
        exact hp
      · rw [List.find?_cons_of_pos (by simpa using hname')]
    · rename_i hname
      obtain ⟨ps₁, hr, rfl⟩ := map_eq_ok h
      obtain ⟨hother, hthere⟩ := find?_declareIn hr
      refine ⟨fun hne => ?_, fun q hq => ?_⟩
      · rw [List.find?_cons, List.find?_cons, hother hne]
      · rw [List.find?_cons_of_neg (by simpa using hname)] at hq ⊢
        exact hthere q hq

theorem any_iff_own {target : String} :
    s.predicates.any (·.name == target) = true ↔ ((s.spot target).own).isSome = true := by
  rw [Declared.spot, List.find?_isSome, List.any_eq_true]

/-- **A declaration that applies makes something of its name**, and leaves all others as they were. -/
theorem makes_of_apply {target : String} {d : Declaration} (h : s.apply l provider target d = .ok s') :
    Makes ((provider.lookup l target).contract? l) target d (s.spot target) (s'.spot target) ∧
      ∀ k, k ≠ target → s'.spot k = s.spot k := by
  unfold apply at h
  split at h
  · rename_i hany
    obtain ⟨ps, hps, rfl⟩ := map_eq_ok h
    obtain ⟨p, hp⟩ := Option.isSome_iff_exists.1 (any_iff_own.1 hany)
    obtain ⟨p', hp', hfind⟩ := (find?_declareIn (n := target) hps).2 p hp
    refine ⟨?_, fun k hk => ?_⟩
    · simp only [Declared.spot] at hp ⊢
      rw [hp, hfind]
      exact .own _ hp'
    · simp only [Declared.spot]
      rw [(find?_declareIn hps).1 hk]
  · rename_i hany
    have hown : s.predicates.find? (·.name == target) = none :=
      Option.not_isSome_iff_eq_none.1 (mt any_iff_own.2 hany)
    split at h
    · rename_i hd
      obtain ⟨p', hp', rfl⟩ := map_eq_ok h
      have hname : p'.name = target := (kind_declare hp').1.1
      refine ⟨?_, fun k hk => ?_⟩
      · simp only [Declared.spot]
        rw [List.find?_append, hown, Option.none_or, List.find?_cons_of_pos (by simpa using hname)]
        exact .dynamic _ hd hp'
      · simp only [Declared.spot]
        rw [List.find?_append, List.find?_cons_of_neg (by simpa [hname] using Ne.symm hk), List.find?_nil,
          Option.or_none]
    · rename_i hd
      unfold Declared.override at h
      split at h
      · cases h
      · rename_i present hpresent
        split at h
        · cases h
        · rename_i hvisible
          simp only at h
          split at h
          · rename_i whole extra' hwhole hextra
            cases h
            refine ⟨?_, fun k hk => ?_⟩
            · simp only [Declared.spot]
              rw [hown, find?_putContract, if_pos rfl]
              exact .foreign (Bool.eq_false_iff.2 hd) hpresent (Option.not_isSome_iff_eq_none.1 hvisible) hwhole hextra
            · simp only [Declared.spot]
              rw [find?_putContract, if_neg (Ne.symm hk)]
          · cases h
          · cases h

theorem declareIn_isOk {target : String} {d : Declaration} : ∀ {ps : List Predicate} {p p' : Predicate},
    ps.find? (·.name == target) = some p → p.declare d = .ok p' → ∃ ps', declareIn target d ps = .ok ps'
  | q :: rest, p, p', hp, hd => by
    rw [declareIn]
    split
    · rename_i hname
      rw [List.find?_cons_of_pos (by simpa using hname)] at hp
      cases hp
      rw [hd]
      exact ⟨_, rfl⟩
    · rename_i hname
      rw [List.find?_cons_of_neg (by simpa using hname)] at hp
      obtain ⟨ps', hps⟩ := declareIn_isOk hp hd
      rw [hps]
      exact ⟨_, rfl⟩

/-- **A declaration applies if it can make something of its name.** -/
theorem apply_of_makes {target : String} {d : Declaration}
    (h : Makes ((provider.lookup l target).contract? l) target d (s.spot target) sp) :
    ∃ s', s.apply l provider target d = .ok s' := by
  unfold apply
  generalize hspot : s.spot target = before at h
  cases h with
  | own extra hp =>
    obtain ⟨hown, -⟩ := Spot.mk.inj hspot
    rw [if_pos (any_iff_own.2 (by rw [hspot]; rfl))]
    obtain ⟨ps', hps⟩ := declareIn_isOk hown hp
    rw [hps]
    exact ⟨_, rfl⟩
  | dynamic extra hd hp =>
    rw [if_neg (mt any_iff_own.1 (by rw [hspot]; exact Bool.false_ne_true)), if_pos hd, hp]
    exact ⟨_, rfl⟩
  | foreign hd hp hv hwhole hextra =>
    obtain ⟨-, hold⟩ := Spot.mk.inj hspot
    rw [if_neg (mt any_iff_own.1 (by rw [hspot]; exact Bool.false_ne_true)),
      if_neg (by rw [hd]; exact Bool.false_ne_true)]
    unfold Declared.override
    rw [hp]
    simp only [hv, Option.isSome_none, Bool.false_eq_true, if_false, hold, hwhole, hextra]
    exact ⟨_, rfl⟩

/-! ## All declarations of a name -/

def declarationsAbout (n : String) (metas : List (Clause Unit)) : List Declaration :=
  metas.filterMap fun c => (Declaration.ofClause c).toOption.bind fun x => if x.1 = n then some x.2 else none

/-- **What several declarations make of a name**, one after the other. -/
inductive MakesAll (present? : Option Contract) (n : String) : List Declaration → Spot → Spot → Prop
  | nil (sp : Spot) : MakesAll present? n [] sp sp
  | cons {d : Declaration} {ds : List Declaration} {sp sp' sp'' : Spot} (h : Makes present? n d sp sp')
    (hrest : MakesAll present? n ds sp' sp'') : MakesAll present? n (d :: ds) sp sp''

theorem declarationsAbout_cons {c : Clause Unit} {target : String} {d : Declaration}
    (h : Declaration.ofClause c = .ok (target, d)) (n : String) (metas : List (Clause Unit)) :
    declarationsAbout n (c :: metas) =
      if target = n then d :: declarationsAbout n metas else declarationsAbout n metas := by
  unfold declarationsAbout
  split
  · rename_i hn
    exact List.filterMap_cons_some (by rw [h]; exact if_pos hn)
  · rename_i hn
    exact List.filterMap_cons_none (by rw [h]; exact if_neg hn)

/-- **Clauses that apply make something of every name.** -/
theorem makesAll_of_applyAll : ∀ {metas : List (Clause Unit)} {s s' : Declared}, s.applyAll l provider metas = .ok s' →
    (∀ c ∈ metas, ∃ x, Declaration.ofClause c = .ok x) ∧
      ∀ n, MakesAll ((provider.lookup l n).contract? l) n (declarationsAbout n metas) (s.spot n) (s'.spot n)
  | [], s, s', h => by
    cases h
    exact ⟨List.forall_mem_nil _, fun n => .nil _⟩
  | c :: metas, s, s', h => by
    rw [applyAll] at h
    split at h
    · rename_i s₁ hs₁
      obtain ⟨⟨target, d⟩, hc, happly⟩ := bind_eq_ok hs₁
      obtain ⟨hmakes, hothers⟩ := makes_of_apply happly
      obtain ⟨hformed, hrest⟩ := makesAll_of_applyAll h
      refine ⟨List.forall_mem_cons.2 ⟨⟨_, hc⟩, hformed⟩, fun n => ?_⟩
      rw [declarationsAbout_cons hc]
      split
      · rename_i hn
        subst hn
        exact .cons hmakes (hrest target)
      · rename_i hn
        rw [← hothers n (Ne.symm hn)]
        exact hrest n
    · cases h

/-- **Clauses apply if they can make something of every name.** -/
theorem applyAll_of_makesAll : ∀ {metas : List (Clause Unit)} {s : Declared},
    (∀ c ∈ metas, ∃ x, Declaration.ofClause c = .ok x) →
      (∀ n, ∃ sp, MakesAll ((provider.lookup l n).contract? l) n (declarationsAbout n metas) (s.spot n) sp) →
        ∃ s', s.applyAll l provider metas = .ok s'
  | [], s, _, _ => ⟨s, rfl⟩
  | c :: metas, s, hformed, hmakes => by
    obtain ⟨⟨⟨target, d⟩, hc⟩, hformed⟩ := List.forall_mem_cons.1 hformed
    simp only [declarationsAbout_cons hc] at hmakes
    obtain ⟨sp, hsp⟩ := hmakes target
    rw [if_pos rfl] at hsp
    obtain _ | ⟨hfirst, hrest⟩ := hsp
    obtain ⟨s₁, hs₁⟩ := apply_of_makes hfirst
    obtain ⟨hsame, hothers⟩ := makes_of_apply hs₁
    obtain rfl := hfirst.unique hsame
    have hnext : ∀ n, ∃ sp, MakesAll ((provider.lookup l n).contract? l) n (declarationsAbout n metas) (s₁.spot n) sp := by
      intro n
      by_cases hn : target = n
      · subst hn
        exact ⟨sp, hrest⟩
      · obtain ⟨sp', hsp'⟩ := hmakes n
        rw [if_neg hn] at hsp'
        rw [hothers n (Ne.symm hn)]
        exact ⟨sp', hsp'⟩
    obtain ⟨s', hs'⟩ := applyAll_of_makesAll hformed hnext
    refine ⟨s', ?_⟩
    rw [applyAll, hc]
    simp only [Except.bind, hs₁]
    exact hs'

theorem MakesAll.append {ds es : List Declaration} (h : MakesAll present? n ds sp sp') (h' : MakesAll present? n es sp' sp'') :
    MakesAll present? n (ds ++ es) sp sp'' := by
  induction h with
  | nil => exact h'
  | cons hfirst _ ih => exact .cons hfirst (ih h')

theorem MakesAll.split : ∀ {ds es : List Declaration} {sp sp'' : Spot}, MakesAll present? n (ds ++ es) sp sp'' →
    ∃ sp', MakesAll present? n ds sp sp' ∧ MakesAll present? n es sp' sp''
  | [], _, sp, _, h => ⟨sp, .nil sp, h⟩
  | d :: ds, es, sp, sp'', h => by
    obtain _ | ⟨hfirst, hrest⟩ := h
    obtain ⟨sp', hds, hes⟩ := hrest.split
    exact ⟨sp', .cons hfirst hds, hes⟩

/-! ## The predicate of the module -/

/-- The visibility that has been declared last, or else the given one. -/
def lastVisibility (ds : List Declaration) (v : Bool) : Bool := ds.foldl (fun v d => d.visibility.getD v) v

theorem declare_eq_ok {p p' : Predicate} {d : Declaration} : p.declare d = .ok p' ↔
    (p.kind = .rules → d.dynamic = false) ∧ ∃ c, p.contract.mergeAll d.contract = .ok c ∧
      p' = { p with isPublic := d.visibility.getD p.isPublic, contract := c } := by
  unfold Predicate.declare
  split
  · rename_i h
    rw [Bool.and_eq_true, decide_eq_true_eq] at h
    refine iff_of_false (fun h => nomatch h) fun ⟨hkind, _⟩ => ?_
    rw [hkind h.2] at h
    cases h.1
  · rename_i h
    have hkind : p.kind = .rules → d.dynamic = false := fun hk =>
      Bool.eq_false_iff.2 fun hd => h (by rw [hd, Bool.true_and, decide_eq_true_eq]; exact hk)
    rw [and_iff_right hkind]
    cases p.contract.mergeAll d.contract with
    | error e => exact iff_of_false (fun h => nomatch h) fun ⟨_, h, _⟩ => nomatch h
    | ok c =>
      simp only [Except.map, Except.ok.injEq, exists_eq_left', eq_comm]

/-- **The module's own predicate takes declarations** if they do not contradict each other, nor what it has gathered. -/
theorem exists_makesAll_own_iff {extra : Contract} : ∀ {ds done : List Declaration} {p : Predicate},
    p.contract.Gathers done → Compatible done → (∀ d ∈ ds, d.contract.Regular) →
      ((∃ sp, MakesAll present? n ds ⟨some p, extra⟩ sp) ↔
        (p.kind = .rules → ∀ d ∈ ds, d.dynamic = false) ∧ Compatible (done ++ ds))
  | [], done, p, _, hdone, _ => by
    refine iff_of_true ⟨_, .nil _⟩ ⟨fun _ => List.forall_mem_nil _, ?_⟩
    rwa [List.append_nil]
  | d :: ds, done, p, hp, hdone, hds => by
    obtain ⟨hd, hds⟩ := List.forall_mem_cons.1 hds
    have hmerge := hp.exists_mergeAll_iff hdone hd
    have hsplit : done ++ d :: ds = (done ++ [d]) ++ ds := by rw [List.append_assoc]; rfl
    rw [hsplit]
    constructor
    · rintro ⟨sp, _ | ⟨⟨_, hfirst⟩, hrest⟩⟩
      obtain ⟨hkind, c, hc, rfl⟩ := declare_eq_ok.1 hfirst
      have ih := (exists_makesAll_own_iff (hp.mergeAll hd hc) (hmerge.1 ⟨c, hc⟩) hds).1 ⟨sp, hrest⟩
      exact ⟨fun hk => List.forall_mem_cons.2 ⟨hkind hk, ih.1 hk⟩, ih.2⟩
    · rintro ⟨hkind, hall⟩
      have hone : Compatible (done ++ [d]) := hall.of_subset (List.subset_append_left _ _)
      obtain ⟨c, hc⟩ := hmerge.2 hone
      have hfirst := declare_eq_ok.2 ⟨fun hk => hkind hk d List.mem_cons_self, c, hc, rfl⟩
      have hgathers : Contract.Gathers { p with isPublic := d.visibility.getD p.isPublic, contract := c }.contract _ :=
        hp.mergeAll hd hc
      obtain ⟨sp, hrest⟩ := (exists_makesAll_own_iff hgathers hone hds).2
        ⟨fun hk => (List.forall_mem_cons.1 (hkind hk)).2, hall⟩
      exact ⟨sp, .cons (.own extra hfirst) hrest⟩

/-- **What the predicate comes to**: the last visibility, and all that has been asked. -/
theorem MakesAll.own {extra : Contract} : ∀ {ds done : List Declaration} {p : Predicate}, p.contract.Gathers done →
    (∀ d ∈ ds, d.contract.Regular) → MakesAll present? n ds ⟨some p, extra⟩ sp →
      ∃ p', sp = ⟨some p', extra⟩ ∧ p'.isPublic = lastVisibility ds p.isPublic ∧ p'.contract.Gathers (done ++ ds)
  | [], done, p, hp, _, h => by
    cases h
    exact ⟨p, rfl, rfl, by rwa [List.append_nil]⟩
  | d :: ds, done, p, hp, hds, h => by
    obtain ⟨hd, hds⟩ := List.forall_mem_cons.1 hds
    obtain _ | ⟨⟨_, hfirst⟩, hrest⟩ := h
    obtain ⟨-, c, hc, rfl⟩ := declare_eq_ok.1 hfirst
    obtain ⟨p', rfl, hvisible, hgathers⟩ := MakesAll.own (hp.mergeAll hd hc) hds hrest
    rw [List.append_assoc] at hgathers
    exact ⟨p', rfl, hvisible, hgathers⟩

/-! ## The predicate of another owner -/

/-- **The provider's predicate takes declarations**: there is one, and they neither declare a visibility nor contradict
its contract. -/
def Suits (present? : Option Contract) (ds : List Declaration) : Prop :=
  ds ≠ [] → ∃ present, present? = some present ∧
    ∀ d ∈ ds, d.visibility = none ∧ ∀ k v w, (k, v) ∈ d.contract → present.constraint? k = some w → w = v

theorem suits_cons {d : Declaration} {ds : List Declaration} : Suits present? (d :: ds) ↔
    Suits present? [d] ∧ Suits present? ds := by
  constructor
  · intro h
    obtain ⟨present, hp, hall⟩ := h (List.cons_ne_nil _ _)
    obtain ⟨hd, hds⟩ := List.forall_mem_cons.1 hall
    exact ⟨fun _ => ⟨present, hp, List.forall_mem_singleton.2 hd⟩, fun _ => ⟨present, hp, hds⟩⟩
  · rintro ⟨hd, hds⟩ -
    obtain ⟨present, hp, hd⟩ := hd (List.cons_ne_nil _ _)
    refine ⟨present, hp, List.forall_mem_cons.2 ⟨hd d List.mem_cons_self, ?_⟩⟩
    cases ds with
    | nil => exact List.forall_mem_nil _
    | cons d' ds =>
      obtain ⟨present', hp', hds⟩ := hds (List.cons_ne_nil _ _)
      rw [hp] at hp'
      cases hp'
      exact hds

theorem exists_makes_foreign_iff {extra : Contract} {done : List Declaration} {d : Declaration}
    (hextra : extra.Gathers done) (hdone : Compatible done) (hd : d.contract.Regular) (hdynamic : d.dynamic = false) :
    (∃ sp, Makes present? n d ⟨none, extra⟩ sp) ↔ Suits present? [d] ∧ Compatible (done ++ [d]) := by
  have hmerge := hextra.exists_mergeAll_iff hdone hd
  constructor
  · rintro ⟨sp, h⟩
    cases h with
    | dynamic _ hd' => exact absurd hd' (by rw [hdynamic]; exact Bool.false_ne_true)
    | foreign _ hp hv hwhole h =>
      refine ⟨fun _ => ⟨_, hp, List.forall_mem_singleton.2 ⟨hv, fun k v w hmem hw => ?_⟩⟩, hmerge.1 ⟨_, h⟩⟩
      refine (Contract.exists_mergeAll_iff hd).1 ⟨_, hwhole⟩ k v w hmem ?_
      rw [Contract.constraint?_append, hw, Option.some_or]
  · rintro ⟨hsuits, hall⟩
    obtain ⟨present, hp, hone⟩ := hsuits (List.cons_ne_nil _ _)
    obtain ⟨hv, hpresent⟩ := List.forall_mem_singleton.1 hone
    obtain ⟨extra', h⟩ := hmerge.2 hall
    have hwhole : ∀ k v w, (k, v) ∈ d.contract → Contract.constraint? (present ++ extra) k = some w → w = v := by
      intro k v w hmem hw
      rw [Contract.constraint?_append] at hw
      rcases Option.or_eq_some_iff.1 hw with hw | ⟨-, hw⟩
      · exact hpresent k v w hmem hw
      · exact (Contract.exists_mergeAll_iff hd).1 ⟨extra', h⟩ k v w hmem hw
    obtain ⟨whole, hwhole⟩ := (Contract.exists_mergeAll_iff hd).2 hwhole
    exact ⟨_, .foreign hdynamic hp hv hwhole h⟩

theorem exists_makesAll_foreign_iff : ∀ {ds done : List Declaration} {extra : Contract}, extra.Gathers done →
    Compatible done → (∀ d ∈ ds, d.contract.Regular) → (∀ d ∈ ds, d.dynamic = false) →
      ((∃ sp, MakesAll present? n ds ⟨none, extra⟩ sp) ↔ Suits present? ds ∧ Compatible (done ++ ds))
  | [], done, extra, _, hdone, _, _ => by
    refine iff_of_true ⟨_, .nil _⟩ ⟨fun h => absurd rfl h, ?_⟩
    rwa [List.append_nil]
  | d :: ds, done, extra, hextra, hdone, hds, hdynamic => by
    obtain ⟨hd, hds⟩ := List.forall_mem_cons.1 hds
    obtain ⟨hd', hdynamic⟩ := List.forall_mem_cons.1 hdynamic
    have hsplit : done ++ d :: ds = (done ++ [d]) ++ ds := by rw [List.append_assoc]; rfl
    rw [hsplit, suits_cons, and_assoc]
    have hone : (∃ sp, Makes present? n d ⟨none, extra⟩ sp) ↔ Suits present? [d] ∧ Compatible (done ++ [d]) :=
      exists_makes_foreign_iff hextra hdone hd hd'
    constructor
    · rintro ⟨sp, _ | ⟨hfirst, hrest⟩⟩
      obtain ⟨hsuits, hcompatible⟩ := hone.1 ⟨_, hfirst⟩
      cases hfirst with
      | dynamic _ hd'' => exact absurd hd'' (by rw [hd']; exact Bool.false_ne_true)
      | foreign _ _ _ _ h =>
        exact ⟨hsuits, (exists_makesAll_foreign_iff (hextra.mergeAll hd h) hcompatible hds hdynamic).1 ⟨sp, hrest⟩⟩
    · rintro ⟨hsuits, hrest, hall⟩
      have hcompatible : Compatible (done ++ [d]) := hall.of_subset (List.subset_append_left _ _)
      obtain ⟨sp₁, hfirst⟩ := hone.2 ⟨hsuits, hcompatible⟩
      cases hfirst with
      | dynamic _ hd'' => exact absurd hd'' (by rw [hd']; exact Bool.false_ne_true)
      | foreign hd'' hp hv hwhole h =>
        obtain ⟨sp, hsp⟩ := (exists_makesAll_foreign_iff (hextra.mergeAll hd h) hcompatible hds hdynamic).2 ⟨hrest, hall⟩
        exact ⟨sp, .cons (.foreign hd'' hp hv hwhole h) hsp⟩

theorem MakesAll.foreign : ∀ {ds done : List Declaration} {extra : Contract}, extra.Gathers done →
    (∀ d ∈ ds, d.contract.Regular) → (∀ d ∈ ds, d.dynamic = false) → MakesAll present? n ds ⟨none, extra⟩ sp →
      ∃ extra' : Contract, sp = ⟨none, extra'⟩ ∧ extra'.Gathers (done ++ ds)
  | [], done, extra, hextra, _, _, h => by
    cases h
    exact ⟨extra, rfl, by rwa [List.append_nil]⟩
  | d :: ds, done, extra, hextra, hds, hdynamic, h => by
    obtain ⟨hd, hds⟩ := List.forall_mem_cons.1 hds
    obtain ⟨hd', hdynamic⟩ := List.forall_mem_cons.1 hdynamic
    obtain _ | ⟨hfirst, hrest⟩ := h
    cases hfirst with
    | dynamic _ hd'' => exact absurd hd'' (by rw [hd']; exact Bool.false_ne_true)
    | foreign _ _ _ _ h =>
      obtain ⟨extra', rfl, hgathers⟩ := MakesAll.foreign (hextra.mergeAll hd h) hds hdynamic hrest
      rw [List.append_assoc] at hgathers
      exact ⟨extra', rfl, hgathers⟩

/-! ## A name that no rules define -/

def beforeDynamic (ds : List Declaration) : List Declaration := ds.takeWhile (!·.dynamic)

/-- The first declaration that makes a name dynamic, and those after it. -/
def fromDynamic (ds : List Declaration) : List Declaration := ds.dropWhile (!·.dynamic)

theorem beforeDynamic_append_fromDynamic (ds : List Declaration) : beforeDynamic ds ++ fromDynamic ds = ds :=
  List.takeWhile_append_dropWhile

theorem fromDynamic_eq_nil_iff {ds : List Declaration} : fromDynamic ds = [] ↔ ∀ d ∈ ds, d.dynamic = false := by
  unfold fromDynamic
  rw [List.dropWhile_eq_nil_iff]
  simp only [Bool.not_eq_true']

theorem parts_perm {ds ds' : List Declaration} (h : ds'.Perm ds) (hds : fromDynamic ds = [] ∨ beforeDynamic ds = [])
    (hds' : fromDynamic ds' = [] ∨ beforeDynamic ds' = []) :
    (fromDynamic ds').Perm (fromDynamic ds) ∧ (beforeDynamic ds').Perm (beforeDynamic ds) := by
  have hall := beforeDynamic_append_fromDynamic ds
  have hall' := beforeDynamic_append_fromDynamic ds'
  have hnone : fromDynamic ds' = [] ↔ fromDynamic ds = [] := by
    rw [fromDynamic_eq_nil_iff, fromDynamic_eq_nil_iff]
    exact ⟨fun hd d hmem => hd d (h.mem_iff.2 hmem), fun hd d hmem => hd d (h.mem_iff.1 hmem)⟩
  by_cases hempty : fromDynamic ds = []
  · have hempty' := hnone.2 hempty
    rw [hempty, List.append_nil] at hall
    rw [hempty', List.append_nil] at hall'
    rw [hempty, hempty', hall, hall']
    exact ⟨.nil, h⟩
  · have hbefore := hds.resolve_left hempty
    have hbefore' := hds'.resolve_left (mt hnone.1 hempty)
    rw [hbefore, List.nil_append] at hall
    rw [hbefore', List.nil_append] at hall'
    rw [hbefore, hbefore', hall, hall']
    exact ⟨h, .nil⟩

theorem dynamic_of_mem_beforeDynamic {ds : List Declaration} {d : Declaration} (h : d ∈ beforeDynamic ds) :
    d.dynamic = false := by
  have hd := List.mem_takeWhile_imp h
  rwa [Bool.not_eq_true'] at hd

theorem makesAll_fromDynamic {ds : List Declaration} {extra : Contract} :
    MakesAll present? n (fromDynamic ds) ⟨none, extra⟩ sp ↔
      if fromDynamic ds = [] then sp = ⟨none, extra⟩
      else MakesAll present? n (fromDynamic ds) ⟨some (Predicate.declared n .dynamic), extra⟩ sp := by
  cases hds : fromDynamic ds with
  | nil =>
    rw [if_pos rfl]
    exact ⟨fun h => by cases h; rfl, fun h => h ▸ .nil _⟩
  | cons d rest =>
    have hd : d.dynamic = true := by
      have hhead := List.head?_dropWhile_not (fun d : Declaration => !d.dynamic) ds
      rw [fromDynamic] at hds
      simpa [hds] using hhead
    rw [if_neg (List.cons_ne_nil _ _)]
    constructor
    · rintro (_ | ⟨hfirst, hrest⟩)
      cases hfirst with
      | dynamic _ _ h => exact .cons (.own extra h) hrest
      | foreign hd' => exact absurd hd (by rw [hd']; exact Bool.false_ne_true)
    · rintro (_ | ⟨⟨_, h⟩, hrest⟩)
      exact .cons (.dynamic extra hd h) hrest

theorem regular_beforeDynamic {ds : List Declaration} (h : ∀ d ∈ ds, d.contract.Regular) :
    ∀ d ∈ beforeDynamic ds, d.contract.Regular := fun d hd => h d ((List.takeWhile_sublist _).subset hd)

theorem regular_fromDynamic {ds : List Declaration} (h : ∀ d ∈ ds, d.contract.Regular) :
    ∀ d ∈ fromDynamic ds, d.contract.Regular := fun d hd => h d ((List.dropWhile_sublist _).subset hd)

/-- **A name that no rules define takes declarations** if the provider takes those before the first that makes it
dynamic, and neither part contradicts itself. -/
theorem exists_makesAll_undefined_iff {ds : List Declaration} (hds : ∀ d ∈ ds, d.contract.Regular) :
    (∃ sp, MakesAll present? n ds ⟨none, []⟩ sp) ↔ Compatible (fromDynamic ds) ∧ Suits present? (beforeDynamic ds) ∧
      Compatible (beforeDynamic ds) := by
  have hnil : Compatible [] := fun _ h => nomatch h
  have hbefore : (∃ sp, MakesAll present? n (beforeDynamic ds) ⟨none, []⟩ sp) ↔ _ :=
    exists_makesAll_foreign_iff Contract.gathers_nil hnil (regular_beforeDynamic hds) fun d hd =>
      dynamic_of_mem_beforeDynamic hd
  have hfrom : ∀ extra, (∃ sp, MakesAll present? n (fromDynamic ds) ⟨some (.declared n .dynamic), extra⟩ sp) ↔ _ :=
    fun extra => exists_makesAll_own_iff Contract.gathers_nil hnil (regular_fromDynamic hds)
  constructor
  · rintro ⟨sp, h⟩
    rw [← beforeDynamic_append_fromDynamic ds] at h
    obtain ⟨sp₁, hfirst, hsecond⟩ := h.split
    refine ⟨?_, hbefore.1 ⟨sp₁, hfirst⟩⟩
    obtain ⟨extra, rfl, -⟩ := hfirst.foreign Contract.gathers_nil (regular_beforeDynamic hds)
      fun d hd => dynamic_of_mem_beforeDynamic hd
    have hsecond := makesAll_fromDynamic.1 hsecond
    split at hsecond
    · rename_i hempty
      rw [hempty]
      exact hnil
    · exact ((hfrom extra).1 ⟨sp, hsecond⟩).2
  · rintro ⟨hcompatible, hsuits⟩
    obtain ⟨sp₁, hfirst⟩ := hbefore.2 hsuits
    obtain ⟨extra, rfl, -⟩ := hfirst.foreign Contract.gathers_nil (regular_beforeDynamic hds)
      fun d hd => dynamic_of_mem_beforeDynamic hd
    have hsecond : ∃ sp, MakesAll present? n (fromDynamic ds) ⟨none, extra⟩ sp := by
      by_cases hempty : fromDynamic ds = []
      · exact ⟨⟨none, extra⟩, makesAll_fromDynamic.2 (by rw [if_pos hempty])⟩
      · obtain ⟨sp, hsp⟩ := (hfrom extra).2 ⟨fun h => (nomatch h), hcompatible⟩
        exact ⟨sp, makesAll_fromDynamic.2 (by rwa [if_neg hempty])⟩
    obtain ⟨sp, hsecond⟩ := hsecond
    rw [← beforeDynamic_append_fromDynamic ds]
    exact ⟨sp, hfirst.append hsecond⟩

theorem MakesAll.undefined {ds : List Declaration} (hds : ∀ d ∈ ds, d.contract.Regular)
    (h : MakesAll present? n ds ⟨none, []⟩ sp) : sp.extra.Gathers (beforeDynamic ds) ∧
      (sp.own.isSome = true ↔ fromDynamic ds ≠ []) ∧ ∀ p, sp.own = some p → p.contract.Gathers (fromDynamic ds) ∧
        p.isPublic = lastVisibility (fromDynamic ds) (Predicate.declared n .dynamic).isPublic := by
  rw [← beforeDynamic_append_fromDynamic ds] at h
  obtain ⟨sp₁, hfirst, hsecond⟩ := h.split
  obtain ⟨extra, rfl, hextra⟩ := hfirst.foreign Contract.gathers_nil (regular_beforeDynamic hds)
    fun d hd => dynamic_of_mem_beforeDynamic hd
  have hsecond := makesAll_fromDynamic.1 hsecond
  split at hsecond
  · rename_i hempty
    subst hsecond
    exact ⟨hextra, iff_of_false Bool.false_ne_true (not_not_intro hempty), fun _ hp => nomatch hp⟩
  · rename_i hne
    obtain ⟨p, rfl, hvisible, hgathers⟩ := MakesAll.own (p := Predicate.declared n .dynamic) Contract.gathers_nil
      (regular_fromDynamic hds) hsecond
    refine ⟨hextra, iff_of_true rfl hne, fun p' hp' => ?_⟩
    cases hp'
    exact ⟨hgathers, hvisible⟩

end Remedy
