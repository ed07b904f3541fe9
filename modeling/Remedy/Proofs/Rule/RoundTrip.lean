import Remedy.Proofs.Rule.Written
/-!
# Proofs.Rule.RoundTrip — a plain rule is read back from its text

A rule is cut into head and goals, and a goal is told apart by the signs in it, all before any term is read.  On the
text of a plain rule these cuts fall where the rule was put together: the neck is found behind the head, the goals are
cut at the commas between them, a goal is a negation exactly when it was written as one, and the first equals sign
outside brackets is the one between two terms.  What is left to read are terms, and those are read back.
-/
namespace Remedy

/-! ## Calls -/

namespace Term

theorem parseChars_word {vars : VarTable} {name : List Char} (h : IsIdentifier name) (hanonymous : name ≠ ['_']) :
    parseChars vars name = .ok (.const (word name), vars) := by
  have hskip : Text.trimStart name = name ++ [] := by
    rw [List.append_nil, trimStart_of_opens h.opens]
  have hread : read (3 * name.length + 3 + 1) vars name = .ok (.const (word name), vars, []) :=
    read_identifier h hanonymous rfl hskip
  rw [parseChars, readAll, hread]
  rfl

theorem haveTemplate_eq_false : ∀ {args : List (Arg Term)}, (∀ a ∈ args, Rule.hasTemplate a.value = false) →
    Rule.haveTemplate args = false
  | [], _ => rfl
  | a :: rest, h => by
    rw [Rule.haveTemplate, h a (by simp), haveTemplate_eq_false fun b hb => h b (by simp [hb])]
    rfl

theorem Plain.hasTemplate {t : Term} (h : Plain t) : Rule.hasTemplate t = false := by
  induction h with
  | const _ | var _ _ | nil => rfl
  | cell _ _ ihhead ihtail => exact haveTemplate_eq_false (by simp [ihhead, ihtail])
  | compound _ _ _ _ _ ihargs => exact haveTemplate_eq_false ihargs

end Term

namespace Rule

variable {vars vars' : VarTable}

/-- **A plain call is read back.** -/
theorem call_chars {c : Call} (h : c.Plain) (hnumber : vars.number? c.mentions = some vars') :
    call vars c.chars = .ok (c, vars') := by
  obtain ⟨functor, args⟩ := c
  by_cases hbare : args = []
  · subst hbare
    cases hnumber
    have hfree := h.free
    simp only [List.mem_cons, List.not_mem_nil, or_false, not_or] at hfree
    obtain ⟨hanonymous, -, htrue, hfalse, hnull⟩ := hfree
    have hword {name : String} (hne : functor ≠ name) : functor.toList ≠ name.toList := fun heq =>
      hne (String.toList_inj.1 heq)
    have hconst : Term.word functor.toList = .string functor := by
      have hstring : Term.word functor.toList = .string (String.ofList functor.toList) := by
        have htrue : functor.toList ≠ ['t', 'r', 'u', 'e'] := hword htrue
        have hfalse : functor.toList ≠ ['f', 'a', 'l', 's', 'e'] := hword hfalse
        have hnull : functor.toList ≠ ['n', 'u', 'l', 'l'] := hword hnull
        rw [Term.word, if_neg htrue, if_neg hfalse, if_neg hnull]
      rw [hstring, String.ofList_toList]
    rw [call, Call.chars_of_bare rfl, Term.parseChars_word h.functor (hword hanonymous), hconst]
    rfl
  · have hchars : Call.chars ⟨functor, args⟩ = (Term.compound functor args).chars false := by
      rw [Call.chars_of_args h hbare, Term.chars_of_args h.functor hbare]
    rw [call, hchars, (h.term hbare).parseChars hnumber]
    rfl

theorem head_chars {c : Call} (h : c.Plain) (hnumber : vars.number? c.mentions = some vars') :
    head vars c.chars = .ok (c, vars') := by
  rw [head, call_chars h hnumber]
  exact if_neg (Bool.eq_false_iff.1 (Term.haveTemplate_eq_false fun a ha => (h.args a ha).hasTemplate))

/-! ## Negations -/

theorem after?_append (p cs : List Char) : Text.after? p (p ++ cs) = some cs := by
  induction p with
  | nil => cases cs <;> rfl
  | cons c p ih => exact (if_pos rfl).trans ih

theorem eq_of_after? : ∀ {p cs rest : List Char}, Text.after? p cs = some rest → cs = p ++ rest
  | [], _, _, h => by
    cases h
    rfl
  | _ :: _, [], _, h => nomatch h
  | c :: p, d :: cs, rest, h => by
    unfold Text.after? at h
    split at h
    · rename_i hc
      rw [eq_of_after? h, hc]
      rfl
    · cases h

theorem dropLast?_concat (c : Char) (cs : List Char) : Text.dropLast? c (cs ++ [c]) = some cs := by
  simp [Text.dropLast?]

theorem eq_of_dropLast? {c : Char} {cs rest : List Char} (h : Text.dropLast? c cs = some rest) : cs = rest ++ [c] := by
  unfold Text.dropLast? at h
  split at h
  · rename_i d more heq
    split at h
    · rename_i hd
      cases h
      rw [← hd, ← List.reverse_cons, ← heq, List.reverse_reverse]
    · cases h
  · cases h

theorem eq_of_negated? {cs inner : List Char} (h : negated? cs = some inner) : ∃ rest,
    cs = 'n' :: 'o' :: 't' :: rest ∧ Text.trimStart rest = '(' :: (inner ++ [')']) ∧ balanced 0 none inner = true := by
  unfold negated? at h
  split at h
  · cases h
  · rename_i rest hafter
    split at h
    · rename_i more htrim
      obtain ⟨hdrop, hbalanced⟩ := Option.filter_eq_some_iff.1 h
      exact ⟨rest, eq_of_after? hafter, by rw [htrim, eq_of_dropLast? hdrop], hbalanced⟩
    · cases h

/-- **A written negation is read as one.** -/
theorem negated?_not {P : Char → Prop} {cs : List Char} (h : Text.Nested P cs) :
    negated? ('n' :: 'o' :: 't' :: '(' :: (cs ++ [')'])) = some cs := by
  have hbalanced : balanced 0 none cs = true := by
    rw [← List.append_nil cs, balanced_nested h]
    rfl
  have hafter : Text.after? ['n', 'o', 't'] ('n' :: 'o' :: 't' :: '(' :: (cs ++ [')'])) = some ('(' :: (cs ++ [')'])) :=
    after?_append ['n', 'o', 't'] _
  have htrim : Text.trimStart ('(' :: (cs ++ [')'])) = '(' :: (cs ++ [')']) := rfl
  rw [negated?, hafter]
  simp only [htrim]
  rw [dropLast?_concat, Option.filter_some, if_pos hbalanced]

theorem negated?_of_start {cs : List Char} (h : Term.startsWith (· == 'n') cs = false) : negated? cs = none :=
  Option.eq_none_iff_forall_ne_some.2 fun inner hinner => by
    obtain ⟨rest, rfl, -⟩ := eq_of_negated? hinner
    cases h

theorem negated?_of_word {name more : List Char} (hname : ∀ c ∈ name, Text.isIdentRest c = true)
    (hmore : Term.startsWith Text.isIdentRest more = false) (hnot : name ≠ ['n', 'o', 't']) :
    negated? (name ++ more) = none :=
  Option.eq_none_iff_forall_ne_some.2 fun inner hinner => by
    obtain ⟨rest, heq, htrim, -⟩ := eq_of_negated? hinner
    have htake := Text.takeWhile_run hname hmore
    rw [heq] at htake
    cases rest with
    | nil => exact hnot htake.symm
    | cons c rest =>
      by_cases hc : Text.isIdentRest c = true
      · -- the word goes on, so what follows is no bracket
        have hkeep : Text.trimStart (c :: rest) = c :: rest := Text.trimStart_eq_self (Text.isBlank_of_isIdentRest hc)
        rw [hkeep] at htrim
        cases htrim
        exact absurd hc (by decide)
      · have hend : (c :: rest).takeWhile Text.isIdentRest = [] := List.takeWhile_cons_of_neg hc
        have hnotWord : ['n', 'o', 't'] ++ (c :: rest).takeWhile Text.isIdentRest = name := htake
        rw [hend] at hnotWord
        exact hnot hnotWord.symm

/-- A bracket that closes before the end makes no negation. -/
theorem negated?_of_early {P : Char → Prop} {cs more : List Char} (h : Text.Nested P cs) (hmore : more ≠ []) :
    negated? ('n' :: 'o' :: 't' :: '(' :: (cs ++ ')' :: more)) = none :=
  Option.eq_none_iff_forall_ne_some.2 fun inner hinner => by
    obtain ⟨rest, heq, htrim, hbalanced⟩ := eq_of_negated? hinner
    cases heq
    have hkeep : Text.trimStart ('(' :: (cs ++ ')' :: more)) = '(' :: (cs ++ ')' :: more) := rfl
    rw [hkeep] at htrim
    have htext : cs ++ ')' :: more = inner ++ [')'] := List.cons.inj htrim |>.2
    obtain ⟨init, last, rfl⟩ : ∃ init last, more = init ++ [last] :=
      ⟨more.dropLast, more.getLast hmore, (List.dropLast_concat_getLast hmore).symm⟩
    have hinit : cs ++ ')' :: init = inner := by
      have hsplit : (cs ++ ')' :: init) ++ [last] = inner ++ [')'] := by
        rw [← htext, List.append_assoc, List.cons_append]
      exact List.append_inj_left' hsplit rfl
    rw [← hinit, balanced_nested h] at hbalanced
    cases hbalanced

theorem negated?_call {c : Call} (h : c.Plain) : negated? c.chars = none := by
  have hnot : c.functor.toList ≠ ['n', 'o', 't'] := fun heq => by
    have hname : c.functor = "not" := String.toList_inj.1 heq
    exact h.free (by simp [hname])
  by_cases hbare : c.args = []
  · rw [Call.chars_of_bare hbare, ← List.append_nil c.functor.toList]
    exact negated?_of_word h.functor.rest rfl hnot
  · rw [Call.chars_of_args h hbare]
    exact negated?_of_word h.functor.rest rfl hnot

theorem negated?_of_number {cs : List Char} (h : Term.startsWith Term.opensNumber cs = true) (more : List Char) :
    negated? (cs ++ more) = none := by
  refine negated?_of_start ?_
  cases cs with
  | nil => cases h
  | cons c cs =>
    have hopens : Term.opensNumber c = true := h
    have hother : c ∉ ['n'] := Text.not_mem_of_test hopens (by decide)
    exact beq_false_of_ne fun heq => hother (List.mem_singleton.2 heq)

/-- **A term before an equals sign makes no negation**, even when it is called `not`. -/
theorem negated?_term {t : Term} (h : t.Plain) (more : List Char) : negated? (t.chars false ++ ' ' :: more) = none := by
  cases h with
  | const h =>
    cases h with
    | bool b => cases b <;> exact negated?_of_word (List.all_eq_true.1 rfl) rfl (by decide)
    | int n => exact negated?_of_number (Term.opensNumber_numeral n.toInt) _
    | null => exact negated?_of_word (List.all_eq_true.1 rfl) rfl (by decide)
    | @timespan d _ =>
      rw [Term.chars_const, Value.toList_display_timespan]
      exact negated?_of_number (Term.startsWith_imp d.isDigit_chars fun _ => Term.opensNumber_of_isDigit) _
    | string _ =>
      rw [Term.chars_const, Value.toList_display_string]
      exact negated?_of_start rfl
  | @var name slot _ _ =>
    have hchars : (Term.var name slot).chars false = Term.varChars name := rfl
    rw [hchars, Term.varChars]
    split <;> exact negated?_of_start rfl
  | nil => exact negated?_of_start rfl
  | cell _ _ =>
    rw [Term.chars_cell]
    exact negated?_of_start rfl
  | @compound functor args hfunctor _ hne hnames hargs =>
    rw [Term.chars_of_args hfunctor hne, List.append_assoc]
    by_cases hnot : functor.toList = ['n', 'o', 't']
    · have hinner := Term.nested_argChars hnames fun a ha => (hargs a ha).nested.1
      rw [List.cons_append, List.append_assoc, hnot]
      exact negated?_of_early hinner (List.cons_ne_nil _ _)
    · exact negated?_of_word hfunctor.rest rfl hnot

/-! ## The signs of a goal -/

section Signs

variable {left right : List Char}

theorem outer_unify (hleft : Text.Nested IsQuiet left) (hright : Text.Nested IsQuiet right) :
    ∃ before after, Text.outer (left ++ ' ' :: '=' :: ' ' :: right) =
        before ++ (left.length, ' ') :: (left.length + 1, '=') :: (left.length + 2, ' ') :: after ∧
      (∀ p ∈ before, IsQuiet p.2) ∧ ∀ p ∈ after, IsQuiet p.2 := by
  obtain ⟨before, hbefore, hkind, -⟩ := Text.outerFrom_nested hleft 0 0 (' ' :: '=' :: ' ' :: right)
  obtain ⟨after, hafter, hkind', -⟩ := Text.outerFrom_nested hright (left.length + 3) 0 []
  rw [List.append_nil, Text.outerFrom, List.append_nil] at hafter
  refine ⟨before, after, ?_, hkind, hkind'⟩
  rw [Text.outer, hbefore, Nat.zero_add, ← hafter]
  rfl

theorem not_startsWith_is (h : Text.Nested IsQuiet right) : Text.startsWith ['i', 's', ' '] right = false :=
  Bool.eq_false_iff.2 fun hstarts => by
    obtain ⟨rest, hrest⟩ := Option.isSome_iff_exists.1 hstarts
    rw [eq_of_after? hrest] at h
    have hblank := ((h.of_cons rfl).2.of_cons rfl).2.of_cons rfl
    exact hblank.1.1 rfl

theorem isWord?_unify (hleft : Text.Nested IsQuiet left) (hright : Text.Nested IsQuiet right) :
    isWord? (left ++ ' ' :: '=' :: ' ' :: right) (Text.outer (left ++ ' ' :: '=' :: ' ' :: right)) = none := by
  obtain ⟨before, after, houter, hbefore, hafter⟩ := outer_unify hleft hright
  have hquiet {p : Nat × Char} (h : IsQuiet p.2) : (p.2 == ' ') = false := beq_false_of_ne h.1
  rw [isWord?, houter, List.find?_eq_none.2]
  · rfl
  intro (i, c) hp
  simp only [List.mem_append, List.mem_cons, Prod.mk.injEq] at hp
  rcases hp with hp | ⟨rfl, rfl⟩ | ⟨rfl, rfl⟩ | ⟨rfl, rfl⟩ | hp
  · simp [hquiet (hbefore _ hp)]
  · dsimp only
    rw [List.drop_left]
    exact Bool.false_ne_true
  · exact Bool.false_ne_true
  · dsimp only
    rw [List.drop_length_add_append]
    exact fun h => Bool.false_ne_true ((not_startsWith_is hright).symm.trans h)
  · simp [hquiet (hafter _ hp)]

theorem equals?_unify (hleft : Text.Nested IsQuiet left) (hright : Text.Nested IsQuiet right) :
    equals? (left ++ ' ' :: '=' :: ' ' :: right) (Text.outer (left ++ ' ' :: '=' :: ' ' :: right)) =
      some (left.length + 1) := by
  obtain ⟨before, after, houter, hbefore, -⟩ := outer_unify hleft hright
  have hnext : (left ++ ' ' :: '=' :: ' ' :: right)[left.length + 1 + 1]? = some ' ' := by
    rw [List.getElem?_append_right (by omega)]
    simp [Nat.add_assoc]
  have hlast : (left ++ ' ' :: '=' :: ' ' :: right)[left.length + 1 - 1]? = some ' ' := by
    rw [List.getElem?_append_right (by omega)]
    simp
  rw [equals?, houter, List.find?_append, List.find?_eq_none.2]
  · simp [hnext, joinsEquals]
  intro p hp
  have hquiet : (p.2 == '=') = false := beq_false_of_ne fun heq => by
    have hsign := (hbefore p hp).2.2
    rw [heq] at hsign
    cases hsign
  simp [hquiet]

end Signs

/-! ## Goals -/

theorem plainGoal_unify {a b : Term} (ha : a.Plain) (hb : b.Plain)
    (hnumber : vars.number? (a.mentions ++ b.mentions) = some vars') :
    plainGoal vars (Goal.unify a b : Goal Unit).chars = .ok (.unify a b, vars') := by
  obtain ⟨vars₁, hfirst, hsecond⟩ := VarTable.number?_append hnumber
  have hleft : Text.trim ((a.chars false ++ ' ' :: '=' :: ' ' :: b.chars false).take ((a.chars false).length + 1)) =
      a.chars false := by
    rw [List.take_length_add_append]
    exact Text.trim_blank_after ha.tight
  have hright : Text.trim ((a.chars false ++ ' ' :: '=' :: ' ' :: b.chars false).drop ((a.chars false).length + 1 + 1)) =
      b.chars false := by
    rw [Nat.add_assoc, List.drop_length_add_append]
    exact Text.trim_blank_before hb.tight
  rw [Goal.chars_unify, plainGoal]
  simp only [isWord?_unify ha.nested.1 hb.nested.1, equals?_unify ha.nested.1 hb.nested.1, hleft, hright,
    ha.parseChars hfirst, hb.parseChars hsecond]
  rfl

theorem plainGoal_call {c : Call} (h : c.Plain) (hnumber : vars.number? c.mentions = some vars') :
    plainGoal vars (Goal.call () c).chars = .ok (.call () c, vars') := by
  have hquiet : ∀ p ∈ Text.outer c.chars, IsQuiet p.2 := fun p hp =>
    Text.isQuiet_of_isIdentRest (Text.outer_kind h.nested p hp)
  have hword : isWord? c.chars (Text.outer c.chars) = none := by
    rw [isWord?, List.find?_eq_none.2]
    · rfl
    · intro p hp
      simp [beq_false_of_ne (hquiet p hp).1]
  have hsign {p : Nat × Char} (hp : p ∈ Text.outer c.chars) : p.2 ≠ '=' := fun heq => by
    have hp := (hquiet p hp).2.2
    rw [heq] at hp
    cases hp
  have hequals : equals? c.chars (Text.outer c.chars) = none := by
    rw [equals?, List.find?_eq_none.2]
    · rfl
    · intro p hp
      simp [beq_false_of_ne (hsign hp)]
  have htest : ((Text.outer c.chars).any fun p => isTestSign p.2) = false :=
    List.any_eq_false.2 fun p hp => by simp [(hquiet p hp).2.2]
  rw [Goal.chars_call, plainGoal]
  simp only [hword, hequals, htest, Bool.false_eq_true, if_false, call_chars h hnumber]
  rfl

theorem ne_cut {cs : List Char} (h : Term.startsWith Term.opens cs = true) : cs ≠ ['!'] := by
  rintro rfl
  cases h

section Step

variable {g : Goal Unit} {fuel : Nat} {cs : List Char}

theorem goalIn_of_negated (hg : g.Plain) (hcs : Text.trim cs = g.chars) (hcut : g.chars ≠ ['!']) {inner : List Char}
    (h : negated? g.chars = some inner) :
    goalIn (fuel + 1) vars cs = (goalIn fuel vars inner).map fun (g, vars) => (.not g, vars) := by
  have hne : g.chars.isEmpty = false := List.isEmpty_eq_false_iff.2 hg.tight.ne_nil
  simp only [goalIn, hcs, hne, hcut, h, Bool.false_eq_true, if_false]

theorem goalIn_of_plain (hg : g.Plain) (hcs : Text.trim cs = g.chars) (hcut : g.chars ≠ ['!'])
    (h : negated? g.chars = none) : goalIn (fuel + 1) vars cs = plainGoal vars g.chars := by
  have hne : g.chars.isEmpty = false := List.isEmpty_eq_false_iff.2 hg.tight.ne_nil
  simp only [goalIn, hcs, hne, hcut, h, Bool.false_eq_true, if_false]

end Step

/-- **A plain goal is read back**, with fuel for as many negations as its text has room for. -/
theorem goalIn_chars {g : Goal Unit} (h : g.Plain) : ∀ {fuel : Nat} {cs : List Char}, g.chars.length ≤ fuel →
    Text.trim cs = g.chars → vars.number? g.mentions = some vars' → goalIn (fuel + 1) vars cs = .ok (g, vars') := by
  induction h with
  | @call c h =>
    intro fuel cs hfuel hcs hnumber
    have hcut : (Goal.call () c).chars ≠ ['!'] := ne_cut (Goal.chars_call c ▸ h.opens)
    have hnegated : negated? (Goal.call () c).chars = none := Goal.chars_call c ▸ negated?_call h
    rw [goalIn_of_plain (.call h) hcs hcut hnegated]
    exact plainGoal_call h hnumber
  | cut =>
    intro fuel cs hfuel hcs hnumber
    cases hnumber
    rw [Goal.chars_cut] at hcs
    simp [goalIn, hcs]
  | @unify a b ha hb =>
    intro fuel cs hfuel hcs hnumber
    have hcut : (Goal.unify a b : Goal Unit).chars ≠ ['!'] :=
      ne_cut (Goal.chars_unify a b ▸ Term.startsWith_append _ ha.opens)
    have hnegated : negated? (Goal.unify a b : Goal Unit).chars = none := Goal.chars_unify a b ▸ negated?_term ha _
    rw [goalIn_of_plain (.unify ha hb) hcs hcut hnegated]
    exact plainGoal_unify ha hb hnumber
  | @not g hg ih =>
    intro fuel cs hfuel hcs hnumber
    have hcut : (Goal.not g).chars ≠ ['!'] := fun heq => by
      rw [Goal.chars_not] at heq
      cases heq
    have hnegated : negated? (Goal.not g).chars = some g.chars := Goal.chars_not g ▸ negated?_not hg.nested
    -- the word and the brackets leave room for the fuel that the inner goal takes
    simp only [Goal.chars_not, List.length_cons, List.length_append] at hfuel
    obtain ⟨fuel, rfl⟩ : ∃ n, fuel = n + 1 := ⟨fuel - 1, by omega⟩
    have hlength : g.chars.length ≤ fuel := by omega
    rw [goalIn_of_negated (.not hg) hcs hcut hnegated, ih hlength hg.tight.trim hnumber]
    rfl

theorem goal_chars {g : Goal Unit} (h : g.Plain) (hnumber : vars.number? g.mentions = some vars') :
    goal vars g.chars = .ok (g, vars') := goalIn_chars h (Nat.le_refl _) h.tight.trim hnumber

theorem goals_chars : ∀ {gs : List (Goal Unit)} {vars vars' : VarTable}, (∀ g ∈ gs, g.Plain) →
    vars.number? (gs.flatMap Goal.mentions) = some vars' → goals vars (gs.map Goal.chars) = .ok (gs, vars')
  | [], _, _, _, hnumber => by
    cases hnumber
    rfl
  | g :: gs, vars, vars', h, hnumber => by
    rw [List.flatMap_cons] at hnumber
    obtain ⟨vars₁, hfirst, hrest⟩ := VarTable.number?_append hnumber
    rw [List.map_cons, goals, goal_chars (h g (by simp)) hfirst]
    dsimp only
    rw [goals_chars (fun g hg => h g (by simp [hg])) hrest]
    rfl

/-! ## Rules -/

/-- **The text of a rule**: a head alone, or a head, the neck, and goals with commas between them. -/
def written (head : Call) : List (Goal Unit) → String
  | [] => head.display
  | gs => head.display ++ " :- " ++ ", ".intercalate (gs.map Goal.display)

/-- Goals with a comma and a blank between them, as goals with a blank before each and a comma between them. -/
theorem intercalate_blank : ∀ {parts : List (List Char)}, parts ≠ [] →
    ' ' :: List.intercalate [',', ' '] parts = List.intercalate [','] (parts.map (List.cons ' '))
  | [], h => absurd rfl h
  | [p], _ => by simp
  | p :: q :: parts, _ => by
    have hrest := intercalate_blank (List.cons_ne_nil q parts)
    rw [List.map_cons] at hrest
    rw [List.map_cons, List.map_cons, List.intercalate_cons_cons, List.intercalate_cons_cons, ← hrest]
    simp

theorem body_chars {gs : List (Goal Unit)} (hne : gs ≠ []) (h : ∀ g ∈ gs, g.Plain)
    (hnumber : vars.number? (gs.flatMap Goal.mentions) = some vars') :
    body vars (' ' :: List.intercalate [',', ' '] (gs.map Goal.chars)) = .ok (gs, vars') := by
  have hmap : gs.map Goal.chars ≠ [] := fun heq => hne (List.map_eq_nil_iff.1 heq)
  have hparts : (gs.map Goal.chars).map (List.cons ' ') ≠ [] := fun heq => hmap (List.map_eq_nil_iff.1 heq)
  have hnested : ∀ p ∈ (gs.map Goal.chars).map (List.cons ' '), Text.Nested (· ≠ ',') p := fun p hp => by
    obtain ⟨q, hq, rfl⟩ := List.mem_map.1 hp
    obtain ⟨g, hg, rfl⟩ := List.mem_map.1 hq
    exact .flat rfl (by decide) (h g hg).nested
  have htrim : ((gs.map Goal.chars).map (List.cons ' ')).map Text.trim = gs.map Goal.chars := by
    rw [List.map_map, List.map_map]
    exact List.map_congr_left fun g hg => Text.trim_blank_before (h g hg).tight
  have hsplit : Text.splitOuter ',' (' ' :: List.intercalate [',', ' '] (gs.map Goal.chars)) = gs.map Goal.chars := by
    rw [intercalate_blank hmap, Text.splitOuter_join rfl hparts hnested, htrim]
  have hblank : (Text.trim (' ' :: List.intercalate [',', ' '] (gs.map Goal.chars))).isEmpty = false := by
    obtain ⟨g, gs, rfl⟩ := List.exists_cons_of_ne_nil hne
    obtain ⟨c, hc, hsolid⟩ := (h g (by simp)).tight.exists_solid
    have hmem : c ∈ ' ' :: List.intercalate [',', ' '] ((g :: gs).map Goal.chars) := by
      cases gs <;> simp [hc]
    exact List.isEmpty_eq_false_iff.2 (Text.trim_ne_nil hmem hsolid)
  rw [body, hblank, hsplit, goals_chars h hnumber]
  rfl

theorem chars_written {head : Call} {g : Goal Unit} {gs : List (Goal Unit)} : (written head (g :: gs)).toList =
    head.chars ++ ' ' :: ':' :: '-' :: ' ' :: List.intercalate [',', ' '] ((g :: gs).map Goal.chars) := by
  have hneck : " :- ".toList = [' ', ':', '-', ' '] := rfl
  have hcomma : ", ".toList = [',', ' '] := rfl
  have hgoals : String.toList ∘ Goal.display = Goal.chars := rfl
  simp only [written, String.toList_append, String.toList_intercalate, Call.display, String.toList_ofList, hneck, hcomma,
    List.map_map, hgoals, List.append_assoc]
  rfl

theorem headAndBody_chars {head : Call} {gs : List (Goal Unit)} (hhead : head.Plain) (hbody : ∀ g ∈ gs, g.Plain)
    (hnumber : VarTable.empty.number? (head.mentions ++ gs.flatMap Goal.mentions) = some vars) :
    headAndBody (written head gs).toList = .ok (head, gs, vars) := by
  obtain ⟨vars₁, hfirst, hrest⟩ := VarTable.number?_append hnumber
  have hneck : Text.Nested (· ≠ ':') head.chars := hhead.nested.imp fun c hc heq => by
    rw [heq] at hc
    cases hc
  cases gs with
  | nil =>
    have hchars : (written head []).toList = head.chars := String.toList_ofList
    cases hrest
    rw [hchars, headAndBody, neck?_of_nested hneck]
    dsimp only
    rw [hhead.tight.trim, head_chars hhead hfirst]
    rfl
  | cons g gs =>
    rw [chars_written, headAndBody, neck?_written hneck]
    dsimp only
    rw [List.take_length_add_append, Nat.add_assoc, List.drop_length_add_append]
    have hread : Rule.head .empty (Text.trim (head.chars ++ [' '])) = .ok (head, vars₁) := by
      rw [Text.trim_blank_after hhead.tight, head_chars hhead hfirst]
    have hgoals := body_chars (List.cons_ne_nil g gs) hbody hrest
    simp only [List.take_succ_cons, List.take_zero, List.drop_succ_cons, List.drop_zero, hread, hgoals]
    rfl

/-- **Clause splitting agrees with the grammar of terms**: a plain rule, its variables numbered in the order in which
they appear, is read back from its text. -/
theorem parse_written {head : Call} {gs : List (Goal Unit)} {line : Nat} (hhead : head.Plain)
    (hbody : ∀ g ∈ gs, g.Plain)
    (hnumber : VarTable.empty.number? (head.mentions ++ gs.flatMap Goal.mentions) = some vars) :
    parse ⟨written head gs, line⟩ = .ok ⟨head, gs, vars, written head gs, line⟩ := by
  rw [parse, headAndBody_chars hhead hbody hnumber]

/-- A head with a text full of separators. -/
def servingHead : Call := ⟨"serves", [⟨none, .var "Place" 0⟩, ⟨some "note", .const (.string "a) :- b, \"c' = \x7b\\")⟩]⟩

/-- Two negations around a call, a term that is called `not` before an equals sign, a bare call and a cut. -/
def servingBody : List (Goal Unit) :=
  [.not (.not (.call () ⟨"open", [⟨none, .var "Place" 0⟩]⟩)),
    .unify (.compound "not" [⟨none, .var "_" 1⟩]) (Term.cell (.var "Place" 0) (.var "Rest" 2)),
    .call () ⟨"close", []⟩, .cut]

theorem plain_servingHead : servingHead.Plain := by
  have hplace : Term.Plain (.var "Place" 0) := .var (by decide) (List.all_eq_true.1 rfl)
  have htext : ∀ c ∈ "a) :- b, \"c' = \x7b\\".toList, 0x20 ≤ c.toNat ∧ c.toNat ≤ 0x7E := fun c hc => by
    have hall : "a) :- b, \"c' = \x7b\\".toList.all (fun c => 0x20 ≤ c.toNat && c.toNat ≤ 0x7E) = true := rfl
    simpa using List.all_eq_true.1 hall c hc
  have hnote : Term.Plain (.const (.string "a) :- b, \"c' = \x7b\\")) :=
    .const (.string fun c hc => Text.readsBack_of_ascii (htext c hc).1 (htext c hc).2)
  exact ⟨by decide, by decide, by decide, by simp [servingHead, hplace, hnote]⟩

theorem plain_servingBody : ∀ g ∈ servingBody, g.Plain := by
  have hplace : Term.Plain (.var "Place" 0) := .var (by decide) (List.all_eq_true.1 rfl)
  have hopen : Goal.Plain (.call () ⟨"open", [⟨none, .var "Place" 0⟩]⟩) :=
    .call ⟨by decide, by decide, by decide, by simp [hplace]⟩
  have hclose : Goal.Plain (.call () ⟨"close", []⟩) := .call ⟨by decide, by decide, by decide, by simp⟩
  have hnot : Term.Plain (.compound "not" [⟨none, .var "_" 1⟩]) :=
    .compound (by decide) (by decide) (by simp) (by decide) (by simpa using .var (by decide) (List.all_eq_true.1 rfl))
  have hlist : Term.Plain (Term.cell (.var "Place" 0) (.var "Rest" 2)) :=
    .cell hplace (.var (by decide) (List.all_eq_true.1 rfl))
  simp only [servingBody, List.mem_cons, List.not_mem_nil, or_false]
  rintro g (rfl | rfl | rfl | rfl)
  · exact .not (.not hopen)
  · exact .unify hnot hlist
  · exact hclose
  · exact .cut

theorem parse_written_serving :
    servingHead.Plain ∧ (∀ g ∈ servingBody, g.Plain) ∧
      VarTable.empty.number? (servingHead.mentions ++ servingBody.flatMap Goal.mentions) =
        some ⟨["Place", "_", "Rest"]⟩ ∧
      written servingHead servingBody = "serves(?Place, note: \"a) :- b, \\\"c' = \x7b\\\\\")" ++
        " :- not(not(open(?Place))), not(_) = [?Place | ?Rest], close, !" ∧
      parse ⟨written servingHead servingBody, 7⟩ =
        .ok ⟨servingHead, servingBody, ⟨["Place", "_", "Rest"]⟩, written servingHead servingBody, 7⟩ :=
  ⟨plain_servingHead, plain_servingBody, by decide, by decide +kernel,
    parse_written plain_servingHead plain_servingBody (by decide)⟩

end Rule

end Remedy
