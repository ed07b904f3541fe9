import Remedy.Expr.Build
import Remedy.Proofs.Expr.Spelling
/-!
# Proofs.Expr.Arguments — the text of a call is cut into its arguments

The arguments of a call end at the commas outside quotes and brackets, and the call at the bracket that closes it.  A
text is passed over as a part of an argument if none of these is in it: it has no quotes, brackets and commas, or it is
made of quoted and bracketed texts and of texts that are passed over (`Passes`); inside a bracket commas do not count
either.  So a text of arguments with commas between them is cut into these arguments (`arguments_next`,
`arguments_last`).
-/
namespace Remedy.Expr

variable {d k : Nat} {text text' rest soFar inner : List Char} {q : Char} {o o' : Text.OpenQuote}

/-! ## Quotes -/

theorem unescape_cons {c : Char} (h : c ≠ '\\') (cs : List Char) : unescape (c :: cs) = c :: unescape cs := by
  rw [unescape]
  all_goals simp [h]

theorem next_of_ne {c : Char} (hquote : c ≠ q) (hslash : c ≠ '\\') :
    Text.OpenQuote.next ⟨q, false⟩ c = some ⟨q, false⟩ := by
  simp [Text.OpenQuote.next, hslash, hquote]

theorem arguments_in_quote : ∀ {inner soFar : List Char} {o : Text.OpenQuote},
    inner.foldlM Text.OpenQuote.next o = some o' →
      arguments k (some o) soFar (inner ++ rest) = arguments k (some o') (inner.reverse ++ soFar) rest
  | [], _, _, h => by
    cases h
    rfl
  | c :: inner, soFar, o, h => by
    rw [List.foldlM_cons] at h
    obtain ⟨o₁, hfirst, hrest⟩ := Option.bind_eq_some_iff.1 h
    rw [List.cons_append, arguments, hfirst, arguments_in_quote hrest, List.reverse_cons, List.append_assoc]
    rfl

theorem arguments_quoted (hq : Text.isQuote q = true)
    (hinner : inner.foldlM Text.OpenQuote.next ⟨q, false⟩ = some ⟨q, false⟩) :
    arguments k none soFar (q :: (inner ++ [q]) ++ rest) =
      arguments k none ((q :: (inner ++ [q])).reverse ++ soFar) rest := by
  have hclose : Text.OpenQuote.next ⟨q, false⟩ q = none := by
    have hcases : q = '"' ∨ q = '\'' := by simpa [Text.isQuote] using hq
    rcases hcases with rfl | rfl <;> rfl
  have hopen : ∀ cs, arguments k none soFar (q :: cs) = arguments k (some ⟨q, false⟩) (q :: soFar) cs := by
    intro cs
    rw [arguments.eq_def]
    exact if_pos hq
  have hshut : ∀ soFar cs, arguments k (some ⟨q, false⟩) soFar (q :: cs) = arguments k none (q :: soFar) cs := by
    intro soFar cs
    rw [arguments, hclose]
  rw [List.cons_append, List.append_assoc, hopen, arguments_in_quote hinner, List.singleton_append, hshut]
  simp

/-! ## Texts without a place to cut -/

/-- **A text is passed over** inside `d` brackets and more: it ends no argument. -/
def Passes (d : Nat) (text : List Char) : Prop := ∀ (k : Nat) (soFar rest : List Char), d ≤ k →
  arguments k none soFar (text ++ rest) = arguments k none (text.reverse ++ soFar) rest

theorem Passes.nil : Passes d [] := fun _ _ _ _ => rfl

theorem Passes.mono (h : Passes 0 text) : Passes d text := fun k soFar rest _ => h k soFar rest (Nat.zero_le k)

theorem Passes.append (h : Passes d text) (h' : Passes d text') : Passes d (text ++ text') := by
  intro k soFar rest hk
  rw [List.append_assoc, h k _ _ hk, h' k _ _ hk, List.reverse_append, List.append_assoc]

theorem Passes.cons {c : Char} (h : Passes d [c]) (h' : Passes d text) : Passes d (c :: text) := h.append h'

theorem Passes.single {c : Char} (h : c ∉ ['"', '\'', '(', ')', ',']) : Passes d [c] := by
  simp only [List.mem_cons, List.not_mem_nil, or_false, not_or] at h
  obtain ⟨hdouble, hsingle, hopening, hclosing, hcomma⟩ := h
  intro k soFar rest _
  rw [List.singleton_append, arguments.eq_def]
  simp [Text.isQuote, hdouble, hsingle, hopening, hclosing, hcomma]

theorem Passes.of_forall : ∀ {text : List Char}, (∀ c ∈ text, c ∉ ['"', '\'', '(', ')', ',']) → Passes d text
  | [], _ => .nil
  | c :: _, h => .cons (.single (h c List.mem_cons_self)) (.of_forall fun x hx => h x (List.mem_cons_of_mem c hx))

theorem Passes.quoted (hq : Text.isQuote q = true)
    (hinner : inner.foldlM Text.OpenQuote.next ⟨q, false⟩ = some ⟨q, false⟩) : Passes d (q :: (inner ++ [q])) :=
  fun _ _ _ _ => arguments_quoted hq hinner

theorem Passes.comma : Passes 1 [','] := by
  intro k soFar rest hk
  have hdepth : ¬k = 0 := Nat.ne_of_gt hk
  rw [List.singleton_append, arguments.eq_def]
  simp [Text.isQuote, hdepth]

theorem Passes.bracket (h : Passes 1 text) : Passes d ('(' :: (text ++ [')'])) := by
  intro k soFar rest _
  have hopen : ∀ cs, arguments k none soFar ('(' :: cs) = arguments (k + 1) none ('(' :: soFar) cs := by
    intro cs
    rw [arguments.eq_def]
    simp [Text.isQuote]
  have hclose : ∀ soFar cs, arguments (k + 1) none soFar (')' :: cs) = arguments k none (')' :: soFar) cs := by
    intro soFar cs
    rw [arguments.eq_def]
    simp [Text.isQuote]
  rw [List.cons_append, List.append_assoc, hopen, h (k + 1) _ _ (Nat.le_add_left 1 k), List.singleton_append, hclose]
  simp

/-! ## Cutting -/

theorem arguments_next (h : Passes 0 text) (rest : List Char) : arguments 0 none [] (text ++ ',' :: rest) =
    (Text.trim text :: (arguments 0 none [] rest).1, (arguments 0 none [] rest).2) := by
  rw [h 0 _ _ (Nat.le_refl 0), arguments.eq_def]
  simp [Text.isQuote]

theorem arguments_last (h : Passes 0 text) (rest : List Char) :
    arguments 0 none [] (text ++ ')' :: rest) = ([Text.trim text], some rest) := by
  rw [h 0 _ _ (Nat.le_refl 0), arguments.eq_def]
  simp [Text.isQuote]

/-! ## What has been read -/

/-- **A text has been read as an expression**, with as many steps as its reading takes or more. -/
def Read (text : List Char) (e : Expr) : Prop := ∃ fuel, 4 * text.length + 2 ≤ fuel ∧ parseTree fuel text = .ok e

theorem Read.eq_tree {c : Chain} {e : Expr} (h : Read c.chars e) (hc : c.Legible) : e = c.tree.expr := by
  obtain ⟨fuel, hfuel, hread⟩ := h
  rw [parseTree_chain hc hfuel] at hread
  exact (Except.ok.inj hread).symm

/-- **What is built is what has been read**, folded. -/
theorem exists_read_of_build {s : String} {e : Expr} (h : build s = .ok e) :
    ∃ e₀, Read (expand (Text.trim s.toList)) e₀ ∧ e = e₀.fold := by
  unfold build at h
  simp only at h
  split at h
  · cases h
  · split at h
    · rename_i e₀ he₀
      refine ⟨e₀, ⟨_, ?_, he₀⟩, (Except.ok.inj h).symm⟩
      unfold enough
      omega
    · cases h

theorem forall₂_read : ∀ {fuel : Nat} {texts : List (List Char)} {args : List Expr},
    4 * extent texts + 1 ≤ fuel → parseArguments fuel texts = .ok args → (∀ t ∈ texts, t ≠ []) →
      List.Forall₂ Read texts args
  | 0, _, _, hfuel, _, _ => by omega
  | fuel + 1, [], args, _, h, _ => by
    rw [parseArguments] at h
    obtain rfl := Except.ok.inj h
    exact .nil
  | fuel + 1, text :: texts, args, hfuel, h, hne => by
    have hsolid : text.isEmpty = false := List.isEmpty_eq_false_iff.2 (hne text List.mem_cons_self)
    rw [extent] at hfuel
    rw [parseArguments] at h
    simp only [hsolid, Bool.false_eq_true, if_false] at h
    split at h
    · cases h
    · rename_i e he
      split at h
      · cases h
      · rename_i es hes
        obtain rfl := Except.ok.inj h
        refine .cons ⟨fuel, by omega, he⟩ ?_
        exact forall₂_read (by omega) hes fun t ht => hne t (List.mem_cons_of_mem text ht)

section Call

variable {name : List Char} {texts : List (List Char)} {f : Func} {e : Expr}

/-- **A call that has been read** is that of its function to its arguments. -/
theorem Read.call (h : Read (name ++ '(' :: (inner ++ [')'])) e) (hname : ∀ c ∈ name, isPlain c = true)
    (htight : Text.Tight name) (hf : Func.ofChars? name = some f)
    (hsplit : arguments 0 none [] (inner ++ [')']) = (texts, some [])) (hne : ∀ t ∈ texts, t ≠ []) :
    ∃ args, e = .call f args ∧ List.Forall₂ Read texts args := by
  obtain ⟨fuel, hfuel, hread⟩ := h
  have hlength : extent texts ≤ inner.length + 1 := by
    have h := extent_arguments 0 none [] (inner ++ [')'])
    rw [hsplit] at h
    simpa using h
  simp only [List.length_append, List.length_cons, List.length_nil] at hfuel
  obtain ⟨fuel, rfl⟩ := Nat.exists_eq_add_of_le' (show 2 ≤ fuel by omega)
  have hspace : IsSpace [] := List.forall_mem_nil _
  have hcall : readOperand [] none ([] ++ (name ++ []) ++ '(' :: (inner ++ [')'])) = .callOf name (inner ++ [')']) :=
    readOperand_call hspace hspace hname htight _
  rw [List.nil_append, List.append_nil] at hcall
  have hnonempty : texts ≠ [[]] := by
    rintro rfl
    exact hne [] List.mem_cons_self rfl
  rw [parseTree, lexemes, hcall] at hread
  simp only [hf, hsplit, hnonempty, decide_false, Bool.false_and, if_false, Bool.false_eq_true] at hread
  have hnone : lexemes fuel false [] = [] := by cases fuel <;> rfl
  cases hargs : parseArguments fuel texts with
  | error cause =>
    rw [hargs] at hread
    cases hread
  | ok args =>
    rw [hargs] at hread
    simp only [hnone] at hread
    split at hread
    · obtain rfl : Expr.call f args = e := Except.ok.inj hread
      exact ⟨args, rfl, forall₂_read (by omega) hargs hne⟩
    · cases hread

end Call

end Remedy.Expr
