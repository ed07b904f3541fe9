import Remedy.Proofs.Term.Plain
/-!
# Proofs.Term.RoundTrip — a plain term is read back from its text

The reader decides by the first character what stands before it, and takes as much as belongs to it.  So a term is read
back wherever its text stands, as long as what follows does not go on with a word or a number and does not make a name
or a call of it (`Separate`); the commas, bars and closing brackets that terms are written with never do.  The induction
is on the term.  Its claim has two halves (`ReadBack`, `TailReadBack`), since a term is written in one way on its own
and in another behind the items of a list that it ends.
-/
namespace Remedy.Term

/-! ## What follows a term -/

/-- A character that makes a call, the name of an argument or something else of the word before it. -/
def joinsWord (c : Char) : Bool := c == '(' || c == ':' || c == '='

/-- **What follows does not go on with a term**: with its word, its number or, after blanks, its meaning. -/
structure Separate (rest : List Char) : Prop where
  word : startsWith Text.isIdentRest rest = false
  number : startsWith isNumberChar rest = false
  sign : startsWith joinsWord (Text.trimStart rest) = false

theorem Separate.nil : Separate [] := ⟨rfl, rfl, rfl⟩

theorem Separate.comma (rest : List Char) : Separate (',' :: rest) := ⟨rfl, rfl, rfl⟩

theorem Separate.close (rest : List Char) : Separate (')' :: rest) := ⟨rfl, rfl, rfl⟩

theorem Separate.closeList (rest : List Char) : Separate (']' :: rest) := ⟨rfl, rfl, rfl⟩

theorem Separate.bar (rest : List Char) : Separate (' ' :: '|' :: rest) := ⟨rfl, rfl, rfl⟩

/-! ## Texts between quotes -/

theorem quotedRest_quoteChar {c : Char} (h : Text.ReadsBack c) (more : List Char) :
    quotedRest '"' (Text.quoteChar c ++ more) = (quotedRest '"' more).map fun (s, rest) => (c :: s, rest) := by
  rcases h with h | h
  · have hquote : c ≠ '"' := by
      rintro rfl
      exact absurd h (by decide)
    have hslash : c ≠ '\\' := by
      rintro rfl
      exact absurd h (by decide)
    -- a character that is no backslash takes the last case of the reader
    rw [h, List.singleton_append, quotedRest, if_neg hquote] <;> simp [hslash]
  · simp only [List.mem_cons, List.not_mem_nil, or_false] at h
    rcases h with rfl | rfl | rfl | rfl <;> rfl

/-- **A text is read back from between its quotes.** -/
theorem quotedRest_quoted (rest : List Char) : ∀ {cs : List Char}, (∀ c ∈ cs, Text.ReadsBack c) →
    quotedRest '"' (cs.flatMap Text.quoteChar ++ '"' :: rest) = some (cs, rest)
  | [], _ => rfl
  | c :: cs, h => by
    rw [List.flatMap_cons, List.append_assoc, quotedRest_quoteChar (h c (by simp)),
      quotedRest_quoted rest fun d hd => h d (by simp [hd])]
    rfl

/-! ## Numbers and words -/

theorem isNumberChar_of_isDigit {c : Char} (h : Decimal.isDigit c = true) : isNumberChar c = true := by
  have hrest := Text.isIdentRest_of_isDigit h
  rw [Text.isIdentRest, Bool.or_eq_true] at hrest
  rcases hrest with hrest | hrest
  · rw [isNumberChar, hrest, Bool.true_or, Bool.true_or]
  · rw [eq_of_beq hrest] at h
    exact absurd h (by decide)

theorem number_minus {body rest : List Char} {n : Int64} (hbody : ∀ c ∈ body, isNumberChar c = true)
    (hrest : startsWith isNumberChar rest = false) (hn : Value.ofWord ('-' :: body) = .int n) :
    number ('-' :: (body ++ rest)) = .ok (.const (.int n), rest) := by
  simp only [number, Text.takeWhile_run hbody hrest, Text.dropWhile_run hbody hrest, List.singleton_append, hn]

theorem number_digits {body rest : List Char} {v : Value} (hstart : startsWith Decimal.isDigit body = true)
    (hbody : ∀ c ∈ body, isNumberChar c = true) (hrest : startsWith isNumberChar rest = false)
    (hv : Value.ofWord body = v) (hkind : v.isInt = true ∨ v.isTimespan = true) :
    number (body ++ rest) = .ok (.const v, rest) := by
  have hsign : ∀ more, body ++ rest ≠ '-' :: more := fun more heq => by
    have hdigit := startsWith_append rest hstart
    rw [heq] at hdigit
    cases hdigit
  have htake := Text.takeWhile_run hbody hrest
  have hdrop := Text.dropWhile_run hbody hrest
  unfold number
  split
  rename_i sign more hsplit
  split at hsplit
  · exact absurd ‹_› (hsign _)
  · cases hsplit
    rw [htake, hdrop, List.nil_append]
    dsimp only
    rw [hv]
    cases v with
    | int | timespan => rfl
    | bool | float | string | json | null => exact hkind.elim nofun nofun

/-- **A whole number is read back.** -/
theorem number_int {rest : List Char} (n : Int64) (hrest : startsWith isNumberChar rest = false) :
    number ((toString n.toInt).toList ++ rest) = .ok (.const (.int n), rest) := by
  have hn := Value.ofWord_int n
  have hdigits (m : Nat) : ∀ c ∈ Nat.toDigits 10 m, isNumberChar c = true := fun c hc =>
    isNumberChar_of_isDigit (Decimal.isDigit_of_mem_toDigits hc)
  rw [Int.toString_eq_repr, Decimal.toList_repr] at hn ⊢
  cases hint : n.toInt with
  | ofNat m =>
    rw [hint] at hn
    exact number_digits (startsWith_of_forall Nat.toDigits_ne_nil fun c => Decimal.isDigit_of_mem_toDigits)
      (hdigits m) hrest hn (.inl rfl)
  | negSucc m =>
    rw [hint] at hn
    exact number_minus (hdigits (m + 1)) hrest hn

/-- **A time span is read back.** -/
theorem number_timespan {d : Timespan} {rest : List Char} (h : d.nanos % 1000000 = 0)
    (hrest : startsWith isNumberChar rest = false) :
    number (d.chars ++ rest) = .ok (.const (.timespan d), rest) := by
  have hchars : ∀ c ∈ d.chars, isNumberChar c = true := fun c hc => by
    rcases d.chars_kind c hc with (hc | rfl) | rfl
    · exact isNumberChar_of_isDigit hc
    · rfl
    · rfl
  exact number_digits d.isDigit_chars hchars hrest (Value.ofWord_timespan d h) (.inr rfl)

/-! ## The first character decides -/

variable {fuel : Nat} {vars vars' : VarTable} {cs rest : List Char}

theorem read_number {token : List Char} {v : Value} (hcs : Text.trimStart cs = token ++ rest)
    (hstart : startsWith opensNumber token = true)
    (hnumber : number (token ++ rest) = .ok (.const v, rest)) :
    read (fuel + 1) vars cs = .ok (.const v, vars, rest) := by
  cases token with
  | nil => cases hstart
  | cons c token =>
    have hopens : opensNumber c = true := hstart
    have hother : c ∉ ['?', '_', '"', '\'', '[', '{'] := Text.not_mem_of_test hopens (by decide)
    simp only [List.mem_cons, List.not_mem_nil, or_false, not_or] at hother
    obtain ⟨hvar, hanonymous, hdouble, hsingle, hlist, htemplate⟩ := hother
    have hsign : c = '-' ∨ Decimal.isDigit c = true := by
      rwa [startsWith, opensNumber, Bool.or_eq_true, beq_iff_eq] at hstart
    rw [List.cons_append] at hcs hnumber
    simp [read, hcs, hvar, hanonymous, Text.isQuote, hdouble, hsingle, hlist, htemplate, hsign, hnumber]

theorem read_text {s : List Char} (hcs : Text.trimStart cs = '"' :: (s.flatMap Text.quoteChar ++ '"' :: rest))
    (h : ∀ c ∈ s, Text.ReadsBack c) :
    read (fuel + 1) vars cs = .ok (.const (.string (String.ofList s)), vars, rest) := by
  simp [read, hcs, Text.isQuote, quotedRest_quoted rest h]

def wordAfter (fuel : Nat) (vars : VarTable) (name : List Char) :
    List Char → Except Stop (Term × VarTable × List Char)
  | '(' :: rest =>
    match readArgs fuel vars rest with
    | .ok (args, vars, rest) => .ok (.compound (String.ofList name) args, vars, rest)
    | .error e => .error e
  | rest => .ok (.const (word name), vars, rest)

theorem wordAfter_of_sign {name : List Char} (h : startsWith joinsWord rest = false) :
    wordAfter fuel vars name rest = .ok (.const (word name), vars, rest) := by
  unfold wordAfter
  split
  · cases h
  · rfl

/-- **A word is taken up to its end**, and an opening bracket after it makes a call. -/
theorem read_identifier {name : List Char} (h : IsIdentifier name) (hanonymous : name ≠ ['_'])
    (hrest : startsWith Text.isIdentRest rest = false) (hcs : Text.trimStart cs = name ++ rest) :
    read (fuel + 1) vars cs = wordAfter fuel vars name (Text.trimStart rest) := by
  have htake := Text.takeWhile_run h.rest hrest
  have hdrop := Text.dropWhile_run h.rest hrest
  cases name with
  | nil => exact nomatch h.start
  | cons c name =>
    have hstart : Text.isIdentStart c = true := h.start
    have hother : c ∉ ['?', '"', '\'', '[', '{', '-'] := Text.not_mem_of_test hstart (by decide)
    simp only [List.mem_cons, List.not_mem_nil, or_false, not_or] at hother
    obtain ⟨hvar, hdouble, hsingle, hlist, htemplate, hminus⟩ := hother
    have hdigit : Decimal.isDigit c = false := Text.not_isDigit_of_isIdentStart hstart
    have hquote : Text.isQuote c = false := by
      rw [Text.isQuote, beq_false_of_ne hdouble, beq_false_of_ne hsingle]
      rfl
    have hnumber : (decide (c = '-') || Decimal.isDigit c) = false := by
      rw [decide_eq_false hminus, hdigit]
      rfl
    -- the underscore alone is the anonymous variable, but this word goes on after one
    have hlong : (decide (c = '_') && !startsWith Text.isIdentRest (name ++ rest)) = false := by
      cases name with
      | nil => rw [decide_eq_false fun hc => hanonymous (congrArg (· :: []) hc), Bool.false_and]
      | cons d name =>
        have hd : startsWith Text.isIdentRest (d :: name ++ rest) = true := h.rest d (by simp)
        rw [hd, Bool.not_true, Bool.and_false]
    rw [List.cons_append] at hcs htake hdrop
    simp only [read, hcs, hvar, hlong, hquote, hlist, htemplate, hnumber, hstart, htake, hdrop, if_false, if_true,
      Bool.false_eq_true]
    rfl

theorem read_var {name : String} {slot : Nat} (hne : name.toList ≠ [])
    (h : ∀ c ∈ name.toList, Text.isIdentRest c = true) (hslot : vars.slot name = (slot, vars'))
    (hrest : startsWith Text.isIdentRest rest = false) (hcs : Text.trimStart cs = varChars name ++ rest) :
    read (fuel + 1) vars cs = .ok (.var name slot, vars', rest) := by
  rw [varChars] at hcs
  split at hcs
  · rename_i hname
    subst hname
    simp [read, hcs, hrest, appear, hslot]
  · have htake := Text.takeWhile_run h hrest
    have hdrop := Text.dropWhile_run h hrest
    simp [read, hcs, htake, hdrop, hne, appear, hslot]

/-! ## Names of arguments -/

section ArgName

def labelAfter? (name : List Char) : List Char → Option (String × List Char)
  | ':' :: rest => if startsWith (· == '-') rest then none else some (String.ofList name, rest)
  | '=' :: rest => if startsWith (· == '=') rest then none else some (String.ofList name, rest)
  | _ => none

def positionAfter? (digits : List Char) : List Char → Option (String × List Char)
  | ':' :: rest => if startsWith Decimal.isDigit rest then none else some (String.ofList digits, rest)
  | _ => none

theorem labelAfter?_of_sign {name : List Char} (h : startsWith joinsWord rest = false) :
    labelAfter? name rest = none := by
  unfold labelAfter?
  split
  · cases h
  · cases h
  · rfl

theorem positionAfter?_of_sign {digits : List Char} (h : startsWith joinsWord rest = false) :
    positionAfter? digits rest = none := by
  unfold positionAfter?
  split
  · cases h
  · rfl

theorem argName?_of_identifier {name : List Char} (h : IsIdentifier name)
    (hrest : startsWith Text.isIdentRest rest = false) :
    argName? (name ++ rest) = labelAfter? name (Text.trimStart rest) := by
  have htake := Text.takeWhile_run h.rest hrest
  have hdrop := Text.dropWhile_run h.rest hrest
  cases name with
  | nil => exact nomatch h.start
  | cons c name =>
    have hstart : Text.isIdentStart c = true := h.start
    have hdigit : Decimal.isDigit c = false := Text.not_isDigit_of_isIdentStart hstart
    rw [List.cons_append] at htake hdrop ⊢
    simp only [argName?, hdigit, hstart, htake, hdrop, if_true, Bool.false_eq_true, if_false]
    rfl

theorem argName?_of_digits {digits : List Char} (hne : digits ≠ []) (h : ∀ c ∈ digits, Decimal.isDigit c = true)
    (hrest : startsWith Decimal.isDigit rest = false) :
    argName? (digits ++ rest) = positionAfter? digits (Text.trimStart rest) := by
  have htake := Text.takeWhile_run h hrest
  have hdrop := Text.dropWhile_run h hrest
  cases digits with
  | nil => exact absurd rfl hne
  | cons c digits =>
    have hdigit : Decimal.isDigit c = true := h c (by simp)
    rw [List.cons_append] at htake hdrop ⊢
    simp only [argName?, hdigit, htake, hdrop, if_true]
    rfl

/-- **The name of an argument is read back**, up to its colon. -/
theorem argName?_label {name : List Char} (h : IsLabel name) (more : List Char) :
    argName? (name ++ ':' :: ' ' :: more) = some (String.ofList name, ' ' :: more) := by
  rcases h with h | ⟨hne, h⟩
  · rw [argName?_of_identifier h rfl]
    rfl
  · rw [argName?_of_digits hne h rfl]
    rfl

theorem argName?_word {name : List Char} (h : IsIdentifier name) (hrest : Separate rest) :
    argName? (name ++ rest) = none := by
  rw [argName?_of_identifier h hrest.word, labelAfter?_of_sign hrest.sign]

theorem startsWith_isDigit_of_separate (hrest : Separate rest) : startsWith Decimal.isDigit rest = false := by
  have hnumber := hrest.number
  cases rest with
  | nil => rfl
  | cons c rest => exact Bool.eq_false_iff.2 fun hc => Bool.eq_false_iff.1 hnumber (isNumberChar_of_isDigit hc)

theorem argName?_numeral {n : Int} (hrest : Separate rest) : argName? ((toString n).toList ++ rest) = none := by
  rw [Int.toString_eq_repr, Decimal.toList_repr]
  cases n with
  | ofNat m =>
    simp only
    rw [argName?_of_digits Nat.toDigits_ne_nil (fun c => Decimal.isDigit_of_mem_toDigits)
      (startsWith_isDigit_of_separate hrest), positionAfter?_of_sign hrest.sign]
  | negSucc m => rfl

theorem argName?_timespan (d : Timespan) : argName? (d.chars ++ rest) = none := by
  obtain ⟨digits, c, more, heq, hne, hdigits, hc, hmore⟩ := d.chars_start
  have hnext := startsWith_append rest hmore
  have hend : startsWith Decimal.isDigit (c :: more ++ rest) = false := by rcases hc with rfl | rfl <;> rfl
  rw [heq, List.append_assoc, argName?_of_digits hne hdigits hend, List.cons_append]
  rcases hc with rfl | rfl
  · rfl
  · exact if_pos hnext

/-- **An argument without a name is not read as one with a name.** -/
theorem argName?_plain {t : Term} (h : Plain t) (hrest : Separate rest) : argName? (t.chars false ++ rest) = none := by
  cases h with
  | const h =>
    cases h with
    | bool b => cases b <;> exact argName?_word (by decide) hrest
    | int n => exact argName?_numeral hrest
    | null => exact argName?_word (by decide) hrest
    | @timespan d _ =>
      rw [chars_const, Value.toList_display_timespan]
      exact argName?_timespan d
    | string _ =>
      rw [chars_const, Value.toList_display_string]
      rfl
  | var hne h =>
    simp only [chars, closed, varChars, Bool.false_eq_true, if_false]
    split
    · exact argName?_word (by decide) hrest
    · rfl
  | nil => rfl
  | cell _ _ =>
    rw [chars_cell]
    rfl
  | compound hfunctor _ hne _ _ =>
    rw [chars_of_args hfunctor hne, List.append_assoc, argName?_of_identifier hfunctor rfl]
    rfl

end ArgName

/-! ## Lists and arguments -/

def itemsAfter (fuel : Nat) (vars : VarTable) (done : List Term) :
    List Char → Except Stop (Term × VarTable × List Char)
  | ',' :: rest => readItems fuel vars done rest
  | ']' :: rest => .ok (list done.reverse .nil, vars, rest)
  | '|' :: rest =>
    match read fuel vars rest with
    | .error e => .error e
    | .ok (tail, vars, rest) =>
      match Text.trimStart rest with
      | ']' :: rest => .ok (list done.reverse tail, vars, rest)
      | rest => .error ⟨.unclosedTail, rest, vars⟩
  | rest => .error ⟨.noItemEnd, rest, vars⟩

def argsAfter (fuel : Nat) (vars : VarTable) (done : List (Arg Term)) :
    List Char → Except Stop (List (Arg Term) × VarTable × List Char)
  | ',' :: rest => readArgList fuel vars done rest
  | ')' :: rest => .ok (done.reverse, vars, rest)
  | c :: rest => .error ⟨.noArgumentEnd c, c :: rest, vars⟩
  | [] => .error ⟨.unclosedCall, [], vars⟩

theorem readItems_of_read {t : Term} {done : List Term} (h : read fuel vars cs = .ok (t, vars', rest)) :
    readItems (fuel + 1) vars done cs = itemsAfter fuel vars' (t :: done) (Text.trimStart rest) := by
  rw [readItems, h]
  rfl

theorem readArgList_of_name {name : String} {t : Term} {value : List Char} {done : List (Arg Term)}
    (hname : argName? (Text.trimStart cs) = some (name, value)) (h : read fuel vars value = .ok (t, vars', rest)) :
    readArgList (fuel + 1) vars done cs = argsAfter fuel vars' (⟨some name, t⟩ :: done) (Text.trimStart rest) := by
  rw [readArgList, hname]
  dsimp only
  rw [h]
  rfl

theorem readArgList_of_position {t : Term} {done : List (Arg Term)} (hname : argName? (Text.trimStart cs) = none)
    (h : read fuel vars cs = .ok (t, vars', rest)) :
    readArgList (fuel + 1) vars done cs = argsAfter fuel vars' (⟨none, t⟩ :: done) (Text.trimStart rest) := by
  rw [readArgList, hname]
  dsimp only
  rw [h]
  rfl

theorem list_reverse_cons (done : List Term) (head tail : Term) :
    list (head :: done).reverse tail = list done.reverse (cell head tail) := by
  rw [list, List.reverse_cons, List.foldr_append]
  rfl

/-- **The term is read back wherever it stands on its own.**  What is left is what followed it, blanks apart. -/
def ReadBack (t : Term) : Prop := ∀ ⦃fuel : Nat⦄ ⦃vars vars' : VarTable⦄ ⦃cs rest : List Char⦄,
  3 * (t.chars false).length ≤ fuel → vars.number? t.mentions = some vars' →
    Text.trimStart cs = t.chars false ++ rest → Separate rest →
      ∃ rest', read fuel vars cs = .ok (t, vars', rest') ∧ Text.trimStart rest' = Text.trimStart rest

/-- **The term is read back behind the items of a list** that it ends. -/
def TailReadBack (t : Term) : Prop := ∀ ⦃fuel : Nat⦄ ⦃vars vars' : VarTable⦄ ⦃done : List Term⦄ ⦃rest : List Char⦄,
  3 * (t.chars true).length ≤ fuel → vars.number? t.mentions = some vars' →
    itemsAfter fuel vars done (Text.trimStart (t.chars true ++ rest)) = .ok (list done.reverse t, vars', rest)

theorem trimStart_plain {t : Term} (h : Plain t) (rest : List Char) :
    Text.trimStart (t.chars false ++ rest) = t.chars false ++ rest := trimStart_of_opens (startsWith_append _ h.opens)

theorem readArgList_arg {a : Arg Term} {done : List (Arg Term)} (hname : ∀ name ∈ a.name, IsLabel name.toList)
    (ha : Plain a.value) (hread : ReadBack a.value) (hfuel : 3 * (a.value.chars false).length ≤ fuel)
    (hnumber : vars.number? a.value.mentions = some vars')
    (hcs : Text.trimStart cs = nameChars a.name ++ (a.value.chars false ++ rest)) (hrest : Separate rest) :
    readArgList (fuel + 1) vars done cs = argsAfter fuel vars' (a :: done) (Text.trimStart rest) := by
  obtain ⟨name, value⟩ := a
  cases name with
  | none =>
    obtain ⟨rest', hvalue, hrest'⟩ := hread hfuel hnumber hcs hrest
    have hnone : argName? (Text.trimStart cs) = none := hcs ▸ argName?_plain ha hrest
    rw [readArgList_of_position hnone hvalue, hrest']
  | some name =>
    have hvalue : Text.trimStart (' ' :: (value.chars false ++ rest)) = value.chars false ++ rest :=
      trimStart_plain ha rest
    obtain ⟨rest', hvalue, hrest'⟩ := hread hfuel hnumber hvalue hrest
    have hsome : argName? (Text.trimStart cs) = some (name, ' ' :: (value.chars false ++ rest)) := by
      rw [hcs, nameChars, List.append_assoc]
      have hlabel := argName?_label (hname name rfl) (value.chars false ++ rest)
      rwa [String.ofList_toList] at hlabel
    rw [readArgList_of_name hsome hvalue, hrest']

/-- **Arguments are read back** up to the closing bracket. -/
theorem readArgList_argChars : ∀ {args done : List (Arg Term)} {fuel : Nat} {vars vars' : VarTable}
    {cs rest : List Char}, args ≠ [] → (∀ a ∈ args, ∀ name ∈ a.name, IsLabel name.toList) →
    (∀ a ∈ args, Plain a.value) → (∀ a ∈ args, ReadBack a.value) → 3 * (argChars args).length < fuel →
    vars.number? (mentionsOf args) = some vars' → Text.trimStart cs = argChars args ++ ')' :: rest →
    readArgList fuel vars done cs = .ok (done.reverse ++ args, vars', rest)
  | [], _, _, _, _, _, _, hne, _, _, _, _, _, _ => absurd rfl hne
  | a :: args, done, fuel, vars, vars', cs, rest, _, hnames, hargs, hread, hfuel, hnumber, hcs => by
    obtain ⟨vars₁, hfirst, hnumber⟩ := VarTable.number?_append hnumber
    obtain ⟨fuel, rfl⟩ : ∃ n, fuel = n + 1 := ⟨fuel - 1, by omega⟩
    have hname := hnames a (by simp)
    have ha := hargs a (by simp)
    have hreada := hread a (by simp)
    by_cases hne : args = []
    · subst hne
      cases hnumber
      have hlength : (argChars [a]).length = (nameChars a.name).length + (a.value.chars false).length :=
        List.length_append
      rw [readArgList_arg hname ha hreada (by omega) hfirst (hcs.trans (List.append_assoc ..)) (Separate.close rest)]
      exact congrArg (fun args => Except.ok (args, _, rest)) List.reverse_cons
    · rw [argChars_cons a hne] at hcs hfuel
      simp only [List.length_append, List.length_cons] at hfuel
      rw [List.append_assoc, List.append_assoc, List.cons_append] at hcs
      have hrest := opens_argChars hne (fun b hb => hnames b (by simp [hb])) fun b hb => hargs b (by simp [hb])
      rw [readArgList_arg hname ha hreada (by omega) hfirst hcs (Separate.comma _)]
      have hnext : readArgList fuel vars₁ (a :: done) (' ' :: (argChars args ++ ')' :: rest)) =
          .ok ((a :: done).reverse ++ args, vars', rest) :=
        readArgList_argChars hne (fun b hb => hnames b (by simp [hb])) (fun b hb => hargs b (by simp [hb]))
          (fun b hb => hread b (by simp [hb])) (by omega) hnumber (trimStart_of_opens (startsWith_append _ hrest))
      rw [List.reverse_cons, List.append_assoc] at hnext
      exact hnext

/-! ## Terms -/

theorem exists_fuel {t : Term} (h : Plain t) (hfuel : 3 * (t.chars false).length ≤ fuel) : ∃ n, fuel = n + 1 := by
  have hlength : 0 < (t.chars false).length := List.length_pos_iff.2 (startsWith_ne_nil h.opens)
  exact ⟨fuel - 1, by omega⟩

theorem readBack_word {v : Value} (hv : v.Plain) (hname : IsIdentifier v.display.toList)
    (hanonymous : v.display.toList ≠ ['_']) (hword : word v.display.toList = v) : ReadBack (.const v) := by
  intro fuel vars vars' cs rest hfuel hnumber hcs hrest
  obtain ⟨fuel, rfl⟩ := exists_fuel (.const hv) hfuel
  cases hnumber
  refine ⟨Text.trimStart rest, ?_, Text.trimStart_trimStart rest⟩
  rw [read_identifier hname hanonymous hrest.word hcs, wordAfter_of_sign hrest.sign, hword]

theorem readBack_const {v : Value} (hv : v.Plain) : ReadBack (.const v) := by
  cases hv with
  | bool b => cases b <;> exact readBack_word (.bool _) (by decide) (by decide) rfl
  | null => exact readBack_word .null (by decide) (by decide) rfl
  | int n =>
    intro fuel vars vars' cs rest hfuel hnumber hcs hrest
    obtain ⟨fuel, rfl⟩ := exists_fuel (.const (.int n)) hfuel
    cases hnumber
    exact ⟨rest, read_number hcs (opensNumber_numeral n.toInt) (number_int n hrest.number), rfl⟩
  | @timespan d h =>
    intro fuel vars vars' cs rest hfuel hnumber hcs hrest
    obtain ⟨fuel, rfl⟩ := exists_fuel (.const (.timespan h)) hfuel
    cases hnumber
    rw [chars_const, Value.toList_display_timespan] at hcs
    have hstart := startsWith_imp d.isDigit_chars fun _ => opensNumber_of_isDigit
    exact ⟨rest, read_number hcs hstart (number_timespan h hrest.number), rfl⟩
  | @string s h =>
    intro fuel vars vars' cs rest hfuel hnumber hcs hrest
    obtain ⟨fuel, rfl⟩ := exists_fuel (.const (.string h)) hfuel
    cases hnumber
    rw [chars_const, Value.toList_display_string, List.cons_append, List.append_assoc, List.singleton_append] at hcs
    refine ⟨rest, (read_text hcs h).trans ?_, rfl⟩
    rw [String.ofList_toList]

theorem readBack_var {name : String} {slot : Nat} (hne : name.toList ≠ [])
    (h : ∀ c ∈ name.toList, Text.isIdentRest c = true) : ReadBack (.var name slot) := by
  intro fuel vars vars' cs rest hfuel hnumber hcs hrest
  obtain ⟨fuel, rfl⟩ := exists_fuel (.var hne h) hfuel
  exact ⟨rest, read_var hne h (VarTable.number?_singleton hnumber) hrest.word hcs, rfl⟩

theorem readBack_nil : ReadBack .nil := by
  intro fuel vars vars' cs rest hfuel hnumber hcs hrest
  obtain ⟨fuel, rfl⟩ := exists_fuel .nil hfuel
  cases hnumber
  refine ⟨rest, ?_, rfl⟩
  rw [read, hcs]
  rfl

theorem readBack_compound {functor : String} {args : List (Arg Term)} (hfunctor : IsIdentifier functor.toList)
    (hanonymous : functor ≠ "_") (hne : args ≠ [])
    (hnames : ∀ a ∈ args, ∀ name ∈ a.name, IsLabel name.toList) (hargs : ∀ a ∈ args, Plain a.value)
    (hread : ∀ a ∈ args, ReadBack a.value) : ReadBack (.compound functor args) := by
  intro fuel vars vars' cs rest hfuel hnumber hcs hrest
  have hopens := startsWith_append (')' :: rest) (opens_argChars hne hnames hargs)
  rw [chars_of_args hfunctor hne] at hfuel hcs
  simp only [List.length_append, List.length_cons, List.length_nil] at hfuel
  rw [List.append_assoc, List.cons_append, List.append_assoc] at hcs
  -- one step for the functor, one for the opening bracket; what is left is enough for the arguments
  obtain ⟨fuel, rfl⟩ : ∃ n, fuel = n + 2 := ⟨fuel - 2, by omega⟩
  have hword : functor.toList ≠ ['_'] := fun heq => hanonymous (String.toList_inj.1 heq)
  have hlist : readArgList fuel vars [] (argChars args ++ ')' :: rest) = .ok (args, vars', rest) :=
    readArgList_argChars hne hnames hargs hread (by omega) hnumber (trimStart_of_opens hopens)
  have hcall : readArgs (fuel + 1) vars (argChars args ++ ')' :: rest) = .ok (args, vars', rest) := by
    rw [readArgs, trimStart_of_opens hopens]
    split
    · rename_i heq
      rw [heq] at hopens
      cases hopens
    · exact hlist
  refine ⟨rest, ?_, rfl⟩
  rw [read_identifier hfunctor hword rfl hcs]
  refine Eq.trans ?_ (congrArg (fun name => Except.ok (compound name args, vars', rest)) String.ofList_toList)
  exact congrArg (fun r => match r with
    | Except.ok (args, vars, rest) => Except.ok (compound (String.ofList functor.toList) args, vars, rest)
    | .error e => .error e) hcall

theorem separate_tail {t : Term} (h : Plain t) (rest : List Char) : Separate (t.chars true ++ rest) := by
  cases h with
  | const _ => exact Separate.bar _
  | var _ _ => exact Separate.bar _
  | nil => exact Separate.closeList _
  | cell _ _ =>
    rw [chars_cell]
    exact Separate.comma _
  | compound hfunctor _ _ _ _ =>
    rw [chars_compound hfunctor.ne_cellFunctor]
    exact Separate.bar _

theorem tailReadBack_of_bar {t : Term} (h : Plain t) (hchars : t.chars true = closed true (t.chars false))
    (hread : ReadBack t) : TailReadBack t := by
  intro fuel vars vars' done rest hfuel hnumber
  have hfits : 3 * (t.chars false).length ≤ fuel := by
    simp only [hchars, closed, if_true, List.length_append, List.length_cons] at hfuel
    omega
  have hskip : Text.trimStart (' ' :: (t.chars false ++ ']' :: rest)) = t.chars false ++ ']' :: rest :=
    trimStart_plain h _
  obtain ⟨rest', ht, hrest'⟩ := hread hfits hnumber hskip (Separate.closeList rest)
  have hbar : Text.trimStart (t.chars true ++ rest) = '|' :: ' ' :: (t.chars false ++ ']' :: rest) := by
    rw [hchars]
    exact congrArg (fun cs => '|' :: ' ' :: cs) (List.append_assoc ..)
  rw [hbar, itemsAfter, ht]
  dsimp only
  rw [hrest']
  rfl

theorem readItems_cell {head tail : Term} {done : List Term} (hhead : ReadBack head) (htail : TailReadBack tail)
    (hplain : Plain tail) (hfuel : 3 * ((head.chars false).length + (tail.chars true).length) ≤ fuel)
    (hnumber : vars.number? (cell head tail).mentions = some vars')
    (hcs : Text.trimStart cs = head.chars false ++ (tail.chars true ++ rest)) :
    readItems (fuel + 1) vars done cs = .ok (list done.reverse (cell head tail), vars', rest) := by
  obtain ⟨vars₁, hfirst, hnumber⟩ := VarTable.number?_append hnumber
  have hheadfuel : 3 * (head.chars false).length ≤ fuel := by omega
  have htailfuel : 3 * (tail.chars true).length ≤ fuel := by omega
  obtain ⟨rest', hread, hrest'⟩ := hhead hheadfuel hfirst hcs (separate_tail hplain rest)
  rw [readItems_of_read hread, hrest', htail htailfuel, list_reverse_cons]
  exact (congrArg _ (List.append_nil _)).symm.trans hnumber

theorem read_list {items : List Char} (hcs : Text.trimStart cs = '[' :: items) (hopens : startsWith opens items = true) :
    read (fuel + 1) vars cs = readItems fuel vars [] items := by
  have hquote : Text.isQuote '[' = false := rfl
  have hvar : ¬ '[' = '?' := by decide
  have hanonymous : (decide ('[' = '_') && !startsWith Text.isIdentRest items) = false := rfl
  rw [read, hcs]
  simp only [hvar, hanonymous, hquote, if_false, if_true, Bool.false_eq_true]
  rw [trimStart_of_opens hopens]
  split
  · cases hopens
  · rfl

theorem readBack_cell {head tail : Term} (hplainHead : Plain head) (hplainTail : Plain tail) (hhead : ReadBack head)
    (htail : TailReadBack tail) : ReadBack (cell head tail) := by
  intro fuel vars vars' cs rest hfuel hnumber hcs _
  rw [chars_cell] at hfuel hcs
  simp only [Bool.false_eq_true, if_false, List.length_append, List.length_singleton] at hfuel
  simp only [Bool.false_eq_true, if_false, List.append_assoc, List.singleton_append] at hcs
  obtain ⟨fuel, rfl⟩ : ∃ n, fuel = n + 2 := ⟨fuel - 2, by omega⟩
  have hitems : readItems (fuel + 1) vars [] (head.chars false ++ (tail.chars true ++ rest)) =
      .ok (cell head tail, vars', rest) :=
    readItems_cell hhead htail hplainTail (by omega) hnumber (trimStart_plain hplainHead _)
  exact ⟨rest, (read_list hcs (startsWith_append _ hplainHead.opens)).trans hitems, rfl⟩

theorem tailReadBack_cell {head tail : Term} (hplainHead : Plain head) (hplainTail : Plain tail)
    (hhead : ReadBack head) (htail : TailReadBack tail) : TailReadBack (cell head tail) := by
  intro fuel vars vars' done rest hfuel hnumber
  rw [chars_cell] at hfuel ⊢
  simp only [if_true, List.length_append, List.length_cons, List.length_nil] at hfuel
  obtain ⟨fuel, rfl⟩ : ∃ n, fuel = n + 1 := ⟨fuel - 1, by omega⟩
  have hskip : Text.trimStart (' ' :: (head.chars false ++ (tail.chars true ++ rest))) =
      head.chars false ++ (tail.chars true ++ rest) := trimStart_plain hplainHead _
  rw [List.append_assoc, List.append_assoc]
  exact readItems_cell hhead htail hplainTail (by omega) hnumber hskip

/-- **A plain term is read back wherever its text stands.** -/
theorem Plain.readBack {t : Term} (h : Plain t) : ReadBack t ∧ TailReadBack t := by
  induction h with
  | const h =>
    have hread := readBack_const h
    exact ⟨hread, tailReadBack_of_bar (.const h) rfl hread⟩
  | @var name slot hne h =>
    have hread : ReadBack (.var name slot) := readBack_var hne h
    exact ⟨hread, tailReadBack_of_bar (.var hne h) rfl hread⟩
  | nil =>
    refine ⟨readBack_nil, fun fuel vars vars' done rest _ hnumber => ?_⟩
    cases hnumber
    rfl
  | cell hhead htail ihhead ihtail =>
    exact ⟨readBack_cell hhead htail ihhead.1 ihtail.2, tailReadBack_cell hhead htail ihhead.1 ihtail.2⟩
  | @compound functor args hfunctor hanonymous hne hnames hargs ihargs =>
    have hread := readBack_compound hfunctor hanonymous hne hnames hargs fun a ha => (ihargs a ha).1
    exact ⟨hread, tailReadBack_of_bar (.compound hfunctor hanonymous hne hnames hargs)
      (chars_compound_tail hfunctor args) hread⟩

theorem Plain.parseChars {t : Term} (h : Plain t) (hnumber : vars.number? t.mentions = some vars') :
    Term.parseChars vars (t.chars false) = .ok (t, vars') := by
  have hskip : Text.trimStart (t.chars false) = t.chars false ++ [] := by
    rw [List.append_nil, trimStart_of_opens h.opens]
  have hfuel : 3 * (t.chars false).length ≤ 3 * (t.chars false).length + 4 := by omega
  obtain ⟨rest', hread, hrest'⟩ := h.readBack.1 hfuel hnumber hskip Separate.nil
  rw [Term.parseChars, readAll, hread]
  dsimp only
  rw [hrest']
  rfl

/-- **Terms survive printing.** -/
theorem parse_display {t : Term} (h : Plain t) {vars vars' : VarTable}
    (hnumber : vars.number? t.mentions = some vars') : parse vars t.display = .ok (t, vars') := by
  rw [parse, display, String.toList_ofList]
  exact h.parseChars hnumber

/-- A call with names and positions, a list with a tail, a text with escapes, a time span and anonymous variables. -/
def sending : Term := .compound "send" [⟨some "to", .var "Who" 0⟩,
  ⟨none, cell (.const (.int (-2))) (cell (.var "_" 1) (.var "Rest" 2))⟩, ⟨some "07", .const (.string "a\"b\n")⟩,
  ⟨none, .const (.timespan ⟨93784005000000, by decide⟩)⟩, ⟨none, .compound "twice" [⟨none, .var "_" 3⟩]⟩]

theorem plain_sending : Plain sending := by
  have hanonymous (slot : Nat) : Plain (.var "_" slot) := .var (by decide) (List.all_eq_true.1 rfl)
  have hwho : Plain (.var "Who" 0) := .var (by decide) (List.all_eq_true.1 rfl)
  have hlist : Plain (cell (.const (.int (-2))) (cell (.var "_" 1) (.var "Rest" 2))) :=
    .cell (.const (.int _)) (.cell (hanonymous 1) (.var (by decide) (List.all_eq_true.1 rfl)))
  have htext : Plain (.const (.string "a\"b\n")) := .const (Value.plain_of_all (by decide))
  have hspan : Plain (.const (.timespan ⟨93784005000000, by decide⟩)) := .const (.timespan (by decide))
  have htwice : Plain (.compound "twice" [⟨none, .var "_" 3⟩]) :=
    .compound (by decide) (by decide) (by simp) (by decide) (by simp [hanonymous])
  exact .compound (by decide) (by decide) (by simp) (by decide) (by simp [hwho, hlist, htext, hspan, htwice])

theorem parse_display_sending :
    sending.Plain ∧ VarTable.empty.number? sending.mentions = some ⟨["Who", "_", "Rest", "_"]⟩ ∧
      sending.display = "send(to: ?Who, [-2, _ | ?Rest], 07: \"a\\\"b\\n\", 1.02:03:04.005, twice(_))" ∧
      parse .empty sending.display = .ok (sending, ⟨["Who", "_", "Rest", "_"]⟩) :=
  ⟨plain_sending, by decide, by decide +kernel, parse_display plain_sending (by decide)⟩

end Remedy.Term
