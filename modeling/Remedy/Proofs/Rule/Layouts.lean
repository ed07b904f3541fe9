import Remedy.Proofs.Text.Characters
import Remedy.Rule.Layout
/-!
# Proofs.Rule.Layouts — how rules are laid out in lines does not matter

A rule is written as segments, each on a line of its own (`Spread`), and a file as rules, with lines between them and
inside them that do not count (`Layout`).  A line that another follows leaves the rule ready for the next segment after
exactly one space, whether it ends with a backslash or not (`take_open`); the line with the full stop gives the rule
(`take_closed`).  So the text of a rule is its segments with single spaces between them, whatever the indentation, the
backslashes, the blank lines and the comments, and its line is the line of its first segment (`split_layout`).
-/
namespace Remedy

namespace Text

theorem trim_append_of_blank {cs after : List Char} (h : ∀ c ∈ after, isBlank c = true) :
    trim (cs ++ after) = trim cs := by
  unfold trim trimStart
  rw [List.dropWhile_append]
  split
  · rename_i hblank
    rw [List.isEmpty_iff.1 hblank, List.dropWhile_eq_nil_iff.2 h]
  · rw [trimEnd, List.reverse_append, List.dropWhile_append_of_pos fun c hc => h c (List.mem_reverse.1 hc), trimEnd]

theorem trimEnd_append {cs : List Char} (h : Term.startsWith (!isBlank ·) cs.reverse = true) (rest : List Char) :
    trimEnd (cs ++ rest) = cs ++ trimEnd rest := by
  have hsolid : cs.reverse.dropWhile isBlank = cs.reverse := by simpa using dropWhile_tight h []
  unfold trimEnd
  rw [List.reverse_append, List.dropWhile_append]
  split
  · rename_i hblank
    rw [hsolid, List.isEmpty_iff.1 hblank, List.reverse_reverse, List.reverse_nil, List.append_nil]
  · rw [List.reverse_append, List.reverse_reverse]

theorem trim_withoutReturn (line : List Char) : trim (withoutReturn line) = trim line := by
  unfold withoutReturn dropLast?
  cases hreverse : line.reverse with
  | nil => rfl
  | cons c rest =>
    by_cases hc : c = '\r'
    · have hline : line = rest.reverse ++ ['\r'] := by rw [← List.reverse_cons, ← hc, ← hreverse, List.reverse_reverse]
      simp only [hc, if_true, Option.getD_some]
      rw [hline, trim_append_of_blank (List.forall_mem_singleton.2 rfl)]
    · simp [hc]

theorem linesFrom_append {line more : List Char} (h : '\n' ∉ line) (soFar : List Char) :
    linesFrom soFar (line ++ '\n' :: more) = withoutReturn (soFar.reverse ++ line) :: linesFrom [] more := by
  induction line generalizing soFar with
  | nil => rw [List.nil_append, linesFrom, List.append_nil]
  | cons c line ih =>
    rw [List.mem_cons, not_or] at h
    rw [List.cons_append, linesFrom.eq_3 _ _ _ (Ne.symm h.1), ih h.2, List.reverse_cons, List.append_assoc,
      List.singleton_append]

theorem linesFrom_of_not_mem {line : List Char} (h : '\n' ∉ line) (soFar : List Char) :
    linesFrom soFar line = if (soFar.reverse ++ line).isEmpty then [] else [soFar.reverse ++ line] := by
  induction line generalizing soFar with
  | nil => simp [linesFrom]
  | cons c line ih =>
    rw [List.mem_cons, not_or] at h
    rw [linesFrom.eq_3 _ _ _ (Ne.symm h.1), ih h.2, List.reverse_cons, List.append_assoc, List.singleton_append]

theorem dropLast?_concat (c d : Char) (cs : List Char) : dropLast? c (cs ++ [d]) = if d = c then some cs else none := by
  simp [dropLast?]

theorem dropLast?_eq_none {c : Char} {cs : List Char} (h : cs.getLast? ≠ some c) : dropLast? c cs = none := by
  rw [← List.reverse_reverse cs, List.getLast?_reverse] at h
  unfold dropLast?
  cases hreverse : cs.reverse with
  | nil => rfl
  | cons d rest =>
    rw [hreverse] at h
    exact if_neg fun hd => h (congrArg some hd)

end Text

namespace Rule

/-! ## Segments and lines -/

/-- **A part of a rule that stands on a line of its own.** -/
structure IsSegment (seg : List Char) : Prop where
  tight : Text.Tight seg
  tabless : '\t' ∉ seg
  counts : ∀ rest, seg ≠ '#' :: '#' :: rest
  noSlash : seg.getLast? ≠ some '\\'

/-- **A rule in segments**, of which only the last may end with a full stop. -/
structure IsRule (segs : List (List Char)) : Prop where
  segments : ∀ seg ∈ segs, IsSegment seg
  noStop : ∀ seg ∈ segs.dropLast, seg.getLast? ≠ some '.'

abbrev Blank (cs : List Char) : Prop := ∀ c ∈ cs, Text.isBlank c = true

/-- **A line that does not count**: it is blank, or starts with `##`. -/
def Idle (line : List Char) : Prop := Blank line ∨ ∃ indent rest, Blank indent ∧ line = indent ++ '#' :: '#' :: rest

/-- **The line of a segment that another follows**, with a backslash or without. -/
inductive Open (seg : List Char) : List Char → Prop
  | ended {indent after : List Char} (hindent : Blank indent) (hafter : Blank after) :
      Open seg (indent ++ (seg ++ after))
  | continued {indent between after : List Char} (hindent : Blank indent) (hbetween : Blank between)
      (hafter : Blank after) : Open seg (indent ++ (seg ++ (between ++ ['\\']) ++ after))

/-- **The line of the last segment**, which a full stop follows. -/
inductive Closed (seg : List Char) : List Char → Prop
  | stopped {indent between after : List Char} (hindent : Blank indent) (hbetween : Blank between)
      (hafter : Blank after) : Closed seg (indent ++ (seg ++ (between ++ ['.']) ++ after))

/-- **The lines of a rule**; those that do not count may stand between any two. -/
inductive Spread : List (List Char) → List (List Char) → Prop
  | last {seg line : List Char} (h : Closed seg line) : Spread [seg] [line]
  | more {seg next line : List Char} {segs idle lines : List (List Char)} (h : Open seg line)
      (hidle : ∀ line ∈ idle, Idle line) (hrest : Spread (next :: segs) lines) :
      Spread (seg :: next :: segs) (line :: (idle ++ lines))

/-- **The lines of rules from line `n` on**, and the lines on which the rules start. -/
inductive Layout : Nat → List (List (List Char)) → List (List Char) → List Nat → Prop
  | done {n : Nat} {idle : List (List Char)} (hidle : ∀ line ∈ idle, Idle line) : Layout n [] idle []
  | rule {n : Nat} {segs idle lines more : List (List Char)} {rules : List (List (List Char))} {starts : List Nat}
      (hidle : ∀ line ∈ idle, Idle line) (hrule : Spread segs lines)
      (hrest : Layout (n + idle.length + lines.length) rules more starts) :
      Layout n (segs :: rules) (idle ++ (lines ++ more)) ((n + idle.length) :: starts)

def joined (segs : List (List Char)) : List Char := List.intercalate [' '] segs

variable {seg raw line indent between after pre : List Char} {segs idle lines : List (List Char)} {p : Pending}
  {n start : Nat}

/-! ## One line -/

theorem content?_of_idle (h : Idle line) : content? line = none := by
  unfold content?
  rcases h with h | ⟨indent, rest, hindent, rfl⟩
  · have hnone : Text.trim line = [] := by
      rw [Text.trim, Text.trimStart, List.dropWhile_eq_nil_iff.2 h]
      rfl
    simp [hnone]
  · have hmark : Text.startsWith ['#', '#'] (Text.trim (indent ++ '#' :: '#' :: rest)) = true := by
      have htrim : Text.trimEnd (['#', '#'] ++ rest) = ['#', '#'] ++ Text.trimEnd rest := Text.trimEnd_append rfl rest
      have hstart : Text.trimStart (indent ++ '#' :: '#' :: rest) = ['#', '#'] ++ rest :=
        (List.dropWhile_append_of_pos hindent).trans rfl
      rw [Text.trim, hstart, htrim]
      rfl
    simp [hmark]

theorem content?_of_tight (hindent : Blank indent) (hafter : Blank after) (htight : Text.Tight line)
    (hmark : Text.startsWith ['#', '#'] line = false) :
    content? (indent ++ (line ++ after)) = some (line.map fun c => if c = '\t' then ' ' else c) := by
  have hne : line.isEmpty = false := List.isEmpty_eq_false_iff.2 htight.ne_nil
  simp [content?, Text.trim_tight htight hindent hafter, hne, hmark]

theorem IsSegment.map_eq (h : IsSegment seg) : (seg.map fun c => if c = '\t' then ' ' else c) = seg := by
  refine (List.map_congr_left fun c hc => ?_).trans (List.map_id seg)
  exact if_neg fun (heq : c = '\t') => h.tabless (heq ▸ hc)

theorem blank_map (h : Blank between) : Blank (between.map fun c => if c = '\t' then ' ' else c) := by
  refine List.forall_mem_map.2 fun c hc => ?_
  split
  · rfl
  · exact h c hc

theorem IsSegment.startsWith (h : IsSegment seg) {more : List Char} (hmore : more.head? ≠ some '#') :
    Text.startsWith ['#', '#'] (seg ++ more) = false := by
  have hne := h.tight.ne_nil
  have hcounts := h.counts
  match seg, more with
  | [c], [] => simp [Text.startsWith, Text.after?]
  | [c], d :: more =>
    have hd : '#' ≠ d := fun heq => hmore (congrArg some heq.symm)
    simp [Text.startsWith, Text.after?, hd]
  | c :: d :: seg, more =>
    have hcd : ¬ ('#' = c ∧ '#' = d) := fun heq => hcounts seg (by rw [← heq.1, ← heq.2])
    simp only [List.cons_append, Text.startsWith, Text.after?]
    split_ifs with hc hd
    · exact absurd ⟨hc, hd⟩ hcd
    · rfl
    · rfl

theorem content?_marked (mark : Char) (hsolid : Text.isBlank mark = false) (hmark : mark ≠ '#')
    (hseg : IsSegment seg) (hindent : Blank indent) (hbetween : Blank between) (hafter : Blank after) :
    ∃ spaces, Blank spaces ∧
      content? (indent ++ (seg ++ (between ++ [mark]) ++ after)) = some (seg ++ spaces ++ [mark]) := by
  have htight : Text.Tight (seg ++ (between ++ [mark])) :=
    ⟨Term.startsWith_append _ hseg.tight.start, by simp [Term.startsWith, hsolid]⟩
  have hhead : (between ++ [mark]).head? ≠ some '#' := by
    cases between with
    | nil => simpa using hmark
    | cons c between =>
      rintro ⟨⟩
      exact absurd (hbetween '#' (by simp)) (by decide)
  have htab : mark ≠ '\t' := by
    rintro rfl
    cases hsolid
  refine ⟨_, blank_map hbetween, ?_⟩
  rw [content?_of_tight hindent hafter htight (hseg.startsWith hhead), List.map_append, List.map_append, hseg.map_eq,
    List.append_assoc, List.map_singleton, if_neg htab]

theorem trimEnd_segment (hseg : IsSegment seg) (h : Blank between) : Text.trimEnd (seg ++ between) = seg := by
  have hnone : Text.trimEnd between = [] := by
    rw [Text.trimEnd, List.dropWhile_eq_nil_iff.2 fun c hc => h c (List.mem_reverse.1 hc)]
    rfl
  rw [Text.trimEnd_append hseg.tight.finish, hnone, List.append_nil]

/-! ## A rule line by line -/

/-- **The line of a segment that another follows** adds the segment, and the rule is ready for the next one after one
space. -/
theorem take_open (h : Open seg raw) (hseg : IsSegment seg) (hstop : seg.getLast? ≠ some '.') :
    ∃ line, content? raw = some line ∧ ∀ {p : Pending} {n start : Nat} {pre : List Char}, p.opened n = ⟨pre, start⟩ →
      ∃ p', p.take n line = (p', none) ∧ ∀ m, p'.opened m = ⟨pre ++ (seg ++ [' ']), start⟩ := by
  cases h with
  | @ended indent after hindent hafter =>
    refine ⟨seg, ?_, fun {p n start pre} hp => ⟨⟨pre ++ seg, start⟩, ?_, fun m => ?_⟩⟩
    · have hmark : Text.startsWith ['#', '#'] (seg ++ []) = false := hseg.startsWith nofun
      rw [List.append_nil] at hmark
      rw [content?_of_tight hindent hafter hseg.tight hmark, hseg.map_eq]
    · simp [Pending.take, hp, Text.dropLast?_eq_none hseg.noSlash, Text.dropLast?_eq_none hstop]
    · have hspace : Text.endsWith [' '] (pre ++ seg) = false := by
        have hfinish := Term.finish_append pre hseg.tight.finish
        cases hreverse : (pre ++ seg).reverse with
        | nil => simp [Text.endsWith, Text.startsWith, Text.after?, hreverse]
        | cons c cs =>
          have hc : ' ' ≠ c := by
            rintro rfl
            rw [hreverse] at hfinish
            cases hfinish
          simp [Text.endsWith, Text.startsWith, Text.after?, hreverse, hc]
      simp [Pending.opened, hseg.tight.ne_nil, hspace]
  | @continued indent between after hindent hbetween hafter =>
    obtain ⟨spaces, hspaces, hcontent⟩ := content?_marked '\\' rfl (by decide) hseg hindent hbetween hafter
    refine ⟨_, hcontent, fun {p n start pre} hp => ⟨⟨pre ++ (seg ++ [' ']), start⟩, ?_, fun m => ?_⟩⟩
    · have hslash : Text.dropLast? '\\' (seg ++ spaces ++ ['\\']) = some (seg ++ spaces) := Text.dropLast?_concat _ _ _
      simp only [Pending.take, hp, hslash, trimEnd_segment hseg hspaces]
      rw [List.append_assoc]
    · simp [Pending.opened, Text.endsWith, Text.startsWith, Text.after?]

/-- **The line of the last segment** gives the rule. -/
theorem take_closed (h : Closed seg raw) (hseg : IsSegment seg) :
    ∃ line, content? raw = some line ∧ ∀ {p : Pending} {n start : Nat} {pre : List Char}, p.opened n = ⟨pre, start⟩ →
      p.take n line = (⟨[], start⟩, some ⟨String.ofList (Text.trim (pre ++ seg)), start⟩) := by
  obtain ⟨hindent, hbetween, hafter⟩ := h
  obtain ⟨spaces, hspaces, hcontent⟩ := content?_marked '.' rfl (by decide) hseg hindent hbetween hafter
  refine ⟨_, hcontent, fun {p n start pre} hp => ?_⟩
  have hslash : Text.dropLast? '\\' (seg ++ spaces ++ ['.']) = none := Text.dropLast?_concat _ _ _
  have hstop : Text.dropLast? '.' (seg ++ spaces ++ ['.']) = some (seg ++ spaces) := Text.dropLast?_concat _ _ _
  simp only [Pending.take, hp, hslash, hstop, trimEnd_segment hseg hspaces]

theorem ofLines_idle (h : ∀ line ∈ idle, Idle line) (p : Pending) (n : Nat) (more : List (List Char)) :
    ofLines p n (idle ++ more) = ofLines p (n + idle.length) more := by
  induction idle generalizing n with
  | nil => rfl
  | cons line idle ih =>
    rw [List.cons_append, ofLines, content?_of_idle (h line (by simp))]
    rw [ih (fun line hline => h line (by simp [hline])), List.length_cons, Nat.add_assoc, Nat.add_comm 1]

theorem joined_cons (seg next : List Char) (segs : List (List Char)) :
    joined (seg :: next :: segs) = seg ++ [' '] ++ joined (next :: segs) := by
  simp [joined]

/-- **The lines of a rule** give its segments with single spaces between them, after what has been read before. -/
theorem ofLines_spread (h : Spread segs lines) (more : List (List Char)) :
    ∀ {p : Pending} {n start : Nat} {pre : List Char}, IsRule segs → p.opened n = ⟨pre, start⟩ →
      ofLines p n (lines ++ more) = (ofLines ⟨[], start⟩ (n + lines.length) more).map
        (⟨String.ofList (Text.trim (pre ++ joined segs)), start⟩ :: ·) := by
  induction h with
  | @last seg line h =>
    intro p n start pre hrule hp
    obtain ⟨line', hcontent, htake⟩ := take_closed h (hrule.segments seg (by simp))
    rw [List.singleton_append, ofLines, hcontent]
    simp only [htake hp]
    rw [joined, List.intercalate_singleton]
    rfl
  | @more seg next line segs idle lines h hidle hrest ih =>
    intro p n start pre hrule hp
    obtain ⟨line', hcontent, htake⟩ := take_open h (hrule.segments seg (by simp)) (hrule.noStop seg (by simp))
    obtain ⟨p', htake, hopened⟩ := htake hp
    have hrule' : IsRule (next :: segs) :=
      ⟨fun seg hseg => hrule.segments seg (by simp [hseg]), fun seg hseg => hrule.noStop seg (by simp [hseg])⟩
    rw [List.cons_append, ofLines, hcontent]
    simp only [htake]
    rw [List.append_assoc, ofLines_idle hidle, ih hrule' (hopened _), joined_cons, List.append_assoc, List.length_cons,
      List.length_append]
    simp only [List.append_assoc]
    congr 2
    omega

theorem tight_joined : ∀ {segs : List (List Char)}, segs ≠ [] → (∀ seg ∈ segs, IsSegment seg) → Text.Tight (joined segs)
  | [], hne, _ => absurd rfl hne
  | [seg], _, h => by simpa [joined] using (h seg (by simp)).tight
  | seg :: next :: segs, _, h => by
    have hrest := tight_joined (List.cons_ne_nil next segs) fun seg hseg => h seg (by simp [hseg])
    rw [joined_cons, List.append_assoc]
    exact ⟨Term.startsWith_append _ (h seg (by simp)).tight.start, by
      rw [← List.append_assoc]
      exact Term.finish_append _ hrest.finish⟩

theorem Spread.ne_nil (h : Spread segs lines) : segs ≠ [] := by
  cases h <;> exact List.cons_ne_nil _ _

/-! ## Files -/

theorem Layout.length_eq {rules : List (List (List Char))} {starts : List Nat} (h : Layout n rules lines starts) :
    rules.length = starts.length := by
  induction h with
  | done => rfl
  | rule _ _ _ ih => rw [List.length_cons, List.length_cons, ih]

theorem ofLines_layout {rules : List (List (List Char))} {starts : List Nat} (h : Layout n rules lines starts)
    (hrules : ∀ segs ∈ rules, IsRule segs) (start : Nat) : ofLines ⟨[], start⟩ n lines =
      .ok (List.zipWith (fun segs start => ⟨String.ofList (joined segs), start⟩) rules starts) := by
  induction h generalizing start with
  | @done n idle hidle =>
    have hlines := ofLines_idle hidle ⟨[], start⟩ n []
    rw [List.append_nil] at hlines
    rw [hlines]
    rfl
  | @rule n segs idle lines more rules starts hidle hrule _ ih =>
    have hsegs := hrules segs (by simp)
    rw [ofLines_idle hidle, ofLines_spread hrule more hsegs (by rfl), ih fun segs h => hrules segs (by simp [h]),
      List.nil_append, (tight_joined hrule.ne_nil hsegs.segments).trim]
    rfl

/-- The lines of a text count as the lines that it was made of, whether a carriage return stands at the end of a line
or not. -/
theorem ofLines_lines (h : ∀ line ∈ lines, '\n' ∉ line) (p : Pending) (n : Nat) :
    ofLines p n (Text.lines (List.intercalate ['\n'] lines)) = ofLines p n lines := by
  induction lines generalizing p n with
  | nil => rfl
  | cons line lines ih =>
    have hline := h line (by simp)
    cases lines with
    | nil =>
      rw [List.intercalate_singleton, Text.lines, Text.linesFrom_of_not_mem hline, List.reverse_nil, List.nil_append]
      split
      · rename_i hnil
        rw [List.isEmpty_iff.1 hnil, ofLines, ofLines]
        rfl
      · rfl
    | cons next lines =>
      have hcontent : content? (Text.withoutReturn line) = content? line := by
        rw [content?, content?, Text.trim_withoutReturn]
      have hrest := ih fun line hline => h line (by simp [hline])
      have hjoin : List.intercalate ['\n'] (line :: next :: lines) =
          line ++ '\n' :: List.intercalate ['\n'] (next :: lines) := by simp
      rw [hjoin, Text.lines, Text.linesFrom_append hline, List.reverse_nil, List.nil_append, ofLines, hcontent]
      rw [ofLines.eq_2]
      simp only [Text.lines] at hrest
      simp only [hrest]

/-- **How rules are laid out in lines does not matter**: every rule is there once and in its place, its text is its
segments with single spaces between them, and its line is the line of its first segment. -/
theorem split_layout {rules : List (List (List Char))} {starts : List Nat} (hrules : ∀ segs ∈ rules, IsRule segs)
    (h : Layout 1 rules lines starts) (hlines : ∀ line ∈ lines, '\n' ∉ line) :
    split (String.ofList (List.intercalate ['\n'] lines)) = .ok (List.zipWith
      (fun segs start => ⟨String.ofList (joined segs), start⟩) rules starts) ∧ rules.length = starts.length := by
  constructor
  · rw [split, String.toList_ofList, ofLines_lines hlines]
    exact ofLines_layout h hrules 0
  · exact h.length_eq

/-! Two rules, the first of three segments: a comment stands inside it and a blank line after it, and all ways to end a
line occur. -/

def restarting : List (List (List Char)) :=
  [["Mitigate(?Code) :-".toList, "?Code == \"FO001\",".toList, "RestartReplica()".toList], ["ok.".toList]]

def restartingLines : List (List Char) :=
  ["## restart rules".toList, " Mitigate(?Code) :- \\\t".toList, "  ## first the code".toList,
    "\t?Code == \"FO001\",\r".toList, "".toList, "    RestartReplica() . ".toList, "   ".toList, "ok..".toList,
    "".toList]

theorem restarting_rules : ∀ segs ∈ restarting, IsRule segs := by
  have hsegment {seg : List Char} (htight : Term.startsWith (!Text.isBlank ·) seg = true ∧
      Term.startsWith (!Text.isBlank ·) seg.reverse = true) (htab : '\t' ∉ seg) (hstart : seg.head? ≠ some '#')
      (hslash : seg.getLast? ≠ some '\\') : IsSegment seg :=
    ⟨⟨htight.1, htight.2⟩, htab, fun rest h => hstart (h ▸ rfl), hslash⟩
  refine List.forall_mem_cons.2 ⟨⟨?_, by decide⟩, List.forall_mem_singleton.2 ⟨?_, by decide⟩⟩
  · refine List.forall_mem_cons.2 ⟨?_, List.forall_mem_cons.2 ⟨?_, List.forall_mem_singleton.2 ?_⟩⟩ <;>
      exact hsegment (by decide) (by decide) (by decide) (by decide)
  · exact List.forall_mem_singleton.2 (hsegment (by decide) (by decide) (by decide) (by decide))

theorem restarting_layout : Layout 1 restarting restartingLines [2, 8] := by
  have blank : ∀ cs : List Char, cs.all Text.isBlank = true → Blank cs := fun _ => List.all_eq_true.1
  have hcomment : Idle "## restart rules".toList := .inr ⟨[], " restart rules".toList, blank [] rfl, rfl⟩
  have hinside : Idle "  ## first the code".toList :=
    .inr ⟨[' ', ' '], " first the code".toList, blank [' ', ' '] rfl, rfl⟩
  have hempty : Idle [] := .inl (blank _ rfl)
  have hblank : Idle "   ".toList := .inl (blank _ rfl)
  have hhead : Open "Mitigate(?Code) :-".toList " Mitigate(?Code) :- \\\t".toList :=
    show Open _ ([' '] ++ (_ ++ ([' '] ++ ['\\']) ++ ['\t'])) from .continued (blank _ rfl) (blank _ rfl) (blank _ rfl)
  have htest : Open "?Code == \"FO001\",".toList "\t?Code == \"FO001\",\r".toList :=
    show Open _ (['\t'] ++ (_ ++ ['\r'])) from .ended (blank _ rfl) (blank _ rfl)
  have hcall : Closed "RestartReplica()".toList "    RestartReplica() . ".toList :=
    show Closed _ ([' ', ' ', ' ', ' '] ++ (_ ++ ([' '] ++ ['.']) ++ [' '])) from
      .stopped (blank _ rfl) (blank _ rfl) (blank _ rfl)
  have hfact : Closed "ok.".toList "ok..".toList :=
    show Closed _ ([] ++ (_ ++ ([] ++ ['.']) ++ [])) from .stopped (blank _ rfl) (blank _ rfl) (blank _ rfl)
  have hfirst := Spread.more hhead (List.forall_mem_singleton.2 hinside)
    (Spread.more htest (List.forall_mem_singleton.2 hempty) (.last hcall))
  exact .rule (List.forall_mem_singleton.2 hcomment) hfirst
    (.rule (List.forall_mem_singleton.2 hblank) (.last hfact) (.done (List.forall_mem_singleton.2 hempty)))

theorem split_layout_restarting : Layout 1 restarting restartingLines [2, 8] ∧
    split ("## restart rules\n Mitigate(?Code) :- \\\t\n  ## first the code\n\t?Code == \"FO001\",\r\n\n" ++
      "    RestartReplica() . \n   \nok..\n") =
      .ok [⟨"Mitigate(?Code) :- ?Code == \"FO001\", RestartReplica()", 2⟩, ⟨"ok.", 8⟩] := by
  have hsource : "## restart rules\n Mitigate(?Code) :- \\\t\n  ## first the code\n\t?Code == \"FO001\",\r\n\n" ++
      "    RestartReplica() . \n   \nok..\n" = String.ofList (List.intercalate ['\n'] restartingLines) := by
    decide +kernel
  refine ⟨restarting_layout, ?_⟩
  rw [hsource, (split_layout restarting_rules restarting_layout (by decide +kernel)).1]
  exact congrArg Except.ok (by decide +kernel)

end Rule

end Remedy
