import Remedy.Pattern.Shape
import Remedy.Text.Utf8
/-!
# Pattern.Room — the room that the automata of a pattern take

A pattern is run by automata that go over the bytes of a text, one forward and one backward.  A state takes 32 bytes
of room; a choice takes 4 more for each way on, and a state with several ranges of bytes 8 for each of them.  A
pattern whose automata need more than ten mebibytes is refused, so the room is counted without the automata being
built; repetitions count as often as they are written out.
-/
namespace Remedy.Pattern

/-! ## Numbers remembered by their keys, in a fixed number of places

A key has one place.  A newer key takes the place of an older one, so what is remembered may be forgotten again, but
what is found is always right.
-/

/-- A memory: for each place the key that has it, and the number remembered for that key. -/
structure Memory where
  places : Array (List Nat × Nat)

/-- A memory of some size with nothing in it: no one asks for the empty key. -/
def Memory.empty (size : Nat) : Memory := ⟨Array.replicate size ([], 0)⟩

/-- The place of a key: the hash of Fowler, Noll and Vo on its numbers. -/
def Memory.place (m : Memory) (key : List Nat) : Nat :=
  let hash : UInt64 := key.foldl (fun h n => (h ^^^ n.toUInt64) * 1099511628211) 14695981039346656037
  hash.toNat % m.places.size

def Memory.find? (m : Memory) (key : List Nat) : Option Nat :=
  m.places[m.place key]?.bind fun (known, n) => if known == key then some n else none

def Memory.put (m : Memory) (key : List Nat) (n : Nat) : Memory :=
  let place := m.place key
  { m with places := m.places.setIfInBounds place (key, n) }

/-! ## States and their room -/

open Text (Ranges)

/-- The room an automaton takes: its states, and the bytes beside them. -/
structure Room where
  states : Nat := 0
  extra : Nat := 0

namespace Room

def most : Nat := 10 * 1024 * 1024

/-- The room with some states and bytes more, unless that is too much. -/
def add? (states extra : Nat) (r : Room) : Option Room :=
  let r := { states := r.states + states, extra := r.extra + extra : Room }
  if r.states * 32 + r.extra ≤ most then some r else none

end Room

/-- In which direction an automaton goes over a text. -/
inductive Direction
  | forward
  | backward
  deriving DecidableEq

/-- A part of an automaton: what it adds to the room, whether it ends in a choice, which takes one way more for what
comes after it, and its bytes if it is a literal. -/
structure Part where
  grow : Room → Option Room
  openEnd : Bool := false
  literal : Option (List Nat) := none

namespace Part

/-- The bytes of the way from the end of a part to what comes after it. -/
def link (x : Part) : Nat := if x.openEnd then 4 else 0

/-- A part of some states and bytes that does not end in a choice. -/
def plain (states extra : Nat) : Part := { grow := Room.add? states extra }

def before (x y : Part) : Part :=
  { grow := fun r => (x.grow r).bind fun r => (y.grow r).bind (Room.add? 0 x.link), openEnd := y.openEnd }

def growTimes (f : Room → Option Room) : Nat → Room → Option Room
  | 0, r => some r
  | n + 1, r => match f r with
    | none => none
    | some r => growTimes f n r

def copies (x : Part) : Nat → Part
  | 0 => plain 1 0
  | n + 1 =>
    { grow := fun r => (x.grow r).bind (growTimes (fun r => (x.grow r).bind (Room.add? 0 x.link)) n),
      openEnd := x.openEnd }

def optional (x : Part) : Part :=
  { grow := fun r => (Room.add? 1 8 r).bind fun r => (x.grow r).bind (Room.add? 1 x.link) }

/-- Any number of copies.  A part that may match the empty text needs two choices, one to go round and one to start. -/
def starred (x : Part) (consumes : Bool) : Part :=
  if consumes then
    { grow := fun r => (Room.add? 1 4 r).bind fun r => (x.grow r).bind (Room.add? 0 x.link), openEnd := true }
  else { grow := fun r => (x.grow r).bind (Room.add? 3 (16 + x.link)) }

/-- At least `n` copies, and `n` is not zero. -/
def atLeast (x : Part) (n : Nat) : Part :=
  { grow := fun r => ((x.copies n).grow r).bind (Room.add? 1 (4 + x.link)), openEnd := true }

def between (x : Part) (n m : Nat) : Part :=
  let last := if n = 0 then 0 else x.link
  { grow := fun r =>
      ((x.copies n).grow r).bind fun r => (Room.add? 1 last r).bind
        (growTimes (fun r => (Room.add? 1 (8 + x.link) r).bind x.grow) (m - n)) }

def times (x : Part) (consumes : Bool) (least : Nat) : Option Nat → Part
  | none => if least = 0 then x.starred consumes else x.atLeast least
  | some most =>
    if least = 0 && most = 1 then x.optional
    else if least = most then x.copies least
    else x.between least most

/-! ## Classes -/

/-- Forward, the lists of byte ranges that end in the same way share their states: the state that leads through them,
the states so far and the ones remembered by where they lead. -/
def suffixTree : Nat → Nat → List (List (Nat × Nat)) → Memory × Room → Nat × Memory × Room
  | 0, final, _, known => (final, known)
  | fuel + 1, final, lists, known =>
    if lists.any List.isEmpty then (final, known)
    else
      let (steps, memory, room) := (lists.splitBy fun a b => a.head? == b.head?).foldl
        (fun (steps, known) group =>
          let (next, known) := suffixTree fuel final (group.map List.tail) known
          match group.head?.bind List.head? with
          | some (first, last) => (steps ++ [first, last, next], known)
          | none => (steps, known)) (([] : List Nat), known)
      match memory.find? steps with
      | some state => (state, memory, room)
      | none =>
        let state := room.states
        (state, memory.put steps state,
          { states := state + 1, extra := room.extra + steps.length / 3 * 8 })

/-- Backward, a list of byte ranges is a chain of states from its first byte to its last; chains that start in the
same way share their states as long as they are remembered. -/
def chain (start : Nat) (known : Memory × Room) (list : List (Nat × Nat)) : Memory × Room :=
  let (_, memory, room) := list.foldl
    (fun (state, memory, room) (first, last) =>
      let key := [state, first, last]
      match memory.find? key with
      | some next => (next, memory, room)
      | none =>
        let next := room.states
        (next, memory.put key next, { room with states := next + 1 })) (start, known)
  (memory, { room with extra := room.extra + 4 })

/-- The room with that of a class of characters: the ranges of one state in ASCII, a tree of states beyond it. -/
def growSet (direction : Direction) (lists : List (List (Nat × Nat))) (ascii : Bool) (r : Room) : Option Room :=
  if ascii then Room.add? 2 (8 * lists.length) r
  else
    let room := match direction with
      -- the lists have at most four ranges, one for each byte of a character
      | .forward => (suffixTree 5 r.states lists (Memory.empty 10000, { r with states := r.states + 1 })).2.2
      | .backward =>
        (lists.foldl (chain (r.states + 1)) (Memory.empty 1000, { r with states := r.states + 2 })).2
    Room.add? 0 0 room

def ofSet (direction : Direction) (chars : Ranges) : Part :=
  let lists := chars.utf8
  let ascii := chars.below 0x80
  { grow := growSet direction lists ascii }

/-! ## Alternatives -/

/-- The words that go on at a place of a tree of words, cut where one ends: after an end a new list starts, but at a
place that nothing leads on from one end is enough. -/
def cutAtEnds : List (List (List Nat)) → List (List Nat) → List (List Nat) → List (List (List Nat))
  | done, current, [] => (current.reverse :: done).reverse
  | done, current, [] :: words =>
    if current.isEmpty && !done.isEmpty && done.all List.isEmpty then cutAtEnds done current words
    else cutAtEnds (current.reverse :: done) [] words
  | done, current, word :: words => cutAtEnds done (word :: current) words

/-- The states and bytes of a tree of words of at most `fuel` bytes: at every place that a word goes on from a choice
between the lists there, and a state for each list with a range for each byte that it goes on with. -/
def wordTree : Nat → List (List Nat) → Nat × Nat
  | 0, _ => (0, 0)
  | fuel + 1, words =>
    let lists := cutAtEnds [] [] words
    lists.foldl (fun (states, extra) list =>
      let bytes := (list.filterMap List.head?).eraseDups
      let below := bytes.map fun b =>
        let rests := list.filterMap fun word => if word.head? == some b then some word.tail else none
        if rests.all List.isEmpty then (0, 0) else wordTree fuel rests
      let own := if bytes.isEmpty then (0, 0) else (1, if bytes.length = 1 then 4 else 8 * bytes.length + 4)
      below.foldl (fun (s, e) (s', e') => (s + s', e + e')) (states + own.1, extra + own.2))
      (1, 4 * (lists.length - 1))

/-- Alternatives that are all literals. -/
def ofWords (direction : Direction) (words : List (List Nat)) : Part :=
  let words := if direction = .forward then words else words.map List.reverse
  let (states, extra) := wordTree (words.foldl (fun n word => max n word.length) 0 + 1) words
  plain (states + 1) extra

/-- One of several parts: a choice at the start, and a state where all of them end. -/
def oneOf (x y : Part) (rest : List Part) : Part :=
  { grow := fun r =>
      (x.grow r).bind fun r => (y.grow r).bind fun r => (Room.add? 2 (8 + x.link + y.link) r).bind fun r =>
        rest.foldl (fun r z => r.bind fun r => (z.grow r).bind (Room.add? 0 (4 + z.link))) (some r) }

def choice (direction : Direction) : List Part → Part
  | [] => plain 0 0
  | [x] => x
  | x :: y :: rest =>
    match (x :: y :: rest).mapM (·.literal) with
    | some words => ofWords direction words
    | none => oneOf x y rest

end Part

/-- The branches of a pattern as parts of an automaton. -/
def partsOf (direction : Direction) : Pattern → List Part
  | .empty | .look _ => [.plain 1 0]
  | .literal text =>
    let bytes := text.flatMap fun c => Text.utf8Bytes c.toNat
    [{ Part.plain bytes.length 0 with literal := some bytes }]
  | .set chars => [.ofSet direction chars]
  | .group _ p =>
    let inner := Part.choice direction (partsOf direction p)
    match direction with
    -- only the forward automaton keeps track of groups, with a state where one starts and one where it ends
    | .forward => [(Part.plain 1 0).before (inner.before (.plain 1 0))]
    | .backward => [{ inner with literal := none }]
  | .repeated p least most _ =>
    [(Part.choice direction (partsOf direction p)).times (p.shortest?.any (0 < ·)) least most]
  | .seq p q =>
    let first := Part.choice direction (partsOf direction p)
    let second := Part.choice direction (partsOf direction q)
    match direction with
    | .forward => [first.before second]
    | .backward => [second.before first]
  | .alt p q => partsOf direction p ++ partsOf direction q

/-- The whole automaton of a pattern: a loop over all bytes before it, unless it has to start at the end of the text
where the automaton starts; the pattern, in a group of its own where groups are kept; and the state of a match. -/
def automaton (direction : Direction) (p : Pattern) : Part :=
  let inner := Part.choice direction (partsOf direction p)
  match direction with
  | .forward =>
    let start := if p.startsText then Part.plain 1 0 else .plain 3 16
    start.before ((Part.plain 1 0).before (inner.before (.plain 2 0)))
  | .backward =>
    let start := if p.endsText then Part.plain 1 0 else .plain 3 16
    start.before (inner.before (.plain 1 0))

/-- **The automata of the pattern take no more room than they may.** -/
def fits (p : Pattern) : Bool :=
  ((automaton .backward p).grow {}).isSome && ((automaton .forward p).grow {}).isSome

end Remedy.Pattern
