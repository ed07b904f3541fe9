import Remedy.Program.Compile
/-!
# Program.System — the predicates that every module may call

Lists are joined, searched, measured and reversed; a value is put into a sorted list, or a pair into a list of pairs
sorted by key, where it replaces the pair with the same key.
-/
namespace Remedy

def systemRules : List String := [
  "repeat",
  "repeat :- repeat",
  "append([], ?Ys, ?Ys)",
  "append([?X|?Xs], ?Ys, [?X|?Zs]) :- append(?Xs, ?Ys, ?Zs)",
  "member(?X, [?X|_])",
  "member(?X, [_|?Xs]) :- member(?X, ?Xs)",
  "length([], 0)",
  "length([_|?Xs], ?Y) :- length(?Xs, ?Z), ?Y is ?Z + 1",
  "reverse(?Xs, ?Ys) :- _reverse(?Xs, [], ?Ys)",
  "_reverse([], ?Ys, ?Ys)",
  "_reverse([?X|?Xs], ?A, ?Ys) :- _reverse(?Xs, [?X|?A], ?Ys)",
  "AddToList(?X, [], [?X])",
  "AddToList(?X, [?X|?Ys], [?X|?Ys]) :- !",
  "AddToList(?X, [?Y|?Ys], [?X,?Y|?Ys]) :- ?X < ?Y, !",
  "AddToList(?X, [?Y|?Ys], [?Y|?Zs]) :- AddToList(?X, ?Ys, ?Zs)",
  "AddToMap(kv(?K,?V), [], [kv(?K,?V)])",
  "AddToMap(kv(?K,?V), [kv(?K,_)|?Ys], [kv(?K,?V)|?Ys]) :- !",
  "AddToMap(kv(?K,?V), [kv(?K1,?V1)|?Ys], [kv(?K,?V),kv(?K1,?V1)|?Ys]) :- ?K < ?K1, !",
  "AddToMap(kv(?K,?V), [kv(?K1,?V1)|?Ys], [kv(?K1,?V1)|?Zs]) :- AddToMap(kv(?K,?V), ?Ys, ?Zs)"]

/-- **The system library**; its rules compile. -/
def systemModule : RuleModule :=
  (RuleModule.compile ⟨[]⟩ "System" .none (RuleText.numbered systemRules)).toOption.getD ⟨"System", [], [], .none⟩

def Library.initial : Library := ⟨[systemModule]⟩

end Remedy
