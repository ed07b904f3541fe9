import Remedy.Rule.Error
/-!
# SourceFile — files as they have been read

Reading is not the library's work.  It is given the path of a file and its text, or the reason why there is none.
-/
namespace Remedy

/-- **A file that has been read**, or could not be. -/
structure SourceFile where
  path : String
  content : Except String String

def SourceFile.rules (f : SourceFile) : Except CompileError String :=
  match f.content with
  | .ok text => .ok text
  | .error reason => .error (.unreadable f.path reason)

/-- The last name of a path; a path that ends above itself has none. -/
def SourceFile.name? (f : SourceFile) : Option (List Char) :=
  ((Text.pieces '/' f.path.toList).filter fun part => part != [] && part != ['.']).getLast?.filter (· != ['.', '.'])

/-- The name of a file without the last point and what follows it, unless nothing stands before. -/
def SourceFile.stem? (f : SourceFile) : Option String :=
  f.name?.map fun name =>
    match name.reverse.dropWhile (· != '.') with
    | '.' :: before => String.ofList (if before.isEmpty then name else before.reverse)
    | _ => String.ofList name

end Remedy
