import TagAudit.Source.Estimate

/-!
Facts that are read off a source text directly: the names of its class and package, its size, and
whether it has a main method.

`extract_metadata` of the analyzer.
-/

namespace TagAudit.Source

structure Metadata where
  className : String := "Unknown"
  packageName : String := ""
  lineCount : Nat := 0
  hasMain : Bool := false
  /-- A syntax summary was produced and used. -/
  syntaxParsed : Bool := false
  deriving DecidableEq, Repr

/-- A keyword, blanks and a name made of the given characters. -/
def namedAfter (keyword : List Char) (p : Char → Bool) : Recognizer := fun _ text =>
  followedBy (followedBy (literally keyword text) someBlanks text) (someOf p) text

/-- The first name after a keyword. -/
def nameAfter? (keyword : List Char) (p : Char → Bool) (text : List Char) : Option String :=
  (firstOccurrence? (namedAfter keyword p) none text).map fun found =>
    String.ofList (((found.drop keyword.length).dropWhile Text.isBlank).takeWhile p)

def isPackageChar (c : Char) : Bool :=
  Text.isWordChar c || c == '.'

/-- The header of a main method, up to its parenthesis. -/
def mainHeader : Recognizer := fun _ text =>
  [someBlanks, literally "static".toList, someBlanks, literally "void".toList, someBlanks,
    literally "main".toList, blanksThen '('].foldl (fun length next => followedBy length next text)
    (literally "public".toList text)

def metadata (text : List Char) (syntaxParsed : Bool) : Metadata where
  className := (nameAfter? "class".toList Text.isWordChar text).getD "Unknown"
  packageName := (nameAfter? "package".toList isPackageChar text).getD ""
  lineCount := lineCount text
  hasMain := (firstOccurrence? mainHeader none text).isSome
  syntaxParsed := syntaxParsed

end TagAudit.Source
