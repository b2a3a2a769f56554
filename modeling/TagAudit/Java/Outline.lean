import TagAudit.Java.Grammar
import TagAudit.Source.Estimate
import TagAudit.Syntax.Summary

/-!
The outline of a Java source file: a syntax tree that holds the constructs which measures look at.

`JavaParser.summarize`, with the text that `JavaParser.parse` refuses.
-/

namespace TagAudit.Java

open Syntax (Summary Tree)

/-- The outline of a source file; none if the text does not follow the grammar. Rules call each
other without taking a token at most once each, which bounds how deep they go. -/
def outline (text : List Char) : Option Tree :=
  match lex text with
  | none => none
  | some lexemes =>
    let fuel := (lexemes.length + 1) * (Nonterminal.count + 1)
    (readRule grammar fuel .unit ⟨lexemes, lexemes.length, 0, [], false⟩).map fun r =>
      .node .other .plain 0 (Text.byteSize text) r.found.reverse

def unreadableMessage : String := "Failed to parse Java source code"

/-- The measures of a source file; none if the text does not follow the grammar. -/
def summarize (text : List Char) : Option Summary :=
  (outline text).map (·.summary text (Source.lineCount text))

end TagAudit.Java
