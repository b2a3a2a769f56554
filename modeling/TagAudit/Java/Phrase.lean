import TagAudit.Java.Token
import TagAudit.Syntax.Tree

/-!
Phrases: grammars as data, and what it means to read tokens by them.

A choice takes the first of its phrases that fits; a repetition takes as many as fit. Reading
collects the constructs that a syntax tree is measured by, and nothing else.

Phrases take the place of the generated parser behind `JavaParser.parse`.
-/

namespace TagAudit.Java

open Syntax (NodeKind Role Tree)

/-- A phrase of a grammar whose rules are named by `ρ`. -/
inductive Phrase (ρ : Type) where
  | empty
  /-- A given word. -/
  | word (text : String)
  /-- A given sign. -/
  | sign (text : String)
  /-- A given sign or word right behind the token before it. -/
  | joined (token : Token)
  /-- Any word but some that mean something else here. -/
  | name (reserved : List String)
  /-- A number, a text or a character. -/
  | literal
  | seq (first second : Phrase ρ)
  | alt (first second : Phrase ρ)
  | many (body : Phrase ρ)
  /-- Something follows, or does not. -/
  | ahead (negated : Bool) (body : Phrase ρ)
  | rule (r : ρ)
  /-- A construct that the tree keeps. -/
  | node (kind : NodeKind) (role : Role) (body : Phrase ρ)
  /-- Notes whether what was read can be assigned to. -/
  | assignable (value : Bool)
  /-- What was read can be assigned to. -/
  | isAssignable
  /-- All tokens have been read. -/
  | ending
  deriving Repr, Inhabited

namespace Phrase

variable {ρ : Type}

def all : List (Phrase ρ) → Phrase ρ
  | [] => .empty
  | [p] => p
  | p :: rest => .seq p (all rest)

/-- The first phrase that fits. -/
def first : List (Phrase ρ) → Phrase ρ
  | [] => .ahead true .empty
  | [p] => p
  | p :: rest => .alt p (first rest)

/-- A phrase or nothing. -/
def opt (p : Phrase ρ) : Phrase ρ := .alt p .empty

def repeated (p : Phrase ρ) : Phrase ρ := .seq p (.many p)

/-- A phrase at least once, with a sign between. -/
def separated (s : String) (p : Phrase ρ) : Phrase ρ := .seq p (.many (.seq (.sign s) p))

/-- A phrase any number of times, with commas between. -/
def commas (p : Phrase ρ) : Phrase ρ := opt (separated "," p)

def words (ws : List String) : Phrase ρ := first (ws.map .word)

def oneSign (ss : List String) : Phrase ρ := first (ss.map .sign)

end Phrase

/-- Where reading stands: the tokens left and their number, the byte offset behind the last token
read, the constructs found so far, last one first, and whether what was read last can be assigned
to. -/
structure Reading where
  rest : List Lexeme
  left : Nat
  stop : Nat
  found : List Tree
  assignable : Bool

def Reading.take (r : Reading) (test : Lexeme → Bool) : Option Reading :=
  match r.rest with
  | [] => none
  | lexeme :: rest =>
    if test lexeme then some { r with rest := rest, left := r.left - 1, stop := lexeme.stop }
    else none

/-- Reads as often as possible, as long as tokens are taken. -/
def readMany (read : Reading → Option Reading) : (fuel : Nat) → Reading → Reading
  | 0, r => r
  | fuel + 1, r =>
    match read r with
    | none => r
    | some next => if next.left < r.left then readMany read fuel next else r

def Phrase.read {ρ : Type} (call : ρ → Reading → Option Reading) :
    Phrase ρ → Reading → Option Reading
  | .empty, r => some r
  | .word text, r => r.take fun l => l.token == .word text
  | .sign text, r => r.take fun l => l.token == .sign text
  | .joined token, r => r.take fun l => l.joined && l.token == token
  | .name reserved, r => r.take fun l =>
      match l.token with
      | .word text => !reserved.contains text
      | _ => false
  | .literal, r => r.take fun l => l.token == .number || l.token == .text || l.token == .character
  | .seq a b, r =>
    match a.read call r with
    | none => none
    | some r => b.read call r
  | .alt a b, r =>
    match a.read call r with
    | some r => some r
    | none => b.read call r
  | .many body, r => some (readMany (body.read call) (r.left + 1) r)
  | .ahead negated body, r =>
    if (body.read call r).isSome != negated then some r else none
  | .rule called, r => call called r
  | .node kind role body, r =>
    let start := (r.rest.head?.map Lexeme.start).getD r.stop
    match body.read call { r with found := [] } with
    | none => none
    | some inner =>
      some { inner with
        found := .node kind role start inner.stop inner.found.reverse :: r.found }
  | .assignable value, r => some { r with assignable := value }
  | .isAssignable, r => if r.assignable then some r else none
  | .ending, r => if r.rest.isEmpty then some r else none

/-- Reads a rule of a grammar. Rules call each other at most `fuel` deep. -/
def readRule {ρ : Type} (grammar : ρ → Phrase ρ) : (fuel : Nat) → ρ → Reading → Option Reading
  | 0, _, _ => none
  | fuel + 1, rule, r => (grammar rule).read (readRule grammar fuel) r

end TagAudit.Java
