import TagAudit.Text.Utf8

/-!
Texts as they are handed in: code points, among which halves of surrogate pairs may stand. Such a
half is no character and has no bytes in UTF-8, so a text with one cannot be encoded.

The size check of `BatchWorker.run_batch` is where such a text breaks off.
-/

namespace TagAudit.Text

inductive CodePoint where
  | char (c : Char)
  /-- Half of a surrogate pair, by its distance from the first of them. -/
  | half (offset : Fin 2048)
  deriving DecidableEq, Repr

def CodePoint.char? : CodePoint → Option Char
  | .char c => some c
  | .half _ => none

def CodePoint.isHalf : CodePoint → Bool
  | .char _ => false
  | .half _ => true

abbrev Raw := List CodePoint

/-- Why a text cannot be encoded: the first run of halves in it. -/
structure Unencodable where
  position : Nat
  first : Fin 2048
  length : Nat
  deriving DecidableEq, Repr

/-- The code unit that stands for half of a surrogate pair, as an escape. -/
def halfEscape (offset : Fin 2048) : String :=
  "\\u" ++ String.ofList (Nat.toDigits 16 (0xD800 + offset))

/-- The report of a text that cannot be encoded. A run of several halves is given by the places of
its first and its last one. -/
def Unencodable.message (u : Unencodable) : String :=
  if u.length = 1 then
    "'utf-8' codec can't encode character '" ++ halfEscape u.first
      ++ s!"' in position {u.position}: surrogates not allowed"
  else
    s!"'utf-8' codec can't encode characters in position {u.position}-{u.position + u.length - 1}"
      ++ ": surrogates not allowed"

namespace Raw

def ofString (s : String) : Raw := s.toList.map .char

/-- The first run of halves in a text whose first code point is at `position`. -/
def firstHalves? (position : Nat) : Raw → Option Unencodable
  | [] => none
  | .char _ :: rest => firstHalves? (position + 1) rest
  | .half n :: rest => some ⟨position, n, (rest.takeWhile CodePoint.isHalf).length + 1⟩

/-- The characters of a text that can be encoded. -/
def encodable (r : Raw) : Except Unencodable String :=
  match firstHalves? 0 r with
  | some u => .error u
  | none => .ok (String.ofList (r.filterMap CodePoint.char?))

/-- The text with the replacement character for each half. -/
def replaced (r : Raw) : String :=
  String.ofList (r.map fun p => p.char?.getD replacementChar)

end Raw

end TagAudit.Text
