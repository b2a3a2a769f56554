/-!
Texts as sequences of bytes: the size of a text in UTF-8, and the piece of a text between two byte
offsets.

The size that `BatchWorker.run_batch` compares, and the text of a node that `_node_text` cuts out.
-/

namespace TagAudit.Text

def byteSize (text : List Char) : Nat :=
  text.foldl (fun n c => n + c.utf8Size) 0

/-- What a broken character reads as. -/
def replacementChar : Char := Char.ofNat 0xFFFD

/-- How a character reads of which `skipped` bytes at its start and everything from byte `room` on
are cut off. Cut at its start, each remaining byte is broken by itself; cut at its end only, the
remaining bytes are broken together. -/
def cutChar (c : Char) (skipped room : Nat) : List Char :=
  let kept := min c.utf8Size room - skipped
  if kept = 0 then []
  else if skipped = 0 then if c.utf8Size ≤ room then [c] else [replacementChar]
  else List.replicate kept replacementChar

/-- The text between the byte offsets `start` and `stop`, both counted from where the text starts.
-/
def byteSlice (start stop : Nat) : List Char → List Char
  | [] => []
  | c :: rest =>
    if stop = 0 then []
    else if c.utf8Size ≤ start then byteSlice (start - c.utf8Size) (stop - c.utf8Size) rest
    else cutChar c start stop ++ byteSlice 0 (stop - c.utf8Size) rest

end TagAudit.Text
