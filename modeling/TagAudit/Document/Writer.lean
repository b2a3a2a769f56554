import TagAudit.Document

/-!
Writing documents as JSON text, on one line.
-/

namespace TagAudit.Document

def hexDigit (n : Nat) : Char :=
  if n < 10 then Char.ofNat ('0'.toNat + n) else Char.ofNat ('a'.toNat + (n - 10))

/-- A character inside quotes. Quotes, backslashes and control characters are escaped. -/
def quotedChar (c : Char) : String :=
  if c = '"' then "\\\""
  else if c = '\\' then "\\\\"
  else if c = '\n' then "\\n"
  else if c = '\r' then "\\r"
  else if c = '\t' then "\\t"
  else if c.toNat < 0x20 then
    String.ofList ['\\', 'u', '0', '0', hexDigit (c.toNat / 16), hexDigit (c.toNat % 16)]
  else String.singleton c

def writeQuoted (out : String) (s : String) : String :=
  (s.toList.foldl (fun out c => out ++ quotedChar c) (out.push '"')).push '"'

/-- A text in quotes in which halves of surrogate pairs are escaped, written after `out`. -/
def writeRaw (out : String) (r : Text.Raw) : String :=
  (r.foldl (fun out p => out ++ match p with
    | .char c => quotedChar c
    | .half n => Text.halfEscape n) (out.push '"')).push '"'

mutual

def write (out : String) : Document → String
  | .null => out ++ "null"
  | .bool true => out ++ "true"
  | .bool false => out ++ "false"
  | .int n => out ++ toString n
  | .float x => out ++ toString x
  | .text s => writeQuoted out s
  | .rawText r => writeRaw out r
  | .list items => (writeItems (out.push '[') true items).push ']'
  | .object fields => (writeFields (out.push '\x7b') true fields).push '\x7d'

/-- Items of a list, with a comma before each but the first. -/
def writeItems (out : String) (first : Bool) : List Document → String
  | [] => out
  | d :: rest => writeItems (write (if first then out else out.push ',') d) false rest

def writeFields (out : String) (first : Bool) : List (String × Document) → String
  | [] => out
  | (name, d) :: rest =>
    let named := (writeQuoted (if first then out else out.push ',') name).push ':'
    writeFields (write named d) false rest

end

def render (d : Document) : String :=
  write "" d

end TagAudit.Document
