import CloudInventory.Json.Basic
import CloudInventory.Number.Shortest

/-! Writing JSON, compact or laid out with two spaces for each level. -/

namespace CloudInventory.Json

def lowerHexDigit (n : Nat) : Char :=
  if n < 10 then Char.ofNat (0x30 + n) else Char.ofNat (0x61 + n - 10)

/-- Only quotes, backslashes and controls are escaped. -/
def escapedChar (c : Char) : List Char :=
  match c with
  | '"' => ['\\', '"']
  | '\\' => ['\\', '\\']
  | '\x08' => ['\\', 'b']
  | '\x0c' => ['\\', 'f']
  | '\n' => ['\\', 'n']
  | '\r' => ['\\', 'r']
  | '\t' => ['\\', 't']
  | c =>
    if c.toNat < 0x20 then
      ['\\', 'u', '0', '0', lowerHexDigit (c.toNat / 16), lowerHexDigit (c.toNat % 16)]
    else [c]

def stringText (s : String) : List Char := '"' :: (s.toList.flatMap escapedChar ++ ['"'])

def numberText : Number → List Char
  | .int n => (toString n).toList
  | .float x => x.text.toList

def scalarText : Json → List Char
  | .null => ['n', 'u', 'l', 'l']
  | .bool true => ['t', 'r', 'u', 'e']
  | .bool false => ['f', 'a', 'l', 's', 'e']
  | .number n => numberText n
  | .string s => stringText s
  | .array _ => ['[', ']']
  | .object _ => ['\x7b', '\x7d']

/-- How the parts of a list or an object are set apart: what stands before the first, between
two, before the closing bracket, and after a key's colon. -/
structure Layout where
  indented : Bool

def Layout.line (l : Layout) (level : Nat) : List Char :=
  if l.indented then '\n' :: List.replicate (2 * level) ' ' else []

def Layout.colon (l : Layout) : List Char := if l.indented then [':', ' '] else [':']

mutual

def textAt (l : Layout) (level : Nat) : Json → List Char
  | .array (v :: vs) =>
    '[' :: (l.line (level + 1) ++ textAt l (level + 1) v ++ itemsText l (level + 1) vs ++
      l.line level ++ [']'])
  | .object ((k, v) :: rest) =>
    '\x7b' :: (l.line (level + 1) ++ stringText k ++ l.colon ++ textAt l (level + 1) v ++
      entriesText l (level + 1) rest ++ l.line level ++ ['\x7d'])
  | v => scalarText v

def itemsText (l : Layout) (level : Nat) : List Json → List Char
  | [] => []
  | v :: vs => ',' :: (l.line level ++ textAt l level v ++ itemsText l level vs)

def entriesText (l : Layout) (level : Nat) : List (String × Json) → List Char
  | [] => []
  | (k, v) :: rest =>
    ',' :: (l.line level ++ stringText k ++ l.colon ++ textAt l level v ++
      entriesText l level rest)

end

def compact (v : Json) : String := String.ofList (textAt ⟨false⟩ 0 v)

def pretty (v : Json) : String := String.ofList (textAt ⟨true⟩ 0 v)

end CloudInventory.Json
