import CloudInventory.Text.Blank
import CloudInventory.Text.ShownTable

/-! Text between double quotes as messages show it: what would not be visible is written by its
code point. -/

namespace CloudInventory.Text

def isShown (c : Char) : Bool :=
  if c.toNat < 0x80 then isPrintableAscii c else !within unshownRanges c

def quotedChar (c : Char) : List Char :=
  match c with
  | '\x00' => ['\\', '0']
  | '\t' => ['\\', 't']
  | '\r' => ['\\', 'r']
  | '\n' => ['\\', 'n']
  | '"' => ['\\', '"']
  | '\\' => ['\\', '\\']
  | c =>
    if isShown c then [c]
    else ['\\', 'u', '\x7b'] ++ Nat.toDigits 16 c.toNat ++ ['\x7d']

def quoted (s : String) : String :=
  String.ofList ('"' :: (s.toList.flatMap quotedChar ++ ['"']))

end CloudInventory.Text
