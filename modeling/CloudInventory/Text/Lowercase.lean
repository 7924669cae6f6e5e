import CloudInventory.Text.Blank
import CloudInventory.Text.CaseTable

/-! Full lower casing: letter by letter, but for the capital sigma, whose form depends on whether
it ends a word, and for the dotted capital I, which becomes two characters. -/

namespace CloudInventory.Text

def isCased (c : Char) : Bool := within casedRanges c

def isCaseIgnorable (c : Char) : Bool := within caseIgnorableRanges c

def CapitalRun.holds (r : CapitalRun) (n : Nat) : Bool :=
  r.first ≤ n && n ≤ r.last && (n - r.first) % r.step == 0

def lowerChar (c : Char) : List Char :=
  if c.toNat < 0x80 then [c.toLower]
  else if c.toNat = 0x130 then ['i', Char.ofNat 0x307]
  else match capitalRuns.find? (·.holds c.toNat) with
    | some r => [Char.ofNat (r.lower + (c.toNat - r.first))]
    | none => [c]

/-- Whether a cased letter comes first, characters that carry no case left out. -/
def leadsCased (cs : List Char) : Bool :=
  match cs.dropWhile isCaseIgnorable with
  | [] => false
  | c :: _ => isCased c

def capitalSigma : Char := Char.ofNat 0x3A3

/-- A sigma is final after a cased letter, with none following. -/
def lowerSigma (before after : List Char) : Char :=
  if leadsCased before && !leadsCased after then Char.ofNat 0x3C2 else Char.ofNat 0x3C3

def lowerFrom (before : List Char) : List Char → List Char
  | [] => []
  | c :: cs =>
    (if c = capitalSigma then [lowerSigma before cs] else lowerChar c) ++ lowerFrom (c :: before) cs

def lowercase (cs : List Char) : List Char := lowerFrom [] cs

end CloudInventory.Text
