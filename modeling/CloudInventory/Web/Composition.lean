import CloudInventory.Web.CompositionTable

/-! The composed form of text: its characters are taken apart, the marks behind each are brought in
order, and what a single character stands for is put together again. -/

namespace CloudInventory.Web.Composition

/-- The order of a mark; 0 for all other characters. -/
def order (c : Char) : Nat :=
  ((markRuns.find? fun r => r.first ≤ c.toNat && c.toNat ≤ r.last).map (·.order)).getD 0

/-! ### Syllables

A syllable of the Korean script is a lead and a vowel, with a tail or without. -/

def firstSyllable : Nat := 0xAC00

def firstLead : Nat := 0x1100

def firstVowel : Nat := 0x1161

/-- The tail behind this one is the first. -/
def noTail : Nat := 0x11A7

def leads : Nat := 19

def vowels : Nat := 21

/-- The tails, and a place for none. -/
def tails : Nat := 28

def isSyllable (n : Nat) : Bool :=
  firstSyllable ≤ n && n < firstSyllable + leads * vowels * tails

def syllableParts? (n : Nat) : Option (Nat × Nat) :=
  let i := n - firstSyllable
  if !isSyllable n then none
  else if i % tails = 0 then
    some (firstLead + i / tails / vowels, firstVowel + i / tails % vowels)
  else some (n - i % tails, noTail + i % tails)

def syllable? (head tail : Nat) : Option Nat :=
  if firstLead ≤ head && head < firstLead + leads && firstVowel ≤ tail &&
      tail < firstVowel + vowels then
    some (firstSyllable + ((head - firstLead) * vowels + (tail - firstVowel)) * tails)
  else if isSyllable head && (head - firstSyllable) % tails = 0 && noTail < tail &&
      tail < noTail + tails then
    some (head + (tail - noTail))
  else none

/-! ### Forms -/

def parts? (c : Char) : Option (Char × Char) :=
  let pair? := match composites.find? (·.whole == c.toNat) with
    | some x => some (x.head, x.tail)
    | none => syllableParts? c.toNat
  pair?.map fun pair => (Char.ofNat pair.1, Char.ofNat pair.2)

def whole? (head tail : Char) : Option Char :=
  let whole? := match composites.find? fun x => x.head == head.toNat && x.tail == tail.toNat with
    | some x => some x.whole
    | none => syllable? head.toNat tail.toNat
  whole?.map Char.ofNat

/-- Takes a character apart, as often as it can be and for at most `fuel` times. -/
def split : (fuel : Nat) → Char → List Char → List Char
  | 0, c, marks => c :: marks
  | fuel + 1, c, marks =>
    match parts? c with
    | some (head, tail) => split fuel head (tail :: marks)
    | none => c :: marks

/-- No character of a domain name stands for more than three others. -/
def decomposed (cs : List Char) : List Char := cs.flatMap (split 2 · [])

/-- Puts a character before marks that are in order. -/
def putInOrder (c : Char) : List Char → List Char
  | [] => [c]
  | d :: ds =>
    if 0 < order d && order d < order c then d :: putInOrder c ds else c :: d :: ds

/-- Puts the characters together that follow `head`, with the marks between them and it. A mark
joins the head over marks of a lower order alone. -/
def composedFrom (head : Char) (marks : List Char) : List Char → List Char
  | [] => head :: marks
  | c :: cs =>
    let joined? := if marks.any (order c ≤ order ·) then none else whole? head c
    match joined? with
    | some whole => composedFrom whole marks cs
    | none =>
      if order c = 0 then head :: marks ++ composedFrom c [] cs
      else composedFrom head (marks ++ [c]) cs

def composed (cs : List Char) : List Char :=
  match (decomposed cs).foldr putInOrder [] with
  | [] => []
  | c :: cs => composedFrom c [] cs

end CloudInventory.Web.Composition
