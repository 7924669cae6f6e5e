import CloudInventory.Json.Reader

/-! Passing over JSON values whose content does not matter. They have to be well formed, and
that is all: they may be nested to any depth, hold numbers of any size and halves of surrogate
pairs. -/

namespace CloudInventory.Json

def afterString? : List Char → Option (List Char)
  | [] => none
  | '"' :: cs => some cs
  | '\\' :: 'u' :: a :: b :: c :: d :: cs =>
    if (hexUnit? a b c d).isSome then afterString? cs else none
  | '\\' :: c :: cs => if (simpleEscape? c).isSome then afterString? cs else none
  | c :: cs => if c.toNat < 0x20 ∨ c = '\\' then none else afterString? cs

def afterDigits? (cs : List Char) : Option (List Char) :=
  if cs.head?.any Char.isDigit then some (cs.dropWhile Char.isDigit) else none

def afterInteger? : List Char → Option (List Char)
  | '0' :: cs => if cs.head?.any Char.isDigit then none else some cs
  | cs => afterDigits? cs

def afterFraction? : List Char → Option (List Char)
  | '.' :: cs => afterDigits? cs
  | cs => some cs

def afterExponent? : List Char → Option (List Char)
  | c :: cs =>
    if c = 'e' ∨ c = 'E' then
      match cs with
      | '+' :: cs | '-' :: cs => afterDigits? cs
      | cs => afterDigits? cs
    else some (c :: cs)
  | [] => some []

def afterNumber? (cs : List Char) : Option (List Char) :=
  ((afterInteger? cs).bind afterFraction?).bind afterExponent?

def passOver (flaw : Flaw) (after? : List Char → Option (List Char)) : Reading Unit := fun cs =>
  match after? cs with
  | some rest => .ok ((), rest)
  | none => .error ⟨flaw, Text.utf8Size cs⟩

def skipString : Reading Unit := passOver .endInString afterString?

def skipNumber : Reading Unit := passOver .invalidNumber afterNumber?

/-- Up to the colon behind the next key; false where the object ends. -/
def skipKey (first : Bool) : Reading Bool := do
  match ← Reading.peekToken with
  | none => .failNext .endInObject
  | some '\x7d' => Reading.drop; return false
  | some c =>
    if first then
      if c = '"' then key else .failNext .keyMustBeString
    else if c = ',' then
      Reading.drop
      match ← Reading.peekToken with
      | some '"' => key
      | _ => .failNext .keyMustBeString
    else .failNext .expectedObjectCommaOrEnd
where
  key : Reading Bool := do
    Reading.drop
    skipString
    readColon
    return true

mutual

/-- Passes over one value; `fuel` bounds the steps. -/
def skipValue : (fuel : Nat) → Reading Unit
  | 0 => .failNext .endInValue
  | fuel + 1 => do
    match ← Reading.peekToken with
    | none => .failNext .endInValue
    | some 'n' => Reading.drop; Reading.word ['u', 'l', 'l']
    | some 't' => Reading.drop; Reading.word ['r', 'u', 'e']
    | some 'f' => Reading.drop; Reading.word ['a', 'l', 's', 'e']
    | some '-' => Reading.drop; skipNumber
    | some '"' => Reading.drop; skipString
    | some '[' => Reading.drop; skipItems fuel true
    | some '\x7b' => Reading.drop; skipEntries fuel true
    | some c => if c.isDigit then skipNumber else .failNext .expectedValue

def skipItems : (fuel : Nat) → Bool → Reading Unit
  | 0, _ => .failNext .endInList
  | fuel + 1, first => do
    if ← moreItems first then
      skipValue fuel
      skipItems fuel false
    else return ()

def skipEntries : (fuel : Nat) → Bool → Reading Unit
  | 0, _ => .failNext .endInObject
  | fuel + 1, first => do
    if ← skipKey first then
      skipValue fuel
      skipEntries fuel false
    else return ()

end

/-- The entries of an object under the keys that are known, in their order; the others are passed
over. -/
def readKnownEntries (known : List String) :
    (fuel depth : Nat) → Bool → Reading (List (String × Json))
  | 0, _, _ => .failNext .endInObject
  | fuel + 1, depth, first => do
    match ← nextKey first with
    | none => return []
    | some k =>
      if known.contains k then
        let v ← readValue fuel depth
        return (k, v) :: (← readKnownEntries known fuel depth false)
      else
        skipValue fuel
        readKnownEntries known fuel depth false

end CloudInventory.Json
