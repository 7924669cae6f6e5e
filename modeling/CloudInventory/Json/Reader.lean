import CloudInventory.Json.Basic
import CloudInventory.Text.Digit
import CloudInventory.Text.Utf8

/-! Reading JSON text. A fault is located by the number of octets that were not yet read, from
which the line and the column follow; the column counts octets. -/

namespace CloudInventory.Json

inductive Flaw where
  | endInList
  | endInObject
  | endInString
  | endInValue
  | expectedColon
  | expectedListCommaOrEnd
  | expectedObjectCommaOrEnd
  | expectedIdent
  | expectedValue
  | invalidEscape
  | invalidNumber
  | numberOutOfRange
  | controlCharacter
  | keyMustBeString
  | loneSurrogate
  | trailingComma
  | trailingCharacters
  | unfinishedSurrogate
  | tooDeep
deriving DecidableEq, Repr

def Flaw.message : Flaw → String
  | .endInList => "EOF while parsing a list"
  | .endInObject => "EOF while parsing an object"
  | .endInString => "EOF while parsing a string"
  | .endInValue => "EOF while parsing a value"
  | .expectedColon => "expected \x60:\x60"
  | .expectedListCommaOrEnd => "expected \x60,\x60 or \x60]\x60"
  | .expectedObjectCommaOrEnd => "expected \x60,\x60 or \x60\x7d\x60"
  | .expectedIdent => "expected ident"
  | .expectedValue => "expected value"
  | .invalidEscape => "invalid escape"
  | .invalidNumber => "invalid number"
  | .numberOutOfRange => "number out of range"
  | .controlCharacter => "control character (\\u0000-\\u001F) found while parsing a string"
  | .keyMustBeString => "key must be a string"
  | .loneSurrogate => "lone leading surrogate in hex escape"
  | .trailingComma => "trailing comma"
  | .trailingCharacters => "trailing characters"
  | .unfinishedSurrogate => "unexpected end of hex escape"
  | .tooDeep => "recursion limit exceeded"

structure Fault where
  flaw : Flaw
  /-- Octets of the text after the place of the fault. -/
  left : Nat
deriving DecidableEq, Repr

/-- A reader takes what it needs from the front of the text. -/
abbrev Reading (α : Type) := StateT (List Char) (Except Fault) α

namespace Reading

def failAt (flaw : Flaw) (ahead : Nat) : Reading α := fun cs =>
  .error ⟨flaw, Text.utf8Size cs - ahead⟩

/-- Fails at the character that was looked at and not taken. -/
def failNext (flaw : Flaw) : Reading α := failAt flaw 1

def fail (flaw : Flaw) : Reading α := failAt flaw 0

def isSpace (c : Char) : Bool := c == ' ' || c == '\n' || c == '\t' || c == '\r'

def skipSpace : Reading Unit := fun cs => .ok ((), cs.dropWhile isSpace)

/-- The next character that is no space, not taken. -/
def peekToken : Reading (Option Char) := do
  skipSpace
  return (← get).head?

def drop : Reading Unit := modify List.tail

def word : List Char → Reading Unit
  | [] => pure ()
  | expected :: more => do
    match ← get with
    | [] => fail .endInValue
    | c :: rest =>
      if c = expected then
        set rest
        word more
      else failNext .expectedIdent

def takeDigits : Reading (List Char) := fun cs =>
  .ok (cs.takeWhile Char.isDigit, cs.dropWhile Char.isDigit)

end Reading

/-! ### Strings -/

def hexUnit? (a b c d : Char) : Option Nat := do
  let a ← Text.digitIn? 16 a
  let b ← Text.digitIn? 16 b
  let c ← Text.digitIn? 16 c
  let d ← Text.digitIn? 16 d
  return ((a * 16 + b) * 16 + c) * 16 + d

def simpleEscape? : Char → Option Char
  | '"' => some '"'
  | '\\' => some '\\'
  | '/' => some '/'
  | 'b' => some '\x08'
  | 'f' => some '\x0c'
  | 'n' => some '\n'
  | 'r' => some '\r'
  | 't' => some '\t'
  | _ => none

/-- Where the reader of a string stands: among plain characters, after a backslash, before the
four digits of an escape, or past the first half of a surrogate pair. -/
inductive InString where
  | plain
  | escape
  | unit
  | highRead (high : Nat)
  | highEscape (high : Nat)
  | lowUnit (high : Nat)

def isHighSurrogate (n : Nat) : Bool := 0xD800 ≤ n && n ≤ 0xDBFF

def isLowSurrogate (n : Nat) : Bool := 0xDC00 ≤ n && n ≤ 0xDFFF

def stringFault (flaw : Flaw) (cs : List Char) (ahead : Nat) : Except Fault α :=
  .error ⟨flaw, Text.utf8Size cs - ahead⟩

/-- The four digits are taken as octets: too few of them end the text, others are no escape. -/
def unitFault (cs : List Char) : Except Fault α :=
  if Text.utf8Size cs < 4 then .error ⟨.endInString, 0⟩ else stringFault .invalidEscape cs 4

/-- The characters up to the closing quote, most recent first in `taken`. -/
def stringBody (taken : List Char) : InString → List Char → Except Fault (String × List Char)
  | _, [] => .error ⟨.endInString, 0⟩
  | .plain, c :: cs =>
    if c = '"' then .ok (String.ofList taken.reverse, cs)
    else if c = '\\' then stringBody taken .escape cs
    else if c.toNat < 0x20 then stringFault .controlCharacter cs 0
    else stringBody (c :: taken) .plain cs
  | .escape, c :: cs =>
    if c = 'u' then stringBody taken .unit cs
    else match simpleEscape? c with
      | some e => stringBody (e :: taken) .plain cs
      | none => stringFault .invalidEscape (c :: cs) 1
  | .unit, a :: b :: c :: d :: cs =>
    match hexUnit? a b c d with
    | none => unitFault (a :: b :: c :: d :: cs)
    | some n =>
      if isLowSurrogate n then stringFault .loneSurrogate cs 0
      else if isHighSurrogate n then stringBody taken (.highRead n) cs
      else stringBody (Char.ofNat n :: taken) .plain cs
  | .unit, cs => unitFault cs
  | .highRead high, c :: cs =>
    if c = '\\' then stringBody taken (.highEscape high) cs
    else stringFault .unfinishedSurrogate (c :: cs) 1
  | .highEscape high, c :: cs =>
    if c = 'u' then stringBody taken (.lowUnit high) cs
    else stringFault .unfinishedSurrogate (c :: cs) 1
  | .lowUnit high, a :: b :: c :: d :: cs =>
    match hexUnit? a b c d with
    | none => unitFault (a :: b :: c :: d :: cs)
    | some low =>
      if isLowSurrogate low then
        let n := (high - 0xD800) * 1024 + (low - 0xDC00) + 0x10000
        stringBody (Char.ofNat n :: taken) .plain cs
      else stringFault .loneSurrogate cs 0
  | .lowUnit _, cs => unitFault cs

def readString : Reading String := stringBody [] .plain

/-! ### Numbers -/

def digitValue (c : Char) : Nat := c.toNat - 48

def wordLimit : Nat := 1 <<< 64

def exponentLimit : Nat := 1 <<< 31

/-- Multiplies by a power of ten, at most 308 at a time; each step rounds. -/
def scale (f : Binary64) (e : Int) : Option Binary64 :=
  if e ≥ 0 then
    if e ≤ 308 then
      let f := f.mul (Binary64.powerOfTen e.toNat)
      if f.isInfinite then none else some f
    else if f.isZero then some f else none
  else go ((-e).toNat / 308 + 1) f (-e).toNat
where
  go : Nat → Binary64 → Nat → Option Binary64
    | 0, f, _ => some f
    | steps + 1, f, e =>
      if e ≤ 308 then some (f.div (Binary64.powerOfTen e))
      else if f.isZero then some f
      else go steps (f.div (Binary64.powerOfTen 308)) (e - 308)

def signed (negative : Bool) (f : Binary64) : Number := .float (if negative then f.negate else f)

def floatOfParts (negative : Bool) (significand : Nat) (e : Int) : Reading Number :=
  match scale (Binary64.ofNat significand) e with
  | some f => pure (signed negative f)
  | none => .fail .numberOutOfRange

/-- Adds digits to a significand while it fits a 64-bit word; counts them and returns the rest. -/
def accumulate (significand : Nat) : List Char → Nat × Nat × List Char
  | [] => (significand, 0, [])
  | c :: cs =>
    if c.isDigit then
      let n := significand * 10 + digitValue c
      if n < wordLimit then
        let (s, count, rest) := accumulate n cs
        (s, count + 1, rest)
      else (significand, 0, c :: cs)
    else (significand, 0, c :: cs)

/-- Adds digits to an exponent; `none` with the rest once it leaves 31 bits. -/
def accumulateExponent (e : Nat) : List Char → Option Nat × List Char
  | [] => (some e, [])
  | c :: cs =>
    if c.isDigit then
      let n := e * 10 + digitValue c
      if n < exponentLimit then accumulateExponent n cs else (none, cs)
    else (some e, c :: cs)

def readExponent (negative : Bool) (significand : Nat) (start : Int) : Reading Number := do
  let down ← (do
    match (← get) with
    | '+' :: rest => set rest; return false
    | '-' :: rest => set rest; return true
    | _ => return false)
  match ← get with
  | [] => .fail .endInValue
  | c :: rest =>
    if c.isDigit then
      match accumulateExponent (digitValue c) rest with
      | (some e, rest) =>
        set rest
        floatOfParts negative significand (if down then start - e else start + e)
      | (none, rest) =>
        set rest
        if significand ≠ 0 ∧ !down then .fail .numberOutOfRange
        else
          discard Reading.takeDigits
          return signed negative (Binary64.zero false)
    else .failNext .invalidNumber

def afterDigits (negative : Bool) (significand : Nat) (e : Int) : Reading Number := do
  match ← get with
  | c :: rest =>
    if c = 'e' ∨ c = 'E' then
      set rest
      readExponent negative significand e
    else floatOfParts negative significand e
  | [] => floatOfParts negative significand e

/-- The part after the point: digits that no longer fit the significand are passed over. -/
def readFraction (negative : Bool) (significand : Nat) (start : Int) : Reading Number := do
  let (s, count, rest) := accumulate significand (← get)
  let more := rest.head?.any Char.isDigit
  set rest
  if count = 0 ∧ !more then
    match rest with
    | [] => .failNext .endInValue
    | _ => .failNext .invalidNumber
  else
    discard Reading.takeDigits
    afterDigits negative s (start - count)

def afterInteger (negative : Bool) (significand : Nat) : Reading Number := do
  match ← get with
  | '.' :: rest =>
    set rest
    readFraction negative significand 0
  | 'e' :: rest | 'E' :: rest =>
    set rest
    readExponent negative significand 0
  | _ =>
    if !negative then return .int significand
    else if significand = 0 ∨ significand > 1 <<< 63 then
      return signed true (Binary64.ofNat significand)
    else return .int (-(significand : Int))

/-- The sign has been taken already. An integer part too long for a word only moves the
exponent. -/
def readNumber (negative : Bool) : Reading Number := do
  match ← get with
  | [] => .fail .endInValue
  | '0' :: rest =>
    set rest
    if rest.head?.any Char.isDigit then .failNext .invalidNumber else afterInteger negative 0
  | c :: rest =>
    if c.isDigit then
      let (s, _, rest) := accumulate (digitValue c) rest
      set rest
      let extra ← Reading.takeDigits
      if extra.isEmpty then afterInteger negative s
      else
        match ← get with
        | '.' :: rest =>
          set rest
          readFraction negative s extra.length
        | _ => afterDigits negative s extra.length
    else .failNext .invalidNumber

/-! ### Values -/

def maxDepth : Nat := 127

def readColon : Reading Unit := do
  match ← Reading.peekToken with
  | some ':' => Reading.drop
  | some _ => .failNext .expectedColon
  | none => .failNext .endInObject

def moreItems (first : Bool) : Reading Bool := do
  match ← Reading.peekToken with
  | none => .failNext .endInList
  | some ']' => Reading.drop; return false
  | some c =>
    if first then return true
    else if c = ',' then
      Reading.drop
      match ← Reading.peekToken with
      | some ']' => .failNext .trailingComma
      | some _ => return true
      | none => .failNext .endInValue
    else .failNext .expectedListCommaOrEnd

def nextKey (first : Bool) : Reading (Option String) := do
  match ← Reading.peekToken with
  | none => .failNext .endInObject
  | some '\x7d' => Reading.drop; return none
  | some c =>
    if first then
      if c = '"' then key else .failNext .keyMustBeString
    else if c = ',' then
      Reading.drop
      match ← Reading.peekToken with
      | some '"' => key
      | some '\x7d' => .failNext .trailingComma
      | some _ => .failNext .keyMustBeString
      | none => .failNext .endInValue
    else .failNext .expectedObjectCommaOrEnd
where
  key : Reading (Option String) := do
    Reading.drop
    let k ← readString
    readColon
    return some k

mutual

/-- One value; `fuel` bounds the steps and `depth` the containers around it. -/
def readValue : (fuel depth : Nat) → Reading Json
  | 0, _ => .failNext .endInValue
  | fuel + 1, depth => do
    match ← Reading.peekToken with
    | none => .failNext .endInValue
    | some 'n' => Reading.drop; Reading.word ['u', 'l', 'l']; return .null
    | some 't' => Reading.drop; Reading.word ['r', 'u', 'e']; return .bool true
    | some 'f' => Reading.drop; Reading.word ['a', 'l', 's', 'e']; return .bool false
    | some '-' => Reading.drop; return .number (← readNumber true)
    | some '"' => Reading.drop; return .string (← readString)
    | some '[' =>
      match depth with
      | 0 => .failNext .tooDeep
      | depth + 1 =>
        Reading.drop
        return .array (← readItems fuel depth true)
    | some '\x7b' =>
      match depth with
      | 0 => .failNext .tooDeep
      | depth + 1 =>
        Reading.drop
        return .object (Dict.ofList (← readEntries fuel depth true))
    | some c =>
      if c.isDigit then return .number (← readNumber false) else .failNext .expectedValue

def readItems : (fuel depth : Nat) → Bool → Reading (List Json)
  | 0, _, _ => .failNext .endInList
  | fuel + 1, depth, first => do
    if ← moreItems first then
      let v ← readValue fuel depth
      return v :: (← readItems fuel depth false)
    else return []

def readEntries : (fuel depth : Nat) → Bool → Reading (List (String × Json))
  | 0, _, _ => .failNext .endInObject
  | fuel + 1, depth, first => do
    match ← nextKey first with
    | none => return []
    | some k =>
      let v ← readValue fuel depth
      return (k, v) :: (← readEntries fuel depth false)

end

/-- Every step of the reader of values takes a character or ends a list. -/
def stepsFor (cs : List Char) : Nat := 2 * cs.length + 2

def readEnd : Reading Unit := do
  match ← Reading.peekToken with
  | none => return ()
  | some _ => .failNext .trailingCharacters

def readText : Reading Json := do
  let v ← readValue (stepsFor (← get)) maxDepth
  readEnd
  return v

/-! ### Places -/

def place (count : Nat) (octets : List UInt8) : Nat × Nat :=
  (octets.take count).foldl
    (fun (p : Nat × Nat) b => if b = 10 then (p.1 + 1, 0) else (p.1, p.2 + 1)) (1, 0)

def Fault.message (fault : Fault) (text : String) : String :=
  let octets := text.toUTF8.toList
  let (line, column) := place (octets.length - fault.left) octets
  s!"{fault.flaw.message} at line {line} column {column}"

def parse (text : String) : Except String Json :=
  match readText.run text.toList with
  | .ok (v, _) => .ok v
  | .error fault => .error (fault.message text)

end CloudInventory.Json
