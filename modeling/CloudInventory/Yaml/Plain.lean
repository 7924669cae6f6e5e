import CloudInventory.Json.Basic
import CloudInventory.Text.Digit

/-! Plain scalars that a reader would not take for text: null, booleans, integers in several
bases, floats, and runs of digits that begin with a zero. -/

namespace CloudInventory.Yaml

def isNullWord (s : String) : Bool := s ∈ ["", "~", "null", "Null", "NULL"]

def isBoolWord (s : String) : Bool := s ∈ ["true", "True", "TRUE", "false", "False", "FALSE"]

def isSign (c : Char) : Bool := c == '+' || c == '-'

def dropSign : List Char → List Char
  | c :: cs => if isSign c then cs else c :: cs
  | [] => []

/-- A zero and more digits, which is no number. -/
def isPaddedZero (cs : List Char) : Bool :=
  match dropSign cs with
  | '0' :: d :: ds => (d :: ds).all Char.isDigit
  | _ => false

/-- The magnitudes that fit 128 bits, without and with a sign. -/
def isUnsignedIn (base : Nat) (cs : List Char) : Bool :=
  (Text.naturalIn? base cs).any (· < 1 <<< 128)

def isNegativeIn (base : Nat) (cs : List Char) : Bool :=
  (Text.naturalIn? base cs).any (· ≤ 1 <<< 127)

def baseOf? : Char → Option Nat
  | 'x' => some 16
  | 'o' => some 8
  | 'b' => some 2
  | _ => none

def isUnsigned (cs : List Char) : Bool :=
  let magnitude := match cs with
    | '+' :: rest => rest
    | _ => cs
  let based := match magnitude with
    | '0' :: m :: rest => (baseOf? m).any (isUnsignedIn · rest)
    | _ => false
  based || (!isPaddedZero cs && isUnsignedIn 10 magnitude)

def isNegative (cs : List Char) : Bool :=
  match cs with
  | '-' :: rest =>
    let based := match rest with
      | '0' :: m :: digits => (baseOf? m).any (isNegativeIn · digits)
      | _ => false
    based || (!isPaddedZero cs && isNegativeIn 10 rest)
  | _ => false

/-- The digits of a decimal number without its sign, its point and its exponent. -/
structure DecimalText where
  digits : List Char
  exponent : Int

def exponentOf? (cs : List Char) : Option Int :=
  let negative := cs.head? == some '-'
  (Text.naturalIn? 10 (dropSign cs)).map fun n => if negative then -(n : Int) else n

def decimalText? (cs : List Char) : Option DecimalText :=
  let whole := cs.takeWhile Char.isDigit
  let rest := cs.dropWhile Char.isDigit
  let (fraction, rest) := match rest with
    | '.' :: more => (more.takeWhile Char.isDigit, more.dropWhile Char.isDigit)
    | _ => ([], rest)
  if whole.isEmpty && fraction.isEmpty then none
  else
    let e? := match rest with
      | [] => some 0
      | c :: more => if c == 'e' || c == 'E' then exponentOf? more else none
    e?.map fun e => ⟨whole ++ fraction, e - Int.ofNat fraction.length⟩

/-- Below the least magnitude that rounds to no finite number. -/
def DecimalText.isFinite (d : DecimalText) : Bool :=
  let digits := d.digits.dropWhile (· == '0')
  let point := Int.ofNat digits.length + d.exponent
  if digits.isEmpty || point < 300 then true
  else if point > 310 then false
  else
    let n := (Text.naturalIn? 10 digits).getD 0
    let bound := 1 <<< 1024 - 1 <<< 970
    if d.exponent ≥ 0 then n * Nat.pow 10 d.exponent.toNat < bound
    else n < bound * Nat.pow 10 (-d.exponent).toNat

def isFloat (cs : List Char) : Bool :=
  let word := String.ofList cs
  let unsigned := match cs with
    | '+' :: rest => rest
    | _ => cs
  let number := match unsigned with
    | '-' :: rest => rest
    | _ => unsigned
  if cs.head? == some '+' && unsigned.head?.any isSign then false
  else
    String.ofList unsigned ∈ [".inf", ".Inf", ".INF"] ||
      word ∈ ["-.inf", "-.Inf", "-.INF", ".nan", ".NaN", ".NAN"] ||
      (decimalText? number).any (·.isFinite)

/-- Whether the text has to be quoted to stay a text. -/
def isMistakable (s : String) : Bool :=
  let cs := s.toList
  isNullWord s || isBoolWord s || isUnsigned cs || isNegative cs || isPaddedZero cs || isFloat cs

end CloudInventory.Yaml
