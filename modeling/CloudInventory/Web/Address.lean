import CloudInventory.Text.Blank
import CloudInventory.Text.Digit

/-! Numeric addresses of hosts, of both kinds. -/

namespace CloudInventory.Web

namespace Ipv4

/-- A number in decimal, octal after a zero, or hexadecimal notation. -/
def number? : List Char → Option Nat
  | [] => none
  | '0' :: 'x' :: ds | '0' :: 'X' :: ds => Text.valueIn? 16 ds
  | '0' :: d :: ds => Text.valueIn? 8 (d :: ds)
  | ds => Text.valueIn? 10 ds

/-- The parts between dots, without the empty one after a dot at the end. -/
def partsOf (labels : List (List Char)) : List (List Char) :=
  if labels.getLast? = some [] then labels.dropLast else labels

/-- Whether a name can be nothing but an address: its last part is a number, or has only digits. -/
def isMeant (labels : List (List Char)) : Bool :=
  match (partsOf labels).getLast? with
  | none => false
  | some last => (!last.isEmpty && last.all Char.isDigit) || (number? last).isSome

/-- Up to four numbers; all but the last fill an octet, and the last one what is left. -/
def isValid (labels : List (List Char)) : Bool :=
  let parts := partsOf labels
  match parts.mapM number? with
  | none => false
  | some ns =>
    match ns.getLast? with
    | none => false
    | some last => ns.length ≤ 4 && ns.dropLast.all (· ≤ 255) && last < 1 <<< (8 * (5 - ns.length))

end Ipv4

namespace Ipv6

/-- A decimal number of one octet, without zeros before it. -/
def isOctet : List Char → Bool
  | [] => false
  | ['0'] => true
  | '0' :: _ => false
  | ds => (Text.valueIn? 10 ds).any (· ≤ 255)

/-- Four octets, at the place of the last two pieces. -/
def isTail (cs : List Char) : Bool :=
  let parts := Text.splitAt '.' cs
  parts.length == 4 && parts.all isOctet

/-- The pieces from here on, `seen` of them passed; `gap` tells whether some were left out. Every
step takes a character. -/
def piecesFit : (fuel seen : Nat) → (gap : Bool) → List Char → Bool
  | 0, _, _, _ => false
  | _ + 1, seen, gap, [] => gap || seen == 8
  | fuel + 1, seen, gap, c :: cs =>
    if seen = 8 then false
    else if c = ':' then !gap && piecesFit fuel (seen + 1) true cs
    else
      let ds := ((c :: cs).take 4).takeWhile fun d => (Text.digitIn? 16 d).isSome
      !ds.isEmpty &&
        match (c :: cs).drop ds.length with
        | [] => piecesFit fuel (seen + 1) gap []
        | [':'] => false
        | ':' :: rest => piecesFit fuel (seen + 1) gap rest
        | '.' :: _ => seen ≤ 6 && isTail (c :: cs) && (gap || seen == 6)
        | _ => false

/-- Eight pieces of up to four hexadecimal digits; two colons stand for some that are zero. -/
def isValid : List Char → Bool
  | ':' :: ':' :: rest => piecesFit (rest.length + 1) 1 true rest
  | ':' :: _ => false
  | cs => piecesFit (cs.length + 1) 0 false cs

end Ipv6

end CloudInventory.Web
