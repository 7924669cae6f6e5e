import CloudInventory.Text.Blank
import CloudInventory.Web.Composition
import CloudInventory.Web.DomainTable
import CloudInventory.Web.Punycode

/-! Domain names with characters of all scripts. A name is brought to its common form, cut at its
dots, and every label is checked: an encoded one must decode to text in its composed form, no label
begins with a mark, joiners stand where they join, and in a name with letters from right to left all
labels keep the rule for their direction. -/

namespace CloudInventory.Web.Domain

open CloudInventory.Text (within)

def isAscii (c : Char) : Bool := c.toNat < 0x80

/-- Controls, spaces and the signs that mean something to an address. -/
def isForbidden (c : Char) : Bool :=
  c.toNat ≤ 0x20 || c.toNat == 0x7F || "#%/:<>?@[\\]^|".toList.contains c

def AsciiRun.holds (r : AsciiRun) (c : Char) : Bool := r.first ≤ c.toNat && c.toNat ≤ r.last

/-- What a character outside ASCII stands for; none where it is refused. -/
def commonForm? (c : Char) : Option (List Char) :=
  if within refusedRanges c then none
  else if within ignoredRanges c then some []
  else match asciiRuns.find? (AsciiRun.holds · c) with
    | some r => some [Char.ofNat (r.target + (c.toNat - r.first))]
    | none =>
      match asciiWords.find? fun w => w.1 == c.toNat with
      | some w => some w.2.toList
      | none => some [c]

def stroke : Char := Char.ofNat 0x338

/-- A name in its common form. A comparison sign with a stroke is a sign of its own. -/
def commonForms? : List Char → Option (List Char)
  | [] => some []
  | c :: cs =>
    if isAscii c then
      if isForbidden c && !((c == '<' || c == '>') && cs.head? == some stroke) then none
      else (commonForms? cs).map (c.toLower :: ·)
    else
      match commonForm? c, commonForms? cs with
      | some form, some rest => some (form ++ rest)
      | _, _ => none

/-! ### Labels -/

/-- Whether an encoded label may have the character. -/
def isPlain (c : Char) : Bool :=
  isAscii c || !(within refusedRanges c || within ignoredRanges c || within variantRanges c)

/-- Whether text may stand encoded in a label. -/
def isEncodable (cs : List Char) : Bool :=
  cs.all isPlain && !cs.all isAscii && Composition.composed cs == cs

/-- The characters of a label. -/
def labelText? : List Char → Option (List Char)
  | 'x' :: 'n' :: '-' :: '-' :: code =>
    if code.all isAscii then (Punycode.decode? code).filter isEncodable else none
  | label => some label

/-- Whether joiners stand only behind a mark that joins, or, for the kind that keeps letters
apart, between letters that would join. -/
def joinersFit (before : List Char) : List Char → Bool
  | [] => true
  | c :: cs =>
    let afterVirama := before.head?.any (within viramaRanges)
    let apart (side : List Char) (ranges : List (Nat × Nat)) :=
      (side.dropWhile (within transparentRanges)).head?.any (within ranges)
    let fits :=
      if c.toNat = 0x200D then afterVirama
      else if c.toNat = 0x200C then
        afterVirama || (apart before joinsNextRanges && apart cs joinsPreviousRanges)
      else true
    fits && joinersFit (c :: before) cs

inductive Direction where
  | left
  | right
  | arabicNumber
  | europeanNumber
  | nonspacing
  | neutral
deriving DecidableEq

def direction (c : Char) : Direction :=
  if isAscii c then
    if c.isAlpha then .left else if c.isDigit then .europeanNumber else .neutral
  else if within rightToLeftRanges c then .right
  else if within arabicNumberRanges c then .arabicNumber
  else if within europeanNumberRanges c then .europeanNumber
  else if within nonspacingRanges c then .nonspacing
  else if within neutralRanges c then .neutral
  else .left

def isRightToLeft (c : Char) : Bool :=
  direction c == .right || direction c == .arabicNumber

/-- A label runs in the direction of its first character, and ends with it or a number. -/
def keepsDirection (label : List Char) : Bool :=
  let ds := label.map direction
  let last := (ds.reverse.dropWhile (· == .nonspacing)).head?
  match ds with
  | [] => true
  | .left :: _ =>
    ds.all (fun d => d != .right && d != .arabicNumber) &&
      (last == some .left || last == some .europeanNumber)
  | .right :: _ =>
    ds.all (· != .left) && last != some .neutral &&
      !(ds.contains .europeanNumber && ds.contains .arabicNumber)
  | _ => false

def fits (rightToLeft : Bool) (label : List Char) : Bool :=
  !label.head?.any (within markRanges) && joinersFit [] label &&
    (!rightToLeft || keepsDirection label)

def labels? (name : List Char) : Option (List (List Char)) :=
  match commonForms? name with
  | none => none
  | some form =>
    let labels := Text.splitAt '.' form
    match labels.mapM labelText? with
    | none => none
    | some texts =>
      let rightToLeft := texts.any (·.any isRightToLeft)
      if texts.all (fits rightToLeft) then some labels else none

end CloudInventory.Web.Domain
