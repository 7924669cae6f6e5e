import CloudInventory.Yaml.Plain

/-! The style in which a text is written. What the characters of the text allow decides: plain
where nothing could be taken for structure, single quotes where nothing is lost in them, a
literal block for several lines, and double quotes with escapes for the rest. -/

namespace CloudInventory.Yaml

inductive Style where
  | plain
  | single
  | double
  | literal
deriving DecidableEq, Repr

def isBreak (c : Char) : Bool :=
  c == '\n' || c == '\r' || c.toNat == 0x85 || c.toNat == 0x2028 || c.toNat == 0x2029

def isBlankOrBreak (c : Char) : Bool := c == ' ' || c == '\t' || isBreak c || c.toNat == 0

/-- The text's end counts as blank. -/
def blankNext : List Char → Bool
  | [] => true
  | c :: _ => isBlankOrBreak c

def isPlainPrintable (c : Char) : Bool :=
  let n := c.toNat
  n == 0x0A || (0x20 ≤ n && n ≤ 0x7E) ||
    (0xA0 ≤ n && n != 0xFEFF && n != 0xFFFE && n != 0xFFFF)

def startIndicators : List Char :=
  ['#', ',', '[', ']', '\x7b', '\x7d', '&', '*', '!', '|', '>', '\'', '"', '%', '@', '\x60']

/-- Whether the first character, with what follows it, would begin something else. -/
def startsStructure : List Char → Bool
  | [] => false
  | c :: rest =>
    c ∈ startIndicators || ((c == '?' || c == ':' || c == '-') && blankNext rest)

/-- Whether a later character would end the text: a colon before a blank, a number sign after
one. -/
def breaksOff (afterBlank : Bool) : List Char → Bool
  | [] => false
  | c :: rest =>
    (c == ':' && blankNext rest) || (c == '#' && afterBlank) || breaksOff (isBlankOrBreak c) rest

def startsMarker (cs : List Char) : Bool :=
  ['-', '-', '-'].isPrefixOf cs || ['.', '.', '.'].isPrefixOf cs

def hasPair (first second : Char → Bool) : List Char → Bool
  | a :: b :: rest => (first a && second b) || hasPair first second (b :: rest)
  | _ => false

/-- What the characters of a text allow. -/
structure Profile where
  lines : Bool
  plain : Bool
  single : Bool
  block : Bool

def profile (cs : List Char) : Profile :=
  let isSpace := fun c => c == ' '
  let indicators := startsMarker cs || startsStructure cs ||
    (match cs with
      | [] => false
      | c :: rest => breaksOff (isBlankOrBreak c) rest)
  let special := cs.any fun c => !isPlainPrintable c
  let lines := cs.any isBreak
  let edges := cs.head?.any (fun c => isSpace c || isBreak c) ||
    cs.getLast?.any (fun c => isSpace c || isBreak c)
  let breakSpace := hasPair isBreak isSpace cs
  let spaceBreak := hasPair isSpace isBreak cs
  { lines := lines
    plain := !(indicators || special || lines || edges || breakSpace || spaceBreak)
    single := !(breakSpace || spaceBreak || special)
    block := !cs.isEmpty && !(cs.getLast?.any isSpace || spaceBreak || special) }

def preferredStyle (s : String) : Style :=
  if s.toList.contains '\n' then .literal
  else if isMistakable s then .single
  else .plain

def valueStyle (s : String) : Style :=
  let p := profile s.toList
  match preferredStyle s with
  | .plain => if p.plain then .plain else if p.single then .single else .double
  | .single => if p.single then .single else .double
  | .literal => if p.block then .literal else .double
  | .double => .double

/-- The longest key, in octets, that stands before its colon on one line. -/
def simpleKeyLimit : Nat := 128

def isSimpleKey (s : String) : Bool :=
  !(profile s.toList).lines && s.utf8ByteSize ≤ simpleKeyLimit

def spaces (n : Nat) : List Char := List.replicate n ' '

def upperHex (width n : Nat) : List Char :=
  let ds := (Nat.toDigits 16 n).map Char.toUpper
  List.replicate (width - ds.length) '0' ++ ds

def escapedChar (c : Char) : List Char :=
  let n := c.toNat
  if isPlainPrintable c && !isBreak c && c != '"' && c != '\\' then [c]
  else '\\' :: (
    if n == 0 then ['0']
    else if n == 7 then ['a']
    else if n == 8 then ['b']
    else if n == 9 then ['t']
    else if n == 10 then ['n']
    else if n == 11 then ['v']
    else if n == 12 then ['f']
    else if n == 13 then ['r']
    else if n == 0x1B then ['e']
    else if n == 0x22 then ['"']
    else if n == 0x5C then ['\\']
    else if n == 0x85 then ['N']
    else if n == 0x2028 then ['L']
    else if n == 0x2029 then ['P']
    else if n ≤ 0xFF then 'x' :: upperHex 2 n
    else if n ≤ 0xFFFF then 'u' :: upperHex 4 n
    else 'U' :: upperHex 8 n)

def doubleQuoted (cs : List Char) : List Char := '"' :: (cs.flatMap escapedChar ++ ['"'])

/-- Quotes are doubled, and the text after a break is indented. -/
def singleQuotedFrom (indent : Nat) (afterBreak : Bool) : List Char → List Char
  | [] => if afterBreak then spaces indent ++ ['\''] else ['\'']
  | c :: cs =>
    if isBreak c then c :: singleQuotedFrom indent true cs
    else
      (if afterBreak then spaces indent else []) ++
        (if c == '\'' then ['\'', '\''] else [c]) ++ singleQuotedFrom indent false cs

def singleQuoted (indent : Nat) (cs : List Char) : List Char :=
  '\'' :: singleQuotedFrom indent false cs

/-- How the breaks at the end of a literal block are kept. -/
def chomping (cs : List Char) : List Char :=
  match cs.reverse with
  | [] => ['-']
  | c :: rest =>
    if !isBreak c then ['-']
    else match rest with
      | [] => ['+']
      | d :: _ => if isBreak d then ['+'] else []

def literalLines (indent : Nat) (afterBreak : Bool) : List Char → List Char
  | [] => []
  | c :: cs =>
    if isBreak c then c :: literalLines indent true cs
    else (if afterBreak then spaces indent else []) ++ c :: literalLines indent false cs

def literalBlock (indent : Nat) (cs : List Char) : List Char :=
  let hint := if cs.head?.any (fun c => c == ' ' || isBreak c) then ['2'] else []
  '|' :: (hint ++ chomping cs ++ '\n' :: literalLines indent true cs)

def textIn (indent : Nat) (s : String) : List Char :=
  let cs := s.toList
  match valueStyle s with
  | .plain => cs
  | .single => singleQuoted indent cs
  | .double => doubleQuoted cs
  | .literal => literalBlock indent cs

end CloudInventory.Yaml
