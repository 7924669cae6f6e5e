import CloudInventory.Text.Percent
import CloudInventory.Web.Address
import CloudInventory.Web.Domain

/-! The reading of absolute addresses, as far as their scheme and their host go. Schemes that are
known have a host, however many slashes lead to it; a file may do without one; after any other
scheme two slashes announce a host. -/

namespace CloudInventory.Web.Url

inductive Flaw where
  | relative
  | emptyHost
  | port
  | ipv4
  | ipv6
  | domain
  | hostCharacter
deriving DecidableEq, Repr

def Flaw.message : Flaw → String
  | .relative => "relative URL without a base"
  | .emptyHost => "empty host"
  | .port => "invalid port number"
  | .ipv4 => "invalid IPv4 address"
  | .ipv6 => "invalid IPv6 address"
  | .domain => "invalid international domain name"
  | .hostCharacter => "invalid domain character"

inductive Kind where
  /-- Known, with a host. -/
  | special
  | file
  | other
deriving DecidableEq

def kindOf (scheme : List Char) : Kind :=
  let s := String.ofList scheme
  if s == "file" then .file
  else if ["http", "https", "ws", "wss", "ftp"].contains s then .special
  else .other

/-! ### Text before it is read -/

def isEdge (c : Char) : Bool := c.toNat ≤ 0x20

/-- Without controls and spaces around it, and without tabs and line ends anywhere. -/
def cleaned (cs : List Char) : List Char :=
  let cs := ((cs.dropWhile isEdge).reverse.dropWhile isEdge).reverse
  cs.filter fun c => c != '\t' && c != '\n' && c != '\r'

def isSchemeChar (c : Char) : Bool := c.isAlphanum || c == '+' || c == '-' || c == '.'

/-- The scheme, in small letters, and what follows its colon. -/
def splitScheme? (cs : List Char) : Option (List Char × List Char) :=
  match cs.dropWhile isSchemeChar with
  | ':' :: rest =>
    if cs.head?.any Char.isAlpha then some ((cs.takeWhile isSchemeChar).map Char.toLower, rest)
    else none
  | _ => none

/-! ### Hosts -/

/-- Whether the character ends the part of an address that names its host. -/
def endsAuthority (kind : Kind) (c : Char) : Bool :=
  c == '/' || c == '?' || c == '#' || (kind != .other && c == '\\')

/-- The host, and what follows it: a colon ends it unless it stands in brackets. -/
def splitHost (kind : Kind) : (inBrackets : Bool) → List Char → List Char × List Char
  | _, [] => ([], [])
  | inBrackets, c :: cs =>
    if endsAuthority kind c || (c == ':' && !inBrackets) then ([], c :: cs)
    else
      let (host, rest) := splitHost kind (c == '[' || (inBrackets && c != ']')) cs
      (c :: host, rest)

def bracketed? : List Char → Option (Except Flaw Unit)
  | '[' :: cs =>
    if cs.getLast? = some ']' ∧ Ipv6.isValid cs.dropLast then some (.ok ()) else some (.error .ipv6)
  | _ => none

def checkDomain (host : List Char) : Except Flaw Unit :=
  match bracketed? host with
  | some r => r
  | none =>
    match Domain.labels? (Text.ofUtf8Lossy (Text.percentDecode (Text.utf8Octets host))).toList with
    | none => .error .domain
    | some [[]] => .error .emptyHost
    | some labels =>
      if Ipv4.isMeant labels && !Ipv4.isValid labels then .error .ipv4 else .ok ()

def isForbiddenHostChar (c : Char) : Bool :=
  c == '\x00' || c == ' ' || "#/:<>?@[\\]^|".toList.contains c

def checkOpaque (host : List Char) : Except Flaw Unit :=
  match bracketed? host with
  | some r => r
  | none => if host.any isForbiddenHostChar then .error .hostCharacter else .ok ()

/-- Digits up to the end of the part that names the host. -/
def checkPort (cs : List Char) : Except Flaw Unit :=
  let ds := cs.takeWhile Char.isDigit
  let ended := (cs.drop ds.length).head?.all fun c => endsAuthority .special c
  if (Text.valueIn? 10 ds).any (· ≤ 65535) ∧ ended then .ok () else .error .port

def checkHost (kind : Kind) (credentials : Bool) (cs : List Char) : Except Flaw Unit :=
  let (host, rest) := splitHost kind false cs
  if host.isEmpty then
    if kind = .special ∨ rest.head? = some ':' ∨ credentials then .error .emptyHost else .ok ()
  else do
    if kind = .special then checkDomain host else checkOpaque host
    match rest with
    | ':' :: port => checkPort port
    | _ => .ok ()

/-- Cuts behind the last at-sign that stands before the host's end. -/
def splitUser? (kind : Kind) (cs : List Char) : Option (List Char × List Char) :=
  let authority := cs.takeWhile fun c => !endsAuthority kind c
  let host := (authority.reverse.takeWhile (· ≠ '@')).reverse
  if host.length = authority.length then none
  else
    let user := authority.take (authority.length - host.length - 1)
    some (user, cs.drop (user.length + 1))

def checkAuthority (kind : Kind) (cs : List Char) : Except Flaw Unit :=
  match splitUser? kind cs with
  | none => checkHost kind false cs
  | some ([], c :: rest) =>
    if endsAuthority kind c then .error .emptyHost else checkHost kind false (c :: rest)
  | some (user, rest) => checkHost kind (user != [] && user != [':']) rest

/-- A drive stands where a file's host would. -/
def isDrive : List Char → Bool
  | [c, d] => c.isAlpha && (d == ':' || d == '|')
  | _ => false

def isSlash (c : Char) : Bool := c == '/' || c == '\\'

def checkFile : List Char → Except Flaw Unit
  | a :: b :: rest =>
    if isSlash a && isSlash b then
      let host := rest.takeWhile fun c => !endsAuthority .file c
      if host.isEmpty || isDrive host then .ok () else checkDomain host
    else .ok ()
  | _ => .ok ()

/-! ### Addresses -/

def checkRest (kind : Kind) (rest : List Char) : Except Flaw Unit :=
  match kind, rest with
  | .special, rest => checkAuthority .special (rest.dropWhile isSlash)
  | .file, rest => checkFile rest
  | .other, '/' :: '/' :: rest => checkAuthority .other rest
  | .other, _ => .ok ()

/-- The scheme of an absolute address, or what is wrong with it. -/
def scheme (text : String) : Except Flaw String :=
  match splitScheme? (cleaned text.toList) with
  | none => .error .relative
  | some (scheme, rest) => (checkRest (kindOf scheme) rest).map fun _ => String.ofList scheme

end CloudInventory.Web.Url
