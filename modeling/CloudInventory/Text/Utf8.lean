/-! The UTF-8 encoding of text: sizes, prefixes that end on a character, and the reading of
octets in which every ill-formed part becomes one replacement character. -/

namespace CloudInventory.Text

def utf8Size (cs : List Char) : Nat := cs.foldl (fun n c => n + c.utf8Size) 0

/-- The longest prefix of at most `limit` octets that ends on a character. -/
def utf8Prefix (limit : Nat) : List Char → List Char
  | [] => []
  | c :: cs => if c.utf8Size ≤ limit then c :: utf8Prefix (limit - c.utf8Size) cs else []

def utf8Octets (cs : List Char) : List UInt8 := (String.ofList cs).toUTF8.toList

def replacement : Char := Char.ofNat 0xFFFD

/-- What a lead octet announces: the number of octets that follow it, the range of the first of
them, and the bits the lead octet itself carries. -/
structure Lead where
  more : Nat
  low : Nat
  high : Nat
  bits : Nat

def lead? (b : Nat) : Option Lead :=
  if b < 0x80 then some ⟨0, 0, 0, b⟩
  else if 0xC2 ≤ b ∧ b ≤ 0xDF then some ⟨1, 0x80, 0xBF, b - 0xC0⟩
  else if b = 0xE0 then some ⟨2, 0xA0, 0xBF, 0⟩
  else if b = 0xED then some ⟨2, 0x80, 0x9F, 0xD⟩
  else if 0xE1 ≤ b ∧ b ≤ 0xEF then some ⟨2, 0x80, 0xBF, b - 0xE0⟩
  else if b = 0xF0 then some ⟨3, 0x90, 0xBF, 0⟩
  else if b = 0xF4 then some ⟨3, 0x80, 0x8F, 4⟩
  else if 0xF1 ≤ b ∧ b ≤ 0xF3 then some ⟨3, 0x80, 0xBF, b - 0xF0⟩
  else none

/-- Where the reader of octets stands: between characters, or inside one. -/
inductive Utf8State where
  | start
  | inside (owed low high bits : Nat)

def utf8Start (b : Nat) : List Char × Utf8State :=
  match lead? b with
  | none => ([replacement], .start)
  | some ⟨0, _, _, bits⟩ => ([Char.ofNat bits], .start)
  | some ⟨more + 1, low, high, bits⟩ => ([], .inside (more + 1) low high bits)

/-- An octet that cannot continue the character at hand ends it with a replacement and is then
read between characters. -/
def utf8Step (s : Utf8State) (b : Nat) : List Char × Utf8State :=
  match s with
  | .start => utf8Start b
  | .inside owed low high bits =>
    if low ≤ b ∧ b ≤ high then
      let bits := bits * 64 + (b - 0x80)
      if owed ≤ 1 then ([Char.ofNat bits], .start) else ([], .inside (owed - 1) 0x80 0xBF bits)
    else
      let (cs, next) := utf8Start b
      (replacement :: cs, next)

def utf8Chars : Utf8State → List UInt8 → List Char
  | .start, [] => []
  | .inside .., [] => [replacement]
  | s, b :: rest =>
    let (cs, next) := utf8Step s b.toNat
    cs ++ utf8Chars next rest

def ofUtf8Lossy (octets : List UInt8) : String := String.ofList (utf8Chars .start octets)

/-- The text of well-formed octets only. -/
def ofUtf8? (octets : List UInt8) : Option String := String.fromUTF8? (ByteArray.mk octets.toArray)

end CloudInventory.Text
