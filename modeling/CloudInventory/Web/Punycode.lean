/-! The encoding of a label's characters by letters, digits and hyphens. The basic characters come
first; behind the last hyphen each other character is an insertion, given by how far the reader
counts on before it, through the places of the text so far and then the code points. -/

namespace CloudInventory.Web.Punycode

def digit? (c : Char) : Option Nat :=
  if 'a' ≤ c ∧ c ≤ 'z' then some (c.toNat - 97)
  else if 'A' ≤ c ∧ c ≤ 'Z' then some (c.toNat - 65)
  else if c.isDigit then some (c.toNat - 48 + 26)
  else none

def wordLimit : Nat := 1 <<< 32

/-- What a digit at a position has to reach for another one to follow. -/
def threshold (position bias : Nat) : Nat :=
  if position ≤ bias then 1 else if bias + 26 ≤ position then 26 else position - bias

/-- Brings a distance down to the scale of the next one. -/
def damped : (fuel distance steps : Nat) → Nat × Nat
  | 0, distance, steps => (distance, steps)
  | fuel + 1, distance, steps =>
    if 455 < distance then damped fuel (distance / 35) (steps + 36) else (distance, steps)

def adapt (distance places : Nat) (first : Bool) : Nat :=
  let d := if first then distance / 700 else distance / 2
  let (d, steps) := damped 32 (d + d / places) 0
  steps + 36 * d / (d + 38)

/-- How far the reader has come: characters so far, code point, place, and the bias of the digits. -/
structure Progress where
  text : List Char
  codePoint : Nat
  place : Nat
  bias : Nat

def start (basic : List Char) : Progress := ⟨basic, 128, 0, 72⟩

/-- A distance being read: its value so far, the weight and the position of its next digit. -/
structure Distance where
  value : Nat
  weight : Nat
  position : Nat

def unread : Distance := ⟨0, 1, 36⟩

def insert (distance : Nat) (p : Progress) : Option Progress :=
  let places := p.text.length + 1
  let reached := p.place + distance
  let n := p.codePoint + reached / places
  let i := reached % places
  if n.isValidChar then
    some ⟨p.text.insertIdx i (Char.ofNat n), n, i + 1, adapt distance places (p.place = 0)⟩
  else none

/-- The insertions that digits stand for; none where they end within a distance, or exceed a
word. -/
def insertions (p : Progress) : Distance → List Char → Option (List Char)
  | q, [] => if q.position = 36 then some p.text else none
  | q, c :: cs =>
    match digit? c with
    | none => none
    | some d =>
      let value := q.value + d * q.weight
      let t := threshold q.position p.bias
      let weight := q.weight * (36 - t)
      if wordLimit ≤ p.place + value then none
      else if d < t then
        match insert value p with
        | none => none
        | some p => insertions p unread cs
      else if wordLimit ≤ weight then none
      else insertions p ⟨value, weight, q.position + 36⟩ cs

/-- The basic characters and the digits; a hyphen before all others is a digit, and a wrong one. -/
def parts (cs : List Char) : List Char × List Char :=
  let digits := (cs.reverse.takeWhile (· ≠ '-')).reverse
  let basic := cs.take (cs.length - digits.length - 1)
  if basic.isEmpty then ([], cs) else (basic, digits)

def decode? (cs : List Char) : Option (List Char) :=
  let (basic, digits) := parts cs
  insertions (start basic) unread digits

end CloudInventory.Web.Punycode
