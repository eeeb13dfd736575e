import Logbook.Number.Power

/-!
# Punycode

A label of a domain name with characters outside of ASCII is written in ASCII: its ASCII characters,
a hyphen, and a sequence of numbers that tell which characters to insert where. The numbers are
written in base 36 with the least significant digit first; how many digits a number is expected to
have is adapted to the numbers before it.
-/

set_option autoImplicit false

namespace Logbook

namespace Punycode

/-- The character of a digit of base 36. -/
def digitChar (d : Nat) : Char := if d < 26 then Char.ofNat (97 + d) else Char.ofNat (22 + d)

/-- The value of a digit of base 36. -/
def digitValue? (c : Char) : Option Nat :=
  if 'a' ≤ c ∧ c ≤ 'z' then some (c.toNat - 97)
  else if 'A' ≤ c ∧ c ≤ 'Z' then some (c.toNat - 65)
  else if '0' ≤ c ∧ c ≤ '9' then some (c.toNat - 22)
  else none

/-- The digit below which a number ends, at a place counted in steps of 36. -/
def threshold (place bias : Nat) : Nat := max 1 (min 26 (place - bias))

theorem threshold_pos (place bias : Nat) : 1 ≤ threshold place bias := by
  unfold threshold; omega

theorem threshold_le (place bias : Nat) : threshold place bias ≤ 26 := by
  unfold threshold; omega

/-- The bias for the next number: the size that this one, spread over the characters so far, has. -/
def biasOf (delta : Nat) (place : Nat) : Nat :=
  if 455 < delta then biasOf (delta / 35) (place + 36) else place + 36 * delta / (delta + 38)
termination_by delta

/-- The bias after a number by which the `count`-th character is inserted. -/
def adapt (delta count : Nat) (first : Bool) : Nat :=
  let damped := if first then delta / 700 else delta / 2
  biasOf (damped + damped / count) 0

/-- The digits of a number from a place on. -/
def encodeNumber (bias place n : Nat) : List Char :=
  let t := threshold place bias
  if n < t then [digitChar n]
  else digitChar (t + (n - t) % (36 - t)) :: encodeNumber bias (place + 36) ((n - t) / (36 - t))
termination_by n
decreasing_by
  have := threshold_pos place bias
  have := threshold_le place bias
  exact Nat.lt_of_le_of_lt (Nat.div_le_self _ _) (by omega)

/-- The state of an encoder: what is written, the number that is being formed, the bias and how
many characters are placed. -/
structure Progress where
  written : List Char
  delta : Nat
  bias : Nat
  placed : Nat

/-- Passes over one character of the label while those with the code `code` are being placed. -/
def encodeChar (code basic : Nat) (progress : Progress) (c : Char) : Progress :=
  if c.toNat < code then { progress with delta := progress.delta + 1 }
  else if c.toNat = code then
    { written := progress.written ++ encodeNumber progress.bias 36 progress.delta
      delta := 0
      bias := adapt progress.delta (progress.placed + 1) (progress.placed == basic)
      placed := progress.placed + 1 }
  else progress

/-- Places the characters of the codes, which ascend, beginning at the code `code`. -/
def encodeCodes (label : List Char) (basic : Nat) :
    List Nat → Nat → Progress → Progress
  | [], _, progress => progress
  | next :: codes, code, progress =>
    let start :=
      { progress with delta := progress.delta + (next - code) * (progress.placed + 1) }
    let stop := label.foldl (encodeChar next basic) start
    encodeCodes label basic codes (next + 1) { stop with delta := stop.delta + 1 }

/-- A label in ASCII. -/
def encode (label : List Char) : List Char :=
  let basic := label.filter fun c => c.toNat < 128
  let codes := ((label.filter fun c => 128 ≤ c.toNat).map Char.toNat).mergeSort.eraseDups
  let start := if basic.isEmpty then [] else basic ++ ['-']
  (encodeCodes label basic.length codes 128 ⟨start, 0, 72, basic.length⟩).written

/-- Numbers are below this while they are read. -/
def numberBound : Nat := 2 ^ 32

/-- The number at the front of some digits, added to `value`, and the digits behind it. -/
def decodeNumber? (bias : Nat) : List Char → Nat → Nat → Nat → Option (Nat × List Char)
  | [], _, _, _ => none
  | c :: cs, place, weight, value =>
    match digitValue? c with
    | none => none
    | some d =>
      let t := threshold place bias
      let value := value + d * weight
      let weight := weight * (36 - t)
      if numberBound ≤ value then none
      else if d < t then some (value, cs)
      else if numberBound ≤ weight then none
      else decodeNumber? bias cs (place + 36) weight value

/-- Inserts characters as the numbers tell; `fuel` bounds how many. -/
def decodeCodes? (bias code place : Nat) (label : List Char) :
    Nat → List Char → Option (List Char)
  | _, [] => some label
  | 0, _ => none
  | fuel + 1, cs => do
    let (value, rest) ← decodeNumber? bias cs 36 1 place
    let count := label.length + 1
    let next := code + value / count
    let target := value % count
    if h : next.isValidChar then
      decodeCodes? (adapt (value - place) count (place == 0)) next (target + 1)
        (label.insertIdx target (Char.ofNatAux next h)) fuel rest
    else
      none

/-- The label that an ASCII text stands for. A hyphen with nothing before it is none that ends the
ASCII characters. -/
def decode? (cs : List Char) : Option (List Char) :=
  let tail := (cs.reverse.takeWhile (· != '-')).reverse
  let basic := (cs.take (cs.length - tail.length)).dropLast
  let tail := if basic = [] then cs else tail
  decodeCodes? 72 128 0 basic tail.length tail

end Punycode

end Logbook
