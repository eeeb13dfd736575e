import Logbook.Text.Combining

/-!
# Joined letters

In some scripts letters are joined with their neighbours. Two characters without a width stand
between letters to have them joined or not; they mean something only where letters would be joined
otherwise, or behind a sign that takes the vowel from a consonant.
-/

set_option autoImplicit false

namespace Logbook

namespace Joining

/-- The property `Joining_Type` of characters that occur in names: `L`, `R` and `D` for letters
that are joined with the next one, the one before or both, and `T` for characters that do not
matter. -/
def lines : List String :=
  ["300T6f 113T6 107T2c 1T 1T1 1T1 1T 48Ta 5D 1R3 D R D R D4 R3 Dc 1D6 R D1 T14 eD1 T R2 5De R11",
    "D25 R D1 R8 D R D R D1 R1 1R T6 2T5 2T1 1T3 R1 aD2 2D 10R T D2 R4 D3 R D8 R D R D R D1 R T1a",
    "2R Da R2 De R1 D3 R D R1 D2 R1 D5 26Ta 19D20 T8 9T 18T3 1T8 1T2 1T4 12R D4 R1 D R D9 R D R2",
    "T2 4D 1D3 1R D R19 3D 2D4 R D 7T8 D9 R2 1R D1 R1 D5 R De 1T38 37T 1T 4T7 4T 3T6 aT1 1dT 3aT",
    "4T3 8T 14T1 1aT4 39T 4T10 1eT1 3T bT1 39T 4T7 4T 14T1 16T7 3aT 2T 1T3 8T9 bT1 1eT 3dT cT 32T",
    "3T 37T 1T2 5T10 bT1 1dT 3aT 2T 6T 5T1 14T1 1cT1 39T1 4T3 8T 14T1 1dT 48T 7T4 5aT 2T6 cT7 62T",
    "2T8 bT6 49T1 1bT 1T 1T 37Td 1T4 1T1 5T2f 9T 66T3 1T5 1T1 2T1 19T1 4T2 10T3 dT 2T1 6T fT",
    "2bfT2 3b2T2 1dT1 1eT1 1eT1 43T6 8T 2Ta 9T 29D 18D58 cT1 D21 T D 75T2 4T1 9T 6T2 dbT1 2T 3aT",
    "1T8 1T 2T7 6Tc 30T53 30T 1T4 1T 5T 28T8 cT1 20T3 2T1 1T2 38T 1T1 3T 1T2 3aT7 2T1 98T2 1Tc",
    "1T6 4T 6T 3T1 c6T3f 2d0T20 bfeT2 8dT 60T1f 22aT3 6bT1 75d4T3 1T9 20T1 50T1 110T 3T 4T 19T1",
    "5T 13D31 L 51T1 1aT11 dT 26T7 19Ta 2eT2 30T 2T3 2T1 27T 43T5 2T1 2T1 cT 8T 2fT 33T 1T2 2T1",
    "5T1 1T 2aT1 8T eeT 2T 4T 4f30T 301Tf 3cdT e2T 95T4 686Te 28T7 80D4 R 1R 1R1 2L R4 D3 L D4 R",
    "D2 R 2R T1 4D3 R 90D R D R2 D2 R D1 R D R1 D R 17R3 D1 151L D20 R D T3 41T4 13dT1 15R D1 1D1",
    "32T5 30D2 R D10 1Ta D2 R 1bD3 R1 Db T3 2aD 1D1 R2 1D R1 D1 R D1 1D R1 D 4R D L 35T 36Te 29T",
    "2T1 aT2 31T3 2T1 7T 3dT2 24T4 1T7 3eT cT1 34T8 aT3 2T 5fT2 2T 1T1 6T 2T 9dT 3T7 15T1 39T1 3T",
    "25Te 46T5 dT 1T 1T eT1 55T7 2T2 1T 17T 54T5 1T 4T1 1T1 eeT3 6T1 1T1 1bT1 55T7 2T 1T1 6aT 1T",
    "2T5 1T 65T 1T 2T3 1T4 103T8 1T1 100T1 1T 4T 90T7 4T 20T9 28T5 2T3 8T 9T5 2T2 2eTc 1T1 c6T",
    "1T2 1T c9Td 1T 52T15 2T6 1T1 1T1 7aT14 1T 48T1 3T 1T 15bT1 bT1 34T4 5T 1T 17T 14e5T 6Te",
    "2cc8Tb 3T2 9c0T4 3bT6 418T 3fT3 51T 4cb8T1 1261T46 220T2 11T7 2T6 1eT3 94T2 7bbT36 4T31 8T",
    "eT 16T14 550T8f a0T6 177T 3dT3 1fcT3 feT1 f3T 2T 7T1 5T 1daT6 4bD21 T7"]

/-- The characters that are joined with others, and those that do not matter. -/
def runs : List CharRun := CharRun.ofLines lines

/-- The letter that is met first is of one of some kinds. -/
def meets (kinds : List Char) : List Char → Bool
  | [] => false
  | c :: cs =>
    match CharRun.kind? runs c with
    | none => false
    | some kind => kinds.contains kind || kind == 'T' && meets kinds cs

/-- The character that keeps letters apart. -/
def nonJoiner : Char := '\u200c'

/-- The character that joins letters. -/
def joiner : Char := '\u200d'

/-- Each joiner and each of its opposites means something. `before` are the characters before, the
last one first. -/
def isMeaningful (before : List Char) : List Char → Bool
  | [] => true
  | c :: cs =>
    let isHere :=
      if c = joiner ∨ c = nonJoiner then
        before.head?.any isVowelKiller ||
          c == nonJoiner && meets ['L', 'D'] before && meets ['R', 'D'] cs
      else true
    isHere && isMeaningful (c :: before) cs

end Joining

end Logbook
