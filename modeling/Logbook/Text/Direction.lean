import Logbook.Text.Runs

/-!
# Directions of writing

The direction in which a character is written, as far as it matters for names. Only characters that
occur in names are told apart.
-/

set_option autoImplicit false

namespace Logbook

/-- The direction of a character. -/
inductive WritingDirection where
  | leftToRight
  | rightToLeft
  /-- Digits that are also used among letters written from the left. -/
  | digit
  /-- Digits that are used among letters written from the right only. -/
  | easternDigit
  /-- The direction of the characters around it. -/
  | neutral
  /-- The direction of the character before it. -/
  | mark
deriving DecidableEq, Repr

namespace WritingDirection

/-- The property `Bidi_Class`: `R` for letters from the right, `E` and `A` for digits, `M` for
marks and `N` for all else that is not `L`. -/
def lines : List String :=
  ["N2f E9 N26 1aN5c 1fN 1c1N1 7Nd 2N1b 1N10 M6f 5N 80N 8cM6 100N5 1M2c R M R M1 R M1 R M 8R24",
    "11N1 R N1 R N R N1 Ma R2f M14 A9 N A1 R2 M R64 M6 1N M5 R1 M1 N M3 R1 E9 R16 M R1d M1a 2R58",
    "Ma R39 M8 R1 N3 R 2M R17 M3 R M8 R M2 R M4 2R28 M2 2R31 7M8 R29 M38 37M 1M 4M7 4M 3M6 aM1",
    "1dM 3aM 4M3 8M 14M1 eN1 7N 2M4 39M 4M10 1eM1 3M bM1 39M 4M7 4M 14M1 dN 8M7 3aM 2M 1M3 8M9",
    "bM1 1eM 3dM cM 25N7 5M 3M 37M 1M2 5M10 bM1 14N6 2M 3aM fM1 14M1 1cM1 39M1 4M3 8M 14M1 1dM",
    "48M 7M4 5aM 2M6 4N 7M7 62M 2M8 bM6 49M1 1bM 1M 1M N3 33Md 1M4 1M1 5M2f 9M 66M3 1M5 1M1 2M1",
    "19M1 4M2 10M3 dM 2M1 6M fM 2bfM2 30N9 66N 29aN1 75M2 1dM1 1eM1 1eM1 43M6 8M 2Ma 7N 1M 12N1a",
    "7aM1 22M 76M2 4M1 9M 6M2 4N5 98N21 17M1 2M 3aM 1M8 1M 2M7 6Mc 30M53 30M 1M4 1M 5M 28M8 cM1",
    "20M3 2M1 1M2 38M 1M1 3M 1M2 3aM7 2M1 98M2 1Mc 1M6 4M 6M 3M1 c6M3f 20cNb5 eM20 13N49 3cN1ab",
    "45N19 1N315 1N152 100N2ff e5N5 4M2 7N6 7fM 60M1f N204 3N18 9M3 2N 6N 5N2 59M1 5N 5aN c4N25",
    "1bdaN3f 5690N36 146N2 5fM3 N M9 N1 1eM1 50M1 eN21 66N 79M 3M 4M 19M1 1N3 M bN1 3aN3 4cM1",
    "1aM11 dM 26M7 19Ma 2eM2 30M 2M3 2M1 27M 43M5 2M1 2M1 cM 8M 2fM 33M 1M2 2M1 5M1 1M 2aM1 8M",
    "73N1 79M 2M 4M 4f30M 93R10 N23c 20Mf 15N1 2cR 28dN 3eN4c 3N10 5cM e2M E1a 7aM4 485R11b 3N",
    "Re0 Me R25 2M7 Ra4 M1 4R4a 3N6 R1e3 M3 8A19 R5 19M4 N R20 d0A1e 1R29 1M1 R1a 8N8 21M5 R45 Ma",
    "R30 M3 R70 aM 36Me bN13 aM 2M1 aM2 31M3 2M1 7M 3dM2 24M4 1M7 3eM cM1 34M8 aM3 2M 5fM2 2M 1M1",
    "6M 2M 9dM 3M7 15M1 39M1 3M 25Me 46M5 dM 1M 1M eM1 55M7 2M2 1M 17M 54M5 1M 4M1 1M1 eeM3 6M1",
    "1M1 1bM1 55M7 2M 1M1 1fNc 3eM 1M 2M5 1M 65M 1M 2M3 1M4 103M8 1M1 100M1 1M 4M 90M7 4M 20M5",
    "2M1 28M5 2M3 8M 9M5 2M2 2eMc 1M1 c6M 1M2 1M c9Md 54M15 2M6 1M1 1M1 7aM14 1M 48M1 3M 1M 15bM1",
    "bM1 34M4 5M 1M 17M 7aN1c 144eM 6Me 2cc8Mb 3M2 9c0M4 3bM6 418M 3fM3 4fN 1M 4cb8M1 f61N2f0",
    "fM46 220M2 11M7 2M6 1eM3 3bN58 M2 N baN56 6a9M36 4M31 8M eM 16M14 550M8f a0M6 177M 3dM3 fN",
    "1ecM3 feM1 f3M 2M 7M1 5M 10aRcf M6 4bR21 M6 R3f2 1b2N23f 3dN2 3dN b2N99a"]

/-- The characters that are not written from the left. -/
def runs : List CharRun := CharRun.ofLines lines

/-- The direction of a character. -/
def ofChar (c : Char) : WritingDirection :=
  match CharRun.kind? runs c with
  | some 'R' => rightToLeft
  | some 'E' => digit
  | some 'A' => easternDigit
  | some 'N' => neutral
  | some 'M' => mark
  | _ => leftToRight

/-- The direction belongs to a text that is written from the right. -/
def isFromRight (direction : WritingDirection) : Bool :=
  direction == rightToLeft || direction == easternDigit

/-- Characters can be told to be written in one direction: they begin with a letter, all others
agree with it, they end in a letter or digit, marks behind it left out, and the two sorts of digits
are not mixed. -/
def isUniform (cs : List Char) : Bool :=
  match cs.map ofChar with
  | [] => true
  | first :: rest =>
    let inner := (rest.reverse.dropWhile (· == mark)).reverse
    match first with
    | leftToRight =>
      inner.all (fun d => !d.isFromRight) &&
        inner.getLast?.all fun d => d == leftToRight || d == digit
    | rightToLeft =>
      inner.all (· != leftToRight) && inner.getLast?.all (fun d => d != neutral) &&
        !(inner.contains digit && inner.contains easternDigit)
    | _ => false

end WritingDirection

end Logbook
