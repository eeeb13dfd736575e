import Logbook.Text.Runs

/-!
# Characters that can be shown

Two properties of characters: those without a visible form of their own (controls, format
characters, separators other than the blank, private and unassigned ones, and letters that are
never shown), and those that extend the character before them (`Grapheme_Extend`).
-/

set_option autoImplicit false

namespace Logbook

/-- The general categories `C` and `Z`, the blank left out, and the property
`Default_Ignorable_Code_Point`. -/
def hiddenLines : List String :=
  ["H1f 5fH21 cH 2a1H 28H1 6H3 7H 1H 14H 18dH 26H1 32H1 3H 37H7 1bH3 6H10 16H c0H 30H1 3bH1 65Hd",
    "3bH1 31H1 fH 1cH1 1H bH4 20H6 4bH a1H 8H1 2H1 16H 7H 1H2 4H1 9H1 2H1 4H7 1H3 2H 5H1 19H1 3H",
    "6H3 2H1 16H 7H 2H 2H 2H1 1H 5H3 2H1 3H2 1H6 4H 1H6 11H9 3H 9H 3H 16H 7H 2H 5H1 aH 3H 3H1 1He",
    "4H1 cH6 7H 3H 8H1 2H1 16H 7H 2H 5H1 9H1 2H1 3H6 3H3 2H 5H1 12H9 2H 6H2 3H 4H2 2H 1H 2H2 2H2",
    "3H2 cH3 5H2 3H 4H1 1H5 1Hd 15H4 dH 3H 17H 10H1 9H 3H 4H6 2H 3H 2H1 4H1 aH6 16H 3H 17H aH 5H1",
    "9H 3H 4H6 2H4 3H 4H1 aH 3Hb dH 3H 33H 3H 6H3 10H1 1aH 3H 12H2 18H 9H 1H1 7H2 1H3 6H 1H 8H5",
    "aH1 3Hb 3aH3 1dH24 2H 1H 5H 18H 1H 17H1 5H 1H 7H aH1 4H1f 48H 24H3 27H 24H fH dH24 c6H 1H4",
    "1H1 8fH1 e8H 4H1 7H 1H 4H1 29H 4H1 21H 4H1 7H 1H 4H1 fH 39H 4H1 43H1 20H2 1aH5 56H1 6H1 280H",
    "1cH2 59H6 16H8 18H8 14Hb dH 3H 2Hb 34H1 28H1 aH5 aH5 bH4 aH5 59H6 2bH4 46H9 1fH cH3 cH3 1H2",
    "2aH1 5Ha 2cH3 1aH5 bH2 3eH1 41H 1dH1 bH5 aH5 eH1 2eH1 cH13 4dH a6H7 3cH2 fH2 3eH4 2bH1 bH7",
    "2bH4 216H1 6H1 26H1 6H1 8H 1H 1H 1H 1fH1 35H fH eH1 6H 13H1 3H 9H10 18H7 2fH10 2H1 1bH dH2",
    "22Hd 21He 8cH3 29aH15 bH14 714H1 17eH4 2dH 1H4 1H1 38H6 2Hd 18H8 7H 7H 7H 7H 7H 7H 7H 7H",
    "7eH21 1aH 59Hb d6H19 10H 3fH 56H1 67H4 2bH 33H 2aH 56H8 30H 726dH2 37H8 15cH13 b8H7 ddH13",
    "3cH2 aH5 38H7 46H7 cH5 74Ha 1eH2 4eH bH3 21H 37H8 eH1 aH1 67H17 1cH9 6H1 6H1 6H8 7H 7H 3cH3",
    "7eH1 aH5 2ba4Hb 17H3 31H2103 16eH1 6aH25 7Hb 5H4 1aH 5H 1H 2H 2H 28aH1f 10Hf aH5 33H 13H 4H3",
    "5H 87H3 9fH 1eH2 6H1 6H1 6H1 3H2 7H 7Hc 2H1 cH 1aH 13H 2H fH1 eH21 7bH4 3H3 2dH2 58H dH2",
    "1H2e 2eH81 1dH2 31He 1cH3 24H8 1eH4 2bH4 1eH 25H3 eH29 9eH1 aH5 24H3 24H3 28H7 34Ha cH fH 7H",
    "2H bH fH 7H 2H2 34Hb 137H8 16H9 8H17 6H 2aH 9H44 6H1 1H 2cH 2H2 1H1 17H 48H7 9H2f 13H 2H4",
    "21H2 1bH4 1bH25 38H3 14H1 32H 2H4 8H 3H 1dH1 3H3 aH6 9H6 40H1f 27H3 cH8 36H2 1dH1 1bH4 1aH6",
    "4Hb 7H4f 49H36 33Hc 33H6 2eH7 aH5 26H2 1dH7 2Hcf 1fH 2aH 3H1 2Hf 6H7 9H20 2eH7 2aH15 1aH25",
    "1cH13 17H8 4eH3 24H8 3eH 5Hc 19H6 aH5 35H 12H7 27H8 60H 14Ha 12H 2fH3d 7H 1H 4H fH bH5 3bH4",
    "aH5 4H 8H1 2H1 16H 7H 2H 5H aH1 2H1 3H1 1H5 1H4 7H1 7H2 5Ha aH 1H1 1H 26H aH 1H1 1H 4H aH",
    "2H7 2H1c 5cH 5H1d 48H7 aHa5 36H1 26H21 45Ha aH5 dH12 3aH5 aH5 14H1b 1bH1 fH3 17Hb8 3cH63",
    "53Hb 8H1 1H1 8H 2H 1eH 2H1 cH8 aH45 8H1 2eH1 bH1a 48H7 53Hc 49H6 aH55 8H57 22Hd aH5 9H 2dH",
    "eH9 1dH2 20H1 16H eH48 7H 2H 2cH2 1H 2H 9H7 aH5 6H 2H 25H 2H 6H6 aH5 2cH3 aHf5 19H6 11H 29H2",
    "1dH54 1He 32Hc 39bH65 6fH 5Ha c4Ha4b 63Hc 430Hf 16H9 f9bH4 247H1ab8 3aH6c5 239H6 1fH aH3 51H",
    "aH5 1eH1 6H9 46H9 aH 7H 15H4 13H1af 3aHc5 5bH4 19H1 19H2b 4bH3 39H6 11H3f 5Ha 7H8 1cd6H28",
    "20H60 73H21fc 4H 7H 2H 123He 1H1c 3H1 1Hd 4H7 18cH903 6bH4 dH2 9H6 aH1 4Hf5f fdH2 1b4H5 17He",
    "11He 2eH1 17H8 74H3b f6H9 27H1 4aH7 70H14 46H79 14Hb 14Hb 57H8 19H86 55H 47H 2H1 1H1 2H1 4H",
    "cH 1H 7H 41H 4H1 8H 7H 1cH 4H 5H 1H2 7H 154H1 124H1 2beHe 5H fH44f 1fH5 6Hd4 7H 11H1 7H 2H",
    "5H4 3eH20 1H6f 2dH2 eH1 aH3 2H13f 1fH10 3aH4 1H1cf 2aHd5 2bH3 1Hbf 1fH 16H7 2Hdf 7H 4H 2H fH",
    "c5H1 10H28 4cH3 aH3 2H310 44H4b 3dHc1 4H 1bH 2H 1H1 1H aH 4H 1H 1H5 1H3 1H 1H 1H 3H 2H 1H1",
    "1H 1H 1H 1H 1H 2H 1H1 4H 7H 4H 4H 1H aH 11H4 3H 5H 11H33 2H10d 2cH3 64Hb fH1 fH fH 25H9",
    "aeH37 1dHc 2cH3 9H6 2Hd 6H99 3d9H2 11H2 dH2 daH5 cH3 1He cH3 38H7 aH5 28H7 1eH1 cH3 2Hd 9H26",
    "158H7 eH1 dH2 bH2 39H 1H3 10H1 cH3 aH6 93H 67H404 a6e0H1f 111eH1 168eH1 1d31He 26eH9a1",
    "21eH5e1 134bH4 212aHdcb85"]

/-- The characters without a visible form. -/
def hiddenRuns : List CharRun := CharRun.ofLines hiddenLines

/-- The property `Grapheme_Extend`. -/
def extendingLines : List String :=
  ["300X6f 113X6 107X2c 1X 1X1 1X1 1X 48Xa 30X14 10X 65X6 2X5 2X1 1X3 23X 1eX1a 5bXa 3aX8 9X",
    "18X3 1X8 1X2 1X4 2bX2 3bX8 2aX17 1X1f 37X 1X 4X7 4X 3X6 aX1 1dX 3aX 1X 2X3 8X 9X aX1 1aX 2X1",
    "39X 4X1 4X1 2X2 3X 1eX1 3X bX1 39X 4X4 1X1 4X 14X1 16X5 1X 3aX 1X1 1X3 8X 7X2 aX1 1eX 3bX 1X",
    "cX 9X 28X 3X 37X 1X2 5X2 1X3 7X1 bX1 1dX 3aX 2X1 1X 3X2 1X3 7X1 bX1 1cX1 39X1 1X 2X3 8X 9X",
    "aX1 1dX 48X 4X 2X2 1X 8X 51X 2X6 cX7 62X 2X8 bX6 49X1 1bX 1X 1X 37Xd 1X4 1X1 5Xa 1X23 9X",
    "66X3 1X5 1X1 2X1 19X1 4X2 10X3 dX 2X1 6X fX 2bfX2 3b2X3 1cX2 1dX1 1eX1 40X1 1X6 8X 2Xa 9X",
    "2dX2 1X 75X1 22X 76X2 4X1 9X 6X2 dbX1 2X 3aX 1X6 1X 1X 2X7 6X9 2X 30X2d 2Xb 14X3 30X9 4X2",
    "26X8 cX1 20X3 2X5 38X 1X1 3X 1X4 38X7 2X1 98X2 1Xc 1X6 4X 6X 3X1 c6X3f 20cX c3X20 bfeX2 8dX",
    "60X1f 22aX5 69X1 75d4X3 1X9 20X1 50X1 110X 3X 4X 19X1 5X 97X1 1aX11 dX 26X7 19Xa 1X 2cX2 30X",
    "2X3 2X1 2X 24X 43X5 2X1 2X1 cX 8X 2fX 33X 1X2 2X1 5X1 1X 2aX1 8X eeX 2X 4X 4f30X 2e1Xf 10Xf",
    "16eX1 25dX e2X 95X4 686X2 1X1 5X3 28X2 4X a5X1 23dX3 41X4 13dX1 4dX5 46Xa 31X3 7bX 36Xe 29X",
    "2X1 aX2 31X3 2X1 7X 3dX2 24X4 1X7 3eX cX1 34X8 1X 8X3 2X 5fX2 2X3 6X 2X 9dX 3X7 15X1 39X1 1X",
    "1X cX 9X eX6 3X4 43X 2X5 1X 2X 1X2 4X2 1X eX1 55X7 2X2 1X 17X 51X 2X5 1X 2X 1X1 1X1 ebX 2X3",
    "6X1 1X1 1bX1 55X7 2X 1X1 6aX 1X 2X7 65X 1X 2X3 1X4 103X8 1X1 f5X aX3 4X 90X3 2X1 4X 20X9",
    "28X5 2X3 8X 9X5 2X2 2eXc 1X1 c6X 1X2 1X c9X6 1X5 1X 52X15 2X6 1X1 1X1 7aX5 3X 1X1 1X6 1X",
    "48X1 3X 1X 15bX1 bX1 34X4 5X2 17X 14e5X 6Xe 2cc8Xb 3X2 9c0X4 3bX6 418X 3fX3 51X bX1 4cabX1",
    "1261X2d 2X16 21eX4 3X5 8X7 2X6 1eX3 94X2 7bbX36 4X31 8X eX 16X4 1Xe 550X6 1X10 2X6 1X1 1X4",
    "64X a0X6 177X 3dX3 1fcX3 feX1 f3X 2X 7X1 5X 1daX6 6dX6 c16d5X5f 80Xef"]

/-- The characters that extend those before them. -/
def extendingRuns : List CharRun := CharRun.ofLines extendingLines

/-- The character has a visible form. -/
def isPrintable (c : Char) : Bool := !CharRun.anyHolds hiddenRuns c

/-- The character extends the one before it. -/
def isExtending (c : Char) : Bool := CharRun.anyHolds extendingRuns c

end Logbook
