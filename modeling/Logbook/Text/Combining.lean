import Logbook.Text.Runs

/-!
# Marks

Marks are characters that are shown together with the one before them. The class of a mark tells
where it is placed: marks of different classes may stand in any order and mean the same.
-/

set_option autoImplicit false

namespace Logbook

/-- The general category `M`. -/
def markLines : List String :=
  ["300M6f 113M6 107M2c 1M 1M1 1M1 1M 48Ma 30M14 10M 65M6 2M5 2M1 1M3 23M 1eM1a 5bMa 3aM8 9M",
    "18M3 1M8 1M2 1M4 2bM2 3bM8 2aM17 1M20 36M2 1M11 1M6 aM1 1dM2 38M 1M6 2M1 2M2 9M aM1 1aM 2M2",
    "38M 1M4 4M1 2M2 3M 1eM1 3M bM2 38M 1M7 1M2 1M2 14M1 16M5 1M2 38M 1M6 2M1 2M2 7M2 aM1 1eM",
    "3bM4 3M2 1M3 9M 28M4 37M 1M6 1M2 1M3 7M1 bM1 1dM2 38M 1M6 1M2 1M3 7M1 bM1 fM cM3 37M1 1M6",
    "1M2 1M3 9M aM1 1dM2 46M 4M5 1M 1M7 12M1 3dM 2M6 cM7 62M 2M8 bM6 49M1 1bM 1M 1M 4M1 31M13 1M1",
    "5Ma 1M23 9M 64M13 17M3 4M2 1M2 2M6 3M3 dMb 1M aM3 2bfM2 3b2M3 1cM2 1dM1 1eM1 40M1f 9M 2dM2",
    "1M 75M1 22M 76Mb 4Mb dbM4 39M9 1M1c 2M 30M2d 2Mb 14M4 2fM10 26M8 cM2 1eMc 38Md 30M13 98M2",
    "1M14 4M 6M 2M2 c6M3f 2d0M20 bfeM2 8dM 60M1f 22aM5 69M1 75d4M3 1M9 20M1 50M1 110M 3M 4M 17M4",
    "4M 53M1 32M11 1aM11 dM 26M7 19Mc 2cM3 2fMd 24M 43Md cM 8M1 2dM2 32M 1M2 2M1 5M1 1M 29M4 5M1",
    "ecM7 1M1 4f30M 2e1Mf 10Mf 3cdM e2M 95M4 686M2 1M1 5M3 28M2 4M a5M1 23dM3 41M4 13dM1 4dM5",
    "46Ma 31M3 7aM2 35Me 29M 2M1 aM3 2dMa 7M 3dM2 24Md 10M1 2cM cM2 30Md 8M3 1M1 5cMb 6M 2M 9dMb",
    "15M3 37M1 1M6 2M1 2M2 9M aM1 2M6 3M4 43M8 1M 2M 1M3 1M4 1M eM1 52M11 17M 51M13 ebM6 2M8 1bM1",
    "52M10 6aMc 65Me 100Me f5M5 1M1 2M3 1M 1M1 8dM6 2M6 3M 1cM9 28M6 1M3 8M 9Ma 2eMf c6M7 c7M7",
    "1M7 52M15 1Md 7aM5 3M 1M1 1M6 1M 42M4 1M1 1M4 15bM3 9M1 1M 30M6 3M4 17M 14e5M 6Me 2cc8M11",
    "9c0M4 3bM6 418M 1M36 7M3 51M bM1 4cabM1 1261M2d 2M16 21eM4 3M5 8M7 2M6 1eM3 94M2 7bbM36 4M31",
    "8M eM 16M4 1Me 550M6 1M10 2M6 1M1 1M4 64M a0M6 177M 3dM3 1fcM3 feM1 f3M 2M 7M1 5M 1daM6 6dM6",
    "c17b5Mef"]

/-- The marks. -/
def markRuns : List CharRun := CharRun.ofLines markLines

/-- The character is a mark. -/
def isMark (c : Char) : Bool := CharRun.anyHolds markRuns c

/-- The property `Canonical_Combining_Class`, where it is not zero. -/
def combiningLines : List String :=
  ["300K14:e6 K:e8 K3:dc K:e8 K:d8 K4:dc K1:ca K3:dc K1:ca Ka:dc K4:1 K3:dc K7:e6 K:f0 K:e6",
    "K2:dc K2:e6 K1:dc 1K2:e6 K3:dc K:e6 K:e8 K1:dc K:e6 K:e9 K1:ea K:e9 K1:ea K:e9 Kc:e6",
    "113K4:e6 109K:dc K3:e6 K:dc K2:e6 K:de K:dc K5:e6 K5:dc K1:e6 K:dc K1:e6 K:de K:e4 K:e6 K:a",
    "K:b K:c K:d K:e K:f K:10 K:11 K:12 K1:13 K:14 K:15 K:16 1K:17 1K:18 K:19 1K:e6 K:dc 1K:12",
    "48K7:e6 K:1e K:1f K:20 30K:1b K:1c K:1d K:1e K:1f K:20 K:21 K:22 K1:e6 K1:dc K4:e6 K:dc",
    "K1:e6 K:dc 10K:23 65K6:e6 2K3:e6 K:dc K:e6 2K1:e6 1K:dc K1:e6 K:dc 23K:24 1eK:e6 K:dc K1:e6",
    "K:dc K1:e6 K2:dc K:e6 K1:dc K:e6 K:dc K2:e6 K:dc K:e6 K:dc K:e6 K:dc K:e6 K:dc K1:e6 a0K6:e6",
    "K:dc K:e6 9K:dc 18K3:e6 1K8:e6 1K2:e6 1K4:e6 2bK2:dc 3bK1:e6 K2:dc K3:e6 2aK4:e6 K4:dc Kd:e6",
    "1K:dc K1:e6 K:dc K1:e6 K:dc K2:e6 K2:dc K:1b K:1c K:1d K2:e6 K:dc K1:e6 K1:dc K4:e6 3cK:7",
    "10K:9 3K:e6 K:dc K1:e6 67K:7 10K:9 30K:e6 3dK:7 10K:9 6eK:7 10K:9 6eK:7 10K:9 7fK:9 6eK:7",
    "10K:9 7K:54 K:5b 65K:7 10K:9 6dK1:9 10K:9 7cK:9 6dK1:67 K:9 dK3:6b 6cK1:76 K:9 dK3:7a",
    "4cK1:dc 1bK:dc 1K:dc 1K:d8 37K:81 K:82 1K:84 5K3:82 2K:82 1K1:e6 K:9 1K1:e6 3eK:dc 70K:7",
    "1K1:9 52K:dc 2cfK2:e6 3b4K1:9 1eK:9 9dK:9 aK:e6 cbK:e4 8fK:de K:e6 K:dc dbK:e6 K:dc 47K:9",
    "14K7:e6 2K:dc 30K4:e6 K5:dc K1:e6 K:dc 1K1:dc K1:e6 K1:dc K4:e6 K:dc K11:e6 K:dc 2K5:e6 K:dc",
    "K3:e6 K:ea 48K:7 fK:9 26K:e6 K:dc K6:e6 36K1:9 3aK:7 bK1:9 43K:7 98K2:e6 1K:1 K4:dc K1:e6",
    "K3:dc K:e6 1K6:1 4K:dc 6K:e6 3K1:e6 c6K1:e6 K:dc K6:e6 K:dc K1:e6 K:ea K:d6 K:dc K:ca K24:e6",
    "K:e8 K1:e4 K:dc K:da K:e6 K:e9 K:dc K:e6 K:dc 2d0K1:e6 K1:1 K3:e6 K2:1 K1:e6 4K:e6 3K1:1",
    "K:e6 K:dc K:e6 K1:1 K3:dc K:e6 bfeK2:e6 8dK:9 60K1f:e6 22aK:da K:e4 K:e8 K:de K1:e0 69K1:8",
    "75d4K:e6 4K9:e6 20K1:e6 50K1:e6 114K:9 25K:9 97K:9 1bK11:e6 39K2:dc 25K:9 5fK:7 cK:9 efK:e6",
    "1K1:e6 K:dc 2K1:e6 5K1:e6 1K:e6 34K:9 f6K:9 4f30K:1a 301K6:e6 K6:dc K1:e6 3cdK:dc e2K:dc",
    "95K4:e6 692K:dc 1K:e6 28K:e6 K:1 K:dc 4K:9 a5K:e6 K:dc 23dK3:e6 41K4:e6 13dK1:e6 4dK1:dc",
    "1K2:dc 46K1:dc K2:e6 K:dc K:e6 K3:dc 31K:e6 K:dc K:e6 K:dc c0K:9 29K:9 eK:9 39K:9 K:7",
    "45K2:e6 30K1:9 3eK:7 4cK:9 9K:7 6aK:9 K:7 b2K:7 K:9 50K1:7 10K:9 18K6:e6 3K4:e6 59K2:9 71K:9",
    "3K:7 17K:e6 63K:9 K:7 fbK:9 K:7 7eK:9 76K:9 K:7 73K:9 10dK:9 K:7 102K1:9 4K:7 9cK:9 53K:9",
    "12K:9 51K:9 1a5K:9 102K:7 1K1:9 51K:9 1a9K1:9 41ecK:9 9c0K4:1 3bK6:e6 4b9K1:6 4cacK:1",
    "14c6K1:d8 K2:1 3K:e2 K4:d8 8K7:dc 2K4:e6 K1:dc 1eK3:e6 94K2:e6 dbbK6:e6 1K10:e6 2K6:e6",
    "1K1:e6 1K4:e6 64K:e6 a0K6:e6 177K:e6 3dK3:e6 1fcK1:e8 K:dc K:e6 feK:e6 K:dc f3K:e6 2K:e6",
    "7K1:e6 5K:e6 1daK6:dc 6dK5:e6 K:7"]

/-- The characters that have a class. -/
def combiningRuns : List CharRun := CharRun.ofLines combiningLines

/-- The class of a character; zero for one that begins something new. -/
def combiningClass (c : Char) : Nat :=
  match CharRun.find? combiningRuns c with
  | some run => run.others.headD 0
  | none => 0

/-- The sign that takes the vowel from a consonant has a class of its own. -/
def isVowelKiller (c : Char) : Bool := combiningClass c == 9

end Logbook
