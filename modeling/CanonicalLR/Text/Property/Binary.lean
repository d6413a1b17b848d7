import CanonicalLR.Text.Property.Basic

/-! Properties that characters have or lack. -/
namespace CanonicalLR.Text.Property

def binary : List NamedRanges := [
  ⟨["ahex", "asciihexdigit"], ["30 a 7 6 1a 6"]⟩,
  ⟨["alpha", "alphabetic"], [
    "41 1a 6 1a 2f 1 a 1 4 1 5 17 1 1f 1 1ca 4 c e 5 7 1 1 1 56 1 1d 12 1 2 2 4 1 1 6 1 1 3 1 1",
    "1 14 1 53 1 8b 8 a6 1 26 2 1 6 29 27 e 1 1 1 2 1 2 1 1 8 1b 4 4 1d b 5 38 1 7 e 66 1 8 4 8",
    "4 3 a 3 2 1 10 30 d 65 18 21 9 2 4 1 5 18 2 13 13 19 7 b 5 18 1 6 8 1 8 2a a c 3 7 6 4c 1",
    "10 1 3 4 f d 13 1 8 2 2 2 16 1 7 1 1 3 4 3 8 2 2 2 2 1 1 8 1 4 2 1 5 c 2 a 1 4 3 1 6 4 2 2",
    "16 1 7 1 2 1 2 1 2 4 5 4 2 2 2 4 1 7 4 1 1 11 6 b 3 1 9 1 3 1 16 1 7 1 2 1 5 3 9 1 3 1 2 3",
    "1 f 4 15 4 4 3 1 8 2 2 2 16 1 7 1 2 1 5 3 8 2 2 2 2 9 2 4 2 1 5 d 1 10 2 1 6 3 3 1 4 3 2 1",
    "1 1 2 3 2 3 3 3 c 4 5 3 3 1 3 3 1 6 1 28 d 1 3 1 17 1 10 3 8 1 3 1 3 8 2 1 3 2 1 2 4 1c 4",
    "1 8 1 3 1 17 1 a 1 5 3 8 1 3 1 3 8 2 6 2 1 4 d 3 c d 1 3 1 29 2 8 1 3 1 3 1 1 5 4 7 5 16 6",
    "1 3 1 12 3 18 1 9 1 1 2 7 8 6 1 1 1 8 12 2 d 3a 5 7 6 1 33 2 1 1 1 5 1 18 1 1 1 13 1 3 2 5",
    "1 1 6 1 e 4 20 1 3f 8 1 24 4 13 4 10 1 24 43 37 1 1 2 5 10 40 a 4 2 26 1 1 5 1 2 2b 1 14d",
    "1 4 2 7 1 1 1 4 2 29 1 4 2 21 1 4 2 7 1 1 1 4 2 f 1 39 1 4 2 43 25 10 10 56 2 6 3 26c 2 11",
    "1 1a 5 4b 3 b 7 14 b 15 c 14 c d 1 3 1 2 c 34 2 13 e 1 4 1 43 59 7 2b 5 46 a 1f 1 c 4 9 17",
    "1e 2 5 b 2c 4 1a 36 1c 4 3f 2 14 32 1 17 2 b 3 31 34 1 f 1 8 33 2a 2 4 a 2c 1 b e 37 16 3",
    "a 24 2 b 5 2b 2 3 29 4 1 6 1 2 3 1 5 c0 13 22 b 116 2 6 2 26 2 6 2 8 1 1 1 1 1 1 1 1f 2 35",
    "1 7 1 1 3 3 1 7 3 4 2 6 4 d 5 3 1 7 74 1 d 1 10 d 65 1 4 1 2 a 1 1 3 5 6 1 1 1 1 1 1 4 1 b",
    "2 4 5 5 4 1 11 29 32d 34 716 e5 6 4 3 2 c 26 1 1 5 1 2 38 7 1 10 17 9 7 1 7 1 7 1 7 1 7 1",
    "7 1 7 1 7 1 20 2f 1 1d5 3 19 9 7 5 2 5 4 56 6 3 1 5a 1 4 5 2b 1 5e 11 20 30 10 200 19c0 40",
    "568d 43 2e 2 10d 3 10 a 2 14 2f 5 8 3 71 27 9 2 67 2 43 2 2 1 1 1 8 15 14 1 21 18 34 c 44",
    "1 1 2c 6 3 1 1 3 a 21 5 23 d 1d 3 33 1 c f 1 10 10 a 5 1 37 9 e 12 17 3 45 1 1 1 1 18 3 2",
    "10 2 4 b 6 2 6 2 6 9 7 1 7 1 2b 1 e 6 7b 15 2ba4 c 17 4 31 2104 16e 2 6a 26 7 c 5 5 c 1 d",
    "1 5 1 1 1 2 1 2 1 6c 21 16b 12 40 2 36 28 c 74 5 1 87 24 1a 6 1a b 59 3 6 2 6 2 6 2 3 23 c",
    "1 1a 1 13 1 2 1 f 2 e 22 7b 45 35 10b 1d 3 31 2f 20 d 1e 5 2b 5 1e 2 24 4 8 1 5 2a 9e 12",
    "24 4 24 4 28 8 34 c b 1 f 1 7 1 2 1 b 1 f 1 7 1 2 3 34 c 137 9 16 a 8 18 6 1 2a 1 9 45 6 2",
    "1 1 2c 1 2 3 1 2 17 a 17 9 1f 41 13 1 2 a 16 a 1a 46 38 6 2 40 4 1 2 5 8 1 3 1 1d 2a 1d 3",
    "1d 23 8 1 1c 1b 36 a 16 a 13 d 12 6e 49 37 33 d 33 d 28 22 1c 3 1 5 17 fa 2a 1 2 3 2 10 3",
    "37 1 3 1d a 1 8 16 2a 12 2e 15 1b 17 9 46 2b 5 a 39 9 1 d 19 17 33 11 4 8 23 3 1 9 40 1 4",
    "9 2 a 1 1 1 23 12 1 22 2 1 6 4 3e 7 1 1 1 4 1 f 1 a 7 39 17 4 1 8 2 2 2 16 1 7 1 2 1 5 3 8",
    "2 2 2 2 3 1 6 1 5 7 1c a 1 1 2 1 1 26 1 a 1 1 2 1 1 4 1 2 3 1 1 1 2c 42 1 3 1 4 14 3 1e 42",
    "2 2 1 1 b8 36 2 7 19 6 22 3f 1 1 3 1 3b 36 2 1 47 1b 2 e 15 7 b9 39 67 40 1f 8 2 1 2 8 1 2",
    "1 1e 1 2 2 2 2 4 5d 8 2 2e 2 6 1 1 1 2 1b 33 2 a 11 48 5 1 12 49 c7 21 1f 9 1 2d 1 7 1 1",
    "31 1e 2 16 1 e 49 7 1 2 1 2c 3 1 1 2 1 3 1 1 2 2 18 6 1 2 1 25 1 2 1 4 1 1 147 17 9 11 1",
    "29 3 3 6f 1 4f 39a 66 6f 11 c4 a4c 61 f 430 11 6 19 f9b 5 247 1ab9 2f 6d1 239 7 1f 11 4f",
    "11 1e 12 30 10 4 1f 15 5 13 1b0 2d d3 40 80 4b 4 39 7 11 40 2 1 1 c 2 e 17f8 8 4d6 29 a",
    "22e7 4 1 7 1 2 1 123 f 1 1d 3 2 1 e 4 8 18c 904 6b 5 d 3 9 7 a 4 1 1761 55 1 47 1 2 2 1 2",
    "2 2 4 1 c 1 1 1 7 1 41 1 4 2 8 1 7 1 1c 1 4 1 5 1 1 3 7 1 154 2 19 1 19 1 1f 1 19 1 1f 1",
    "19 1 1f 1 19 1 1f 1 19 1 8 734 1f 6 6 d5 7 1 11 2 7 1 2 1 5 5 3e 21 1 70 2d a 7 10 1 141",
    "1e 12 2c 1e4 1c e4 1e 2 1 1ef 7 1 4 1 2 1 f 1 c5 3b 44 3 1 3 1 4b4 4 1 1b 1 2 1 1 2 1 1 a",
    "1 4 1 1 1 1 6 1 4 1 1 1 1 1 1 3 1 2 1 1 2 1 1 1 1 1 1 1 1 1 1 2 1 1 2 4 1 7 1 4 1 4 1 1 1",
    "a 1 11 5 3 1 5 1 11 274 1a 6 1a 6 1a e76 a6e0 20 103a 6 de 2 1682 e 1d31 f 26e 9a2 21e 5e2",
    "134b 5 1060"]⟩,
  ⟨["bidic", "bidicontrol"], ["61c 1 19f1 2 1a 5 37 4"]⟩,
  ⟨["bidim", "bidimirrored"], [
    "28 2 12 1 1 1 1c 1 1 1 1d 1 1 1 2d 1 f 1 e7e 4 75d 2 99c 2 a 2 36 2 e 2 b1 1 c0 4 3 6 3 1",
    "3 2 3 4 1 4 1 1 1 1 4 9 5 1 1 12 5 4 9 2 1 1 1 8 1 20 2 4 5 1 9 2 2 13 5 2 9 5 2 2 4 18 2",
    "10 8 4 14 2 7 2 43d e 4a 1 2 4 1 2 1 3 5 4 5 3 3 e 193 16 2 6 1 e 8 1 7 6 3 1 4 5 1 2 2 5",
    "4 1 1 3 2 2 a 6 2 2 c 13 1 4 2 1 1 1 2 1 1 4 5 2 6 3 18 2 b 2 4 4 1 2 2 2 4 2b 2 8 1 28 5",
    "1 1 1 3 5 5 3 4 1 3 5 1 1 100 1 203 4 3 2 1 2 e 2 2 a 2b 8 1ab a 2 8 ce3d 6 5 2 a2 2 12 1",
    "1 1 1c 1 1 1 1d 1 1 1 1 2 1 2 d777 1 39 1 39 1 39 1 39 1"]⟩,
  ⟨["ci", "caseignorable"], [
    "27 1 6 1 b 1 23 1 1 1 47 1 4 1 1 1 4 1 2 2 1f7 c0 4 2 4 1 9 2 1 1 fb 7 cf 1 5 1 31 2d 1 1",
    "1 2 1 2 1 1 2c 1 b 6 a b 1 1 23 1 a 15 10 1 65 8 1 a 1 4 21 1 1 1 1e 1b 5b b 3a b 4 1 2 1",
    "18 18 2b 3 2c 1 7 2 5 9 29 3a 37 1 1 1 4 8 4 1 3 7 a 2 d 1 f 1 3a 1 4 4 8 1 14 2 1a 1 2 2",
    "39 1 4 2 4 2 2 3 3 1 1e 2 3 1 b 2 39 1 4 5 1 2 4 1 14 2 16 6 1 1 3a 1 2 1 1 4 8 1 7 2 b 2",
    "1e 1 3d 1 c 1 32 1 3 1 37 1 1 3 5 3 1 4 7 2 b 2 1d 1 3a 1 2 1 6 1 5 2 14 2 1c 2 39 2 4 4 8",
    "1 14 2 1d 1 48 1 7 3 1 1 5a 1 2 7 b 9 62 1 2 9 9 1 1 7 49 2 1b 1 1 1 1 1 37 e 1 5 1 2 5 b",
    "1 24 9 1 66 4 1 6 1 2 2 2 19 2 4 3 10 4 d 1 2 2 6 1 f 1 5e 1 260 3 3b2 3 1d 2 1e 2 1e 2 40",
    "2 1 7 8 1 2 b 3 1 5 1 2d 5 33 1 41 2 22 1 76 3 4 2 9 1 6 3 db 2 2 1 3a 1 1 7 1 1 1 1 2 8 6",
    "a 2 1 27 1 8 1f 31 4 30 1 1 5 1 1 5 1 28 9 c 2 20 4 2 2 1 3 38 1 1 2 3 1 1 3 3a 8 2 2 40 6",
    "52 3 1 d 1 7 4 1 6 1 3 2 32 3f d 1 22 65 1bd 1 1 3 b 3 d 3 d 3 d 2 c 5 8 2 a 1 2 1 2 5 31",
    "5 1 a 1 1 d 1 10 d 33 21 b8b 2 71 3 7d 1 f 1 60 20 2f 1 1d5 1 24 4 3 5 5 1 5d 6 5d 3 6f16",
    "1 4e2 6 10e 1 62 4 1 a 1 1 1c 4 50 2 e 22 4e 1 17 3 67 3 3 2 8 1 3 1 4 1 19 2 5 1 97 2 1a",
    "12 d 1 26 8 19 b 2e 3 30 1 2 4 2 2 11 1 15 2 42 6 2 2 2 2 c 1 8 1 23 1 b 1 33 1 1 3 2 2 5",
    "2 1 1 1b 1 e 2 5 2 1 1 64 5 9 3 79 1 2 1 4 1 4f30 1 93 11 23d 10 3 1 c 10 22 1 2 1 a9 1 7",
    "1 6 1 b 1 23 1 1 1 2f 1 2d 2 43 1 15 3 201 1 e2 1 95 5 405 6 1 2a 1 9 246 3 1 2 5 4 28 3 4",
    "1 a5 2 23d 4 26 1 1a 5 1 1 13b 2 4f 4 46 b 31 4 7b 1 36 f 29 1 2 2 a 3 31 4 2 2 2 1 4 1 a",
    "1 32 3 24 5 1 8 3e 1 c 2 34 9 a 4 2 1 5f 3 2 1 1 2 6 1 2 1 9d 1 3 8 15 2 39 2 3 1 25 7 3 5",
    "46 6 d 1 1 1 1 1 e 2 55 8 2 3 1 1 17 1 54 6 1 1 4 2 1 2 ee 4 6 2 1 2 1b 2 55 8 2 1 1 2 6a",
    "1 1 1 2 6 1 1 65 1 1 1 2 4 1 5 103 9 1 2 100 2 1 1 4 1 90 4 2 2 4 1 20 a 28 6 2 4 8 1 9 6",
    "2 3 2e d 1 2 196 7 1 6 1 1 52 16 2 7 1 2 1 2 7a 6 3 1 1 2 1 7 1 1 48 2 3 1 1 1 15b 2 b 2",
    "34 5 5 1 1 1 17 1 14d5 11 6 f 2cc8 c 3 3 9c0 5 3b 7 9 4 1fc 3 28 2 1e2 1 3f 11 40 2 1 2",
    "400b 4 1 7 1 2 c9e 2 1 4 125c 2e 2 17 220 3 9 10 2 7 1e 4 94 3 7bb 37 4 32 8 1 e 1 16 5 1",
    "f 550 7 1 11 2 7 1 2 1 5 5 3e 21 1 a0 e 170 1 3d 4 1fb 5 fe 2 2e0 7 6d 8 aaf 5 c0c01 1 1e",
    "60 80 f0"]⟩,
  ⟨["cased"], [
    "41 1a 6 1a 2f 1 a 1 4 1 5 17 1 1f 1 c3 1 4 4 d0 1 24 7 2 1e 5 60 1 2a 4 2 2 2 4 1 1 6 1 1",
    "3 1 1 1 14 1 53 1 8b 8 a6 1 26 9 29 b17 26 1 1 5 1 2 2b 1 4 2a0 56 2 6 882 b 5 2b 2 3 40",
    "c0 40 116 2 6 2 26 2 6 2 8 1 1 1 1 1 1 1 1f 2 35 1 7 1 1 3 3 1 7 3 4 2 6 4 d 5 3 1 7 74 1",
    "d 1 10 d 65 1 4 1 2 a 1 1 3 5 6 1 1 1 1 1 1 4 1 6 4 1 2 4 5 5 4 1 11 20 3 2 331 34 716 e5",
    "6 4 3 2 c 26 1 1 5 1 7912 2e 12 1e 84 66 3 4 1 3e 2 2 1 1 1 8 15 5 1 3 335 2b 1 e 6 50",
    "4f40 7 c 5 409 1a 6 1a 4a5 50 60 24 4 24 74 b 1 f 1 7 1 2 1 b 1 f 1 7 1 2 1c3 1 2 3 1 2a 1",
    "9 4c5 33 d 33 5d 16 a 16 b1a 40 5560 40 6580 55 1 47 1 2 2 1 2 2 2 4 1 c 1 1 1 7 1 41 1 4",
    "2 8 1 7 1 1c 1 4 1 5 1 1 3 7 1 154 2 19 1 19 1 1f 1 19 1 1f 1 19 1 1f 1 19 1 1f 1 19 1 8",
    "734 a 1 14 6 6 105 3e 892 44 7ec 1a 6 1a 6 1a"]⟩,
  ⟨["cwcf", "changeswhencasefolded"], [
    "41 1a 5a 1 a 17 1 8 20 1 1 1 1 1 1 1 1 1 1 1 1 1 1 1 1 1 1 1 1 1 1 1 1 1 1 1 1 1 1 1 1 1 1",
    "1 1 1 1 1 1 1 1 1 1 1 1 1 1 1 1 1 1 1 1 1 2 1 1 1 1 1 1 1 1 1 1 1 1 1 1 1 1 2 1 1 1 1 1 1",
    "1 1 1 1 1 1 1 1 1 1 1 1 1 1 1 1 1 1 1 1 1 1 1 1 1 1 1 1 1 1 1 1 1 1 1 1 1 1 1 2 1 1 1 1 1",
    "1 1 2 1 1 1 2 1 3 2 4 1 2 1 3 3 2 1 2 1 1 1 1 1 2 1 1 2 1 1 2 1 3 1 1 1 2 3 1 7 2 1 2 1 2",
    "1 1 1 1 1 1 1 1 1 1 1 1 1 1 1 1 2 1 1 1 1 1 1 1 1 1 1 1 1 1 1 1 1 1 2 2 1 1 1 3 1 1 1 1 1",
    "1 1 1 1 1 1 1 1 1 1 1 1 1 1 1 1 1 1 1 1 1 1 1 1 1 1 1 1 1 1 1 1 1 1 1 1 1 1 1 1 1 1 1 1 1",
    "1 1 1 1 1 1 1 1 7 2 1 2 2 1 1 4 1 1 1 1 1 1 1 1 f6 1 2a 1 1 1 3 1 8 1 6 1 1 3 1 1 1 2 1 11",
    "1 9 16 1 c 3 3 2 1 1 1 1 1 1 1 1 1 1 1 1 1 1 1 1 1 1 1 1 1 1 1 1 1 2 2 2 1 1 1 2 2 33 30 1",
    "1 1 1 1 1 1 1 1 1 1 1 1 1 1 1 1 1 1 1 1 1 1 1 1 1 1 1 1 1 1 1 1 9 1 1 1 1 1 1 1 1 1 1 1 1",
    "1 1 1 1 1 1 1 1 1 1 1 1 1 1 1 1 1 1 1 1 1 1 1 1 1 1 1 1 1 1 1 1 1 1 1 1 1 1 1 1 1 1 2 1 1",
    "1 1 1 1 1 1 1 1 1 1 2 1 1 1 1 1 1 1 1 1 1 1 1 1 1 1 1 1 1 1 1 1 1 1 1 1 1 1 1 1 1 1 1 1 1",
    "1 1 1 1 1 1 1 1 1 1 1 1 1 1 1 1 1 1 1 1 1 1 1 1 1 1 1 1 1 1 1 1 1 1 1 1 1 1 1 1 1 1 1 1 1",
    "1 1 1 1 1 1 1 1 1 1 1 1 1 1 1 1 2 26 30 1 b18 26 1 1 5 1 32a 6 882 a 6 2b 2 3 140 1 1 1 1",
    "1 1 1 1 1 1 1 1 1 1 1 1 1 1 1 1 1 1 1 1 1 1 1 1 1 1 1 1 1 1 1 1 1 1 1 1 1 1 1 1 1 1 1 1 1",
    "1 1 1 1 1 1 1 1 1 1 1 1 1 1 1 1 1 1 1 1 1 1 1 1 1 1 1 1 1 1 1 1 1 1 1 1 1 1 1 1 1 1 1 1 1",
    "1 1 1 1 1 1 1 1 1 1 1 1 1 1 1 1 1 1 1 1 1 1 1 1 1 1 1 1 1 1 1 1 1 1 1 1 1 1 1 1 1 1 1 1 1",
    "1 1 1 1 1 1 1 1 1 1 5 2 2 1 1 1 1 1 1 1 1 1 1 1 1 1 1 1 1 1 1 1 1 1 1 1 1 1 1 1 1 1 1 1 1",
    "1 1 1 1 1 1 1 1 1 1 1 1 1 1 1 1 1 1 1 1 1 1 1 1 1 1 1 1 1 1 1 1 1 1 1 1 1 1 1 1 1 1 1 1 1",
    "1 1 1 1 1 1 1 1 1 1 1 1 1 1 1 1 1 1 1 1 9 8 8 6 a 8 8 8 8 6 b 1 1 1 1 1 1 1 8 8 10 30 2 3",
    "2 6 5 3 2 6 b 4 c 5 5 3 2 6 129 1 3 2 6 1 2d 10 13 1 332 1a 730 30 30 1 1 3 2 1 1 1 1 1 1",
    "4 1 1 2 1 8 3 1 1 1 1 1 1 1 1 1 1 1 1 1 1 1 1 1 1 1 1 1 1 1 1 1 1 1 1 1 1 1 1 1 1 1 1 1 1",
    "1 1 1 1 1 1 1 1 1 1 1 1 1 1 1 1 1 1 1 1 1 1 1 1 1 1 1 1 1 1 1 1 1 1 1 1 1 1 1 1 1 1 1 1 1",
    "1 1 1 1 1 1 1 1 1 1 1 1 1 1 1 8 1 1 1 4 1 794d 1 1 1 1 1 1 1 1 1 1 1 1 1 1 1 1 1 1 1 1 1 1",
    "1 1 1 1 1 1 1 1 1 1 1 1 1 1 1 1 1 1 1 1 1 1 1 13 1 1 1 1 1 1 1 1 1 1 1 1 1 1 1 1 1 1 1 1 1",
    "1 1 1 1 1 1 87 1 1 1 1 1 1 1 1 1 1 1 1 1 3 1 1 1 1 1 1 1 1 1 1 1 1 1 1 1 1 1 1 1 1 1 1 1 1",
    "1 1 1 1 1 1 1 1 1 1 1 1 1 1 1 1 1 1 1 1 1 1 1 1 1 1 1 1 1 1 1 1 1 1 1 1 1 a 1 1 1 1 2 1 1",
    "1 1 1 1 1 1 4 1 1 1 2 1 1 1 3 1 1 1 1 1 1 1 1 1 1 1 1 1 1 1 1 1 1 1 1 5 1 5 1 1 1 1 1 1 1",
    "1 1 1 1 1 1 1 1 4 1 1 1 2 3 1 5 1 1 1 1 1 1 1 18 1 37a 50 4f40 7 c 5 409 1a 4c5 28 88 24",
    "9c b 1 f 1 7 1 2 6ea 33 9d 16 b3a 20 5580 20 7aa0 22"]⟩,
  ⟨["cwcm", "changeswhencasemapped"], [
    "41 1a 6 1a 3a 1 a 17 1 1f 1 40 1 54 1 1c 2 e 2 2 1 1 4 5d 1 12 6 1b 1 2 1 1 1 2 3 2 1 4 1",
    "5 2 1 1 2 2 1 7 1 2 1 1 2 3 6 5 1 a 2 a6 1 2a 4 2 2 3 3 1 1 6 1 1 3 1 1 1 14 1 2f 3 21 1 5",
    "1 85 8 a6 1 26 a 27 b18 26 1 1 5 1 2 2b 2 3 2a0 56 2 6 882 b 5 2b 2 3 b9 1 3 1 10 1 71 9c",
    "2 1 1 76 2 6 2 26 2 6 2 8 1 1 1 1 1 1 1 1f 2 35 1 7 1 1 3 3 1 7 3 4 2 6 4 d 5 3 1 7 129 1",
    "3 2 6 1 1b 1 11 20 3 2 331 34 716 71 1 2 1 2 7 66 7 4 3 2 c 26 1 1 5 1 7912 2e 12 1c 86 e",
    "2 3e 9 f 3 3 2 5 1 19 1 1e 2 2 4 7 18 2 35c 1 1c 50 4f40 7 c 5 409 1a 6 1a 4a5 50 60 24 4",
    "24 74 b 1 f 1 7 1 2 1 b 1 f 1 7 1 2 6c3 33 d 33 5d 16 a 16 b1a 40 5560 40 7a80 44"]⟩,
  ⟨["cwl", "changeswhenlowercased"], [
    "41 1a 65 17 1 7 21 1 1 1 1 1 1 1 1 1 1 1 1 1 1 1 1 1 1 1 1 1 1 1 1 1 1 1 1 1 1 1 1 1 1 1 1",
    "1 1 1 1 1 1 1 1 1 1 1 1 1 1 1 1 1 1 1 2 1 1 1 1 1 1 1 1 1 1 1 1 1 1 1 2 1 1 1 1 1 1 1 1 1",
    "1 1 1 1 1 1 1 1 1 1 1 1 1 1 1 1 1 1 1 1 1 1 1 1 1 1 1 1 1 1 1 1 1 1 1 1 1 2 1 1 1 1 3 2 1",
    "1 1 2 1 3 2 4 1 2 1 3 3 2 1 2 1 1 1 1 1 2 1 1 2 1 1 2 1 3 1 1 1 2 3 1 7 2 1 2 1 2 1 1 1 1",
    "1 1 1 1 1 1 1 1 1 1 1 1 2 1 1 1 1 1 1 1 1 1 1 1 1 1 1 1 1 1 2 2 1 1 1 3 1 1 1 1 1 1 1 1 1",
    "1 1 1 1 1 1 1 1 1 1 1 1 1 1 1 1 1 1 1 1 1 1 1 1 1 1 1 1 1 1 1 1 1 1 1 1 1 1 1 1 1 1 1 1 1",
    "1 1 1 1 7 2 1 2 2 1 1 4 1 1 1 1 1 1 1 1 121 1 1 1 3 1 8 1 6 1 1 3 1 1 1 2 1 11 1 9 23 1 8",
    "1 1 1 1 1 1 1 1 1 1 1 1 1 1 1 1 1 1 1 1 1 1 1 5 1 2 1 1 2 2 33 30 1 1 1 1 1 1 1 1 1 1 1 1",
    "1 1 1 1 1 1 1 1 1 1 1 1 1 1 1 1 1 1 1 1 1 9 1 1 1 1 1 1 1 1 1 1 1 1 1 1 1 1 1 1 1 1 1 1 1",
    "1 1 1 1 1 1 1 1 1 1 1 1 1 1 1 1 1 1 1 1 1 1 1 1 1 1 1 1 1 1 1 2 1 1 1 1 1 1 1 1 1 1 1 1 2",
    "1 1 1 1 1 1 1 1 1 1 1 1 1 1 1 1 1 1 1 1 1 1 1 1 1 1 1 1 1 1 1 1 1 1 1 1 1 1 1 1 1 1 1 1 1",
    "1 1 1 1 1 1 1 1 1 1 1 1 1 1 1 1 1 1 1 1 1 1 1 1 1 1 1 1 1 1 1 1 1 1 1 1 1 1 1 1 1 1 1 1 1",
    "1 1 1 1 1 2 26 b49 26 1 1 5 1 2d2 56 893 1 6 2b 2 3 140 1 1 1 1 1 1 1 1 1 1 1 1 1 1 1 1 1",
    "1 1 1 1 1 1 1 1 1 1 1 1 1 1 1 1 1 1 1 1 1 1 1 1 1 1 1 1 1 1 1 1 1 1 1 1 1 1 1 1 1 1 1 1 1",
    "1 1 1 1 1 1 1 1 1 1 1 1 1 1 1 1 1 1 1 1 1 1 1 1 1 1 1 1 1 1 1 1 1 1 1 1 1 1 1 1 1 1 1 1 1",
    "1 1 1 1 1 1 1 1 1 1 1 1 1 1 1 1 1 1 1 1 1 1 1 1 1 1 1 1 1 1 1 1 1 1 1 1 1 1 1 1 1 1 9 1 1",
    "1 1 1 1 1 1 1 1 1 1 1 1 1 1 1 1 1 1 1 1 1 1 1 1 1 1 1 1 1 1 1 1 1 1 1 1 1 1 1 1 1 1 1 1 1",
    "1 1 1 1 1 1 1 1 1 1 1 1 1 1 1 1 1 1 1 1 1 1 1 1 1 1 1 1 1 1 1 1 1 1 1 1 1 1 1 1 1 1 1 1 1",
    "1 1 1 1 1 9 8 8 6 a 8 8 8 8 6 b 1 1 1 1 1 1 1 8 8 18 8 8 8 8 8 8 5 b 5 b 4 c 5 b 5 129 1 3",
    "2 6 1 2d 10 13 1 332 1a 730 30 30 1 1 3 2 1 1 1 1 1 1 4 1 1 2 1 8 3 1 1 1 1 1 1 1 1 1 1 1",
    "1 1 1 1 1 1 1 1 1 1 1 1 1 1 1 1 1 1 1 1 1 1 1 1 1 1 1 1 1 1 1 1 1 1 1 1 1 1 1 1 1 1 1 1 1",
    "1 1 1 1 1 1 1 1 1 1 1 1 1 1 1 1 1 1 1 1 1 1 1 1 1 1 1 1 1 1 1 1 1 1 1 1 1 1 1 1 1 1 8 1 1",
    "1 4 1 794d 1 1 1 1 1 1 1 1 1 1 1 1 1 1 1 1 1 1 1 1 1 1 1 1 1 1 1 1 1 1 1 1 1 1 1 1 1 1 1 1",
    "1 1 1 1 1 13 1 1 1 1 1 1 1 1 1 1 1 1 1 1 1 1 1 1 1 1 1 1 1 1 1 1 1 87 1 1 1 1 1 1 1 1 1 1",
    "1 1 1 3 1 1 1 1 1 1 1 1 1 1 1 1 1 1 1 1 1 1 1 1 1 1 1 1 1 1 1 1 1 1 1 1 1 1 1 1 1 1 1 1 1",
    "1 1 1 1 1 1 1 1 1 1 1 1 1 1 1 1 1 1 1 1 a 1 1 1 1 2 1 1 1 1 1 1 1 1 4 1 1 1 2 1 1 1 3 1 1",
    "1 1 1 1 1 1 1 1 1 1 1 1 1 1 1 1 1 1 5 1 5 1 1 1 1 1 1 1 1 1 1 1 1 1 1 1 4 1 1 1 2 3 1 5 1",
    "1 1 1 1 1 1 18 1 572b 1a 4c5 28 88 24 9c b 1 f 1 7 1 2 6ea 33 9d 16 b3a 20 5580 20 7aa0 22"]⟩,
  ⟨["cwt", "changeswhentitlecased"], [
    "61 1a 3a 1 29 18 1 8 1 1 1 1 1 1 1 1 1 1 1 1 1 1 1 1 1 1 1 1 1 1 1 1 1 1 1 1 1 1 1 1 1 1 1",
    "1 1 1 1 1 1 1 1 1 1 1 1 1 1 1 1 1 1 1 1 1 2 1 1 1 1 1 1 1 1 1 1 1 1 1 1 2 1 1 1 1 1 1 1 1",
    "1 1 1 1 1 1 1 1 1 1 1 1 1 1 1 1 1 1 1 1 1 1 1 1 1 1 1 1 1 1 1 1 1 1 1 1 1 1 2 1 1 1 1 3 2",
    "1 1 1 2 1 3 1 5 1 2 1 3 3 2 1 2 1 1 1 1 1 2 1 4 1 2 1 3 1 1 1 2 1 3 1 1 1 4 1 1 2 1 2 1 1",
    "1 1 1 1 1 1 1 1 1 1 1 1 1 1 1 2 1 1 1 1 1 1 1 1 1 1 1 1 1 1 1 1 1 3 1 1 1 1 3 1 1 1 1 1 1",
    "1 1 1 1 1 1 1 1 1 1 1 1 1 1 1 1 1 1 1 1 1 1 1 1 1 1 1 1 1 1 1 1 1 3 1 1 1 1 1 1 1 1 1 1 1",
    "1 1 1 1 1 1 8 1 2 2 1 1 4 1 1 1 1 1 1 1 1 6 1 2 1 1 1 2 3 2 1 4 1 5 2 1 1 2 2 1 7 1 2 1 1",
    "2 3 6 5 1 a 2 a6 1 2b 1 1 1 3 1 3 3 12 1 1b 23 1 2 3 3 1 1 1 1 1 1 1 1 1 1 1 1 1 1 1 1 1 1",
    "1 1 1 1 1 5 1 1 2 1 2 1 34 30 1 1 1 1 1 1 1 1 1 1 1 1 1 1 1 1 1 1 1 1 1 1 1 1 1 1 1 1 1 1",
    "1 1 1 1 9 1 1 1 1 1 1 1 1 1 1 1 1 1 1 1 1 1 1 1 1 1 1 1 1 1 1 1 1 1 1 1 1 1 1 1 1 1 1 1 1",
    "1 1 1 1 1 1 1 1 1 1 1 1 1 2 1 1 1 1 1 1 1 1 1 1 1 1 2 1 1 1 1 1 1 1 1 1 1 1 1 1 1 1 1 1 1",
    "1 1 1 1 1 1 1 1 1 1 1 1 1 1 1 1 1 1 1 1 1 1 1 1 1 1 1 1 1 1 1 1 1 1 1 1 1 1 1 1 1 1 1 1 1",
    "1 1 1 1 1 1 1 1 1 1 1 1 1 1 1 1 1 1 1 1 1 1 1 1 1 1 1 1 1 1 1 1 1 31 27 e70 6 882 9 1 1 ee",
    "1 3 1 10 1 72 1 1 1 1 1 1 1 1 1 1 1 1 1 1 1 1 1 1 1 1 1 1 1 1 1 1 1 1 1 1 1 1 1 1 1 1 1 1",
    "1 1 1 1 1 1 1 1 1 1 1 1 1 1 1 1 1 1 1 1 1 1 1 1 1 1 1 1 1 1 1 1 1 1 1 1 1 1 1 1 1 1 1 1 1",
    "1 1 1 1 1 1 1 1 1 1 1 1 1 1 1 1 1 1 1 1 1 1 1 1 1 1 1 1 1 1 1 1 1 1 1 1 1 1 1 1 1 1 1 1 1",
    "1 1 1 1 1 1 1 1 1 1 1 1 1 1 1 1 1 1 1 1 7 5 1 1 1 1 1 1 1 1 1 1 1 1 1 1 1 1 1 1 1 1 1 1 1",
    "1 1 1 1 1 1 1 1 1 1 1 1 1 1 1 1 1 1 1 1 1 1 1 1 1 1 1 1 1 1 1 1 1 1 1 1 1 1 1 1 1 1 1 1 1",
    "1 1 1 1 1 1 1 1 1 1 1 1 1 1 1 1 1 1 1 1 1 1 1 1 1 1 9 8 6 a 8 8 8 8 6 a 8 8 8 8 e 2 8 8 8",
    "8 8 8 5 1 2 6 1 3 3 1 2 8 4 2 2 8 8 a 3 1 2 156 1 21 10 4 1 34b 1a 746 30 1 1 3 2 1 1 1 1",
    "1 1 6 1 2 1 a 1 1 1 1 1 1 1 1 1 1 1 1 1 1 1 1 1 1 1 1 1 1 1 1 1 1 1 1 1 1 1 1 1 1 1 1 1 1",
    "1 1 1 1 1 1 1 1 1 1 1 1 1 1 1 1 1 1 1 1 1 1 1 1 1 1 1 1 1 1 1 1 1 1 1 1 1 1 1 1 1 1 1 1 1",
    "1 1 1 1 1 1 1 1 1 1 1 1 1 1 1 1 8 1 1 1 4 1 c 26 1 1 5 1 7913 1 1 1 1 1 1 1 1 1 1 1 1 1 1",
    "1 1 1 1 1 1 1 1 1 1 1 1 1 1 1 1 1 1 1 1 1 1 1 1 1 1 1 1 1 1 1 13 1 1 1 1 1 1 1 1 1 1 1 1 1",
    "1 1 1 1 1 1 1 1 1 1 1 1 1 1 87 1 1 1 1 1 1 1 1 1 1 1 1 1 3 1 1 1 1 1 1 1 1 1 1 1 1 1 1 1 1",
    "1 1 1 1 1 1 1 1 1 1 1 1 1 1 1 1 1 1 1 1 1 1 1 1 1 1 1 1 1 1 1 1 1 1 1 1 1 1 1 1 1 1 1 1 1",
    "a 1 1 1 2 1 1 1 1 1 1 1 1 1 4 1 4 1 1 2 2 1 1 1 1 1 1 1 1 1 1 1 1 1 1 1 1 1 1 1 b 1 1 1 1",
    "1 1 1 1 1 1 1 1 1 1 1 4 1 1 1 2 1 3 1 5 1 1 1 1 1 1a 1 35c 1 1c 50 4f40 7 c 5 429 1a 4cd",
    "28 88 24 9b b 1 f 1 7 1 2 703 33 7d 16 b3a 20 5580 20 7aa2 22"]⟩,
  ⟨["cwu", "changeswhenuppercased"], [
    "61 1a 3a 1 29 18 1 8 1 1 1 1 1 1 1 1 1 1 1 1 1 1 1 1 1 1 1 1 1 1 1 1 1 1 1 1 1 1 1 1 1 1 1",
    "1 1 1 1 1 1 1 1 1 1 1 1 1 1 1 1 1 1 1 1 1 2 1 1 1 1 1 1 1 1 1 1 1 1 1 1 2 1 1 1 1 1 1 1 1",
    "1 1 1 1 1 1 1 1 1 1 1 1 1 1 1 1 1 1 1 1 1 1 1 1 1 1 1 1 1 1 1 1 1 1 1 1 1 1 2 1 1 1 1 3 2",
    "1 1 1 2 1 3 1 5 1 2 1 3 3 2 1 2 1 1 1 1 1 2 1 4 1 2 1 3 1 1 1 2 1 3 1 1 1 5 2 1 2 1 2 1 1",
    "1 1 1 1 1 1 1 1 1 1 1 1 1 2 1 1 1 1 1 1 1 1 1 1 1 1 1 1 1 1 1 2 1 2 1 1 3 1 1 1 1 1 1 1 1",
    "1 1 1 1 1 1 1 1 1 1 1 1 1 1 1 1 1 1 1 1 1 1 1 1 1 1 1 1 1 1 1 3 1 1 1 1 1 1 1 1 1 1 1 1 1",
    "1 1 1 1 8 1 2 2 1 1 4 1 1 1 1 1 1 1 1 6 1 2 1 1 1 2 3 2 1 4 1 5 2 1 1 2 2 1 7 1 2 1 1 2 3",
    "6 5 1 a 2 a6 1 2b 1 1 1 3 1 3 3 12 1 1b 23 1 2 3 3 1 1 1 1 1 1 1 1 1 1 1 1 1 1 1 1 1 1 1 1",
    "1 1 1 5 1 1 2 1 2 1 34 30 1 1 1 1 1 1 1 1 1 1 1 1 1 1 1 1 1 1 1 1 1 1 1 1 1 1 1 1 1 1 1 1",
    "1 1 9 1 1 1 1 1 1 1 1 1 1 1 1 1 1 1 1 1 1 1 1 1 1 1 1 1 1 1 1 1 1 1 1 1 1 1 1 1 1 1 1 1 1",
    "1 1 1 1 1 1 1 1 1 1 1 2 1 1 1 1 1 1 1 1 1 1 1 1 2 1 1 1 1 1 1 1 1 1 1 1 1 1 1 1 1 1 1 1 1",
    "1 1 1 1 1 1 1 1 1 1 1 1 1 1 1 1 1 1 1 1 1 1 1 1 1 1 1 1 1 1 1 1 1 1 1 1 1 1 1 1 1 1 1 1 1",
    "1 1 1 1 1 1 1 1 1 1 1 1 1 1 1 1 1 1 1 1 1 1 1 1 1 1 1 1 1 1 1 31 27 b48 2b 2 3 2f8 6 882 9",
    "1 1 ee 1 3 1 10 1 72 1 1 1 1 1 1 1 1 1 1 1 1 1 1 1 1 1 1 1 1 1 1 1 1 1 1 1 1 1 1 1 1 1 1 1",
    "1 1 1 1 1 1 1 1 1 1 1 1 1 1 1 1 1 1 1 1 1 1 1 1 1 1 1 1 1 1 1 1 1 1 1 1 1 1 1 1 1 1 1 1 1",
    "1 1 1 1 1 1 1 1 1 1 1 1 1 1 1 1 1 1 1 1 1 1 1 1 1 1 1 1 1 1 1 1 1 1 1 1 1 1 1 1 1 1 1 1 1",
    "1 1 1 1 1 1 1 1 1 1 1 1 1 1 1 1 1 1 1 1 1 1 1 7 5 1 1 1 1 1 1 1 1 1 1 1 1 1 1 1 1 1 1 1 1",
    "1 1 1 1 1 1 1 1 1 1 1 1 1 1 1 1 1 1 1 1 1 1 1 1 1 1 1 1 1 1 1 1 1 1 1 1 1 1 1 1 1 1 1 1 1",
    "1 1 1 1 1 1 1 1 1 1 1 1 1 1 1 1 1 1 1 1 1 1 1 1 1 1 1 1 1 9 8 6 a 8 8 8 8 6 a 8 8 8 8 e 2",
    "35 1 2 4 1 1 1 3 3 1 2 4 1 3 4 2 2 8 8 a 3 1 2 4 1 151 1 21 10 4 1 34b 1a 746 30 1 1 3 2 1",
    "1 1 1 1 1 6 1 2 1 a 1 1 1 1 1 1 1 1 1 1 1 1 1 1 1 1 1 1 1 1 1 1 1 1 1 1 1 1 1 1 1 1 1 1 1",
    "1 1 1 1 1 1 1 1 1 1 1 1 1 1 1 1 1 1 1 1 1 1 1 1 1 1 1 1 1 1 1 1 1 1 1 1 1 1 1 1 1 1 1 1 1",
    "1 1 1 1 1 1 1 1 1 1 1 1 1 1 1 1 1 1 1 8 1 1 1 4 1 c 26 1 1 5 1 7913 1 1 1 1 1 1 1 1 1 1 1",
    "1 1 1 1 1 1 1 1 1 1 1 1 1 1 1 1 1 1 1 1 1 1 1 1 1 1 1 1 1 1 1 1 1 1 13 1 1 1 1 1 1 1 1 1 1",
    "1 1 1 1 1 1 1 1 1 1 1 1 1 1 1 1 1 87 1 1 1 1 1 1 1 1 1 1 1 1 1 3 1 1 1 1 1 1 1 1 1 1 1 1 1",
    "1 1 1 1 1 1 1 1 1 1 1 1 1 1 1 1 1 1 1 1 1 1 1 1 1 1 1 1 1 1 1 1 1 1 1 1 1 1 1 1 1 1 1 1 1",
    "1 1 1 a 1 1 1 2 1 1 1 1 1 1 1 1 1 4 1 4 1 1 2 2 1 1 1 1 1 1 1 1 1 1 1 1 1 1 1 1 1 1 1 b 1",
    "1 1 1 1 1 1 1 1 1 1 1 1 1 1 4 1 1 1 2 1 3 1 5 1 1 1 1 1 1a 1 35c 1 1c 50 4f40 7 c 5 429 1a",
    "4cd 28 88 24 9b b 1 f 1 7 1 2 703 33 7d 16 b3a 20 5580 20 7aa2 22"]⟩,
  ⟨["dash"], [
    "2d 1 55c 1 33 1 e41 1 405 1 809 6 3d 1 27 1 f 1 186 1 c04 1 2 1 1f 2 4 1 1c 1 1be 1 13 1",
    "6f 1 cd90 2 25 1 a 1 a9 1 e60 1 13e 1"]⟩,
  ⟨["di", "defaultignorablecodepoint"], [
    "ad 1 2a1 1 2cc 1 b42 2 653 2 55 5 7fb 5 1a 5 31 10 10f4 1 cc9b 10 ef 1 a0 1 4f 9 bca7 4",
    "14cf 8 c2e85 1000"]⟩,
  ⟨["dep", "deprecated"], ["149 1 529 1 903 1 1 1 829 2 8c5 6 2b9 2 ddcd6 1"]⟩,
  ⟨["dia", "diacritic"], [
    "5e 1 1 1 47 1 6 1 4 1 2 2 1f7 9f 1 8 5 6 11 2 4 1 9 2 fd 5 d1 1 37 11 1 1b 1 1 1 2 1 1 86",
    "8 4 2 86 2 4 2 3 3 43 1b 5b b 3a b 22 2 7e 8 29 a 10 1c 3d 1 10 1 3 4 1c 1 4a 1 10 1 6e 1",
    "10 1 6e 1 10 1 2f 3 3c 1 10 1 7 1 77 1 6e 1 10 1 6e 1 10 1 6d 2 10 1 7c 1 6f 1 c 6 1 1 6b",
    "1 d 5 4b 2 1b 1 1 1 1 1 4 2 42 3 1 2 3e 1 70 1 1 2 28 2 4 5 19 7 1 1 a 2 2c1 3 3b4 2 1e 1",
    "94 b 9 1 15b 3 124 1 14 8 2 1 30 f 2 b 68 1 f 1 26 9 36 2 3a 1 b 2 42 2 40 6 52 19 4 1 6 1",
    "2 3 32 3f 59 c 25 b 1bd 1 1 3 b 3 d 3 d 3 d 2 cf0 3 13d 1 1fa 6 69 4 5f 1 7572 1 c 2 1 1",
    "1c 2 52 2 e 22 66 3 6d 2 c 1 25 1 97 1 1b 12 39 4 24 1 5f 1 c 1 24 1 95 3 41 4 33 1 64 5 9",
    "3 80 2 4f30 1 301 10 10e 1 1 1 2f 1 2d 2 43 1 2fc 1 49f 6 1 2a 1 9 27d 3 4 1 a5 2 23b 6 26",
    "1 1a 5 18f 3 46 b 31 4 c0 1 29 1 48 2 78 2 3e 1 4c 1 9 3 68 2 b2 2 50 2 10 1 18 7 3 5 59 3",
    "1 2 d 2 5f 1 3 1 7b 2 fb 2 7e 1 76 2 73 1 10d 2 102 2 4 1 9c 1 53 1 12 1 51 1 1a5 1 102 1",
    "1 2 51 1 1a9 2 17 1 14ec f 2cd9 1 9c0 5 3b 7 234 2 222 11 50 2 3ffe 4 1 7 1 2 1f01 2e 2 17",
    "220 3 3 6 8 8 2 7 1e 4 e82 3e c2 7 177 1 3d 4 2fe 2 2e0 7 6d 3 1 3"]⟩,
  ⟨["emoji"], [
    "23 1 6 1 5 a 6f 1 4 1 1f8d 1 c 1 d8 1 16 1 5a 6 f 2 16f 2 c 1 a6 1 19 b 4 3 c7 1 e7 2 a 1",
    "9 1 3a 4 1 5 9 1 2 1 2 2 2 1 4 1 2 1 1 2 2 1 3 1 3 2 8 3 5 1 1 1 5 c b 2 2 1 1 2 1 1 12 1",
    "2 2 12 6 1 1 1 2 3 2 5 1 2 2 4 2 b 2 5 2 2 1 5 2 1 1 1 2 14 2 5 6 1 4 2 1 4 1 2 1 2 6 1 1",
    "2 1 1 1 1 1 6 1 3 1 6 1 a 2 f 1 2 1 4 1 1 1 4 3 1 1 b 2 30 3 9 1 e 1 e 1 174 2 1cf 3 13 2",
    "33 1 4 1 4da 1 c 1 259 1 1 1 1bd6a 1 ca 1 a0 2 c 2 e 1 2 a 4b 1a 1 2 17 1 14 1 2 9 15 2 ae",
    "22 2 70 2 2 1 3 2 53 2 3 1 107 1 3f b 6 1 18 7 2 2 8 c 1 2 4 2 1 4 2 d 2 2 1 8 2 9 1 5 3 c",
    "3 8 3 2 1 1 1 4 1 6 1 3 1 6 56 30 46 5 8 2 3 4 a 3 1 1 2 3 1 2 a e3 c 4 1 11b 2f 1 a 1 b9",
    "70 d 3 a 5 38 7 f 2 b 6 9"]⟩,
  ⟨["ecomp", "emojicomponent"], ["23 1 6 1 5 a 1fd3 1 d5 1 dd2b 1 f3d6 1a 1fb 5 5b0 4 c066c 60"]⟩,
  ⟨["emod", "emojimodifier"], ["1f3fb 5"]⟩,
  ⟨["ebase", "emojimodifierbase"], [
    "261d 1 db 1 10 4 1cc77 1 3c 3 2 1 2 3 75 2 2 b 15 13 3 1 4 3 1 3 7 1 1 1 18 1 c9 2 4 1 15",
    "1 4 2 ae 3 3 5 53 1 10 3 9 1 b 1 23f 1 2 1 8 8 6 1 9 a 2 3 38 1 3d 2 1 2 1 1 11 3 1 d e5 3",
    "2a 9"]⟩,
  ⟨["epres", "emojipresentation"], [
    "231a 2 cd 4 3 1 2 1 209 2 15 2 32 c 2b 1 13 1 d 1 8 2 11 2 5 2 8 1 5 1 15 1 7 2 1 1 4 1 2",
    "1 7 1 4 2 1c 1 23 1 1 1 4 3 1 1 3d 3 18 1 e 1 35b 2 33 1 4 1 1c4ae 1 ca 1 be 1 2 a 4b 1a 1",
    "1 18 1 14 1 2 5 1 3 15 2 ae 21 c 9 1 46 1 16 c 2b 4 5 c 11 3 1 3 47 1 1 1 bb 2 3f d 4 1 18",
    "12 1 1a 2 d 1 56 55 30 46 6 1 3 3 2 3 4 4 b 2 7 9 e3 c 4 1 11b 2f 1 a 1 b9 70 d 3 a 5 38 7",
    "f 2 b 6 9"]⟩,
  ⟨["extpict", "extendedpictographic"], [
    "a9 1 4 1 1f8d 1 c 1 d8 1 16 1 5a 6 f 2 16f 2 c 1 5f 1 46 1 19 b 4 3 c7 1 e7 2 a 1 9 1 3a 4",
    "1 6 1 c 1 72 a 76 2 b 1 1 1 1 6 1 3 1 6 1 a 2 f 1 2 1 4 1 1 1 4 3 1 1 b 5 2d 3 9 1 e 1 e 1",
    "174 2 1cf 3 13 2 33 1 4 1 4da 1 c 1 259 1 1 1 1bd66 100 d 3 1f 1 3c 6 c 2 e 1 2 a 12 39 1b",
    "f a 1 14 1 2 9 1 4 9 1b2 5 13e 8 10a 30 80 74 c 55 2b c 4 38 8 a 6 28 8 1e 52 c 2f 1 a 1",
    "1b9 100 3fe"]⟩,
  ⟨["ext", "extender"], [
    "b7 1 218 2 36e 1 1b9 1 276 1 89 1 59 1 2f0 1 7f 1 943 1 38 1 263 1 18e 1 44 1 1389 1 2b 5",
    "67 2 5d 3 6f16 1 5f6 1 3c2 1 16 1 89 1 6c 1 15 2 547b 1 810 2 5cb 1 1b 1 4 1 4c7 1 125 1",
    "74 2 1f2 3 4cf 1 50a9 2 49c 2 1 1 7158 2 4b1 1 354 3"]⟩,
  ⟨["grbase", "graphemebase"], [
    "20 5f 21 d 1 252 70 8 2 6 4 7 1 1 1 14 1 e0 7 a6 1 26 2 32 2 3 2e 1 1 1 2 1 2 1 9 1b 4 6",
    "11 a b 1 1 2e 15 10 1 65 8 1 6 2 2 1 4 20 2 1 1 1e 1d 59 b 1 e 2b 9 7 3 18 4 1 9 1 3 1 7 f",
    "1 19 5 1 1 b 5 1f 11 2a 39 37 1 1 1 4 8 4 1 3 7 a 2 1d 1 2 1 8 2 2 2 16 1 7 1 1 3 4 3 1 1",
    "2 6 2 2 2 1 1 d 2 1 3 4 18 5 1 1 6 4 2 2 16 1 7 1 2 1 2 1 2 4 3 18 4 1 1 7 a 2 3 1 1 c 1 1",
    "9 1 3 1 16 1 7 1 2 1 5 3 4 8 1 1 2 3 1 f 2 4 c 7 1 8 2 1 8 2 2 2 16 1 7 1 2 1 5 3 1 2 1 6",
    "2 2 2 f 2 1 3 4 12 b 1 1 6 3 3 1 4 3 2 1 1 1 2 3 2 3 3 3 c 5 1 1 2 3 3 1 3 3 1 15 15 6 3 1",
    "8 1 3 1 17 1 10 3 1 3 4 13 3 2 1 2 2 4 a 7 a 1 b 1 3 1 17 1 a 1 5 3 2 2 1 1 2 18 2 1 2 4 a",
    "1 3 e b 1 3 1 29 2 1 1 2 5 3 1 3 1 2 4 3 1 a 4 1a 2 2 1 12 3 18 1 9 1 1 2 7 9 2 6 7 7 a 2",
    "3 c 30 1 2 b 8 8 d 25 2 1 1 1 5 1 18 1 1 1 a 1 2 9 1 2 5 1 1 9 a 2 4 20 18 2 1b 1 1 1 1 1",
    "e 1 24 12 1 5 1 2 5 31 8 1 6 1 d 25 2d 4 1 6 1 2 2 2 19 2 4 3 10 4 d 1 2 2 6 1 f 1 28 1 1",
    "5 1 2 179 1 4 2 7 1 1 1 4 2 29 1 4 2 21 1 4 2 7 1 1 1 4 2 f 1 39 1 4 2 43 5 1d 3 1a 6 56 2",
    "6 2 29d 3 59 7 12 d 13 3 2 9 12 e d 1 3 f 34 2 1 7 8 1 2 b 9 3 a 6 a 6 b 5 a 6 59 7 5 2 22",
    "1 1 5 46 a 1f 4 4 2 3 4 2 1 6 7 1 3 2a 2 5 b 2c 4 1a 6 b 3 39 2 2 3 38 1 1 9 1 1 2 8 6 d a",
    "6 a 6 e 56 30 a 4 3 8 1 1d 9 c 2 20 4 2 6 38 1 1 2 3 1 1 d 30 8 2 5 f 3 3e 5 2b 2 b b 1 d",
    "1 7 4 1 6 1 3 2 1 5 c0 40 116 2 6 2 26 2 6 2 8 1 1 1 1 1 1 1 1f 2 35 1 f 1 e 2 6 1 13 2 3",
    "1 9 1 b 5 18 7 31 10 2 2 1b 1 d 3 21 3f 8c 4 29a 16 b 15 714 2 20 1 158 3 2 5 2d 1 1 5 1 2",
    "38 7 2 f 17 9 7 1 7 1 7 1 7 1 7 1 7 1 7 1 7 21 5e 22 1a 1 59 c d6 1a 3a 6 10 1 56 4 65 5",
    "2b 1 5e 1 56 9 30 1 726d 3 37 9 15c 14 2f 4 1 a 20 2 50 2 6 8 ce 2 2 1 1 1 8 15 10 1 3 1 4",
    "1 19 2 5 4 a 6 38 8 44 a c 18 d 1 26 8 19 b 1 c 1e 6 30 1 2 4 2 2 2 1 d 1 b 4 7 1 19 1 29",
    "6 2 2 2 b 3 1 8 1 1 2 a 2 20 1 33 1 1 3 2 2 5 2 1 1 1 18 11 2 8 b 6 2 6 2 6 9 7 1 7 1 3c 4",
    "75 1 2 1 4 3 a 6 2ba4 c 17 4 31 2104 16e 2 6a 26 7 c 5 5 1 1 18 1 5 1 1 1 2 1 2 1 7d 10",
    "1bd 2 36 7 1 20 10 10 a 16 23 1 13 1 4 4 5 1 87 4 9d 2 1f 3 6 2 6 2 6 2 3 3 7 1 7 d 2 2 c",
    "1 1a 1 13 1 2 1 f 2 e 22 7b 5 3 4 2d 3 58 1 d 3 1 2f 2d 83 1d 3 31 10 1b 4 24 9 1e 5 26 a",
    "1e 1 25 4 e 2a 9e 2 a 6 24 4 24 4 28 8 34 b c 1 f 1 7 1 2 1 b 1 f 1 7 1 2 3 34 c 137 9 16",
    "a 8 18 6 1 2a 1 9 45 6 2 1 1 2c 1 2 3 1 2 17 1 48 8 9 30 13 1 2 5 21 3 1b 5 1 40 38 4 14 2",
    "2f f 4 1 3 1 1d a 9 7 9 7 40 20 25 6 c 9 36 3 1d 2 1b 5 1a 7 4 c 7 50 49 37 33 d 33 7 2a c",
    "a 6 26 8 18 8 2 d0 1f 1 2a 3 1 2 2 10 3 3b 28 8 16 b 9 16 12 4 4 26 1c 14 17 9 1 1 36 f 7",
    "4 1e 1 2 2 1 c 31 4 2 2 2 1 4 e 19 7 a 9 24 5 1 9 12 8 23 1 3 b 34 9 1 1 8 4 2 1 10 1 14 b",
    "12 1 1c 3 2 4 6 1 2 3f 7 1 1 1 4 1 f 1 b 6 2f 1 3 d a 8 2 1 8 2 2 2 16 1 7 1 2 1 5 3 1 1 1",
    "1 4 2 2 2 2 3 1 c 7 1c a 1 1 2 1 1 26 1 1 1 2 f 1 1 2 3 1 1 3 1 2 27 38 8 2 3 1 1 15 1 1 1",
    "3 1e 30 1 2 6 1 1 2 1 1 2 1 2 4 8 a a6 2f 1 2 6 4 2 1 2 1b 24 33 8 2 1 1 2 4 b a 6 d 13 2b",
    "1 1 1 2 8 2 6 a 6 14 1c 1b 3 1 1 2 4 1 9 17 b9 2f 9 1 2 1 64 53 c 8 2 1 2 8 1 2 1 18 1 5 1",
    "2 6 4 1 3 9 a 46 8 2 2a 8 4 1 4 1b 1 a 28 6 2 4 8 9 1 6 2 3 2e d 1 2 9 d 49 7 a b6 22 e a",
    "6 9 1 26 e 1 1 6 a 1d 3 20 19 1 7 1 2 1 4b 7 1 2 1 26 15 1 9 a 6 6 1 2 1 25 4 2 1 1 1 1 7",
    "a 136 13 2 4 9 f 1 24 8 2 3 17 56 1 f 32 d 39b 66 6f 1 5 b c4 a4c 63 d 430 11 6 19 f9b 5",
    "247 1ab9 1e c 3 3 a 6c6 239 7 1f 1 a 4 51 1 a 6 1e 7 1 a 30 7 f a a 1 7 1 15 5 13 1b0 3a",
    "c6 5b 65 4b 5 38 b d 40 4 1c 17f8 8 4d6 29 a 22e7 4 1 7 1 2 1 123 f 1 1d 3 2 1 e 4 8 18c",
    "904 6b 5 d 3 9 7 a 2 1 2 1 f60 fa 6 1b4 9c 74 3c f6 a 27 2 3c 5 3 16 2 7 1e 4 3d 15 42 3 1",
    "7a 14 c 14 c 57 9 19 87 55 1 47 1 2 2 1 2 2 2 4 1 c 1 1 1 7 1 41 1 4 2 8 1 7 1 1c 1 4 1 5",
    "1 1 3 7 1 154 2 124 2 232 37 4 32 8 1 e 1 7 474 1f 6 6 105 3e 92 2d a 7 2 a 4 2 140 1e 12",
    "2c 4 a 5 1 1d0 1c 4 a d6 1e 2 b 4 1 1e0 7 1 4 1 2 1 f 1 c5 2 9 30 44 7 1 4 a 4 2 311 44 4c",
    "3d c2 4 1 1b 1 2 1 1 2 1 1 a 1 4 1 1 1 1 6 1 4 1 1 1 1 1 1 3 1 2 1 1 2 1 1 1 1 1 1 1 1 1 1",
    "2 1 1 2 4 1 7 1 4 1 4 1 1 1 a 1 11 5 3 1 5 1 11 34 2 10e 2c 4 64 c f 2 f 1 f 1 25 a ae 38",
    "1d d 2c 4 9 7 2 e 6 9a 3d8 4 11 3 d 3 77 4 5f 6 c 4 1 f c 4 38 8 a 6 28 8 1e 2 c 4 2 3e",
    "154 c e 2 d 3 a 5 38 7 f 2 b 6 9 7 93 1 66 406 a6e0 20 103a 6 de 2 1682 e 1d31 f 26e 9a2",
    "21e 5e2 134b 5 1060"]⟩,
  ⟨["grext", "graphemeextend"], [
    "300 70 113 7 107 2d 1 1 1 2 1 2 1 1 48 b 30 15 10 1 65 7 2 6 2 2 1 4 23 1 1e 1b 5b b 3a 9",
    "9 1 18 4 1 9 1 3 1 5 2b 3 3b 9 2a 18 1 20 37 1 1 1 4 8 4 1 3 7 a 2 1d 1 3a 1 1 1 2 4 8 1 9",
    "1 a 2 1a 1 2 2 39 1 4 2 4 2 2 3 3 1 1e 2 3 1 b 2 39 1 4 5 1 2 4 1 14 2 16 6 1 1 3a 1 1 2 1",
    "4 8 1 7 3 a 2 1e 1 3b 1 1 1 c 1 9 1 28 1 3 1 37 1 1 3 5 3 1 4 7 2 b 2 1d 1 3a 1 2 2 1 1 3",
    "3 1 4 7 2 b 2 1c 2 39 2 1 1 2 4 8 1 9 1 a 2 1d 1 48 1 4 1 2 3 1 1 8 1 51 1 2 7 c 8 62 1 2",
    "9 b 7 49 2 1b 1 1 1 1 1 37 e 1 5 1 2 5 b 1 24 9 1 66 4 1 6 1 2 2 2 19 2 4 3 10 4 d 1 2 2 6",
    "1 f 1 2bf 3 3b2 4 1c 3 1d 2 1e 2 40 2 1 7 8 1 2 b 9 1 2d 3 1 1 75 2 22 1 76 3 4 2 9 1 6 3",
    "db 2 2 1 3a 1 1 7 1 1 1 1 2 8 6 a 2 1 30 1f 31 4 30 a 4 3 26 9 c 2 20 4 2 6 38 1 1 2 3 1 1",
    "5 38 8 2 2 98 3 1 d 1 7 4 1 6 1 3 2 c6 40 20c 1 c3 21 bfe 3 8d 1 60 20 22a 6 69 2 75d4 4 1",
    "a 20 2 50 2 110 1 3 1 4 1 19 2 5 1 97 2 1a 12 d 1 26 8 19 b 1 1 2c 3 30 1 2 4 2 2 2 1 24 1",
    "43 6 2 2 2 2 c 1 8 1 2f 1 33 1 1 3 2 2 5 2 1 1 2a 2 8 1 ee 1 2 1 4 1 4f30 1 2e1 10 10 10",
    "16e 2 25d 1 e2 1 95 5 686 3 1 2 5 4 28 3 4 1 a5 2 23d 4 41 5 13d 2 4f 4 46 b 31 4 7b 1 36",
    "f 29 1 2 2 a 3 31 4 2 2 7 1 3d 3 24 5 1 8 3e 1 c 2 34 9 1 1 8 4 2 1 5f 3 2 4 6 1 2 1 9d 1",
    "3 8 15 2 39 2 1 1 1 1 c 1 9 1 e 7 3 5 43 1 2 6 1 1 2 1 1 3 4 3 1 1 e 2 55 8 2 3 1 1 17 1",
    "51 1 2 6 1 1 2 1 1 2 1 2 eb 1 2 4 6 2 1 2 1b 2 55 8 2 1 1 2 6a 1 1 1 2 8 65 1 1 1 2 4 1 5",
    "103 9 1 2 f5 1 a 4 4 1 90 4 2 2 4 1 20 a 28 6 2 4 8 1 9 6 2 3 2e d 1 2 196 7 1 6 1 1 52 16",
    "2 7 1 2 1 2 7a 6 3 1 1 2 1 7 1 1 48 2 3 1 1 1 15b 2 b 2 34 5 5 3 17 1 14e5 1 6 f 2cc8 c 3",
    "3 9c0 5 3b 7 418 1 3f 4 51 1 b 2 4cab 2 1261 2e 2 17 21e 5 3 6 8 8 2 7 1e 4 94 3 7bb 37 4",
    "32 8 1 e 1 16 5 1 f 550 7 1 11 2 7 1 2 1 5 64 1 a0 7 177 1 3d 4 1fc 4 fe 2 2e0 7 6d 7",
    "c16d5 60 80 f0"]⟩,
  ⟨["grlink", "graphemelink"], [
    "94d 1 7f 1 7f 1 7f 1 7f 1 7f 1 7f 1 7f 1 6d 2 10 1 7c 1 6f 1 7f 1 c9 1 b4 2 6d9 2 1e 1 9d",
    "1 28d 1 e3 1 65 2 46 2 118b 1 7a86 1 25 1 97 1 8e 1 6c 1 135 1 f6 1 5e51 1 606 1 29 1 e 1",
    "39 1 79 2 8b 1 74 1 b4 1 62 1 80 3 71 1 7f 1 fc 1 7f 1 76 1 74 1 10d 1 103 2 a1 1 53 1 12",
    "1 51 1 1a5 1 104 2 51 1 1a9 2 41ec 1"]⟩,
  ⟨["hex", "hexdigit"], ["30 a 7 6 1a 6 fea9 a 7 6 1a 6"]⟩,
  ⟨["hyphen"], ["2d 1 7f 1 4dc 1 127b 1 809 2 e05 1 2e3 1 cd67 1 a9 1 57 1"]⟩,
  ⟨["idsb", "idsbinaryoperator"], ["2ff0 2 2 a 1f1 1"]⟩,
  ⟨["idst", "idstrinaryoperator"], ["2ff2 2"]⟩,
  ⟨["idsu", "idsunaryoperator"], ["2ffe 2"]⟩,
  ⟨["idcompatmathcontinue"], [
    "b2 2 5 1 1fb6 1 3 b 1 f 173 1 4 1 16 1 1b4a2 1 19 1 1f 1 19 1 1f 1 19 1 1f 1 19 1 1f 1 19",
    "1"]⟩,
  ⟨["idcompatmathstart"], ["2202 1 4 1 16 1 1b4a2 1 19 1 1f 1 19 1 1f 1 19 1 1f 1 19 1 1f 1 19 1"]⟩,
  ⟨["idc", "idcontinue"], [
    "30 a 7 1a 4 1 1 1a 2f 1 a 1 1 1 2 1 5 17 1 1f 1 1ca 4 c e 5 7 1 1 1 11 75 1 2 2 4 1 1 6 5",
    "1 1 1 14 1 53 1 8b 1 5 2 a6 1 26 2 1 6 29 8 2d 1 1 1 2 1 2 1 1 8 1b 4 4 1d b 5 4a 4 66 1 8",
    "2 a 1 13 2 1 10 3b 2 65 e 36 4 1 2 1 2 2e 12 1c 4 b 5 18 1 6 8 4b 1 81 2 a 1 13 1 8 2 2 2",
    "16 1 7 1 1 3 4 2 9 2 2 2 4 8 1 4 2 1 5 2 c a 1 1 1 2 3 1 6 4 2 2 16 1 7 1 2 1 2 1 2 2 1 1",
    "5 4 2 2 3 3 1 7 4 1 1 7 10 b 3 1 9 1 3 1 16 1 7 1 2 1 5 2 a 1 3 1 3 2 1 f 4 2 a 9 7 1 3 1",
    "8 2 2 2 16 1 7 1 2 1 5 2 9 2 2 2 3 7 3 4 2 1 5 2 a 1 1 10 2 1 6 3 3 1 4 3 2 1 1 1 2 3 2 3",
    "3 3 c 4 5 3 3 1 4 2 1 6 1 e a 10 d 1 3 1 17 1 10 2 9 1 3 1 4 7 2 1 3 2 1 2 4 2 a 10 4 1 8",
    "1 3 1 17 1 a 1 5 2 9 1 3 1 4 7 2 6 2 1 4 2 a 1 3 c d 1 3 1 33 1 3 1 5 5 4 7 5 2 a a 6 1 3",
    "1 12 3 18 1 9 1 1 2 7 3 1 4 6 1 1 1 8 6 a 2 2 d 3a 5 f 1 a 27 2 1 1 1 5 1 18 1 1 1 17 2 5",
    "1 1 1 7 1 a 2 4 20 1 17 2 6 a b 1 1 1 1 1 4 a 1 24 4 14 1 12 1 24 9 1 39 4a 6 4e 2 26 1 1",
    "5 1 2 2b 1 14d 1 4 2 7 1 1 1 4 2 29 1 4 2 21 1 4 2 7 1 1 1 4 2 f 1 39 1 4 2 43 2 3 9 9 e",
    "10 10 56 2 6 3 26c 2 11 1 1a 5 4b 3 b 7 16 9 16 b 14 c d 1 3 1 2 c 54 3 1 4 2 2 a 21 3 1 b",
    "6 59 7 2b 5 46 a 1f 1 c 4 c a 28 2 5 b 2c 4 1a 6 b 25 1c 4 3f 1 1d 2 b 6 a d 1 8 e 1 10 31",
    "4d 3 a 11 9 c 74 c 38 8 a 3 31 2 b 5 2b 2 3 10 3 1 27 5 216 2 6 2 26 2 6 2 8 1 1 1 1 1 1 1",
    "1f 2 35 1 7 1 1 3 3 1 7 3 4 2 6 4 d 5 3 1 7 f 2 31 2 13 1 1c 1 d 1 10 d 33 d 4 1 3 c 11 1",
    "4 1 2 a 1 1 2 6 6 1 1 1 1 1 1 10 2 4 5 5 4 1 11 29 a77 e5 6 9 c 26 1 1 5 1 2 38 7 1 f 18 9",
    "7 1 7 1 7 1 7 1 7 1 7 1 7 1 7 1 20 205 3 19 f 1 5 2 5 4 56 2 7 1 5f 5 2b 1 5e 11 20 30 10",
    "200 19c0 40 568d 43 2e 2 10d 3 1c 14 30 4 a 1 73 25 9 2 67 2 43 2 2 1 1 1 8 15 36 4 1 13",
    "34 c 46 a a 6 18 3 1 1 31 2 24 c 1d 3 41 e b 6 1f 1 37 9 e 2 a 6 17 3 49 18 3 2 10 2 5 a 6",
    "2 6 2 6 9 7 1 7 1 2b 1 e 6 7b 1 2 2 a 6 2ba4 c 17 4 31 2104 16e 2 6a 26 7 c 5 5 c 1 d 1 5",
    "1 1 1 2 1 2 1 6c 21 16b 12 40 2 36 28 c 4 10 10 10 3 2 18 3 20 5 1 87 13 a 7 1a 4 1 1 1a a",
    "5a 3 6 2 6 2 6 2 3 23 c 1 1a 1 13 1 2 1 f 2 e 22 7b 45 35 88 1 82 1d 3 31 f 1 1f 20 d 1e 5",
    "2b 5 1e 2 24 4 8 1 5 2a 9e 2 a 6 24 4 24 4 28 8 34 c b 1 f 1 7 1 2 1 b 1 f 1 7 1 2 3 34 c",
    "137 9 16 a 8 18 6 1 2a 1 9 45 6 2 1 1 2c 1 2 3 1 2 17 a 17 9 1f 41 13 1 2 a 16 a 1a 46 38",
    "6 2 40 4 1 2 5 8 1 3 1 1d 2 3 4 1 20 1d 3 1d 23 8 1 1e 19 36 a 16 a 13 d 12 6e 49 37 33 d",
    "33 d 28 8 a 6 26 3 5 1 17 fa 2a 1 2 3 2 10 3 37 21 a 1 8 21 1f 16 2a 15 1b 17 9 47 1f 10 9",
    "3c 7 1 d 19 7 a 6 35 1 a 4 4 8 24 2 1 9 45 4 4 1 d 1 1 23 12 1 25 6 4 3e 7 1 1 1 4 1 f 1 a",
    "7 3b 5 a 6 4 1 8 2 2 2 16 1 7 1 2 1 5 1 a 2 2 2 3 2 1 6 1 5 7 2 7 3 5 b a 1 1 2 1 1 26 1 a",
    "1 1 2 1 1 4 1 8 d 2 1d 4b 5 a 4 4 1e 46 1 1 8 a a6 36 2 9 17 6 22 41 3 1 b a 26 39 7 a 6",
    "14 1c 1b 2 f 4 a 6 7 b9 3b 65 4a 15 8 2 1 2 8 1 2 1 1e 1 2 2 9 c a 46 8 2 2e 2 8 1 2 1b 3f",
    "8 1 8 4a 3 1 12 49 c7 21 f a 6 9 1 2d 1 9 f a 18 1e 2 16 1 e 49 7 1 2 1 2c 3 1 1 2 1 9 8 a",
    "6 6 1 2 1 25 1 2 1 6 7 a 136 17 9 11 1 29 3 5 d b 55 1 4f 39a 66 6f 11 c4 a4c 61 f 430 10",
    "16 a f9b 5 247 1ab9 3a 6c6 239 7 1f 1 a 6 4f 1 a 6 1e 2 5 b 37 9 4 c a 9 15 5 13 1b0 2d 3",
    "a c6 40 80 4b 4 39 7 11 40 2 1 2 b 2 e 17f8 8 4d6 29 a 22e7 4 1 7 1 2 1 123 f 1 1d 3 2 1 e",
    "4 8 18c 904 6b 5 d 3 9 7 a 3 2 1051 a 206 2e 2 17 21e 5 3 6 8 8 2 7 1e 4 94 3 1bb 55 1 47",
    "1 2 2 1 2 2 2 4 1 c 1 1 1 7 1 41 1 4 2 8 1 7 1 1c 1 4 1 5 1 1 3 7 1 154 2 19 1 19 1 1f 1",
    "19 1 1f 1 19 1 1f 1 19 1 1f 1 19 1 8 2 32 200 37 4 32 8 1 e 1 16 5 1 f 450 1f 6 6 d5 7 1",
    "11 2 7 1 2 1 5 5 3e 21 1 70 2d 3 e 2 a 4 1 141 1f 11 3a 1d6 2a d6 2b 1e5 7 1 4 1 2 1 f 1",
    "c5 b 7 29 4c 4 a 4a6 4 1 1b 1 2 1 1 2 1 1 a 1 4 1 1 1 1 6 1 4 1 1 1 1 1 1 3 1 2 1 1 2 1 1",
    "1 1 1 1 1 1 1 1 2 1 1 2 4 1 7 1 4 1 4 1 1 1 a 1 11 5 3 1 5 1 11 d34 a 406 a6e0 20 103a 6",
    "de 2 1682 e 1d31 f 26e 9a2 21e 5e2 134b 5 1060 add50 f0"]⟩,
  ⟨["ids", "idstart"], [
    "41 1a 6 1a 2f 1 a 1 4 1 5 17 1 1f 1 1ca 4 c e 5 7 1 1 1 81 5 1 2 2 4 1 1 6 1 1 3 1 1 1 14",
    "1 53 1 8b 8 a6 1 26 2 1 6 29 47 1b 4 4 2d 2b 23 2 1 63 1 1 f 2 7 2 a 3 2 1 10 1 1 1e 1d 59",
    "b 1 18 21 9 2 4 1 5 16 4 1 9 1 3 1 17 19 7 b 5 18 1 6 11 2a 3a 36 3 1 12 1 7 a f 10 4 8 2",
    "2 2 16 1 7 1 1 3 4 3 1 10 1 d 2 1 3 e 2 a 1 8 6 4 2 2 16 1 7 1 2 1 2 1 2 1f 4 1 1 13 3 10",
    "9 1 3 1 16 1 7 1 2 1 5 3 1 12 1 f 2 17 1 b 8 2 2 2 16 1 7 1 2 1 5 3 1 1e 2 1 3 f 1 11 1 1",
    "6 3 3 1 4 3 2 1 1 1 2 3 2 3 3 3 c 16 1 34 8 1 3 1 17 1 10 3 1 1a 3 2 1 2 2 1e 1 4 8 1 3 1",
    "17 1 a 1 5 3 1 1f 2 1 2 f 2 11 9 1 3 1 29 2 1 10 1 5 3 8 3 18 6 5 12 3 18 1 9 1 1 2 7 3a",
    "30 1 2 c 7 3a 2 1 1 1 5 1 18 1 1 1 a 1 2 9 1 2 5 1 1 15 4 20 1 3f 8 1 24 1b 5 73 2b 14 1",
    "10 6 4 4 3 1 3 2 7 3 4 d c 1 11 26 1 1 5 1 2 2b 1 14d 1 4 2 7 1 1 1 4 2 29 1 4 2 21 1 4 2",
    "7 1 1 1 4 2 f 1 39 1 4 2 43 25 10 10 56 2 6 3 26c 2 11 1 1a 5 4b 3 b 7 12 d 13 e 12 e d 1",
    "3 f 34 23 1 4 1 43 59 7 29 1 1 5 46 a 1f 31 1e 2 5 b 2c 4 1a 36 17 9 35 52 1 5d 2f 11 8 36",
    "1e d 2 a 2c 1a 24 29 3 a 24 2 b 5 2b 2 3 29 4 1 6 1 2 3 1 5 c0 40 116 2 6 2 26 2 6 2 8 1 1",
    "1 1 1 1 1 1f 2 35 1 7 1 1 3 3 1 7 3 4 2 6 4 d 5 3 1 7 74 1 d 1 10 d 65 1 4 1 2 a 1 1 2 6 6",
    "1 1 1 1 1 1 10 2 4 5 5 4 1 11 29 a77 e5 6 4 3 2 c 26 1 1 5 1 2 38 7 1 10 17 9 7 1 7 1 7 1",
    "7 1 7 1 7 1 7 1 7 226 3 19 9 7 5 2 5 4 56 4 5 1 5a 1 4 5 2b 1 5e 11 20 30 10 200 19c0 40",
    "568d 43 2e 2 10d 3 10 a 2 14 2f 10 1f 2 50 27 9 2 67 2 43 2 2 1 1 1 8 15 10 1 3 1 4 1 17",
    "1d 34 e 32 3e 6 3 1 1 2 b 1c a 17 19 1d 7 2f 1c 1 10 5 1 a a 5 1 29 17 3 1 8 14 17 3 1 3",
    "32 1 1 3 2 2 5 2 1 1 1 18 3 2 b 7 3 c 6 2 6 2 6 9 7 1 7 1 2b 1 e 6 73 1d 2ba4 c 17 4 31",
    "2104 16e 2 6a 26 7 c 5 5 1 1 a 1 d 1 5 1 1 1 2 1 2 1 6c 21 16b 12 40 2 36 28 c 74 5 1 87",
    "24 1a 6 1a b 59 3 6 2 6 2 6 2 3 23 c 1 1a 1 13 1 2 1 f 2 e 22 7b 45 35 10b 1d 3 31 2f 20 d",
    "1e 5 26 a 1e 2 24 4 8 1 5 2a 9e 12 24 4 24 4 28 8 34 c b 1 f 1 7 1 2 1 b 1 f 1 7 1 2 3 34",
    "c 137 9 16 a 8 18 6 1 2a 1 9 45 6 2 1 1 2c 1 2 3 1 2 17 a 17 9 1f 41 13 1 2 a 16 a 1a 46",
    "38 6 2 40 1 f 4 1 3 1 1d 2a 1d 3 1d 23 8 1 1c 1b 36 a 16 a 13 d 12 6e 49 37 33 d 33 d 24",
    "26 1c 9 17 fa 2a 6 2 10 3 3b 1d a 1 8 16 2a 12 2e 15 1b 17 c 35 39 2 2 1 d 2d 20 19 1a 24",
    "1d 1 2 1 8 23 3 1 c 30 e 4 15 1 1 1 23 12 1 19 13 2 3f 7 1 1 1 4 1 f 1 a 7 2f 26 8 2 2 2",
    "16 1 7 1 2 1 5 3 1 12 1 c 5 1e a 1 1 2 1 1 26 1 1 19 1 1 1 2c 35 12 4 14 3 1e 30 14 2 1 1",
    "b8 2f 29 4 24 30 14 1 3b 2b d 1 47 1b 25 7 b9 2c 74 40 1f 8 2 1 2 8 1 2 1 18 f 1 1 1 5e 8",
    "2 27 10 1 1 1 1c 1 a 28 7 1 15 1 b 2e 13 1 12 49 c7 21 1f 9 1 25 11 1 31 1e 70 7 1 2 1 26",
    "15 1 19 6 1 2 1 20 e 1 147 13 f 1 1 d 1 22 7c 1 4f 39a 66 6f 11 c4 a4c 61 f 430 11 6 19",
    "f9b 5 247 1ab9 1e 6e2 239 7 1f 11 4f 11 1e 12 30 10 4 1f 15 5 13 1b0 2d d3 40 80 4b 5 1 42",
    "d 40 2 1 1 1c 17f8 8 4d6 29 a 22e7 4 1 7 1 2 1 123 f 1 1d 3 2 1 e 4 8 18c 904 6b 5 d 3 9 7",
    "a 1766 55 1 47 1 2 2 1 2 2 2 4 1 c 1 1 1 7 1 41 1 4 2 8 1 7 1 1c 1 4 1 5 1 1 3 7 1 154 2",
    "19 1 19 1 1f 1 19 1 1f 1 19 1 1f 1 19 1 1f 1 19 1 8 734 1f 6 6 105 3e 92 2d a 7 10 1 141",
    "1e 12 2c 1e4 1c e4 1e 2 1 1ef 7 1 4 1 2 1 f 1 c5 3b 44 7 1 4b4 4 1 1b 1 2 1 1 2 1 1 a 1 4",
    "1 1 1 1 6 1 4 1 1 1 1 1 1 3 1 2 1 1 2 1 1 1 1 1 1 1 1 1 1 2 1 1 2 4 1 7 1 4 1 4 1 1 1 a 1",
    "11 5 3 1 5 1 11 1144 a6e0 20 103a 6 de 2 1682 e 1d31 f 26e 9a2 21e 5e2 134b 5 1060"]⟩,
  ⟨["ideo", "ideographic"], [
    "3006 2 19 9 e 3 3c5 19c0 40 5200 5900 16e 2 6a 750a 1 1b 17f8 8 4d6 29 a 2467 18c 4d04",
    "a6e0 20 103a 6 de 2 1682 e 1d31 f 26e 9a2 21e 5e2 134b 5 1060"]⟩,
  ⟨["joinc", "joincontrol"], ["200c 2"]⟩,
  ⟨["loe", "logicalorderexception"], ["e40 5 7b 5 af0 3 2 1 90fa 2 2 1 1 2"]⟩,
  ⟨["lower", "lowercase"], [
    "61 1a 2f 1 a 1 4 1 24 18 1 8 1 1 1 1 1 1 1 1 1 1 1 1 1 1 1 1 1 1 1 1 1 1 1 1 1 1 1 1 1 1 1",
    "1 1 1 1 1 1 1 1 1 1 1 1 1 1 1 1 1 1 1 1 1 1 1 1 2 1 1 1 1 1 1 1 1 1 1 1 1 1 1 1 2 1 1 1 1",
    "1 1 1 1 1 1 1 1 1 1 1 1 1 1 1 1 1 1 1 1 1 1 1 1 1 1 1 1 1 1 1 1 1 1 1 1 1 1 1 1 1 1 2 1 1",
    "1 1 3 2 1 1 1 2 1 3 2 4 1 2 1 3 3 2 1 2 1 1 1 1 1 2 1 1 2 1 1 2 1 3 1 1 1 2 2 2 3 6 1 2 1",
    "2 1 1 1 1 1 1 1 1 1 1 1 1 1 1 1 1 2 1 1 1 1 1 1 1 1 1 1 1 1 1 1 1 1 1 2 2 1 1 1 3 1 1 1 1",
    "1 1 1 1 1 1 1 1 1 1 1 1 1 1 1 1 1 1 1 1 1 1 1 1 1 1 1 1 1 1 1 1 1 1 1 1 1 1 1 1 1 1 1 1 1",
    "1 1 1 1 1 1 1 1 1 7 2 1 2 2 1 1 4 1 1 1 1 1 1 1 1 45 1 24 7 2 1e 5 60 1 2b 1 1 1 3 1 2 4",
    "12 1 1b 23 1 2 3 3 1 1 1 1 1 1 1 1 1 1 1 1 1 1 1 1 1 1 1 1 1 1 1 5 1 1 2 1 2 2 33 30 1 1 1",
    "1 1 1 1 1 1 1 1 1 1 1 1 1 1 1 1 1 1 1 1 1 1 1 1 1 1 1 1 1 1 1 9 1 1 1 1 1 1 1 1 1 1 1 1 1",
    "1 1 1 1 1 1 1 1 1 1 1 1 1 1 1 1 1 1 1 1 1 1 1 1 1 1 1 1 1 1 1 1 1 1 1 1 1 1 1 1 2 1 1 1 1",
    "1 1 1 1 1 1 1 1 2 1 1 1 1 1 1 1 1 1 1 1 1 1 1 1 1 1 1 1 1 1 1 1 1 1 1 1 1 1 1 1 1 1 1 1 1",
    "1 1 1 1 1 1 1 1 1 1 1 1 1 1 1 1 1 1 1 1 1 1 1 1 1 1 1 1 1 1 1 1 1 1 1 1 1 1 1 1 1 1 1 1 1",
    "1 1 1 1 1 1 1 1 1 1 1 1 1 1 1 30 29 b47 2b 1 4 2f8 6 882 9 1 1 75 c0 41 1 1 1 1 1 1 1 1 1",
    "1 1 1 1 1 1 1 1 1 1 1 1 1 1 1 1 1 1 1 1 1 1 1 1 1 1 1 1 1 1 1 1 1 1 1 1 1 1 1 1 1 1 1 1 1",
    "1 1 1 1 1 1 1 1 1 1 1 1 1 1 1 1 1 1 1 1 1 1 1 1 1 1 1 1 1 1 1 1 1 1 1 1 1 1 1 1 1 1 1 1 1",
    "1 1 1 1 1 1 1 1 1 1 1 1 1 1 1 1 1 1 1 1 1 1 1 1 1 1 1 1 1 1 1 1 1 1 1 1 1 1 1 1 1 1 1 1 1",
    "1 1 1 1 9 1 1 1 1 1 1 1 1 1 1 1 1 1 1 1 1 1 1 1 1 1 1 1 1 1 1 1 1 1 1 1 1 1 1 1 1 1 1 1 1",
    "1 1 1 1 1 1 1 1 1 1 1 1 1 1 1 1 1 1 1 1 1 1 1 1 1 1 1 1 1 1 1 1 1 1 1 1 1 1 1 1 1 1 1 1 1",
    "1 1 1 1 1 1 1 1 1 1 1 1 9 8 6 a 8 8 8 8 6 a 8 8 8 8 e 2 8 8 8 8 8 8 5 1 2 6 1 3 3 1 2 8 4",
    "2 2 8 8 a 3 1 2 79 1 d 1 10 d 6d 1 3 2 3 1 1b 1 4 1 4 1 2 2 8 4 4 1 21 10 4 1 34b 1a 746",
    "30 1 1 3 2 1 1 1 1 1 1 4 1 1 2 1 8 3 1 1 1 1 1 1 1 1 1 1 1 1 1 1 1 1 1 1 1 1 1 1 1 1 1 1 1",
    "1 1 1 1 1 1 1 1 1 1 1 1 1 1 1 1 1 1 1 1 1 1 1 1 1 1 1 1 1 1 1 1 1 1 1 1 1 1 1 1 1 1 1 1 1",
    "1 1 1 1 1 1 1 1 1 1 1 1 1 1 1 1 1 1 1 1 1 1 1 1 1 1 2 7 1 1 1 4 1 c 26 1 1 5 1 7913 1 1 1",
    "1 1 1 1 1 1 1 1 1 1 1 1 1 1 1 1 1 1 1 1 1 1 1 1 1 1 1 1 1 1 1 1 1 1 1 1 1 1 1 1 1 1 13 1 1",
    "1 1 1 1 1 1 1 1 1 1 1 1 1 1 1 1 1 1 1 1 1 1 1 1 3 85 1 1 1 1 1 1 1 1 1 1 1 1 3 1 1 1 1 1 1",
    "1 1 1 1 1 1 1 1 1 1 1 1 1 1 1 1 1 1 1 1 1 1 1 1 1 1 1 1 1 1 1 1 1 1 1 1 1 1 1 1 1 1 1 1 1",
    "1 1 1 1 1 1 1 1 1 1 a 1 1 1 1 2 1 1 1 1 1 1 1 1 1 4 1 1 1 2 1 1 3 1 1 1 1 1 1 1 1 1 1 1 1",
    "1 1 1 1 1 1 1 1 5 1 5 1 1 1 1 1 1 1 1 1 1 1 1 1 1 1 4 1 1 1 2 1 3 1 1 1 1 1 1 1 1 1 1 1 16",
    "3 1 1 1 3 335 2b 1 e 6 50 4f40 7 c 5 429 1a 4cd 28 88 24 9b b 1 f 1 7 1 2 1c3 1 2 3 1 2a 1",
    "9 505 33 7d 16 b3a 20 5580 20 659a 1a 1a 7 1 12 1a 1a 1a 4 1 1 1 7 1 b 1a 1a 1a 1a 1a 1a",
    "1a 1a 1a 1a 1a 1a 1a 1a 1a 1a 1a 1c 1c 19 1 6 1a 19 1 6 1a 19 1 6 1a 19 1 6 1a 19 1 6 1 1",
    "734 a 1 14 6 6 105 3e 8b4 22"]⟩,
  ⟨["math"], [
    "2b 1 10 3 1f 1 1d 1 1 1 2d 1 4 1 25 1 1f 1 2d8 3 2 1 1a 2 2 3 20f 3 1a0d 1 1b 3 b 1 3 1 d",
    "1 e 4 15 5 b 5 41 d 4 1 3 2 4 5 12 1 4 1 2 a 1 1 2 6 6 1 3 2 2 2 1 3 1 6 3 e 1 1 44 18 1 6",
    "1 2 4 2 4 20 1 1 6 2 e 10c 8 4 14 2 5a 1 1e 1b 1 1 18 1 b 7 1bd 2 c a 4 6 4 2 2 2 3 5 e 1",
    "1 1 2 6 b 8 5 2 39 1 1 1 1d 4 9 3 150 40 100 200 30 15 2 6 cfdc 1 337 6 1 1 a2 1 10 3 1d 1",
    "1 1 1d 1 1 1 83 1 6 4 da1 2 c670 55 1 47 1 2 2 1 2 2 2 4 1 c 1 1 1 7 1 41 1 4 2 8 1 7 1 1c",
    "1 4 1 5 1 1 3 7 1 154 2 124 2 32 1600 4 1 1b 1 2 1 1 2 1 1 a 1 4 1 1 1 1 6 1 4 1 1 1 1 1 1",
    "3 1 2 1 1 2 1 1 1 1 1 1 1 1 1 1 2 1 1 2 4 1 7 1 4 1 4 1 1 1 a 1 11 5 3 1 5 1 11 34 2"]⟩,
  ⟨["mcm", "modifiercombiningmark"], ["654 2 2 1 83 1 6 1 3 2 1e1 2 1 3 3 1 1f 1"]⟩,
  ⟨["nchar", "noncharactercodepoint"], [
    "fdd0 20 20e 2 fffe 2 fffe 2 fffe 2 fffe 2 fffe 2 fffe 2 fffe 2 fffe 2 fffe 2 fffe 2 fffe 2",
    "fffe 2 fffe 2 fffe 2 fffe 2 fffe 2"]⟩,
  ⟨["oalpha", "otheralphabetic"], [
    "345 1 1d d 240 e 1 1 1 2 1 2 1 1 48 b 30 d 1 7 10 1 65 7 4 4 2 2 4 1 23 1 1e 10 66 b 65 2",
    "3 9 1 3 1 4 6a 1 3c c 3 7 6 14 36 2 2 f 1 2 5 3 a 2 1d 3 3a 7 2 2 2 2 a 1 a 2 1d 3 3a 5 4",
    "2 2 2 4 1 1e 2 3 1 b 3 3a 8 1 3 1 2 15 2 16 3 4 3 3a 7 2 2 2 2 9 2 a 2 1e 1 3b 5 3 3 1 3 a",
    "1 28 5 39 7 1 3 1 3 8 2 b 2 1d 3 3a 7 1 3 1 3 8 2 b 2 f 1 c 4 3a 7 1 3 1 3 a 1 a 2 1d 3 4b",
    "6 1 1 1 8 12 2 3d 1 2 7 12 1 63 1 2 6 1 2 10 1 a3 13 9 b 1 24 6e c 1 1 2 4 17 4 4 3 1 3 2",
    "7 3 4 d c 1 1 a 4 674 2 1e 2 1e 2 1e 2 42 13 bc 2 22 1 76 c 4 9 de 5 39 a 2 14 4a 2 b 3 31",
    "5 30 f 3c 3 1e 9 2 2 39 b 32 13 19c 22 6c1 34 8f6 20 7874 8 22 2 162 1 8 1 17 5 58 2 32 10",
    "1 1 39 1 26 5 1c c 2d 4 30 c 25 1 43 e c 1 8 2 2d 3 32 1 1 3 2 2 5 1 2c 5 5 1 ed 8 4f33 1",
    "857 5 686 3 1 2 5 4 314 4 41 1 141 2 4f 1 103 3 35 e 2d 2 b 3 2d 9 9 1 3d 3 24 c 12 2 39 3",
    "30 d e 2 5c 9 2 1 6 1 2 1 9d a 17 4 3a 7 2 2 2 2 a 1 a 2 54 9 1 1 2 1 1 4 1 2 67 d 1 3 6a",
    "12 ed 7 2 7 1d 2 52 f 1 1 6a b 67 e 101 d f7 6 1 2 2 2 3 1 1 1 8e 7 2 6 4 1 1c a 2a 5 1 4",
    "12 b 2e e 197 8 1 7 53 16 1 e 7a 6 3 1 1 2 1 3 1 1 3 1 42 5 1 2 1 4 15c 4 9 2 1 1 30 7 3 3",
    "41dd 11 e20 1 1 37 7 4 5d 2 4cac 1 2361 7 1 11 2 7 1 2 1 5 64 1 8b7 1 7e8 1a 6 1a 6 1a"]⟩,
  ⟨["odi", "otherdefaultignorablecodepoint"], [
    "34f 1 e0f 2 653 2 8af 1 10fe 1 ce3b 1 4f 9 d0007 1 1 1e 60 80 f0 e10"]⟩,
  ⟨["ogrext", "othergraphemeextend"], [
    "9be 1 18 1 166 1 18 1 66 1 18 1 e8 1 1 1 4 2 1 2 9 2 67 1 18 1 77 1 f 1 935 1 1e 1 400 1 5",
    "1 1 1 5 2 65 1 47 2 418 1 1021 2 7923 1 6c 1 55dd 2 1220 1 74 1 108 1 e 1 9 1 60 1 9 1 2 1",
    "1 3 5 1 e0 1 c 1 f1 1 106 1 279 1 c 1 603 1 50ae 2 6173 2 6 6 c2ead 60"]⟩,
  ⟨["oidc", "otheridcontinue"], ["b7 1 2cf 1 fe1 9 668 1 631 2 10ed 1 ce69 1"]⟩,
  ⟨["oids", "otheridstart"], ["1885 2 891 1 15 1 f6c 2"]⟩,
  ⟨["olower", "otherlowercase"], [
    "aa 1 f 1 1f5 9 7 2 1e 5 60 1 34 1 d81 1 c2f 3f d 1 22 25 2b1 1 d 1 10 d d3 10 350 1a 792 2",
    "7a1e 2 d2 1 81 3 3 2 362 4 9 1 5c16 1 2 3 1 2a 1 9 d875 3e"]⟩,
  ⟨["omath", "othermath"], [
    "5e 1 371 3 2 1 1a 2 2 2 1c20 1 1b 3 b 1 20 4 18 2 e 2 41 d 4 1 3 2 4 5 12 1 4 1 2 a 1 1 3",
    "5 6 1 3 2 2 2 1 3 1 6 3 4 5 5 4b 5 2 4 1 2 1 2 1 1 1 5 2 2 4 2 4 12 2 2 1 1 1 7 1 1 6 2",
    "122 4 a8 2 1 1 18 1 11 1 1bd 2 c 9 5 5 5 2 2 2 3 5 e 1 1 1 2 6 18 2 39 1 1 1 1d 4 9 2 156",
    "2 1f a 193 16 3f 4 20 2 d463 1 1 1 4 1 d3 1 1 1 d4c1 55 1 47 1 2 2 1 2 2 2 4 1 c 1 1 1 7 1",
    "41 1 4 2 8 1 7 1 1c 1 4 1 5 1 1 3 7 1 154 2 19 1 19 1 1f 1 19 1 1f 1 19 1 1f 1 19 1 1f 1",
    "19 1 8 2 32 1600 4 1 1b 1 2 1 1 2 1 1 a 1 4 1 1 1 1 6 1 4 1 1 1 1 1 1 3 1 2 1 1 2 1 1 1 1",
    "1 1 1 1 1 1 2 1 1 2 4 1 7 1 4 1 4 1 1 1 a 1 11 5 3 1 5 1 11"]⟩,
  ⟨["oupper", "otheruppercase"], ["2160 10 346 1a 1cc60 1a 6 1a 6 1a"]⟩,
  ⟨["patsyn", "patternsyntax"], [
    "21 f a 7 1a 4 1 1 1a 4 22 7 1 1 1 2 1 1 1 2 4 1 4 1 3 1 17 1 1f 1 1f18 18 8 f 2 13 1 a 131",
    "2d0 a0 276 1e 46c 200 80 181 3 4 19 f 1 cd0d 2 105 2"]⟩,
  ⟨["patws", "patternwhitespace"], ["9 5 12 1 64 1 1f88 2 18 2"]⟩,
  ⟨["pcm", "prependedconcatenationmark"], ["600 6 d7 1 31 1 180 2 50 1 107da 1 f 1"]⟩,
  ⟨["qmark", "quotationmark"], [
    "22 1 4 1 83 1 f 1 1f5c 8 19 2 e07 1 1c9 4 d 3 ce21 4 bd 1 4 1 5a 2"]⟩,
  ⟨["radical"], ["2e80 1a 1 59 c d6"]⟩,
  ⟨["ri", "regionalindicator"], ["1f1e6 1a"]⟩,
  ⟨["sterm", "sentenceterminal"], [
    "21 1 c 1 10 1 549 1 93 3 b4 1 2b 3 f6 1 3d 1 1 1 3 2 125 2 6e4 2 316 1 4 2 305 1 c6 2 9d 2",
    "2d 1 5 1 13a 2 162 4 a2 2 a 2 2 2 1d 3 bb 2 41 2 3a4 1 17 2 9 3 caf 3 132 1 d 1 16 2 1ad 1",
    "74fc 1 10e 2 e3 1 3 1 17e 2 56 2 5f 1 98 2 93 3 90 2 f9 1 5226 1 2 2 3b 1 3 2 a9 1 c 1 10",
    "1 41 1 af4 2 4fd 5 2c 4 bd 2 75 4 7f 3 81 2 6 1 10 2 58 2 1 2 6c 1 12a 2 75 2 175 2 5 f 69",
    "2 f9 3 205 1 1 1 fb 2 57 2 1a4 2 2b4 2 4a 2 4b29 2 85 1 41 2 b 1 229 2 128 1 4e06 1 1de8 1"]⟩,
  ⟨["sd", "softdotted"], [
    "69 2 c4 1 119 1 1e 1 34 1 14 1 140 1 62 1 1 1 1909 1 33 1 d 1 3 1 84 1 9d 1 1a5 1 d6 2 b32",
    "1 1a7a5 2 32 2 32 2 32 2 32 2 32 2 32 2 32 2 32 2 32 2 32 2 32 2 32 2 886 1 131 2 1a 1"]⟩,
  ⟨["term", "terminalpunctuation"], [
    "21 1 a 1 1 1 b 2 3 1 33e 1 8 1 201 1 39 1 48 1 e 1 1 3 b4 1 2b b 1 1 eb 2 36 6 1 8 1f 1",
    "105 2 4f4 2 ac 1 4 6 137 2 315 8 305 1 7c 3 47 2 9d 3 3 1 27 4 2 2 13a 2 162 4 a2 2 a 2 1",
    "3 1d 3 bb 5 3e 2 3a4 1 17 2 9 3 caf 3 132 1 d 1 4 1 a 1 1 2 3 2 1ac 2 74fb 2 10d 3 e3 5",
    "17e 2 56 2 5f 1 97 3 93 3 7f 1 10 2 f9 1 5226 1 2 2 39 3 1 4 a9 1 a 1 1 1 b 2 3 1 41 1 2 1",
    "43a 1 30 1 486 1 c7 1 136 2 98 6 44 6 59 4 3b8 5 2c 4 bd 7 70 4 7f 3 81 2 6 1 10 2 58 5 6c",
    "1 12a 2 75 3 c 2 166 4 3 f 69 2 f9 3 205 1 1 1 fb 2 57 2 4 2 19e 3 2d 1 285 2 4a 2 52b 5",
    "45f9 2 85 1 41 3 a 1 229 2 127 2 4e06 1 1de7 4"]⟩,
  ⟨["uideo", "unifiedideograph"], [
    "3400 19c0 40 5200 5a0e 2 1 1 1 2 a 1 1 1 1 2 2 3 105d6 a6e0 20 103a 6 de 2 1682 e 1d31 f",
    "26e 11a2 134b 5 1060"]⟩,
  ⟨["upper", "uppercase"], [
    "41 1a 65 17 1 7 21 1 1 1 1 1 1 1 1 1 1 1 1 1 1 1 1 1 1 1 1 1 1 1 1 1 1 1 1 1 1 1 1 1 1 1 1",
    "1 1 1 1 1 1 1 1 1 1 1 1 1 1 1 1 1 1 1 2 1 1 1 1 1 1 1 1 1 1 1 1 1 1 1 2 1 1 1 1 1 1 1 1 1",
    "1 1 1 1 1 1 1 1 1 1 1 1 1 1 1 1 1 1 1 1 1 1 1 1 1 1 1 1 1 1 1 1 1 1 1 1 1 2 1 1 1 1 3 2 1",
    "1 1 2 1 3 2 4 1 2 1 3 3 2 1 2 1 1 1 1 1 2 1 1 2 1 1 2 1 3 1 1 1 2 3 1 7 1 2 1 2 1 2 1 1 1",
    "1 1 1 1 1 1 1 1 1 1 1 1 2 1 1 1 1 1 1 1 1 1 1 1 1 1 1 1 1 1 2 1 2 1 1 3 1 1 1 1 1 1 1 1 1",
    "1 1 1 1 1 1 1 1 1 1 1 1 1 1 1 1 1 1 1 1 1 1 1 1 1 1 1 1 1 1 1 1 1 1 1 1 1 1 1 1 1 1 1 1 1",
    "1 1 1 1 7 2 1 2 2 1 1 4 1 1 1 1 1 1 1 1 121 1 1 1 3 1 8 1 6 1 1 3 1 1 1 2 1 11 1 9 23 1 2",
    "3 3 1 1 1 1 1 1 1 1 1 1 1 1 1 1 1 1 1 1 1 1 1 1 1 5 1 2 1 1 2 2 33 30 1 1 1 1 1 1 1 1 1 1",
    "1 1 1 1 1 1 1 1 1 1 1 1 1 1 1 1 1 1 1 1 1 1 1 9 1 1 1 1 1 1 1 1 1 1 1 1 1 1 1 1 1 1 1 1 1",
    "1 1 1 1 1 1 1 1 1 1 1 1 1 1 1 1 1 1 1 1 1 1 1 1 1 1 1 1 1 1 1 1 1 2 1 1 1 1 1 1 1 1 1 1 1",
    "1 2 1 1 1 1 1 1 1 1 1 1 1 1 1 1 1 1 1 1 1 1 1 1 1 1 1 1 1 1 1 1 1 1 1 1 1 1 1 1 1 1 1 1 1",
    "1 1 1 1 1 1 1 1 1 1 1 1 1 1 1 1 1 1 1 1 1 1 1 1 1 1 1 1 1 1 1 1 1 1 1 1 1 1 1 1 1 1 1 1 1",
    "1 1 1 1 1 1 1 2 26 b49 26 1 1 5 1 2d2 56 893 1 6 2b 2 3 140 1 1 1 1 1 1 1 1 1 1 1 1 1 1 1",
    "1 1 1 1 1 1 1 1 1 1 1 1 1 1 1 1 1 1 1 1 1 1 1 1 1 1 1 1 1 1 1 1 1 1 1 1 1 1 1 1 1 1 1 1 1",
    "1 1 1 1 1 1 1 1 1 1 1 1 1 1 1 1 1 1 1 1 1 1 1 1 1 1 1 1 1 1 1 1 1 1 1 1 1 1 1 1 1 1 1 1 1",
    "1 1 1 1 1 1 1 1 1 1 1 1 1 1 1 1 1 1 1 1 1 1 1 1 1 1 1 1 1 1 1 1 1 1 1 1 1 1 1 1 1 1 1 1 9",
    "1 1 1 1 1 1 1 1 1 1 1 1 1 1 1 1 1 1 1 1 1 1 1 1 1 1 1 1 1 1 1 1 1 1 1 1 1 1 1 1 1 1 1 1 1",
    "1 1 1 1 1 1 1 1 1 1 1 1 1 1 1 1 1 1 1 1 1 1 1 1 1 1 1 1 1 1 1 1 1 1 1 1 1 1 1 1 1 1 1 1 1",
    "1 1 1 1 1 1 1 9 8 8 6 a 8 8 8 8 6 b 1 1 1 1 1 1 1 8 8 48 4 c 4 c 4 c 5 b 4 106 1 4 1 3 3 2",
    "3 2 1 3 5 6 1 1 1 1 1 1 4 2 4 a 2 5 1 1a 10 13 1 332 1a 730 30 30 1 1 3 2 1 1 1 1 1 1 4 1",
    "1 2 1 8 3 1 1 1 1 1 1 1 1 1 1 1 1 1 1 1 1 1 1 1 1 1 1 1 1 1 1 1 1 1 1 1 1 1 1 1 1 1 1 1 1",
    "1 1 1 1 1 1 1 1 1 1 1 1 1 1 1 1 1 1 1 1 1 1 1 1 1 1 1 1 1 1 1 1 1 1 1 1 1 1 1 1 1 1 1 1 1",
    "1 1 1 1 1 1 1 1 1 1 1 1 1 8 1 1 1 4 1 794d 1 1 1 1 1 1 1 1 1 1 1 1 1 1 1 1 1 1 1 1 1 1 1 1",
    "1 1 1 1 1 1 1 1 1 1 1 1 1 1 1 1 1 1 1 1 1 13 1 1 1 1 1 1 1 1 1 1 1 1 1 1 1 1 1 1 1 1 1 1 1",
    "1 1 1 1 87 1 1 1 1 1 1 1 1 1 1 1 1 1 3 1 1 1 1 1 1 1 1 1 1 1 1 1 1 1 1 1 1 1 1 1 1 1 1 1 1",
    "1 1 1 1 1 1 1 1 1 1 1 1 1 1 1 1 1 1 1 1 1 1 1 1 1 1 1 1 1 1 1 1 1 1 1 a 1 1 1 1 2 1 1 1 1",
    "1 1 1 1 4 1 1 1 2 1 1 1 3 1 1 1 1 1 1 1 1 1 1 1 1 1 1 1 1 1 1 1 1 5 1 5 1 1 1 1 1 1 1 1 1",
    "1 1 1 1 1 1 4 1 1 1 2 3 1 5 1 1 1 1 1 1 1 18 1 572b 1a 4c5 28 88 24 9c b 1 f 1 7 1 2 6ea",
    "33 9d 16 b3a 20 5580 20 65a0 1a 1a 1a 1a 1a 1a 1 1 2 2 1 2 2 2 4 1 8 1a 1a 1a 2 1 4 2 8 1",
    "7 1b 2 1 4 1 5 1 1 3 7 1b 1a 1a 1a 1a 1a 1a 1a 1a 1a 1a 1a 1e 19 21 19 21 19 21 19 21 19",
    "21 1 1135 22 80e 1a 6 1a 6 1a"]⟩,
  ⟨["vs", "variationselector"], ["180b 3 1 1 e5f0 10 d02f0 f0"]⟩,
  ⟨["space", "wspace", "whitespace"], ["9 5 12 1 64 1 1a 1 15df 1 97f b 1d 2 5 1 2f 1 fa0 1"]⟩,
  ⟨["xidc", "xidcontinue"], [
    "30 a 7 1a 4 1 1 1a 2f 1 a 1 1 1 2 1 5 17 1 1f 1 1ca 4 c e 5 7 1 1 1 11 75 1 2 3 3 1 1 6 5",
    "1 1 1 14 1 53 1 8b 1 5 2 a6 1 26 2 1 6 29 8 2d 1 1 1 2 1 2 1 1 8 1b 4 4 1d b 5 4a 4 66 1 8",
    "2 a 1 13 2 1 10 3b 2 65 e 36 4 1 2 1 2 2e 12 1c 4 b 5 18 1 6 8 4b 1 81 2 a 1 13 1 8 2 2 2",
    "16 1 7 1 1 3 4 2 9 2 2 2 4 8 1 4 2 1 5 2 c a 1 1 1 2 3 1 6 4 2 2 16 1 7 1 2 1 2 1 2 2 1 1",
    "5 4 2 2 3 3 1 7 4 1 1 7 10 b 3 1 9 1 3 1 16 1 7 1 2 1 5 2 a 1 3 1 3 2 1 f 4 2 a 9 7 1 3 1",
    "8 2 2 2 16 1 7 1 2 1 5 2 9 2 2 2 3 7 3 4 2 1 5 2 a 1 1 10 2 1 6 3 3 1 4 3 2 1 1 1 2 3 2 3",
    "3 3 c 4 5 3 3 1 4 2 1 6 1 e a 10 d 1 3 1 17 1 10 2 9 1 3 1 4 7 2 1 3 2 1 2 4 2 a 10 4 1 8",
    "1 3 1 17 1 a 1 5 2 9 1 3 1 4 7 2 6 2 1 4 2 a 1 3 c d 1 3 1 33 1 3 1 5 5 4 7 5 2 a a 6 1 3",
    "1 12 3 18 1 9 1 1 2 7 3 1 4 6 1 1 1 8 6 a 2 2 d 3a 5 f 1 a 27 2 1 1 1 5 1 18 1 1 1 17 2 5",
    "1 1 1 7 1 a 2 4 20 1 17 2 6 a b 1 1 1 1 1 4 a 1 24 4 14 1 12 1 24 9 1 39 4a 6 4e 2 26 1 1",
    "5 1 2 2b 1 14d 1 4 2 7 1 1 1 4 2 29 1 4 2 21 1 4 2 7 1 1 1 4 2 f 1 39 1 4 2 43 2 3 9 9 e",
    "10 10 56 2 6 3 26c 2 11 1 1a 5 4b 3 b 7 16 9 16 b 14 c d 1 3 1 2 c 54 3 1 4 2 2 a 21 3 1 b",
    "6 59 7 2b 5 46 a 1f 1 c 4 c a 28 2 5 b 2c 4 1a 6 b 25 1c 4 3f 1 1d 2 b 6 a d 1 8 e 1 10 31",
    "4d 3 a 11 9 c 74 c 38 8 a 3 31 2 b 5 2b 2 3 10 3 1 27 5 216 2 6 2 26 2 6 2 8 1 1 1 1 1 1 1",
    "1f 2 35 1 7 1 1 3 3 1 7 3 4 2 6 4 d 5 3 1 7 f 2 31 2 13 1 1c 1 d 1 10 d 33 d 4 1 3 c 11 1",
    "4 1 2 a 1 1 2 6 6 1 1 1 1 1 1 10 2 4 5 5 4 1 11 29 a77 e5 6 9 c 26 1 1 5 1 2 38 7 1 f 18 9",
    "7 1 7 1 7 1 7 1 7 1 7 1 7 1 7 1 20 205 3 19 f 1 5 2 5 4 56 2 2 2 3 1 5f 5 2b 1 5e 11 20 30",
    "10 200 19c0 40 568d 43 2e 2 10d 3 1c 14 30 4 a 1 73 25 9 2 67 2 43 2 2 1 1 1 8 15 36 4 1",
    "13 34 c 46 a a 6 18 3 1 1 31 2 24 c 1d 3 41 e b 6 1f 1 37 9 e 2 a 6 17 3 49 18 3 2 10 2 5",
    "a 6 2 6 2 6 9 7 1 7 1 2b 1 e 6 7b 1 2 2 a 6 2ba4 c 17 4 31 2104 16e 2 6a 26 7 c 5 5 c 1 d",
    "1 5 1 1 1 2 1 2 1 6c 21 8b 6 da 12 40 2 36 28 a 6 10 10 10 3 2 18 3 21 1 1 1 3 1 1 1 1 1 1",
    "1 1 7e 13 a 7 1a 4 1 1 1a a 5a 3 6 2 6 2 6 2 3 23 c 1 1a 1 13 1 2 1 f 2 e 22 7b 45 35 88 1",
    "82 1d 3 31 f 1 1f 20 d 1e 5 2b 5 1e 2 24 4 8 1 5 2a 9e 2 a 6 24 4 24 4 28 8 34 c b 1 f 1 7",
    "1 2 1 b 1 f 1 7 1 2 3 34 c 137 9 16 a 8 18 6 1 2a 1 9 45 6 2 1 1 2c 1 2 3 1 2 17 a 17 9 1f",
    "41 13 1 2 a 16 a 1a 46 38 6 2 40 4 1 2 5 8 1 3 1 1d 2 3 4 1 20 1d 3 1d 23 8 1 1e 19 36 a",
    "16 a 13 d 12 6e 49 37 33 d 33 d 28 8 a 6 26 3 5 1 17 fa 2a 1 2 3 2 10 3 37 21 a 1 8 21 1f",
    "16 2a 15 1b 17 9 47 1f 10 9 3c 7 1 d 19 7 a 6 35 1 a 4 4 8 24 2 1 9 45 4 4 1 d 1 1 23 12 1",
    "25 6 4 3e 7 1 1 1 4 1 f 1 a 7 3b 5 a 6 4 1 8 2 2 2 16 1 7 1 2 1 5 1 a 2 2 2 3 2 1 6 1 5 7",
    "2 7 3 5 b a 1 1 2 1 1 26 1 a 1 1 2 1 1 4 1 8 d 2 1d 4b 5 a 4 4 1e 46 1 1 8 a a6 36 2 9 17",
    "6 22 41 3 1 b a 26 39 7 a 6 14 1c 1b 2 f 4 a 6 7 b9 3b 65 4a 15 8 2 1 2 8 1 2 1 1e 1 2 2 9",
    "c a 46 8 2 2e 2 8 1 2 1b 3f 8 1 8 4a 3 1 12 49 c7 21 f a 6 9 1 2d 1 9 f a 18 1e 2 16 1 e",
    "49 7 1 2 1 2c 3 1 1 2 1 9 8 a 6 6 1 2 1 25 1 2 1 6 7 a 136 17 9 11 1 29 3 5 d b 55 1 4f",
    "39a 66 6f 11 c4 a4c 61 f 430 10 16 a f9b 5 247 1ab9 3a 6c6 239 7 1f 1 a 6 4f 1 a 6 1e 2 5",
    "b 37 9 4 c a 9 15 5 13 1b0 2d 3 a c6 40 80 4b 4 39 7 11 40 2 1 2 b 2 e 17f8 8 4d6 29 a",
    "22e7 4 1 7 1 2 1 123 f 1 1d 3 2 1 e 4 8 18c 904 6b 5 d 3 9 7 a 3 2 1051 a 206 2e 2 17 21e",
    "5 3 6 8 8 2 7 1e 4 94 3 1bb 55 1 47 1 2 2 1 2 2 2 4 1 c 1 1 1 7 1 41 1 4 2 8 1 7 1 1c 1 4",
    "1 5 1 1 3 7 1 154 2 19 1 19 1 1f 1 19 1 1f 1 19 1 1f 1 19 1 1f 1 19 1 8 2 32 200 37 4 32 8",
    "1 e 1 16 5 1 f 450 1f 6 6 d5 7 1 11 2 7 1 2 1 5 5 3e 21 1 70 2d 3 e 2 a 4 1 141 1f 11 3a",
    "1d6 2a d6 2b 1e5 7 1 4 1 2 1 f 1 c5 b 7 29 4c 4 a 4a6 4 1 1b 1 2 1 1 2 1 1 a 1 4 1 1 1 1 6",
    "1 4 1 1 1 1 1 1 3 1 2 1 1 2 1 1 1 1 1 1 1 1 1 1 2 1 1 2 4 1 7 1 4 1 4 1 1 1 a 1 11 5 3 1 5",
    "1 11 d34 a 406 a6e0 20 103a 6 de 2 1682 e 1d31 f 26e 9a2 21e 5e2 134b 5 1060 add50 f0"]⟩,
  ⟨["xids", "xidstart"], [
    "41 1a 6 1a 2f 1 a 1 4 1 5 17 1 1f 1 1ca 4 c e 5 7 1 1 1 81 5 1 2 3 3 1 1 6 1 1 3 1 1 1 14",
    "1 53 1 8b 8 a6 1 26 2 1 6 29 47 1b 4 4 2d 2b 23 2 1 63 1 1 f 2 7 2 a 3 2 1 10 1 1 1e 1d 59",
    "b 1 18 21 9 2 4 1 5 16 4 1 9 1 3 1 17 19 7 b 5 18 1 6 11 2a 3a 36 3 1 12 1 7 a f 10 4 8 2",
    "2 2 16 1 7 1 1 3 4 3 1 10 1 d 2 1 3 e 2 a 1 8 6 4 2 2 16 1 7 1 2 1 2 1 2 1f 4 1 1 13 3 10",
    "9 1 3 1 16 1 7 1 2 1 5 3 1 12 1 f 2 17 1 b 8 2 2 2 16 1 7 1 2 1 5 3 1 1e 2 1 3 f 1 11 1 1",
    "6 3 3 1 4 3 2 1 1 1 2 3 2 3 3 3 c 16 1 34 8 1 3 1 17 1 10 3 1 1a 3 2 1 2 2 1e 1 4 8 1 3 1",
    "17 1 a 1 5 3 1 1f 2 1 2 f 2 11 9 1 3 1 29 2 1 10 1 5 3 8 3 18 6 5 12 3 18 1 9 1 1 2 7 3a",
    "30 1 1 d 7 3a 2 1 1 1 5 1 18 1 1 1 a 1 1 a 1 2 5 1 1 15 4 20 1 3f 8 1 24 1b 5 73 2b 14 1",
    "10 6 4 4 3 1 3 2 7 3 4 d c 1 11 26 1 1 5 1 2 2b 1 14d 1 4 2 7 1 1 1 4 2 29 1 4 2 21 1 4 2",
    "7 1 1 1 4 2 f 1 39 1 4 2 43 25 10 10 56 2 6 3 26c 2 11 1 1a 5 4b 3 b 7 12 d 13 e 12 e d 1",
    "3 f 34 23 1 4 1 43 59 7 29 1 1 5 46 a 1f 31 1e 2 5 b 2c 4 1a 36 17 9 35 52 1 5d 2f 11 8 36",
    "1e d 2 a 2c 1a 24 29 3 a 24 2 b 5 2b 2 3 29 4 1 6 1 2 3 1 5 c0 40 116 2 6 2 26 2 6 2 8 1 1",
    "1 1 1 1 1 1f 2 35 1 7 1 1 3 3 1 7 3 4 2 6 4 d 5 3 1 7 74 1 d 1 10 d 65 1 4 1 2 a 1 1 2 6 6",
    "1 1 1 1 1 1 10 2 4 5 5 4 1 11 29 a77 e5 6 4 3 2 c 26 1 1 5 1 2 38 7 1 10 17 9 7 1 7 1 7 1",
    "7 1 7 1 7 1 7 1 7 226 3 19 9 7 5 2 5 4 56 6 3 1 5a 1 4 5 2b 1 5e 11 20 30 10 200 19c0 40",
    "568d 43 2e 2 10d 3 10 a 2 14 2f 10 1f 2 50 27 9 2 67 2 43 2 2 1 1 1 8 15 10 1 3 1 4 1 17",
    "1d 34 e 32 3e 6 3 1 1 2 b 1c a 17 19 1d 7 2f 1c 1 10 5 1 a a 5 1 29 17 3 1 8 14 17 3 1 3",
    "32 1 1 3 2 2 5 2 1 1 1 18 3 2 b 7 3 c 6 2 6 2 6 9 7 1 7 1 2b 1 e 6 73 1d 2ba4 c 17 4 31",
    "2104 16e 2 6a 26 7 c 5 5 1 1 a 1 d 1 5 1 1 1 2 1 2 1 6c 21 8b 6 da 12 40 2 36 28 a 77 1 1",
    "1 3 1 1 1 1 1 1 1 1 7e 24 1a 6 1a b 38 2 1f 3 6 2 6 2 6 2 3 23 c 1 1a 1 13 1 2 1 f 2 e 22",
    "7b 45 35 10b 1d 3 31 2f 20 d 1e 5 26 a 1e 2 24 4 8 1 5 2a 9e 12 24 4 24 4 28 8 34 c b 1 f",
    "1 7 1 2 1 b 1 f 1 7 1 2 3 34 c 137 9 16 a 8 18 6 1 2a 1 9 45 6 2 1 1 2c 1 2 3 1 2 17 a 17",
    "9 1f 41 13 1 2 a 16 a 1a 46 38 6 2 40 1 f 4 1 3 1 1d 2a 1d 3 1d 23 8 1 1c 1b 36 a 16 a 13",
    "d 12 6e 49 37 33 d 33 d 24 26 1c 9 17 fa 2a 6 2 10 3 3b 1d a 1 8 16 2a 12 2e 15 1b 17 c 35",
    "39 2 2 1 d 2d 20 19 1a 24 1d 1 2 1 8 23 3 1 c 30 e 4 15 1 1 1 23 12 1 19 13 2 3f 7 1 1 1 4",
    "1 f 1 a 7 2f 26 8 2 2 2 16 1 7 1 2 1 5 3 1 12 1 c 5 1e a 1 1 2 1 1 26 1 1 19 1 1 1 2c 35",
    "12 4 14 3 1e 30 14 2 1 1 b8 2f 29 4 24 30 14 1 3b 2b d 1 47 1b 25 7 b9 2c 74 40 1f 8 2 1 2",
    "8 1 2 1 18 f 1 1 1 5e 8 2 27 10 1 1 1 1c 1 a 28 7 1 15 1 b 2e 13 1 12 49 c7 21 1f 9 1 25",
    "11 1 31 1e 70 7 1 2 1 26 15 1 19 6 1 2 1 20 e 1 147 13 f 1 1 d 1 22 7c 1 4f 39a 66 6f 11",
    "c4 a4c 61 f 430 11 6 19 f9b 5 247 1ab9 1e 6e2 239 7 1f 11 4f 11 1e 12 30 10 4 1f 15 5 13",
    "1b0 2d d3 40 80 4b 5 1 42 d 40 2 1 1 1c 17f8 8 4d6 29 a 22e7 4 1 7 1 2 1 123 f 1 1d 3 2 1",
    "e 4 8 18c 904 6b 5 d 3 9 7 a 1766 55 1 47 1 2 2 1 2 2 2 4 1 c 1 1 1 7 1 41 1 4 2 8 1 7 1",
    "1c 1 4 1 5 1 1 3 7 1 154 2 19 1 19 1 1f 1 19 1 1f 1 19 1 1f 1 19 1 1f 1 19 1 8 734 1f 6 6",
    "105 3e 92 2d a 7 10 1 141 1e 12 2c 1e4 1c e4 1e 2 1 1ef 7 1 4 1 2 1 f 1 c5 3b 44 7 1 4b4 4",
    "1 1b 1 2 1 1 2 1 1 a 1 4 1 1 1 1 6 1 4 1 1 1 1 1 1 3 1 2 1 1 2 1 1 1 1 1 1 1 1 1 1 2 1 1 2",
    "4 1 7 1 4 1 4 1 1 1 a 1 11 5 3 1 5 1 11 1144 a6e0 20 103a 6 de 2 1682 e 1d31 f 26e 9a2 21e",
    "5e2 134b 5 1060"]⟩]

end CanonicalLR.Text.Property
