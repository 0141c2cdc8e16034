import ListInvocation.Unicode.PropertyTable

/-!
Contract: the roles that characters have at the borders of graphemes.

Owns: the role of each character that has one.

Does not own: the rules for the borders.
-/

namespace ListInvocation.Unicode

def graphemeBreaks : PropertyTable := ⟨[
  (["cr"],
    "d 1"),
  (["cn", "control"],
    "0 a 1 2 1 12 5f 21 d 1 56e 1 11f1 1 7fc 1 2 2 18 7 31 10 de8f 1 f0 c 3434 10 8860 4 14cf 8
     c2e85 20 60 80 f0 e10"),
  (["ex", "extend"],
    "300 70 113 7 107 2d 1 1 1 2 1 2 1 1 48 b 30 15 10 1 65 7 2 6 2 2 1 4 23 1 1e 1b 5b b 3a 9 9
     1 18 4 1 9 1 3 1 5 2b 3 3c 8 2a 18 1 20 37 1 1 1 4 8 4 1 3 7 a 2 1d 1 3a 1 1 1 2 4 8 1 9 1
     a 2 1a 1 2 2 39 1 4 2 4 2 2 3 3 1 1e 2 3 1 b 2 39 1 4 5 1 2 4 1 14 2 16 6 1 1 3a 1 1 2 1 4
     8 1 7 3 a 2 1e 1 3b 1 1 1 c 1 9 1 28 1 3 1 37 1 1 3 5 3 1 4 7 2 b 2 1d 1 3a 1 2 1 2 1 3 1 5
     2 7 2 b 2 1c 2 39 2 1 1 2 4 8 1 9 1 a 2 1d 1 48 1 4 1 2 3 1 1 8 1 51 1 2 7 c 8 62 1 2 9 b 7
     49 2 1b 1 1 1 1 1 37 e 1 5 1 2 5 b 1 24 9 1 66 4 1 6 1 2 2 2 19 2 4 3 10 4 d 1 2 2 6 1 f 1
     2bf 3 3b2 3 1d 2 1e 2 1e 2 40 2 1 7 8 1 2 b 9 1 2d 3 1 1 75 2 22 1 76 3 4 2 9 1 6 3 db 2 2
     1 3a 1 1 7 1 1 1 1 2 8 6 a 2 1 30 1f 31 4 30 7 1 1 5 1 28 9 c 2 20 4 2 2 1 3 38 1 1 2 3 1 1
     3 3a 8 2 2 98 3 1 d 1 7 4 1 6 1 3 2 c6 40 20c 1 c3 21 bfe 3 8d 1 60 20 22a 6 69 2 75d4 4 1
     a 20 2 50 2 110 1 3 1 4 1 19 2 5 1 97 2 1a 12 d 1 26 8 19 b 2e 3 30 1 2 4 2 2 27 1 43 6 2 2
     2 2 c 1 8 1 2f 1 33 1 1 3 2 2 5 2 1 1 2a 2 8 1 ee 1 2 1 4 1 4f30 1 2e1 10 10 10 16e 2 25d 1
     e2 1 95 5 686 3 1 2 5 4 28 3 4 1 a5 2 23d 4 183 2 50 3 46 b 31 4 7b 1 36 f 29 1 2 2 a 3 31
     4 2 2 7 1 3d 3 24 5 1 8 3e 1 c 2 34 9 a 4 2 1 5f 3 2 1 1 2 6 1 2 1 9d 1 3 8 15 2 39 2 1 1 1
     1 16 1 e 7 3 5 c3 8 2 3 1 1 17 1 51 1 2 6 1 1 2 1 1 2 1 2 eb 1 2 4 6 2 1 2 1b 2 55 8 2 1 1
     2 6a 1 1 1 2 6 1 1 65 3 2 4 1 5 103 9 1 2 f5 1 a 2 1 1 4 1 90 4 2 2 4 1 20 a 28 6 2 4 8 1 9
     6 2 3 2e d 1 2 196 7 1 6 1 1 52 16 2 7 1 2 1 2 7a 6 3 1 1 2 1 7 1 1 48 2 3 1 1 1 15b 2 b 2
     34 5 5 1 1 1 14fd 1 6 f 369a 5 3b 7 418 1 3f 4 51 1 4cb8 2 1261 2e 2 17 21e 1 1 3 4 5 8 8 2
     7 1e 4 94 3 7bb 37 4 32 8 1 e 1 16 5 1 f 550 7 1 11 2 7 1 2 1 5 64 1 a0 7 177 1 3d 4 1fc 4
     3e0 7 6d 7 ab0 5 c0c20 60 80 f0"),
  (["l"],
    "1100 60 9800 1d"),
  (["lf"],
    "a 1"),
  (["lv"],
    "ac00 1 1b 1 1b 1 1b 1 1b 1 1b 1 1b 1 1b 1 1b 1 1b 1 1b 1 1b 1 1b 1 1b 1 1b 1 1b 1 1b 1 1b 1
     1b 1 1b 1 1b 1 1b 1 1b 1 1b 1 1b 1 1b 1 1b 1 1b 1 1b 1 1b 1 1b 1 1b 1 1b 1 1b 1 1b 1 1b 1
     1b 1 1b 1 1b 1 1b 1 1b 1 1b 1 1b 1 1b 1 1b 1 1b 1 1b 1 1b 1 1b 1 1b 1 1b 1 1b 1 1b 1 1b 1
     1b 1 1b 1 1b 1 1b 1 1b 1 1b 1 1b 1 1b 1 1b 1 1b 1 1b 1 1b 1 1b 1 1b 1 1b 1 1b 1 1b 1 1b 1
     1b 1 1b 1 1b 1 1b 1 1b 1 1b 1 1b 1 1b 1 1b 1 1b 1 1b 1 1b 1 1b 1 1b 1 1b 1 1b 1 1b 1 1b 1
     1b 1 1b 1 1b 1 1b 1 1b 1 1b 1 1b 1 1b 1 1b 1 1b 1 1b 1 1b 1 1b 1 1b 1 1b 1 1b 1 1b 1 1b 1
     1b 1 1b 1 1b 1 1b 1 1b 1 1b 1 1b 1 1b 1 1b 1 1b 1 1b 1 1b 1 1b 1 1b 1 1b 1 1b 1 1b 1 1b 1
     1b 1 1b 1 1b 1 1b 1 1b 1 1b 1 1b 1 1b 1 1b 1 1b 1 1b 1 1b 1 1b 1 1b 1 1b 1 1b 1 1b 1 1b 1
     1b 1 1b 1 1b 1 1b 1 1b 1 1b 1 1b 1 1b 1 1b 1 1b 1 1b 1 1b 1 1b 1 1b 1 1b 1 1b 1 1b 1 1b 1
     1b 1 1b 1 1b 1 1b 1 1b 1 1b 1 1b 1 1b 1 1b 1 1b 1 1b 1 1b 1 1b 1 1b 1 1b 1 1b 1 1b 1 1b 1
     1b 1 1b 1 1b 1 1b 1 1b 1 1b 1 1b 1 1b 1 1b 1 1b 1 1b 1 1b 1 1b 1 1b 1 1b 1 1b 1 1b 1 1b 1
     1b 1 1b 1 1b 1 1b 1 1b 1 1b 1 1b 1 1b 1 1b 1 1b 1 1b 1 1b 1 1b 1 1b 1 1b 1 1b 1 1b 1 1b 1
     1b 1 1b 1 1b 1 1b 1 1b 1 1b 1 1b 1 1b 1 1b 1 1b 1 1b 1 1b 1 1b 1 1b 1 1b 1 1b 1 1b 1 1b 1
     1b 1 1b 1 1b 1 1b 1 1b 1 1b 1 1b 1 1b 1 1b 1 1b 1 1b 1 1b 1 1b 1 1b 1 1b 1 1b 1 1b 1 1b 1
     1b 1 1b 1 1b 1 1b 1 1b 1 1b 1 1b 1 1b 1 1b 1 1b 1 1b 1 1b 1 1b 1 1b 1 1b 1 1b 1 1b 1 1b 1
     1b 1 1b 1 1b 1 1b 1 1b 1 1b 1 1b 1 1b 1 1b 1 1b 1 1b 1 1b 1 1b 1 1b 1 1b 1 1b 1 1b 1 1b 1
     1b 1 1b 1 1b 1 1b 1 1b 1 1b 1 1b 1 1b 1 1b 1 1b 1 1b 1 1b 1 1b 1 1b 1 1b 1 1b 1 1b 1 1b 1
     1b 1 1b 1 1b 1 1b 1 1b 1 1b 1 1b 1 1b 1 1b 1 1b 1 1b 1 1b 1 1b 1 1b 1 1b 1 1b 1 1b 1 1b 1
     1b 1 1b 1 1b 1 1b 1 1b 1 1b 1 1b 1 1b 1 1b 1 1b 1 1b 1 1b 1 1b 1 1b 1 1b 1 1b 1 1b 1 1b 1
     1b 1 1b 1 1b 1 1b 1 1b 1 1b 1 1b 1 1b 1 1b 1 1b 1 1b 1 1b 1 1b 1 1b 1 1b 1 1b 1 1b 1 1b 1
     1b 1 1b 1 1b 1 1b 1 1b 1 1b 1 1b 1 1b 1 1b 1 1b 1 1b 1 1b 1 1b 1 1b 1 1b 1 1b 1 1b 1 1b 1
     1b 1 1b 1 1b 1 1b 1 1b 1 1b 1 1b 1 1b 1 1b 1 1b 1 1b 1 1b 1 1b 1 1b 1 1b 1 1b 1 1b 1 1b 1
     1b 1 1b 1 1b 1"),
  (["lvt"],
    "ac01 1b 1 1b 1 1b 1 1b 1 1b 1 1b 1 1b 1 1b 1 1b 1 1b 1 1b 1 1b 1 1b 1 1b 1 1b 1 1b 1 1b 1
     1b 1 1b 1 1b 1 1b 1 1b 1 1b 1 1b 1 1b 1 1b 1 1b 1 1b 1 1b 1 1b 1 1b 1 1b 1 1b 1 1b 1 1b 1
     1b 1 1b 1 1b 1 1b 1 1b 1 1b 1 1b 1 1b 1 1b 1 1b 1 1b 1 1b 1 1b 1 1b 1 1b 1 1b 1 1b 1 1b 1
     1b 1 1b 1 1b 1 1b 1 1b 1 1b 1 1b 1 1b 1 1b 1 1b 1 1b 1 1b 1 1b 1 1b 1 1b 1 1b 1 1b 1 1b 1
     1b 1 1b 1 1b 1 1b 1 1b 1 1b 1 1b 1 1b 1 1b 1 1b 1 1b 1 1b 1 1b 1 1b 1 1b 1 1b 1 1b 1 1b 1
     1b 1 1b 1 1b 1 1b 1 1b 1 1b 1 1b 1 1b 1 1b 1 1b 1 1b 1 1b 1 1b 1 1b 1 1b 1 1b 1 1b 1 1b 1
     1b 1 1b 1 1b 1 1b 1 1b 1 1b 1 1b 1 1b 1 1b 1 1b 1 1b 1 1b 1 1b 1 1b 1 1b 1 1b 1 1b 1 1b 1
     1b 1 1b 1 1b 1 1b 1 1b 1 1b 1 1b 1 1b 1 1b 1 1b 1 1b 1 1b 1 1b 1 1b 1 1b 1 1b 1 1b 1 1b 1
     1b 1 1b 1 1b 1 1b 1 1b 1 1b 1 1b 1 1b 1 1b 1 1b 1 1b 1 1b 1 1b 1 1b 1 1b 1 1b 1 1b 1 1b 1
     1b 1 1b 1 1b 1 1b 1 1b 1 1b 1 1b 1 1b 1 1b 1 1b 1 1b 1 1b 1 1b 1 1b 1 1b 1 1b 1 1b 1 1b 1
     1b 1 1b 1 1b 1 1b 1 1b 1 1b 1 1b 1 1b 1 1b 1 1b 1 1b 1 1b 1 1b 1 1b 1 1b 1 1b 1 1b 1 1b 1
     1b 1 1b 1 1b 1 1b 1 1b 1 1b 1 1b 1 1b 1 1b 1 1b 1 1b 1 1b 1 1b 1 1b 1 1b 1 1b 1 1b 1 1b 1
     1b 1 1b 1 1b 1 1b 1 1b 1 1b 1 1b 1 1b 1 1b 1 1b 1 1b 1 1b 1 1b 1 1b 1 1b 1 1b 1 1b 1 1b 1
     1b 1 1b 1 1b 1 1b 1 1b 1 1b 1 1b 1 1b 1 1b 1 1b 1 1b 1 1b 1 1b 1 1b 1 1b 1 1b 1 1b 1 1b 1
     1b 1 1b 1 1b 1 1b 1 1b 1 1b 1 1b 1 1b 1 1b 1 1b 1 1b 1 1b 1 1b 1 1b 1 1b 1 1b 1 1b 1 1b 1
     1b 1 1b 1 1b 1 1b 1 1b 1 1b 1 1b 1 1b 1 1b 1 1b 1 1b 1 1b 1 1b 1 1b 1 1b 1 1b 1 1b 1 1b 1
     1b 1 1b 1 1b 1 1b 1 1b 1 1b 1 1b 1 1b 1 1b 1 1b 1 1b 1 1b 1 1b 1 1b 1 1b 1 1b 1 1b 1 1b 1
     1b 1 1b 1 1b 1 1b 1 1b 1 1b 1 1b 1 1b 1 1b 1 1b 1 1b 1 1b 1 1b 1 1b 1 1b 1 1b 1 1b 1 1b 1
     1b 1 1b 1 1b 1 1b 1 1b 1 1b 1 1b 1 1b 1 1b 1 1b 1 1b 1 1b 1 1b 1 1b 1 1b 1 1b 1 1b 1 1b 1
     1b 1 1b 1 1b 1 1b 1 1b 1 1b 1 1b 1 1b 1 1b 1 1b 1 1b 1 1b 1 1b 1 1b 1 1b 1 1b 1 1b 1 1b 1
     1b 1 1b 1 1b 1 1b 1 1b 1 1b 1 1b 1 1b 1 1b 1 1b 1 1b 1 1b 1 1b 1 1b 1 1b 1 1b 1 1b 1 1b 1
     1b 1 1b 1 1b 1 1b 1 1b 1 1b 1 1b 1 1b 1 1b 1 1b 1 1b 1 1b 1 1b 1 1b 1 1b 1 1b 1 1b 1 1b 1
     1b 1 1b 1 1b 1 1b"),
  (["pp", "prepend"],
    "600 6 d7 1 31 1 180 2 50 1 46b 1 1036e 1 f 1 f4 2 77b 1 1 1 f8 1 49 6 2bc 1 1bb 1"),
  (["ri", "regionalindicator"],
    "1f1e6 1a"),
  (["sm", "spacingmark"],
    "903 1 37 1 2 3 8 4 1 2 32 2 3b 2 6 2 2 2 36 1 3a 3 42 1 3a 3 8 1 1 2 35 2 3c 1 6 2 2 2 72 1
     1 2 3 3 1 3 34 3 3d 4 3d 2 3a 1 1 2 1 2 2 2 1 2 27 1 e 2 3b 2 5 3 1 3 35 2 4c 2 6 7 13 2 3f
     1 7f 1 8a 2 3f 1 b1 1 9 2 19 2 2c 1 690 1 1e 1 81 1 7 8 1 2 15a 4 2 3 4 2 1 6 e0 2 3a 1 1 1
     15 6 91 1 36 1 1 5 1 2 3d 1 1e 1 4 2 2 1 3c 1 2 3 1 1 3 2 30 8 8 2 ab 1 15 1 8b2b 2 2 1 58
     2 32 10 8e 2 2f 1 30 2 4 2 2 3 6e 2 2 2 18 1 9d 1 2 2 5 1 ed 2 1 2 1 2 1 1 6413 1 1 1 7f 1
     2d 3 4 2 73 1 18 2 3b 1 30 3 9 2 d 1 5d 3 3 2 1 1 aa 3 1f 2 3b 1 1 4 2 2 2 3 14 2 d1 3 8 2
     3 1 6b 2 6 1 1 2 1 1 2 1 ee 2 6 4 2 1 71 3 8 2 1 1 6d 1 1 2 6 1 6f 1 105 3 9 1 f8 5 1 2 4 1
     2 1 1 1 8e 3 8 4 4 1 54 1 1d 2 3e 1 197 1 e 1 6a 1 7 1 2 1 d5 5 4 2 1 1 15e 2 c 1 30 2 8 2
     1 1 500f 37 68 2 6174 1 6 1"),
  (["t"],
    "11a8 58 c5cb 31"),
  (["v"],
    "1160 48 c608 17"),
  (["zwj"],
    "200d 1")]⟩

end ListInvocation.Unicode
