import ListInvocation.Text.CharacterSet

/-!
Contract: the characters that words are made of.

They are the alphabetic characters, the marks, the decimal digits, the connectors and
the two joining controls.

Owns: the set of word characters.

Does not own: where a word begins or ends.
-/

namespace ListInvocation.Unicode

def wordCharacters : Text.CharacterSet := .ofRuns
  "30 a 7 1a 4 1 1 1a 2f 1 a 1 4 1 5 17 1 1f 1 1ca 4 c e 5 7 1 1 1 11 75 1 2 2 4 1 1 6 1 1 3 1 1
   1 14 1 53 1 8b 1 ad 1 26 2 1 6 29 8 2d 1 1 1 2 1 2 1 1 8 1b 4 4 1d b 5 4a 4 66 1 8 2 a 1 13 2
   1 10 3b 2 65 e 36 4 1 2 1 2 2e 12 1c 4 b 5 18 1 6 9 4a 1 81 2 a 1 13 1 8 2 2 2 16 1 7 1 1 3 4
   2 9 2 2 2 4 8 1 4 2 1 5 2 c a 1 1 1 2 3 1 6 4 2 2 16 1 7 1 2 1 2 1 2 2 1 1 5 4 2 2 3 3 1 7 4
   1 1 7 10 b 3 1 9 1 3 1 16 1 7 1 2 1 5 2 a 1 3 1 3 2 1 f 4 2 a 9 7 1 3 1 8 2 2 2 16 1 7 1 2 1
   5 2 9 2 2 2 3 7 3 4 2 1 5 2 a 1 1 10 2 1 6 3 3 1 4 3 2 1 1 1 2 3 2 3 3 3 c 4 5 3 3 1 4 2 1 6
   1 e a 10 d 1 3 1 17 1 10 2 9 1 3 1 4 7 2 1 3 2 1 2 4 2 a 10 4 1 8 1 3 1 17 1 a 1 5 2 9 1 3 1
   4 7 2 6 2 1 4 2 a 1 3 c d 1 3 1 33 1 3 1 5 5 4 7 5 2 a a 6 1 3 1 12 3 18 1 9 1 1 2 7 3 1 4 6
   1 1 1 8 6 a 2 2 d 3a 5 f 1 a 27 2 1 1 1 5 1 18 1 1 1 17 2 5 1 1 1 7 1 a 2 4 20 1 17 2 6 a b 1
   1 1 1 1 4 a 1 24 4 14 1 12 1 24 9 1 39 4a 6 4e 2 26 1 1 5 1 2 2b 1 14d 1 4 2 7 1 1 1 4 2 29 1
   4 2 21 1 4 2 7 1 1 1 4 2 f 1 39 1 4 2 43 2 3 20 10 10 56 2 6 3 26c 2 11 1 1a 5 4b 3 b 7 16 9
   16 b 14 c d 1 3 1 2 c 54 3 1 4 2 2 a 21 3 1 b 6 59 7 2b 5 46 a 1f 1 c 4 c a 28 2 5 b 2c 4 1a
   6 a 26 1c 4 3f 1 1d 2 b 6 a d 1 8 1f 31 4d 3 a 11 9 c 74 c 38 8 a 3 31 2 9 7 2b 2 3 10 3 1 27
   5 216 2 6 2 26 2 6 2 8 1 1 1 1 1 1 1 1f 2 35 1 7 1 1 3 3 1 7 3 4 2 6 4 d 5 3 1 7 f 2 31 2 13
   1 1c 1 d 1 10 d 33 21 11 1 4 1 2 a 1 1 3 5 6 1 1 1 1 1 1 4 1 b 2 4 5 5 4 1 11 29 32d 34 716
   e5 6 9 c 26 1 1 5 1 2 38 7 1 f 18 9 7 1 7 1 7 1 7 1 7 1 7 1 7 1 7 1 20 2f 1 1d5 3 19 f 1 5 2
   5 4 56 2 2 2 3 1 5a 1 4 5 2b 1 5e 11 20 30 10 200 19c0 40 568d 43 2e 2 10d 3 1c 14 33 1 a 1
   73 25 9 2 67 2 40 5 2 1 1 1 5 18 36 4 1 13 34 c 46 a a 6 18 3 1 1 31 2 24 c 1d 3 41 e b 6 1f
   1 37 9 e 2 a 6 17 3 49 18 3 2 10 2 5 a 6 2 6 2 6 9 7 1 7 1 2b 1 e 6 7b 1 2 2 a 6 2ba4 c 17 4
   31 2104 16e 2 6a 26 7 c 5 5 c 1 d 1 5 1 1 1 2 1 2 1 6c 21 16b 12 40 2 36 28 c 4 10 10 10 3 2
   18 3 20 5 1 87 13 a 7 1a 4 1 1 1a b 59 3 6 2 6 2 6 2 3 23 c 1 1a 1 13 1 2 1 f 2 e 22 7b 45 35
   88 1 82 1d 3 31 f 1 1f 20 d 1e 5 2b 5 1e 2 24 4 8 1 5 2a 9e 2 a 6 24 4 24 4 28 8 34 c b 1 f 1
   7 1 2 1 b 1 f 1 7 1 2 43 137 9 16 a 8 18 6 1 2a 1 9 45 6 2 1 1 2c 1 2 3 1 2 17 a 17 9 1f 41
   13 1 2 a 16 a 1a 46 38 6 2 40 4 1 2 5 8 1 3 1 1d 2 3 4 1 20 1d 3 1d 23 8 1 1e 19 36 a 16 a 13
   d 12 6e 49 37 33 d 33 d 28 8 a 146 2a 1 2 3 2 4b 20 a 1 8 21 1f 16 2a 15 1b 17 9 47 1f 10 9
   3c 7 1 d 19 7 a 6 35 1 a 4 4 8 24 2 1 9 45 4 4 1 d 1 1 23 12 1 25 6 4 3e 7 1 1 1 4 1 f 1 a 7
   3b 5 a 6 4 1 8 2 2 2 16 1 7 1 2 1 5 1 a 2 2 2 3 2 1 6 1 5 7 2 7 3 5 8b 4b 5 a 4 4 1e 46 1 1 8
   a a6 36 2 9 17 6 22 41 3 1 b a 26 39 7 a 36 1b 2 f 4 a 6 7 b9 3b 65 4a 15 8 2 1 2 8 1 2 1 1e
   1 2 2 9 c a 46 8 2 2e 2 8 1 2 1b 3f 8 1 8 4a 3 1 12 49 107 9 1 2d 1 9 f a 18 1e 2 16 1 e 49 7
   1 2 1 2c 3 1 1 2 1 9 8 a 6 6 1 2 1 25 1 2 1 6 7 a 136 17 9 11 1 29 3 5 d a 56 1 4f 39a 66 6f
   11 c4 a4c 61 f 430 10 16 faa 247 21b9 239 7 1f 1 a 6 4f 1 a 6 1e 2 5 b 37 9 4 c a 9 15 5 13
   2b0 40 80 4b 4 39 7 11 40 2 1 2 b 2 e 17f8 8 4d6 2a 9 22e7 4 1 7 1 2 1 123 f 1 1d 3 2 1 e 4 8
   18c 904 6b 5 d 3 9 7 a 3 2 1261 2e 2 17 21e 5 3 6 8 8 2 7 1e 4 94 3 1bb 55 1 47 1 2 2 1 2 2 2
   4 1 c 1 1 1 7 1 41 1 4 2 8 1 7 1 1c 1 4 1 5 1 1 3 7 1 154 2 19 1 19 1 1f 1 19 1 1f 1 19 1 1f
   1 19 1 1f 1 19 1 8 2 32 200 37 4 32 8 1 e 1 16 5 1 f 450 1f 6 6 d5 7 1 11 2 7 1 2 1 5 5 3e 21
   1 70 2d 3 e 2 a 4 1 141 1f 11 3a 1d6 2a 2e6 7 1 4 1 2 1 f 1 c5 b 7 29 4c 4 a 4a6 4 1 1b 1 2 1
   1 2 1 1 a 1 4 1 1 1 1 6 1 4 1 1 1 1 1 1 3 1 2 1 1 2 1 1 1 1 1 1 1 1 1 1 2 1 1 2 4 1 7 1 4 1 4
   1 1 1 a 1 11 5 3 1 5 1 11 274 1a 6 1a 6 1a a66 a 406 a6e0 20 103a 6 de 2 1682 e 1d31 c1f 21e
   5e2 134b 5 1060 add50 f0"

end ListInvocation.Unicode
