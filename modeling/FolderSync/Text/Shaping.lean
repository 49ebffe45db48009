import FolderSync.Text.Composition

/-!
# How characters stand together

`isMark` holds of the characters that are marks on others; `joining` says how a letter joins its
neighbours in a cursive script, and `direction` which way a character is written.
-/

namespace FolderSync.Text

/-- Runs of the marks. -/
def markRuns : List Nat := numbers
  "
  768 112 275 7 263 45 1 1 1 2 1 2 1 1 72 11 48 21 16 1 101 7 2 6 2 2 1 4 35 1 30 27 91 11 58
  9 9 1 24 4 1 9 1 3 1 5 43 3 59 9 42 24 1 33 54 3 1 18 1 7 10 2 29 3 56 1 1 7 2 2 2 3 9 1 10
  2 26 1 2 3 56 1 1 5 4 2 2 3 3 1 30 2 3 1 11 3 56 1 1 8 1 3 1 3 20 2 22 6 1 3 56 1 1 7 2 2 2
  3 7 3 10 2 30 1 59 5 3 3 1 4 9 1 40 5 55 1 1 7 1 3 1 4 7 2 11 2 29 3 56 1 1 7 1 3 1 4 7 2 11
  2 15 1 12 4 55 2 1 7 1 3 1 4 9 1 10 2 29 3 70 1 4 6 1 1 1 8 18 2 61 1 2 7 12 8 98 1 2 9 11 7
  73 2 27 1 1 1 1 1 4 2 49 20 1 2 5 11 1 36 9 1 100 20 23 4 4 3 1 3 2 7 3 4 13 12 1 1 10 4 703
  3 946 4 28 3 29 2 30 2 64 32 9 1 45 3 1 1 117 2 34 1 118 12 4 12 219 5 57 10 1 29 2 1 48 46
  2 12 20 5 47 17 38 9 12 3 30 13 56 14 48 20 152 3 1 21 4 1 6 1 2 3 198 64 720 33 3070 3 141
  1 96 32 554 6 105 2 30164 4 1 10 32 2 80 2 272 1 3 1 4 1 23 5 4 1 83 2 50 18 26 18 13 1 38 8
  25 13 44 4 47 14 36 1 67 14 12 1 8 2 45 3 50 1 1 3 2 2 5 2 1 1 41 5 5 2 236 8 1 2 20272 1
  737 16 16 16 973 1 226 1 149 5 1670 3 1 2 5 4 40 3 4 1 165 2 573 4 65 5 317 2 77 6 70 11 49
  4 122 3 53 15 41 1 2 2 10 4 45 11 7 1 61 3 36 14 16 2 44 1 12 3 48 14 8 4 1 2 92 12 6 1 2 1
  157 12 21 4 55 2 1 7 2 2 2 3 9 1 10 2 2 7 3 5 67 9 1 1 2 1 1 4 1 5 1 1 14 2 82 18 23 1 81 20
  235 7 2 9 27 2 82 17 106 13 101 15 256 15 245 6 1 2 2 4 1 1 1 2 141 7 2 7 3 1 28 10 40 7 1 4
  8 1 9 11 46 16 198 8 199 8 1 8 82 22 1 14 122 6 3 1 1 2 1 7 1 1 66 5 1 2 1 5 347 4 9 2 1 1
  48 7 3 5 23 1 5349 1 6 15 11464 18 2496 5 59 7 1048 1 1 55 7 4 81 1 11 2 19627 2 4705 46 2
  23 542 5 3 6 8 8 2 7 30 4 148 3 1979 55 4 50 8 1 14 1 22 5 1 15 1360 7 1 17 2 7 1 2 1 5 100
  1 160 7 375 1 61 4 508 4 254 2 243 1 2 1 7 2 5 1 474 7 109 7 792501 240"

/-- Is the character a mark on the one before it? -/
def isMark (c : Char) : Bool := if c.toNat < 768 then false else inRuns false markRuns c.toNat

/-- Runs of the joining types: for each run its type and its length. -/
def joiningRuns : List Nat := numbers
  "
  0 173 1 1 0 594 1 112 0 275 1 7 0 263 1 45 0 1 1 1 0 1 1 2 0 1 1 2 0 1 1 1 0 72 1 11 0 1 1 1
  0 3 2 1 0 1 4 4 2 1 4 1 2 1 4 1 2 5 4 4 2 13 0 1 2 7 4 1 2 2 1 21 0 14 2 2 1 1 4 3 0 1 4 3 2
  16 4 18 2 38 4 1 2 2 4 9 2 1 4 1 2 1 4 1 2 2 4 2 0 1 4 1 1 7 0 2 1 6 0 2 1 2 0 1 1 4 4 2 0
  10 2 3 0 2 2 1 0 15 1 1 4 1 1 1 2 3 4 5 2 4 4 1 2 9 4 1 2 1 4 1 2 1 4 1 2 2 4 1 1 27 0 2 4 1
  2 11 4 3 2 15 4 2 2 4 4 1 2 1 4 2 2 3 4 2 2 6 0 38 1 11 0 25 2 33 1 9 0 9 1 1 0 24 1 4 0 1 1
  9 0 1 1 3 0 1 1 5 0 18 4 1 2 5 4 2 2 1 4 1 2 10 4 1 2 1 4 3 1 3 0 4 2 1 0 1 2 4 0 1 4 1 2 1
  4 2 0 5 4 19 0 3 2 1 0 2 2 5 4 1 2 1 0 7 1 9 2 10 4 3 0 1 4 1 2 2 4 2 2 6 4 1 2 15 0 1 1 24
  0 1 1 32 0 55 1 1 0 1 1 1 0 4 1 8 0 4 1 1 0 3 1 7 0 10 1 2 0 29 1 1 0 58 1 1 0 4 1 4 0 8 1 1
  0 20 1 2 0 26 1 1 0 2 1 2 0 57 1 1 0 4 1 2 0 4 1 2 0 2 1 3 0 3 1 1 0 30 1 2 0 3 1 1 0 11 1 2
  0 57 1 1 0 4 1 5 0 1 1 2 0 4 1 1 0 20 1 2 0 22 1 6 0 1 1 1 0 58 1 1 0 2 1 1 0 1 1 4 0 8 1 1
  0 7 1 2 0 11 1 2 0 30 1 1 0 61 1 1 0 12 1 1 0 50 1 1 0 3 1 1 0 55 1 1 0 1 1 3 0 5 1 3 0 1 1
  4 0 7 1 2 0 11 1 2 0 29 1 1 0 58 1 1 0 2 1 1 0 6 1 1 0 5 1 2 0 20 1 2 0 28 1 2 0 57 1 2 0 4
  1 4 0 8 1 1 0 20 1 2 0 29 1 1 0 72 1 1 0 7 1 3 0 1 1 1 0 90 1 1 0 2 1 7 0 12 1 8 0 98 1 1 0
  2 1 9 0 11 1 7 0 73 1 2 0 27 1 1 0 1 1 1 0 1 1 1 0 55 1 14 0 1 1 5 0 1 1 2 0 5 1 11 0 1 1 36
  0 9 1 1 0 102 1 4 0 1 1 6 0 1 1 2 0 2 1 2 0 25 1 2 0 4 1 3 0 16 1 4 0 13 1 1 0 2 1 2 0 6 1 1
  0 15 1 1 0 703 1 3 0 946 1 3 0 29 1 2 0 30 1 2 0 30 1 2 0 64 1 2 0 1 1 7 0 8 1 1 0 2 1 11 0
  9 1 1 0 41 2 1 0 3 1 3 0 1 1 1 0 16 2 89 0 12 1 2 2 34 1 1 2 1 0 117 1 3 0 4 1 2 0 9 1 1 0 6
  1 3 0 219 1 2 0 2 1 1 0 58 1 1 0 1 1 7 0 1 1 1 0 1 1 1 0 2 1 8 0 6 1 10 0 2 1 1 0 48 1 46 0
  2 1 12 0 20 1 4 0 48 1 1 0 1 1 5 0 1 1 1 0 5 1 1 0 40 1 9 0 12 1 2 0 32 1 4 0 2 1 2 0 1 1 3
  0 56 1 1 0 1 1 2 0 3 1 1 0 1 1 3 0 58 1 8 0 2 1 2 0 152 1 3 0 1 1 13 0 1 1 7 0 4 1 1 0 6 1 1
  0 3 1 2 0 198 1 64 0 523 1 1 0 2 1 2 0 26 1 5 0 49 1 5 0 5 1 6 0 96 1 33 0 3070 1 3 0 141 1
  1 0 96 1 32 0 554 1 4 0 107 1 2 0 30164 1 4 0 1 1 10 0 32 1 2 0 80 1 2 0 272 1 1 0 3 1 1 0 4
  1 1 0 25 1 2 0 5 1 1 0 19 2 50 3 1 0 81 1 2 0 26 1 18 0 13 1 1 0 38 1 8 0 25 1 11 0 46 1 3 0
  48 1 1 0 2 1 4 0 2 1 2 0 39 1 1 0 67 1 6 0 2 1 2 0 2 1 2 0 12 1 1 0 8 1 1 0 47 1 1 0 51 1 1
  0 1 1 3 0 2 1 2 0 5 1 2 0 1 1 1 0 42 1 2 0 8 1 1 0 238 1 1 0 2 1 1 0 4 1 1 0 20272 1 1 0 737
  1 16 0 16 1 16 0 207 1 1 0 249 1 3 0 513 1 1 0 226 1 1 0 149 1 5 0 1670 1 3 0 1 1 2 0 5 1 4
  0 40 1 3 0 4 1 1 0 128 2 5 4 1 0 1 4 1 0 1 4 2 0 2 3 1 4 5 2 4 3 1 2 5 4 1 2 3 4 1 0 2 4 1 1
  2 0 4 2 4 4 1 0 144 2 1 4 1 2 1 4 3 2 3 4 1 2 2 4 1 2 1 4 2 2 1 4 1 0 23 4 4 2 2 0 337 3 1 2
  33 4 1 2 1 1 4 0 65 1 5 0 317 1 2 0 21 4 1 2 2 0 1 2 2 0 50 1 6 0 48 2 3 4 1 2 17 0 1 1 11 2
  3 4 1 0 27 2 4 4 2 2 12 1 4 0 42 2 1 0 1 2 2 4 3 0 1 2 1 4 2 2 2 4 1 2 2 0 1 2 1 4 2 2 1 0 4
  4 1 2 1 3 1 0 53 1 1 0 54 1 15 0 41 1 1 0 2 1 2 0 10 1 3 0 49 1 4 0 2 1 2 0 7 1 1 0 61 1 3 0
  36 1 5 0 1 1 8 0 62 1 1 0 12 1 2 0 52 1 9 0 10 1 4 0 2 1 1 0 95 1 3 0 2 1 1 0 1 1 2 0 6 1 1
  0 2 1 1 0 157 1 1 0 3 1 8 0 21 1 2 0 57 1 2 0 3 1 1 0 37 1 7 0 3 1 5 0 70 1 6 0 13 1 1 0 1 1
  1 0 1 1 1 0 14 1 2 0 85 1 8 0 2 1 3 0 1 1 1 0 23 1 1 0 84 1 6 0 1 1 1 0 4 1 2 0 1 1 2 0 238
  1 4 0 6 1 2 0 1 1 2 0 27 1 2 0 85 1 8 0 2 1 1 0 1 1 2 0 106 1 1 0 1 1 1 0 2 1 6 0 1 1 1 0
  101 1 1 0 1 1 1 0 2 1 4 0 1 1 5 0 259 1 9 0 1 1 2 0 256 1 2 0 1 1 1 0 4 1 1 0 144 1 4 0 2 1
  2 0 4 1 1 0 32 1 10 0 40 1 6 0 2 1 4 0 8 1 1 0 9 1 6 0 2 1 3 0 46 1 13 0 1 1 2 0 198 1 1 0 1
  1 3 0 1 1 1 0 201 1 7 0 1 1 6 0 1 1 1 0 82 1 22 0 2 1 7 0 1 1 2 0 1 1 2 0 122 1 6 0 3 1 1 0
  1 1 2 0 1 1 7 0 1 1 1 0 72 1 2 0 3 1 1 0 1 1 1 0 347 1 2 0 11 1 2 0 52 1 5 0 5 1 1 0 1 1 1 0
  23 1 1 0 5333 1 17 0 6 1 15 0 11464 1 12 0 3 1 3 0 2496 1 5 0 59 1 7 0 1048 1 1 0 63 1 4 0
  81 1 1 0 19640 1 2 0 1 1 4 0 4700 1 46 0 2 1 23 0 544 1 3 0 9 1 16 0 2 1 7 0 30 1 4 0 148 1
  3 0 1979 1 55 0 4 1 50 0 8 1 1 0 14 1 1 0 22 1 5 0 1 1 15 0 1360 1 7 0 1 1 17 0 2 1 7 0 1 1
  2 0 1 1 5 0 100 1 1 0 160 1 7 0 375 1 1 0 61 1 4 0 508 1 4 0 254 1 2 0 243 1 1 0 2 1 1 0 7 1
  2 0 5 1 1 0 474 1 7 0 41 2 68 1 8 0 792245 1 1 0 30 1 96 0 128 1 240"

/-- How a letter joins its neighbours. -/
inductive Joining where
  | none
  | transparent
  | both
  | left
  | right
deriving DecidableEq, Repr

/-- How a character joins its neighbours. -/
def joining (c : Char) : Joining :=
  match runValue joiningRuns c.toNat with
  | 1 => .transparent
  | 2 => .both
  | 3 => .left
  | 4 => .right
  | _ => .none

/-- Runs of the directions: for each run its direction and its length. -/
def directionRuns : List Nat := numbers
  "
  0 48 4 10 0 7 1 26 0 6 1 26 0 47 1 1 0 7 4 2 0 1 1 1 0 3 4 1 1 1 0 5 1 23 0 1 1 31 0 1 1 449
  0 2 1 7 0 14 1 2 0 14 1 5 0 9 1 1 0 17 5 112 1 4 0 2 1 2 0 2 1 4 0 1 1 1 0 6 1 1 0 1 1 3 0 1
  1 1 0 1 1 20 0 1 1 83 0 1 1 140 5 7 1 166 0 1 1 38 0 2 1 49 0 6 2 1 5 45 2 1 5 1 2 1 5 2 2 1
  5 2 2 1 5 1 2 56 3 6 0 2 2 1 0 2 2 1 0 1 2 1 0 2 5 11 2 48 5 21 3 10 0 1 3 2 2 3 5 1 2 101 5
  7 3 1 0 1 5 6 2 2 5 2 0 1 5 4 2 2 4 10 2 23 5 1 2 30 5 27 2 91 5 11 2 58 5 9 2 2 0 4 2 3 5 1
  2 24 5 4 2 1 5 9 2 1 5 3 2 1 5 5 2 43 5 3 2 52 3 2 2 6 5 8 2 42 5 24 3 1 5 32 1 55 5 1 1 1 5
  1 1 4 5 8 1 4 5 1 1 3 5 7 1 10 5 2 1 29 5 1 1 2 0 1 1 8 0 2 1 2 0 2 1 22 0 1 1 7 0 1 1 1 0 3
  1 4 0 2 5 1 1 4 5 4 0 2 1 2 0 2 1 2 5 1 1 1 0 8 1 1 0 4 1 2 0 1 1 3 5 2 0 2 1 12 0 2 1 7 0 1
  1 2 5 1 0 2 5 2 1 1 0 1 1 6 0 4 1 2 0 2 1 22 0 1 1 7 0 1 1 2 0 1 1 2 0 1 1 2 0 2 5 1 0 1 1 3
  5 2 0 4 5 2 0 2 5 3 0 3 5 1 0 7 1 4 0 1 1 1 0 7 1 10 5 2 1 3 5 1 1 1 0 10 5 2 1 1 0 1 1 9 0
  1 1 3 0 1 1 22 0 1 1 7 0 1 1 2 0 1 1 5 0 2 5 1 1 4 5 5 0 1 5 2 1 1 0 1 1 2 5 1 0 2 1 1 0 15
  1 2 5 2 0 2 1 11 0 8 1 1 5 6 0 1 5 1 1 2 0 1 1 8 0 2 1 2 0 2 1 22 0 1 1 7 0 1 1 2 0 1 1 5 0
  2 5 1 1 2 5 1 1 1 5 4 0 2 1 2 0 2 1 2 5 1 0 7 5 2 1 1 0 4 1 2 0 1 1 3 5 2 0 2 1 18 0 10 5 1
  1 1 0 1 1 6 0 3 1 3 0 1 1 4 0 3 1 2 0 1 1 1 0 1 1 2 0 3 1 2 0 3 1 3 0 3 1 12 0 4 1 2 5 1 1 2
  0 3 1 3 0 1 1 3 5 1 0 2 1 1 0 6 1 1 0 14 1 13 0 13 5 1 1 3 5 1 1 8 0 1 1 3 0 1 1 23 0 1 1 16
  0 2 5 1 1 1 5 3 1 4 0 1 5 3 0 1 5 4 0 7 5 2 0 1 1 3 0 1 1 2 0 2 1 2 5 2 0 2 1 10 0 7 1 1 0 7
  1 2 5 1 1 11 0 1 1 3 0 1 1 23 0 1 1 10 0 1 1 5 0 2 5 1 1 8 0 1 1 3 0 1 1 2 5 2 0 7 1 2 0 5 1
  3 0 1 1 2 5 2 0 2 1 10 0 1 1 3 0 12 5 2 1 11 0 1 1 3 0 1 1 41 5 2 1 4 5 4 0 1 1 3 0 1 1 3 5
  1 1 2 0 4 1 14 5 2 0 2 1 26 0 1 5 1 1 2 0 1 1 18 0 3 1 24 0 1 1 9 0 1 1 1 0 2 1 7 0 3 5 1 0
  4 1 3 5 3 0 1 5 1 0 1 1 8 0 6 1 10 0 2 1 3 0 12 1 48 5 1 1 2 5 7 0 5 1 7 5 8 1 13 0 37 1 2 0
  1 1 1 0 1 1 5 0 1 1 24 0 1 1 1 0 1 1 10 5 1 1 2 5 9 1 1 0 2 1 5 0 1 1 1 0 1 5 6 1 1 0 1 1 10
  0 2 1 4 0 32 1 24 5 2 1 27 5 1 1 1 5 1 1 1 5 1 0 4 1 10 0 1 1 36 0 4 5 14 1 1 5 5 1 1 5 2 1
  5 5 11 0 1 5 36 0 1 1 8 5 1 1 6 0 1 1 13 0 37 1 45 5 4 1 1 5 6 1 1 5 2 1 2 5 2 1 25 5 2 1 4
  5 3 1 16 5 4 1 13 5 1 1 2 5 2 1 6 5 1 1 15 5 1 1 40 0 1 1 1 0 5 1 1 0 2 1 377 0 1 1 4 0 2 1
  7 0 1 1 1 0 1 1 4 0 2 1 41 0 1 1 4 0 2 1 33 0 1 1 4 0 2 1 7 0 1 1 1 0 1 1 4 0 2 1 15 0 1 1
  57 0 1 1 4 0 2 1 67 0 2 5 3 1 29 0 3 1 16 0 16 1 86 0 2 1 6 0 3 1 639 0 1 1 26 0 5 1 89 0 7
  1 18 5 3 1 1 0 9 1 19 5 2 1 3 0 9 1 18 5 2 0 12 1 13 0 1 1 3 0 1 5 2 0 12 1 52 5 2 1 1 5 7 1
  8 5 1 1 2 5 11 1 7 0 1 1 1 5 1 0 2 1 10 0 33 5 3 0 1 5 1 1 10 0 6 1 89 0 7 1 5 5 2 1 34 5 1
  1 1 0 5 1 70 0 10 1 31 0 1 5 3 1 4 5 2 1 3 0 4 1 2 5 1 1 6 5 3 0 10 1 40 0 2 1 5 0 11 1 44 0
  4 1 26 0 6 1 11 0 37 1 23 5 2 1 2 5 1 0 2 1 56 5 1 1 1 5 7 0 1 5 1 1 1 5 1 1 2 5 8 1 6 5 10
  0 2 5 1 1 10 0 6 1 10 0 6 1 14 0 2 5 31 1 15 0 2 1 12 0 20 5 4 1 48 5 1 1 1 5 5 1 1 5 1 1 5
  5 1 1 10 0 1 1 29 5 9 1 12 5 2 1 32 5 4 1 2 5 2 1 1 5 3 1 56 5 1 1 1 5 2 1 3 5 1 1 1 5 3 1 2
  0 8 1 48 5 8 1 2 5 2 0 3 1 15 0 3 1 60 0 1 1 1 0 5 1 43 0 2 1 11 0 8 5 3 1 1 5 13 1 1 5 7 1
  4 5 1 1 6 5 1 1 3 5 2 1 1 0 5 1 192 5 64 1 278 0 2 1 6 0 2 1 38 0 2 1 6 0 2 1 8 0 1 1 1 0 1
  1 1 0 1 1 1 0 1 1 31 0 2 1 53 0 1 1 7 0 1 1 1 0 3 1 3 0 1 1 7 0 3 1 4 0 2 1 6 0 4 1 13 0 5 1
  3 0 1 1 7 0 17 1 1 2 1 0 96 4 1 1 1 0 2 4 6 0 5 1 1 4 10 0 6 1 13 0 36 1 1 0 14 5 33 0 17 1
  1 0 4 1 1 0 2 1 10 0 1 1 1 0 3 1 5 0 6 1 1 0 1 1 1 0 1 1 1 0 1 1 4 0 1 1 11 0 2 1 4 0 5 1 5
  0 4 1 2 0 16 1 41 0 429 1 69 0 26 1 1 0 145 1 3 0 94 4 20 1 78 0 450 1 1 0 339 1 256 0 662 1
  1 0 105 1 229 0 6 1 4 5 3 1 2 0 12 1 38 0 1 1 1 0 5 1 1 0 2 1 56 0 7 1 2 0 14 5 1 1 23 0 9 1
  7 0 1 1 7 0 1 1 7 0 1 1 7 0 1 1 7 0 1 1 7 0 1 1 7 0 1 1 7 0 1 5 32 0 517 1 3 0 25 1 9 5 4 1
  2 0 1 1 5 0 2 1 5 0 4 1 86 0 2 5 2 0 2 1 3 0 1 1 90 0 1 1 4 0 5 1 43 0 1 1 94 0 1 1 48 0 36
  1 2 0 10 1 45 0 3 1 48 0 16 1 28 0 3 1 50 0 15 1 12 0 4 1 167 0 4 1 99 0 2 1 31 0 1 1 6592 0
  64 1 22157 0 67 1 317 0 3 1 28 0 20 1 47 5 4 0 1 5 10 0 2 1 30 5 2 1 80 5 2 1 6 0 42 1 102 0
  1 1 66 0 2 1 1 0 1 1 3 0 1 1 1 0 1 1 5 0 1 1 1 0 22 1 16 5 1 1 3 5 1 1 4 5 1 1 25 5 2 1 1 0
  4 5 1 0 3 1 8 0 8 1 52 0 12 1 68 5 2 0 8 1 12 0 6 5 18 1 13 5 1 1 38 5 8 1 25 5 11 1 2 0 11
  1 30 0 3 5 3 1 48 5 1 1 2 5 4 1 2 5 2 1 16 0 1 1 11 0 4 1 7 5 1 1 25 0 1 1 41 5 6 1 2 5 2 1
  2 5 2 0 9 1 3 5 1 1 8 5 1 1 1 0 2 1 10 0 2 1 32 5 1 1 51 5 1 1 1 5 3 1 2 5 2 1 5 5 2 1 1 5 1
  1 1 0 24 1 17 5 2 1 8 5 1 0 10 1 6 0 2 1 6 0 2 1 6 0 9 1 7 0 1 1 7 0 1 1 58 0 6 1 117 5 1 1
  2 5 1 1 4 5 1 0 2 1 10 0 6 1 11172 0 12 1 23 0 4 1 49 0 4 1 8814 0 2 1 106 0 38 1 7 0 12 1 5
  0 5 2 1 5 1 2 10 0 1 2 532 0 18 2 127 0 1 2 45 0 3 5 16 0 16 5 16 0 64 2 143 0 17 4 10 0 7 1
  26 0 6 1 26 0 11 1 89 0 3 1 6 0 2 1 6 0 2 1 6 0 2 1 3 0 35 1 12 0 1 1 26 0 1 1 19 0 1 1 2 0
  1 1 15 0 2 1 14 0 34 1 123 0 5 1 1 0 1 1 1 0 4 1 45 0 3 1 9 0 77 1 2 0 65 1 45 5 1 0 130 1
  29 0 3 1 49 0 15 5 1 4 27 0 4 1 36 0 9 1 30 0 5 1 38 5 5 0 5 1 30 0 1 1 37 0 4 1 14 0 42 1
  158 0 2 1 10 0 6 1 36 0 4 1 36 0 4 1 40 0 8 1 52 0 11 1 12 0 1 1 15 0 1 1 7 0 1 1 2 0 1 1 11
  0 1 1 15 0 1 1 7 0 1 1 2 0 3 1 52 0 12 1 311 0 9 1 22 0 10 1 8 0 24 1 6 0 1 1 42 0 1 1 9 0
  69 2 287 0 1 2 225 5 3 2 1 5 2 2 5 5 4 2 40 5 3 2 4 5 1 2 165 5 2 2 82 0 7 2 484 5 4 2 8 3
  10 2 294 3 31 2 44 5 2 2 153 5 11 2 49 5 4 2 122 1 1 5 1 1 54 5 15 1 7 0 24 1 10 5 1 1 2 5 2
  1 1 0 9 5 3 1 49 5 4 1 2 5 2 1 7 5 1 0 10 1 1 0 2 1 25 0 7 1 10 0 6 5 3 1 36 5 5 1 1 5 8 0 1
  1 18 0 8 1 35 5 1 1 3 0 9 5 2 1 52 5 9 1 10 5 4 1 2 5 1 1 16 0 1 1 20 0 11 1 18 0 1 1 28 5 3
  1 2 5 1 1 1 5 2 1 6 5 1 1 3 0 62 1 7 0 1 1 1 0 1 1 4 0 1 1 15 0 1 1 11 0 6 1 47 5 1 1 3 5 8
  0 5 1 10 0 6 5 2 1 2 0 1 1 8 0 2 1 2 0 2 1 22 0 1 1 7 0 1 1 2 0 1 1 5 0 1 5 2 1 3 5 1 1 4 0
  2 1 2 0 2 1 3 0 2 1 1 0 6 1 1 0 5 1 7 0 2 5 7 0 3 5 5 0 11 1 10 0 1 1 1 0 2 1 1 0 1 1 38 0 1
  1 10 0 1 1 1 0 2 1 1 0 1 1 4 0 1 1 10 0 1 1 2 0 8 1 2 0 29 1 56 5 8 1 2 5 3 1 1 5 1 1 21 0 1
  1 1 5 1 1 3 0 30 1 51 5 6 1 1 5 1 1 4 5 2 1 1 5 2 1 4 0 8 1 10 0 166 1 50 5 4 0 2 1 4 5 2 1
  1 5 2 1 27 5 2 0 34 1 51 5 8 1 2 5 1 1 1 5 2 1 4 0 11 1 10 0 38 1 43 5 1 1 1 5 1 1 2 5 6 1 1
  5 1 1 2 0 6 1 10 0 6 1 20 0 28 1 27 0 2 5 3 1 2 5 4 1 1 5 5 0 4 1 23 0 185 1 47 5 9 1 1 5 2
  1 1 0 100 1 83 0 12 1 8 0 2 1 1 0 2 1 8 0 1 1 2 0 1 1 30 0 1 1 2 0 2 5 2 1 1 5 1 1 4 5 1 1 3
  0 9 1 10 0 70 1 8 0 2 1 42 5 4 0 2 5 2 1 4 5 1 1 4 0 27 1 1 5 6 1 2 5 2 1 40 5 6 1 2 5 4 1 8
  5 1 0 8 1 1 5 6 1 2 5 3 1 46 5 13 1 1 5 2 1 9 0 13 1 73 0 7 1 10 0 86 1 8 0 88 1 34 0 14 1
  10 0 6 1 9 0 1 1 38 5 7 0 1 5 6 1 8 0 10 1 29 0 3 1 32 0 2 5 22 0 1 1 1 5 7 1 1 5 2 1 1 5 2
  0 73 1 7 0 1 1 2 0 1 1 38 5 6 0 3 5 1 0 1 5 2 0 1 5 7 1 1 5 1 0 8 1 10 0 6 1 6 0 1 1 2 0 1 1
  37 0 1 5 2 0 1 1 2 5 1 1 1 5 1 1 1 0 7 1 10 0 6 1 44 0 4 1 10 0 246 1 19 5 2 1 4 0 7 1 17 0
  1 1 41 0 3 1 29 0 85 1 1 0 15 1 21 0 42 1 923 0 102 1 111 0 1 1 5 0 11 1 196 0 2636 1 99 0
  13 1 1081 0 7 1 22 0 10 1 3995 0 5 1 583 0 6841 1 58 0 1734 1 569 0 7 1 31 0 1 1 10 0 4 1 81
  0 1 1 10 0 6 1 30 0 2 5 5 1 1 0 10 1 48 5 7 1 15 0 10 1 10 0 1 1 7 0 1 1 21 0 5 1 19 0 432 1
  58 0 198 1 91 0 32 1 25 0 44 1 75 0 4 5 1 1 56 0 7 5 4 1 13 0 64 1 2 0 1 1 1 5 1 0 11 1 7 0
  9 1 7382 0 41 1 32 0 97 1 115 0 8701 1 4 0 1 1 7 0 1 1 2 0 1 1 291 0 15 1 1 0 29 1 3 0 2 1 1
  0 14 1 4 0 8 1 396 0 2308 1 107 0 5 1 13 0 3 1 9 0 7 1 10 0 2 1 1 5 2 1 1 0 3936 1 214 0 36
  1 3 0 3 1 436 0 6 1 23 0 15 1 17 0 15 5 46 0 2 5 23 0 9 1 116 0 60 1 246 0 10 1 39 0 2 1 62
  5 3 1 9 0 8 5 8 1 2 5 7 1 30 5 4 1 59 0 89 5 3 0 123 1 20 0 12 1 20 0 108 1 25 0 135 1 85 0
  1 1 71 0 1 1 2 0 2 1 1 0 2 1 2 0 2 1 4 0 1 1 12 0 1 1 1 0 1 1 7 0 1 1 65 0 1 1 4 0 2 1 8 0 1
  1 7 0 1 1 28 0 1 1 4 0 1 1 5 0 1 1 1 0 3 1 7 0 1 1 340 0 2 1 51 0 1 1 57 0 1 1 57 0 1 1 57 0
  1 1 57 0 1 1 8 0 2 4 50 1 512 5 55 1 4 5 50 1 8 5 1 1 14 5 1 1 7 0 15 5 5 0 1 5 15 0 1104 1
  31 0 6 1 6 0 213 5 7 0 1 5 17 0 2 5 7 0 1 5 2 0 1 5 5 0 100 1 1 0 112 1 45 0 3 5 7 1 7 0 2 1
  10 0 4 1 2 0 320 1 30 5 1 0 17 1 44 5 4 1 10 0 470 1 42 0 214 1 43 0 4 1 1 0 192 1 31 0 1 1
  22 0 8 1 2 0 224 1 7 0 1 1 4 0 1 1 2 0 1 1 15 0 1 2 208 5 7 2 109 5 7 2 1445 0 2 2 270 0 256
  4 11 0 5 1 31 0 1 1 58 0 6 1 61 0 57 1 29 0 13 1 44 0 4 1 9 0 7 1 2 0 1158 1 1 0 3 1 1 0 151
  1 12 0 89 1 1 0 216 1 10 0 4 1 2 0 14 1 9 0 379 1 4 0 29 1 3 0 15 1 4 0 3 1 2 0 29 1 3 0 11
  1 5 0 6 1 1 0 1 1 1 0 4 1 3 0 10 1 3 0 2 1 1 0 8 1 3 0 4 1 1 0 7 1 2 0 210 1 37 4 10 1 1 0
  1029 1 42720 0 32 1 4382 0 2 1 5774 0 2 1 7473 0 15 1 622 0 2466 1 542 0 1506 1 4939 0 5 1
  8490 0 707718 5 240 0 65040 1 65534 0 2 1 65534"

/-- Which way a character is written: as a letter from left to right or from right to left, as an
Arabic or a European digit, as a mark, or as its neighbours are. -/
inductive Direction where
  | neutral
  | leftToRight
  | rightToLeft
  | arabicDigit
  | europeanDigit
  | mark
deriving DecidableEq, Repr

/-- Which way a character is written. -/
def direction (c : Char) : Direction :=
  match runValue directionRuns c.toNat with
  | 1 => .leftToRight
  | 2 => .rightToLeft
  | 3 => .arabicDigit
  | 4 => .europeanDigit
  | 5 => .mark
  | _ => .neutral

end FolderSync.Text
