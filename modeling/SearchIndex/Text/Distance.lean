/-! How many typing errors lie between two words: insertions, deletions and replacements of one
character, and exchanges of two characters that become neighbours. The table of distances between
the beginnings of two words is filled row by row. -/
namespace SearchIndex.Distance

/-- The distances between the beginnings of two words: row `i` and column `j` for the first `i`
and the first `j` characters. -/
abbrev Table := Array (Array Nat)

/-- An entry of a table. -/
def entry (table : Table) (i j : Nat) : Nat := (table.getD i #[]).getD j 0

/-- The place, counted from one, of the last occurrence of a character; zero if there is none. -/
def lastPlace (c : Char) (word : List Char) : Nat :=
  (word.foldl (fun (place, last) d => (place + 1, if d = c then place else last)) (1, 0)).2

/-- The entry at row `i` and column `j` for words that end there in `c` and `d`, from the rows above
and the entries to the left. The places are those where `d` occurs last in the first word before
`i` and where `c` occurs last in the second before `j`: an exchange of the two starts there. -/
def nextEntry (table : Table) (row : Array Nat) (i j : Nat) (c d : Char)
    (placeOfD placeOfC : Nat) : Nat :=
  let replaced := entry table (i - 1) (j - 1) + (if c = d then 0 else 1)
  let deleted := entry table (i - 1) j + 1
  let inserted := row.getD (j - 1) 0 + 1
  let least := if replaced ≤ deleted then replaced else deleted
  let least := if least ≤ inserted then least else inserted
  if placeOfD = 0 ∨ placeOfC = 0 then least
  else
    let exchanged := entry table (placeOfD - 1) (placeOfC - 1) +
      (i - placeOfD - 1) + 1 + (j - placeOfC - 1)
    if least ≤ exchanged then least else exchanged

/-- Row `i`, for a first word that has `before` in front of its character `c`. -/
def nextRow (table : Table) (i : Nat) (before : List Char) (c : Char) (second : List Char) :
    Array Nat :=
  (second.foldl (fun (row, j, placeOfC) d =>
    (row.push (nextEntry table row i j c d (lastPlace d before) placeOfC),
      j + 1, if d = c then j else placeOfC)) (#[i], 1, 0)).1

/-- The least number of typing errors that turn one word into the other. -/
def between (first second : List Char) : Nat :=
  let start : Table := #[Array.range (second.length + 1)]
  let filled := first.foldl (fun (table, i, before) c =>
    (table.push (nextRow table i before c second), i + 1, before ++ [c])) (start, 1, [])
  entry filled.1 first.length second.length

end SearchIndex.Distance
