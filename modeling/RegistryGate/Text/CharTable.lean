/-
  Tables of characters.

  What a standard says of single characters is written down as rows of code points in ascending
  order.  A row is one code point, `41`, a stretch of them, `41-5A`, or every second one of a
  stretch, `100=12E`.  It may say, behind a colon and with plus signs between them, which characters
  these become: `100=12E:101`.  Where that is one character, it is the one for the first code point
  of the row, and those for the others lie as far behind it as the others behind the first.

  A row is found by halving.  `find?_eq_some` says that what is found belongs to the table and
  holds the code point, so a wrong order of rows can hide a character but never invent one.
-/
import RegistryGate.Text.Ascii
import RegistryGate.Text.Blank

namespace RegistryGate.Text

/-- A row of a table: every `step`th code point from `first` to `last`, and what they become. -/
structure CharRow where
  first : Nat
  last : Nat
  step : Nat
  target : List Nat
deriving DecidableEq

/-- Rows in ascending order, none of which overlaps another. -/
abbrev CharTable := Array CharRow

namespace CharRow

/-- Holds when the code point is one of the row's. -/
def covers (row : CharRow) (n : Nat) : Bool :=
  decide (row.first ≤ n) && decide (n ≤ row.last) && (n - row.first) % row.step == 0

/-- What the code point of a row becomes. -/
def image (row : CharRow) (n : Nat) : List Char :=
  match row.target with
  | [single] => [Char.ofNat (single + (n - row.first))]
  | several => several.map Char.ofNat

/-- The value of hexadecimal digits; all other characters count as zero. -/
def number (digits : List Char) : Nat := digits.foldl (fun n c => 16 * n + (hexValue? c).getD 0) 0

/-- The row that a text is. -/
def ofText (text : List Char) : CharRow :=
  let place := text.takeWhile (· != ':')
  let first := place.takeWhile fun c => c != '-' && c != '='
  let last := place.drop first.length
  let target := text.drop (place.length + 1)
  { first := number first
    last := if last.isEmpty then number first else number (last.drop 1)
    step := if last.head? = some '=' then 2 else 1
    target := if target.isEmpty then [] else (target.splitOn '+').map number }

end CharRow

namespace CharTable

/-- The table of the rows that are the words of a text. -/
def ofText (text : String) : CharTable := ((words text).map fun w => CharRow.ofText w.toList).toArray

/-- The last of the rows from `low` to below `high` that do not start behind a code point; `low`
itself where there is none. -/
def search (table : CharTable) (n low high : Nat) : Nat :=
  if low + 1 < high then
    let middle := (low + high) / 2
    if table[middle]?.any fun row => decide (row.first ≤ n) then search table n middle high
    else search table n low middle
  else low
termination_by high - low
decreasing_by all_goals omega

/-- The row of a code point. -/
def find? (table : CharTable) (n : Nat) : Option CharRow :=
  (table[table.search n 0 table.size]?).bind fun row => if row.covers n then some row else none

theorem find?_eq_some {table : CharTable} {n : Nat} {row : CharRow}
    (h : table.find? n = some row) : row ∈ table ∧ row.covers n = true := by
  obtain ⟨r, hr, h⟩ := Option.bind_eq_some_iff.mp h
  split at h
  · next hc => cases h; exact ⟨Array.mem_of_getElem? hr, hc⟩
  · cases h

/-- Holds of the characters of a table. -/
def contains (table : CharTable) (c : Char) : Bool := (table.find? c.toNat).isSome

/-- What a character of a table becomes. -/
def image? (table : CharTable) (c : Char) : Option (List Char) :=
  (table.find? c.toNat).map fun row => row.image c.toNat

end CharTable

end RegistryGate.Text
