import PassForge.Text.Blank
import PassForge.Text.CaseTable

/-!
# Upper and lower case

Texts in the other case, letter by letter.  A letter can become several, and a capital sigma at the
end of a word becomes a small sigma of its own.
-/

namespace PassForge.Text

/-- What a code point becomes by one of some shifts. -/
def shifted? (shifts : List Shift) (n : Nat) : Option Char :=
  (shifts.find? (·.row.contains n)).map fun s => Char.ofNat ((n : Int) + s.distance).toNat

/-- The characters that a character becomes, itself if it is not in the tables. -/
def mapped (shifts : List Shift) (expansions : List (Nat × List Nat)) (c : Char) : List Char :=
  match expansions.lookup c.toNat with
  | some ns => ns.map Char.ofNat
  | none => [(shifted? shifts c.toNat).getD c]

/-- A character in upper case. -/
def upperChar (c : Char) : List Char :=
  if c.toNat < 128 then [c.toUpper] else mapped upperShifts upperExpansions c

/-- A character in lower case. -/
def lowerChar (c : Char) : List Char :=
  if c.toNat < 128 then [c.toLower] else mapped lowerShifts lowerExpansions c

/-- Whether a character is of upper case. -/
def isUpperCase (c : Char) : Bool := upperRows.any (·.contains c.toNat)

/-- Whether a character is of lower case. -/
def isLowerCase (c : Char) : Bool := lowerRows.any (·.contains c.toNat)

/-- Whether a code point lies in one of some ranges. -/
def inRanges (ranges : List (Nat × Nat)) (n : Nat) : Bool :=
  ranges.any fun (lo, hi) => decide (lo ≤ n) && decide (n ≤ hi)

/-- Whether a text starts with a letter that has a case, behind what is passed over. -/
def startsCased (cs : List Char) : Bool :=
  (cs.dropWhile fun c => inRanges caselessRanges c.toNat).head?.any fun c =>
    inRanges casedRanges c.toNat

/-- A text in upper case. -/
def upper (cs : List Char) : List Char := cs.flatMap upperChar

/-- The text in lower case that follows `before`, reversed. -/
def lowerFrom (before : List Char) : List Char → List Char
  | [] => []
  | c :: rest =>
    let lowered :=
      if c = 'Σ' then [if startsCased before && !startsCased rest then 'ς' else 'σ']
      else lowerChar c
    lowered ++ lowerFrom (c :: before) rest

/-- A text in lower case. -/
def lower (cs : List Char) : List Char := lowerFrom [] cs

/-- The first letter in upper case and all others in lower case. -/
def capitalized : List Char → List Char
  | [] => []
  | c :: rest => upperChar c ++ lower rest

/-- Whether `c` is a sign of punctuation of the English alphabet's code. -/
def isPunctuation (c : Char) : Bool :=
  inRanges [(0x21, 0x2F), (0x3A, 0x40), (0x5B, 0x60), (0x7B, 0x7E)] c.toNat

/-- The first letter of every word in upper case and all others in lower case.  `start` says whether
a word can start here. -/
def titled (start : Bool) : List Char → List Char
  | [] => []
  | c :: rest =>
    if isPunctuation c || isBlank c then c :: titled true rest
    else (if start then upperChar c else lowerChar c) ++ titled false rest

end PassForge.Text
