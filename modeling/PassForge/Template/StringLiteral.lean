import PassForge.Text.Escape

/-!
# String literals of templates

The text between the quotes of a literal stands for itself, but for escapes.  `\n` and the like name
a character, `\x` and two digits or up to three octal digits give one below 256, and `\u` with four
digits gives a UTF-16 unit.  A backslash before any other character stays, and so does the
character.

A number in base sixteen may have a plus sign in place of its first digit.
-/

namespace PassForge.Template

/-- The quotes of string literals. -/
def quotes : List Char := ['"', '\x27']

/-- The number that hexadecimal digits stand for, a plus sign in front of them allowed. -/
def hexCode? (digits : List Char) : Option Nat :=
  let digits := if digits.head? = some '+' then digits.tail else digits
  if digits.isEmpty then none
  else digits.foldlM (fun n d => (Text.hexValue? d).map (n * 16 + ·)) 0

/-- Whether `c` is an octal digit. -/
def isOctal (c : Char) : Bool := decide ('0' ≤ c) && decide (c ≤ '7')

/-- The number of octal digits that go on with an escape: two at most. -/
def octalLength (cs : List Char) : Nat := ((cs.take 2).takeWhile isOctal).length

/-- The number that octal digits stand for. -/
def octalValue (digits : List Char) : Nat := digits.foldl (fun n d => n * 8 + (d.toNat - 48)) 0

/-- The text with its escapes resolved, if they are all in order.  `high` is the first half of a
surrogate pair that waits for the second. -/
def unescape? (high : Option Nat) (cs : List Char) : Option (List Char) :=
  match cs with
  | [] => if high.isSome then none else some []
  | ['\\'] => none
  | '\\' :: 'u' :: a :: b :: c :: d :: rest =>
    match hexCode? [a, b, c, d], high with
    | none, _ => none
    | some unit, some first =>
      if Text.isLowSurrogate unit then
        (unescape? none rest).map (Text.ofSurrogates first unit :: ·)
      else none
    | some unit, none =>
      if Text.isHighSurrogate unit then unescape? (some unit) rest
      else if Text.isLowSurrogate unit then none
      else (unescape? none rest).map (Char.ofNat unit :: ·)
  | '\\' :: 'u' :: _ => none
  | '\\' :: c :: rest =>
    if high.isSome then none
    else if c = 'x' then
      (hexCode? (rest.take 2)).bind fun code =>
        if rest.length < 2 then none
        else (unescape? none (rest.drop 2)).map (Char.ofNat code :: ·)
    else if isOctal c then
      let n := octalLength rest
      let code := octalValue (c :: rest.take n)
      if 255 < code then none else (unescape? none (rest.drop n)).map (Char.ofNat code :: ·)
    else match Text.namedEscape? quotes c with
      | some named => (unescape? none rest).map (named :: ·)
      | none => (unescape? none rest).map fun cs => '\\' :: c :: cs
  | c :: rest => if high.isSome then none else (unescape? none rest).map (c :: ·)
termination_by cs.length
decreasing_by
  all_goals
    simp only [List.length_cons, List.length_drop]
    omega

end PassForge.Template
