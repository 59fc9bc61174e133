import Courier.Text.Cut
import Courier.Text.Decimal
import Courier.Text.Hex
import Courier.Toml.Basic

/-!
# TOML scalars

Quoted texts in their four forms, and the words that are numbers, points in time or truth values.
A word is read as a whole: what it does not match from end to end, it is not.
-/

namespace Courier.Toml

/-- A blank inside a line. -/
def isBlank (c : Char) : Bool := c = ' ' || c = '\t'

/-- A character that may stand in a comment, or unescaped in a quoted line. -/
def isPlain (c : Char) : Bool := c = '\t' || (0x20 ≤ c.toNat && c.toNat ≠ 0x7F)

/-- What follows the end of a line. -/
def newline? : List Char → Option (List Char)
  | '\n' :: rest => some rest
  | '\r' :: '\n' :: rest => some rest
  | _ => none

/-- The character whose code point is written in hexadecimal digits. -/
def codePoint? (ds : List Char) : Option Char := do
  let n := (← ds.mapM Hex.value?).foldl (fun n d => n * 16 + d) 0
  if n.isValidChar then some (Char.ofNat n) else none

/-- The character of an escape of one letter. -/
def shortEscape? : Char → Option Char
  | 'b' => some '\x08'
  | 't' => some '\t'
  | 'n' => some '\n'
  | 'f' => some '\x0c'
  | 'r' => some '\r'
  | '"' => some '"'
  | '\\' => some '\\'
  | _ => none

/-- A text and what follows it, behind one more character. -/
def behind (c : Char) : Option (List Char × List Char) → Option (List Char × List Char) :=
  Option.map fun r => (c :: r.1, r.2)

/-- A quoted line with escapes, from behind its opening quote. -/
def basic? : List Char → Option (List Char × List Char)
  | [] => none
  | '"' :: rest => some ([], rest)
  | '\\' :: 'u' :: a :: b :: c :: d :: rest => do behind (← codePoint? [a, b, c, d]) (basic? rest)
  | '\\' :: 'U' :: a :: b :: c :: d :: e :: f :: g :: h :: rest => do
    behind (← codePoint? [a, b, c, d, e, f, g, h]) (basic? rest)
  | '\\' :: e :: rest => do behind (← shortEscape? e) (basic? rest)
  | c :: rest => if c ≠ '\\' ∧ isPlain c then behind c (basic? rest) else none

/-- A quoted line without escapes, from behind its opening quote. -/
def literal? : List Char → Option (List Char × List Char)
  | [] => none
  | '\'' :: rest => some ([], rest)
  | c :: rest => if isPlain c then behind c (literal? rest) else none

/-- Whether only blanks stand before the end of the line. -/
def endsLine (cs : List Char) : Bool :=
  (newline? (cs.dropWhile isBlank)).isSome

/-- A quoted block with escapes, from behind its opening quotes and the line end that may follow
them. While `skipping`, after a backslash at the end of a line, blanks and line ends are dropped.
Up to two quotes may stand right before the closing ones. -/
def basicBlock? : Bool → List Char → Option (List Char × List Char)
  | _, [] => none
  | skipping, '\n' :: rest =>
    if skipping then basicBlock? true rest else behind '\n' (basicBlock? false rest)
  | skipping, '\r' :: '\n' :: rest =>
    if skipping then basicBlock? true rest else behind '\n' (basicBlock? false rest)
  | _, '"' :: '"' :: '"' :: '"' :: '"' :: rest => some (['"', '"'], rest)
  | _, '"' :: '"' :: '"' :: '"' :: rest => some (['"'], rest)
  | _, '"' :: '"' :: '"' :: rest => some ([], rest)
  | _, '\\' :: 'u' :: a :: b :: c :: d :: rest => do
    behind (← codePoint? [a, b, c, d]) (basicBlock? false rest)
  | _, '\\' :: 'U' :: a :: b :: c :: d :: e :: f :: g :: h :: rest => do
    behind (← codePoint? [a, b, c, d, e, f, g, h]) (basicBlock? false rest)
  | _, '\\' :: e :: rest =>
    match shortEscape? e with
    | some c => behind c (basicBlock? false rest)
    | none =>
      if endsLine (e :: rest) then basicBlock? true rest else none
  | skipping, c :: rest =>
    if c = '\\' ∨ !isPlain c then none
    else if skipping ∧ isBlank c then basicBlock? true rest
    else behind c (basicBlock? false rest)

/-- A quoted block without escapes, from behind its opening quotes and the line end that may follow
them. -/
def literalBlock? : List Char → Option (List Char × List Char)
  | [] => none
  | '\n' :: rest => behind '\n' (literalBlock? rest)
  | '\r' :: '\n' :: rest => behind '\n' (literalBlock? rest)
  | '\'' :: '\'' :: '\'' :: '\'' :: '\'' :: rest => some (['\'', '\''], rest)
  | '\'' :: '\'' :: '\'' :: '\'' :: rest => some (['\''], rest)
  | '\'' :: '\'' :: '\'' :: rest => some ([], rest)
  | c :: rest => if isPlain c then behind c (literalBlock? rest) else none

/-- A quoted text in front, and what follows it. -/
def quoted? : List Char → Option (List Char × List Char)
  | '"' :: '"' :: '"' :: rest => basicBlock? false ((newline? rest).getD rest)
  | '"' :: rest => basic? rest
  | '\'' :: '\'' :: '\'' :: rest => literalBlock? ((newline? rest).getD rest)
  | '\'' :: rest => literal? rest
  | _ => none

/-! ### Words -/

/-- The digits of a row whose single underscores stand between digits. -/
def grouped? (isDigit : Char → Bool) (cs : List Char) : Option (List Char) :=
  let groups := Cut.parts '_' cs
  if groups.all fun g => !g.isEmpty && g.all isDigit then some groups.flatten else none

/-- The digits of a decimal integer without its sign: no zero leads. -/
def decimal? (cs : List Char) : Option (List Char) :=
  match grouped? Char.isDigit cs with
  | some ('0' :: _ :: _) => none
  | r => r

/-- The value of digits in a base. -/
def valueOf (base : Nat) (cs : List Char) : Nat :=
  cs.foldl (fun n c => n * base + (Hex.value? c).getD 0) 0

/-- A sign in front, and the rest. -/
def sign : List Char → Bool × List Char
  | '-' :: rest => (true, rest)
  | '+' :: rest => (false, rest)
  | rest => (false, rest)

/-- Whether a character is a digit of a base up to sixteen. -/
def isDigitOf (base : Nat) (c : Char) : Bool :=
  match Hex.value? c with
  | some d => d < base
  | none => false

/-- The integer that a word writes. -/
def integer? (cs : List Char) : Option Int := do
  let n ← match cs with
    | '0' :: 'x' :: ds => (fun ds => (valueOf 16 ds : Int)) <$> grouped? (isDigitOf 16) ds
    | '0' :: 'o' :: ds => (fun ds => (valueOf 8 ds : Int)) <$> grouped? (isDigitOf 8) ds
    | '0' :: 'b' :: ds => (fun ds => (valueOf 2 ds : Int)) <$> grouped? (isDigitOf 2) ds
    | cs =>
      let (negative, ds) := sign cs
      (fun ds => if negative then -(valueOf 10 ds : Int) else valueOf 10 ds) <$> decimal? ds
  if -9223372036854775808 ≤ n ∧ n ≤ 9223372036854775807 then some n else none

/-- Whether a word is a number with a point or an exponent, or one of the special ones. A number
too large for double precision is refused, unless it is negative. -/
def isFloat (cs : List Char) : Bool :=
  let (negative, cs) := sign cs
  if cs = ['i', 'n', 'f'] ∨ cs = ['n', 'a', 'n'] then true
  else
    let lowered := cs.map fun c => if c = 'E' then 'e' else c
    let (mantissa, exponent) := match Cut.parts 'e' lowered with
      | [m] => (m, none)
      | [m, e] => (m, some e)
      | _ => ([], none)
    let (whole, fraction) := match Cut.parts '.' mantissa with
      | [w] => (w, none)
      | [w, f] => (w, some f)
      | _ => ([], none)
    let fraction := fraction.map (grouped? Char.isDigit)
    let exponent := exponent.map fun e =>
      (grouped? Char.isDigit (sign e).2).map fun ds =>
        if (sign e).1 then -(valueOf 10 ds : Int) else valueOf 10 ds
    match decimal? whole, fraction, exponent with
    | none, _, _ | _, some none, _ | _, _, some none | _, none, none => false
    | some ds, fraction, exponent =>
      let fs := (fraction.getD none).getD []
      let e := (exponent.getD none).getD 0
      negative || Decimal.isFinite (valueOf 10 (ds ++ fs)) (e - fs.length)

/-- A number of exactly these digits, from `least` to `most`. -/
def between? (least most : Nat) (cs : List Char) : Option Nat :=
  if cs.all Char.isDigit ∧ least ≤ valueOf 10 cs ∧ valueOf 10 cs ≤ most then some (valueOf 10 cs)
  else none

/-- The number of days in a month. -/
def daysIn (year month : Nat) : Nat :=
  if month = 2 then if year % 4 = 0 ∧ (year % 100 ≠ 0 ∨ year % 400 = 0) then 29 else 28
  else if month ∈ [4, 6, 9, 11] then 30
  else 31

/-- Whether a row is a date of the calendar. -/
def isDate : List Char → Bool
  | [y1, y2, y3, y4, '-', m1, m2, '-', d1, d2] =>
    match between? 0 9999 [y1, y2, y3, y4], between? 1 12 [m1, m2] with
    | some y, some m => (between? 1 (daysIn y m) [d1, d2]).isSome
    | _, _ => false
  | _ => false

/-- Whether a row is an hour and a minute. -/
def isClock (h1 h2 m1 m2 : Char) : Bool :=
  (between? 0 23 [h1, h2]).isSome && (between? 0 59 [m1, m2]).isSome

/-- Whether a row is a distance from universal time, or nothing. -/
def isOffset : List Char → Bool
  | [] | ['Z'] | ['z'] => true
  | [c, h1, h2, ':', m1, m2] => (c = '+' || c = '-') && isClock h1 h2 m1 m2
  | _ => false

/-- Whether a row is a time of day, followed by what `tail` takes. -/
def isTime (tail : List Char → Bool) : List Char → Bool
  | h1 :: h2 :: ':' :: m1 :: m2 :: ':' :: s1 :: s2 :: rest =>
    isClock h1 h2 m1 m2 && (between? 0 60 [s1, s2]).isSome &&
      match rest with
      | '.' :: c :: rest => c.isDigit && tail (rest.dropWhile Char.isDigit)
      | rest => tail rest
  | _ => false

/-- Whether a row is a date, a time of day, or both. -/
def isMoment (cs : List Char) : Bool :=
  isDate cs || isTime List.isEmpty cs ||
    (isDate (cs.take 10) &&
      match cs.drop 10 with
      | c :: rest => (c = 'T' || c = 't' || c = ' ') && isTime isOffset rest
      | [] => false)

/-- A character of a word. -/
def isWordChar (c : Char) : Bool :=
  c.isAlphanum || c = '+' || c = '-' || c = '_' || c = '.' || c = ':'

/-- A word in front, and what follows it. A time of day behind a date and one blank belongs to
it. -/
def word (cs : List Char) : List Char × List Char :=
  let w := cs.takeWhile isWordChar
  let rest := cs.dropWhile isWordChar
  match isDate w, rest with
  | true, ' ' :: more =>
    let time := more.takeWhile isWordChar
    if isTime isOffset time then (w ++ ' ' :: time, more.dropWhile isWordChar) else (w, rest)
  | _, _ => (w, rest)

/-- The value that a word writes. -/
def ofWord? (cs : List Char) : Option Toml :=
  if cs = ['t', 'r', 'u', 'e'] then some (.bool true)
  else if cs = ['f', 'a', 'l', 's', 'e'] then some (.bool false)
  else if isMoment cs then some (.moment (String.ofList cs))
  else if isFloat cs then some (.float (String.ofList cs))
  else .integer <$> integer? cs

end Courier.Toml
