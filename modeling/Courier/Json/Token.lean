import Courier.Json.Basic
import Courier.Text.Hex
import Courier.Text.Utf8

/-!
# JSON tokens

Scanning cuts characters into brackets, marks, words, numbers and quoted rows. Bytes that are no
UTF-8 make a quoted row that is no text; anywhere else they are a mistake. The list of tokens ends
at the first mistake, with `bad`.
-/

namespace Courier.Json

open Utf8 (Piece)

/-- What a quoted row is made of. -/
inductive Content where
  | char (c : Char)
  /-- A control character that stands there unescaped. -/
  | control (c : Char)
  /-- Bytes that are no UTF-8, or half of an escaped pair. -/
  | illFormed (bytes : List UInt8)
  deriving DecidableEq, Repr, Inhabited

namespace Content

/-- The character of a part that may stand in a text. -/
def char? : Content → Option Char
  | .char c => some c
  | _ => none

/-- The bytes of a part. -/
def bytes : Content → List UInt8
  | .char c => String.utf8EncodeChar c
  | .control c => String.utf8EncodeChar c
  | .illFormed bs => bs

/-- Whether a part is a raw control character. -/
def isControl : Content → Bool
  | .control _ => true
  | _ => false

/-- The three bytes that write half of an escaped pair. -/
def half (n : Nat) : Content :=
  .illFormed [UInt8.ofNat (0xE0 + n / 4096), UInt8.ofNat (0x80 + n / 64 % 64),
    UInt8.ofNat (0x80 + n % 64)]

/-- The row that its parts make. -/
def quoted (parts : List Content) : Quoted :=
  match parts.mapM char? with
  | some cs => .text (String.ofList cs)
  | none => .bytes (parts.flatMap bytes) (parts.all fun p => !p.isControl)

end Content

/-- The smallest parts of a JSON text. -/
inductive Token where
  | openArray
  | closeArray
  | openObject
  | closeObject
  | comma
  | colon
  /-- A value without parts: a word, a number or a quoted text. -/
  | scalar (v : Json)
  /-- A mistake in the characters; nothing follows it. -/
  | bad
  deriving Repr, Inhabited

namespace Token

/-- Blanks between tokens. -/
def isBlank : Piece → Bool
  | .char c => c = ' ' || c = '\n' || c = '\t' || c = '\r'
  | .illFormed _ => false

/-- Splits off the ASCII digits in front. -/
def digits : List Piece → List Char × List Piece
  | .char c :: rest =>
    if c.isDigit then (c :: (digits rest).1, (digits rest).2) else ([], .char c :: rest)
  | rest => ([], rest)

theorem length_digits (gs : List Piece) : (digits gs).2.length ≤ gs.length := by
  fun_induction digits gs with
  | case1 c rest hc ih => simp_all; omega
  | case2 => simp
  | case3 => simp

/-- The value of decimal digits. -/
def natOf (cs : List Char) : Nat :=
  cs.foldl (fun n c => n * 10 + (c.toNat - '0'.toNat)) 0

/-- The digits before a point: one zero, or a row that starts with none. -/
def whole? (gs : List Piece) : Option (List Char × List Piece) :=
  match digits gs with
  | ([], _) => none
  | ('0' :: _ :: _, _) => none
  | r => some r

/-- The digits after a point, if a point is there. -/
def fraction? : List Piece → Option (Option (List Char) × List Piece)
  | .char '.' :: rest =>
    match digits rest with
    | ([], _) => none
    | (ds, rest) => some (some ds, rest)
  | rest => some (none, rest)

/-- The exponent, if an `e` is there. -/
def exponent? : List Piece → Option (Option Int × List Piece)
  | .char c :: rest =>
    if c = 'e' ∨ c = 'E' then
      let (negative, rest) := match rest with
        | .char '+' :: rest => (false, rest)
        | .char '-' :: rest => (true, rest)
        | rest => (false, rest)
      match digits rest with
      | ([], _) => none
      | (ds, rest) => some (some (if negative then -(natOf ds : Int) else natOf ds), rest)
    else some (none, .char c :: rest)
  | rest => some (none, rest)

/-- A number in front. -/
def number? (gs : List Piece) : Option (Number × List Piece) := do
  let (negative, gs) := match gs with
    | .char '-' :: rest => (true, rest)
    | gs => (false, gs)
  let (ds, gs) ← whole? gs
  let (fs, gs) ← fraction? gs
  let (e, gs) ← exponent? gs
  match fs, e with
  | none, none => return (.whole negative (natOf ds), gs)
  | fs, e =>
    let fs := fs.getD []
    return (.scaled negative (natOf (ds ++ fs)) (e.getD 0 - fs.length), gs)

/-- Four hexadecimal digits in front. -/
def hex4? : List Piece → Option (Nat × List Piece)
  | .char a :: .char b :: .char c :: .char d :: rest => do
    let a ← Hex.value? a
    let b ← Hex.value? b
    let c ← Hex.value? c
    let d ← Hex.value? d
    return (((a * 16 + b) * 16 + c) * 16 + d, rest)
  | _ => none

/-- What follows `\u`: a code point, two escapes that form one, or half of such a pair. -/
def unicode? (gs : List Piece) : Option (Content × List Piece) := do
  let (n, rest) ← hex4? gs
  if n < 0xD800 ∨ 0xDFFF < n then return (.char (Char.ofNat n), rest)
  else if 0xDC00 ≤ n then return (.half n, rest)
  else
    match rest with
    | .char '\\' :: .char 'u' :: more =>
      match hex4? more with
      | some (m, after) =>
        if 0xDC00 ≤ m ∧ m ≤ 0xDFFF then
          return (.char (Char.ofNat (0x10000 + (n - 0xD800) * 0x400 + (m - 0xDC00))), after)
        else return (.half n, rest)
      | none => return (.half n, rest)
    | _ => return (.half n, rest)

/-- What follows a backslash. -/
def escape? : List Piece → Option (Content × List Piece)
  | .char '"' :: rest => some (.char '"', rest)
  | .char '\\' :: rest => some (.char '\\', rest)
  | .char '/' :: rest => some (.char '/', rest)
  | .char 'b' :: rest => some (.char '\x08', rest)
  | .char 'f' :: rest => some (.char '\x0c', rest)
  | .char 'n' :: rest => some (.char '\n', rest)
  | .char 'r' :: rest => some (.char '\r', rest)
  | .char 't' :: rest => some (.char '\t', rest)
  | .char 'u' :: rest => unicode? rest
  | _ => none

theorem hex4?_length {gs rest : List Piece} {n : Nat} (h : hex4? gs = some (n, rest)) :
    rest.length < gs.length := by
  unfold hex4? at h
  split at h
  · simp only [Option.pure_def, Option.bind_eq_bind, Option.bind_eq_some_iff, Option.some.injEq,
      Prod.mk.injEq] at h
    obtain ⟨_, _, _, _, _, _, _, _, _, rfl⟩ := h
    simp only [List.length_cons]
    omega
  · simp at h

theorem unicode?_length {gs rest : List Piece} {g : Content} (h : unicode? gs = some (g, rest)) :
    rest.length < gs.length := by
  simp only [unicode?, Option.bind_eq_bind, Option.bind_eq_some_iff, Option.pure_def] at h
  obtain ⟨⟨n, r⟩, hn, h⟩ := h
  have hr := hex4?_length hn
  split at h
  · simp_all
  · split at h
    · simp_all
    · split at h
      · split at h
        · rename_i hm
          have := hex4?_length hm
          split at h <;> grind
        · simp_all
      · simp_all

theorem escape?_length {gs rest : List Piece} {g : Content} (h : escape? gs = some (g, rest)) :
    rest.length < gs.length := by
  unfold escape? at h
  split at h
  case h_9 => exact Nat.lt_trans (unicode?_length h) (by simp)
  all_goals simp_all

/-- The parts up to the closing quote, and what follows it. An unknown escape or a missing quote is
a mistake. -/
def quoted? : List Piece → Option (List Content × List Piece)
  | [] => none
  | .illFormed bs :: rest => (quoted? rest).map fun r => (.illFormed bs :: r.1, r.2)
  | .char c :: rest =>
    if c = '"' then some ([], rest)
    else if c = '\\' then
      match h : escape? rest with
      | none => none
      | some (g, after) =>
        have := escape?_length h
        (quoted? after).map fun r => (g :: r.1, r.2)
    else if c.toNat < 0x20 then (quoted? rest).map fun r => (.control c :: r.1, r.2)
    else (quoted? rest).map fun r => (.char c :: r.1, r.2)
termination_by gs => gs.length
decreasing_by all_goals (simp only [List.length_cons]; omega)

/-- The token in front of characters that do not start with a blank, and what follows it. -/
def front? : List Piece → Option (Token × List Piece)
  | .char '[' :: rest => some (.openArray, rest)
  | .char ']' :: rest => some (.closeArray, rest)
  | .char '\x7b' :: rest => some (.openObject, rest)
  | .char '\x7d' :: rest => some (.closeObject, rest)
  | .char ',' :: rest => some (.comma, rest)
  | .char ':' :: rest => some (.colon, rest)
  | .char 'n' :: .char 'u' :: .char 'l' :: .char 'l' :: rest => some (.scalar .null, rest)
  | .char 't' :: .char 'r' :: .char 'u' :: .char 'e' :: rest => some (.scalar (.bool true), rest)
  | .char 'f' :: .char 'a' :: .char 'l' :: .char 's' :: .char 'e' :: rest =>
    some (.scalar (.bool false), rest)
  | .char '"' :: rest => (quoted? rest).map fun r => (.scalar (.str (Content.quoted r.1)), r.2)
  | gs => (number? gs).map fun r => (.scalar (.num r.1), r.2)

theorem whole?_length {gs rest : List Piece} {ds : List Char} (h : whole? gs = some (ds, rest)) :
    rest.length < gs.length := by
  have hd := length_digits gs
  unfold whole? at h
  cases gs with
  | nil => simp [digits] at h
  | cons g gs =>
    cases g with
    | illFormed bs => simp [digits] at h
    | char c =>
      have hl := length_digits gs
      unfold digits at h
      grind

theorem fraction?_length {gs rest : List Piece} {fs : Option (List Char)}
    (h : fraction? gs = some (fs, rest)) : rest.length ≤ gs.length := by
  unfold fraction? at h
  split at h
  · rename_i r
    have := length_digits r
    grind
  · simp_all

theorem exponent?_length {gs rest : List Piece} {e : Option Int}
    (h : exponent? gs = some (e, rest)) : rest.length ≤ gs.length := by
  unfold exponent? at h
  split at h
  · rename_i c r
    split at h
    · split at h
      rename_i heq
      have := length_digits
      grind
    · simp_all
  · simp_all

theorem number?_length {gs rest : List Piece} {n : Number} (h : number? gs = some (n, rest)) :
    rest.length < gs.length := by
  unfold number? at h
  split at h
  rename_i negative r hr
  have hle : r.length ≤ gs.length := by
    split at hr <;> simp only [Prod.mk.injEq] at hr <;> obtain ⟨-, rfl⟩ := hr <;> simp
  simp only [Option.bind_eq_bind, Option.bind_eq_some_iff, Prod.exists] at h
  obtain ⟨ds, r1, h1, fs, r2, h2, e, r3, h3, h⟩ := h
  have := whole?_length h1
  have := fraction?_length h2
  have := exponent?_length h3
  split at h <;> simp only [Option.pure_def, Option.some.injEq, Prod.mk.injEq] at h <;>
    obtain ⟨-, rfl⟩ := h <;> omega

theorem quoted?_length {gs rest : List Piece} {content : List Content}
    (h : quoted? gs = some (content, rest)) :
    rest.length < gs.length := by
  fun_induction quoted? gs generalizing content rest with
  | case1 => simp at h
  | case2 bs r ih =>
    obtain ⟨x, hq, hx⟩ := Option.map_eq_some_iff.1 h
    have := ih hq
    grind
  | case3 r => grind
  | case4 => simp at h
  | case5 r _ g after hlt _ ih =>
    obtain ⟨x, hq, hx⟩ := Option.map_eq_some_iff.1 h
    have := ih hq
    grind
  | case6 c r _ _ _ ih =>
    obtain ⟨x, hq, hx⟩ := Option.map_eq_some_iff.1 h
    have := ih hq
    grind
  | case7 c r _ _ _ ih =>
    obtain ⟨x, hq, hx⟩ := Option.map_eq_some_iff.1 h
    have := ih hq
    grind

theorem front?_length {gs rest : List Piece} {t : Token} (h : front? gs = some (t, rest)) :
    rest.length < gs.length := by
  unfold front? at h
  split at h
  case h_10 =>
    obtain ⟨⟨a, b⟩, hq, hr⟩ := Option.map_eq_some_iff.1 h
    have := quoted?_length hq
    grind
  case h_11 =>
    obtain ⟨⟨a, b⟩, hq, hr⟩ := Option.map_eq_some_iff.1 h
    have := number?_length hq
    grind
  all_goals grind

theorem length_dropWhile_le (gs : List Piece) : (gs.dropWhile isBlank).length ≤ gs.length :=
  (List.dropWhile_sublist isBlank).length_le

/-- The tokens of a text, as far as it has no mistake. -/
def scan (gs : List Piece) : List Token :=
  if gs.dropWhile isBlank = [] then []
  else
    match h : front? (gs.dropWhile isBlank) with
    | none => [.bad]
    | some (t, rest) =>
      have := Nat.lt_of_lt_of_le (front?_length h) (length_dropWhile_le gs)
      t :: scan rest
termination_by gs.length

end Token

end Courier.Json
