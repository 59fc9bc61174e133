import Courier.Json.Token

/-!
# Reading JSON texts

The tokens of a text drive a machine whose stack holds the containers that are open. A value that
is complete goes into the innermost container; where the tokens fit no rule, all open containers
are given up unclosed. The stack lives in a list, so depth of nesting costs no recursion.
-/

namespace Courier.Json

/-- An open container: what it holds so far, the last first, and the key that waits for a value. -/
inductive Frame where
  | arr (items : List Json)
  | obj (members : List (Key × Json)) (key : Option Key)
  deriving Inhabited

/-- What may come next inside the innermost container, or at the start of the text. -/
inductive Expect where
  | value
  | valueOrClose
  | key
  | keyOrClose
  | colon
  | commaOrClose
  deriving DecidableEq, Repr

namespace Frame

/-- A container given up where the text breaks off, holding the piece that was being read. -/
def giveUp : Frame → Option Json → Json
  | .arr items, piece => .arr (items.reverse ++ piece.toList) .cut
  | .obj members none, _ => .obj members.reverse .cut
  | .obj members (some k), piece => .obj (members.reverse ++ [(k, piece.getD .broken)]) .cut

/-- The whole text, given up inside the open containers. -/
def giveUpAll : List Frame → Option Json → Json
  | [], piece => piece.getD .broken
  | f :: fs, piece => giveUpAll fs (some (f.giveUp piece))

end Frame

/-- The machine's next situation: another token is wanted, or the text's value is there. -/
inductive Progress where
  | more (expect : Expect) (frames : List Frame)
  | done (v : Json)
  deriving Inhabited

/-- A complete value goes into the innermost container. -/
def Progress.deliver (v : Json) : List Frame → Progress
  | [] => .done v
  | .arr items :: fs => .more .commaOrClose (.arr (v :: items) :: fs)
  | .obj members key :: fs =>
    .more .commaOrClose (.obj ((key.getD .other, v) :: members) none :: fs)

/-- Whether a key may be skipped unread. -/
def Key.isSkippable : Key → Bool
  | .quoted q => q.isSkippable
  | .other => false

/-- The array of items, the last first, at its bracket. -/
def closeArray (items : List Json) : Json :=
  .arr items.reverse (if items.all isSkippable then .clean else .closed)

/-- The object of members, the last first, at its bracket. -/
def closeObject (members : List (Key × Json)) : Json :=
  .obj members.reverse
    (if members.all fun m => m.1.isSkippable && m.2.isSkippable then .clean else .closed)

/-- The key that a token is where a key is expected. -/
def Token.key? : Token → Option Key
  | .scalar (.str q) => some (.quoted q)
  | _ => none

/-- Whether a token tells of what kind the value is that it begins. A number that is out of range
does not. -/
def Token.tellsKind : Token → Bool
  | .scalar (.num n) => n.isFinite
  | .scalar _ | .openArray | .openObject => true
  | _ => false

/-- One token read where a value is expected. -/
def Progress.value (t : Token) (frames : List Frame) : Progress :=
  match t with
  | .scalar v => .deliver v frames
  | .openArray => .more .valueOrClose (.arr [] :: frames)
  | .openObject => .more .keyOrClose (.obj [] none :: frames)
  | _ => .done (Frame.giveUpAll frames none)

/-- One token read where a key is expected. A value that is no text in the place of a key is kept
as such before the object is given up. -/
def Progress.key (t : Token) (frames : List Frame) : Progress :=
  match t.key?, frames with
  | some k, .obj members _ :: fs => .more .colon (.obj members (some k) :: fs)
  | none, .obj members _ :: fs =>
    if t.tellsKind then .done (Frame.giveUpAll (.obj members (some .other) :: fs) none)
    else .done (Frame.giveUpAll frames none)
  | _, _ => .done (Frame.giveUpAll frames none)

/-- One token. -/
def Progress.step (expect : Expect) (frames : List Frame) (t : Token) : Progress :=
  match expect, t, frames with
  | .value, t, frames => .value t frames
  | .valueOrClose, .closeArray, .arr items :: fs => .deliver (closeArray items) fs
  | .valueOrClose, t, frames => .value t frames
  | .key, t, frames => .key t frames
  | .keyOrClose, .closeObject, .obj members _ :: fs => .deliver (closeObject members) fs
  | .keyOrClose, t, frames => .key t frames
  | .colon, .colon, frames => .more .value frames
  | .commaOrClose, .comma, .arr items :: fs => .more .value (.arr items :: fs)
  | .commaOrClose, .comma, .obj members key :: fs => .more .key (.obj members key :: fs)
  | .commaOrClose, .closeArray, .arr items :: fs => .deliver (closeArray items) fs
  | .commaOrClose, .closeObject, .obj members _ :: fs => .deliver (closeObject members) fs
  | _, _, frames => .done (Frame.giveUpAll frames none)

/-- The value that tokens write, and the tokens that follow it. -/
def ofTokens (expect : Expect) (frames : List Frame) : List Token → Json × List Token
  | [] => (Frame.giveUpAll frames none, [])
  | t :: ts =>
    match Progress.step expect frames t with
    | .done v => (v, ts)
    | .more expect frames => ofTokens expect frames ts

/-- A text read as JSON: its value, and whether nothing but blanks follows it. -/
structure Document where
  root : Json
  ends : Bool
  deriving Inhabited

/-- Reads pieces of UTF-8. -/
def Document.ofPieces (gs : List Utf8.Piece) : Document :=
  let (v, rest) := ofTokens .value [] (Token.scan gs)
  ⟨v, rest.isEmpty⟩

/-- Reads bytes. -/
def Document.ofBytes (bs : List UInt8) : Document :=
  .ofPieces (Utf8.decode bs)

/-- Reads a text. -/
def Document.ofText (s : String) : Document :=
  .ofPieces (s.toList.map .char)

end Courier.Json
