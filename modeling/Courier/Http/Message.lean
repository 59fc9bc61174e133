import Courier.Json.Record
import Courier.Json.Print
import Courier.ServiceError

/-!
# Requests and responses

What the service needs of an HTTP request, and what it answers. Names of headers are alike in any
case, the first of several headers counts, and a value that is not visible ASCII counts as none.
-/

namespace Courier.Http

/-- A request. -/
structure Request where
  method : String
  /-- The path, and the query and the fragment behind it. -/
  target : String
  headers : List (String × String)
  body : List UInt8
  deriving Repr, Inhabited

namespace Request

/-- Whether a header's value is visible ASCII. -/
def isVisible (value : String) : Bool :=
  value.toList.all fun c => c = '\t' || (32 ≤ c.toNat && c.toNat < 127)

/-- The value of a header whose name is given in lower case. -/
def header? (r : Request) (name : String) : Option String :=
  ((r.headers.find? fun h => h.1.map Char.toLower = name).map Prod.snd).filter isVisible

/-- The path of a request, without the query and the fragment. -/
def path (r : Request) : String :=
  String.ofList (r.target.toList.takeWhile fun c => c ≠ '?' && c ≠ '#')

end Request

/-- The body of a response. -/
inductive Content where
  | json (v : Json)
  | text (s : String)
  deriving Repr

/-- The media type of a body. -/
def Content.mediaType : Content → String
  | .json _ => "application/json"
  | .text _ => "text/plain; charset=utf-8"

/-- A response. -/
structure Response where
  status : Nat
  mediaType : Option String
  /-- The methods that the path takes, where the response names them. -/
  allow : Option String
  body : Option Content
  deriving Repr, Inhabited

namespace Response

/-- A response without a body. -/
def bare (status : Nat) : Response :=
  ⟨status, none, none, none⟩

/-- A response with a body. -/
def withBody (status : Nat) (body : Content) : Response :=
  ⟨status, some body.mediaType, none, some body⟩

/-- The response that reports an error at a time in seconds. -/
def ofError (e : ServiceError) (now : Int) : Response :=
  withBody e.status (.json (e.body none now))

/-- The response without its body, as to one who asks for the head alone. -/
def head (r : Response) : Response :=
  { r with body := none }

/-- Whether a response reports success. -/
def isSuccess (r : Response) : Bool :=
  200 ≤ r.status && r.status < 300

end Response

end Courier.Http
