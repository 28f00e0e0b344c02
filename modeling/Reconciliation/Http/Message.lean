import Reconciliation.Http.Url
import Reconciliation.Json.Value

/-!
# HTTP messages

* `Http.Request` is a request as it is sent, `Http.Reply` what comes back, if anything.
* `Http.statusText` names a status as error texts do.
* `Http.address?` is where a request goes that can be built.
-/

namespace Reconciliation.Http

open Json Number Text

inductive Method where
  | get
  | put
  | post
  deriving Repr, DecidableEq

def Method.name : Method → String
  | .get => "GET"
  | .put => "PUT"
  | .post => "POST"

structure Request where
  method : Method
  /-- Path and query. -/
  target : String
  /-- Names in lower case, with values. -/
  headers : List (String × String)
  body : Option Value
  deriving Repr, DecidableEq

/-- What comes back for a request. -/
inductive Reply where
  /-- No answer: there was no connection, or it was closed. -/
  | lost
  | answer (status : Nat) (body : Utf8.Bytes)
  deriving Repr, DecidableEq

/-- What a client did: the requests it sent, and what it made of the replies. -/
structure Exchange (α : Type) where
  sent : List Request
  result : α
  deriving Repr

/-! ### Statuses -/

/-- The usual names of statuses. -/
def reasons : List (Nat × String) := [
  (100, "Continue"), (101, "Switching Protocols"), (102, "Processing"), (103, "Early Hints"), (200, "OK"),
  (201, "Created"), (202, "Accepted"), (203, "Non Authoritative Information"), (204, "No Content"),
  (205, "Reset Content"), (206, "Partial Content"), (207, "Multi-Status"), (208, "Already Reported"),
  (226, "IM Used"), (300, "Multiple Choices"), (301, "Moved Permanently"), (302, "Found"), (303, "See Other"),
  (304, "Not Modified"), (305, "Use Proxy"), (307, "Temporary Redirect"), (308, "Permanent Redirect"),
  (400, "Bad Request"), (401, "Unauthorized"), (402, "Payment Required"), (403, "Forbidden"), (404, "Not Found"),
  (405, "Method Not Allowed"), (406, "Not Acceptable"), (407, "Proxy Authentication Required"),
  (408, "Request Timeout"), (409, "Conflict"), (410, "Gone"), (411, "Length Required"),
  (412, "Precondition Failed"), (413, "Payload Too Large"), (414, "URI Too Long"),
  (415, "Unsupported Media Type"), (416, "Range Not Satisfiable"), (417, "Expectation Failed"),
  (418, "I'm a teapot"), (421, "Misdirected Request"), (422, "Unprocessable Entity"), (423, "Locked"),
  (424, "Failed Dependency"), (425, "Too Early"), (426, "Upgrade Required"), (428, "Precondition Required"),
  (429, "Too Many Requests"), (431, "Request Header Fields Too Large"), (451, "Unavailable For Legal Reasons"),
  (500, "Internal Server Error"), (501, "Not Implemented"), (502, "Bad Gateway"), (503, "Service Unavailable"),
  (504, "Gateway Timeout"), (505, "HTTP Version Not Supported"), (506, "Variant Also Negotiates"),
  (507, "Insufficient Storage"), (508, "Loop Detected"), (510, "Not Extended"),
  (511, "Network Authentication Required")]

/-- A status with its name. -/
def statusText (status : Nat) : String :=
  digitsText status ++ " " ++
    match reasons.find? (·.1 == status) with
    | some r => r.2
    | none => "<unknown status code>"

def isSuccess (status : Nat) : Bool := 200 ≤ status && status < 300

def isServerError (status : Nat) : Bool := 500 ≤ status && status < 600

/-! ### Texts -/

/-- The text of a body: a byte order mark is left out, ill-formed parts are replaced. -/
def bodyText (body : Utf8.Bytes) : String :=
  String.ofList (Utf8.decodeLossy (match body with
    | 0xEF :: 0xBB :: 0xBF :: rest => rest
    | _ => body))

/-- Control characters other than the tabulator may not stand in a header. -/
def headerValid (value : String) : Bool :=
  value.toList.all fun c => (c.toNat ≥ 32 && c.toNat ≠ 127) || c.toNat = 9

/-- The address that a text names, if the values may stand in headers; otherwise no request can be built. -/
def address? (headers : List String) (url : String) : Option Url :=
  if headers.all headerValid then (Url.parse? url).toOption else none

/-- The text for a request that can not be built. -/
def notBuilt : String := "builder error"

/-- The text for a request without an answer. -/
def notAnswered (url : String) : String := "error sending request for url (" ++ url ++ ")"

/-- The text for an answer that can not be read. -/
def notDecoded : String := "error decoding response body"

end Reconciliation.Http
