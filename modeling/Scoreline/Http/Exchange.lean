import Scoreline.Json.Form
import Scoreline.Text.Blank
import Scoreline.Url.Address

/-!
# Scoreline.Http.Exchange

What goes over the wire, as far as a client can tell: a request by the scheme and the host of its
address, its target and its cookie, and a response by its status and its body. A server is a
function from the one to the other; it may also close the connection without a response.

Not every address makes a request: there is a limit to its length, and to the characters of its host
(`Request.fits`).

Headers of responses are left out. A redirect without a place to go to is a failure like any other,
and a body is UTF-8, which is what it counts as where no header names another encoding.
-/

namespace Scoreline
namespace Http

structure Request where
  scheme : String
  authority : Option Url.Authority
  target : String
  cookie : Option String
  deriving DecidableEq, Repr

namespace Request

def host (r : Request) : Option Url.Host := r.authority.map (·.host)

/-- The address of a request. -/
def url (r : Request) : List Char :=
  r.scheme.toList ++ [':', '/', '/'] ++ (r.authority.map (·.text)).getD [] ++ r.target.toList

/-- How many bytes the address of a request may have. -/
def longestUrl : Nat := 65534

/-- The characters that a host may hold, but not the host of a request. -/
def refusedInHost : List Char := ['"', '\x60', '\x7b', '\x7d']

/-- Whether a request is made for an address with `fragment` at its end. -/
def fits (r : Request) (fragment : List Char) : Bool :=
  (Text.utf8 (String.ofList (r.url ++ fragment))).length ≤ longestUrl &&
    r.host.all fun host => host.text.all (!refusedInHost.contains ·)

/-- The first line of a request. -/
def line (r : Request) : String := "GET " ++ r.target ++ " HTTP/1.1"

end Request

/-- A response without its headers. -/
structure Response where
  status : Nat
  body : Bytes
  deriving DecidableEq, Repr

abbrev Server := Request → Option Response

/-- The standard phrases for statuses. -/
def reasons : List (Nat × String) :=
  [(100, "Continue"), (101, "Switching Protocols"), (102, "Processing"), (103, "Early Hints"),
   (200, "OK"), (201, "Created"), (202, "Accepted"), (203, "Non Authoritative Information"),
   (204, "No Content"), (205, "Reset Content"), (206, "Partial Content"), (207, "Multi-Status"),
   (208, "Already Reported"), (226, "IM Used"),
   (300, "Multiple Choices"), (301, "Moved Permanently"), (302, "Found"), (303, "See Other"),
   (304, "Not Modified"), (305, "Use Proxy"), (307, "Temporary Redirect"),
   (308, "Permanent Redirect"),
   (400, "Bad Request"), (401, "Unauthorized"), (402, "Payment Required"), (403, "Forbidden"),
   (404, "Not Found"), (405, "Method Not Allowed"), (406, "Not Acceptable"),
   (407, "Proxy Authentication Required"), (408, "Request Timeout"), (409, "Conflict"),
   (410, "Gone"), (411, "Length Required"), (412, "Precondition Failed"),
   (413, "Payload Too Large"), (414, "URI Too Long"), (415, "Unsupported Media Type"),
   (416, "Range Not Satisfiable"), (417, "Expectation Failed"), (418, "I'm a teapot"),
   (421, "Misdirected Request"), (422, "Unprocessable Entity"), (423, "Locked"),
   (424, "Failed Dependency"), (425, "Too Early"), (426, "Upgrade Required"),
   (428, "Precondition Required"), (429, "Too Many Requests"),
   (431, "Request Header Fields Too Large"), (451, "Unavailable For Legal Reasons"),
   (500, "Internal Server Error"), (501, "Not Implemented"), (502, "Bad Gateway"),
   (503, "Service Unavailable"), (504, "Gateway Timeout"), (505, "HTTP Version Not Supported"),
   (506, "Variant Also Negotiates"), (507, "Insufficient Storage"), (508, "Loop Detected"),
   (510, "Not Extended"), (511, "Network Authentication Required")]

/-- A status with its phrase. -/
def statusText (status : Nat) : String :=
  toString status ++ " " ++ (reasons.lookup status).getD "<unknown status code>"

namespace Response

/-- Whether a client takes the response for the answer: it passes over interim responses. -/
def isFinal (r : Response) : Bool := r.status == 101 || (200 ≤ r.status && r.status ≤ 999)

def isSuccess (r : Response) : Bool := 200 ≤ r.status && r.status ≤ 299

/-- Whether a response of this status has a body. -/
def hasBody (r : Response) : Bool := !([101, 204, 304].contains r.status)

/-- The bytes that a client gets to see. -/
def content (r : Response) : Bytes := if r.hasBody then r.body else []

/-- What a server says of a failure in JSON. -/
structure Complaint where
  message : String

open Json (Form Fields) in
def Complaint.form : Form Complaint :=
  .record "ErrorBody" (.required "message" .string .nil) (fun (message, ()) => ⟨message⟩)
    (fun c => (c.message, ()))

/-- What a server says of a failure: the message of an object that has one, or else the body. -/
def complaint (r : Response) : String :=
  let text := Text.decodeMarked r.content
  match Complaint.form.parse (Text.utf8 text) with
  | .ok c => c.message
  | .error _ => Text.trim text

end Response

end Http
end Scoreline
