import Scoreline.Feed

/-!
# Scoreline.Feed.Client

A feed over HTTP. A `Client` is made from a base address, which must be one of the web, and may
carry a cookie. Slashes at the end of the base do not belong to it; everything else is kept as it
is, and a path is put right behind it.

A response with a status from 200 to 299 is read as JSON. Any other is a failure that carries what
the server said. How long a client waits for a response is a part of its configuration only: no call
runs out of time here.
-/

namespace Scoreline

open Json (Form Fields)

structure ClientConfig where
  baseUrl : String
  timeoutSecs : UInt64
  cookie : Option String
  deriving DecidableEq, Repr

namespace ClientConfig

def defaultTimeoutSecs : UInt64 := 30

/-- A client of a server that waits as long as usual and shows no cookie. -/
def ofBaseUrl (baseUrl : String) : ClientConfig := ⟨baseUrl, defaultTimeoutSecs, none⟩

def form : Form ClientConfig :=
  .record "ClientConfig"
    (.required "base_url" .string
      (.defaulted "timeout_secs" .uint64 defaultTimeoutSecs
        (.defaulted "cookie" (.option .string) none .nil)))
    (fun (baseUrl, timeoutSecs, cookie, ()) => ⟨baseUrl, timeoutSecs, cookie⟩)
    (fun c => (c.baseUrl, c.timeoutSecs, c.cookie, ()))

end ClientConfig

/-- Why there is no client for a configuration. -/
inductive ConfigError where
  | address (base : String) (e : Url.Error)
  | scheme (base : String)
  | cookie
  deriving DecidableEq, Repr

def ConfigError.message : ConfigError → String
  | .address base e => "invalid client configuration: " ++ base ++ ": " ++ e.message
  | .scheme base => "invalid client configuration: " ++ base ++ ": scheme must be http or https"
  | .cookie => "invalid client configuration: cookie contains invalid characters"

structure Client where
  base : String
  cookie : Option String
  deriving DecidableEq, Repr

namespace Client

/-- A text without the slashes at its end. -/
def withoutEndSlashes (s : String) : String :=
  String.ofList (s.toList.reverse.dropWhile (· == '/')).reverse

/-- Whether a byte may stand in a header: no control but the tab. -/
def isHeaderByte (b : UInt8) : Bool := b == 0x09 || (0x20 ≤ b && b != 0x7F)

def isCookie (s : String) : Bool := (Text.utf8 s).all isHeaderByte

/-- The client for a configuration. -/
def make (c : ClientConfig) : Except ConfigError Client :=
  let base := withoutEndSlashes c.baseUrl
  match Url.Address.parse base with
  | .error e => .error (.address base e)
  | .ok a =>
    if a.scheme = "http" ∨ a.scheme = "https" then
      if c.cookie.all isCookie then .ok ⟨base, c.cookie⟩ else .error .cookie
    else .error (.scheme base)

/-- The address of a path. -/
def url (c : Client) (path : String) : String := c.base ++ path

/-- The request for a path, with pairs added to its query. There is none if the path makes no address
behind the base, or one that does not fit into a request. -/
def request? (c : Client) (path : String) (pairs : List (String × String)) : Option Http.Request :=
  match Url.Address.parse (c.url path) with
  | .error _ => none
  | .ok a =>
    let request : Http.Request := ⟨a.scheme, a.authority, a.target pairs, c.cookie⟩
    if request.fits a.fragment then some request else none

def askedNotice (c : Client) (path : String) : Notice :=
  ⟨.debug, "scoregraph_client::http", "GET " ++ c.url path⟩

def failedNotice (c : Client) (path : String) (r : Http.Response) : Notice :=
  ⟨.warn, "scoregraph_client::http",
    c.url path ++ " failed with " ++ Http.statusText r.status ++ ": " ++ r.complaint⟩

/-- What a response says: the notices that it gives rise to, and the answer in it. -/
def answer {α : Type} (c : Client) (path : String) (form : Form α) (r : Option Http.Response) :
    List Notice × Except FetchError α :=
  match r with
  | none => ([], .error .transport)
  | some r =>
    if !r.isFinal then ([], .error .transport)
    else if r.isSuccess then ([], (form.parse r.content).mapError .json)
    else ([c.failedNotice path r], .error (.server r.status r.complaint))

/-- Asks a server for a path and reads the answer as `form`. -/
def get {α : Type} (c : Client) (server : Http.Server) (path : String)
    (pairs : List (String × String)) (form : Form α) : Call α :=
  match c.request? path pairs with
  | none => .atOnce [c.askedNotice path] (.error .transport)
  | some request =>
    let (closing, result) := c.answer path form (server request)
    .waiting [c.askedNotice path] request closing result

def statusPath : String := "/api/v1/status"

/-- The client of a server as a feed. -/
def feed (c : Client) (server : Http.Server) : Feed where
  status := c.get server statusPath [] Status.form
  topTeams r limit :=
    c.get server r.path (limit.toList.map fun n => ("limit", toString n.toNat))
      (.list Team.form)
  teamProgression category :=
    c.get server Source.teamPath (category.toList.map fun s => ("category", s))
      (.list Event.form)

end Client

end Scoreline
