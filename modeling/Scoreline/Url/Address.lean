import Scoreline.Url.Host

/-!
# Scoreline.Url.Address

Absolute addresses and the target of a request for one.

* `Address.parse` — an address from its text: the scheme, the host with its user and its port, and
  what follows them.
* `Authority.text` — the host as a request names it, with its port, and hardly ever with its user.
* `Address.path` — the path brought to normal form: every segment encoded, `.` and `..` resolved.
* `Address.target` — path and query of a request, with pairs added to the query of the address.

Blanks and controls around an address do not belong to it, and tabs and line breaks within it are
passed over. In an address of the web a backslash counts as a slash.
-/

namespace Scoreline
namespace Url

/-- How the parts of an address are found. -/
inductive SchemeKind where
  | web
  | file
  | other
  deriving DecidableEq, Repr

def SchemeKind.ofName (name : String) : SchemeKind :=
  if ["http", "https", "ws", "wss", "ftp"].contains name then .web
  else if name = "file" then .file
  else .other

/-- A host, with the user who asks there as the address has it, and the port if that is not the usual
one. -/
structure Authority where
  user : List Char
  host : Host
  port : Option Nat
  deriving DecidableEq, Repr

structure Address where
  scheme : String
  authority : Option Authority
  rest : List Char
  deriving DecidableEq, Repr

/-! ## Parts of an address -/

def isOuter (c : Char) : Bool := c.toNat ≤ 0x20

def isPassedOver (c : Char) : Bool := c == '\t' || c == '\n' || c == '\r'

/-- The characters of an address that count. -/
def significant (text : List Char) : List Char :=
  ((text.dropWhile isOuter).reverse.dropWhile isOuter).reverse.filter (!isPassedOver ·)

def isSchemeChar (c : Char) : Bool := c.isAlphanum || c == '+' || c == '-' || c == '.'

/-- The scheme in lower case and the text after its colon. -/
def splitScheme? (s : List Char) : Option (String × List Char) :=
  match s with
  | [] => none
  | c :: _ =>
    if c.isAlpha then
      match s.dropWhile isSchemeChar with
      | ':' :: rest => some (String.ofList ((s.takeWhile isSchemeChar).map Char.toLower), rest)
      | _ => none
    else none

def isSlash (c : Char) : Bool := c == '/' || c == '\\'

/-- Whether a character ends the host and the port of an address. -/
def endsAuthority (web : Bool) (c : Char) : Bool :=
  c == '/' || c == '?' || c == '#' || (web && c == '\\')

/-- What stands before the last `@`, if there is one, and what stands after it. -/
def splitUser (authority : List Char) : Option (List Char) × List Char :=
  if authority.contains '@' then
    let host := (authority.reverse.takeWhile (· != '@')).reverse
    (some (authority.take (authority.length - host.length - 1)), host)
  else (none, authority)

/-- The host and, from its colon on, the port. Colons in brackets belong to the host. -/
def splitPort : Bool → List Char → List Char × List Char
  | _, [] => ([], [])
  | bracketed, c :: rest =>
    if c == ':' && !bracketed then ([], c :: rest)
    else
      let bracketed := if c == '[' then true else if c == ']' then false else bracketed
      let (host, port) := splitPort bracketed rest
      (c :: host, port)

/-- The port that a scheme has if none is named. -/
def usualPort (scheme : String) : Option Nat :=
  if scheme = "http" ∨ scheme = "ws" then some 80
  else if scheme = "https" ∨ scheme = "wss" then some 443
  else if scheme = "ftp" then some 21
  else none

/-- The port that digits name, up to a backslash; no digits name none. -/
def portOf (port : List Char) : Except Error (Option Nat) :=
  let digits := port.takeWhile Char.isDigit
  let number := numberIn 10 digits
  if 65535 < number then .error .port
  else
    match port.drop digits.length with
    | [] | '\\' :: _ => .ok (if digits.isEmpty then none else some number)
    | _ :: _ => .error .port

/-- Whether what stands before the `@` names a user or a password. -/
def namesUser (user : List Char) : Bool := !user.isEmpty && user != [':']

/-- What `authority` says of a user, a host and a port, all of them checked. The port `usual` goes
without saying. -/
def authorityOf (web : Bool) (usual : Option Nat) (authority after : List Char) :
    Except Error Authority :=
  let (user, hostPort) := splitUser authority
  let (host, port) := splitPort false hostPort
  if user = some [] ∧ hostPort = [] ∧ after ≠ [] then .error .emptyHost
  else if host = [] ∧ (web ∨ port ≠ [] ∨ user.any namesUser) then .error .emptyHost
  else
    match if web then Host.parse host else Host.parseOther host with
    | .error e => .error e
    | .ok host =>
      match portOf (port.drop 1) with
      | .error e => .error e
      | .ok port => .ok ⟨user.getD [], host, port.filter (usual != some ·)⟩

/-- The name of a drive of a disk, which is no host: a letter and a colon or a bar. -/
def isDrive (name : List Char) : Bool :=
  match name with
  | [c, d] => c.isAlpha && (d == ':' || d == '|')
  | _ => false

/-- The host of a file, if the text after the scheme has one. -/
def fileHost (rest : List Char) : Except Error (Option Host) :=
  match rest with
  | a :: b :: after =>
    if isSlash a && isSlash b then
      let host := after.takeWhile (!endsAuthority true ·)
      if host.isEmpty || isDrive host then .ok none else (Host.parse host).map some
    else .ok none
  | _ => .ok none

namespace Address

/-- The address that a text names. -/
def parse (text : String) : Except Error Address :=
  match splitScheme? (significant text.toList) with
  | none => .error .relative
  | some (scheme, rest) =>
    match SchemeKind.ofName scheme with
    | .web =>
      let rest := rest.dropWhile isSlash
      let authority := rest.takeWhile (!endsAuthority true ·)
      let after := rest.dropWhile (!endsAuthority true ·)
      match authorityOf true (usualPort scheme) authority after with
      | .error e => .error e
      | .ok authority => .ok ⟨scheme, some authority, after⟩
    | .file =>
      match fileHost rest with
      | .error e => .error e
      | .ok host => .ok ⟨scheme, host.map fun host => ⟨[], host, none⟩, rest⟩
    | .other =>
      match rest with
      | '/' :: '/' :: rest =>
        let authority := rest.takeWhile (!endsAuthority false ·)
        let after := rest.dropWhile (!endsAuthority false ·)
        match authorityOf false none authority after with
        | .error e => .error e
        | .ok authority => .ok ⟨scheme, some authority, after⟩
      | rest => .ok ⟨scheme, none, rest⟩

end Address

/-! ## Authorities of requests -/

namespace Authority

/-- The name of a user and the password, each in encoded form. -/
def credentials (a : Authority) : List Char × List Char :=
  let (name, password) := Text.cut ':' a.user
  (encode keptInUser name, encode keptInUser password)

/-- Whether a request is made for an address with the user in it. As a rule the name and the password
are told apart from the address, but not if what is encoded there is no text. -/
def keepsUser (a : Authority) : Bool :=
  let (name, password) := a.credentials
  let isText (s : List Char) : Bool := (Text.ofUtf8? (decode s)).isSome
  !isText name || (name.isEmpty && !isText password)

def userText (a : Authority) : List Char :=
  let (name, password) := a.credentials
  if a.keepsUser then
    name ++ (if password.isEmpty then [] else ':' :: password) ++ ['@']
  else []

def portText (a : Authority) : List Char :=
  match a.port with
  | none => []
  | some port => ':' :: Nat.toDigits 10 port

/-- What stands between the slashes of the address of a request. -/
def text (a : Authority) : List Char := a.userText ++ a.host.text ++ a.portText

end Authority

/-! ## Path, query and fragment -/

namespace Address

/-- A segment that stands for the one it is in. -/
def isDot (segment : List Char) : Bool :=
  [['.'], ['%', '2', 'e']].contains (segment.map Char.toLower)

/-- A segment that stands for the one before it. -/
def isDoubleDot (segment : List Char) : Bool :=
  [['.', '.'], ['.', '%', '2', 'e'], ['%', '2', 'e', '.'],
    ['%', '2', 'e', '%', '2', 'e']].contains (segment.map Char.toLower)

/-- The segments (last first) without the last one. A drive stays where it is. -/
def parent : List (List Char) → List (List Char)
  | [] => []
  | last :: kept => if isDrive last then last :: kept else kept

/-- Resolves dots: the segments kept so far (last first), and those still to come. -/
def resolve : List (List Char) → List (List Char) → List (List Char)
  | kept, [] => kept.reverse
  | kept, [last] =>
    if isDoubleDot last then ([] :: parent kept).reverse
    else if isDot last then ([] :: kept).reverse
    else (last :: kept).reverse
  | kept, s :: t :: rest =>
    if isDoubleDot s then resolve (parent kept) (t :: rest)
    else if isDot s then resolve kept (t :: rest)
    else resolve (s :: kept) (t :: rest)

/-- The segments of a path as it is written; its first slash opens the first segment. -/
def segments (path : List Char) : List (List Char) :=
  match path with
  | [] => [[]]
  | c :: rest => Text.splitBy isSlash (if isSlash c then rest else c :: rest)

def isPathEnd (c : Char) : Bool := c == '?' || c == '#'

/-- The path in normal form. -/
def path (a : Address) : List Char :=
  let written := segments (a.rest.takeWhile (!isPathEnd ·))
  (resolve [] (written.map (encode keptInPath))).flatMap ('/' :: ·)

/-- The query in encoded form. -/
def query (a : Address) : Option (List Char) :=
  match a.rest.dropWhile (!isPathEnd ·) with
  | '?' :: rest => some (encode keptInQuery (rest.takeWhile (· != '#')))
  | _ => none

/-- The fragment in encoded form, with its mark. -/
def fragment (a : Address) : List Char :=
  match a.rest.dropWhile (· != '#') with
  | [] => []
  | mark :: rest => mark :: encode keptInFragment rest

/-- A name and a value as a form writes them. -/
def pairChars (p : String × String) : List Char :=
  formEncode p.1.toList ++ '=' :: formEncode p.2.toList

/-- A query with pairs added at its end. -/
def extendQuery (query : List Char) : List (String × String) → List Char
  | [] => query
  | p :: ps => extendQuery (if query.isEmpty then pairChars p else query ++ '&' :: pairChars p) ps

/-- The target of a request: path and query. An empty query is left out. -/
def target (a : Address) (pairs : List (String × String)) : String :=
  let query := extendQuery (a.query.getD []) pairs
  String.ofList (if query.isEmpty then a.path else a.path ++ '?' :: query)

end Address

end Url
end Scoreline
