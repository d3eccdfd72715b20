import Scoreline.Id
import Scoreline.Json.Decode

/-!
# Scoreline.Source

Which progressions to draw: those of the top teams of a ranking, or that of the signed-in team.

A ranking is written as an object with its kind and its name, a source as an object that says its
kind beside its own members. Both are also read from a list. A source, and a ranking whose name
comes before its kind, are read whole before anything is made of them; this limits their nesting.
-/

namespace Scoreline

open Json

/-- A scoreboard or a group by its name. -/
structure Ranking where
  kind : RankingKind
  id : Id kind
  deriving DecidableEq

namespace Ranking

/-- Where a server keeps the progressions of the top teams. -/
def path (r : Ranking) : String :=
  "/api/v1/" ++ r.kind.collection ++ "/" ++ r.id.text ++ "/score_progressions"

def title (r : Ranking) : String := r.kind.name ++ " " ++ r.id.shown {}

def write (r : Ranking) : Value :=
  .object [("kind", .string r.kind.name), ("id", .string r.id.text)]

/-- What messages call a ranking. -/
def expected : String := "adjacently tagged enum RankingSource"

def readKind : Reader RankingKind := readVariant RankingKind.variants

def decodeKind : Decoder RankingKind := decodeVariant RankingKind.variants

def decodeId (k : RankingKind) : Decoder (Id k) := fun v =>
  match decodeString v with
  | .error p => .error p
  | .ok s =>
    match Id.checked k s with
    | .error reason => .error (.mismatch (.refused reason))
    | .ok id => .ok id

/-- The ranking of a kind that `v` names. -/
def decodeNamed (k : RankingKind) : Decoder Ranking := fun v =>
  match decodeId k v with
  | .error p => .error p
  | .ok id => .ok ⟨k, id⟩

/-- What the members read so far say. A name that comes first waits for the kind. -/
inductive Gathered where
  | nothing
  | kind (k : RankingKind)
  | name (v : Value)
  | both (r : Ranking)

namespace Gathered

def complete : Gathered → Except Problem Ranking
  | .nothing | .name _ => .error (.mismatch (.missing "kind"))
  | .kind _ => .error (.mismatch (.missing "id"))
  | .both r => .ok r

/-- The kind is known now. -/
def withKind (g : Gathered) (k : RankingKind) : Except Problem Gathered :=
  match g with
  | .nothing => .ok (.kind k)
  | .name v =>
    match decodeNamed k v with
    | .error p => .error p
    | .ok r => .ok (.both r)
  | .kind _ | .both _ => .error (.mismatch (.duplicate "kind"))

def hasKind : Gathered → Bool
  | .kind _ | .both _ => true
  | .nothing | .name _ => false

def hasName : Gathered → Bool
  | .name _ | .both _ => true
  | .nothing | .kind _ => false

end Gathered

/-- Reads one member of a ranking. -/
def readMember : MemberStep Gathered := fun key g text =>
  if key = "kind" then
    if g.hasKind then .error (.mismatch (.duplicate "kind"))
    else
      match Json.readMember readKind text with
      | .error p => .error p
      | .ok (k, rest) =>
        match g.withKind k with
        | .error p => .error p
        | .ok g => .ok (g, rest)
  else if key = "id" then
    if g.hasName then .error (.mismatch (.duplicate "id"))
    else
      match g with
      | .kind k =>
        match Json.readMember (Id.form k).read text with
        | .error p => .error p
        | .ok (id, rest) => .ok (.both ⟨k, id⟩, rest)
      | _ =>
        match Json.readMember (readBuffered (nestingLimit - 1)) text with
        | .error p => .error p
        | .ok (v, rest) => .ok (.name v, rest)
  else skipMember g text

/-- Reads a ranking from an object whose opening brace has been read. -/
def readObject : Reader Ranking := fun text =>
  match readMembers readMember .nothing text with
  | .error p => .error p
  | .ok (g, rest) =>
    match g.complete with
    | .error p => .error p
    | .ok r =>
      match closeObject rest with
      | .error p => .error p
      | .ok rest => .ok (r, rest)

/-- Reads a ranking from a list whose opening bracket has been read: its kind and its name. -/
def readTuple : Reader Ranking := fun text =>
  match nextElement true text with
  | .error p => .error p
  | .ok none => .error (.mismatch (.length 0 expected))
  | .ok (some text) =>
    match readVariantName RankingKind.variants text with
    | .error p => .error p
    | .ok (k, text) =>
      match nextElement false text with
      | .error p => .error p
      | .ok none => .error (.mismatch (.length 1 expected))
      | .ok (some text) =>
        match (Id.form k).read text with
        | .error p => .error p
        | .ok (id, text) =>
          match closeList text with
          | .error p => .error p
          | .ok rest => .ok (⟨k, id⟩, rest)

def read : Reader Ranking := fun text =>
  match skipGap text with
  | [] => .error (.ended .value)
  | listOpen :: rest => readTuple rest
  | objectOpen :: rest => readObject rest
  | text => .error (refuse expected text)

def form : Form Ranking := ⟨read, write⟩

/-- Takes one member of a ranking that has been read whole. -/
def decodeMember (g : Gathered) : String × Value → Except Problem Gathered
  | (key, v) =>
    if key = "kind" then
      if g.hasKind then .error (.mismatch (.duplicate "kind"))
      else
        match decodeKind v with
        | .error p => .error p
        | .ok k => g.withKind k
    else if key = "id" then
      if g.hasName then .error (.mismatch (.duplicate "id"))
      else
        match g with
        | .kind k =>
          match decodeNamed k v with
          | .error p => .error p
          | .ok r => .ok (.both r)
        | _ => .ok (.name v)
    else .ok g

def decodeMembers (g : Gathered) : List (String × Value) → Except Problem Ranking
  | [] => g.complete
  | m :: ms =>
    match decodeMember g m with
    | .error p => .error p
    | .ok g => decodeMembers g ms

/-- Makes a ranking of a value that has been read whole. -/
def decode : Decoder Ranking
  | .array [] => .error (.mismatch (.length 0 expected))
  | .array (k :: items) =>
    match decodeVariantName RankingKind.variants k with
    | .error p => .error p
    | .ok k =>
      match items with
      | [] => .error (.mismatch (.length 1 expected))
      | id :: left =>
        match decodeNamed k id with
        | .error p => .error p
        | .ok r =>
          match noneLeft 2 left with
          | .error p => .error p
          | .ok () => .ok r
  | .object members => decodeMembers .nothing members
  | v => v.mismatch expected

end Ranking

/-- What kind of progressions a source has. -/
inductive SourceKind where
  | ranking
  | team
  deriving DecidableEq, Repr

def SourceKind.name : SourceKind → String
  | .ranking => "ranking"
  | .team => "team"

/-- The kinds by their names. -/
def SourceKind.variants : Variants SourceKind := [(name .ranking, .ranking), (name .team, .team)]

/-- Where progressions come from: the top teams of a ranking, at most `limit` of them, or the
signed-in team, in one category of problems or in all. -/
inductive Source where
  | ranking (r : Ranking) (limit : Option UInt32)
  | team (category : Option String)
  deriving DecidableEq

namespace Source

def scoreboard (id : Id .scoreboard) : Source := .ranking ⟨.scoreboard, id⟩ none

def group (id : Id .group) : Source := .ranking ⟨.group, id⟩ none

/-- The source with a limit on its teams. The progression of one team takes none. -/
def withLimit (limit : UInt32) : Source → Option Source
  | .ranking r _ => some (.ranking r (some limit))
  | .team _ => none

/-- What is said of a limit on the progression of one team. -/
def limitOnTeamMessage : String := "a top teams limit only applies to scoreboards and groups"

def teamPath : String := "/api/v1/team/score_progression"

def path : Source → String
  | .ranking r _ => r.path
  | .team _ => teamPath

def write : Source → Value
  | .ranking r limit =>
    .object ([("kind", .string SourceKind.ranking.name), ("ranking", r.write)] ++
      limit.toList.map fun n => ("limit", .number (.integer n.toNat)))
  | .team category =>
    .object [("kind", .string SourceKind.team.name),
      ("category", match category with | none => .null | some c => .string c)]

/-! ## Reading -/

/-- What messages call a source. -/
def expected : String := "internally tagged enum ProgressionSource"

/-- What messages call the variant named `variant`, whose members are `n`. -/
def expectedVariant (variant : String) (n : Nat) : String :=
  "struct variant ProgressionSource::" ++ variant ++ " with " ++ elementCount n

/-- What the members of a source of the first kind say so far. -/
structure RankingParts where
  ranking : Option Ranking
  limit : Option (Option UInt32)

def RankingParts.take (g : RankingParts) : String × Value → Except Problem RankingParts
  | (key, v) =>
    if key = "ranking" then
      match g.ranking with
      | some _ => .error (.mismatch (.duplicate "ranking"))
      | none =>
        match Ranking.decode v with
        | .error p => .error p
        | .ok r => .ok { g with ranking := some r }
    else if key = "limit" then
      match g.limit with
      | some _ => .error (.mismatch (.duplicate "limit"))
      | none =>
        match decodeOption decodeUInt32 v with
        | .error p => .error p
        | .ok n => .ok { g with limit := some n }
    else .ok g

def decodeRankingMembers (g : RankingParts) : List (String × Value) → Except Problem Source
  | [] =>
    match g.ranking with
    | none => .error (.mismatch (.missing "ranking"))
    | some r => .ok (.ranking r (g.limit.getD none))
  | m :: ms =>
    match g.take m with
    | .error p => .error p
    | .ok g => decodeRankingMembers g ms

def decodeRankingItems : List Value → Except Problem Source
  | [] => .error (.mismatch (.length 0 (expectedVariant "Ranking" 2)))
  | r :: items =>
    match Ranking.decode r with
    | .error p => .error p
    | .ok r =>
      match items with
      | [] => .ok (.ranking r none)
      | limit :: left =>
        match decodeOption decodeUInt32 limit with
        | .error p => .error p
        | .ok limit =>
          match noneLeft 2 left with
          | .error p => .error p
          | .ok () => .ok (.ranking r limit)

/-- The members of a source of the second kind; `g` is the category, once it has been met. -/
def decodeTeamMembers (g : Option (Option String)) : List (String × Value) → Except Problem Source
  | [] => .ok (.team (g.getD none))
  | (key, v) :: ms =>
    if key = "category" then
      match g with
      | some _ => .error (.mismatch (.duplicate "category"))
      | none =>
        match decodeOption decodeString v with
        | .error p => .error p
        | .ok c => decodeTeamMembers (some c) ms
    else decodeTeamMembers g ms

def decodeTeamItems : List Value → Except Problem Source
  | [] => .error (.mismatch (.length 0 (expectedVariant "Team" 1)))
  | c :: left =>
    match decodeOption decodeString c with
    | .error p => .error p
    | .ok c =>
      match noneLeft 1 left with
      | .error p => .error p
      | .ok () => .ok (.team c)

/-- Makes a source of its kind and of the list or the object without it. -/
def decodeKind : SourceKind → Decoder Source
  | .ranking, .array items => decodeRankingItems items
  | .ranking, .object members => decodeRankingMembers ⟨none, none⟩ members
  | .team, .array items => decodeTeamItems items
  | .team, .object members => decodeTeamMembers none members
  | _, v => v.mismatch expected

/-- The kind, once it has been met, and the other members, last first. -/
structure Parts where
  kind : Option SourceKind
  others : List (String × Value)

def readMember : MemberStep Parts := fun key g text =>
  if key = "kind" then
    match g.kind with
    | some _ => .error (.mismatch (.duplicate "kind"))
    | none =>
      match Json.readMember (readVariantName SourceKind.variants) text with
      | .error p => .error p
      | .ok (kind, rest) => .ok ({ g with kind := some kind }, rest)
  else
    match Json.readMember (readBuffered (nestingLimit - 1)) text with
    | .error p => .error p
    | .ok (v, rest) => .ok ({ g with others := (key, v) :: g.others }, rest)

/-- The kind and the rest of a source, from an object whose opening brace has been read. -/
def readObject : Reader (SourceKind × Value) := fun text =>
  match readMembers readMember ⟨none, []⟩ text with
  | .error p => .error p
  | .ok (g, rest) =>
    match g.kind with
    | none => .error (.mismatch (.missing "kind"))
    | some kind =>
      match closeObject rest with
      | .error p => .error p
      | .ok rest => .ok ((kind, .object g.others.reverse), rest)

/-- The kind and the rest of a source, from a list whose opening bracket has been read. -/
def readTuple : Reader (SourceKind × Value) := fun text =>
  match nextElement true text with
  | .error p => .error p
  | .ok none => .error (.mismatch (.missing "kind"))
  | .ok (some text) =>
    match readVariantName SourceKind.variants text with
    | .error p => .error p
    | .ok (kind, text) =>
      match readElementsFrom (readBuffered (nestingLimit - 1)) text false [] text with
      | .error p => .error p
      | .ok (items, text) =>
        match closeList text with
        | .error p => .error p
        | .ok rest => .ok ((kind, .array items), rest)

def readParts : Reader (SourceKind × Value) := fun text =>
  match skipGap text with
  | [] => .error (.ended .value)
  | listOpen :: rest => readTuple rest
  | objectOpen :: rest => readObject rest
  | text => .error (refuse expected text)

def read : Reader Source := fun text =>
  match readParts text with
  | .error p => .error p
  | .ok ((kind, v), rest) =>
    match decodeKind kind v with
    | .error p => .error p
    | .ok s => .ok (s, rest)

def form : Form Source := ⟨read, write⟩

end Source

end Scoreline
