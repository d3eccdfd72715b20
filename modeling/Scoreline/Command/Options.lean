import Scoreline.Decimal.Integer
import Scoreline.Source

/-!
# Scoreline.Command.Options

The command line: a subcommand and options. An option takes its value from behind an equals sign or
from the next argument, which then may not look like an option. No option stands twice. The general
options may stand before the subcommand or after it, where they count for more.

`parse` gives what is asked for, or says that help is wanted or that the line is none.
-/

namespace Scoreline
namespace Command

/-! ## What can be asked for -/

/-- The progressions asked for. -/
structure Selection where
  scoreboard : Option (Id .scoreboard)
  group : Option (Id .group)
  team : Bool
  category : Option String
  limit : Option UInt32
  deriving DecidableEq

/-- The options that every subcommand takes. -/
structure General where
  config : Option String
  points : Option UInt64
  now : Option Int64
  deriving DecidableEq

inductive Task where
  | points (input : String) (selection : Selection)
  | chart (input : String) (selection : Selection)
  | fetch (server : String) (cookie : Option String) (timeout : Option UInt64)
      (selection : Selection)
  deriving DecidableEq

structure Invocation where
  general : General
  task : Task
  deriving DecidableEq

/-- What a command line asks for. -/
inductive Request where
  | run (i : Invocation)
  | help
  | usage
  deriving DecidableEq

/-- The source that a selection stands for, or what is wrong with it. -/
def Selection.source (s : Selection) : Except String Source :=
  let limited (source : Source) : Except String Source :=
    match s.limit with
    | none => .ok source
    | some n =>
      match source.withLimit n with
      | none => .error Source.limitOnTeamMessage
      | some source => .ok source
  if s.category.isSome && !s.team then .error "--category only applies to --team"
  else
    match s.scoreboard, s.group, s.team with
    | some id, none, false => limited (.scoreboard id)
    | none, some id, false => limited (.group id)
    | none, none, true => limited (.team s.category)
    | _, _, _ => .error "Pass exactly one of --scoreboard, --group or --team"

/-! ## Reading the arguments -/

inductive Subcommand where
  | points
  | chart
  | fetch
  deriving DecidableEq, Repr

def Subcommand.ofName? : String → Option Subcommand
  | "points" => some .points
  | "chart" => some .chart
  | "fetch" => some .fetch
  | _ => none

/-- The options that take a value. -/
inductive Opt where
  | config
  | points
  | now
  | input
  | server
  | cookie
  | timeout
  | scoreboard
  | group
  | category
  | limit
  deriving DecidableEq, Repr

def Opt.ofName? : String → Option Opt
  | "config" => some .config
  | "points" => some .points
  | "now" => some .now
  | "input" => some .input
  | "server" => some .server
  | "cookie" => some .cookie
  | "timeout" => some .timeout
  | "scoreboard" => some .scoreboard
  | "group" => some .group
  | "category" => some .category
  | "limit" => some .limit
  | _ => none

/-- Whether an option may stand after a subcommand, or before any. -/
def Opt.allowed : Opt → Option Subcommand → Bool
  | .config, _ | .points, _ | .now, _ => true
  | .scoreboard, some _ | .group, some _ | .category, some _ | .limit, some _ => true
  | .input, some .points | .input, some .chart => true
  | .server, some .fetch | .cookie, some .fetch | .timeout, some .fetch => true
  | _, _ => false

/-- The options met so far. -/
structure Gathered where
  config : Option String := none
  points : Option UInt64 := none
  now : Option Int64 := none
  input : Option String := none
  server : Option String := none
  cookie : Option String := none
  timeout : Option UInt64 := none
  scoreboard : Option (Id .scoreboard) := none
  group : Option (Id .group) := none
  team : Bool := false
  category : Option String := none
  limit : Option UInt32 := none
  deriving DecidableEq

namespace Gathered

/-- A value for an option that has none yet. -/
def fresh {α : Type} (old : Option α) (new : Option α) : Option (Option α) :=
  match old, new with
  | none, some a => some (some a)
  | _, _ => none

/-- A path names something. -/
def path? (s : String) : Option String := if s.isEmpty then none else some s

def word64? (s : String) : Option UInt64 :=
  match Decimal.unsigned? s with
  | some n => if n < UInt64.size then some (UInt64.ofNat n) else none
  | none => none

def word32? (s : String) : Option UInt32 :=
  match Decimal.signed? s with
  | some n => if 0 ≤ n ∧ n < UInt32.size then some (UInt32.ofNat n.toNat) else none
  | none => none

def int64? (s : String) : Option Int64 :=
  match Decimal.signed? s with
  | some n =>
    if Int64.minValue.toInt ≤ n ∧ n ≤ Int64.maxValue.toInt then some (Int64.ofInt n) else none
  | none => none

/-- Takes the value of an option, if it fits and is the first. -/
def set (g : Gathered) (o : Opt) (value : String) : Option Gathered :=
  match o with
  | .config => (fresh g.config (path? value)).map fun v => { g with config := v }
  | .points => (fresh g.points (word64? value)).map fun v => { g with points := v }
  | .now => (fresh g.now (int64? value)).map fun v => { g with now := v }
  | .input => (fresh g.input (path? value)).map fun v => { g with input := v }
  | .server => (fresh g.server (some value)).map fun v => { g with server := v }
  | .cookie => (fresh g.cookie (some value)).map fun v => { g with cookie := v }
  | .timeout => (fresh g.timeout (word64? value)).map fun v => { g with timeout := v }
  | .scoreboard =>
    (fresh g.scoreboard (Id.make .scoreboard value)).map fun v => { g with scoreboard := v }
  | .group => (fresh g.group (Id.make .group value)).map fun v => { g with group := v }
  | .category => (fresh g.category (some value)).map fun v => { g with category := v }
  | .limit => (fresh g.limit (word32? value)).map fun v => { g with limit := v }

/-- The general options, those after the subcommand (`inner`) before those in front of it. -/
def general (outer inner : Gathered) : General :=
  ⟨inner.config.or outer.config, inner.points.or outer.points, inner.now.or outer.now⟩

/-- The selection, if it names at most one source. -/
def selection? (g : Gathered) : Option Selection :=
  match g.scoreboard, g.group, g.team with
  | some _, some _, _ | some _, _, true | _, some _, true => none
  | _, _, _ => some ⟨g.scoreboard, g.group, g.team, g.category, g.limit⟩

/-- The task of a subcommand, if it has what it needs. -/
def task? (g : Gathered) (c : Subcommand) : Option Task :=
  match g.selection? with
  | none => none
  | some s =>
    match c with
    | .points => g.input.map fun input => .points input s
    | .chart => g.input.map fun input => .chart input s
    | .fetch => g.server.map fun server => .fetch server g.cookie g.timeout s

end Gathered

/-- An argument by its looks: an option with its name and the value behind an equals sign, letters
behind a single dash, the mark that ends the options, or a plain word. -/
inductive Argument where
  | option (name : String) (value : Option String)
  | letters (cs : List Char)
  | stop
  | plain (s : String)
  deriving DecidableEq, Repr

def Argument.ofString (s : String) : Argument :=
  match s.toList with
  | '-' :: '-' :: [] => .stop
  | '-' :: '-' :: cs =>
    match cs.dropWhile (· != '=') with
    | _ :: value => .option (String.ofList (cs.takeWhile (· != '='))) (some (String.ofList value))
    | [] => .option (String.ofList cs) none
  | '-' :: c :: cs => .letters (c :: cs)
  | _ => .plain s

/-- Where the reading of arguments stops. -/
inductive Stop where
  | atEnd (g : Gathered)
  | atWord (g : Gathered) (word : String) (rest : List String)
  | help
  | usage

/-- Reads options after a subcommand or before any, up to the first plain word. -/
def gather (c : Option Subcommand) : Gathered → List String → Stop
  | g, [] => .atEnd g
  | g, arg :: rest =>
    match Argument.ofString arg with
    | .stop => if rest.isEmpty then .atEnd g else .usage
    | .letters cs => if cs.head? = some 'h' then .help else .usage
    | .plain word => .atWord g word rest
    | .option "help" none => .help
    | .option "team" none =>
      if c.isSome && !g.team then gather c { g with team := true } rest else .usage
    | .option name value =>
      match Opt.ofName? name with
      | none => .usage
      | some o =>
        if o.allowed c then
          match value, rest with
          | some v, rest =>
            match g.set o v with
            | none => .usage
            | some g => gather c g rest
          | none, [] => .usage
          | none, next :: rest =>
            match Argument.ofString next with
            | .plain v =>
              match g.set o v with
              | none => .usage
              | some g => gather c g rest
            | _ => .usage
        else .usage

/-- Help about subcommands, which must exist. -/
def helpAbout : List String → Request
  | [] => .help
  | ["help"] => .help
  | [name] => if (Subcommand.ofName? name).isSome then .help else .usage
  | _ => .usage

/-- What the arguments ask for. -/
def parse (args : List String) : Request :=
  match gather none {} args with
  | .help => .help
  | .usage | .atEnd _ => .usage
  | .atWord outer word rest =>
    match Subcommand.ofName? word with
    | none => if word = "help" then helpAbout rest else .usage
    | some c =>
      match gather (some c) {} rest with
      | .help => .help
      | .usage | .atWord _ _ _ => .usage
      | .atEnd inner =>
        match inner.task? c with
        | none => .usage
        | some task => .run ⟨Gathered.general outer inner, task⟩

end Command
end Scoreline
