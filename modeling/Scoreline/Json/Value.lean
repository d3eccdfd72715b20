import Scoreline.Decimal.Shortest
import Scoreline.Text.Quoted

/-!
# Scoreline.Json.Value

JSON values. The members of an object keep their order, and a name may stand more than once: a value
is what a text says, before anything is made of it.
-/

namespace Scoreline
namespace Json

inductive Number where
  | integer (n : Int)
  | real (format : Decimal.Format) (x : Decimal.Binary)
  deriving DecidableEq, Repr

inductive Value where
  | null
  | boolean (b : Bool)
  | number (n : Number)
  | string (s : String)
  | array (items : List Value)
  | object (members : List (String × Value))
  deriving Repr

/-- How a message names a value that it did not expect. -/
inductive Found where
  | null
  | boolean (b : Bool)
  | number (n : Number)
  | string (s : String)
  | sequence
  | map
  deriving DecidableEq, Repr

def Value.found : Value → Found
  | .null => .null
  | .boolean b => .boolean b
  | .number n => .number n
  | .string s => .string s
  | .array _ => .sequence
  | .object _ => .map

def Found.message : Found → String
  | .null => "null"
  | .boolean b => "boolean `" ++ (if b then "true" else "false") ++ "`"
  | .number (.integer n) => "integer `" ++ toString n ++ "`"
  | .number (.real f x) => "floating point `" ++ x.text f ++ "`"
  | .string s => "string " ++ Text.quote s
  | .sequence => "sequence"
  | .map => "map"

end Json
end Scoreline
