import Scoreline.Json.Form
import Scoreline.Text.Alignment
import Scoreline.Text.Blank

/-!
# Scoreline.Id

Names by which a platform knows its scoreboards and its groups. A name is any text with something in
it that is not blank; blanks around it do not belong to it, and what is inside is kept as it is.

`Id.make` is the only way to a name, so a name is never empty and never begins or ends with a blank.
Names of scoreboards and names of groups are different types.
-/

namespace Scoreline

/-- What a ranking ranks the teams of. -/
inductive RankingKind where
  | scoreboard
  | group
  deriving DecidableEq, Repr

namespace RankingKind

def name : RankingKind → String
  | .scoreboard => "scoreboard"
  | .group => "group"

/-- The collection that holds the rankings of this kind. -/
def collection : RankingKind → String
  | .scoreboard => "scoreboards"
  | .group => "groups"

/-- The kinds by their names. -/
def variants : Json.Variants RankingKind := [(name .scoreboard, .scoreboard), (name .group, .group)]

theorem find_name (k : RankingKind) : variants.find k.name = .ok k := by
  cases k <;> rfl

end RankingKind

/-- The name of a scoreboard or of a group. -/
structure Id (k : RankingKind) where
  text : String
  trimmed : Text.trim text = text
  nonempty : text ≠ ""
  deriving DecidableEq

namespace Id

variable {k : RankingKind}

/-- The name in `s`, or nothing when `s` is blank throughout. -/
def make (k : RankingKind) (s : String) : Option (Id k) :=
  if h : Text.trim s = "" then none else some ⟨Text.trim s, Text.trim_trim s, h⟩

/-- What is said of a blank name. -/
def emptyMessage (k : RankingKind) : String := k.name ++ " id must not be empty"

def checked (k : RankingKind) (s : String) : Except String (Id k) :=
  match make k s with
  | none => .error (emptyMessage k)
  | some id => .ok id

/-- A name as it is shown: its text, cut and filled up as asked. -/
def shown (f : Text.Format) (id : Id k) : String := f.apply id.text

def form (k : RankingKind) : Json.Form (Id k) := .checked .string (checked k) Id.text

end Id

end Scoreline
