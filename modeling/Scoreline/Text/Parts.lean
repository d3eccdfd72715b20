/-!
# Scoreline.Text.Parts

The parts of a text between marks in it. A text without a mark has one part, and nothing but the
marks is lost.
-/

namespace Scoreline
namespace Text

/-- The parts between the characters that `separates` marks; at least one part. -/
def splitBy (separates : Char → Bool) : List Char → List (List Char)
  | [] => [[]]
  | c :: cs =>
    match splitBy separates cs with
    | [] => [[c]]
    | part :: parts => if separates c then [] :: part :: parts else (c :: part) :: parts

/-- What stands before the first `mark`, and what stands after it. -/
def cut (mark : Char) (s : List Char) : List Char × List Char :=
  (s.takeWhile (· != mark), (s.dropWhile (· != mark)).drop 1)

end Text
end Scoreline
