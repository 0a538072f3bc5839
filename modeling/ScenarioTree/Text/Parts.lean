/-!
# Parts of a text

A text is taken apart at the places where a mark stands.
-/

namespace ScenarioTree.Text

variable {α : Type} [DecidableEq α]

/-- The parts of a list between the places where a mark stands. -/
def partsAt (mark : α) : List α → List (List α)
  | [] => [[]]
  | c :: rest =>
    match partsAt mark rest with
    | [] => [[c]]
    | part :: parts => if c = mark then [] :: part :: parts else (c :: part) :: parts

/-- What is before and behind the last mark. -/
def cutAtLast? (mark : α) : List α → Option (List α × List α)
  | [] => none
  | c :: rest =>
    match cutAtLast? mark rest with
    | some (before, behind) => some (c :: before, behind)
    | none => if c = mark then some ([], rest) else none

/-- What is before and behind the first mark. -/
def cutAt? (mark : α) : List α → Option (List α × List α)
  | [] => none
  | c :: rest =>
    if c = mark then some ([], rest)
    else (cutAt? mark rest).map fun (before, behind) => (c :: before, behind)

end ScenarioTree.Text
