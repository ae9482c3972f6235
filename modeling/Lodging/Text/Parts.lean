/-!
# Parts of a text

A text is cut at every mark of a kind. There is always one part more than there are marks.
-/

namespace Lodging.Text

/-- The parts of a text between the marks. -/
def partsAt (mark : Char) : List Char → List (List Char)
  | [] => [[]]
  | c :: rest =>
    if c = mark then [] :: partsAt mark rest
    else match partsAt mark rest with
      | part :: parts => (c :: part) :: parts
      | [] => [[c]]

end Lodging.Text
