/-! The pieces of a text between the occurrences of a mark. -/

set_option autoImplicit false

namespace Timetable.Text

def piecesFrom (mark : Char) (piece : List Char) : List Char → List (List Char)
  | [] => [piece.reverse]
  | c :: rest =>
    if c = mark then piece.reverse :: piecesFrom mark [] rest
    else piecesFrom mark (c :: piece) rest

/-- The pieces between the marks. There is one more of them than there are marks. -/
def pieces (mark : Char) (text : List Char) : List (List Char) :=
  piecesFrom mark [] text

end Timetable.Text
