import DesignProps.Highlight.Page

/-!
# Code

Code is cut into pieces as its language asks for; in a language that is not known it is a single piece.

Main statement: `flatten_pieces` (the pieces are the code).
-/

set_option autoImplicit false

namespace DesignProps.Highlight.Code

def pieces (language : String) (cs : List Char) : List (List Char) :=
  match language with
  | "jsx" => Script.pieces .elements cs
  | "tsx" => Script.pieces .typed cs
  | "vue" => Page.pieces cs
  | _ => [cs]

theorem flatten_pieces (language : String) (cs : List Char) : (pieces language cs).flatten = cs := by
  unfold pieces
  split
  · exact Script.flatten_pieces .elements cs
  · exact Script.flatten_pieces .typed cs
  · exact Page.flatten_pieces cs
  · simp

end DesignProps.Highlight.Code
