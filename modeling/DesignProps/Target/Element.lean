import DesignProps.Target.Indent

/-!
# Elements

An element has a tag, written attributes and written children.  Without children it closes itself; one child on a
single line stands between the tags, and any others are indented on lines of their own.

Main statements: `render_of_no_children`, `render_inline_width` (an element on one line has no use for a width).
-/

set_option autoImplicit false

namespace DesignProps

structure Element where
  tag : String
  attributes : List String
  children : List String
  deriving DecidableEq, Repr

namespace Element

def opening (e : Element) : String := String.intercalate " " (e.tag :: e.attributes)

def isOneLine (text : String) : Bool := !text.toList.contains '\n'

/-- Whether an element is written without lines for its children. -/
def isInline (e : Element) : Bool :=
  match e.children with
  | [] => true
  | [child] => isOneLine child
  | _ => false

def render (width : Nat) (e : Element) : String :=
  match e.children with
  | [] => "<" ++ e.opening ++ " />"
  | child :: others =>
      if e.isInline then "<" ++ e.opening ++ ">" ++ child ++ "</" ++ e.tag ++ ">"
      else
        "<" ++ e.opening ++ ">\n"
          ++ String.intercalate "\n" ((child :: others).map (Indent.indent width))
          ++ "\n</" ++ e.tag ++ ">"

theorem render_of_no_children (width : Nat) (tag : String) (attributes : List String) :
    render width ⟨tag, attributes, []⟩ = "<" ++ opening ⟨tag, attributes, []⟩ ++ " />" := rfl

theorem render_inline_width (e : Element) (inline : e.isInline = true) (v w : Nat) : e.render v = e.render w := by
  unfold render
  split
  · rfl
  · simp only [inline, if_true]

end Element

end DesignProps
