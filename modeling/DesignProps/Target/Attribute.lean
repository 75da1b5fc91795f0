import DesignProps.Property.Basic
import DesignProps.Target.Basic

/-!
# Attributes

What a property value puts into an element's opening tag, before it is written: a bare name, a quoted text, or a value
that the target evaluates.  A boolean that is false is left out unless booleans are spelled out.

Main statements: `escape_no_quote` (an escaped text holds no double quote), `of_undefined`.
-/

set_option autoImplicit false

namespace DesignProps

inductive Attribute
  /-- The name alone. -/
  | bare
  /-- `name="text"` -/
  | quoted (text : String)
  /-- `name={code}` -/
  | braced (code : String)
  /-- `:name="code"` -/
  | bound (code : String)
  /-- `:name='code'` -/
  | boundData (code : String)
  deriving DecidableEq, Repr

namespace Attribute

def write (name : String) : Attribute → String
  | .bare => name
  | .quoted text => name ++ "=\"" ++ text ++ "\""
  | .braced code => name ++ "=\x7b" ++ code ++ "\x7d"
  | .bound code => ":" ++ name ++ "=\"" ++ code ++ "\""
  | .boundData code => ":" ++ name ++ "='" ++ code ++ "'"

/-- Replaces one character by a text. -/
def replaceChar (c : Char) (text : List Char) (s : String) : String :=
  String.ofList (s.toList.flatMap fun d => if d = c then text else [d])

/-- Double quotes as character references. -/
def escape (s : String) : String := replaceChar '"' "&quot;".toList s

/-- Single quotes as character references. -/
def escapeSingle (s : String) : String := replaceChar '\'' "&#39;".toList s

/-- A value between quotes: booleans and numbers as literals, anything else as it is. -/
def valueText : Primitive → String
  | .bool b => (Primitive.bool b).literal
  | .number n => n.text
  | v => v.asText

/-- `<Name />` -/
def selfClosing (name : String) : String := "<" ++ name ++ " />"

/-- A text wrapped in an element. -/
def wrapped (tag text : String) : String := "<" ++ tag ++ ">" ++ text ++ "</" ++ tag ++ ">"

/-- A quoted text; one with a double quote becomes an expression. -/
def quotedOrBraced (v : Primitive) : Attribute :=
  let text := valueText v
  if text.toList.contains '"' then .braced (Json.stringLiteral text) else .quoted text

def ofBoolean (spelledOut : Primitive → Attribute) (explicit : Bool) (v : Primitive) : Option Attribute :=
  if explicit then some (spelledOut v) else if v.truthy then some .bare else none

/-- The attribute of a React element; `slotTag` wraps a text that is one slot of several. -/
def react (g : Generator) (explicit : Bool) (slotTag : Option String) (p : PropertyValue) : Option Attribute :=
  match p.kind with
  | .boolean => ofBoolean (fun v => .braced v.literal) explicit p.value
  | .number => some (.braced p.value.literal)
  | .instanceSwap =>
      match g.resolvedName p.value.asText with
      | some name => some (.braced (selfClosing name))
      | none => some (quotedOrBraced p.value)
  | .text =>
      match slotTag with
      | some tag => some (.braced (wrapped tag p.value.asText))
      | none => some (quotedOrBraced p.value)
  | .unknown => some (.braced p.toJson.write)
  | _ => some (quotedOrBraced p.value)

/-- The attribute in a Vue template; what is no text is bound. -/
def vue (g : Generator) (explicit : Bool) (p : PropertyValue) : Option Attribute :=
  match p.kind with
  | .boolean => ofBoolean (fun v => .bound v.literal) explicit p.value
  | .number => some (.bound p.value.literal)
  | .instanceSwap =>
      match g.resolvedName p.value.asText with
      | some name => some (.bound name)
      | none => some (.quoted (escape (valueText p.value)))
  | .unknown => some (.boundData (escapeSingle p.toJson.write))
  | _ => some (.quoted (escape (valueText p.value)))

/-- The attribute of a property value, if it has one; an undefined value has none. -/
def of (g : Generator) (explicit : Bool) (slotTag : Option String) (p : PropertyValue) : Option Attribute :=
  if p.undefined then none
  else
    match g.target with
    | .react => react g explicit slotTag p
    | .vue => vue g explicit p

theorem of_undefined (g : Generator) (explicit : Bool) (slotTag : Option String) (p : PropertyValue)
    (h : p.undefined = true) : of g explicit slotTag p = none := by
  simp [of, h]

/-- A character that is replaced by a text without it is gone. -/
theorem replaceChar_notMem {c : Char} {text : List Char} (other : c ∉ text) (s : String) :
    c ∉ (replaceChar c text s).toList := by
  simp only [replaceChar, String.toList_ofList, List.mem_flatMap, not_exists, not_and]
  intro d _
  split
  · exact other
  · next h => simpa using Ne.symm h

theorem escape_no_quote (s : String) : '"' ∉ (escape s).toList := replaceChar_notMem (by decide) s

end Attribute

end DesignProps
