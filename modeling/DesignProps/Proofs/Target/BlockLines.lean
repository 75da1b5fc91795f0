import DesignProps.Target.Block

/-!
# The lines of a block

Below its aliases a block is a list of lines with line feeds between them.  Interfaces and props are filled into these
lines; parameters and defaults are lines of their own.

Main statements: `StubBlock.write_eq`, `SetupBlock.write_eq`, `OptionsBlock.write_eq`.
-/

set_option autoImplicit false

namespace DesignProps

namespace Block

/-! ## Lines -/

/-- The line of an interface with all its fields. -/
def interfaceLine (name : String) (fields : List String) : String :=
  "interface " ++ name ++ "Props \x7b " ++ String.intercalate " " fields ++ " \x7d"

/-- The lines of a stub component: one for its interface, and one for each parameter. -/
def stubLines (name : String) (fields inputs : List String) : List String :=
  [interfaceLine name fields, "", "const " ++ name ++ ": FC<" ++ name ++ "Props> = (\x7b"]
    ++ inputs.map (fun line => "  " ++ line) ++ ["\x7d) => (<></>)"]

/-- The lines of a setup call: one for its interface, and one for each default. -/
def setupLines (name : String) (fields defaults : List String) : List String :=
  [interfaceLine name fields, "", "const props = withDefaults(defineProps<" ++ name ++ "Props>(), \x7b"]
    ++ defaults.map (fun line => "  " ++ line) ++ ["\x7d)"]

/-- The lines of a prop: its name, its type and its default, if it has one. -/
def propLines (p : OptionsProp) : List String :=
  ["    " ++ p.name ++ ": \x7b", "      type: " ++ p.type ++ ","]
    ++ p.default.toList.map (fun value => "      default: " ++ value ++ ",") ++ ["    \x7d,"]

/-- The lines of an options call: those of its props between its first and its last ones. -/
def optionsLines (name : String) (props : List OptionsProp) : List String :=
  ["defineComponent(\x7b", "  name: " ++ Json.stringLiteral name ++ ",", "  props: \x7b"] ++ props.flatMap propLines
    ++ ["  \x7d,"] ++ ["\x7d)"]

/-- A text whose last lines are these. -/
def EndsInLines (text : String) (lines : List String) : Prop := ∃ above, text = above ++ String.intercalate "\n" lines

/-! ## Written blocks -/

/-- Of lines with line feeds between them, all but the last one end in one. -/
theorem intercalate_concat (lines : List String) (last : String) :
    String.intercalate "\n" (lines ++ [last]) = String.join (lines.map fun line => line ++ "\n") ++ last := by
  induction lines with
  | nil => simp
  | cons line rest ih =>
      have some : rest ++ [last] ≠ [] := by simp
      rw [List.cons_append, String.intercalate_cons_of_ne_nil some, ih, List.map_cons, String.join_cons]
      ac_rfl

theorem indentedLines_eq (lines : List String) :
    indentedLines lines = String.join ((lines.map fun line => "  " ++ line).map fun line => line ++ "\n") := by
  rw [indentedLines, List.map_map]
  rfl

theorem interface_eq (name : String) (fields : List String) :
    interface (name ++ "Props") fields = interfaceLine name fields ++ "\n" ++ ("" ++ "\n") := by
  rw [← String.toList_inj]
  unfold interface interfaceLine
  simp

end Block

open Block

theorem StubBlock.write_eq (b : StubBlock) {name : String} (named : b.componentName = name)
    (typed : b.interfaceName = name ++ "Props") :
    b.write = header b.addComments (name ++ " Component") b.aliases ++
      String.intercalate "\n" (stubLines name b.fields b.inputs) := by
  have call : "const " ++ name ++ ": FC<" ++ name ++ "Props> = (\x7b" ++ "\n" =
      "const " ++ name ++ ": FC<" ++ (name ++ "Props") ++ "> = (\x7b\n" := by
    rw [← String.toList_inj]
    simp
  rw [stubLines, intercalate_concat, List.map_append, String.join_append, ← indentedLines_eq]
  simp only [List.map_cons, List.map_nil, String.join_cons, String.join_nil, String.append_empty]
  rw [StubBlock.write, named, typed, interface_eq, call]
  ac_rfl

theorem SetupBlock.write_eq (b : SetupBlock) {name : String} (named : b.componentName = name)
    (typed : b.interfaceName = name ++ "Props") :
    b.write = header b.addComments (name ++ ".vue setup") b.aliases ++
      String.intercalate "\n" (setupLines name b.fields b.defaults) := by
  have call : "const props = withDefaults(defineProps<" ++ name ++ "Props>(), \x7b" ++ "\n" =
      "const props = withDefaults(defineProps<" ++ (name ++ "Props") ++ ">(), \x7b\n" := by
    rw [← String.toList_inj]
    simp
  rw [setupLines, intercalate_concat, List.map_append, String.join_append, ← indentedLines_eq]
  simp only [List.map_cons, List.map_nil, String.join_cons, String.join_nil, String.append_empty]
  rw [SetupBlock.write, named, typed, interface_eq, call]
  ac_rfl

theorem OptionsProp.write_eq (p : OptionsProp) :
    p.write = String.join ((propLines p).map fun line => line ++ "\n") := by
  rw [← String.toList_inj]
  unfold OptionsProp.write propLines
  cases p.default <;> simp

theorem OptionsProp.join_write (props : List OptionsProp) : String.join (props.map OptionsProp.write) =
    String.join ((props.flatMap propLines).map fun line => line ++ "\n") := by
  induction props with
  | nil => rfl
  | cons p rest ih =>
      rw [List.map_cons, List.flatMap_cons, List.map_append, String.join_cons, String.join_append, ih, write_eq]

theorem OptionsBlock.write_eq (b : OptionsBlock) {name : String} (named : b.componentName = name)
    (literal : b.nameLiteral = Json.stringLiteral name) :
    b.write = header b.addComments (name ++ " Component") b.aliases ++
      String.intercalate "\n" (optionsLines name b.props) := by
  have opening : "defineComponent(\x7b" ++ "\n" ++ ("  name: " ++ Json.stringLiteral name ++ "," ++ "\n" ++
      ("  props: \x7b" ++ "\n")) = "defineComponent(\x7b\n  name: " ++ Json.stringLiteral name ++ ",\n  props: \x7b\n" := by
    rw [← String.toList_inj]
    simp
  have closing : "  \x7d,\n\x7d)" = "  \x7d," ++ "\n" ++ "\x7d)" := rfl
  rw [optionsLines, intercalate_concat, List.map_append, List.map_append, String.join_append, String.join_append,
    ← OptionsProp.join_write]
  simp only [List.map_cons, List.map_nil, String.join_cons, String.join_nil, String.append_empty]
  rw [OptionsBlock.write, named, literal, opening, closing]
  ac_rfl

end DesignProps
