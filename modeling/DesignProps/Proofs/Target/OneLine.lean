import DesignProps.Proofs.Json.Characters
import DesignProps.Proofs.Target.Stubs

/-!
# Texts of one line

What is filled into a block below its aliases is on one line, whatever the document holds: names are made of letters and
digits, and values are written as literals that escape line feeds.  So the lines of a block are those of its layout, and
below its aliases none of them begins as an alias does.

Main statements: `Json.oneLine_write`, `Generator.oneLine_fieldLine`, `Generator.oneLine_defaultText`,
`Block.declaresNone_intercalate`, `Block.isOther_of_mem_stubLines`, `Block.isOther_of_mem_setupLines`,
`Block.isOther_of_mem_optionsLines`.
-/

set_option autoImplicit false

namespace DesignProps

/-! ## Line feeds -/

def OneLine (s : String) : Prop := '\n' ∉ s.toList

namespace OneLine

instance (s : String) : Decidable (OneLine s) := inferInstanceAs (Decidable (_ ∉ _))

theorem append {a b : String} (first : OneLine a) (later : OneLine b) : OneLine (a ++ b) := by
  simpa [OneLine] using ⟨first, later⟩

theorem intercalate {separator : String} (between : OneLine separator) {parts : List String}
    (each : ∀ part ∈ parts, OneLine part) : OneLine (String.intercalate separator parts) := by
  induction parts with
  | nil => simp [OneLine]
  | cons part rest ih =>
      obtain ⟨first, later⟩ := List.forall_mem_cons.1 each
      cases rest with
      | nil => simpa using first
      | cons next others =>
          rw [String.intercalate_cons_cons]
          exact (first.append between).append (ih later)

theorem of_numeric {s : String} (numeric : Numeric s.toList) : OneLine s :=
  fun inside => absurd (numeric '\n' inside) (by decide)

end OneLine

/-! ## Values -/

namespace Json

theorem oneLine_stringLiteral (s : String) : OneLine (stringLiteral s) := by
  have escaped : ∀ c, '\n' ∉ escape c := by
    intro c
    by_cases own : c = '\n'
    · subst own
      decide
    · exact notMem_escape (by decide) own
  simp [OneLine, stringLiteral, stringChars, escaped]

mutual

theorem oneLine_write : ∀ v : Json, OneLine v.write
  | .null => by rw [write]; decide
  | .bool true => by rw [write]; decide
  | .bool false => by rw [write]; decide
  | .int n => by
      rw [write, intText]
      exact .of_numeric (by rw [String.toList_ofList]; exact numeric_intChars n)
  | .float x => by
      rw [write]
      exact .of_numeric (numeric_floatText x)
  | .str s => by
      rw [write]
      exact oneLine_stringLiteral s
  | .arr items => by
      have comma : OneLine ", " := by decide
      have parts := comma.intercalate (oneLine_writeItems items)
      rw [write]
      exact (OneLine.append (by decide) parts).append (by decide)
  | .obj members => by
      have comma : OneLine ", " := by decide
      have parts := comma.intercalate (oneLine_writeMembers members)
      rw [write]
      exact (OneLine.append (by decide) parts).append (by decide)

theorem oneLine_writeItems : ∀ items : List Json, ∀ s ∈ writeItems items, OneLine s
  | [] => by simp [writeItems]
  | v :: rest => by
      rw [writeItems]
      exact List.forall_mem_cons.2 ⟨oneLine_write v, oneLine_writeItems rest⟩

theorem oneLine_writeMembers : ∀ members : List (String × Json), ∀ s ∈ writeMembers members, OneLine s
  | [] => by simp [writeMembers]
  | (name, v) :: rest => by
      rw [writeMembers]
      refine List.forall_mem_cons.2 ⟨?_, oneLine_writeMembers rest⟩
      exact ((oneLine_stringLiteral name).append (by decide)).append (oneLine_write v)

end

end Json

theorem Primitive.oneLine_literal (v : Primitive) : OneLine v.literal := by
  cases v with
  | null => exact Json.oneLine_stringLiteral _
  | bool b => cases b <;> decide
  | number n => exact .of_numeric n.numeric_text
  | text s => exact Json.oneLine_stringLiteral s

/-! ## Names -/

namespace Naming

theorem oneLine_identifier (key : Key) : OneLine (identifier key) := fun inside =>
  absurd (Block.isNameChar_of_mem_identifier inside) (by decide)

theorem oneLine_displayName (label : String) : OneLine (displayName label) := by
  obtain ⟨c, rest, same, capital, others⟩ := exists_of_mem_one_mul_star (displayName_spelled label)
  rw [OneLine, same]
  intro inside
  rcases List.mem_cons.1 inside with rfl | later
  · exact absurd capital (by decide)
  · exact absurd (others '\n' later) (by decide)

end Naming

/-! ## Parts of declarations -/

namespace Generator

variable {owner : String} (named : OneLine owner) (key : Key) (d : PropertyDefinition)

include named in
theorem oneLine_aliasName : OneLine (aliasName owner key) := named.append (Naming.oneLine_displayName _)

include named in
theorem oneLine_fieldLine (target : Target) : OneLine (fieldLine target owner key d) := by
  have type : OneLine (fieldType target owner key d) := by
    unfold fieldType
    cases d.kind with
    | boolean | number | text =>
        dsimp only
        decide
    | variant => exact oneLine_aliasName named key
    | explicit => exact d.default.oneLine_literal
    | instanceSwap =>
        dsimp only
        cases target <;> decide
    | unknown => exact Json.oneLine_write _
  exact (((Naming.oneLine_identifier key).append (by decide)).append type).append (by decide)

theorem oneLine_defaultText (g : Generator) {value : String} (given : g.defaultText d = some value) : OneLine value := by
  unfold defaultText at given
  split at given
  · cases given
  cases kind : d.kind with
  | boolean | number | explicit =>
      simp only [kind, Option.some.injEq] at given
      rw [← given]
      exact Primitive.oneLine_literal _
  | instanceSwap =>
      simp only [kind] at given
      split at given
      · rw [← Option.some.inj given]
        exact Json.oneLine_stringLiteral _
      · split at given
        · cases given
        · rw [← Option.some.inj given]
          exact (OneLine.append (by decide) (Naming.oneLine_displayName _)).append (by decide)
  | text | variant | unknown =>
      simp only [kind, Option.some.injEq] at given
      rw [← given]
      exact Json.oneLine_stringLiteral _

theorem oneLine_inputLine (g : Generator) : OneLine (g.inputLine key d) := by
  unfold inputLine
  cases given : g.defaultText d with
  | none => exact (Naming.oneLine_identifier key).append (by decide)
  | some value =>
      exact (((Naming.oneLine_identifier key).append (by decide)).append (oneLine_defaultText d g given)).append (by decide)

theorem oneLine_defaultEntry (g : Generator) {line : String} (entry : g.defaultEntry key d = some line) :
    OneLine line := by
  obtain ⟨value, given, rfl⟩ := Option.map_eq_some_iff.1 entry
  exact (((Naming.oneLine_identifier key).append (by decide)).append (oneLine_defaultText d g given)).append (by decide)

include named in
theorem oneLine_optionsType (g : Generator) : OneLine (g.optionsType owner key d) := by
  unfold optionsType
  cases d.kind with
  | variant => exact (OneLine.append (by decide) (oneLine_aliasName named key)).append (by decide)
  | instanceSwap =>
      dsimp only
      split <;> decide
  | explicit =>
      cases d.default with
      | bool _ | number _ =>
          dsimp only [explicitConstructor]
          decide
      | null | text _ =>
          dsimp only [explicitConstructor]
          decide
  | boolean | number | text | unknown =>
      dsimp only
      decide

theorem oneLine_optionsDefault (g : Generator) {value : String} (given : g.optionsDefault d = some value) :
    OneLine value := by
  unfold optionsDefault at given
  cases kind : d.kind with
  | variant =>
      simp only [kind] at given
      split at given
      · cases given
      · rw [← Option.some.inj given]
        exact Json.oneLine_stringLiteral _
  | instanceSwap =>
      simp only [kind] at given
      split at given
      · split at given
        · cases given
        · rw [← Option.some.inj given]
          exact Json.oneLine_stringLiteral _
      · split at given
        · cases given
        · rw [← Option.some.inj given]
          exact Json.oneLine_stringLiteral _
  | explicit =>
      simp only [kind, Option.some.injEq] at given
      rw [← given]
      exact Primitive.oneLine_literal _
  | boolean | number | text | unknown =>
      simp only [kind] at given
      exact oneLine_defaultText d g given

end Generator

/-! ## Blocks -/

namespace Block

/-- No line of the text begins as the declaration of an alias does. -/
def DeclaresNone (text : String) : Prop := ∀ line ∈ Text.lines text.toList, ¬ "type ".toList <+: line

/-- A single line that does not begin so. -/
def IsOther (line : String) : Prop := OneLine line ∧ line.toList.head? ≠ some 't'

instance (line : String) : Decidable (IsOther line) := inferInstanceAs (Decidable (_ ∧ _))

theorem toList_intercalate (lines : List String) :
    (String.intercalate "\n" lines).toList = Text.unlines (lines.map String.toList) := by
  induction lines with
  | nil => rfl
  | cons line rest ih =>
      cases rest with
      | nil => simp [Text.unlines, Text.joinWith]
      | cons next later =>
          rw [String.intercalate_cons_cons, String.toList_append, ih]
          simp [Text.unlines, Text.joinWith]

theorem declaresNone_intercalate {lines : List String} (some : lines ≠ []) (each : ∀ line ∈ lines, IsOther line) :
    DeclaresNone (String.intercalate "\n" lines) := by
  have found : Text.lines (String.intercalate "\n" lines).toList = lines.map String.toList := by
    rw [toList_intercalate]
    refine Text.splitOn_joinWith (by simpa using some) fun piece inside => ?_
    obtain ⟨line, listed, rfl⟩ := List.mem_map.1 inside
    exact (each line listed).1
  intro line inside begins
  rw [found] at inside
  obtain ⟨line, listed, rfl⟩ := List.mem_map.1 inside
  obtain ⟨rest, parts⟩ := begins
  refine (each line listed).2 ?_
  rw [← parts]
  rfl

/-- A comment declares nothing, whatever stands in its line. -/
theorem declaresNone_comment {text : String} (single : OneLine text) : DeclaresNone (comment text) := by
  have lines : comment text = String.intercalate "\n" ["/**", " * " ++ text, " */", "", ""] := by
    rw [← String.toList_inj]
    simp [comment]
  have noted : IsOther (" * " ++ text) := ⟨OneLine.append (by decide) single, by simp⟩
  rw [lines]
  refine declaresNone_intercalate (List.cons_ne_nil _ _) ?_
  simp only [List.forall_mem_cons, List.not_mem_nil, false_implies, implies_true, and_true]
  exact ⟨by decide, noted, by decide⟩

theorem isOther_interfaceLine {name : String} (named : OneLine name) {fields : List String}
    (single : ∀ line ∈ fields, OneLine line) : IsOther (interfaceLine name fields) := by
  have opening : OneLine ("interface " ++ name ++ "Props \x7b ") := (OneLine.append (by decide) named).append (by decide)
  exact ⟨(opening.append (.intercalate (by decide) single)).append (by decide), by simp [interfaceLine]⟩

theorem isOther_indented {line : String} (single : OneLine line) : IsOther ("  " ++ line) :=
  ⟨OneLine.append (by decide) single, by simp⟩

section Lines
variable {name : String} (named : OneLine name)
include named

theorem isOther_of_mem_stubLines {fields inputs : List String} (first : ∀ line ∈ fields, OneLine line)
    (second : ∀ line ∈ inputs, OneLine line) : ∀ line ∈ stubLines name fields inputs, IsOther line := by
  have call : IsOther ("const " ++ name ++ ": FC<" ++ name ++ "Props> = (\x7b") :=
    ⟨(((OneLine.append (by decide) named).append (by decide)).append named).append (by decide), by simp⟩
  have indented : ∀ line ∈ inputs, IsOther ("  " ++ line) := fun line inside => isOther_indented (second line inside)
  simp only [stubLines, List.forall_mem_append, List.forall_mem_cons, List.forall_mem_map, List.not_mem_nil, false_implies,
    implies_true, and_true]
  exact ⟨⟨⟨isOther_interfaceLine named first, by decide, call⟩, indented⟩, by decide⟩

theorem isOther_of_mem_setupLines {fields defaults : List String} (first : ∀ line ∈ fields, OneLine line)
    (second : ∀ line ∈ defaults, OneLine line) : ∀ line ∈ setupLines name fields defaults, IsOther line := by
  have call : IsOther ("const props = withDefaults(defineProps<" ++ name ++ "Props>(), \x7b") :=
    ⟨(OneLine.append (by decide) named).append (by decide), by simp⟩
  have indented : ∀ line ∈ defaults, IsOther ("  " ++ line) := fun line inside => isOther_indented (second line inside)
  simp only [setupLines, List.forall_mem_append, List.forall_mem_cons, List.forall_mem_map, List.not_mem_nil, false_implies,
    implies_true, and_true]
  exact ⟨⟨⟨isOther_interfaceLine named first, by decide, call⟩, indented⟩, by decide⟩

end Lines

theorem isOther_of_mem_propLines {name type : String} {default : Option String} (named : OneLine name)
    (typed : OneLine type) (given : ∀ value, default = some value → OneLine value) :
    ∀ line ∈ propLines ⟨name, type, default⟩, IsOther line := by
  have first : IsOther ("    " ++ name ++ ": \x7b") := ⟨(OneLine.append (by decide) named).append (by decide), by simp⟩
  have second : IsOther ("      type: " ++ type ++ ",") :=
    ⟨(OneLine.append (by decide) typed).append (by decide), by simp⟩
  have third : ∀ value, default = some value → IsOther ("      default: " ++ value ++ ",") := fun value same =>
    ⟨(OneLine.append (by decide) (given value same)).append (by decide), by simp⟩
  simp only [propLines, List.forall_mem_append, List.forall_mem_cons, List.forall_mem_map, Option.mem_toList,
    List.not_mem_nil, false_implies, implies_true, and_true]
  exact ⟨⟨⟨first, second⟩, third⟩, by decide⟩

theorem isOther_of_mem_optionsLines (name : String) {props : List OptionsProp}
    (each : ∀ p ∈ props, ∀ line ∈ propLines p, IsOther line) :
    ∀ line ∈ optionsLines name props, IsOther line := by
  have literal : IsOther ("  name: " ++ Json.stringLiteral name ++ ",") :=
    ⟨(OneLine.append (by decide) (Json.oneLine_stringLiteral name)).append (by decide), by simp⟩
  simp only [optionsLines, List.forall_mem_append, List.forall_mem_cons, List.forall_mem_flatMap, List.not_mem_nil,
    false_implies, implies_true, and_true]
  exact ⟨⟨⟨⟨by decide, literal, by decide⟩, each⟩, by decide⟩, by decide⟩

end Block

end DesignProps
