import DesignProps.Proofs.Naming.Rewritten
import DesignProps.Proofs.OrderedMap
import DesignProps.Proofs.Target.OneLine

/-!
# Aliases of union types

A variant's type is an alias for the union of its options.  The alias is called after its owner and the identifier of
the variant, so variants with different identifiers have different aliases and none of them takes the place of another
one.

Main statements: `Generator.aliasName_eq`, `Generator.unionName_eq_iff`, `Generator.aliases_of_distinct`,
`Generator.unions_declared`.
-/

set_option autoImplicit false

namespace DesignProps

/-! ## Names of aliases -/

namespace Naming

/-- A name with a capital in front. -/
def capitalized (name : String) : String := String.ofList (capitalize name.toList)

theorem displayName_propertyName (key : Key) : displayName (propertyName key) = capitalized (bareName key) := by
  have spelled := camelSpelling_le (propertyName_spelled key)
  refine String.toList_inj.1 ?_
  rw [toList_displayName_of_spelled spelled, pascal_eq, camel_of_spelled spelled, capitalized, String.toList_ofList,
    toList_bareName]

/-- Names that begin with a small letter are told apart by the rest and by that letter's capital. -/
theorem capitalized_inj {a b : String} (first : a.toList ∈ camelSpelling) (second : b.toList ∈ camelSpelling)
    (same : capitalized a = capitalized b) : a = b := by
  obtain ⟨c, rest, begins, letter, -⟩ := exists_of_mem_one_mul_star first
  obtain ⟨d, more, starts, small, -⟩ := exists_of_mem_one_mul_star second
  rw [capitalized, capitalized, begins, starts] at same
  obtain ⟨capital, rfl⟩ : c.toUpper = d.toUpper ∧ rest = more := by
    simpa [capitalize, ← String.toList_inj] using same
  have lower : c = d := by
    rw [← Char.toLower_eq_of_not_isUpper (Char.not_isUpper_of_isLower letter), ← Char.toLower_toUpper_eq_toLower,
      capital, Char.toLower_toUpper_eq_toLower, Char.toLower_eq_of_not_isUpper (Char.not_isUpper_of_isLower small)]
  rw [← String.toList_inj, begins, starts, lower]

end Naming

namespace Generator

/-- The alias of a variant: its owner, and its identifier without the mark of a reserved word, with a capital. -/
def unionName (owner : String) (key : Key) : String :=
  owner ++ Naming.capitalized (Naming.unmarked (Naming.identifier key))

theorem aliasName_eq (owner : String) (key : Key) : aliasName owner key = unionName owner key := by
  rw [aliasName, Naming.displayName_propertyName, unionName, Naming.unmarked_identifier]

/-- Variants of one owner have one alias only if they have one identifier. -/
theorem unionName_eq_iff (owner : String) (a b : Key) :
    unionName owner a = unionName owner b ↔ Naming.identifier a = Naming.identifier b := by
  constructor
  · intro same
    rw [unionName, unionName, String.append_right_inj, Naming.unmarked_identifier, Naming.unmarked_identifier] at same
    rw [Naming.identifier_eq_iff]
    exact Naming.capitalized_inj (Naming.camelName_spelled _) (Naming.camelName_spelled _) same
  · intro same
    rw [unionName, unionName, same]

/-! ## Variants -/

def isVariant (d : PropertyDefinition) : Bool := d.kind == .variant

/-- The variants that are declared, in order. -/
def variants (ps : Declared) : Declared := ps.filter fun e => isVariant e.2

/-- The variants of a definitions map that are not hidden, in its order. -/
def visibleVariants (definitions : PropertyDefinitions) : Declared :=
  definitions.entries.filter fun e => isVariant e.2 && !e.2.hidden

/-- The union of a variant's options under the name of its alias. -/
def unionAlias (owner : String) (e : Key × PropertyDefinition) : Alias :=
  ⟨unionName owner e.1, unionType (e.2.options.getD [])⟩

theorem shown?_of_mem {definitions : PropertyDefinitions} {e : Key × PropertyDefinition}
    (inside : e ∈ definitions.entries) : shown? definitions e.1 = if e.2.hidden then none else some e := by
  unfold shown?
  rw [definitions.get?_of_mem_entries inside]

/-- What is declared are the entries that are not hidden. -/
theorem declared_perm {definitions : PropertyDefinitions} {ps : Declared} (shown : declared definitions = .ok ps) :
    ps.Perm (definitions.entries.filter fun e => !e.2.hidden) := by
  obtain ⟨keys, done, rfl⟩ := map_eq_ok_iff.1 shown
  have entries : definitions.keys.filterMap (shown? definitions) =
      definitions.entries.filter fun e => !e.2.hidden := by
    rw [OrderedMap.keys, List.filterMap_map, ← List.filterMap_eq_filter]
    refine List.filterMap_congr fun e inside => ?_
    rw [Function.comp_apply, shown?_of_mem inside]
    cases hidden : e.2.hidden <;> simp [Option.guard, hidden]
  rw [← entries]
  exact (sortedKeys_perm done).filterMap _

theorem variants_perm {definitions : PropertyDefinitions} {ps : Declared} (shown : declared definitions = .ok ps) :
    (variants ps).Perm (visibleVariants definitions) := by
  have perm := (declared_perm shown).filter fun e => isVariant e.2
  rwa [List.filter_filter] at perm

/-! ## Aliases -/

theorem filterMap_aliasOf (owner : String) (ps : Declared) :
    (ps.filterMap fun e => aliasOf owner e.1 e.2) = (variants ps).map (unionAlias owner) := by
  unfold variants
  rw [← List.filterMap_eq_filter, List.map_filterMap]
  refine List.filterMap_congr fun e _ => ?_
  by_cases variant : e.2.kind = .variant
  · simp [aliasOf, variant, Option.guard, isVariant, unionAlias, aliasName_eq]
  · simp [aliasOf, variant, Option.guard, isVariant]

/-- Identifiers of declared variants. -/
def variantNames (ps : Declared) : List String := (variants ps).map fun e => Naming.identifier e.1

theorem nodup_unionNames {ps : Declared} (distinct : (variantNames ps).Nodup) (owner : String) :
    (((variants ps).map (unionAlias owner)).map Alias.name).Nodup := by
  rw [List.map_map]
  unfold variantNames List.Nodup at *
  rw [List.pairwise_map] at distinct ⊢
  exact distinct.imp fun apart same => apart ((unionName_eq_iff owner _ _).1 same)

/-- Where variants have different identifiers, every one of them keeps its alias. -/
theorem aliases_of_distinct {ps : Declared} (distinct : (variantNames ps).Nodup) (owner : String) :
    aliases owner ps = (variants ps).map (unionAlias owner) := by
  have names : Assoc.Distinct ((((variants ps).map (unionAlias owner)).map fun a => (a.name, a.value)).map Prod.fst) := by
    rw [Assoc.distinct_iff_nodup, List.map_map]
    exact nodup_unionNames distinct owner
  unfold aliases
  dsimp only
  rw [filterMap_aliasOf, OrderedMap.entries_ofList _ names, List.map_map]
  exact List.map_id _

/-! ## Blocks -/

/-- The declaration of a variant's alias: its name and the union of its options. -/
def declaration (owner : String) (e : Key × PropertyDefinition) : String :=
  "type " ++ unionName owner e.1 ++ " = " ++ unionType (e.2.options.getD []) ++ ";\n"

/-- The aliases of a block are those of its variants, in order.  Its text declares them one after the other, from the
beginning of a line on, and no line before or after them declares an alias if the component's name is on one line. -/
structure ListsUnions (name owner : String) (ps : Declared) (listed : List Alias) (text : String) : Prop where
  complete : listed = (variants ps).map (unionAlias owner)
  distinct : (listed.map Alias.name).Nodup
  written : ∃ front rest, text = front ++ String.join ((variants ps).map (declaration owner)) ++ rest ∧
    (front = "" ∨ ∃ above, front = above ++ "\n") ∧
    (OneLine name → Block.DeclaresNone front ∧ Block.DeclaresNone rest)

/-- The fields of an interface name the aliases of their variants. -/
def FieldsNameUnions (owner : String) (ps : Declared) (fields : List String) : Prop :=
  List.Forall₂ (fun e line => e.2.kind = .variant → line = Naming.identifier e.1 ++ "?: " ++ unionName owner e.1 ++ ";")
    ps fields

/-- The props of an options call name the aliases of their variants. -/
def PropsNameUnions (owner : String) (ps : Declared) (props : List OptionsProp) : Prop :=
  List.Forall₂ (fun e p => e.2.kind = .variant → p.name = Naming.identifier e.1 ∧
    p.type = "String as PropType<" ++ unionName owner e.1 ++ ">") ps props

/-- What the blocks of a definition say about unions: the component stub of one target, and the setup call and the
options call of the other one. -/
structure DeclaresUnions (react vue : Generator) (name : String) (ps : Declared) : Prop where
  stub : ∀ optionsApi, ListsUnions name (interfaceName name) ps (react.stubBlock name ps).aliases
    (react.block optionsApi name ps)
  setup : ListsUnions name (interfaceName name) ps (vue.setupBlock name ps).aliases (vue.block false name ps)
  options : ListsUnions name name ps (vue.optionsBlock name ps).aliases (vue.block true name ps)
  stubFields : FieldsNameUnions (interfaceName name) ps (react.stubBlock name ps).fields
  setupFields : FieldsNameUnions (interfaceName name) ps (vue.setupBlock name ps).fields
  props : PropsNameUnions name ps (vue.optionsBlock name ps).props
  held : HoldsListings react vue name ps

theorem fields_nameUnions (target : Target) (owner : String) (ps : Declared) :
    FieldsNameUnions owner ps (fields target owner ps) := by
  unfold FieldsNameUnions fields
  rw [List.forall₂_map_right_iff, List.forall₂_same]
  intro e _ variant
  dsimp only
  rw [fieldLine, fieldType, variant, aliasName_eq]

theorem props_nameUnions (g : Generator) (owner : String) (ps : Declared) :
    PropsNameUnions owner ps (g.optionsProps owner ps) := by
  unfold PropsNameUnions optionsProps
  rw [List.forall₂_map_right_iff, List.forall₂_same]
  intro e _ variant
  dsimp only
  rw [optionsType, variant, aliasName_eq]
  exact ⟨rfl, rfl⟩

theorem join_aliasLine (owner : String) (es : Declared) :
    String.join ((es.map (unionAlias owner)).map Block.aliasLine) = String.join (es.map (declaration owner)) := by
  rw [List.map_map]
  rfl

/-- A block of a header over lines that declare nothing lists the aliases of its header. -/
theorem listsUnions {name owner title text : String} {ps : Declared} {shown : Bool} {lines : List String}
    (distinct : (variantNames ps).Nodup) (some : lines ≠ [])
    (written : text = Block.header shown title (aliases owner ps) ++ String.intercalate "\n" lines)
    (others : OneLine name → OneLine title ∧ ∀ line ∈ lines, Block.IsOther line) :
    ListsUnions name owner ps (aliases owner ps) text := by
  have same := aliases_of_distinct distinct owner
  refine ⟨same, by rw [same]; exact nodup_unionNames distinct owner, ?_⟩
  rw [same] at written
  refine ⟨if shown then Block.comment title else "",
    (if ((variants ps).map (unionAlias owner)).isEmpty then "" else "\n") ++ String.intercalate "\n" lines,
    ?text, ?front, fun named => ⟨?above, ?below⟩⟩
  case text =>
    rw [written, Block.header, join_aliasLine]
    ac_rfl
  case front =>
    cases shown with
    | false => exact .inl rfl
    | true => exact .inr ⟨"/**\n * " ++ title ++ "\n */\n", by rw [String.append_assoc]; rfl⟩
  case above =>
    cases shown with
    | false => exact fun line inside => by simp_all [Text.lines, Text.splitOn]
    | true => exact Block.declaresNone_comment (others named).1
  case below =>
    split
    · rw [String.empty_append]
      exact Block.declaresNone_intercalate some (others named).2
    · have gap : "\n" ++ String.intercalate "\n" lines = String.intercalate "\n" ("" :: lines) := by
        rw [String.intercalate_cons_of_ne_nil some, String.empty_append]
      rw [gap]
      exact Block.declaresNone_intercalate (List.cons_ne_nil _ _) (List.forall_mem_cons.2 ⟨by decide, (others named).2⟩)

section Lines
variable {name owner : String} (named : OneLine name) (g : Generator) (ps : Declared)

theorem oneLine_of_mem_fields (own : OneLine owner) (target : Target) : ∀ line ∈ fields target owner ps, OneLine line :=
  List.forall_mem_map.2 fun e _ => oneLine_fieldLine own e.1 e.2 target

include named

theorem isOther_of_mem_stub : ∀ line ∈
    Block.stubLines name (g.stubBlock name ps).fields (g.stubBlock name ps).inputs, Block.IsOther line :=
  Block.isOther_of_mem_stubLines named (oneLine_of_mem_fields ps (named.append (by decide)) g.target)
    (List.forall_mem_map.2 fun e _ => oneLine_inputLine e.1 e.2 g)

theorem isOther_of_mem_setup : ∀ line ∈
    Block.setupLines name (g.setupBlock name ps).fields (g.setupBlock name ps).defaults, Block.IsOther line := by
  refine Block.isOther_of_mem_setupLines named (oneLine_of_mem_fields ps (named.append (by decide)) g.target) ?_
  intro line inside
  obtain ⟨e, -, entry⟩ := List.mem_filterMap.1 inside
  exact oneLine_defaultEntry e.1 e.2 g entry

theorem isOther_of_mem_options : ∀ line ∈ Block.optionsLines name (g.optionsBlock name ps).props, Block.IsOther line := by
  have each : ∀ p ∈ g.optionsProps name ps, ∀ line ∈ Block.propLines p, Block.IsOther line := by
    intro p inside
    obtain ⟨⟨key, d⟩, -, rfl⟩ := List.mem_map.1 inside
    dsimp only
    exact Block.isOther_of_mem_propLines (Naming.oneLine_identifier key) (oneLine_optionsType named key d g)
      fun value given => oneLine_optionsDefault d g given
  exact Block.isOther_of_mem_optionsLines name each

end Lines

theorem declaresUnions {ps : Declared} (distinct : (variantNames ps).Nodup) (config : Config)
    (lookup : String → Option String) (name : String) :
    DeclaresUnions ⟨.react, config, lookup⟩ ⟨.vue, config, lookup⟩ name ps where
  stub _ := listsUnions distinct (by simp [Block.stubLines]) (StubBlock.write_eq _ rfl rfl) fun named =>
    ⟨named.append (by decide), isOther_of_mem_stub named ⟨.react, config, lookup⟩ ps⟩
  setup := listsUnions distinct (by simp [Block.setupLines]) (SetupBlock.write_eq _ rfl rfl) fun named =>
    ⟨named.append (by decide), isOther_of_mem_setup named ⟨.vue, config, lookup⟩ ps⟩
  options := listsUnions distinct (by simp [Block.optionsLines]) (OptionsBlock.write_eq _ rfl rfl) fun named =>
    ⟨named.append (by decide), isOther_of_mem_options named ⟨.vue, config, lookup⟩ ps⟩
  stubFields := fields_nameUnions _ _ ps
  setupFields := fields_nameUnions _ _ ps
  props := props_nameUnions _ name ps
  held := holdsListings rfl rfl name ps

/-- Let the variants of a definitions map that are not hidden have different identifiers.  Its blocks exist exactly if
keys of one identifier can be compared, as texts always can.  Then a component stub, a setup call and an options call
declare the unions of these variants as `type Name = union;`, one for each in the order of keys, under different names,
and nothing else that is an alias, where the name of the component is on one line as every display name is; and the
field or prop of a variant names its own alias. -/
theorem unions_declared (definitions : PropertyDefinitions)
    (distinct : ((visibleVariants definitions).map fun e => Naming.identifier e.1).Nodup) :
    ((∃ ps, declared definitions = .ok ps) ↔ ∀ a ∈ definitions.keys, ∀ b ∈ definitions.keys,
      Naming.identifier a = Naming.identifier b → a.group = b.group) ∧
    ∀ ps, declared definitions = .ok ps → DeclaresShown definitions ps ∧
      (variants ps).Perm (visibleVariants definitions) ∧
      ∀ (config : Config) (lookup : String → Option String) (name : String),
        DeclaresUnions ⟨.react, config, lookup⟩ ⟨.vue, config, lookup⟩ name ps := by
  refine ⟨declared_isOk_iff definitions, fun ps shown => ?_⟩
  have perm := variants_perm shown
  have names : (variantNames ps).Nodup := by
    unfold variantNames
    rwa [(perm.map _).nodup_iff]
  exact ⟨declaresShown_of_declared shown, perm, declaresUnions names⟩

/-! Two variants, one of them named by a reserved word, a third one that is hidden and would have the identifier of the
first, and a text with that identifier. -/

def choice (options : List String) : PropertyDefinition where
  name := "choice"
  kind := .variant
  default := .text "a"
  options := some options
  hidden := false
  optional := false
  rawType := none

def choiceDefinitions : PropertyDefinitions := .ofList
  [(.text "Icon Side", choice ["left", "right"]), (.text "_iconSide", { choice ["up", "down"] with hidden := true }),
    (.text "Class", choice ["a", "b"]), (.text "icon-side", plainText)]

def choiceDeclared : Declared :=
  [(.text "Class", choice ["a", "b"]), (.text "Icon Side", choice ["left", "right"]), (.text "icon-side", plainText)]

theorem unions_declared_choice :
    ((visibleVariants choiceDefinitions).map fun e => Naming.identifier e.1).Nodup ∧
    declared choiceDefinitions = .ok choiceDeclared ∧
    ∀ (config : Config) (lookup : String → Option String),
      DeclaresUnions ⟨.react, config, lookup⟩ ⟨.vue, config, lookup⟩ "Card" choiceDeclared ∧
      ((Generator.mk .react config lookup).stubBlock "Card" choiceDeclared).aliases =
        [⟨"CardPropsClass", "'a' | 'b'"⟩, ⟨"CardPropsIconSide", "'left' | 'right'"⟩] := by
  have distinct : ((visibleVariants choiceDefinitions).map fun e => Naming.identifier e.1).Nodup := by decide +kernel
  have shown : declared choiceDefinitions = .ok choiceDeclared := by decide +kernel
  have agree := (unions_declared choiceDefinitions distinct).2 choiceDeclared shown
  refine ⟨distinct, shown, fun config lookup => ⟨agree.2.2 config lookup "Card", ?_⟩⟩
  rw [((agree.2.2 config lookup "Card").stub false).complete]
  decide +kernel

end Generator

end DesignProps
