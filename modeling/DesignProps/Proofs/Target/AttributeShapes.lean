import DesignProps.Proofs.Json.OneLine
import DesignProps.Proofs.Model.Built
import DesignProps.Proofs.Model.Kinds
import DesignProps.Proofs.Naming.Spelling
import DesignProps.Proofs.Number.Characters
import DesignProps.Proofs.Target.AttributeText
import DesignProps.Proofs.Target.Content
import DesignProps.Target.Instance

/-!
# The shapes of attributes

An attribute ends where its value ends.  In a Vue template no value holds the quote around it; in a React element a
quoted text holds no quote, and what stands in braces is a boolean, a number, an element without children, or a text or
an object that is read back whole.  Booleans and numbers are written bare, so this rests on what the properties of a
built model hold: values of their kinds.

Main statements: `Attribute.vueShaped_of`, `Attribute.reactShaped_of`, `Generator.attributes_shaped`.
-/

set_option autoImplicit false

open scoped Computability

namespace DesignProps

/-! ## Shapes -/

/-- An identifier that may name a property in code. -/
def IsIdentifier (name : String) : Prop :=
  name.toList ∈ Naming.camelSpelling * (1 + Naming.one (· == '_')) ∧ name ∉ Naming.reservedWords

theorem isIdentifier_identifier (key : Key) : IsIdentifier (Naming.identifier key) := Naming.identifier_spelled key

/-- An attribute of a template, whose value ends at the first quote like the one before it. -/
inductive VueAttribute : String → Prop
  | bare {name : String} (legal : IsIdentifier name) : VueAttribute name
  | quoted {name text : String} (legal : IsIdentifier name) (closed : '"' ∉ text.toList) :
      VueAttribute (name ++ "=\"" ++ text ++ "\"")
  | bound {name code : String} (legal : IsIdentifier name) (closed : '"' ∉ code.toList) :
      VueAttribute (":" ++ name ++ "=\"" ++ code ++ "\"")
  | boundData {name code : String} (legal : IsIdentifier name) (closed : '\'' ∉ code.toList) :
      VueAttribute (":" ++ name ++ "='" ++ code ++ "'")

/-- An expression that ends before the brace that follows it. -/
inductive ReactExpression : String → Prop
  | boolean {code : String} (word : code = "true" ∨ code = "false") : ReactExpression code
  | number {n : Number} (numeric : Numeric n.text.toList) : ReactExpression n.text
  | element {name : String} (spelled : name.toList ∈ Naming.displaySpelling) : ReactExpression ("<" ++ name ++ " />")
  | text {s : String} (read : Json.parse (Json.stringLiteral s) = .ok (.str s)) : ReactExpression (Json.stringLiteral s)
  | data {members : List (String × Json)} (read : Json.parse (Json.write (.obj members)) = .ok (.obj members)) :
      ReactExpression (Json.write (.obj members))

inductive ReactAttribute : String → Prop
  | bare {name : String} (legal : IsIdentifier name) : ReactAttribute name
  | quoted {name text : String} (legal : IsIdentifier name) (closed : '"' ∉ text.toList) :
      ReactAttribute (name ++ "=\"" ++ text ++ "\"")
  | braced {name code : String} (legal : IsIdentifier name) (expression : ReactExpression code) :
      ReactAttribute (name ++ "=\x7b" ++ code ++ "\x7d")

def Target.Shaped : Target → String → Prop
  | .vue => VueAttribute
  | .react => ReactAttribute

/-! ## Values between quotes -/

theorem Numeric.quote_notMem {cs : List Char} (numeric : Numeric cs) : '"' ∉ cs :=
  fun inside => absurd (numeric '"' inside) (by decide)

namespace Attribute

theorem quote_notMem_display {name : String} (spelled : name.toList ∈ Naming.displaySpelling) :
    '"' ∉ name.toList := by
  obtain ⟨c, rest, same, capital, others⟩ := Naming.exists_of_mem_one_mul_star spelled
  rw [same]
  intro inside
  rcases List.mem_cons.1 inside with rfl | later
  · exact absurd capital (by decide)
  · exact absurd (others '"' later) (by decide)

theorem quote_notMem_boolean (b : Bool) : '"' ∉ (Primitive.bool b).literal.toList := by
  cases b <;> decide

section Value
variable {g : Generator} {explicit : Bool} {p : PropertyValue} {name : String} {a : Attribute}

theorem ofBoolean_cases {spelledOut : Primitive → Attribute} {v : Primitive}
    (shown : ofBoolean spelledOut explicit v = some a) : a = spelledOut v ∨ a = .bare := by
  unfold ofBoolean at shown
  split at shown
  · exact .inl (Option.some.inj shown).symm
  · split at shown
    · exact .inr (Option.some.inj shown).symm
    · cases shown

theorem spelled_of_resolved {id shownName : String} (found : g.resolvedName id = some shownName) :
    shownName.toList ∈ Naming.displaySpelling := by
  obtain ⟨label, -, rfl⟩ := Option.map_eq_some_iff.1 found
  exact Naming.displayName_spelled label

/-! ## Templates -/

theorem vueShaped_quoted (legal : IsIdentifier name) (s : String) : VueAttribute (write name (.quoted (escape s))) :=
  .quoted legal (escape_no_quote s)

theorem vueShaped_of (admits : p.kind.admits p.value = true) (legal : IsIdentifier name)
    (shown : vue g explicit p = some a) : VueAttribute (a.write name) := by
  unfold vue at shown
  cases kind : p.kind with
  | boolean =>
      simp only [kind] at shown admits
      obtain ⟨b, value⟩ := PropertyKind.exists_bool admits
      obtain rfl | rfl := ofBoolean_cases shown
      · rw [value]
        exact .bound legal (quote_notMem_boolean b)
      · exact .bare legal
  | number =>
      simp only [kind, Option.some.injEq] at shown admits
      obtain ⟨n, value⟩ := PropertyKind.exists_number admits
      rw [← shown, value]
      exact .bound legal n.numeric_text.quote_notMem
  | instanceSwap =>
      simp only [kind] at shown
      split at shown
      · next found =>
          obtain rfl := Option.some.inj shown
          exact .bound legal (quote_notMem_display (spelled_of_resolved found))
      · obtain rfl := Option.some.inj shown
        exact vueShaped_quoted legal _
  | unknown =>
      simp only [kind, Option.some.injEq] at shown
      rw [← shown]
      exact .boundData legal (replaceChar_notMem (by decide) _)
  | text | variant | explicit =>
      simp only [kind, Option.some.injEq] at shown
      rw [← shown]
      exact vueShaped_quoted legal _

/-! ## Elements -/

theorem reactShaped_quotedOrBraced (legal : IsIdentifier name) (v : Primitive) :
    ReactAttribute ((quotedOrBraced v).write name) := by
  unfold quotedOrBraced
  dsimp only
  split
  · exact .braced legal (.text (Json.parse_stringLiteral _))
  · next none => exact .quoted legal (by simpa using none)

theorem toJson_of_text {s : String} (value : p.value = .text s) :
    p.toJson = Json.texts [("name", p.name), ("type", p.kind.tag), ("value", s)] := by
  rw [PropertyValue.toJson, value]
  rfl

theorem reactShaped_of (admits : p.kind.admits p.value = true) (legal : IsIdentifier name)
    (shown : react g explicit none p = some a) : ReactAttribute (a.write name) := by
  unfold react at shown
  cases kind : p.kind with
  | boolean =>
      simp only [kind] at shown admits
      obtain ⟨b, value⟩ := PropertyKind.exists_bool admits
      obtain rfl | rfl := ofBoolean_cases shown
      · have word : p.value.literal = "true" ∨ p.value.literal = "false" := by
          rw [value]
          cases b <;> simp [Primitive.literal]
        exact .braced legal (.boolean word)
      · exact .bare legal
  | number =>
      simp only [kind, Option.some.injEq] at shown admits
      obtain ⟨n, value⟩ := PropertyKind.exists_number admits
      rw [← shown, value]
      exact .braced legal (.number n.numeric_text)
  | instanceSwap =>
      simp only [kind] at shown
      split at shown
      · next found =>
          obtain rfl := Option.some.inj shown
          exact .braced legal (.element (spelled_of_resolved found))
      · obtain rfl := Option.some.inj shown
        exact reactShaped_quotedOrBraced legal _
  | unknown =>
      simp only [kind, Option.some.injEq] at shown
      obtain ⟨s, value⟩ := PropertyKind.exists_text (kind ▸ rfl) admits
      have read : Json.parse p.toJson.write = .ok p.toJson := by
        rw [toJson_of_text value]
        exact Json.parse_write_texts (by simp)
      rw [← shown]
      exact .braced legal (.data read)
  | text | variant | explicit =>
      simp only [kind, Option.some.injEq] at shown
      rw [← shown]
      exact reactShaped_quotedOrBraced legal _

end Value

end Attribute

namespace Generator

open Attribute

section Element
variable {g : Generator} {m : Model} {c : Component} {t : Toggles} {e : Key × PropertyValue}

theorem of_attributeOf {slot : Bool} {p : PropertyValue} {a : Attribute}
    (shown : g.attributeOf t slot p = .attribute a) :
    Attribute.of g t.explicitBoolean (if slot then g.wrapperTag else none) p = some a := by
  unfold attributeOf at shown
  split at shown
  · next found =>
      rw [found]
      exact congrArg some (Contribution.attribute.inj shown)
  · cases shown

/-- The element that a text of a text slot is wrapped in, if it is. -/
def wrapperOf (g : Generator) (references : ReferenceMap) (e : Key × PropertyValue) : Option String :=
  if isTextSlot references e then g.wrapperTag else none

/-- An attribute that a property contributes is its own. -/
theorem of_contribution {count : Nat} {a : Attribute} (shown : g.contribution m c t count e = .attribute a) :
    Attribute.of g t.explicitBoolean (g.wrapperOf m.references e) e.2 = some a := by
  unfold contribution at shown
  unfold wrapperOf
  split at shown
  · cases shown
  · split at shown
    · next slot =>
        rw [slot]
        split at shown
        · cases shown
        · exact of_attributeOf shown
    · next plain =>
        rw [if_neg plain]
        split at shown
        · split at shown
          · cases shown
          · exact of_attributeOf shown
        · exact of_attributeOf shown

/-- Every attribute of an element is the text of one of the component's properties. -/
theorem exists_of_mem_attributes {text : String} (inside : text ∈ g.attributes m c t) :
    ∃ e ∈ c.properties.entries, ∃ a, Attribute.of g t.explicitBoolean (g.wrapperOf m.references e) e.2 = some a ∧
      text = a.write (Naming.identifier e.1) := by
  obtain ⟨pair, sorted, rfl⟩ := List.mem_map.1 inside
  obtain ⟨entry, listed, read⟩ := List.mem_filterMap.1 ((Sorting.sortPairs_perm _).mem_iff.1 sorted)
  obtain ⟨e, visible, rfl⟩ := List.mem_map.1 listed
  unfold attributeText at read
  split at read
  · next a own =>
      obtain rfl := Option.some.inj read
      have shown : g.contribution m c t (slotCount m c) e = .attribute a := own
      refine ⟨e, (List.mem_filter.1 visible).1, a, of_contribution shown, ?_⟩
      dsimp only
  · cases read

theorem shaped_of {explicit : Bool} {slotTag : Option String} {p : PropertyValue} {key : Key} {a : Attribute}
    (admits : p.kind.admits p.value = true) (plain : g.target = .react → slotTag = none)
    (shown : Attribute.of g explicit slotTag p = some a) : g.target.Shaped (a.write (Naming.identifier key)) := by
  have legal := isIdentifier_identifier key
  unfold Attribute.of at shown
  split at shown
  · cases shown
  · cases target : g.target with
    | react =>
        rw [plain target, target] at shown
        exact reactShaped_of admits legal shown
    | vue =>
        rw [target] at shown
        exact vueShaped_of admits legal shown

theorem textOf_shaped {explicit : Bool} {slotTag : Option String} {p : PropertyValue} {key : Key}
    (admits : p.kind.admits p.value = true) (plain : g.target = .react → slotTag = none)
    (shown : textOf g explicit slotTag key p ≠ "") : g.target.Shaped (textOf g explicit slotTag key p) := by
  unfold textOf at shown ⊢
  split at shown
  · next found => exact shaped_of admits plain found
  · exact absurd rfl shown

end Element

/-- Whatever a built model holds, an attribute of one of its properties has a shape that its value does not break, and
so has every attribute of an element; of React elements, unless a text slot writes it. -/
theorem attributes_shaped {subjects : List Subject} {m : Model} (built : Model.ofSubjects subjects = .ok m)
    {id : String} {c : Component} (stored : m.components.get? id = some c) (g : Generator) :
    (∀ e ∈ c.properties.entries, ∀ explicit slotTag, (g.target = .react → slotTag = none) →
      textOf g explicit slotTag e.1 e.2 ≠ "" → g.target.Shaped (textOf g explicit slotTag e.1 e.2)) ∧
    ∀ t : Toggles, ∀ text ∈ g.attributes m c t, ∃ e ∈ c.properties.entries,
      text = textOf g t.explicitBoolean (g.wrapperOf m.references e) e.1 e.2 ∧
        ((g.target = .react → isTextSlot m.references e = false) → g.target.Shaped text) := by
  obtain rfl := Model.addAll_eq_addEach _ _ _ (Model.addAll_of_ofSubjects built)
  have admits := Model.admits_of_stored stored
  constructor
  · intro e inside explicit slotTag plain shown
    exact textOf_shaped (admits e inside) plain shown
  · intro t text inside
    obtain ⟨e, among, a, found, rfl⟩ := exists_of_mem_attributes inside
    refine ⟨e, among, by rw [textOf, found], ?_⟩
    intro noSlot
    refine shaped_of (admits e among) ?_ found
    intro react
    rw [wrapperOf, noSlot react]
    rfl

/-- A toggle in React, and every attribute in Vue. -/
theorem attributes_shaped_tile : ∃ m c, Model.ofSubjects [tileInstance] = .ok m ∧ m.components.get? "3:1" = some c ∧
    (∃ p, (Key.text "Has Icon", p) ∈ c.properties.entries ∧
      ReactAttribute (textOf ⟨.react, .base, fun _ => none⟩ true none "Has Icon" p)) ∧
    ∀ (lookup : String → Option String) (t : Toggles), ∀ text ∈ (Generator.mk .vue .base lookup).attributes m c t,
      VueAttribute text := by
  have built : Model.ofSubjects [tileInstance] = .ok _ := rfl
  have shaped := attributes_shaped built (show OrderedMap.get? _ "3:1" = some _ from rfl)
  refine ⟨_, _, built, rfl, ?_, ?_⟩
  · refine ⟨_, List.mem_of_getElem? (i := 2) rfl, ?_⟩
    refine (shaped ⟨.react, .base, fun _ => none⟩).1 _ (List.mem_of_getElem? (i := 2) rfl) true none (fun _ => rfl) ?_
    change write (Naming.identifier "Has Icon") (.braced "false") ≠ ""
    simp [write]
  · intro lookup t text inside
    obtain ⟨e, -, -, each⟩ := (shaped ⟨.vue, .base, lookup⟩).2 t text inside
    apply each
    intro react
    cases react

end Generator

end DesignProps
