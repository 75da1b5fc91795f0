import DesignProps.Proofs.Json.Layout
import DesignProps.Proofs.Property.Names
import DesignProps.Proofs.Target.Omission
import DesignProps.Proofs.Text.CharacterReference
import DesignProps.Target.Attribute

/-!
# Values told apart by their attributes

A React element tells the values of a property apart: different texts give different attributes.  A Vue template
writes the quote that would end an attribute as a character reference and keeps the `&` of a reference that is already
there, so two texts have one attribute exactly if they are the same with these references read.

Main statements: `Attribute.write_inj` (an attribute is known by its text), `Attribute.textOf_eq_iff`.
-/

set_option autoImplicit false

namespace DesignProps

/-! ## Escaped texts -/

namespace Json

theorem escape_keepsWord {w : List Char} (plain : ∀ c ∈ w, c ≠ '"' ∧ c ≠ '\\' ∧ 0x20 ≤ c.toNat) :
    KeepsWord w escape := by
  intro c
  obtain same | ⟨special, tail, same, -⟩ := escape_cases c
  · exact .inl same
  · refine .inr ⟨?_, '\\', tail, same, fun inside => (plain '\\' inside).2.1 rfl⟩
    intro inside
    obtain ⟨quote, backslash, visible⟩ := plain c inside
    obtain rfl | rfl | control := special
    · exact quote rfl
    · exact backslash rfl
    · omega

end Json

namespace Attribute

/-! ## Attributes and their texts -/

/-- A name that a colon is put before does not go on with the sign that follows it. -/
theorem named_ne_bound (name s t : List Char) : name ++ '=' :: s ≠ ':' :: (name ++ t) := by
  induction name with
  | nil => simp
  | cons c name ih =>
      intro same
      obtain ⟨rfl, later⟩ := List.cons.inj same
      exact ih later

theorem write_inj {name : String} {a b : Attribute} (same : a.write name = b.write name) : a = b := by
  have chars := congrArg String.toList same
  cases a <;> cases b <;> simp [write] at chars
  -- one form with one form, and a form without a colon with one that has a colon
  all_goals first
    | rfl
    | exact congrArg _ (String.toList_inj.1 chars)
    | exact absurd chars (named_ne_bound _ _ _)
    | exact absurd chars.symm (named_ne_bound _ _ _)
    | exact absurd (congrArg List.length chars) (by simp only [List.length_cons, List.length_append]; omega)

/-- The text of a property in an opening tag; without an attribute there is none. -/
def textOf (g : Generator) (explicit : Bool) (slotTag : Option String) (key : Key) (p : PropertyValue) : String :=
  match Attribute.of g explicit slotTag p with
  | some a => a.write (Naming.identifier key)
  | none => ""

/-! ## Attributes of texts -/

/-- The reference for the quote around a text. -/
def doubleQuote : CharacterReference := ⟨'"', ['q', 'u', 'o', 't', ';'], by decide, by decide, by decide⟩

/-- The reference for the quote around data. -/
def singleQuote : CharacterReference := ⟨'\'', ['#', '3', '9', ';'], by decide, by decide, by decide⟩

theorem toList_replaceChar (r : CharacterReference) (s : String) :
    (replaceChar r.char ('&' :: r.name) s).toList = r.written s.toList := by
  rw [replaceChar, String.toList_ofList]
  rfl

theorem toList_escape (s : String) : (escape s).toList = doubleQuote.written s.toList :=
  toList_replaceChar doubleQuote s

theorem toList_escapeSingle (s : String) : (escapeSingle s).toList = singleQuote.written s.toList :=
  toList_replaceChar singleQuote s

/-- Whether two texts are the same once the references to a character are read. -/
def Alike (r : CharacterReference) (a b : String) : Prop := r.read a.toList = r.read b.toList

theorem escape_eq_iff (a b : String) : escape a = escape b ↔ Alike doubleQuote a b := by
  rw [← String.toList_inj, toList_escape, toList_escape]
  exact doubleQuote.written_eq_iff _ _

/-- What is written of a property of an unknown kind. -/
def data (name : String) (kind : PropertyKind) (s : String) : String :=
  (Json.obj [("name", .str name), ("type", .str kind.tag), ("value", .str s)]).write

/-- What is written before and after the escaped text. -/
theorem exists_data (name : String) (kind : PropertyKind) : ∃ before after : List Char, ∀ s : String,
    (data name kind s).toList = before ++ (s.toList.flatMap Json.escape ++ after) := by
  refine ⟨("\x7b" ++ Json.stringLiteral "name" ++ ": " ++ Json.stringLiteral name ++ ", " ++ Json.stringLiteral "type"
    ++ ": " ++ Json.stringLiteral kind.tag ++ ", " ++ Json.stringLiteral "value" ++ ": \"").toList, "\"\x7d".toList, ?_⟩
  intro s
  simp [data, Json.write, Json.writeMembers, Json.stringLiteral, Json.stringChars]

theorem data_eq_iff (name : String) (kind : PropertyKind) (a b : String) :
    data name kind a = data name kind b ↔ a = b := by
  constructor
  · intro same
    obtain ⟨before, after, parts⟩ := exists_data name kind
    have chars := congrArg String.toList same
    rw [parts, parts] at chars
    have escaped := List.append_cancel_right (List.append_cancel_left chars)
    exact String.toList_inj.1 (Json.escaped_inj escaped)
  · rintro rfl
    rfl

theorem escapeSingle_data_eq_iff (name : String) (kind : PropertyKind) (a b : String) :
    escapeSingle (data name kind a) = escapeSingle (data name kind b) ↔ Alike singleQuote a b := by
  obtain ⟨before, after, parts⟩ := exists_data name kind
  have visible : ∀ c ∈ singleQuote.name, c ≠ '"' ∧ c ≠ '\\' ∧ 0x20 ≤ c.toNat := by
    simp [singleQuote]
  have name : ∀ c ∈ singleQuote.name, Json.escape c = [c] := by
    intro c inside
    obtain ⟨quote, backslash, above⟩ := visible c inside
    exact Json.escape_of_plain above quote backslash
  have past : ∀ s : List Char, singleQuote.read (s.flatMap Json.escape) = (singleQuote.read s).flatMap Json.escape :=
    singleQuote.read_flatMap rfl rfl (fun c other => Json.notMem_escape (by decide) other) name
      (Json.escape_keepsWord visible)
  rw [← String.toList_inj, toList_escapeSingle, toList_escapeSingle, parts, parts]
  simp only [CharacterReference.written_append, List.append_cancel_left_eq, List.append_cancel_right_eq]
  rw [singleQuote.written_eq_iff, past, past]
  exact ⟨Json.escaped_inj, congrArg _⟩

theorem quotedOrBraced_eq_iff (a b : String) : quotedOrBraced (.text a) = quotedOrBraced (.text b) ↔ a = b := by
  constructor
  · intro same
    unfold quotedOrBraced valueText at same
    dsimp only [Primitive.asText] at same
    split at same <;> split at same
    · exact Json.stringLiteral_inj (Attribute.braced.inj same)
    · cases same
    · cases same
    · exact Attribute.quoted.inj same
  · rintro rfl
    rfl

/-- The attribute of a text that no slot takes and that resolves to nothing. -/
def plain (target : Target) (name : String) (kind : PropertyKind) (s : String) : Attribute :=
  match target, kind with
  | .react, .unknown => .braced (data name kind s)
  | .react, _ => quotedOrBraced (.text s)
  | .vue, .unknown => .boundData (escapeSingle (data name kind s))
  | .vue, _ => .quoted (escape s)

/-- For React the same text, and for Vue the same text once the references to the quote around it are read. -/
def WrittenAlike (target : Target) (kind : PropertyKind) (a b : String) : Prop :=
  match target, kind with
  | .react, _ => a = b
  | .vue, .unknown => Alike singleQuote a b
  | .vue, _ => Alike doubleQuote a b

theorem plain_eq_iff (target : Target) (name : String) (kind : PropertyKind) (a b : String) :
    plain target name kind a = plain target name kind b ↔ WrittenAlike target kind a b := by
  cases target with
  | react =>
      cases kind with
      | unknown => simpa [plain, WrittenAlike] using data_eq_iff name .unknown a b
      | _ => exact quotedOrBraced_eq_iff a b
  | vue =>
      cases kind with
      | unknown => simpa [plain, WrittenAlike] using escapeSingle_data_eq_iff name .unknown a b
      | _ => simpa [plain, WrittenAlike] using escape_eq_iff a b

/-! ## The marker of an absent value -/

theorem eq_marker_of_alike {r : CharacterReference} (other : r.char ∉ undefinedMarker.toList) {s : String}
    (alike : Alike r undefinedMarker s) : s = undefinedMarker := by
  have whole := r.read_of_no_mark (s := undefinedMarker.toList) (by simp [undefinedMarker])
  have same : r.read s.toList = undefinedMarker.toList := alike.symm.trans whole
  have none : r.char ∉ r.read s.toList := by rwa [same]
  rw [r.read_eq_self none] at same
  exact String.toList_inj.1 same

theorem WrittenAlike.refl (target : Target) (kind : PropertyKind) (s : String) : WrittenAlike target kind s s := by
  unfold WrittenAlike
  split <;> rfl

theorem WrittenAlike.symm {target : Target} {kind : PropertyKind} {a b : String}
    (alike : WrittenAlike target kind a b) : WrittenAlike target kind b a := by
  unfold WrittenAlike Alike at alike ⊢
  split at alike <;> exact Eq.symm alike

/-- No other text is written like the marker. -/
theorem WrittenAlike.eq_marker {target : Target} {kind : PropertyKind} {s : String}
    (alike : WrittenAlike target kind undefinedMarker s) : s = undefinedMarker := by
  unfold WrittenAlike at alike
  split at alike
  · exact alike.symm
  · exact eq_marker_of_alike (by simp [singleQuote, undefinedMarker]) alike
  · exact eq_marker_of_alike (by simp [doubleQuote, undefinedMarker]) alike

/-! ## Values of properties -/

/-- A property with a text that is no slot and resolves to nothing. -/
structure HoldsText (g : Generator) (slotTag : Option String) (p : PropertyValue) (s : String) : Prop where
  kind : p.kind.isText = true
  value : p.value = .text s
  undefined : p.undefined = (s == undefinedMarker)
  apart : p.kind = .text → slotTag = none
  unresolved : p.kind = .instanceSwap → g.resolvedName s = none

theorem ofText_of_isText {definition : Option PropertyDefinition} {key : Key} {s : String} {p : PropertyValue}
    (made : PropertyValue.ofText definition key s = .ok p) (kind : p.kind.isText = true) :
    p.value = .text s ∧ p.undefined = (s == undefinedMarker) := by
  cases definition with
  | none =>
      obtain rfl := Except.ok.inj made
      exact ⟨rfl, rfl⟩
  | some d =>
      obtain ⟨v, read, rfl⟩ := map_eq_ok_iff.1 made
      refine ⟨?_, rfl⟩
      dsimp only at kind ⊢
      cases found : d.kind with
      | boolean => simp [found, PropertyKind.isText] at kind
      | number => simp [found, PropertyKind.isText] at kind
      | explicit => simp [found, PropertyKind.isText] at kind
      | _ =>
          rw [found] at read
          exact (Except.ok.inj read).symm

theorem kind_eq_of_ofText {definition : Option PropertyDefinition} {key : Key} {a b : String} {p q : PropertyValue}
    (first : PropertyValue.ofText definition key a = .ok p) (second : PropertyValue.ofText definition key b = .ok q) :
    q.kind = p.kind := by
  have one := PropertyValue.ofText_agrees first
  have other := PropertyValue.ofText_agrees second
  cases definition with
  | none => exact other.1.trans one.1.symm
  | some d => exact other.1.trans one.1.symm

section Texts
variable {g : Generator} {explicit : Bool} {slotTag : Option String} {key : Key} {p : PropertyValue} {s : String}

theorem of_holdsText (holds : HoldsText g slotTag p s) : Attribute.of g explicit slotTag p =
    if s = undefinedMarker then none else some (plain g.target p.name p.kind s) := by
  obtain ⟨kind, value, undefined, apart, unresolved⟩ := holds
  unfold Attribute.of
  rw [undefined]
  by_cases absent : s = undefinedMarker
  · rw [if_pos absent, if_pos (beq_iff_eq.2 absent)]
  · rw [if_neg absent, if_neg (by simpa using absent)]
    have unknown : p.toJson.write = data p.name p.kind s := by
      rw [PropertyValue.toJson, value]
      rfl
    cases g.target with
    | react =>
        dsimp only
        unfold react
        cases found : p.kind with
        | text => rw [apart found, value]; rfl
        | instanceSwap => rw [value, Primitive.asText, unresolved found]; rfl
        | variant => rw [value]; rfl
        | unknown => rw [unknown, found]; rfl
        | _ => simp [found, PropertyKind.isText] at kind
    | vue =>
        dsimp only
        unfold vue
        cases found : p.kind with
        | text => rw [value]; rfl
        | instanceSwap => rw [value, Primitive.asText, unresolved found]; rfl
        | variant => rw [value]; rfl
        | unknown => rw [unknown, found]; rfl
        | _ => simp [found, PropertyKind.isText] at kind

theorem textOf_holdsText (holds : HoldsText g slotTag p s) : textOf g explicit slotTag key p =
    if s = undefinedMarker then "" else (plain g.target p.name p.kind s).write (Naming.identifier key) := by
  rw [textOf, of_holdsText holds]
  split
  · next same =>
      split at same
      · cases same
      · next known => rw [if_neg known, Option.some.inj same]
  · next same =>
      split at same
      · next absent => rw [if_pos absent]
      · cases same

end Texts

/-- Two texts of a property have one attribute exactly if a React element is given the same text, or a Vue template the
same text but for references to the quote around it. -/
theorem textOf_eq_iff {g : Generator} {explicit : Bool} {slotTag : Option String} {key : Key}
    {definition : Option PropertyDefinition} {a b : String} {p q : PropertyValue}
    (first : PropertyValue.ofText definition key a = .ok p) (second : PropertyValue.ofText definition key b = .ok q)
    (kind : p.kind.isText = true) (apart : p.kind = .text → slotTag = none)
    (unresolved : p.kind = .instanceSwap → g.resolvedName a = none ∧ g.resolvedName b = none) :
    textOf g explicit slotTag key p = textOf g explicit slotTag key q ↔ WrittenAlike g.target p.kind a b := by
  have sameKind := kind_eq_of_ofText first second
  have name : q.name = p.name := (Naming.name_of_text second).trans (Naming.name_of_text first).symm
  have texts : HoldsText g slotTag p a ∧ HoldsText g slotTag q b := by
    have one := ofText_of_isText first kind
    have other := ofText_of_isText second (sameKind ▸ kind)
    refine ⟨⟨kind, one.1, one.2, apart, fun swap => (unresolved swap).1⟩, ⟨sameKind ▸ kind, other.1, other.2, ?_, ?_⟩⟩
    · exact fun text => apart (sameKind ▸ text)
    · exact fun swap => (unresolved (sameKind ▸ swap)).2
  rw [textOf_holdsText texts.1, textOf_holdsText texts.2, sameKind, name]
  have some := fun s => write_ne_empty (plain g.target p.name p.kind s) key
  by_cases left : a = undefinedMarker
  · subst left
    by_cases right : b = undefinedMarker
    · subst right
      simp [WrittenAlike.refl]
    · rw [if_pos rfl, if_neg right]
      exact ⟨fun same => absurd same.symm (some b), fun alike => absurd alike.eq_marker right⟩
  · by_cases right : b = undefinedMarker
    · subst right
      rw [if_neg left, if_pos rfl]
      exact ⟨fun same => absurd same (some a), fun alike => absurd alike.symm.eq_marker left⟩
    · rw [if_neg left, if_neg right, ← plain_eq_iff g.target p.name]
      exact ⟨write_inj, congrArg _⟩

/-- An icon that an instance may swap. -/
def iconDefinition : PropertyDefinition := ⟨"icon", .instanceSwap, .text "9:9", none, false, false, none⟩

theorem textOf_eq_iff_icon : ∃ p q, PropertyValue.ofText (some iconDefinition) "Icon" "8:8" = .ok p ∧
    PropertyValue.ofText (some iconDefinition) "Icon" "9:9" = .ok q ∧ ∀ explicit slotTag,
      textOf ⟨.vue, .base, fun _ => none⟩ explicit slotTag "Icon" p ≠
        textOf ⟨.vue, .base, fun _ => none⟩ explicit slotTag "Icon" q := by
  refine ⟨_, _, rfl, rfl, ?_⟩
  intro explicit slotTag same
  have first : PropertyValue.ofText (some iconDefinition) "Icon" "8:8" = .ok _ := rfl
  have second : PropertyValue.ofText (some iconDefinition) "Icon" "9:9" = .ok _ := rfl
  have alike := (textOf_eq_iff first second rfl (by simp [iconDefinition]) (fun _ => ⟨rfl, rfl⟩)).1 same
  change doubleQuote.read _ = doubleQuote.read _ at alike
  rw [doubleQuote.read_of_no_mark (by simp), doubleQuote.read_of_no_mark (by simp)] at alike
  simp at alike

/-- A quote and the reference to it have one attribute. -/
theorem quote_unlike_reference : ¬ ∀ (g : Generator) (explicit : Bool) (slotTag : Option String) (key : Key)
    (definition : Option PropertyDefinition) (a b : String) (p q : PropertyValue),
    PropertyValue.ofText definition key a = .ok p → PropertyValue.ofText definition key b = .ok q →
    p.kind.isText = true → (p.kind = .text → slotTag = none) →
    (p.kind = .instanceSwap → g.resolvedName a = none ∧ g.resolvedName b = none) → a ≠ b →
    textOf g explicit slotTag key p ≠ textOf g explicit slotTag key q := by
  intro apart
  refine apart ⟨.vue, .base, fun _ => none⟩ false none "Label" none "\"" "&quot;" _ _ rfl rfl rfl (fun _ => rfl)
    (by simp [PropertyValue.withoutDefinition]) (by decide) ?_
  have same : escape "\"" = escape "&quot;" := by decide
  exact congrArg (fun text => write (Naming.identifier "Label") (.quoted text)) same

end Attribute

end DesignProps
