import DesignProps.Proofs.Target.Content
import Mathlib.Data.List.Sort

/-!
# What the toggles change

Showing defaults only adds to an element: what it holds without them stands there with the same texts, in the same
order.  Spelling booleans out leaves the children and all other attributes as they are, writes a bare name as what is
true, and adds the booleans that are false.

Main statements: `Sorting.sortPairs_sublist`, `Generator.written_sublist`, `Generator.respellsBooleans_of_fit`,
`Generator.toggles_respell`.
-/

set_option autoImplicit false

namespace DesignProps

theorem Sorting.sortPairs_sublist {xs ys : List (String × String)} (among : xs.Sublist ys) :
    (sortPairs xs).Sublist (sortPairs ys) := by
  have : Std.Antisymm fun a b => pairLe a b = true := ⟨pairLe_antisymm⟩
  have sorted : ∀ zs, (sortPairs zs).Pairwise fun a b => pairLe a b = true := pairwise_sort pairLe_total pairLe_trans
  -- of sorted lists, one is a sublist as soon as the other holds its elements often enough
  refine List.sublist_of_subperm_of_pairwise ?_ (sorted xs) (sorted ys)
  exact ((sortPairs_perm xs).subperm.trans among.subperm).trans (sortPairs_perm ys).symm.subperm

namespace Attribute

/-- A boolean that is spelled out. -/
def ofTruth (target : Target) (b : Bool) : Attribute :=
  match target with
  | .react => .braced (Primitive.bool b).literal
  | .vue => .bound (Primitive.bool b).literal

theorem of_truth {g : Generator} {p : PropertyValue} {b : Bool} (defined : p.undefined = false)
    (boolean : p.kind = .boolean) (value : p.value = .bool b) (explicit : Bool) (slotTag : Option String) :
    of g explicit slotTag p = if explicit then some (ofTruth g.target b) else if b then some .bare else none := by
  unfold of react vue ofTruth ofBoolean
  simp only [defined, boolean, value, Primitive.truthy, Bool.false_eq_true, if_false]
  cases g.target <;> cases explicit <;> rfl

/-- Only booleans are spelled out. -/
theorem of_explicit_congr {g : Generator} {p : PropertyValue} (other : p.kind ≠ .boolean) (explicit plain : Bool)
    (slotTag : Option String) : of g explicit slotTag p = of g plain slotTag p := by
  unfold of react vue
  cases kind : p.kind with
  | boolean => exact absurd kind other
  | _ => rfl

/-- Only booleans are bare names. -/
theorem boolean_of_bare {g : Generator} {p : PropertyValue} {explicit : Bool} {slotTag : Option String}
    (bare : of g explicit slotTag p = some .bare) : p.kind = .boolean := by
  have quoted : ∀ v, quotedOrBraced v ≠ .bare := by
    intro v
    simp only [quotedOrBraced]
    split <;> simp
  unfold of react vue at bare
  cases kind : p.kind with
  | boolean => rfl
  | _ =>
      simp only [kind] at bare
      repeat' split at bare
      all_goals simp [quoted] at bare

end Attribute

namespace Generator

/-- The texts of pairs, in order. -/
def ordered (pairs : List (String × String)) : List String := (Sorting.sortPairs pairs).map Prod.snd

/-- What is written of the due properties that are no booleans and whose contributions are taken. -/
def unswitched (g : Generator) (takes : Contribution → Bool) (width : Nat) (m : Model) (c : Component) (t : Toggles) :
    List (String × String) :=
  ((due m c t).filter fun e => e.2.kind != .boolean && takes (g.entryOf m c t e)).map (g.written width m c t)

/-- The booleans of one value that are due where booleans are spelled out. -/
def switches (m : Model) (c : Component) (showDefaults b : Bool) : List (Key × PropertyValue) :=
  (due m c ⟨showDefaults, true⟩).filter fun e => e.2.kind == .boolean && e.2.value == .bool b

/-- One attribute for each of some properties. -/
def spelled (a : Attribute) (es : List (Key × PropertyValue)) : List (String × String) :=
  es.map fun e => (Naming.identifier e.1, a.write (Naming.identifier e.1))

section Toggles
variable {g : Generator} {m : Model} {c : Component} {e : Key × PropertyValue}

theorem attributes_eq (present : m.references.Present) (fit : BooleansFit c) (t : Toggles) (width : Nat) :
    g.attributes m c t =
      ordered (((due m c t).filter fun e => !(g.entryOf m c t e).isChild).map (g.written width m c t)) := by
  rw [← filterMap_attributeText present fit g t width]
  rfl

theorem children_eq (present : m.references.Present) (fit : BooleansFit c) (t : Toggles) (width : Nat) :
    g.children width m c t =
      ordered (((due m c t).filter fun e => (g.entryOf m c t e).isChild).map (g.written width m c t)) := by
  rw [← filterMap_childText present fit g t width]
  rfl

/-- What is not skipped depends on the toggles only as its attribute does. -/
theorem entryOf_congr {t u : Toggles} (first : isSkipped m c t e = false) (second : isSkipped m c u e = false)
    (same : ∀ slot, g.attributeOf t slot e.2 = g.attributeOf u slot e.2) : g.entryOf m c t e = g.entryOf m c u e := by
  unfold entryOf contribution
  simp only [first, second, same]

theorem boolean_of_entry_bare {t : Toggles} (bare : g.entryOf m c t e = .attribute .bare) : e.2.kind = .boolean := by
  have beside : ∀ slot, g.attributeOf t slot e.2 = .attribute .bare → e.2.kind = .boolean := by
    intro slot written
    unfold attributeOf at written
    split at written
    · next a made =>
        obtain rfl := Contribution.attribute.inj written
        exact Attribute.boolean_of_bare made
    · simp at written
  unfold entryOf contribution at bare
  repeat' split at bare
  all_goals first
    | exact beside _ bare
    | simp at bare

/-! ## Showing defaults -/

theorem due_sublist (explicit : Bool) : (due m c ⟨false, explicit⟩).Sublist (due m c ⟨true, explicit⟩) := by
  refine List.monotone_filter_right _ fun e isDue => ?_
  obtain ⟨shown, defined, switchedOn, -, spelledOut⟩ := of_decide_eq_true isDue
  exact decide_eq_true ⟨shown, defined, switchedOn, .inr rfl, spelledOut⟩

theorem written_sublist (present : m.references.Present) (takes : Contribution → Bool) (width : Nat) (explicit : Bool) :
    (((due m c ⟨false, explicit⟩).filter fun e => takes (g.entryOf m c ⟨false, explicit⟩ e)).map
        (g.written width m c ⟨false, explicit⟩)).Sublist
      (((due m c ⟨true, explicit⟩).filter fun e => takes (g.entryOf m c ⟨true, explicit⟩ e)).map
        (g.written width m c ⟨true, explicit⟩)) := by
  have same : ∀ e ∈ due m c ⟨false, explicit⟩,
      g.entryOf m c ⟨false, explicit⟩ e = g.entryOf m c ⟨true, explicit⟩ e := by
    intro e inside
    have insideToo := (due_sublist explicit).subset inside
    exact entryOf_congr (isSkipped_of_due present inside) (isSkipped_of_due present insideToo) fun _ => rfl
  have taken : ((due m c ⟨false, explicit⟩).filter fun e => takes (g.entryOf m c ⟨false, explicit⟩ e)) =
      (due m c ⟨false, explicit⟩).filter fun e => takes (g.entryOf m c ⟨true, explicit⟩ e) :=
    List.filter_congr fun e inside => by rw [same e inside]
  rw [taken, List.map_congr_left (g := g.written width m c ⟨true, explicit⟩)]
  · exact ((due_sublist explicit).filter _).map _
  · intro e chosen
    unfold written
    rw [same e (List.mem_of_mem_filter chosen)]

/-! ## Spelling booleans out -/

variable {showDefaults : Bool}

theorem isDue_plain_iff : IsDue m c ⟨showDefaults, false⟩ e ↔
    ¬ (e.2.kind = .boolean ∧ e.2.value = .bool false) ∧ IsDue m c ⟨showDefaults, true⟩ e := by
  constructor
  · rintro ⟨shown, defined, switchedOn, differs, spelledOut⟩
    exact ⟨fun off => spelledOut ⟨off.1, off.2, rfl⟩, shown, defined, switchedOn, differs, by simp⟩
  · rintro ⟨notOff, shown, defined, switchedOn, differs, -⟩
    exact ⟨shown, defined, switchedOn, differs, fun off => notOff ⟨off.1, off.2.1⟩⟩

/-- Where booleans are not spelled out, only those that are off are not due any more. -/
theorem due_plain : due m c ⟨showDefaults, false⟩ =
    (due m c ⟨showDefaults, true⟩).filter fun e => !(e.2.kind == .boolean && e.2.value == .bool false) := by
  unfold due
  rw [List.filter_filter]
  refine List.filter_congr fun e _ => ?_
  rw [Bool.eq_iff_iff, decide_eq_true_iff, isDue_plain_iff]
  simp only [Bool.and_eq_true, Bool.not_eq_true', decide_eq_true_eq, ← Bool.not_eq_true, beq_iff_eq]

theorem entryOf_switch (present : m.references.Present) {t : Toggles} (inside : e ∈ due m c t)
    (boolean : e.2.kind = .boolean) {b : Bool} (value : e.2.value = .bool b) :
    g.entryOf m c t e = .attribute (if t.explicitBoolean then Attribute.ofTruth g.target b else .bare) := by
  obtain ⟨-, defined, -, -, spelledOut⟩ : IsDue m c t e := of_decide_eq_true (List.mem_filter.1 inside).2
  have free : isTextSlot m.references e = false := by simp [isTextSlot, boolean]
  have noSwap : (e.2.kind == .instanceSwap && m.references.instances.contains e.1) = false := by simp [boolean]
  have entry : g.entryOf m c t e = g.attributeOf t false e.2 := by
    unfold entryOf contribution
    simp only [isSkipped_of_due present inside, free, noSwap, Bool.false_eq_true, if_false]
  rw [entry, attributeOf, Attribute.of_truth defined boolean value]
  cases explicit : t.explicitBoolean with
  | true => rfl
  | false =>
      cases b with
      | true => rfl
      | false =>
          -- a boolean that is off would not be due
          exact absurd ⟨boolean, value, explicit⟩ spelledOut

theorem unswitched_explicit (present : m.references.Present) (takes : Contribution → Bool) (width : Nat) :
    g.unswitched takes width m c ⟨showDefaults, true⟩ = g.unswitched takes width m c ⟨showDefaults, false⟩ := by
  have kept : ∀ e ∈ due m c ⟨showDefaults, true⟩, e.2.kind ≠ .boolean → e ∈ due m c ⟨showDefaults, false⟩ := by
    intro e inside other
    rw [due_plain, List.mem_filter]
    exact ⟨inside, by simp [other]⟩
  have same : ∀ e ∈ due m c ⟨showDefaults, true⟩, e.2.kind ≠ .boolean →
      g.entryOf m c ⟨showDefaults, true⟩ e = g.entryOf m c ⟨showDefaults, false⟩ e := by
    intro e inside other
    have insideToo := kept e inside other
    refine entryOf_congr (isSkipped_of_due present inside) (isSkipped_of_due present insideToo) fun slot => ?_
    unfold attributeOf
    rw [Attribute.of_explicit_congr other true false]
  have taken : (due m c ⟨showDefaults, true⟩).filter (fun e =>
        e.2.kind != .boolean && takes (g.entryOf m c ⟨showDefaults, true⟩ e)) =
      (due m c ⟨showDefaults, false⟩).filter fun e =>
        e.2.kind != .boolean && takes (g.entryOf m c ⟨showDefaults, false⟩ e) := by
    rw [due_plain, List.filter_filter]
    refine List.filter_congr fun e inside => ?_
    by_cases boolean : e.2.kind = .boolean
    · simp [boolean]
    · simp [boolean, same e inside boolean]
  unfold unswitched
  rw [← taken]
  refine List.map_congr_left fun e chosen => ?_
  obtain ⟨inside, picked⟩ := List.mem_filter.1 chosen
  have other : e.2.kind ≠ .boolean := by
    rw [Bool.and_eq_true, bne_iff_ne] at picked
    exact picked.1
  unfold written
  rw [same e inside other]

/-- Two choices among what is due are one if they agree on booleans of either value and on what is no boolean. -/
theorem filter_due_congr (fit : BooleansFit c) {t : Toggles} {p q : Key × PropertyValue → Bool}
    (switch : ∀ e ∈ due m c t, e.2.kind = .boolean → ∀ b, e.2.value = .bool b → p e = q e)
    (other : ∀ e ∈ due m c t, (e.2.kind == .boolean) = false → p e = q e) :
    (due m c t).filter p = (due m c t).filter q := by
  refine List.filter_congr fun e inside => ?_
  by_cases boolean : e.2.kind = .boolean
  · obtain ⟨b, value⟩ := fit e (List.mem_of_mem_filter inside) boolean
    exact switch e inside boolean b value
  · exact other e inside (beq_eq_false_iff_ne.2 boolean)

/-- No boolean makes a child. -/
theorem children_eq_unswitched (present : m.references.Present) (fit : BooleansFit c) (t : Toggles) (width : Nat) :
    g.children width m c t = ordered (g.unswitched Contribution.isChild width m c t) := by
  rw [children_eq present fit t width]
  unfold unswitched
  congr 2
  refine filter_due_congr fit (fun e inside boolean b value => ?_) fun e _ other => ?_
  · rw [entryOf_switch present inside boolean value]
    simp [boolean, Contribution.isChild]
  · rw [bne, other, Bool.not_false, Bool.true_and]

/-- Attributes are those of booleans and those of other properties. -/
theorem attributes_eq_unswitched (present : m.references.Present) (fit : BooleansFit c) (t : Toggles) :
    g.attributes m c t = ordered (g.unswitched (fun k => !k.isChild) 0 m c t ++
      ((due m c t).filter fun e => e.2.kind == .boolean).map (g.written 0 m c t)) := by
  have apart := List.filter_append_perm (fun e : Key × PropertyValue => e.2.kind != .boolean)
    ((due m c t).filter fun e => !(g.entryOf m c t e).isChild)
  have booleans : (due m c t).filter (fun e => (!(e.2.kind != .boolean)) && !(g.entryOf m c t e).isChild) =
      (due m c t).filter fun e => e.2.kind == .boolean := by
    refine filter_due_congr fit (fun e inside boolean b value => ?_) fun e _ other => ?_
    · rw [entryOf_switch present inside boolean value]
      simp [boolean, Contribution.isChild]
    · rw [bne, other, Bool.not_not, Bool.false_and]
  rw [List.filter_filter, List.filter_filter, booleans] at apart
  rw [attributes_eq present fit t 0]
  unfold ordered unswitched
  rw [← List.map_append, Sorting.sortPairs_eq_of_perm (apart.map (g.written 0 m c t))]

theorem written_switch (present : m.references.Present) {t : Toggles} {es : List (Key × PropertyValue)} {b : Bool}
    (each : ∀ e ∈ es, e ∈ due m c t ∧ e.2.kind = .boolean ∧ e.2.value = .bool b) :
    es.map (g.written 0 m c t) = spelled (if t.explicitBoolean then Attribute.ofTruth g.target b else .bare) es := by
  refine List.map_congr_left fun e inside => ?_
  obtain ⟨isDue, boolean, value⟩ := each e inside
  unfold written
  rw [entryOf_switch present isDue boolean value]
  rfl

theorem of_mem_switches {b : Bool} (inside : e ∈ switches m c showDefaults b) :
    e ∈ due m c ⟨showDefaults, true⟩ ∧ e.2.kind = .boolean ∧ e.2.value = .bool b := by
  obtain ⟨isDue, picked⟩ := List.mem_filter.1 inside
  rw [Bool.and_eq_true, beq_iff_eq, beq_iff_eq] at picked
  exact ⟨isDue, picked⟩

theorem booleans_plain (fit : BooleansFit c) :
    (due m c ⟨showDefaults, false⟩).filter (fun e => e.2.kind == .boolean) = switches m c showDefaults true := by
  unfold switches
  rw [due_plain, List.filter_filter]
  refine filter_due_congr fit (fun e _ boolean b value => ?_) fun e _ other => ?_
  · cases b <;> simp [boolean, value]
  · rw [other, Bool.false_and, Bool.false_and]

theorem booleans_perm (fit : BooleansFit c) :
    ((due m c ⟨showDefaults, true⟩).filter fun e => e.2.kind == .boolean).Perm
      (switches m c showDefaults true ++ switches m c showDefaults false) := by
  have apart := List.filter_append_perm (fun e : Key × PropertyValue => e.2.value == .bool true)
    ((due m c ⟨showDefaults, true⟩).filter fun e => e.2.kind == .boolean)
  have off : (due m c ⟨showDefaults, true⟩).filter (fun e => (!(e.2.value == .bool true)) && e.2.kind == .boolean) =
      switches m c showDefaults false := by
    refine filter_due_congr fit (fun e _ boolean b value => ?_) fun e _ other => ?_
    · cases b <;> simp [boolean, value]
    · rw [other, Bool.and_false, Bool.false_and]
  have on : (due m c ⟨showDefaults, true⟩).filter (fun e => e.2.value == .bool true && e.2.kind == .boolean) =
      switches m c showDefaults true :=
    List.filter_congr fun e _ => Bool.and_comm _ _
  rw [List.filter_filter, List.filter_filter, off, on] at apart
  exact apart.symm

/-! ## Both toggles -/

/-- What spelling booleans out does to the attributes and the children of a component. -/
structure RespellsBooleans (g : Generator) (m : Model) (c : Component) (showDefaults : Bool) : Prop where
  children : ∀ width, g.children width m c ⟨showDefaults, true⟩ = g.children width m c ⟨showDefaults, false⟩
  /-- The attributes of all other properties. -/
  others : g.unswitched (fun k => !k.isChild) 0 m c ⟨showDefaults, true⟩ =
    g.unswitched (fun k => !k.isChild) 0 m c ⟨showDefaults, false⟩
  bare : ∀ e ∈ due m c ⟨showDefaults, false⟩,
    (g.entryOf m c ⟨showDefaults, false⟩ e = .attribute .bare ↔ e ∈ switches m c showDefaults true)
  plain : g.attributes m c ⟨showDefaults, false⟩ =
    ordered (g.unswitched (fun k => !k.isChild) 0 m c ⟨showDefaults, false⟩ ++
      spelled .bare (switches m c showDefaults true))
  explicit : g.attributes m c ⟨showDefaults, true⟩ =
    ordered (g.unswitched (fun k => !k.isChild) 0 m c ⟨showDefaults, false⟩ ++
      (spelled (Attribute.ofTruth g.target true) (switches m c showDefaults true) ++
        spelled (Attribute.ofTruth g.target false) (switches m c showDefaults false)))

theorem mem_switches_of_plain (fit : BooleansFit c) (inside : e ∈ due m c ⟨showDefaults, false⟩)
    (boolean : e.2.kind = .boolean) : e ∈ switches m c showDefaults true := by
  rw [← booleans_plain fit]
  exact List.mem_filter.2 ⟨inside, beq_iff_eq.2 boolean⟩

theorem mem_plain_of_switches (fit : BooleansFit c) (inside : e ∈ switches m c showDefaults true) :
    e ∈ due m c ⟨showDefaults, false⟩ := by
  rw [← booleans_plain fit] at inside
  exact List.mem_of_mem_filter inside

theorem respellsBooleans_of_fit (present : m.references.Present) (fit : BooleansFit c) :
    g.RespellsBooleans m c showDefaults := by
  have others : g.unswitched (fun k => !k.isChild) 0 m c ⟨showDefaults, true⟩ =
      g.unswitched (fun k => !k.isChild) 0 m c ⟨showDefaults, false⟩ := unswitched_explicit present _ _
  refine ⟨?children, others, ?bare, ?plain, ?explicit⟩
  case children =>
    intro width
    rw [children_eq_unswitched present fit, children_eq_unswitched present fit, unswitched_explicit present]
  case bare =>
    intro e inside
    constructor
    · exact fun written => mem_switches_of_plain fit inside (boolean_of_entry_bare written)
    · intro on
      obtain ⟨-, boolean, value⟩ := of_mem_switches on
      exact entryOf_switch present inside boolean value
  case plain =>
    rw [attributes_eq_unswitched present fit, booleans_plain fit, written_switch present (b := true)]
    · rfl
    · intro e on
      exact ⟨mem_plain_of_switches fit on, (of_mem_switches on).2⟩
  case explicit =>
    have each (b : Bool) : (switches m c showDefaults b).map (g.written 0 m c ⟨showDefaults, true⟩) =
        spelled (Attribute.ofTruth g.target b) (switches m c showDefaults b) :=
      written_switch present fun e inside => of_mem_switches inside
    have booleans : (((due m c ⟨showDefaults, true⟩).filter fun e => e.2.kind == .boolean).map
        (g.written 0 m c ⟨showDefaults, true⟩)).Perm
        (spelled (Attribute.ofTruth g.target true) (switches m c showDefaults true) ++
          spelled (Attribute.ofTruth g.target false) (switches m c showDefaults false)) := by
      rw [← each true, ← each false, ← List.map_append]
      exact (booleans_perm fit).map _
    rw [attributes_eq_unswitched present fit, others]
    exact congrArg (List.map Prod.snd) (Sorting.sortPairs_eq_of_perm (booleans.append_left _))

end Toggles

/-- In every model that is built, showing defaults only adds to the attributes and to the children of a component, and
spelling booleans out only respells and adds booleans, whatever the other toggle says. -/
theorem toggles_respell {subjects : List Subject} {m : Model} (built : Model.ofSubjects subjects = .ok m) {id : String}
    {c : Component} (stored : m.components.get? id = some c) (g : Generator) :
    (∀ explicit, (g.attributes m c ⟨false, explicit⟩).Sublist (g.attributes m c ⟨true, explicit⟩) ∧
      ∀ width, (g.children width m c ⟨false, explicit⟩).Sublist (g.children width m c ⟨true, explicit⟩)) ∧
    ∀ showDefaults, g.RespellsBooleans m c showDefaults := by
  obtain rfl := Model.addAll_eq_addEach _ _ _ (Model.addAll_of_ofSubjects built)
  have present := Model.present_addEach subjects
  have fit := booleansFit_of_stored stored
  refine ⟨fun explicit => ⟨?attributes, fun width => ?children⟩, ?respelled⟩
  case attributes =>
    rw [attributes_eq present fit _ 0, attributes_eq present fit _ 0]
    exact (Sorting.sortPairs_sublist (written_sublist present (fun k => !k.isChild) 0 explicit)).map Prod.snd
  case children =>
    rw [children_eq present fit, children_eq present fit]
    exact (Sorting.sortPairs_sublist (written_sublist present Contribution.isChild width explicit)).map Prod.snd
  case respelled => exact fun showDefaults => respellsBooleans_of_fit present fit

/-- A tile whose title is written, and whose switch is off where booleans are spelled out. -/
theorem toggles_respell_tile : ∃ m c, Model.ofSubjects [tileInstance] = .ok m ∧ m.components.get? "3:1" = some c ∧
    (switches m c false false).map Prod.fst = [.text "Has Icon"] ∧
    ∀ g : Generator, g.RespellsBooleans m c false := by
  have built : Model.ofSubjects [tileInstance] = .ok _ := rfl
  refine ⟨_, _, built, rfl, rfl, fun g => ?_⟩
  exact (toggles_respell built (show OrderedMap.get? _ "3:1" = some _ from rfl) g).2 false

end Generator

end DesignProps
