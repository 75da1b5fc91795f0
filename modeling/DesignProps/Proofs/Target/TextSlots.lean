import DesignProps.Proofs.Target.Content

/-!
# Text slots

The texts of a component that are bound as such compete for its children, whether or not they are due.  A single one is
plain content.  Of several, a target with named slots gives each a block of its own, and the other target writes each as
an attribute that holds an element, so that its element has no children.

Main statements: `Generator.mem_textSlots`, `Generator.children_react_eq_nil_iff`, `Generator.slots_placed`.
-/

set_option autoImplicit false

namespace DesignProps

/-- A contribution stands in an element, as the property of that name writes it. -/
def Contribution.In (width : Nat) (name : String) (el : Element) : Contribution → Prop
  | .nothing => False
  | .attribute a => a.write name ∈ el.attributes
  | .child s => s.write width ∈ el.children

namespace Element

/-- An element with children is longer than its opening tag alone. -/
theorem render_ne_opening {e : Element} (filled : e.children ≠ []) (width : Nat) :
    e.render width ≠ "<" ++ e.opening ++ " />" := by
  intro same
  have lengths := congrArg String.length same
  unfold render at lengths
  split at lengths
  · next none => exact filled none
  · split at lengths
    · simp only [String.length_append, show "<".length = 1 from rfl, show ">".length = 1 from rfl,
        show "</".length = 2 from rfl, show " />".length = 3 from rfl] at lengths
      omega
    · simp only [String.length_append, show "<".length = 1 from rfl, show ">".length = 1 from rfl,
        show ">\n".length = 2 from rfl, show "\n</".length = 3 from rfl, show " />".length = 3 from rfl] at lengths
      omega

end Element

namespace Generator

/-- The texts that compete for a component's children. -/
def textSlots (m : Model) (c : Component) : List (Key × PropertyValue) :=
  (visible (m.definitionsOf c.definition) c).filter (isTextSlot m.references)

/-- The property puts this into the element, and there it stands. -/
structure Shows (g : Generator) (width : Nat) (m : Model) (c : Component) (t : Toggles) (e : Key × PropertyValue)
    (k : Contribution) : Prop where
  entry : g.entryOf m c t e = k
  within : k.In width (Naming.identifier e.1) (g.element width m c t)

section Slots
variable {g : Generator} {m : Model} {c : Component} {t : Toggles} {e : Key × PropertyValue}

theorem mem_textSlots : e ∈ textSlots m c ↔
    e ∈ c.properties.entries ∧ isHidden (m.definitionsOf c.definition) e.1 = false ∧ e.2.kind = .text ∧
      m.references.isTextBound e.1 = true := by
  simp only [textSlots, visible, isTextSlot, List.mem_filter, Bool.not_eq_true', Bool.and_eq_true, beq_iff_eq,
    and_assoc]

theorem mem_attributes {name : String} {a : Attribute} (listed : (name, .attribute a) ∈ g.contributions m c t) :
    a.write name ∈ g.attributes m c t := by
  have read : (name, a.write name) ∈ (g.contributions m c t).filterMap attributeText :=
    List.mem_filterMap.2 ⟨_, listed, rfl⟩
  unfold attributes
  exact List.mem_map.2 ⟨(name, a.write name), (Sorting.sortPairs_perm _).mem_iff.2 read, rfl⟩

theorem mem_children {name : String} {s : Slot} (listed : (name, .child s) ∈ g.contributions m c t) (width : Nat) :
    s.write width ∈ g.children width m c t := by
  have read : (name, s.write width) ∈ (g.contributions m c t).filterMap (childText width) :=
    List.mem_filterMap.2 ⟨_, listed, rfl⟩
  unfold children
  exact List.mem_map.2 ⟨(name, s.write width), (Sorting.sortPairs_perm _).mem_iff.2 read, rfl⟩

theorem shows_of_entry {k : Contribution} (inside : e ∈ due m c t) (entry : g.entryOf m c t e = k)
    (something : k ≠ .nothing) (width : Nat) : g.Shows width m c t e k := by
  refine ⟨entry, ?_⟩
  have listed : (Naming.identifier e.1, k) ∈ g.contributions m c t :=
    List.mem_map.2 ⟨e, visible_of_mem_due inside, by rw [← entry]; rfl⟩
  match k, something with
  | .nothing, something => exact absurd rfl something
  | .attribute a, _ => exact mem_attributes listed
  | .child s, _ => exact mem_children listed width

/-! ## Contributions of what is due -/

theorem entryOf_of_slot (present : m.references.Present) (inside : e ∈ due m c t) (slot : e ∈ textSlots m c) :
    g.entryOf m c t e =
      if slotCount m c ≤ 1 ∨ g.target.namedSlots then
        .child (.of g.target g.slotTag e.1 (slotCount m c) (slotCount m c == 1) e.2.value.asText)
      else g.attributeOf t true e.2 := by
  have bound : isTextSlot m.references e = true := (List.mem_filter.1 slot).2
  simp only [entryOf, contribution, isSkipped_of_due present inside, bound, Bool.false_eq_true, if_false, if_true]

theorem entryOf_single (present : m.references.Present) (inside : e ∈ due m c t) (only : textSlots m c = [e]) :
    g.entryOf m c t e = .child (.text e.2.value.asText) := by
  have count : slotCount m c = 1 := congrArg List.length only
  rw [entryOf_of_slot present inside (only ▸ List.mem_singleton.2 rfl), count, if_pos (.inl (Nat.le_refl 1))]
  exact congrArg Contribution.child (Slot.of_single g.target g.slotTag e.1 e.2.value.asText)

theorem entryOf_several_react (present : m.references.Present) (react : g.target = .react)
    (several : 1 < (textSlots m c).length) (inside : e ∈ due m c t) (slot : e ∈ textSlots m c) :
    g.entryOf m c t e = .attribute
      (if g.config.slotTag.truthy then .braced (Attribute.wrapped g.slotTag e.2.value.asText)
        else Attribute.quotedOrBraced e.2.value) := by
  have crowded : ¬ (slotCount m c ≤ 1 ∨ g.target.namedSlots = true) := by
    rw [react]
    rintro (few | named)
    · exact absurd several (Nat.not_lt.2 few)
    · exact Bool.false_ne_true named
  have text : e.2.kind = .text := (mem_textSlots.1 slot).2.2.1
  have defined : e.2.undefined = false := (of_decide_eq_true (List.mem_filter.1 inside).2 : IsDue m c t e).defined
  rw [entryOf_of_slot present inside slot, if_neg crowded]
  unfold attributeOf Attribute.of Attribute.react wrapperTag
  simp only [defined, react, text, if_true, Bool.false_eq_true, if_false]
  cases g.config.slotTag.truthy <;> rfl

theorem entryOf_several_vue (present : m.references.Present) (vue : g.target = .vue)
    (several : 1 < (textSlots m c).length) (inside : e ∈ due m c t) (slot : e ∈ textSlots m c) :
    g.entryOf m c t e = .child (.named (Naming.identifier e.1) (Slot.tagged g.slotTag e.2.value.asText)) := by
  have crowded : 1 < slotCount m c := several
  have shared : (1 : Int) < slotCount m c ∧ (slotCount m c == 1) = false := by
    refine ⟨by omega, ?_⟩
    simp only [beq_eq_false_iff_ne, ne_eq]
    omega
  rw [entryOf_of_slot present inside slot, vue, if_pos (.inr rfl)]
  simp only [Slot.of, if_pos shared]

/-- What is due and no text slot is an attribute, written without an element around it, or an instance that has a slot
of its own. -/
theorem entryOf_other (present : m.references.Present) (fit : BooleansFit c) (inside : e ∈ due m c t)
    (other : e ∉ textSlots m c) :
    (∃ a, Attribute.of g t.explicitBoolean none e.2 = some a ∧ g.entryOf m c t e = .attribute a) ∨
      e.2.kind = .instanceSwap ∧
        ∃ s, Slot.ofInstance g e.1 e.2.value.asText = some s ∧ g.entryOf m c t e = .child s := by
  have free : isTextSlot m.references e = false :=
    Bool.eq_false_iff.2 fun bound => other (List.mem_filter.2 ⟨visible_of_mem_due inside, bound⟩)
  obtain ⟨listed, isDue⟩ := List.mem_filter.1 inside
  have something : g.entryOf m c t e ≠ .nothing := ((isDue_iff g present fit listed _).1 (of_decide_eq_true isDue)).2
  have beside : g.entryOf m c t e = g.attributeOf t false e.2 →
      ∃ a, Attribute.of g t.explicitBoolean none e.2 = some a ∧ g.entryOf m c t e = .attribute a := by
    intro plain
    have made : g.attributeOf t false e.2 ≠ .nothing := plain ▸ something
    rw [plain]
    unfold attributeOf at made ⊢
    simp only [Bool.false_eq_true, if_false] at made ⊢
    cases found : Attribute.of g t.explicitBoolean none e.2 with
    | none => simp [found] at made
    | some a => exact ⟨a, rfl, rfl⟩
  have kept := isSkipped_of_due present inside
  by_cases swap : (e.2.kind == .instanceSwap && m.references.instances.contains e.1) = true
  · have isSwap : e.2.kind = .instanceSwap := beq_iff_eq.1 (Bool.and_eq_true_iff.1 swap).1
    cases given : Slot.ofInstance g e.1 e.2.value.asText with
    | none =>
        refine .inl (beside ?_)
        simp only [entryOf, contribution, kept, free, swap, given, Bool.false_eq_true, if_false, if_true]
    | some s =>
        refine .inr ⟨isSwap, s, rfl, ?_⟩
        simp only [entryOf, contribution, kept, free, swap, given, Bool.false_eq_true, if_false, if_true]
  · refine .inl (beside ?_)
    simp only [entryOf, contribution, kept, free, swap, Bool.false_eq_true, if_false]

/-! ## Children -/

/-- Without named slots, only a single text slot that is due makes a child. -/
theorem children_react_eq_nil_iff (present : m.references.Present) (fit : BooleansFit c) (react : g.target = .react)
    (width : Nat) : (g.element width m c t).children = [] ↔ ¬ ∃ e, textSlots m c = [e] ∧ e ∈ due m c t := by
  constructor
  · rintro empty ⟨e, only, inside⟩
    have within := (shows_of_entry inside (entryOf_single (g := g) present inside only) (by simp) width).within
    simp only [Contribution.In, empty, List.not_mem_nil] at within
  · intro vacant
    have childless : ∀ e ∈ due m c t, (g.entryOf m c t e).isChild = false := by
      intro e inside
      by_cases slot : e ∈ textSlots m c
      · have several : 1 < (textSlots m c).length := by
          by_contra few
          obtain ⟨only, alone⟩ : ∃ a, textSlots m c = [a] := by
            refine List.length_eq_one_iff.1 ?_
            have := List.length_pos_of_mem slot
            omega
          rw [alone, List.mem_singleton] at slot
          exact vacant ⟨e, slot ▸ alone, inside⟩
        rw [entryOf_several_react present react several inside slot]
        rfl
      · rcases entryOf_other (g := g) present fit inside slot with ⟨a, -, entry⟩ | ⟨-, s, given, -⟩
        · rw [entry]
          rfl
        · simp [Slot.ofInstance, react] at given
    have none : (due m c t).filter (fun e => (g.entryOf m c t e).isChild) = [] :=
      List.filter_eq_nil_iff.2 fun e inside => by simp [childless e inside]
    simp only [element, children, filterMap_childText present fit g t width, none, List.map_nil]
    rfl

theorem opening_of_width (v w : Nat) : (g.element v m c t).opening = (g.element w m c t).opening := by
  simp only [Element.opening, element]

/-- What a component is written as is its element, rendered with some width. -/
theorem exists_width_of_formatInstance {text : String} (written : g.formatInstance m c t = .ok text) :
    ∃ width, (g.element width m c t).render width = text := by
  unfold formatInstance at written
  dsimp only at written
  split at written
  · exact ⟨0, Except.ok.inj written⟩
  · obtain ⟨width, -, rendered⟩ := map_eq_ok_iff.1 written
    exact ⟨width, rendered⟩

theorem formatInstance_of_childless (childless : (g.element 0 m c t).children = []) :
    g.formatInstance m c t = .ok ((g.element 0 m c t).render 0) := by
  have inline : (g.element 0 m c t).isInline = true := by simp only [Element.isInline, childless]
  simp only [formatInstance, inline, if_true]

theorem formatInstance_react_iff (present : m.references.Present) (fit : BooleansFit c) (react : g.target = .react) :
    g.formatInstance m c t = .ok ("<" ++ (g.element 0 m c t).opening ++ " />") ↔
      ¬ ∃ e, textSlots m c = [e] ∧ e ∈ due m c t := by
  rw [← children_react_eq_nil_iff (g := g) present fit react 0]
  constructor
  · intro closed
    by_contra filled
    obtain ⟨w, closed⟩ := exists_width_of_formatInstance closed
    have filledToo : (g.element w m c t).children ≠ [] := by
      rwa [ne_eq, children_react_eq_nil_iff present fit react w,
        ← children_react_eq_nil_iff (g := g) present fit react 0]
    rw [opening_of_width 0 w] at closed
    exact Element.render_ne_opening filledToo w closed
  · intro empty
    have closed : (g.element 0 m c t).render 0 = "<" ++ (g.element 0 m c t).opening ++ " />" := by
      simp only [Element.render, empty]
    rw [formatInstance_of_childless empty, closed]

end Slots

/-! ## Models that were built -/

/-- Where the number of text slots puts them. -/
structure SlotsPlaced (g : Generator) (m : Model) (c : Component) (t : Toggles) : Prop where
  /-- What is due and no text slot is never written as one. -/
  others : ∀ e ∈ due m c t, e ∉ textSlots m c →
    (∃ a, Attribute.of g t.explicitBoolean none e.2 = some a ∧ ∀ width, g.Shows width m c t e (.attribute a)) ∨
      e.2.kind = .instanceSwap ∧
        ∃ s, Slot.ofInstance g e.1 e.2.value.asText = some s ∧ ∀ width, g.Shows width m c t e (.child s)
  single : ∀ e ∈ due m c t, textSlots m c = [e] →
    ∃ text, e.2.value = .text text ∧ ∀ width, g.Shows width m c t e (.child (.text text))
  /-- A tag that counts as absent wraps nothing. -/
  severalReact : g.target = .react → 1 < (textSlots m c).length → ∀ e ∈ due m c t, e ∈ textSlots m c →
    ∃ text, e.2.value = .text text ∧ ∀ width, g.Shows width m c t e (.attribute
      (if g.config.slotTag.truthy then .braced (Attribute.wrapped g.slotTag text)
        else Attribute.quotedOrBraced (.text text)))
  childless : g.target = .react → 1 < (textSlots m c).length → ∀ width, (g.element width m c t).children = []
  severalVue : g.target = .vue → 1 < (textSlots m c).length → ∀ e ∈ due m c t, e ∈ textSlots m c →
    ∃ text, e.2.value = .text text ∧
      ∀ width, g.Shows width m c t e (.child (.named (Naming.identifier e.1) (Slot.tagged g.slotTag text)))
  closesItself : g.target = .react →
    (g.formatInstance m c t = .ok ("<" ++ (g.element 0 m c t).opening ++ " />") ↔
      ¬ ∃ e, textSlots m c = [e] ∧ e ∈ due m c t)

theorem text_of_slot {m : Model} {c : Component} {e : Key × PropertyValue}
    (admitted : ∀ e ∈ c.properties.entries, e.2.kind.admits e.2.value = true) (slot : e ∈ textSlots m c) :
    ∃ text, e.2.value = .text text := by
  obtain ⟨inside, -, text, -⟩ := mem_textSlots.1 slot
  have admits := admitted e inside
  rw [text] at admits
  exact PropertyKind.exists_text rfl admits

/-- In every model that is built, the number of text slots of a component decides where those that are due are placed,
for both targets and all toggles. -/
theorem slots_placed {subjects : List Subject} {m : Model} (built : Model.ofSubjects subjects = .ok m) {id : String}
    {c : Component} (stored : m.components.get? id = some c) (g : Generator) (t : Toggles) : g.SlotsPlaced m c t := by
  obtain rfl := Model.addAll_eq_addEach _ _ _ (Model.addAll_of_ofSubjects built)
  have present := Model.present_addEach subjects
  have fit := booleansFit_of_stored stored
  have admitted := Model.admits_of_stored stored
  refine ⟨?others, ?single, ?severalReact, ?childless, ?severalVue, formatInstance_react_iff present fit⟩
  case others =>
    intro e inside other
    rcases entryOf_other present fit inside other with ⟨a, made, entry⟩ | ⟨swap, s, made, entry⟩
    · exact .inl ⟨a, made, shows_of_entry inside entry (by simp)⟩
    · exact .inr ⟨swap, s, made, shows_of_entry inside entry (by simp)⟩
  case single =>
    intro e inside only
    obtain ⟨text, value⟩ := text_of_slot admitted (only ▸ List.mem_singleton.2 rfl)
    refine ⟨text, value, shows_of_entry inside ?_ (by simp)⟩
    rw [entryOf_single present inside only, value]
    rfl
  case severalReact =>
    intro react several e inside slot
    obtain ⟨text, value⟩ := text_of_slot admitted slot
    refine ⟨text, value, shows_of_entry inside ?_ (by simp)⟩
    rw [entryOf_several_react present react several inside slot, value]
    rfl
  case childless =>
    intro react several width
    rw [children_react_eq_nil_iff present fit react]
    rintro ⟨e, only, -⟩
    rw [only] at several
    exact Nat.lt_irrefl 1 several
  case severalVue =>
    intro vue several e inside slot
    obtain ⟨text, value⟩ := text_of_slot admitted slot
    refine ⟨text, value, shows_of_entry inside ?_ (by simp)⟩
    rw [entryOf_several_vue present vue several inside slot, value]
    rfl

/-! A card with two texts that are bound as such. -/

def cardTitle : Key × PropertyValue := (.text "Title", ⟨"title", .text, .text "a", true, false⟩)

def cardBody : Key × PropertyValue := (.text "Body", ⟨"body", .text, .text "b", true, false⟩)

def card : Subject where
  node := .mk
    { id := "1:1"
      name := "card"
      type := "COMPONENT"
      definitions := .ofList
        [(.text "Title", .obj [("type", .str "TEXT"), ("defaultValue", .str "a")]),
          (.text "Body", .obj [("type", .str "TEXT"), ("defaultValue", .str "b")])]
      properties := .empty
      references := .empty
      mainId := .null } .none
    [boundNode (.ofList [(.text "characters", .str "Title")]), boundNode (.ofList [(.text "characters", .str "Body")])]
  main := none

theorem slots_placed_card : ∃ m c, Model.ofSubjects [card] = .ok m ∧ m.components.get? "1:1" = some c ∧
    textSlots m c = [cardTitle, cardBody] ∧ due m c ⟨true, false⟩ = [cardTitle, cardBody] ∧
    ∀ g : Generator, g.SlotsPlaced m c ⟨true, false⟩ := by
  have built : Model.ofSubjects [card] = .ok _ := rfl
  refine ⟨_, _, built, rfl, rfl, rfl, fun g => ?_⟩
  exact slots_placed built (show OrderedMap.get? _ "1:1" = some _ from rfl) g ⟨true, false⟩

/-- A configuration whose tag is empty. -/
def untagged : Generator := ⟨.react, { Config.base with slotTag := .str "" }, fun _ => none⟩

/-- Without a tag, one of several texts is an attribute that holds no element. -/
theorem untagged_unwrapped : ∃ m c, Model.ofSubjects [card] = .ok m ∧ m.components.get? "1:1" = some c ∧
    textSlots m c = [cardTitle, cardBody] ∧ due m c ⟨true, false⟩ = [cardTitle, cardBody] ∧
    untagged.entryOf m c ⟨true, false⟩ cardTitle ≠ .attribute (.braced (Attribute.wrapped untagged.slotTag "a")) ∧
    (untagged.element 0 m c ⟨true, false⟩).attributes = ["body=\"b\"", "title=\"a\""] := by
  exact ⟨_, _, rfl, rfl, rfl, rfl, by decide, by decide⟩

end Generator

end DesignProps
