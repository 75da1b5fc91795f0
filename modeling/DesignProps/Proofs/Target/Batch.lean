import DesignProps.Formatting
import DesignProps.Proofs.Document.Reach
import DesignProps.Proofs.Model.Built
import Mathlib.Data.List.Nodup

/-!
# A node in a batch and alone

All nodes that are formatted together share one reference map.  A node of the batch has the component and the
definitions it would have alone; its element is the same wherever the shared map answers like its own one for the
properties it shows.

Main statements: `Generator.formatInstance_congr` (all an element reads of the references), `Index.model_alone` (what a
node has in common with itself alone), `Index.formatInstance_batch`.
-/

set_option autoImplicit false

namespace DesignProps

/-! ## What an element reads of the references -/

namespace Generator

/-- Two reference maps say the same of the properties that a component shows: which texts are slots, and by what key a
swapped instance is shown or hidden. -/
structure ReadsAlike (a b : ReferenceMap) (shown : List (Key × PropertyValue)) : Prop where
  slots : ∀ e ∈ shown, e.2.kind = .text → a.isTextBound e.1 = b.isTextBound e.1
  swaps : ∀ e ∈ shown, e.2.kind = .instanceSwap →
    (a.instances.get? e.1).map InstanceReference.visible = (b.instances.get? e.1).map InstanceReference.visible

section Alike
variable {a b : ReferenceMap} {shown : List (Key × PropertyValue)} {e : Key × PropertyValue}

theorem isTextSlot_congr (alike : ReadsAlike a b shown) (inside : e ∈ shown) : isTextSlot a e = isTextSlot b e := by
  unfold isTextSlot
  cases text : e.2.kind == PropertyKind.text with
  | false => simp
  | true => rw [alike.slots e inside (eq_of_beq text)]

theorem isToggledOff_congr (alike : ReadsAlike a b shown) (inside : e ∈ shown) (c : Component) :
    (e.2.kind == PropertyKind.instanceSwap && isToggledOff a c e.1) =
      (e.2.kind == PropertyKind.instanceSwap && isToggledOff b c e.1) := by
  cases swap : e.2.kind == PropertyKind.instanceSwap with
  | false => simp
  | true =>
      have same := alike.swaps e inside (eq_of_beq swap)
      unfold isToggledOff
      cases first : a.instances.get? e.1 with
      | none =>
          have other : b.instances.get? e.1 = none := by simpa [first] using same.symm
          simp [other]
      | some r =>
          obtain ⟨q, other, visible⟩ : ∃ q, b.instances.get? e.1 = some q ∧ q.visible = r.visible := by
            simpa [first] using same.symm
          simp only [other, visible]

theorem instances_contains_congr (alike : ReadsAlike a b shown) (inside : e ∈ shown) :
    (e.2.kind == PropertyKind.instanceSwap && a.instances.contains e.1) =
      (e.2.kind == PropertyKind.instanceSwap && b.instances.contains e.1) := by
  cases swap : e.2.kind == PropertyKind.instanceSwap with
  | false => simp
  | true =>
      have same := congrArg Option.isSome (alike.swaps e inside (eq_of_beq swap))
      simpa [OrderedMap.contains] using same

end Alike

theorem contributions_congr {m n : Model} {c : Component}
    (filed : m.definitionsOf c.definition = n.definitionsOf c.definition)
    (alike : ReadsAlike m.references n.references (visible (m.definitionsOf c.definition) c)) (g : Generator)
    (t : Toggles) : g.contributions m c t = g.contributions n c t := by
  have count : slotCount m c = slotCount n c := by
    unfold slotCount
    rw [← filed]
    exact congrArg List.length (List.filter_congr fun e inside => isTextSlot_congr alike inside)
  unfold contributions
  rw [← filed, ← count]
  refine List.map_congr_left fun e inside => ?_
  unfold contribution isSkipped
  rw [isTextSlot_congr alike inside, isToggledOff_congr alike inside c, instances_contains_congr alike inside]

/-- An element is made of the component, its definitions, and what the references say of the properties it shows. -/
theorem formatInstance_congr {m n : Model} {c : Component}
    (filed : m.definitionsOf c.definition = n.definitionsOf c.definition)
    (alike : ReadsAlike m.references n.references (visible (m.definitionsOf c.definition) c)) (g : Generator)
    (t : Toggles) : g.formatInstance m c t = g.formatInstance n c t :=
  formatInstance_of_perm rfl (.of_eq (contributions_congr filed alike g t))

/-- Nothing that a batch is bound to changes what a node's own references say of the properties it shows: a text that
any node of the batch binds is bound by the node itself, and the last node that binds a swapped instance binds it as
the node itself does. -/
structure Unaffected (own : ReferenceMap) (batch : List ReferenceMap) (shown : List (Key × PropertyValue)) : Prop where
  slots : ∀ e ∈ shown, e.2.kind = .text → ∀ r ∈ batch, r.isTextBound e.1 = true → own.isTextBound e.1 = true
  swaps : ∀ e ∈ shown, e.2.kind = .instanceSwap →
    (batch.reverse.findSome? fun r => r.instances.get? e.1).map InstanceReference.visible =
      (own.instances.get? e.1).map InstanceReference.visible

/-- That is exactly when the merged map and the node's own one are read alike. -/
theorem readsAlike_iff_unaffected {own : ReferenceMap} {batch : List ReferenceMap} (member : own ∈ batch)
    (shown : List (Key × PropertyValue)) :
    ReadsAlike (ReferenceMap.empty.mergeAll batch) (ReferenceMap.empty.merge own) shown ↔
      Unaffected own batch shown := by
  have bound : ∀ key, (ReferenceMap.empty.mergeAll batch).isTextBound key = batch.any fun r => r.isTextBound key :=
    fun key => ReferenceMap.isTextBound_mergeAll key batch .empty
  have boundAlone : ∀ key, (ReferenceMap.empty.merge own).isTextBound key = own.isTextBound key :=
    fun key => ReferenceMap.isTextBound_merge .empty own key
  have driven : ∀ key, (ReferenceMap.empty.mergeAll batch).instances.get? key =
      batch.reverse.findSome? fun r => r.instances.get? key := by
    intro key
    rw [ReferenceMap.get?_instances_mergeAll]
    exact Option.or_none
  have drivenAlone : ∀ key, (ReferenceMap.empty.merge own).instances.get? key = own.instances.get? key := by
    intro key
    rw [ReferenceMap.get?_instances_merge]
    exact Option.or_none
  constructor
  · intro alike
    refine ⟨fun e inside text r among bindsIt => ?_, fun e inside swap => ?_⟩
    · rw [← boundAlone, ← alike.slots e inside text, bound]
      exact List.any_eq_true.2 ⟨r, among, bindsIt⟩
    · rw [← driven, ← drivenAlone]
      exact alike.swaps e inside swap
  · intro unaffected
    refine ⟨fun e inside text => ?_, fun e inside swap => ?_⟩
    · rw [bound, boundAlone, Bool.eq_iff_iff, List.any_eq_true]
      constructor
      · rintro ⟨r, among, bindsIt⟩
        exact unaffected.slots e inside text r among bindsIt
      · exact fun bindsIt => ⟨own, member, bindsIt⟩
    · rw [driven, drivenAlone]
      exact unaffected.swaps e inside swap

end Generator

/-! ## Models of a batch and of one node -/

namespace Index

/-- Ids tell the nodes of a document apart, those that are embedded included. -/
def IdsTellApart (roots : List Node) : Prop :=
  ∀ a ∈ Node.reachAll roots, ∀ b ∈ Node.reachAll roots, a.id = b.id → a = b

theorem idsTellApart_of_nodup {roots : List Node} (distinct : ((Node.reachAll roots).map Node.id).Nodup) :
    IdsTellApart roots :=
  fun _ first _ second same => List.inj_on_of_nodup_map distinct first second same

theorem mem_subjects {ix : Index} {ids : List String} {s : Subject} :
    s ∈ ix.subjects (some ids) ↔ ∃ id ∈ ids, ∃ o, ix.resolve id = some o ∧ s = Subject.ofOccurrence ix o := by
  simp only [subjects, relevant, List.mem_map, List.mem_filterMap]
  constructor
  · rintro ⟨o, ⟨id, listed, found⟩, rfl⟩
    exact ⟨id, listed, o, found, rfl⟩
  · rintro ⟨id, listed, o, found, rfl⟩
    exact ⟨o, ⟨id, listed, found⟩, rfl⟩

theorem reach_of_source {roots : List Node} {o : Occurrence} (within : o.Within (Node.reachAll roots) [])
    {source : Node} (given : (Subject.ofOccurrence (ofRoots roots) o).source = some source) :
    source ∈ Node.reachAll roots := by
  unfold Subject.source Subject.ofOccurrence at given
  split at given
  · obtain ⟨main, linked, chosen⟩ := Option.map_eq_some_iff.1 given
    obtain ⟨inside, above⟩ := reach_of_main within linked
    unfold Located.parent? at chosen
    split at chosen
    · next parent nearest =>
        split at chosen
        · rw [← chosen]
          exact above parent (List.mem_of_mem_head? nearest)
        · rwa [← chosen]
    · rwa [← chosen]
  · obtain rfl := Option.some.inj given
    exact within.reach _ (Node.mem_reach_self _)

/-- A node that files its definitions under the id of a definition node has this definition node itself, or none. -/
theorem source_of_same_id {roots : List Node} (apart : IdsTellApart roots) {o p : Occurrence}
    (within : o.Within (Node.reachAll roots) []) (also : p.Within (Node.reachAll roots) []) {source : Node}
    (given : (Subject.ofOccurrence (ofRoots roots) o).source = some source)
    (same : (Subject.ofOccurrence (ofRoots roots) p).definitionId = source.id)
    (present : (Subject.ofOccurrence (ofRoots roots) p).source.isSome = true) :
    (Subject.ofOccurrence (ofRoots roots) p).source = some source := by
  obtain ⟨other, found⟩ := Option.isSome_iff_exists.1 present
  have names : other.id = source.id := by simpa only [Subject.definitionId, found] using same
  rw [found, apart other (reach_of_source also found) source (reach_of_source within given) names]

/-- Nodes that file their definitions under one id have the same raw definitions, unless one of them has none to
file. -/
theorem rawDefinitions_of_same_id {roots : List Node} (apart : IdsTellApart roots) {ids : List String}
    {s t : Subject} (first : s ∈ (ofRoots roots).subjects (some ids))
    (second : t ∈ (ofRoots roots).subjects (some ids)) (same : t.definitionId = s.definitionId)
    (alike : t.source.isSome = s.source.isSome) : t.rawDefinitions = s.rawDefinitions := by
  obtain ⟨_, _, o, found, rfl⟩ := mem_subjects.1 first
  obtain ⟨_, _, p, resolved, rfl⟩ := mem_subjects.1 second
  cases given : (Subject.ofOccurrence (ofRoots roots) o).source with
  | none =>
      have absent : (Subject.ofOccurrence (ofRoots roots) p).source = none := by simpa [given] using alike
      simp only [Subject.rawDefinitions, given, absent]
  | some source =>
      have present : (Subject.ofOccurrence (ofRoots roots) p).source.isSome = true := by
        rw [alike, given, Option.isSome_some]
      have under : (Subject.ofOccurrence (ofRoots roots) p).definitionId = source.id := by
        simpa only [Subject.definitionId, given] using same
      have shared : (Subject.ofOccurrence (ofRoots roots) p).source = some source :=
        source_of_same_id apart (within_of_resolve found).2 (within_of_resolve resolved).2 given under present
      simp only [Subject.rawDefinitions, given, shared]

theorem subject_of_id {roots : List Node} {ids : List String} {i : String} {o : Occurrence}
    (found : (ofRoots roots).resolve i = some o) {t : Subject} (inside : t ∈ (ofRoots roots).subjects (some ids))
    (named : t.node.id = i) : t = Subject.ofOccurrence (ofRoots roots) o := by
  obtain ⟨id, _, p, resolved, rfl⟩ := mem_subjects.1 inside
  have : id = i := (within_of_resolve resolved).1.symm.trans named
  rw [this, found] at resolved
  rw [Option.some.inj resolved]

def bindingMaps (ix : Index) (ids : List String) : List ReferenceMap :=
  (ix.subjects (some ids)).filterMap Subject.bindings?

theorem normalized_of_filed {roots : List Node} (apart : IdsTellApart roots) {ids : List String} {s : Subject}
    (inside : s ∈ (ofRoots roots).subjects (some ids))
    (unmixed : ∀ t ∈ (ofRoots roots).subjects (some ids), t.definitionId = s.definitionId →
      t.source.isSome = s.source.isSome)
    {definitions : PropertyDefinitions}
    (filed : (Model.empty.addEach ((ofRoots roots).subjects (some ids))).definitions.get? s.definitionId =
      some definitions) : (normalizeDefinitions s.rawDefinitions).result = .ok definitions := by
  rw [Model.get?_definitions_addEach] at filed
  -- whoever came first filed what the node would have filed, since its raw definitions are the same
  obtain ⟨t, among, given⟩ := List.exists_of_findSome?_eq_some filed
  obtain ⟨same, result⟩ := Subject.normalized_of_filing given
  rwa [← rawDefinitions_of_same_id apart inside among same (unmixed t among same)]

/-- A node of a batch can be formatted alone as well, and then has the same component and the same definitions; the
references of both models are merged from those of their nodes. -/
theorem model_alone {roots : List Node} (apart : IdsTellApart roots) {ids : List String} {i : String} {o : Occurrence}
    {m : Model} (listed : i ∈ ids) (found : (ofRoots roots).resolve i = some o)
    (built : (ofRoots roots).model (some ids) = .ok m)
    (unmixed : ∀ t ∈ (ofRoots roots).subjects (some ids),
      t.definitionId = (Subject.ofOccurrence (ofRoots roots) o).definitionId →
        t.source.isSome = (Subject.ofOccurrence (ofRoots roots) o).source.isSome) :
    ∃ alone c own, (ofRoots roots).model (some [i]) = .ok alone ∧
      m.components.get? i = some c ∧ alone.components.get? i = some c ∧
      m.definitionsOf c.definition = alone.definitionsOf c.definition ∧
      (Subject.ofOccurrence (ofRoots roots) o).bindings? = some own ∧ own ∈ (ofRoots roots).bindingMaps ids ∧
      m.references = ReferenceMap.empty.mergeAll ((ofRoots roots).bindingMaps ids) ∧
      alone.references = ReferenceMap.empty.merge own := by
  generalize subject : Subject.ofOccurrence (ofRoots roots) o = s at unmixed
  have filled : m = Model.empty.addEach ((ofRoots roots).subjects (some ids)) :=
    Model.addAll_eq_addEach _ _ _ (Model.addAll_of_ofSubjects built)
  have inside : s ∈ (ofRoots roots).subjects (some ids) := mem_subjects.2 ⟨i, listed, o, found, subject.symm⟩
  have named : s.node.id = i := by
    rw [← subject]
    exact (within_of_resolve found).1
  -- the id may be listed more than once, but it stands for one subject
  have only : ∀ t ∈ (ofRoots roots).subjects (some ids), t.node.id = s.node.id → t = s := by
    intro t among same
    rw [subject_of_id found among (same.trans named), subject]
  obtain ⟨raw, own, definitions, properties, read, filed, valued, stored⟩ := Model.component_of_built built inside only
  rw [named] at stored
  have normalized := normalized_of_filed apart inside unmixed (filled ▸ filed)
  have bindings : s.bindings? = some own := by simp only [Subject.bindings?, read]
  have one : (ofRoots roots).subjects (some [i]) = [s] := by
    simp only [subjects, relevant, List.filterMap_cons, found, List.filterMap_nil, List.map_cons, List.map_nil, subject]
  have single := Model.ofSubjects_singleton read normalized valued
  rw [← one] at single
  refine ⟨_, s.component properties, own, single, stored, ?sameComponent, ?sameDefinitions, bindings, ?member, ?merged,
    rfl⟩
  case sameComponent =>
    simp only [Model.fileComponent, OrderedMap.get?_insert, Subject.component, named, BEq.rfl, if_true]
  case sameDefinitions =>
    have alone : ((Model.empty.fileReferences own).fileDefinitions s definitions).definitions.get? s.definitionId =
        some definitions := Model.get?_fileDefinitions (show Model.empty.definitionsFor s = _ from normalized) own
    simp only [Model.definitionsOf, Subject.component, Model.fileComponent]
    rw [filed, alone]
  case member => exact List.mem_filterMap.2 ⟨s, inside, bindings⟩
  case merged =>
    rw [filled, Model.references_addEach]
    rfl

/-- Let ids tell the nodes of a document apart.  A node of a batch has the component and the definitions it has alone.
Its element is the same for every generator and all settings unless the batch affects what the node's own references
say of the properties it shows. -/
theorem formatInstance_batch {roots : List Node} (apart : IdsTellApart roots) {ids : List String} {i : String}
    {o : Occurrence} {m : Model} (listed : i ∈ ids) (found : (ofRoots roots).resolve i = some o)
    (built : (ofRoots roots).model (some ids) = .ok m)
    (unmixed : ∀ t ∈ (ofRoots roots).subjects (some ids),
      t.definitionId = (Subject.ofOccurrence (ofRoots roots) o).definitionId →
        t.source.isSome = (Subject.ofOccurrence (ofRoots roots) o).source.isSome) :
    ∃ alone c own, (ofRoots roots).model (some [i]) = .ok alone ∧
      m.components.get? i = some c ∧ alone.components.get? i = some c ∧
      m.definitionsOf c.definition = alone.definitionsOf c.definition ∧
      (Subject.ofOccurrence (ofRoots roots) o).bindings? = some own ∧
      (Generator.Unaffected own ((ofRoots roots).bindingMaps ids)
          (Generator.visible (alone.definitionsOf c.definition) c) →
        ∀ (g : Generator) (t : Generator.Toggles), g.formatInstance m c t = g.formatInstance alone c t) := by
  obtain ⟨alone, c, own, single, stored, storedAlone, filed, bindings, member, merged, mergedAlone⟩ :=
    model_alone apart listed found built unmixed
  refine ⟨alone, c, own, single, stored, storedAlone, filed, bindings, fun unaffected g t => ?_⟩
  refine Generator.formatInstance_congr filed ?_ g t
  rw [merged, mergedAlone, filed]
  exact (Generator.readsAlike_iff_unaffected member _).2 unaffected

/-! ## A card and a chip

Both have a property of the same name, and a text inside the card is bound to it. -/

def labelKey : Key := .text "Label"

/-- A component with one text property. -/
def labelled (id name text : String) (children : List Node) : Node :=
  .mk
    { id := id
      name := name
      type := "COMPONENT"
      definitions := .ofList [(labelKey, .obj [("type", .str "TEXT"), ("defaultValue", .str text)])]
      properties := .empty
      references := .empty
      mainId := .null } .none children

/-- An instance with the given values, of the component that an id names. -/
def instanceNode (id : String) (values : OrderedMap Key Json) (mainId : Json) : Node :=
  .mk
    { id := id
      name := ""
      type := "INSTANCE"
      definitions := .empty
      properties := values
      references := .empty
      mainId := mainId } .none []

def boundText : Node :=
  .mk
    { id := "1:2"
      name := ""
      type := "TEXT"
      definitions := .empty
      properties := .empty
      references := .ofList [(.text "characters", .str "Label")]
      mainId := .null } .none []

def cardsAndChips : List Node :=
  [labelled "1:1" "card" "a" [boundText], labelled "2:1" "chip" "b" [],
    instanceNode "2:9" (.ofList [(labelKey, .obj [("value", .str "c")])]) (.str "2:1")]

def plainReact : Generator := ⟨.react, .base, fun _ => none⟩

theorem card_like_alone :
    IdsTellApart cardsAndChips ∧
      ∃ m alone c, (ofRoots cardsAndChips).model (some ["1:1", "2:9"]) = .ok m ∧
        (ofRoots cardsAndChips).model (some ["1:1"]) = .ok alone ∧
        m.components.get? "1:1" = some c ∧ alone.components.get? "1:1" = some c ∧
        ∀ (g : Generator) (t : Generator.Toggles), g.formatInstance m c t = g.formatInstance alone c t := by
  have apart : IdsTellApart cardsAndChips := idsTellApart_of_nodup (by decide +kernel)
  have listed : "1:1" ∈ ["1:1", "2:9"] := List.mem_cons_self
  have resolved : ∀ t ∈ (ofRoots cardsAndChips).subjects (some ["1:1", "2:9"]), t.source.isSome = true := by decide
  obtain ⟨alone, c, own, single, stored, storedAlone, _, bindings, same⟩ :=
    formatInstance_batch apart listed rfl rfl fun t inside _ => resolved t inside
  refine ⟨apart, _, alone, c, rfl, single, stored, storedAlone, same ?_⟩
  obtain rfl := Except.ok.inj single
  obtain rfl := Option.some.inj storedAlone
  obtain rfl := Option.some.inj bindings
  exact ⟨by decide, by decide⟩

/-- A generator renders a node differently in a batch and alone, though no id occurs twice in the document. -/
def RenderedUnlikeAlone (roots : List Node) (ids : List String) (i : String) (g : Generator) (batch single : String) :
    Prop :=
  ((Node.reachAll roots).map Node.id).Nodup ∧ ids.Nodup ∧ i ∈ ids ∧ batch ≠ single ∧
    ∃ m alone c d, (ofRoots roots).model (some ids) = .ok m ∧ (ofRoots roots).model (some [i]) = .ok alone ∧
      m.components.get? i = some c ∧ alone.components.get? i = some d ∧
      g.formatInstance m c ⟨false, false⟩ = .ok batch ∧ g.formatInstance alone d ⟨false, false⟩ = .ok single

/-- A component without an id, and an instance that names no main component. -/
def namelessAndForeign : List Node := [labelled "" "tag" "a" [], instanceNode "3:9" .empty .null]

/-- The card makes the chip's text a slot, and the instance without a main component leaves the component without an
id no definitions. -/
theorem rendered_unlike_alone :
    RenderedUnlikeAlone cardsAndChips ["1:1", "2:9"] "2:9" plainReact "<Chip>c</Chip>" "<Chip label=\"c\" />" ∧
      RenderedUnlikeAlone namelessAndForeign ["3:9", ""] "" plainReact "<Tag label=\"a\" />" "<Tag />" := by
  constructor
  · exact ⟨by decide +kernel, by decide, by decide, by decide, _, _, _, _, rfl, rfl, rfl, rfl, rfl, rfl⟩
  · exact ⟨by decide +kernel, by decide, by decide, by decide, _, _, _, _, rfl, rfl, rfl, rfl, rfl, rfl⟩

end Index

end DesignProps
