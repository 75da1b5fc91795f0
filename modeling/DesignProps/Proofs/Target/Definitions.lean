import DesignProps.Proofs.Document.Reordered
import DesignProps.Proofs.Model.Coherent
import DesignProps.Target.Output

/-!
# The definitions pass and the order of its input

What the definitions pass writes is put in order by names, ids and keys, so it depends on what a model declares and not
on the order in which it was filed.  Where nodes of one definition id agree on their definitions, neither the order of
the nodes nor the order of the entries of any raw map of definitions decides what a model declares.

Main statements: `formatDefinitions_ok_iff_of_declaresAlike`, `formatDefinitions_of_reordered`.
-/

set_option autoImplicit false

namespace DesignProps

/-! ## Subjects up to order -/

namespace Subject

variable {s t : Subject}

theorem definitionNode_reordered {l k : Located} (located : l.Reordered k) :
    l.definitionNode.Reordered k.definitionNode := by
  have above := located.ancestors
  unfold Located.definitionNode Located.parent?
  generalize l.ancestors = nodes at above ⊢
  generalize k.ancestors = others at above ⊢
  cases above with
  | nil => exact located.node
  | cons parents _ =>
      simp only [List.head?_cons, parents.isGroup]
      split
      · exact parents
      · exact located.node

theorem source_reordered (reordered : s.Reordered t) : Option.Rel Node.Reordered s.source t.source := by
  rw [source_eq, source_eq, reordered.node.isInstance]
  split
  · have mains := reordered.main
    generalize s.main = main at mains ⊢
    generalize t.main = other at mains ⊢
    cases mains with
    | none => exact .none
    | some located => exact .some (definitionNode_reordered located)
  · exact .some reordered.node

theorem rawValues_reordered (reordered : s.Reordered t) {raw : OrderedMap Key Json} (read : s.rawValues = .ok raw) :
    ∃ others, t.rawValues = .ok others ∧ raw.Reordered others := by
  unfold rawValues at read ⊢
  rw [← reordered.node.isInstance]
  split at read
  · next swaps =>
      obtain rfl := Except.ok.inj read
      exact ⟨_, if_pos swaps, reordered.node.data.properties ▸ .refl _⟩
  · next stands =>
      rw [if_neg stands]
      exact Progress.result_of_reordered reordered.node.data.definitions read

theorem references_of_reordered (reordered : s.Reordered t) : s.references = t.references := by
  refine Node.references_reordered reordered.node ?_
  have mains := reordered.main
  generalize s.main = main at mains ⊢
  generalize t.main = other at mains ⊢
  cases mains with
  | none => exact .none
  | some located => exact .some located.node

theorem source_cases_of_reordered (reordered : s.Reordered t) : (s.source = none ∧ t.source = none) ∨
    ∃ n k, s.source = some n ∧ t.source = some k ∧ n.Reordered k := by
  have sources := source_reordered reordered
  generalize s.source = source at sources ⊢
  generalize t.source = other at sources ⊢
  cases sources with
  | none => exact Or.inl ⟨rfl, rfl⟩
  | some same => exact Or.inr ⟨_, _, rfl, rfl, same⟩

theorem ownDefinitions_reordered (reordered : s.Reordered t) : s.ownDefinitions.Reordered t.ownDefinitions := by
  unfold ownDefinitions
  rcases source_cases_of_reordered reordered with ⟨mine, other⟩ | ⟨n, k, mine, other, same⟩
  · rw [mine, other]
    exact .refl _
  · rw [mine, other]
    exact same.data.definitions

theorem sound_of_reordered (reordered : s.Reordered t) (sound : s.Sound) : t.Sound := by
  obtain ⟨raw, references, own, properties, read, made, valued⟩ := sound
  obtain ⟨values, bindings⟩ := reading_ok read
  obtain ⟨others, readToo, sameValues⟩ := rawValues_reordered reordered values
  obtain ⟨mine, madeToo, sameDefinitions⟩ := normalized_of_reordered (ownDefinitions_reordered reordered) made
  rw [normalizeValues_congr sameDefinitions] at valued
  obtain ⟨found, valuedToo, -⟩ := Progress.result_of_reordered sameValues valued
  refine ⟨others, references, mine, found, ?_, madeToo, valuedToo⟩
  simp only [reading, readToo, ← references_of_reordered reordered, bindings]

theorem matches_of_reordered (reordered : s.Reordered t) : s.Matches t := by
  refine ⟨?definitionId, ?displayName, ownDefinitions_reordered reordered, sound_of_reordered reordered⟩
  case definitionId =>
    unfold definitionId
    rcases source_cases_of_reordered reordered with ⟨mine, other⟩ | ⟨n, k, mine, other, same⟩
    · rw [mine, other]
    · rw [mine, other]
      exact same.id
  case displayName =>
    unfold displayName
    rcases source_cases_of_reordered reordered with ⟨mine, other⟩ | ⟨n, k, mine, other, same⟩
    · rw [mine, other]
    · simp only [mine, other, same.name]

end Subject

/-! ## The pass -/

namespace Generator

variable {m n : Model}

theorem sortedDefinitionIds_eq (alike : m.DeclaresAlike n) : sortedDefinitionIds m = sortedDefinitionIds n := by
  have named : (fun id => (m.nameOf id, id)) = fun id => (n.nameOf id, id) := by
    funext id
    rw [alike.names]
  unfold sortedDefinitionIds
  rw [named, Sorting.sortPairs_eq_of_perm (alike.ids.map _)]

theorem definitionListing_ok_iff (alike : m.DeclaresAlike n) (g : Generator) (optionsApi : Bool) (listing : Listing) :
    g.definitionListing m optionsApi = .ok listing ↔ g.definitionListing n optionsApi = .ok listing := by
  have block : ∀ id text, (declared (m.definitionsOf id)).map (fun ps => g.block optionsApi (m.nameOf id) ps) = .ok text ↔
      (declared (n.definitionsOf id)).map (fun ps => g.block optionsApi (n.nameOf id) ps) = .ok text := by
    intro id text
    simp only [map_eq_ok_iff, declared_ok_iff_of_reordered (alike.definitions id), alike.names id]
  simp only [definitionListing, blocks, map_eq_ok_iff, sortedDefinitionIds_eq alike, mapM_ok_congr fun id _ => block id]

theorem formatDefinitions_ok_iff_of_declaresAlike (alike : m.DeclaresAlike n) (g : Generator) (settings : Json)
    (pass : Pass) : g.formatDefinitions m settings = .ok pass ↔ g.formatDefinitions n settings = .ok pass := by
  unfold formatDefinitions
  split
  · simp only [bind_eq_ok_iff, definitionListing_ok_iff alike]
  · simp only [bind_eq_ok_iff, definitionListing_ok_iff alike]

/-- Let a model be built from nodes that agree on the definitions of their ids.  From the same nodes in any order, with
the entries of any raw definitions in any order, a model is built as well, and with every generator and all settings
its definitions pass gives the same. -/
theorem formatDefinitions_of_reordered {xs zs ys : List Subject} (coherent : Subject.Coherent xs)
    (built : Model.ofSubjects xs = .ok m) (shuffled : xs.Perm zs) (reordered : List.Forall₂ Subject.Reordered zs ys) :
    ∃ n, Model.ofSubjects ys = .ok n ∧ ∀ (g : Generator) (settings : Json) (pass : Pass),
      g.formatDefinitions m settings = .ok pass ↔ g.formatDefinitions n settings = .ok pass := by
  obtain ⟨sound, rfl⟩ := (Model.ofSubjects_ok_iff coherent).1 built
  have matched : Subject.MatchEach xs ys := by
    constructor
    · intro s inside
      obtain ⟨t, among, same⟩ := exists_related_left reordered s (shuffled.mem_iff.1 inside)
      exact ⟨t, among, Subject.matches_of_reordered same⟩
    · intro t among
      obtain ⟨s, inside, same⟩ := exists_related_right reordered t among
      exact ⟨s, shuffled.mem_iff.2 inside, Subject.matches_of_reordered same⟩
  have coherentToo := Subject.coherent_of_matchEach matched coherent
  refine ⟨_, (Model.ofSubjects_ok_iff coherentToo).2 ⟨Subject.sound_of_matchEach matched sound, rfl⟩, ?_⟩
  exact formatDefinitions_ok_iff_of_declaresAlike (Model.declaresAlike_addEach matched sound coherent)

/-! A component with two properties and an instance of it, in both orders. -/

def textDefinition (text : String) : Json := .obj [("type", .str "TEXT"), ("defaultValue", .str text)]

def badge (definitions : OrderedMap Key Json) : Node :=
  .mk
    { id := "2:1"
      name := "badge"
      type := "COMPONENT"
      definitions := definitions
      properties := .empty
      references := .empty
      mainId := .null } .none []

def badgeInstance : Node :=
  .mk
    { id := "3:1"
      name := "badge"
      type := "INSTANCE"
      definitions := .empty
      properties := .empty
      references := .empty
      mainId := .str "2:1" } .none []

def badgeSubjects (definitions : OrderedMap Key Json) : List Subject :=
  [⟨badge definitions, none⟩, ⟨badgeInstance, some ⟨badge definitions, []⟩⟩]

def sizeAndTitle : OrderedMap Key Json := .ofList [(.text "Size", textDefinition "a"), (.text "Title", textDefinition "b")]

def titleAndSize : OrderedMap Key Json := .ofList [(.text "Title", textDefinition "b"), (.text "Size", textDefinition "a")]

theorem badge_reordered : (badge sizeAndTitle).Reordered (badge titleAndSize) :=
  .mk ⟨rfl, rfl, rfl, .swap _ _ _, rfl, rfl, rfl⟩ .none .nil

theorem badgeInstance_reordered : badgeInstance.Reordered badgeInstance :=
  .mk ⟨rfl, rfl, rfl, .refl _, rfl, rfl, rfl⟩ .none .nil

theorem formatDefinitions_badge : ∃ m n, Model.ofSubjects (badgeSubjects sizeAndTitle) = .ok m ∧
    Model.ofSubjects (badgeSubjects titleAndSize).reverse = .ok n ∧
    ∀ (g : Generator) (settings : Json) (pass : Pass),
      g.formatDefinitions m settings = .ok pass ↔ g.formatDefinitions n settings = .ok pass := by
  have coherent : Subject.Coherent (badgeSubjects sizeAndTitle) := by
    have each : ∀ s ∈ badgeSubjects sizeAndTitle, s.displayName = "Badge" ∧ s.ownDefinitions = sizeAndTitle := by
      intro s inside
      simp only [badgeSubjects, List.mem_cons, List.not_mem_nil, or_false] at inside
      rcases inside with rfl | rfl <;> exact ⟨rfl, rfl⟩
    intro s inside t among _
    obtain ⟨name, definitions⟩ := each s inside
    obtain ⟨nameToo, definitionsToo⟩ := each t among
    exact ⟨name.trans nameToo.symm, definitions.trans definitionsToo.symm ▸ .refl _⟩
  have reordered : List.Forall₂ Subject.Reordered (badgeSubjects sizeAndTitle).reverse
      (badgeSubjects titleAndSize).reverse :=
    .cons ⟨badgeInstance_reordered, .some ⟨badge_reordered, .nil⟩⟩ (.cons ⟨badge_reordered, .none⟩ .nil)
  obtain ⟨n, builtToo, same⟩ :=
    formatDefinitions_of_reordered coherent rfl (List.reverse_perm _).symm reordered
  exact ⟨_, n, rfl, builtToo, same⟩

end Generator

end DesignProps
