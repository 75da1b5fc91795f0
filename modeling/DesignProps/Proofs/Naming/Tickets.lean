import DesignProps.Proofs.Naming.Rewritten

/-!
# Tickets that calls share

A ticket joins a label, a case and a suffix by a mark that labels and suffixes may hold themselves.  Read from the end
it can be parted in more than one way only behind a case and a mark, so two calls share a ticket only if the suffix of
one ends in a case, a mark and the suffix of the other.  Where no suffix does, every answer of a memo is the one a new
memo gives, whatever was asked before; where one does so as a whole or behind a mark, some calls are answered wrongly.

Main statements: `ticket_eq_iff`, `answersTo_of_told_apart`, `transparent_iff`, `memo_transparent`.
-/

set_option autoImplicit false

namespace DesignProps.Sanitizer.Memo

/-! ## Runs of calls -/

/-- What a memo answers to calls, the first one first. -/
def answersTo (m : Memo) : List Call → List String
  | [] => []
  | call :: rest =>
      (m.name call.target call.suffix call.label).1 :: answersTo (m.name call.target call.suffix call.label).2 rest

/-- What a new memo answers to a call. -/
def Call.fresh (rules : Sanitizer) (call : Call) : String :=
  ((new rules).name call.target call.suffix call.label).1

/-- Every call is answered as by a new memo, whatever was asked before it. -/
def Transparent (rules : Sanitizer) (calls : List Call) : Prop :=
  (new rules).answersTo calls = calls.map (Call.fresh rules)

theorem answersTo_of_filed (calls : List Call) : ∀ {m : Memo} {asked : List Call}, m.Filed asked →
    (∀ a ∈ asked ++ calls, ∀ b ∈ calls, a.ticket = b.ticket → a.answer m.rules = b.answer m.rules) →
      m.answersTo calls = calls.map (Call.answer m.rules) := by
  induction calls with
  | nil =>
      intro m asked filed alike
      rfl
  | cons call rest ih =>
      intro m asked filed alike
      have first : (m.name call.target call.suffix call.label).1 = call.answer m.rules := by
        apply name_of_filed filed
        intro earlier inside same
        exact alike earlier (List.mem_append_left _ inside) call List.mem_cons_self same
      have later := ih (filed_name filed call) (by
        intro a inside b among same
        rw [rules_name]
        rw [List.append_assoc, List.singleton_append] at inside
        exact alike a inside b (List.mem_cons_of_mem _ among) same)
      rw [rules_name] at later
      rw [answersTo, first, later, List.map_cons]

/-- Calls that share a ticket with themselves only are answered as by a new memo. -/
theorem answersTo_of_told_apart {rules : Sanitizer} {calls : List Call}
    (apart : ∀ a ∈ calls, ∀ b ∈ calls, a.ticket = b.ticket → a = b) : Transparent rules calls := by
  apply answersTo_of_filed calls (filed_new rules)
  intro a inside b among same
  rw [apart a inside b among same]

/-! ## Shared tickets -/

/-- The ticket of a call can be read with the longer suffix of another one. -/
inductive Call.ReadsAs (a b : Call) : Prop
  | whole (label : a.label = b.label ++ "_" ++ b.target.tag) (suffix : b.suffix = a.target.tag ++ "_" ++ a.suffix)
  | behind (front : String) (label : a.label = b.label ++ "_" ++ b.target.tag ++ "_" ++ front)
      (suffix : b.suffix = front ++ "_" ++ a.target.tag ++ "_" ++ a.suffix)

theorem ticket_eq_of_readsAs {a b : Call} (reads : a.ReadsAs b) : a.ticket = b.ticket := by
  cases reads with
  | whole label suffix => simp only [Call.ticket, Memo.ticket, label, suffix, String.append_assoc]
  | behind front label suffix => simp only [Call.ticket, Memo.ticket, label, suffix, String.append_assoc]

/-- A longer suffix takes the case with it. -/
theorem readsAs_of_head {a b : Call} {more : List Char} (front : a.head = b.head ++ '_' :: more)
    (back : b.suffix.toList = more ++ '_' :: a.suffix.toList) : a.ReadsAs b := by
  rcases split_at_last_mark (mark_not_mem_tag a.target) front with ⟨label, rfl⟩ | ⟨rest, label, rfl⟩
  · apply Call.ReadsAs.whole
    · exact String.toList_inj.1 (by simp [label, Call.head])
    · exact String.toList_inj.1 (by simp [back])
  · apply Call.ReadsAs.behind (String.ofList rest)
    · exact String.toList_inj.1 (by simp [label, Call.head])
    · exact String.toList_inj.1 (by simp [back])

theorem eq_or_readsAs {a b : Call} {between : List Char} (front : a.head = b.head ++ between)
    (back : '_' :: b.suffix.toList = between ++ '_' :: a.suffix.toList) : a = b ∨ a.ReadsAs b := by
  cases between with
  | nil =>
      obtain ⟨label, target⟩ := head_inj (front.trans (List.append_nil _))
      have suffix : a.suffix = b.suffix := String.toList_inj.1 (List.cons.inj back).2.symm
      left
      cases a
      cases b
      simp only [Call.mk.injEq]
      exact ⟨target, suffix, label⟩
  | cons c more =>
      obtain ⟨rfl, longer⟩ := List.cons.inj back
      exact .inr (readsAs_of_head front longer)

/-- Calls share a ticket exactly if they are one call or the ticket of one can be read with the suffix of the other. -/
theorem ticket_eq_iff (a b : Call) : a.ticket = b.ticket ↔ a = b ∨ a.ReadsAs b ∨ b.ReadsAs a := by
  constructor
  · intro same
    have texts := congrArg String.toList same
    rw [toList_ticket, toList_ticket] at texts
    rcases List.append_eq_append_iff.1 texts with ⟨between, front, back⟩ | ⟨between, front, back⟩
    · rcases eq_or_readsAs front back with rfl | reads
      · exact .inl rfl
      · exact .inr (.inr reads)
    · rcases eq_or_readsAs front back with rfl | reads
      · exact .inl rfl
      · exact .inr (.inl reads)
  · rintro (rfl | reads | reads)
    · rfl
    · exact ticket_eq_of_readsAs reads
    · exact (ticket_eq_of_readsAs reads).symm

/-! ## Suffixes that tell calls apart -/

/-- A suffix ends in a case, a mark and another suffix. -/
def EndsIn (suffix other : String) : Prop :=
  ∃ (front : String) (target : NameCase), suffix = front ++ target.tag ++ "_" ++ other

/-- A suffix is a case, a mark and another suffix, or ends in them behind a mark. -/
def Hides (suffix other : String) : Prop :=
  ∃ target : NameCase, suffix = target.tag ++ "_" ++ other ∨
    ∃ front : String, suffix = front ++ "_" ++ target.tag ++ "_" ++ other

theorem endsIn_of_hides {suffix other : String} (hides : Hides suffix other) : EndsIn suffix other := by
  obtain ⟨target, whole | ⟨front, behind⟩⟩ := hides
  · exact ⟨"", target, by rw [whole, String.empty_append]⟩
  · exact ⟨front ++ "_", target, behind⟩

/-- The case alone takes five characters. -/
theorem length_of_endsIn {suffix other : String} (ends : EndsIn suffix other) : other.length + 5 < suffix.length := by
  obtain ⟨front, target, rfl⟩ := ends
  have tag : 5 ≤ target.tag.length := by
    cases target <;> decide
  simp only [String.length_append, show "_".length = 1 from rfl]
  omega

theorem hides_of_readsAs {a b : Call} (reads : a.ReadsAs b) : Hides b.suffix a.suffix := by
  cases reads with
  | whole label suffix => exact ⟨a.target, .inl suffix⟩
  | behind front label suffix => exact ⟨a.target, .inr ⟨front, suffix⟩⟩

theorem transparent_of_not_hides {rules : Sanitizer} {calls : List Call}
    (apart : ∀ a ∈ calls, ∀ b ∈ calls, ¬ Hides a.suffix b.suffix) : Transparent rules calls := by
  apply answersTo_of_told_apart
  intro a inside b among same
  rcases (ticket_eq_iff a b).1 same with one | reads | reads
  · exact one
  · exact absurd (hides_of_readsAs reads) (apart b among a inside)
  · exact absurd (hides_of_readsAs reads) (apart a inside b among)

/-- A second call with the ticket of the first one gets its answer. -/
theorem answersTo_pair (rules : Sanitizer) {a b : Call} (same : a.ticket = b.ticket) :
    (new rules).answersTo [a, b] = [a.fresh rules, a.fresh rules] := by
  have filed : ((new rules).name a.target a.suffix a.label).2.answers.get? b.ticket = some (a.fresh rules) := by
    rw [← same]
    exact (OrderedMap.get?_insert ..).trans (if_pos (beq_self_eq_true _))
  have second : (((new rules).name a.target a.suffix a.label).2.name b.target b.suffix b.label).1 = a.fresh rules := by
    unfold Call.ticket at filed
    simp only [name] at filed ⊢
    rw [filed]
  simp only [answersTo, second]
  rfl

/-- The name of a label with two words is no single letter. -/
theorem fresh_ne_letter {call : Call} {rest : List Char} (label : call.label.toList = 'a' :: '_' :: 's' :: rest) :
    call.fresh Naming.plainSanitizer ≠ "a" := by
  obtain ⟨word, others, parts⟩ := Naming.cut_of_isAlpha (c := 's') (by decide) rest
  have words : Naming.words call.label.toList =
      ['a'] :: ('s' :: word) :: others.filter fun w => !w.isEmpty := by
    have begun : Naming.cut '_' call.label.toList = ['a'] :: Naming.cut '_' ('s' :: rest) := by
      have behind : Naming.cut 'a' ('_' :: 's' :: rest) = [] :: Naming.cut '_' ('s' :: rest) := by
        rw [Naming.cut, if_pos (by decide)]
      rw [label, Naming.cut, if_neg (by decide), Naming.beginsWord_separator, behind]
      rfl
    have letter : (call.label.toList.dropWhile fun c => !c.isAlpha) = call.label.toList := by
      rw [label]
      rfl
    rw [Naming.words, letter, begun, parts]
    rfl
  have some : Naming.words call.label.toList ≠ [] := by
    rw [words]
    exact List.cons_ne_nil _ _
  have written : (call.fresh Naming.plainSanitizer).toList = Naming.write call.target (Naming.words call.label.toList) :=
    Naming.toList_name_of_words rfl call.target call.suffix some
  intro same
  rw [same, words] at written
  cases target : call.target <;> simp [target, Naming.write, Naming.joinWith, Naming.capitalize] at written

/-- Calls with these suffixes are always answered as by a new memo exactly if no suffix hides a call with another. -/
theorem transparent_iff (suffixes : List String) :
    (∀ rules calls, (∀ call ∈ calls, call.suffix ∈ suffixes) → Transparent rules calls) ↔
      ∀ s ∈ suffixes, ∀ t ∈ suffixes, ¬ Hides s t := by
  constructor
  · intro transparent s inside t among hides
    obtain ⟨second, suffix, reads, rest, label⟩ : ∃ second : Call, second.suffix = t ∧
        second.ReadsAs ⟨.snake, s, "a"⟩ ∧ ∃ rest, second.label.toList = 'a' :: '_' :: 's' :: rest := by
      obtain ⟨target, whole | ⟨front, behind⟩⟩ := hides
      · refine ⟨⟨target, t, "a_snake"⟩, rfl, .whole rfl whole, "nake".toList, ?_⟩
        exact (by decide : "a_snake".toList = 'a' :: '_' :: 's' :: "nake".toList)
      · refine ⟨⟨target, t, "a_snake_" ++ front⟩, rfl, .behind front rfl behind, "nake_".toList ++ front.toList, ?_⟩
        rw [String.toList_append]
        rfl
    have answers := transparent Naming.plainSanitizer [⟨.snake, s, "a"⟩, second] (by
      intro call listed
      rcases List.mem_pair.1 listed with rfl | rfl
      · exact inside
      · exact suffix ▸ among)
    unfold Transparent at answers
    rw [answersTo_pair _ (ticket_eq_of_readsAs reads).symm] at answers
    have first : Call.fresh Naming.plainSanitizer ⟨.snake, s, "a"⟩ = "a" := by
      have word : Naming.words "a".toList ≠ [] := by decide
      apply String.toList_inj.1
      exact (Naming.toList_name_of_words rfl .snake s word).trans (by decide)
    have stale : Call.fresh Naming.plainSanitizer ⟨.snake, s, "a"⟩ = second.fresh Naming.plainSanitizer := by
      simpa using answers
    exact fresh_ne_letter label (stale.symm.trans first)
  · intro apart rules calls within
    apply transparent_of_not_hides
    intro a inside b among
    exact apart _ (within a inside) _ (within b among)

/-- Whatever the rules of a memo, each of its answers is the one a new memo gives if no suffix in use ends in a case, a
mark and another suffix in use, and so in particular if one suffix is in use.  Whether a set of suffixes can be used
freely is decided by those that are such a call as a whole or behind a mark: with any of them, some sanitizer answers a
call unlike a new one. -/
theorem memo_transparent :
    (∀ (rules : Sanitizer) (calls : List Call), (∀ a ∈ calls, ∀ b ∈ calls, ¬ EndsIn a.suffix b.suffix) →
      (new rules).answersTo calls = calls.map (Call.fresh rules)) ∧
    (∀ (rules : Sanitizer) (suffix : String) (calls : List Call), (∀ call ∈ calls, call.suffix = suffix) →
      (new rules).answersTo calls = calls.map (Call.fresh rules)) ∧
    ∀ suffixes : List String,
      (∀ rules calls, (∀ call ∈ calls, call.suffix ∈ suffixes) →
        (new rules).answersTo calls = calls.map (Call.fresh rules)) ↔ ∀ s ∈ suffixes, ∀ t ∈ suffixes, ¬ Hides s t := by
  have apart : ∀ (rules : Sanitizer) (calls : List Call), (∀ a ∈ calls, ∀ b ∈ calls, ¬ EndsIn a.suffix b.suffix) →
      Transparent rules calls := by
    intro rules calls apart
    apply transparent_of_not_hides
    intro a inside b among hides
    exact apart a inside b among (endsIn_of_hides hides)
  refine ⟨apart, ?_, transparent_iff⟩
  intro rules suffix calls same
  apply apart rules calls
  intro a inside b among ends
  have longer := length_of_endsIn ends
  rw [same a inside, same b among] at longer
  omega

/-! Labels that end like a ticket, a suffix that ends in a case, and a word that is reserved. -/

def mixedCalls : List Call := [
  ⟨.camel, "_", "class_camel_"⟩, ⟨.camel, "_camel", "class"⟩, ⟨.camel, "_", "class"⟩, ⟨.snake, "_", "class_camel"⟩,
  ⟨.camel, "_camel", "class"⟩]

theorem memo_transparent_mixed :
    (∀ a ∈ mixedCalls, ∀ b ∈ mixedCalls, ¬ EndsIn a.suffix b.suffix) ∧
      (new Naming.codeSanitizer).answersTo mixedCalls = mixedCalls.map (Call.fresh Naming.codeSanitizer) := by
  have short : ∀ a ∈ mixedCalls, ∀ b ∈ mixedCalls, ¬ EndsIn a.suffix b.suffix := by
    have lengths : ∀ a ∈ mixedCalls, ∀ b ∈ mixedCalls, ¬ b.suffix.length + 5 < a.suffix.length := by decide
    intro a inside b among ends
    exact lengths a inside b among (length_of_endsIn ends)
  exact ⟨short, memo_transparent.1 Naming.codeSanitizer mixedCalls short⟩

end DesignProps.Sanitizer.Memo
