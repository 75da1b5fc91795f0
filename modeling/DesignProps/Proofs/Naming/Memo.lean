import DesignProps.Naming.Sanitizer

/-!
# Remembered names

An answer that a memo holds is the name its sanitizer gives for some call with the same ticket.  Calls with one suffix
have different tickets unless they ask the same, so a memo that was asked with one suffix only answers as its
sanitizer does, whatever was asked before.

Main statements: `filed_askAll`, `name_of_filed` (calls with one ticket and one name cannot be mixed up), `ticket_inj`,
`name_askAll_of_suffix`.
-/

set_option autoImplicit false

namespace DesignProps.Sanitizer.Memo

structure Call where
  target : NameCase
  suffix : String
  label : String
  deriving DecidableEq, Repr

def Call.ticket (call : Call) : String := Memo.ticket call.target call.suffix call.label

/-- The name that a sanitizer gives for a call. -/
def Call.answer (rules : Sanitizer) (call : Call) : String := rules.name call.target call.suffix call.label

/-- The memo after calls, the first one first. -/
def askAll (m : Memo) : List Call → Memo
  | [] => m
  | call :: rest => askAll (m.name call.target call.suffix call.label).2 rest

/-- Every answer is the name for a call with its ticket. -/
def Filed (m : Memo) (asked : List Call) : Prop :=
  ∀ ticket answer, m.answers.get? ticket = some answer →
    ∃ call ∈ asked, call.ticket = ticket ∧ call.answer m.rules = answer

theorem filed_new (rules : Sanitizer) : Filed (new rules) [] := by
  intro ticket answer found
  cases found

theorem rules_name (m : Memo) (target : NameCase) (suffix label : String) :
    (m.name target suffix label).2.rules = m.rules := by
  unfold name
  split <;> rfl

/-- A call files its own name at most, and changes no answer. -/
theorem filed_name {m : Memo} {asked : List Call} (filed : m.Filed asked) (call : Call) :
    (m.name call.target call.suffix call.label).2.Filed (asked ++ [call]) := by
  intro ticket answer found
  rw [rules_name]
  unfold name at found
  split at found
  · obtain ⟨earlier, inside, same⟩ := filed ticket answer found
    exact ⟨earlier, List.mem_append_left _ inside, same⟩
  · simp only [OrderedMap.get?_insert] at found
    split at found
    · next same => exact ⟨call, by simp, eq_of_beq same, Option.some.inj found⟩
    · obtain ⟨earlier, inside, same⟩ := filed ticket answer found
      exact ⟨earlier, List.mem_append_left _ inside, same⟩

theorem filed_askAll {m : Memo} (calls : List Call) : ∀ {asked : List Call}, m.Filed asked →
    (m.askAll calls).Filed (asked ++ calls) ∧ (m.askAll calls).rules = m.rules := by
  induction calls generalizing m with
  | nil =>
      intro asked filed
      rw [List.append_nil]
      exact ⟨filed, rfl⟩
  | cons call rest ih =>
      intro asked filed
      obtain ⟨later, rules⟩ := ih (filed_name filed call)
      rw [List.append_assoc] at later
      exact ⟨later, rules.trans (rules_name ..)⟩

/-- Where every earlier call with the ticket of this one has the same name, the answer is that name. -/
theorem name_of_filed {m : Memo} {asked : List Call} (filed : m.Filed asked) (call : Call)
    (alike : ∀ earlier ∈ asked, earlier.ticket = call.ticket → earlier.answer m.rules = call.answer m.rules) :
    (m.name call.target call.suffix call.label).1 = call.answer m.rules := by
  unfold name
  split
  · next answer found =>
      obtain ⟨earlier, inside, same, rfl⟩ := filed _ answer found
      exact alike earlier inside same
  · rfl

/-! ## Tickets -/

/-- A text is parted at its last mark in one way; any other way parts it at an earlier mark. -/
theorem split_at_last_mark {mark : Char} {before word other more : List Char} (free : mark ∉ word)
    (same : before ++ mark :: word = other ++ mark :: more) :
    (before = other ∧ more = word) ∨ ∃ front, before = other ++ mark :: front ∧ more = front ++ mark :: word := by
  rcases List.append_eq_append_iff.1 same with ⟨between, rfl, tail⟩ | ⟨between, rfl, tail⟩
  · cases between with
    | nil =>
        obtain ⟨-, rfl⟩ := List.cons.inj tail
        exact .inl ⟨by simp, rfl⟩
    | cons c rest =>
        obtain ⟨-, rfl⟩ := List.cons.inj tail
        exact absurd (by simp) free
  · cases between with
    | nil =>
        obtain ⟨-, rfl⟩ := List.cons.inj tail
        exact .inl ⟨by simp, rfl⟩
    | cons c rest =>
        obtain ⟨rfl, rfl⟩ := List.cons.inj tail
        exact .inr ⟨rest, rfl, rfl⟩

theorem mark_not_mem_tag (target : NameCase) : '_' ∉ target.tag.toList := by
  cases target <;> decide

theorem tag_inj {s t : NameCase} (same : s.tag = t.tag) : s = t := by
  cases s <;> cases t <;> first | rfl | exact absurd same (by decide)

/-- The label and the case of a call as its ticket shows them. -/
def Call.head (call : Call) : List Char := call.label.toList ++ '_' :: call.target.tag.toList

theorem toList_ticket (call : Call) : call.ticket.toList = call.head ++ '_' :: call.suffix.toList := by
  simp [Call.ticket, Memo.ticket, Call.head]

theorem head_inj {a b : Call} (same : a.head = b.head) : a.label = b.label ∧ a.target = b.target := by
  rcases split_at_last_mark (mark_not_mem_tag a.target) same with ⟨label, tag⟩ | ⟨front, -, tag⟩
  · exact ⟨String.toList_inj.1 label, tag_inj (String.toList_inj.1 tag.symm)⟩
  · exact absurd (by simp [tag]) (mark_not_mem_tag b.target)

/-! ## One suffix -/

theorem ticket_inj {suffix : String} {s t : NameCase} {a b : String} (same : ticket s suffix a = ticket t suffix b) :
    s = t ∧ a = b := by
  have tickets : Call.ticket ⟨s, suffix, a⟩ = Call.ticket ⟨t, suffix, b⟩ := same
  have chars := congrArg String.toList tickets
  rw [toList_ticket, toList_ticket] at chars
  obtain ⟨label, target⟩ := head_inj (List.append_cancel_right chars)
  exact ⟨target, label⟩

/-- With one suffix a memo answers as its sanitizer does. -/
theorem name_askAll_of_suffix (rules : Sanitizer) (suffix : String) (asked : List (NameCase × String))
    (target : NameCase) (label : String) :
    (((new rules).askAll (asked.map fun e => ⟨e.1, suffix, e.2⟩)).name target suffix label).1 =
      rules.name target suffix label := by
  obtain ⟨filed, kept⟩ := filed_askAll (asked.map fun e => Call.mk e.1 suffix e.2) (filed_new rules)
  rw [List.nil_append] at filed
  have answered := name_of_filed filed ⟨target, suffix, label⟩ fun earlier inside same => by
    obtain ⟨e, -, rfl⟩ := List.mem_map.1 inside
    obtain ⟨rfl, rfl⟩ := ticket_inj same
    rfl
  rwa [kept] at answered

end DesignProps.Sanitizer.Memo
