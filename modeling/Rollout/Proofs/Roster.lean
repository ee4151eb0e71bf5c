import Rollout.Engine.Enrolment
import Rollout.Proofs.Identity

/-! Member lists under change. A visit is one attempt to join or to leave a scope. The visits of
references that entries tell apart do not disturb one another, and a visit once settled stays
settled; so leaving may be put off past any other visit without a trace. -/

set_option autoImplicit false

namespace Rollout

namespace Reference

/-- The part of an identity that a member entry holds. -/
def Alike (left right : Reference) : Prop :=
  left.apiVersion = right.apiVersion ∧ left.kind = right.kind ∧ left.name = right.name

instance (left right : Reference) : Decidable (left.Alike right) := by
  unfold Alike; infer_instance

theorem Alike.symm {left right : Reference} (alike : left.Alike right) : right.Alike left :=
  ⟨alike.1.symm, alike.2.1.symm, alike.2.2.symm⟩

theorem Alike.trans {left middle right : Reference} (first : left.Alike middle)
    (second : middle.Alike right) : left.Alike right :=
  ⟨first.1.trans second.1, first.2.1.trans second.2.1, first.2.2.trans second.2.2⟩

theorem Matches.alike {left right : Reference} (matching : left.Matches right) :
    left.Alike right :=
  ⟨matching.1, matching.2.1, matching.2.2.1⟩

theorem Alike.matchesEntry {left right : Reference} (alike : left.Alike right) {entry : Tree}
    (listed : left.MatchesEntry entry) : right.MatchesEntry entry := by
  obtain ⟨version, kind, name⟩ := alike
  cases entry with
  | object fields =>
      simp only [MatchesEntry] at listed ⊢
      rw [← version, ← kind, ← name]
      exact listed
  | _ => exact listed

theorem alike_of_matchesEntry {left right : Reference} {entry : Tree}
    (first : left.MatchesEntry entry) (second : right.MatchesEntry entry) : left.Alike right := by
  cases entry with
  | object fields =>
      obtain ⟨version, kind, name⟩ := first
      obtain ⟨version', kind', name'⟩ := second
      rw [version] at version'
      rw [kind] at kind'
      rw [name] at name'
      simp only [Option.some.injEq, Tree.string.injEq] at version' kind' name'
      exact ⟨version', kind', name'⟩
  | _ => exact first.elim

end Reference

namespace Enrolment

def Listed (member : Reference) (members : List Tree) : Prop :=
  ∃ entry ∈ members, member.MatchesEntry entry

instance (member : Reference) (members : List Tree) : Decidable (Listed member members) := by
  unfold Listed; infer_instance

theorem any_iff_listed (member : Reference) (members : List Tree) :
    (members.any fun entry => member.MatchesEntry entry) = true ↔ Listed member members := by
  simp only [List.any_eq_true, decide_eq_true_eq, Listed]

theorem joined_eq (member : Reference) (members : List Tree) :
    joined member members =
      if Listed member members then none else some (members ++ [member.entry]) := by
  simp only [joined, any_iff_listed]

theorem left_eq (member : Reference) (members : List Tree) :
    left member members =
      if Listed member members then
        some (members.filter fun entry => ¬ member.MatchesEntry entry)
      else none := by
  simp only [left, any_iff_listed]

theorem listed_append_entry {other member : Reference} (members : List Tree) :
    Listed other (members ++ [member.entry]) ↔ Listed other members ∨ other.Alike member := by
  constructor
  · intro listed
    obtain ⟨entry, present, listed⟩ := listed
    rcases List.mem_append.mp present with old | new
    · exact .inl ⟨entry, old, listed⟩
    · rw [List.mem_singleton.mp new] at listed
      exact .inr (Reference.alike_of_matchesEntry listed member.matchesEntry_entry)
  · intro listed
    rcases listed with ⟨entry, old, listed⟩ | alike
    · exact ⟨entry, List.mem_append_left _ old, listed⟩
    · exact ⟨member.entry, by simp, alike.symm.matchesEntry member.matchesEntry_entry⟩

theorem listed_filter {other member : Reference} (members : List Tree) :
    Listed other (members.filter fun entry => ¬ member.MatchesEntry entry) ↔
      Listed other members ∧ ¬ other.Alike member := by
  constructor
  · intro listed
    obtain ⟨entry, kept, listed⟩ := listed
    obtain ⟨present, differs⟩ := List.mem_filter.mp kept
    refine ⟨⟨entry, present, listed⟩, ?_⟩
    intro alike
    exact of_decide_eq_true differs (alike.matchesEntry listed)
  · intro listed
    obtain ⟨⟨entry, present, listed⟩, apart⟩ := listed
    refine ⟨entry, List.mem_filter.mpr ⟨present, ?_⟩, listed⟩
    apply decide_eq_true
    intro both
    exact apart (Reference.alike_of_matchesEntry listed both)

structure Visit where
  joins : Bool
  member : Reference
  key : Reference
  deriving DecidableEq

namespace Visit

def change (visit : Visit) : List Tree → Option (List Tree) :=
  if visit.joins then joined visit.member else left visit.member

/-- Visits that ask for the same or speak of members that entries tell apart. -/
def Agrees (first second : Visit) : Prop :=
  first.joins = second.joins ∨ ¬ first.member.Alike second.member

theorem Agrees.symm {first second : Visit} (agree : first.Agrees second) : second.Agrees first := by
  rcases agree with same | apart
  · exact .inl same.symm
  · exact .inr fun alike => apart alike.symm

theorem change_congr {first second : Visit} (joins : first.joins = second.joins)
    (alike : first.member.Alike second.member) : first.change = second.change := by
  have entries : ∀ entry, first.member.MatchesEntry entry ↔ second.member.MatchesEntry entry :=
    fun entry => ⟨alike.matchesEntry, alike.symm.matchesEntry⟩
  have own : first.member.entry = second.member.entry := by
    obtain ⟨version, kind, name⟩ := alike
    simp only [Reference.entry, version, kind, name]
  have sameJoined : joined first.member = joined second.member := by
    funext members
    simp only [joined, entries, own]
  have sameLeft : left first.member = left second.member := by
    funext members
    simp only [left, entries]
  simp only [change, joins, sameJoined, sameLeft]

theorem change_eq_none_iff (visit : Visit) (members : List Tree) :
    visit.change members = none ↔ (Listed visit.member members ↔ visit.joins = true) := by
  unfold change
  cases visit.joins with
  | false => by_cases listed : Listed visit.member members <;> simp [left_eq, listed]
  | true => by_cases listed : Listed visit.member members <;> simp [joined_eq, listed]

theorem listed_change {visit : Visit} {members changed : List Tree}
    (made : visit.change members = some changed) (other : Reference) :
    Listed other changed ↔
      if other.Alike visit.member then visit.joins = true else Listed other members := by
  unfold change at made
  cases joins : visit.joins with
  | false =>
      rw [joins, if_neg Bool.false_ne_true, left_eq] at made
      split at made
      · cases made
        rw [listed_filter]
        by_cases alike : other.Alike visit.member <;> simp [alike]
      · cases made
  | true =>
      rw [joins, if_pos rfl, joined_eq] at made
      split at made
      · cases made
      · cases made
        rw [listed_append_entry]
        by_cases alike : other.Alike visit.member <;> simp [alike]

theorem countP_change {visit : Visit} {members changed : List Tree}
    (made : visit.change members = some changed) (other : Reference) :
    changed.countP (fun entry => other.MatchesEntry entry) ≤
      max 1 (members.countP fun entry => other.MatchesEntry entry) := by
  unfold change at made
  cases joins : visit.joins with
  | false =>
      rw [joins, if_neg Bool.false_ne_true, left_eq] at made
      split at made
      · cases made
        exact Nat.le_trans List.filter_sublist.countP_le (Nat.le_max_right _ _)
      · cases made
  | true =>
      rw [joins, if_pos rfl, joined_eq] at made
      split at made
      · cases made
      · rename_i unlisted
        cases made
        rw [List.countP_append, List.countP_singleton]
        split
        · rename_i matching
          have alike : other.Alike visit.member :=
            Reference.alike_of_matchesEntry (of_decide_eq_true matching)
              visit.member.matchesEntry_entry
          have none : members.countP (fun entry => other.MatchesEntry entry) = 0 := by
            rw [List.countP_eq_zero]
            intro entry present listed
            exact unlisted ⟨entry, present, alike.matchesEntry (of_decide_eq_true listed)⟩
          omega
        · exact Nat.le_max_right _ _

theorem settled_other {first second : Visit} (agree : first.Agrees second)
    {members changed : List Tree} (settled : first.change members = none)
    (made : second.change members = some changed) : first.change changed = none := by
  rw [change_eq_none_iff] at settled ⊢
  rw [listed_change made]
  by_cases alike : first.member.Alike second.member
  · rw [if_pos alike, agree.resolve_right fun apart => apart alike]
  · rw [if_neg alike]
    exact settled

theorem unsettled_other {first second : Visit} {members changed : List Tree}
    (apart : ¬ first.member.Alike second.member) (unsettled : first.change members ≠ none)
    (made : second.change members = some changed) : first.change changed ≠ none := by
  rw [Ne, change_eq_none_iff] at unsettled ⊢
  rwa [listed_change made, if_neg apart]

theorem change_comm {first second : Visit} (leaves : first.joins = false)
    (apart : ¬ first.member.Alike second.member) {members one other : List Tree}
    (firstMade : first.change members = some one)
    (secondMade : second.change members = some other) :
    ∃ both, first.change other = some both ∧ second.change one = some both := by
  have firstListed : Listed first.member other := by
    have unsettled : first.change other ≠ none :=
      unsettled_other apart (by rw [firstMade]; exact Option.some_ne_none one) secondMade
    simpa [change_eq_none_iff, leaves] using unsettled
  have secondAgain : second.change one ≠ none :=
    unsettled_other (fun alike => apart alike.symm)
      (by rw [secondMade]; exact Option.some_ne_none other) firstMade
  simp only [change, leaves, Bool.false_eq_true, if_false, left_eq, if_pos firstListed]
    at firstMade ⊢
  split at firstMade
  · cases firstMade
    refine ⟨_, rfl, ?_⟩
    cases joins : second.joins with
    | false =>
        simp only [change_eq_none_iff, joins, Bool.false_eq_true, iff_false, Decidable.not_not, Ne]
          at secondAgain
        simp only [change, joins, Bool.false_eq_true, if_false, left_eq, if_pos secondAgain]
          at secondMade ⊢
        split at secondMade
        · cases secondMade
          simp only [List.filter_filter, Bool.and_comm]
        · cases secondMade
    | true =>
        simp only [change_eq_none_iff, joins, iff_true, Ne] at secondAgain
        simp only [change, joins, if_true, joined_eq, if_neg secondAgain] at secondMade ⊢
        split at secondMade
        · cases secondMade
        · cases secondMade
          have entryKept : ¬ first.member.MatchesEntry second.member.entry := by
            intro listed
            exact apart (Reference.alike_of_matchesEntry listed second.member.matchesEntry_entry)
          simp [List.filter_append, entryKept]
  · cases firstMade

/-- The list after a visit, if it is to be written; `none` stands for the list as it was found. -/
def step (visit : Visit) (found : List Tree) (written? : Option (List Tree)) :
    Option (List Tree) :=
  match visit.change (written?.getD found) with
  | some changed => some changed
  | none => written?

theorem step_comm {first second : Visit} (leaves : first.joins = false)
    (agree : first.Agrees second) (found : List Tree) (written? : Option (List Tree)) :
    first.step found (second.step found written?) =
      second.step found (first.step found written?) := by
  unfold step
  cases firstMade : first.change (written?.getD found) with
  | none =>
      cases secondMade : second.change (written?.getD found) with
      | none => simp only [firstMade]
      | some other =>
          simp only [Option.getD_some, settled_other agree firstMade secondMade]
  | some one =>
      cases secondMade : second.change (written?.getD found) with
      | none =>
          simp only [firstMade, Option.getD_some, settled_other agree.symm secondMade firstMade]
      | some other =>
          simp only [Option.getD_some]
          by_cases alike : first.member.Alike second.member
          · have same : first.change = second.change :=
              change_congr (agree.resolve_right fun apart => apart alike) alike
            rw [same] at firstMade ⊢
            cases firstMade.symm.trans secondMade
            rfl
          · obtain ⟨both, firstLast, secondLast⟩ := change_comm leaves alike firstMade secondMade
            rw [firstLast, secondLast]

end Visit

end Enrolment

end Rollout
