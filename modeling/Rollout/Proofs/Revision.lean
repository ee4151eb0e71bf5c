import Rollout.Proofs.Roster

/-! Scopes under change. What a visit makes of a fetched scope depends on the scope alone: the
member list is rewritten and all else, the identity included, stays. -/

set_option autoImplicit false

namespace Rollout.Enrolment

variable {config : Config} {scope : Resource}

theorem members_eq_ok_iff {found : List Tree} :
    members config scope = .ok found ↔
      scope.get config.workloadRefsPath = .ok (.array found) ∨
        found = [] ∧ (scope.get config.workloadRefsPath = .ok .null ∨
          ∃ error, scope.get config.workloadRefsPath = .error error ∧ error.isNotFound = true) := by
  unfold members
  cases scope.get config.workloadRefsPath with
  | ok node => cases node <;> simp [@eq_comm _ [] found]
  | error error => cases absent : error.isNotFound <;> simp [absent, @eq_comm _ [] found]

theorem listable_of_members {found : List Tree} (legible : members config scope = .ok found)
    (node : Tree) (there : scope.get config.workloadRefsPath = .ok node) :
    node = .null ∨ ∃ items, node = .array items := by
  rcases members_eq_ok_iff.mp legible with array | ⟨-, null | ⟨error, absent, -⟩⟩
  · rw [there] at array
    cases array
    exact .inr ⟨found, rfl⟩
  · rw [there] at null
    cases null
    exact .inl rfl
  · rw [there] at absent
    cases absent

def Lists (config : Config) (scope : Resource) (member : Reference) : Prop :=
  ∃ items, scope.get config.workloadRefsPath = .ok (.array items) ∧ Listed member items

theorem lists_congr {member other : Reference} (alike : member.Alike other) :
    Lists config scope member ↔ Lists config scope other := by
  constructor
  · intro lists
    obtain ⟨items, there, entry, present, listed⟩ := lists
    exact ⟨items, there, entry, present, alike.matchesEntry listed⟩
  · intro lists
    obtain ⟨items, there, entry, present, listed⟩ := lists
    exact ⟨items, there, entry, present, alike.symm.matchesEntry listed⟩

theorem lists_iff {found : List Tree} (legible : members config scope = .ok found)
    (member : Reference) : Lists config scope member ↔ Listed member found := by
  rcases members_eq_ok_iff.mp legible with array | ⟨rfl, other⟩
  · constructor
    · intro lists
      obtain ⟨items, there, listed⟩ := lists
      rw [array] at there
      cases there
      exact listed
    · intro listed
      exact ⟨found, array, listed⟩
  · constructor
    · intro lists
      obtain ⟨items, there, -⟩ := lists
      rw [there] at other
      rcases other with null | ⟨error, absent, -⟩
      · cases null
      · cases absent
    · intro listed
      obtain ⟨entry, impossible, -⟩ := listed
      cases impossible

def Writable (config : Config) (scope : Resource) : Prop :=
  (scope.set config.workloadRefsPath (.array [])).failure = none

theorem Writable.set (writable : Writable config scope) (items : List Tree) :
    (scope.set config.workloadRefsPath (.array items)).failure = none :=
  (Resource.failure_set scope config.workloadRefsPath _ _).trans writable

theorem writable_of_get {node : Tree} (there : scope.get config.workloadRefsPath = .ok node) :
    Writable config scope := by
  unfold Writable
  rw [Resource.failure_set scope config.workloadRefsPath (.array []) node, Resource.set_get there]

theorem writable_of_listed {found : List Tree} {member : Reference}
    (legible : members config scope = .ok found) (listed : Listed member found) :
    Writable config scope := by
  obtain ⟨items, there, -⟩ := (lists_iff legible member).mpr listed
  exact writable_of_get there

theorem members_set {items : List Tree}
    (succeeded : (scope.set config.workloadRefsPath (.array items)).failure = none) :
    members config (scope.set config.workloadRefsPath (.array items)).resource = .ok items :=
  members_eq_ok_iff.mpr (.inl (Resource.get_set succeeded))

/-- The scope as it is to be written back after a change of its member list, if there is anything
to change. -/
def revision (config : Config) (change : List Tree → Option (List Tree)) (scope : Resource) :
    Except PathError (Option Resource) :=
  match members config scope with
  | .error error => .error error
  | .ok members =>
    match change members with
    | none => .ok none
    | some changed =>
      let written := scope.set config.workloadRefsPath (.array changed)
      match written.failure with
      | some error => .error error
      | none => .ok (some written.resource)

/-- The dialogue over a fetched scope is decided by the revision of the scope. -/
theorem edit_eq (key workload : Reference) (change : List Tree → Option (List Tree))
    (unchanged : Event) :
    edit config key workload scope change unchanged =
      match revision config change scope with
      | .error error => .fail (.updateScope key workload (.attribute error))
      | .ok none => .note unchanged (.done (.ok false))
      | .ok (some body) =>
        .heed "update_scope"
          ((Dialogue.call (.update .scope body) fun refusal =>
            .updateScope key workload (.store refusal)).bind fun _ => .done (.ok true)) := by
  unfold edit revision
  cases members config scope with
  | error error => rfl
  | ok found =>
      cases made : change found with
      | none =>
          simp only [made]
          rfl
      | some changed =>
          simp only [made, write]
          cases (scope.set config.workloadRefsPath (.array changed)).failure with
          | some error => rfl
          | none => rfl

theorem revision_eq_none_iff {change : List Tree → Option (List Tree)} :
    revision config change scope = .ok none ↔
      ∃ found, members config scope = .ok found ∧ change found = none := by
  unfold revision
  cases members config scope with
  | error error => simp
  | ok found =>
      cases made : change found with
      | none => simp [made]
      | some changed =>
          cases failed : (scope.set config.workloadRefsPath (.array changed)).failure <;>
            simp [made, failed]

theorem revision_eq_some_iff {change : List Tree → Option (List Tree)} {body : Resource} :
    revision config change scope = .ok (some body) ↔
      ∃ found changed, members config scope = .ok found ∧ change found = some changed ∧
        scope.set config.workloadRefsPath (.array changed) = ⟨body, none⟩ := by
  unfold revision
  cases members config scope with
  | error error => simp
  | ok found =>
      cases made : change found with
      | none => simp [made]
      | some changed =>
          cases written : scope.set config.workloadRefsPath (.array changed) with
          | mk resource failure => cases failure <;> simp [made, written]

theorem revision_eq_error_iff {change : List Tree → Option (List Tree)} {error : PathError} :
    revision config change scope = .error error ↔
      members config scope = .error error ∨
        ∃ found changed, members config scope = .ok found ∧ change found = some changed ∧
          (scope.set config.workloadRefsPath (.array changed)).failure = some error := by
  unfold revision
  cases members config scope with
  | error other => simp
  | ok found =>
      cases made : change found with
      | none => simp [made]
      | some changed =>
          cases failed : (scope.set config.workloadRefsPath (.array changed)).failure <;>
            simp [made, failed]

theorem reference_of_revision {change : List Tree → Option (List Tree)} {body : Resource}
    (revised : revision config change scope = .ok (some body)) :
    body.reference = scope.reference := by
  obtain ⟨found, changed, legible, -, written⟩ := revision_eq_some_iff.mp revised
  have succeeded : (scope.set config.workloadRefsPath (.array changed)).failure = none := by
    rw [written]
  have kept := Resource.reference_set (listable_of_members legible) succeeded
  rwa [written] at kept

namespace Visit

def amend (config : Config) (visit : Visit) (scope : Resource) : Resource :=
  match revision config visit.change scope with
  | .ok (some body) => body
  | _ => scope

def Settled (config : Config) (visit : Visit) (scope : Resource) : Prop :=
  revision config visit.change scope = .ok none

/-- The member list can be read, and be written if that may be needed. -/
def Feasible (config : Config) (visit : Visit) (scope : Resource) : Prop :=
  (∃ found, members config scope = .ok found) ∧ (visit.joins = true → Writable config scope)

theorem feasible_iff (visit : Visit) :
    visit.Feasible config scope ↔ ∃ outcome, revision config visit.change scope = .ok outcome := by
  constructor
  · intro feasible
    obtain ⟨⟨found, legible⟩, needed⟩ := feasible
    cases made : visit.change found with
    | none => exact ⟨none, revision_eq_none_iff.mpr ⟨found, legible, made⟩⟩
    | some changed =>
        have writable : Writable config scope := by
          cases joins : visit.joins with
          | true => exact needed joins
          | false =>
              have unsettled : visit.change found ≠ none := by
                rw [made]
                exact Option.some_ne_none changed
              have listed : Listed visit.member found := by
                simpa [change_eq_none_iff, joins] using unsettled
              exact writable_of_listed legible listed
        refine ⟨some (scope.set config.workloadRefsPath (.array changed)).resource,
          revision_eq_some_iff.mpr ⟨found, changed, legible, made, ?_⟩⟩
        rw [← writable.set changed]
  · intro revised
    obtain ⟨outcome, revised⟩ := revised
    cases outcome with
    | none =>
        obtain ⟨found, legible, settled⟩ := revision_eq_none_iff.mp revised
        refine ⟨⟨found, legible⟩, fun joins => ?_⟩
        exact writable_of_listed legible (((change_eq_none_iff visit found).mp settled).mpr joins)
    | some body =>
        obtain ⟨found, changed, legible, -, written⟩ := revision_eq_some_iff.mp revised
        refine ⟨⟨found, legible⟩, fun _ => ?_⟩
        unfold Writable
        rw [Resource.failure_set scope _ _ (.array changed), written]

theorem amend_of_settled {visit : Visit} (settled : visit.Settled config scope) :
    visit.amend config scope = scope := by
  unfold Settled at settled
  simp only [amend, settled]

theorem amend_cases (config : Config) (visit : Visit) (scope : Resource) :
    visit.amend config scope = scope ∨
      revision config visit.change scope = .ok (some (visit.amend config scope)) := by
  unfold amend
  split
  · rename_i body revised
    exact .inr revised
  · exact .inl rfl

theorem key_amend (visit : Visit) : (visit.amend config scope).key = scope.key := by
  rcases amend_cases config visit scope with same | revised
  · rw [same]
  · exact Resource.key_eq_of_reference (reference_of_revision revised)

def rewritten (config : Config) (scope : Resource) : Option (List Tree) → Resource
  | none => scope
  | some members => (scope.set config.workloadRefsPath (.array members)).resource

theorem members_rewritten {found : List Tree} (legible : members config scope = .ok found)
    (writable : Writable config scope) (written? : Option (List Tree)) :
    members config (rewritten config scope written?) = .ok (written?.getD found) := by
  cases written? with
  | none => exact legible
  | some items => exact members_set (writable.set items)

theorem set_rewritten (writable : Writable config scope) (written? : Option (List Tree))
    (items : List Tree) :
    (rewritten config scope written?).set config.workloadRefsPath (.array items) =
      ⟨rewritten config scope (some items), none⟩ := by
  have here : scope.set config.workloadRefsPath (.array items) =
      ⟨rewritten config scope (some items), none⟩ := by
    rw [← writable.set items]
    rfl
  cases written? with
  | none => exact here
  | some before => exact (Resource.set_set (writable.set before) _).trans here

theorem amend_rewritten {found : List Tree} (legible : members config scope = .ok found)
    (writable : Writable config scope) (visit : Visit) (written? : Option (List Tree)) :
    visit.amend config (rewritten config scope written?) =
      rewritten config scope (visit.step found written?) := by
  have list := members_rewritten legible writable written?
  cases made : visit.change (written?.getD found) with
  | none =>
      have settled : visit.Settled config (rewritten config scope written?) :=
        revision_eq_none_iff.mpr ⟨_, list, made⟩
      rw [amend_of_settled settled, step, made]
  | some changed =>
      have revised : revision config visit.change (rewritten config scope written?) =
          .ok (some (rewritten config scope (some changed))) :=
        revision_eq_some_iff.mpr ⟨_, changed, list, made, set_rewritten writable written? changed⟩
      simp only [amend, revised, step, made]

theorem amend_of_not_writable (locked : ¬ Writable config scope) (visit : Visit) :
    visit.amend config scope = scope := by
  rcases amend_cases config visit scope with same | revised
  · exact same
  · obtain ⟨found, changed, -, -, written⟩ := revision_eq_some_iff.mp revised
    refine absurd ?_ locked
    unfold Writable
    rw [Resource.failure_set scope _ _ (.array changed), written]

theorem amend_comm {first second : Visit} (leaves : first.joins = false)
    (agree : first.Agrees second) :
    first.amend config (second.amend config scope) =
      second.amend config (first.amend config scope) := by
  by_cases writable : Writable config scope
  · cases legible : members config scope with
    | error error =>
        have same (visit : Visit) : visit.amend config scope = scope := by
          simp only [amend, revision, legible]
        rw [same second, same first, same second]
    | ok found =>
        have amended := amend_rewritten legible writable
        calc first.amend config (second.amend config scope)
            = first.amend config (rewritten config scope (second.step found none)) :=
              congrArg _ (amended second none)
          _ = rewritten config scope (first.step found (second.step found none)) := amended first _
          _ = rewritten config scope (second.step found (first.step found none)) := by
              rw [step_comm leaves agree]
          _ = second.amend config (rewritten config scope (first.step found none)) :=
              (amended second _).symm
          _ = second.amend config (first.amend config scope) :=
              congrArg _ (amended first none).symm
  · have same := amend_of_not_writable writable
    rw [same second, same first, same second]

theorem legible_amend (visit : Visit) :
    (∃ found, members config (visit.amend config scope) = .ok found) ↔
      ∃ found, members config scope = .ok found := by
  rcases amend_cases config visit scope with same | revised
  · rw [same]
  · obtain ⟨found, changed, legible, -, written⟩ := revision_eq_some_iff.mp revised
    have after : members config (visit.amend config scope) = .ok changed := by
      have succeeded : (scope.set config.workloadRefsPath (.array changed)).failure = none := by
        rw [written]
      have list := members_set succeeded
      rwa [written] at list
    exact ⟨fun _ => ⟨found, legible⟩, fun _ => ⟨changed, after⟩⟩

theorem writable_amend (visit : Visit) :
    Writable config (visit.amend config scope) ↔ Writable config scope := by
  rcases amend_cases config visit scope with same | revised
  · rw [same]
  · obtain ⟨found, changed, -, -, written⟩ := revision_eq_some_iff.mp revised
    have before : Writable config scope := by
      unfold Writable
      rw [Resource.failure_set scope _ _ (.array changed), written]
    have after : Writable config (visit.amend config scope) := by
      have hidden := Resource.set_set (before.set changed) (.array [])
      rw [written] at hidden
      unfold Writable
      rw [hidden]
      exact before
    exact ⟨fun _ => before, fun _ => after⟩

theorem feasible_amend (visit other : Visit) :
    visit.Feasible config (other.amend config scope) ↔ visit.Feasible config scope := by
  simp only [Feasible, legible_amend, writable_amend]

/-- A scope after a feasible visit lists the member as the visit asks and all others as before. -/
theorem lists_amend {visit : Visit} (feasible : visit.Feasible config scope) (other : Reference) :
    Lists config (visit.amend config scope) other ↔
      if other.Alike visit.member then visit.joins = true else Lists config scope other := by
  obtain ⟨outcome, revised⟩ := (feasible_iff visit).mp feasible
  cases outcome with
  | none =>
      obtain ⟨found, legible, settled⟩ := revision_eq_none_iff.mp revised
      rw [amend_of_settled revised]
      by_cases alike : other.Alike visit.member
      · rw [if_pos alike, lists_congr alike, lists_iff legible]
        exact (change_eq_none_iff visit found).mp settled
      · rw [if_neg alike]
  | some body =>
      obtain ⟨found, changed, legible, made, written⟩ := revision_eq_some_iff.mp revised
      have after : members config (visit.amend config scope) = .ok changed := by
        have succeeded : (scope.set config.workloadRefsPath (.array changed)).failure = none := by
          rw [written]
        have list := members_set succeeded
        simp only [amend, revised]
        rwa [written] at list
      rw [lists_iff after, listed_change made, lists_iff legible]

theorem settled_iff (visit : Visit) :
    visit.Settled config scope ↔
      (∃ found, members config scope = .ok found) ∧
        (Lists config scope visit.member ↔ visit.joins = true) := by
  constructor
  · intro settled
    obtain ⟨found, legible, none⟩ := revision_eq_none_iff.mp settled
    refine ⟨⟨found, legible⟩, ?_⟩
    rw [lists_iff legible]
    exact (change_eq_none_iff visit found).mp none
  · intro settled
    obtain ⟨⟨found, legible⟩, right⟩ := settled
    rw [lists_iff legible] at right
    exact revision_eq_none_iff.mpr ⟨found, legible, (change_eq_none_iff visit found).mpr right⟩

theorem settled_amend {visit : Visit} (feasible : visit.Feasible config scope) :
    visit.Settled config (visit.amend config scope) := by
  rw [settled_iff, legible_amend, lists_amend feasible, if_pos ⟨rfl, rfl, rfl⟩]
  exact ⟨feasible.1, Iff.rfl⟩

theorem Settled.amend_other {visit other : Visit} (settled : visit.Settled config scope)
    (agree : visit.Agrees other) : visit.Settled config (other.amend config scope) := by
  rcases amend_cases config other scope with same | revised
  · rwa [same]
  · have feasible := (feasible_iff other).mpr ⟨_, revised⟩
    rw [settled_iff] at settled ⊢
    rw [legible_amend, lists_amend feasible]
    refine ⟨settled.1, ?_⟩
    by_cases alike : visit.member.Alike other.member
    · rw [if_pos alike, agree.resolve_right fun apart => apart alike]
    · rw [if_neg alike]
      exact settled.2

/-- The scope as the visit writes it back, if it is there and there is anything to change. -/
def revised? (config : Config) (visit : Visit) (held : Option Resource) : Option Resource :=
  match held.map (revision config visit.change) with
  | some (.ok (some body)) => some body
  | _ => none

theorem revised?_eq_some_iff {visit : Visit} {held : Option Resource} {body : Resource} :
    visit.revised? config held = some body ↔
      ∃ scope, held = some scope ∧ revision config visit.change scope = .ok (some body) := by
  cases held with
  | none => simp [revised?]
  | some scope =>
      cases made : revision config visit.change scope with
      | error error => simp [revised?, made]
      | ok outcome => cases outcome <;> simp [revised?, made]

theorem found_of_revised? {visit : Visit} {held : Option Resource} {body : Resource}
    (revised : visit.revised? config held = some body) :
    ∃ scope, held = some scope ∧ revision config visit.change scope = .ok (some body) ∧
      body.key = scope.key := by
  obtain ⟨scope, found, made⟩ := revised?_eq_some_iff.mp revised
  exact ⟨scope, found, made, Resource.key_eq_of_reference (reference_of_revision made)⟩

end Visit

end Rollout.Enrolment
