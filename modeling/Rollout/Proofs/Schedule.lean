import Rollout.Proofs.Course

/-! The schedule of a pass. Which calls may be made for each task, and in which order, is known from
the input and from what the client answers; a pass that succeeds makes all of them, and one that
fails makes those up to some point. -/

set_option autoImplicit false

namespace Rollout

/-- The items one after another, each with a part of its own. -/
inductive InTurn {α β : Type} (part : α → List β → Prop) : List α → List β → Prop where
  | nothing : InTurn part [] []
  | next {item : α} {rest : List α} {here later : List β} (its : part item here)
      (others : InTurn part rest later) : InTurn part (item :: rest) (here ++ later)

theorem InTurn.forall_mem {α β : Type} {part : α → List β → Prop} {items : List α}
    {all : List β} {property : β → Prop} (inTurn : InTurn part items all)
    (each : ∀ item here, part item here → ∀ element ∈ here, property element) :
    ∀ element ∈ all, property element := by
  induction inTurn with
  | nothing => exact fun _ impossible => nomatch impossible
  | next its others ih =>
      intro element member
      rcases List.mem_append.mp member with here | later
      · exact each _ _ its element here
      · exact ih element later

theorem InTurn.split {α β : Type} {part : α → List β → Prop} {earlier later : List α} {item : α}
    {all : List β} (inTurn : InTurn part (earlier ++ item :: later) all) :
    ∃ before here after, all = before ++ (here ++ after) ∧ InTurn part earlier before ∧
      part item here ∧ InTurn part later after := by
  induction earlier generalizing all with
  | nil =>
      cases inTurn with
      | next its others => exact ⟨[], _, _, rfl, .nothing, its, others⟩
  | cons first rest ih =>
      cases inTurn with
      | next its others =>
          obtain ⟨before, here, after, rfl, front, middle, back⟩ := ih others
          exact ⟨_ ++ before, here, after, by rw [List.append_assoc], .next its front, middle, back⟩

/-- Workloads and traits are upserted, and scopes are updated. -/
def Call.InRole : Call → Prop
  | .upsert role _ _ => role = .workload ∨ role = .trait
  | .get _ => True
  | .update role _ => role = .scope
  | .traitDefinition _ _ => True

namespace Pass

/-- All that is said over a task which is carried out: an upsert of a workload as it is, the
question for the type of a trait and the upsert of that trait as its type wants it, or the fetch of
a scope and at most one update. -/
inductive Part (pass : Pass) : Task → List Exchange → Prop where
  | present (workload : Workload) (reply : Except StoreError Unit) :
      Part pass (.present workload) [⟨.upsert .workload workload.body pass.options, reply⟩]
  | equip (workload : Reference) (body : Resource) (traitType : TraitType)
      (reply : Except StoreError Unit)
      (told : (body.inject traitType.injectionPath? workload).failure = none) :
      Part pass (.equip workload body)
        [⟨.traitDefinition body.apiVersion body.kind, .ok traitType⟩,
          ⟨.upsert .trait (body.inject traitType.injectionPath? workload).resource pass.options,
            reply⟩]
  | look (visit : Enrolment.Visit) (reply : Except StoreError Resource) :
      Part pass (.visit visit) [⟨.get visit.key, reply⟩]
  | write (visit : Enrolment.Visit) (scope body : Resource) (reply : Except StoreError Unit) :
      Part pass (.visit visit) [⟨.get visit.key, .ok scope⟩, ⟨.update .scope body, reply⟩]

variable {pass : Pass} {task : Task} {talk : List Exchange} {result : Except ApplyError Unit}

theorem Part.inRole (part : pass.Part task talk) : ∀ exchange ∈ talk, exchange.1.InRole := by
  cases part with
  | present workload reply => simp [Call.InRole]
  | equip workload body traitType reply told => simp [Call.InRole]
  | look visit reply => simp [Call.InRole]
  | write visit scope body reply => simp [Call.InRole]

theorem exists_part (pass : Pass) (task : Task) : ∃ talk, pass.Part task talk := by
  cases task with
  | present workload => exact ⟨_, .present workload (.ok ())⟩
  | equip workload body => exact ⟨_, .equip workload body {} (.ok ()) rfl⟩
  | visit visit => exact ⟨_, .look visit (.error (.backend ""))⟩

theorem exists_inTurn (pass : Pass) (tasks : List Task) :
    ∃ schedule, InTurn pass.Part tasks schedule := by
  induction tasks with
  | nil => exact ⟨[], .nothing⟩
  | cons task rest ih =>
      obtain ⟨here, its⟩ := pass.exists_part task
      obtain ⟨later, others⟩ := ih
      exact ⟨here ++ later, .next its others⟩

/-- A task is carried out in full, or nothing was said but the question for the type of a trait. -/
theorem Yields.part_or_asked (yields : pass.Yields task talk result) :
    pass.Part task talk ∨ ∃ workload body reply error, task = .equip workload body ∧
      talk = [⟨.traitDefinition body.apiVersion body.kind, reply⟩] ∧ result = .error error := by
  cases yields with
  | presented workload reply => exact .inl (.present workload reply)
  | untyped workload body refusal => exact .inr ⟨workload, body, _, _, rfl, rfl, rfl⟩
  | untold workload body traitType failed => exact .inr ⟨workload, body, _, _, rfl, rfl, rfl⟩
  | equipped workload body traitType reply told =>
      exact .inl (.equip workload body traitType reply told)
  | unfetched visit refusal minded => exact .inl (.look visit _)
  | gone visit refusal tolerated => exact .inl (.look visit _)
  | unrevised visit scope failed => exact .inl (.look visit _)
  | settled visit scope same => exact .inl (.look visit _)
  | revised visit scope reply made => exact .inl (.write visit scope _ reply)

theorem Yields.part (yields : pass.Yields task talk (.ok ())) : pass.Part task talk := by
  rcases yields.part_or_asked with part | ⟨_, _, _, _, _, _, impossible⟩
  · exact part
  · cases impossible

/-- The talk begins the schedule: its calls come first there, with the same replies but for that to
the last call. -/
def Begins (talk schedule : List Exchange) : Prop :=
  talk.map (·.1) <+: schedule.map (·.1) ∧ talk.dropLast <+: schedule

theorem Begins.of_starts {schedule : List Exchange} (starts : talk <+: schedule) :
    Begins talk schedule :=
  ⟨starts.map _, (List.dropLast_prefix talk).trans starts⟩

theorem Begins.append {schedule : List Exchange} (begins : Begins talk schedule)
    (later : List Exchange) : Begins talk (schedule ++ later) := by
  obtain ⟨calls, replies⟩ := begins
  rw [Begins, List.map_append]
  exact ⟨calls.trans (List.prefix_append _ _), replies.trans (List.prefix_append _ _)⟩

theorem Begins.append_left {later schedule : List Exchange} (begins : Begins later schedule)
    (talk : List Exchange) : Begins (talk ++ later) (talk ++ schedule) := by
  obtain ⟨calls, replies⟩ := begins
  cases later with
  | nil => exact .of_starts (by simp)
  | cons first rest =>
      rw [Begins, List.map_append, List.map_append, List.dropLast_append_cons]
      exact ⟨List.prefix_append_right_inj _ |>.mpr calls,
        List.prefix_append_right_inj _ |>.mpr replies⟩

theorem Yields.begins (yields : pass.Yields task talk result) :
    ∃ whole, pass.Part task whole ∧ Begins talk whole := by
  rcases yields.part_or_asked with part | ⟨workload, body, reply, error, rfl, rfl, -⟩
  · exact ⟨talk, part, .of_starts List.prefix_rfl⟩
  · exact ⟨_, .equip workload body {} (.ok ()) rfl, by simp [Begins]⟩

theorem Course.begins {tasks : List Task} (course : pass.Course tasks talk result) :
    ∃ schedule, InTurn pass.Part tasks schedule ∧ (result = .ok () → talk = schedule) ∧
      Begins talk schedule := by
  induction course with
  | finished => exact ⟨[], .nothing, fun _ => rfl, .of_starts List.prefix_rfl⟩
  | @went task rest talk later result here onward ih =>
      obtain ⟨schedule, others, whole, begins⟩ := ih
      refine ⟨talk ++ schedule, .next here.part others, ?_, begins.append_left talk⟩
      intro succeeded
      rw [whole succeeded]
  | failed rest here =>
      obtain ⟨whole, its, begins⟩ := here.begins
      obtain ⟨later, others⟩ := pass.exists_inTurn rest
      exact ⟨whole ++ later, .next its others, fun impossible => (nomatch impossible),
        begins.append later⟩

/-- The task that a call is made for, where the tasks before it were carried out in full and so much
had been said for it before the call. -/
def Reaches (pass : Pass) (tasks : List Task) (before : List Exchange) (task : Task)
    (begun : List Exchange) : Prop :=
  ∃ done rest earlier, tasks = done ++ task :: rest ∧ InTurn pass.Part done earlier ∧
    before = earlier ++ begun

theorem Reaches.next {first : Task} {rest : List Task} {before begun here : List Exchange}
    (reaches : pass.Reaches rest before task begun) (its : pass.Part first here) :
    pass.Reaches (first :: rest) (here ++ before) task begun := by
  obtain ⟨done, later, earlier, rfl, inTurn, rfl⟩ := reaches
  exact ⟨first :: done, later, here ++ earlier, rfl, .next its inTurn, by rw [List.append_assoc]⟩

theorem Reaches.mem {tasks : List Task} {before begun : List Exchange}
    (reaches : pass.Reaches tasks before task begun) : task ∈ tasks := by
  obtain ⟨done, rest, earlier, rfl, -, -⟩ := reaches
  exact List.mem_append_right _ List.mem_cons_self

/-- Every exchange belongs to a task that was reached. That task goes well, and the course goes on,
or the course ends with it. -/
theorem Course.reaches {tasks : List Task} (course : pass.Course tasks talk result)
    {before after : List Exchange} {exchange : Exchange}
    (split : talk = before ++ exchange :: after) :
    ∃ task begun, pass.Reaches tasks before task begun ∧
      ((∃ here later rest, after = here ++ later ∧
          pass.Yields task (begun ++ exchange :: here) (.ok ()) ∧ pass.Course rest later result) ∨
        result ≠ .ok () ∧ pass.Yields task (begun ++ exchange :: after) result) := by
  induction course generalizing before with
  | finished => simp at split
  | @failed task talk error rest here =>
      subst split
      exact ⟨task, before, ⟨[], rest, [], rfl, .nothing, rfl⟩, .inr ⟨nofun, here⟩⟩
  | @went task rest talk later result here onward ih =>
      rcases List.append_eq_append_iff.mp split with ⟨begun, rfl, there⟩ | ⟨tail, rfl, there⟩
      · obtain ⟨last, said, reaches, outcome⟩ := ih there
        exact ⟨last, said, reaches.next here.part, outcome⟩
      · cases tail with
        | nil =>
            obtain ⟨last, said, reaches, outcome⟩ := @ih [] there.symm
            exact ⟨last, said, by simpa using reaches.next here.part, outcome⟩
        | cons element tail =>
            cases there
            exact ⟨task, before, ⟨[], rest, [], rfl, .nothing, rfl⟩,
              .inl ⟨tail, later, rest, rfl, here, onward⟩⟩

theorem Course.yields_of_split {tasks : List Task} (course : pass.Course tasks talk result)
    {before after : List Exchange} {exchange : Exchange}
    (split : talk = before ++ exchange :: after) :
    ∃ task begun here outcome, pass.Reaches tasks before task begun ∧
      pass.Yields task (begun ++ exchange :: here) outcome ∧
        (result = .ok () → outcome = .ok ()) ∧ (outcome ≠ .ok () → here = after) := by
  obtain ⟨task, begun, reaches, ⟨here, later, rest, -, yields, -⟩ | ⟨failed, yields⟩⟩ :=
    course.reaches split
  · exact ⟨task, begun, here, _, reaches, yields, fun _ => rfl, fun failed => absurd rfl failed⟩
  · exact ⟨task, begun, after, _, reaches, yields, id, fun _ => rfl⟩

theorem Course.fails {tasks : List Task} (course : pass.Course tasks talk result)
    {error : ApplyError} (failed : result = .error error) :
    ∃ task before here, pass.Reaches tasks before task [] ∧ talk = before ++ here ∧
      pass.Yields task here (.error error) := by
  induction course with
  | finished => cases failed
  | @failed task talk error rest here =>
      cases failed
      exact ⟨task, [], talk, ⟨[], rest, [], rfl, .nothing, rfl⟩, rfl, here⟩
  | went here onward ih =>
      obtain ⟨task, before, last, reaches, rfl, yields⟩ := ih failed
      exact ⟨task, _, last, reaches.next here.part, (List.append_assoc _ _ _).symm, yields⟩

theorem Course.forall_calls {property : Call → Prop}
    (each : ∀ task talk, pass.Part task talk → ∀ exchange ∈ talk, property exchange.1)
    {tasks : List Task} (course : pass.Course tasks talk result) :
    ∀ call ∈ talk.map (·.1), property call := by
  intro call made
  obtain ⟨schedule, inTurn, -, calls, -⟩ := course.begins
  obtain ⟨exchange, member, rfl⟩ := List.mem_map.mp (calls.subset made)
  exact inTurn.forall_mem each exchange member

theorem Course.inRole {tasks : List Task} (course : pass.Course tasks talk result) {call : Call}
    (made : call ∈ talk.map (·.1)) : call.InRole :=
  course.forall_calls (fun _ _ part => part.inRole) call made

theorem forall_exchanges {State : Type} (pass : Pass) (request : Request) (world : World State)
    (state : State) {property : Call → Prop}
    (each : ∀ task talk, pass.Part task talk → ∀ exchange ∈ talk, property exchange.1) :
    ∀ exchange ∈ (pass.run request world state).exchanges, property exchange.1 := by
  intro exchange said
  have course := pass.course_run world.answer request state
  have begun := pass.exchanges_prefix_live request world state
  exact course.forall_calls each _ (List.mem_map_of_mem (begun.subset said))

theorem inTurn_of_ok {State : Type} {pass : Pass} {request : Request} {world : World State}
    {state : State} (succeeded : (pass.run request world state).result = .ok ()) :
    InTurn pass.Part pass.tasks (pass.run request world state).exchanges := by
  have live := run_eq_live succeeded
  rw [live] at succeeded ⊢
  obtain ⟨schedule, inTurn, whole, -⟩ := (pass.course_run world.answer request state).begins
  rw [whole succeeded]
  exact inTurn

/-- The calls of a pass and their order. A pass that succeeds makes the calls of a schedule, task
after task; one that fails begins a schedule. Each call has the role that goes with it. -/
theorem calls_follow_schedule {State : Type} (pass : Pass) (request : Request)
    (client : Client State) (state : State) :
    let run := pass.run request client.live state
    (∃ schedule, InTurn pass.Part pass.tasks schedule ∧
        (run.result = .ok () → run.exchanges = schedule) ∧
        run.calls <+: schedule.map (·.1) ∧ run.exchanges.dropLast <+: schedule) ∧
      ∀ call ∈ run.calls, call.InRole := by
  have course := pass.course_run client request state
  obtain ⟨schedule, inTurn, whole, calls, replies⟩ := course.begins
  simp only [Run.calls_eq]
  exact ⟨⟨schedule, inTurn, whole, calls, replies⟩, fun call made => course.inRole made⟩

end Pass

end Rollout
