import Rollout.Engine.Dialogue

/-! Laws of dialogues: going on is associative and has the finished result as its unit, and a
dialogue that goes on runs as its first part and then, unless that fails, as its second part
in the state that the first one left. -/

set_option autoImplicit false

namespace Rollout

namespace Dialogue

variable {α β γ : Type}

theorem bind_ok (dialogue : Dialogue α) :
    dialogue.bind (fun value => .done (.ok value)) = dialogue := by
  induction dialogue with
  | done result => cases result <;> rfl
  | heed operation next ih => simp only [bind, ih]
  | ask call next ih => simp only [bind, ih]
  | note event next ih => simp only [bind, ih]

theorem bind_assoc (first : Dialogue α) (second : α → Dialogue β) (third : β → Dialogue γ) :
    (first.bind second).bind third = first.bind (fun value => (second value).bind third) := by
  induction first with
  | done result => cases result <;> rfl
  | heed operation next ih => simp only [bind, ih]
  | ask call next ih => simp only [bind, ih]
  | note event next ih => simp only [bind, ih]

instance : LawfulMonad Dialogue :=
  LawfulMonad.mk' Dialogue bind_ok (fun _ _ => rfl) bind_assoc

end Dialogue

namespace Run

variable {State α β : Type}

/-- The run that goes on where this one ends, unless this one failed. -/
def andThen (first : Run State α) (second : α → State → Run State β) : Run State β :=
  match first.result with
  | .error error => ⟨.error error, first.transcript, first.state⟩
  | .ok value =>
    let later := second value first.state
    { later with transcript := first.transcript ++ later.transcript }

theorem andThen_after (entry : Entry) (first : Run State α) (second : α → State → Run State β) :
    (first.after entry).andThen second = (first.andThen second).after entry := by
  obtain ⟨result, transcript, state⟩ := first
  cases result <;> rfl

end Run

namespace Dialogue

variable {State α β : Type}

theorem run_bind (world : World State) (first : Dialogue α) (second : α → Dialogue β)
    (state : State) :
    (first.bind second).run world state =
      (first.run world state).andThen fun value => (second value).run world := by
  induction first generalizing state with
  | done result => cases result <;> rfl
  | note event next ih =>
      simp only [bind, run, ih]
      exact (Run.andThen_after _ _ _).symm
  | heed operation next ih =>
      simp only [bind, run]
      cases world.stopped? state with
      | some reason => rfl
      | none => exact ih state
  | ask call next ih =>
      simp only [bind, run, ih]
      exact (Run.andThen_after _ _ _).symm

end Dialogue

end Rollout
