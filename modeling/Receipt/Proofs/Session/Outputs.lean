import Receipt.Proofs.Result
import Receipt.Proofs.Session.History
import Receipt.Sink.Memory

/-!
# Outputs one after the other

Outputs that follow each other come down to moves as a single output does: the moves of one stand
behind those of the other, and each output is planned for the style that the one before it leaves.
A sink that keeps its connection makes exactly these moves, so that whatever is known of the moves
is known of the outputs.
-/

set_option autoImplicit false

namespace Receipt

/-- A sink whose connection neither a write nor a send changes, whether or not the send fails. -/
class Sink.Steady (σ : Type) [Sink σ] : Prop where
  isConnected_write (sink : σ) (command : Command) :
    Sink.isConnected (Sink.write sink command) = Sink.isConnected sink
  isConnected_send (sink : σ) (extra : Nat) :
    Sink.isConnected (Sink.send sink extra).2 = Sink.isConnected sink

instance : Sink.Steady Recorder where
  isConnected_write _ _ := rfl
  isConnected_send recorder extra := by
    cases connected : recorder.connected <;> simp [Sink.send, Sink.isConnected, connected,
      Recorder.flush]

instance {σ : Type} [Sink σ] [Sink.Steady σ] : Sink.Steady (Failing σ) where
  isConnected_write failing command := Sink.Steady.isConnected_write failing.sink command
  isConnected_send failing extra := by
    simp only [Sink.send, Sink.isConnected, Failing.send]
    split
    · exact Sink.Steady.isConnected_send failing.sink extra
    · rfl
    · exact Sink.Steady.isConnected_send failing.sink extra

/-- Moves behind a send are made if it succeeds. -/
theorem Sink.perform_send_cons_eq_ok {σ : Type} [Sink σ] {extra : Nat} {rest : List Move}
    {sink reached : σ} :
    Sink.perform (.send extra :: rest) sink = (.ok (), reached) ↔
      ∃ next, Sink.send sink extra = (.ok (), next) ∧
        Sink.perform rest next = (.ok (), reached) := by
  rw [Sink.perform]
  cases sent : Sink.send sink extra with
  | mk result left => cases result <;> simp

/-- Moves do not change the connection of a steady sink. -/
theorem Sink.isConnected_perform {σ : Type} [Sink σ] [Sink.Steady σ] (moves : List Move)
    (sink : σ) : Sink.isConnected (Sink.perform moves sink).2 = Sink.isConnected sink := by
  induction moves generalizing sink with
  | nil => rfl
  | cons move rest ih =>
      cases move with
      | write command =>
          rw [Sink.perform, ih]
          exact Sink.Steady.isConnected_write sink command
      | send extra =>
          have kept := Sink.Steady.isConnected_send sink extra
          rw [Sink.perform]
          cases sent : Sink.send sink extra with
          | mk result left =>
              rw [sent] at kept
              cases result with
              | ok => exact (ih left).trans kept
              | error failure => exact kept

namespace Output

/-- The moves of outputs one after the other and the style that the last one leaves, or why one of
them is refused. -/
def planAll (profile : Profile) (strips : Bool) (style : Option TextStyle) :
    List Output → Except Failure Plan
  | [] => .ok ⟨style, []⟩
  | output :: rest => do
    let first ← output.plan profile strips style
    let others ← planAll profile strips first.style rest
    pure ⟨others.style, first.moves ++ others.moves⟩

/-- Outputs can be planned if the first one can, and the others behind it. -/
theorem planAll_cons_eq_ok {profile : Profile} {strips : Bool} {style : Option TextStyle}
    {output : Output} {rest : List Output} {plan : Plan} :
    planAll profile strips style (output :: rest) = .ok plan ↔
      ∃ first others, output.plan profile strips style = .ok first ∧
        planAll profile strips first.style rest = .ok others ∧
        plan = ⟨others.style, first.moves ++ others.moves⟩ := by
  rw [planAll]
  simp only [Result.bind_eq_ok]
  constructor
  · rintro ⟨first, planned, others, later, same⟩
    cases same
    exact ⟨first, others, planned, later, rfl⟩
  · rintro ⟨first, others, planned, later, rfl⟩
    exact ⟨first, planned, others, later, rfl⟩

/-- Two lists of outputs can be planned exactly if the first one can and the second one can behind
it. -/
theorem planAll_append_eq_ok {profile : Profile} {strips : Bool} {style : Option TextStyle}
    {front back : List Output} {plan : Plan} :
    planAll profile strips style (front ++ back) = .ok plan ↔
      ∃ first others, planAll profile strips style front = .ok first ∧
        planAll profile strips first.style back = .ok others ∧
        plan = ⟨others.style, first.moves ++ others.moves⟩ := by
  induction front generalizing style plan with
  | nil =>
      constructor
      · intro planned
        exact ⟨_, plan, rfl, planned, rfl⟩
      · rintro ⟨first, others, none, planned, rfl⟩
        cases none
        exact planned
  | cons output rest ih =>
      rw [List.cons_append, planAll_cons_eq_ok]
      simp only [planAll_cons_eq_ok, ih]
      constructor
      · rintro ⟨first, _, planned, ⟨middle, last, later, final, rfl⟩, rfl⟩
        exact ⟨_, last, ⟨first, middle, planned, later, rfl⟩, final, by
          rw [List.append_assoc]⟩
      · rintro ⟨_, last, ⟨first, middle, planned, later, rfl⟩, final, rfl⟩
        exact ⟨first, _, planned, ⟨middle, last, later, final, rfl⟩, by
          rw [List.append_assoc]⟩

end Output

section

variable {σ : Type} [Sink σ]

/-- A plan is fulfilled when the sink makes all of its moves. -/
theorem Action.fulfil_eq_ok {plan : Plan} {session next : Session σ} :
    Action.fulfil plan session = .ok () next ↔
      ∃ reached, Sink.perform plan.moves session.sink = (.ok (), reached) ∧
        next = { session with style := plan.style, sink := reached } := by
  simp only [Action.fulfil, Action.perform]
  cases made : Sink.perform plan.moves session.sink with
  | mk result reached => cases result <;> simp [eq_comm]

/-- A plan fails exactly if its moves fail, and leaves its style and what the sink has become. -/
theorem Action.fulfil_eq_error {plan : Plan} {session left : Session σ} {failure : Failure} :
    Action.fulfil plan session = .error failure left ↔
      ∃ reached, Sink.perform plan.moves session.sink = (.error failure, reached) ∧
        left = { session with style := plan.style, sink := reached } := by
  simp only [Action.fulfil, Action.perform]
  cases made : Sink.perform plan.moves session.sink with
  | mk result reached => cases result <;> simp [and_assoc, eq_comm]

namespace Output

/-- An output does nothing for want of a connection, is refused, or fulfils its plan. -/
theorem run_cases (output : Output) (session : Session σ) :
    output.run session = .ok () session ∨
      (∃ failure, output.plan session.profile session.strips session.style = .error failure ∧
        output.run session = .error failure session) ∨
      ∃ plan, output.plan session.profile session.strips session.style = .ok plan ∧
        output.run session = Action.fulfil plan session := by
  cases connected : session.isConnected with
  | false => exact Or.inl (output.run_of_not_connected connected)
  | true =>
      have ran := output.run_of_connected connected
      cases planned : output.plan session.profile session.strips session.style with
      | error failure =>
          rw [planned] at ran
          exact Or.inr (Or.inl ⟨failure, rfl, ran⟩)
      | ok plan =>
          rw [planned] at ran
          exact Or.inr (Or.inr ⟨plan, rfl, ran⟩)

/-- The first output runs first, and the others behind it unless it fails. -/
theorem runAll_cons (output : Output) (rest : List Output) (session : Session σ) :
    runAll (output :: rest) session =
      match output.run session with
      | .ok _ next => runAll rest next
      | .error failure left => .error failure left := by
  have unfolded : (runAll (output :: rest) : Action σ Unit) =
      (do output.run; runAll rest) := rfl
  rw [unfolded]
  simp only [bind, EStateM.bind]
  cases output.run session <;> rfl

variable [Sink.Steady σ]

/-- Outputs on a steady connected sink succeed exactly if they can be planned and the sink makes all
of their moves. -/
theorem runAll_eq_ok {outputs : List Output} {session next : Session σ}
    (connected : session.isConnected = true) :
    runAll outputs session = .ok () next ↔
      ∃ plan, planAll session.profile session.strips session.style outputs = .ok plan ∧
        Action.fulfil plan session = .ok () next := by
  induction outputs generalizing session with
  | nil =>
      constructor
      · intro ran
        cases ran
        exact ⟨_, rfl, rfl⟩
      · rintro ⟨plan, planned, fulfilled⟩
        cases planned
        exact fulfilled
  | cons output rest ih =>
      rw [runAll_cons, output.run_of_connected connected]
      -- Behind the first output the session is still connected, which is what `ih` asks for.
      have stays {first : Plan} {middle : σ}
          (made : Sink.perform first.moves session.sink = (.ok (), middle)) :
          Session.isConnected { session with style := first.style, sink := middle } = true := by
        have kept := Sink.isConnected_perform first.moves session.sink
        rw [made] at kept
        exact kept.trans connected
      constructor
      · intro ran
        cases planned : output.plan session.profile session.strips session.style with
        | error failure =>
            rw [planned] at ran
            cases ran
        | ok first =>
            simp only [planned] at ran
            cases fulfilled : Action.fulfil first session with
            | error failure left =>
                rw [fulfilled] at ran
                cases ran
            | ok result between =>
                rw [fulfilled] at ran
                obtain ⟨middle, made, rfl⟩ := Action.fulfil_eq_ok.mp fulfilled
                obtain ⟨others, later, further⟩ := (ih (stays made)).mp ran
                obtain ⟨reached, performed, rfl⟩ := Action.fulfil_eq_ok.mp further
                refine ⟨_, planAll_cons_eq_ok.mpr ⟨first, others, planned, later, rfl⟩,
                  Action.fulfil_eq_ok.mpr ⟨reached, ?_, rfl⟩⟩
                rw [Sink.perform_append, made]
                exact performed
      · rintro ⟨plan, all, fulfilled⟩
        obtain ⟨first, others, planned, later, rfl⟩ := planAll_cons_eq_ok.mp all
        obtain ⟨reached, performed, rfl⟩ := Action.fulfil_eq_ok.mp fulfilled
        rw [Sink.perform_append] at performed
        cases made : Sink.perform first.moves session.sink with
        | mk result middle =>
            rw [made] at performed
            cases result with
            | error failure => cases performed
            | ok =>
                simp only [planned, Action.fulfil_eq_ok.mpr ⟨middle, made, rfl⟩]
                exact (ih (stays made)).mpr
                  ⟨others, later, Action.fulfil_eq_ok.mpr ⟨reached, performed, rfl⟩⟩

/-- Outputs that can be planned fail as their moves do, and leave the sink as these leave it. -/
theorem runAll_of_perform_error {outputs : List Output} {session : Session σ}
    (connected : session.isConnected = true) {plan : Plan}
    (planned : planAll session.profile session.strips session.style outputs = .ok plan)
    {failure : Failure} {reached : σ}
    (made : Sink.perform plan.moves session.sink = (.error failure, reached)) :
    ∃ left, runAll outputs session = .error failure left ∧ left.sink = reached := by
  induction outputs generalizing session plan with
  | nil =>
      cases planned
      cases made
  | cons output rest ih =>
      obtain ⟨first, others, now, later, rfl⟩ := planAll_cons_eq_ok.mp planned
      rw [Sink.perform_append] at made
      rw [runAll_cons, output.run_of_connected connected, now]
      have kept := Sink.isConnected_perform first.moves session.sink
      cases begun : Sink.perform first.moves session.sink with
      | mk result middle =>
          rw [begun] at made kept
          cases result with
          | error early =>
              cases made
              simp only [Action.fulfil_eq_error.mpr ⟨reached, begun, rfl⟩]
              exact ⟨_, rfl, rfl⟩
          | ok =>
              simp only [Action.fulfil_eq_ok.mpr ⟨middle, begun, rfl⟩]
              have stays : Session.isConnected
                  { session with style := first.style, sink := middle } = true :=
                kept.trans connected
              exact ih stays later made

end Output

end

end Receipt
