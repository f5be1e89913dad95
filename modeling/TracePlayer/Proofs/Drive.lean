import TracePlayer.Playback.Prompter

/-!
# What a drive does

One equation for each thing that a drive can do: it plays the first step that waits, or, when none waits, it does what the
readiness of the prompter says. The statements about runs of the prompter and of the player are made of these.
-/

namespace TracePlayer

/-- Adding nothing to a backlog leaves it as it was. -/
@[simp]
theorem Backlog.extend_nil (b : Backlog) : b.extend [] = b := by
  rw [Backlog.extend, List.append_nil]
  rfl

@[simp]
theorem Backlog.extend_extend (b : Backlog) (first second : List Step) :
    (b.extend first).extend second = b.extend (first ++ second) := by
  simp [Backlog.extend, Nat.add_assoc]

namespace Prompter

variable {p : Prompter} {b : Backlog} {s : Stage} {sink : Sink}

/-- A step waits: it is played, and no command is tried. -/
theorem drive_of_cons {step : Step} {rest : List Step} (h : b.steps = step :: rest) :
    p.drive b s sink = ⟨p.answered, ⟨rest, b.totalEnqueued⟩, s.play step, .ok (.stepped step), [], []⟩ := by
  simp only [drive, Backlog.pop?, h]

/-- No step waits and the interpreter is gone. -/
theorem drive_of_stopped (h : b.steps = []) (hp : p.readiness = .stopped) :
    p.drive b s sink = ⟨p, b, s, .ok .finished, [], []⟩ := by
  simp only [drive, Backlog.pop?, h, hp]

/-- No step waits and an answer is awaited. -/
theorem drive_of_awaiting (h : b.steps = []) (hp : p.readiness = .awaiting) :
    p.drive b s sink = ⟨p, b, s, .ok .waiting, [], []⟩ := by
  simp only [drive, Backlog.pop?, h, hp]

/-- No step waits, and the request for a snapshot is refused: the step is not asked for. -/
theorem drive_of_env_refused {fault : SessionFault} (h : b.steps = []) (hp : p.readiness = .idle)
    (he : sink .env = .error fault) : p.drive b s sink = ⟨p.stop, b, s, .error fault, [.env], []⟩ := by
  simp only [drive, Backlog.pop?, h, hp, request, offer, he]

/-- No step waits, and the request for a step is refused. -/
theorem drive_of_step_refused {fault : SessionFault} (h : b.steps = []) (hp : p.readiness = .idle)
    (he : sink .env = .ok ()) (hs : sink .step = .error fault) :
    p.drive b s sink = ⟨p.stop, b, s, .error fault, [.env, .step], [.env]⟩ := by
  simp only [drive, Backlog.pop?, h, hp, request, offer, he, hs]

/-- No step waits, and both requests are accepted. -/
theorem drive_of_accepted (h : b.steps = []) (hp : p.readiness = .idle) (he : sink .env = .ok ())
    (hs : sink .step = .ok ()) :
    p.drive b s sink = ⟨⟨.awaiting, p.requests + 1⟩, b, s, .ok .requested, [.env, .step], [.env, .step]⟩ := by
  simp only [drive, Backlog.pop?, h, hp, request, offer, he, hs]

/-- When no step waits, a drive neither plays anything nor touches the backlog. -/
theorem drive_of_nil (h : b.steps = []) :
    (p.drive b s sink).backlog = b ∧ (p.drive b s sink).stage = s ∧
      ∀ step, (p.drive b s sink).outcome ≠ .ok (.stepped step) := by
  cases hp : p.readiness with
  | stopped =>
    rw [drive_of_stopped h hp]
    exact ⟨rfl, rfl, fun step => by simp⟩
  | awaiting =>
    rw [drive_of_awaiting h hp]
    exact ⟨rfl, rfl, fun step => by simp⟩
  | idle =>
    cases he : sink .env with
    | error fault =>
      rw [drive_of_env_refused h hp he]
      exact ⟨rfl, rfl, fun step => by simp⟩
    | ok u =>
      cases hs : sink .step with
      | error fault =>
        rw [drive_of_step_refused h hp he hs]
        exact ⟨rfl, rfl, fun step => by simp⟩
      | ok u' =>
        rw [drive_of_accepted h hp he hs]
        exact ⟨rfl, rfl, fun step => by simp⟩

/-- A drive plays a step exactly when that step is the first that waits. -/
theorem outcome_stepped_iff (p : Prompter) (b : Backlog) (s : Stage) (sink : Sink) (step : Step) :
    (p.drive b s sink).outcome = .ok (.stepped step) ↔ b.steps.head? = some step := by
  cases h : b.steps with
  | nil =>
    refine ⟨fun ho => absurd ho ((drive_of_nil h).2.2 step), fun hn => ?_⟩
    simp at hn
  | cons first rest =>
    rw [drive_of_cons h]
    simp [eq_comm]

/-- A prompter that has stopped stays so, and tries no command. -/
theorem drive_stopped (hp : p.readiness = .stopped) :
    (p.drive b s sink).prompter = p ∧ (p.drive b s sink).tried = [] ∧ (p.drive b s sink).sent = [] := by
  cases h : b.steps with
  | nil =>
    rw [drive_of_stopped h hp]
    exact ⟨rfl, rfl, rfl⟩
  | cons first rest =>
    rw [drive_of_cons h]
    refine ⟨?_, rfl, rfl⟩
    obtain ⟨readiness, requests⟩ := p
    subst hp
    rfl

/-- A command that a drive has not tried has no say in it: any other sink that answers the tried commands alike gives the same
drive. -/
theorem drive_eq_of_tried {sink' : Sink} (h : ∀ c ∈ (p.drive b s sink).tried, sink' c = sink c) :
    p.drive b s sink' = p.drive b s sink := by
  cases hb : b.steps with
  | cons first rest => rw [drive_of_cons hb, drive_of_cons hb]
  | nil =>
    cases hp : p.readiness with
    | stopped => rw [drive_of_stopped hb hp, drive_of_stopped hb hp]
    | awaiting => rw [drive_of_awaiting hb hp, drive_of_awaiting hb hp]
    | idle =>
      cases he : sink .env with
      | error fault =>
        rw [drive_of_env_refused hb hp he] at h ⊢
        rw [drive_of_env_refused hb hp ((h .env (by simp)).trans he)]
      | ok u =>
        cases hs : sink .step with
        | error fault =>
          rw [drive_of_step_refused hb hp he hs] at h ⊢
          rw [drive_of_step_refused hb hp ((h .env (by simp)).trans he) ((h .step (by simp)).trans hs)]
        | ok u' =>
          rw [drive_of_accepted hb hp he hs] at h ⊢
          rw [drive_of_accepted hb hp ((h .env (by simp)).trans he) ((h .step (by simp)).trans hs)]

end Prompter

end TracePlayer
