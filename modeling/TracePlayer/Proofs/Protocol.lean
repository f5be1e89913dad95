import TracePlayer.Proofs.Drive

/-!
# The protocol of requests

What a prompter does, told by what has happened to it. A `Rig` is a prompter with its backlog and a stage, and a run of it
leaves a history of deeds. The readiness of the prompter sums that history up (`Keeps`): it has stopped exactly when it was
told to or was refused a command, and it awaits an answer exactly when a request is outstanding. The main statement is
`drives_keep_protocol`, which speaks of the history alone.
-/

namespace TracePlayer

/-- What can be done to a prompter and its backlog. -/
inductive Cue where
  | push (step : Step)
  | extend (steps : List Step)
  | stop
  | drive (sink : Sink)

/-- A prompter with its backlog and the stage that it plays on. -/
structure Rig where
  prompter : Prompter
  backlog : Backlog
  stage : Stage

/-- What has happened at a cue. Of a drive, its sink and all that it left behind are known. -/
inductive Deed where
  | fed
  | stopped
  | drove (sink : Sink) (drive : Drive)

namespace Deed

/-- A step was played. -/
def Stepped : Deed → Prop
  | drove _ d => ∃ step, d.outcome = .ok (.stepped step)
  | _ => False

/-- More of the trace was requested. -/
def Requested : Deed → Prop
  | drove _ d => d.outcome = .ok .requested
  | _ => False

/-- A command was tried and refused. -/
def Refused : Deed → Prop
  | drove sink d => ∃ c ∈ d.tried, ∃ fault, sink c = .error fault
  | _ => False

/-- The commands that were accepted. -/
def sent : Deed → List Command
  | drove _ d => d.sent
  | _ => []

end Deed

/-- The prompter was told to stop, or was refused a command. -/
def Ended (history : List Deed) : Prop := .stopped ∈ history ∨ ∃ deed ∈ history, deed.Refused

/-- A request was made, and no step has been played since. -/
def Outstanding (history : List Deed) : Prop :=
  ∃ before deed after, history = before ++ deed :: after ∧ deed.Requested ∧ ∀ d ∈ after, ¬d.Stepped

/-- A drive asks for more of the trace: for a snapshot first, and for a step only if that was accepted. It has requested when
both were accepted, and else it fails with what it was refused for. -/
def Asks (sink : Sink) (d : Drive) : Prop :=
  match sink .env, sink .step with
  | .error fault, _ => d.tried = [.env] ∧ d.outcome = .error fault
  | .ok (), .error fault => d.tried = [.env, .step] ∧ d.outcome = .error fault
  | .ok (), .ok () => d.tried = [.env, .step] ∧ d.outcome = .ok .requested

namespace Rig

/-- A fresh prompter with an empty backlog. -/
def fresh (stage : Stage) : Rig := ⟨.initial, .empty, stage⟩

/-- One drive. -/
def drive (r : Rig) (sink : Sink) : Drive := r.prompter.drive r.backlog r.stage sink

/-- The rig after a cue. -/
def after (r : Rig) : Cue → Rig
  | .push step => { r with backlog := r.backlog.push step }
  | .extend steps => { r with backlog := r.backlog.extend steps }
  | .stop => { r with prompter := r.prompter.stop }
  | .drive sink => ⟨(r.drive sink).prompter, (r.drive sink).backlog, (r.drive sink).stage⟩

/-- What happens at a cue. -/
def deed (r : Rig) : Cue → Deed
  | .push _ => .fed
  | .extend _ => .fed
  | .stop => .stopped
  | .drive sink => .drove sink (r.drive sink)

/-- A cue is followed and remembered. -/
def follow (x : Rig × List Deed) (cue : Cue) : Rig × List Deed := (x.1.after cue, x.2 ++ [x.1.deed cue])

/-- A run of a fresh rig, and its history, oldest deed first. -/
def perform (stage : Stage) (cues : List Cue) : Rig × List Deed := cues.foldl follow (fresh stage, [])

end Rig

/-! ## Histories -/

namespace ProtocolAux

theorem ended_append (history : List Deed) (deed : Deed) :
    Ended (history ++ [deed]) ↔ Ended history ∨ deed = .stopped ∨ deed.Refused := by
  simp only [Ended, List.mem_append, List.mem_singleton]
  constructor
  · rintro ((h | h) | ⟨d, h | rfl, hr⟩)
    · exact .inl (.inl h)
    · exact .inr (.inl h.symm)
    · exact .inl (.inr ⟨d, h, hr⟩)
    · exact .inr (.inr hr)
  · rintro ((h | ⟨d, h, hr⟩) | rfl | hr)
    · exact .inl (.inl h)
    · exact .inr ⟨d, .inl h, hr⟩
    · exact .inl (.inr rfl)
    · exact .inr ⟨deed, .inr rfl, hr⟩

/-- A list with one more item, cut at an item: the cut is at the new item, or in the list before. -/
theorem append_one_cut {α : Type} {list before after : List α} {new x : α} (h : list ++ [new] = before ++ x :: after) :
    (list = before ∧ new = x ∧ after = []) ∨ ∃ rest, after = rest ++ [new] ∧ list = before ++ x :: rest := by
  rcases List.eq_nil_or_concat after with rfl | ⟨rest, y, rfl⟩
  · have hi := List.append_inj' h rfl
    exact .inl ⟨hi.1, by simpa using hi.2, rfl⟩
  · rw [List.concat_eq_append, ← List.cons_append, ← List.append_assoc] at h
    have hi := List.append_inj' h rfl
    have hy : new = y := by simpa using hi.2
    exact .inr ⟨rest, by rw [List.concat_eq_append, hy], hi.1⟩

theorem outstanding_append (history : List Deed) (deed : Deed) :
    Outstanding (history ++ [deed]) ↔ deed.Requested ∨ (Outstanding history ∧ ¬deed.Stepped) := by
  constructor
  · rintro ⟨before, x, after, h, hx, hafter⟩
    rcases append_one_cut h with ⟨-, rfl, -⟩ | ⟨rest, rfl, hrest⟩
    · exact .inl hx
    · exact .inr ⟨⟨before, x, rest, hrest, hx, fun d hd => hafter d (by simp [hd])⟩, hafter deed (by simp)⟩
  · rintro (h | ⟨⟨before, x, after, rfl, hx, hafter⟩, hs⟩)
    · exact ⟨history, deed, [], rfl, h, by simp⟩
    · refine ⟨before, x, after ++ [deed], by simp, hx, ?_⟩
      intro d hd
      rcases List.mem_append.1 hd with hd | hd
      · exact hafter d hd
      · rw [List.mem_singleton.1 hd]
        exact hs

end ProtocolAux

/-- Between two requests a step is played. -/
def Spaced (history : List Deed) : Prop :=
  ∀ before first between second after, history = before ++ first :: (between ++ second :: after) →
    first.Requested → second.Requested → ∃ deed ∈ between, deed.Stepped

/-- Requests stay apart when the next one is made only while none is outstanding. -/
theorem Spaced.append {history : List Deed} {deed : Deed} (h : Spaced history)
    (hd : deed.Requested → ¬Outstanding history) : Spaced (history ++ [deed]) := by
  intro before first between second after he hf hs
  rw [← List.cons_append, ← List.append_assoc] at he
  rcases ProtocolAux.append_one_cut he with ⟨hh, rfl, -⟩ | ⟨rest, -, hh⟩
  · refine Classical.byContradiction fun hn => hd hs ⟨before, first, between, hh, hf, fun d hd' hstep => ?_⟩
    exact hn ⟨d, hd', hstep⟩
  · rw [List.append_assoc, List.cons_append] at hh
    exact h before first between second rest hh hf hs

/-- What the state of a rig says about its history. -/
structure Keeps (r : Rig) (history : List Deed) : Prop where
  stopped : r.prompter.readiness = .stopped ↔ Ended history
  awaiting : r.prompter.readiness = .awaiting ↔ ¬Ended history ∧ Outstanding history
  accepted : ∃ tail, (tail = [] ∨ tail = [.env] ∧ r.prompter.readiness = .stopped) ∧
    history.flatMap Deed.sent = (List.replicate r.prompter.requests [.env, .step]).flatten ++ tail
  spaced : Spaced history

namespace Keeps

variable {r : Rig} {history : List Deed}

theorem fresh (stage : Stage) : Keeps (.fresh stage) [] where
  stopped := by simp [Rig.fresh, Prompter.initial, Ended]
  awaiting := by simp [Rig.fresh, Prompter.initial, Outstanding]
  accepted := ⟨[], .inl rfl, rfl⟩
  spaced := by
    intro before first between second after h
    simp at h

/-- Only an idle prompter has nothing outstanding and has not ended. -/
theorem idle_iff (h : Keeps r history) : r.prompter.readiness = .idle ↔ ¬Ended history ∧ ¬Outstanding history := by
  have h1 := h.stopped
  have h2 := h.awaiting
  cases hp : r.prompter.readiness with
  | idle =>
    rw [hp] at h1 h2
    have hne : ¬Ended history := fun he => absurd (h1.2 he) (by decide)
    exact ⟨fun _ => ⟨hne, fun ho => absurd (h2.2 ⟨hne, ho⟩) (by decide)⟩, fun _ => rfl⟩
  | awaiting =>
    rw [hp] at h2
    exact ⟨fun hn => absurd hn (by decide), fun hn => absurd (h2.1 rfl).2 hn.2⟩
  | stopped =>
    rw [hp] at h1
    exact ⟨fun hn => absurd hn (by decide), fun hn => absurd (h1.1 rfl) hn.1⟩

/-- A deed that neither plays, requests, ends nor sends anything leaves all as it was. -/
theorem idly {r' : Rig} {deed : Deed} (h : Keeps r history) (hp : r'.prompter = r.prompter) (hstop : deed ≠ .stopped)
    (hr : ¬deed.Refused) (hq : ¬deed.Requested) (hs : ¬deed.Stepped) (hsent : deed.sent = []) :
    Keeps r' (history ++ [deed]) where
  stopped := by rw [hp, ProtocolAux.ended_append, h.stopped]; simp [hstop, hr]
  awaiting := by
    rw [hp, ProtocolAux.ended_append, ProtocolAux.outstanding_append, h.awaiting]
    simp [hstop, hr, hq, hs]
  accepted := by
    rw [hp, List.flatMap_append, List.flatMap_singleton, hsent, List.append_nil]
    exact h.accepted
  spaced := h.spaced.append fun h' => absurd h' hq

/-- A deed with which the prompter has stopped, whatever was accepted before the refusal. -/
theorem ending {r' : Rig} {deed : Deed} {tail : List Command} (h : Keeps r history)
    (hp : r'.prompter = r.prompter.stop) (hend : deed = .stopped ∨ deed.Refused) (hq : ¬deed.Requested)
    (hsent : deed.sent = tail) (htail : tail = [] ∨ tail = [.env] ∧ r.prompter.readiness ≠ .stopped) :
    Keeps r' (history ++ [deed]) where
  stopped := by
    rw [hp, ProtocolAux.ended_append]
    simp [Prompter.stop, hend]
  awaiting := by
    rw [hp, ProtocolAux.ended_append]
    simp [Prompter.stop, hend]
  accepted := by
    obtain ⟨old, hold, heq⟩ := h.accepted
    rw [hp, List.flatMap_append, List.flatMap_singleton, hsent, heq]
    rcases htail with rfl | ⟨rfl, hne⟩
    · refine ⟨old, ?_, by rw [List.append_nil]; rfl⟩
      rcases hold with rfl | ⟨rfl, -⟩
      · exact .inl rfl
      · exact .inr ⟨rfl, rfl⟩
    · rcases hold with rfl | ⟨-, hs⟩
      · exact ⟨[.env], .inr ⟨rfl, rfl⟩, by rw [List.append_nil]; rfl⟩
      · exact absurd hs hne
  spaced := h.spaced.append fun h' => absurd h' hq

/-- A step is played: an answer that was awaited has come. -/
theorem stepping {r' : Rig} {deed : Deed} (h : Keeps r history) (hp : r'.prompter = r.prompter.answered)
    (hstop : deed ≠ .stopped) (hr : ¬deed.Refused) (hq : ¬deed.Requested) (hs : deed.Stepped) (hsent : deed.sent = []) :
    Keeps r' (history ++ [deed]) where
  stopped := by
    rw [hp, ProtocolAux.ended_append, ← h.stopped]
    by_cases ha : r.prompter.readiness = .awaiting <;> simp [Prompter.answered, ha, hstop, hr]
  awaiting := by
    rw [hp, ProtocolAux.outstanding_append]
    by_cases ha : r.prompter.readiness = .awaiting <;> simp [Prompter.answered, ha, hq, hs]
  accepted := by
    obtain ⟨tail, htail, heq⟩ := h.accepted
    rw [hp, List.flatMap_append, List.flatMap_singleton, hsent, List.append_nil]
    refine ⟨tail, ?_, heq⟩
    rcases htail with htail | ⟨htail, hst⟩
    · exact .inl htail
    · exact .inr ⟨htail, by simp [Prompter.answered, hst]⟩
  spaced := h.spaced.append fun h' => absurd h' hq

/-- More of the trace is requested, by a prompter that was idle. -/
theorem requesting {r' : Rig} {deed : Deed} (h : Keeps r history) (hidle : r.prompter.readiness = .idle)
    (hp : r'.prompter = ⟨.awaiting, r.prompter.requests + 1⟩) (hstop : deed ≠ .stopped) (hr : ¬deed.Refused)
    (hq : deed.Requested) (hsent : deed.sent = [.env, .step]) : Keeps r' (history ++ [deed]) where
  stopped := by
    rw [hp, ProtocolAux.ended_append]
    simp [(h.idle_iff.1 hidle).1, hstop, hr]
  awaiting := by
    rw [hp, ProtocolAux.ended_append, ProtocolAux.outstanding_append]
    simp [(h.idle_iff.1 hidle).1, hstop, hr, hq]
  accepted := by
    obtain ⟨tail, htail, heq⟩ := h.accepted
    have htail0 : tail = [] := by
      rcases htail with htail | ⟨-, hst⟩
      · exact htail
      · rw [hidle] at hst
        exact absurd hst (by decide)
    subst htail0
    refine ⟨[], .inl rfl, ?_⟩
    rw [hp, List.flatMap_append, List.flatMap_singleton, hsent, heq, List.append_nil, List.append_nil,
      List.replicate_succ', List.flatten_append, List.flatten_singleton]
  spaced := h.spaced.append fun _ => (h.idle_iff.1 hidle).2

/-- A drive keeps what the state says about the history, whichever of the things that it can do it does. -/
theorem drive (h : Keeps r history) (sink : Sink) :
    Keeps (r.after (.drive sink)) (history ++ [.drove sink (r.drive sink)]) := by
  have hafter : (r.after (.drive sink)).prompter = (r.drive sink).prompter := rfl
  -- The cases are those of a drive: a step waits, or nothing is to be asked for, or one of the two writes decides.
  cases hb : r.backlog.steps with
  | cons step rest =>
    have hd : r.drive sink = _ := Prompter.drive_of_cons hb
    rw [hd] at hafter ⊢
    exact h.stepping hafter (by simp) (by simp [Deed.Refused]) (by simp [Deed.Requested]) ⟨step, rfl⟩ rfl
  | nil =>
    cases hp : r.prompter.readiness with
    | stopped =>
      have hd : r.drive sink = _ := Prompter.drive_of_stopped hb hp
      rw [hd] at hafter ⊢
      exact h.idly hafter (by simp) (by simp [Deed.Refused]) (by simp [Deed.Requested]) (by simp [Deed.Stepped]) rfl
    | awaiting =>
      have hd : r.drive sink = _ := Prompter.drive_of_awaiting hb hp
      rw [hd] at hafter ⊢
      exact h.idly hafter (by simp) (by simp [Deed.Refused]) (by simp [Deed.Requested]) (by simp [Deed.Stepped]) rfl
    | idle =>
      have hne : r.prompter.readiness ≠ .stopped := by simp [hp]
      cases he : sink .env with
      | error fault =>
        have hd : r.drive sink = _ := Prompter.drive_of_env_refused hb hp he
        rw [hd] at hafter ⊢
        exact h.ending hafter (.inr ⟨.env, by simp, fault, he⟩) (by simp [Deed.Requested]) rfl (.inl rfl)
      | ok u =>
        cases hs : sink .step with
        | error fault =>
          have hd : r.drive sink = _ := Prompter.drive_of_step_refused hb hp he hs
          rw [hd] at hafter ⊢
          exact h.ending hafter (.inr ⟨.step, by simp, fault, hs⟩) (by simp [Deed.Requested]) rfl (.inr ⟨rfl, hne⟩)
        | ok u' =>
          have hd : r.drive sink = _ := Prompter.drive_of_accepted hb hp he hs
          rw [hd] at hafter ⊢
          exact h.requesting hp hafter (by simp) (by simp [Deed.Refused, he, hs]) rfl rfl

/-- Every cue keeps what the state says about the history. -/
theorem after (h : Keeps r history) (cue : Cue) : Keeps (r.after cue) (history ++ [r.deed cue]) := by
  cases cue with
  | push step => exact h.idly rfl (by simp [Rig.deed]) id id id rfl
  | extend steps => exact h.idly rfl (by simp [Rig.deed]) id id id rfl
  | stop => exact h.ending rfl (.inl rfl) id rfl (.inl rfl)
  | drive sink => exact h.drive sink

/-- Every run keeps it. -/
theorem follow (cues : List Cue) {x : Rig × List Deed} (h : Keeps x.1 x.2) :
    Keeps (cues.foldl Rig.follow x).1 (cues.foldl Rig.follow x).2 := by
  induction cues generalizing x with
  | nil => exact h
  | cons cue rest ih => exact ih (h.after cue)

end Keeps

/-- Every run of a fresh rig keeps what its state says about its history. -/
theorem keeps_perform (stage : Stage) (cues : List Cue) :
    Keeps (Rig.perform stage cues).1 (Rig.perform stage cues).2 :=
  Keeps.follow cues (Keeps.fresh stage)

/-! ## Drives -/

/-- A drive that asks neither finishes nor waits. -/
theorem Asks.outcome_ne {sink : Sink} {d : Drive} (h : Asks sink d) :
    d.outcome ≠ .ok .finished ∧ d.outcome ≠ .ok .waiting := by
  unfold Asks at h
  split at h
  · rw [h.2]
    simp
  · rw [h.2]
    simp
  · rw [h.2]
    simp

namespace Rig

variable {r : Rig}

/-- An idle prompter with nothing to play asks. -/
theorem drive_asks (hb : r.backlog.steps = []) (hp : r.prompter.readiness = .idle) (sink : Sink) :
    Asks sink (r.drive sink) := by
  unfold Asks
  cases he : sink .env with
  | error fault =>
    have hd : r.drive sink = _ := Prompter.drive_of_env_refused hb hp he
    rw [hd]
    exact ⟨rfl, rfl⟩
  | ok u =>
    cases hs : sink .step with
    | error fault =>
      have hd : r.drive sink = _ := Prompter.drive_of_step_refused hb hp he hs
      rw [hd]
      exact ⟨rfl, rfl⟩
    | ok u' =>
      have hd : r.drive sink = _ := Prompter.drive_of_accepted hb hp he hs
      rw [hd]
      exact ⟨rfl, rfl⟩

/-- With nothing to play, a drive finishes exactly when the prompter has stopped. -/
theorem finished_iff (hb : r.backlog.steps = []) (sink : Sink) :
    (r.drive sink).outcome = .ok .finished ↔ r.prompter.readiness = .stopped := by
  cases hp : r.prompter.readiness with
  | stopped =>
    have hd : r.drive sink = _ := Prompter.drive_of_stopped hb hp
    simp [hd]
  | awaiting =>
    have hd : r.drive sink = _ := Prompter.drive_of_awaiting hb hp
    simp [hd]
  | idle => simp [(drive_asks hb hp sink).outcome_ne.1]

/-- With nothing to play, a drive waits exactly when the prompter awaits an answer. -/
theorem waiting_iff (hb : r.backlog.steps = []) (sink : Sink) :
    (r.drive sink).outcome = .ok .waiting ↔ r.prompter.readiness = .awaiting := by
  cases hp : r.prompter.readiness with
  | stopped =>
    have hd : r.drive sink = _ := Prompter.drive_of_stopped hb hp
    simp [hd]
  | awaiting =>
    have hd : r.drive sink = _ := Prompter.drive_of_awaiting hb hp
    simp [hd]
  | idle => simp [(drive_asks hb hp sink).outcome_ne.2]

/-- Only an idle prompter with nothing to play tries a command. -/
theorem idle_of_tried {sink : Sink} (h : (r.drive sink).tried ≠ []) :
    r.backlog.steps = [] ∧ r.prompter.readiness = .idle := by
  cases hb : r.backlog.steps with
  | cons step rest =>
    have hd : r.drive sink = _ := Prompter.drive_of_cons hb
    exact absurd (by rw [hd]) h
  | nil =>
    cases hp : r.prompter.readiness with
    | idle => exact ⟨rfl, rfl⟩
    | awaiting =>
      have hd : r.drive sink = _ := Prompter.drive_of_awaiting hb hp
      exact absurd (by rw [hd]) h
    | stopped =>
      have hd : r.drive sink = _ := Prompter.drive_of_stopped hb hp
      exact absurd (by rw [hd]) h

end Rig

/-- The protocol of requests, in seven parts, for every run of a fresh prompter and every sink of every drive. The first, the
sixth and the seventh hold of every rig, in whatever state.
1. A drive plays a step exactly when one waits, and it is the first that waits; it is taken off the backlog.
2. When none waits, the drive finishes exactly when the prompter was told to stop or was refused a command before, waits
   exactly when that is not so and a request is outstanding, and otherwise asks.
3. A command is tried only then: never after a refusal or a stop, and never while a request is outstanding.
4. The commands that were accepted are whole requests, as many as are counted, and behind them at most one lone request for a
   snapshot.
5. Between two requests a step is played.
6. A drive that plays no step leaves the backlog and the stage as they are.
7. The commands that a drive tries are all that it asks its sink. -/
theorem drives_keep_protocol (stage : Stage) (cues : List Cue) :
    let r := (Rig.perform stage cues).1
    let history := (Rig.perform stage cues).2
    (∀ (any : Rig) (sink : Sink) (step : Step),
      ((any.drive sink).outcome = .ok (.stepped step) ↔ any.backlog.steps.head? = some step) ∧
      (any.backlog.steps.head? = some step → (any.drive sink).backlog.steps = any.backlog.steps.tail ∧
        (any.drive sink).stage = any.stage.play step)) ∧
    (r.backlog.steps = [] → ∀ sink,
      ((r.drive sink).outcome = .ok .finished ↔ Ended history) ∧
      ((r.drive sink).outcome = .ok .waiting ↔ ¬Ended history ∧ Outstanding history) ∧
      (¬Ended history → ¬Outstanding history → Asks sink (r.drive sink))) ∧
    (∀ sink, (r.drive sink).tried ≠ [] → r.backlog.steps = [] ∧ ¬Ended history ∧ ¬Outstanding history) ∧
    (∃ lone, (lone = [] ∨ lone = [.env]) ∧
      history.flatMap Deed.sent = (List.replicate r.prompter.requests [.env, .step]).flatten ++ lone) ∧
    (∀ before first between second after, history = before ++ first :: (between ++ second :: after) →
      first.Requested → second.Requested → ∃ deed ∈ between, deed.Stepped) ∧
    (∀ (any : Rig) (sink : Sink), (∀ step, (any.drive sink).outcome ≠ .ok (.stepped step)) →
      (any.drive sink).backlog = any.backlog ∧ (any.drive sink).stage = any.stage) ∧
    (∀ (any : Rig) (sink sink' : Sink), (∀ c ∈ (any.drive sink).tried, sink' c = sink c) →
      any.drive sink' = any.drive sink) := by
  intro r history
  have hkeeps : Keeps r history := keeps_perform stage cues
  refine ⟨?_, ?_, ?_, ?_, hkeeps.spaced, ?_, ?_⟩
  · intro any sink step
    refine ⟨Prompter.outcome_stepped_iff _ _ _ sink step, fun hstep => ?_⟩
    obtain ⟨rest, hb⟩ := List.head?_eq_some_iff.1 hstep
    have hd : any.drive sink = _ := Prompter.drive_of_cons hb
    rw [hd, hb]
    exact ⟨rfl, rfl⟩
  · intro hb sink
    refine ⟨?_, ?_, ?_⟩
    · rw [Rig.finished_iff hb, hkeeps.stopped]
    · rw [Rig.waiting_iff hb, hkeeps.awaiting]
    · intro hne hno
      exact Rig.drive_asks hb (hkeeps.idle_iff.2 ⟨hne, hno⟩) sink
  · intro sink htried
    obtain ⟨hb, hidle⟩ := Rig.idle_of_tried htried
    exact ⟨hb, hkeeps.idle_iff.1 hidle⟩
  · obtain ⟨lone, hlone, heq⟩ := hkeeps.accepted
    exact ⟨lone, hlone.imp id And.left, heq⟩
  · intro any sink hno
    cases hb : any.backlog.steps with
    | nil =>
      exact ⟨(Prompter.drive_of_nil hb).1, (Prompter.drive_of_nil hb).2.1⟩
    | cons step rest => exact absurd ((Prompter.outcome_stepped_iff _ _ _ sink step).2 (by simp [hb])) (hno step)
  · intro any sink sink' h
    exact Prompter.drive_eq_of_tried h

end TracePlayer
