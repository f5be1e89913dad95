import TracePlayer.Proofs.Acts
import TracePlayer.Proofs.Effect

/-!
# What a trace tells

A trace has a meaning without any playback: its lines change the machine one after the other, each at once. `Telling` is the
machine as the lines so far have told it. The main statement is `playback_refines_telling`: however playback lags behind,
the steps that still wait lead from what the stage shows to what the trace has told.

States that the trace loads go to the stage at once, ahead of the steps that wait, so the statement is about runs that load
them while no step waits (`LoadsAtRest`).
-/

namespace TracePlayer

/-- Whether an event loads a state rather than shows an operation. -/
def Event.isLoad : Event → Bool
  | .memorySize _ => true
  | .memoryDump _ => true
  | .snapshotReady => true
  | _ => false

/-- The machine as the trace has told it so far, and how many snapshots have been asked for. -/
structure Telling where
  scene : Scene
  fetches : Nat

namespace Telling

/-- Before the first line: zeros everywhere, and 1024 cells of memory. -/
def initial : Telling := ⟨⟨fun _ => "0", fun _ => "0", List.replicate 1024 0⟩, 0⟩

/-- Applies an effect, if there is one. -/
def apply (t : Telling) (effect : Option (Scene → Scene)) : Telling := { t with scene := (effect.getD id) t.scene }

/-- An event is told. A snapshot that cannot be fetched tells nothing. -/
def event (source : SnapshotSource) (t : Telling) : Event → Telling
  | .memorySize kilobytes => { t with scene := t.scene.resize kilobytes }
  | .memoryDump bytes => { t with scene := t.scene.write 0 bytes }
  | .snapshotReady =>
    match source t.fetches with
    | .ok snapshot => ⟨t.scene.present snapshot, t.fetches + 1⟩
    | .error _ => { t with fetches := t.fetches + 1 }
  | e => t.apply e.effect?

/-- A line is told. One that tells no event tells nothing. -/
def line (source : SnapshotSource) (t : Telling) (chars : List Char) : Telling :=
  match Trace.judge chars with
  | .decoded e => t.event source e
  | _ => t

end Telling

namespace Player

/-- The lines of an act. -/
def Act.lines : Act → List (List Char)
  | ingest chunk => Text.pieces chunk.toList
  | _ => []

/-- Every event of a list that loads a state takes effect while no step waits. -/
def LoadsAtRest (source : SnapshotSource) : Player → List Event → Prop
  | _, [] => True
  | p, event :: rest =>
    (event.isLoad = true → p.backlog.steps = []) ∧ LoadsAtRest source (p.apply source event) rest

/-- Every state that a run loads is loaded while no step waits. -/
def RunsAtRest (source : SnapshotSource) : Player → List Act → Prop
  | _, [] => True
  | p, act :: rest =>
    (match act with
      | .ingest chunk => LoadsAtRest source p (Trace.events chunk)
      | _ => True) ∧ RunsAtRest source (p.after source act) rest

instance decidableLoadsAtRest (source : SnapshotSource) :
    (p : Player) → (events : List Event) → Decidable (LoadsAtRest source p events)
  | _, [] => isTrue trivial
  | p, event :: rest =>
    have := decidableLoadsAtRest source (p.apply source event) rest
    inferInstanceAs (Decidable ((event.isLoad = true → p.backlog.steps = []) ∧ LoadsAtRest source _ rest))

instance decidableRunsAtRest (source : SnapshotSource) :
    (p : Player) → (acts : List Act) → Decidable (RunsAtRest source p acts)
  | _, [] => isTrue trivial
  | p, .ingest chunk :: rest =>
    have := decidableRunsAtRest source (p.after source (.ingest chunk)) rest
    inferInstanceAs (Decidable (LoadsAtRest source p (Trace.events chunk) ∧ RunsAtRest source _ rest))
  | p, .tick sink :: rest =>
    have := decidableRunsAtRest source (p.after source (.tick sink)) rest
    inferInstanceAs (Decidable (True ∧ RunsAtRest source _ rest))
  | p, .ended code :: rest =>
    have := decidableRunsAtRest source (p.after source (.ended code)) rest
    inferInstanceAs (Decidable (True ∧ RunsAtRest source _ rest))

/-- What the stage comes to once the steps that wait have been played. -/
def pending (p : Player) : Scene := (p.backlog.steps.foldl Stage.play p.stage).scene

/-- The player will come to what the trace has told. -/
def Follows (p : Player) (t : Telling) : Prop := p.pending = t.scene ∧ p.fetches = t.fetches

/-! ## Events -/

theorem pending_eq (p : Player) : p.pending = p.backlog.steps.foldl Scene.step p.stage.scene :=
  Stage.scene_foldl_play p.stage p.backlog.steps

/-- While no step waits, the stage shows what it comes to. -/
theorem pending_of_nil {p : Player} (h : p.backlog.steps = []) : p.pending = p.stage.scene := by
  rw [pending_eq, h, List.foldl_nil]

/-- The steps of an event do what its effect does. -/
theorem foldl_steps (e : Event) (sc : Scene) : e.steps.foldl Scene.step sc = (e.effect?.getD id) sc := by
  have h := e.storyboard_faithful
  unfold Event.steps
  cases hs : e.storyboard with
  | ok steps =>
    cases he : e.effect? with
    | some effect =>
      rw [hs, he] at h
      exact h sc
    | none =>
      rw [hs, he] at h
      exact h.elim
  | error fault =>
    cases he : e.effect? with
    | some effect =>
      rw [hs, he] at h
      exact h.elim
    | none => rfl

/-- An event that is shown is told by its effect. -/
theorem Follows.enqueue {p : Player} {t : Telling} (h : p.Follows t) (e : Event) :
    (p.enqueue e).Follows (t.apply e.effect?) := by
  constructor
  · rw [pending_eq, enqueue_backlog, enqueue_stage, Backlog.extend, List.foldl_append, foldl_steps, ← pending_eq, h.1]
    rfl
  · rw [enqueue_fetches, h.2]
    rfl

/-- A state that is loaded while no step waits changes what the player comes to as it changes the stage. -/
theorem pending_load {p q : Player} {f : Scene → Scene} (hb : p.backlog.steps = []) (hq : q.backlog = p.backlog)
    (hs : q.stage.scene = f p.stage.scene) : q.pending = f p.pending := by
  rw [pending_of_nil hb, pending_of_nil (hq ▸ hb), hs]

/-- A snapshot is told as it is loaded, if no step waits. -/
theorem Follows.loadSnapshot {source : SnapshotSource} {p : Player} {t : Telling} (h : p.Follows t)
    (hb : p.backlog.steps = []) : (p.loadSnapshot source).Follows (t.event source .snapshotReady) := by
  simp only [Player.loadSnapshot, Telling.event, ← h.2]
  cases source p.fetches with
  | ok snapshot =>
    refine ⟨?_, rfl⟩
    have hs := pending_load (f := (Scene.present · snapshot))
      (q := { p with stage := p.stage.present snapshot, fetches := p.fetches + 1 }) hb rfl
      (Stage.scene_present p.stage snapshot)
    exact hs.trans (congrArg (Scene.present · snapshot) h.1)
  | error fault =>
    refine ⟨?_, rfl⟩
    exact (pending_load (f := id) hb rfl rfl).trans h.1

/-- An event is told as it takes effect, if no step waits when it loads a state. -/
theorem Follows.apply {source : SnapshotSource} {p : Player} {t : Telling} (h : p.Follows t) (e : Event)
    (hrest : e.isLoad = true → p.backlog.steps = []) : (p.apply source e).Follows (t.event source e) := by
  cases e with
  | memorySize kilobytes =>
    have hs := pending_load (f := (Scene.resize · kilobytes)) (q := p.apply source (.memorySize kilobytes)) (hrest rfl) rfl
      (Stage.scene_resize p.stage kilobytes)
    exact ⟨hs.trans (congrArg (Scene.resize · kilobytes) h.1), h.2⟩
  | memoryDump bytes =>
    have hs := pending_load (f := (Scene.write · 0 bytes)) (q := p.apply source (.memoryDump bytes)) (hrest rfl) rfl
      (Stage.scene_load p.stage bytes)
    exact ⟨hs.trans (congrArg (Scene.write · 0 bytes) h.1), h.2⟩
  | snapshotReady => exact h.loadSnapshot (hrest rfl)
  | _ => exact h.enqueue _

/-- The events of a chunk are told one after the other. -/
theorem Follows.foldl_apply {source : SnapshotSource} {p : Player} {t : Telling} (h : p.Follows t)
    (events : List Event) (hrest : LoadsAtRest source p events) :
    (events.foldl (Player.apply source) p).Follows (events.foldl (Telling.event source) t) := by
  induction events generalizing p t with
  | nil => exact h
  | cons e rest ih => exact ih (h.apply e hrest.1) hrest.2

/-! ## Acts and runs -/

/-- Telling the lines of a chunk is telling its events. -/
theorem foldl_line (source : SnapshotSource) (t : Telling) (chunk : String) :
    (Text.pieces chunk.toList).foldl (Telling.line source) t = (Trace.events chunk).foldl (Telling.event source) t := by
  rw [Trace.events, Trace.verdicts]
  generalize Text.pieces chunk.toList = lines
  induction lines generalizing t with
  | nil => rfl
  | cons line rest ih =>
    rw [List.foldl_cons, ih, List.map_cons, List.filterMap_cons, Telling.line]
    cases Trace.judge line <;> rfl

/-- No event reads the tally. -/
theorem apply_tally (source : SnapshotSource) (p : Player) (event : Event) (tally : Trace.Tally) :
    { p with tally := tally }.apply source event = { p.apply source event with tally := tally } := by
  cases event with
  | memorySize kilobytes => rfl
  | memoryDump bytes => rfl
  | snapshotReady =>
    unfold apply loadSnapshot
    cases source p.fetches <;> rfl
  | _ =>
    simp only [apply, enqueue]
    cases Event.storyboard _ <;> rfl

/-- The tally has no part in what waits when a state is loaded. -/
theorem LoadsAtRest.tally {source : SnapshotSource} {p : Player} {events : List Event} (h : LoadsAtRest source p events)
    (tally : Trace.Tally) : LoadsAtRest source { p with tally := tally } events := by
  induction events generalizing p with
  | nil => trivial
  | cons event rest ih =>
    refine ⟨h.1, ?_⟩
    rw [apply_tally]
    exact ih h.2

/-- An act is told by its lines. Ticks and ends have none: a step that is played has been told before, and a notice changes
nothing in the machine. -/
theorem Follows.after {source : SnapshotSource} {p : Player} {t : Telling} (h : p.Follows t) (act : Act)
    (hrest : RunsAtRest source p [act]) : (p.after source act).Follows (act.lines.foldl (Telling.line source) t) := by
  cases act with
  | ingest chunk =>
    rw [Act.lines, foldl_line, Player.after, ingest_eq]
    exact Follows.foldl_apply (p := { p with tally := (Trace.decode p.tally chunk).2 }) h _ (hrest.1.tally _)
  | tick sink =>
    change (p.tick sink).player.Follows t
    cases hb : p.backlog.steps with
    | cons step rest =>
      rw [tick_of_cons hb]
      have hp := h.1
      rw [pending, hb, List.foldl_cons] at hp
      exact ⟨hp, h.2⟩
    | nil =>
      obtain ⟨h1, h2, -⟩ := tick_of_nil hb sink
      refine ⟨?_, h.2⟩
      rw [pending, h1, h2, ← pending, h.1]
  | ended code =>
    change (p.sessionEnded code).Follows t
    refine ⟨?_, h.2⟩
    rw [← h.1, pending_eq, pending_eq, sessionEnded, Backlog.push, Backlog.extend, List.foldl_append]
    rfl

/-- A run is told by its lines. -/
theorem Follows.run {source : SnapshotSource} {p : Player} {t : Telling} (h : p.Follows t) (acts : List Act)
    (hrest : RunsAtRest source p acts) :
    (p.run source acts).Follows ((acts.flatMap Act.lines).foldl (Telling.line source) t) := by
  induction acts generalizing p t with
  | nil => exact h
  | cons act rest ih =>
    rw [run_cons, List.flatMap_cons, List.foldl_append]
    exact ih (h.after act ⟨hrest.1, trivial⟩) hrest.2

/-- A fresh player shows what a trace tells before its first line. -/
theorem follows_initial : initial.Follows .initial :=
  ⟨(pending_of_nil rfl).trans Stage.scene_initial, rfl⟩

/-- Playback refines the sequential meaning of the trace. At every point of a run of a fresh player that loads states only
while no step waits, playing the steps that wait gives registers, flags and memory as all lines so far tell them, one after the
other and each at once. -/
theorem playback_refines_telling (source : SnapshotSource) (acts : List Act) (hrest : RunsAtRest source initial acts) :
    let p := initial.run source acts
    (p.backlog.steps.foldl Stage.play p.stage).scene =
      ((acts.flatMap Act.lines).foldl (Telling.line source) .initial).scene :=
  (follows_initial.run acts hrest).1

/-- A run that lags behind: a dump, a jump that has been played before the next dump arrives, and one that still waits when the
interpreter ends. The stage shows the first jump, and comes to the second. -/
theorem playback_refines_telling_lagging :
    let source : SnapshotSource := fun _ => .error (.unreadable "state.json" .notFound)
    let acts : List Act := [.ingest "mem 7 8 9\nexec_func jmp always 5 true", .tick (fun _ => .ok ()),
      .tick (fun _ => .ok ()), .ingest "mem 4", .ingest "exec_func jmp always 12 true", .ended none]
    let p := initial.run source acts
    RunsAtRest source initial acts ∧ p.backlog.size = 3 ∧ p.stage.scene.register .pc = "5" ∧
      (p.backlog.steps.foldl Stage.play p.stage).scene.register .pc = "12" := by
  intro source acts p
  have hrest : RunsAtRest source initial acts := by decide +kernel
  have hp : p.backlog.size = 3 ∧ p.stage.scene.register .pc = "5" := by decide +kernel
  have htold : ((acts.flatMap Act.lines).foldl (Telling.line source) .initial).scene.register .pc = "12" := by
    decide +kernel
  exact ⟨hrest, hp.1, hp.2, (congrArg (·.register .pc) (playback_refines_telling source acts hrest)).trans htold⟩

end Player

end TracePlayer
