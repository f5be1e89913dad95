import TracePlayer.Proofs.Acts

/-!
# What is held in bold

A step takes hold of a register, which is shown in bold from then on, and a later step lets go of it. Every storyboard lets go of
all that it takes hold of, so the steps of a trace are bracketed (`Bracketed`). The steps of a player wait in whole storyboards,
of which only the first may have been begun. That is what `emphasis_bracketed` rests on: what is bold now can be read off
the steps that wait.
-/

namespace TracePlayer

/-- The register that a step takes hold of, with `true`, or lets go of, with `false`. -/
def Step.grip? : Step → Option (Register × Bool)
  | emphasize r on => some (r, on)
  | _ => none

/-- The first of some steps that takes hold of a register or lets go of it. -/
def Step.firstGrip? (steps : List Step) : Option (Register × Bool) := steps.findSome? Step.grip?

/-- Steps that let go of the register that is held before them, and then of each that they take hold of, before they take hold of
another one. -/
inductive Bracketed : Option Register → List Step → Prop where
  | nil : Bracketed none []
  | quiet {held : Option Register} {step : Step} {rest : List Step} (h : step.grip? = none) (hrest : Bracketed held rest) :
      Bracketed held (step :: rest)
  | take {r : Register} {rest : List Step} (hrest : Bracketed (some r) rest) :
      Bracketed none (.emphasize r true :: rest)
  | release {r : Register} {rest : List Step} (hrest : Bracketed none rest) :
      Bracketed (some r) (.emphasize r false :: rest)

/-! ## Bracketed steps -/

/-- Once all has been let go, further bracketed steps may follow. -/
theorem Bracketed.append {held : Option Register} {first second : List Step} (h : Bracketed held first)
    (h' : Bracketed none second) : Bracketed held (first ++ second) := by
  induction h with
  | nil => exact h'
  | quiet hq _ ih => exact .quiet hq ih
  | take _ ih => exact .take ih
  | release _ ih => exact .release ih

/-- The first step that takes hold or lets go tells what is held. -/
theorem Bracketed.firstGrip? {held : Option Register} {steps : List Step} (h : Bracketed held steps) (r : Register) :
    Step.firstGrip? steps = some (r, false) ↔ held = some r := by
  induction h with
  | nil => simp [Step.firstGrip?]
  | quiet hq _ ih =>
    rw [Step.firstGrip?, List.findSome?_cons, hq]
    exact ih
  | take _ _ => simp [Step.firstGrip?, List.findSome?_cons, Step.grip?]
  | release _ _ => simp [Step.firstGrip?, List.findSome?_cons, Step.grip?]

theorem bracketed_append_of_quiet {held : Option Register} {first second : List Step}
    (hq : ∀ s ∈ first, s.grip? = none) (h : Bracketed held second) : Bracketed held (first ++ second) := by
  induction first with
  | nil => exact h
  | cons step rest ih =>
    obtain ⟨hstep, hrest⟩ := List.forall_mem_cons.1 hq
    exact .quiet hstep (ih hrest)

theorem bracketed_of_quiet {steps : List Step} (hq : ∀ s ∈ steps, s.grip? = none) : Bracketed none steps := by
  have h := bracketed_append_of_quiet hq .nil
  rwa [List.append_nil] at h

/-- Steps shown while a register is held let go of it in the end. -/
theorem bracketed_holding (r : Register) {steps : List Step} (hq : ∀ s ∈ steps, s.grip? = none) :
    Bracketed none (Storyboard.holding r steps) :=
  .take (bracketed_append_of_quiet hq (.release .nil))

/-! ## Storyboards -/

namespace HoldingAux

open Storyboard

/-- The steps are bracketed, if there are any. -/
def Closed (result : Except StoryFault (List Step)) : Prop := Yields (Bracketed none) result

/-- Steps that take hold of nothing are bracketed. -/
theorem closed_of_quiet {steps : List Step} (h : ∀ s ∈ steps, s.grip? = none) : Closed (.ok steps) :=
  yields_ok (bracketed_of_quiet h)

theorem closed_moveToRegister (target : Register) (size : Nat) (sourceKind : String) (source content : Datum) :
    Closed (ofMoveToRegister target size sourceKind source content) := by
  unfold ofMoveToRegister
  split
  · exact yields_bind _ fun r => yields_ok (.quiet rfl (bracketed_holding r (by simp [Step.grip?])))
  · refine yields_bind _ fun address => yields_bind _ fun _ => yields_ok ?_
    exact .quiet rfl (.quiet rfl (.quiet rfl (bracketed_holding .mdr (by simp [Step.grip?]))))
  · exact closed_of_quiet (by simp [Step.grip?])
  · exact yields_error _

theorem closed_moveToMemory (target size : Nat) (sourceKind : String) (source content : Datum) :
    Closed (ofMoveToMemory target size sourceKind source content) := by
  unfold ofMoveToMemory
  split
  · refine yields_bind _ fun r => yields_bind _ fun _ => yields_bind _ fun bytes => yields_bind _ fun _ => yields_ok ?_
    exact .quiet rfl (bracketed_holding r (by simp [Step.grip?]))
  · exact yields_bind _ fun value => yields_bind _ fun _ => closed_of_quiet (by simp [Step.grip?])
  · exact yields_error _

theorem closed_jump (kind address : String) (performed : Bool) : Closed (ofJump kind address performed) := by
  unfold ofJump
  cases jumpCondition? kind with
  | none => exact yields_error _
  | some condition => cases performed <;> exact closed_of_quiet (by simp [Step.grip?])

theorem closed_operation (operation : Operation) : Closed (ofOperation operation) := by
  cases operation with
  | compare left right result =>
    rw [ofOperation, ofCompare]
    cases Flag.ofCode? result with
    | none => exact yields_error _
    | some flag => exact closed_of_quiet (by simp [Step.grip?])
  | jump kind address performed => exact closed_jump kind address performed
  | moveToRegister target size sourceKind source content =>
    exact closed_moveToRegister target size sourceKind source content
  | moveToMemory target size sourceKind source content => exact closed_moveToMemory target size sourceKind source content
  | addressToRegister target address => exact closed_of_quiet (by simp [Step.grip?])
  | addressToMemory target address =>
    exact yields_bind _ fun value => yields_bind _ fun _ => closed_of_quiet (by simp [Step.grip?])
  | arithmetic operator type targetKind target operand1 operand2 result => exact yields_ok .nil

theorem closed_storyboard (e : Event) : Closed e.storyboard := by
  cases e with
  | fetched f => exact yields_bind _ fun _ => closed_of_quiet (by simp [Step.grip?])
  | decoded name => exact closed_of_quiet (by simp [Step.grip?])
  | executed operation => exact closed_operation operation
  | globalFound g => exact closed_of_quiet (by simp [Step.grip?])
  | memorySize kilobytes => exact yields_ok .nil
  | memoryDump bytes => exact yields_ok .nil
  | snapshotReady => exact yields_ok .nil

end HoldingAux

/-- Every event lets go of all that it takes hold of. -/
theorem Event.bracketed_steps (e : Event) : Bracketed none e.steps :=
  (HoldingAux.closed_storyboard e).steps .nil

/-! ## What is bold on the stage -/

namespace Stage

/-- A step that neither takes hold nor lets go leaves what is bold as it is. -/
theorem bold_play_of_quiet (s : Stage) {step : Step} (h : step.grip? = none) : (s.play step).bold = s.bold := by
  cases step with
  | emphasize r on => cases h
  | _ => rfl

/-- A snapshot does not change what is bold. -/
theorem bold_present (s : Stage) (snapshot : Snapshot) : (s.present snapshot).bold = s.bold := by
  simp [present, Register.general, Flag.all, GeneralValues.get?, load, setText]

end Stage

namespace Player

/-- A player holds a register, or none: nothing else is bold, and the steps that wait let go of it. -/
structure Holds (held : Option Register) (p : Player) : Prop where
  bold : ∀ e, e ∈ p.stage.bold ↔ held.map Element.register = some e
  waiting : Bracketed held p.backlog.steps

/-- More storyboards may come to those that wait. -/
theorem Holds.extend {held : Option Register} {p q : Player} (h : p.Holds held) {steps : List Step}
    (hsteps : Bracketed none steps) (hbold : ∀ e, e ∈ q.stage.bold ↔ e ∈ p.stage.bold)
    (hbacklog : q.backlog = p.backlog.extend steps) : q.Holds held := by
  refine ⟨fun e => (hbold e).trans (h.bold e), ?_⟩
  rw [hbacklog]
  exact h.waiting.append hsteps

/-- An event changes nothing that is bold: a new grid takes only cells away, and none of them is. -/
theorem Holds.apply (source : SnapshotSource) {held : Option Register} {p : Player} (h : p.Holds held) (event : Event) :
    (p.apply source event).Holds held := by
  refine h.extend event.bracketed_steps ?_ (apply_backlog source p event)
  intro e
  cases event with
  | memorySize kilobytes =>
    change e ∈ p.stage.bold.filter (!Stage.isCell ·) ↔ _
    rw [List.mem_filter, h.bold]
    refine and_iff_left_of_imp ?_
    intro he
    obtain ⟨r, -, rfl⟩ := Option.map_eq_some_iff.1 he
    rfl
  | memoryDump bytes => exact Iff.rfl
  | snapshotReady =>
    simp only [Player.apply, loadSnapshot]
    cases source p.fetches with
    | ok snapshot => rw [Stage.bold_present]
    | error fault => exact Iff.rfl
  | _ => simp only [Player.apply, enqueue_stage]

/-- A tick plays the first step that waits: what it takes hold of is held from then on. -/
theorem Holds.tick {held : Option Register} {p : Player} (h : p.Holds held) (sink : Sink) :
    ∃ next, (p.tick sink).player.Holds next := by
  cases hsteps : p.backlog.steps with
  | nil =>
    obtain ⟨hbacklog, hstage, -⟩ := tick_of_nil hsteps sink
    refine ⟨held, fun e => ?_, ?_⟩
    · rw [hstage]
      exact h.bold e
    · rw [hbacklog]
      exact h.waiting
  | cons step rest =>
    rw [tick_of_cons hsteps]
    obtain ⟨hbold, hwaiting⟩ := h
    rw [hsteps] at hwaiting
    cases hwaiting with
    | quiet hq hrest =>
      refine ⟨held, fun e => ?_, hrest⟩
      rw [Stage.bold_play_of_quiet p.stage hq]
      exact hbold e
    | @take r _ hrest =>
      refine ⟨some r, fun e => ?_, hrest⟩
      change e ∈ Element.register r :: p.stage.bold ↔ _
      rw [List.mem_cons, hbold]
      simp [eq_comm]
    | @release r _ hrest =>
      refine ⟨none, fun e => ?_, hrest⟩
      change e ∈ p.stage.bold.filter (· != Element.register r) ↔ _
      rw [List.mem_filter, hbold, Option.map_some, Option.some_inj, bne_iff_ne, Option.map_none]
      exact ⟨fun ⟨h1, h2⟩ => absurd h1.symm h2, nofun⟩

theorem Holds.after (source : SnapshotSource) {held : Option Register} {p : Player} (h : p.Holds held) (act : Act) :
    ∃ next, (p.after source act).Holds next := by
  cases act with
  | ingest chunk =>
    exact ⟨held, ingest_induction (P := Holds held) source (fun _ _ hp => ⟨hp.bold, hp.waiting⟩)
      (fun _ event hp => hp.apply source event) h chunk⟩
  | tick sink => exact h.tick sink
  | ended code => exact ⟨held, h.extend (.quiet rfl .nil) (fun _ => Iff.rfl) rfl⟩

/-- At every moment of a run some register is held, or none. -/
theorem Holds.run (source : SnapshotSource) {held : Option Register} {p : Player} (h : p.Holds held) (acts : List Act) :
    ∃ next, (p.run source acts).Holds next := by
  induction acts generalizing p held with
  | nil => exact ⟨held, h⟩
  | cons act rest ih =>
    obtain ⟨next, hnext⟩ := h.after source act
    exact ih hnext

theorem holds_initial : initial.Holds none := ⟨fun e => by simp [initial, Stage.initial], .nil⟩

/-- What is bold is bracketed by the steps, in four parts, at every moment of every run of a fresh player.
1. No flag and no memory cell is bold, and at most one register is.
2. A register is bold exactly when the first step that waits to take hold or let go lets go of it.
3. Nothing is bold when no step waits to take hold or let go, or when the first such step takes hold.
4. Nothing is bold while no step waits. -/
theorem emphasis_bracketed (source : SnapshotSource) (acts : List Act) :
    let p := initial.run source acts
    ((∀ f, p.stage.isBold (.flag f) = false) ∧ (∀ a, p.stage.isBold (.cell a) = false) ∧
      ∀ r r', p.stage.isBold (.register r) = true → p.stage.isBold (.register r') = true → r = r') ∧
    (∀ r, p.stage.isBold (.register r) = true ↔ Step.firstGrip? p.backlog.steps = some (r, false)) ∧
    ((Step.firstGrip? p.backlog.steps = none ∨ ∃ r, Step.firstGrip? p.backlog.steps = some (r, true)) →
      ∀ e, p.stage.isBold e = false) ∧
    (p.backlog.isEmpty = true → ∀ e, p.stage.isBold e = false) := by
  intro p
  obtain ⟨held, hbold, hwaiting⟩ := holds_initial.run source acts
  have hregister : ∀ r, p.stage.isBold (.register r) = true ↔ held = some r := by
    intro r
    rw [Stage.isBold, decide_eq_true_iff, hbold]
    simp
  have hother : ∀ e, (∀ r, e ≠ .register r) → p.stage.isBold e = false := by
    intro e he
    rw [Stage.isBold, decide_eq_false_iff_not, hbold]
    rintro h
    obtain ⟨r, -, rfl⟩ := Option.map_eq_some_iff.1 h
    exact he r rfl
  have hgrip : ∀ r, p.stage.isBold (.register r) = true ↔ Step.firstGrip? p.backlog.steps = some (r, false) :=
    fun r => (hregister r).trans (hwaiting.firstGrip? r).symm
  have hnothing : (∀ r, Step.firstGrip? p.backlog.steps ≠ some (r, false)) → ∀ e, p.stage.isBold e = false := by
    intro hno e
    cases e with
    | register r => exact Bool.eq_false_iff.2 fun h => hno r ((hgrip r).1 h)
    | flag f => exact hother _ nofun
    | cell a => exact hother _ nofun
  refine ⟨⟨fun f => hother _ nofun, fun a => hother _ nofun, fun r r' h h' => ?_⟩, hgrip, ?_, ?_⟩
  · exact Option.some.inj (((hregister r).1 h).symm.trans ((hregister r').1 h'))
  · rintro (h | ⟨r', h⟩) <;> refine hnothing fun r hr => ?_
    · rw [h] at hr
      cases hr
    · rw [h] at hr
      cases hr
  · intro hempty
    refine hnothing fun r hr => ?_
    rw [List.isEmpty_iff.1 hempty] at hr
    cases hr

end Player

end TracePlayer
