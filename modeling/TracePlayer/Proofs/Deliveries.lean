import TracePlayer.Interpreters
import TracePlayer.Proofs.Ending

/-!
# Where commands go

A session is started, sent commands, and told of ends, in any order and any number of times, and the host may refuse any start.
What comes of it is a list of deeds: an act that fails leaves the session as it was and is no deed. The main statement is
`commands_reach_current_process`: a command is accepted while the process that was started last has not ended, and every process
receives the commands that were accepted between its start and the next end, in order, and no others.
-/

namespace TracePlayer

namespace Command

/-! ## Commands as lines -/

/-- The text of some commands, each on a line of its own. -/
def textOf (commands : List Command) : String := String.join (commands.map fun c => c.text ++ "\n")

theorem toByteArray_bytes (commands : List Command) : (bytes commands).toByteArray = (textOf commands).toByteArray := by
  have hline : ∀ c : Command, (c.text ++ "\n").toUTF8.toList.toByteArray = (c.text ++ "\n").toByteArray := by
    intro c
    cases c <;> decide +kernel
  induction commands with
  | nil => rfl
  | cons c rest ih =>
    rw [bytes, textOf] at ih
    rw [bytes, textOf, List.flatMap_cons, List.toByteArray_append, ih, hline, List.map_cons, String.join_cons]
    exact String.toByteArray_append.symm

theorem textOf?_bytes (commands : List Command) : Host.textOf? (bytes commands) = some (textOf commands) := by
  have hbytes : (⟨(bytes commands).toArray⟩ : ByteArray) = (textOf commands).toByteArray := by
    rw [← toByteArray_bytes]
    exact ByteArray.ext List.data_toByteArray.symm
  rw [Host.textOf?, hbytes, String.fromUTF8?, dif_pos (textOf commands).isValidUTF8]
  rfl

theorem lines_textOf (commands : List Command) :
    Text.lines (textOf commands).toList = commands.map fun c => c.text.toList := by
  rw [textOf, String.toList_join, List.flatMap_map]
  induction commands with
  | nil => rfl
  | cons c rest ih =>
    have hline : ∀ s, Text.lines ((c.text ++ "\n").toList ++ s) = c.text.toList :: Text.lines s := by
      intro s
      cases c <;> rfl
    rw [List.flatMap_cons, hline, ih, List.map_cons]

/-- Who reads what is written to it line by line reads the commands. -/
theorem streamLines_bytes (commands : List Command) :
    Host.streamLines (bytes commands) = commands.map text := by
  have hreadable : Host.readableText (bytes commands) = textOf commands := by rw [Host.readableText, textOf?_bytes]
  rw [Host.streamLines, hreadable, lines_textOf, List.map_map]
  exact List.map_congr_left fun c _ => String.ofList_toList

end Command

namespace Session

/-! ## Acts and deeds -/

/-- What is done to a session, with the answer of the host. -/
inductive Act where
  | start (program : String) (answer : Except Host.Fault Unit)
  | send (command : Command) (pipe : Except Host.Fault Unit)
  | markExited

/-- What has been done to a session: a process was started, a command was accepted, an end was noted. -/
inductive Deed where
  | started
  | sent (command : Command)
  | exited
  deriving DecidableEq, Repr

/-- What an act is when it succeeds. -/
def Act.deed : Act → Deed
  | start _ _ => .started
  | send command _ => .sent command
  | markExited => .exited

/-- The command of a deed. -/
def Deed.command? : Deed → Option Command
  | sent command => some command
  | _ => none

/-- Tries an act. -/
def perform (s : Session) : Act → Except SessionFault Session
  | .start program answer => s.start program answer
  | .send command pipe => s.send pipe command
  | .markExited => .ok s.markExited

/-- The session after an act. One that fails leaves it as it was. -/
def after (s : Session) (act : Act) : Session :=
  match s.perform act with
  | .ok s' => s'
  | .error _ => s

/-- The session after some acts. -/
def run (s : Session) (acts : List Act) : Session := acts.foldl after s

/-- What comes of some acts. -/
def deeds (s : Session) : List Act → List Deed
  | [] => []
  | act :: acts =>
    match s.perform act with
    | .ok s' => act.deed :: s'.deeds acts
    | .error _ => s.deeds acts

/-- How many processes were started. -/
def startsIn (deeds : List Deed) : Nat := deeds.count .started

/-- The commands that were accepted before the next end. -/
def acceptedBeforeEnd (deeds : List Deed) : List Command :=
  (deeds.takeWhile (· ≠ .exited)).filterMap Deed.command?

/-- The last start has not been followed by an end. -/
def Current (deeds : List Deed) : Prop :=
  ∃ before since, deeds = before ++ .started :: since ∧ .started ∉ since ∧ .exited ∉ since

/-- A session that holds an input exactly while it runs, that of the process started last, and that has written to no process
that it has not started. -/
structure Sound (s : Session) : Prop where
  input : s.input.isSome = true ↔ s.state = .running
  last : ∀ process, s.input = some process → process + 1 = s.started
  delivered : ∀ d ∈ s.delivered, d.1 < s.started

variable {s s' : Session} {act : Act} {process : Nat}

/-! ### One act -/

theorem isRunning_iff : s.isRunning = true ↔ s.state = .running := beq_iff_eq

theorem start_eq_ok_iff {program : String} {answer : Except Host.Fault Unit} :
    s.start program answer = .ok s' ↔ s.isRunning = false ∧ answer = .ok () ∧
      s' = { s with state := .running, input := some s.started, started := s.started + 1 } := by
  unfold start
  cases s.isRunning with
  | true => simp
  | false => cases answer <;> simp [eq_comm]

/-- Why a start fails. -/
theorem start_eq_error_iff {program : String} {answer : Except Host.Fault Unit} {fault : SessionFault} :
    s.start program answer = .error fault ↔
      s.isRunning = true ∧ fault = .alreadyRunning ∨
        s.isRunning = false ∧ ∃ cause, answer = .error cause ∧ fault = .notLaunched program cause := by
  unfold start
  cases s.isRunning with
  | true => simp [eq_comm]
  | false => cases answer <;> simp [eq_comm]

theorem sound_initial : initial.Sound := ⟨by decide, nofun, nofun⟩

theorem Sound.isRunning_eq (h : s.Sound) : s.isRunning = s.input.isSome := by
  rw [Bool.eq_iff_iff, isRunning_iff, h.input]

theorem Sound.send_eq (h : s.Sound) (pipe : Except Host.Fault Unit) (command : Command) :
    s.send pipe command =
      match s.input, pipe with
      | none, _ => .error .exited
      | some process, .ok () => .ok { s with delivered := s.delivered ++ [(process, command)] }
      | some _, .error fault => .error (.notWritten command fault) := by
  have htarget : s.target? = s.input := by
    rw [target?, h.isRunning_eq]
    cases s.input <;> rfl
  unfold send accepts deliver
  rw [htarget]
  cases s.input with
  | none => rfl
  | some process => cases pipe <;> rfl

/-- What an act does when it succeeds. -/
theorem Sound.perform_cases (h : s.Sound) (hperform : s.perform act = .ok s') :
    (act.deed = .started ∧ s.input = none ∧
        s' = { s with state := .running, input := some s.started, started := s.started + 1 }) ∨
      (∃ command process, act.deed = .sent command ∧ s.input = some process ∧
        s' = { s with delivered := s.delivered ++ [(process, command)] }) ∨
      (act.deed = .exited ∧ s' = { s with state := .stopped, input := none }) := by
  cases act with
  | start program answer =>
    obtain ⟨hrunning, -, hs'⟩ := start_eq_ok_iff.1 hperform
    rw [h.isRunning_eq, Option.isSome_eq_false_iff, Option.isNone_iff_eq_none] at hrunning
    exact .inl ⟨rfl, hrunning, hs'⟩
  | send command pipe =>
    rw [Session.perform, h.send_eq] at hperform
    split at hperform
    · cases hperform
    · rename_i process hinput
      exact .inr (.inl ⟨command, process, rfl, hinput, (Except.ok.inj hperform).symm⟩)
    · cases hperform
  | markExited => exact .inr (.inr ⟨rfl, (Except.ok.inj hperform).symm⟩)

theorem Sound.perform (h : s.Sound) (hperform : s.perform act = .ok s') : s'.Sound := by
  rcases h.perform_cases hperform with ⟨-, -, rfl⟩ | ⟨command, process, -, hinput, rfl⟩ | ⟨-, rfl⟩
  · exact ⟨by simp, by simp, fun d hd => Nat.lt_succ_of_lt (h.delivered d hd)⟩
  · refine ⟨h.input, h.last, fun d hd => ?_⟩
    rcases List.mem_append.1 hd with hd | hd
    · exact h.delivered d hd
    · obtain rfl := List.mem_singleton.1 hd
      exact Nat.le_of_eq (h.last process hinput)
  · exact ⟨by simp, by simp, h.delivered⟩

/-- Only a start adds a process. -/
theorem Sound.started_perform (h : s.Sound) (hperform : s.perform act = .ok s') (ds : List Deed) :
    s.started + startsIn (act.deed :: ds) = s'.started + startsIn ds := by
  rcases h.perform_cases hperform with ⟨hdeed, -, rfl⟩ | ⟨command, process, hdeed, -, rfl⟩ | ⟨hdeed, rfl⟩ <;>
    rw [hdeed, startsIn, List.count_cons]
  · simp only [beq_self_eq_true, if_true, startsIn]
    omega
  · rfl
  · rfl

/-- A start opens the input of the process that is new. -/
theorem Sound.perform_start (h : s.Sound) (hperform : s.perform act = .ok s') (hdeed : act.deed = .started) :
    s'.input = some s.started ∧ s'.started = s.started + 1 ∧ s'.delivered = s.delivered := by
  rcases h.perform_cases hperform with ⟨-, -, rfl⟩ | ⟨command, process, hother, -⟩ | ⟨hother, -⟩
  · exact ⟨rfl, rfl, rfl⟩
  · rw [hdeed] at hother
    cases hother
  · rw [hdeed] at hother
    cases hother

/-- To a process that it has not started a session has written nothing. -/
theorem Sound.received_eq_nil (h : s.Sound) (hprocess : s.started ≤ process) : s.received process = [] := by
  rw [received, List.map_eq_nil_iff, List.filter_eq_nil_iff]
  intro d hd heq
  have hlt := h.delivered d hd
  rw [beq_iff_eq.1 heq] at hlt
  omega

theorem received_deliver (s : Session) (target : Nat) (command : Command) (process : Nat) :
    { s with delivered := s.delivered ++ [(target, command)] }.received process =
      s.received process ++ if target = process then [command] else [] := by
  simp only [received, List.filter_append, List.map_append]
  by_cases h : target = process <;> simp [h]

/-! ### The deeds of a run -/

theorem acceptedBeforeEnd_cons (d : Deed) (ds : List Deed) :
    acceptedBeforeEnd (d :: ds) = if d = .exited then [] else d.command?.toList ++ acceptedBeforeEnd ds := by
  cases d <;> rfl

theorem current_cons (d : Deed) (ds : List Deed) :
    Current (d :: ds) ↔ Current ds ∨ d = .started ∧ .started ∉ ds ∧ .exited ∉ ds := by
  constructor
  · rintro ⟨before, since, heq, hsince⟩
    cases before with
    | nil =>
      obtain ⟨rfl, rfl⟩ := List.cons.inj heq
      exact .inr ⟨rfl, hsince⟩
    | cons first before => exact .inl ⟨before, since, (List.cons.inj heq).2, hsince⟩
  · rintro (⟨before, since, rfl, hsince⟩ | ⟨rfl, hsince⟩)
    · exact ⟨d :: before, since, rfl, hsince⟩
    · exact ⟨[], ds, rfl, hsince⟩

/-- When a process was started and no end has been noted, the last start has not been followed by one. -/
theorem current_of_mem {ds : List Deed} (hstarted : .started ∈ ds) (hexited : .exited ∉ ds) : Current ds := by
  induction ds with
  | nil => cases hstarted
  | cons d ds ih =>
    rw [List.mem_cons, not_or] at hexited
    rw [current_cons]
    by_cases hlater : .started ∈ ds
    · exact .inl (ih hlater hexited.2)
    · exact .inr ⟨((List.mem_cons.1 hstarted).resolve_right hlater).symm, hlater, hexited.2⟩

/-! ### Runs -/

/-- A relation between a session, what comes of some acts, and the session behind them holds if it holds of no acts and each
act that succeeds leads on to it: those that fail do not count. -/
theorem Sound.run_induction {motive : Session → List Deed → Session → Prop}
    (nil : ∀ {s}, s.Sound → motive s [] s)
    (cons : ∀ {s s' act} (acts), s.Sound → s.perform act = .ok s' → motive s' (s'.deeds acts) (s'.run acts) →
      motive s (act.deed :: s'.deeds acts) (s'.run acts))
    (h : s.Sound) (acts : List Act) : motive s (s.deeds acts) (s.run acts) := by
  induction acts generalizing s with
  | nil => exact nil h
  | cons act acts ih =>
    rw [Session.run, List.foldl_cons, after, deeds]
    cases hperform : s.perform act with
    | error fault => exact ih h
    | ok s' => exact cons acts h hperform (ih (h.perform hperform))

theorem Sound.run (h : s.Sound) (acts : List Act) : (s.run acts).Sound :=
  Sound.run_induction (motive := fun _ _ t => t.Sound) (fun h => h) (fun _ _ _ ih => ih) h acts

theorem Sound.started_run (h : s.Sound) (acts : List Act) :
    (s.run acts).started = s.started + startsIn (s.deeds acts) := by
  refine Sound.run_induction (motive := fun s ds t => t.started = s.started + startsIn ds) (fun _ => rfl)
    (fun acts h hperform ih => ?_) h acts
  rw [ih, h.started_perform hperform]

/-- An input is held behind some acts when the last start among them has not been followed by an end, or when one was held before
and no end has been noted. -/
theorem Sound.isSome_input_run (h : s.Sound) (acts : List Act) :
    (s.run acts).input.isSome = true ↔
      Current (s.deeds acts) ∨ s.input.isSome = true ∧ .exited ∉ s.deeds acts := by
  refine Sound.run_induction
    (motive := fun s ds t => t.input.isSome = true ↔ Current ds ∨ s.input.isSome = true ∧ .exited ∉ ds)
    (fun {s} _ => ?_) (fun {s s' act} acts h hperform ih => ?_) h acts
  · simp [Current]
  · generalize s'.deeds acts = ds at ih ⊢
    have hlast : .exited ∉ ds → Current ds ∨ .started ∉ ds := fun hexited =>
      (em (.started ∈ ds)).imp_left fun hstarted => current_of_mem hstarted hexited
    rw [ih, current_cons, List.mem_cons, not_or]
    rcases h.perform_cases hperform with ⟨hdeed, hinput, rfl⟩ | ⟨command, process, hdeed, hinput, rfl⟩ | ⟨hdeed, rfl⟩ <;>
      rw [hdeed]
    · simp only [hinput, Option.isSome_some, Option.isSome_none]
      grind
    · simp
    · simp

/-- Of the processes that have been started, only the one whose input is held receives more: what is accepted before the next
end. -/
theorem Sound.received_run (h : s.Sound) (acts : List Act) {process : Nat} (hprocess : process < s.started) :
    (s.run acts).received process =
      s.received process ++ if s.input = some process then acceptedBeforeEnd (s.deeds acts) else [] := by
  revert hprocess
  refine Sound.run_induction (motive := fun s ds t => process < s.started → t.received process =
    s.received process ++ if s.input = some process then acceptedBeforeEnd ds else []) (fun {s} _ _ => ?_)
    (fun {s s' act} acts h hperform ih hprocess => ?_) h acts
  · simp [acceptedBeforeEnd]
  · rw [acceptedBeforeEnd_cons]
    rcases h.perform_cases hperform with ⟨-, hinput, rfl⟩ | ⟨command, target, hdeed, hinput, rfl⟩ | ⟨hdeed, rfl⟩
    · have hother : s.started ≠ process := by omega
      rw [ih (Nat.lt_succ_of_lt hprocess), hinput]
      simp [hother, received]
    · rw [ih hprocess, received_deliver, hinput, hdeed]
      by_cases htarget : target = process <;> simp [htarget, Deed.command?]
    · rw [ih hprocess, hdeed]
      simp [received]

/-- A process receives what is accepted between its start and the next end. -/
theorem Sound.received_run_of_deeds (h : s.Sound) (acts : List Act) {before since : List Deed}
    (hdeeds : s.deeds acts = before ++ .started :: since) :
    (s.run acts).received (s.started + startsIn before) = acceptedBeforeEnd since := by
  revert before
  refine Sound.run_induction (motive := fun s ds t => ∀ {before}, ds = before ++ .started :: since →
    t.received (s.started + startsIn before) = acceptedBeforeEnd since) (fun _ => ?_)
    (fun {s s' act} acts h hperform ih before hdeeds => ?_) h acts
  · simp
  · cases before with
    | nil =>
      obtain ⟨hdeed, rfl⟩ := List.cons.inj hdeeds
      obtain ⟨hinput, hstarted, hdelivered⟩ := h.perform_start hperform hdeed
      have hnone : s'.received s.started = [] := by
        rw [received, hdelivered]
        exact h.received_eq_nil (Nat.le_refl s.started)
      have hprocess : s.started < s'.started := by omega
      have hreceived := (h.perform hperform).received_run acts hprocess
      rwa [hnone, hinput, if_pos rfl] at hreceived
    | cons first before =>
      obtain ⟨rfl, hrest⟩ := List.cons.inj hdeeds
      rw [h.started_perform hperform, ih hrest]

/-- Where the commands of any run go, in five parts, whatever is done to the session in whatever order.
1. The session holds an input exactly while it runs.
2. A start succeeds when the session does not run and the host starts the program. One that fails, either because the session runs
   or because of the host, leaves the session as it was.
3. A command is accepted exactly when the last start has not been followed by an end, as long as it can be written; with no such
   start the answer is that the interpreter has exited.
4. A process receives the commands that were accepted between its start and the next end, in order, and no others; the lines that
   it reads are just these. Processes are numbered by the starts before theirs.
5. Nothing goes to a process that has not been started. -/
theorem commands_reach_current_process (acts : List Act) :
    let s := initial.run acts
    let past := initial.deeds acts
    (s.input.isSome = true ↔ s.state = .running) ∧
    (∀ program answer,
      ((∃ s', s.start program answer = .ok s') ↔ s.state ≠ .running ∧ answer = .ok ()) ∧
      (∀ fault, s.start program answer = .error fault →
        (s.state = .running ∧ fault = .alreadyRunning ∨
          s.state ≠ .running ∧ ∃ cause, answer = .error cause ∧ fault = .notLaunched program cause) ∧
        s.after (.start program answer) = s)) ∧
    (∀ command pipe,
      ((∃ s', s.send pipe command = .ok s') ↔ Current past ∧ pipe = .ok ()) ∧
      (¬ Current past → s.send pipe command = .error .exited)) ∧
    (∀ before since, past = before ++ .started :: since → s.received (startsIn before) = acceptedBeforeEnd since ∧
      Host.streamLines (Command.bytes (s.received (startsIn before))) = (acceptedBeforeEnd since).map Command.text) ∧
    (∀ process, startsIn past ≤ process → s.received process = []) := by
  intro s past
  have hsound : s.Sound := sound_initial.run acts
  have hcurrent : s.input.isSome = true ↔ Current past :=
    (sound_initial.isSome_input_run acts).trans (or_iff_left fun h => nomatch h.1)
  have hrunning : s.isRunning = false ↔ s.state ≠ .running := by rw [← Bool.not_eq_true, isRunning_iff]
  refine ⟨hsound.input, fun program answer => ⟨?_, fun fault hfault => ⟨?_, ?_⟩⟩, fun command pipe => ?_, ?_, ?_⟩
  · simp only [start_eq_ok_iff, hrunning, exists_and_left, exists_eq, and_true]
  · rw [start_eq_error_iff, isRunning_iff, hrunning] at hfault
    exact hfault
  · rw [after, Session.perform, hfault]
  · rw [← hcurrent, hsound.send_eq]
    cases s.input with
    | none => simp
    | some process => cases pipe <;> simp
  · intro before since hdeeds
    have hreceived := sound_initial.received_run_of_deeds acts hdeeds
    rw [show initial.started = 0 from rfl, Nat.zero_add] at hreceived
    refine ⟨hreceived, ?_⟩
    rw [Command.streamLines_bytes, ← hreceived]
  · intro process hprocess
    refine hsound.received_eq_nil ?_
    rw [sound_initial.started_run acts, show initial.started = 0 from rfl, Nat.zero_add]
    exact hprocess

/-- Between two ends a start that is refused changes nothing, and neither does one that fails. -/
example :
    let s := initial.run [.send .step (.ok ()), .start "run" (.ok ()), .send .env (.ok ()), .start "run" (.ok ()),
      .send .step (.ok ()), .markExited, .send .step (.ok ()), .start "run" (.error .notFound), .start "run" (.ok ()),
      .send .env (.ok ())]
    s.received 0 = [.env, .step] ∧ s.received 1 = [.env] ∧ s.received 2 = [] := by decide

end Session

end TracePlayer
