import TracePlayer.Proofs.Account
import TracePlayer.Proofs.Looking

/-!
# What a console meets

The loop of the console goes by turns, and in each turn many things happen: messages are received, the channel may be found
closed, a frame is drawn, the clock may let a step be played, a key takes effect. An `Incident` is one of these, and the log of
a run is all of its incidents in order. Statements about every moment of a run are statements about the prefixes of its log.
`through_log` says that the log tells the run, and `messages_log` that the messages are received in the order in which they
were sent, whatever turns they fall into.

To the player the incidents are acts, so that a run of the console is a run of its player (`player_through`).
-/

namespace TracePlayer

/-- Whether a key asks for a step. -/
def Key.asksStep (key : Key) : Bool := key = .right ∨ key = .char 'n'

/-- A key that looks does not ask for a step. -/
theorem Key.asksStep_of_looks {key : Key} (h : key.Looks) : key.asksStep = false := by
  rw [asksStep, decide_eq_false_iff_not]
  rintro (rfl | rfl)
  · exact h (by decide)
  · exact h (by decide)

/-- The channel with messages that wait before all others. -/
def Channel.behind (first : List Message) (ch : Channel) : Channel := { ch with waiting := first ++ ch.waiting }

namespace Console

/-- One thing that a console meets. -/
inductive Incident where
  | received (m : Message)
  /-- The channel is found closed, all that waited in it having been received. -/
  | foundClosed
  | framed (width height : Nat)
  | ticked (pipe : Pipe) (now : Int)
  | pressed (pipe : Pipe) (now : Int) (key : Key)

/-- The message that is received. -/
def Incident.message? : Incident → Option Message
  | received m => some m
  | _ => none

/-- The console after an incident. -/
def meet (source : SnapshotSource) (c : Console) : Incident → Console
  | .received m => c.receive source m
  | .foundClosed => c.lose
  | .framed width height => c.settle width height
  | .ticked pipe now => c.autoplay pipe now
  | .pressed pipe now key => c.press pipe now key

/-- The console after all incidents of a log. -/
def through (source : SnapshotSource) (c : Console) (log : List Incident) : Console := log.foldl (meet source) c

/-- The incidents of a turn up to its frame. -/
def incidentsOfLook (channel : Channel) (width height : Nat) : List Incident :=
  channel.waiting.map .received ++ (if channel.isClosed then [.foundClosed] else []) ++ [.framed width height]

/-- The incidents of a turn behind its frame. -/
def incidentsOfAct (r : Round) : List Incident := [.ticked r.duePipe r.now, .pressed r.keyPipe r.now r.key]

/-- All incidents of a run. -/
def log (source : SnapshotSource) (c : Console) (channel : Channel) : List Round → List Incident
  | [] => []
  | r :: rounds =>
    let channel := r.arrivals.foldl Channel.take channel
    let looked := incidentsOfLook channel r.width r.height
    let c := c.through source looked
    if c.quitting then looked
    else looked ++ incidentsOfAct r ++ (c.through source (incidentsOfAct r)).log source channel.drained rounds

@[simp]
theorem through_nil (source : SnapshotSource) (c : Console) : c.through source [] = c := rfl

@[simp]
theorem through_cons (source : SnapshotSource) (c : Console) (i : Incident) (log : List Incident) :
    c.through source (i :: log) = (c.meet source i).through source log := rfl

@[simp]
theorem through_append (source : SnapshotSource) (c : Console) (log later : List Incident) :
    c.through source (log ++ later) = (c.through source log).through source later :=
  List.foldl_append

/-! ## The messages of a channel -/

theorem take_behind (first : List Message) (ch : Channel) (a : Arrival) :
    (ch.behind first).take a = (ch.take a).behind first := by
  cases a with
  | message m =>
    rcases ch with ⟨waiting, isClosed⟩
    cases isClosed with
    | true => rfl
    | false =>
      simp only [Channel.take, Channel.behind, Bool.false_eq_true, if_false, List.append_assoc]
  | closed => rfl

theorem foldl_take_behind (first : List Message) (ch : Channel) (arrivals : List Arrival) :
    arrivals.foldl Channel.take (ch.behind first) = (arrivals.foldl Channel.take ch).behind first := by
  induction arrivals generalizing ch with
  | nil => rfl
  | cons a rest ih => rw [List.foldl_cons, take_behind, ih, List.foldl_cons]

/-! ## The log of a run -/

theorem through_incidentsOfLook (source : SnapshotSource) (c : Console) (channel : Channel) (width height : Nat) :
    c.through source (incidentsOfLook channel width height) = c.look source channel width height := by
  have hreceived : ∀ messages : List Message,
      c.through source (messages.map .received) = messages.foldl (receive source) c := by
    intro messages
    rw [through, List.foldl_map]
    rfl
  rw [incidentsOfLook, through_append, through_append, hreceived, look, pump]
  cases channel.isClosed <;> rfl

theorem through_incidentsOfAct (source : SnapshotSource) (c : Console) (r : Round) :
    c.through source (incidentsOfAct r) = c.act r := rfl

/-- The log tells the run: its incidents lead to the console behind the loop. -/
theorem through_log (source : SnapshotSource) (c : Console) (channel : Channel) (rounds : List Round) :
    c.through source (c.log source channel rounds) = (c.loop source channel rounds).2 := by
  induction rounds generalizing c channel with
  | nil => rfl
  | cons r rounds ih =>
    simp only [log, loop, through_incidentsOfLook]
    split
    · exact through_incidentsOfLook source c _ r.width r.height
    · rw [through_append, through_append, through_incidentsOfLook, through_incidentsOfAct, ih]

/-- What waits in a channel comes before all that arrives later. -/
theorem waiting_foldl_take (channel : Channel) (arrivals : List Arrival) :
    (arrivals.foldl Channel.take channel).waiting =
      channel.waiting ++ (arrivals.foldl Channel.take channel.drained).waiting := by
  have h := foldl_take_behind channel.waiting channel.drained arrivals
  rw [show channel.drained.behind channel.waiting = channel by rw [Channel.behind, Channel.drained, List.append_nil]] at h
  exact congrArg Channel.waiting h

theorem messages_incidentsOfLook (channel : Channel) (width height : Nat) :
    (incidentsOfLook channel width height).filterMap Incident.message? = channel.waiting := by
  have hwaiting : (channel.waiting.map Incident.received).filterMap Incident.message? = channel.waiting := by
    rw [List.filterMap_map]
    exact List.filterMap_some
  have hclosed : (if channel.isClosed then [Incident.foundClosed] else []).filterMap Incident.message? = [] := by
    cases channel.isClosed <;> rfl
  rw [incidentsOfLook, List.filterMap_append, List.filterMap_append, hwaiting, hclosed, List.append_nil]
  exact List.append_nil _

theorem messages_incidentsOfAct (r : Round) : (incidentsOfAct r).filterMap Incident.message? = [] := rfl

/-- The messages of a run are received in the order in which they were sent, and none is passed over, whatever turns they
arrive in. -/
theorem messages_log (source : SnapshotSource) (c : Console) (channel : Channel) (rounds : List Round) :
    (c.log source channel rounds).filterMap Incident.message? <+:
      ((rounds.flatMap (·.arrivals)).foldl Channel.take channel).waiting := by
  induction rounds generalizing c channel with
  | nil => exact List.nil_prefix
  | cons r rounds ih =>
    rw [List.flatMap_cons, List.foldl_append, waiting_foldl_take, log]
    split
    · rw [messages_incidentsOfLook]
      exact List.prefix_append _ _
    · rw [List.filterMap_append, List.filterMap_append, messages_incidentsOfLook, messages_incidentsOfAct,
        List.append_nil]
      exact (List.prefix_append_right_inj _).2 (ih _ _)

/-- A run that goes through all its rounds receives every message. -/
theorem messages_log_of_length (source : SnapshotSource) (c : Console) {channel : Channel} (hwaiting : channel.waiting = [])
    (rounds : List Round) (h : (c.loop source channel rounds).1.length = rounds.length) :
    (c.log source channel rounds).filterMap Incident.message? =
      ((rounds.flatMap (·.arrivals)).foldl Channel.take channel).waiting := by
  induction rounds generalizing c channel with
  | nil => exact hwaiting.symm
  | cons r rounds ih =>
    rw [List.flatMap_cons, List.foldl_append, waiting_foldl_take]
    simp only [log, loop, through_incidentsOfLook, through_incidentsOfAct] at h ⊢
    split
    · rename_i hquit
      rw [if_pos hquit] at h
      obtain rfl : rounds = [] := List.eq_nil_of_length_eq_zero (Nat.succ.inj h).symm
      rw [messages_incidentsOfLook]
      exact (List.append_nil _).symm
    · rename_i hquit
      rw [if_neg hquit] at h
      rw [List.filterMap_append, List.filterMap_append, messages_incidentsOfLook, messages_incidentsOfAct,
        List.append_nil, ih _ rfl (Nat.succ.inj h)]

/-- Where an item of two lists together stands: in the first, or in the second. -/
theorem append_eq_append_cons {α : Type} {front back before after : List α} {x : α}
    (h : front ++ back = before ++ x :: after) :
    (∃ rest, front = before ++ x :: rest) ∨ ∃ between, before = front ++ between ∧ back = between ++ x :: after := by
  rcases List.append_eq_append_iff.1 h with ⟨between, hbefore, hback⟩ | ⟨rest, hfront, hrest⟩
  · exact Or.inr ⟨between, hbefore, hback⟩
  · cases rest with
    | nil => exact Or.inr ⟨[], by rw [hfront, List.append_nil, List.append_nil], hrest.symm⟩
    | cons y rest =>
      obtain ⟨rfl, -⟩ := List.cons.inj hrest
      exact Or.inl ⟨rest, hfront⟩

/-- Before a turn finds its channel closed, all that waited in it has been received. -/
theorem before_foundClosed {channel : Channel} {width height : Nat} {before after : List Incident}
    (h : incidentsOfLook channel width height = before ++ .foundClosed :: after) :
    channel.isClosed = true ∧ before.filterMap Incident.message? = channel.waiting := by
  have hframed : ∀ between, [Incident.framed width height] ≠ between ++ .foundClosed :: after := by
    intro between heq
    have hmem : Incident.foundClosed ∈ [Incident.framed width height] := by
      rw [heq]
      exact List.mem_append_right _ List.mem_cons_self
    cases List.mem_singleton.1 hmem
  rw [incidentsOfLook, List.append_assoc] at h
  rcases append_eq_append_cons h with ⟨rest, hreceived⟩ | ⟨between, rfl, hrest⟩
  · have hmem : Incident.foundClosed ∈ channel.waiting.map Incident.received := by
      rw [hreceived]
      exact List.mem_append_right _ List.mem_cons_self
    obtain ⟨m, -, hm⟩ := List.mem_map.1 hmem
    cases hm
  · cases hclosed : channel.isClosed with
    | true =>
      rw [hclosed] at hrest
      cases between with
      | nil =>
        rw [List.append_nil, List.filterMap_map]
        exact ⟨rfl, List.filterMap_some⟩
      | cons i between => exact absurd (List.cons.inj hrest).2 (hframed between)
    | false =>
      rw [hclosed] at hrest
      exact absurd hrest (hframed between)

/-- Whether the sending side has closed has nothing to do with what waits. -/
theorem isClosed_foldl_take_drained (channel : Channel) (arrivals : List Arrival) :
    (arrivals.foldl Channel.take channel.drained).isClosed = (arrivals.foldl Channel.take channel).isClosed := by
  have h := foldl_take_behind channel.waiting channel.drained arrivals
  rw [show channel.drained.behind channel.waiting = channel by rw [Channel.behind, Channel.drained, List.append_nil]] at h
  exact (congrArg Channel.isClosed h).symm

/-- When the channel is found closed it has been closed, and all that was sent on it has been received. -/
theorem messages_of_foundClosed (source : SnapshotSource) (c : Console) (channel : Channel) (rounds : List Round)
    {before after : List Incident} (h : c.log source channel rounds = before ++ .foundClosed :: after) :
    ∃ early, early <+: rounds.flatMap (·.arrivals) ∧ (early.foldl Channel.take channel).isClosed = true ∧
      before.filterMap Incident.message? = (early.foldl Channel.take channel).waiting := by
  induction rounds generalizing c channel before with
  | nil => cases before <;> cases h
  | cons r rounds ih =>
    have hhere : ∀ rest, incidentsOfLook (r.arrivals.foldl Channel.take channel) r.width r.height =
        before ++ .foundClosed :: rest → ∃ early, early <+: (r :: rounds).flatMap (·.arrivals) ∧
          (early.foldl Channel.take channel).isClosed = true ∧
          before.filterMap Incident.message? = (early.foldl Channel.take channel).waiting := by
      intro rest hlooked
      refine ⟨r.arrivals, ?_, before_foundClosed hlooked⟩
      rw [List.flatMap_cons]
      exact List.prefix_append _ _
    rw [log] at h
    split at h
    · exact hhere after h
    · rw [List.append_assoc] at h
      rcases append_eq_append_cons h with ⟨rest, hlooked⟩ | ⟨between, rfl, hrest⟩
      · exact hhere rest hlooked
      · rcases append_eq_append_cons hrest with ⟨rest, hact⟩ | ⟨later, rfl, hlater⟩
        · -- Behind its frame a turn does not look at the channel.
          have hmem : Incident.foundClosed ∈ incidentsOfAct r := by
            rw [hact]
            exact List.mem_append_right _ List.mem_cons_self
          simp [incidentsOfAct] at hmem
        · obtain ⟨early, hearly, hclosed, hmessages⟩ := ih _ _ hlater
          refine ⟨r.arrivals ++ early, ?_, ?_, ?_⟩
          · rw [List.flatMap_cons]
            exact (List.prefix_append_right_inj _).2 hearly
          · rw [List.foldl_append, ← isClosed_foldl_take_drained]
            exact hclosed
          · rw [List.filterMap_append, List.filterMap_append, messages_incidentsOfLook, messages_incidentsOfAct,
              List.nil_append, hmessages, List.foldl_append, ← waiting_foldl_take]

/-! ## The player in a run -/

/-- What an incident is to the player. -/
def acts (c : Console) : Incident → List Player.Act
  | .received (.trace line) => [.ingest line]
  | .received (.diagnostic _) => []
  | .received (.exited code) => [.ended code]
  | .foundClosed => if c.session.isRunning then [.ended none] else []
  | .framed _ _ => []
  | .ticked pipe now => if c.isDue now then [.tick (c.sink pipe)] else []
  | .pressed pipe _ key => if key.asksStep then [.tick (c.sink pipe)] else []

/-- What a log is to the player. -/
def history (source : SnapshotSource) (c : Console) : List Incident → List Player.Act
  | [] => []
  | i :: log => c.acts i ++ (c.meet source i).history source log

/-- The steps that have ever been put into the backlog: those that have been played, and those that wait. -/
def enqueued (source : SnapshotSource) (c : Console) (log : List Incident) : List Step :=
  c.player.played source (c.history source log) ++ (c.through source log).player.backlog.steps

/-- Two consoles with the same player and the same session. -/
def Alike (c d : Console) : Prop := c.player = d.player ∧ c.session = d.session

theorem Agrees.alike {c d : Console} (h : Agrees c d) : Alike c d := ⟨h.player, h.session⟩

theorem alike_togglePlay (now : Int) (c : Console) : Alike (c.togglePlay now) c := by
  unfold togglePlay
  cases c.playing <;> exact ⟨rfl, rfl⟩

/-- A key that asks for a step lets one be played; no other key has to do with the player or the session. -/
theorem alike_press (pipe : Pipe) (now : Int) (c : Console) (key : Key) :
    Alike (c.press pipe now key) (if key.asksStep then c.step pipe else c) := by
  by_cases hlooks : key.Looks
  · rw [Key.asksStep_of_looks hlooks]
    exact (Agrees.press_of_looks pipe now c hlooks).alike
  · rcases Key.cases_of_not_looks hlooks with rfl | rfl | rfl | rfl | rfl | rfl
    · exact ⟨rfl, rfl⟩
    · exact ⟨rfl, rfl⟩
    · exact ⟨rfl, rfl⟩
    · exact ⟨rfl, rfl⟩
    · exact ⟨rfl, rfl⟩
    · exact alike_togglePlay now c

/-- The clock lets a step be played when one is due. -/
theorem alike_autoplay (pipe : Pipe) (now : Int) (c : Console) :
    Alike (c.autoplay pipe now) (if c.isDue now then c.step pipe else c) := by
  unfold autoplay
  cases c.isDue now <;> exact ⟨rfl, rfl⟩

/-- An incident is to the player what `acts` says. -/
theorem player_meet (source : SnapshotSource) (c : Console) (i : Incident) :
    (c.meet source i).player = c.player.run source (c.acts i) := by
  cases i with
  | received m => cases m <;> rfl
  | foundClosed =>
    rw [meet, lose, acts]
    cases c.session.isRunning <;> rfl
  | framed width height => rfl
  | ticked pipe now =>
    rw [meet, (alike_autoplay pipe now c).1, acts]
    cases c.isDue now <;> rfl
  | pressed pipe now key =>
    rw [meet, (alike_press pipe now c key).1, acts]
    cases key.asksStep <;> rfl

/-- A run of the console is a run of its player. -/
theorem player_through (source : SnapshotSource) (c : Console) (log : List Incident) :
    (c.through source log).player = c.player.run source (c.history source log) := by
  induction log generalizing c with
  | nil => rfl
  | cons i log ih => rw [through_cons, ih, player_meet, history, Player.run, Player.run, Player.run, List.foldl_append]

theorem history_append (source : SnapshotSource) (c : Console) (log later : List Incident) :
    c.history source (log ++ later) = c.history source log ++ (c.through source log).history source later := by
  induction log generalizing c with
  | nil => rfl
  | cons i log ih => rw [List.cons_append, history, ih, history, through_cons, List.append_assoc]

/-- The steps that have ever been put into the backlog are those that waited at first, and then those that the acts came to. -/
theorem enqueued_eq (source : SnapshotSource) (c : Console) (log : List Incident) :
    c.enqueued source log = c.player.backlog.steps ++ (c.history source log).flatMap Player.Act.output := by
  rw [enqueued, player_through, Player.played_append_waiting]

end Console

end TracePlayer
