import TracePlayer.Proofs.Incidents

/-!
# Playing by the clock and by hand

In a turn of the console a step can be played at two places: behind the frame, when the animation runs and a step is due, and where
the key is read, when the key asks for one. With no time between two steps, an animation that has been started lets a step be
played in every turn, and so does whoever presses a key for each. The two come to the same: the relation `Abreast` between two
consoles is kept by what arrives (`Abreast.look`) and by a turn of both (`Abreast.act`), and in both turns the player meets with the
same. The main statement is `animation_plays_as_by_hand`.
-/

namespace TracePlayer

namespace Player

/-- Whether an animation goes on after an answer: it stops at a tick that finds that the program has finished, or fails. -/
def Reply.goesOn : Reply → Bool
  | ticked outcome => Console.goesOn outcome
  | enqueued _ => true
  | noted => true

/-- No tick of a run finds that the program has finished, or fails. -/
def Unbroken (source : SnapshotSource) (p : Player) (acts : List Act) : Prop :=
  ∀ reply ∈ p.replies source acts, reply.goesOn = true

instance (source : SnapshotSource) (p : Player) (acts : List Act) : Decidable (p.Unbroken source acts) :=
  inferInstanceAs (Decidable (∀ reply ∈ p.replies source acts, reply.goesOn = true))

theorem replies_append (source : SnapshotSource) (p : Player) (acts later : List Act) :
    p.replies source (acts ++ later) = p.replies source acts ++ (p.run source acts).replies source later := by
  induction acts generalizing p with
  | nil => rfl
  | cons act rest ih => rw [List.cons_append, replies, ih, replies, run_cons, List.cons_append]

theorem Unbroken.of_append {source : SnapshotSource} {p : Player} {acts later : List Act}
    (h : p.Unbroken source (acts ++ later)) : p.Unbroken source acts ∧ (p.run source acts).Unbroken source later := by
  unfold Unbroken at h ⊢
  rw [replies_append] at h
  refine ⟨fun reply hmem => ?_, fun reply hmem => ?_⟩
  · exact h reply (List.mem_append_left _ hmem)
  · exact h reply (List.mem_append_right _ hmem)

end Player

namespace Console

/-- What a run is to the player. -/
def told (source : SnapshotSource) (c : Console) (channel : Channel) (rounds : List Round) : List Player.Act :=
  c.history source (c.log source channel rounds)

/-- Two rounds in which the same arrives. In the first a key is read that does not act, in the second one that asks for a step; the
host answers to what the clock asks for in the first as to what the key asks for in the second. -/
structure Round.Paces (r r' : Round) : Prop where
  arrivals : r.arrivals = r'.arrivals
  pipe : r.duePipe = r'.keyPipe
  looks : r.key.Looks
  asks : r'.key.asksStep = true

/-- Two consoles with the same player and the same session, neither of them quitting. The first one plays by the clock, with no time
between two steps, once it is animated; the second is not animated. -/
structure Abreast (animated : Bool) (c d : Console) : Prop where
  alike : Alike c d
  playing : c.playing = animated
  tickMs : c.tickMs = 0
  quitting : c.quitting = false
  paused : d.playing = false
  staying : d.quitting = false

section

variable {source : SnapshotSource} {channel : Channel} {animated : Bool} {c d : Console} {r r' : Round}

/-! ## One tick, by the clock or by a key -/

theorem Alike.sink (h : Alike c d) (pipe : Pipe) : c.sink pipe = d.sink pipe := by
  unfold Console.sink
  rw [h.2]

/-- What a tick does to the player and to the session is decided by these two. -/
theorem Alike.step (h : Alike c d) (pipe : Pipe) : Alike (c.step pipe) (d.step pipe) := by
  have hplayer : (c.step pipe).player = (d.step pipe).player := by
    simp only [Console.step, h.1, h.sink]
  have hsession : (c.step pipe).session = (d.step pipe).session := by
    simp only [Console.step, h.1, h.2, h.sink]
  exact ⟨hplayer, hsession⟩

/-- Without time between two steps, one is due whenever the animation runs. -/
theorem isDue_eq_playing (h : c.tickMs = 0) (now : Int) : c.isDue now = c.playing := by
  rw [isDue, h, decide_eq_true (Nat.zero_le _), Bool.and_true]

theorem isDue_of_paused (h : c.playing = false) (now : Int) : c.isDue now = false := by
  rw [isDue, h, Bool.false_and]

theorem autoplay_of_paused (h : c.playing = false) (pipe : Pipe) (now : Int) : c.autoplay pipe now = c := by
  rw [autoplay, isDue_of_paused h]
  rfl

theorem press_of_asksStep {key : Key} (h : key.asksStep = true) (pipe : Pipe) (now : Int) (c : Console) :
    c.press pipe now key = { c with playing := false }.step pipe := by
  rcases of_decide_eq_true h with rfl | rfl
  · rfl
  · rfl

/-- What a turn is to the player behind its frame. -/
theorem history_incidentsOfAct (source : SnapshotSource) (c : Console) (r : Round) :
    c.history source (incidentsOfAct r) = (if c.isDue r.now then [.tick (c.sink r.duePipe)] else []) ++
      (if r.key.asksStep then [.tick ((c.autoplay r.duePipe r.now).sink r.keyPipe)] else []) := by
  rw [incidentsOfAct, history, history, history, List.append_nil]
  rfl

namespace Abreast

/-! ## Up to the frame -/

/-- What arrives is the same to both players, and leaves the consoles abreast. -/
theorem receive (h : Abreast animated c d) (source : SnapshotSource) (m : Message) :
    c.acts (.received m) = d.acts (.received m) ∧ Abreast animated (c.receive source m) (d.receive source m) := by
  obtain ⟨⟨hplayer, hsession⟩, hplaying, htick, hquitting, hpaused, hstaying⟩ := h
  cases m with
  | trace line =>
    have hingest := congrArg (fun p => p.ingest source line) hplayer
    exact ⟨rfl, ⟨hingest, hsession⟩, hplaying, htick, hquitting, hpaused, hstaying⟩
  | diagnostic line => exact ⟨rfl, ⟨hplayer, hsession⟩, hplaying, htick, hquitting, hpaused, hstaying⟩
  | exited code =>
    have hended := congrArg (fun p => p.sessionEnded code) hplayer
    exact ⟨rfl, ⟨hended, congrArg Session.markExited hsession⟩, hplaying, htick, hquitting, hpaused, hstaying⟩

theorem received (h : Abreast animated c d) (source : SnapshotSource) (messages : List Message) :
    c.history source (messages.map .received) = d.history source (messages.map .received) ∧
      Abreast animated (c.through source (messages.map .received)) (d.through source (messages.map .received)) := by
  induction messages generalizing c d with
  | nil => exact ⟨rfl, h⟩
  | cons m messages ih =>
    obtain ⟨hacts, hmeet⟩ := h.receive source m
    obtain ⟨hhistory, hthrough⟩ := ih hmeet
    refine ⟨?_, hthrough⟩
    rw [List.map_cons, history, history, hacts]
    exact congrArg _ hhistory

theorem lose (h : Abreast animated c d) : c.acts .foundClosed = d.acts .foundClosed ∧ Abreast animated c.lose d.lose := by
  obtain ⟨⟨hplayer, hsession⟩, hplaying, htick, hquitting, hpaused, hstaying⟩ := h
  rw [acts, acts, Console.lose, Console.lose, hsession]
  refine ⟨rfl, ?_⟩
  cases d.session.isRunning with
  | true =>
    have hended := congrArg (fun p => p.sessionEnded none) hplayer
    exact ⟨⟨hended, congrArg Session.markExited hsession⟩, hplaying, htick, hquitting, hpaused, hstaying⟩
  | false => exact ⟨⟨hplayer, hsession⟩, hplaying, htick, hquitting, hpaused, hstaying⟩

theorem settle (h : Abreast animated c d) (width height width' height' : Nat) :
    Abreast animated (c.settle width height) (d.settle width' height') :=
  ⟨⟨h.alike.1, h.alike.2⟩, h.playing, h.tickMs, h.quitting, h.paused, h.staying⟩

/-- Up to their frames both players meet with the same, whatever the sizes of the screens. -/
theorem look (h : Abreast animated c d) (source : SnapshotSource) (channel : Channel) (width height width' height' : Nat) :
    c.history source (incidentsOfLook channel width height) = d.history source (incidentsOfLook channel width' height') ∧
      Abreast animated (c.look source channel width height) (d.look source channel width' height') := by
  rw [← through_incidentsOfLook, ← through_incidentsOfLook]
  obtain ⟨hhistory, hreceived⟩ := h.received source channel.waiting
  obtain ⟨hlost, hlose⟩ := hreceived.lose
  cases hclosed : channel.isClosed with
  | true =>
    simp only [incidentsOfLook, hclosed, if_true, history_append, through_append, history, hhistory, hlost]
    exact ⟨rfl, hlose.settle width height width' height'⟩
  | false =>
    simp only [incidentsOfLook, hclosed, Bool.false_eq_true, if_false, List.append_nil, history_append, through_append, history,
      hhistory]
    exact ⟨rfl, hreceived.settle width height width' height'⟩

/-! ## Behind the frame -/

/-- Space starts the animation, and lets no step be played in its own turn. -/
theorem start (h : Abreast false c d) (hspace : r.key = .char ' ') (hlooks : r'.key.Looks) :
    c.history source (incidentsOfAct r) = d.history source (incidentsOfAct r') ∧ Abreast true (c.act r) (d.act r') := by
  have hasks : r.key.asksStep = false := by
    rw [hspace]
    decide
  refine ⟨?_, ?_⟩
  · rw [history_incidentsOfAct, history_incidentsOfAct, isDue_of_paused h.playing, isDue_of_paused h.paused, hasks,
      Key.asksStep_of_looks hlooks]
    rfl
  · have hact : c.act r = { c with playing := true, status := "Playing...", lastPlay := r.now - c.tickMs } := by
      rw [Console.act, autoplay_of_paused h.playing, hspace, press, togglePlay, h.playing]
      rfl
    have hagrees : Agrees (d.act r') d := by
      rw [Console.act, autoplay_of_paused h.paused]
      exact Agrees.press_of_looks r'.keyPipe r'.now d hlooks
    rw [hact]
    exact ⟨⟨h.alike.1.trans hagrees.player.symm, h.alike.2.trans hagrees.session.symm⟩, rfl, h.tickMs, h.quitting,
      hagrees.playing.trans h.paused, hagrees.quitting.trans h.staying⟩

/-- What the clock asks for in the one turn the key asks for in the other. -/
theorem act (h : Abreast true c d) (hr : r.Paces r')
    (hunbroken : c.player.Unbroken source (c.history source (incidentsOfAct r))) :
    c.history source (incidentsOfAct r) = d.history source (incidentsOfAct r') ∧ Abreast true (c.act r) (d.act r') := by
  have hdue : c.isDue r.now = true := (isDue_eq_playing h.tickMs r.now).trans h.playing
  have hhistory : c.history source (incidentsOfAct r) = [.tick (c.sink r.duePipe)] := by
    rw [history_incidentsOfAct, hdue, Key.asksStep_of_looks hr.looks]
    rfl
  have hhistory' : d.history source (incidentsOfAct r') = [.tick (d.sink r'.keyPipe)] := by
    rw [history_incidentsOfAct, isDue_of_paused h.paused, hr.asks, autoplay_of_paused h.paused]
    rfl
  refine ⟨?_, ?_⟩
  · rw [hhistory, hhistory', h.alike.sink, hr.pipe]
  · have hgoes : goesOn (c.player.tick (c.sink r.duePipe)).outcome = true := by
      rw [hhistory] at hunbroken
      exact hunbroken _ List.mem_cons_self
    have hagrees : Agrees (c.act r) { c.step r.duePipe with lastPlay := r.now } := by
      rw [Console.act, autoplay, hdue]
      exact Agrees.press_of_looks r.keyPipe r.now _ hr.looks
    have hact : d.act r' = { d with playing := false }.step r'.keyPipe := by
      rw [Console.act, autoplay_of_paused h.paused, press_of_asksStep hr.asks]
    have hstep : Alike (c.step r.duePipe) ({ d with playing := false }.step r'.keyPipe) := by
      rw [hr.pipe]
      exact Alike.step ⟨h.alike.1, h.alike.2⟩ r'.keyPipe
    have hplaying : (c.step r.duePipe).playing = true := by
      change (c.playing && goesOn (c.player.tick (c.sink r.duePipe)).outcome) = true
      rw [h.playing, hgoes]
      rfl
    rw [hact]
    exact ⟨⟨hagrees.player.trans hstep.1, hagrees.session.trans hstep.2⟩, hagrees.playing.trans hplaying,
      hagrees.tickMs.trans h.tickMs, hagrees.quitting.trans h.quitting, rfl, h.staying⟩

end Abreast

/-! ## Runs -/

variable {fed : Channel} {rounds rounds' : List Round} {k : Nat}

/-- What a run is to the player, turn by turn. -/
theorem told_cons (hfed : r.arrivals.foldl Channel.take channel = fed)
    (hquitting : (c.look source fed r.width r.height).quitting = false) (rounds : List Round) :
    c.told source channel (r :: rounds) = c.history source (incidentsOfLook fed r.width r.height) ++
      ((c.look source fed r.width r.height).history source (incidentsOfAct r) ++
        ((c.look source fed r.width r.height).act r).told source fed.drained rounds) := by
  simp only [told, log, hfed, through_incidentsOfLook, through_incidentsOfAct, hquitting, Bool.false_eq_true, if_false,
    history_append, List.append_assoc]

theorem getElem?_shown_zero (hfed : r.arrivals.foldl Channel.take channel = fed) (source : SnapshotSource) (c : Console)
    (rounds : List Round) : (c.shown source channel (r :: rounds))[0]? = some (c.look source fed r.width r.height) := by
  simp only [shown, hfed]
  split <;> rfl

theorem getElem?_shown_succ (hfed : r.arrivals.foldl Channel.take channel = fed)
    (hquitting : (c.look source fed r.width r.height).quitting = false) (rounds : List Round) (k : Nat) :
    (c.shown source channel (r :: rounds))[k + 1]? =
      (((c.look source fed r.width r.height).act r).shown source fed.drained rounds)[k]? := by
  simp only [shown, hfed, hquitting, Bool.false_eq_true, if_false, List.getElem?_cons_succ]

/-- Up to frame `k` two runs are the same to their players, and at that frame both show consoles with the same player and the same
session. -/
structure Together (source : SnapshotSource) (channel : Channel) (c d : Console) (rounds rounds' : List Round) (k : Nat) : Prop where
  told : c.told source channel (rounds.take k) = d.told source channel (rounds'.take k)
  shown : ∃ s s', (c.shown source channel rounds)[k]? = some s ∧ (d.shown source channel rounds')[k]? = some s' ∧ Alike s s'

namespace Abreast

theorem together_zero (h : Abreast animated c d) (source : SnapshotSource) (channel : Channel)
    (harrivals : r.arrivals = r'.arrivals) (rounds rounds' : List Round) :
    Together source channel c d (r :: rounds) (r' :: rounds') 0 := by
  have hfed := congrArg (List.foldl Channel.take channel) harrivals
  obtain ⟨-, hlooked⟩ := h.look source (r'.arrivals.foldl Channel.take channel) r.width r.height r'.width r'.height
  exact ⟨rfl, _, _, getElem?_shown_zero hfed source c rounds, getElem?_shown_zero rfl source d rounds', hlooked.alike⟩

/-- Runs that are together behind a turn, in which both players meet with the same, are together before it. -/
theorem together_succ (h : Abreast animated c d) (hfed : r.arrivals.foldl Channel.take channel = fed)
    (hfed' : r'.arrivals.foldl Channel.take channel = fed)
    (hact : (c.look source fed r.width r.height).history source (incidentsOfAct r) =
      (d.look source fed r'.width r'.height).history source (incidentsOfAct r'))
    (htogether : Together source fed.drained ((c.look source fed r.width r.height).act r)
      ((d.look source fed r'.width r'.height).act r') rounds rounds' k) :
    Together source channel c d (r :: rounds) (r' :: rounds') (k + 1) := by
  obtain ⟨hlook, hlooked⟩ := h.look source fed r.width r.height r'.width r'.height
  obtain ⟨htold, s, s', hs, hs', halike⟩ := htogether
  refine ⟨?_, s, s', ?_, ?_, halike⟩
  · rw [List.take_succ_cons, List.take_succ_cons, told_cons hfed hlooked.quitting, told_cons hfed' hlooked.staying, hlook, hact,
      htold]
  · rw [getElem?_shown_succ hfed hlooked.quitting, hs]
  · rw [getElem?_shown_succ hfed' hlooked.staying, hs']

/-- Once the first console is animated, the two stay together for as long as nothing stops the animation. -/
theorem together (h : Abreast true c d) (source : SnapshotSource) (channel : Channel) {last last' : Round}
    (hrounds : List.Forall₂ Round.Paces rounds rounds') (hlast : last.arrivals = last'.arrivals) (rest rest' : List Round)
    (hk : k ≤ rounds.length) (hunbroken : c.player.Unbroken source (c.told source channel (rounds.take k))) :
    Together source channel c d (rounds ++ last :: rest) (rounds' ++ last' :: rest') k := by
  induction hrounds generalizing c d channel k with
  | nil =>
    obtain rfl : k = 0 := Nat.le_zero.1 hk
    exact h.together_zero source channel hlast rest rest'
  | @cons r r' rounds rounds' hr _ ih =>
    cases k with
    | zero => exact h.together_zero source channel hr.arrivals _ _
    | succ k =>
      have hfed := congrArg (List.foldl Channel.take channel) hr.arrivals
      obtain ⟨-, hlooked⟩ := h.look source (r'.arrivals.foldl Channel.take channel) r.width r.height r'.width r'.height
      rw [List.take_succ_cons, told_cons hfed hlooked.quitting] at hunbroken
      -- The ticks of this turn are apart from those of the later ones.
      obtain ⟨-, hbehind⟩ := hunbroken.of_append
      rw [← player_through, through_incidentsOfLook] at hbehind
      obtain ⟨hnow, hlater⟩ := hbehind.of_append
      rw [← player_through, through_incidentsOfAct] at hlater
      obtain ⟨hact, hacted⟩ := hlooked.act hr hnow
      exact h.together_succ hfed rfl hact (ih hacted _ (Nat.le_of_succ_le_succ hk) hlater)

end Abreast

end

/-- With no time between two steps, the animation plays as somebody does who asks for every step. Two consoles have the same player
and the same session at first, and neither is animated. On the first one space is pressed in the first turn, and from then on keys
that do not act; on the second such a key is pressed in the first turn, and from then on one that asks for a step. In each turn the
same arrives on both, and the host gives the same answers to what the clock and what the key asks for; sizes of screens and clocks
may differ, and so may anything behind these turns.

Then at every frame, up to the one behind the last of these turns, if no tick before has found that the program has finished, or
failed:
1. The two runs have been the same to their players, act for act, up to this frame.
2. Both runs come to this frame, and show consoles with the same player (the tally and all else that is counted, the steps that
   wait, the prompter, the stage) and the same session with the commands that have been delivered. -/
theorem animation_plays_as_by_hand (source : SnapshotSource) (channel : Channel) {c d : Console} (h : Abreast false c d)
    {first first' last last' : Round} {rounds rounds' : List Round} (hfirst : first.arrivals = first'.arrivals)
    (hspace : first.key = .char ' ') (hlooks : first'.key.Looks) (hrounds : List.Forall₂ Round.Paces rounds rounds')
    (hlast : last.arrivals = last'.arrivals) (rest rest' : List Round) {k : Nat} (hk : k ≤ rounds.length + 1)
    (hunbroken : c.player.Unbroken source (c.told source channel ((first :: rounds).take k))) :
    Together source channel c d (first :: rounds ++ last :: rest) (first' :: rounds' ++ last' :: rest') k := by
  cases k with
  | zero => exact h.together_zero source channel hfirst _ _
  | succ k =>
    have hfed := congrArg (List.foldl Channel.take channel) hfirst
    obtain ⟨-, hlooked⟩ :=
      h.look source (first'.arrivals.foldl Channel.take channel) first.width first.height first'.width first'.height
    obtain ⟨hact, hacted⟩ := hlooked.start hspace hlooks
    rw [List.take_succ_cons, told_cons hfed hlooked.quitting] at hunbroken
    obtain ⟨-, hbehind⟩ := hunbroken.of_append
    rw [← player_through, through_incidentsOfLook] at hbehind
    obtain ⟨-, hlater⟩ := hbehind.of_append
    rw [← player_through, through_incidentsOfAct] at hlater
    exact h.together_succ hfed rfl hact (hacted.together source _ hrounds hlast rest rest' (Nat.le_of_succ_le_succ hk) hlater)

/-- The interpreter is asked, awaited for a turn, and answers with two lines: by the clock on a large screen, by → and n on a small
one. -/
theorem animation_plays_as_by_hand_awaiting :
    let source : SnapshotSource := fun _ => .error (.unreadable "state.json" .notFound)
    let large (arrivals : List Arrival) (now : Int) (key : Key) := Round.steady (.ok ()) ⟨arrivals, 80, 24, now, key⟩
    let small (arrivals : List Arrival) (key : Key) := Round.steady (.ok ()) ⟨arrivals, 9, 4, 0, key⟩
    let answer : List Arrival := [.message (.trace "decode A"), .message (.trace "decode B")]
    let rounds := [large [] 50 .up, large [] 100 .other, large answer 150 .tab, large [] 150 (.char 'x')]
    let rounds' := [small [] .right, small [] (.char 'n'), small answer .right, small [] .right]
    let c := initial .initial ⟨.running, some 0, 1, []⟩ 0 0
    c.player.Unbroken source (c.told source .empty (large [] 0 (.char ' ') :: rounds)) ∧
      (c.loop source .empty (large [] 0 (.char ' ') :: rounds)).2.player.stage.stepsPlayed = 2 ∧
      Together source .empty c c (large [] 0 (.char ' ') :: rounds ++ [large [] 200 (.char 'q')])
        (small [] .down :: rounds' ++ [small [] .escape]) 5 := by
  intro source large small answer rounds rounds' c
  have habreast : Abreast false c c := ⟨⟨rfl, rfl⟩, rfl, rfl, rfl, rfl, rfl⟩
  have hfirst : (large [] 0 (.char ' ')).arrivals = (small [] .down).arrivals := rfl
  have hrounds : List.Forall₂ Round.Paces rounds rounds' :=
    .cons ⟨rfl, rfl, by decide, rfl⟩ (.cons ⟨rfl, rfl, by decide, rfl⟩ (.cons ⟨rfl, rfl, by decide, rfl⟩
      (.cons ⟨rfl, rfl, by decide, rfl⟩ .nil)))
  have hlast : (large [] 200 (.char 'q')).arrivals = (small [] .escape).arrivals := rfl
  have hunbroken : c.player.Unbroken source (c.told source .empty (large [] 0 (.char ' ') :: rounds)) := by decide +kernel
  have hplayed : (c.loop source .empty (large [] 0 (.char ' ') :: rounds)).2.player.stage.stepsPlayed = 2 := by decide +kernel
  exact ⟨hunbroken, hplayed, animation_plays_as_by_hand source .empty habreast hfirst rfl (by decide) hrounds hlast [] []
    (Nat.le_refl 5) hunbroken⟩

end Console

end TracePlayer
