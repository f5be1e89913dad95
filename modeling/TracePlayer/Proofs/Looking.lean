import Mathlib.Data.List.Forall2
import TracePlayer.Console.Run

/-!
# Looking changes nothing

The focus and the positions of the two windows belong to whoever looks at the screen. Frames move the windows, and so does a
step that is played, as well as most keys. All the rest of the console belongs to the machine, and only six keys act on it.
Two consoles that agree on all but the focus and the windows go on to agree, on screens of whatever sizes and with whatever
keys that only look. The main statement is `looking_changes_nothing`.
-/

namespace TracePlayer

/-- The keys that do more than look: those that quit, those that ask for a step, and the one that starts and stops the
animation. -/
def Key.acting : List Key := [.char 'q', .char 'Q', .escape, .right, .char 'n', .char ' ']

/-- A key that moves the focus or a window, or does nothing. -/
def Key.Looks (key : Key) : Prop := key ∉ acting

/-- Two keys that are the same, but for looking. -/
def Key.Matches (key key' : Key) : Prop := key = key' ∨ key.Looks ∧ key'.Looks

instance (key : Key) : Decidable key.Looks := inferInstanceAs (Decidable (key ∉ Key.acting))

instance (key key' : Key) : Decidable (key.Matches key') := inferInstanceAs (Decidable (_ ∨ _ ∧ _))

/-- The keys that do not look, one by one. -/
theorem Key.cases_of_not_looks {key : Key} (h : ¬key.Looks) :
    key = .char 'q' ∨ key = .char 'Q' ∨ key = .escape ∨ key = .right ∨ key = .char 'n' ∨ key = .char ' ' := by
  have hacting : key ∈ acting := not_not.1 h
  simpa only [acting, List.mem_cons, List.not_mem_nil, or_false] using hacting

namespace Console

/-- Two rounds that are the same, but for looking. The screens may have any sizes. -/
structure Round.Matches (r r' : Round) : Prop where
  arrivals : r.arrivals = r'.arrivals
  now : r.now = r'.now
  duePipe : r.duePipe = r'.duePipe
  keyPipe : r.keyPipe = r'.keyPipe
  key : r.key.Matches r'.key

/-- Two consoles that are the same, but for the focus and the windows. -/
structure Agrees (c d : Console) : Prop where
  player : c.player = d.player
  session : c.session = d.session
  quitting : c.quitting = d.quitting
  status : c.status = d.status
  playing : c.playing = d.playing
  tickMs : c.tickMs = d.tickMs
  lastPlay : c.lastPlay = d.lastPlay

/-- The consoles of which a run draws frames. -/
def shown (source : SnapshotSource) (c : Console) (channel : Channel) : List Round → List Console
  | [] => []
  | r :: rounds =>
    let channel := r.arrivals.foldl Channel.take channel
    let c := c.look source channel r.width r.height
    if c.quitting then [c] else c :: (c.act r).shown source channel.drained rounds

/-- The frames of a run are drawn of the consoles that are shown. -/
theorem frames_loop (source : SnapshotSource) (c : Console) (channel : Channel) (rounds : List Round) :
    (c.loop source channel rounds).1 =
      List.zipWith (fun s r => s.draw r.width r.height) (c.shown source channel rounds) rounds := by
  induction rounds generalizing c channel with
  | nil => rfl
  | cons r rounds ih =>
    simp only [loop, shown]
    split
    · rfl
    · rw [List.zipWith_cons_cons, ih]

namespace LookingAux

/-- The console with the focus and the windows of a fresh one: what is left when nobody looks. -/
def core (c : Console) : Console := { c with focus := .memory, window := .initial, entry := lastEntry }

theorem agrees_iff {c d : Console} : Agrees c d ↔ core c = core d := by
  rcases c with ⟨player, session, focus, window, entry, quitting, status, playing, tickMs, lastPlay⟩
  rcases d with ⟨player', session', focus', window', entry', quitting', status', playing', tickMs', lastPlay'⟩
  simp only [core, Console.mk.injEq, true_and]
  constructor
  · rintro ⟨hplayer, hsession, hquitting, hstatus, hplaying, htickMs, hlastPlay⟩
    exact ⟨hplayer, hsession, hquitting, hstatus, hplaying, htickMs, hlastPlay⟩
  · rintro ⟨hplayer, hsession, hquitting, hstatus, hplaying, htickMs, hlastPlay⟩
    exact ⟨hplayer, hsession, hquitting, hstatus, hplaying, htickMs, hlastPlay⟩

/-- What becomes of the rest of a console is not decided by its focus or its windows. -/
def Blind (f : Console → Console) : Prop := ∀ c, core (f c) = core (f (core c))

theorem Blind.agrees {f : Console → Console} (hf : Blind f) {c d : Console} (h : Agrees c d) : Agrees (f c) (f d) := by
  rw [agrees_iff, hf c, hf d, agrees_iff.1 h]

/-- What is done one after the other. -/
theorem Blind.comp {f g : Console → Console} (hg : Blind g) (hf : Blind f) : Blind (g ∘ f) := by
  intro c
  have h : core (f c) = core (f (core c)) := hf c
  rw [Function.comp_apply, Function.comp_apply, hg (f c), h, ← hg (f (core c))]

theorem Blind.foldl {α : Type} {f : Console → α → Console} (hf : ∀ a, Blind (f · a)) (as : List α) :
    Blind (as.foldl f ·) := by
  induction as with
  | nil => exact fun c => rfl
  | cons a as ih => exact ih.comp (hf a)

/-! ### What a turn does -/

theorem blind_receive (source : SnapshotSource) (m : Message) : Blind (receive source · m) := by
  intro c
  cases m <;> rfl

theorem blind_lose : Blind lose := by
  intro c
  change core (if c.session.isRunning then c.ended none else c) =
    core (if c.session.isRunning then (core c).ended none else core c)
  cases c.session.isRunning <;> rfl

theorem blind_pump (source : SnapshotSource) (channel : Channel) : Blind (pump source · channel) := by
  have hreceived : Blind (channel.waiting.foldl (receive source) ·) := .foldl (blind_receive source) channel.waiting
  intro c
  simp only [pump]
  cases channel.isClosed with
  | true => exact blind_lose.comp hreceived c
  | false => exact hreceived c

/-- A frame moves the windows. -/
theorem core_settle (c : Console) (width height : Nat) : core (c.settle width height) = core c := rfl

theorem blind_step (pipe : Pipe) : Blind (step pipe) := fun _ => rfl

theorem blind_autoplay (pipe : Pipe) (now : Int) : Blind (autoplay pipe now) := by
  intro c
  change core (if c.isDue now then { c.step pipe with lastPlay := now } else c) =
    core (if c.isDue now then { (core c).step pipe with lastPlay := now } else core c)
  cases c.isDue now <;> rfl

/-! ### Keys -/

theorem core_scrollUp (rows : Nat) (c : Console) : core (c.scrollUp rows) = core c := by
  unfold scrollUp
  cases c.focus <;> rfl

theorem core_scrollDown (rows : Nat) (c : Console) : core (c.scrollDown rows) = core c := by
  unfold scrollDown
  cases c.focus <;> rfl

/-- A key that looks moves the focus or a window, and does no more. -/
theorem core_press (pipe : Pipe) (now : Int) (c : Console) {key : Key} (h : key.Looks) :
    core (c.press pipe now key) = core c := by
  simp only [Key.Looks, Key.acting, List.mem_cons, List.not_mem_nil, or_false, not_or] at h
  obtain ⟨hq, hQ, hescape, hright, hn, hspace⟩ := h
  cases key with
  | char char =>
    have hpress : c.press pipe now (.char char) = c := by
      rw [Key.char.injEq] at hq hQ hn hspace
      rw [press] <;> simp only [hq, hQ, hn, hspace, imp_self]
    rw [hpress]
  | up => exact core_scrollUp 1 c
  | down => exact core_scrollDown 1 c
  | pageUp =>
    rw [press]
    split
    · exact core_scrollUp pageRows c
    · rfl
  | pageDown =>
    rw [press]
    split
    · exact core_scrollDown pageRows c
    · rfl
  | tab => rfl
  | other => rfl
  | right => exact absurd rfl hright
  | escape => exact absurd rfl hescape

theorem blind_togglePlay (now : Int) : Blind (togglePlay now) := by
  intro c
  change core (if c.playing then _ else _) = core (if c.playing then _ else _)
  cases c.playing <;> rfl

/-- No key has the focus or the windows decide what becomes of the rest. -/
theorem blind_press (pipe : Pipe) (now : Int) (key : Key) : Blind (press pipe now · key) := by
  intro c
  by_cases hlooks : key.Looks
  · rw [core_press pipe now c hlooks, core_press pipe now (core c) hlooks]
    rfl
  · rcases Key.cases_of_not_looks hlooks with rfl | rfl | rfl | rfl | rfl | rfl
    · rfl
    · rfl
    · rfl
    · exact blind_step pipe { c with playing := false }
    · exact blind_step pipe { c with playing := false }
    · exact blind_togglePlay now c

end LookingAux

open LookingAux

namespace Agrees

/-- Consoles that agree do so when they have looked at the same channel, on screens of whatever sizes. -/
theorem look (source : SnapshotSource) (channel : Channel) {c d : Console} (h : Agrees c d)
    (width height width' height' : Nat) :
    Agrees (c.look source channel width height) (d.look source channel width' height') := by
  have hpump : Agrees (c.pump source channel) (d.pump source channel) := (blind_pump source channel).agrees h
  rw [agrees_iff] at hpump ⊢
  exact (core_settle _ width height).trans (hpump.trans (core_settle _ width' height').symm)

/-- A console agrees with itself after a key that looks. -/
theorem press_of_looks (pipe : Pipe) (now : Int) (c : Console) {key : Key} (h : key.Looks) :
    Agrees (c.press pipe now key) c :=
  agrees_iff.2 (core_press pipe now c h)

/-- Consoles that agree do so after keys that are the same, but for looking. -/
theorem press (pipe : Pipe) (now : Int) {c d : Console} (h : Agrees c d) {key key' : Key} (hkey : key.Matches key') :
    Agrees (c.press pipe now key) (d.press pipe now key') := by
  rcases hkey with rfl | ⟨hlooks, hlooks'⟩
  · exact (blind_press pipe now key).agrees h
  · rw [agrees_iff] at h ⊢
    exact (core_press pipe now c hlooks).trans (h.trans (core_press pipe now d hlooks').symm)

/-- Consoles that agree do so behind their frames. -/
theorem act {c d : Console} (h : Agrees c d) {r r' : Round} (hr : r.Matches r') : Agrees (c.act r) (d.act r') := by
  rw [Console.act, Console.act, hr.duePipe, hr.keyPipe, hr.now]
  exact ((blind_autoplay r'.duePipe r'.now).agrees h).press r'.keyPipe r'.now hr.key

end Agrees

/-- Looking changes nothing, in three parts, for every two runs from consoles that are the same but for the focus and the
windows. In each round the same arrives, the clock says the same, writing commands has the same answers, and the keys are the
same or both look; the screens may have whatever sizes, in every round others.
1. The frames of each run are drawn of the consoles that it shows, one after the other.
2. The runs show equally many consoles, and at each frame they agree on the player, on the session with all commands that
   were written, on whether the console is quitting, on the status message, on whether the animation runs, and on when it last
   played.
3. So do the consoles behind the runs. -/
theorem looking_changes_nothing (source : SnapshotSource) (channel : Channel) {c d : Console} (h : Agrees c d)
    {rounds rounds' : List Round} (hrounds : List.Forall₂ Round.Matches rounds rounds') :
    ((c.loop source channel rounds).1 =
        List.zipWith (fun s r => s.draw r.width r.height) (c.shown source channel rounds) rounds ∧
      (d.loop source channel rounds').1 =
        List.zipWith (fun s r => s.draw r.width r.height) (d.shown source channel rounds') rounds') ∧
    List.Forall₂ Agrees (c.shown source channel rounds) (d.shown source channel rounds') ∧
    Agrees (c.loop source channel rounds).2 (d.loop source channel rounds').2 := by
  refine ⟨⟨frames_loop source c channel rounds, frames_loop source d channel rounds'⟩, ?_⟩
  induction hrounds generalizing c d channel with
  | nil => exact ⟨.nil, h⟩
  | @cons r r' rounds rounds' hr _ ih =>
    have hlook : Agrees (c.look source (r.arrivals.foldl Channel.take channel) r.width r.height)
        (d.look source (r'.arrivals.foldl Channel.take channel) r'.width r'.height) := by
      rw [hr.arrivals]
      exact h.look source _ r.width r.height r'.width r'.height
    simp only [shown, loop, hlook.quitting]
    split
    · exact ⟨.cons hlook .nil, hlook⟩
    · obtain ⟨hshown, hbehind⟩ := ih (r.arrivals.foldl Channel.take channel).drained (hlook.act hr)
      rw [hr.arrivals] at hlook hshown hbehind ⊢
      exact ⟨.cons hlook hshown, hbehind⟩

/-- The same on a large and on a small screen. On the large one Tab is pressed where on the small one the window of the memory
is moved, so that another pane has the focus. Both have played the same step, and sent the same commands. -/
theorem looking_changes_nothing_small_screen :
    let source : SnapshotSource := fun _ => .error (.unreadable "state.json" .notFound)
    let round (width height : Nat) (arrivals : List Arrival) (key : Key) :=
      Round.steady (.ok ()) ⟨arrivals, width, height, 0, key⟩
    let rounds := [round 80 24 [] .right, round 80 24 [.message (.trace "decode A")] .tab, round 80 24 [] (.char 'n'),
      round 80 24 [] (.char 'q'), round 80 24 [] .other]
    let rounds' := [round 9 4 [] .right, round 9 4 [.message (.trace "decode A")] .down, round 3 2 [] (.char 'n'),
      round 0 0 [] (.char 'q'), round 9 4 [] (.char 'x')]
    let c := initial .initial ⟨.running, some 0, 1, []⟩ 100 0
    List.Forall₂ Round.Matches rounds rounds' ∧
      List.Forall₂ Agrees (c.shown source .empty rounds) (c.shown source .empty rounds') ∧
      (c.loop source .empty rounds).2.focus ≠ (c.loop source .empty rounds').2.focus ∧
      (c.loop source .empty rounds).2.status = "notify \"Decoded as A\"" ∧
      (c.loop source .empty rounds).2.session.delivered = [(0, .env), (0, .step)] := by
  intro source round rounds rounds' c
  have hrounds : List.Forall₂ Round.Matches rounds rounds' :=
    .cons ⟨rfl, rfl, rfl, rfl, by decide⟩ (.cons ⟨rfl, rfl, rfl, rfl, by decide⟩ (.cons ⟨rfl, rfl, rfl, rfl, by decide⟩
      (.cons ⟨rfl, rfl, rfl, rfl, by decide⟩ (.cons ⟨rfl, rfl, rfl, rfl, by decide⟩ .nil))))
  have hfocus : (c.loop source .empty rounds).2.focus ≠ (c.loop source .empty rounds').2.focus := by decide +kernel
  have hstatus : (c.loop source .empty rounds').2.status = "notify \"Decoded as A\"" := by decide +kernel
  have hdelivered : (c.loop source .empty rounds').2.session.delivered = [(0, .env), (0, .step)] := by decide +kernel
  obtain ⟨-, hshown, hbehind⟩ :=
    looking_changes_nothing source .empty (c := c) ⟨rfl, rfl, rfl, rfl, rfl, rfl, rfl⟩ hrounds
  exact ⟨hrounds, hshown, hfocus, hbehind.status.trans hstatus,
    (congrArg Session.delivered hbehind.session).trans hdelivered⟩

end Console

end TracePlayer
