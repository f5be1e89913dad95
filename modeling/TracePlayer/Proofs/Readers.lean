import TracePlayer.Interpreters
import TracePlayer.Proofs.Ending
import TracePlayer.Proofs.Lines

/-!
# The readers of a process

Two readers are at work at the same time. One sends the lines that a process prints, and behind them how the process ended; the
other sends the lines of its diagnostics. Each sends its messages in order and then lets go of the channel, which closes when
both have done so. The turns of the readers may fall as they like, and so may those of the console that receives. The main
statement is `readers_keep_trace`: the steps that come of it are those of the whole trace, in order, and one notice.
-/

namespace TracePlayer

/-- One of the two readers of a process. -/
inductive Reader where
  /-- Reads what the process prints: the trace. -/
  | output
  /-- Reads its diagnostics. -/
  | errors
  deriving DecidableEq, Repr

/-- The reader that sends such a message. -/
def Message.reader : Message → Reader
  | trace _ => .output
  | diagnostic _ => .errors
  | exited _ => .output

/-- Those of some messages that a reader sends. -/
def Reader.own (who : Reader) (messages : List Message) : List Message := messages.filter fun m => m.reader = who

/-- The steps that a message comes to. -/
def Message.steps : Message → List Step
  | trace line => (Trace.events line).flatMap Event.steps
  | diagnostic _ => []
  | exited code => [.notify (Player.exitNotice code)]

/-- The transcript of two streams and of how the process ended. -/
def Transcript.ofStreams (output errors : List UInt8) (status : Option Int) : Transcript :=
  ⟨Host.streamLines output, Host.streamLines errors, [status]⟩

/-- What each reader has still to send, in order; `none` when it has let go of the channel. -/
structure Readers where
  output : Option (List Message)
  errors : Option (List Message)
  deriving DecidableEq, Repr

namespace Readers

/-- The readers when the process has been started, given all that will come of it. -/
def ofTranscript (t : Transcript) : Readers :=
  ⟨some (t.trace.map .trace ++ t.exits.map .exited), some (t.diagnostics.map .diagnostic)⟩

/-- What one of the readers has still to do. -/
def work (r : Readers) : Reader → Option (List Message)
  | .output => r.output
  | .errors => r.errors

/-- The readers when one of them has other work. -/
def put (r : Readers) (work : Option (List Message)) : Reader → Readers
  | .output => { r with output := work }
  | .errors => { r with errors := work }

/-- Whether both readers have let go of the channel. -/
def isDone (r : Readers) : Bool := r.output.isNone && r.errors.isNone

/-- A reader takes a turn: it sends its next message, or lets go of the channel when it has none. The channel closes with the
last that lets go. -/
def turn (r : Readers) (who : Reader) : Readers × List Arrival :=
  match r.work who with
  | none => (r, [])
  | some [] => (r.put none who, if (r.put none who).isDone then [.closed] else [])
  | some (m :: rest) => (r.put (some rest) who, [.message m])

/-- The readers after some turns. -/
def after (r : Readers) (turns : List Reader) : Readers := turns.foldl (fun r who => (r.turn who).1) r

/-- What arrives on the channel in some turns. -/
def arrivals (r : Readers) : List Reader → List Arrival
  | [] => []
  | who :: turns => (r.turn who).2 ++ (r.turn who).1.arrivals turns

/-- The messages that a reader has still to send. -/
def toSend (r : Readers) (who : Reader) : List Message := (r.work who).getD []

/-- Every message is that of its own reader. -/
def Sorted (r : Readers) : Prop := ∀ who, ∀ m ∈ r.toSend who, m.reader = who

/-! ## Turns -/

theorem work_put (r : Readers) (work : Option (List Message)) (who other : Reader) :
    (r.put work who).work other = if other = who then work else r.work other := by
  cases who <;> cases other <;> rfl

theorem toSend_put (r : Readers) (work : Option (List Message)) (who other : Reader) :
    (r.put work who).toSend other = if other = who then work.getD [] else r.toSend other := by
  rw [toSend, work_put]
  split <;> rfl

theorem isDone_iff {r : Readers} : r.isDone = true ↔ ∀ who, r.work who = none := by
  rw [isDone, Bool.and_eq_true, Option.isNone_iff_eq_none, Option.isNone_iff_eq_none]
  constructor
  · rintro ⟨houtput, herrors⟩ who
    cases who with
    | output => exact houtput
    | errors => exact herrors
  · exact fun h => ⟨h .output, h .errors⟩

/-- A reader that has let go has nothing to send. -/
theorem toSend_of_isDone {r : Readers} (h : r.isDone = true) (who : Reader) : r.toSend who = [] := by
  rw [toSend, isDone_iff.1 h who]
  rfl

/-- Nothing comes of readers that have let go. -/
theorem turn_of_isDone {r : Readers} (h : r.isDone = true) (who : Reader) : r.turn who = (r, []) := by
  rw [turn, isDone_iff.1 h who]

theorem of_isDone {r : Readers} (h : r.isDone = true) (turns : List Reader) :
    r.arrivals turns = [] ∧ r.after turns = r := by
  induction turns with
  | nil => exact ⟨rfl, rfl⟩
  | cons who turns ih =>
    rw [arrivals, after, List.foldl_cons, turn_of_isDone h]
    exact ih

/-- A reader that lets go had nothing more to send. -/
theorem toSend_put_none {r : Readers} {who : Reader} (h : r.work who = some []) (other : Reader) :
    (r.put none who).toSend other = r.toSend other := by
  rw [toSend_put]
  split
  · rename_i heq
    rw [heq, toSend, h]
    rfl
  · rfl

theorem Sorted.put {r : Readers} (h : r.Sorted) {who : Reader} {m : Message} {rest : List Message}
    (hwork : r.work who = some (m :: rest)) : (r.put (some rest) who).Sorted := by
  intro other x hx
  rw [toSend_put] at hx
  split at hx
  · rename_i heq
    refine h other x ?_
    rw [heq, toSend, hwork]
    exact List.mem_cons_of_mem m hx
  · exact h other x hx

/-- What arrives in some turns: messages, of each reader in its order those that it does not have to send any more; and the closing
of the channel behind them, if both readers have let go by then. -/
theorem arrivals_eq {r : Readers} (h : r.Sorted) (turns : List Reader) :
    ∃ (sent : List Message) (closing : List Arrival), r.arrivals turns = sent.map .message ++ closing ∧
      (∀ who, who.own sent ++ (r.after turns).toSend who = r.toSend who) ∧
      (closing = [] ∨ closing = [.closed] ∧ (r.after turns).isDone = true) := by
  induction turns generalizing r with
  | nil => exact ⟨[], [], rfl, fun who => rfl, Or.inl rfl⟩
  | cons who turns ih =>
    rw [arrivals, show r.after (who :: turns) = (r.turn who).1.after turns from rfl, turn]
    cases hwork : r.work who with
    | none => exact ih h
    | some messages =>
      cases messages with
      | nil =>
        have hkept : ∀ other, (r.put none who).toSend other = r.toSend other := toSend_put_none hwork
        cases hdone : (r.put none who).isDone with
        | true =>
          -- The last reader to let go closes the channel, and nobody is left to send anything behind that.
          obtain ⟨harrivals, hafter⟩ := of_isDone hdone turns
          refine ⟨[], [.closed], ?_, fun other => ?_, Or.inr ⟨rfl, ?_⟩⟩
          · simp only [if_true, harrivals, List.append_nil, List.map_nil, List.nil_append]
          · simp only [hafter, Reader.own, List.filter_nil, List.nil_append, hkept]
          · simp only [hafter, hdone]
        | false =>
          have hsorted : (r.put none who).Sorted := fun other m hm => h other m (by rwa [hkept] at hm)
          obtain ⟨sent, closing, harrivals, hsent, hclosing⟩ := ih hsorted
          refine ⟨sent, closing, harrivals, fun other => ?_, hclosing⟩
          rw [← hkept]
          exact hsent other
      | cons m rest =>
        obtain ⟨sent, closing, harrivals, hsent, hclosing⟩ := ih (h.put hwork)
        have hm : m.reader = who := h who m (by rw [toSend, hwork]; exact List.mem_cons_self)
        refine ⟨m :: sent, closing, ?_, fun other => ?_, hclosing⟩
        · simp only [harrivals, List.map_cons, List.cons_append, List.nil_append]
        · have hother := hsent other
          rw [toSend_put] at hother
          by_cases heq : other = who
          · rw [if_pos heq] at hother
            rw [Reader.own, List.filter_cons_of_pos (by rw [hm, heq]; exact decide_eq_true rfl), List.cons_append, ← Reader.own,
              hother, heq, toSend, hwork]
            rfl
          · rw [if_neg heq] at hother
            rw [Reader.own, List.filter_cons_of_neg (by rw [hm]; simpa using Ne.symm heq), ← Reader.own, hother]

theorem toSend_ofTranscript (t : Transcript) :
    (ofTranscript t).toSend .output = t.trace.map .trace ++ t.exits.map .exited ∧
      (ofTranscript t).toSend .errors = t.diagnostics.map .diagnostic := ⟨rfl, rfl⟩

theorem sorted_ofTranscript (t : Transcript) : (ofTranscript t).Sorted := by
  obtain ⟨houtput, herrors⟩ := toSend_ofTranscript t
  intro who m hm
  cases who with
  | output =>
    rw [houtput, List.mem_append, List.mem_map, List.mem_map] at hm
    rcases hm with ⟨line, -, rfl⟩ | ⟨code, -, rfl⟩ <;> rfl
  | errors =>
    rw [herrors] at hm
    obtain ⟨line, -, rfl⟩ := List.mem_map.1 hm
    rfl

end Readers

/-! ## The channel -/

namespace Channel

/-- Messages that are sent on an open channel wait in it. -/
theorem foldl_take_messages {ch : Channel} (h : ch.isClosed = false) (sent : List Message) :
    (sent.map Arrival.message).foldl take ch = { ch with waiting := ch.waiting ++ sent } := by
  induction sent generalizing ch with
  | nil => simp
  | cons m rest ih =>
    have htake : ch.take (.message m) = { ch with waiting := ch.waiting ++ [m] } := by simp [take, h]
    have hopen : (ch.take (.message m)).isClosed = false := by rw [htake, h]
    rw [List.map_cons, List.foldl_cons, ih hopen, htake]
    simp

/-- A channel on which messages have been sent, and which may have been closed behind them. -/
theorem waiting_of_sent {sent : List Message} {closing : List Arrival} (h : closing = [] ∨ closing = [.closed]) :
    ((sent.map Arrival.message ++ closing).foldl take .empty).waiting = sent := by
  rw [List.foldl_append, foldl_take_messages rfl]
  rcases h with rfl | rfl <;> rfl

/-- As soon as it is closed, all messages have been sent. -/
theorem waiting_of_isClosed {sent : List Message} {closing early : List Arrival}
    (h : closing = [] ∨ closing = [.closed]) (hearly : early <+: sent.map Arrival.message ++ closing)
    (hclosed : (early.foldl take .empty).isClosed = true) :
    closing = [.closed] ∧ (early.foldl take .empty).waiting = sent := by
  have hopen : ∀ messages : List Message, ((messages.map Arrival.message).foldl take .empty).isClosed = false := by
    intro messages
    rw [foldl_take_messages rfl]
    rfl
  obtain ⟨tail, htail⟩ := hearly
  rcases List.append_eq_append_iff.1 htail with ⟨middle, hsent, -⟩ | ⟨middle, rfl, hmiddle⟩
  · obtain ⟨first, second, -, rfl, -⟩ := List.map_eq_append_iff.1 hsent
    rw [hopen] at hclosed
    cases hclosed
  · cases middle with
    | nil =>
      rw [List.append_nil, hopen] at hclosed
      cases hclosed
    | cons a middle =>
      rcases h with rfl | rfl
      · cases hmiddle
      · obtain ⟨rfl, hnil⟩ := List.cons.inj hmiddle
        obtain ⟨rfl, -⟩ := List.append_eq_nil_iff.1 hnil.symm
        exact ⟨rfl, waiting_of_sent (Or.inr rfl)⟩

end Channel

/-! ## The lines of a stream -/

namespace ReaderAux

/-- A line that has been read is judged as it would be with the carriage return that was left out. -/
theorem judge_closeLine (line : List Char) : Trace.judge (Text.closeLine line) = Trace.judge line.reverse := by
  unfold Text.closeLine
  split
  · rename_i letters
    rw [List.reverse_cons, Trace.judge, Trace.judge, Text.dropReturns_snoc]
  · rfl

theorem not_mem_closeLine {line : List Char} (h : '\n' ∉ line) : '\n' ∉ Text.closeLine line := by
  unfold Text.closeLine
  split
  · rw [List.mem_reverse]
    exact fun hmem => h (List.mem_cons_of_mem _ hmem)
  · rwa [List.mem_reverse]

theorem not_mem_of_mem_linesFrom {s line l : List Char} (hline : '\n' ∉ line) (h : l ∈ Text.linesFrom line s) :
    '\n' ∉ l := by
  induction s generalizing line with
  | nil =>
    rw [Text.linesFrom] at h
    split at h
    · cases h
    · rw [List.mem_singleton.1 h, List.mem_reverse]
      exact hline
  | cons c rest ih =>
    rw [Text.linesFrom] at h
    split at h
    · rcases List.mem_cons.1 h with rfl | h
      · exact not_mem_closeLine hline
      · exact ih List.not_mem_nil h
    · rename_i hc
      exact ih (List.not_mem_cons_of_ne_of_not_mem (Ne.symm hc) hline) h

/-- The lines of a text tell what its pieces tell: the piece behind the last line feed may be no line, but then it is blank. -/
theorem events_linesFrom (line s : List Char) :
    ((Text.linesFrom line s).map Trace.judge).filterMap Trace.Verdict.event? =
      ((Text.piecesFrom line s).map Trace.judge).filterMap Trace.Verdict.event? := by
  induction s generalizing line with
  | nil => cases line <;> rfl
  | cons c rest ih =>
    rw [Text.linesFrom, Text.piecesFrom]
    split
    · rw [List.map_cons, List.map_cons, List.filterMap_cons, List.filterMap_cons, ih, judge_closeLine]
    · exact ih (c :: line)

end ReaderAux

open ReaderAux

/-- Line by line, a stream tells what its text tells as one chunk. -/
theorem flatMap_events_streamLines {bytes : List UInt8} {text : String} (h : Host.textOf? bytes = some text) :
    (Host.streamLines bytes).flatMap Trace.events = Trace.events text := by
  have hreadable : Host.readableText bytes = text := by rw [Host.readableText, h]
  have hlines : ∀ lines : List (List Char), (∀ line ∈ lines, '\n' ∉ line) →
      (lines.map String.ofList).flatMap Trace.events = (lines.map Trace.judge).filterMap Trace.Verdict.event? := by
    intro lines hall
    induction lines with
    | nil => rfl
    | cons line rest ih =>
      obtain ⟨hline, hrest⟩ := List.forall_mem_cons.1 hall
      have hchars : '\n' ∉ (String.ofList line).toList := by rwa [String.toList_ofList]
      rw [List.map_cons, List.flatMap_cons, ih hrest, Trace.events, Trace.verdicts_of_not_mem hchars, String.toList_ofList,
        ← List.filterMap_append]
      rfl
  rw [Host.streamLines, hreadable, Text.lines,
    hlines _ fun line hline => not_mem_of_mem_linesFrom List.not_mem_nil hline]
  exact events_linesFrom [] text.toList

namespace Console

/-- Whether an incident is the arrival of a diagnostic. -/
def Incident.isDiagnostic : Incident → Bool
  | received (.diagnostic _) => true
  | _ => false

variable {source : SnapshotSource} {c : Console} {log : List Incident}

/-- Diagnostics may as well be left out. -/
theorem through_filter_diagnostics (source : SnapshotSource) (c : Console) (log : List Incident) :
    c.through source (log.filter (!·.isDiagnostic)) = c.through source log := by
  induction log generalizing c with
  | nil => rfl
  | cons i log ih =>
    cases hi : i.isDiagnostic with
    | false =>
      rw [List.filter_cons_of_pos (by rw [hi]; rfl), through_cons, through_cons]
      exact ih _
    | true =>
      have hmeet : c.meet source i = c := by
        unfold Incident.isDiagnostic at hi
        split at hi
        · rfl
        · cases hi
      rw [List.filter_cons_of_neg (by rw [hi]; exact Bool.false_ne_true), through_cons, hmeet]
      exact ih c

/-- Once the interpreter has said that it has ended, it has gone. -/
theorem over_of_received {code : Option Int} (h : .exited code ∈ log.filterMap Incident.message?) :
    (c.through source log).Over := by
  obtain ⟨i, hi, hmessage⟩ := List.mem_filterMap.1 h
  obtain rfl : i = .received (.exited code) := by
    cases i with
    | received m => rw [Option.some.inj hmessage]
    | _ => cases hmessage
  obtain ⟨before, later, rfl⟩ := List.append_of_mem hi
  rw [through_append, through_cons]
  exact ((over_of_exit source (c := c.through source before) rfl).through source later).1

/-- The steps that an incident comes to are those of its message, unless an interpreter that still counts as running is lost. -/
theorem output_acts_of_message {i : Incident} (h : ¬(i = .foundClosed ∧ c.session.isRunning = true)) :
    (c.acts i).flatMap Player.Act.output = i.message?.toList.flatMap Message.steps := by
  rw [EndingAux.output_acts]
  cases i with
  | received m => cases m <;> simp [Incident.line?, exit?, Incident.message?, Message.steps]
  | foundClosed =>
    have hr : c.session.isRunning = false := Bool.eq_false_iff.2 fun hr => h ⟨rfl, hr⟩
    rw [exit?, hr]
    rfl
  | framed width height => rfl
  | ticked pipe now => rfl
  | pressed pipe now key => rfl

/-- While the interpreter is not lost, the steps of a log are those of the messages received. -/
theorem output_history (h : ¬c.Lost source log) :
    (c.history source log).flatMap Player.Act.output = (log.filterMap Incident.message?).flatMap Message.steps := by
  induction log generalizing c with
  | nil => rfl
  | cons i log ih =>
    rw [lost_cons, not_or] at h
    rw [history, List.flatMap_append, ih h.2, output_acts_of_message h.1, ← List.flatMap_append, List.filterMap_cons]
    cases i.message? <;> rfl

/-- A channel that is found closed only after the interpreter has said that it has ended loses none. -/
theorem not_lost_of_received (code : Option Int)
    (h : ∀ before after, log = before ++ .foundClosed :: after → .exited code ∈ before.filterMap Incident.message?) :
    ¬c.Lost source log := by
  rintro ⟨before, after, heq, hr⟩
  have hover : (c.through source before).Over := over_of_received (h before after heq)
  rw [Session.isRunning, hover.session] at hr
  cases hr

/-- Diagnostics come to no step. -/
theorem flatMap_steps_own (messages : List Message) :
    (Reader.output.own messages).flatMap Message.steps = messages.flatMap Message.steps := by
  induction messages with
  | nil => rfl
  | cons m rest ih =>
    rw [Reader.own, List.filter_cons, ← Reader.own]
    cases m with
    | diagnostic line => exact ih
    | trace line => simp only [Message.reader, decide_true, if_true, List.flatMap_cons, ih]
    | exited code => simp only [Message.reader, decide_true, if_true, List.flatMap_cons, ih]

/-- The messages of the trace come to the steps of the trace as one chunk, and the notice. -/
theorem steps_toSend {output errors : List UInt8} {text : String} {status : Option Int}
    (htext : Host.textOf? output = some text) :
    ((Readers.ofTranscript (.ofStreams output errors status)).toSend .output).flatMap Message.steps =
      (Trace.events text).flatMap Event.steps ++ [.notify (Player.exitNotice status)] := by
  rw [(Readers.toSend_ofTranscript _).1, List.flatMap_append, List.flatMap_map, ← flatMap_events_streamLines htext,
    List.flatMap_assoc]
  rfl

/-- The readers of a process neither lose nor reorder the trace, in four parts, for all that the process prints (its trace being
UTF-8) and whatever its diagnostics, however the turns of the readers fall, and in whatever turns of the console their messages
arrive.
1. At every moment, what has been received from each reader is the beginning of what it sends, in order. A run that goes through
   all its rounds, while both readers let go of the channel, receives everything.
2. Once the messages of the trace have been received, at that moment and at every later one, the steps that have ever been put
   into the backlog are those of the trace taken in as one chunk, in order, and behind them one notice of the end.
3. The diagnostics may as well be left out, wherever they fall.
4. Whenever the channel is found closed, everything has been received, and finding it closed changes nothing. -/
theorem readers_keep_trace (source : SnapshotSource) (session : Session) (tickMs : Nat) (now : Int)
    (output errors : List UInt8) (text : String) (htext : Host.textOf? output = some text) (status : Option Int)
    (turns : List Reader) (rounds : List Round)
    (harrivals : rounds.flatMap (·.arrivals) =
      (Readers.ofTranscript (.ofStreams output errors status)).arrivals turns) :
    let readers := Readers.ofTranscript (.ofStreams output errors status)
    let c := initial .initial session tickMs now
    let log := c.log source .empty rounds
    ((∀ before, before <+: log → ∀ who, who.own (before.filterMap Incident.message?) <+: readers.toSend who) ∧
      ((readers.after turns).isDone = true → (c.loop source .empty rounds).1.length = rounds.length →
        ∀ who, who.own (log.filterMap Incident.message?) = readers.toSend who)) ∧
    (∀ before, before <+: log →
      Reader.output.own (before.filterMap Incident.message?) = readers.toSend .output →
      c.enqueued source before =
        (Trace.events text).flatMap Event.steps ++ [.notify (Player.exitNotice status)]) ∧
    (∀ before, before <+: log → c.through source (before.filter (!·.isDiagnostic)) = c.through source before) ∧
    (∀ before after, log = before ++ .foundClosed :: after →
      (∀ who, who.own (before.filterMap Incident.message?) = readers.toSend who) ∧
        (c.through source before).meet source .foundClosed = c.through source before) := by
  intro readers c log
  obtain ⟨sent, closing, hsent, hkept, hclosing⟩ := Readers.arrivals_eq (Readers.sorted_ofTranscript _) turns
  have hclosing' : closing = [] ∨ closing = [.closed] := hclosing.imp_right And.left
  have hwaiting : ((rounds.flatMap (·.arrivals)).foldl Channel.take .empty).waiting = sent := by
    rw [harrivals, hsent]
    exact Channel.waiting_of_sent hclosing'
  have hall : (readers.after turns).isDone = true → ∀ who, who.own sent = readers.toSend who := by
    intro hdone who
    have hwho := hkept who
    rwa [Readers.toSend_of_isDone hdone, List.append_nil] at hwho
  have hexited : ∀ messages, Reader.output.own messages = readers.toSend .output → .exited status ∈ messages := by
    intro messages heq
    have hmem : Message.exited status ∈ Reader.output.own messages := by
      rw [heq]
      exact List.mem_append_right _ (List.mem_singleton.2 rfl)
    exact (List.mem_filter.1 hmem).1
  have hfound : ∀ before after, log = before ++ .foundClosed :: after →
      ∀ who, who.own (before.filterMap Incident.message?) = readers.toSend who := by
    intro before after heq who
    obtain ⟨early, hearly, hclosed, hmessages⟩ := messages_of_foundClosed source c .empty rounds heq
    rw [harrivals, hsent] at hearly
    obtain ⟨rfl, hsent'⟩ := Channel.waiting_of_isClosed hclosing' hearly hclosed
    rw [hmessages, hsent']
    exact hall (hclosing.resolve_left nofun).2 who
  refine ⟨⟨?_, ?_⟩, ?_, fun before _ => through_filter_diagnostics source c before, ?_⟩
  · intro before hbefore who
    have hsent : before.filterMap Incident.message? <+: sent := by
      refine (hbefore.filterMap _).trans ?_
      rw [← hwaiting]
      exact messages_log source c .empty rounds
    exact (hsent.filter _).trans ⟨_, hkept who⟩
  · intro hdone hlength who
    rw [messages_log_of_length source c rfl rounds hlength, hwaiting]
    exact hall hdone who
  · intro before hbefore hreceived
    have hnot : ¬c.Lost source before := by
      refine not_lost_of_received status fun first rest heq => hexited _ ?_
      obtain ⟨tail, htail⟩ := hbefore
      refine hfound first (rest ++ tail) ?_ .output
      rw [← htail, heq, List.append_assoc, List.cons_append]
    rw [enqueued_eq, output_history hnot, ← flatMap_steps_own, hreceived, steps_toSend htext]
    rfl
  · intro before after heq
    refine ⟨hfound before after heq, ?_⟩
    have hover : (c.through source before).Over := over_of_received (hexited _ (hfound before after heq .output))
    rw [meet, lose, Session.isRunning, hover.session]
    rfl

/-- A trace with a carriage return in it and no line feed at its end, diagnostics before it and behind the end, and three turns of the
console: one notice behind the steps of the trace. -/
theorem readers_keep_trace_late_diagnostic :
    let source : SnapshotSource := fun _ => .error (.unreadable "state.json" .notFound)
    let output : List UInt8 := [100, 101, 99, 111, 100, 101, 32, 65, 13, 10, 120]
    let errors : List UInt8 := [104, 109, 10, 104, 109]
    let turns : List Reader := [.errors, .output, .output, .output, .output, .errors, .errors]
    let round (arrivals : List Arrival) := Round.steady (.ok ()) ⟨arrivals, 80, 24, 0, .right⟩
    let rounds := [round [.message (.diagnostic "hm"), .message (.trace "decode A")],
      round [.message (.trace "x"), .message (.exited (some 0))], round [.message (.diagnostic "hm"), .closed]]
    let c := initial .initial ⟨.running, some 0, 1, []⟩ 100 0
    let log := c.log source .empty rounds
    Host.textOf? output = some "decode A\r\nx" ∧
      rounds.flatMap (·.arrivals) =
        (Readers.ofTranscript (.ofStreams output errors (some 0))).arrivals turns ∧
      c.enqueued source log = [.notify "Decoded as A", .notify "Interpreter exited (code 0)"] := by
  intro source output errors turns round rounds c log
  have htext : Host.textOf? output = some "decode A\r\nx" := by decide +kernel
  have harrivals : rounds.flatMap (·.arrivals) =
      (Readers.ofTranscript (.ofStreams output errors (some 0))).arrivals turns := by decide +kernel
  have hreceived : Reader.output.own (log.filterMap Incident.message?) =
      (Readers.ofTranscript (.ofStreams output errors (some 0))).toSend .output := by decide +kernel
  have htold : (Trace.events "decode A\r\nx").flatMap Event.steps ++ [.notify (Player.exitNotice (some 0))] =
      [.notify "Decoded as A", .notify "Interpreter exited (code 0)"] := by decide +kernel
  refine ⟨htext, harrivals, ?_⟩
  exact ((readers_keep_trace source _ 100 0 output errors _ htext (some 0) turns rounds harrivals).2.1 log
    (List.prefix_refl log) hreceived).trans htold

end Console

end TracePlayer
