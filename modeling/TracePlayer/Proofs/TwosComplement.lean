import Mathlib.Data.Nat.Digits.Defs
import TracePlayer.Proofs.Footprint
import TracePlayer.Proofs.Writing

/-!
# Integers in memory

An integer is stored in two's complement: of whatever width the place is, the bytes there are the integer modulo 256 to the power
of the width, least significant first, and read as a signed number they are the integer itself, if the width has room for it. One
modular law covers widths that cut the integer off, widths beyond 64 bits, where its sign goes on, and no width at all. The main
statement is `stores_twos_complement`, which follows an integer from the line that tells it to the cells.
-/

namespace TracePlayer

namespace Machine

/-- The number that bytes are, least significant first. -/
def unsigned (bytes : List UInt8) : Nat := Nat.ofDigits 256 (bytes.map UInt8.toNat)

/-- The number that bytes are in two's complement: from half of the range on they stand for negative numbers. -/
def signed (bytes : List UInt8) : Int :=
  if 2 * unsigned bytes < 256 ^ bytes.length then unsigned bytes else unsigned bytes - 256 ^ bytes.length

@[simp]
theorem unsigned_nil : unsigned [] = 0 := rfl

@[simp]
theorem unsigned_cons (b : UInt8) (bytes : List UInt8) : unsigned (b :: bytes) = b.toNat + 256 * unsigned bytes := by
  rw [unsigned, List.map_cons, Nat.ofDigits_cons]
  rfl

/-- The last byte of a number is its rest, and the other bytes are those of what is left. -/
theorem emod_256_mul (v m : Int) : v % (256 * m) = v % 256 + 256 * (v / 256 % m) := by
  rw [Int.emod_def v (256 * m), ← Int.ediv_ediv_of_nonneg (by decide), Int.emod_def (v / 256) m, Int.mul_assoc]
  omega

/-- The bytes of an integer are the integer modulo what their width can tell. -/
theorem unsigned_integerBytes (v : Int) (w : Nat) : (unsigned (integerBytes v w) : Int) = v % 256 ^ w := by
  induction w generalizing v with
  | zero => rw [pow_zero, Int.emod_one]; rfl
  | succ w ih =>
    have hbyte : ((UInt8.ofNat (v % 256).toNat).toNat : Int) = v % 256 := by
      rw [UInt8.toNat_ofNat']
      omega
    rw [integerBytes, unsigned_cons, Nat.cast_add, Nat.cast_mul, ih, hbyte, pow_succ', emod_256_mul]
    rfl

/-- Half of what a width can tell. -/
theorem two_mul_two_pow {w : Nat} (h : 0 < w) : (2 : Int) * 2 ^ (8 * w - 1) = 256 ^ w := by
  rw [← pow_succ', show 8 * w - 1 + 1 = 8 * w by omega, pow_mul]
  rfl

/-- An integer comes back from its bytes, if they have room for it and for its sign. -/
theorem signed_integerBytes {v : Int} {w : Nat} (hw : 0 < w) (hlow : -2 ^ (8 * w - 1) ≤ v) (hhigh : v < 2 ^ (8 * w - 1)) :
    signed (integerBytes v w) = v := by
  have hhalf := two_mul_two_pow hw
  have hlaw := unsigned_integerBytes v w
  have hcast : ((256 ^ w : Nat) : Int) = 256 ^ w := by push_cast; rfl
  rw [signed, length_integerBytes]
  generalize (256 : Int) ^ w = range at *
  generalize 256 ^ w = range' at *
  rcases lt_or_ge v 0 with hneg | hpos
  · have hmod : v % range = v + range := by
      rw [← Int.add_emod_right, Int.emod_eq_of_lt] <;> omega
    rw [if_neg (by omega)]
    omega
  · have hmod : v % range = v := Int.emod_eq_of_lt hpos (by omega)
    rw [if_pos (by omega)]
    omega

end Machine

/-! ## Integers that events store -/

/-- The events that store an integer: an immediate value that is moved into memory, and an effective address. With the event stand
the address and the number of bytes of the place, and the datum that holds the integer. -/
inductive Event.Stores : Event → Nat → Nat → Datum → Prop
  | immediate (target size : Nat) (source content : Datum) :
      Stores (.executed (.moveToMemory target size "immediate" source content)) target size source
  | effectiveAddress (target : Nat) (address : Datum) : Stores (.executed (.addressToMemory target address)) target 4 address

/-- One stage comes of another by storing an integer in so many cells, least significant byte first. -/
structure Stage.Stored (s : Stage) (address size : Nat) (v : Int) (t : Stage) : Prop where
  length : (t.slice address size).length = size
  unsigned : (Machine.unsigned (t.slice address size) : Int) = v % 256 ^ size
  signed : 0 < size → -2 ^ (8 * size - 1) ≤ v → v < 2 ^ (8 * size - 1) → Machine.signed (t.slice address size) = v
  others : ∀ a, ¬(address ≤ a ∧ a < address + size) → t.readByte a = s.readByte a

namespace TwosComplementAux

open Machine

variable {e : Event} {address size : Nat} {d : Datum} {steps : List Step}

/-- The effect of an event that stores an integer is to write its bytes. -/
theorem effect_of_stores (h : e.Stores address size d) :
    e.effect? = d.integer?.bind fun v => (plausible? address size).bind fun _ => some (·.write address (integerBytes v size)) := by
  cases h <;> rfl

/-- An event that stores an integer, and has a storyboard, holds one, and its storyboard writes the bytes of it. -/
theorem foldl_step_of_stores (h : e.Stores address size d) (hsteps : e.storyboard = .ok steps) :
    ∃ v, d.integer? = some v ∧ ∀ sc, steps.foldl Scene.step sc = sc.write address (integerBytes v size) := by
  have hshows := e.storyboard_faithful
  rw [hsteps, effect_of_stores h, plausible?] at hshows
  cases hv : d.integer? with
  | none => rw [hv] at hshows; exact hshows.elim
  | some v =>
    rw [hv, Option.bind_some] at hshows
    split at hshows
    · exact ⟨v, rfl, hshows⟩
    · exact hshows.elim

/-- Bytes of an integer that have been written into the grid are the integer stored. -/
theorem stored_of_scene {s t : Stage} {v : Int} (hinside : address + size ≤ s.memory.size)
    (h : t.scene = s.scene.write address (integerBytes v size)) : s.Stored address size v t := by
  have hmemory : t.memory.toList = overwrite s.memory.toList address (integerBytes v size) := congrArg Scene.memory h
  have hslice : t.slice address size = integerBytes v size := by
    have hlength := length_integerBytes v size
    have hback := @take_drop_overwrite s.memory.toList (integerBytes v size) address
      (by rw [hlength, Array.length_toList]; exact hinside)
    rwa [Stage.slice_eq, hmemory, hlength] at *
  refine ⟨?length, ?unsigned, ?signed, ?others⟩
  case length => rw [hslice, length_integerBytes]
  case unsigned => rw [hslice, unsigned_integerBytes]
  case signed =>
    intro hsize hlow hhigh
    rw [hslice, signed_integerBytes hsize hlow hhigh]
  case others =>
    intro a ha
    rw [Stage.readByte, Stage.readByte, ← Array.getElem?_toList, ← Array.getElem?_toList, hmemory]
    exact getElem?_overwrite_of_outside _ _ (by rwa [length_integerBytes])

/-- Playing the storyboard of an event that stores an integer does so. -/
theorem stored_foldl_play (h : e.Stores address size d) (hsteps : e.storyboard = .ok steps) {s : Stage}
    (hinside : address + size ≤ s.memory.size) :
    ∃ v, d.integer? = some v ∧ s.Stored address size v (steps.foldl Stage.play s) := by
  obtain ⟨v, hv, hplay⟩ := foldl_step_of_stores h hsteps
  refine ⟨v, hv, stored_of_scene hinside ?_⟩
  rw [Stage.scene_foldl_play, hplay]

/-- A line that tells an event with a storyboard adds it to the backlog, and the stage waits for it. -/
theorem ingest_line_of_stores (source : SnapshotSource) (p : Player) {line : List Char} (hline : '\n' ∉ line)
    (hjudge : Trace.judge line = .decoded e) (h : e.Stores address size d) (hsteps : e.storyboard = .ok steps) :
    (p.ingest source (String.ofList line)).backlog.steps = p.backlog.steps ++ steps ∧
      (p.ingest source (String.ofList line)).stage = p.stage := by
  have hfeed : '\n' ∉ (String.ofList line).toList := by rwa [String.toList_ofList]
  rw [Player.ingest_of_not_mem source p hfeed, String.toList_ofList, hjudge, Player.heed_decoded]
  have happly : ∀ q : Player, q.apply source e = q.enqueue e := by
    cases h <;> exact fun q => rfl
  rw [happly, Player.enqueue_stage, Player.enqueue_backlog, Event.steps, hsteps]
  exact ⟨rfl, rfl⟩

end TwosComplementAux

open TwosComplementAux

/-- Integers reach memory as two's complement, in three parts.
1. Whatever the integer and the width, its bytes are as many as the width says, and they are the integer modulo 256 to the power
   of the width.
2. An event that stores an integer, and has a storyboard, holds one; and where the place lies inside the grid, playing the
   storyboard stores it there: the cells of the place are the integer modulo what they can tell, they are the integer itself when
   they are read as a signed number and have room for it, and every other cell is unchanged.
3. So it is with a line that tells such an event: once it has come in and as many ticks have passed as steps waited before it and
   as it has itself, the integer is stored on what the stage had come to before its steps. -/
theorem Player.stores_twos_complement :
    (∀ (v : Int) (w : Nat), (Machine.integerBytes v w).length = w ∧
      (Machine.unsigned (Machine.integerBytes v w) : Int) = v % 256 ^ w) ∧
    (∀ (e : Event) (address size : Nat) (d : Datum) (steps : List Step) (s : Stage), e.Stores address size d →
      e.storyboard = .ok steps → address + size ≤ s.memory.size →
      ∃ v, d.integer? = some v ∧ s.Stored address size v (steps.foldl Stage.play s)) ∧
    (∀ (line : List Char) (e : Event) (address size : Nat) (d : Datum) (steps : List Step) (source : SnapshotSource) (p : Player)
      (sinks : List Sink), '\n' ∉ line → Trace.judge line = .decoded e → e.Stores address size d → e.storyboard = .ok steps →
      address + size ≤ p.stage.memory.size → sinks.length = p.backlog.steps.length + steps.length →
      ∃ v, d.integer? = some v ∧ (p.backlog.steps.foldl Stage.play p.stage).Stored address size v
        (p.run source (.ingest (String.ofList line) :: sinks.map .tick)).stage) := by
  refine ⟨fun v w => ?bytes, fun e address size d steps s h hsteps hinside => ?event, ?line⟩
  case bytes => exact ⟨Machine.length_integerBytes v w, Machine.unsigned_integerBytes v w⟩
  case event => exact stored_foldl_play h hsteps hinside
  case line =>
    intro line e address size d steps source p sinks hline hjudge h hsteps hinside hsinks
    obtain ⟨hbacklog, hstage⟩ := ingest_line_of_stores source p hline hjudge h hsteps
    have hrun := stage_run_ticks source (by rw [hbacklog, List.append_nil]) (hsinks.trans List.length_append.symm)
    rw [run_cons, after, hrun, hstage, List.foldl_append]
    exact stored_foldl_play h hsteps (by rw [Stage.size_foldl_play]; exact hinside)

/-- A negative number, which the line gives as a string with blanks around it, is stored in two bytes. -/
theorem Player.stores_twos_complement_negative :
    Stage.initial.Stored 20 2 (-513)
      (initial.run (fun _ => .error (.unreadable "" .notFound))
        [.ingest "exec_func mov_mem 20 2 immediate \" -513 \" null", .tick fun _ => .ok (), .tick fun _ => .ok ()]).stage := by
  have hwritable : (Event.executed (.moveToMemory 20 2 "immediate" ⟨.text " -513 "⟩ ⟨.null⟩)).IsWritable :=
    ⟨by decide, by decide, by decide, .text _, .null⟩
  have hline : (Event.executed (.moveToMemory 20 2 "immediate" ⟨.text " -513 "⟩ ⟨.null⟩)).line =
      "exec_func mov_mem 20 2 immediate \" -513 \" null".toList := by decide +kernel
  have hinteger : Datum.integer? ⟨.text " -513 "⟩ = some (-513) := by decide +kernel
  obtain ⟨v, hv, hstored⟩ := Player.stores_twos_complement.2.2 _ _ 20 2 _ _ (fun _ => .error (.unreadable "" .notFound)) initial
    [fun _ => .ok (), fun _ => .ok ()] (Trace.not_mem_line hwritable) (Trace.judge_of_event (Trace.decodeLine_line hwritable))
    (.immediate 20 2 _ _) rfl (by decide +kernel) rfl
  rw [hline, String.ofList_toList] at hstored
  obtain rfl := Option.some.inj (hinteger.symm.trans hv)
  exact hstored

end TracePlayer
