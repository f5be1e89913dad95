import TracePlayer.Playback.Storyboard
import TracePlayer.Proofs.Scene

/-!
# The direct effect of an operation

What an operation does to the machine at once, said without any steps. `Operation.effect?` is nothing when the operation
cannot be shown: it names a flag, a kind of jump or source, or a register that does not exist, it holds data of the wrong form,
or it describes a transfer that is not plausible. The main statement is `Event.storyboard_faithful`: an event has a storyboard
exactly when it has an effect, and playing the storyboard is the effect.
-/

namespace TracePlayer

/-- A transfer of at most 64 bytes whose end still is an address of 64 bits. -/
def Plausible (address size : Nat) : Prop := size ≤ 64 ∧ address + size < wordBound

instance (address size : Nat) : Decidable (Plausible address size) := inferInstanceAs (Decidable (_ ∧ _))

/-- Goes on only with a plausible transfer. -/
def plausible? (address size : Nat) : Option Unit := if Plausible address size then some () else none

/-- The datum as an address: an integer that is not negative. -/
def Datum.address? (d : Datum) : Option Nat :=
  d.integer?.bind fun n => if 0 ≤ n then some n.toNat else none

/-- What is written for the contents of a register: a list of bytes as it is given, an integer in `size` bytes. -/
def Datum.contents? (d : Datum) (size : Nat) : Option (List UInt8) :=
  d.bytes?.orElse fun _ => d.integer?.map (Machine.integerBytes · size)

/-- The kinds of jumps that there are. -/
def jumpKinds : List String := ["always", "e", "ne", "lt", "le", "gt", "ge"]

namespace Operation

/-- The effect of a move into a register. What it shows of a read from memory stays behind in MAR and MDR. -/
def moveToRegister? (target : Register) (size : Nat) (sourceKind : String) (source content : Datum) :
    Option (Scene → Scene) :=
  match sourceKind with
  | "reg" => do
    let _ ← Register.ofName? source.text
    return (·.set target content.text)
  | "maddr" => do
    let address ← source.address?
    plausible? address size
    return fun sc => ((sc.set .mar (toString address)).set .mdr (sc.cells address size)).set target content.text
  | "immediate" => return (·.set target content.text)
  | _ => none

/-- The effect of a move into memory. Both the size that is named and the number of bytes that are written must be
plausible. -/
def moveToMemory? (target size : Nat) (sourceKind : String) (source content : Datum) : Option (Scene → Scene) :=
  match sourceKind with
  | "reg" => do
    let _ ← Register.ofName? source.text
    plausible? target size
    let bytes ← content.contents? size
    plausible? target bytes.length
    return (·.write target bytes)
  | "immediate" => do
    let value ← source.integer?
    plausible? target size
    return (·.write target (Machine.integerBytes value size))
  | _ => none

/-- The effect of an operation, if it can be shown. Arithmetic has none of its own. -/
def effect? : Operation → Option (Scene → Scene)
  | .compare _ _ result => do
    let flag ← Flag.ofCode? result
    return (·.raise flag)
  | .jump kind address performed =>
    if kind ∈ jumpKinds then some fun sc => if performed then sc.set .pc address else sc else none
  | .moveToRegister target size sourceKind source content => moveToRegister? target size sourceKind source content
  | .moveToMemory target size sourceKind source content => moveToMemory? target size sourceKind source content
  | .addressToRegister target address => return (·.set target address.text)
  | .addressToMemory target address => do
    let value ← address.integer?
    plausible? target 4
    return (·.write target (Machine.integerBytes value 4))
  | .arithmetic .. => return id

end Operation

/-- The effect of a fetch: the program counter, and its instruction in MDR and CIR. -/
def Fetch.effect? (f : Fetch) : Option (Scene → Scene) := do
  plausible? f.pc f.length
  return fun sc =>
    (((sc.set .pc (toString f.pc)).set .mar (toString f.pc)).set .mdr (sc.cells f.pc f.length)).set .cir
      (sc.cells f.pc f.length)

/-- The effect of an event that has a storyboard. The events that load a state have none. -/
def Event.effect? : Event → Option (Scene → Scene)
  | .fetched f => f.effect?
  | .executed operation => operation.effect?
  | _ => return id

/-! ## Storyboards and effects -/

/-- A storyboard shows an effect: either there is neither, or playing the one is the other. -/
def Shows : Except StoryFault (List Step) → Option (Scene → Scene) → Prop
  | .ok steps, some effect => ∀ sc, steps.foldl Scene.step sc = effect sc
  | .error _, none => True
  | _, _ => False

namespace Storyboard

theorem checkTransfer_eq (address size : Nat) (what : String) :
    checkTransfer address size what =
      if Plausible address size then .ok () else .error (.unusable what s!"{size} bytes at {address}") := rfl

/-- A transfer is checked where the effect asks that it be plausible. -/
theorem shows_checkTransfer {address size : Nat} {what : String} {story : Unit → Except StoryFault (List Step)}
    {effect : Unit → Option (Scene → Scene)} (h : Plausible address size → Shows (story ()) (effect ())) :
    Shows (checkTransfer address size what >>= story) (plausible? address size >>= effect) := by
  rw [checkTransfer_eq]
  by_cases hp : Plausible address size
  · rw [if_pos hp, plausible?, if_pos hp]
    exact h hp
  · rw [if_neg hp, plausible?, if_neg hp]
    trivial

/-- Data is looked up where the effect looks it up. -/
theorem shows_bind {α : Type} {found : Except StoryFault α} {wanted : Option α} (hfound : found.toOption = wanted)
    {story : α → Except StoryFault (List Step)} {effect : α → Option (Scene → Scene)}
    (h : ∀ a, Shows (story a) (effect a)) : Shows (found >>= story) (wanted >>= effect) := by
  subst hfound
  cases found with
  | ok a => exact h a
  | error fault => trivial

theorem toOption_sourceRegister (source : Datum) :
    (sourceRegister source).toOption = Register.ofName? source.text := by
  unfold sourceRegister
  cases Register.ofName? source.text <;> rfl

theorem toOption_integerOf (d : Datum) (what : String) : (integerOf d what).toOption = d.integer? := by
  unfold integerOf
  cases d.integer? <;> rfl

theorem toOption_addressOf (d : Datum) (what : String) : (addressOf d what).toOption = d.address? := by
  unfold addressOf Datum.address?
  cases d.integer? with
  | none => rfl
  | some n =>
    by_cases h : 0 ≤ n
    · simp only [h, if_true, Option.bind_some]
      rfl
    · simp only [h, if_false, Option.bind_some]
      rfl

theorem toOption_contentBytes (content : Datum) (size : Nat) :
    (contentBytes content size).toOption = content.contents? size := by
  unfold contentBytes Datum.contents?
  cases content.bytes? with
  | some bytes => rfl
  | none => cases content.integer? <;> rfl

theorem jumpCondition?_isSome (kind : String) : (jumpCondition? kind).isSome = true ↔ kind ∈ jumpKinds := by
  unfold jumpCondition? jumpKinds
  split <;> simp_all

/-- Holding a register in bold while steps are shown does nothing to the machine. -/
theorem foldl_holding (sc : Scene) (r : Register) (steps : List Step) :
    (holding r steps).foldl Scene.step sc = steps.foldl Scene.step sc := by
  rw [holding, List.foldl_cons, List.foldl_append]
  rfl

theorem shows_fetch (f : Fetch) : Shows (ofFetch f) f.effect? := by
  refine shows_checkTransfer fun _ sc => ?_
  rfl

theorem shows_compare (left right result : String) :
    Shows (ofCompare left right result) (Operation.compare left right result).effect? := by
  rw [ofCompare, Operation.effect?]
  cases Flag.ofCode? result with
  | none => trivial
  | some flag => exact fun sc => rfl

theorem shows_jump (kind address : String) (performed : Bool) :
    Shows (ofJump kind address performed) (Operation.jump kind address performed).effect? := by
  have hkind := jumpCondition?_isSome kind
  rw [ofJump, Operation.effect?]
  cases hc : jumpCondition? kind with
  | none =>
    rw [hc] at hkind
    have hno : kind ∉ jumpKinds := fun h => absurd (hkind.2 h) (by simp)
    rw [if_neg hno]
    trivial
  | some condition =>
    rw [hc] at hkind
    have hyes : kind ∈ jumpKinds := hkind.1 rfl
    rw [if_pos hyes]
    cases performed <;> exact fun sc => rfl

theorem shows_moveToRegister (target : Register) (size : Nat) (sourceKind : String) (source content : Datum) :
    Shows (ofMoveToRegister target size sourceKind source content)
      (Operation.moveToRegister? target size sourceKind source content) := by
  unfold ofMoveToRegister Operation.moveToRegister?
  split
  · refine shows_bind (toOption_sourceRegister source) fun r sc => ?_
    rw [List.foldl_cons, foldl_holding]
    rfl
  · refine shows_bind (toOption_addressOf source _) fun address => shows_checkTransfer fun _ sc => ?_
    rw [List.foldl_cons, List.foldl_cons, List.foldl_cons, foldl_holding]
    rfl
  · exact fun sc => rfl
  · simp only [Shows]

theorem shows_moveToMemory (target size : Nat) (sourceKind : String) (source content : Datum) :
    Shows (ofMoveToMemory target size sourceKind source content)
      (Operation.moveToMemory? target size sourceKind source content) := by
  unfold ofMoveToMemory Operation.moveToMemory?
  split
  · refine shows_bind (toOption_sourceRegister source) fun r => shows_checkTransfer fun _ => ?_
    refine shows_bind (toOption_contentBytes content size) fun bytes => shows_checkTransfer fun _ sc => ?_
    rw [List.foldl_cons, foldl_holding]
    rfl
  · refine shows_bind (toOption_integerOf source _) fun value => shows_checkTransfer fun _ sc => ?_
    rfl
  · simp only [Shows]

theorem shows_addressToMemory (target : Nat) (address : Datum) :
    Shows (ofAddressToMemory target address) (Operation.addressToMemory target address).effect? :=
  shows_bind (toOption_integerOf address _) fun _ => shows_checkTransfer fun _ _ => rfl

theorem shows_operation (operation : Operation) : Shows (ofOperation operation) operation.effect? := by
  cases operation with
  | compare left right result => exact shows_compare left right result
  | jump kind address performed => exact shows_jump kind address performed
  | moveToRegister target size sourceKind source content =>
    exact shows_moveToRegister target size sourceKind source content
  | moveToMemory target size sourceKind source content =>
    exact shows_moveToMemory target size sourceKind source content
  | addressToRegister target address => exact fun sc => rfl
  | addressToMemory target address => exact shows_addressToMemory target address
  | arithmetic => exact fun sc => rfl

end Storyboard

/-- An event has a storyboard exactly when it has an effect, and playing the storyboard is the effect. -/
theorem Event.storyboard_faithful (event : Event) : Shows event.storyboard event.effect? := by
  cases event with
  | fetched f => exact Storyboard.shows_fetch f
  | executed operation => exact Storyboard.shows_operation operation
  | decoded name => exact fun sc => rfl
  | globalFound g => exact fun sc => rfl
  | memorySize kilobytes => exact fun sc => rfl
  | memoryDump bytes => exact fun sc => rfl
  | snapshotReady => exact fun sc => rfl

end TracePlayer
