import TracePlayer.Proofs.Acts
import TracePlayer.Proofs.Effect

/-!
# Transfers

A step that reads or writes memory is a transfer of an interval of addresses. Every transfer of a storyboard is plausible: it is no
longer than a transfer may be, and its end still is an address. The other way round, an event that states a transfer
(`Event.States`) is refused for nothing but a transfer that is not plausible. `transfers_bounded` says both, so the bound that
storyboards keep is exact.
-/

namespace TracePlayer

/-- The addresses that a step is about: the first of them, and how many they are. -/
def Step.touched : Step → Nat × Nat
  | .read address size => (address, size)
  | .write address bytes => (address, bytes.length)
  | _ => (0, 0)

/-- The transfers that an event with usable data states: where each starts and how many bytes it moves. A register that is moved
into memory states two, for the size that is named need not be the number of the bytes that are given. -/
inductive Event.States : Event → List (Nat × Nat) → Prop
  | fetch (f : Fetch) : States (.fetched f) [(f.pc, f.length)]
  | fromMemory {target : Register} {size address : Nat} {source content : Datum} (h : source.integer? = some (address : Int)) :
      States (.executed (.moveToRegister target size "maddr" source content)) [(address, size)]
  | immediate {target size : Nat} {value : Int} {source content : Datum} (h : source.integer? = some value) :
      States (.executed (.moveToMemory target size "immediate" source content)) [(target, size)]
  | fromRegister {target size : Nat} {r : Register} {bytes : List UInt8} {source content : Datum}
      (hr : Register.ofName? source.text = some r) (hbytes : content.contents? size = some bytes) :
      States (.executed (.moveToMemory target size "reg" source content)) [(target, size), (target, bytes.length)]
  | effectiveAddress {target : Nat} {value : Int} {address : Datum} (h : address.integer? = some value) :
      States (.executed (.addressToMemory target address)) [(target, 4)]

namespace Storyboard

variable {address size : Nat} {what : String}

/-! ## What is shown is plausible -/

/-- Every step is about a plausible transfer, if there are any steps. -/
def Moderate (result : Except StoryFault (List Step)) : Prop :=
  Yields (fun steps => ∀ s ∈ steps, Plausible s.touched.1 s.touched.2) result

/-- Steps behind the check of a transfer may rely on it. -/
theorem moderate_checkTransfer {story : Unit → Except StoryFault (List Step)}
    (h : Plausible address size → Moderate (story ())) : Moderate (checkTransfer address size what >>= story) := by
  rw [checkTransfer_eq]
  split
  · rename_i hfits
    exact h hfits
  · exact yields_error _

/-- A step that is no transfer is as good as one of nothing. -/
theorem plausible_none : Plausible 0 0 := by decide

theorem moderate_of_untouched {steps : List Step} (h : ∀ s ∈ steps, s.touched = (0, 0)) : Moderate (.ok steps) := by
  refine yields_ok fun s hs => ?_
  rw [h s hs]
  exact plausible_none

theorem moderate_fetch (f : Fetch) : Moderate (ofFetch f) := by
  refine moderate_checkTransfer fun hfits => yields_ok ?_
  simpa [Step.touched, plausible_none] using hfits

theorem moderate_moveToRegister (target : Register) (size : Nat) (sourceKind : String) (source content : Datum) :
    Moderate (ofMoveToRegister target size sourceKind source content) := by
  unfold ofMoveToRegister
  split
  · exact yields_bind _ fun r => moderate_of_untouched (by simp [holding, Step.touched])
  · refine yields_bind _ fun address => moderate_checkTransfer fun hfits => yields_ok ?_
    simpa [holding, Step.touched, plausible_none] using hfits
  · exact moderate_of_untouched (by simp [Step.touched])
  · exact yields_error _

/-- The bytes of a register are checked once more: they may be more than the size that the move names. -/
theorem moderate_moveToMemory (target size : Nat) (sourceKind : String) (source content : Datum) :
    Moderate (ofMoveToMemory target size sourceKind source content) := by
  unfold ofMoveToMemory
  split
  · refine yields_bind _ fun r => yields_bind _ fun _ => yields_bind _ fun bytes => ?_
    refine moderate_checkTransfer fun hfits => yields_ok ?_
    simpa [holding, Step.touched, plausible_none] using hfits
  · refine yields_bind _ fun value => moderate_checkTransfer fun hfits => yields_ok ?_
    simpa [Step.touched, plausible_none] using hfits
  · exact yields_error _

theorem moderate_operation (operation : Operation) : Moderate (ofOperation operation) := by
  cases operation with
  | compare left right result =>
    rw [ofOperation, ofCompare]
    cases Flag.ofCode? result with
    | none => exact yields_error _
    | some flag => exact moderate_of_untouched (by simp [Step.touched])
  | jump kind address performed =>
    rw [ofOperation, ofJump]
    cases jumpCondition? kind with
    | none => exact yields_error _
    | some condition => cases performed <;> exact moderate_of_untouched (by simp [Step.touched])
  | moveToRegister target size sourceKind source content =>
    exact moderate_moveToRegister target size sourceKind source content
  | moveToMemory target size sourceKind source content =>
    exact moderate_moveToMemory target size sourceKind source content
  | addressToRegister target address => exact moderate_of_untouched (by simp [Step.touched])
  | addressToMemory target address =>
    refine yields_bind _ fun value => moderate_checkTransfer fun hfits => yields_ok ?_
    simpa [Step.touched, plausible_none] using hfits
  | arithmetic operator type targetKind target operand1 operand2 result =>
    exact moderate_of_untouched (List.forall_mem_nil _)

theorem moderate_storyboard (e : Event) : Moderate e.storyboard := by
  cases e with
  | fetched f => exact moderate_fetch f
  | decoded name => exact moderate_of_untouched (by simp [Step.touched])
  | executed operation => exact moderate_operation operation
  | globalFound g => exact moderate_of_untouched (by simp [Step.touched])
  | memorySize kilobytes => exact moderate_of_untouched (List.forall_mem_nil _)
  | memoryDump bytes => exact moderate_of_untouched (List.forall_mem_nil _)
  | snapshotReady => exact moderate_of_untouched (List.forall_mem_nil _)

/-! ## What is plausible is shown -/

/-- There are steps. -/
def Succeeds (result : Except StoryFault (List Step)) : Prop := ∃ steps, result = .ok steps

theorem succeeds_ok (steps : List Step) : Succeeds (.ok steps) := ⟨steps, rfl⟩

/-- A transfer that is not plausible is refused, and one that is plausible does not stand in the way of the rest. -/
theorem succeeds_checkTransfer_iff {story : Unit → Except StoryFault (List Step)} :
    Succeeds (checkTransfer address size what >>= story) ↔ Plausible address size ∧ Succeeds (story ()) := by
  rw [checkTransfer_eq]
  by_cases hfits : Plausible address size
  · rw [if_pos hfits]
    exact (and_iff_right hfits).symm
  · rw [if_neg hfits]
    exact ⟨nofun, fun h => absurd h.1 hfits⟩

/-- Data that are found do not stand in the way of the rest. -/
theorem succeeds_bind_iff {α : Type} {found : Except StoryFault α} {a : α} (h : found.toOption = some a)
    {story : α → Except StoryFault (List Step)} : Succeeds (found >>= story) ↔ Succeeds (story a) := by
  cases found with
  | ok a' => rw [← Option.some.inj h]; rfl
  | error fault => cases h

end Storyboard

open Storyboard

/-- The steps of an event are about plausible transfers. -/
theorem Event.plausible_touched (e : Event) : ∀ s ∈ e.steps, Plausible s.touched.1 s.touched.2 :=
  (moderate_storyboard e).steps (List.forall_mem_nil _)

/-- An event that states transfers is shown exactly when they are all plausible. -/
theorem Event.States.succeeds_iff {e : Event} {transfers : List (Nat × Nat)} (h : e.States transfers) :
    Succeeds e.storyboard ↔ ∀ t ∈ transfers, Plausible t.1 t.2 := by
  have hchecked : ∀ {address size : Nat} {what : String} {steps : List Step},
      Succeeds (checkTransfer address size what >>= fun _ => pure steps) ↔ Plausible address size :=
    succeeds_checkTransfer_iff.trans (and_iff_left (succeeds_ok _))
  cases h with
  | fetch f =>
    rw [List.forall_mem_singleton]
    exact hchecked
  | @fromMemory target size address source content h =>
    have haddress : (addressOf source "source address").toOption = some address := by
      rw [toOption_addressOf, Datum.address?, h]
      rfl
    rw [List.forall_mem_singleton]
    exact (succeeds_bind_iff haddress).trans hchecked
  | @immediate target size value source content h =>
    have hvalue : (integerOf source "immediate value").toOption = some value := by rw [toOption_integerOf, h]
    rw [List.forall_mem_singleton]
    exact (succeeds_bind_iff hvalue).trans hchecked
  | @fromRegister target size r bytes source content hr hbytes =>
    have hsource : (sourceRegister source).toOption = some r := by rw [toOption_sourceRegister, hr]
    have hcontent : (contentBytes content size).toOption = some bytes := by rw [toOption_contentBytes, hbytes]
    rw [List.forall_mem_cons, List.forall_mem_singleton]
    refine (succeeds_bind_iff hsource).trans (succeeds_checkTransfer_iff.trans (and_congr_right fun _ => ?_))
    exact (succeeds_bind_iff hcontent).trans hchecked
  | @effectiveAddress target value address h =>
    have hvalue : (integerOf address "effective address").toOption = some value := by rw [toOption_integerOf, h]
    rw [List.forall_mem_singleton]
    exact (succeeds_bind_iff hvalue).trans hchecked

/-- The bound on transfers, in two parts.
1. Every read and every write of a storyboard moves at most 64 bytes, and its end is an address of 64 bits. So is the address of
   every cell that it moves: none of them is found by a sum that is too large.
2. An event that states transfers in data that can be used is refused for nothing else: it has a storyboard exactly when each of
   them moves at most 64 bytes and ends at an address of 64 bits. -/
theorem Event.transfers_bounded :
    (∀ (e : Event) (steps : List Step), e.storyboard = .ok steps →
      (∀ address size, Step.read address size ∈ steps →
        Plausible address size ∧ ∀ offset < size, address + offset < wordBound) ∧
      (∀ address bytes, Step.write address bytes ∈ steps →
        Plausible address bytes.length ∧ ∀ offset < bytes.length, address + offset < wordBound)) ∧
    (∀ (e : Event) (transfers : List (Nat × Nat)), e.States transfers →
      ((∃ steps, e.storyboard = .ok steps) ↔ ∀ t ∈ transfers, Plausible t.1 t.2)) := by
  have hcells : ∀ {address size : Nat}, Plausible address size →
      Plausible address size ∧ ∀ offset < size, address + offset < wordBound := by
    intro address size hfits
    refine ⟨hfits, fun offset hoffset => ?_⟩
    exact Nat.lt_trans (Nat.add_lt_add_left hoffset address) hfits.2
  refine ⟨fun e steps hsteps => ⟨fun address size hmem => ?_, fun address bytes hmem => ?_⟩, fun e transfers h => h.succeeds_iff⟩
  · exact hcells (moderate_storyboard e steps hsteps _ hmem)
  · exact hcells (moderate_storyboard e steps hsteps _ hmem)

/-- An instruction of two bytes may end at the last address, but not behind it; and 64 bytes may be read, but not one more. -/
theorem Event.transfers_bounded_edge :
    let fetch (pc : Nat) : Event := .fetched ⟨pc, "NOP", "0", ⟨.list []⟩, ⟨.list []⟩⟩
    let load (size : Nat) : Event := .executed (.moveToRegister .eax size "maddr" ⟨.number (.integer 8)⟩ ⟨.null⟩)
    ((∃ steps, (fetch (wordBound - 3)).storyboard = .ok steps) ∧ ¬∃ steps, (fetch (wordBound - 2)).storyboard = .ok steps) ∧
      (∃ steps, (load 64).storyboard = .ok steps) ∧ ¬∃ steps, (load 65).storyboard = .ok steps := by
  intro fetch load
  have haddress : Datum.integer? ⟨.number (.integer 8)⟩ = some ((8 : Nat) : Int) := by decide
  have hfetch := fun pc => Event.transfers_bounded.2 (fetch pc) _ (.fetch _)
  have hload := fun size => Event.transfers_bounded.2 (load size) _ (.fromMemory haddress)
  refine ⟨⟨(hfetch _).2 (by decide), fun h => ?_⟩, (hload _).2 (by decide), fun h => ?_⟩
  · exact absurd ((hfetch _).1 h) (by decide)
  · exact absurd ((hload _).1 h) (by decide)

end TracePlayer
