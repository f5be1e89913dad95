import TracePlayer.Proofs.Acts

/-!
# Notices of an end

When the interpreter ends, a notice joins the backlog. A notice is known by its text: it begins with the word "Interpreter",
and no text of a storyboard does, whatever names and values a trace brings into it (`tellsExit_of_mem_steps`). So the notices
can be told apart from all other steps, and be counted.
-/

namespace TracePlayer

/-- Whether a step tells how the interpreter ended. -/
def Step.tellsExit : Step → Bool
  | .notify text => "Interpreter ".toList.isPrefixOf text.toList
  | _ => false

/-- The notice of an end tells it. -/
theorem tellsExit_exitNotice (code : Option Int) : (Step.notify (Player.exitNotice code)).tellsExit = true := by
  cases code with
  | none =>
    change "Interpreter ".toList.isPrefixOf "Interpreter was terminated".toList = true
    simp
  | some n =>
    change "Interpreter ".toList.isPrefixOf (s!"Interpreter exited (code {n})").toList = true
    simp [toString]

namespace NoticeAux

open Storyboard

/-- None of the steps tells an end, if there are any. -/
def Quiet (result : Except StoryFault (List Step)) : Prop :=
  ∀ steps, result = .ok steps → ∀ s ∈ steps, s.tellsExit = false

/-- A text that begins with another letter tells no end. -/
theorem tellsExit_of_head {text : String} (letter : Char) (hne : 'I' ≠ letter) (h : text.toList.head? = some letter) :
    (Step.notify text).tellsExit = false := by
  obtain ⟨rest, hrest⟩ := List.head?_eq_some_iff.1 h
  rw [Step.tellsExit, hrest]
  simp [List.isPrefixOf, hne]

/-- Steps that begin with a text of another letter, and of which no other is a text, tell no end. -/
theorem quiet_cons {text : String} {rest : List Step} (letter : Char) (hne : 'I' ≠ letter)
    (h : text.toList.head? = some letter) (hrest : ∀ s ∈ rest, s.tellsExit = false) :
    Quiet (.ok (.notify text :: rest)) := by
  refine yields_ok fun s hs => ?_
  rcases List.mem_cons.1 hs with rfl | hs
  · exact tellsExit_of_head letter hne h
  · exact hrest s hs

theorem quiet_fetch (f : Fetch) : Quiet (ofFetch f) := by
  refine yields_bind _ fun _ => yields_ok ?_
  simp [Step.tellsExit, List.isPrefixOf]

theorem quiet_jump (kind address : String) (performed : Bool) : Quiet (ofJump kind address performed) := by
  unfold ofJump
  cases jumpCondition? kind with
  | none => exact yields_error _
  | some condition =>
    cases performed with
    | true =>
      have htext : (Step.notify s!"Jump{condition} to {address} - done").tellsExit = false :=
        tellsExit_of_head 'J' (by decide) (by simp [toString])
      refine yields_ok fun s hs => ?_
      rcases List.mem_cons.1 hs with rfl | hs
      · rfl
      · rw [List.mem_singleton.1 hs]
        exact htext
    | false => exact quiet_cons 'J' (by decide) (by simp [toString]) (List.forall_mem_nil _)

theorem quiet_moveToRegister (target : Register) (size : Nat) (sourceKind : String) (source content : Datum) :
    Quiet (ofMoveToRegister target size sourceKind source content) := by
  unfold ofMoveToRegister
  split
  · refine yields_bind _ fun r => quiet_cons 'R' (by decide) (by simp [toString]) ?_
    simp [holding, Step.tellsExit]
  · refine yields_bind _ fun address => yields_bind _ fun _ => quiet_cons 'R' (by decide) (by simp [toString]) ?_
    simp [holding, Step.tellsExit]
  · refine quiet_cons 'G' (by decide) (by simp [toString]) ?_
    simp [Step.tellsExit]
  · exact yields_error _

theorem quiet_moveToMemory (target size : Nat) (sourceKind : String) (source content : Datum) :
    Quiet (ofMoveToMemory target size sourceKind source content) := by
  unfold ofMoveToMemory
  split
  · refine yields_bind _ fun r => yields_bind _ fun _ => yields_bind _ fun bytes => yields_bind _ fun _ => ?_
    refine quiet_cons 'R' (by decide) (by simp [toString]) ?_
    simp [holding, Step.tellsExit]
  · refine yields_bind _ fun value => yields_bind _ fun _ => quiet_cons 'G' (by decide) (by simp [toString]) ?_
    simp [Step.tellsExit]
  · exact yields_error _

theorem quiet_operation (operation : Operation) : Quiet (ofOperation operation) := by
  cases operation with
  | compare left right result =>
    rw [ofOperation, ofCompare]
    cases Flag.ofCode? result with
    | none => exact yields_error _
    | some flag => exact quiet_cons 'C' (by decide) (by simp [toString]) (by simp [Step.tellsExit])
  | jump kind address performed => exact quiet_jump kind address performed
  | moveToRegister target size sourceKind source content =>
    exact quiet_moveToRegister target size sourceKind source content
  | moveToMemory target size sourceKind source content => exact quiet_moveToMemory target size sourceKind source content
  | addressToRegister target address =>
    exact quiet_cons 'L' (by decide) (by simp [toString]) (by simp [Step.tellsExit])
  | addressToMemory target address =>
    refine yields_bind _ fun value => yields_bind _ fun _ => quiet_cons 'L' (by decide) (by simp [toString]) ?_
    simp [Step.tellsExit]
  | arithmetic operator type targetKind target operand1 operand2 result => exact yields_ok (List.forall_mem_nil _)

theorem quiet_storyboard (e : Event) : Quiet e.storyboard := by
  cases e with
  | fetched f => exact quiet_fetch f
  | decoded name => exact quiet_cons 'D' (by decide) (by simp [toString]) (List.forall_mem_nil _)
  | executed operation => exact quiet_operation operation
  | globalFound g => exact quiet_cons 'F' (by decide) (by simp [toString]) (List.forall_mem_nil _)
  | memorySize kilobytes => exact yields_ok (List.forall_mem_nil _)
  | memoryDump bytes => exact yields_ok (List.forall_mem_nil _)
  | snapshotReady => exact yields_ok (List.forall_mem_nil _)

end NoticeAux

/-- No step that an event comes to tells an end. -/
theorem tellsExit_of_mem_steps {e : Event} {s : Step} (h : s ∈ e.steps) : s.tellsExit = false := by
  have hquiet : Storyboard.Yields (fun steps => ∀ s ∈ steps, s.tellsExit = false) e.storyboard :=
    NoticeAux.quiet_storyboard e
  exact hquiet.steps (List.forall_mem_nil _) s h

end TracePlayer
