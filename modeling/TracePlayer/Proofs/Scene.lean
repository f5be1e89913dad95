import TracePlayer.Display.Play
import TracePlayer.Proofs.Grid
import TracePlayer.Snapshot

/-!
# What a stage shows of the machine

A `Scene` is the machine as it stands on a stage: the texts of its registers and flags, and its memory. Highlights, the
commentary and the count of steps are no part of it. `Scene.step` is what a step does to a scene, and `scene_play` says that
it is all that playing the step does to it: how a stage is highlighted never changes what the machine on it comes to.
-/

namespace TracePlayer

/-- The texts of the registers and flags, and the memory. -/
@[ext]
structure Scene where
  register : Register → String
  flag : Flag → String
  memory : List UInt8

namespace Scene

/-- Gives a register a text. -/
def set (sc : Scene) (r : Register) (value : String) : Scene :=
  { sc with register := fun r' => if r' = r then value else sc.register r' }

/-- Raises a flag and lowers the other two. -/
def raise (sc : Scene) (raised : Flag) : Scene :=
  { sc with flag := fun f => if f = raised then "1" else "0" }

/-- The cells from an address on, as far as the memory reaches, in three digits each with commas between them. -/
def cells (sc : Scene) (address size : Nat) : String :=
  ",".intercalate (((sc.memory.drop address).take size).map Machine.cellText)

/-- Writes bytes from an address on. -/
def write (sc : Scene) (address : Nat) (bytes : List UInt8) : Scene :=
  { sc with memory := overwrite sc.memory address bytes }

/-- Gives the memory a new size and makes it zero. -/
def resize (sc : Scene) (kilobytes : Nat) : Scene :=
  { sc with memory := List.replicate (min kilobytes Machine.greatestKilobytes * 1024) 0 }

/-- Takes over a snapshot. The registers of the fetch cycle other than the program counter are not in it. -/
def present (sc : Scene) (snapshot : Snapshot) : Scene where
  register r :=
    if r = .pc then toString snapshot.pc else ((snapshot.general.get? r).map toString).getD (sc.register r)
  flag f := toString (snapshot.flags.get f)
  memory := overwrite sc.memory 0 snapshot.memory

/-- What a step does to the machine. -/
def step (sc : Scene) : Step → Scene
  | .notify _ => sc
  | .set r value => sc.set r value
  | .move source target value => sc.set target (value.getD (sc.register source))
  | .read address size => sc.set .mdr (sc.cells address size)
  | .write address bytes => sc.write address bytes
  | .raise f => sc.raise f
  | .emphasize _ _ => sc

end Scene

namespace Stage

/-- The scene on a stage. -/
def scene (s : Stage) : Scene := ⟨s.register, s.flag, s.memory.toList⟩

/-! ## The operations of a stage, seen on its scene -/

@[simp]
theorem scene_beginStep (s : Stage) : s.beginStep.scene = s.scene := rfl

@[simp]
theorem scene_notify (s : Stage) (line : String) : (s.notify line).scene = s.scene := by
  unfold notify
  generalize keepLast commentaryLimit (s.commentary ++ [line]) = kept
  rfl

@[simp]
theorem scene_emphasize (s : Stage) (e : Element) (how : Emphasis) : (s.emphasize e how).scene = s.scene := by
  cases how <;> rfl

@[simp]
theorem scene_flashCells (s : Stage) (address size : Nat) : (s.flashCells address size).scene = s.scene := rfl

@[simp]
theorem scene_setText_register (s : Stage) (r : Register) (value : String) :
    (s.setText (.register r) value).scene = s.scene.set r value := by
  ext x
  · simp [scene, Scene.set, register]
  · simp [scene, Scene.set, flag]
  · rfl

/-- Raising a flag sets all three, so what they showed before is of no account. -/
@[simp]
theorem scene_raise (s : Stage) (f : Flag) : (s.raise f).scene = s.scene.raise f := by
  ext x
  · simp [scene, Scene.raise, register, raise, Flag.all]
  · cases x <;> simp [scene, Scene.raise, flag, raise, Flag.all]
  · rfl

theorem cellsText_slice (s : Stage) (address size : Nat) :
    cellsText (s.slice address size) = s.scene.cells address size := by
  rw [slice_eq]
  rfl

@[simp]
theorem scene_readToMdr (s : Stage) (address size : Nat) :
    (s.readToMdr address size).scene = s.scene.set .mdr (s.scene.cells address size) := by
  rw [readToMdr, scene_setText_register, scene_emphasize, scene_flashCells, cellsText_slice]

@[simp]
theorem scene_writeCells (s : Stage) (address : Nat) (bytes : List UInt8) :
    (s.writeCells address bytes).scene = s.scene.write address bytes := by
  ext1
  · rfl
  · rfl
  · exact toList_writeBytes s.memory address bytes

@[simp]
theorem scene_resize (s : Stage) (kilobytes : Nat) : (s.resize kilobytes).scene = s.scene.resize kilobytes := by
  ext1
  · rfl
  · rfl
  · simp [scene, Scene.resize, resize, blankMemory]

@[simp]
theorem scene_load (s : Stage) (bytes : List UInt8) : (s.load bytes).scene = s.scene.write 0 bytes := by
  ext1
  · rfl
  · rfl
  · exact toList_writeBytes s.memory 0 bytes

@[simp]
theorem text_load (s : Stage) (bytes : List UInt8) (label : Label) : (s.load bytes).text label = s.text label := rfl

@[simp]
theorem scene_present (s : Stage) (snapshot : Snapshot) :
    (s.present snapshot).scene = s.scene.present snapshot := by
  ext1
  · funext r
    cases r <;> simp [scene, Scene.present, register, present, Register.general, Flag.all, GeneralValues.get?]
  · funext f
    cases f <;> simp [scene, Scene.present, flag, present, Register.general, Flag.all, GeneralValues.get?]
  · have hmemory : (s.present snapshot).memory = writeBytes s.memory 0 snapshot.memory := by
      simp [present, Register.general, Flag.all, GeneralValues.get?, load, setText]
    rw [scene, hmemory]
    exact toList_writeBytes s.memory 0 snapshot.memory

/-- The scene of a fresh stage. -/
theorem scene_initial : initial.scene = ⟨fun _ => "0", fun _ => "0", List.replicate 1024 0⟩ := by
  ext1
  · funext r
    simp [scene, initial, register, text]
  · funext f
    simp [scene, initial, flag, text]
  · have hsize : min firstKilobytes Machine.greatestKilobytes * 1024 = 1024 := by decide
    rw [scene, initial, blankMemory, hsize, Array.toList_replicate]

/-! ## Steps -/

/-- Playing a step does to the scene what the step says, whatever else is on the stage. -/
theorem scene_play (s : Stage) (step : Step) : (s.play step).scene = s.scene.step step := by
  cases step with
  | notify text => exact scene_notify s.beginStep text
  | set r value => exact scene_setText_register s.beginStep r value
  | move source target value =>
    rw [play, change, scene_setText_register, scene_emphasize, scene_emphasize, scene_beginStep]
    rfl
  | read address size => exact scene_readToMdr s.beginStep address size
  | write address bytes => exact scene_writeCells s.beginStep address bytes
  | raise f => exact scene_raise s.beginStep f
  | emphasize r on => exact scene_emphasize s.beginStep (.register r) _

/-- Playing steps one after the other, on the scene. -/
theorem scene_foldl_play (s : Stage) (steps : List Step) :
    (steps.foldl play s).scene = steps.foldl Scene.step s.scene := by
  induction steps generalizing s with
  | nil => rfl
  | cons step rest ih => rw [List.foldl_cons, List.foldl_cons, ih, scene_play]

end Stage

end TracePlayer
