import TracePlayer.Host.Shell.Process

/-!
# Redirections

Descriptors of a shell are led to files, to the text of documents or to where other descriptors lead, one after the other. What is
not possible is reported, and then nothing is run.
-/

namespace TracePlayer.Host.Shell

namespace Runner

variable (run : Runner)

/-- A redirection whose word has been replaced. -/
structure Lead where
  descriptor : Nat
  arrow : Arrow
  target : Octets

/-- Replaces the words of redirections. A copy must be of one descriptor, or a dash. -/
def leadsOf (redirections : List Redirection) : Act (List Lead) :=
  redirections.mapM fun (.lead descriptor arrow word) => do
    match arrow with
    | .document number =>
      let text := (((← get).documents.find? (fun d => d.1 == number)).map Prod.snd).getD []
      return ⟨descriptor, arrow, ← expandText run.capture false text⟩
    | .copy =>
      let target ← expandText run.capture false word
      match target with
      | [c] => if !c.isDigit && c != '-' then Act.fail "Syntax error: Bad fd number".toList
      | _ => Act.fail "Syntax error: Bad fd number".toList
      return ⟨descriptor, arrow, target⟩
    | _ => return ⟨descriptor, arrow, ← expandText run.capture false word⟩

/-- Why a file cannot be opened. -/
def openFault (missing : String) (fault : Fault) : Octets :=
  (if fault = .notFound ∨ fault = .notDirectory then missing else fault.reason).toList

/-- Whether there is a file at a path that can be written. -/
def isFull (t : Tree) (path : Octets) : Bool :=
  match t.find path with
  | .ok (.file _) => true
  | _ => false

/-- Leads one descriptor elsewhere, or tells why that is not possible. -/
def follow (lead : Lead) (fs : Descriptors) : Act (Except Octets Descriptors) := do
  let s ← get
  let opened (access : Access) (clears : Bool) : Act (Except Octets Descriptors) := do
    match s.world.openAt fs lead.target access clears with
    | .ok (file, world) =>
      set { s with world := world }
      return .ok (fs.lead lead.descriptor file)
    | .error fault =>
      let (action, missing) := if access.writes then ("create", "Directory nonexistent") else ("open", "No such file")
      return .error (s!"cannot {action} ".toList ++ lead.target ++ ": ".toList ++ openFault missing fault)
  match lead.arrow with
  | .read => opened World.reading false
  | .write insists =>
    if !insists && s.has 'C' && isFull s.world.tree lead.target then
      return .error ("cannot create ".toList ++ lead.target ++ ": File exists".toList)
    else opened ⟨false, true, false⟩ true
  | .append => opened ⟨false, true, true⟩ false
  | .readWrite => opened ⟨true, true, false⟩ false
  | .copy =>
    match lead.target with
    | ['-'] => return .ok (fs.close lead.descriptor)
    | target =>
      match (target.head?.map fun c => c.toNat - '0'.toNat).bind fs.get? with
      | some file => return .ok (fs.lead lead.descriptor file)
      | none => return .error (target ++ ": Bad file descriptor".toList)
  | .document _ =>
    let (reader, _, _, world) := s.world.addPipe lead.target
    set { s with world := world }
    return .ok (fs.lead lead.descriptor reader)

/-- Leads descriptors elsewhere, one after the other. What is not possible is reported. -/
def followAll : List Lead → Descriptors → Act (Option Descriptors)
  | [], fs => return some fs
  | lead :: rest, fs => do
    match ← follow lead fs with
    | .ok fs => followAll rest fs
    | .error message =>
      Act.report message
      return none

/-- Runs something with redirections. If they are not possible, nothing is run. -/
def redirected (redirections : List Redirection) (failed act : Act Unit) : Act Unit := do
  let leads ← run.leadsOf redirections
  match ← followAll leads (← get).descriptors with
  | none =>
    Act.finish Act.faultStatus
    failed
  | some fs => Act.withDescriptors (leads.map Lead.descriptor) fs act

end Runner

end TracePlayer.Host.Shell
