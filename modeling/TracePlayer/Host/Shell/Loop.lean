import TracePlayer.Host.Shell.Process

/-!
# Loops

A loop runs its body once for each round. Its body may leave it, or go on with the next round, and so may what is run inside of its
body; the number of rounds is bounded.
-/

namespace TracePlayer.Host.Shell

namespace Runner

variable (run : Runner)

/-- How a part of a loop ended. -/
inductive Turn where
  | done
  | left
  | again
  deriving DecidableEq, Repr

/-- Runs a part of a loop. -/
def inLoop (act : Act Unit) : Act Turn := do
  try
    act
    return .done
  catch e =>
    match e with
    | .broken (n + 2) => throw (.broken (n + 1))
    | .broken _ => return .left
    | .continued (n + 2) => throw (.continued (n + 1))
    | .continued _ => return .again
    | e => throw e

/-- Runs a loop, which is counted as long as it runs. -/
def asLoop (act : Act Unit) : Act Unit := do
  modify fun s => { s with loops := s.loops + 1 }
  let restore : Act Unit := modify fun s => { s with loops := s.loops - 1 }
  try
    act
    restore
  catch e =>
    restore
    throw e

/-- Runs a body as long as a test has the wanted answer; the status is that of the body when it was run last. -/
def rounds (mode : Mode) (wanted : Bool) (test body : Script) : Nat → Nat → Act Unit
  | 0, _ => throw (.signalled unreadSignal)
  | n + 1, status => do
    match ← inLoop (run ⟨true, false⟩ test) with
    | .left => Act.finish status
    | .again => rounds mode wanted test body n status
    | .done =>
      if ((← get).status == 0) == wanted then
        match ← inLoop (run ⟨mode.tested, false⟩ body) with
        | .left => return ()
        | _ => rounds mode wanted test body n (← get).status
      else Act.finish status

/-- Runs a body for each of several values. -/
def eachOf (mode : Mode) (name : Octets) (body : Script) : List Octets → Act Unit
  | [] => return ()
  | value :: rest => do
    Act.assign name value
    match ← inLoop (run ⟨mode.tested, false⟩ body) with
    | .left => return ()
    | _ => eachOf mode name body rest

/-- The most rounds of a loop. -/
def mostRounds : Nat := 100000

end Runner

end TracePlayer.Host.Shell
