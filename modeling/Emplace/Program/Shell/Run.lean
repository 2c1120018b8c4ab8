import Emplace.Program.Shell.Command

/-!
# Carrying out scripts

`step` carries out one command, given how the commands inside it are carried out; `run` closes it up to a depth of
commands inside each other.
-/

namespace Emplace.Program.Shell

def turn (s : State) (part : State → State) : State × Bool :=
  let after := part { s with loops := s.loops + 1 }
  let after := { after with loops := s.loops }
  match after.jump with
  | none => (after, true)
  | some (.leave n) => ({ after with jump := if n ≤ 1 then none else some (.leave (n - 1)) }, false)
  | some (.next n) => ({ after with jump := if n ≤ 1 then none else some (.next (n - 1)) }, n ≤ 1)
  | some _ => (after, false)

def brokenPipe : Nat := 13

/-- Carries out a loop as long as its condition comes out as expected, at most `bound` times; `last` is the status of
the turn before. A loop that takes more turns has no end but that of what reads its output. -/
def whileLoop (run : Runner) (condition : Script) (expected : Bool) (body : Script) :
    (bound last : Nat) → State → State
  | 0, _, s => { s with jump := some (.killed brokenPipe) }
  | bound + 1, last, s =>
    match turn s fun s => s.asking (run condition) with
    | (s, false) => s
    | (s, true) =>
      if (s.status == 0) != expected then s.withStatus last
      else
        match turn s (run body) with
        | (s, false) => s
        | (s, true) => whileLoop run condition expected body bound s.status s

def forLoop (run : Runner) (name : String) (body : Script) : List String → State → State
  | [], s => s
  | value :: rest, s =>
    let ready := s.assign name value
    if ready.jump.isSome then { ready with jump := some .exit }
    else
      match turn ready (run body) with
      | (s, false) => s
      | (s, true) => forLoop run name body rest s

def choose (run : Runner) (subject : List Char) : List (List Word × Script) → State → State
  | [], s => s.succeed
  | (patterns, body) :: rest, s =>
    let (s, found) := patterns.foldl
      (fun (s, found) w =>
        if found || s.jump.isSome then (s, found)
        else
          let (s, gs) := expand (capture run) wordDepth .start s w
          (s, (patternOf gs).fits subject))
      (s, false)
    if s.jump.isSome then s
    else if found then
      match body with
      | .empty => s.succeed
      | body => run body s
    else choose run subject rest s

def step (run : Runner) (script : Script) (s : State) : State :=
  if s.jump.isSome || s.isOn 'n' then s
  else
    match script with
    | .empty => s
    | .simple line words redirections =>
      settle run (simple run words redirections { s with line := line }).checked
    | .inOrder first second => run second (run first s)
    | .both first second =>
      let s := s.asking (run first)
      if s.status = 0 then run second s else s
    | .either first second =>
      let s := s.asking (run first)
      if s.status = 0 then s else run second s
    | .negated body =>
      let s := s.asking (run body)
      if s.jump.isSome then s else s.withStatus (if s.status = 0 then 1 else 0)
    | .pipe first second =>
      let (after, bytes) := gather run { s with turnLimit := min s.turnLimit pipedTurns } (alone run (run first))
      let piped := { after with status := s.status, turnLimit := s.turnLimit }.leadToSource 0 ⟨bytes, false⟩
      let after := (alone run (run second) piped).noticeEnds
      settle run { after with streams := s.streams }.checked
    | .subshell body => settle run (alone run (run body) s).noticeEnds.checked
    | .group body => run body s
    | .conditional condition yes no =>
      let s := s.asking (run condition)
      if s.jump.isSome then s
      else if s.status = 0 then run yes s
      else
        match no with
        | .empty => s.succeed
        | no => run no s
    | .loop condition expected body => whileLoop run condition expected body s.turnLimit 0 s
    | .each line name words body =>
      let s := { s with line := line }
      let (s, values) := match words with
        | none => (s, s.positional)
        | some words => fields run s words
      if s.jump.isSome then s else forLoop run name body values s.succeed
    | .choice line subject branches =>
      let (s, text) := wordText run .start { s with line := line } subject
      if s.jump.isSome then s else choose run text.toList branches s
    | .function name body => { s with functions := (name, body) :: s.functions, status := 0 }
    | .redirected body redirections =>
      let after := redirecting run redirections (run body) s
      if after.jump = some .refused then { after with jump := none }.checked else after
    | .background body => settle run (startJob run s body)

def run : (depth : Nat) → Runner
  | 0, _, s => { s with jump := some .exit }
  | depth + 1, script, s => step (run depth) script s

end Emplace.Program.Shell
