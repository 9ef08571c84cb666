/-!
# Exit codes of shell commands

A command line is a list of commands that are run one after the other; a command
after two ampersands is passed over if the one before failed, a command after
two bars if it did not.  Only the commands of a shell that do no more than end
with a code are known here.  Any other name is that of a program that is not
there.
-/

namespace Baseline
namespace Shell

/-- When a command is run. -/
inductive Condition
  /-- In any case. -/
  | always
  /-- If the command before it succeeded. -/
  | afterSuccess
  /-- If the command before it failed. -/
  | afterFailure
  deriving DecidableEq, Repr

/-- A command: when it is run, and its words. -/
structure Step where
  /-- When it is run. -/
  condition : Condition
  /-- The name of the command and its arguments. -/
  words : List String
  deriving DecidableEq, Repr

/-- Words with one more in front, unless it is empty. -/
def withWord (word : List Char) (words : List String) : List String :=
  if word.isEmpty then words else String.ofList word :: words

/-- The words of a line, as far as its first command goes, and the steps after
it. -/
def cut : List Char → List Char × List String × List Step
  | [] => ([], [], [])
  | '&' :: '&' :: rest => next .afterSuccess (cut rest)
  | '|' :: '|' :: rest => next .afterFailure (cut rest)
  | char :: rest =>
      if char = ';' ∨ char = '\n' then next .always (cut rest)
      else if char = ' ' ∨ char = '\t' then
        let (word, words, steps) := cut rest
        ([], withWord word words, steps)
      else
        let (word, words, steps) := cut rest
        (char :: word, words, steps)
where
  /-- What was cut off becomes a step of its own. -/
  next (condition : Condition) : List Char × List String × List Step →
      List Char × List String × List Step
    | (word, words, steps) => ([], [], ⟨condition, withWord word words⟩ :: steps)

/-- The commands of a line. -/
def steps (line : String) : List Step :=
  let (word, words, later) := cut line.toList
  ⟨.always, withWord word words⟩ :: later

/-- The code of a shell that was ended by a signal. -/
def signalled : Int := -1

/-- What a command ends with, after one that ended with `last`: its code, or as an
error the code that the whole shell ends with. -/
def command (last : Nat) : List String → Except Int Nat
  | [] => .ok last
  | "true" :: _ | ":" :: _ => .ok 0
  | "false" :: _ => .ok 1
  | ["exit"] => .error last
  | "exit" :: code :: _ =>
      match code.toNat? with
      | some code => .error (code % 256)
      | none => .error 2
  | "kill" :: words => if words.getLast? = some "$$" then .error signalled else .ok 1
  | _ => .ok 127

/-- A step is run after a command that ended with `last`. -/
def applies (last : Nat) : Condition → Bool
  | .always => true
  | .afterSuccess => last = 0
  | .afterFailure => last ≠ 0

/-- Take a step, if it is to be run. -/
def step (last : Nat) (step : Step) : Except Int Nat :=
  if applies last step.condition then command last step.words else .ok last

/-- The exit code of a shell that runs the line. -/
def exitCode (line : String) : Int :=
  match (steps line).foldlM step 0 with
  | .ok code => code
  | .error code => code

end Shell
end Baseline
