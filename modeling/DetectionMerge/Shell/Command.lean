import DetectionMerge.Shell.Octets

/-! The commands of shell scripts as they are written, with the words that they
consist of. -/

namespace DetectionMerge.Shell

inductive Parameter
  /-- An argument by its number; number zero is the script. -/
  | argument (n : Nat)
  | count
  /-- All arguments, each on its own or as one text. -/
  | arguments (joined : Bool)
  /-- How the last command ended. -/
  | status
  | options
  | process
  | named (name : Octets)
  deriving DecidableEq, Repr

/-- What is made of a parameter's value with the operand that may follow. -/
inductive Use
  | value
  | length
  /-- The operand stands in for a missing value, or also for an empty one. -/
  | orElse (emptyToo : Bool)
  /-- The same, and the operand becomes the value. -/
  | assign (emptyToo : Bool)
  /-- The same, and the script ends. -/
  | demand (emptyToo : Bool)
  /-- The operand stands for a value that is there. -/
  | ifThere (emptyToo : Bool)
  /-- The operand is a pattern for the beginning that is left out. -/
  | withoutStart (longest : Bool)
  | withoutEnd (longest : Bool)
  deriving DecidableEq, Repr

inductive Direction
  | input | output | append | both
  /-- From or to the stream with the number that follows. -/
  | copy
  /-- From a text that the script contains. -/
  | document
  deriving DecidableEq, Repr

mutual

inductive Piece
  | char (c : Char) (quoted : Bool)
  /-- Quotation marks: the word is there even if it is empty. -/
  | quotes
  | parameter (p : Parameter) (use : Use) (operand : List Piece) (quoted : Bool)
  /-- What a command writes. -/
  | output (c : Command) (quoted : Bool)
  /-- The value of an expression. -/
  | value (expression : List Piece) (quoted : Bool)
  /-- An expansion that makes no sense. -/
  | meaningless

inductive Redirection
  | mk (stream : Nat) (direction : Direction) (target : List Piece)

/-- A command. -/
inductive Command
  | nothing
  /-- A name with arguments, after assignments, in a line of the script. -/
  | simple (line : Nat) (assignments : List (Octets × List Piece)) (words : List (List Piece))
      (redirections : List Redirection)
  | sequence (first second : Command)
  /-- The second command runs if the first succeeds. -/
  | both (first second : Command)
  /-- The second command runs if the first fails. -/
  | either (first second : Command)
  | negation (c : Command)
  /-- The second command reads what the first writes. -/
  | pipe (first second : Command)
  | background (c : Command)
  | conditional (condition consequence alternative : Command)
  /-- Runs as long as the condition succeeds, or as long as it fails. -/
  | loop (onSuccess : Bool) (condition body : Command)
  /-- Runs for each word, or for each argument. -/
  | each (name : Octets) (words : Option (List (List Piece))) (body : Command)
  /-- Runs the first branch with a pattern for the word. -/
  | choice (word : List Piece) (branches : List (List (List Piece) × Command))
  /-- Runs so that no change of the shell's own state remains. -/
  | subshell (c : Command)
  | redirected (line : Nat) (c : Command) (redirections : List Redirection)
  | function (name : Octets) (body : Command)

end

/-- A word as it is written. -/
abbrev Word := List Piece

/-- The text of a word without quotation marks and expansions. -/
def Word.plain? (w : Word) : Option Octets :=
  w.mapM fun piece => match piece with
    | .char c false => some c
    | _ => none

instance : Inhabited Command := ⟨.nothing⟩

end DetectionMerge.Shell
