import Scaffold.Error

/-!
# Prompts

Prompts are answered from a queue.  An empty queue, and an answer of another kind than the prompt,
count as the user's wish to stop.
-/

namespace Scaffold

inductive Answer where
  | text (s : String)
  | confirm (yes : Bool)
  /-- The value, not the label, of a choice. -/
  | select (value : String)
  /-- Whatever the prompt offers. -/
  | default
deriving DecidableEq, Repr

namespace Answer

/-- What the answer says to a prompt for text. -/
def textOr (default : Option String) : Answer → Except RunError String
  | .text s => .ok s
  | .default => .ok (default.getD "")
  | _ => .error (.service .cancelled)

/-- What the answer says to a question with yes or no. -/
def boolOr (default : Bool) : Answer → Except RunError Bool
  | .confirm yes => .ok yes
  | .default => .ok default
  | _ => .error (.service .cancelled)

/-- The value that the answer chooses.  What is offered is the default, or else the first choice. -/
def choiceOr (choices : List (String × String)) (default : Option String) :
    Answer → Except RunError String
  | .select value =>
      if choices.any fun choice => choice.1 == value then .ok value
      else .error (.service .cancelled)
  | .default =>
      match default <|> choices.head?.map Prod.fst with
      | some value => .ok value
      | none => .error (.service .cancelled)
  | _ => .error (.service .cancelled)

end Answer

/-- Where answers come from. -/
inductive Prompter where
  | script (answers : List Answer)
  /-- There is no terminal to ask on. -/
  | absent
deriving DecidableEq, Repr

namespace Prompter

/-- The next answer, and the prompter without it. -/
def next : Prompter → Except RunError Answer × Prompter
  | .script [] => (.error (.service .cancelled), .script [])
  | .script (answer :: rest) => (.ok answer, .script rest)
  | .absent => (.error (.internal "terminal prompt failed: not a terminal"), .absent)

/-- How many answers are left. -/
def remaining : Prompter → Nat
  | .script answers => answers.length
  | .absent => 0

end Prompter
end Scaffold
