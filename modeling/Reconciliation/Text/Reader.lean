/-!
# Reading characters

A reader takes characters off the front of a text, or refuses it.

* `Reader.take` and `Reader.skip` pass over characters with a property, `Reader.word` over given ones.
* `Reader.items` reads a list with commas between its items.
* `Reader.steps` bounds every loop that takes a character at each step.
-/

namespace Reconciliation.Text

abbrev Reader := StateT (List Char) Option

namespace Reader

variable {α : Type}

/-- The characters that are left. -/
def rest : Reader (List Char) := get

/-- The character that comes next. -/
def peek : Reader (Option Char) := do pure (← rest).head?

/-- Passes over one character. -/
def eat : Reader Unit := modify List.tail

/-- The next character. -/
def any : Reader Char := fun s =>
  match s with
  | [] => none
  | c :: s => some (c, s)

/-- Passes over the given characters. -/
def word (cs : List Char) : Reader Unit := fun s => if cs.isPrefixOf s then some ((), s.drop cs.length) else none

/-- Takes characters as long as they have a property. -/
def take (p : Char → Bool) : Reader (List Char) := fun s => some (s.takeWhile p, s.dropWhile p)

def skip (p : Char → Bool) : Reader Unit := fun s => some ((), s.dropWhile p)

/-- Whether the text starts with the given characters. -/
def startsWith (cs : List Char) : Reader Bool := do pure (cs.isPrefixOf (← rest))

/-- One more than the number of characters that are left. -/
def steps : Reader Nat := do pure ((← rest).length + 1)

/-- The items of a list that are left, up to `close`. There are commas between them, and perhaps one behind them; `gap`
passes over what stands around all that. -/
def items (gap : Reader Unit) (close : Char) (item : Reader α) : (fuel : Nat) → Reader (List α)
  | 0 => failure
  | fuel + 1 => do
    gap
    if (← peek) = some close then do
      eat
      pure []
    else
      let a ← item
      gap
      match ← any with
      | ',' => do pure (a :: (← items gap close item fuel))
      | c => if c = close then pure [a] else failure

/-- Reads a whole text. -/
def run (r : Reader α) (s : List Char) : Option α :=
  match StateT.run r s with
  | some (a, []) => some a
  | _ => none

end Reader
end Reconciliation.Text
