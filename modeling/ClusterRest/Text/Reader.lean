/-! Reading a text from its front. -/

namespace ClusterRest.Text

/-- Takes from the front of a text, or fails. -/
abbrev Reader := StateT (List Char) Option

namespace Reader

def peek : Reader (Option Char) := do return (← get).head?

/-- Takes a character if it is next. -/
def take (character : Char) : Reader Bool := do
  match ← get with
  | next :: rest =>
    if next = character then
      set rest
      return true
    else return false
  | [] => return false

def expect (character : Char) : Reader Unit := do
  if !(← take character) then failure

def takeAll (accepts : Char → Bool) : Reader (List Char) := do
  let text ← get
  let taken := text.takeWhile accepts
  set (text.drop taken.length)
  return taken

end Reader

end ClusterRest.Text
