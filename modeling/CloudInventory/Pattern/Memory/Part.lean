/-!
The memory of an automaton while it is built. A part of an automaton is what it adds to the memory
of the parts before it; parts are put together as the expressions are of which they are made. A
state is known by the number of states before it.
-/
namespace CloudInventory.Pattern

/-- What an automaton takes so far. -/
structure Usage where
  states : Nat := 0
  /-- The bytes of the states beyond what every state takes. -/
  extra : Nat := 0
  /-- The last part ends in a fork, so that what comes after it is one more branch. -/
  forked : Bool := false
  deriving DecidableEq, Repr

/-- The bytes of one state. -/
def stateMemory : Nat := 32

/-- The bytes of one branch of a fork. -/
def branchMemory : Nat := 4

/-- The bytes of one of several ranges of bytes by which a state leads on. -/
def rangeMemory : Nat := 8

/-- The memory that an automaton may take. -/
def maxMemory : Nat := 10 * 1024 * 1024

def Usage.memory (u : Usage) : Nat :=
  u.states * stateMemory + u.extra

/-- A part of an automaton: the usage after it, if that is within the bound. -/
abbrev Part := Usage → Option Usage

namespace Part

/-- So many states, which together take so much beyond what every state takes. -/
def add (states extra : Nat) : Part := fun u =>
  let u : Usage := { states := u.states + states, extra := u.extra + extra }
  if u.memory ≤ maxMemory then some u else none

/-- One state. -/
def state : Part := add 1 0

/-- A state that leads to so many others. -/
def fork (branches : Nat) : Part := add 1 (branches * branchMemory)

/-- One more branch of a fork. -/
def branch : Part := add 0 branchMemory

/-- Leads on from the end of a part. -/
def onward (part : Part) : Part :=
  part >=> fun u => if u.forked then branch u else some u

/-- Leaves a fork at the end. -/
def leaveForked : Part := fun u =>
  some { u with forked := true }

/-- One part so many times, each leading on to the next. -/
def times (part : Part) : Nat → Part
  | 0, u => some u
  | n + 1, u =>
    match part.onward u with
    | some u => times part n u
    | none => none

/-- Parts one after another. -/
def sequence : List Part → Part
  | [] => state
  | [last] => last
  | part :: parts => part.onward >=> sequence parts

/-- Parts that are branches of a fork and come together in one state. -/
def alternation : List Part → Part
  | first :: second :: parts =>
    (first.onward >=> branch) >=> (second.onward >=> branch) >=> add 2 0 >=>
      parts.foldr (fun part rest => (part.onward >=> branch) >=> rest) some
  | parts => sequence parts

/-- A part that is entered and left through a state each. -/
def enclosed (part : Part) : Part :=
  state >=> part.onward >=> state

/-- Exactly so many times. -/
def exactly (part : Part) : Nat → Part
  | 0 => state
  | n + 1 => times part n >=> part

/-- Once or not at all. -/
def optional (part : Part) : Part :=
  fork 2 >=> part.onward >=> state

/-- At least so many times. What may match the empty text is left and entered by a fork each when it
may also be missing. -/
def atLeast (part : Part) (consumes : Bool) : Nat → Part
  | 0 =>
    if consumes then fork 1 >=> part.onward >=> leaveForked
    else part.onward >=> fork 1 >=> fork 2 >=> fork 1
  | n + 1 => times part (n + 1) >=> fork 1 >=> leaveForked

/-- At least `least` times and at most `more` times more. -/
def atMost (part : Part) (least more : Nat) : Part :=
  (part.exactly least).onward >=> state >=> times (fork 2 >=> part) more

/-- At least `least` times and, if there is a bound, at most `most` times. -/
def repeated (part : Part) (consumes : Bool) (least : Nat) : Option Nat → Part
  | none => part.atLeast consumes least
  | some most =>
    if most = least then part.exactly least
    else if (least, most) = (0, 1) then part.optional
    else part.atMost least (most - least)

end Part

end CloudInventory.Pattern
