/-!
# Shutdown — one signal for all

A shutdown is signalled at most once. The signal is a flag, and a message
to everybody who subscribed before it was sent; who comes later looks at
the flag. Raising the flag and sending the message are two steps, taken
one after the other by `trigger`.
-/

namespace ApiGateway

/-- The flag, and for every subscriber whether the message is waiting. -/
structure Shutdown where
  triggered : Bool
  waiting : List Bool
  deriving DecidableEq, Repr

namespace Shutdown

def quiet : Shutdown := ⟨false, []⟩

/-- The flag is raised; the answer is whether it was down before. -/
def raise (s : Shutdown) : Bool × Shutdown := (!s.triggered, { s with triggered := true })

/-- The message goes to every subscriber. -/
def send (s : Shutdown) : Shutdown := { s with waiting := s.waiting.map fun _ => true }

/-- The signal is given, unless it was given before. -/
def trigger (s : Shutdown) : Shutdown :=
  match s.raise with
  | (true, raised) => raised.send
  | (false, raised) => raised

/-- A new subscriber, by number; what was sent before does not reach
it. -/
def subscribe (s : Shutdown) : Nat × Shutdown :=
  (s.waiting.length, { s with waiting := s.waiting ++ [false] })

/-- What a subscriber finds. -/
inductive Received where
  | signal
  | nothing
  deriving DecidableEq, Repr

/-- A subscriber takes the message, if it is waiting. -/
def receive (s : Shutdown) (subscriber : Nat) : Received × Shutdown :=
  if s.waiting.getD subscriber false then
    (.signal, { s with waiting := s.waiting.set subscriber false })
  else (.nothing, s)

/-- Whether somebody who begins to wait for the signal now goes on at
once: a new subscriber has no message, so the flag decides. -/
def isSignalled (s : Shutdown) : Bool :=
  let (subscriber, s') := s.subscribe
  s'.triggered || (s'.receive subscriber).1 = .signal

end Shutdown

end ApiGateway
