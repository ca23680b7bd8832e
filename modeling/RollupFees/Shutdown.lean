import RollupFees.Notice

/-!
# Requests to stop

A request to stop is made through one handle and seen by any number of signals. Once made it
stands. A signal without a handle never fires.

## Main definitions

* `Shutdown` : whether a request has been made, and whether it still can be
* `Shutdown.Signal` : a listener, or one that hears nothing
-/

namespace RollupFees

/-- Whether a request to stop has been made, and whether the handle to make it is still held. -/
structure Shutdown where
  requested : Bool
  held : Bool
deriving DecidableEq, Repr

namespace Shutdown

/-- A handle that has not been used. -/
def channel : Shutdown := ⟨false, true⟩

/-- A listener on the channel, or one that hears nothing. -/
inductive Signal
  | listening
  | never
deriving DecidableEq, Repr

/-- Makes the request, if the handle is held. Only the first one is logged. -/
def request (s : Shutdown) : Shutdown × List Notice :=
  if s.held then
    ({ s with requested := true }, if s.requested then [] else [.info "Shutdown requested"])
  else (s, [])

/-- Gives up the handle, which is no request to stop. -/
def drop (s : Shutdown) : Shutdown := { s with held := false }

/-- Whether a signal has fired. -/
def isRequested (s : Shutdown) : Signal → Bool
  | .listening => s.requested
  | .never => false

@[simp] theorem isRequested_drop (s : Shutdown) (signal : Signal) :
    s.drop.isRequested signal = s.isRequested signal := by
  cases signal <;> rfl

end Shutdown
end RollupFees
