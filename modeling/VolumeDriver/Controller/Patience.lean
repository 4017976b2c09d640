import VolumeDriver.Controller.Action
set_option autoImplicit false

/-! # How long the controller side keeps at it

Two things can take long: a resource that is on its way to the state it was asked for, and a listing in
many pages. `poll` looks at a resource a bounded number of times with pauses in between. `foldPages` and
`findOnPages` read on for as long as a next page is named, and there a driver knows no bound: `Limits.pages`
is not a driver's policy but what makes these two loops end here, so it is taken as large as a listing
needs. -/

namespace VolumeDriver.Controller

/-- How often, and how far apart, a resource is looked at. -/
structure PollPolicy where
  interval : Nat := 1000
  /-- the number of looks -/
  retries : Nat := 120
  deriving DecidableEq, Repr

/-- The bounds of the controller side. Only `poll` is one that a driver has. -/
structure Limits where
  poll : PollPolicy := {}
  /-- the number of pages after which `foldPages` and `findOnPages` end; a driver reads all that there are -/
  pages : Nat := 1000000
  deriving DecidableEq, Repr

variable {ε α β : Type}

/-- Looks until there is something to see, and pauses after every look that found nothing yet. -/
def pollTimes (interval : Nat) (exhausted : ε) (look : Run ε (Option α)) : (retries : Nat) → Run ε α
  | 0 => throw exhausted
  | retries + 1 => do
    match ← look with
    | some a => return a
    | none =>
      pause interval
      pollTimes interval exhausted look retries

/-- Looks as often as the policy says, and fails with `exhausted` if that was in vain. -/
def poll (policy : PollPolicy) (exhausted : ε) (look : Run ε (Option α)) : Run ε α :=
  pollTimes policy.interval exhausted look policy.retries

/-! ## Listings -/

variable {m : Type → Type} [Monad m]

/-- Goes through the pages of a listing from `page` on and gathers with `step`. The number of `pages` is
    there for the recursion alone, and `endless` stands for what comes after so many. -/
def foldPages (endless : m β) (list : Option String → m (ControlPlane.Page α))
    (step : β → List α → m β) : (pages : Nat) → β → (page : Option String) → m β
  | 0, _, _ => endless
  | pages + 1, acc, page => do
    let listing ← list page
    let acc ← step acc listing.items
    match listing.nextPage with
    | none => return acc
    | some next => foldPages endless list step pages acc (some next)

/-- The first item of a listing with a property; no page after its own is read. As in `foldPages` the number
    of `pages` only makes it end. -/
def findOnPages (endless : m (Option α)) (list : Option String → m (ControlPlane.Page α))
    (p : α → Bool) : (pages : Nat) → (page : Option String) → m (Option α)
  | 0, _ => endless
  | pages + 1, page => do
    let listing ← list page
    match listing.items.find? p, listing.nextPage with
    | some found, _ => return some found
    | none, none => return none
    | none, some next => findOnPages endless list p pages (some next)

end VolumeDriver.Controller
