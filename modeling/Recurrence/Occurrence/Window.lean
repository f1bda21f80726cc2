import Recurrence.DateTime.Timeline
/-!
Windows on the UTC timeline, from a start up to and without an end, either of which may be open.
-/
namespace Recurrence

structure Window where
  start : Option Int
  stop : Option Int
deriving DecidableEq, Inhabited

namespace Window

/-- The whole timeline. -/
def unbounded : Window := ⟨none, none⟩

/-- The window between two instants, the second not before the first. -/
def between (start stop : Int) : Except InvalidValue Window :=
  if stop < start then .error (.windowEndsFirst start stop) else .ok ⟨some start, some stop⟩

/-- Whether an occurrence from one place to another reaches into the window. One that takes no time
has to start in it. -/
def overlaps (window : Window) (start stop : TimelineKey) : Bool :=
  window.stop.all (fun last => start.instant < last) &&
    window.start.all fun first =>
      if start.instant < stop.instant then first < stop.instant else first ≤ start.instant

/-- Whether nothing that starts at a place or later can reach into the window. -/
def isPast (window : Window) (start : TimelineKey) : Bool :=
  window.stop.any (· ≤ start.instant)

end Window
end Recurrence
