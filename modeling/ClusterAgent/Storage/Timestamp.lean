import ClusterAgent.Binary64.Basic

/-!
Modification times in milliseconds. Both stores pass through binary64 seconds, so a time can come
out a millisecond early.
-/
namespace ClusterAgent.Timestamp

/-- A thousand times a number of seconds, without the part after the point. -/
def milliseconds (seconds : Binary64) : Int :=
  match (seconds.mul (.ofInt 1000)).truncate with
  | .ok ms => ms
  | .error _ => 0

/-- The seconds of a file time: whole seconds plus a billionth of the remaining nanoseconds. -/
def fileSeconds (nanoseconds : Int) : Binary64 :=
  (Binary64.ofInt (nanoseconds / 1000000000)).add
    ((Binary64.ofDecimal false 1 (-9)).mul (.ofInt (nanoseconds % 1000000000)))

/-- The timestamp of a file in milliseconds. -/
def ofFile (nanoseconds : Int) : Int := milliseconds (fileSeconds nanoseconds)

/-- The timestamp of an object whose time is kept in whole microseconds. -/
def ofObject (microseconds : Int) : Int :=
  milliseconds (.ofRatio (microseconds < 0) microseconds.natAbs 1000000)

end ClusterAgent.Timestamp
