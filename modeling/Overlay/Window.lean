import Overlay.Call.Arguments

/-!
Windows over data: a span of time that is cut into intervals, and an area that
is cut into cells.
-/

namespace Overlay

open Argument (nth)

inductive TimeUnit
  | day
  | hour
  | minute
  | second
  deriving DecidableEq

namespace TimeUnit

def all : List TimeUnit := [day, hour, minute, second]

def name : TimeUnit → String
  | day => "day"
  | hour => "hour"
  | minute => "minute"
  | second => "second"

def ofName? (t : Text) : Option TimeUnit := all.find? fun u => u.name.toList = t

end TimeUnit

/-- From `start` to `finish`, in intervals of a number of units; `name` is the
data name of the time stamps. -/
structure TimeWindow where
  name : Text
  start : Instant
  finish : Instant
  interval : Int64
  unit : TimeUnit
  deriving DecidableEq

/-- An area with the data names of its coordinates, and the size of a cell. -/
structure SpaceWindow where
  latitude : Text
  longitude : Text
  west : Literal
  south : Literal
  east : Literal
  north : Literal
  latitudeInterval : Literal
  longitudeInterval : Literal
  deriving DecidableEq

/-- Accepts a number that is greater than zero. -/
def checkPositive (what : Quantity) (value : Literal) : Except Fault Unit :=
  if value.asFloat?.any Float64.isPositive then .ok () else .error (.notPositive what value)

/-- An object with fields in the order of the list. -/
def Json.ofFields (fields : List (String × Json)) : Json :=
  .object (fields.map fun f => (f.1.toList, f.2))

namespace TimeWindow

def format : List (List ArgumentType) :=
  [[.dataName], [.time], [.time], [.integer], [.string]]

/-- The instant of an argument that was accepted as a time. -/
def instantAt (args : List Argument) (index : Nat) : Except Fault Instant := do
  let s ← nth Argument.text? args index
  match Instant.ofText? s with
  | some t => .ok t
  | none => .error (.timeLiteral s)

def ofText (t : Text) : Except Fault TimeWindow := do
  let args ← Method.time.call t format
  let start ← instantAt args 1
  let finish ← instantAt args 2
  let interval ← nth Argument.integer? args 3
  let unitName ← nth Argument.text? args 4
  match TimeUnit.ofName? unitName with
  | none => .error (.timeUnit unitName)
  | some unit =>
    if start.isAfter finish then .error (.timeOrder start.text finish.text)
    else if interval.toInt ≤ 0 then .error (.notPositive .timeInterval (.integer interval))
    else do
      return ⟨← nth Argument.text? args 0, start, finish, interval, unit⟩

def toJson (w : TimeWindow) : Json :=
  .ofFields [
    ("end", .string w.finish.text),
    ("interval", .ofInt64 w.interval),
    ("name", .string w.name),
    ("start", .string w.start.text),
    ("unit", .ofString w.unit.name)]

end TimeWindow

namespace SpaceWindow

def format : List (List ArgumentType) :=
  [[.dataName], [.dataName]] ++ List.replicate 6 ArgumentType.number

/-- Accepts a longitude or latitude that exists. -/
def checkEdge (edge : Edge) (value : Literal) : Except Fault Unit :=
  let limit : Int := edge.limit
  let inside (x : Float64) := (Float64.ofInt (-limit)).le x && x.le (Float64.ofInt limit)
  if value.asFloat?.any inside then .ok () else .error (.spaceRange edge value)

/-- Accepts two edges of which the first does not lie beyond the second. -/
def checkOrder (low high : Edge) (a b : Literal) : Except Fault Unit :=
  match a.asFloat?, b.asFloat? with
  | some x, some y => if y.lt x then .error (.spaceOrder low high) else .ok ()
  | _, _ => .ok ()

def check (w : SpaceWindow) : Except Fault Unit := do
  checkEdge .west w.west
  checkEdge .south w.south
  checkEdge .east w.east
  checkEdge .north w.north
  checkOrder .west .east w.west w.east
  checkOrder .south .north w.south w.north
  checkPositive .latitudeInterval w.latitudeInterval
  checkPositive .longitudeInterval w.longitudeInterval

def ofText (t : Text) : Except Fault SpaceWindow := do
  let args ← Method.space.call t format
  let window : SpaceWindow := {
    latitude := ← nth Argument.text? args 0
    longitude := ← nth Argument.text? args 1
    west := ← nth Argument.literal? args 2
    south := ← nth Argument.literal? args 3
    east := ← nth Argument.literal? args 4
    north := ← nth Argument.literal? args 5
    latitudeInterval := ← nth Argument.literal? args 6
    longitudeInterval := ← nth Argument.literal? args 7 }
  window.check
  return window

def toJson (w : SpaceWindow) : Json :=
  .ofFields [
    ("east", w.east.toJson),
    ("lat", .string w.latitude),
    ("lat_interval", w.latitudeInterval.toJson),
    ("long", .string w.longitude),
    ("long_interval", w.longitudeInterval.toJson),
    ("north", w.north.toJson),
    ("south", w.south.toJson),
    ("west", w.west.toJson)]

end SpaceWindow

end Overlay
