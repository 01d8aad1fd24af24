import Overlay.Text.Basic

/-!
The methods that can be called in a description, each with its name and the
form of a correct call.
-/

namespace Overlay

inductive Method
  | discovery
  | select
  | metadata
  | qos
  | id
  | filter
  | cullTime
  | cullSpace
  | aggregate
  | string
  | virtual
  | time
  | space
  | range
  | like
  | merge
  | join
  | trigger
  deriving DecidableEq

namespace Method

def all : List Method :=
  [discovery, select, metadata, qos, id, filter, cullTime, cullSpace, aggregate, string, virtual,
    time, space, range, like, merge, join, trigger]

def name : Method → String
  | discovery => "discovery"
  | select => "select"
  | metadata => "meta"
  | qos => "qos"
  | id => "id"
  | filter => "filter"
  | cullTime => "cull_time"
  | cullSpace => "cull_space"
  | aggregate => "aggregate"
  | string => "string"
  | virtual => "virtual"
  | time => "time"
  | space => "space"
  | range => "range"
  | like => "like"
  | merge => "merge"
  | join => "join"
  | trigger => "trigger"

/-- The form of a correct call. -/
def usage : Method → String
  | discovery => "discovery(key=value, ...)"
  | select => "select(name, ...)"
  | metadata => "meta(key=value, ...)"
  | qos => "qos(bandwidth, priority)"
  | id => "id(\"identifier\")"
  | filter => "filter(condition)"
  | cullTime => "cull_time(numerator, denominator, time(...))"
  | cullSpace => "cull_space(numerator, denominator, space(...))"
  | aggregate => "aggregate(name, \"function\", time(...), space(...))"
  | string => "string(name, \"pattern\", \"replacement\")"
  | virtual => "virtual(name, \"expression\")"
  | time => "time(name, \"start\", \"end\", interval, \"unit\")"
  | space => "space(lat, long, west, south, east, north, lat_interval, long_interval)"
  | range => "range(name, min, max)"
  | like => "like(name, \"pattern\")"
  | merge => "merge(delay, channel, ...)"
  | join => "join(delay, channel, channel, ..., virtual(name, \"expression\"))"
  | trigger => "trigger(interval, count <sign> n, condition)"

def label (m : Method) : Text := m.name.toList

def ofName? (name : Text) : Option Method := all.find? fun m => m.label = name

@[simp] theorem ofName?_label (m : Method) : ofName? m.label = some m := by
  cases m <;> rfl

theorem label_injective {m n : Method} (h : m.label = n.label) : m = n :=
  Option.some.inj (by rw [← ofName?_label m, h, ofName?_label])

theorem label_of_ofName? {t : Text} {m : Method} (h : ofName? t = some m) : m.label = t := by
  simpa using List.find?_some h

end Method

end Overlay
