import Overlay.Construct
import Overlay.Json.Printer
import Overlay.Literal
import Overlay.Method

/-!
Causes of errors, without a place in the source, and their wording. A cause
holds what it is about as values; `Fault.message` alone makes text of them.
-/

namespace Overlay

/-- The types that an argument of a call can be required to have. -/
inductive ArgumentType
  | dataName
  | integer
  | float
  | string
  | time
  | untyped
  deriving DecidableEq

/-- How many arguments a call must have. -/
inductive Arity
  | exactly (n : Nat)
  | atLeast (n : Nat)
  | between (low high : Nat)
  deriving DecidableEq

/-- Numbers of a description that have to be positive. -/
inductive Quantity
  | timeInterval
  | latitudeInterval
  | longitudeInterval
  | bandwidth
  | multi
  | triggerInterval
  deriving DecidableEq

/-- The sides of a space window. -/
inductive Edge
  | west
  | south
  | east
  | north
  deriving DecidableEq

inductive Fault
  | unterminatedQuote
  | escapedQuoteOutsideString
  | unmatchedClosing (bracket : Char)
  | unmatchedOpening (closer : Char)
  | noConstruct
  | missingTerminator (construct : Construct) (line : Nat)
  | cardinality (block : Construct) (count : Nat)
  | methodFormat (method : Method)
  | argumentCount (method : Method) (expected : Arity) (found : Nat)
  | argumentType (method : Method) (position : Nat) (text : Text) (allowed : List ArgumentType)
  | timeLiteral (text : Text)
  | timeUnit (text : Text)
  | timeOrder (start finish : Text)
  | notPositive (what : Quantity) (value : Literal)
  | spaceRange (edge : Edge) (value : Literal)
  | spaceOrder (low high : Edge)
  | cullValue (numerator denominator : Int64)
  | rangeType (low high : Literal)
  | rangeOrder (low high : Literal)
  | invalidPattern (pattern : Text)
  | invalidLiteral (text : Text)
  | invalidName (text : Text)
  | reservedWord (word : Text)
  | invalidAttribute (text : Text)
  | noCondition (text : Text)
  | malformedCondition (value : Json)
  | triggerCondition (text : Text)
  | duplicateDefinition (name : Text)
  | duplicateModifier (method : Method)
  | unknownMethod (name : Text)
  | undefinedService (reference : Text)
  | undefinedScratch (name : Text)
  | undefinedChannel (name : Text)
  | undefinedEvent (name : Text)
  | missingArgument (position : Nat)
  | unexpectedArgument (position : Nat)
  | aggregateFunction (found : Text)
  | emptyExpression
  | emptyId
  | negativeDelay (method : Method) (delay : Literal)
  | expectedTransmission
  | expectedDeclaration (found : Text)
  | expectedKeyword (construct : Construct)
  | outsideBloom (construct : Construct)
  deriving DecidableEq

def ArgumentType.description : ArgumentType → String
  | dataName => "a data name"
  | integer => "an integer"
  | float => "a float"
  | string => "a string"
  | time => "a time literal"
  | untyped => "any expression"

def Arity.text : Arity → String
  | exactly n => toString n
  | atLeast n => s!"at least {n}"
  | between low high => s!"{low} to {high}"

def Quantity.name : Quantity → String
  | timeInterval => "time interval"
  | latitudeInterval => "latitude interval"
  | longitudeInterval => "longitude interval"
  | bandwidth => "bandwidth"
  | multi => "multi"
  | triggerInterval => "trigger interval"

namespace Edge

def name : Edge → String
  | west => "west"
  | south => "south"
  | east => "east"
  | north => "north"

/-- The greatest longitude or latitude, in degrees. -/
def limit : Edge → Nat
  | west | east => 180
  | south | north => 90

end Edge

/-- What an aggregation computes of the data in a cell. -/
inductive AggregateFunction
  | average
  | sum
  | minimum
  | maximum
  | count
  deriving DecidableEq

namespace AggregateFunction

def all : List AggregateFunction := [average, sum, minimum, maximum, count]

def name : AggregateFunction → String
  | average => "avg"
  | sum => "sum"
  | minimum => "min"
  | maximum => "max"
  | count => "count"

def ofName? (t : Text) : Option AggregateFunction := all.find? fun f => f.name.toList = t

end AggregateFunction

/-- English ordinal number: `1st`, `2nd`, `3rd`, `4th`, `11th`. -/
def ordinal (n : Nat) : String :=
  let suffix :=
    if 11 ≤ n % 100 ∧ n % 100 ≤ 13 then "th"
    else match n % 10 with
      | 1 => "st"
      | 2 => "nd"
      | 3 => "rd"
      | _ => "th"
  toString n ++ suffix

def Text.str (t : Text) : String := String.ofList t

namespace Fault

open Text (str)

def message : Fault → String
  | unterminatedQuote => "unterminated string literal"
  | escapedQuoteOutsideString =>
    "escaped quote `\\\"` is only allowed inside a string literal"
  | unmatchedClosing c => s!"unmatched closing bracket `{c}`"
  | unmatchedOpening c => s!"missing closing bracket `{c}`"
  | noConstruct => "line matches no known construct"
  | missingTerminator construct line =>
    s!"missing `end` for {construct.name} started at line {line}"
  | cardinality block count =>
    s!"`{block.name}` must be defined exactly once, found {count}"
  | methodFormat method => s!"expected `{method.usage}`"
  | argumentCount method expected found =>
    s!"`{method.name}` takes {expected.text} argument(s) but {found} were given, " ++
      s!"expected `{method.usage}`"
  | argumentType method position text allowed =>
    let types := String.intercalate " or " (allowed.map ArgumentType.description)
    s!"{ordinal position} argument `{str text}` of `{method.name}` must be {types}"
  | timeLiteral text => s!"invalid time literal `{str text}`, expected `YYYYMMDDTHHMMSS`"
  | timeUnit text =>
    s!"time unit must be one of day, hour, minute, second, found `{str text}`"
  | timeOrder start finish =>
    s!"time start `{str start}` is later than end `{str finish}`"
  | notPositive what value => s!"{what.name} must be greater than 0, found {str value.text}"
  | spaceRange edge value =>
    s!"{edge.name} must be within [-{edge.limit}, {edge.limit}], found {str value.text}"
  | spaceOrder low high => s!"{low.name} must not be greater than {high.name}"
  | cullValue n d =>
    "cull value must satisfy 0 < numerator <= denominator, " ++ s!"found {n.toInt}/{d.toInt}"
  | rangeType low high =>
    s!"range bounds `{str low.text}` and `{str high.text}` must have the same type"
  | rangeOrder low high =>
    s!"range minimum `{str low.text}` is greater than maximum `{str high.text}`"
  | invalidPattern pattern => s!"invalid regular expression `{str pattern}`"
  | invalidLiteral text => s!"invalid literal `{str text}`"
  | invalidName text => s!"`{str text}` is not a valid name"
  | reservedWord word => s!"`{str word}` is a reserved word"
  | invalidAttribute text => s!"invalid attribute `{str text}`, expected `key=value`"
  | noCondition text => s!"`{str text}` is not a condition"
  | malformedCondition value => s!"malformed condition map: {str value.compact}"
  | triggerCondition text =>
    s!"trigger condition must be a single comparison on `count`, found `{str text}`"
  | duplicateDefinition name => s!"`{str name}` is defined more than once"
  | duplicateModifier method => s!"`{method.name}` may appear at most once"
  | unknownMethod name => s!"unknown method `{str name}`"
  | undefinedService reference => s!"service `{str reference}` is undefined"
  | undefinedScratch name => s!"scratch `{str name}` is undefined"
  | undefinedChannel name => s!"channel `{str name}` is undefined"
  | undefinedEvent name => s!"event `{str name}` is undefined"
  | missingArgument position => s!"missing argument {position}"
  | unexpectedArgument position => s!"unexpected argument {position}"
  | aggregateFunction found =>
    s!"aggregate function must be one of {functions}, found `{str found}`"
  | emptyExpression => "virtual property expression must not be empty"
  | emptyId => "id must not be empty"
  | negativeDelay method delay =>
    s!"{method.name} delay must not be negative, found {str delay.text}"
  | expectedTransmission => "expected `channel <~ scratch`"
  | expectedDeclaration found => s!"expected `name: value`, found `{str found}`"
  | expectedKeyword construct => s!"expected `{construct.name}`"
  | outsideBloom construct => s!"{construct.name} is only allowed inside `bloom do`"
where
  functions : String := String.intercalate ", " (AggregateFunction.all.map AggregateFunction.name)

end Fault

end Overlay
