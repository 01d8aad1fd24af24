import Overlay.Construct
import Overlay.Text.Word

/-!
First lines of constructs. Which construct a line begins is decided by its
start alone, except for blocks, where the whole line counts.
-/

namespace Overlay.Text

/-- The name with which a text begins, and the rest. -/
def leadingName? (t : Text) : Option (Text × Text) :=
  match t.spanWord with
  | ([], _) => none
  | (name, rest) => some (name, rest)

/-- The rest after the blanks with which a text begins; there must be one. -/
def afterBlanks? (t : Text) : Option Text :=
  match t with
  | c :: _ => if isBlank c then some t.dropBlank else none
  | [] => none

theorem length_afterBlanks?_le {t rest : Text} (h : afterBlanks? t = some rest) :
    rest.length ≤ t.length := by
  unfold afterBlanks? at h
  split at h
  · split at h
    · cases h
      exact length_dropBlank_le _
    · cases h
  · cases h

/-- The rest after a name, any blanks and then `mark`, with the name. -/
def nameThen? (mark t : Text) : Option (Text × Text) := do
  let (name, rest) ← t.leadingName?
  let rest ← dropPrefix? mark rest.dropBlank
  some (name, rest)

/-- Whether a text is `word`, blanks and `do`. -/
def isBlockHeader (word t : Text) : Bool :=
  (dropPrefix? word t).bind afterBlanks? == some ['d', 'o']

/-- What stands before the blanks and the `do` at the end of a header line. It
has at least one character and no line feed. -/
def beforeDo? (t : Text) : Option Text := do
  let body ← dropSuffix? ['d', 'o'] t
  let size := max 1 body.dropBlankEnd.length
  let part := body.take size
  if size < body.length ∧ !part.contains '\n' then some part else none

/-- Whether a text is a call of a method of a named thing, up to the opening
bracket. -/
def isMethodCall (t : Text) : Bool :=
  ((nameThen? ['.'] t).bind fun (_, rest) => nameThen? ['('] rest.dropBlank).isSome

end Overlay.Text

namespace Overlay.Construct

open Text

/-- Whether a line without comment and outer blanks begins the construct. -/
def opens (c : Construct) (line : Text) : Bool :=
  match c with
  | stateBlock => isBlockHeader "state".toList line
  | bloomBlock => isBlockHeader "bloom".toList line
  | eventBlock => (beforeDo? line).isSome
  | service => ((dropPrefix? ['@'] line).bind (nameThen? [':'])).isSome
  | scratch => opensEndpoint "scratch".toList
  | channel => opensEndpoint "channel".toList
  | transmission => (nameThen? ['<', '~'] line).isSome || isMethodCall line
  | trigger =>
    match nameThen? ['<'] line with
    | some (_, '+' :: _) | some (_, '-' :: _) => true
    | _ => false
  | merge =>
    match nameThen? ['<', '~'] line with
    | some (_, rest) =>
      "merge(".toList.isPrefixOf rest.dropBlank || "join(".toList.isPrefixOf rest.dropBlank
    | none => false
where
  opensEndpoint (word : Text) : Bool :=
    (((dropPrefix? word line).bind afterBlanks?).bind leadingName?).isSome

/-- Whether a line closes a block. -/
def isEnd (line : Text) : Bool := line == ['e', 'n', 'd']

/-- Whether a line inside a block opens a block. -/
def isHeader (line : Text) : Bool := (beforeDo? line).isSome

end Overlay.Construct
