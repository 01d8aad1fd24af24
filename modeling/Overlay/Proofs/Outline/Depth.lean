import Overlay.Proofs.Outline.Passage

/-!
Depths of blocks. An `end` takes one away from the number of open blocks, which is not
possible when there is none. Here is a reader of items that has no result in this case;
it always has one, because a block is given further lines only as long as it is open.
-/

namespace Overlay.Item

namespace Open

/-- The item after one more line, if the line does not close more than is open. -/
def feed? (o : Open) (line stripped : Text) : Option Open :=
  let o := { o with lines := o.lines ++ [line] }
  if o.construct.isBlock then
    if Construct.isEnd stripped then
      match o.depth with
      | 0 => none
      | depth + 1 => some { o with depth }
    else if Construct.isHeader stripped then some { o with depth := o.depth + 1 }
    else some o
  else if stripped.isEmpty then some o
  else some { o with text := o.text ++ ' ' :: stripped }

/-- Whether an item is not a closed block. -/
def IsOpen (o : Open) : Prop := o.construct.isBlock = true → 0 < o.depth

theorem feed?_eq_some {o : Open} (h : o.IsOpen) (line stripped : Text) :
    o.feed? line stripped = some (o.feed line stripped) := by
  unfold feed? feed
  dsimp only
  split
  · next hblock =>
    obtain ⟨depth, hdepth⟩ := Nat.exists_eq_add_of_lt (h hblock)
    rw [Nat.zero_add] at hdepth
    split
    · simp only [hdepth, Nat.add_sub_cancel]
    · split <;> rfl
  · split <;> rfl

/-- What does not end with the lines that were read is open. -/
theorem isOpen_of_isComplete {o : Open} (h : o.isComplete = .ok false) : o.IsOpen := by
  intro hblock
  rw [isComplete, if_pos hblock, Except.ok.injEq, beq_eq_false_iff_ne] at h
  exact Nat.pos_of_ne_zero h

end Open

/-- The item that a line begins, or that goes on with it. -/
def next? (candidates : List Construct) (number : Nat) (line stripped : Text) :
    Option Open → Option (Except Diagnostic Open)
  | none => some (begin? candidates number line stripped)
  | some o => (o.feed? line stripped).map .ok

/-- The items of the rest of a unit, if no block is closed that is not open. -/
def listFrom? (candidates : List Construct) :
    Option Open → List (Nat × Text) → Option (Except Diagnostic (List Item))
  | none, [] => some (.ok [])
  | some o, [] => some (.error (o.diagnostic (.missingTerminator o.construct o.first)))
  | reading, (number, line) :: rest =>
    match line.stripComment with
    | .error cause => some (.error ⟨.line number, line.trim, cause⟩)
    | .ok stripped =>
      match reading, stripped with
      | none, [] => listFrom? candidates none rest
      | reading, stripped =>
        match next? candidates number line stripped reading with
        | none => none
        | some (.error d) => some (.error d)
        | some (.ok o) =>
          match o.isComplete with
          | .error cause => some (.error (o.diagnostic cause))
          | .ok false => listFrom? candidates (some o) rest
          | .ok true => (listFrom? candidates none rest).map fun items => do
              return (← o.close) :: (← items)

def list? (u : SourceUnit) (candidates : List Construct) :
    Option (Except Diagnostic (List Item)) :=
  listFrom? candidates none u.numberedLines

/-- The items of the rest of a unit, when a line was added to an item. -/
def resume? (candidates : List Construct) (o : Open) (rest : List (Nat × Text)) :
    Option (Except Diagnostic (List Item)) :=
  match o.isComplete with
  | .error cause => some (.error (o.diagnostic cause))
  | .ok false => listFrom? candidates (some o) rest
  | .ok true => (listFrom? candidates none rest).map fun items => do
      return (← o.close) :: (← items)

section

variable {candidates : List Construct}

theorem resume?_eq_some {o : Open} {rest : List (Nat × Text)}
    (hlast : listFrom? candidates none rest = some (listFrom candidates none rest))
    (hmore : o.IsOpen → listFrom? candidates (some o) rest =
      some (listFrom candidates (some o) rest)) :
    resume? candidates o rest = some (resume candidates o rest) := by
  unfold resume?
  split
  · next cause hfail => rw [resume, hfail]
  · next hmoreLines =>
    rw [resume_of_more hmoreLines]
    exact hmore (Open.isOpen_of_isComplete hmoreLines)
  · next hdone =>
    rw [resume_of_last hdone, hlast]
    rfl

theorem listFrom?_first {number : Nat} {line t : Text} {rest : List (Nat × Text)}
    (hline : line.stripComment = .ok t) (hne : t ≠ []) :
    listFrom? candidates none ((number, line) :: rest) =
      match begin? candidates number line t with
      | .error d => some (.error d)
      | .ok o => resume? candidates o rest := by
  rw [listFrom?, hline]
  cases t with
  | nil => exact absurd rfl hne
  | cons c t =>
      simp only [next?]
      cases begin? candidates number line (c :: t) <;> rfl

theorem listFrom?_eq_some {reading : Option Open} {lines : List (Nat × Text)}
    (h : ∀ o, reading = some o → o.IsOpen) :
    listFrom? candidates reading lines = some (listFrom candidates reading lines) := by
  induction lines generalizing reading with
  | nil => cases reading <;> rfl
  | cons l rest ih =>
      obtain ⟨number, line⟩ := l
      have hnone : listFrom? candidates none rest = some (listFrom candidates none rest) :=
        ih fun _ ho => nomatch ho
      have hresume (o : Open) : resume? candidates o rest = some (resume candidates o rest) := by
        refine resume?_eq_some hnone fun hopen => ih fun o' ho' => ?_
        cases ho'
        exact hopen
      cases hline : line.stripComment with
      | error cause => rw [listFrom?, listFrom, hline]
      | ok t =>
          cases reading with
          | some o =>
              rw [listFrom_next o hline, ← hresume, listFrom?, hline]
              simp only [next?, Open.feed?_eq_some (h o rfl), Option.map_some]
              rfl
          | none =>
              by_cases hne : t = []
              · subst hne
                rw [listFrom_blank hline, ← hnone, listFrom?, hline]
              · rw [listFrom_first hline hne, listFrom?_first hline hne]
                cases begin? candidates number line t with
                | error d => rfl
                | ok o => exact hresume o

/-- No line of a unit closes a block when none is open. -/
theorem list?_eq_some (u : SourceUnit) (candidates : List Construct) :
    list? u candidates = some (list u candidates) :=
  listFrom?_eq_some fun _ ho => nomatch ho

end

end Overlay.Item
