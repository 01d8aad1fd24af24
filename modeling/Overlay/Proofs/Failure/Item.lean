import Overlay.BloomBlock
import Overlay.Proofs.Blame.Lines
import Overlay.Proofs.Failure.Rule

/-!
Failures of items. What lines can be refused for when they are cut into items is a line
whose literals are not closed, a line that begins nothing, or lines that were read for
one item: because their brackets do not fit, or because the item does not come to its
end. An item that is no block has all its brackets closed, so a failure to read it is
none of its quotes and brackets, unless it is a service. The header of a block is one
line, whatever is open at its end.
-/

namespace Overlay

open Text

/-- Whether a diagnostic is one of some lines, and what makes it one. -/
inductive Diagnostic.ArisesIn (lines : List (Nat × Text)) : Diagnostic → Prop
  | quotes {number : Nat} {line : Text} {cause : Fault} : (number, line) ∈ lines →
      line.stripComment = .error cause → ArisesIn lines ⟨.line number, line.trim, cause⟩
  | unknown {number : Nat} {line t : Text} : (number, line) ∈ lines →
      line.stripComment = .ok t → ArisesIn lines ⟨.line number, t, .noConstruct⟩
  | brackets {u : SourceUnit} {cs : List (Nat × Text)} {cause : Fault} : u.StandsIn lines →
      Content u.numberedLines cs → bracketDepth ([' '].intercalate (texts cs)) = .error cause →
      ArisesIn lines (u.diagnostic cause)
  | unit {u : SourceUnit} {cause : Fault} : u.StandsIn lines → cause.IsSemantic →
      ArisesIn lines (u.diagnostic cause)

theorem Diagnostic.ArisesIn.mono {lines lines' : List (Nat × Text)} {d : Diagnostic}
    (h : d.ArisesIn lines) (hrun : lines <:+: lines') : d.ArisesIn lines' := by
  cases h with
  | quotes hmem hline => exact .quotes (hrun.subset hmem) hline
  | unknown hmem hline => exact .unknown (hrun.subset hmem) hline
  | brackets hu hcontent hdepth => exact .brackets (hu.mono hrun) hcontent hdepth
  | unit hu hcause => exact .unit (hu.mono hrun) hcause

/-- Whether all failures of a computation are diagnostics of some lines. -/
abbrev FailsIn {α : Type} (lines : List (Nat × Text)) (x : Except Diagnostic α) : Prop :=
  FailsOnly (Diagnostic.ArisesIn lines) x

theorem FailsIn.mono {α : Type} {lines lines' : List (Nat × Text)} {x : Except Diagnostic α}
    (h : FailsIn lines x) (hrun : lines <:+: lines') : FailsIn lines' x :=
  FailsOnly.mono h fun _ hd => hd.mono hrun

namespace SourceUnit

theorem failsIn_strippedFrom (number : Nat) (lines : List Text) :
    FailsIn (numberFrom number lines) (strippedFrom number lines) := by
  induction lines generalizing number with
  | nil => exact .ok []
  | cons line lines ih =>
      rw [strippedFrom, numberFrom]
      split
      · next cause hline => exact .error (.quotes List.mem_cons_self hline)
      · have hrest := FailsIn.mono (ih (number + 1)) (List.suffix_cons (number, line) _).isInfix
        exact hrest.bind fun _ _ => .ok _

theorem failsIn_ofLines (number : Nat) (lines : List Text) :
    FailsIn (numberFrom number lines) (ofLines number lines) :=
  (failsIn_strippedFrom number lines).bind fun _ _ => .ok _

theorem failsIn_slice (u : SourceUnit) (start stop : Nat) :
    FailsIn u.numberedLines (u.slice start stop) :=
  (failsIn_ofLines _ _).mono (u.isInfix_slice start stop)

end SourceUnit

namespace Item

variable {candidates : List Construct} {lines : List (Nat × Text)}

/-- The lines that were read for an item, as a unit. -/
def Open.unit (o : Open) : SourceUnit := ⟨o.first, o.lines, o.text⟩

theorem Open.Holds.standsIn {o : Open} {cs : List (Nat × Text)} (h : o.Holds cs)
    (hrun : o.unit.numberedLines <:+: lines) : o.unit.StandsIn lines := by
  refine ⟨fun hnil => ?_, hrun⟩
  obtain ⟨l, rest, t, hlines, -⟩ := h.starts
  rw [show o.lines = [] from hnil] at hlines
  cases hlines

theorem Open.Holds.arisesIn_of_isComplete {o : Open} {cs : List (Nat × Text)} (h : o.Holds cs)
    (hrun : o.unit.numberedLines <:+: lines) {cause : Fault} (hfail : o.isComplete = .error cause) :
    (o.diagnostic cause).ArisesIn lines := by
  rw [h.isComplete_eq, Construct.ends] at hfail
  split at hfail
  · cases hfail
  · exact .brackets (u := o.unit) (h.standsIn hrun) h.content (Except.map_eq_error_iff.1 hfail)

theorem failsIn_resume {o : Open} {cs : List (Nat × Text)} (ho : o.Holds cs)
    (hlast : FailsIn lines (listFrom candidates none lines))
    (hmore : FailsIn (o.unit.numberedLines ++ lines) (listFrom candidates (some o) lines)) :
    FailsIn (o.unit.numberedLines ++ lines) (resume candidates o lines) := by
  unfold resume
  split
  · next cause hfail =>
    exact .error (ho.arisesIn_of_isComplete (List.prefix_append _ _).isInfix hfail)
  · exact hmore
  · have hclose : FailsIn o.unit.numberedLines o.close :=
      (SourceUnit.failsIn_ofLines _ _).bind fun _ _ => .ok _
    refine (hclose.mono (List.prefix_append _ _).isInfix).bind fun item _ => ?_
    exact (hlast.mono (List.suffix_append _ _).isInfix).bind fun items _ => .ok _

theorem failsIn_begin? {number : Nat} {line t : Text} (hline : line.stripComment = .ok t)
    (lines : List (Nat × Text)) :
    FailsIn ((number, line) :: lines) (begin? candidates number line t) := by
  unfold begin?
  split
  · exact .ok _
  · exact .error (.unknown List.mem_cons_self hline)

/-- What fails when a unit is cut into items is about its lines, among them those
that were read for an item before. -/
theorem failsIn_listFrom (number : Nat) (lines : List Text) :
    FailsIn (SourceUnit.numberFrom number lines)
      (listFrom candidates none (SourceUnit.numberFrom number lines)) ∧
    ∀ {o cs}, Open.Holds o cs → o.first + o.lines.length = number →
      FailsIn (o.unit.numberedLines ++ SourceUnit.numberFrom number lines)
        (listFrom candidates (some o) (SourceUnit.numberFrom number lines)) := by
  induction lines generalizing number with
  | nil =>
      constructor
      · exact .ok []
      · intro o cs ho _
        have hstands := ho.standsIn (List.prefix_append o.unit.numberedLines []).isInfix
        exact .error (.unit hstands ⟨rfl, rfl⟩)
  | cons line lines ih =>
      obtain ⟨hnone, hsome⟩ := ih (number + 1)
      rw [SourceUnit.numberFrom]
      cases hline : line.stripComment with
      | error cause =>
          -- The line is read before anything else, with and without an open item.
          have hfirst (reading : Option Open) : FailsIn [(number, line)]
              (listFrom candidates reading
                ((number, line) :: SourceUnit.numberFrom (number + 1) lines)) := by
            rw [listFrom, hline]
            exact .error (.quotes List.mem_cons_self hline)
          have hfront := List.prefix_append [(number, line)]
            (SourceUnit.numberFrom (number + 1) lines)
          exact ⟨(hfirst none).mono hfront.isInfix,
            fun _ _ => (hfirst _).mono (hfront.isInfix.trans (List.suffix_append _ _).isInfix)⟩
      | ok t =>
          constructor
          · by_cases hne : t = []
            · subst hne
              rw [listFrom_blank hline]
              exact hnone.mono (List.suffix_cons _ _).isInfix
            · rw [listFrom_first hline hne]
              refine (failsIn_begin? hline _).bind fun o ho => ?_
              obtain ⟨c, -, rfl⟩ := begin?_eq_ok_iff.1 ho
              have hholds := Open.holds_start c number hline hne
              exact failsIn_resume hholds hnone (hsome hholds rfl)
          · intro o cs ho hnumber
            rw [listFrom_next o hline]
            have hnumber' := Open.first_add_length_feed hnumber line t
            obtain ⟨ds, hholds⟩ : ∃ ds, (o.feed line t).Holds ds := by
              by_cases hne : t = []
              · subst hne
                exact ⟨cs, ho.feed_blank hline⟩
              · exact ⟨_, ho.feed hline hne⟩
            have hresume := failsIn_resume hholds hnone (hsome hholds hnumber')
            have hnumbered : (o.feed line t).unit.numberedLines =
                o.unit.numberedLines ++ [(number, line)] := by
              rw [← hnumber]
              exact o.numbered_feed line t
            rwa [hnumbered, List.append_assoc, List.singleton_append] at hresume

theorem failsIn_list (u : SourceUnit) (candidates : List Construct) :
    FailsIn u.numberedLines (list u candidates) :=
  (failsIn_listFrom u.first u.lines).1

theorem failsIn_header (i : Item) : FailsIn i.unit.numberedLines i.header := by
  unfold header
  split
  · exact i.unit.failsIn_slice 0 1
  · exact .ok _

/-- An item that is no block ends where all its brackets are closed. -/
theorem IsRead.isBalanced {i : Item} {cs : List (Nat × Text)} (h : IsRead candidates i cs)
    (hleaf : i.construct.isBlock = false) : i.unit.text.IsBalanced := by
  rw [h.holds.text]
  exact exists_balanced_of_bracketDepth ((Construct.ends_leaf_iff hleaf).1 h.passage.fills.ends)

end Item

/-! Declarations and rules, which are refused as a whole. -/

/-- Whether all failures of a computation are about one unit, for a cause of some kind. -/
abbrev FailsAt {α : Type} (P : Fault → Prop) (u : SourceUnit) (x : Except Diagnostic α) : Prop :=
  FailsOnly (fun d => ∃ cause, P cause ∧ d = u.diagnostic cause) x

theorem FailsOnly.locate {α : Type} {P : Fault → Prop} {x : Except Fault α} (h : FailsOnly P x)
    (u : SourceUnit) : FailsAt P u (u.locate x) := by
  cases x with
  | ok a => exact .ok a
  | error cause => exact .error ⟨cause, h cause rfl, rfl⟩

/-- Whether an item is a service with a list whose brackets are no pair. -/
def Item.HasLooseList (i : Item) : Prop := i.construct = .service ∧ Service.HasLooseList i.unit

theorem Declaration.failsAt_ofItem {i : Item} (h : i.unit.text.IsBalanced) :
    FailsAt (fun e => e.IsSemantic ∨ e = .unmatchedClosing ']' ∧ i.HasLooseList) i.unit
      (ofItem i) := by
  unfold ofItem
  split
  · next hservice =>
    have hread := (Service.semanticUnless_read h).mono fun hloose => And.intro hservice hloose
    exact (hread.locate i.unit).map _
  · exact (((Endpoint.semantic_read .scratch h).unless _).locate i.unit).map _
  · exact (((Endpoint.semantic_read .channel h).unless _).locate i.unit).map _
  · exact .error ⟨.noConstruct, .inl ⟨rfl, rfl⟩, rfl⟩

theorem Rule.failsAt_ofItem (s : StateBlock) {i : Item} (h : i.unit.text.IsBalanced) :
    FailsAt Fault.IsSemantic i.unit (ofItem s i) := by
  unfold ofItem
  split
  · exact ((Transmission.semantic_read s h).locate i.unit).map _
  · exact ((Trigger.semantic_read s h).locate i.unit).map _
  · exact ((Merge.semantic_read s i.unit).locate i.unit).map _
  · exact .error ⟨.noConstruct, ⟨rfl, rfl⟩, rfl⟩

/-- Whether the causes of all failures of a computation are regular faults. -/
abbrev RegularAt {α : Type} (x : Except Diagnostic α) : Prop :=
  FailsOnly (fun d => d.cause.IsRegular) x

theorem Declaration.regular_ofItem {i : Item} (h : i.unit.text.IsBalanced) :
    RegularAt (ofItem i) := by
  refine (failsAt_ofItem h).mono ?_
  rintro d ⟨cause, hsemantic | ⟨rfl, -⟩, rfl⟩
  · exact hsemantic.isRegular
  · exact ⟨rfl, rfl⟩

theorem Rule.regular_ofItem (s : StateBlock) {i : Item} (h : i.unit.text.IsBalanced) :
    RegularAt (ofItem s i) := by
  refine (failsAt_ofItem s h).mono ?_
  rintro d ⟨cause, hsemantic, rfl⟩
  exact hsemantic.isRegular

theorem EventBlock.notInternal_readHeader (t : Text) :
    FailsOnly (·.isInternal = false) (readHeader t) := by
  unfold readHeader
  split
  · exact .error rfl
  · exact Condition.notInternal_ofText _

end Overlay
