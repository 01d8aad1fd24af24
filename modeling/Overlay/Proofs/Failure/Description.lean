import Overlay.Proofs.Break.Place
import Overlay.Proofs.Coverage
import Overlay.Proofs.Failure.Item

/-!
Failures of a description. A text is gone through once, in the order in which it is
read, and for each failure on the way it is kept where in the text it arises and from
what. Whatever is said of the answers to a text follows from these few cases.
-/

namespace Overlay

open Text

variable {t : Text}

/-- Whether a diagnostic is one of a text, and what makes it one: its lines and units,
the condition of an event block, or a list whose brackets are no pair. -/
inductive Diagnostic.Arises (t : Text) : Diagnostic → Prop
  | lines {d : Diagnostic} : d.ArisesIn (SourceUnit.numberFrom 1 t.lines) → Arises t d
  | header {i : Item} {header : SourceUnit} {cause : Fault} : i.StandsIn t →
      i.construct = .eventBlock → i.header = .ok header →
      EventBlock.readHeader header.text = .error cause → Arises t (header.diagnostic cause)
  | list {i : Item} : i.StandsIn t → i.HasLooseList →
      Arises t (i.unit.diagnostic (.unmatchedClosing ']'))

/-- Whether all failures of a computation are diagnostics of a text. -/
abbrev Fails {α : Type} (t : Text) (x : Except Diagnostic α) : Prop :=
  FailsOnly (Diagnostic.Arises t) x

theorem FailsIn.fails {α : Type} {lines : List (Nat × Text)} {x : Except Diagnostic α}
    (h : FailsIn lines x) (hrun : lines <:+: SourceUnit.numberFrom 1 t.lines) : Fails t x :=
  FailsOnly.mono h fun _ hd => .lines (hd.mono hrun)

namespace Item

variable {i j : Item} {js : List Item}

theorem construct_mem_of_list {candidates : List Construct} {u : SourceUnit} {items : List Item}
    (h : list u candidates = .ok items) (hi : i ∈ items) : i.construct ∈ candidates := by
  obtain ⟨cs, hread⟩ := exists_isRead_of_mem h hi
  exact List.mem_of_find?_eq_some hread.passage.begins

theorem Contains.concat (h : i.Contains j) (hblock : j.construct.isBlock = true)
    (hjs : j.parts = .ok js) {k : Item} (hk : k ∈ js) : i.Contains k := by
  induction h with
  | self => exact .part hblock hjs hk (.self k)
  | part hblock' hparts hmem _ ih => exact .part hblock' hparts hmem (ih hblock hjs)

namespace StandsIn

theorem part (h : i.StandsIn t) (hblock : i.construct.isBlock = true) (hjs : i.parts = .ok js)
    (hj : j ∈ js) : j.StandsIn t := by
  obtain ⟨u, items, top, hu, hitems, htop, hcontains⟩ := h
  exact ⟨u, items, top, hu, hitems, htop, hcontains.concat hblock hjs hj⟩

theorem exists_isRead (h : i.StandsIn t) : ∃ candidates cs, IsRead candidates i cs := by
  obtain ⟨u, items, top, -, hitems, htop, hcontains⟩ := h
  obtain ⟨cs, hread⟩ := exists_isRead_of_mem hitems htop
  obtain ⟨candidates, ds, hi, -, -⟩ := hread.contains Construct.blocksLast_topLevel hcontains
  exact ⟨candidates, ds, hi⟩

theorem isBalanced (h : i.StandsIn t) (hleaf : i.construct.isBlock = false) :
    i.unit.text.IsBalanced := by
  obtain ⟨candidates, cs, hread⟩ := h.exists_isRead
  exact hread.isBalanced hleaf

/-- The lines of an item are a run of those of the text. -/
theorem run (h : i.StandsIn t) : i.unit.StandsIn (SourceUnit.numberFrom 1 t.lines) := by
  obtain ⟨u, items, top, hu, hitems, htop, hcontains⟩ := h
  have htopStands : top.unit.StandsIn (SourceUnit.numberFrom 1 t.lines) := by
    obtain ⟨cs, -, rfl⟩ := SourceUnit.ofLines_eq_ok_iff.1 hu
    exact standsIn_of_list hitems htop
  clear hitems htop
  induction hcontains with
  | self => exact htopStands
  | part _ hparts hmem _ ih =>
      obtain ⟨body, hbody, hlist⟩ := Except.bind_eq_ok_iff.1 hparts
      exact ih ((standsIn_of_list hlist hmem).mono ((body_isInfix hbody).trans htopStands.run))

/-- The body of a block is cut into its parts, which stand in the text as well. -/
theorem fails_body {α : Type} (h : i.StandsIn t) (hblock : i.construct.isBlock = true)
    {candidates : List Construct} (hparts : i.construct.parts = candidates)
    {f : List Item → Except Diagnostic α}
    (hnext : ∀ js, (∀ j ∈ js, j.StandsIn t ∧ j.construct ∈ candidates) → Fails t (f js)) :
    Fails t (i.body >>= fun body => list body candidates >>= f) := by
  subst hparts
  have hread : FailsIn i.unit.numberedLines i.body := i.unit.failsIn_slice _ _
  refine (hread.fails h.run.run).bind fun body hbody => ?_
  have hrun := (body_isInfix hbody).trans h.run.run
  refine ((failsIn_list body _).fails hrun).bind fun js hjs => hnext js fun j hj => ?_
  have hparts : i.parts = .ok js := by rw [parts, hbody, Except.ok_bind, hjs]
  exact ⟨h.part hblock hparts hj, construct_mem_of_list hjs hj⟩

end StandsIn

end Item

theorem SourceUnit.StandsIn.arises {u : SourceUnit}
    (h : u.StandsIn (SourceUnit.numberFrom 1 t.lines)) {cause : Fault} (hcause : cause.IsSemantic) :
    (u.diagnostic cause).Arises t := .lines (.unit h hcause)

namespace StateBlock

theorem fails_declarationsFrom {taken : List Text} {is : List Item}
    (h : ∀ i ∈ is, i.StandsIn t ∧ i.construct ∈ Construct.declarations) :
    Fails t (declarationsFrom taken is) := by
  induction is generalizing taken with
  | nil => exact .ok []
  | cons i is ih =>
      obtain ⟨hi, hconstruct⟩ := h i List.mem_cons_self
      have hleaf : i.construct.isBlock = false := by
        have htable : ∀ c ∈ Construct.declarations, c.isBlock = false := by decide
        exact htable _ hconstruct
      refine FailsOnly.bind ((Declaration.failsAt_ofItem (hi.isBalanced hleaf)).mono ?_) ?_
      · rintro d ⟨cause, hsemantic | ⟨rfl, hloose⟩, rfl⟩
        · exact hi.run.arises hsemantic
        · exact .list hi hloose
      · intro d hd
        split
        · rw [Declaration.unit_of_ofItem hd]
          exact .error (hi.run.arises ⟨rfl, rfl⟩)
        · exact (ih fun j hj => h j (List.mem_cons_of_mem _ hj)).bind fun _ _ => .ok _

theorem fails_checkServices {s : StateBlock} (h : ∀ e ∈ s.scratches ++ s.channels,
    e.unit.StandsIn (SourceUnit.numberFrom 1 t.lines)) : Fails t s.checkServices := by
  unfold checkServices
  split
  · next e he => exact .error ((h e (List.mem_of_find?_eq_some he)).arises ⟨rfl, rfl⟩)
  · exact .ok ()

theorem fails_ofItem {i : Item} (h : i.StandsIn t) (hstate : i.construct = .stateBlock) :
    Fails t (ofItem i) := by
  refine h.fails_body (by rw [hstate]; rfl) (by rw [hstate]; rfl) fun is hitems => ?_
  refine (fails_declarationsFrom hitems).bind fun ds hds => ?_
  refine (fails_checkServices fun e he => ?_).bind fun _ _ => .ok _
  have hunit : e.unit ∈ (ofDeclarations ds i.unit).lists.flatten := by
    rw [lists, List.flatten_cons]
    refine List.mem_append_right _ ?_
    simpa using List.mem_map_of_mem (f := Endpoint.unit) he
  rw [(sorts_ofDeclarations ds i.unit).perm.mem_iff, units_of_declarationsFrom hds] at hunit
  obtain ⟨j, hj, heq⟩ := List.mem_map.1 hunit
  exact heq ▸ (hitems j hj).1.run

end StateBlock

/-! Rules and event blocks. -/

theorem Rule.fails_ofItem (s : StateBlock) {i : Item} (h : i.StandsIn t)
    (hleaf : i.construct.isBlock = false) : Fails t (ofItem s i) := by
  refine (failsAt_ofItem s (h.isBalanced hleaf)).mono ?_
  rintro d ⟨cause, hsemantic, rfl⟩
  exact h.run.arises hsemantic

theorem EventBlock.fails_ofItem (s : StateBlock) {i : Item} (h : i.StandsIn t)
    (hevent : i.construct = .eventBlock) : Fails t (ofItem s i) := by
  refine ((Item.failsIn_header i).fails h.run.run).bind fun header hheader => ?_
  refine FailsOnly.bind ?_ fun _ _ => ?_
  · cases hread : readHeader header.text with
    | ok c => exact .ok c
    | error cause => exact .error (.header h hevent hheader hread)
  · refine h.fails_body (by rw [hevent]; rfl) (by rw [hevent]; rfl) fun is hitems => ?_
    refine FailsOnly.bind (.mapM fun j hj => ?_) fun _ _ => .ok _
    have htable : ∀ c ∈ Construct.rules, c.isBlock = false := by decide
    exact Rule.fails_ofItem s (hitems j hj).1 (htable _ (hitems j hj).2)

theorem Clause.fails_ofItem (s : StateBlock) {i : Item} (h : i.StandsIn t)
    (hmem : i.construct ∈ Construct.rulesAndEvents) : Fails t (ofItem s i) := by
  unfold ofItem
  split
  · next hevent => exact (EventBlock.fails_ofItem s h hevent).map _
  · next hother =>
    have htable : ∀ c ∈ Construct.rulesAndEvents, c ≠ .eventBlock → c.isBlock = false := by decide
    exact (Rule.fails_ofItem s h (htable _ hmem hother)).map _

namespace BloomBlock

theorem fails_checkEvent (b : BloomBlock) {e : EventBlock}
    (h : e.unit.StandsIn (SourceUnit.numberFrom 1 t.lines)) : Fails t (b.checkEvent e) := by
  unfold checkEvent
  split
  · exact .error (h.arises ⟨rfl, rfl⟩)
  · exact .ok ()

theorem fails_ofItem (s : StateBlock) {i : Item} (h : i.StandsIn t)
    (hbloom : i.construct = .bloomBlock) : Fails t (ofItem s i) := by
  refine h.fails_body (by rw [hbloom]; rfl) (by rw [hbloom]; rfl) fun is hitems => ?_
  refine FailsOnly.bind (.mapM fun j hj => ?_) fun cs hcs => ?_
  · exact Clause.fails_ofItem s (hitems j hj).1 (hitems j hj).2
  · refine FailsOnly.bind (.forM fun e he => fails_checkEvent _ ?_) fun _ _ => .ok _
    obtain ⟨c, hc, hview⟩ := List.mem_filterMap.1 he
    obtain ⟨j, hj, hclause⟩ := Except.exists_of_mem_mapM hcs hc
    rw [EventBlock.unit_of_ofItem (Clause.ofItem_of_event? hclause hview)]
    exact (hitems j hj).1.run

end BloomBlock

/-! Descriptions. -/

namespace Description

theorem fails_theBlock {u : SourceUnit} (h : u.StandsIn (SourceUnit.numberFrom 1 t.lines))
    (items : List Item) (c : Construct) : Fails t (theBlock u items c) := by
  unfold theBlock
  split
  · exact .ok _
  · exact .error (h.arises ⟨rfl, rfl⟩)

/-- In a text without lines the first missing block is reported on the first
line. -/
theorem ofText_of_no_lines {t : Text} (h : t.lines = []) :
    ofText t = .error ⟨.line 1, [], .cardinality .stateBlock 0⟩ := by
  rw [ofText, SourceUnit.ofText, h]
  rfl

theorem fails_ofText {t : Text} (hne : t.lines ≠ []) : Fails t (ofText t) := by
  refine ((SourceUnit.failsIn_ofLines 1 t.lines).fails List.infix_rfl).bind fun u hu => ?_
  have hstands : u.StandsIn (SourceUnit.numberFrom 1 t.lines) := by
    obtain ⟨cs, -, rfl⟩ := SourceUnit.ofLines_eq_ok_iff.1 hu
    exact ⟨hne, List.infix_rfl⟩
  refine ((Item.failsIn_list u _).fails hstands.run).bind fun items hitems => ?_
  have htop {i : Item} (hi : i ∈ items) : i.StandsIn t := ⟨u, items, i, hu, hitems, hi, .self i⟩
  refine (fails_theBlock hstands items .stateBlock).bind fun state hstate => ?_
  refine (fails_theBlock hstands items .bloomBlock).bind fun bloom hbloom => ?_
  obtain ⟨hmem, hconstruct⟩ := construct_of_theBlock hstate
  obtain ⟨hmem', hconstruct'⟩ := construct_of_theBlock hbloom
  refine (StateBlock.fails_ofItem (htop hmem) hconstruct).bind fun s _ => ?_
  exact (BloomBlock.fails_ofItem s (htop hmem') hconstruct').bind fun _ _ => .ok _

end Description

end Overlay
