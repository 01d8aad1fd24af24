import Overlay.Proofs.Description
import Overlay.Proofs.Outline.Cut

/-!
Lines and nodes. Every line of a description that holds something is the header
or the `end` of one block, or belongs to the unit of one declaration or rule. The
account is made for the items of one unit, for a block, and then for blocks that
stand in others.
-/

namespace Overlay

/-! Units that are kept by kind. -/

/-- Whether some units are kept in several lists, in each of which they have
their order. -/
structure Sorts (lists : List (List SourceUnit)) (us : List SourceUnit) : Prop where
  perm : lists.flatten.Perm us
  sublist : ∀ vs ∈ lists, vs.Sublist us

theorem Sorts.cons {front back : List (List SourceUnit)} {vs us : List SourceUnit}
    (h : Sorts (front ++ vs :: back) us) (u : SourceUnit) :
    Sorts (front ++ (u :: vs) :: back) (u :: us) where
  perm := by
    have hperm := h.perm
    simp only [List.flatten_append, List.flatten_cons, List.cons_append] at hperm ⊢
    exact List.perm_middle.trans (hperm.cons u)
  sublist := by
    intro ws hws
    rcases List.mem_append.1 hws with hws | hws
    · exact (h.sublist ws (by simp [hws])).cons u
    · rcases List.mem_cons.1 hws with rfl | hws
      · exact (h.sublist vs (by simp)).cons_cons u
      · exact (h.sublist ws (by simp [hws])).cons u

/-- The units of the declarations of a block, by kind. -/
def StateBlock.lists (s : StateBlock) : List (List SourceUnit) :=
  [s.services.map Service.unit, s.scratches.map Endpoint.unit, s.channels.map Endpoint.unit]

/-- The units of rules, by kind. -/
def Rules.lists (r : Rules) : List (List SourceUnit) :=
  [r.transmissions.map Transmission.unit, r.triggers.map Trigger.unit, r.merges.map Merge.unit]

def Rule.unit : Rule → SourceUnit
  | transmission t => t.unit
  | trigger t => t.unit
  | merge m => m.unit

def Clause.unit : Clause → SourceUnit
  | rule r => r.unit
  | event e => e.unit

theorem StateBlock.sorts_ofDeclarations (ds : List Declaration) (u : SourceUnit) :
    Sorts (ofDeclarations ds u).lists (ds.map Declaration.unit) := by
  induction ds with
  | nil => exact ⟨.nil, by simp [lists, ofDeclarations]⟩
  | cons d ds ih =>
      simp only [lists, ofDeclarations, List.map_cons, List.filterMap_cons] at ih ⊢
      cases d with
      | service s => exact @Sorts.cons [] _ _ _ ih s.unit
      | endpoint e =>
          simp only [Declaration.service?, Declaration.endpoint?]
          cases e.kind with
          | scratch => exact @Sorts.cons [_] _ _ _ ih e.unit
          | channel => exact @Sorts.cons [_, _] _ _ _ ih e.unit

theorem Rules.sorts_ofList (rs : List Rule) : Sorts (ofList rs).lists (rs.map Rule.unit) := by
  induction rs with
  | nil => exact ⟨.nil, by simp [lists, ofList]⟩
  | cons r rs ih =>
      simp only [lists, ofList, List.map_cons, List.filterMap_cons] at ih ⊢
      cases r with
      | transmission t => exact @Sorts.cons [] _ _ _ ih t.unit
      | trigger t => exact @Sorts.cons [_] _ _ _ ih t.unit
      | merge m => exact @Sorts.cons [_, _] _ _ _ ih m.unit

theorem BloomBlock.sorts_ofClauses (cs : List Clause) (u : SourceUnit) :
    Sorts ((ofClauses cs u).rules.lists ++ [(ofClauses cs u).events.map EventBlock.unit])
      (cs.map Clause.unit) := by
  induction cs with
  | nil => exact ⟨.nil, by simp [Rules.lists, Rules.ofList, ofClauses]⟩
  | cons c cs ih =>
      simp only [Rules.lists, Rules.ofList, ofClauses, List.map_cons, List.filterMap_cons,
        List.cons_append, List.nil_append] at ih ⊢
      cases c with
      | rule r =>
          cases r with
          | transmission t => exact @Sorts.cons [] _ _ _ ih t.unit
          | trigger t => exact @Sorts.cons [_] _ _ _ ih t.unit
          | merge m => exact @Sorts.cons [_, _] _ _ _ ih m.unit
      | event e => exact @Sorts.cons [_, _, _] _ _ _ ih e.unit

/-! Units of what was read from items. -/

theorem Service.unit_of_ofUnit {u : SourceUnit} {s : Service} (h : ofUnit u = .ok s) :
    s.unit = u := by
  obtain ⟨_, _, -, -, -, hunit⟩ := ofUnit_eq_ok_iff.1 h
  exact hunit

theorem Endpoint.unit_of_ofUnit {kind : EndpointKind} {u : SourceUnit} {e : Endpoint}
    (h : ofUnit kind u = .ok e) : e.unit = u := by
  obtain ⟨_, _, -, -, -, -, -, hunit⟩ := ofUnit_eq_ok_iff.1 h
  exact hunit

theorem Declaration.unit_of_ofItem {i : Item} {d : Declaration} (h : ofItem i = .ok d) :
    d.unit = i.unit := by
  cases ofItem_eq_ok_iff.1 h with
  | service _ hs => exact Service.unit_of_ofUnit hs
  | endpoint _ he => exact Endpoint.unit_of_ofUnit he

theorem StateBlock.units_of_declarationsFrom {taken : List Text} {is : List Item}
    {ds : List Declaration} (h : declarationsFrom taken is = .ok ds) :
    ds.map Declaration.unit = is.map Item.unit :=
  Except.map_eq_of_mapM (mapM_of_declarationsFrom h) Declaration.unit_of_ofItem

theorem Rule.unit_of_ofItem {s : StateBlock} {i : Item} {r : Rule} (h : ofItem s i = .ok r) :
    r.unit = i.unit := by
  cases ofItem_eq_ok_iff.1 h with
  | transmission _ ht =>
      obtain ⟨_, _, _, _, _, _, -, -, -, -, -, rfl⟩ := Transmission.ofUnit_eq_ok_iff.1 ht
      rfl
  | trigger _ ht =>
      obtain ⟨_, _, _, _, _, -, -, -, -, -, -, -, -, -, -, -, -, hunit⟩ :=
        Trigger.ofUnit_eq_ok_iff.1 ht
      exact hunit
  | merge _ hm =>
      obtain ⟨_, _, _, _, -, -, -, -, -, -, -, -, -, hunit⟩ := Merge.ofUnit_eq_ok_iff.1 hm
      exact hunit

theorem EventBlock.unit_of_ofItem {s : StateBlock} {i : Item} {e : EventBlock}
    (h : ofItem s i = .ok e) : e.unit = i.unit := by
  simp only [ofItem, Except.bind_eq_ok_iff, Except.pure_eq_ok_iff] at h
  obtain ⟨_, -, _, -, _, -, _, -, _, -, rfl⟩ := h
  rfl

theorem Clause.unit_of_ofItem {s : StateBlock} {i : Item} {c : Clause} (h : ofItem s i = .ok c) :
    c.unit = i.unit := by
  cases ofItem_eq_ok_iff.1 h with
  | event _ he => exact EventBlock.unit_of_ofItem he
  | rule _ hr => exact Rule.unit_of_ofItem hr

/-! Accounts of lines. -/

/-- What blocks and other units take up of the lines of a text: the first and the
last line of a block, and all lines of any other unit. -/
def pieces (blocks : List SourceUnit) (lists : List (List SourceUnit)) :
    List (List (Nat × Text)) :=
  blocks.flatMap SourceUnit.frame ++ lists.flatten.map SourceUnit.numberedLines

/-- Whether blocks and lists of other units take up all lines that hold something,
each once, and keep the order of the lines. -/
structure Accounts (blocks : List SourceUnit) (lists : List (List SourceUnit))
    (lines : List (Nat × Text)) : Prop where
  count_eq : ∀ l, HoldsText l → (pieces blocks lists).flatten.count l = lines.count l
  runs : ∀ u ∈ blocks ++ lists.flatten, u.numberedLines <:+: lines
  ordered : ∀ us ∈ lists, us.Pairwise SourceUnit.Before

theorem flatten_pieces (blocks : List SourceUnit) (lists : List (List SourceUnit)) :
    (pieces blocks lists).flatten = (blocks.flatMap fun u => u.headerLine ++ u.endLine) ++
      lists.flatten.flatMap SourceUnit.numberedLines := by
  rw [pieces, List.flatten_append, ← List.flatMap_def]
  congr 1
  induction blocks with
  | nil => rfl
  | cons u us ih =>
      rw [List.flatMap_cons, List.flatten_append, ih, List.flatMap_cons]
      simp [SourceUnit.frame]

/-- The items of a unit account for its lines. -/
theorem Accounts.of_items {candidates : List Construct} {u : SourceUnit} {items : List Item}
    {lists : List (List SourceUnit)} (hitems : Item.list u candidates = .ok items)
    (hsorts : Sorts lists (items.map Item.unit)) : Accounts [] lists u.numberedLines := by
  have hcut := Item.cutInto_of_list hitems
  constructor
  case count_eq =>
    intro l hl
    -- The cut leaves out blank lines only, and `l` is none of them.
    have hcount := congrArg (List.count l) hcut.filter_eq
    rw [List.count_filter (by simpa using hl), List.count_filter (by simpa using hl)] at hcount
    have hperm := hsorts.perm.flatMap_right SourceUnit.numberedLines
    rw [List.flatMap_map] at hperm
    rw [flatten_pieces, List.flatMap_nil, List.nil_append, hperm.count_eq, hcount]
  case runs =>
    intro v hv
    obtain ⟨i, hi, rfl⟩ := List.mem_map.1 (hsorts.perm.mem_iff.1 hv)
    exact hcut.isInfix hi
  case ordered =>
    intro us hus
    refine List.Pairwise.sublist (hsorts.sublist us hus) (hcut.pairwise_before ?_ ?_)
    · rw [SourceUnit.numberedLines, SourceUnit.numbers_numberFrom]
      exact List.pairwise_lt_range'
    · intro i hi
      obtain ⟨cs, hread⟩ := Item.exists_isRead_of_mem hitems hi
      exact hread.holds.lines_ne_nil

/-- A block accounts for its lines if what stands in it accounts for its body. -/
theorem Accounts.block {candidates : List Construct} {i : Item} {cs : List (Nat × Text)}
    (hread : Item.IsRead candidates i cs) (hblock : i.construct.isBlock = true) {body : SourceUnit}
    (hbody : i.body = .ok body) {blocks : List SourceUnit} {lists : List (List SourceUnit)}
    (h : Accounts blocks lists body.numberedLines) :
    Accounts (i.unit :: blocks) lists i.unit.numberedLines := by
  obtain ⟨-, hlines⟩ := hread.block hblock hbody
  constructor
  case count_eq =>
    intro l hl
    have hcount := h.count_eq l hl
    rw [flatten_pieces, List.count_append] at hcount
    rw [flatten_pieces, List.flatMap_cons, hlines]
    simp only [List.count_append]
    omega
  case runs =>
    intro u hu
    rw [List.cons_append] at hu
    rcases List.mem_cons.1 hu with rfl | hu
    · exact List.infix_rfl
    · rw [hlines]
      exact (h.runs u hu).trans ⟨_, _, rfl⟩
  case ordered => exact h.ordered

/-- In an account for lines, some units can be replaced by what accounts for their
lines. -/
theorem Accounts.expand {α : Type} {xs : List α} {unit : α → SourceUnit}
    {inner : α → List SourceUnit} {parts : α → List (List SourceUnit)}
    {blocks : List SourceUnit} {front back : List (List SourceUnit)} {lines : List (Nat × Text)}
    (h : Accounts blocks (front ++ xs.map unit :: back) lines)
    (hparts : ∀ x ∈ xs, Accounts (inner x) (parts x) (unit x).numberedLines) :
    Accounts (blocks ++ xs.flatMap inner) (front ++ xs.flatMap parts ++ back) lines := by
  constructor
  case count_eq =>
    intro l hl
    -- The parts of all units account for just the lines that these units had.
    have hunits : (pieces (xs.flatMap inner) (xs.flatMap parts)).flatten.count l =
        ((xs.map unit).flatMap SourceUnit.numberedLines).count l := by
      clear h
      induction xs with
      | nil => rfl
      | cons x xs ih =>
          have hfirst := (hparts x List.mem_cons_self).count_eq l hl
          have hrest := ih fun y hy => hparts y (List.mem_cons_of_mem _ hy)
          rw [flatten_pieces] at hfirst hrest ⊢
          simp only [List.flatMap_cons, List.flatten_append, List.flatMap_append,
            List.count_append, List.map_cons] at hfirst hrest ⊢
          omega
    have hcount := h.count_eq l hl
    rw [flatten_pieces] at hcount hunits ⊢
    simp only [List.flatten_append, List.flatten_cons, List.flatMap_append, List.count_append]
      at hcount hunits ⊢
    omega
  case runs =>
    intro u hu
    have hinner : ∀ x ∈ xs, (unit x).numberedLines <:+: lines := by
      intro x hx
      exact h.runs _ (by simp [List.mem_map_of_mem hx])
    -- What is new lies within a unit, and that is a run of the lines.
    have hold : u ∈ blocks ++ (front.flatten ++ back.flatten) ∨
        ∃ x ∈ xs, u ∈ inner x ++ (parts x).flatten := by
      simp only [List.mem_append, List.mem_flatten, List.mem_flatMap] at hu ⊢
      grind
    rcases hold with hu | ⟨x, hx, hu⟩
    · exact h.runs u (by simp at hu ⊢; grind)
    · exact ((hparts x hx).runs u hu).trans (hinner x hx)
  case ordered =>
    intro us hus
    rcases List.mem_append.1 hus with hus | hus
    · rcases List.mem_append.1 hus with hus | hus
      · exact h.ordered us (by simp [hus])
      · obtain ⟨x, hx, hus⟩ := List.mem_flatMap.1 hus
        exact (hparts x hx).ordered us hus
    · exact h.ordered us (by simp [hus])

/-! Accounts of what was read. -/

theorem EventBlock.accounts_of_ofItem {candidates : List Construct} {s : StateBlock} {i : Item}
    {e : EventBlock} {cs : List (Nat × Text)} (hread : Item.IsRead candidates i cs)
    (hconstruct : i.construct = .eventBlock) (h : ofItem s i = .ok e) :
    e.unit.IsFramed .eventBlock ∧ Accounts [e.unit] e.rules.lists e.unit.numberedLines := by
  simp only [ofItem, Except.bind_eq_ok_iff, Except.pure_eq_ok_iff] at h
  obtain ⟨_, -, _, -, body, hbody, is, his, rs, hrs, rfl⟩ := h
  have hblock : i.construct.isBlock = true := by rw [hconstruct]; rfl
  have hunits : rs.map Rule.unit = is.map Item.unit :=
    Except.map_eq_of_mapM hrs Rule.unit_of_ofItem
  have hsorts := Rules.sorts_ofList rs
  rw [hunits] at hsorts
  exact ⟨hconstruct ▸ (hread.block hblock hbody).1,
    .block hread hblock hbody (.of_items his hsorts)⟩

namespace BloomBlock

/-- The blocks of a bloom block, itself included. -/
def blocks (b : BloomBlock) : List SourceUnit := b.unit :: b.events.map EventBlock.unit

/-- The units of the rules of a bloom block, by place and kind. -/
def lists (b : BloomBlock) : List (List SourceUnit) :=
  b.rules.lists ++ b.events.flatMap fun e => e.rules.lists

/-- Whether the blocks of a bloom block have their frames, and those inside
their order. -/
structure IsOutlined (b : BloomBlock) : Prop where
  frame : b.unit.IsFramed .bloomBlock
  frames : ∀ e ∈ b.events, e.unit.IsFramed .eventBlock
  ordered : (b.events.map EventBlock.unit).Pairwise SourceUnit.Before

theorem accounts_of_ofItem {candidates : List Construct} {s : StateBlock} {i : Item}
    {b : BloomBlock} {cs : List (Nat × Text)} (hread : Item.IsRead candidates i cs)
    (hconstruct : i.construct = .bloomBlock) (h : ofItem s i = .ok b) :
    b.IsOutlined ∧ Accounts b.blocks b.lists i.unit.numberedLines := by
  simp only [ofItem, Except.bind_eq_ok_iff, Except.pure_eq_ok_iff] at h
  obtain ⟨body, hbody, is, his, clauses, hclauses, _, -, rfl⟩ := h
  have hblock : i.construct.isBlock = true := by rw [hconstruct]; rfl
  have hunits : clauses.map Clause.unit = is.map Item.unit :=
    Except.map_eq_of_mapM hclauses Clause.unit_of_ofItem
  have hsorts := sorts_ofClauses clauses i.unit
  rw [hunits] at hsorts
  have hitems := Accounts.of_items his hsorts
  have hevents : ∀ e ∈ (ofClauses clauses i.unit).events,
      e.unit.IsFramed .eventBlock ∧ Accounts [e.unit] e.rules.lists e.unit.numberedLines := by
    intro e he
    obtain ⟨c, hc, hview⟩ := List.mem_filterMap.1 he
    obtain ⟨j, hj, hclause⟩ := Except.exists_of_mem_mapM hclauses hc
    obtain ⟨ds, hds⟩ := Item.exists_isRead_of_mem his hj
    exact EventBlock.accounts_of_ofItem hds (Clause.construct_of_event? hclause hview)
      (Clause.ofItem_of_event? hclause hview)
  constructor
  · exact {
      frame := hconstruct ▸ (hread.block hblock hbody).1
      frames := fun e he => (hevents e he).1
      ordered := hitems.ordered _ (by simp) }
  · have hall := hitems.expand fun e he => (hevents e he).2
    have hwhole := hall.block hread hblock hbody
    rw [List.append_nil, List.nil_append] at hwhole
    have hblocks : (ofClauses clauses i.unit).events.flatMap (fun e => [e.unit]) =
        (ofClauses clauses i.unit).events.map EventBlock.unit := List.map_eq_flatMap.symm
    rwa [hblocks] at hwhole

end BloomBlock

theorem StateBlock.accounts_of_ofItem {candidates : List Construct} {i : Item} {s : StateBlock}
    {cs : List (Nat × Text)} (hread : Item.IsRead candidates i cs)
    (hconstruct : i.construct = .stateBlock) (h : ofItem i = .ok s) :
    s.unit.IsFramed .stateBlock ∧ Accounts [s.unit] s.lists i.unit.numberedLines := by
  simp only [ofItem, Except.bind_eq_ok_iff, Except.pure_eq_ok_iff] at h
  obtain ⟨body, hbody, is, his, ds, hds, _, -, rfl⟩ := h
  have hblock : i.construct.isBlock = true := by rw [hconstruct]; rfl
  have hsorts := sorts_ofDeclarations ds i.unit
  rw [units_of_declarationsFrom hds] at hsorts
  exact ⟨hconstruct ▸ (hread.block hblock hbody).1,
    .block hread hblock hbody (.of_items his hsorts)⟩

namespace Description

/-- All blocks of a description. -/
def blocks (d : Description) : List SourceUnit := d.state.unit :: d.bloom.blocks

/-- The units of all declarations and rules, by place and kind. -/
def lists (d : Description) : List (List SourceUnit) := d.state.lists ++ d.bloom.lists

/-- The header and the `end` of each block, and the unit of each declaration and
each rule. -/
def pieces (d : Description) : List (List (Nat × Text)) := Overlay.pieces d.blocks d.lists

/-- Whether a description takes up each line that holds something in one of its
pieces, whether its units are runs of the lines, whether its blocks have their
header and `end`, and its nodes the order of the lines. -/
structure Covers (d : Description) (lines : List (Nat × Text)) : Prop where
  once : ∀ l ∈ lines, HoldsText l → d.pieces.countP (l ∈ ·) = 1
  runs : ∀ u ∈ d.blocks ++ d.lists.flatten, u.numberedLines <:+: lines
  state : d.state.unit.IsFramed .stateBlock
  bloom : d.bloom.unit.IsFramed .bloomBlock
  events : ∀ e ∈ d.bloom.events, e.unit.IsFramed .eventBlock
  ordered : ∀ us ∈ d.bloom.events.map EventBlock.unit :: d.lists, us.Pairwise SourceUnit.Before

theorem countP_mem_eq_one {α : Type} [BEq α] [LawfulBEq α] {a : α} {xss : List (List α)}
    (h : xss.flatten.count a = 1) : xss.countP (a ∈ ·) = 1 := by
  induction xss with
  | nil => cases h
  | cons xs xss ih =>
      rw [List.flatten_cons, List.count_append] at h
      by_cases hmem : a ∈ xs
      · have hpos := List.count_pos_iff.2 hmem
        have hnone : a ∉ xss.flatten := List.count_eq_zero.1 (by omega)
        have hrest : xss.countP (a ∈ ·) = 0 := by
          rw [List.countP_eq_zero]
          intro ys hys hin
          exact hnone (List.mem_flatten.2 ⟨ys, hys, by simpa using hin⟩)
        rw [List.countP_cons_of_pos (by simpa using hmem), hrest]
      · rw [List.count_eq_zero.2 hmem, Nat.zero_add] at h
        rw [List.countP_cons_of_neg (by simpa using hmem), ih h]

theorem filter_of_theBlock {u : SourceUnit} {items : List Item} {c : Construct} {i : Item}
    (h : theBlock u items c = .ok i) : items.filter (·.construct = c) = [i] := by
  unfold theBlock at h
  split at h
  · next heq =>
    cases h
    exact heq
  · cases h

/-- The items of a description are its two blocks, in either order. -/
theorem sorts_of_theBlock {u : SourceUnit} {items : List Item} {i j : Item}
    (hitems : Item.list u Construct.topLevel = .ok items)
    (hi : theBlock u items .stateBlock = .ok i) (hj : theBlock u items .bloomBlock = .ok j) :
    Sorts [[i.unit], [j.unit]] (items.map Item.unit) := by
  have hi := filter_of_theBlock hi
  have hj := filter_of_theBlock hj
  have hother : items.filter (fun k => !decide (k.construct = .stateBlock)) = [j] := by
    rw [← hj]
    refine List.filter_congr fun k hk => ?_
    obtain ⟨cs, hread⟩ := Item.exists_isRead_of_mem hitems hk
    have hmem := List.mem_of_find?_eq_some hread.passage.begins
    rcases List.mem_cons.1 hmem with heq | hmem
    · simp [heq]
    · rw [List.mem_singleton.1 hmem]
      rfl
  have hperm := List.filter_append_perm (fun k : Item => decide (k.construct = .stateBlock)) items
  rw [hi, hother] at hperm
  constructor
  case perm => exact hperm.map Item.unit
  case sublist =>
    intro us hus
    rcases List.mem_cons.1 hus with rfl | hus
    · exact List.Sublist.map Item.unit (hi ▸ List.filter_sublist)
    · obtain rfl := List.mem_singleton.1 hus
      exact List.Sublist.map Item.unit (hj ▸ List.filter_sublist)

theorem construct_of_theBlock {u : SourceUnit} {items : List Item} {c : Construct} {i : Item}
    (h : theBlock u items c = .ok i) : i ∈ items ∧ i.construct = c := by
  have hmem : i ∈ items.filter (·.construct = c) := by
    rw [filter_of_theBlock h]
    exact List.mem_singleton_self i
  simpa using hmem

/-- No line of a description is lost or used twice. -/
theorem covers_of_ofText {t : Text} {d : Description} (h : ofText t = .ok d) :
    d.Covers (SourceUnit.numberFrom 1 t.lines) := by
  simp only [ofText, Except.bind_eq_ok_iff, Except.pure_eq_ok_iff] at h
  obtain ⟨u, hu, items, hitems, i, hi, j, hj, s, hs, b, hb, rfl⟩ := h
  have hlines : u.numberedLines = SourceUnit.numberFrom 1 t.lines := by
    obtain ⟨_, -, rfl⟩ := SourceUnit.ofLines_eq_ok_iff.1 hu
    rfl
  obtain ⟨himem, hiconstruct⟩ := construct_of_theBlock hi
  obtain ⟨hjmem, hjconstruct⟩ := construct_of_theBlock hj
  obtain ⟨cs, hiread⟩ := Item.exists_isRead_of_mem hitems himem
  obtain ⟨ds, hjread⟩ := Item.exists_isRead_of_mem hitems hjmem
  obtain ⟨hstate, hstateLines⟩ := StateBlock.accounts_of_ofItem hiread hiconstruct hs
  obtain ⟨hbloom, hbloomLines⟩ := BloomBlock.accounts_of_ofItem hjread hjconstruct hb
  -- The units at the top give way to what stands in them, one after the other.
  have htop := Accounts.of_items hitems (sorts_of_theBlock hitems hi hj)
  have hfirst := @Accounts.expand Item [i] Item.unit (fun _ => [s.unit])
    (fun _ => s.lists) [] [] [[j.unit]] _ htop (by simpa using hstateLines)
  have hall := @Accounts.expand Item [j] Item.unit (fun _ => b.blocks)
    (fun _ => b.lists) [s.unit] s.lists [] _ (by simpa using hfirst) (by simpa using hbloomLines)
  have hall : Accounts (⟨s, b⟩ : Description).blocks (⟨s, b⟩ : Description).lists
      (SourceUnit.numberFrom 1 t.lines) := by
    simpa [blocks, lists, hlines] using hall
  constructor
  case once =>
    intro l hl hholds
    refine countP_mem_eq_one ?_
    rw [pieces, hall.count_eq l hholds]
    have hnodup : (SourceUnit.numberFrom 1 t.lines).Nodup := by
      refine List.Nodup.of_map Prod.fst ?_
      rw [SourceUnit.numbers_numberFrom]
      exact List.nodup_range'
    exact List.count_eq_one_of_mem hnodup hl
  case runs => exact hall.runs
  case state => exact hstate
  case bloom => exact hbloom.frame
  case events => exact hbloom.frames
  case ordered =>
    intro us hus
    rcases List.mem_cons.1 hus with rfl | hus
    · exact hbloom.ordered
    · exact hall.ordered us hus

/-- Blocks in the other order, with lines between their parts. -/
def scattered : Text := ['\n'].intercalate ([
  "# rules come first",
  "bloom do",
  "  c <~ s",
  "  e.on do # while it is on",
  "",
  "    d <~ merge(10,",
  "      # both",
  "      c, d)",
  "  end",
  "",
  "  e <+ c.trigger(1, count > 2, v > 3)",
  "end",
  "",
  "state do",
  "  scratch s: @a",
  "  @a: discovery()",
  "",
  "  channel c: @a",
  "  channel d: @a",
  "end"].map String.toList)

/-- The lines of `scattered` stand in three headers, three ends and seven units. -/
theorem covers_scattered : ∃ d, ofText scattered = .ok d ∧ d.pieces.length = 13 ∧
    d.Covers (SourceUnit.numberFrom 1 scattered.lines) := by
  have hcount : (ofText scattered).toOption.map (fun d => d.pieces.length) = some 13 := by
    -- Lists of characters cost the kernel less than the literals they come from.
    simp only [scattered, List.map_cons, List.map_nil]
    repeat rw [String.toList_ofList]
    decide +kernel
  obtain ⟨d, h, hpieces⟩ := Except.exists_ok_of_map hcount
  exact ⟨d, h, hpieces, covers_of_ofText h⟩

end Description

end Overlay
