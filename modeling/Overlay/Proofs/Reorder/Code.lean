import Overlay.Proofs.Layout.Code
import Overlay.Proofs.Reorder.Items
import Overlay.Proofs.Reorder.State

/-!
Descriptions in another order. Declarations may stand in any order, and so may
rules and event blocks as long as the transmissions, the merges, the event blocks
and the triggers of an event in one direction each keep theirs: the code is the
same.
-/

namespace Overlay

open Item

variable {candidates : List Construct} {i i' : Item}

theorem Item.Reordered.mem (h : Reordered candidates i i') : i.construct ∈ candidates := by
  obtain ⟨cs, hread, -⟩ := h.closed
  exact List.mem_of_find?_eq_some hread.passage.begins

/-- Among constructs without blocks each item is read as it was. -/
theorem Item.forall₂_readAlike (hleaf : ∀ c ∈ candidates, c.isBlock = false) {js ks : List Item}
    (h : List.Forall₂ (Reordered candidates) js ks) :
    List.Forall₂ (ReadAlike candidates) js ks :=
  h.imp fun _ _ hre => hre.readAlike (hleaf _ hre.mem)

namespace StateBlock

/-- Whether two blocks have the same declarations, in any order and at any places. -/
def Reordered (s s' : StateBlock) : Prop := ∃ between, s.Permuted between ∧ between.Moved s'

theorem ofItem_of_reordered (h : Item.Reordered candidates i i')
    (hc : i.construct = .stateBlock) {s : StateBlock} (hs : ofItem i = .ok s) :
    ∃ s', ofItem i' = .ok s' ∧ s.Reordered s' := by
  have hwell := wellFormed_of_ofItem hs
  obtain ⟨-, -, js, js', ks, -, -, -, hjs, horder, hks, hall⟩ := h.block (by rw [hc]; rfl)
  rw [hc] at hall
  rw [ofItem_eq_of_parts hc, hjs, Except.ok_bind] at hs
  simp only [Except.bind_eq_ok_iff, Except.pure_eq_ok_iff] at hs
  obtain ⟨ds, hds, x, hcheck, rfl⟩ := hs
  -- The same declarations are accepted in the other order.
  obtain ⟨ds', hds', hperm⟩ := Except.mapM_perm horder.perm (mapM_of_declarationsFrom hds)
  have hnames : (ds'.map Declaration.name).Nodup :=
    (hperm.map Declaration.name).nodup_iff.1 (names_of_declarationsFrom hds).1
  have hpermuted := permuted_ofDeclarations hperm i.unit i.unit
  have hcheck' := hpermuted.checkServices hwell.distinct hcheck
  -- And they are read again from their lines.
  obtain ⟨es, hes, hmoved⟩ := (agree_declarationsFrom (forall₂_readAlike (by decide) hall)
    []).exists_of_ok (declarationsFrom_of_mapM hds' hnames fun _ _ => List.not_mem_nil)
  have hblock := moved_ofDeclarations hmoved i.unit i'.unit
  refine ⟨ofDeclarations es i'.unit, ?_, _, hpermuted, hblock⟩
  rw [ofItem_eq_of_parts (h.construct.trans hc), hks, Except.ok_bind, hes, Except.ok_bind,
    hblock.checkServices hcheck']
  rfl

end StateBlock

/-! Rules and event blocks. -/

/-- Whether two event blocks have the same code. -/
structure EventBlock.SameCode (e e' : EventBlock) : Prop where
  condition : e'.condition = e.condition
  rules : e.rules.SameCode e'.rules

/-- Whether two clauses have the same code. -/
inductive Clause.SameCode : Clause → Clause → Prop
  | rule {r r' : Rule} : r.Moved r' → SameCode (.rule r) (.rule r')
  | event {e e' : EventBlock} : e.SameCode e' → SameCode (.event e) (.event e')

section

variable {s s' : StateBlock} (hs : s.Reordered s') (hnodup : s.names.Nodup)

include hs hnodup

theorem Rule.ofItem_of_readAlike (h : ReadAlike candidates i i') :
    Agree Rule.Moved (ofItem s i) (ofItem s' i') := by
  obtain ⟨between, hpermuted, hmoved⟩ := hs
  rw [← hpermuted.ofItem_rule hnodup]
  exact agree_ofItem hmoved h

theorem EventBlock.ofItem_of_reordered (h : Reordered candidates i i')
    (hc : i.construct = .eventBlock) {e : EventBlock} (he : ofItem s i = .ok e) :
    ∃ e', ofItem s' i' = .ok e' ∧ e.SameCode e' := by
  obtain ⟨header, header', js, js', ks, hheader, hheader', hsame, hjs, horder, hks, hall⟩ :=
    h.block (by rw [hc]; rfl)
  rw [hc] at hall
  rw [ofItem_eq_of_parts s hc, hheader, Except.ok_bind, hjs] at he
  simp only [Except.bind_eq_ok_iff, Except.pure_eq_ok_iff, Except.ok.injEq, exists_eq_left',
    SourceUnit.locate_eq_ok_iff] at he
  obtain ⟨condition, hcondition, rules, hrules, rfl⟩ := he
  obtain ⟨rules', hrules', hkept⟩ := horder.mapM Rule.series_of_ofItem hrules
  obtain ⟨rules'', hrules'', hmoved⟩ := (Agree.mapM (forall₂_readAlike (by decide) hall)
    fun hre => Rule.ofItem_of_readAlike hs hnodup hre).exists_of_ok hrules'
  refine ⟨⟨condition, .ofList rules'', i'.unit⟩, ?_, rfl,
    (Rules.sameCode_of_sameOrder hkept).trans (Rules.moved_ofList hmoved).sameCode⟩
  rw [ofItem_eq_of_parts s' (h.construct.trans hc), hheader', Except.ok_bind, hsame, hks]
  simp only [Except.bind_eq_ok_iff, Except.pure_eq_ok_iff, Except.ok.injEq, exists_eq_left',
    SourceUnit.locate_eq_ok_iff]
  exact ⟨condition, hcondition, rules'', hrules'', rfl⟩

theorem Clause.ofItem_of_reordered (h : Reordered Construct.rulesAndEvents i i') {c : Clause}
    (hc : ofItem s i = .ok c) : ∃ c', ofItem s' i' = .ok c' ∧ c.SameCode c' := by
  cases ofItem_eq_ok_iff.1 hc with
  | event hevent he =>
      obtain ⟨e', he', hsame⟩ := EventBlock.ofItem_of_reordered hs hnodup h hevent he
      exact ⟨.event e', ofItem_eq_ok_iff.2 (.event (h.construct.trans hevent) he'), .event hsame⟩
  | rule hrule hr =>
      have hleaf : ∀ c ∈ Construct.rulesAndEvents, c ≠ .eventBlock → c.isBlock = false := by
        decide
      obtain ⟨r', hr', hmoved⟩ := (Rule.ofItem_of_readAlike hs hnodup
        (h.readAlike (hleaf _ h.mem hrule))).exists_of_ok hr
      exact ⟨.rule r', ofItem_eq_ok_iff.2 (.rule (h.construct ▸ hrule) hr'), .rule hmoved⟩

end

/-- Whether two `bloom` blocks have the same code. -/
structure BloomBlock.SameCode (b b' : BloomBlock) : Prop where
  rules : b.rules.SameCode b'.rules
  events : List.Forall₂ EventBlock.SameCode b.events b'.events

namespace BloomBlock

/-- Clauses in another order, read again. -/
theorem sameCode_ofClauses {cs cs' cs'' : List Clause}
    (horder : SameOrder (fun c => some c.series) cs cs')
    (hread : List.Forall₂ Clause.SameCode cs' cs'') (u u' : SourceUnit) :
    (ofClauses cs u).SameCode (ofClauses cs'' u') := by
  constructor
  case rules =>
    have hkept : SameOrder (fun r => some r.series) (cs.filterMap Clause.rule?)
        (cs'.filterMap Clause.rule?) := by
      refine horder.filterMap fun {c r} hr => ?_
      cases c <;> cases hr
      rfl
    have hmoved : List.Forall₂ Rule.Moved (cs'.filterMap Clause.rule?)
        (cs''.filterMap Clause.rule?) := by
      refine forall₂_filterMap hread ?_
      rintro _ _ (hr | he)
      · exact .some hr
      · exact .none
    exact (Rules.sameCode_of_sameOrder hkept).trans (Rules.moved_ofList hmoved).sameCode
  case events =>
    -- Event blocks are one series, so they come in the order that they had.
    have hkept : cs'.filterMap Clause.event? = cs.filterMap Clause.event? := by
      refine horder.filterMap_eq (k := .events) fun {c e} he => ?_
      cases c <;> cases he
      rfl
    show List.Forall₂ EventBlock.SameCode (cs.filterMap Clause.event?)
      (cs''.filterMap Clause.event?)
    rw [← hkept]
    refine forall₂_filterMap hread ?_
    rintro _ _ (hr | he)
    · exact .none
    · exact .some he

theorem SameCode.mem_definedEvents {b b' : BloomBlock} (h : b.SameCode b') (event : Text) :
    event ∈ b'.definedEvents ↔ event ∈ b.definedEvents := by
  have hinner : (∃ e' ∈ b'.events, event ∈ e'.rules.events) ↔
      ∃ e ∈ b.events, event ∈ e.rules.events := by
    constructor
    · rintro ⟨e', he', hevent⟩
      obtain ⟨e, he, hsame⟩ := forall₂_exists_of_mem_right h.events he'
      exact ⟨e, he, (hsame.rules.events event).1 hevent⟩
    · rintro ⟨e, he, hevent⟩
      obtain ⟨e', he', hsame⟩ := forall₂_exists_of_mem_left h.events he
      exact ⟨e', he', (hsame.rules.events event).2 hevent⟩
  simp only [definedEvents, List.mem_append, List.mem_flatMap, h.rules.events, hinner]

theorem SameCode.checkEvent {b b' : BloomBlock} (h : b.SameCode b') {e e' : EventBlock}
    (he : e.SameCode e') (hcheck : b.checkEvent e = .ok ()) : b'.checkEvent e' = .ok () := by
  have hcontains (name : Text) :
      b'.definedEvents.contains name = b.definedEvents.contains name := by
    simp only [List.contains_eq_mem, h.mem_definedEvents]
  unfold BloomBlock.checkEvent at hcheck ⊢
  simp only [he.condition, hcontains]
  split at hcheck
  · cases hcheck
  · rfl

theorem ofItem_of_reordered {s s' : StateBlock} (hs : s.Reordered s') (hnodup : s.names.Nodup)
    (h : Item.Reordered candidates i i') (hc : i.construct = .bloomBlock) {b : BloomBlock}
    (hb : ofItem s i = .ok b) : ∃ b', ofItem s' i' = .ok b' ∧ b.SameCode b' := by
  obtain ⟨-, -, js, js', ks, -, -, -, hjs, horder, hks, hall⟩ := h.block (by rw [hc]; rfl)
  rw [hc] at hall
  rw [ofItem_eq_of_parts s hc, hjs, Except.ok_bind] at hb
  simp only [Except.bind_eq_ok_iff, Except.pure_eq_ok_iff] at hb
  obtain ⟨clauses, hclauses, x, hcheck, rfl⟩ := hb
  obtain ⟨clauses', hclauses', hkept⟩ := horder.mapM Clause.series_of_ofItem hclauses
  obtain ⟨clauses'', hclauses'', hread⟩ := Except.mapM_of_forall₂ hall hclauses'
    fun hre hc => Clause.ofItem_of_reordered hs hnodup hre hc
  have hsame := sameCode_ofClauses hkept hread i.unit i'.unit
  refine ⟨_, ?_, hsame⟩
  rw [ofItem_eq_of_parts s' (h.construct.trans hc), hks, Except.ok_bind]
  simp only [Except.bind_eq_ok_iff, Except.pure_eq_ok_iff]
  refine ⟨clauses'', hclauses'', x, ?_, rfl⟩
  rw [Except.forM_eq_ok_iff] at hcheck ⊢
  intro e' he'
  obtain ⟨e, he, hevent⟩ := forall₂_exists_of_mem_right hsame.events he'
  exact hsame.checkEvent hevent (hcheck e he)

end BloomBlock

namespace Code

/-- Services with distinct names may be added in any order. -/
theorem foldl_addService_of_perm {ss ss' : List Service} (h : ss.Perm ss')
    (hnodup : (ss.map Service.name).Nodup) (m : Keyed (Keyed Json)) :
    ss'.foldl addService m = ss.foldl addService m := by
  refine Keyed.ext_find? fun reference => ?_
  -- The service that was added last is found first from the end.
  have hreferences : (ss.reverse.map Service.reference).Nodup := by
    rw [List.map_reverse, List.nodup_reverse]
    exact nodup_references hnodup
  have hperm : ss.reverse.Perm ss'.reverse :=
    (List.reverse_perm ss).trans (h.trans (List.reverse_perm ss').symm)
  rw [find?_foldl_addService, find?_foldl_addService,
    StateBlock.find?_eq_of_perm hperm hreferences]

theorem ofDescription_of_sameCode {d d' : Description} (hstate : d.state.Reordered d'.state)
    (hnodup : d.state.names.Nodup) (hbloom : d.bloom.SameCode d'.bloom) (overlay : Text) :
    ofDescription overlay d' = ofDescription overlay d := by
  obtain ⟨between, hpermuted, hmoved⟩ := hstate
  have hservices : d'.state.services.foldl addService .empty =
      d.state.services.foldl addService .empty :=
    (foldl_addService_of_moved hmoved.services _).trans
      (foldl_addService_of_perm hpermuted.services hnodup.of_append_left _)
  have hevents : d'.bloom.events.map EventBlock.code = d.bloom.events.map EventBlock.code := by
    refine map_eq_of_forall₂ hbloom.events fun {e e'} he => ?_
    rw [EventBlock.code, EventBlock.code, he.condition, he.rules.code]
  rw [ofDescription, ofDescription, add, add, hevents]
  congr 1
  exact hbloom.rules.code

end Code

/-- Whether a text holds the blocks of another, with the parts of each rearranged. -/
def Description.Rearranges (t t' : Text) : Prop :=
  ∃ u items ts, SourceUnit.ofText t 0 = .ok u ∧ Item.list u Construct.topLevel = .ok items ∧
    t'.lines.mapM Text.stripComment = .ok ts ∧ AllRearranged items (ts.filter (· ≠ []))

theorem Description.ofText_of_rearranges {t t' : Text} (h : Rearranges t t') {d : Description}
    (hd : ofText t = .ok d) : ∃ d', ofText t' = .ok d' ∧ d.state.Reordered d'.state ∧
      d.bloom.SameCode d'.bloom := by
  obtain ⟨u, items, ts, hu, hitems, hts, hall⟩ := h
  obtain ⟨cs, hcs, htexts⟩ := Content.exists_of_mapM 1 hts
  have hu' := SourceUnit.ofLines_eq_ok_iff.2 ⟨cs, hcs, rfl⟩
  obtain ⟨css, -, hread⟩ := readsAs_of_list hitems
  have hclosed : ∀ i ∈ items, i.IsClosed Construct.topLevel := by
    intro i hi
    obtain ⟨ds, -, hi⟩ := forall₂_exists_of_mem_left hread hi
    have hblock : ∀ c ∈ Construct.topLevel, c.isBlock = true := by decide
    exact ⟨ds, hi, (hi.rises_of_block (hblock _ (List.mem_of_find?_eq_some hi.passage.begins))).1⟩
  obtain ⟨items', hitems', hreordered⟩ := list_of_allRearranged
    (u := ⟨1, t'.lines, [' '].intercalate (texts cs)⟩) hclosed hall hcs htexts
  simp only [ofText, hu, hitems, Except.bind_eq_ok_iff, Except.ok.injEq, exists_eq_left',
    Except.pure_eq_ok_iff] at hd
  obtain ⟨stateItem, hstateItem, bloomItem, hbloomItem, state, hstate, bloom, hbloom, rfl⟩ := hd
  have hconstruct {i i' : Item} (h : Reordered Construct.topLevel i i') :
      i'.construct = i.construct := h.construct
  obtain ⟨stateItem', hstateItem', hc, hre⟩ :=
    (agree_theBlock hconstruct hreordered u ⟨1, t'.lines, [' '].intercalate (texts cs)⟩
      .stateBlock).exists_of_ok hstateItem
  obtain ⟨bloomItem', hbloomItem', hc', hre'⟩ :=
    (agree_theBlock hconstruct hreordered u ⟨1, t'.lines, [' '].intercalate (texts cs)⟩
      .bloomBlock).exists_of_ok hbloomItem
  obtain ⟨state', hstate', hsame⟩ := StateBlock.ofItem_of_reordered hre hc hstate
  have hnodup := (StateBlock.wellFormed_of_ofItem hstate).distinct
  obtain ⟨bloom', hbloom', hsame'⟩ :=
    BloomBlock.ofItem_of_reordered hsame hnodup hre' hc' hbloom
  refine ⟨⟨state', bloom'⟩, ?_, hsame, hsame'⟩
  simp only [ofText, SourceUnit.ofText, Nat.zero_add, hu', hitems', Except.bind_eq_ok_iff,
    Except.ok.injEq, exists_eq_left', Except.pure_eq_ok_iff]
  exact ⟨stateItem', hstateItem', bloomItem', hbloomItem', state', hstate', bloom', hbloom', rfl⟩

namespace Code

/-- The order of declarations, and that of rules and event blocks of different
series, has no part in the code. -/
theorem compile_of_rearranges {overlay t t' : Text} {code : Code}
    (h : compile overlay t = .ok code) (hre : Description.Rearranges t t') :
    compile overlay t' = .ok code := by
  obtain ⟨d, hd, rfl⟩ := Except.map_eq_ok_iff.1 h
  obtain ⟨d', hd', hstate, hbloom⟩ := Description.ofText_of_rearranges hre hd
  have hnodup := (Description.resolves_of_ofText hd).1.distinct
  exact Except.map_eq_ok_iff.2 ⟨d', hd', ofDescription_of_sameCode hstate hnodup hbloom overlay⟩

/-- A description in which the rules are read one after the other. -/
def straight : List Text := ([
  "state do",
  "@a: discovery()",
  "scratch s: @a",
  "channel c: @a",
  "end",
  "bloom do",
  "c <~ s",
  "e <+ c.trigger(60, count > 1, v > 4)",
  "e.on do",
  "c <~ s",
  "e <- c.trigger(60, count > 1, v < 2)",
  "end",
  "end"].map String.toList)

/-- The same declarations and rules, in another order. -/
def turned : List Text := ([
  "state do",
  "channel c: @a",
  "scratch s: @a",
  "@a: discovery()",
  "end",
  "bloom do",
  "e.on do",
  "e <- c.trigger(60, count > 1, v < 2)",
  "c <~ s",
  "end",
  "e <+ c.trigger(60, count > 1, v > 4)",
  "c <~ s",
  "end"].map String.toList)

/-- The item of some lines of the description. -/
def straightItem (c : Construct) (first count : Nat) : Item :=
  let lines := (straight.drop (first - 1)).take count
  ⟨c, first, lines, [' '].intercalate lines⟩

theorem rearranged_straight : AllRearranged
    [straightItem .stateBlock 1 5, straightItem .bloomBlock 6 8] turned := by
  have hstate : SameOrder Item.series?
      [straightItem .service 2 1, straightItem .scratch 3 1, straightItem .channel 4 1]
      [straightItem .channel 4 1, straightItem .scratch 3 1, straightItem .service 2 1] := by
    decide +kernel
  have hevent : SameOrder Item.series?
      [straightItem .transmission 10 1, straightItem .trigger 11 1]
      [straightItem .trigger 11 1, straightItem .transmission 10 1] := by
    decide +kernel
  have hbloom : SameOrder Item.series?
      [straightItem .transmission 7 1, straightItem .trigger 8 1, straightItem .eventBlock 9 4]
      [straightItem .eventBlock 9 4, straightItem .trigger 8 1,
        straightItem .transmission 7 1] := by
    decide +kernel
  have hleaf {c : Construct} (hc : c.isBlock = false) {n : Nat}
      (hn : ((straight.drop (n - 1)).take 1).length = 1) :
      Rearranged (straightItem c n 1) [(straightItem c n 1).unit.text] := .leaf hc hn
  have hstateBlock := Rearranged.block (i := straightItem .stateBlock 1 5) rfl
    (show (straightItem .stateBlock 1 5).header =
      .ok ⟨1, straight.take 1, "state do".toList⟩ by decide +kernel)
    (by decide +kernel) hstate
    (.cons (hleaf rfl rfl) (.cons (hleaf rfl rfl) (.cons (hleaf rfl rfl) .nil)))
  have heventBlock := Rearranged.block (i := straightItem .eventBlock 9 4) rfl
    (show (straightItem .eventBlock 9 4).header =
      .ok ⟨9, (straight.drop 8).take 1, "e.on do".toList⟩ by decide +kernel)
    (by decide +kernel) hevent (.cons (hleaf rfl rfl) (.cons (hleaf rfl rfl) .nil))
  have hbloomBlock := Rearranged.block (i := straightItem .bloomBlock 6 8) rfl
    (show (straightItem .bloomBlock 6 8).header =
      .ok ⟨6, (straight.drop 5).take 1, "bloom do".toList⟩ by decide +kernel)
    (by decide +kernel) hbloom
    (.cons heventBlock (.cons (hleaf rfl rfl) (.cons (hleaf rfl rfl) .nil)))
  have hall := AllRearranged.cons hstateBlock (.cons hbloomBlock .nil)
  generalize hts : _ ++ (_ ++ []) = ts at hall
  obtain rfl : ts = turned := hts.symm.trans (by decide +kernel)
  exact hall

theorem compile_turned : ∃ code, compile [] (['\n'].intercalate straight) = .ok code ∧
    compile [] (['\n'].intercalate turned) = .ok code := by
  have hok : (compile [] (['\n'].intercalate straight)).toOption.isSome = true := by decide +kernel
  obtain ⟨code, hcode⟩ := Except.exists_ok_of_isSome hok
  refine ⟨code, hcode, compile_of_rearranges hcode ?_⟩
  refine ⟨⟨1, straight, [' '].intercalate straight⟩,
    [straightItem .stateBlock 1 5, straightItem .bloomBlock 6 8], turned, by decide +kernel,
    by decide +kernel, by decide +kernel, ?_⟩
  have hfilter : turned.filter (· ≠ []) = turned := by decide +kernel
  rw [hfilter]
  exact rearranged_straight

end Code

end Overlay
