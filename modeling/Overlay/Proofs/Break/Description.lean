import Overlay.Proofs.Break.Item
import Overlay.Proofs.Relocation
import Overlay.Proofs.Spacing.Declaration
import Overlay.Proofs.Spacing.Rule
import Overlay.Proofs.StateBlock

/-!
Descriptions in which a line is cut. What is read from an item is read from the
same item with the line cut, up to the place where it stands.
-/

namespace Overlay

open Item

variable {k : LineBreak} {candidates : List Construct} {i i' : Item}

theorem Declaration.ofItem_of_recut (hk : k.Sound) (h : RecutOf k candidates i i')
    {d : Declaration} (hd : ofItem i = .ok d) : ∃ d', ofItem i' = .ok d' ∧ d.Moved d' := by
  obtain ⟨cs, h⟩ := h
  cases ofItem_eq_ok_iff.1 hd with
  | service hc hs =>
      have hs' := Service.ofUnit_of_respaced hs (h.respaced hk (by rw [hc]; rfl))
      exact ⟨_, ofItem_eq_ok_iff.2 (.service (h.construct.trans hc) hs'), .service ⟨i'.unit, rfl⟩⟩
  | @endpoint kind e hc he =>
      have he' :=
        Endpoint.ofUnit_of_respaced he (h.respaced hk (by rw [hc]; cases kind <;> rfl))
      exact ⟨_, ofItem_eq_ok_iff.2 (.endpoint (h.construct.trans hc) he'), .endpoint ⟨i'.unit, rfl⟩⟩

namespace StateBlock

theorem declarationsFrom_of_recut (hk : k.Sound) {items items' : List Item}
    (h : List.Forall₂ (RecutOf k candidates) items items') {taken : List Text}
    {ds : List Declaration} (hds : declarationsFrom taken items = .ok ds) :
    ∃ ds', declarationsFrom taken items' = .ok ds' ∧ List.Forall₂ Declaration.Moved ds ds' := by
  induction h generalizing taken ds with
  | nil =>
      cases hds
      exact ⟨[], rfl, .nil⟩
  | cons hfirst _ ih =>
      rw [declarationsFrom, Except.bind_eq_ok_iff] at hds
      obtain ⟨d, hd, hds⟩ := hds
      obtain ⟨d', hd', hmoved⟩ := Declaration.ofItem_of_recut hk hfirst hd
      rw [declarationsFrom, hd', Except.ok_bind, hmoved.name]
      split at hds
      · cases hds
      · next hnew =>
        obtain ⟨rest, hrest, hds⟩ := Except.bind_eq_ok_iff.1 hds
        obtain ⟨rest', hrest', hall⟩ := ih hrest
        cases hds
        refine ⟨d' :: rest', ?_, .cons hmoved hall⟩
        rw [if_neg hnew, hrest']
        rfl

theorem ofItem_of_recut (hk : k.Sound) (h : RecutOf k candidates i i')
    (hc : i.construct = .stateBlock) {s : StateBlock} (hs : ofItem i = .ok s) :
    ∃ s', ofItem i' = .ok s' ∧ s.Moved s' := by
  obtain ⟨cs, h⟩ := h
  simp only [ofItem, Except.bind_eq_ok_iff, Except.pure_eq_ok_iff] at hs ⊢
  obtain ⟨body, hbody, items, hitems, ds, hds, x, hchecked, rfl⟩ := hs
  obtain ⟨body', items', hbody', hitems', hall⟩ := h.list_body hk hc rfl hbody hitems
  obtain ⟨ds', hds', hdeclared⟩ := declarationsFrom_of_recut hk hall hds
  have hmoved := moved_ofDeclarations hdeclared i.unit i'.unit
  exact ⟨_, ⟨body', hbody', items', hitems', ds', hds', x, hmoved.checkServices hchecked, rfl⟩,
    hmoved⟩

end StateBlock

section

variable {s s' : StateBlock} (hs : s.Moved s')

include hs

theorem Rule.ofItem_of_recut (hk : k.Sound) (h : RecutOf k candidates i i') {r : Rule}
    (hr : ofItem s i = .ok r) : ∃ r', ofItem s' i' = .ok r' ∧ r.Moved r' := by
  obtain ⟨cs, h⟩ := h
  cases ofItem_eq_ok_iff.1 hr with
  | transmission hc ht =>
      have ht' := Transmission.ofUnit_of_respaced hs ht (h.respaced hk (by rw [hc]; rfl))
      exact ⟨_, ofItem_eq_ok_iff.2 (.transmission (h.construct.trans hc) ht'),
        .transmission ⟨i'.unit, rfl⟩⟩
  | trigger hc ht =>
      have ht' := Trigger.ofUnit_of_respaced hs ht (h.respaced hk (by rw [hc]; rfl))
      exact ⟨_, ofItem_eq_ok_iff.2 (.trigger (h.construct.trans hc) ht'), .trigger ⟨i'.unit, rfl⟩⟩
  | merge hc hm =>
      have hm' := Merge.ofUnit_of_respaced hs hm (h.respaced hk (by rw [hc]; rfl))
      exact ⟨_, ofItem_eq_ok_iff.2 (.merge (h.construct.trans hc) hm'), .merge ⟨i'.unit, rfl⟩⟩

theorem EventBlock.ofItem_of_recut (hk : k.Sound) (h : RecutOf k candidates i i')
    (hc : i.construct = .eventBlock) {e : EventBlock} (he : ofItem s i = .ok e) :
    ∃ e', ofItem s' i' = .ok e' ∧ e.Moved e' := by
  obtain ⟨cs, h⟩ := h
  have hblock : i.construct.isBlock = true := by rw [hc]; rfl
  simp only [ofItem, Except.bind_eq_ok_iff, Except.pure_eq_ok_iff,
    SourceUnit.locate_eq_ok_iff] at he ⊢
  obtain ⟨header, hheader, condition, hcondition, body, hbody, items, hitems, rs, hrs, rfl⟩ := he
  obtain ⟨_, header', _, _, hold, hheader', hsame, -⟩ := h.block hblock
  rw [hheader] at hold
  cases hold
  obtain ⟨body', items', hbody', hitems', hall⟩ := h.list_body hk hc rfl hbody hitems
  obtain ⟨rs', hrs', hrules⟩ := Except.mapM_of_forall₂ hall hrs
    fun hrecut hr => Rule.ofItem_of_recut hs hk hrecut hr
  rw [← hsame] at hcondition
  exact ⟨_, ⟨header', hheader', condition, hcondition, body', hbody', items', hitems', rs', hrs',
    rfl⟩, rfl, Rules.moved_ofList hrules⟩

theorem Clause.ofItem_of_recut (hk : k.Sound) (h : RecutOf k candidates i i') {c : Clause}
    (hclause : ofItem s i = .ok c) : ∃ c', ofItem s' i' = .ok c' ∧ c.Moved c' := by
  have hsame : i'.construct = i.construct := by
    obtain ⟨cs, h⟩ := h
    exact h.construct
  cases ofItem_eq_ok_iff.1 hclause with
  | event hc he =>
      obtain ⟨e', he', hmoved⟩ := EventBlock.ofItem_of_recut hs hk h hc he
      exact ⟨_, ofItem_eq_ok_iff.2 (.event (hsame.trans hc) he'), .event hmoved⟩
  | rule hc hr =>
      obtain ⟨r', hr', hmoved⟩ := Rule.ofItem_of_recut hs hk h hr
      exact ⟨_, ofItem_eq_ok_iff.2 (.rule (hsame ▸ hc) hr'), .rule hmoved⟩

theorem BloomBlock.ofItem_of_recut (hk : k.Sound) (h : RecutOf k candidates i i')
    (hc : i.construct = .bloomBlock) {b : BloomBlock} (hb : ofItem s i = .ok b) :
    ∃ b', ofItem s' i' = .ok b' ∧ b.Moved b' := by
  obtain ⟨cs, h⟩ := h
  simp only [ofItem, Except.bind_eq_ok_iff, Except.pure_eq_ok_iff] at hb ⊢
  obtain ⟨body, hbody, items, hitems, clauses, hclauses, x, hchecked, rfl⟩ := hb
  obtain ⟨body', items', hbody', hitems', hall⟩ := h.list_body hk hc rfl hbody hitems
  obtain ⟨clauses', hclauses', hmoved⟩ :=
    Except.mapM_of_forall₂ hall hclauses fun hrecut hc => Clause.ofItem_of_recut hs hk hrecut hc
  have hblock := moved_ofClauses hmoved i.unit i'.unit
  refine ⟨_, ⟨body', hbody', items', hitems', clauses', hclauses', x, ?_, rfl⟩, hblock⟩
  rw [Except.forM_eq_ok_iff] at hchecked ⊢
  intro e' he'
  obtain ⟨e, he, hevent⟩ := forall₂_exists_of_mem_right hblock.events he'
  exact hblock.checkEvent hevent (hchecked e he)

end

namespace Description

theorem theBlock_of_recut {items items' : List Item}
    (h : List.Forall₂ (RecutOf k candidates) items items') {u : SourceUnit} (u' : SourceUnit)
    {c : Construct} (hi : theBlock u items c = .ok i) :
    i.construct = c ∧ ∃ i', theBlock u' items' c = .ok i' ∧ RecutOf k candidates i i' := by
  have hfilter : List.Forall₂ (RecutOf k candidates) (items.filter (·.construct = c))
      (items'.filter (·.construct = c)) := by
    clear hi
    induction h with
    | nil => exact .nil
    | @cons j j' items items' hfirst _ ih =>
        have hsame : j'.construct = j.construct := by
          obtain ⟨cs, h⟩ := hfirst
          exact h.construct
        by_cases hc : j.construct = c
        · simpa [List.filter_cons, hsame, hc] using ⟨hfirst, ih⟩
        · simpa [List.filter_cons, hsame, hc] using ih
  unfold theBlock at hi ⊢
  split at hi
  · next heq =>
    cases hi
    have hmem := List.mem_filter.1 (heq ▸ List.mem_singleton_self i)
    rw [heq] at hfilter
    generalize items'.filter (·.construct = c) = found at hfilter ⊢
    cases hfilter with
    | cons hfirst hrest =>
        cases hrest
        exact ⟨of_decide_eq_true hmem.2, _, rfl, hfirst⟩
  · cases hi

/-- A text whose lines are those of another with one line cut is read alike. -/
theorem ofText_of_cutTo (hk : k.Sound) {t t' : Text} {u u' : SourceUnit} {items : List Item}
    (hu : SourceUnit.ofText t 0 = .ok u) (hu' : SourceUnit.ofText t' 0 = .ok u')
    (hcut : CutTo k u u') (hitems : Item.list u Construct.topLevel = .ok items)
    (hfits : ∀ i ∈ items, i.Fits k) {d : Description} (hd : ofText t = .ok d) :
    ∃ d', ofText t' = .ok d' ∧ d.Moved d' := by
  obtain ⟨items', hitems', hall⟩ := list_of_cutTo hk hcut Construct.blocksLast_topLevel hfits hitems
  simp only [ofText, hu, hitems, hu', hitems', Except.bind_eq_ok_iff, Except.ok.injEq,
    exists_eq_left', Except.pure_eq_ok_iff] at hd ⊢
  obtain ⟨stateItem, hstateItem, bloomItem, hbloomItem, state, hstate, bloom, hbloom, rfl⟩ := hd
  obtain ⟨hc, stateItem', hstateItem', hrecut⟩ := theBlock_of_recut hall u' hstateItem
  obtain ⟨hc', bloomItem', hbloomItem', hrecut'⟩ := theBlock_of_recut hall u' hbloomItem
  obtain ⟨state', hstate', hmoved⟩ := StateBlock.ofItem_of_recut hk hrecut hc hstate
  obtain ⟨bloom', hbloom', hmoved'⟩ := BloomBlock.ofItem_of_recut hmoved hk hrecut' hc' hbloom
  exact ⟨_, ⟨stateItem', hstateItem', bloomItem', hbloomItem', state', hstate', bloom', hbloom',
    rfl⟩, hmoved, hmoved'⟩

end Description

end Overlay
