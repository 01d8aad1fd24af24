import Overlay.Proofs.Layout.Items
import Overlay.Proofs.Relocation
import Overlay.Proofs.Spacing.Rule

/-!
Descriptions in two layouts. What is read from an item depends on its construct
and its text alone, so blank lines, comments and indentation change neither the
code of a description nor the reason why it has none.
-/

namespace Overlay

open Item

variable {candidates : List Construct} {i i' : Item}

/-! Declarations and rules in units of one text. -/

theorem Service.read_eq_map {u u' : SourceUnit} (h : u'.text = u.text) :
    read u' = (read u).map fun s => { s with unit := u' } := by
  simp only [read, h, Except.map_bind, Except.map_pure]

theorem Endpoint.read_eq_map {kind : EndpointKind} {u u' : SourceUnit} (h : u'.text = u.text) :
    read kind u' = (read kind u).map fun e => { e with unit := u' } := by
  unfold read
  rw [h]
  split
  · rfl
  · simp only [Except.map_bind, Except.map_pure]

section

variable {s s' : StateBlock} (hs : s.Moved s') {u u' : SourceUnit} (h : u'.text = u.text)

include hs h

theorem Transmission.read_eq_map :
    read s' u' = (read s u).map fun t => { t with unit := u' } := by
  simp only [read, h, Except.map_bind, hs.serviceOfChannel, hs.serviceOfScratch]
  congr 1
  funext parts
  split
  · simp only [Except.map_bind, Except.map_pure]
  · rfl

theorem Trigger.read_eq_map :
    read s' u' = (read s u).map fun t => { t with unit := u' } := by
  have hdeclared (name : Text) : (s'.channel? name).isNone = (s.channel? name).isNone :=
    isNone_eq_of_rel (hs.rel_channel? name)
  unfold read
  rw [h]
  split
  · rfl
  · simp only [Except.map_bind, hdeclared]
    congr 1
    funext x
    congr 1
    funext parts
    split
    · simp only [Except.map_bind, apply_ite (Except.map _), Except.map_error, Except.map_ok]
    · rfl

theorem Merge.read_eq_map :
    read s' u' = (read s u).map fun m => { m with unit := u' } := by
  unfold read
  rw [h]
  split
  · rfl
  · simp only [Except.map_bind, Except.map_pure, checkChannels_of_moved hs]

end

/-! Items that were read alike. -/

theorem Declaration.agree_ofItem (h : ReadAlike candidates i i') :
    Agree Declaration.Moved (ofItem i) (ofItem i') := by
  unfold ofItem
  rw [h.construct]
  split
  · rw [Service.ofUnit, Service.ofUnit, Service.read_eq_map h.text]
    exact (Agree.locate fun s => ⟨i'.unit, rfl⟩).map Declaration.Moved.service
  · rw [Endpoint.ofUnit, Endpoint.ofUnit, Endpoint.read_eq_map h.text]
    exact (Agree.locate fun e => ⟨i'.unit, rfl⟩).map Declaration.Moved.endpoint
  · rw [Endpoint.ofUnit, Endpoint.ofUnit, Endpoint.read_eq_map h.text]
    exact (Agree.locate fun e => ⟨i'.unit, rfl⟩).map Declaration.Moved.endpoint
  · exact .error (.same _)

namespace StateBlock

theorem agree_declarationsFrom {items items' : List Item}
    (h : List.Forall₂ (ReadAlike candidates) items items') (taken : List Text) :
    Agree (List.Forall₂ Declaration.Moved) (declarationsFrom taken items)
      (declarationsFrom taken items') := by
  induction h generalizing taken with
  | nil => exact .ok .nil
  | cons hfirst _ ih =>
      rw [declarationsFrom, declarationsFrom]
      refine (Declaration.agree_ofItem hfirst).bind fun {d d'} hmoved => ?_
      rw [hmoved.name]
      split
      · exact .error (.same _)
      · exact (ih _).bind fun hrest => .ok (.cons hmoved hrest)

theorem Moved.agree_checkServices {s s' : StateBlock} (h : s.Moved s') :
    Agree (· = ·) s.checkServices s'.checkServices := by
  have hendpoints := List.rel_append h.scratches h.channels
  have hrel := @rel_find?_of_forall₂ _ _ _ (fun e => (s.service? e.service).isNone)
    (fun e => (s'.service? e.service).isNone) _ _ hendpoints ?_
  · unfold StateBlock.checkServices
    generalize (s.scratches ++ s.channels).find? _ = found at hrel ⊢
    generalize (s'.scratches ++ s'.channels).find? _ = found' at hrel ⊢
    rcases hrel with ⟨u, rfl⟩ | _
    · exact .error (.same _)
    · exact .ok rfl
  · rintro e _ ⟨u, rfl⟩
    exact isNone_eq_of_rel (h.rel_service? e.service)

/-- A state block is made of the declarations among its parts. -/
theorem ofItem_eq_of_parts (hc : i.construct = .stateBlock) :
    ofItem i = i.parts >>= fun items => declarationsFrom [] items >>= fun ds =>
      (ofDeclarations ds i.unit).checkServices >>= fun _ => pure (ofDeclarations ds i.unit) := by
  rw [Item.parts, hc, bind_assoc]
  rfl

theorem agree_ofItem (h : ReadAlike candidates i i') (hc : i.construct = .stateBlock) :
    Agree Moved (ofItem i) (ofItem i') := by
  rw [ofItem_eq_of_parts hc, ofItem_eq_of_parts (h.construct.trans hc)]
  refine (h.parts (by rw [hc]; rfl)).bind fun hitems => ?_
  refine (agree_declarationsFrom hitems []).bind fun hds => ?_
  have hmoved := moved_ofDeclarations hds i.unit i'.unit
  exact hmoved.agree_checkServices.bind fun _ => .ok hmoved

end StateBlock

/-- An event block is made of its header and of the rules among its parts. -/
theorem EventBlock.ofItem_eq_of_parts (s : StateBlock) (hc : i.construct = .eventBlock) :
    ofItem s i = i.header >>= fun header =>
      header.locate (readHeader header.text) >>= fun condition =>
      i.parts >>= fun items => items.mapM (Rule.ofItem s) >>= fun rules =>
      pure ⟨condition, .ofList rules, i.unit⟩ := by
  simp only [Item.parts, hc, bind_assoc]
  rfl

/-- A `bloom` block is made of the clauses among its parts. -/
theorem BloomBlock.ofItem_eq_of_parts (s : StateBlock) (hc : i.construct = .bloomBlock) :
    ofItem s i = i.parts >>= fun items => items.mapM (Clause.ofItem s) >>= fun clauses =>
      (ofClauses clauses i.unit).events.forM (ofClauses clauses i.unit).checkEvent >>= fun _ =>
      pure (ofClauses clauses i.unit) := by
  rw [Item.parts, hc, bind_assoc]
  rfl

section

variable {s s' : StateBlock} (hs : s.Moved s')

include hs

theorem Rule.agree_ofItem (h : ReadAlike candidates i i') :
    Agree Rule.Moved (ofItem s i) (ofItem s' i') := by
  unfold ofItem
  rw [h.construct]
  split
  · rw [Transmission.ofUnit, Transmission.ofUnit, Transmission.read_eq_map hs h.text]
    exact (Agree.locate fun t => ⟨i'.unit, rfl⟩).map Rule.Moved.transmission
  · rw [Trigger.ofUnit, Trigger.ofUnit, Trigger.read_eq_map hs h.text]
    exact (Agree.locate fun t => ⟨i'.unit, rfl⟩).map Rule.Moved.trigger
  · rw [Merge.ofUnit, Merge.ofUnit, Merge.read_eq_map hs h.text]
    exact (Agree.locate fun m => ⟨i'.unit, rfl⟩).map Rule.Moved.merge
  · exact .error (.same _)

theorem EventBlock.agree_ofItem (h : ReadAlike candidates i i')
    (hc : i.construct = .eventBlock) : Agree EventBlock.Moved (ofItem s i) (ofItem s' i') := by
  have hblock : i.construct.isBlock = true := by rw [hc]; rfl
  rw [ofItem_eq_of_parts s hc, ofItem_eq_of_parts s' (h.construct.trans hc)]
  obtain ⟨header, header', -, -, hheader, hheader', hsame, -⟩ := h.block hblock
  rw [hheader, hheader', Except.ok_bind, Except.ok_bind, hsame]
  have hcondition : Agree (· = ·) (header.locate (readHeader header.text))
      (header'.locate (readHeader header.text)) := by
    cases readHeader header.text with
    | ok condition => exact .ok rfl
    | error cause => exact .error (.same cause)
  refine hcondition.bind fun {c c'} hc => ?_
  refine (h.parts hblock).bind fun hitems => ?_
  refine (Agree.mapM hitems fun hi => Rule.agree_ofItem hs hi).bind fun hrules => ?_
  exact .ok ⟨hc.symm, Rules.moved_ofList hrules⟩

theorem Clause.agree_ofItem (h : ReadAlike candidates i i') :
    Agree Clause.Moved (ofItem s i) (ofItem s' i') := by
  unfold ofItem
  rw [h.construct]
  split
  · next hc => exact (EventBlock.agree_ofItem hs h hc).map Clause.Moved.event
  · exact (Rule.agree_ofItem hs h).map Clause.Moved.rule

theorem BloomBlock.agree_ofItem (h : ReadAlike candidates i i')
    (hc : i.construct = .bloomBlock) : Agree BloomBlock.Moved (ofItem s i) (ofItem s' i') := by
  rw [ofItem_eq_of_parts s hc, ofItem_eq_of_parts s' (h.construct.trans hc)]
  refine (h.parts (by rw [hc]; rfl)).bind fun hitems => ?_
  refine (Agree.mapM hitems fun hi => Clause.agree_ofItem hs hi).bind fun hclauses => ?_
  have hmoved := moved_ofClauses hclauses i.unit i'.unit
  refine (Agree.forM hmoved.events fun he => ?_).bind fun _ => .ok hmoved
  unfold checkEvent
  rw [he.condition, hmoved.definedEvents]
  split
  · exact .error (.same _)
  · exact .ok rfl

end

namespace Description

theorem agree_theBlock {r : Item → Item → Prop}
    (hr : ∀ {i i'}, r i i' → i'.construct = i.construct) {items items' : List Item}
    (h : List.Forall₂ r items items') (u u' : SourceUnit) (c : Construct) :
    Agree (fun i i' => i.construct = c ∧ r i i') (theBlock u items c) (theBlock u' items' c) := by
  have hfound : List.Forall₂ (fun i i' => i.construct = c ∧ r i i')
      (items.filter (·.construct = c)) (items'.filter (·.construct = c)) := by
    induction h with
    | nil => exact .nil
    | @cons i i' _ _ hfirst _ ih =>
        by_cases hc : i.construct = c
        · simpa [List.filter_cons, hr hfirst, hc] using ⟨hfirst, ih⟩
        · simpa [List.filter_cons, hr hfirst, hc] using ih
  unfold theBlock
  generalize items.filter (·.construct = c) = found at hfound ⊢
  generalize items'.filter (·.construct = c) = found' at hfound ⊢
  cases hfound with
  | nil => exact .error (.same _)
  | cons hfirst hrest =>
      cases hrest with
      | nil => exact .ok hfirst
      | cons _ hrest =>
          simp only [List.length_cons, hrest.length_eq]
          exact .error (.same _)

/-- Texts whose lines hold the same are read alike. -/
theorem agree_ofText {t t' : Text} {cs cs' : List (Nat × Text)}
    (h : Content (SourceUnit.numberFrom 1 t.lines) cs)
    (h' : Content (SourceUnit.numberFrom 1 t'.lines) cs') (htexts : texts cs' = texts cs) :
    Agree Moved (ofText t) (ofText t') := by
  have hu := SourceUnit.ofLines_eq_ok_iff.2 ⟨cs, h, rfl⟩
  have hu' := SourceUnit.ofLines_eq_ok_iff.2 ⟨cs', h', rfl⟩
  simp only [ofText, SourceUnit.ofText, Nat.zero_add, hu, hu', Except.ok_bind]
  have hlist := @agree_list Construct.topLevel ⟨1, t.lines, [' '].intercalate (texts cs)⟩
    ⟨1, t'.lines, [' '].intercalate (texts cs')⟩ cs cs' h h' htexts
  refine hlist.bind fun hitems => ?_
  refine (agree_theBlock ReadAlike.construct hitems _ _ _).bind fun {i i'} hstate => ?_
  obtain ⟨hc, hstate⟩ := hstate
  refine (agree_theBlock ReadAlike.construct hitems _ _ _).bind fun {j j'} hbloom => ?_
  obtain ⟨hc', hbloom⟩ := hbloom
  refine (StateBlock.agree_ofItem hstate hc).bind fun hs => ?_
  exact (BloomBlock.agree_ofItem hs hbloom hc').bind fun hb => .ok ⟨hs, hb⟩

end Description

end Overlay
