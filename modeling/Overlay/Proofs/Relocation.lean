import Overlay.Code.Basic
import Overlay.Proofs.Outcome

/-!
Descriptions that stand elsewhere. Two descriptions that differ only in the
units that their parts keep look names up in the same way and have the same
code.
-/

namespace Overlay

theorem foldl_eq_of_forall₂ {α α' β : Type} {r : α → α' → Prop} {f : β → α → β}
    {g : β → α' → β} {xs : List α} {ys : List α'} (h : List.Forall₂ r xs ys)
    (hr : ∀ {b x y}, r x y → g b y = f b x) (b : β) : ys.foldl g b = xs.foldl f b := by
  induction h generalizing b with
  | nil => rfl
  | cons hfirst _ ih => rw [List.foldl_cons, List.foldl_cons, hr hfirst, ih]

theorem rel_find?_of_forall₂ {α α' : Type} {r : α → α' → Prop} {p : α → Bool} {q : α' → Bool}
    {xs : List α} {ys : List α'} (h : List.Forall₂ r xs ys) (hr : ∀ {x y}, r x y → q y = p x) :
    Option.Rel r (xs.find? p) (ys.find? q) := by
  induction h with
  | nil => exact .none
  | cons hfirst _ ih =>
      rw [List.find?_cons, List.find?_cons, hr hfirst]
      split
      · exact .some hfirst
      · exact ih

theorem forall₂_filterMap {α α' β β' : Type} {r : α → α' → Prop} {s : β → β' → Prop}
    {f : α → Option β} {g : α' → Option β'} {xs : List α} {ys : List α'}
    (h : List.Forall₂ r xs ys) (hr : ∀ {x y}, r x y → Option.Rel s (f x) (g y)) :
    List.Forall₂ s (xs.filterMap f) (ys.filterMap g) := by
  induction h with
  | nil => exact .nil
  | @cons x y xs ys hfirst _ ih =>
      have hrel := hr hfirst
      rw [List.filterMap_cons, List.filterMap_cons]
      generalize f x = a at hrel ⊢
      generalize g y = b at hrel ⊢
      cases hrel with
      | none => exact ih
      | some hsome => exact .cons hsome ih

theorem isNone_eq_of_rel {α α' : Type} {r : α → α' → Prop} {o : Option α} {o' : Option α'}
    (h : Option.Rel r o o') : o'.isNone = o.isNone := by
  cases h with
  | none => rfl
  | some => rfl

def Service.Moved (s s' : Service) : Prop := ∃ u, s' = { s with unit := u }

def Endpoint.Moved (e e' : Endpoint) : Prop := ∃ u, e' = { e with unit := u }

inductive Declaration.Moved : Declaration → Declaration → Prop
  | service {s s' : Service} : s.Moved s' → Moved (.service s) (.service s')
  | endpoint {e e' : Endpoint} : e.Moved e' → Moved (.endpoint e) (.endpoint e')

theorem Declaration.Moved.name {d d' : Declaration} (h : d.Moved d') : d'.name = d.name := by
  rcases h with ⟨u, rfl⟩ | ⟨u, rfl⟩
  · rfl
  · rfl

namespace StateBlock

/-- Whether two blocks declare the same in the same order. -/
structure Moved (s s' : StateBlock) : Prop where
  services : List.Forall₂ Service.Moved s.services s'.services
  scratches : List.Forall₂ Endpoint.Moved s.scratches s'.scratches
  channels : List.Forall₂ Endpoint.Moved s.channels s'.channels

theorem Moved.rel_service? {s s' : StateBlock} (h : s.Moved s') (name : Text) :
    Option.Rel Service.Moved (s.service? name) (s'.service? name) := by
  refine rel_find?_of_forall₂ h.services ?_
  rintro s _ ⟨u, rfl⟩
  rfl

theorem Moved.rel_scratch? {s s' : StateBlock} (h : s.Moved s') (name : Text) :
    Option.Rel Endpoint.Moved (s.scratch? name) (s'.scratch? name) := by
  refine rel_find?_of_forall₂ h.scratches ?_
  rintro e _ ⟨u, rfl⟩
  rfl

theorem Moved.rel_channel? {s s' : StateBlock} (h : s.Moved s') (name : Text) :
    Option.Rel Endpoint.Moved (s.channel? name) (s'.channel? name) := by
  refine rel_find?_of_forall₂ h.channels ?_
  rintro e _ ⟨u, rfl⟩
  rfl

theorem Moved.serviceOfScratch {s s' : StateBlock} (h : s.Moved s') (name : Text) :
    s'.serviceOfScratch name = s.serviceOfScratch name := by
  have hrel := h.rel_scratch? name
  unfold StateBlock.serviceOfScratch
  generalize s.scratch? name = found at hrel ⊢
  generalize s'.scratch? name = found' at hrel ⊢
  rcases hrel with ⟨u, rfl⟩ | _
  · rfl
  · rfl

theorem Moved.serviceOfChannel {s s' : StateBlock} (h : s.Moved s') (name : Text) :
    s'.serviceOfChannel name = s.serviceOfChannel name := by
  have hrel := h.rel_channel? name
  unfold StateBlock.serviceOfChannel
  generalize s.channel? name = found at hrel ⊢
  generalize s'.channel? name = found' at hrel ⊢
  rcases hrel with ⟨u, rfl⟩ | _
  · rfl
  · rfl

theorem moved_ofDeclarations {ds ds' : List Declaration}
    (h : List.Forall₂ Declaration.Moved ds ds') (u u' : SourceUnit) :
    (ofDeclarations ds u).Moved (ofDeclarations ds' u') := by
  have hendpoints (kind : EndpointKind) : List.Forall₂ Endpoint.Moved
      (ds.filterMap (Declaration.endpoint? kind)) (ds'.filterMap (Declaration.endpoint? kind)) := by
    refine forall₂_filterMap h ?_
    rintro _ _ (hs | ⟨u, rfl⟩)
    · exact .none
    · simp only [Declaration.endpoint?]
      split
      · exact .some ⟨u, rfl⟩
      · exact .none
  constructor
  case services =>
    refine forall₂_filterMap h ?_
    rintro _ _ (hs | he)
    · exact .some hs
    · exact .none
  case scratches => exact hendpoints .scratch
  case channels => exact hendpoints .channel

theorem checkServices_eq_ok_iff {s : StateBlock} {x : Unit} : s.checkServices = .ok x ↔
    (s.scratches ++ s.channels).find? (fun e => (s.service? e.service).isNone) = none := by
  unfold checkServices
  split
  · next heq => simp [heq]
  · next heq => simp [heq]

theorem Moved.checkServices {s s' : StateBlock} (h : s.Moved s') {x : Unit}
    (hs : s.checkServices = .ok x) : s'.checkServices = .ok x := by
  rw [checkServices_eq_ok_iff] at hs ⊢
  have hendpoints := List.rel_append h.scratches h.channels
  have hrel := @rel_find?_of_forall₂ _ _ _ (fun e => (s.service? e.service).isNone)
    (fun e => (s'.service? e.service).isNone) _ _ hendpoints ?_
  · have hnone := isNone_eq_of_rel hrel
    rw [hs] at hnone
    exact Option.isNone_iff_eq_none.1 hnone
  · rintro e _ ⟨u, rfl⟩
    exact isNone_eq_of_rel (h.rel_service? e.service)

end StateBlock

def Transmission.Moved (t t' : Transmission) : Prop := ∃ u, t' = { t with unit := u }

def Trigger.Moved (t t' : Trigger) : Prop := ∃ u, t' = { t with unit := u }

def Merge.Moved (m m' : Merge) : Prop := ∃ u, m' = { m with unit := u }

inductive Rule.Moved : Rule → Rule → Prop
  | transmission {t t' : Transmission} : t.Moved t' → Moved (.transmission t) (.transmission t')
  | trigger {t t' : Trigger} : t.Moved t' → Moved (.trigger t) (.trigger t')
  | merge {m m' : Merge} : m.Moved m' → Moved (.merge m) (.merge m')

structure Rules.Moved (r r' : Rules) : Prop where
  transmissions : List.Forall₂ Transmission.Moved r.transmissions r'.transmissions
  triggers : List.Forall₂ Trigger.Moved r.triggers r'.triggers
  merges : List.Forall₂ Merge.Moved r.merges r'.merges

theorem Rules.moved_ofList {rs rs' : List Rule} (h : List.Forall₂ Rule.Moved rs rs') :
    (ofList rs).Moved (ofList rs') := by
  constructor
  case transmissions =>
    refine forall₂_filterMap h ?_
    rintro _ _ (ht | ht | hm)
    · exact .some ht
    · exact .none
    · exact .none
  case triggers =>
    refine forall₂_filterMap h ?_
    rintro _ _ (ht | ht | hm)
    · exact .none
    · exact .some ht
    · exact .none
  case merges =>
    refine forall₂_filterMap h ?_
    rintro _ _ (ht | ht | hm)
    · exact .none
    · exact .none
    · exact .some hm

structure EventBlock.Moved (e e' : EventBlock) : Prop where
  condition : e'.condition = e.condition
  rules : e.rules.Moved e'.rules

structure BloomBlock.Moved (b b' : BloomBlock) : Prop where
  rules : b.rules.Moved b'.rules
  events : List.Forall₂ EventBlock.Moved b.events b'.events

inductive Clause.Moved : Clause → Clause → Prop
  | rule {r r' : Rule} : r.Moved r' → Moved (.rule r) (.rule r')
  | event {e e' : EventBlock} : e.Moved e' → Moved (.event e) (.event e')

structure Description.Moved (d d' : Description) : Prop where
  state : d.state.Moved d'.state
  bloom : d.bloom.Moved d'.bloom

theorem Rules.Moved.events {r r' : Rules} (h : r.Moved r') : r'.events = r.events := by
  refine map_eq_of_forall₂ h.triggers ?_
  rintro t _ ⟨u, rfl⟩
  rfl

namespace BloomBlock

theorem moved_ofClauses {cs cs' : List Clause} (h : List.Forall₂ Clause.Moved cs cs')
    (u u' : SourceUnit) : (ofClauses cs u).Moved (ofClauses cs' u') := by
  constructor
  case rules =>
    refine Rules.moved_ofList (forall₂_filterMap h ?_)
    rintro _ _ (hr | he)
    · exact .some hr
    · exact .none
  case events =>
    refine forall₂_filterMap h ?_
    rintro _ _ (hr | he)
    · exact .none
    · exact .some he

theorem Moved.definedEvents {b b' : BloomBlock} (h : b.Moved b') :
    b'.definedEvents = b.definedEvents := by
  have hevents : b'.events.map (fun e => e.rules.events) = b.events.map fun e => e.rules.events :=
    map_eq_of_forall₂ h.events fun he => he.rules.events
  simp only [BloomBlock.definedEvents, List.flatMap_def, hevents, h.rules.events]

theorem Moved.checkEvent {b b' : BloomBlock} (h : b.Moved b') {e e' : EventBlock}
    (he : e.Moved e') (hcheck : b.checkEvent e = .ok ()) : b'.checkEvent e' = .ok () := by
  unfold BloomBlock.checkEvent at hcheck ⊢
  rw [he.condition, h.definedEvents]
  split at hcheck
  · cases hcheck
  · rfl

end BloomBlock

theorem RulesCode.add_of_moved {r r' : Rules} (h : r.Moved r') (c : RulesCode) :
    c.add r' = c.add r := by
  have hlinks : r'.transmissions.map Transmission.link = r.transmissions.map Transmission.link := by
    refine map_eq_of_forall₂ h.transmissions ?_
    rintro t _ ⟨u, rfl⟩
    rfl
  have htriggers : r'.triggers.foldl addTrigger c.triggers =
      r.triggers.foldl addTrigger c.triggers := by
    refine foldl_eq_of_forall₂ h.triggers ?_ _
    rintro m t _ ⟨u, rfl⟩
    rfl
  have hmerges : r'.merges.map Merge.code = r.merges.map Merge.code := by
    refine map_eq_of_forall₂ h.merges ?_
    rintro m _ ⟨u, rfl⟩
    rfl
  rw [add, add, hlinks, htriggers, hmerges]

theorem Code.foldl_addService_of_moved {ss ss' : List Service}
    (h : List.Forall₂ Service.Moved ss ss') (m : Keyed (Keyed Json)) :
    ss'.foldl addService m = ss.foldl addService m := by
  refine foldl_eq_of_forall₂ h ?_ m
  rintro m s _ ⟨u, rfl⟩
  rfl

/-- Code does not show where a description stands. -/
theorem Code.ofDescription_of_moved {d d' : Description} (h : d.Moved d') (overlay : Text) :
    ofDescription overlay d' = ofDescription overlay d := by
  have hevents : d'.bloom.events.map EventBlock.code = d.bloom.events.map EventBlock.code := by
    refine map_eq_of_forall₂ h.bloom.events fun {e e'} he => ?_
    rw [EventBlock.code, EventBlock.code, he.condition, RulesCode.add_of_moved he.rules]
  rw [ofDescription, ofDescription, add, add, foldl_addService_of_moved h.state.services, hevents,
    RulesCode.add_of_moved h.bloom.rules]

end Overlay
