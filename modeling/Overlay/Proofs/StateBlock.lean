import Overlay.Proofs.Outcome
import Overlay.StateBlock
import Mathlib.Data.List.Nodup
import Mathlib.Data.List.Perm.Basic

/-!
State blocks that were read. The names of all declarations are proper and
distinct, across the three kinds, and the service of each endpoint is declared.
-/

namespace Overlay

/-- Whether a text may name a service, a scratch, a channel or an event. -/
def IsProperName (t : Text) : Prop := t.isName = true ∧ isReserved t = false

theorem isProperName_of_checkName {t : Text} {x : Unit} (h : checkName t = .ok x) :
    IsProperName t :=
  checkName_eq_ok_iff.1 h

theorem SourceUnit.locate_eq_ok_iff {α : Type} {u : SourceUnit} {x : Except Fault α} {a : α} :
    u.locate x = .ok a ↔ x = .ok a := by
  cases x <;> simp [locate]

theorem isProperName_of_serviceName {t name : Text} (h : serviceName t = .ok name) :
    IsProperName name := by
  unfold serviceName at h
  split at h
  · cases h
  · simp only [Except.bind_eq_ok_iff, Except.pure_eq_ok_iff] at h
    obtain ⟨_, hcheck, rfl⟩ := h
    exact isProperName_of_checkName hcheck

theorem Service.ofUnit_eq_ok_iff {u : SourceUnit} {s : Service} : ofUnit u = .ok s ↔
    ∃ written query, splitDeclaration u.text = .ok (written, query) ∧
      serviceName written = .ok s.name ∧ Query.ofText query = .ok s.query ∧ s.unit = u := by
  simp only [ofUnit, SourceUnit.locate_eq_ok_iff, read, Except.bind_eq_ok_iff,
    Except.pure_eq_ok_iff, Prod.exists]
  constructor
  · rintro ⟨written, text, hsplit, name, hname, query, hquery, rfl⟩
    exact ⟨written, text, hsplit, hname, hquery, rfl⟩
  · rintro ⟨written, text, hsplit, hname, hquery, rfl⟩
    exact ⟨written, text, hsplit, _, hname, _, hquery, rfl⟩

theorem Endpoint.ofUnit_eq_ok_iff {kind : EndpointKind} {u : SourceUnit} {e : Endpoint} :
    ofUnit kind u = .ok e ↔ ∃ rest owner,
      Text.dropPrefix? kind.construct.name.toList u.text = some rest ∧
      splitDeclaration rest.trim = .ok (e.name, owner) ∧ checkName e.name = .ok () ∧
      serviceName owner = .ok e.service ∧ e.kind = kind ∧ e.unit = u := by
  rw [ofUnit, SourceUnit.locate_eq_ok_iff, read]
  constructor
  · intro h
    split at h
    · cases h
    · next rest hrest =>
      simp only [Except.bind_eq_ok_iff, Except.pure_eq_ok_iff, Prod.exists] at h
      obtain ⟨name, owner, hsplit, _, hcheck, service, hservice, rfl⟩ := h
      exact ⟨rest, owner, hrest, hsplit, hcheck, hservice, rfl, rfl⟩
  · rintro ⟨rest, owner, hrest, hsplit, hcheck, hservice, rfl, rfl⟩
    simp only [hrest, hsplit, hcheck, hservice, Except.ok_bind]
    rfl

theorem Service.isProperName_of_ofUnit {u : SourceUnit} {s : Service} (h : ofUnit u = .ok s) :
    IsProperName s.name := by
  obtain ⟨_, _, -, hname, -, -⟩ := ofUnit_eq_ok_iff.1 h
  exact isProperName_of_serviceName hname

theorem Endpoint.isProperName_of_ofUnit {kind : EndpointKind} {u : SourceUnit} {e : Endpoint}
    (h : ofUnit kind u = .ok e) : e.kind = kind ∧ IsProperName e.name := by
  obtain ⟨_, _, -, -, hcheck, -, hkind, -⟩ := ofUnit_eq_ok_iff.1 h
  exact ⟨hkind, isProperName_of_checkName hcheck⟩

namespace Declaration

/-- What an item may be read as: a declaration of the kind that is its construct. -/
inductive Reads (i : Item) : Declaration → Prop
  | service {s : Service} : i.construct = .service → Service.ofUnit i.unit = .ok s →
      Reads i (.service s)
  | endpoint {kind : EndpointKind} {e : Endpoint} : i.construct = kind.construct →
      Endpoint.ofUnit kind i.unit = .ok e → Reads i (.endpoint e)

theorem ofItem_eq_ok_iff {i : Item} {d : Declaration} : ofItem i = .ok d ↔ Reads i d := by
  constructor
  · intro h
    unfold ofItem at h
    split at h
    · next hc =>
      obtain ⟨s, hs, rfl⟩ := Except.map_eq_ok_iff.1 h
      exact .service hc hs
    · next hc =>
      obtain ⟨e, he, rfl⟩ := Except.map_eq_ok_iff.1 h
      exact @Reads.endpoint i .scratch e hc he
    · next hc =>
      obtain ⟨e, he, rfl⟩ := Except.map_eq_ok_iff.1 h
      exact @Reads.endpoint i .channel e hc he
    · cases h
  · intro h
    cases h with
    | service hc hs => rw [ofItem, hc, hs, Except.map_ok]
    | @endpoint kind e hc he =>
        have hitem : ofItem i = (Endpoint.ofUnit kind i.unit).map endpoint := by
          rw [ofItem, hc]
          cases kind <;> rfl
        rw [hitem, he, Except.map_ok]

theorem isProperName_of_ofItem {i : Item} {d : Declaration} (h : ofItem i = .ok d) :
    IsProperName d.name := by
  cases ofItem_eq_ok_iff.1 h with
  | service _ hs => exact Service.isProperName_of_ofUnit hs
  | endpoint _ he => exact (Endpoint.isProperName_of_ofUnit he).2

end Declaration

/-- Among members with distinct keys the one with a key is found. -/
theorem find?_key_eq_some_iff {α : Type} {key : α → Text} {xs : List α}
    (h : (xs.map key).Nodup) {k : Text} {x : α} :
    xs.find? (fun y => key y = k) = some x ↔ x ∈ xs ∧ key x = k := by
  constructor
  · intro hfind
    exact ⟨List.mem_of_find?_eq_some hfind, by simpa using List.find?_some hfind⟩
  · rintro ⟨hx, rfl⟩
    obtain ⟨y, hy⟩ : ∃ y, xs.find? (fun y => key y = key x) = some y :=
      Option.isSome_iff_exists.1 (List.find?_isSome.2 ⟨x, hx, decide_eq_true rfl⟩)
    have hkey : key y = key x := by simpa using List.find?_some hy
    rw [hy, List.inj_on_of_nodup_map h (List.mem_of_find?_eq_some hy) hx hkey]

namespace StateBlock

/-- The names of all declarations, by kind. -/
def names (s : StateBlock) : List Text :=
  s.services.map Service.name ++ (s.scratches.map Endpoint.name ++ s.channels.map Endpoint.name)

/-- What a state block that was read guarantees. -/
structure WellFormed (s : StateBlock) : Prop where
  distinct : s.names.Nodup
  proper : ∀ name ∈ s.names, IsProperName name
  owned : ∀ e ∈ s.scratches ++ s.channels, ∃ v ∈ s.services, v.name = e.service

theorem names_ofDeclarations (ds : List Declaration) (u : SourceUnit) :
    (ofDeclarations ds u).names.Perm (ds.map Declaration.name) := by
  induction ds with
  | nil => exact .nil
  | cons d ds ih =>
      simp only [names, ofDeclarations, List.map_cons] at ih ⊢
      cases d with
      | service s => exact ih.cons s.name
      | endpoint e =>
          simp only [List.filterMap_cons, Declaration.service?, Declaration.endpoint?]
          -- An endpoint stands behind all services, and a channel behind all scratches.
          cases e.kind with
          | scratch => exact List.perm_middle.trans (ih.cons e.name)
          | channel =>
              refine (List.Perm.append_left _ List.perm_middle).trans ?_
              exact List.perm_middle.trans (ih.cons e.name)

theorem mapM_of_declarationsFrom {taken : List Text} {is : List Item} {ds : List Declaration}
    (h : declarationsFrom taken is = .ok ds) : is.mapM Declaration.ofItem = .ok ds := by
  induction is generalizing taken ds with
  | nil => exact h
  | cons i is ih =>
      obtain ⟨d, hd, h⟩ := Except.bind_eq_ok_iff.1 h
      split at h
      · cases h
      · simp only [Except.bind_eq_ok_iff, Except.pure_eq_ok_iff] at h
        obtain ⟨rest, hrest, rfl⟩ := h
        exact Except.mapM_cons_eq_ok_iff.2 ⟨d, rest, hd, ih hrest, rfl⟩

/-- Declarations with distinct names that no earlier one has are accepted. -/
theorem declarationsFrom_of_mapM {taken : List Text} {is : List Item} {ds : List Declaration}
    (h : is.mapM Declaration.ofItem = .ok ds) (hnodup : (ds.map Declaration.name).Nodup)
    (hfresh : ∀ d ∈ ds, d.name ∉ taken) : declarationsFrom taken is = .ok ds := by
  induction is generalizing taken ds with
  | nil => exact h
  | cons i is ih =>
      obtain ⟨d, ds, hd, his, rfl⟩ := Except.mapM_cons_eq_ok_iff.1 h
      obtain ⟨hnew, hnodup⟩ := List.nodup_cons.1 hnodup
      obtain ⟨hd', hds⟩ := List.forall_mem_cons.1 hfresh
      have hrest : declarationsFrom (d.name :: taken) is = .ok ds := by
        refine ih his hnodup fun e he hmem => ?_
        rcases List.mem_cons.1 hmem with heq | hmem
        · exact hnew (heq ▸ List.mem_map_of_mem he)
        · exact hds e he hmem
      rw [declarationsFrom, hd, Except.ok_bind, if_neg (by simpa using hd'), hrest]
      rfl

/-- The declarations of a block have proper names, distinct from each other
and from those of earlier ones. -/
theorem names_of_declarationsFrom {taken : List Text} {is : List Item} {ds : List Declaration}
    (h : declarationsFrom taken is = .ok ds) :
    (ds.map Declaration.name).Nodup ∧ ∀ d ∈ ds, IsProperName d.name ∧ d.name ∉ taken := by
  induction is generalizing taken ds with
  | nil =>
      cases h
      exact ⟨List.nodup_nil, nofun⟩
  | cons i is ih =>
      obtain ⟨d, hd, h⟩ := Except.bind_eq_ok_iff.1 h
      split at h
      · cases h
      · next hfresh =>
        simp only [Except.bind_eq_ok_iff, Except.pure_eq_ok_iff] at h
        obtain ⟨rest, hrest, rfl⟩ := h
        obtain ⟨hnodup, hall⟩ := ih hrest
        have hnew : d.name ∉ taken := by simpa using hfresh
        constructor
        · refine List.nodup_cons.2 ⟨fun hmem => ?_, hnodup⟩
          obtain ⟨e, he, heq⟩ := List.mem_map.1 hmem
          exact (hall e he).2 (heq ▸ List.mem_cons_self)
        · intro e he
          rcases List.mem_cons.1 he with rfl | he
          · exact ⟨Declaration.isProperName_of_ofItem hd, hnew⟩
          · obtain ⟨hproper, hnot⟩ := hall e he
            exact ⟨hproper, fun hmem => hnot (List.mem_cons_of_mem _ hmem)⟩

theorem owned_of_checkServices {s : StateBlock} {x : Unit} (h : s.checkServices = .ok x) :
    ∀ e ∈ s.scratches ++ s.channels, ∃ v ∈ s.services, v.name = e.service := by
  intro e he
  unfold checkServices at h
  split at h
  · cases h
  · next hnone =>
    have hsome := List.find?_eq_none.1 hnone e he
    simpa [service?, List.find?_eq_none] using hsome

/-- A state block that was read is well-formed. -/
theorem wellFormed_of_ofItem {i : Item} {s : StateBlock} (h : ofItem i = .ok s) :
    s.WellFormed := by
  simp only [ofItem, Except.bind_eq_ok_iff, Except.pure_eq_ok_iff] at h
  obtain ⟨body, -, is, -, ds, hds, _, hcheck, rfl⟩ := h
  obtain ⟨hnodup, hall⟩ := names_of_declarationsFrom hds
  have hperm := names_ofDeclarations ds i.unit
  refine ⟨hperm.nodup_iff.2 hnodup, fun name hname => ?_, owned_of_checkServices hcheck⟩
  obtain ⟨d, hd, rfl⟩ := List.mem_map.1 (hperm.mem_iff.1 hname)
  exact (hall d hd).1

end StateBlock

end Overlay
