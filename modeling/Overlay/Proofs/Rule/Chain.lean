import Overlay.Proofs.Rule.Reading
import Overlay.Proofs.Text.Pieces
import Mathlib.Data.List.Perm.Basic

/-!
What a chain of calls is made of. Reading a chain is a fold in which each call
fills a place of its own or comes last of those that process data. What it gives
can be said without the order of the fold: each place holds what the only call
of its method gives, and the processing is that of the other calls, in their
order. So calls can be exchanged as long as those that process data stay in order.
-/

namespace Overlay

/-- Whether a method may be called in the chain of an endpoint. -/
def EndpointKind.admits : EndpointKind → Method → Prop
  | scratch, m => m = .select ∨ m = .metadata ∨ m = .qos ∨ m = .id ∨ m.isProcessing = true
  | channel, m => m = .select ∨ m = .metadata

theorem EndpointKind.admits_iff {kind : EndpointKind} {m : Method} :
    kind.admits m ↔ m = .select ∨ m = .metadata ∨
      kind = .scratch ∧ (m = .qos ∨ m = .id ∨ m.isProcessing = true) := by
  cases kind <;> simp [admits]

namespace Chain

/-- Whether a text calls a method that processes data. -/
def isProcessingCall (t : Text) : Bool := (Method.ofCall? t).any Method.isProcessing

/-- Whether a place holds what the calls of a method give. There may be one such
call at most: without any the place is empty. -/
def Holds {α : Type} (m : Method) (read : Text → Except Fault α) (calls : List Text)
    (place : Option α) : Prop :=
  List.Forall₂ (fun call a => read call = .ok a) (calls.filter m.isCalledBy) place.toList

/-- Whether a call gives a step of the processing. -/
def Processes (call : Text) (p : Processing) : Prop :=
  ∃ m, Method.ofCall? call = some m ∧ Processing.ofText m call = .ok p

/-- What the calls of a chain give, whatever the order in which they fill their
places. -/
structure IsMadeOf (kind : EndpointKind) (name : Text) (calls : List Text) (c : Chain) :
    Prop where
  name : c.name = name
  admitted : ∀ call ∈ calls, ∃ m, Method.ofCall? call = some m ∧ kind.admits m
  select : Holds .select selection calls c.select
  metadata : Holds .metadata Metadata.ofText calls c.metadata
  qos : Holds .qos Qos.ofText calls c.qos
  id : Holds .id identifier calls c.id
  processing : List.Forall₂ Processes (calls.filter isProcessingCall) c.processing

/-! One call more. -/

section

variable {calls : List Text} {t : Text} {n : Method}

theorem isCalledBy_eq (hn : Method.ofCall? t = some n) (m : Method) :
    m.isCalledBy t = decide (n = m) := by
  rw [Method.isCalledBy, hn]
  by_cases h : n = m <;> simp [h]

theorem holds_concat {α : Type} {m : Method} {read : Text → Except Fault α} {place : Option α}
    (hn : Method.ofCall? t = some n) :
    Holds m read (calls ++ [t]) place ↔
      if n = m then ∃ a, place = some a ∧ read t = .ok a ∧ Holds m read calls none
      else Holds m read calls place := by
  unfold Holds
  rw [List.filter_append, List.filter_singleton, isCalledBy_eq hn]
  by_cases h : n = m
  · rw [if_pos h, decide_eq_true h, cond_true, forall₂_concat_left_iff]
    cases place with
    | none => simp
    | some a =>
        constructor
        · rintro ⟨as, b, hall, hb, heq⟩
          obtain ⟨rfl, hb'⟩ := List.append_inj' (show [] ++ [a] = as ++ [b] from heq) rfl
          cases hb'
          exact ⟨a, rfl, hb, hall⟩
        · rintro ⟨_, hplace, ha, hall⟩
          cases hplace
          exact ⟨[], a, hall, ha, rfl⟩
  · rw [if_neg h, decide_eq_false h, cond_false, List.append_nil]

theorem processing_concat {ps : List Processing} (hn : Method.ofCall? t = some n) :
    List.Forall₂ Processes ((calls ++ [t]).filter isProcessingCall) ps ↔
      if n.isProcessing then ∃ ps' p, List.Forall₂ Processes (calls.filter isProcessingCall) ps' ∧
        Processing.ofText n t = .ok p ∧ ps = ps' ++ [p]
      else List.Forall₂ Processes (calls.filter isProcessingCall) ps := by
  have hcall : isProcessingCall t = n.isProcessing := by rw [isProcessingCall, hn]; rfl
  have hprocesses (p : Processing) : Processes t p ↔ Processing.ofText n t = .ok p := by
    simp [Processes, hn]
  rw [List.filter_append, List.filter_singleton, hcall]
  cases n.isProcessing with
  | false => simp
  | true => simp only [cond_true, if_true, forall₂_concat_left_iff, hprocesses]

/-- One call more concerns one place, or the processing. -/
theorem isMadeOf_concat_iff {kind : EndpointKind} {name : Text} {c : Chain}
    (hn : Method.ofCall? t = some n) :
    IsMadeOf kind name (calls ++ [t]) c ↔ c.name = name ∧
      (∀ call ∈ calls, ∃ m, Method.ofCall? call = some m ∧ kind.admits m) ∧ kind.admits n ∧
      (if n = .select then ∃ names, c.select = some names ∧ selection t = .ok names ∧
          Holds .select selection calls none
        else Holds .select selection calls c.select) ∧
      (if n = .metadata then ∃ m, c.metadata = some m ∧ Metadata.ofText t = .ok m ∧
          Holds .metadata Metadata.ofText calls none
        else Holds .metadata Metadata.ofText calls c.metadata) ∧
      (if n = .qos then ∃ q, c.qos = some q ∧ Qos.ofText t = .ok q ∧
          Holds .qos Qos.ofText calls none
        else Holds .qos Qos.ofText calls c.qos) ∧
      (if n = .id then ∃ s, c.id = some s ∧ identifier t = .ok s ∧ Holds .id identifier calls none
        else Holds .id identifier calls c.id) ∧
      (if n.isProcessing then ∃ ps p, List.Forall₂ Processes (calls.filter isProcessingCall) ps ∧
          Processing.ofText n t = .ok p ∧ c.processing = ps ++ [p]
        else List.Forall₂ Processes (calls.filter isProcessingCall) c.processing) := by
  rw [← holds_concat hn, ← holds_concat hn, ← holds_concat hn, ← holds_concat hn,
    ← processing_concat hn]
  constructor
  · rintro ⟨hname, hadmitted, hselect, hmetadata, hqos, hid, hprocessing⟩
    obtain ⟨m, hm, hadmits⟩ := hadmitted t (List.mem_append_right _ List.mem_cons_self)
    obtain rfl := Option.some.inj (hn.symm.trans hm)
    exact ⟨hname, fun call hcall => hadmitted call (List.mem_append_left _ hcall), hadmits, hselect,
      hmetadata, hqos, hid, hprocessing⟩
  · rintro ⟨hname, hadmitted, hadmits, hselect, hmetadata, hqos, hid, hprocessing⟩
    refine ⟨hname, fun call hcall => ?_, hselect, hmetadata, hqos, hid, hprocessing⟩
    rcases List.mem_append.1 hcall with hcall | hcall
    · exact hadmitted call hcall
    · obtain rfl := List.mem_singleton.1 hcall
      exact ⟨n, hn, hadmits⟩

theorem ne_of_isProcessing (h : n.isProcessing = true) {m : Method}
    (hm : m.isProcessing = false) : n ≠ m := by
  rintro rfl
  rw [hm] at h
  cases h

/-- A place is filled when it was empty, so what it holds is of the new call alone. -/
theorem IsMadeOf.add {kind : EndpointKind} {name : Text} {c c' : Chain}
    (h : IsMadeOf kind name calls c) (hadd : add kind c t = .ok c') :
    IsMadeOf kind name (calls ++ [t]) c' := by
  obtain ⟨hname, hadmitted, hselect, hmetadata, hqos, hid, hprocessing⟩ := h
  have hadds := add_eq_ok_iff.1 hadd
  cases hadds with
  | @select names hn hnone hnames =>
      exact (isMadeOf_concat_iff hn).2 ⟨hname, hadmitted, EndpointKind.admits_iff.2 (.inl rfl),
        ⟨names, rfl, hnames, hnone ▸ hselect⟩, hmetadata, hqos, hid, hprocessing⟩
  | @metadata m hn hnone hm =>
      exact (isMadeOf_concat_iff hn).2 ⟨hname, hadmitted,
        EndpointKind.admits_iff.2 (.inr (.inl rfl)), hselect, ⟨m, rfl, hm, hnone ▸ hmetadata⟩,
        hqos, hid, hprocessing⟩
  | @qos q hkind hn hnone hq =>
      exact (isMadeOf_concat_iff hn).2 ⟨hname, hadmitted,
        EndpointKind.admits_iff.2 (.inr (.inr ⟨hkind, .inl rfl⟩)), hselect, hmetadata,
        ⟨q, rfl, hq, hnone ▸ hqos⟩, hid, hprocessing⟩
  | @id s hkind hn hnone hs =>
      exact (isMadeOf_concat_iff hn).2 ⟨hname, hadmitted,
        EndpointKind.admits_iff.2 (.inr (.inr ⟨hkind, .inr (.inl rfl)⟩)), hselect, hmetadata,
        hqos, ⟨s, rfl, hs, hnone ▸ hid⟩, hprocessing⟩
  | @processing n p hkind hn hprocesses hp =>
      refine (isMadeOf_concat_iff hn).2 ⟨hname, hadmitted,
        EndpointKind.admits_iff.2 (.inr (.inr ⟨hkind, .inr (.inr hprocesses)⟩)), ?_⟩
      rw [if_neg (ne_of_isProcessing hprocesses rfl), if_neg (ne_of_isProcessing hprocesses rfl),
        if_neg (ne_of_isProcessing hprocesses rfl), if_neg (ne_of_isProcessing hprocesses rfl),
        if_pos hprocesses]
      exact ⟨hselect, hmetadata, hqos, hid, c.processing, p, hprocessing, hp, rfl⟩

/-- The chain before the last call has its place empty, or its processing taken off. -/
theorem IsMadeOf.exists_add {kind : EndpointKind} {name : Text} {c' : Chain}
    (h : IsMadeOf kind name (calls ++ [t]) c') :
    ∃ c, IsMadeOf kind name calls c ∧ Chain.add kind c t = .ok c' := by
  obtain ⟨n, hn, -⟩ := h.admitted t (List.mem_append_right _ List.mem_cons_self)
  obtain ⟨name', select, metadata, qos, id, processing⟩ := c'
  obtain ⟨hname, hadmitted, hadmits, hselect, hmetadata, hqos, hid, hprocessing⟩ :=
    (isMadeOf_concat_iff hn).1 h
  rcases EndpointKind.admits_iff.1 hadmits with rfl | rfl | ⟨rfl, rfl | rfl | hprocesses⟩
  · obtain ⟨names, rfl, hnames, hnone⟩ := hselect
    exact ⟨⟨name', none, metadata, qos, id, processing⟩,
      ⟨hname, hadmitted, hnone, hmetadata, hqos, hid, hprocessing⟩,
      add_eq_ok_iff.2 (.select hn rfl hnames)⟩
  · obtain ⟨m, rfl, hm, hnone⟩ := hmetadata
    exact ⟨⟨name', select, none, qos, id, processing⟩,
      ⟨hname, hadmitted, hselect, hnone, hqos, hid, hprocessing⟩,
      add_eq_ok_iff.2 (.metadata hn rfl hm)⟩
  · obtain ⟨q, rfl, hq, hnone⟩ := hqos
    exact ⟨⟨name', select, metadata, none, id, processing⟩,
      ⟨hname, hadmitted, hselect, hmetadata, hnone, hid, hprocessing⟩,
      add_eq_ok_iff.2 (.qos rfl hn rfl hq)⟩
  · obtain ⟨s, rfl, hs, hnone⟩ := hid
    exact ⟨⟨name', select, metadata, qos, none, processing⟩,
      ⟨hname, hadmitted, hselect, hmetadata, hqos, hnone, hprocessing⟩,
      add_eq_ok_iff.2 (.id rfl hn rfl hs)⟩
  · rw [if_neg (ne_of_isProcessing hprocesses rfl)] at hselect hmetadata hqos hid
    rw [if_pos hprocesses] at hprocessing
    obtain ⟨ps, p, hps, hp, rfl⟩ := hprocessing
    exact ⟨⟨name', select, metadata, qos, id, ps⟩,
      ⟨hname, hadmitted, hselect, hmetadata, hqos, hid, hps⟩,
      add_eq_ok_iff.2 (.processing rfl hn hprocesses hp)⟩

/-- A chain of one call more comes about by adding the call. -/
theorem exists_add_iff {kind : EndpointKind} {name : Text} {c' : Chain} :
    (∃ c, IsMadeOf kind name calls c ∧ add kind c t = .ok c') ↔
      IsMadeOf kind name (calls ++ [t]) c' :=
  ⟨fun ⟨_, h, hadd⟩ => h.add hadd, IsMadeOf.exists_add⟩

end

/-- The fold of the reader gives what the calls are made of. -/
theorem foldlM_eq_ok_iff {kind : EndpointKind} {name : Text} {calls : List Text} {c : Chain} :
    calls.foldlM (add kind) ⟨name, none, none, none, none, []⟩ = .ok c ↔
      IsMadeOf kind name calls c := by
  induction calls using List.reverseRecOn generalizing c with
  | nil =>
      rw [List.foldlM_nil, Except.pure_eq_ok_iff]
      constructor
      · rintro rfl
        exact ⟨rfl, nofun, .nil, .nil, .nil, .nil, .nil⟩
      · rintro ⟨hname, -, hselect, hmetadata, hqos, hid, hprocessing⟩
        obtain ⟨name', select, metadata, qos, id, processing⟩ := c
        have hnone {α : Type} {m : Method} {read : Text → Except Fault α} {place : Option α}
            (h : Holds m read [] place) : place = none := by
          cases place with
          | none => rfl
          | some a => cases h
        obtain rfl : name' = name := hname
        obtain rfl := hnone hselect
        obtain rfl := hnone hmetadata
        obtain rfl := hnone hqos
        obtain rfl := hnone hid
        cases hprocessing
        rfl
  | append_singleton calls t ih =>
      simp only [List.foldlM_append, List.foldlM_cons, List.foldlM_nil, bind_pure,
        Except.bind_eq_ok_iff, ih, exists_add_iff]

theorem ofText_eq_ok_iff {kind : EndpointKind} {t : Text} {c : Chain} :
    ofText kind t = .ok c ↔ ∃ calls, t.split ['.'] none = .ok (c.name :: calls) ∧
      checkName c.name = .ok () ∧ IsMadeOf kind c.name calls c := by
  simp only [ofText, Except.bind_eq_ok_iff, foldlM_eq_ok_iff]
  constructor
  · rintro ⟨parts, hparts, _, hname, h⟩
    obtain ⟨name, calls, rfl⟩ := List.exists_cons_of_ne_nil
      (Text.ne_nil_of_split (List.cons_ne_nil '.' []) hparts)
    obtain rfl : c.name = name := h.name
    exact ⟨calls, hparts, hname, h⟩
  · rintro ⟨calls, hparts, hname, h⟩
    exact ⟨_, hparts, (), hname, h⟩

/-! The order of the calls. -/

theorem filter_eq_of_perm {α : Type} {p : α → Bool} {xs ys : List α} (h : ys.Perm xs)
    (hlen : (xs.filter p).length ≤ 1) : ys.filter p = xs.filter p := by
  have hperm := h.filter p
  match hxs : xs.filter p, hlen with
  | [], _ => rwa [hxs, List.perm_nil] at hperm
  | [x], _ => rwa [hxs, List.perm_singleton] at hperm

theorem Holds.length_le {α : Type} {m : Method} {read : Text → Except Fault α}
    {calls : List Text} {place : Option α} (h : Holds m read calls place) :
    (calls.filter m.isCalledBy).length ≤ 1 := by
  rw [h.length_eq]
  cases place <;> simp

theorem Holds.perm {α : Type} {m : Method} {read : Text → Except Fault α}
    {calls calls' : List Text} {place : Option α} (h : Holds m read calls place)
    (hperm : calls'.Perm calls) : Holds m read calls' place := by
  rw [Holds, filter_eq_of_perm hperm h.length_le]
  exact h

/-- Calls may be exchanged as long as those that process data stay in order. -/
theorem IsMadeOf.perm {kind : EndpointKind} {name : Text} {calls calls' : List Text} {c : Chain}
    (h : IsMadeOf kind name calls c) (hperm : calls'.Perm calls)
    (horder : calls'.filter isProcessingCall = calls.filter isProcessingCall) :
    IsMadeOf kind name calls' c where
  name := h.name
  admitted := fun call hcall => h.admitted call (hperm.mem_iff.1 hcall)
  select := h.select.perm hperm
  metadata := h.metadata.perm hperm
  qos := h.qos.perm hperm
  id := h.id.perm hperm
  processing := horder ▸ h.processing

end Chain

end Overlay
