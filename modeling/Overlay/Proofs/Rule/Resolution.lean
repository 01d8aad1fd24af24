import Overlay.Proofs.Rule.Reading

/-!
Names in rules that were read. Each kind of rule looks its endpoints up in the
state block, a merge all of its sources too, so the endpoints that a rule names
are declared, and the services between which data are sent own them.
-/

namespace Overlay

namespace StateBlock

/-- Whether a scratch of a service is declared. -/
def HasScratch (s : StateBlock) (name service : Text) : Prop :=
  ∃ e ∈ s.scratches, e.name = name ∧ e.service = service

/-- Whether a channel of a service is declared. -/
def HasChannel (s : StateBlock) (name service : Text) : Prop :=
  ∃ e ∈ s.channels, e.name = name ∧ e.service = service

/-- Whether a channel is declared. -/
def DeclaresChannel (s : StateBlock) (name : Text) : Prop := ∃ e ∈ s.channels, e.name = name

theorem hasScratch_of_serviceOfScratch {s : StateBlock} {name service : Text}
    (h : s.serviceOfScratch name = .ok service) : s.HasScratch name service := by
  unfold serviceOfScratch at h
  split at h
  · next e he =>
    cases h
    exact ⟨e, List.mem_of_find?_eq_some he, by simpa using List.find?_some he, rfl⟩
  · cases h

theorem hasChannel_of_serviceOfChannel {s : StateBlock} {name service : Text}
    (h : s.serviceOfChannel name = .ok service) : s.HasChannel name service := by
  unfold serviceOfChannel at h
  split at h
  · next e he =>
    cases h
    exact ⟨e, List.mem_of_find?_eq_some he, by simpa using List.find?_some he, rfl⟩
  · cases h

theorem declaresChannel_of_isNone_ne {s : StateBlock} {name : Text}
    (h : ¬(s.channel? name).isNone = true) : s.DeclaresChannel name := by
  simpa [channel?, DeclaresChannel] using h

end StateBlock

/-- Whether the ends of a transmission are declared for its services. -/
structure Transmission.Resolves (s : StateBlock) (t : Transmission) : Prop where
  channel : s.HasChannel t.channel.name t.destination
  scratch : s.HasScratch t.scratch.name t.source

theorem Transmission.resolves_of_ofUnit {s : StateBlock} {u : SourceUnit} {t : Transmission}
    (h : ofUnit s u = .ok t) : t.Resolves s := by
  obtain ⟨_, _, channel, scratch, destination, source, -, -, -, hdestination, hsource, rfl⟩ :=
    ofUnit_eq_ok_iff.1 h
  exact {
    channel := StateBlock.hasChannel_of_serviceOfChannel hdestination
    scratch := StateBlock.hasScratch_of_serviceOfScratch hsource }

/-- Whether the channel of a trigger is declared and its event may be named so. -/
structure Trigger.Resolves (s : StateBlock) (t : Trigger) : Prop where
  channel : s.DeclaresChannel t.channel
  event : IsProperName t.event

theorem Trigger.resolves_of_ofUnit {s : StateBlock} {u : SourceUnit} {t : Trigger}
    (h : ofUnit s u = .ok t) : t.Resolves s := by
  obtain ⟨_, _, _, _, _, -, hevent, -, -, -, -, -, -, -, -, -, hchannel, -⟩ := ofUnit_eq_ok_iff.1 h
  exact {
    channel := StateBlock.declaresChannel_of_isNone_ne hchannel
    event := isProperName_of_checkName hevent }

/-- Whether the channels that are merged, and the one they are merged into, are
declared. -/
structure Merge.Resolves (s : StateBlock) (m : Merge) : Prop where
  destination : s.DeclaresChannel m.destination
  sources : ∀ name ∈ m.sources, s.DeclaresChannel name

theorem Merge.declaresChannel_of_checkChannels {s : StateBlock} {names : List Text} {x : Unit}
    (h : checkChannels s names = .ok x) : ∀ name ∈ names, s.DeclaresChannel name := by
  intro name hname
  unfold checkChannels at h
  split at h
  · cases h
  · next hnone =>
    exact StateBlock.declaresChannel_of_isNone_ne (List.find?_eq_none.1 hnone name hname)

theorem Merge.resolves_of_ofUnit {s : StateBlock} {u : SourceUnit} {m : Merge}
    (h : ofUnit s u = .ok m) : m.Resolves s := by
  obtain ⟨_, _, _, _, -, -, -, -, -, -, -, -, hchannels, -⟩ := ofUnit_eq_ok_iff.1 h
  have hall := declaresChannel_of_checkChannels hchannels
  exact {
    destination := hall _ (List.mem_append_right _ List.mem_cons_self)
    sources := fun name hname => hall name (List.mem_append_left _ hname) }

namespace Rule

def Resolves (s : StateBlock) : Rule → Prop
  | transmission t => t.Resolves s
  | trigger t => t.Resolves s
  | merge m => m.Resolves s

theorem resolves_of_ofItem {s : StateBlock} {i : Item} {r : Rule} (h : ofItem s i = .ok r) :
    r.Resolves s := by
  cases ofItem_eq_ok_iff.1 h with
  | transmission _ ht => exact Transmission.resolves_of_ofUnit ht
  | trigger _ ht => exact Trigger.resolves_of_ofUnit ht
  | merge _ hm => exact Merge.resolves_of_ofUnit hm

end Rule

/-- Whether every rule of a list resolves. -/
structure Rules.Resolves (s : StateBlock) (r : Rules) : Prop where
  transmissions : ∀ t ∈ r.transmissions, t.Resolves s
  triggers : ∀ t ∈ r.triggers, t.Resolves s
  merges : ∀ m ∈ r.merges, m.Resolves s

theorem Rules.resolves_ofList {s : StateBlock} {rs : List Rule} (h : ∀ r ∈ rs, r.Resolves s) :
    (ofList rs).Resolves s := by
  constructor
  · intro t ht
    obtain ⟨r, hr, hview⟩ := List.mem_filterMap.1 ht
    cases r <;> cases hview
    exact h _ hr
  · intro t ht
    obtain ⟨r, hr, hview⟩ := List.mem_filterMap.1 ht
    cases r <;> cases hview
    exact h _ hr
  · intro m hm
    obtain ⟨r, hr, hview⟩ := List.mem_filterMap.1 hm
    cases r <;> cases hview
    exact h _ hr

end Overlay
