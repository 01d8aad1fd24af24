import Overlay.BloomBlock
import Overlay.Proofs.StateBlock

/-!
Rules that were read, taken apart: the steps of the reader of each kind of rule
have succeeded, and the rule is made of what they gave. Which reader it was is
decided by the construct of the item.
-/

namespace Overlay

variable {s : StateBlock} {u : SourceUnit}

/-! Chains of calls. -/

/-- Whether a method processes data on their way. -/
def Method.isProcessing : Method → Bool
  | filter | cullTime | cullSpace | aggregate | string | virtual => true
  | _ => false

theorem Processing.isProcessing_of_ofText {m : Method} {t : Text} {p : Processing}
    (h : ofText m t = .ok p) : m.isProcessing = true := by
  cases m <;> first | rfl | cases h

namespace Chain

theorem setOnce_eq_ok_iff {α : Type} {m : Method} {place place' : Option α}
    {value : Except Fault α} :
    setOnce m place value = .ok place' ↔ place = none ∧ ∃ a, value = .ok a ∧ place' = some a := by
  rw [setOnce, Except.bind_eq_ok_iff]
  cases place <;> simp [eq_comm]

/-- What a call may add to a chain: it fills its own place, which was empty, or it
comes last of those that process data. -/
inductive Adds (kind : EndpointKind) (c : Chain) (t : Text) : Chain → Prop
  | select {names : List Text} : Method.ofCall? t = some .select → c.select = none →
      selection t = .ok names → Adds kind c t { c with select := some names }
  | metadata {m : Metadata} : Method.ofCall? t = some .metadata → c.metadata = none →
      Metadata.ofText t = .ok m → Adds kind c t { c with metadata := some m }
  | qos {q : Qos} : kind = .scratch → Method.ofCall? t = some .qos → c.qos = none →
      Qos.ofText t = .ok q → Adds kind c t { c with qos := some q }
  | id {s : Text} : kind = .scratch → Method.ofCall? t = some .id → c.id = none →
      identifier t = .ok s → Adds kind c t { c with id := some s }
  | processing {m : Method} {p : Processing} : kind = .scratch → Method.ofCall? t = some m →
      m.isProcessing = true → Processing.ofText m t = .ok p →
      Adds kind c t { c with processing := c.processing ++ [p] }

theorem add_eq_ok_iff {kind : EndpointKind} {c c' : Chain} {t : Text} :
    add kind c t = .ok c' ↔ Adds kind c t c' := by
  constructor
  · intro h
    unfold add at h
    split at h
    · next hcall =>
      simp only [Except.bind_eq_ok_iff, Except.pure_eq_ok_iff, setOnce_eq_ok_iff] at h
      obtain ⟨_, ⟨hnone, names, hnames, rfl⟩, rfl⟩ := h
      exact .select hcall hnone hnames
    · next hcall =>
      simp only [Except.bind_eq_ok_iff, Except.pure_eq_ok_iff, setOnce_eq_ok_iff] at h
      obtain ⟨_, ⟨hnone, m, hm, rfl⟩, rfl⟩ := h
      exact .metadata hcall hnone hm
    · next hcall =>
      simp only [Except.bind_eq_ok_iff, Except.pure_eq_ok_iff, setOnce_eq_ok_iff] at h
      obtain ⟨_, ⟨hnone, q, hq, rfl⟩, rfl⟩ := h
      exact .qos rfl hcall hnone hq
    · next hcall =>
      simp only [Except.bind_eq_ok_iff, Except.pure_eq_ok_iff, setOnce_eq_ok_iff] at h
      obtain ⟨_, ⟨hnone, s, hs, rfl⟩, rfl⟩ := h
      exact .id rfl hcall hnone hs
    · next hcall =>
      simp only [Except.bind_eq_ok_iff, Except.pure_eq_ok_iff] at h
      obtain ⟨p, hp, rfl⟩ := h
      exact .processing rfl hcall (Processing.isProcessing_of_ofText hp) hp
    · cases h
  · intro h
    cases h with
    | select hcall hnone hnames =>
        rw [add.eq_def, hcall]
        exact Except.bind_eq_ok_iff.2 ⟨_, setOnce_eq_ok_iff.2 ⟨hnone, _, hnames, rfl⟩, rfl⟩
    | metadata hcall hnone hm =>
        rw [add.eq_def, hcall]
        exact Except.bind_eq_ok_iff.2 ⟨_, setOnce_eq_ok_iff.2 ⟨hnone, _, hm, rfl⟩, rfl⟩
    | qos hkind hcall hnone hq =>
        rw [add.eq_def, hkind, hcall]
        exact Except.bind_eq_ok_iff.2 ⟨_, setOnce_eq_ok_iff.2 ⟨hnone, _, hq, rfl⟩, rfl⟩
    | id hkind hcall hnone hs =>
        rw [add.eq_def, hkind, hcall]
        exact Except.bind_eq_ok_iff.2 ⟨_, setOnce_eq_ok_iff.2 ⟨hnone, _, hs, rfl⟩, rfl⟩
    | @processing m p hkind hcall hprocessing hp =>
        rw [add.eq_def, hkind, hcall]
        cases m <;> first | exact Except.bind_eq_ok_iff.2 ⟨p, hp, rfl⟩ | cases hprocessing

end Chain

/-! Rules. -/

theorem Transmission.ofUnit_eq_ok_iff {t : Transmission} :
    ofUnit s u = .ok t ↔ ∃ left right channel scratch destination source,
      u.text.split arrow (some 2) = .ok [left, right] ∧
      Chain.ofText .channel left = .ok channel ∧ Chain.ofText .scratch right = .ok scratch ∧
      s.serviceOfChannel channel.name = .ok destination ∧
      s.serviceOfScratch scratch.name = .ok source ∧
      t = ⟨channel.pathEnd, scratch.pathEnd, source, destination, scratch.processing, scratch.qos,
        scratch.id, u⟩ := by
  simp only [ofUnit, SourceUnit.locate_eq_ok_iff, read, Except.bind_eq_ok_iff]
  constructor
  · rintro ⟨parts, hparts, h⟩
    split at h
    · simp only [Except.bind_eq_ok_iff, Except.pure_eq_ok_iff] at h
      obtain ⟨channel, hchannel, scratch, hscratch, destination, hdestination, source, hsource,
        rfl⟩ := h
      exact ⟨_, _, channel, scratch, destination, source, hparts, hchannel, hscratch,
        hdestination, hsource, rfl⟩
    · cases h
  · rintro ⟨left, right, channel, scratch, destination, source, hparts, hchannel, hscratch,
      hdestination, hsource, rfl⟩
    refine ⟨[left, right], hparts, ?_⟩
    simp only [Except.bind_eq_ok_iff, Except.pure_eq_ok_iff]
    exact ⟨channel, hchannel, scratch, hscratch, destination, hdestination, source, hsource, rfl⟩

theorem Trigger.ofUnit_eq_ok_iff {t : Trigger} :
    ofUnit s u = .ok t ↔ ∃ rest call args count text,
      head? u.text = some (t.event, t.switch, rest) ∧ checkName t.event = .ok () ∧
      rest.split ['.'] (some 2) = .ok [t.channel, call] ∧ checkName t.channel = .ok () ∧
      Method.trigger.call call format = .ok args ∧
      Argument.nth Argument.literal? args 0 = .ok t.interval ∧
      checkPositive .triggerInterval t.interval = .ok () ∧
      Argument.nth Argument.untyped? args 1 = .ok count ∧ readCount count = .ok t.countCondition ∧
      Argument.nth Argument.untyped? args 2 = .ok text ∧ Condition.ofText text = .ok t.condition ∧
      ¬(s.channel? t.channel).isNone = true ∧ t.unit = u := by
  rw [ofUnit, SourceUnit.locate_eq_ok_iff, read]
  constructor
  · intro h
    split at h
    · cases h
    · next event switch rest hhead =>
      simp only [Except.bind_eq_ok_iff] at h
      obtain ⟨_, hevent, parts, hparts, h⟩ := h
      split at h
      · simp only [Except.bind_eq_ok_iff] at h
        obtain ⟨_, hchannel, args, hargs, interval, hinterval, _, hpositive, count, hcount, leaf,
          hleaf, text, htext, condition, hcondition, h⟩ := h
        split at h
        · cases h
        · next hdeclared =>
          cases h
          exact ⟨rest, _, args, count, text, hhead, hevent, hparts, hchannel, hargs, hinterval,
            hpositive, hcount, hleaf, htext, hcondition, hdeclared, rfl⟩
      · cases h
  · rintro ⟨rest, call, args, count, text, hhead, hevent, hparts, hchannel, hargs, hinterval,
      hpositive, hcount, hleaf, htext, hcondition, hdeclared, rfl⟩
    simp only [hhead, Except.bind_eq_ok_iff]
    refine ⟨(), hevent, [t.channel, call], hparts, ?_⟩
    simp only [Except.bind_eq_ok_iff]
    exact ⟨(), hchannel, args, hargs, t.interval, hinterval, (), hpositive, count, hcount,
      t.countCondition, hleaf, text, htext, t.condition, hcondition, if_neg hdeclared⟩

theorem Merge.ofUnit_eq_ok_iff {m : Merge} :
    ofUnit s u = .ok m ↔ ∃ call ts ts' args,
      head? u.text = some (m.destination, m.kind, call) ∧ m.kind.method.arguments call = .ok ts ∧
      splitVirtual m.kind ts = .ok (ts', m.virtual) ∧
      m.kind.method.expectAtLeast ts' (m.kind.leastSources + 1) = .ok () ∧
      m.kind.method.convert ts'
        (ArgumentType.number :: List.replicate (ts'.length - 1) [.dataName]) = .ok args ∧
      Argument.nth Argument.literal? args 0 = .ok m.delay ∧ checkDelay m.kind m.delay = .ok () ∧
      (List.range' 1 (args.length - 1)).mapM (Argument.nth Argument.text? args) = .ok m.sources ∧
      checkChannels s (m.sources ++ [m.destination]) = .ok () ∧ m.unit = u := by
  rw [ofUnit, SourceUnit.locate_eq_ok_iff, read]
  constructor
  · intro h
    split at h
    · cases h
    · next destination kind call hhead =>
      simp only [Except.bind_eq_ok_iff, Except.pure_eq_ok_iff] at h
      obtain ⟨ts, hts, ⟨ts', virtual⟩, hvirtual, _, hleast, args, hargs, delay, hdelay, _, hcheck,
        sources, hsources, _, hchannels, rfl⟩ := h
      exact ⟨call, ts, ts', args, hhead, hts, hvirtual, hleast, hargs, hdelay, hcheck, hsources,
        hchannels, rfl⟩
  · rintro ⟨call, ts, ts', args, hhead, hts, hvirtual, hleast, hargs, hdelay, hcheck, hsources,
      hchannels, rfl⟩
    simp only [hhead, Except.bind_eq_ok_iff, Except.pure_eq_ok_iff]
    exact ⟨ts, hts, (ts', m.virtual), hvirtual, (), hleast, args, hargs, m.delay, hdelay, (),
      hcheck, m.sources, hsources, (), hchannels, rfl⟩

/-! Items. -/

namespace Rule

/-- What an item may be read as: a rule of the kind that is its construct. -/
inductive Reads (s : StateBlock) (i : Item) : Rule → Prop
  | transmission {t : Transmission} : i.construct = .transmission →
      Transmission.ofUnit s i.unit = .ok t → Reads s i (.transmission t)
  | trigger {t : Trigger} : i.construct = .trigger →
      Trigger.ofUnit s i.unit = .ok t → Reads s i (.trigger t)
  | merge {m : Merge} : i.construct = .merge →
      Merge.ofUnit s i.unit = .ok m → Reads s i (.merge m)

theorem ofItem_eq_ok_iff {i : Item} {r : Rule} : ofItem s i = .ok r ↔ Reads s i r := by
  constructor
  · intro h
    unfold ofItem at h
    split at h
    · next hc =>
      obtain ⟨t, ht, rfl⟩ := Except.map_eq_ok_iff.1 h
      exact .transmission hc ht
    · next hc =>
      obtain ⟨t, ht, rfl⟩ := Except.map_eq_ok_iff.1 h
      exact .trigger hc ht
    · next hc =>
      obtain ⟨m, hm, rfl⟩ := Except.map_eq_ok_iff.1 h
      exact .merge hc hm
    · cases h
  · intro h
    cases h with
    | transmission hc ht => rw [ofItem, hc, ht, Except.map_ok]
    | trigger hc ht => rw [ofItem, hc, ht, Except.map_ok]
    | merge hc hm => rw [ofItem, hc, hm, Except.map_ok]

end Rule

namespace Clause

/-- What an item of a bloom block may be read as: an event block, or else a rule. -/
inductive Reads (s : StateBlock) (i : Item) : Clause → Prop
  | event {e : EventBlock} : i.construct = .eventBlock → EventBlock.ofItem s i = .ok e →
      Reads s i (.event e)
  | rule {r : Rule} : i.construct ≠ .eventBlock → Rule.ofItem s i = .ok r → Reads s i (.rule r)

theorem ofItem_eq_ok_iff {i : Item} {c : Clause} : ofItem s i = .ok c ↔ Reads s i c := by
  constructor
  · intro h
    unfold ofItem at h
    split at h
    · next hc =>
      obtain ⟨e, he, rfl⟩ := Except.map_eq_ok_iff.1 h
      exact .event hc he
    · next hc =>
      obtain ⟨r, hr, rfl⟩ := Except.map_eq_ok_iff.1 h
      exact .rule hc hr
  · intro h
    cases h with
    | event hc he => rw [ofItem, hc, he, Except.map_ok]
    | rule hc hr =>
        unfold ofItem
        split
        · next heq => exact absurd heq hc
        · rw [hr, Except.map_ok]

end Clause

end Overlay
