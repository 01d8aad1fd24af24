import Overlay.Proofs.Checks.Processing
import Overlay.Proofs.Rule.Reading

/-!
Checks of rules. A chain of calls keeps what was checked of each of its calls, so
the checks hold in a transmission; those of triggers and merges are made when the
rule is read.
-/

namespace Overlay

/-! Transmissions. -/

theorem Qos.isPositive_of_ofText {t : Text} {q : Qos} (h : ofText t = .ok q) :
    q.bandwidth.IsPositive := by
  simp only [ofText, Except.bind_eq_ok_iff, Except.pure_eq_ok_iff] at h
  obtain ⟨_, -, bandwidth, -, _, hpositive, priority, -, rfl⟩ := h
  exact checkPositive_eq_ok_iff.1 hpositive

theorem ne_nil_of_identifier {t id : Text} (h : identifier t = .ok id) : id ≠ [] := by
  simp only [identifier, Except.bind_eq_ok_iff] at h
  obtain ⟨_, -, id', -, h⟩ := h
  split at h
  · cases h
  · next hne =>
    cases h
    simpa using hne

namespace Chain

/-- What is checked of the calls of a chain. -/
structure IsChecked (c : Chain) : Prop where
  qos : ∀ q ∈ c.qos, q.bandwidth.IsPositive
  id : ∀ s ∈ c.id, s ≠ []
  processing : ∀ p ∈ c.processing, p.IsChecked

theorem isChecked_of_add {kind : EndpointKind} {c c' : Chain} {t : Text}
    (h : add kind c t = .ok c') (hc : c.IsChecked) : c'.IsChecked := by
  cases add_eq_ok_iff.1 h with
  | select => exact ⟨hc.qos, hc.id, hc.processing⟩
  | metadata => exact ⟨hc.qos, hc.id, hc.processing⟩
  | qos _ _ _ hq =>
      refine ⟨fun q hmem => ?_, hc.id, hc.processing⟩
      cases hmem
      exact Qos.isPositive_of_ofText hq
  | id _ _ _ hs =>
      refine ⟨hc.qos, fun s hmem => ?_, hc.processing⟩
      cases hmem
      exact ne_nil_of_identifier hs
  | processing _ _ _ hp =>
      refine ⟨hc.qos, hc.id, fun p hmem => ?_⟩
      rcases List.mem_append.1 hmem with hmem | hmem
      · exact hc.processing p hmem
      · obtain rfl := List.mem_singleton.1 hmem
        exact Processing.isChecked_of_ofText hp

theorem isChecked_of_ofText {kind : EndpointKind} {t : Text} {c : Chain}
    (h : ofText kind t = .ok c) : c.IsChecked := by
  simp only [ofText, Except.bind_eq_ok_iff] at h
  obtain ⟨ts, -, _, -, h⟩ := h
  exact Except.holds_of_foldlM h ⟨by simp, by simp, by simp⟩ isChecked_of_add

end Chain

/-- What is checked of a transmission. -/
structure Transmission.IsChecked (t : Transmission) : Prop where
  qos : ∀ q ∈ t.qos, q.bandwidth.IsPositive
  id : ∀ s ∈ t.id, s ≠ []
  processing : ∀ p ∈ t.processing, p.IsChecked

section

variable {s : StateBlock} {u : SourceUnit}

theorem Transmission.isChecked_of_ofUnit {t : Transmission} (h : ofUnit s u = .ok t) :
    t.IsChecked := by
  obtain ⟨_, _, _, scratch, _, _, -, -, hscratch, -, -, rfl⟩ := ofUnit_eq_ok_iff.1 h
  have hchecked := Chain.isChecked_of_ofText hscratch
  exact ⟨hchecked.qos, hchecked.id, hchecked.processing⟩

/-! Triggers and merges. -/

/-- What is checked of a trigger. -/
structure Trigger.IsChecked (t : Trigger) : Prop where
  interval : t.interval.IsPositive
  count : ∃ sign threshold, t.countCondition = ⟨"count".toList, .compare sign threshold⟩ ∧
    threshold.isNumber = true

theorem Trigger.comparesCount_iff {l : Leaf} : comparesCount l = true ↔
    ∃ sign threshold, l = ⟨"count".toList, .compare sign threshold⟩ ∧
      threshold.isNumber = true := by
  obtain ⟨name, test⟩ := l
  cases test <;> simp [comparesCount]

theorem Trigger.readCount_eq_ok_iff {t : Text} {l : Leaf} :
    readCount t = .ok l ↔ Leaf.ofComparison t = .ok l ∧ comparesCount l = true := by
  unfold readCount
  split
  · next l' h =>
    rw [h]
    split
    · next hcompares =>
      refine ⟨fun heq => ?_, And.left⟩
      cases heq
      exact ⟨rfl, hcompares⟩
    · next hcompares =>
      refine ⟨nofun, fun ⟨heq, hcount⟩ => ?_⟩
      cases heq
      exact absurd hcount hcompares
  · next h => simp [h]

theorem Trigger.isChecked_of_ofUnit {t : Trigger} (h : ofUnit s u = .ok t) : t.IsChecked := by
  obtain ⟨_, _, _, _, _, -, -, -, -, -, -, hpositive, -, hcount, -⟩ := ofUnit_eq_ok_iff.1 h
  exact ⟨checkPositive_eq_ok_iff.1 hpositive, comparesCount_iff.1 (readCount_eq_ok_iff.1 hcount).2⟩

namespace Merge

/-- What is checked of a merge or a join. -/
structure IsChecked (m : Merge) : Prop where
  delay : m.delay.IsNonnegative
  sources : 1 ≤ m.sources.length
  joined : m.kind = .join → 2 ≤ m.sources.length
  virtual : ∀ p ∈ m.virtual, m.kind = .join ∧ p.IsChecked

theorem isNonnegative_of_checkDelay {kind : MergeKind} {delay : Literal} {x : Unit}
    (h : checkDelay kind delay = .ok x) : delay.IsNonnegative := by
  unfold checkDelay at h
  split at h
  · next hany => exact (Option.any_eq_true _ _).1 hany
  · cases h

theorem virtual_of_splitVirtual {kind : MergeKind} {ts ts' : List Text}
    {virtual : Option VirtualProperty} (h : splitVirtual kind ts = .ok (ts', virtual)) :
    ∀ p ∈ virtual, kind = .join ∧ p.IsChecked := by
  unfold splitVirtual at h
  split at h
  · split at h
    · simp only [Except.bind_eq_ok_iff, Except.pure_eq_ok_iff] at h
      obtain ⟨p, hp, heq⟩ := h
      cases heq
      intro q hq
      cases hq
      exact ⟨rfl, VirtualProperty.isChecked_of_ofText hp⟩
    · cases h
      simp
  · cases h
    simp

/-- All arguments but the first are sources. -/
theorem length_sources {m : Method} {ts : List Text} {args : List Argument} {sources : List Text}
    {least : Nat} (hleast : m.expectAtLeast ts (least + 1) = .ok ())
    (hargs : m.convert ts
      (ArgumentType.number :: List.replicate (ts.length - 1) [.dataName]) = .ok args)
    (hsources : (List.range' 1 (args.length - 1)).mapM (Argument.nth Argument.text? args) =
      .ok sources) : least ≤ sources.length := by
  have hmany : least + 1 ≤ ts.length := by
    unfold Method.expectAtLeast at hleast
    split at hleast
    · cases hleast
    · omega
  -- As many arguments are converted as were written, and the first one is the delay.
  have hconverted := (Method.convertFrom_eq_ok_iff.1 hargs).length_eq
  have hlen := (Except.mapM_eq_ok_iff.1 hsources).length_eq
  simp only [List.length_zip, List.length_cons, List.length_replicate, List.length_range']
    at hconverted hlen
  omega

theorem isChecked_of_ofUnit {m : Merge} (h : ofUnit s u = .ok m) : m.IsChecked := by
  obtain ⟨_, ts, ts', args, -, -, hvirtual, hleast, hargs, -, hdelay, hsources, -⟩ :=
    ofUnit_eq_ok_iff.1 h
  have hlen := length_sources hleast hargs hsources
  exact {
    delay := isNonnegative_of_checkDelay hdelay
    sources := by
      cases hkind : m.kind with
      | merge => rwa [hkind] at hlen
      | join =>
          rw [hkind] at hlen
          exact Nat.le_of_succ_le hlen
    joined := fun hjoin => by rwa [hjoin] at hlen
    virtual := virtual_of_splitVirtual hvirtual }

end Merge

/-! Rules of any kind. -/

def Rule.IsChecked : Rule → Prop
  | transmission t => t.IsChecked
  | trigger t => t.IsChecked
  | merge m => m.IsChecked

theorem Rule.isChecked_of_ofItem {i : Item} {r : Rule} (h : ofItem s i = .ok r) :
    r.IsChecked := by
  cases ofItem_eq_ok_iff.1 h with
  | transmission _ ht => exact Transmission.isChecked_of_ofUnit ht
  | trigger _ ht => exact Trigger.isChecked_of_ofUnit ht
  | merge _ hm => exact Merge.isChecked_of_ofUnit hm

end

end Overlay
