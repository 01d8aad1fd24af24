import Overlay.Condition.Evaluation
import Overlay.Proofs.Condition.Value
import Overlay.Proofs.Guard
import Overlay.Proofs.Keyed

/-!
The data that a condition reads. Its leaves are visited in three ways, to list the names
of data, to evaluate the condition on a record, and to write it in the intermediate code,
and no leaf is left out in one of them, under negations and in nested parts neither. So
two records with the same data under the listed names give the same answer; and as the
names in the guard of an event block are those of defined events, the states of these
events decide it.
-/

namespace Overlay

/-- Whether no test can tell two values apart. Equal values agree, and so do the two zeros,
which are one number; into arrays and objects no test looks. -/
inductive Json.Agrees : Json → Json → Prop
  | refl (v : Json) : Agrees v v
  | float {x y : Finite64} : x.signed = y.signed → Agrees (.number (.float x)) (.number (.float y))
  | array (items items' : List Json) : Agrees (.array items) (.array items')
  | object (fields fields' : List (Text × Json)) : Agrees (.object fields) (.object fields')

/-- Whether two records both lack a datum, or have values for it that agree. -/
def Json.AgreeOn (record record' : Json) (name : Text) : Prop :=
  Option.Rel Json.Agrees (record.field? name) (record'.field? name)

namespace Json.Agrees

variable {v v' : Json}

theorem compare?_eq (h : v.Agrees v') (threshold : Literal) :
    v.compare? threshold = v'.compare? threshold := by
  cases h with
  | refl => rfl
  | @float x y hsigned =>
      have hcompare (z : Float64) :
          (Float64.finite x).compare z = (Float64.finite y).compare z := by
        cases z <;> simp [Float64.compare, hsigned]
      cases threshold <;> simp [Json.compare?, Literal.asFloat?, Number.asFloat, hcompare]
  | array => cases threshold <;> rfl
  | object => cases threshold <;> rfl

theorem asText?_eq (h : v.Agrees v') : v.asText? = v'.asText? := by
  cases h <;> rfl

/-- No test tells values apart that agree. -/
theorem check_eq (h : v.Agrees v') (test : Test) : test.check v = test.check v' := by
  induction test with
  | compare sign threshold => rw [Test.check, Test.check, h.compare?_eq]
  | like pattern => rw [Test.check, Test.check, h.asText?_eq]
  | range low high => rw [Test.check, Test.check, h.compare?_eq, h.compare?_eq]
  | negation test ih => rw [Test.check, Test.check, ih]

end Json.Agrees

namespace Leaf

/-- A leaf reads its own datum only. -/
theorem holds_eq_of_agreeOn {l : Leaf} {record record' : Json}
    (h : record.AgreeOn record' l.dataName) : l.holds record = l.holds record' := by
  rw [Json.AgreeOn] at h
  rw [holds, holds]
  generalize record.field? l.dataName = datum, record'.field? l.dataName = datum' at h
  cases h with
  | none => rfl
  | some h => simp [h.check_eq]

end Leaf

namespace Condition

theorem mem_dataNames {c : Condition} {name : Text} :
    name ∈ c.dataNames ↔ ∃ l ∈ c.leaves, l.dataName = name := by
  rw [dataNames, Keyed.mem_distinct, List.mem_map]

/-! Evaluation visits listed leaves only. -/

theorem holds_eq_of_leaves (c : Condition) {record record' : Json}
    (h : ∀ l ∈ c.leaves, record.AgreeOn record' l.dataName) :
    c.holds record = c.holds record' := by
  induction c using node_induct with
  | node k cs ih =>
      have hparts : ∀ c ∈ cs, c.holds record = c.holds record' := fun c hc =>
        ih c hc fun l hl => h l (mem_leaves_node.2 ⟨c, hc, hl⟩)
      rw [holds_node, holds_node, List.map_congr_left hparts]
  | leaf l => exact Leaf.holds_eq_of_agreeOn (h l (List.mem_singleton_self l))

/-! The keys of the value. -/

/-- The keys of the objects in the tree of a value: of the value itself, and of the items
in the lists under the two keys for parts. What stands under other keys is a test. -/
inductive HasKey : Json → Text → Prop
  | self {key : Text} {v : Json} {fields : List (Text × Json)} : (key, v) ∈ fields →
      HasKey (.object fields) key
  | part {key k : Text} {v : Json} {items : List Json} {fields : List (Text × Json)} :
      (k, .array items) ∈ fields → k = andKey ∨ k = orKey → v ∈ items → HasKey v key →
      HasKey (.object fields) key

/-- Whether no leaf has one of the keys for parts as its name. -/
def AvoidsKeys (c : Condition) : Prop :=
  ∀ l ∈ c.leaves, l.dataName ≠ andKey ∧ l.dataName ≠ orKey

theorem hasKey_of_mem_leaves (c : Condition) {l : Leaf} (hl : l ∈ c.leaves) :
    HasKey c.toJson l.dataName := by
  induction c using node_induct with
  | node k cs ih =>
      obtain ⟨c, hc, hlc⟩ := mem_leaves_node.1 hl
      rw [toJson_node]
      exact .part (List.mem_singleton_self _) k.key_eq (List.mem_map_of_mem hc) (ih c hc hlc)
  | leaf l' =>
      rw [List.mem_singleton.1 hl]
      exact .self (List.mem_singleton_self _)

/-- The keys of an object with one field for parts are its own and those of the parts. -/
theorem hasKey_parts {key name : Text} {items : List Json}
    (h : HasKey (.object [(key, .array items)]) name) :
    name = key ∨ ∃ v ∈ items, HasKey v name := by
  cases h with
  | self hmem =>
      cases List.mem_singleton.1 hmem
      exact .inl rfl
  | part hmem _ hv hkey =>
      cases List.mem_singleton.1 hmem
      exact .inr ⟨_, hv, hkey⟩

theorem exists_leaf_of_hasKey (c : Condition) (havoids : c.AvoidsKeys) {name : Text}
    (h : HasKey c.toJson name) (hne : name ≠ andKey ∧ name ≠ orKey) :
    ∃ l ∈ c.leaves, l.dataName = name := by
  induction c using node_induct with
  | node k cs ih =>
      rw [toJson_node] at h
      rcases hasKey_parts h with rfl | ⟨v, hv, hkey⟩
      · exact absurd k.key_eq (not_or.2 hne)
      · obtain ⟨c, hc, rfl⟩ := List.mem_map.1 hv
        obtain ⟨l, hl, hname⟩ :=
          ih c hc (fun l hl => havoids l (mem_leaves_node.2 ⟨c, hc, hl⟩)) hkey
        exact ⟨l, mem_leaves_node.2 ⟨c, hc, hl⟩, hname⟩
  | leaf l =>
      have hl := havoids l (List.mem_singleton_self l)
      cases h with
      | self hmem =>
          cases List.mem_singleton.1 hmem
          exact ⟨l, List.mem_singleton_self l, rfl⟩
      | part hmem hparts _ _ =>
          -- Under the name of a leaf there are no parts.
          obtain ⟨rfl, -⟩ := Prod.mk.inj (List.mem_singleton.1 hmem)
          exact absurd hparts (not_or.2 hl)

theorem mem_dataNames_iff_hasKey {c : Condition} (havoids : c.AvoidsKeys) {name : Text} :
    name ∈ c.dataNames ↔ HasKey c.toJson name ∧ name ≠ andKey ∧ name ≠ orKey := by
  rw [mem_dataNames]
  constructor
  · rintro ⟨l, hl, rfl⟩
    exact ⟨hasKey_of_mem_leaves c hl, havoids l hl⟩
  · rintro ⟨hkey, hne⟩
    exact exists_leaf_of_hasKey c havoids hkey hne

/-! Where conditions come from. -/

theorem IsTree.avoidsKeys (c : Condition) (h : c.IsTree) : c.AvoidsKeys := by
  induction c using node_induct with
  | node k cs ih =>
      intro l hl
      obtain ⟨c, hc, hlc⟩ := mem_leaves_node.1 hl
      exact ih c hc ((isTree_node.1 h).2 c hc) l hlc
  | leaf l => exact List.forall_mem_singleton.2 (ne_key_of_isName h)

theorem avoidsKeys_of_ofText {t : Text} {c : Condition} (h : ofText t = .ok c) : c.AvoidsKeys :=
  IsTree.avoidsKeys c (isTree_of_ofText h)

/-- A value under one of the keys for parts is never read as a test. -/
theorem IsValue.avoidsKeys {v : Json} (hv : IsValue v) {c : Condition} (h : ofJson v = .ok c) :
    c.AvoidsKeys := by
  induction hv generalizing c with
  | @parts key items hkey hlen _ ih =>
      obtain ⟨k, rfl⟩ := Connective.exists_key_iff.2 hkey
      rw [ofJson_key hlen] at h
      obtain ⟨cs, hcs, rfl⟩ := Except.map_eq_ok_iff.1 h
      intro l hl
      obtain ⟨c, hc, hlc⟩ := mem_leaves_node.1 hl
      obtain ⟨v, hv, hread⟩ := Except.exists_of_mem_mapM hcs hc
      exact ih v hv hread l hlc
  | test hand hor _ =>
      rw [ofJson_test hand hor] at h
      obtain ⟨test, -, rfl⟩ := Except.map_eq_ok_iff.1 h
      exact List.forall_mem_singleton.2 ⟨hand, hor⟩

theorem avoidsKeys_of_ofJson {v : Json} {c : Condition} (h : ofJson v = .ok c) :
    c.AvoidsKeys := by
  rcases ofJson_isValue_or_blames v with hv | ⟨e, he, -⟩
  · exact hv.avoidsKeys h
  · rw [he] at h
    cases h

/-- The value of a tree gives the answer of the tree, or always the same fault. -/
theorem check_toJson_eq (c : Condition) (htree : c.IsTree) {record record' : Json}
    (h : c.holds record = c.holds record') : check c.toJson record = check c.toJson record' := by
  cases hfinite : c.isFinite with
  | true => rw [check, check, ofJson_toJson c htree hfinite, Except.map_ok, Except.map_ok, h]
  | false =>
      obtain ⟨v, hv⟩ := ofJson_toJson_of_infinite c htree hfinite
      rw [check, check, hv, Except.map_error, Except.map_error]

end Condition

namespace Description

/-- The guard of an event block is decided by the states of defined events. -/
theorem guard_eq_of_agreeOn {t : Text} {d : Description} (h : ofText t = .ok d) {e : EventBlock}
    (he : e ∈ d.bloom.events) {record record' : Json}
    (hagree : ∀ name ∈ d.bloom.definedEvents, record.AgreeOn record' name) :
    e.condition.holds record = e.condition.holds record' ∧
      Condition.check e.condition.toJson record = Condition.check e.condition.toJson record' := by
  have hresolves := (resolves_of_ofText h).2
  have hholds : e.condition.holds record = e.condition.holds record' :=
    Condition.holds_eq_of_leaves e.condition fun l hl => hagree _ (hresolves.defined e he l hl)
  exact ⟨hholds, Condition.check_toJson_eq e.condition (hresolves.trees e he) hholds⟩

end Description

/-- Evaluation reads the listed data only. A condition has the same answer on two records
that agree on its data names. Unless a leaf has one of the keys for parts as its name, and
none has in a condition that was read, these names are the other keys in the tree of its
value. So whether the guard of an event block holds depends on the defined events only. -/
theorem Condition.reads_dataNames_only :
    (∀ (c : Condition) record record',
      (∀ name ∈ c.dataNames, record.AgreeOn record' name) →
        c.holds record = c.holds record') ∧
    (∀ c : Condition, c.AvoidsKeys → ∀ name,
      name ∈ c.dataNames ↔ HasKey c.toJson name ∧ name ≠ andKey ∧ name ≠ orKey) ∧
    (∀ t c, ofText t = .ok c → c.AvoidsKeys) ∧
    (∀ v c, ofJson v = .ok c → c.AvoidsKeys) ∧
    (∀ t d, Description.ofText t = .ok d → ∀ e ∈ d.bloom.events, ∀ record record',
      (∀ name ∈ d.bloom.definedEvents, record.AgreeOn record' name) →
        e.condition.holds record = e.condition.holds record' ∧
          check e.condition.toJson record = check e.condition.toJson record') := by
  refine ⟨fun c record record' h => ?_, fun c havoids name => mem_dataNames_iff_hasKey havoids,
    fun t c => avoidsKeys_of_ofText, fun v c => avoidsKeys_of_ofJson,
    fun t d h e he record record' => Description.guard_eq_of_agreeOn h he⟩
  exact holds_eq_of_leaves c fun l hl => h _ (mem_dataNames.2 ⟨l, hl, rfl⟩)

theorem Condition.reads_dataNames_only_guard :
    ∃ d, Description.ofText (Description.guardedBy "(not ev.on) || ev == \"on\"".toList) = .ok d ∧
      ∀ e ∈ d.bloom.events,
        e.condition.holds (.object [("ev".toList, .ofString "off"), ("x".toList, .ofInt64 1)]) =
          e.condition.holds (.object [("ev".toList, .ofString "off")]) := by
  have hdefined : (Description.ofText
      (Description.guardedBy "(not ev.on) || ev == \"on\"".toList)).toOption.map
        (fun d => d.bloom.definedEvents) = some ["ev".toList] := by decide +kernel
  obtain ⟨d, hd, hevents⟩ := Except.exists_ok_of_map hdefined
  refine ⟨d, hd, fun e he => ?_⟩
  refine (reads_dataNames_only.2.2.2.2 _ d hd e he _ _ fun name hname => ?_).1
  rw [hevents, List.mem_singleton] at hname
  rw [hname]
  exact .some (.refl _)

end Overlay
