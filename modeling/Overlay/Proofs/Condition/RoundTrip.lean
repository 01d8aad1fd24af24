import Overlay.Proofs.Condition.Reading

/-!
Conditions and their values in the intermediate code. Reading back the value
of a condition that was read from a text gives the condition again, and so
the same answer on each record, exactly when all its numbers are finite. A
float beyond the finite range is written as `null`, which stands for no
literal, and the whole value is then malformed.
-/

namespace Overlay

def Float64.isFinite : Float64 → Bool
  | finite _ => true
  | infinite _ => false

namespace Literal

def isFinite : Literal → Bool
  | integer _ => true
  | float x => x.isFinite
  | string _ => true

theorem ofJson?_toJson (l : Literal) : ofJson? l.toJson = if l.isFinite then some l else none := by
  cases l with
  | integer n => simp [toJson, Json.ofInt64, ofJson?, Whole.toInt64?_ofInt64, isFinite]
  | float x => cases x <;> rfl
  | string s => rfl

end Literal

namespace Test

/-- Whether all numbers of a test are finite. -/
def isFinite : Test → Bool
  | compare _ threshold => threshold.isFinite
  | like _ => true
  | range low high => low.isFinite && high.isFinite
  | negation test => test.isFinite

theorem exists_toJson_eq_array (t : Test) : ∃ items, t.toJson = .array items := by
  cases t <;> exact ⟨_, rfl⟩

theorem label_ne_keyword (s : Sign) :
    s.label ≠ ['l', 'i', 'k', 'e'] ∧ s.label ≠ ['n', 'o', 't'] := by
  cases s <;> decide

theorem ofJson_toJson {t : Test} (h : t.isFinite = true) : ofJson t.toJson = .ok t := by
  induction t with
  | compare sign threshold =>
      obtain ⟨hlike, hnot⟩ := label_ne_keyword sign
      have hthreshold : threshold.isFinite = true := h
      simp [toJson, ofJson, hlike, hnot, ofSign, Literal.ofJson?_toJson, hthreshold]
  | like pattern =>
      simp [toJson, ofJson, ofPattern, Leaf.readPattern, Pattern.ofText?_source]
  | range low high =>
      obtain ⟨hlow, hhigh⟩ := Bool.and_eq_true_iff.1 h
      simp [toJson, ofJson, ofThree, Literal.ofJson?_toJson, hlow, hhigh, Json.ofString]
  | negation test ih =>
      simp [toJson, ofJson, ih h]

/-- A test with an infinite number has a value that stands for no test. -/
theorem ofJson_toJson_of_infinite {t : Test} (h : t.isFinite = false) :
    ∃ v, ofJson t.toJson = .error (.malformedCondition v) := by
  induction t with
  | compare sign threshold =>
      obtain ⟨hlike, hnot⟩ := label_ne_keyword sign
      have hthreshold : threshold.isFinite = false := h
      simp [toJson, ofJson, hlike, hnot, ofSign, Literal.ofJson?_toJson, hthreshold]
  | like pattern => cases h
  | range low high =>
      have hends : low.isFinite = false ∨ high.isFinite = false := Bool.and_eq_false_iff.1 h
      simp only [toJson, ofJson, ofThree, Literal.ofJson?_toJson]
      rcases hends with h | h <;> simp [h]
  | negation test ih =>
      obtain ⟨v, hv⟩ := ih h
      exact ⟨v, by simp [toJson, ofJson, hv]⟩

end Test

namespace Condition

/-- Whether all numbers of a condition are finite. -/
def isFinite (c : Condition) : Bool := c.leaves.all fun l => l.test.isFinite

theorem isFinite_node (k : Connective) (cs : List Condition) :
    (k.node cs).isFinite = cs.all isFinite := by
  rw [isFinite, leaves_node, List.all_flatMap]
  rfl

theorem isFinite_leaf (l : Leaf) : (leaf l).isFinite = l.test.isFinite := by
  simp [isFinite, leaves]

/-- No name is one of the two keys for parts. -/
theorem ne_key_of_isName {name : Text} (h : name.isName = true) :
    name ≠ andKey ∧ name ≠ orKey := by
  refine not_or.1 fun hkey => ?_
  obtain ⟨k, rfl⟩ := Connective.exists_key_iff.2 hkey
  rw [k.isName_key] at h
  cases h

/-- Under any key but the two for parts stands a test. -/
theorem ofJson_test {key : Text} {v : Json} (hand : key ≠ andKey) (hor : key ≠ orKey) :
    ofJson (.object [(key, v)]) = (Test.ofJson v).map fun test => leaf ⟨key, test⟩ := by
  cases v with
  | array items => simp [ofJson, hand, hor]
  | null | bool _ | number _ | string _ | object _ =>
      simp [ofJson, malformed, hand, hor, Test.ofJson]

theorem ofJson_leaf {l : Leaf} (h : l.dataName.isName = true) :
    ofJson l.toJson = (Test.ofJson l.test.toJson).map fun test => leaf ⟨l.dataName, test⟩ :=
  ofJson_test (ne_key_of_isName h).1 (ne_key_of_isName h).2

/-- The value of a node reads back as what the values of its parts read back as. -/
theorem ofJson_toJson_node {k : Connective} {cs : List Condition} (hlen : 2 ≤ cs.length) :
    ofJson (k.node cs).toJson = ((cs.map toJson).mapM ofJson).map k.node := by
  rw [toJson_node, ofJson_key (by rwa [List.length_map])]

theorem ofJson_toJson_node_of_parts {k : Connective} {cs : List Condition}
    (hlen : 2 ≤ cs.length) (h : ∀ c ∈ cs, ofJson c.toJson = .ok c) :
    ofJson (k.node cs).toJson = .ok (k.node cs) := by
  have hparts : (cs.map toJson).mapM ofJson = .ok cs :=
    Except.mapM_eq_ok_iff.2 (List.forall₂_map_left_iff.2 (List.forall₂_same.2 h))
  rw [ofJson_toJson_node hlen, hparts, Except.map_ok]

theorem ofJson_toJson (c : Condition) (htree : c.IsTree) (h : c.isFinite = true) :
    ofJson c.toJson = .ok c := by
  induction c using node_induct with
  | node k cs ih =>
      obtain ⟨hlen, htrees⟩ := isTree_node.1 htree
      rw [isFinite_node, List.all_eq_true] at h
      exact ofJson_toJson_node_of_parts hlen fun c hc => ih c hc (htrees c hc) (h c hc)
  | leaf l =>
      rw [isFinite_leaf] at h
      rw [toJson, ofJson_leaf htree, Test.ofJson_toJson h, Except.map_ok]

/-- Of the values in a list the first that is not read is to blame. -/
theorem mapM_ofJson_toJson_of_infinite {cs : List Condition}
    (hfinite : ∀ c ∈ cs, c.isFinite = true → ofJson c.toJson = .ok c)
    (hinfinite : ∀ c ∈ cs, c.isFinite = false →
      ∃ v, ofJson c.toJson = .error (.malformedCondition v))
    (h : cs.all isFinite = false) :
    ∃ v, (cs.map toJson).mapM ofJson = .error (.malformedCondition v) := by
  induction cs with
  | nil => cases h
  | cons c cs ih =>
      obtain ⟨hc, hcs⟩ := List.forall_mem_cons.1 hfinite
      obtain ⟨hc', hcs'⟩ := List.forall_mem_cons.1 hinfinite
      rw [List.map_cons, List.mapM_cons]
      cases hfirst : c.isFinite with
      | true =>
          have hrest : cs.all isFinite = false := by simpa [hfirst] using h
          obtain ⟨v, hv⟩ := ih hcs hcs' hrest
          exact ⟨v, by rw [hc hfirst, hv]; rfl⟩
      | false =>
          obtain ⟨v, hv⟩ := hc' hfirst
          exact ⟨v, by rw [hv]; rfl⟩

/-- The value of a condition with an infinite number is malformed. -/
theorem ofJson_toJson_of_infinite (c : Condition) (htree : c.IsTree)
    (h : c.isFinite = false) : ∃ v, ofJson c.toJson = .error (.malformedCondition v) := by
  induction c using node_induct with
  | node k cs ih =>
      obtain ⟨hlen, htrees⟩ := isTree_node.1 htree
      rw [isFinite_node] at h
      obtain ⟨v, hv⟩ := mapM_ofJson_toJson_of_infinite
        (fun c hc => ofJson_toJson c (htrees c hc)) (fun c hc => ih c hc (htrees c hc)) h
      exact ⟨v, by rw [ofJson_toJson_node hlen, hv, Except.map_error]⟩
  | leaf l =>
      rw [isFinite_leaf] at h
      obtain ⟨v, hv⟩ := Test.ofJson_toJson_of_infinite h
      exact ⟨v, by rw [toJson, ofJson_leaf htree, hv, Except.map_error]⟩

/-- The value of a condition that was read from a text reads back as that
condition, with the same answer on every record, exactly when its numbers are
finite; otherwise it is malformed. -/
theorem reads_back_iff_isFinite {t : Text} {c : Condition} (h : ofText t = .ok c) :
    (ofJson c.toJson = .ok c ↔ c.isFinite = true) ∧
      (∀ record, check c.toJson record = .ok (c.holds record) ↔ c.isFinite = true) ∧
      (c.isFinite = false → ∃ v, ofJson c.toJson = .error (.malformedCondition v) ∧
        ∀ record, check c.toJson record = .error (.malformedCondition v)) := by
  have htree := isTree_of_ofText h
  cases hfinite : c.isFinite with
  | true =>
      have hback := ofJson_toJson c htree hfinite
      simp [check, hback]
  | false =>
      obtain ⟨v, hv⟩ := ofJson_toJson_of_infinite c htree hfinite
      simp [check, hv]

/-- A comparison with a number of 310 digits, which rounds to infinity. -/
def overflowing : Text := "a < 1".toList ++ List.replicate 309 '0' ++ ".0".toList

theorem reads_back_finite :
    ∃ c, ofText "a < 1.5 && (not b.on)".toList = .ok c ∧ c.isFinite = true ∧
      ofJson c.toJson = .ok c :=
  have h : ofText "a < 1.5 && (not b.on)".toList = .ok (.all [.leaf ⟨['a'], .compare .lt
      (.float (.ofDecimal false 15 (-1)))⟩, .leaf ⟨['b'], .negation (.compare .eq
        (.string "on".toList))⟩]) := by decide +kernel
  ⟨_, h, by decide +kernel, (reads_back_iff_isFinite h).1.2 (by decide +kernel)⟩

/-- The value of this condition is rejected, although the condition holds of
every finite number. -/
theorem overflowing_not_read_back :
    ∃ c, ofText overflowing = .ok c ∧ ofJson c.toJson ≠ .ok c ∧
      c.holds (.object [(['a'], .ofInt64 1)]) = true ∧
      check c.toJson (.object [(['a'], .ofInt64 1)]) ≠
        .ok (c.holds (.object [(['a'], .ofInt64 1)])) :=
  ⟨.leaf ⟨['a'], .compare .lt (.float (.infinite false))⟩, by decide +kernel, by decide +kernel,
    by decide +kernel, by decide +kernel⟩

end Condition

end Overlay
