import Overlay.Proofs.Condition.RoundTrip
import Overlay.Proofs.Number.Rounding

/-!
Values that stand for conditions. A value is read as a condition exactly when it
is a tree of objects with one field each, whose leaves are lists of one of four
forms; any other value has a part to blame, which is malformed or holds a bad
pattern. The value of the condition that was read is the value that it was read
from, with its numbers settled, and is read as the same condition again.
-/

namespace Overlay

namespace Float64

theorem isFinite_ofInt (n : Whole) : (ofInt n.val).isFinite = true := by
  obtain ⟨x, hx, -⟩ := exists_ofInt n
  rw [hx]
  rfl

end Float64

namespace Json

/-- The parts of a value, of which it is one itself. -/
inductive Part : Json → Json → Prop
  | self (v : Json) : Part v v
  | item {v w : Json} {items : List Json} : v ∈ items → Part v w → Part (.array items) w
  | field {key : Text} {v w : Json} {fields : List (Text × Json)} : (key, v) ∈ fields →
      Part v w → Part (.object fields) w

/-- A number as the threshold of a test: a whole number beyond the signed range
becomes the nearest float. -/
def settleNumber : Number → Json
  | .whole n => if n.val ≤ Int64.maxValue.toInt then .number (.whole n) else .ofFloat (.ofInt n.val)
  | .float x => .number (.float x)

mutual

/-- A value with all its numbers settled as thresholds, and nothing else
changed. -/
def settle : Json → Json
  | .null => .null
  | .bool b => .bool b
  | .number n => settleNumber n
  | .string s => .string s
  | .array items => .array (settleItems items)
  | .object fields => .object (settleFields fields)

def settleItems : List Json → List Json
  | [] => []
  | v :: vs => settle v :: settleItems vs

def settleFields : List (Text × Json) → List (Text × Json)
  | [] => []
  | (key, v) :: fs => (key, settle v) :: settleFields fs

end

theorem settleItems_eq_map (items : List Json) : settleItems items = items.map settle := by
  induction items with
  | nil => rfl
  | cons v items ih => rw [settleItems, ih, List.map_cons]

end Json

namespace Literal

/-- The values that stand for a literal. -/
inductive IsValue : Json → Prop
  | number (n : Number) : IsValue (.number n)
  | string (s : Text) : IsValue (.string s)

theorem isValue_of_ofJson? {v : Json} {l : Literal} (h : ofJson? v = some l) : IsValue v := by
  unfold ofJson? at h
  split at h
  · exact .number _
  · exact .number _
  · exact .string _
  · cases h

/-- What is known of the result of reading a value. -/
structure Settles (v : Json) (l : Literal) : Prop where
  read : ofJson? v = some l
  value : l.toJson = v.settle
  finite : l.isFinite = true

theorem settles_whole (n : Whole) : ∃ l, Settles (.number (.whole n)) l := by
  by_cases hsigned : n.val ≤ Int64.maxValue.toInt
  · have hback : (Int64.ofInt n.val).toInt = n.val :=
      Int64.toInt_ofInt_of_le n.low (Int.lt_of_le_of_lt hsigned (by decide))
    refine ⟨.integer (Int64.ofInt n.val), ?_, ?_, rfl⟩
    · simp [ofJson?, Whole.toInt64?, hsigned]
    · simp [toJson, Json.ofInt64, Whole.ofInt64, Json.settle, Json.settleNumber, hsigned, hback]
  · refine ⟨.float (.ofInt n.val), ?_, ?_, Float64.isFinite_ofInt n⟩
    · simp [ofJson?, Whole.toInt64?, hsigned]
    · simp [toJson, Json.settle, Json.settleNumber, hsigned]

theorem IsValue.settles {v : Json} (h : IsValue v) : ∃ l, Settles v l := by
  cases h with
  | number n =>
      cases n with
      | whole n => exact settles_whole n
      | float x => exact ⟨.float (.finite x), rfl, rfl, rfl⟩
  | string s => exact ⟨.string s, rfl, rfl, rfl⟩

end Literal

/-- The faults that a value may have: some part of it is malformed, or holds a
bad pattern. -/
inductive Json.Blames (v : Json) : Fault → Prop
  | malformed {w : Json} : v.Part w → Blames v (.malformedCondition w)
  | pattern {source : Text} : v.Part (.array [.ofString "like", .string source]) →
      Pattern.ofText? source = none → Blames v (.invalidPattern source)

theorem Json.Blames.of_part {v w : Json} {e : Fault} (h : ∀ u, w.Part u → v.Part u)
    (he : w.Blames e) : v.Blames e := by
  cases he with
  | malformed hpart => exact .malformed (h _ hpart)
  | pattern hpart hbad => exact .pattern (h _ hpart) hbad

namespace Test

/-- The values that stand for a test. -/
inductive IsValue : Json → Prop
  | compare (sign : Sign) {v : Json} : Literal.IsValue v →
      IsValue (.array [.string sign.label, v])
  | like {source : Text} : (Pattern.ofText? source).isSome →
      IsValue (.array [.ofString "like", .string source])
  | range {v w : Json} : Literal.IsValue v → Literal.IsValue w →
      IsValue (.array [.ofString "range", v, w])
  | negation {v : Json} : IsValue v → IsValue (.array [.ofString "not", v])

/-- What is known of the result of reading a value. -/
structure Settles (v : Json) (t : Test) : Prop where
  read : ofJson v = .ok t
  value : t.toJson = v.settle
  finite : t.isFinite = true

theorem IsValue.settles {v : Json} (h : IsValue v) : ∃ t, Settles v t := by
  induction h with
  | compare sign hv =>
      obtain ⟨l, hl⟩ := hv.settles
      obtain ⟨hlike, hnot⟩ := label_ne_keyword sign
      refine ⟨.compare sign l, ?_, ?_, hl.finite⟩
      · simp [ofJson, hlike, hnot, ofSign, hl.read]
      · simp [toJson, hl.value, Json.settle, Json.settleItems]
  | @like source hpattern =>
      obtain ⟨p, hp⟩ := Option.isSome_iff_exists.1 hpattern
      refine ⟨.like p, ?_, ?_, rfl⟩
      · simp [Json.ofString, ofJson, ofPattern, Leaf.readPattern, hp]
      · simp [toJson, Json.ofString, Json.settle, Json.settleItems, Pattern.source_of_ofText? hp]
  | range hv hw =>
      obtain ⟨low, hlow⟩ := hv.settles
      obtain ⟨high, hhigh⟩ := hw.settles
      refine ⟨.range low high, ?_, ?_, ?_⟩
      · simp [ofJson, ofThree, hlow.read, hhigh.read]
      · simp [toJson, Json.ofString, hlow.value, hhigh.value, Json.settle, Json.settleItems]
      · simp [isFinite, hlow.finite, hhigh.finite]
  | negation _ ih =>
      obtain ⟨t, ht⟩ := ih
      refine ⟨.negation t, ?_, ?_, ht.finite⟩
      · simp [Json.ofString, ofJson, ht.read]
      · simp [toJson, Json.ofString, ht.value, Json.settle, Json.settleItems]

theorem ofPattern_isValue_or_blames (v : Json) :
    IsValue (.array [.ofString "like", v]) ∨
      ∃ e, ofPattern v = .error e ∧ (Json.array [.ofString "like", v]).Blames e := by
  unfold ofPattern
  split
  · next source =>
    cases hpattern : Pattern.ofText? source with
    | some p => exact .inl (.like (by simp [hpattern]))
    | none =>
        refine .inr ⟨.invalidPattern source, ?_, .pattern (.self _) hpattern⟩
        simp [Leaf.readPattern, hpattern]
  · exact .inr ⟨_, rfl, .malformed (.self _)⟩

theorem ofSign_isValue_or_blames (token : Text) (v : Json) :
    IsValue (.array [.string token, v]) ∨
      ∃ e, ofSign token v = .error e ∧ (Json.array [.string token, v]).Blames e := by
  unfold ofSign
  split
  · next sign l hsign hl =>
    have hlabel : sign.label = token := by simpa using List.find?_some hsign
    exact .inl (hlabel ▸ .compare sign (Literal.isValue_of_ofJson? hl))
  · exact .inr ⟨_, rfl, .malformed (.self _)⟩

theorem ofThree_isValue_or_blames (word low high : Json) :
    IsValue (.array [word, low, high]) ∨
      ∃ e, ofThree word low high = .error e ∧ (Json.array [word, low, high]).Blames e := by
  unfold ofThree
  split
  · next a b ha hb =>
    split
    · next hword =>
      subst hword
      exact .inl (.range (Literal.isValue_of_ofJson? ha) (Literal.isValue_of_ofJson? hb))
    · exact .inr ⟨_, rfl, .malformed (.self _)⟩
  · exact .inr ⟨_, rfl, .malformed (.self _)⟩

/-- A value that is not read as a test has a part to blame. -/
theorem ofJson_isValue_or_blames (v : Json) :
    IsValue v ∨ ∃ e, ofJson v = .error e ∧ v.Blames e := by
  fun_induction ofJson v with
  | case1 v => exact ofPattern_isValue_or_blames v
  | case2 v hlike ih =>
      rcases ih with hv | ⟨e, he, hblames⟩
      · exact .inl (.negation hv)
      · refine .inr ⟨e, by rw [he, Except.map_error], hblames.of_part fun u hu => ?_⟩
        exact .item (List.mem_cons_of_mem _ (List.mem_singleton.2 rfl)) hu
  | case3 token v hlike hnot => exact ofSign_isValue_or_blames token v
  | case4 word v w => exact ofThree_isValue_or_blames word v w
  | case5 v => exact .inr ⟨_, rfl, .malformed (.self v)⟩

end Test

namespace Condition

/-- The values that stand for a condition. -/
inductive IsValue : Json → Prop
  | parts {key : Text} {items : List Json} : key = andKey ∨ key = orKey → 2 ≤ items.length →
      (∀ v ∈ items, IsValue v) → IsValue (.object [(key, .array items)])
  | test {key : Text} {v : Json} : key ≠ andKey → key ≠ orKey → Test.IsValue v →
      IsValue (.object [(key, v)])

/-- What is known of the result of reading a value. -/
structure Settles (v : Json) (c : Condition) : Prop where
  read : ofJson v = .ok c
  value : c.toJson = v.settle
  again : ofJson c.toJson = .ok c

/-- The parts of a node are read and written one by one. -/
theorem settles_node (k : Connective) {items : List Json} {cs : List Condition}
    (hlen : 2 ≤ items.length) (h : List.Forall₂ Settles items cs) :
    Settles (.object [(k.key, .array items)]) (k.node cs) := by
  constructor
  case read =>
    have hread := Except.mapM_eq_ok_iff.2 (h.imp fun _ _ hc => hc.read)
    rw [ofJson_key hlen, hread, Except.map_ok]
  case value =>
    have hvalues : cs.map toJson = items.map Json.settle := map_eq_of_forall₂ h fun hc => hc.value
    rw [toJson_node, hvalues, ← Json.settleItems_eq_map]
    rfl
  case again =>
    refine ofJson_toJson_node_of_parts (h.length_eq ▸ hlen) fun c hc => ?_
    obtain ⟨v, -, hv⟩ := forall₂_exists_of_mem_right h hc
    exact hv.again

theorem settles_leaf {key : Text} {v : Json} {t : Test} (hand : key ≠ andKey) (hor : key ≠ orKey)
    (h : Test.Settles v t) : Settles (.object [(key, v)]) (leaf ⟨key, t⟩) := by
  constructor
  case read => rw [ofJson_test hand hor, h.read, Except.map_ok]
  case value => simp [toJson, Leaf.toJson, h.value, Json.settle, Json.settleFields]
  case again =>
    rw [toJson, Leaf.toJson, ofJson_test hand hor, Test.ofJson_toJson h.finite, Except.map_ok]

theorem IsValue.settles {v : Json} (h : IsValue v) : ∃ c, Settles v c := by
  induction h with
  | parts hkey hlen _ ih =>
      obtain ⟨k, rfl⟩ := Connective.exists_key_iff.2 hkey
      obtain ⟨cs, hcs⟩ := exists_forall₂_of_forall_mem ih
      exact ⟨_, settles_node k hlen hcs⟩
  | test hand hor ht =>
      obtain ⟨t, ht⟩ := ht.settles
      exact ⟨_, settles_leaf hand hor ht⟩

/-- Any value but an object with one field is to blame itself. -/
theorem ofJson_of_ne_single {v : Json} (h : ∀ key inner, v ≠ .object [(key, inner)]) :
    ofJson v = .error (.malformedCondition v) := by
  unfold ofJson
  split
  · exact absurd rfl (h _ _)
  · unfold malformed
    split
    · exact absurd rfl (h _ _)
    · rfl

/-- A test that is to blame stands in the object that holds it. -/
theorem ofJson_test_isValue_or_blames {key : Text} {v : Json} (hand : key ≠ andKey)
    (hor : key ≠ orKey) : IsValue (.object [(key, v)]) ∨
      ∃ e, ofJson (.object [(key, v)]) = .error e ∧ (Json.object [(key, v)]).Blames e := by
  rcases Test.ofJson_isValue_or_blames v with hv | ⟨e, he, hblames⟩
  · exact .inl (.test hand hor hv)
  · refine .inr ⟨e, by rw [ofJson_test hand hor, he, Except.map_error], ?_⟩
    exact hblames.of_part fun u hu => .field (List.mem_singleton.2 rfl) hu

mutual

/-- A value that is not read as a condition has a part to blame. -/
theorem ofJson_isValue_or_blames (v : Json) :
    IsValue v ∨ ∃ e, ofJson v = .error e ∧ v.Blames e := by
  match v with
  | .object [(key, .array items)] =>
      by_cases hkey : key = andKey ∨ key = orKey
      · by_cases hlen : 2 ≤ items.length
        · rcases ofJsons_isValue_or_blames items with hall | ⟨e, he, w, hw, hblames⟩
          · exact .inl (.parts hkey hlen hall)
          · refine .inr ⟨e, by simp [ofJson, hkey, hlen, he], hblames.of_part fun u hu => ?_⟩
            exact .field (List.mem_singleton.2 rfl) (.item hw hu)
        · exact .inr ⟨_, by simp [ofJson, hkey, hlen], .malformed (.self _)⟩
      · obtain ⟨hand, hor⟩ := not_or.1 hkey
        exact ofJson_test_isValue_or_blames hand hor
  | .object [(key, .null)] | .object [(key, .bool _)] | .object [(key, .number _)]
  | .object [(key, .string _)] | .object [(key, .object _)] =>
      by_cases hkey : key = andKey ∨ key = orKey
      · exact .inr ⟨_, by simp [ofJson, malformed, hkey], .malformed (.self _)⟩
      · obtain ⟨hand, hor⟩ := not_or.1 hkey
        exact ofJson_test_isValue_or_blames hand hor
  | .object [] | .object (_ :: _ :: _) | .null | .bool _ | .number _ | .string _ | .array _ =>
      exact .inr ⟨_, ofJson_of_ne_single (by simp), .malformed (.self _)⟩

theorem ofJsons_isValue_or_blames (vs : List Json) : (∀ v ∈ vs, IsValue v) ∨
    ∃ e, ofJsons vs = .error e ∧ ∃ v ∈ vs, v.Blames e := by
  match vs with
  | [] => exact .inl nofun
  | v :: vs =>
      rcases ofJson_isValue_or_blames v with hv | ⟨e, he, hblames⟩
      · obtain ⟨c, hc⟩ := hv.settles
        rcases ofJsons_isValue_or_blames vs with hvs | ⟨e, he, w, hw, hblames⟩
        · exact .inl (List.forall_mem_cons.2 ⟨hv, hvs⟩)
        · -- The parts are read in order, so the fault is that of the first bad one.
          refine .inr ⟨e, ?_, w, List.mem_cons_of_mem v hw, hblames⟩
          rw [ofJsons, hc.read, he]
          rfl
      · refine .inr ⟨e, ?_, v, List.mem_cons_self, hblames⟩
        rw [ofJsons, he]
        rfl

end

/-- Reading a value gives a condition exactly when the value stands for one.
The value of that condition is the given one with its numbers settled, and reads
back as the same condition; of any other value some part is to blame. -/
theorem ofJson_eq_ok_iff_isValue (v : Json) :
    ((∃ c, ofJson v = .ok c) ↔ IsValue v) ∧
      (∀ c, ofJson v = .ok c → c.toJson = v.settle ∧ ofJson c.toJson = .ok c) ∧
      (¬IsValue v → ∃ e, ofJson v = .error e ∧ v.Blames e) := by
  rcases ofJson_isValue_or_blames v with hv | ⟨e, he, hblames⟩
  · obtain ⟨c, hc⟩ := hv.settles
    refine ⟨⟨fun _ => hv, fun _ => ⟨c, hc.read⟩⟩, fun c' hc' => ?_, fun hnot => absurd hv hnot⟩
    rw [hc.read] at hc'
    cases hc'
    exact ⟨hc.value, hc.again⟩
  · refine ⟨⟨?_, ?_⟩, ?_, fun _ => ⟨e, he, hblames⟩⟩
    · rintro ⟨c, hc⟩
      rw [he] at hc
      cases hc
    · intro hv
      obtain ⟨c, hc⟩ := hv.settles
      exact ⟨c, hc.read⟩
    · intro c hc
      rw [he] at hc
      cases hc

/-- Two tests, of which one has a threshold. -/
def withThreshold (threshold : Json) : Json :=
  .object [(orKey, .array [
    .object [(['t'], .array [.ofString ">=", threshold])],
    .object [(['n'], .array [.ofString "not", .array [.ofString "like", .ofString "a|bc"]])]])]

/-- The first whole number beyond the signed range. -/
def beyondSigned : Whole := ⟨Int64.maxValue.toInt + 1, by decide, by decide⟩

theorem isValue_withThreshold (n : Number) : IsValue (withThreshold (.number n)) := by
  refine .parts (.inr rfl) (Nat.le_refl 2) fun v hv => ?_
  rcases List.mem_pair.1 hv with rfl | rfl
  · exact .test (by decide) (by decide) (.compare .ge (.number n))
  · exact .test (by decide) (by decide) (.negation (.like (by decide +kernel)))

theorem ofJson_beyondSigned :
    ∃ c, ofJson (withThreshold (.number (.whole beyondSigned))) = .ok c ∧
      c.toJson = withThreshold (.ofFloat (.ofInt beyondSigned.val)) ∧ ofJson c.toJson = .ok c := by
  obtain ⟨hread, hback, -⟩ :=
    ofJson_eq_ok_iff_isValue (withThreshold (.number (.whole beyondSigned)))
  obtain ⟨c, hc⟩ := hread.2 (isValue_withThreshold _)
  obtain ⟨hvalue, hagain⟩ := hback c hc
  exact ⟨c, hc, hvalue.trans (by decide +kernel), hagain⟩

end Condition

end Overlay
