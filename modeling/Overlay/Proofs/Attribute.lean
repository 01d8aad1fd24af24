import Overlay.Attribute
import Overlay.Proofs.Arguments
import Overlay.Proofs.Failure.Declaration
import Overlay.Proofs.Keyed
import Overlay.Proofs.Numeral

/-!
Lists of attributes, read completely. Each argument of `discovery` and `meta` is a key and
a value, the keys are distinct, and the map has the value of each under its key. A list of
literals is found by its first and its last character, which need not be a pair; but what
is between them is cut at commas, and that succeeds only on a balanced text, so then they
are one. The order of the arguments is lost in the map, and plays no part before.
-/

namespace Overlay

open Text

/-! Maps that are built up from new entries. -/

namespace Keyed

variable {α : Type}

theorem insertNew_eq_ok_iff {m m' : Keyed α} {key : Text} {value : α} :
    m.insertNew key value = .ok m' ↔ m.contains key = false ∧ m' = m.insert key value := by
  unfold insertNew
  split
  · next h => simp [h]
  · next h => simp [h, eq_comm]

/-- Adding entries under new keys, one after the other, succeeds if all of them are new
and distinct. -/
theorem foldlM_insertNew {step : Keyed α → Text → Except Fault (Keyed α)}
    {P : Text → Text × α → Prop}
    (hstep : ∀ m t m', step m t = .ok m' ↔
      ∃ e, P t e ∧ m.contains e.1 = false ∧ m' = m.insert e.1 e.2)
    {m m' : Keyed α} {ts : List Text} :
    ts.foldlM step m = .ok m' ↔ ∃ entries, List.Forall₂ P ts entries ∧
      (entries.map Prod.fst).Nodup ∧ (∀ e ∈ entries, m.contains e.1 = false) ∧
      m' = entries.foldl (fun m e => m.insert e.1 e.2) m := by
  have hnew {m : Keyed α} {e : Text × α} {k : Text} :
      (m.insert e.1 e.2).contains k = false ↔ k ≠ e.1 ∧ m.contains k = false := by
    rw [← Bool.not_eq_true, contains_insert, not_or, Bool.not_eq_true]
  induction ts generalizing m with
  | nil =>
      rw [List.foldlM_nil, Except.pure_eq_ok_iff]
      constructor
      · rintro rfl
        exact ⟨[], .nil, List.nodup_nil, nofun, rfl⟩
      · rintro ⟨_, hall, -, -, rfl⟩
        cases hall
        rfl
  | cons t ts ih =>
      simp only [List.foldlM_cons, Except.bind_eq_ok_iff, hstep, ih]
      constructor
      · rintro ⟨_, ⟨e, he, hcontains, rfl⟩, entries, hall, hnodup, hentries, rfl⟩
        refine ⟨e :: entries, .cons he hall, ?_, ?_, rfl⟩
        · refine List.nodup_cons.2 ⟨fun hmem => ?_, hnodup⟩
          obtain ⟨e', he', heq⟩ := List.mem_map.1 hmem
          exact (hnew.1 (hentries e' he')).1 heq
        · exact List.forall_mem_cons.2 ⟨hcontains, fun e' he' => (hnew.1 (hentries e' he')).2⟩
      · rintro ⟨_, hall, hnodup, hentries, rfl⟩
        obtain ⟨e, entries, he, hrest, rfl⟩ := List.forall₂_cons_left_iff.1 hall
        obtain ⟨hfirst, hnodup⟩ := List.nodup_cons.1 hnodup
        obtain ⟨hcontains, hentries⟩ := List.forall_mem_cons.1 hentries
        refine ⟨_, ⟨e, he, hcontains, rfl⟩, entries, hrest, hnodup, fun e' he' => ?_, rfl⟩
        exact hnew.2 ⟨fun heq => hfirst (List.mem_map.2 ⟨e', he', heq⟩), hentries e' he'⟩

/-- Whether a map has these entries, under distinct keys, and no others. -/
def Holds (m : Keyed α) (entries : List (Text × α)) : Prop :=
  (entries.map Prod.fst).Nodup ∧ ∀ key, m.find? key = entries.lookup key

theorem holds_iff {m : Keyed α} {entries : List (Text × α)} :
    m.Holds entries ↔ (entries.map Prod.fst).Nodup ∧ m = ofList entries := by
  refine and_congr_right fun hnodup => ⟨fun h => ext_find? fun key => ?_, ?_⟩
  · rw [h key, find?_ofList hnodup]
  · rintro rfl
    exact find?_ofList hnodup

theorem foldlM_empty {step : Keyed α → Text → Except Fault (Keyed α)}
    {P : Text → Text × α → Prop}
    (hstep : ∀ m t m', step m t = .ok m' ↔
      ∃ e, P t e ∧ m.contains e.1 = false ∧ m' = m.insert e.1 e.2)
    {m' : Keyed α} {ts : List Text} :
    ts.foldlM step empty = .ok m' ↔ ∃ entries, List.Forall₂ P ts entries ∧ m'.Holds entries := by
  rw [foldlM_insertNew hstep]
  constructor
  · rintro ⟨entries, hall, hnodup, -, rfl⟩
    exact ⟨entries, hall, holds_iff.2 ⟨hnodup, rfl⟩⟩
  · rintro ⟨entries, hall, hholds⟩
    obtain ⟨hnodup, rfl⟩ := holds_iff.1 hholds
    exact ⟨entries, hall, hnodup, fun _ _ => rfl, rfl⟩

theorem lookup_eq_some_iff {entries : List (Text × α)} (h : (entries.map Prod.fst).Nodup)
    {key : Text} {value : α} : entries.lookup key = some value ↔ (key, value) ∈ entries := by
  induction entries with
  | nil => simp
  | cons e entries ih =>
      obtain ⟨hfirst, hnodup⟩ := List.nodup_cons.1 h
      rw [lookup_cons, List.mem_cons]
      by_cases hkey : key = e.1
      · subst hkey
        have hnot : (e.1, value) ∉ entries := fun hmem => hfirst (List.mem_map.2 ⟨_, hmem, rfl⟩)
        simp [hnot, Prod.ext_iff, eq_comm]
      · simp [hkey, ih hnodup, Prod.ext_iff]

theorem contains_iff_of_holds {m : Keyed α} {entries : List (Text × α)} (h : m.Holds entries)
    {key : Text} : m.contains key = true ↔ key ∈ entries.map Prod.fst := by
  simp only [contains, Option.isSome_iff_exists, h.2, lookup_eq_some_iff h.1, List.mem_map,
    Prod.exists, exists_and_right, exists_eq_right]

theorem Holds.unique {m m' : Keyed α} {entries : List (Text × α)} (h : m.Holds entries)
    (h' : m'.Holds entries) : m = m' := by
  rw [(holds_iff.1 h).2, (holds_iff.1 h').2]

theorem Holds.mapValues {β : Type} {m : Keyed α} {entries : List (Text × α)} (h : m.Holds entries)
    (f : α → β) : (m.mapValues f).Holds (entries.map fun e => (e.1, f e.2)) := by
  have hkeys : (entries.map fun e => (e.1, f e.2)).map Prod.fst = entries.map Prod.fst := by
    simp
  have hnodup := hkeys ▸ h.1
  refine ⟨hnodup, fun key => Option.ext fun value => ?_⟩
  simp only [find?_mapValues, h.2, Option.map_eq_some_iff, lookup_eq_some_iff h.1,
    lookup_eq_some_iff hnodup, List.mem_map, Prod.exists, Prod.mk.injEq]
  constructor
  · rintro ⟨v, hv, rfl⟩
    exact ⟨key, v, hv, rfl, rfl⟩
  · rintro ⟨_, v, hv, rfl, rfl⟩
    exact ⟨v, hv, rfl⟩

/-- The entries of a map whose values were translated. -/
theorem Holds.exists_forall₂ {β : Type} {r : α → β → Prop} {f : α → β} {m : Keyed α}
    {entries : List (Text × α)} (h : m.Holds entries) (hf : ∀ x, r x (f x)) :
    ∃ values, List.Forall₂ (fun e v => e.1 = v.1 ∧ r e.2 v.2) entries values ∧
      (m.mapValues f).Holds values :=
  ⟨_, List.forall₂_map_right_iff.2 (List.forall₂_same.2 fun e _ => ⟨rfl, hf e.2⟩),
    h.mapValues f⟩

/-- The order of entries with distinct keys does not matter. -/
theorem Holds.perm {m : Keyed α} {entries entries' : List (Text × α)} (h : m.Holds entries)
    (hperm : entries.Perm entries') : m.Holds entries' := by
  have hnodup' : (entries'.map Prod.fst).Nodup := (hperm.map _).nodup_iff.1 h.1
  refine ⟨hnodup', fun key => Option.ext fun value => ?_⟩
  rw [h.2, lookup_eq_some_iff h.1, lookup_eq_some_iff hnodup', hperm.mem_iff]

end Keyed

/-! Attributes. -/

theorem Text.IsBalanced.padded {t u : Text} (h : t.IsBalanced) (hu : IsPadded t u) :
    u.IsBalanced := by
  obtain ⟨as, has⟩ := h
  obtain ⟨b, b', hb, hb', rfl⟩ := hu
  rw [List.append_assoc]
  cases b' with
  | nil =>
      rw [List.append_nil]
      exact ⟨_, has.plain_append (forall_plain_of_allBlank hb)⟩
  | cons c b' =>
      have hback := has.append_plain (forall_plain_of_allBlank hb') (List.cons_ne_nil c b') .nil
      rw [List.append_nil] at hback
      exact ⟨_, hback.plain_append (forall_plain_of_allBlank hb)⟩

/-- Whether a text is a key and a value with an equals sign between them, and blanks
around each of them. The key is a name, so no equals sign is before this one. -/
def IsAttribute (key value t : Text) : Prop :=
  key.isName = true ∧ ∃ left right, IsPadded key left ∧ IsPadded value right ∧
    t = left ++ '=' :: right

theorem isAttribute_of_splitAttribute {t key value : Text}
    (h : splitAttribute t = .ok (key, value)) : IsAttribute key value t := by
  obtain ⟨parts, hparts, h⟩ := Except.bind_eq_ok_iff.1 h
  split at h
  · split at h
    · next key' value' hname =>
      cases h
      obtain ⟨raws, rfl, hraws⟩ := exists_intercalate_of_split (List.cons_ne_nil '=' []) hparts
      match raws, hraws with
      | [left, right], hraws =>
        cases hraws
        exact ⟨hname.1, left, right, isPadded_trim left, isPadded_trim right,
          by simp [List.intercalate_cons_cons]⟩
    · cases h
  · cases h

/-- A value that is balanced and has no blanks around it is found. -/
theorem IsAttribute.splitAttribute {t key value : Text} (h : IsAttribute key value t)
    (hne : value ≠ []) (htrim : value.trim = value) (hbalanced : value.IsBalanced) :
    splitAttribute t = .ok (key, value) := by
  obtain ⟨hname, left, right, hleft, hright, rfl⟩ := h
  have hkey := IsArgument.of_isName hname
  have hhides : Hides '=' left := (Hides.of_isName hname (by decide)).padded (by decide) hleft
  obtain ⟨as, has⟩ := hbalanced.padded hright
  have hparts := @split_two '=' [] (by decide) left right hhides as has
  rw [hleft.trim_eq, hright.trim_eq, hkey.trim_eq, htrim] at hparts
  rw [List.append_assoc, List.singleton_append] at hparts
  simp [Overlay.splitAttribute, hparts, hname, hne]

/-- Whether a text is an attribute with a value that is written in some way. -/
def IsEntry {α : Type} (Written : Text → Text → α → Prop) (t : Text) (e : Text × α) : Prop :=
  ∃ value, IsAttribute e.1 value t ∧ Written e.1 value e.2

/-- What is written as a value is found as the value. -/
theorem isEntry_iff {α : Type} {Written : Text → Text → α → Prop} {t : Text} {e : Text × α}
    (hwritten : ∀ {key value x}, Written key value x →
      value ≠ [] ∧ value.trim = value ∧ value.IsBalanced) :
    IsEntry Written t e ↔ ∃ value, splitAttribute t = .ok (e.1, value) ∧ Written e.1 value e.2 := by
  constructor
  · rintro ⟨value, hattribute, hvalue⟩
    obtain ⟨hne, htrim, hbalanced⟩ := hwritten hvalue
    exact ⟨value, hattribute.splitAttribute hne htrim hbalanced, hvalue⟩
  · rintro ⟨value, hsplit, hvalue⟩
    exact ⟨value, isAttribute_of_splitAttribute hsplit, hvalue⟩

/-- The text of a literal is a value. -/
theorem Literal.IsWritten.value {l : Literal} {t : Text} (h : l.IsWritten t) :
    t ≠ [] ∧ t.trim = t ∧ t.IsBalanced := by
  have hargument : IsArgument t := by
    rcases written_of_ofText (ofText_eq_ok_iff_isWritten.2 h) with hnumber | hliteral
    · exact .of_numeric hnumber
    · exact .of_isLiteral hliteral
  obtain ⟨as, has, -⟩ := hargument.hides
  exact ⟨hargument.nonempty, hargument.trim_eq, as, has⟩

namespace Metadata

/-- The value of an attribute of metadata is one literal. -/
def IsValue (_ value : Text) (l : Literal) : Prop := l.IsWritten value

theorem add_eq_ok_iff (m : Metadata) (t : Text) (m' : Metadata) :
    m.add t = .ok m' ↔
      ∃ e, IsEntry IsValue t e ∧ m.contains e.1 = false ∧ m' = m.insert e.1 e.2 := by
  have hentry (e : Text × Literal) : IsEntry IsValue t e ↔ _ :=
    isEntry_iff fun h => Literal.IsWritten.value h
  simp only [hentry, add, Except.bind_eq_ok_iff, Prod.exists, Keyed.insertNew_eq_ok_iff,
    Literal.ofText_eq_ok_iff_isWritten, IsValue]
  constructor
  · rintro ⟨key, value, hsplit, l, hl, hnew, rfl⟩
    exact ⟨key, l, ⟨value, hsplit, hl⟩, hnew, rfl⟩
  · rintro ⟨key, l, ⟨value, hsplit, hl⟩, hnew, rfl⟩
    exact ⟨key, value, hsplit, l, hl, hnew, rfl⟩

theorem ofText_eq_ok_iff {t : Text} {m : Metadata} :
    ofText t = .ok m ↔ ∃ args entries, Method.metadata.arguments t = .ok args ∧ args ≠ [] ∧
      List.Forall₂ (IsEntry IsValue) args entries ∧ m.Holds entries := by
  simp only [ofText, Except.bind_eq_ok_iff, Keyed.foldlM_empty add_eq_ok_iff]
  constructor
  · rintro ⟨args, hargs, ⟨⟩, hcount, entries, hall, hholds⟩
    have hne := List.length_pos_iff.1 (Method.expectAtLeast_eq_ok_iff.1 hcount)
    exact ⟨args, entries, hargs, hne, hall, hholds⟩
  · rintro ⟨args, entries, hargs, hne, hall, hholds⟩
    have hcount : Method.metadata.expectAtLeast args 1 = .ok () :=
      Method.expectAtLeast_eq_ok_iff.2 (List.length_pos_iff.2 hne)
    exact ⟨args, hargs, (), hcount, entries, hall, hholds⟩

end Metadata

/-- The value of a literal in the intermediate code. An infinite float has none there, so
`null` stands in its place. -/
inductive Literal.IsCode : Literal → Json → Prop
  | integer {n : Int64} {m : Whole} : m.val = n.toInt → IsCode (.integer n) (.number (.whole m))
  | float (x : Finite64) : IsCode (.float (.finite x)) (.number (.float x))
  | infinite (negative : Bool) : IsCode (.float (.infinite negative)) .null
  | string (s : Text) : IsCode (.string s) (.string s)

theorem Literal.isCode_toJson (l : Literal) : l.IsCode l.toJson := by
  cases l with
  | integer n => exact .integer rfl
  | float x =>
      cases x with
      | finite x => exact .float x
      | infinite negative => exact .infinite negative
  | string s => exact .string s

/-- The value of an attribute of a query: under `multi` a whole number that is at least
one, and under other keys a literal or a group of square brackets with literals. -/
inductive Criterion.IsValue : Text → Text → Criterion → Prop
  | count {value : Text} {n : Int64} : (Literal.integer n).IsWritten value → 1 ≤ n.toInt →
      IsValue Query.multi value (.count n)
  | single {key value : Text} {l : Literal} : key ≠ Query.multi → l.IsWritten value →
      IsValue key value (.literals [l])
  | list {key inner : Text} {pieces : List Text} {ls : List Literal} : key ≠ Query.multi →
      IsPieces ',' inner pieces →
      List.Forall₂ (fun piece l => l.IsWritten (trim piece)) pieces ls →
      IsValue key ('[' :: inner ++ [']']) (.literals ls)

namespace Criterion

/-- The value of a criterion in the intermediate code: the count as a number, and literals as
an array, in their order. -/
inductive IsCode : Criterion → Json → Prop
  | count {n : Int64} {m : Whole} : m.val = n.toInt → IsCode (.count n) (.number (.whole m))
  | literals {ls : List Literal} {vs : List Json} : List.Forall₂ Literal.IsCode ls vs →
      IsCode (.literals ls) (.array vs)

theorem isCode_toJson (c : Criterion) : c.IsCode c.toJson := by
  cases c with
  | literals ls =>
      exact .literals (List.forall₂_map_right_iff.2
        (List.forall₂_same.2 fun l _ => l.isCode_toJson))
  | count n => exact .count rfl

theorem IsValue.value {key value : Text} {c : Criterion} (h : IsValue key value c) :
    value ≠ [] ∧ value.trim = value ∧ value.IsBalanced := by
  cases h with
  | count h _ => exact h.value
  | single _ h => exact h.value
  | list _ hpieces _ =>
      obtain ⟨bs, hbs⟩ := hpieces.isBalanced (by decide)
      have hgroup := Balanced.group (show closer? '[' = some ']' from rfl) hbs .nil
      obtain ⟨hne, hstart, hend⟩ := hgroup.solid_of_literal
      exact ⟨hne, trim_eq_self_iff.2 ⟨hstart, hend⟩, _, hgroup⟩

theorem countOf_eq_ok_iff {t : Text} {n : Int64} :
    countOf t = .ok n ↔ (Literal.integer n).IsWritten t ∧ 1 ≤ n.toInt := by
  simp only [countOf, Except.bind_eq_ok_iff, Literal.ofText_eq_ok_iff_isWritten]
  constructor
  · rintro ⟨l, hl, h⟩
    split at h
    · next n' =>
      split at h
      · next hpos =>
        cases h
        exact ⟨hl, hpos⟩
      · cases h
    · cases h
  · rintro ⟨hn, hpos⟩
    exact ⟨_, hn, by simp [hpos]⟩

/-- Pieces that are literals are not blank. -/
theorem not_allBlank_of_isPieces {inner : Text} {pieces : List Text} {ls : List Literal}
    (hpieces : IsPieces ',' inner pieces)
    (hls : List.Forall₂ (fun piece l => Literal.IsWritten l (trim piece)) pieces ls) :
    inner.allBlank = false := by
  rw [hpieces.joined]
  refine Method.not_allBlank_intercalate (isPadded_map_trim pieces) ?_ ?_ ?_
  · intro a ha
    obtain ⟨piece, -, rfl⟩ := List.mem_map.1 ha
    exact trim_trim piece
  · simpa using hpieces.nonempty
  · intro hempty
    obtain ⟨piece, rfl, htrim⟩ := List.map_eq_singleton_iff.1 hempty
    obtain ⟨l, -, hl, -, -⟩ := List.forall₂_cons_left_iff.1 hls
    exact hl.value.1 htrim

theorem literalsOf_eq_ok_iff {key t : Text} {ls : List Literal} (hkey : key ≠ Query.multi) :
    literalsOf t = .ok ls ↔ IsValue key t (.literals ls) := by
  have hmapM {raws : List Text} : (raws.map trim).mapM Literal.ofText = .ok ls ↔
      List.Forall₂ (fun piece l => l.IsWritten (trim piece)) raws ls := by
    simp only [Except.mapM_eq_ok_iff, List.forall₂_map_left_iff,
      Literal.ofText_eq_ok_iff_isWritten]
  constructor
  · intro h
    unfold literalsOf at h
    split at h
    · obtain ⟨l, hl, h⟩ := Except.bind_eq_ok_iff.1 h
      obtain rfl := Except.pure_eq_ok_iff.1 h
      exact .single hkey (Literal.ofText_eq_ok_iff_isWritten.1 hl)
    · next inner hinner =>
      obtain rfl := inSquare_eq_some_iff.1 hinner
      split at h
      · cases h
      · obtain ⟨parts, hparts, h⟩ := Except.bind_eq_ok_iff.1 h
        obtain ⟨pieces, hpieces, rfl⟩ := (split_eq_ok_iff_isPieces (by decide)).1 hparts
        exact .list hkey hpieces (hmapM.1 h)
  · intro h
    unfold literalsOf
    cases h with
    | single _ hl =>
        -- No literal begins with a square bracket, so it is not taken for a list.
        have hnone : (dropPrefix? ['['] t).bind (dropSuffix? [']']) = none := by
          refine Option.eq_none_iff_forall_ne_some.2 fun inner hinner => ?_
          obtain rfl := inSquare_eq_some_iff.1 hinner
          rcases Literal.written_of_ofText (Literal.ofText_eq_ok_iff_isWritten.2 hl) with
            hnumber | ⟨body, -, hbody⟩
          · exact absurd (hnumber.2 '[' List.mem_cons_self) (by decide)
          · cases hbody
        rw [hnone, Literal.ofText_eq_ok_iff_isWritten.2 hl]
        rfl
    | @list _ inner pieces _ _ hpieces hls =>
        have hblank := not_allBlank_of_isPieces hpieces hls
        rw [inSquare_eq_some_iff.2 rfl]
        simp only [hblank, Bool.false_eq_true, if_false]
        exact Except.bind_eq_ok_iff.2 ⟨_, hpieces.split (by decide), hmapM.2 hls⟩

/-- The first and the last bracket are no pair, and nothing is read. -/
example : (literalsOf "[1] + [2]".toList).toOption = none := by decide +kernel

end Criterion

namespace Query

/-- A value is read by the rule for its key. -/
theorem isValue_iff {key value : Text} {c : Criterion} :
    Criterion.IsValue key value c ↔
      key = multi ∧ (∃ n, Criterion.countOf value = .ok n ∧ c = .count n) ∨
        key ≠ multi ∧ ∃ ls, Criterion.literalsOf value = .ok ls ∧ c = .literals ls := by
  constructor
  · intro h
    cases h with
    | count hn hpos => exact .inl ⟨rfl, _, Criterion.countOf_eq_ok_iff.2 ⟨hn, hpos⟩, rfl⟩
    | single hkey hl =>
        exact .inr ⟨hkey, _, (Criterion.literalsOf_eq_ok_iff hkey).2 (.single hkey hl), rfl⟩
    | list hkey hpieces hls =>
        exact .inr
          ⟨hkey, _, (Criterion.literalsOf_eq_ok_iff hkey).2 (.list hkey hpieces hls), rfl⟩
  · rintro (⟨rfl, n, hn, rfl⟩ | ⟨hkey, ls, hls, rfl⟩)
    · obtain ⟨hn, hpos⟩ := Criterion.countOf_eq_ok_iff.1 hn
      exact .count hn hpos
    · exact (Criterion.literalsOf_eq_ok_iff hkey).1 hls

theorem add_eq_ok_iff (q : Query) (t : Text) (q' : Query) :
    q.add t = .ok q' ↔
      ∃ e, IsEntry Criterion.IsValue t e ∧ q.contains e.1 = false ∧ q' = q.insert e.1 e.2 := by
  have hentry (e : Text × Criterion) : IsEntry Criterion.IsValue t e ↔ _ :=
    isEntry_iff fun h => Criterion.IsValue.value h
  simp only [hentry, add, Except.bind_eq_ok_iff, Prod.exists, isValue_iff]
  constructor
  · rintro ⟨key, value, hsplit, h⟩
    split at h
    · next hkey =>
      obtain ⟨c, hc, hinsert⟩ := Except.bind_eq_ok_iff.1 h
      obtain ⟨n, hn, rfl⟩ := Except.map_eq_ok_iff.1 hc
      exact ⟨key, _, ⟨value, hsplit, .inl ⟨hkey, n, hn, rfl⟩⟩,
        Keyed.insertNew_eq_ok_iff.1 hinsert⟩
    · next hkey =>
      obtain ⟨c, hc, hinsert⟩ := Except.bind_eq_ok_iff.1 h
      obtain ⟨ls, hls, rfl⟩ := Except.map_eq_ok_iff.1 hc
      exact ⟨key, _, ⟨value, hsplit, .inr ⟨hkey, ls, hls, rfl⟩⟩,
        Keyed.insertNew_eq_ok_iff.1 hinsert⟩
  · rintro ⟨key, c, ⟨value, hsplit, ⟨hkey, n, hn, rfl⟩ | ⟨hkey, ls, hls, rfl⟩⟩, hinsert⟩
    · refine ⟨key, value, hsplit, ?_⟩
      rw [if_pos hkey, hn]
      exact Keyed.insertNew_eq_ok_iff.2 hinsert
    · refine ⟨key, value, hsplit, ?_⟩
      rw [if_neg hkey, hls]
      exact Keyed.insertNew_eq_ok_iff.2 hinsert

/-- The entries with a count of one, if there is no other count. -/
def completed (entries : List (Text × Criterion)) : List (Text × Criterion) :=
  if entries.any fun e => e.1 = multi then entries else (multi, .count 1) :: entries

theorem completed_of_mem {entries : List (Text × Criterion)}
    (h : multi ∈ entries.map Prod.fst) : completed entries = entries := by
  obtain ⟨e, he, hkey⟩ := List.mem_map.1 h
  exact if_pos (List.any_eq_true.2 ⟨e, he, decide_eq_true hkey⟩)

theorem completed_of_not_mem {entries : List (Text × Criterion)}
    (h : multi ∉ entries.map Prod.fst) : completed entries = (multi, .count 1) :: entries := by
  refine if_neg fun hany => h ?_
  obtain ⟨e, he, hkey⟩ := List.any_eq_true.1 hany
  exact List.mem_map.2 ⟨e, he, of_decide_eq_true hkey⟩

theorem nodup_completed_iff {entries : List (Text × Criterion)} :
    ((completed entries).map Prod.fst).Nodup ↔ (entries.map Prod.fst).Nodup := by
  by_cases hmulti : multi ∈ entries.map Prod.fst
  · rw [completed_of_mem hmulti]
  · rw [completed_of_not_mem hmulti, List.map_cons, List.nodup_cons, and_iff_right hmulti]

theorem holds_withCount {q : Query} {entries : List (Text × Criterion)} (h : q.Holds entries) :
    q.withCount.Holds (completed entries) := by
  refine ⟨nodup_completed_iff.2 h.1, fun key => ?_⟩
  unfold withCount
  by_cases hmulti : multi ∈ entries.map Prod.fst
  · rw [if_pos (Keyed.contains_iff_of_holds h |>.2 hmulti), completed_of_mem hmulti, h.2]
  · rw [if_neg (mt (Keyed.contains_iff_of_holds h).1 hmulti), completed_of_not_mem hmulti,
      Keyed.find?_insert, Keyed.lookup_cons, h.2]

theorem perm_completed {entries entries' : List (Text × Criterion)}
    (h : entries.Perm entries') : (completed entries).Perm (completed entries') := by
  have hmem : multi ∈ entries.map Prod.fst ↔ multi ∈ entries'.map Prod.fst :=
    (h.map Prod.fst).mem_iff
  by_cases hmulti : multi ∈ entries.map Prod.fst
  · rwa [completed_of_mem hmulti, completed_of_mem (hmem.1 hmulti)]
  · rw [completed_of_not_mem hmulti, completed_of_not_mem (mt hmem.2 hmulti)]
    exact h.cons _

theorem ofText_eq_ok_iff {t : Text} {q : Query} :
    ofText t = .ok q ↔ ∃ args entries, Method.discovery.arguments t = .ok args ∧
      List.Forall₂ (IsEntry Criterion.IsValue) args entries ∧ q.Holds (completed entries) := by
  simp only [ofText, Except.bind_eq_ok_iff, Except.pure_eq_ok_iff,
    Keyed.foldlM_empty add_eq_ok_iff]
  constructor
  · rintro ⟨args, hargs, q, ⟨entries, hall, hholds⟩, rfl⟩
    exact ⟨args, entries, hargs, hall, holds_withCount hholds⟩
  · rintro ⟨args, entries, hargs, hall, hholds⟩
    have hwritten : (Keyed.ofList entries).Holds entries :=
      Keyed.holds_iff.2 ⟨nodup_completed_iff.1 hholds.1, rfl⟩
    exact ⟨args, hargs, _, ⟨entries, hall, hwritten⟩, (holds_withCount hwritten).unique hholds⟩

end Query

/-! The order of the arguments. -/

theorem exists_perm_of_forall₂ {α β : Type} {r : α → β → Prop} {xs ys : List α} {zs : List β}
    (h : List.Forall₂ r xs zs) (hperm : xs.Perm ys) :
    ∃ ws, List.Forall₂ r ys ws ∧ zs.Perm ws := by
  obtain ⟨ws, hall, hws⟩ := List.perm_comp_forall₂ hperm.symm h
  exact ⟨ws, hall, hws.symm⟩

theorem Query.ofText_of_perm {t t' : Text} {args args' : List Text} {q : Query}
    (hargs : Method.discovery.arguments t = .ok args)
    (hargs' : Method.discovery.arguments t' = .ok args') (hperm : args.Perm args')
    (h : ofText t = .ok q) : ofText t' = .ok q := by
  obtain ⟨_, entries, hread, hall, hholds⟩ := ofText_eq_ok_iff.1 h
  rw [hargs] at hread
  cases hread
  obtain ⟨entries', hall', hentries⟩ := exists_perm_of_forall₂ hall hperm
  exact ofText_eq_ok_iff.2 ⟨args', entries', hargs', hall', hholds.perm (perm_completed hentries)⟩

theorem Metadata.ofText_of_perm {t t' : Text} {args args' : List Text} {m : Metadata}
    (hargs : Method.metadata.arguments t = .ok args)
    (hargs' : Method.metadata.arguments t' = .ok args') (hperm : args.Perm args')
    (h : ofText t = .ok m) : ofText t' = .ok m := by
  obtain ⟨_, entries, hread, hne, hall, hholds⟩ := ofText_eq_ok_iff.1 h
  rw [hargs] at hread
  cases hread
  obtain ⟨entries', hall', hentries⟩ := exists_perm_of_forall₂ hall hperm
  have hne' : args' ≠ [] := fun hnil => hne (List.perm_nil.1 (hnil ▸ hperm))
  exact ofText_eq_ok_iff.2 ⟨args', entries', hargs', hne', hall', hholds.perm hentries⟩

/-- Lists of attributes are read completely, and in any order. A query is read exactly if
all arguments of `discovery` are attributes with values under distinct keys, and metadata
exactly if there are arguments of `meta`, attributes with literals under distinct keys; the
entries of the map are those of the attributes, and in a query a count of one if there is no
other. In the intermediate code a count is a number and the literals under a key of a query
are an array. If the arguments of two calls are the same but for their order, the same is
read from both. -/
theorem attributes_exact :
    (∀ t q, Query.ofText t = .ok q ↔
      ∃ args entries, Method.discovery.arguments t = .ok args ∧
        List.Forall₂ (IsEntry Criterion.IsValue) args entries ∧
        q.Holds (Query.completed entries)) ∧
    (∀ q entries, Keyed.Holds q entries → ∃ values,
      List.Forall₂ (fun e v => e.1 = v.1 ∧ Criterion.IsCode e.2 v.2) entries values ∧
        (Query.toJson q).Holds values) ∧
    (∀ t t' args args' q, Method.discovery.arguments t = .ok args →
      Method.discovery.arguments t' = .ok args' → args.Perm args' →
      (Query.ofText t = .ok q ↔ Query.ofText t' = .ok q)) ∧
    (∀ t m, Metadata.ofText t = .ok m ↔
      ∃ args entries, Method.metadata.arguments t = .ok args ∧ args ≠ [] ∧
        List.Forall₂ (IsEntry Metadata.IsValue) args entries ∧ m.Holds entries) ∧
    (∀ m entries, Keyed.Holds m entries → ∃ values,
      List.Forall₂ (fun e v => e.1 = v.1 ∧ Literal.IsCode e.2 v.2) entries values ∧
        (Metadata.toJson m).Holds values) ∧
    (∀ t t' args args' m, Method.metadata.arguments t = .ok args →
      Method.metadata.arguments t' = .ok args' → args.Perm args' →
      (Metadata.ofText t = .ok m ↔ Metadata.ofText t' = .ok m)) := by
  refine ⟨fun t q => Query.ofText_eq_ok_iff,
    fun q entries h => h.exists_forall₂ Criterion.isCode_toJson, ?_,
    fun t m => Metadata.ofText_eq_ok_iff,
    fun m entries h => h.exists_forall₂ Literal.isCode_toJson, ?_⟩
  · intro t t' args args' q hargs hargs' hperm
    exact ⟨Query.ofText_of_perm hargs hargs' hperm, Query.ofText_of_perm hargs' hargs hperm.symm⟩
  · intro t t' args args' m hargs hargs' hperm
    exact ⟨Metadata.ofText_of_perm hargs hargs' hperm,
      Metadata.ofText_of_perm hargs' hargs hperm.symm⟩

theorem attributes_exact_permuted :
    ∃ q, Query.ofText "discovery(kind = \"storage\", area = [\"a, b\", 1.5])".toList = .ok q ∧
      Query.ofText "discovery(area = [\"a, b\", 1.5], kind = \"storage\")".toList = .ok q ∧
      q.find? Query.multi = some (.count 1) := by
  have hread : Query.ofText "discovery(kind = \"storage\", area = [\"a, b\", 1.5])".toList =
      .ok (Keyed.ofList [
        ("area".toList, .literals [.string "a, b".toList, .float (.ofDecimal false 15 (-1))]),
        ("kind".toList, .literals [.string "storage".toList]), (Query.multi, .count 1)]) := by
    decide +kernel
  have hargs : Method.discovery.arguments
      "discovery(kind = \"storage\", area = [\"a, b\", 1.5])".toList =
        .ok ["kind = \"storage\"".toList, "area = [\"a, b\", 1.5]".toList] := by
    decide +kernel
  have hargs' : Method.discovery.arguments
      "discovery(area = [\"a, b\", 1.5], kind = \"storage\")".toList =
        .ok ["area = [\"a, b\", 1.5]".toList, "kind = \"storage\"".toList] := by
    decide +kernel
  refine ⟨_, hread, ?_, by decide +kernel⟩
  exact (attributes_exact.2.2.1 _ _ _ _ _ hargs hargs' (.swap _ _ [])).1 hread

end Overlay
