import Overlay.Code.Decoding
import Overlay.Proofs.Keyed
import Overlay.Proofs.Relocation
import Mathlib.Data.List.Nodup

/-!
Forms of values. A form says which fields of records a reader looks at, and so what
of a value is left once all else is taken away. A reader and a writer belong to a
form when the writer gives back what the reader was given: the value without what
the form leaves out, up to the order of fields.
-/

namespace Overlay

namespace Json

mutual

/-- A value with the fields of each object in key order. -/
def sorted : Json → Json
  | .null => .null
  | .bool b => .bool b
  | .number n => .number n
  | .string s => .string s
  | .array items => .array (sortedItems items)
  | .object fields => .object (Keyed.ofList (sortedFields fields)).entries

def sortedItems : List Json → List Json
  | [] => []
  | v :: vs => sorted v :: sortedItems vs

def sortedFields : List (Text × Json) → List (Text × Json)
  | [] => []
  | (key, v) :: fs => (key, sorted v) :: sortedFields fs

end

theorem sortedItems_eq_map (items : List Json) : sortedItems items = items.map sorted := by
  induction items with
  | nil => rfl
  | cons v vs ih => rw [sortedItems, ih, List.map_cons]

theorem sortedFields_eq_map (fields : List (Text × Json)) :
    sortedFields fields = fields.map fun e => (e.1, e.2.sorted) := by
  induction fields with
  | nil => rfl
  | cons e fs ih => rw [sortedFields, ih, List.map_cons]

theorem orderedItems_iff {items : List Json} : OrderedItems items ↔ ∀ v ∈ items, v.Ordered := by
  induction items with
  | nil => simp [OrderedItems]
  | cons v vs ih => simp [OrderedItems, ih]

theorem orderedFields_iff {fields : List (Text × Json)} :
    OrderedFields fields ↔ ∀ e ∈ fields, e.2.Ordered := by
  induction fields with
  | nil => simp [OrderedFields]
  | cons e fs ih => simp [OrderedFields, ih]

theorem ordered_array {items : List Json} :
    (Json.array items).Ordered ↔ ∀ v ∈ items, v.Ordered := orderedItems_iff

theorem ordered_object {fields : List (Text × Json)} :
    (Json.object fields).Ordered ↔ KeysIncrease fields ∧ ∀ e ∈ fields, e.2.Ordered := by
  rw [Ordered, orderedFields_iff, List.pairwise_map]
  rfl

mutual

/-- A value with its fields in key order stays as it is. -/
theorem sorted_of_ordered (v : Json) (h : v.Ordered) : v.sorted = v := by
  match v with
  | .null | .bool _ | .number _ | .string _ => rfl
  | .array items =>
      rw [sorted, sortedItems_of_ordered items (ordered_array.1 h)]
  | .object fields =>
      obtain ⟨hkeys, hfields⟩ := ordered_object.1 h
      rw [sorted, sortedFields_of_ordered fields hfields, Keyed.entries_ofList hkeys]

theorem sortedItems_of_ordered (vs : List Json) (h : ∀ v ∈ vs, v.Ordered) :
    sortedItems vs = vs := by
  match vs with
  | [] => rfl
  | v :: vs =>
      obtain ⟨hv, hvs⟩ := List.forall_mem_cons.1 h
      rw [sortedItems, sorted_of_ordered v hv, sortedItems_of_ordered vs hvs]

theorem sortedFields_of_ordered (fs : List (Text × Json)) (h : ∀ e ∈ fs, e.2.Ordered) :
    sortedFields fs = fs := by
  match fs with
  | [] => rfl
  | (key, v) :: fs =>
      obtain ⟨hv, hfs⟩ := List.forall_mem_cons.1 h
      rw [sortedFields, sorted_of_ordered v hv, sortedFields_of_ordered fs hfs]

end

end Json

/-- What is left of a value, and whether the records in it are objects. -/
structure Form where
  prune : Json → Json
  InObjects : Json → Prop

namespace Form

/-- A value of which all is kept. -/
def value : Form := ⟨id, fun _ => True⟩

/-- A list of values of one form. -/
def list (form : Form) : Form where
  prune
    | .array items => .array (items.map form.prune)
    | v => v
  InObjects
    | .array items => ∀ v ∈ items, form.InObjects v
    | _ => True

/-- A map with values of one form under any keys. -/
def map (form : Form) : Form where
  prune
    | .object fields => .object (fields.map fun e => (e.1, form.prune e.2))
    | v => v
  InObjects
    | .object fields => ∀ e ∈ fields, form.InObjects e.2
    | _ => True

/-- A field of a record. One that is optional counts as missing if it is `null`. -/
structure Field where
  name : String
  form : Form
  optional : Bool

def required (name : String) (form : Form) : Field := ⟨name, form, false⟩

/-- What is left of the value of a field, if anything is. -/
def Field.prune? (f : Field) (v : Json) : Option Json :=
  if f.optional ∧ v = .null then none else some (f.form.prune v)

def find? (fields : List Field) (key : Text) : Option Field :=
  fields.find? fun f => f.name.toList = key

/-- A record with some fields; other fields are left out. -/
def record (fields : List Field) : Form where
  prune
    | .object entries => .object (entries.filterMap fun e =>
        ((find? fields e.1).bind fun f => f.prune? e.2).map fun v => (e.1, v))
    | v => v
  InObjects
    | .object entries => ∀ f ∈ fields, ∀ v, entries.lookup f.name.toList = some v →
        f.form.InObjects v
    | _ => False

/-- Whether a reader and a writer belong to a form, for the values with some
property: all that are read have it, and each of them is read back. -/
structure Codes {α : Type} (form : Form) (read : Json → Option α) (write : α → Json)
    (P : α → Prop) : Prop where
  accepts : ∀ {v a}, read v = some a → P a
  back : ∀ {a}, P a → read (write a) = some a
  pruned : ∀ {v a}, read v = some a → v.Ordered → form.InObjects v →
    (write a).sorted = form.prune v

theorem codes_value : value.Codes some id fun _ => True where
  accepts _ := trivial
  back _ := rfl
  pruned := by
    intro v a h hv _
    cases h
    exact Json.sorted_of_ordered v hv

theorem codes_text : value.Codes Json.asText? .string fun _ => True where
  accepts _ := trivial
  back _ := rfl
  pruned := by
    intro v a h _ _
    cases v <;> cases h
    rfl

section

variable {α : Type} {form : Form} {read : Json → Option α} {write : α → Json} {P : α → Prop}

theorem mapM_eq_some_iff {β γ : Type} {f : β → Option γ} {xs : List β} {ys : List γ} :
    xs.mapM f = some ys ↔ List.Forall₂ (fun x y => f x = some y) xs ys := by
  induction xs generalizing ys with
  | nil => simp [eq_comm]
  | cons x xs ih =>
      simp only [List.mapM_cons, Option.bind_eq_bind, Option.bind_eq_some_iff, Option.pure_def,
        Option.some.injEq, ih, List.forall₂_cons_left_iff]
      constructor
      · rintro ⟨y, hy, ys, hys, rfl⟩
        exact ⟨y, ys, hy, hys, rfl⟩
      · rintro ⟨y, ys, hy, hys, rfl⟩
        exact ⟨y, hy, ys, hys, rfl⟩

theorem Codes.list (h : form.Codes read write P) :
    form.list.Codes (Json.list? read) (fun xs => .array (xs.map write)) fun xs =>
      ∀ x ∈ xs, P x where
  accepts := by
    intro v xs hv x hx
    obtain ⟨items, -, hitems⟩ := Option.bind_eq_some_iff.1 hv
    obtain ⟨w, -, hw⟩ := forall₂_exists_of_mem_right (mapM_eq_some_iff.1 hitems) hx
    exact h.accepts hw
  back := by
    intro xs hxs
    show (xs.map write).mapM read = some xs
    rw [mapM_eq_some_iff, List.forall₂_map_left_iff, List.forall₂_same]
    exact fun x hx => h.back (hxs x hx)
  pruned := by
    intro v xs hv hordered hobjects
    obtain ⟨items, hitems, hread⟩ := Option.bind_eq_some_iff.1 hv
    cases v <;> cases hitems
    rw [Json.ordered_array] at hordered
    show Json.array (Json.sortedItems (xs.map write)) = .array (items.map form.prune)
    rw [Json.sortedItems_eq_map, List.map_map]
    refine congrArg Json.array (map_eq_of_forall₂ (r := fun w x => (write x).sorted = form.prune w)
      ?_ fun hx => hx)
    refine forall₂_of_mem_left (mapM_eq_some_iff.1 hread) fun w hw x hx => ?_
    exact h.pruned hx (hordered w hw) (hobjects w hw)

/-- The entries that are read are those of the value, under the same keys. -/
theorem entries_of_mapM {fields : List (Text × Json)} {entries : List (Text × α)}
    (h : (fields.mapM fun f => (read f.2).map fun a => (f.1, a)) = some entries) :
    List.Forall₂ (fun f e => e.1 = f.1 ∧ read f.2 = some e.2) fields entries := by
  refine (mapM_eq_some_iff.1 h).imp fun f e he => ?_
  obtain ⟨a, ha, rfl⟩ := Option.map_eq_some_iff.1 he
  exact ⟨rfl, ha⟩

theorem Codes.map (h : form.Codes read write P) :
    form.map.Codes (Json.map? read) (fun m => (m.mapValues write).toJson) fun m =>
      ∀ e ∈ m.entries, P e.2 where
  accepts := by
    intro v m hv e he
    simp only [Json.map?, Option.bind_eq_bind, Option.bind_eq_some_iff, Option.some.injEq] at hv
    obtain ⟨fields, -, entries, hentries, rfl⟩ := hv
    obtain ⟨f, -, -, hf⟩ :=
      forall₂_exists_of_mem_right (entries_of_mapM hentries) (Keyed.mem_of_mem_ofList he)
    exact h.accepts hf
  back := by
    intro m hm
    simp only [Json.map?, Option.bind_eq_bind, Option.bind_eq_some_iff, Option.some.injEq]
    refine ⟨_, rfl, m.entries, ?_, Keyed.ext (Keyed.entries_ofList m.ordered)⟩
    rw [mapM_eq_some_iff]
    show List.Forall₂ _ (m.entries.map fun e => (e.1, write e.2)) m.entries
    rw [List.forall₂_map_left_iff, List.forall₂_same]
    intro e he
    rw [h.back (hm e he)]
    rfl
  pruned := by
    intro v m hv hordered hobjects
    simp only [Json.map?, Option.bind_eq_bind, Option.bind_eq_some_iff, Option.some.injEq] at hv
    obtain ⟨fields, hfields, entries, hentries, rfl⟩ := hv
    cases v <;> cases hfields
    obtain ⟨hkeys, hvalues⟩ := Json.ordered_object.1 hordered
    have hall := entries_of_mapM hentries
    -- Reading keeps the keys, so that the entries that are read are in key order too.
    have hnames : entries.map Prod.fst = fields.map Prod.fst :=
      map_eq_of_forall₂ hall fun he => he.1
    have hincrease : KeysIncrease entries := by
      have hpairs : (fields.map Prod.fst).Pairwise (· < ·) := List.pairwise_map.2 hkeys
      rw [← hnames] at hpairs
      exact List.pairwise_map.1 hpairs
    have hpruned : (entries.map fun e => (e.1, (write e.2).sorted)) =
        fields.map fun f => (f.1, form.prune f.2) := by
      refine map_eq_of_forall₂ (r := fun f e => e.1 = f.1 ∧ (write e.2).sorted = form.prune f.2)
        ?_ fun hfe => by rw [hfe.1, hfe.2]
      refine forall₂_of_mem_left hall fun f hf e he => ⟨he.1, ?_⟩
      exact h.pruned he.2 (hvalues f hf) (hobjects f hf)
    have hincrease' : KeysIncrease (fields.map fun f => (f.1, form.prune f.2)) :=
      List.pairwise_map.2 hkeys
    show Json.object (Keyed.ofList (Json.sortedFields
      ((Keyed.ofList entries).entries.map fun e => (e.1, write e.2)))).entries = _
    rw [Keyed.entries_ofList hincrease, Json.sortedFields_eq_map, List.map_map]
    show Json.object (Keyed.ofList (entries.map fun e => (e.1, (write e.2).sorted))).entries = _
    rw [hpruned, Keyed.entries_ofList hincrease']
    rfl

end

/-! Records. -/

/-- The fields that a writer gives, of those a record may have. -/
def written (fields : List Field) (ws : List (Option Json)) : List (String × Json) :=
  (fields.zip ws).filterMap fun p => p.2.map fun v => (p.1.name, v)

/-- What is found in the rest of a record under a key. -/
theorem lookup_prune {fields : List Field} {entries : List (Text × Json)}
    (h : KeysIncrease entries) (key : Text) :
    (entries.filterMap fun e =>
        ((find? fields e.1).bind fun f => f.prune? e.2).map fun v => (e.1, v)).lookup key =
      (entries.lookup key).bind fun v => (find? fields key).bind fun f => f.prune? v := by
  induction entries with
  | nil => rfl
  | cons e entries ih =>
      obtain ⟨he, hrest⟩ := List.pairwise_cons.1 h
      have ih := ih hrest
      rw [Keyed.lookup_cons, List.filterMap_cons]
      by_cases hkey : key = e.1
      · subst hkey
        rw [Keyed.lookup_eq_none_of_lt he] at ih
        rw [if_pos rfl, Option.bind_some]
        cases (find? fields e.1).bind fun f => f.prune? e.2 with
        | none => exact ih
        | some v => simp
      · rw [if_neg hkey]
        cases (find? fields e.1).bind fun f => f.prune? e.2 with
        | none => exact ih
        | some v => simpa [Keyed.lookup_cons, hkey] using ih

/-- What is found under a key among the fields that are written. -/
theorem lookup_written {fields : List Field} {ws : List (Option Json)} {g : Json → Json}
    {found : Field → Option Json} (hnames : (fields.map Field.name).Nodup)
    (h : List.Forall₂ (fun f w => w.map g = found f) fields ws) (key : Text) :
    ((written fields ws).map fun f => (f.1.toList, g f.2)).lookup key =
      (find? fields key).bind found := by
  induction h with
  | nil => rfl
  | @cons f w fields ws hw _ ih =>
      obtain ⟨hnew, hnames⟩ := List.nodup_cons.1 hnames
      have ih := ih hnames
      by_cases hkey : f.name.toList = key
      · have hfind : find? (f :: fields) key = some f := by simp [find?, hkey]
        rw [hfind, Option.bind_some]
        cases w with
        | some v =>
            rw [← hw, ← hkey]
            simp [written]
        | none =>
            -- The name of the field is that of no other.
            have hnone : find? fields key = none := by
              refine List.find?_eq_none.2 fun f' hf' heq => hnew ?_
              have hsame : f'.name = f.name :=
                String.toList_inj.1 ((of_decide_eq_true heq).trans hkey.symm)
              exact hsame ▸ List.mem_map_of_mem hf'
            rw [hnone] at ih
            rw [← hw]
            exact ih
      · have hfind : find? (f :: fields) key = find? fields key := by simp [find?, hkey]
        rw [hfind]
        cases w with
        | some v => simpa [written, Keyed.lookup_cons, Ne.symm hkey] using ih
        | none => exact ih

theorem nodup_written {fields : List Field} {ws : List (Option Json)}
    (hnames : (fields.map Field.name).Nodup) :
    ((written fields ws).map Prod.fst).Nodup := by
  refine hnames.sublist ?_
  induction fields generalizing ws with
  | nil => exact .slnil
  | cons f fields ih =>
      obtain ⟨-, hnames⟩ := List.nodup_cons.1 hnames
      cases ws with
      | nil => exact List.nil_sublist _
      | cons w ws =>
          cases w with
          | none => exact (ih hnames).cons _
          | some v => exact (ih hnames).cons_cons _

/-- A record that is written from what the fields of a value hold is the value
without what the form leaves out. -/
theorem sorted_record {fields : List Field} {entries : List (Text × Json)}
    {ws : List (Option Json)} (hnames : (fields.map Field.name).Nodup)
    (hentries : KeysIncrease entries) (h : List.Forall₂ (fun f w =>
      w.map Json.sorted = (entries.lookup f.name.toList).bind f.prune?) fields ws) :
    (Json.ofFields (written fields ws)).sorted = (record fields).prune (.object entries) := by
  have hkeys : KeysIncrease (entries.filterMap fun e =>
      ((find? fields e.1).bind fun f => f.prune? e.2).map fun v => (e.1, v)) := by
    refine List.Pairwise.filterMap _ (fun e e' hlt x hx x' hx' => ?_) hentries
    obtain ⟨v, -, rfl⟩ := Option.map_eq_some_iff.1 hx
    obtain ⟨v', -, rfl⟩ := Option.map_eq_some_iff.1 hx'
    exact hlt
  have hnodup :
      (((written fields ws).map fun f => (f.1.toList, f.2.sorted)).map Prod.fst).Nodup := by
    have hmap : ((written fields ws).map fun f => (f.1.toList, f.2.sorted)).map Prod.fst =
        ((written fields ws).map Prod.fst).map String.toList := by
      rw [List.map_map, List.map_map]
      rfl
    rw [hmap]
    exact (nodup_written hnames).map fun _ _ heq => String.toList_inj.1 heq
  -- Sorting makes a map of the fields, and a map is known by what is found in it.
  have hsame : Keyed.ofList ((written fields ws).map fun f => (f.1.toList, f.2.sorted)) =
      ⟨_, hkeys⟩ := by
    refine Keyed.ext_find? fun key => ?_
    rw [Keyed.find?_ofList hnodup, lookup_written hnames h]
    show _ = List.lookup key (entries.filterMap _)
    rw [lookup_prune hentries]
    cases hfind : find? fields key with
    | none => cases entries.lookup key <;> rfl
    | some f =>
        obtain rfl : f.name.toList = key := by simpa using List.find?_some hfind
        rfl
  show Json.object (Keyed.ofList (Json.sortedFields
    ((written fields ws).map fun f => (f.1.toList, f.2)))).entries = _
  rw [Json.sortedFields_eq_map, List.map_map]
  exact congrArg (fun m : Keyed Json => Json.object m.entries) hsame

/-- Whether a field that was found with some value, if any, is written with what is
left of it. -/
def Field.Keeps (f : Field) (found written : Option Json) : Prop :=
  (∀ v, found = some v → v.Ordered ∧ f.form.InObjects v) →
    written.map Json.sorted = found.bind f.prune?

theorem Codes.keeps {α : Type} {form : Form} {read : Json → Option α} {write : α → Json}
    {P : α → Prop} (h : form.Codes read write P) (name : String) {v : Json} {a : α}
    (hread : read v = some a) : (required name form).Keeps (some v) (some (write a)) := by
  intro hv
  obtain ⟨hordered, hobjects⟩ := hv v rfl
  exact congrArg some (h.pruned hread hordered hobjects)

/-- The value that is found in a record with ordered fields is ordered. -/
theorem ordered_of_lookup {entries : List (Text × Json)} (h : (Json.object entries).Ordered)
    {key : Text} {v : Json} (hv : entries.lookup key = some v) : v.Ordered := by
  obtain ⟨-, hvalues⟩ := Json.ordered_object.1 h
  obtain ⟨front, back, rfl, -⟩ := List.lookup_eq_some_iff.1 hv
  exact hvalues (key, v) (by simp)

theorem name_mem_of_mem_written {fields : List Field} {ws : List (Option Json)}
    {e : String × Json} (h : e ∈ written fields ws) : e.1 ∈ fields.map Field.name := by
  obtain ⟨⟨f, w⟩, hmem, he⟩ := List.mem_filterMap.1 h
  obtain ⟨v, -, rfl⟩ := Option.map_eq_some_iff.1 he
  exact List.mem_map_of_mem (List.of_mem_zip hmem).1

/-- What is written for the fields of a record is found in it again. -/
theorem map_lookup_written {fields : List Field} {ws : List (Option Json)}
    (hnames : (fields.map Field.name).Nodup) (hlen : ws.length = fields.length) :
    (fields.map fun f => ((written fields ws).map fun e => (e.1.toList, e.2)).lookup
      f.name.toList) = ws := by
  induction fields generalizing ws with
  | nil => exact (List.length_eq_zero_iff.1 hlen).symm
  | cons f fields ih =>
      obtain ⟨hnew, hnames⟩ := List.nodup_cons.1 hnames
      cases ws with
      | nil => cases hlen
      | cons w ws =>
          have ih := ih hnames (Nat.succ.inj hlen)
          have hhead : ((written fields ws).map fun e => (e.1.toList, e.2)).lookup
              f.name.toList = none := by
            rw [List.lookup_eq_none_iff]
            intro e he
            obtain ⟨e', he', rfl⟩ := List.mem_map.1 he
            rw [bne_iff_ne]
            exact fun heq => hnew (String.toList_inj.1 heq ▸ name_mem_of_mem_written he')
          cases w with
          | none => exact congrArg₂ List.cons hhead ih
          | some v =>
              have htail : ∀ f' ∈ fields, ((written (f :: fields) (some v :: ws)).map fun e =>
                  (e.1.toList, e.2)).lookup f'.name.toList =
                  ((written fields ws).map fun e => (e.1.toList, e.2)).lookup f'.name.toList := by
                intro f' hf'
                have hne : f'.name.toList ≠ f.name.toList := fun heq =>
                  hnew (String.toList_inj.1 heq ▸ List.mem_map_of_mem hf')
                simp [written, Keyed.lookup_cons, hne]
              rw [List.map_cons, List.map_congr_left htail, ih]
              simp [written]

/-- A reader and a writer of records belong to the form of their fields. What is
written for each field is given by `parts`, and what is read from them by `make`. -/
theorem codes_record {α : Type} {fields : List Field} {read : Json → Option α} {write : α → Json}
    {make : List (Option Json) → Option α} {P : α → Prop} (least : Nat)
    (parts : α → List (Option Json)) (hnames : (fields.map Field.name).Nodup)
    (hread : ∀ v, read v = (Json.record? (fields.map Field.name) least v).bind make)
    (hwrite : ∀ a, write a = Json.ofFields (written fields (parts a)))
    (hlen : ∀ a, (parts a).length = fields.length)
    (haccepts : ∀ {us a}, make us = some a → P a) (hback : ∀ {a}, P a → make (parts a) = some a)
    (hkeeps : ∀ {us a}, make us = some a →
      List.Forall₂ (fun p w => p.1.Keeps p.2 w) (fields.zip us) (parts a)) :
    (record fields).Codes read write P where
  accepts := by
    intro v a h
    rw [hread] at h
    obtain ⟨us, -, hus⟩ := Option.bind_eq_some_iff.1 h
    exact haccepts hus
  back := by
    intro a ha
    have hfound : Json.record? (fields.map Field.name) least
        (Json.ofFields (written fields (parts a))) = some (parts a) := by
      refine congrArg some ?_
      rw [List.map_map]
      exact map_lookup_written hnames (hlen a)
    rw [hread, hwrite, hfound]
    exact hback ha
  pruned := by
    intro v a h hordered hobjects
    cases v with
    | object entries =>
        rw [hread] at h
        have hparts := hkeeps h
        have hzip :
            fields.zip ((fields.map Field.name).map fun name => entries.lookup name.toList) =
              fields.map fun f => (f, entries.lookup f.name.toList) := by
          rw [List.map_map]
          have hpairs := List.zip_map' (f := id)
            (g := fun f : Field => entries.lookup f.name.toList) (l := fields)
          rwa [List.map_id] at hpairs
        rw [hzip, List.forall₂_map_left_iff] at hparts
        rw [hwrite]
        refine sorted_record hnames (Json.ordered_object.1 hordered).1 ?_
        refine forall₂_of_mem_left hparts fun f hf w hw => hw fun u hu => ?_
        exact ⟨ordered_of_lookup hordered hu, hobjects f hf u hu⟩
    | null | bool _ | number _ | string _ | array _ =>
        -- A record may be read from a list, but only one that is an object is written back.
        exact hobjects.elim

theorem codes_texts : value.list.Codes (Json.list? Json.asText?) Json.ofTexts fun _ => True where
  accepts _ := trivial
  back _ := codes_text.list.back fun _ _ => trivial
  pruned := codes_text.list.pruned

theorem mapValues_id {α : Type} (m : Keyed α) : m.mapValues id = m := by
  refine Keyed.ext ?_
  show (m.entries.map fun e => (e.1, id e.2)) = m.entries
  simp

theorem codes_anyMap : value.map.Codes Json.anyMap? Keyed.toJson fun _ => True where
  accepts _ := trivial
  back {m} _ := by
    have hback := codes_value.map.back (a := m) fun _ _ => trivial
    rwa [mapValues_id] at hback
  pruned {v m} h hordered hobjects := by
    have hpruned := codes_value.map.pruned h hordered hobjects
    rwa [mapValues_id] at hpruned

theorem codes_array : value.list.Codes Json.asArray? .array fun _ => True where
  accepts _ := trivial
  back _ := rfl
  pruned := by
    intro v items h hordered _
    cases v <;> cases h
    show (Json.array items).sorted = Json.array (items.map id)
    rw [Json.sorted_of_ordered _ hordered, List.map_id]

end Form

end Overlay
