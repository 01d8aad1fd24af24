import Overlay.Proofs.Outline.Items

/-!
Blocks and their parts. The content of a block is that of its header line, that
of its body and its `end`; the parts of a block are the items of its body. Two
items of a description that have a line in common stand one inside the other.
-/

namespace Overlay

open Text

namespace Construct

/-- What may stand in a block. -/
def parts : Construct → List Construct
  | stateBlock => declarations
  | bloomBlock => rulesAndEvents
  | eventBlock => rules
  | _ => []

/-- Whether the blocks among candidates are tried last. -/
def BlocksLast (candidates : List Construct) : Prop :=
  candidates.Pairwise fun c d => c.isBlock = true → d.isBlock = true

instance (candidates : List Construct) : Decidable (BlocksLast candidates) :=
  inferInstanceAs (Decidable (candidates.Pairwise fun c d => c.isBlock = true → d.isBlock = true))

theorem blocksLast_topLevel : BlocksLast topLevel := by decide

theorem blocksLast_parts (c : Construct) : BlocksLast c.parts := by cases c <;> decide

end Construct

theorem eq_singleton_of_content {l : Nat × Text} {t : Text} {cs : List (Nat × Text)}
    (ht : l.2.stripComment = .ok t) (hne : t ≠ []) (h : Content [l] cs) : cs = [(l.1, t)] := by
  cases h with
  | blank hblank _ =>
      rw [ht] at hblank
      cases hblank
      exact absurd rfl hne
  | line ht' _ h =>
      rw [ht] at ht'
      cases ht'
      cases h
      rfl

/-- A sequence of at least two lines whose ends are filled has its content in
three parts. -/
theorem exists_middle_of_content {lines cs : List (Nat × Text)} (h : Content lines cs)
    (hstarts : StartsFilled lines) (hends : EndsFilled lines) (hlen : 2 ≤ cs.length) :
    ∃ l middle l' t inner t', lines = l :: middle ++ [l'] ∧
      cs = (l.1, t) :: inner ++ [(l'.1, t')] ∧ l.2.stripComment = .ok t ∧ t ≠ [] ∧
      l'.2.stripComment = .ok t' ∧ Content middle inner := by
  obtain ⟨l, rest, t, rfl, ht, hne⟩ := hstarts
  obtain ⟨l', front, t', heq, ht', hne'⟩ := hends
  cases front with
  | nil =>
      obtain ⟨rfl, rfl⟩ := List.cons.inj heq
      rw [eq_singleton_of_content ht hne h] at hlen
      simp at hlen
  | cons l'' middle =>
      obtain ⟨rfl, rfl⟩ := List.cons.inj heq
      obtain ⟨first, more, rfl, hfirst, hmore⟩ := @Content.of_append [l] _ _ h
      obtain ⟨inner, last, rfl, hinner, hlast⟩ := hmore.of_append
      rw [eq_singleton_of_content ht hne hfirst, eq_singleton_of_content ht' hne' hlast]
      exact ⟨l, middle, l', t, inner, t', rfl, rfl, ht, hne, ht', hinner⟩

theorem Construct.Fills.two_le {c : Construct} (hblock : c.isBlock = true) {ts : List Text}
    (h : c.Fills [] ts) : 2 ≤ ts.length := by
  cases h with
  | last h => simp [Construct.ends_block_iff hblock, Construct.blockDepth] at h
  | more _ h =>
      have hpos := List.length_pos_iff.2 h.ne_nil
      simp only [List.length_cons]
      omega

namespace Item

/-- The items between the header and the `end` of a block. -/
def parts (i : Item) : Except Diagnostic (List Item) := do
  list (← i.body) i.construct.parts

/-- Whether an item is another one or stands in it at any depth. -/
inductive Contains : Item → Item → Prop
  | self (i : Item) : Contains i i
  | part {i j k : Item} {js : List Item} : i.construct.isBlock = true → i.parts = .ok js →
      j ∈ js → Contains j k → Contains i k

/-- The lines of a block that hold its header, its body and its `end`. -/
structure BlockLines (i : Item) (first : Nat × Text) (inner : List (Nat × Text))
    (header body : SourceUnit) : Prop where
  readHeader : i.header = .ok header
  headerText : header.text = first.2
  readBody : i.body = .ok body
  content : Content body.numberedLines inner

theorem Holds.exists_blockLines {i : Item} {cs : List (Nat × Text)} (h : i.Holds cs)
    (hblock : i.construct.isBlock = true) (hfills : i.construct.Fills [] (texts cs)) :
    ∃ first inner last header body, cs = first :: inner ++ [last] ∧
      i.BlockLines first inner header body := by
  have hlen : 2 ≤ cs.length := by simpa [texts] using hfills.two_le hblock
  obtain ⟨l, middle, l', t, inner, t', hlines, rfl, ht, hne, -, hinner⟩ :=
    exists_middle_of_content h.content h.starts h.ends hlen
  -- The numbered lines are cut where the lines themselves are.
  have hcut : ∃ line mid line', i.unit.lines = line :: mid ++ [line'] ∧
      l = (i.unit.first, line) ∧ middle = SourceUnit.numberFrom (i.unit.first + 1) mid := by
    unfold SourceUnit.numberedLines at hlines
    cases hall : i.unit.lines with
    | nil =>
        rw [hall] at hlines
        cases hlines
    | cons line rest =>
        rw [hall, SourceUnit.numberFrom, List.cons_append] at hlines
        obtain ⟨rfl, hlines⟩ := List.cons.inj hlines
        rcases List.eq_nil_or_concat rest with rfl | ⟨mid, line', rfl⟩
        · cases middle with
          | nil => cases hlines
          | cons => cases hlines
        · rw [List.concat_eq_append, SourceUnit.numberFrom_append] at hlines
          obtain ⟨-, hlines⟩ := List.cons.inj hlines
          obtain ⟨rfl, -⟩ := List.append_inj' hlines rfl
          exact ⟨line, mid, line', by simp, rfl, rfl⟩
  obtain ⟨line, mid, line', hall, rfl, rfl⟩ := hcut
  refine ⟨_, inner, _, ⟨i.unit.first, [line], t⟩,
    ⟨i.unit.first + 1, mid, [' '].intercalate (texts inner)⟩, rfl, ?_⟩
  constructor
  case readHeader =>
    rw [header, if_pos hblock, SourceUnit.slice_first hall, SourceUnit.ofLines_singleton]
    exact ⟨t, ht, rfl⟩
  case headerText => rfl
  case readBody =>
    have hslice : i.unit.slice 1 (i.unit.lines.length - 1) =
        SourceUnit.ofLines (i.unit.first + 1) mid := by
      simp [SourceUnit.slice, hall]
    rw [body, hslice, SourceUnit.ofLines_eq_ok_iff]
    exact ⟨inner, hinner, rfl⟩
  case content => exact hinner

/-- The parts of a block are read from passages between its first and its last
line. -/
theorem IsRead.parts {candidates : List Construct} {i : Item} {cs : List (Nat × Text)}
    (h : IsRead candidates i cs) (hblock : i.construct.isBlock = true) {js : List Item}
    (hjs : i.parts = .ok js) : ∃ first css last, cs = first :: css.flatten ++ [last] ∧
      List.Forall₂ (IsRead i.construct.parts) js css := by
  obtain ⟨first, inner, last, header, body, rfl, hlines⟩ :=
    h.holds.exists_blockLines hblock h.passage.fills
  rw [Item.parts, hlines.readBody, Except.ok_bind] at hjs
  obtain ⟨css, hcontent, hall⟩ := readsAs_of_list hjs
  obtain rfl := hcontent.unique hlines.content
  exact ⟨first, css, last, rfl, hall⟩

/-- What an item contains was read from a part of its content. -/
theorem IsRead.contains {candidates : List Construct} {i j : Item} {cs : List (Nat × Text)}
    (h : IsRead candidates i cs) (hlast : Construct.BlocksLast candidates)
    (hij : i.Contains j) : ∃ candidates' ds, IsRead candidates' j ds ∧
      Construct.BlocksLast candidates' ∧ ds <:+: cs := by
  induction hij generalizing candidates cs with
  | self => exact ⟨candidates, cs, h, hlast, List.infix_rfl⟩
  | @part i j k js hblock hjs hj _ ih =>
      obtain ⟨first, css, last, rfl, hall⟩ := h.parts hblock hjs
      obtain ⟨ds, hds, hread⟩ := forall₂_exists_of_mem_left hall hj
      obtain ⟨candidates', es, hk, hlast', hes⟩ := ih hread (Construct.blocksLast_parts _)
      exact ⟨candidates', es, hk, hlast',
        (hes.trans (List.infix_of_mem_flatten hds)).trans ⟨[first], [last], rfl⟩⟩

/-- Different passages have no line in common. -/
theorem eq_of_common_line {candidates : List Construct} {items : List Item}
    {css : List (List (Nat × Text))} (h : List.Forall₂ (IsRead candidates) items css)
    (hnodup : (css.flatten.map Prod.fst).Nodup) {i j : Item} (hi : i ∈ items) (hj : j ∈ items)
    {cs ds : List (Nat × Text)} (hcs : i.Holds cs) (hds : j.Holds ds) {n : Nat}
    (hn : n ∈ cs.map Prod.fst) (hn' : n ∈ ds.map Prod.fst) : i = j := by
  induction h with
  | nil => cases hi
  | @cons first es items css hfirst hall ih =>
      rw [List.flatten_cons, List.map_append, List.nodup_append] at hnodup
      obtain ⟨-, hrest, hdisjoint⟩ := hnodup
      have hlater {k : Item} {fs : List (Nat × Text)} (hk : k ∈ items) (hfs : k.Holds fs)
          (hn : n ∈ fs.map Prod.fst) : n ∈ css.flatten.map Prod.fst := by
        obtain ⟨gs, hgs, hread⟩ := forall₂_exists_of_mem_left hall hk
        rw [hfs.unique hread.holds] at hn
        exact (List.Sublist.map _ (List.infix_of_mem_flatten hgs).sublist).subset hn
      rcases List.mem_cons.1 hi with rfl | hlateri
      · rcases List.mem_cons.1 hj with rfl | hlaterj
        · rfl
        · rw [hcs.unique hfirst.holds] at hn
          exact absurd rfl (hdisjoint n hn n (hlater hlaterj hds hn'))
      · rcases List.mem_cons.1 hj with rfl | hlaterj
        · rw [hds.unique hfirst.holds] at hn'
          exact absurd rfl (hdisjoint n hn' n (hlater hlateri hcs hn))
        · exact ih hrest hlateri hlaterj

/-- Of two items with a common line one contains the other. -/
theorem contains_or_contains {candidates : List Construct} {i j k : Item}
    {cs ds es : List (Nat × Text)} (h : IsRead candidates i cs)
    (hnodup : (cs.map Prod.fst).Nodup) (hij : i.Contains j) (hik : i.Contains k)
    (hds : j.Holds ds) (hes : k.Holds es) {n : Nat} (hn : n ∈ ds.map Prod.fst)
    (hn' : n ∈ es.map Prod.fst) : j.Contains k ∨ k.Contains j := by
  induction hij generalizing candidates cs with
  | self => exact .inl hik
  | @part i j' j js hblock hjs hj' hjj ih =>
      cases hik with
      | self => exact .inr (.part hblock hjs hj' hjj)
      | @part _ k' _ js' _ hjs' hk' hkk =>
          rw [hjs] at hjs'
          cases hjs'
          obtain ⟨first, css, last, rfl, hall⟩ := h.parts hblock hjs
          -- Both lie in parts of the same block, and the common line is in one part only.
          have hinner : (css.flatten.map Prod.fst).Nodup := by
            refine hnodup.sublist (List.Sublist.map _ ?_)
            exact (List.sublist_cons_self _ _).trans (List.sublist_append_left _ _)
          obtain ⟨fs, hfs, hreadj⟩ := forall₂_exists_of_mem_left hall hj'
          obtain ⟨gs, hgs, hreadk⟩ := forall₂_exists_of_mem_left hall hk'
          have hlast := Construct.blocksLast_parts i.construct
          obtain ⟨_, ds', hds', -, hinfix⟩ := hreadj.contains hlast hjj
          obtain ⟨_, es', hes', -, hinfix'⟩ := hreadk.contains hlast hkk
          rw [hds.unique hds'.holds] at hn
          rw [hes.unique hes'.holds] at hn'
          have hsame := eq_of_common_line hall hinner hj' hk' hreadj.holds hreadk.holds
            ((List.Sublist.map _ hinfix.sublist).subset hn)
            ((List.Sublist.map _ hinfix'.sublist).subset hn')
          subst hsame
          refine ih hreadj (hinner.sublist ?_) hkk hds
          exact List.Sublist.map _ (List.infix_of_mem_flatten hfs).sublist

end Item

end Overlay
