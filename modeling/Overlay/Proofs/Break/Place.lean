import Overlay.Proofs.Break.Item

/-!
Places inside of brackets. Where a text stops in the midst of a declaration or a
rule, with a bracket open, a line may be cut: the one item that has the line is
in no block's header or `end`, and it goes on after the place.
-/

namespace Overlay

open Text

namespace Item

/-- Whether an item stands in a text, at any depth. -/
def StandsIn (t : Text) (i : Item) : Prop :=
  ∃ u items j, SourceUnit.ofText t 0 = .ok u ∧ list u Construct.topLevel = .ok items ∧
    j ∈ items ∧ j.Contains i

/-- The items that are found, if there are any. -/
def found (items : Except Diagnostic (List Item)) : List Item := items.toOption.getD []

theorem exists_of_mem_found {items : Except Diagnostic (List Item)} {i : Item}
    (h : i ∈ found items) : ∃ is, items = .ok is ∧ i ∈ is := by
  cases items with
  | error e => cases h
  | ok is => exact ⟨is, rfl, h⟩

theorem standsIn_of_part {t : Text} {i j : Item} (hblock : j.construct.isBlock = true)
    (hj : j ∈ found (SourceUnit.ofText t 0 >>= fun u => list u Construct.topLevel))
    (hi : i ∈ found j.parts) : i.StandsIn t := by
  obtain ⟨items, hitems, hj⟩ := exists_of_mem_found hj
  obtain ⟨u, hu, hitems⟩ := Except.bind_eq_ok_iff.1 hitems
  obtain ⟨parts, hparts, hi⟩ := exists_of_mem_found hi
  exact ⟨u, items, j, hu, hitems, hj, .part hblock hparts hi (.self i)⟩

/-- The part of an item that stands before a place on one of its lines. All that
comes before the place, from the start of the text on, is `pre`. -/
def upTo (i : Item) (pre : Text) : Except Diagnostic SourceUnit :=
  SourceUnit.ofLines i.unit.first
    (i.unit.lines.take (pre.lineNumber - i.unit.first) ++ [pre.lastLine])

/-- Whether a place lies inside an item that is no block, outside of literals
and comments, and a bracket is open there. -/
structure OpenAt (i : Item) (pre : Text) : Prop where
  leaf : i.construct.isBlock = false
  first_le : i.unit.first ≤ pre.lineNumber
  lt_last : pre.lineNumber < i.unit.first + i.unit.lines.length
  outside : pre.lastLine.IsOutside
  bracket : ∃ u depth, i.upTo pre = .ok u ∧ bracketDepth u.text = .ok (depth + 1)

theorem eq_of_leaf_contains {i j : Item} (hleaf : i.construct.isBlock = false)
    (h : i.Contains j) : j = i := by
  cases h with
  | self => rfl
  | part hblock _ _ _ =>
      rw [hleaf] at hblock
      cases hblock

/-! The first and the last line of an item. -/

theorem Holds.exists_first {i : Item} {cs : List (Nat × Text)} (h : i.Holds cs) :
    ∃ t rest, cs = (i.unit.first, t) :: rest := by
  obtain ⟨l, rest, t, heq, ht, hne⟩ := h.starts
  have hcontent := h.content
  rw [heq] at hcontent
  have hl : l.1 = i.unit.first := by
    unfold SourceUnit.numberedLines at heq
    cases hlines : i.unit.lines with
    | nil =>
        rw [hlines] at heq
        cases heq
    | cons line lines =>
        rw [hlines] at heq
        rw [← (List.cons.inj heq).1]
  obtain ⟨ds, ds', rfl, hds, -⟩ := @Content.of_append [l] _ _ hcontent
  rw [eq_singleton_of_content ht hne hds, hl]
  exact ⟨t, ds', rfl⟩

theorem Holds.exists_last {i : Item} {cs : List (Nat × Text)} (h : i.Holds cs) :
    ∃ n t front, cs = front ++ [(n, t)] ∧ n + 1 = i.unit.first + i.unit.lines.length := by
  obtain ⟨l, front, t, heq, ht, hne⟩ := h.ends
  have hcontent := h.content
  rw [heq] at hcontent
  have hl : l.1 + 1 = i.unit.first + i.unit.lines.length := by
    unfold SourceUnit.numberedLines at heq
    rcases List.eq_nil_or_concat i.unit.lines with hnil | ⟨lines, line, hlines⟩
    · rw [hnil] at heq
      simp [SourceUnit.numberFrom] at heq
    · rw [hlines, List.concat_eq_append, SourceUnit.numberFrom_append] at heq
      obtain ⟨-, hlast⟩ := List.append_inj' heq rfl
      rw [← (List.cons.inj hlast).1, hlines]
      simp
      omega
  obtain ⟨ds, ds', rfl, -, hds'⟩ := hcontent.of_append
  rw [eq_singleton_of_content ht hne hds']
  exact ⟨l.1, t, ds, rfl, hl⟩

end Item

namespace LineBreak

variable {k : LineBreak} {docs xs ys : List (Nat × Text)}

/-- A part of sorted content that has the line has it between what stands before
it and what stands after it. -/
theorem around_of_infix (hsorted : (docs.map Prod.fst).Pairwise (· < ·))
    (hmem : (k.number, k.whole) ∈ docs) {t : Text}
    (h : (xs ++ (k.number, t) :: ys) <:+: docs) : t = k.whole ∧ k.Around xs ys := by
  have hpart := hsorted.sublist (List.Sublist.map Prod.fst h.sublist)
  rw [List.map_append, List.map_cons, List.pairwise_append, List.pairwise_cons] at hpart
  obtain ⟨-, ⟨hafter, -⟩, hbefore⟩ := hpart
  refine ⟨?_, ⟨fun c hc => ?_, fun c hc => hafter c.1 (List.mem_map_of_mem hc)⟩⟩
  · have hnodup : (docs.map Prod.fst).Nodup := hsorted.imp fun hlt => Nat.ne_of_lt hlt
    have hmem' : (k.number, t) ∈ docs := h.sublist.subset (by simp)
    exact congrArg Prod.snd (List.inj_on_of_nodup_map hnodup hmem' hmem rfl)
  · exact hbefore c.1 (List.mem_map_of_mem hc) k.number List.mem_cons_self

theorem Around.filter_lt (h : k.Around xs ys) (t : Text) :
    (xs ++ (k.number, t) :: ys).filter (fun c => c.1 < k.number) = xs := by
  rw [List.filter_append, List.filter_eq_self.2 fun c hc => by simpa using h.before c hc]
  have hnone : ((k.number, t) :: ys).filter (fun c => c.1 < k.number) = [] := by
    rw [List.filter_eq_nil_iff]
    intro c hc
    rcases List.mem_cons.1 hc with rfl | hc
    · simp
    · have hlt := h.after c hc
      simp
      omega
  rw [hnone, List.append_nil]

end LineBreak

namespace Item

variable {k : LineBreak} {i : Item} {pre : Text}

/-- What an item holds before a place. -/
theorem Holds.text_upTo {xs ys : List (Nat × Text)} {t : Text}
    (h : i.Holds (xs ++ (k.number, t) :: ys)) (haround : k.Around xs ys)
    (hnumber : k.number = pre.lineNumber) (hopen : i.OpenAt pre)
    (hfront : pre.lastLine.stripComment = .ok k.front) {u : SourceUnit} (hu : i.upTo pre = .ok u) :
    u.text = [' '].intercalate (texts (xs ++ filled [(k.number, k.front)])) := by
  have hfirst := hopen.first_le
  have hlast := hopen.lt_last
  rw [upTo, SourceUnit.ofLines_eq_ok_iff] at hu
  obtain ⟨zs, hzs, rfl⟩ := hu
  generalize hsize : pre.lineNumber - i.unit.first = size at hzs
  have hlen : (i.unit.lines.take size).length = size := by
    rw [List.length_take]
    omega
  rw [SourceUnit.numberFrom_append, hlen] at hzs
  obtain ⟨before, at', rfl, hbefore, hat⟩ := hzs.of_append
  have hnumber' : i.unit.first + size = k.number := by omega
  rw [hnumber'] at hat
  rw [hat.unique (Content.of_stripComment hfront k.number)]
  -- The content of the item is cut at the same line.
  have hcontent := h.content
  rw [SourceUnit.numberedLines, ← List.take_append_drop size i.unit.lines,
    SourceUnit.numberFrom_append, hlen, hnumber'] at hcontent
  obtain ⟨before', after, heq, hbefore', hafter⟩ := hcontent.of_append
  obtain rfl := hbefore.unique hbefore'
  have hxs := haround.filter_lt t
  have hlt : before.filter (fun c => c.1 < k.number) = before := by
    rw [List.filter_eq_self]
    intro c hc
    obtain ⟨-, hlt⟩ := hbefore.number_mem hc
    simp
    omega
  have hge : after.filter (fun c => c.1 < k.number) = [] := by
    rw [List.filter_eq_nil_iff]
    intro c hc
    obtain ⟨hle, -⟩ := hafter.number_mem hc
    simp
    omega
  rw [heq, List.filter_append, hlt, hge, List.append_nil] at hxs
  rw [hxs]

/-- An item that is no block may be cut where a bracket is open in it. -/
theorem OpenAt.fitsAt {xs ys : List (Nat × Text)} (hopen : i.OpenAt pre)
    (h : i.Holds (xs ++ (k.number, k.whole) :: ys)) (haround : k.Around xs ys)
    (hnumber : k.number = pre.lineNumber) (hfront : pre.lastLine.stripComment = .ok k.front)
    (hne : k.whole ≠ []) : k.FitsAt i.construct xs ys where
  around := haround
  filled := hne
  inner := fun hblock => by
    rw [hopen.leaf] at hblock
    cases hblock
  bracket := fun _ hne => by
    obtain ⟨u, depth, hu, hdepth⟩ := hopen.bracket
    rw [h.text_upTo haround hnumber hopen hfront hu] at hdepth
    exact ⟨depth, by simpa [Overlay.filled, hne] using hdepth⟩

/-- An item has the line on which a place inside of it lies. -/
theorem OpenAt.number_mem {docs cs : List (Nat × Text)} (hopen : i.OpenAt pre) (h : i.Holds cs)
    (hdocs : cs <:+: docs) (hsorted : (docs.map Prod.fst).Pairwise (· < ·))
    (hmem : pre.lineNumber ∈ docs.map Prod.fst) : pre.lineNumber ∈ cs.map Prod.fst := by
  obtain ⟨t, rest, hfirst⟩ := h.exists_first
  obtain ⟨n, t', front, hlast, hn⟩ := h.exists_last
  have hle := hopen.first_le
  have hlt := hopen.lt_last
  obtain ⟨before, after, rfl⟩ := hdocs
  rw [List.map_append, List.map_append, List.pairwise_append, List.pairwise_append] at hsorted
  obtain ⟨⟨-, -, hbefore⟩, -, hafter⟩ := hsorted
  rw [List.map_append, List.map_append, List.mem_append, List.mem_append] at hmem
  rcases hmem with (hmem | hmem) | hmem
  · have hlower := hbefore _ hmem i.unit.first (by rw [hfirst]; simp)
    omega
  · exact hmem
  · have hupper := hafter n (by rw [hlast]; simp) _ hmem
    omega

/-- A line that holds nothing is in no item. -/
theorem fits_of_not_mem {items : List Item} {css : List (List (Nat × Text))}
    (hall : List.Forall₂ (IsRead Construct.topLevel) items css)
    (hmem : k.number ∉ css.flatten.map Prod.fst) : ∀ j ∈ items, j.Fits k := by
  intro j hj l hjl cs hcs hn
  obtain ⟨ds, hds, hread⟩ := forall₂_exists_of_mem_left hall hj
  obtain ⟨_, cs', hcs', -, hinfix⟩ := hread.contains Construct.blocksLast_topLevel hjl
  obtain rfl := hcs.unique hcs'.holds
  have hdocs := hinfix.trans (List.infix_of_mem_flatten hds)
  exact absurd ((List.Sublist.map _ hdocs.sublist).subset hn) hmem

/-- A block may be cut in a line of one of its parts. -/
theorem IsRead.exists_fitsAt_of_part {candidates : List Construct} {l m : Item} {ms : List Item}
    {cs es docs : List (Nat × Text)} (h : IsRead candidates l cs)
    (hblock : l.construct.isBlock = true) (hms : l.parts = .ok ms) (hm : m ∈ ms)
    (hmi : m.Contains i) (hes : i.Holds es) (hn : k.number ∈ es.map Prod.fst)
    (hsorted : (docs.map Prod.fst).Pairwise (· < ·)) (hmem : (k.number, k.whole) ∈ docs)
    (hdocs : cs <:+: docs) (hne : k.whole ≠ []) :
    ∃ xs ys, cs = xs ++ (k.number, k.whole) :: ys ∧ k.FitsAt l.construct xs ys := by
  obtain ⟨first, mss, last, rfl, hparts⟩ := h.parts hblock hms
  obtain ⟨fs, hfs, hreadm⟩ := forall₂_exists_of_mem_left hparts hm
  obtain ⟨_, es', hes', -, hwithin⟩ := hreadm.contains (Construct.blocksLast_parts _) hmi
  obtain rfl := hes.unique hes'.holds
  have hpart : k.number ∈ mss.flatten.map Prod.fst :=
    (List.Sublist.map _ (hwithin.trans (List.infix_of_mem_flatten hfs)).sublist).subset hn
  obtain ⟨c, hc, hnumber⟩ := List.mem_map.1 hpart
  obtain ⟨xs, ys, hxys⟩ := List.append_of_mem hc
  obtain ⟨number, t⟩ := c
  obtain rfl : number = k.number := hnumber
  have heq : first :: mss.flatten ++ [last] =
      (first :: xs) ++ (k.number, t) :: (ys ++ [last]) := by
    rw [hxys]
    simp
  rw [heq] at hdocs ⊢
  obtain ⟨rfl, haround⟩ := LineBreak.around_of_infix hsorted hmem hdocs
  refine ⟨_, _, rfl, haround, hne, fun _ => ⟨by simp, by simp⟩, fun hleaf => ?_⟩
  rw [hblock] at hleaf
  cases hleaf

/-- A line may be cut inside of brackets, as far as the items of the text go. -/
theorem OpenAt.fits {items : List Item} {css : List (List (Nat × Text))} {top : Item}
    (hopen : i.OpenAt pre)
    (hall : List.Forall₂ (IsRead Construct.topLevel) items css)
    (hsorted : (css.flatten.map Prod.fst).Pairwise (· < ·))
    (htop : top ∈ items) (hcontains : top.Contains i) (hnumber : k.number = pre.lineNumber)
    (hfront : pre.lastLine.stripComment = .ok k.front) (hne : k.whole ≠ [])
    (hmem : (k.number, k.whole) ∈ css.flatten) : ∀ j ∈ items, j.Fits k := by
  intro j hj l hjl cs hcs hn
  have hnodup : (css.flatten.map Prod.fst).Nodup := hsorted.imp fun hlt => Nat.ne_of_lt hlt
  have hlast := Construct.blocksLast_topLevel
  obtain ⟨ds, hds, hread⟩ := forall₂_exists_of_mem_left hall htop
  obtain ⟨_, es, hes, -, hinfix⟩ := hread.contains hlast hcontains
  have hdocs := hinfix.trans (List.infix_of_mem_flatten hds)
  have hn' : k.number ∈ es.map Prod.fst := by
    rw [hnumber]
    refine hopen.number_mem hes.holds hdocs hsorted ?_
    rw [← hnumber]
    exact List.mem_map_of_mem hmem
  obtain ⟨ds', hds', hread'⟩ := forall₂_exists_of_mem_left hall hj
  obtain ⟨_, cs', hcs', -, hinfix'⟩ := hread'.contains hlast hjl
  obtain rfl := hcs.unique hcs'.holds
  have hsame := eq_of_common_line hall hnodup hj htop hread'.holds hread.holds
    ((List.Sublist.map _ hinfix'.sublist).subset hn)
    ((List.Sublist.map _ hinfix.sublist).subset hn')
  subst hsame
  obtain rfl := hread.holds.unique hread'.holds
  have hdocs' := hinfix'.trans (List.infix_of_mem_flatten hds)
  have hinner : (ds.map Prod.fst).Nodup :=
    hnodup.sublist (List.Sublist.map _ (List.infix_of_mem_flatten hds).sublist)
  -- The item with the place has no parts, so any other one with its line contains it.
  have hli : l.Contains i := by
    rcases contains_or_contains hread hinner hjl hcontains hcs hes.holds hn hn' with hli | hil
    · exact hli
    · rw [eq_of_leaf_contains hopen.leaf hil]
      exact .self i
  cases hli with
  | self =>
      obtain ⟨c, hc, hnumber'⟩ := List.mem_map.1 hn
      obtain ⟨xs, ys, rfl⟩ := List.append_of_mem hc
      obtain ⟨number, t⟩ := c
      obtain rfl : number = k.number := hnumber'
      obtain ⟨rfl, haround⟩ := LineBreak.around_of_infix hsorted hmem hdocs'
      exact ⟨xs, ys, rfl, hopen.fitsAt hcs haround hnumber hfront hne⟩
  | @part _ m _ ms hblock hms hm hmi =>
      exact hcs'.exists_fitsAt_of_part hblock hms hm hmi hes.holds hn' hsorted hmem hdocs' hne

end Item

end Overlay
