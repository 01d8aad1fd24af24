import Overlay.Proofs.Break.Description
import Overlay.Proofs.Break.Place

/-!
Line breaks inside of brackets. A space that stands inside of a declaration or a
rule, in an open bracket, may become a line feed, and the code stays the same,
unless the blocks around it are counted otherwise: a half of the line may be
`end`, or end in `do`, where the line did not.
-/

namespace Overlay

open Text

namespace Construct

/-- In a unit that is read at top level, as many blocks are closed as opened. -/
theorem rises_of_list {u : SourceUnit} {items : List Item} {cs : List (Nat × Text)}
    (h : Item.list u topLevel = .ok items) (hcs : Content u.numberedLines cs) :
    rises (texts cs) = 0 := by
  obtain ⟨css, hcontent, hall⟩ := Item.readsAs_of_list h
  obtain rfl := hcs.unique hcontent
  clear hcontent hcs h
  induction hall with
  | nil => rfl
  | @cons i cs items css hfirst _ ih =>
      have hne : cs ≠ [] := fun hnil =>
        hfirst.passage.fills.ne_nil (texts_eq_nil_iff.2 hnil)
      obtain ⟨c, cs, rfl⟩ := List.exists_cons_of_ne_nil hne
      have hbegins := hfirst.passage.begins
      have hblock : i.construct.isBlock = true := by
        have hall : ∀ d ∈ topLevel, d.isBlock = true := by decide
        exact hall _ (List.mem_of_find?_eq_some hbegins)
      have hopens := List.find?_some hbegins
      have hclosed : rises (c.2 :: texts cs) = 0 :=
        rises_of_fills hblock (isHeader_of_opens hblock hopens) hfirst.passage.fills
      rw [List.flatten_cons, texts_append, rises_append, ih, texts_cons, hclosed]
      rfl

theorem rises_filled (cs : List (Nat × Text)) : rises (texts (filled cs)) = rises (texts cs) := by
  induction cs with
  | nil => rfl
  | cons c cs ih =>
      obtain ⟨n, t⟩ := c
      cases t with
      | nil => simpa [filled] using ih
      | cons d t => simpa [filled] using ih

end Construct

namespace Content

theorem exists_stripComment {lines cs : List (Nat × Text)} (h : Content lines cs) :
    ∀ l ∈ lines, ∃ t, l.2.stripComment = .ok t := by
  induction h with
  | nil => nofun
  | blank hblank _ ih => exact List.forall_mem_cons.2 ⟨⟨_, hblank⟩, ih⟩
  | line hline _ _ ih => exact List.forall_mem_cons.2 ⟨⟨_, hline⟩, ih⟩

end Content

namespace LineBreak

/-- The line that is cut when the space between two parts of a text becomes a
line feed. -/
def between (pre post : Text) : LineBreak where
  number := pre.lineNumber
  whole := trim (pre.lastLine ++ ' ' :: beforeComment post.firstLine)
  front := pre.lastLine.trim
  back := (beforeComment post.firstLine).trim

theorem halves_between (pre post : Text) :
    Halves (between pre post).whole (between pre post).front (between pre post).back :=
  halves_trim (exists_lastLine pre).1
    fun hmem => lineFeed_not_mem_firstLine post (mem_of_mem_beforeCommentFrom hmem)

/-- A cut line changes the balance of blocks by what its halves differ. -/
theorem rises_apply {k : LineBreak} {xs ys : List (Nat × Text)} (h : k.Around xs ys)
    (hhalves : Halves k.whole k.front k.back) :
    Construct.rises (texts (k.apply (xs ++ Overlay.filled [(k.number, k.whole)] ++ ys))) +
        Construct.rise k.whole =
      Construct.rises (texts (xs ++ Overlay.filled [(k.number, k.whole)] ++ ys)) +
        (Construct.rise k.front + Construct.rise k.back) := by
  have happly : Construct.rises (texts (k.apply (Overlay.filled [(k.number, k.whole)]))) =
      Construct.rise k.front + Construct.rise k.back := by
    rw [apply_filled hhalves, halves, Construct.rises_filled]
    simp
  simp only [apply_append, texts_append, Construct.rises_append, happly,
    texts_apply h.not_mem_before, texts_apply h.not_mem_after, Construct.rises_filled]
  simp
  omega

end LineBreak

/-- The content of a text before and after a space in it became a line feed. -/
theorem LineBreak.exists_content_lineFeed {pre post : Text} {docs : List (Nat × Text)}
    {ts : List Token} (houtside : pre.lastLine.IsOutside) (hts : Quoted pre.lastLine ts)
    (hdocs : Content (SourceUnit.numberFrom 1 (pre ++ ' ' :: post).lines) docs) :
    ∃ xs ys, (between pre post).Around xs ys ∧
      docs = xs ++ Overlay.filled [((between pre post).number, (between pre post).whole)] ++ ys ∧
      Content (SourceUnit.numberFrom 1 (pre ++ '\n' :: post).lines)
        ((between pre post).apply docs) := by
  obtain ⟨before, hnumber, hlines⟩ := exists_lines_append pre
  have hnumber' : 1 + before.length = (between pre post).number := by
    rw [Nat.add_comm]
    exact hnumber
  have hline := (exists_lastLine pre).1
  have hdocs' := hdocs
  rw [hlines, lines_space hline] at hdocs'
  have hmem : (1 + before.length, pre.lastLine ++ ' ' :: post.firstLine) ∈
      SourceUnit.numberFrom 1
        (before ++ (pre.lastLine ++ ' ' :: post.firstLine) :: post.lines.tail) := by
    rw [SourceUnit.numberFrom_append, SourceUnit.numberFrom]
    simp
  obtain ⟨whole, hwhole⟩ := hdocs'.exists_stripComment _ hmem
  obtain ⟨rfl, hback⟩ := houtside.stripComment_space hts hwhole
  have hfront := houtside.stripComment_dropReturn hts
  obtain ⟨xs, ys, hsplit, haround, -, -⟩ :=
    @Content.exists_around (between pre post) 1 before _ _ docs hnumber' hwhole hdocs'
  refine ⟨xs, ys, haround, hsplit, ?_⟩
  rw [hlines, lines_lineFeed hline]
  exact content_apply hnumber' hwhole hfront hback (halves_between pre post) hdocs'

namespace Item

/-- At a place inside of an item all literals of its line are closed. -/
theorem OpenAt.exists_quoted {i : Item} {pre : Text} (h : i.OpenAt pre) :
    ∃ ts, Quoted pre.lastLine ts ∧ pre.lastLine.stripComment = .ok pre.lastLine.trim := by
  obtain ⟨u, depth, hu, -⟩ := h.bracket
  obtain ⟨cs, hcs, -⟩ := SourceUnit.ofLines_eq_ok_iff.1 hu
  rw [SourceUnit.numberFrom_append] at hcs
  obtain ⟨t, ht⟩ := hcs.exists_stripComment _ (List.mem_append_right _ List.mem_cons_self)
  have hall := h.outside.append []
  rw [List.append_nil, show beforeComment [] = [] from rfl, List.append_nil] at hall
  obtain ⟨ts, hts, rfl⟩ := stripComment_eq_ok_iff.1 ht
  rw [hall] at hts ht
  exact ⟨ts, hts, ht⟩

end Item

namespace Code

theorem compile_eq_ok_iff {overlay t : Text} {code : Code} : compile overlay t = .ok code ↔
    ∃ d, Description.ofText t = .ok d ∧ ofDescription overlay d = code := Except.map_eq_ok_iff

/-- A space inside of brackets may become a line feed just if the halves of its
line open and close as many blocks as the line does. -/
theorem compile_lineFeed_iff_keepsBlocks {overlay pre post : Text} {code : Code} {i : Item}
    (h : compile overlay (pre ++ ' ' :: post) = .ok code)
    (hi : i.StandsIn (pre ++ ' ' :: post)) (hopen : i.OpenAt pre) :
    compile overlay (pre ++ '\n' :: post) = .ok code ↔
      (LineBreak.between pre post).KeepsBlocks := by
  obtain ⟨u, items, top, hu, hitems, htop, hcontains⟩ := hi
  obtain ⟨ts, hts, hfront⟩ := hopen.exists_quoted
  obtain ⟨docs, hdocs, rfl⟩ := SourceUnit.ofLines_eq_ok_iff.1 hu
  obtain ⟨xs, ys, haround, hsplit, hdocs'⟩ :=
    LineBreak.exists_content_lineFeed hopen.outside hts hdocs
  have hhalves := LineBreak.halves_between pre post
  -- The two texts have the same content but for this line, so they differ by one cut.
  generalize hk : LineBreak.between pre post = k at *
  have hnumber : k.number = pre.lineNumber := by rw [← hk]; rfl
  have hu' := SourceUnit.ofLines_eq_ok_iff.2 ⟨_, hdocs', rfl⟩
  have hzero := Construct.rises_of_list hitems hdocs
  -- All blocks of a text that is read are closed at its end, which fixes the balance.
  obtain ⟨d, hd, rfl⟩ := compile_eq_ok_iff.1 h
  constructor
  · intro h'
    obtain ⟨d', hd', -⟩ := compile_eq_ok_iff.1 h'
    simp only [Description.ofText, Except.bind_eq_ok_iff] at hd'
    obtain ⟨u', hread, items', hitems', -⟩ := hd'
    obtain rfl := Except.ok.inj (hu'.symm.trans hread)
    have hzero' := Construct.rises_of_list hitems' hdocs'
    have hbalance := LineBreak.rises_apply haround hhalves
    rw [← hsplit, hzero, hzero'] at hbalance
    rw [LineBreak.KeepsBlocks]
    omega
  · intro hblocks
    have hfits : ∀ j ∈ items, j.Fits k := by
      obtain ⟨css, hcontent, hall⟩ := Item.readsAs_of_list hitems
      obtain rfl := hcontent.unique hdocs
      by_cases hne : k.whole = []
      · refine Item.fits_of_not_mem hall ?_
        rw [hsplit, hne, List.map_append, List.map_append, List.mem_append, List.mem_append]
        rintro ((hmem | hmem) | hmem)
        · exact haround.not_mem_before hmem
        · cases hmem
        · exact haround.not_mem_after hmem
      · refine hopen.fits hall (SourceUnit.sorted_numbers hdocs) htop hcontains hnumber ?_ hne ?_
        · rw [← hk]
          exact hfront
        · rw [hsplit]
          simp [filled, hne]
    have hcut : Item.CutTo k ⟨1, (pre ++ ' ' :: post).lines, [' '].intercalate (texts docs)⟩
        ⟨1, (pre ++ '\n' :: post).lines, [' '].intercalate (texts (k.apply docs))⟩ :=
      fun cs hcs => hcs.unique hdocs ▸ hdocs'
    obtain ⟨d', hd', hmoved⟩ :=
      Description.ofText_of_cutTo ⟨hhalves, hblocks⟩ hu hu' hcut hitems hfits hd
    exact compile_eq_ok_iff.2 ⟨d', hd', ofDescription_of_moved hmoved overlay⟩

/-- The start of a description, up to a place inside of the brackets of its only
rule. The name that stands before the place closes a block if it stands alone. -/
def beforeEnd : Text := "state do
@a: discovery()
scratch s: @a
channel c: @a
end
bloom do
c <~ s.select(x,
end".toList

/-- The rest of the description. -/
def afterEnd : Text := ", y)
end".toList

def selection : Item :=
  ⟨.transmission, 7, ["c <~ s.select(x,".toList, "end , y)".toList],
    "c <~ s.select(x, end , y)".toList⟩

def selectionBlock : Item :=
  ⟨.bloomBlock, 6, ["bloom do".toList, "c <~ s.select(x,".toList, "end , y)".toList, "end".toList],
    "bloom do c <~ s.select(x, end , y) end".toList⟩

theorem standsIn_selection : selection.StandsIn (beforeEnd ++ ' ' :: afterEnd) := by
  -- A list of characters costs the kernel less than the literal it comes from.
  rw [show beforeEnd = _ from String.toList_ofList]
  exact @Item.standsIn_of_part _ selection selectionBlock rfl (by decide +kernel)
    (by decide +kernel)

theorem exists_code_selection : ∃ code, compile [] (beforeEnd ++ ' ' :: afterEnd) = .ok code := by
  have hok : (compile [] (beforeEnd ++ ' ' :: afterEnd)).toOption.isSome = true := by
    rw [show beforeEnd = _ from String.toList_ofList]
    decide +kernel
  exact Except.exists_ok_of_isSome hok

/-- The space behind the name may not become a line feed, for the name would
close the block in the midst of the rule. -/
theorem lineFeed_closes_block : ∃ code, compile [] (beforeEnd ++ ' ' :: afterEnd) = .ok code ∧
    selection.StandsIn (beforeEnd ++ ' ' :: afterEnd) ∧ selection.OpenAt beforeEnd ∧
    compile [] (beforeEnd ++ '\n' :: afterEnd) ≠ .ok code := by
  obtain ⟨code, hcode⟩ := exists_code_selection
  refine ⟨code, hcode, standsIn_selection, ?_, ?_⟩
  · rw [show beforeEnd = _ from String.toList_ofList]
    exact ⟨rfl, by decide, by decide, by decide, ⟨7, ["c <~ s.select(x,".toList, "end".toList],
      "c <~ s.select(x, end".toList⟩, 0, by decide +kernel, by decide +kernel⟩
  · have herror : (compile [] (beforeEnd ++ '\n' :: afterEnd)).toOption.isSome = false := by
      rw [show beforeEnd = _ from String.toList_ofList]
      decide +kernel
    intro hcode'
    rw [hcode'] at herror
    cases herror

/-- Behind the comma after the name the line may be broken. -/
theorem lineFeed_after_comma : ∃ code,
    compile [] (beforeEnd ++ " ,".toList ++ ' ' :: "y)\nend".toList) = .ok code ∧
    compile [] (beforeEnd ++ " ,".toList ++ '\n' :: "y)\nend".toList) = .ok code := by
  have hsame : beforeEnd ++ ' ' :: afterEnd =
      beforeEnd ++ " ,".toList ++ ' ' :: "y)\nend".toList := by
    rw [List.append_assoc]
    exact congrArg (beforeEnd ++ ·) (by decide +kernel)
  obtain ⟨code, hcode⟩ := exists_code_selection
  have hin := standsIn_selection
  rw [hsame] at hcode hin
  have hopen : selection.OpenAt (beforeEnd ++ " ,".toList) := by
    rw [show beforeEnd = _ from String.toList_ofList]
    exact ⟨rfl, by decide, by decide, by decide, ⟨7, ["c <~ s.select(x,".toList, "end ,".toList],
      "c <~ s.select(x, end ,".toList⟩, 0, by decide +kernel, by decide +kernel⟩
  refine ⟨code, hcode, (compile_lineFeed_iff_keepsBlocks hcode hin hopen).2 ?_⟩
  rw [show beforeEnd = _ from String.toList_ofList]
  decide +kernel

end Code

end Overlay
