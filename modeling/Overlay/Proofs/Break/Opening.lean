import Overlay.Proofs.Outline.Block
import Overlay.Proofs.Text.Depth

/-!
First lines and brackets. Whether a line begins a construct that is no block is
decided before anything that follows its first opening bracket is seen.
-/

namespace Overlay

namespace Text

theorem isWord_of_opens {o : Char} (ho : (closer? o).isSome = true) : isWord o = false := by
  obtain ⟨c, hc⟩ := Option.isSome_iff_exists.1 ho
  rcases closer?_eq_some_iff.1 hc with ⟨rfl, -⟩ | ⟨rfl, -⟩
  · decide
  · decide

theorem isBlank_of_opens {o : Char} (ho : (closer? o).isSome = true) : isBlank o = false := by
  obtain ⟨c, hc⟩ := Option.isSome_iff_exists.1 ho
  exact (isBlank_of_closer? hc).1

section

variable {o : Char} (ho : (closer? o).isSome = true)

include ho

theorem dropBlank_append_open (u v : Text) : dropBlank (u ++ o :: v) = dropBlank u ++ o :: v := by
  induction u with
  | nil => exact dropBlank_of_startsSolid (startsSolid_cons.2 (isBlank_of_opens ho))
  | cons c u ih =>
      cases hc : isBlank c with
      | true => simpa [dropBlank, hc] using ih
      | false => simp [dropBlank, hc]

theorem spanWord_append_open (u v : Text) :
    spanWord (u ++ o :: v) = (u.spanWord.1, u.spanWord.2 ++ o :: v) := by
  induction u with
  | nil => simp [spanWord, isWord_of_opens ho]
  | cons c u ih =>
      simp only [spanWord, Prod.mk.injEq] at ih ⊢
      cases hc : isWord c with
      | true => simp [hc, ih]
      | false => simp [hc]

theorem leadingName?_append_open (u v : Text) : leadingName? (u ++ o :: v) =
    (leadingName? u).map fun p => (p.1, p.2 ++ o :: v) := by
  unfold leadingName?
  rw [spanWord_append_open ho]
  obtain ⟨name, rest⟩ := u.spanWord
  cases name with
  | nil => rfl
  | cons c name => rfl

theorem dropPrefix?_append_open {p : Text} (hp : ∀ c ∈ p, closer? c = none) (u v : Text) :
    dropPrefix? p (u ++ o :: v) = (dropPrefix? p u).map (· ++ o :: v) := by
  induction p generalizing u with
  | nil => cases u <;> rfl
  | cons c p ih =>
      have hne : c ≠ o := by
        rintro rfl
        rw [hp c List.mem_cons_self] at ho
        cases ho
      cases u with
      | nil => simp [dropPrefix?, hne]
      | cons d u =>
          by_cases hcd : c = d
          · simpa [dropPrefix?, hcd] using ih (fun e he => hp e (List.mem_cons_of_mem c he)) u
          · simp [dropPrefix?, hcd]

theorem nameThen?_append_open {mark : Text} (hmark : ∀ c ∈ mark, closer? c = none) (u v : Text) :
    nameThen? mark (u ++ o :: v) = (nameThen? mark u).map fun p => (p.1, p.2 ++ o :: v) := by
  simp only [nameThen?, leadingName?_append_open ho, Option.bind_eq_bind]
  cases u.leadingName? with
  | none => rfl
  | some p =>
      simp only [Option.map_some, Option.bind_some, dropBlank_append_open ho,
        dropPrefix?_append_open ho hmark]
      cases dropPrefix? mark p.2.dropBlank with
      | none => rfl
      | some rest => rfl

theorem afterBlanks?_append_open (u v : Text) :
    afterBlanks? (u ++ o :: v) = (afterBlanks? u).map (· ++ o :: v) := by
  cases u with
  | nil => simp [afterBlanks?, isBlank_of_opens ho]
  | cons c u =>
      have hdrop := dropBlank_append_open ho (c :: u) v
      rw [List.cons_append] at hdrop ⊢
      cases hc : isBlank c with
      | true => simp [afterBlanks?, hc, hdrop]
      | false => simp [afterBlanks?, hc]

/-- A pattern that has no bracket before its last character is found, or not,
before anything after a bracket is seen. -/
theorem isPrefixOf_append_open {q : Text} (hq : ∀ c ∈ q.dropLast, closer? c = none)
    (w v v' : Text) : q.isPrefixOf (w ++ o :: v) = q.isPrefixOf (w ++ o :: v') := by
  induction w generalizing q with
  | nil =>
      match q, hq with
      | [], _ => rfl
      | [c], _ => simp [List.isPrefixOf]
      | c :: d :: q, hq =>
          have hne : (c == o) = false := by
            rw [beq_eq_false_iff_ne]
            rintro rfl
            rw [hq c (by simp)] at ho
            cases ho
          simp [List.isPrefixOf, hne]
  | cons e w ih =>
      match q, hq with
      | [], _ => rfl
      | [c], _ => simp [List.isPrefixOf]
      | c :: d :: q, hq =>
          have hrest : ∀ c ∈ (d :: q).dropLast, closer? c = none :=
            fun f hf => hq f (List.mem_cons_of_mem c hf)
          have hih := ih hrest
          rw [List.cons_append, List.cons_append, List.isPrefixOf_cons_cons,
            List.isPrefixOf_cons_cons, hih]

theorem isSome_nameThen?_open (u v v' : Text) : (nameThen? ['('] (u ++ o :: v)).isSome =
    (nameThen? ['('] (u ++ o :: v')).isSome := by
  simp only [nameThen?, leadingName?_append_open ho, Option.bind_eq_bind]
  cases u.leadingName? with
  | none => rfl
  | some p =>
      simp only [Option.map_some, Option.bind_some, dropBlank_append_open ho]
      cases p.2.dropBlank with
      | nil =>
          by_cases heq : '(' = o
          · subst heq
            simp [dropPrefix?]
          · simp [dropPrefix?, heq]
      | cons c w =>
          by_cases heq : '(' = c
          · subst heq
            simp [dropPrefix?]
          · simp [dropPrefix?, heq]

theorem isMethodCall_append_open (u v v' : Text) :
    isMethodCall (u ++ o :: v) = isMethodCall (u ++ o :: v') := by
  simp only [isMethodCall, nameThen?_append_open ho (show ∀ c ∈ ['.'], closer? c = none by decide)]
  cases nameThen? ['.'] u with
  | none => rfl
  | some p =>
      simp only [Option.map_some, Option.bind_some, dropBlank_append_open ho]
      exact isSome_nameThen?_open ho _ v v'

end

end Text

namespace Construct

open Text

section

variable {o : Char} (ho : (closer? o).isSome = true)

include ho

theorem opensEndpoint_append_open {word : Text} (hword : ∀ c ∈ word, closer? c = none)
    (u v : Text) : opens.opensEndpoint (u ++ o :: v) word = opens.opensEndpoint u word := by
  simp only [opens.opensEndpoint, dropPrefix?_append_open ho hword]
  cases dropPrefix? word u with
  | none => rfl
  | some rest =>
      simp only [Option.map_some, Option.bind_some, afterBlanks?_append_open ho]
      cases rest.afterBlanks? with
      | none => rfl
      | some rest => simp [leadingName?_append_open ho]

theorem opens_service_append_open (u v : Text) :
    opens .service (u ++ o :: v) = opens .service u := by
  simp only [opens, dropPrefix?_append_open ho (show ∀ c ∈ ['@'], closer? c = none by decide)]
  cases dropPrefix? ['@'] u with
  | none => rfl
  | some rest => simp [nameThen?_append_open ho (show ∀ c ∈ [':'], closer? c = none by decide)]

theorem opens_trigger_append_open (u v : Text) :
    opens .trigger (u ++ o :: v) = opens .trigger u := by
  have hplus : o ≠ '+' := by
    rintro rfl
    cases ho
  have hminus : o ≠ '-' := by
    rintro rfl
    cases ho
  simp only [opens, nameThen?_append_open ho (show ∀ c ∈ ['<'], closer? c = none by decide)]
  cases nameThen? ['<'] u with
  | none => rfl
  | some p =>
      obtain ⟨name, rest⟩ := p
      cases rest with
      | nil => simp [hplus, hminus]
      | cons d rest =>
          by_cases hd : d = '+'
          · subst hd
            rfl
          · by_cases hd' : d = '-'
            · subst hd'
              rfl
            · simp [hd, hd']

/-- The bracket of the call belongs to what a merge begins with. -/
theorem opens_merge_append_open (u v v' : Text) :
    opens .merge (u ++ o :: v) = opens .merge (u ++ o :: v') := by
  have harrow : ∀ c ∈ ['<', '~'], closer? c = none := by decide
  simp only [opens, nameThen?_append_open ho harrow]
  cases nameThen? ['<', '~'] u with
  | none => rfl
  | some p =>
      simp only [Option.map_some, dropBlank_append_open ho]
      have hmerge : ∀ c ∈ "merge(".toList.dropLast, closer? c = none := by decide
      have hjoin : ∀ c ∈ "join(".toList.dropLast, closer? c = none := by decide
      rw [isPrefixOf_append_open ho hmerge _ v v', isPrefixOf_append_open ho hjoin _ v v']

/-- What follows an opening bracket in a line has no part in the decision. -/
theorem opens_append_open {c : Construct} (hleaf : c.isBlock = false) (u v v' : Text) :
    c.opens (u ++ o :: v) = c.opens (u ++ o :: v') := by
  cases c with
  | stateBlock => cases hleaf
  | bloomBlock => cases hleaf
  | eventBlock => cases hleaf
  | service => rw [opens_service_append_open ho, opens_service_append_open ho]
  | scratch =>
      have hword : ∀ c ∈ "scratch".toList, closer? c = none := by decide
      exact (opensEndpoint_append_open ho hword u v).trans
        (opensEndpoint_append_open ho hword u v').symm
  | channel =>
      have hword : ∀ c ∈ "channel".toList, closer? c = none := by decide
      exact (opensEndpoint_append_open ho hword u v).trans
        (opensEndpoint_append_open ho hword u v').symm
  | transmission =>
      have harrow : ∀ c ∈ ['<', '~'], closer? c = none := by decide
      simp only [opens, nameThen?_append_open ho harrow, Option.isSome_map,
        isMethodCall_append_open ho u v v']
  | trigger => rw [opens_trigger_append_open ho, opens_trigger_append_open ho]
  | merge => exact opens_merge_append_open ho u v v'

end

/-- The choice among candidates is the same for lines that begin the same
constructs, blocks aside, if the blocks are tried last. -/
theorem find?_opens_congr {candidates : List Construct} (hlast : BlocksLast candidates)
    {t t' : Text} (hopens : ∀ c : Construct, c.isBlock = false → c.opens t = c.opens t')
    {c : Construct} (hleaf : c.isBlock = false)
    (h : candidates.find? (·.opens t) = some c) : candidates.find? (·.opens t') = some c := by
  induction candidates with
  | nil => cases h
  | cons d candidates ih =>
      obtain ⟨hfirst, hrest⟩ := List.pairwise_cons.1 hlast
      rw [List.find?_cons] at h ⊢
      cases hd : d.opens t with
      | true =>
          rw [hd] at h
          cases h
          rw [← hopens c hleaf, hd]
      | false =>
          rw [hd] at h
          have hd' : d.isBlock = false := by
            cases hblock : d.isBlock with
            | false => rfl
            | true =>
                rw [hfirst c (List.mem_of_find?_eq_some h) hblock] at hleaf
                cases hleaf
          rw [← hopens d hd', hd]
          exact ih hrest h

end Construct

end Overlay
