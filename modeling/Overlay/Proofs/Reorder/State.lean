import Overlay.Proofs.Relocation
import Overlay.Proofs.StateBlock

/-!
Declarations in another order. Their names are distinct, so that what is found
under a name does not depend on the order: two state blocks with the same
declarations pass the same checks, and rules are read alike in both.
-/

namespace Overlay

namespace StateBlock

/-- Whether two blocks have the same declarations, in any order. -/
structure Permuted (s s' : StateBlock) : Prop where
  services : s.services.Perm s'.services
  scratches : s.scratches.Perm s'.scratches
  channels : s.channels.Perm s'.channels

theorem permuted_ofDeclarations {ds ds' : List Declaration} (h : ds.Perm ds') (u u' : SourceUnit) :
    (ofDeclarations ds u).Permuted (ofDeclarations ds' u') :=
  ⟨h.filterMap _, h.filterMap _, h.filterMap _⟩

/-- Under a key that is there once the same is found in any order. -/
theorem find?_eq_of_perm {α : Type} {key : α → Text} {xs ys : List α} (h : xs.Perm ys)
    (hnodup : (xs.map key).Nodup) (k : Text) :
    ys.find? (fun y => key y = k) = xs.find? (fun y => key y = k) := by
  have hnodup' : (ys.map key).Nodup := (h.map key).nodup_iff.1 hnodup
  refine Option.ext fun x => ?_
  rw [find?_key_eq_some_iff hnodup, find?_key_eq_some_iff hnodup', h.mem_iff]

variable {s s' : StateBlock} (h : s.Permuted s') (hnodup : s.names.Nodup)

include h hnodup

theorem Permuted.service?_eq (name : Text) : s'.service? name = s.service? name :=
  find?_eq_of_perm h.services hnodup.of_append_left name

theorem Permuted.scratch?_eq (name : Text) : s'.scratch? name = s.scratch? name :=
  find?_eq_of_perm h.scratches hnodup.of_append_right.of_append_left name

theorem Permuted.channel?_eq (name : Text) : s'.channel? name = s.channel? name :=
  find?_eq_of_perm h.channels hnodup.of_append_right.of_append_right name

theorem Permuted.checkServices {x : Unit} (hs : s.checkServices = .ok x) :
    s'.checkServices = .ok x := by
  rw [checkServices_eq_ok_iff, List.find?_eq_none] at hs ⊢
  intro e he
  rw [h.service?_eq hnodup]
  exact hs e (((h.scratches.append h.channels).mem_iff).2 he)

theorem Permuted.ofItem_rule : Rule.ofItem s' = Rule.ofItem s := by
  funext i
  have htransmission : Transmission.ofUnit s' i.unit = Transmission.ofUnit s i.unit := by
    simp only [Transmission.ofUnit, Transmission.read, serviceOfChannel, serviceOfScratch,
      h.channel?_eq hnodup, h.scratch?_eq hnodup]
  have htrigger : Trigger.ofUnit s' i.unit = Trigger.ofUnit s i.unit := by
    simp only [Trigger.ofUnit, Trigger.read, h.channel?_eq hnodup]
  have hmerge : Merge.ofUnit s' i.unit = Merge.ofUnit s i.unit := by
    simp only [Merge.ofUnit, Merge.read, Merge.checkChannels, h.channel?_eq hnodup]
  rw [Rule.ofItem, Rule.ofItem, htransmission, htrigger, hmerge]

end StateBlock

end Overlay
