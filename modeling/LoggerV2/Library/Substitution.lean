import Mathlib.Data.Nat.Find
import Mathlib.Data.List.Infix

/-!
# Substitution

`substitute` replaces a needle in one scan from the left. What the scan writes it does not
read again, and it looks for the next occurrence behind the last one. `Gaps` relates a text
to the parts between these occurrences: joined with the needle they are the text, joined
with the replacement its substitution.
-/

namespace Verification

variable {Item : Type} {needle : List Item}

/-- The parts of a text between the leftmost occurrences that do not overlap. -/
inductive Gaps (needle : List Item) : List Item → List (List Item) → Prop where
  | last {gap} (absent : ¬ needle <:+: gap) : Gaps needle gap [gap]
  | occurrence {gap rest gaps}
      (leftmost : ∀ index < gap.length, ¬ needle <+: (gap ++ (needle ++ rest)).drop index)
      (others : Gaps needle rest gaps) : Gaps needle (gap ++ (needle ++ rest)) (gap :: gaps)

namespace Gaps

variable {text : List Item} {gaps : List (List Item)}

/-- There is always a part. -/
theorem ne_nil (cut : Gaps needle text gaps) : gaps ≠ [] := by
  cases cut <;> exact List.cons_ne_nil _ _

/-- Nothing but the occurrences lies between the gaps. -/
theorem intercalate_eq (cut : Gaps needle text gaps) : needle.intercalate gaps = text := by
  induction cut with
  | last absent => exact List.intercalate_singleton
  | occurrence leftmost others ih =>
    rw [List.intercalate_cons_of_ne_nil others.ne_nil, ih, List.append_assoc]

/-- The empty needle occurs everywhere, and no scan gets past it. -/
theorem nonempty (cut : Gaps needle text gaps) : needle ≠ [] := by
  induction cut with
  | last absent =>
    rintro rfl
    exact absent List.nil_infix
  | occurrence leftmost others ih => exact ih

/-- Every occurrence takes an item of the text at least. -/
theorem length_le (cut : Gaps needle text gaps) : gaps.length ≤ text.length + 1 := by
  have positive := List.length_pos_iff.mpr cut.nonempty
  induction cut with
  | last absent => simp
  | occurrence leftmost others ih =>
    simp only [List.length_cons, List.length_append]
    omega

end Gaps

/-- A needle that occurs has a leftmost occurrence. -/
theorem exists_leftmost {text : List Item} (occurs : needle <:+: text) :
    ∃ gap rest, text = gap ++ (needle ++ rest) ∧
      ∀ index < gap.length, ¬ needle <+: text.drop index := by
  classical
  have somewhere : ∃ index, needle <+: text.drop index := by
    obtain ⟨before, after, rfl⟩ := occurs
    refine ⟨before.length, after, ?_⟩
    rw [List.append_assoc, List.drop_append_length]
  obtain ⟨rest, here⟩ := Nat.find_spec somewhere
  refine ⟨text.take (Nat.find somewhere), rest, ?_, fun index before => ?_⟩
  · rw [here, List.take_append_drop]
  · exact Nat.find_min somewhere (before.trans_le (List.length_take_le _ _))

/-- Every text can be cut so. -/
theorem exists_gaps (nonempty : needle ≠ []) (text : List Item) :
    ∃ gaps, Gaps needle text gaps := by
  by_cases occurs : needle <:+: text
  · obtain ⟨gap, rest, rfl, leftmost⟩ := exists_leftmost occurs
    have shorter : rest.length < (gap ++ (needle ++ rest)).length := by
      have positive := List.length_pos_iff.mpr nonempty
      simp only [List.length_append]
      omega
    obtain ⟨gaps, others⟩ := exists_gaps nonempty rest
    exact ⟨gap :: gaps, .occurrence leftmost others⟩
  · exact ⟨[text], .last occurs⟩
termination_by text.length

section Scan

variable [DecidableEq Item]

/-- Scan a text whose first `passed` items belong to the occurrence replaced last. -/
def scan (needle replacement : List Item) : Nat → List Item → List Item
  | _, [] => []
  | passed + 1, _ :: rest => scan needle replacement passed rest
  | 0, item :: rest =>
    if needle.isPrefixOf (item :: rest) then
      replacement ++ scan needle replacement (needle.length - 1) rest
    else item :: scan needle replacement 0 rest

/-- Replace the leftmost occurrences that do not overlap, in a single scan. -/
def substitute (needle replacement text : List Item) : List Item :=
  scan needle replacement 0 text

variable {replacement text : List Item} {gaps : List (List Item)}

/-- The rest of an occurrence is skipped. -/
theorem scan_passed (passed rest : List Item) :
    scan needle replacement passed.length (passed ++ rest) = scan needle replacement 0 rest := by
  induction passed with
  | nil => rfl
  | cons item passed ih => exact ih

/-- An occurrence is replaced. -/
theorem scan_occurrence (nonempty : needle ≠ []) (rest : List Item) :
    scan needle replacement 0 (needle ++ rest) =
      replacement ++ scan needle replacement 0 rest := by
  obtain ⟨item, others, rfl⟩ := List.exists_cons_of_ne_nil nonempty
  have here : (item :: others).isPrefixOf (item :: (others ++ rest)) :=
    List.isPrefixOf_iff_prefix.mpr ⟨rest, rfl⟩
  rw [List.cons_append, scan, if_pos here, List.length_cons, Nat.add_sub_cancel, scan_passed]

/-- What lies before the next occurrence is copied. -/
theorem scan_gap {gap rest : List Item}
    (leftmost : ∀ index < gap.length, ¬ needle <+: (gap ++ rest).drop index) :
    scan needle replacement 0 (gap ++ rest) = gap ++ scan needle replacement 0 rest := by
  induction gap with
  | nil => rfl
  | cons item gap ih =>
    have here : ¬ needle.isPrefixOf (item :: (gap ++ rest)) := fun found =>
      leftmost 0 (Nat.zero_lt_succ _) (List.isPrefixOf_iff_prefix.mp found)
    have later := ih fun index before => leftmost (index + 1) (Nat.succ_lt_succ before)
    rw [List.cons_append, scan, if_neg here, later, List.cons_append]

/-- The substitution keeps the gaps and writes the replacement between them. -/
theorem Gaps.substitute_eq (cut : Gaps needle text gaps) :
    substitute needle replacement text = replacement.intercalate gaps := by
  rw [substitute]
  induction cut with
  | @last gap absent =>
    have copied := @scan_gap _ needle _ replacement gap [] fun index _ found => by
      rw [List.append_nil] at found
      exact absent (found.isInfix.trans (List.drop_suffix index gap).isInfix)
    rw [List.append_nil, scan, List.append_nil] at copied
    rw [copied, List.intercalate_singleton]
  | occurrence leftmost others ih =>
    rw [scan_gap leftmost, scan_occurrence others.nonempty, ih,
      List.intercalate_cons_of_ne_nil others.ne_nil, List.append_assoc]

end Scan

end Verification
