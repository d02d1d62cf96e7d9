import Mathlib.Algebra.BigOperators.Group.List.Basic
import Mathlib.Algebra.Order.Floor.Div
import Mathlib.GroupTheory.GroupAction.Ring
import Mathlib.Tactic.Ring

/-!
# Segments and pieces

`Segments` cuts a sequence at every separator and keeps the parts that are not empty.
`Pieces` cuts a sequence greedily into pieces of one width; the last may be shorter. Both
are relations with one result each. A splitting function is only known by what its parts
join back to; `segments_of_intercalate` and `pieces_of_flatten` recover the relations
from that.
-/

namespace Verification

variable {Item : Type} {separator : Item} {width : Nat}

/-- The maximal nonempty segments without separator, in order. -/
inductive Segments (separator : Item) : List Item → List (List Item) → Prop where
  | nil : Segments separator [] []
  | skip {text segments} (rest : Segments separator text segments) :
      Segments separator (separator :: text) segments
  | last {segment} (nonempty : segment ≠ []) (free : separator ∉ segment) :
      Segments separator segment [segment]
  | segment {segment text segments} (nonempty : segment ≠ []) (free : separator ∉ segment)
      (rest : Segments separator text segments) :
      Segments separator (segment ++ separator :: text) (segment :: segments)

/-- Pieces of exactly the width, and a last one that may be shorter. -/
inductive Pieces (width : Nat) : List Item → List (List Item) → Prop where
  | nil : Pieces width [] []
  | last {piece} (nonempty : piece ≠ []) (fits : piece.length ≤ width) :
      Pieces width piece [piece]
  | full {piece rest pieces} (wide : piece.length = width) (more : rest ≠ [])
      (others : Pieces width rest pieces) : Pieces width (piece ++ rest) (piece :: pieces)

namespace Segments

variable {text segment : List Item} {segments : List (List Item)}

theorem free (cut : Segments separator text segments) (member : segment ∈ segments) :
    separator ∉ segment := by
  induction cut with
  | nil => cases member
  | skip rest ih => exact ih member
  | last nonempty free => rwa [List.mem_singleton.mp member]
  | segment nonempty free rest ih =>
    rcases List.mem_cons.mp member with rfl | later
    · exact free
    · exact ih later

theorem ne_nil (cut : Segments separator text segments) (member : segment ∈ segments) :
    segment ≠ [] := by
  induction cut with
  | nil => cases member
  | skip rest ih => exact ih member
  | last nonempty free => rwa [List.mem_singleton.mp member]
  | segment nonempty free rest ih =>
    rcases List.mem_cons.mp member with rfl | later
    · exact nonempty
    · exact ih later

/-- Only separators are dropped. -/
theorem flatten_eq_filter [DecidableEq Item] (cut : Segments separator text segments) :
    segments.flatten = text.filter (· ≠ separator) := by
  have kept : ∀ {segment : List Item}, separator ∉ segment →
      segment.filter (· ≠ separator) = segment := by
    intro segment free
    refine List.filter_eq_self.mpr fun item member => ?_
    exact decide_eq_true fun same => free (same ▸ member)
  induction cut with
  | nil => rfl
  | skip rest ih => simpa using ih
  | last nonempty free => simpa using (kept free).symm
  | segment nonempty free rest ih =>
    rw [List.flatten_cons, List.filter_append, kept free, ih]
    simp

/-- The parts a split at every separator yields, less the empty ones. -/
theorem eq_filter_splitOn [DecidableEq Item] (cut : Segments separator text segments) :
    segments = (text.splitOn separator).filter (· ≠ []) := by
  induction cut with
  | nil => rfl
  | skip rest ih =>
    rw [← List.nil_append (separator :: _), List.splitOn_append_cons_self, List.splitOn_nil]
    simpa using ih
  | last nonempty free =>
    rw [List.splitOn_eq_singleton free]
    simp [nonempty]
  | segment nonempty free rest ih =>
    rw [List.splitOn_append_cons_self, List.splitOn_eq_singleton free]
    simpa [nonempty] using ih

/-- A text has one sequence of segments. -/
theorem unique {others : List (List Item)} (cut : Segments separator text segments)
    (other : Segments separator text others) : segments = others := by
  classical
  rw [cut.eq_filter_splitOn, other.eq_filter_splitOn]

end Segments

/-- Parts without separator that join to a text are its segments, once the empty ones are
dropped. -/
theorem segments_of_intercalate [DecidableEq Item] {parts : List (List Item)}
    (nonempty : parts ≠ []) (free : ∀ part ∈ parts, separator ∉ part) :
    Segments separator ([separator].intercalate parts) (parts.filter (· ≠ [])) := by
  induction parts with
  | nil => exact absurd rfl nonempty
  | cons part rest ih =>
    have here : separator ∉ part := free part List.mem_cons_self
    cases rest with
    | nil =>
      by_cases empty : part = []
      · subst empty
        exact .nil
      · simpa [empty] using Segments.last empty here
    | cons next others =>
      have later := ih (by simp) fun part member => free part (List.mem_cons_of_mem _ member)
      rw [List.intercalate_cons_cons]
      by_cases empty : part = []
      · subst empty
        simpa using Segments.skip later
      · simpa [empty] using Segments.segment empty here later

namespace Pieces

variable {text piece : List Item} {pieces : List (List Item)}

/-- Nothing is cut into no pieces. -/
theorem eq_nil (cut : Pieces width ([] : List Item) pieces) : pieces = [] := by
  generalize same : ([] : List Item) = text at cut
  cases cut with
  | nil => rfl
  | last nonempty fits => exact absurd same.symm nonempty
  | full wide more others => exact absurd (List.append_eq_nil_iff.mp same.symm).2 more

/-- The pieces join to the text. -/
theorem flatten_eq (cut : Pieces width text pieces) : pieces.flatten = text := by
  induction cut with
  | nil => rfl
  | last nonempty fits => simp
  | full wide more others ih => rw [List.flatten_cons, ih]

/-- A text that fits is one piece. -/
theorem eq_singleton (cut : Pieces width text pieces) (nonempty : text ≠ [])
    (fits : text.length ≤ width) : pieces = [text] := by
  cases cut with
  | nil => exact absurd rfl nonempty
  | last nonempty fits => rfl
  | full wide more others =>
    have positive := List.length_pos_iff.mpr more
    rw [List.length_append] at fits
    omega

/-- No piece is wider than the width. -/
theorem length_le (cut : Pieces width text pieces) (member : piece ∈ pieces) :
    piece.length ≤ width := by
  induction cut with
  | nil => cases member
  | last nonempty fits => rwa [List.mem_singleton.mp member]
  | full wide more others ih =>
    rcases List.mem_cons.mp member with rfl | later
    · exact wide.le
    · exact ih later

theorem length_pos (positive : 0 < width) (cut : Pieces width text pieces)
    (member : piece ∈ pieces) : 0 < piece.length := by
  induction cut with
  | nil => cases member
  | last nonempty fits => rwa [List.mem_singleton.mp member, List.length_pos_iff]
  | full wide more others ih =>
    rcases List.mem_cons.mp member with rfl | later
    · rwa [wide]
    · exact ih later

/-- As many pieces as it takes. -/
theorem length_eq (positive : 0 < width) (cut : Pieces width text pieces) :
    pieces.length = text.length ⌈/⌉ width := by
  induction cut with
  | nil => simp
  | @last piece nonempty fits =>
    have nonzero : 0 < piece.length := List.length_pos_iff.mpr nonempty
    rw [Nat.ceilDiv_eq_add_pred_div, List.length_singleton]
    refine (Nat.div_eq_of_lt_le ?_ ?_).symm <;> omega
  | @full piece rest pieces wide more others ih =>
    have nonzero : 0 < rest.length := List.length_pos_iff.mpr more
    have shift : piece.length + rest.length + width - 1 = rest.length + width - 1 + width := by
      omega
    rw [Nat.ceilDiv_eq_add_pred_div] at ih ⊢
    rw [List.length_append, shift, Nat.add_div_right _ positive, ← ih, List.length_cons]

end Pieces

/-- Parts of one width, the last at most that, that join to a text are its pieces, once the
empty ones are dropped. -/
theorem pieces_of_flatten [DecidableEq Item] {parts : List (List Item)} (positive : 0 < width)
    (wide : ∀ part ∈ parts.dropLast, part.length = width)
    (fits : ∀ part ∈ parts, part.length ≤ width) :
    Pieces width parts.flatten (parts.filter (· ≠ [])) := by
  induction parts with
  | nil => exact .nil
  | cons part rest ih =>
    cases rest with
    | nil =>
      by_cases empty : part = []
      · subst empty
        exact .nil
      · simpa [empty] using Pieces.last empty (fits part List.mem_cons_self)
    | cons next others =>
      rw [List.dropLast_cons_cons] at wide
      have here : part.length = width := wide part List.mem_cons_self
      have later := ih (fun part member => wide part (List.mem_cons_of_mem _ member))
        fun part member => fits part (List.mem_cons_of_mem _ member)
      have nonempty : part ≠ [] := List.length_pos_iff.mp (here ▸ positive)
      rw [List.flatten_cons, List.filter_cons_of_pos (by simpa using nonempty)]
      by_cases ended : (next :: others).flatten = []
      · -- What follows a last full piece is empty, and dropped.
        rw [ended] at later ⊢
        rw [later.eq_nil, List.append_nil]
        exact .last nonempty here.le
      · exact .full here ended later

/-- The parts between the separators hold none. -/
theorem not_mem_of_mem_splitOn [DecidableEq Item] {text part : List Item}
    (member : part ∈ text.splitOn separator) : separator ∉ part := by
  induction text generalizing part with
  | nil =>
    obtain rfl := List.mem_singleton.mp member
    simp
  | cons item rest ih =>
    rw [List.splitOn_cons_eq_if_modifyHead] at member
    split at member
    · rcases List.mem_cons.mp member with rfl | later
      · simp
      · exact ih later
    · rename_i different
      cases parts : rest.splitOn separator with
      | nil => exact absurd parts (List.splitOn_ne_nil _ _)
      | cons first others =>
        rw [parts, List.modifyHead_cons] at member
        rcases List.mem_cons.mp member with rfl | later
        · have free := @ih first (by simp [parts])
          simpa [free] using fun same => different (beq_iff_eq.mpr same.symm)
        · exact ih (by simp [parts, later])

/-- Cut off the width while more than that is left, at most `fuel` times. -/
def chunks (width : Nat) : Nat → List Item → List (List Item)
  | 0, text => [text]
  | fuel + 1, text =>
    if text.length ≤ width then [text] else text.take width :: chunks width fuel (text.drop width)

/-- The chunks join to the text. -/
theorem flatten_chunks (width fuel : Nat) (text : List Item) :
    (chunks width fuel text).flatten = text := by
  induction fuel generalizing text with
  | zero => simp [chunks]
  | succ fuel ih =>
    rw [chunks]
    split
    · simp
    · rw [List.flatten_cons, ih, List.take_append_drop]

/-- Even the empty text has a chunk. -/
theorem chunks_ne_nil (width fuel : Nat) (text : List Item) : chunks width fuel text ≠ [] := by
  cases fuel with
  | zero => simp [chunks]
  | succ fuel =>
    rw [chunks]
    split <;> simp

/-- All chunks but the last have the width. -/
theorem length_of_mem_dropLast_chunks {fuel : Nat} {text part : List Item}
    (member : part ∈ (chunks width fuel text).dropLast) : part.length = width := by
  induction fuel generalizing text with
  | zero => simp [chunks] at member
  | succ fuel ih =>
    rw [chunks] at member
    split at member
    · simp at member
    · rename_i long
      rw [List.dropLast_cons_of_ne_nil (chunks_ne_nil _ _ _)] at member
      rcases List.mem_cons.mp member with rfl | later
      · rw [List.length_take]
        omega
      · exact ih later

/-- With enough fuel the last one is no wider. -/
theorem length_le_of_mem_chunks {fuel : Nat} {text part : List Item} (positive : 0 < width)
    (enough : text.length ≤ fuel) (member : part ∈ chunks width fuel text) :
    part.length ≤ width := by
  induction fuel generalizing text with
  | zero =>
    obtain rfl := List.mem_singleton.mp member
    omega
  | succ fuel ih =>
    rw [chunks] at member
    split at member
    · rename_i short
      rwa [List.mem_singleton.mp member]
    · rcases List.mem_cons.mp member with rfl | later
      · exact List.length_take_le _ _
      · exact ih (by rw [List.length_drop]; omega) later

section Wraps

variable {segments : List (List Item)} {cuts : List (List (List Item))} {piece : List Item}

/-- Every piece was cut from one segment. -/
theorem exists_segment (wraps : List.Forall₂ (Pieces width) segments cuts)
    (member : piece ∈ cuts.flatten) :
    ∃ segment ∈ segments, ∃ pieces, Pieces width segment pieces ∧ piece ∈ pieces := by
  induction wraps with
  | nil => simp at member
  | @cons segment pieces segments cuts here others ih =>
    rw [List.flatten_cons, List.mem_append] at member
    rcases member with inside | later
    · exact ⟨segment, List.mem_cons_self, pieces, here, inside⟩
    · obtain ⟨segment, among, found⟩ := ih later
      exact ⟨segment, List.mem_cons_of_mem _ among, found⟩

/-- Cutting loses nothing. -/
theorem flatten_cuts (wraps : List.Forall₂ (Pieces width) segments cuts) :
    cuts.flatten.flatten = segments.flatten := by
  induction wraps with
  | nil => rfl
  | cons here others ih =>
    rw [List.flatten_cons, List.flatten_append, here.flatten_eq, ih, List.flatten_cons]

/-- The pieces of all segments, counted. -/
theorem length_cuts (positive : 0 < width) (wraps : List.Forall₂ (Pieces width) segments cuts) :
    cuts.flatten.length = (segments.map fun segment => segment.length ⌈/⌉ width).sum := by
  induction wraps with
  | nil => rfl
  | cons here others ih =>
    rw [List.flatten_cons, List.length_append, here.length_eq positive, ih, List.map_cons,
      List.sum_cons]

end Wraps

end Verification
