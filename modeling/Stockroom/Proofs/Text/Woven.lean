import Mathlib.Data.List.Basic
import Mathlib.Tactic.Common

/-!
# Parts between marks

Parts are written one behind the other with a mark between any two of them.  The marks may
stand in the parts as well, and then the text can be cut in another way.  It can be cut in one
way only exactly if no part contains a mark that stands at one of its ends.
-/

namespace Stockroom.Text

/-- The parts in a row, each of the further ones behind its mark. -/
def weave (first : List Char) : List (Char × List Char) → List Char
  | [] => first
  | (mark, part) :: rest => first ++ mark :: weave part rest

/-- No part contains the mark in front of it or the mark behind it. -/
def Apart (first : List Char) : List (Char × List Char) → Prop
  | [] => True
  | (mark, part) :: rest => mark ∉ first ∧ mark ∉ part ∧ Apart part rest

/-- Each part ends in front of the first such mark: none contains the mark behind it. -/
def Terminated (first : List Char) : List (Char × List Char) → Prop
  | [] => True
  | (mark, part) :: rest => mark ∉ first ∧ Terminated part rest

theorem weave_append (front first : List Char) (rest : List (Char × List Char)) :
    weave (front ++ first) rest = front ++ weave first rest := by
  cases rest with
  | nil => rfl
  | cons marked rest => exact List.append_assoc _ _ _

theorem weave_cons (c : Char) (first : List Char) (rest : List (Char × List Char)) :
    weave (c :: first) rest = c :: weave first rest :=
  weave_append [c] first rest

/-! ## Another cut -/

/-- A mark that is not in front of its place in one list is there in the other one, or later. -/
theorem append_cons_eq_append_cons {α : Type} {a b a' b' : List α} {mark : α} (h : mark ∉ a)
    (same : a' ++ mark :: b' = a ++ mark :: b) :
    a' = a ∧ b' = b ∨ ∃ between, a' = a ++ mark :: between ∧ b = between ++ mark :: b' := by
  rcases List.append_eq_append_iff.mp same with ⟨tail, rfl, tails⟩ | ⟨tail, rfl, tails⟩
  · cases tail with
    | nil => exact .inl ⟨(List.append_nil a').symm, (List.cons.inj tails).2⟩
    | cons c tail =>
        obtain ⟨rfl, -⟩ := List.cons.inj tails
        exact absurd (by simp) h
  · cases tail with
    | nil => exact .inl ⟨List.append_nil a, (List.cons.inj tails).2.symm⟩
    | cons c tail =>
        obtain ⟨rfl, rest⟩ := List.cons.inj tails
        exact .inr ⟨tail, rfl, rest⟩

/-- A mark that is in neither front cuts both lists at the same place. -/
theorem append_cons_cancel {α : Type} {a b a' b' : List α} {mark : α} (h : mark ∉ a)
    (h' : mark ∉ a') (same : a' ++ mark :: b' = a ++ mark :: b) : a' = a ∧ b' = b := by
  rcases append_cons_eq_append_cons h same with cut | ⟨between, rfl, -⟩
  · exact cut
  · exact absurd (by simp) h'

/-- Behind a first mark the marks of the parts do not stand in a row for a second time. -/
theorem not_marks_sublist {first : List Char} {rest : List (Char × List Char)} {mark : Char}
    (h : mark ∉ first) (apart : Apart first rest) :
    ¬(mark :: rest.map Prod.fst).Sublist (weave first rest) := by
  induction rest generalizing first mark with
  | nil => simpa [weave] using h
  | cons marked rest ih =>
      obtain ⟨next, part⟩ := marked
      obtain ⟨-, notInPart, apartRest⟩ := apart
      intro found
      obtain ⟨inFirst, behind, split, hfirst, hbehind⟩ := List.sublist_append_iff.mp found
      cases inFirst with
      | cons c inFirst =>
          obtain ⟨rfl, -⟩ := List.cons.inj split
          exact h (hfirst.subset (List.mem_cons_self ..))
      | nil =>
          obtain rfl : behind = mark :: next :: rest.map Prod.fst := split.symm
          exact ih notInPart apartRest hbehind.of_cons_cons

theorem marks_sublist_weave (first : List Char) (rest : List (Char × List Char)) :
    (rest.map Prod.fst).Sublist (weave first rest) := by
  induction rest generalizing first with
  | nil => exact List.nil_sublist _
  | cons marked rest ih =>
      exact ((ih marked.2).cons_cons marked.1).trans (List.sublist_append_right ..)

/-- Parts are found again in their text if and only if they are apart. -/
theorem apart_iff_weave_unique {first : List Char} {rest : List (Char × List Char)} :
    Apart first rest ↔ ∀ first' rest', rest'.map Prod.fst = rest.map Prod.fst →
      weave first' rest' = weave first rest → first' = first ∧ rest' = rest := by
  induction rest generalizing first with
  | nil =>
      refine ⟨fun _ first' rest' marks same => ?_, fun _ => trivial⟩
      obtain rfl := List.map_eq_nil_iff.mp marks
      exact ⟨same, rfl⟩
  | cons marked rest ih =>
      obtain ⟨mark, part⟩ := marked
      constructor
      · rintro ⟨notInFirst, notInPart, apart⟩ first' rest' hmarks same
        obtain ⟨⟨mark', part'⟩, rest', rfl, hmark, marks⟩ := List.map_eq_cons_iff.mp hmarks
        obtain rfl : mark' = mark := hmark
        rcases append_cons_eq_append_cons notInFirst same with ⟨rfl, tails⟩ | ⟨between, -, tail⟩
        · obtain ⟨rfl, rfl⟩ := ih.mp apart part' rest' marks tails
          exact ⟨rfl, rfl⟩
        · -- The other cut would find all marks behind the first one once more.
          refine absurd ?_ (not_marks_sublist notInPart apart)
          rw [tail, ← marks]
          exact ((marks_sublist_weave part' rest').cons_cons mark').trans
            (List.sublist_append_right ..)
      · intro unique
        refine ⟨fun inFirst => ?_, fun inPart => ?_, ih.mpr fun part' rest' marks same => ?_⟩
        · obtain ⟨front, back, rfl⟩ := List.append_of_mem inFirst
          have cut := unique front ((mark, back ++ mark :: part) :: rest) rfl
            (by simp [weave, weave_append, weave_cons])
          simpa using congrArg List.length cut.1
        · obtain ⟨front, back, rfl⟩ := List.append_of_mem inPart
          have cut := unique (first ++ mark :: front) ((mark, back) :: rest) rfl
            (by simp [weave, weave_append, weave_cons])
          simpa using congrArg List.length cut.1
        · have cut := unique first ((mark, part') :: rest') (by simp [marks])
            (by simp [weave, same])
          simpa using cut

/-- Parts that end in front of their marks are told by the text among all such parts. -/
theorem weave_inj_of_terminated {first first' : List Char} {rest rest' : List (Char × List Char)}
    (h : Terminated first rest) (h' : Terminated first' rest')
    (hmarks : rest'.map Prod.fst = rest.map Prod.fst)
    (same : weave first' rest' = weave first rest) : first' = first ∧ rest' = rest := by
  induction rest generalizing first first' rest' with
  | nil =>
      obtain rfl := List.map_eq_nil_iff.mp hmarks
      exact ⟨same, rfl⟩
  | cons marked rest ih =>
      obtain ⟨mark, part⟩ := marked
      obtain ⟨⟨mark', part'⟩, rest', rfl, hmark, marks⟩ := List.map_eq_cons_iff.mp hmarks
      obtain rfl : mark' = mark := hmark
      obtain ⟨rfl, tails⟩ := append_cons_cancel h.1 h'.1 same
      obtain ⟨rfl, rfl⟩ := ih h.2 h'.2 marks tails
      exact ⟨rfl, rfl⟩

end Stockroom.Text
