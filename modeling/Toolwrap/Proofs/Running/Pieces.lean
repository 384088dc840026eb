import Toolwrap.Text.Blank

-- The pieces of a text between the places where a character stands.

namespace Toolwrap.Running

open Text.Chars

section Pieces

variable {sep c : Char} {text behind first piece : List Char} {others : List (List Char)}

theorem splitAt_filled (sep : Char) (text : List Char) : ∃ first others, splitAt sep text = first :: others := by
  cases text with
  | nil => exact ⟨[], [], rfl⟩
  | cons c text =>
    rw [splitAt]
    split
    · exact ⟨_, _, rfl⟩
    · split <;> exact ⟨_, _, rfl⟩

theorem splitAt_other (other : c ≠ sep) (split_ : splitAt sep text = first :: others) :
    splitAt sep (c :: text) = (c :: first) :: others := by
  rw [splitAt, if_neg other, split_]

theorem splitAt_mark : splitAt sep (sep :: text) = [] :: splitAt sep text := by
  rw [splitAt, if_pos rfl]

theorem splitAt_append : splitAt sep (text ++ sep :: behind) = splitAt sep text ++ splitAt sep behind := by
  induction text with
  | nil => exact splitAt_mark
  | cons c text more =>
    by_cases mark : c = sep
    · rw [mark, List.cons_append, splitAt_mark, splitAt_mark, more, List.cons_append]
    · obtain ⟨first, others, pieces⟩ := splitAt_filled sep text
      rw [pieces, List.cons_append] at more
      rw [List.cons_append, splitAt_other mark more, splitAt_other mark pieces, List.cons_append]

-- What stands in front of a text stands in front of its first piece.
theorem splitAt_front (free : sep ∉ text) (pieces : splitAt sep behind = first :: others) :
    splitAt sep (text ++ behind) = (text ++ first) :: others := by
  induction text with
  | nil => exact pieces
  | cons c text more =>
    have other : c ≠ sep := fun mark => free (mark ▸ List.mem_cons_self ..)
    exact splitAt_other other (more fun member => free (List.mem_cons_of_mem _ member))

theorem splitAt_absent (free : sep ∉ text) : splitAt sep text = [text] := by
  have whole := @splitAt_front sep text [] [] [] free rfl
  rwa [List.append_nil] at whole

-- A text is one piece, or it begins with one and goes on behind the character.
@[elab_as_elim]
theorem pieces_induction {motive : List Char → Prop} (last : ∀ piece, sep ∉ piece → motive piece)
    (next : ∀ piece rest, sep ∉ piece → motive rest → motive (piece ++ sep :: rest)) (text : List Char) :
    motive text := by
  have started : ∀ front, sep ∉ front → motive (front ++ text) := by
    induction text with
    | nil =>
      intro front free
      rw [List.append_nil]
      exact last front free
    | cons c text more =>
      intro front free
      by_cases mark : c = sep
      · rw [mark]
        exact next front text free (more [] nofun)
      · rw [List.append_cons]
        refine more (front ++ [c]) fun member => ?_
        rcases List.mem_append.mp member with before | here
        · exact free before
        · exact mark (List.mem_singleton.mp here).symm
  exact started [] nofun

-- There is no more than one piece for each character, and the last one.
theorem pieces_few (sep : Char) (text : List Char) : (splitAt sep text).length ≤ text.length + 1 := by
  induction text using @pieces_induction sep with
  | last whole free =>
    rw [splitAt_absent free, List.length_singleton]
    exact Nat.le_add_left 1 _
  | next front rest free goes =>
    rw [splitAt_append, splitAt_absent free, List.length_append, List.length_append, List.length_singleton, List.length_cons]
    omega

theorem pieces_free (member : piece ∈ splitAt sep text) : sep ∉ piece := by
  induction text using @pieces_induction sep with
  | last whole free =>
    rw [splitAt_absent free, List.mem_singleton] at member
    exact member ▸ free
  | next front rest free goes =>
    rw [splitAt_append, splitAt_absent free, List.mem_append, List.mem_singleton] at member
    rcases member with rfl | later
    · exact free
    · exact goes later

theorem pieces_sub (member : piece ∈ splitAt sep text) : ∀ c ∈ piece, c ∈ text := by
  induction text using @pieces_induction sep with
  | last whole free =>
    rw [splitAt_absent free, List.mem_singleton] at member
    exact fun c inside => member ▸ inside
  | next front rest free goes =>
    rw [splitAt_append, splitAt_absent free, List.mem_append, List.mem_singleton] at member
    intro c inside
    rcases member with rfl | later
    · exact List.mem_append_left _ inside
    · exact List.mem_append_right _ (List.mem_cons_of_mem _ (goes later c inside))

end Pieces

end Toolwrap.Running
