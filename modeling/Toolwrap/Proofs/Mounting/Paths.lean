import Mathlib.Data.List.Induction
import Mathlib.Data.List.TakeWhile
import Toolwrap.Proofs.Running.Pieces
import Toolwrap.Shell.Utility.Name
import Toolwrap.Wrapper.Functions

-- Where a path leads as a text alone, without a look at the files: dots are left out, two dots
-- go back by one name, and what is behind the first line is not seen.

namespace Toolwrap.Mounting

open Shell Running Text.Chars

-- A path from the root, seen from a directory.
def fullText (here p : String) : String := if p.toList.head? = some '/' then p else here ++ "/" ++ p

def firstLine (text : String) : String := String.ofList (text.toList.takeWhile (· != '\n'))

def placeOf (here p : String) : Place := (Path.parse (firstLine (fullText here p))).settle []

def absolutePath (here p : String) : String := Utility.placeText (placeOf here p)

section Steps

-- What a piece between slashes does to the place that was reached.
def stepped (place : Place) (piece : String) : Place :=
  if piece = "" ∨ piece = "." then place else if piece = ".." then place.dropLast else place ++ [piece]

theorem settle_pieces (text : String) : (Path.parse text).settle [] = (Text.splitAt '/' text).foldl stepped [] := by
  unfold Path.settle Path.parse
  rw [ite_self, List.foldl_filter]
  congr 1
  funext place piece
  unfold stepped
  by_cases empty : piece = ""
  · simp [empty]
  · by_cases dot : piece = "."
    · simp [dot]
    · by_cases dots : piece = ".." <;> simp [empty, dot, dots]

theorem firstLine_whole {text : String} (whole : '\n' ∉ text.toList) : firstLine text = text := by
  have all : text.toList.takeWhile (· != '\n') = text.toList :=
    List.takeWhile_eq_self_iff.mpr fun c member => bne_iff_ne.mpr fun feed => whole (feed ▸ member)
  unfold firstLine
  rw [all, String.ofList_toList]

-- A name that a path is settled by: no step but the one to it.
structure IsStep (name : String) : Prop where
  filled : name ≠ ""
  dot : name ≠ "."
  dots : name ≠ ".."
  whole : '/' ∉ name.toList

def Settled (place : Place) : Prop := ∀ name ∈ place, IsStep name

variable {place start : Place} {name piece : String}

theorem stepped_name (step : IsStep name) : stepped place name = place ++ [name] := by
  unfold stepped
  rw [if_neg (not_or.mpr ⟨step.filled, step.dot⟩), if_neg step.dots]

theorem stepped_empty : stepped place "" = place := if_pos (Or.inl rfl)

theorem stepped_settled (settled : Settled place) (whole : '/' ∉ piece.toList) : Settled (stepped place piece) := by
  unfold stepped
  split
  · exact settled
  · rename_i other
    obtain ⟨filled, dot⟩ := not_or.mp other
    split
    · exact fun name member => settled name (List.dropLast_subset _ member)
    · rename_i dots
      intro name member
      rcases List.mem_append.mp member with before | here
      · exact settled name before
      · exact List.mem_singleton.mp here ▸ ⟨filled, dot, dots, whole⟩

theorem pieces_settled {pieces : List String} (whole : ∀ piece ∈ pieces, '/' ∉ piece.toList) (settled : Settled place) :
    Settled (pieces.foldl stepped place) := by
  induction pieces generalizing place with
  | nil => exact settled
  | cons piece pieces more =>
    exact more (fun other member => whole other (List.mem_cons_of_mem _ member))
      (stepped_settled settled (whole piece (List.mem_cons_self ..)))

theorem splitAt_whole {text : String} : ∀ piece ∈ Text.splitAt '/' text, '/' ∉ piece.toList := by
  intro piece member
  obtain ⟨cs, listed, rfl⟩ := List.mem_map.mp member
  rw [String.toList_ofList]
  exact pieces_free listed

theorem placeOf_settled (here p : String) : Settled (placeOf here p) := by
  unfold placeOf
  rw [settle_pieces]
  exact pieces_settled splitAt_whole nofun

end Steps

-- The text of a place.
section Written

variable {place start : Place} {name : String}

-- The names of a place, each behind a slash.
def slashed (place : Place) : List Char := place.flatMap fun name => '/' :: name.toList

theorem slashed_snoc : slashed (place ++ [name]) = slashed place ++ '/' :: name.toList := by
  unfold slashed
  rw [List.flatMap_append, List.flatMap_singleton]

theorem slashed_cons : slashed (name :: place) = '/' :: name.toList ++ slashed place := List.flatMap_cons

theorem placeText_filled (filled : place ≠ []) : (Utility.placeText place).toList = slashed place := by
  unfold Utility.placeText
  rw [String.toList_append, String.toList_intercalate]
  induction place with
  | nil => exact absurd rfl filled
  | cons name place more =>
    rw [slashed_cons]
    cases place with
    | nil => simp [slashed]
    | cons other place =>
      have rest := more (List.cons_ne_nil _ _)
      simp only [List.map_cons, List.intercalate_cons_cons] at rest ⊢
      rw [← rest]
      simp

theorem placeText_empty : Utility.placeText [] = "/" := rfl

theorem placeText_snoc (place : Place) (name : String) :
    (Utility.placeText (place ++ [name])).toList = slashed place ++ '/' :: name.toList := by
  rw [placeText_filled (List.append_ne_nil_of_right_ne_nil _ (List.cons_ne_nil _ _)), slashed_snoc]

-- A text of a place leads to the place.
theorem slashed_pieces (settled : Settled place) :
    ((splitAt '/' (slashed place)).map String.ofList).foldl stepped start = start ++ place := by
  induction place using List.reverseRecOn with
  | nil => rw [List.append_nil]; exact stepped_empty
  | append_singleton place name more =>
    have step := settled name (List.mem_append_right _ (List.mem_singleton_self _))
    rw [slashed_snoc, splitAt_append, splitAt_absent step.whole, List.map_append, List.foldl_append,
      more fun other member => settled other (List.mem_append_left _ member), List.map_singleton, String.ofList_toList,
      List.foldl_cons, List.foldl_nil, stepped_name step, List.append_assoc]

theorem placeText_pieces (settled : Settled place) :
    ((splitAt '/' (Utility.placeText place).toList).map String.ofList).foldl stepped start = start ++ place := by
  cases place with
  | nil =>
    rw [List.append_nil]
    exact stepped_empty
  | cons name place =>
    rw [placeText_filled (List.cons_ne_nil _ _)]
    exact slashed_pieces settled

theorem placeText_settles (settled : Settled place) : (Path.parse (Utility.placeText place)).settle [] = place := by
  rw [settle_pieces]
  exact placeText_pieces settled

-- The same place in the container.
theorem automount_settles (settled : Settled place) :
    (Path.parse (Wrapper.Functions.automountRoot ++ Utility.placeText place)).settle [] = "bw_automount" :: place := by
  obtain ⟨rest, led⟩ : ∃ rest, (Utility.placeText place).toList = '/' :: rest := by
    unfold Utility.placeText
    rw [String.toList_append]
    exact ⟨_, rfl⟩
  have placed := @placeText_pieces place ["bw_automount"] settled
  rw [led, splitAt_mark, List.map_cons, List.foldl_cons] at placed
  rw [settle_pieces]
  unfold Text.splitAt
  rw [String.toList_append, led, splitAt_append, List.map_append, List.foldl_append]
  exact placed

end Written

-- What the programs make of the text of a place.
section Taken

variable {place : Place} {name : String}

theorem withoutSlashes_name {front : List Char} (step : IsStep name) :
    Utility.withoutSlashes (front ++ name.toList) = front ++ name.toList := by
  obtain ⟨before, last, shape⟩ := (List.eq_nil_or_concat name.toList).resolve_left (mt String.toList_eq_nil_iff.mp step.filled)
  rw [List.concat_eq_append] at shape
  have other : last ≠ '/' := by
    rintro rfl
    exact step.whole (shape ▸ List.mem_append_right _ (List.mem_singleton_self _))
  unfold Utility.withoutSlashes
  rw [shape, ← List.append_assoc, List.reverse_append, List.reverse_singleton, List.singleton_append,
    List.dropWhile_cons_of_neg (by simpa using other), List.reverse_cons, List.reverse_reverse]

theorem withoutSlashes_slashed (settled : Settled place) : Utility.withoutSlashes (slashed place) = slashed place := by
  induction place using List.reverseRecOn with
  | nil => rfl
  | append_singleton place name _ =>
    have step := settled name (List.mem_append_right _ (List.mem_singleton_self _))
    rw [slashed_snoc, List.append_cons, withoutSlashes_name step]

theorem withoutSlashes_slash {front : List Char} :
    Utility.withoutSlashes (front ++ ['/']) = Utility.withoutSlashes front := by
  unfold Utility.withoutSlashes
  rw [List.reverse_append, List.reverse_singleton, List.singleton_append, List.dropWhile_cons_of_pos rfl]

theorem reversed_name (step : IsStep name) : ∀ c ∈ name.toList.reverse, (c != '/') = true := by
  intro c member
  rw [bne_iff_ne]
  rintro rfl
  exact step.whole (List.mem_reverse.mp member)

theorem directoryOf_snoc (settled : Settled (place ++ [name])) :
    Utility.directoryOf (Utility.placeText (place ++ [name])) = Utility.placeText place := by
  have step := settled name (List.mem_append_right _ (List.mem_singleton_self _))
  have before : Settled place := fun other member => settled other (List.mem_append_left _ member)
  have parted : ((slashed place ++ '/' :: name.toList).reverse.dropWhile (· != '/')).reverse = slashed place ++ ['/'] := by
    rw [List.append_cons, List.reverse_append, List.reverse_append, List.reverse_singleton, List.singleton_append,
      List.dropWhile_append_of_pos (reversed_name step), List.dropWhile_cons_of_neg (by decide), List.reverse_cons,
      List.reverse_reverse]
  have kept := @withoutSlashes_name name (slashed place ++ ['/']) step
  rw [← List.append_cons] at kept
  unfold Utility.directoryOf
  simp only [placeText_snoc, kept, parted]
  rw [withoutSlashes_slash, withoutSlashes_slashed before]
  cases place with
  | nil => simp [slashed, placeText_empty]
  | cons first place =>
    rw [← placeText_filled (List.cons_ne_nil first place), String.ofList_toList]
    simp [Utility.placeText]

theorem lastOf_snoc (settled : Settled (place ++ [name])) :
    Utility.lastOf (Utility.placeText (place ++ [name])) "" = name := by
  have step := settled name (List.mem_append_right _ (List.mem_singleton_self _))
  have parted : ((slashed place ++ '/' :: name.toList).reverse.takeWhile (· != '/')).reverse = name.toList := by
    rw [List.append_cons, List.reverse_append, List.reverse_append, List.reverse_singleton, List.singleton_append,
      List.takeWhile_append_of_pos (reversed_name step), List.takeWhile_cons_of_neg (by decide), List.append_nil,
      List.reverse_reverse]
  have kept := @withoutSlashes_name name (slashed place ++ ['/']) step
  rw [← List.append_cons] at kept
  unfold Utility.lastOf
  simp only [placeText_snoc, kept, parted, String.ofList_toList]
  have all : name.toList.take (name.length - "".length) = name.toList :=
    List.take_of_length_le (Nat.le_of_eq String.length_toList)
  rw [all, String.ofList_toList, ite_self]
  simp

end Taken

end Toolwrap.Mounting
