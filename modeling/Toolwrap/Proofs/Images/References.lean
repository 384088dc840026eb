import Mathlib.Data.Bool.AllAny
import Mathlib.Data.List.Basic
import Toolwrap.Image
import Toolwrap.Proofs.Running.Pieces

-- References to images, read and written. A reference that is read with a name is written as a text
-- that is read as the same image; only one whose path ends in a slash is read without a name.

namespace Toolwrap.Image

open Running Text.Chars

section Joined

variable {sep c : Char} {pieces front : List (List Char)} {piece name : List Char}

theorem joined_splitAt (sep : Char) (text : List Char) : [sep].intercalate (splitAt sep text) = text := by
  induction text using @pieces_induction sep with
  | last piece free => rw [splitAt_absent free, List.intercalate_singleton]
  | next piece rest free more =>
    obtain ⟨first, others, shape⟩ := splitAt_filled sep rest
    rw [splitAt_append, splitAt_absent free, shape, List.singleton_append, List.intercalate_cons_cons, ← shape, more,
      List.append_assoc, List.singleton_append]

theorem joined_last (filled : front ≠ []) :
    [sep].intercalate (front ++ [name]) = [sep].intercalate front ++ sep :: name := by
  induction front with
  | nil => exact absurd rfl filled
  | cons first rest more =>
    cases rest with
    | nil => simp
    | cons second rest =>
      have later := more (List.cons_ne_nil _ _)
      rw [List.cons_append, List.cons_append, List.intercalate_cons_cons, ← List.cons_append, later,
        List.intercalate_cons_cons, ← List.append_assoc (first ++ [sep])]

theorem mem_joined (member : c ∈ [sep].intercalate pieces) : c = sep ∨ ∃ piece ∈ pieces, c ∈ piece := by
  induction pieces with
  | nil => cases member
  | cons first rest more =>
    cases rest with
    | nil =>
      rw [List.intercalate_singleton] at member
      exact Or.inr ⟨first, List.mem_singleton_self _, member⟩
    | cons second rest =>
      rw [List.intercalate_cons_cons, List.append_assoc, List.mem_append, List.mem_append, List.mem_singleton] at member
      rcases member with inside | mark | later
      · exact Or.inr ⟨first, List.mem_cons_self .., inside⟩
      · exact Or.inl mark
      · refine (more later).imp_right fun ⟨piece, listed, inside⟩ => ⟨piece, List.mem_cons_of_mem _ listed, inside⟩

end Joined

-- The tag of a reference.
section Tags

variable {mark : Char} {front behind ref path tag : List Char}

theorem cutAtLast_marked (free : mark ∉ behind) :
    cutAtLast mark (front ++ mark :: behind) = some (front, behind) := by
  have after : ((front ++ mark :: behind).reverse.takeWhile (· != mark)).reverse = behind := by
    have other : ∀ c ∈ behind.reverse, (c != mark) = true := by
      intro c member
      rw [bne_iff_ne]
      rintro rfl
      exact free (List.mem_reverse.mp member)
    rw [List.reverse_append, List.reverse_cons, List.append_assoc, List.takeWhile_append_of_pos other, List.singleton_append,
      List.takeWhile_cons_of_neg (by simp), List.append_nil, List.reverse_reverse]
  have before : (front ++ mark :: behind).length - behind.length - 1 = front.length := by
    rw [List.length_append, List.length_cons]
    omega
  unfold cutAtLast
  simp only [after]
  rw [if_pos (List.mem_append_right _ (List.mem_cons_self ..)), before, List.take_left]

theorem last_mark (member : mark ∈ ref) : ∃ front behind, ref = front ++ mark :: behind ∧ mark ∉ behind := by
  obtain ⟨behind, front, shape, free⟩ := List.eq_append_cons_of_mem (List.mem_reverse.mpr member)
  refine ⟨front.reverse, behind.reverse, ?_, fun inside => free (List.mem_reverse.mp inside)⟩
  rw [← List.reverse_reverse ref, shape]
  simp

-- What a reference is cut into: the tag has neither a colon nor a slash.
theorem cutTag_parts (cut : cutTag ref = (path, tag)) :
    (':' ∉ tag ∧ '/' ∉ tag) ∧ (∀ c ∈ path, c ∈ ref) ∧ ∀ c ∈ tag, c ∈ ref ∨ c ∈ "latest".toList := by
  have bare : ':' ∉ "latest".toList ∧ '/' ∉ "latest".toList := by decide
  have whole : (ref, "latest".toList) = (path, tag) →
      (':' ∉ tag ∧ '/' ∉ tag) ∧ (∀ c ∈ path, c ∈ ref) ∧ ∀ c ∈ tag, c ∈ ref ∨ c ∈ "latest".toList := by
    rintro ⟨⟩
    exact ⟨bare, fun _ => id, fun _ => Or.inr⟩
  unfold cutTag at cut
  by_cases member : ':' ∈ ref
  · obtain ⟨front, behind, rfl, free⟩ := last_mark member
    rw [cutAtLast_marked free] at cut
    by_cases slash : '/' ∈ behind
    · exact whole ((if_pos slash).symm.trans cut)
    · obtain ⟨rfl, rfl⟩ := Prod.mk.inj ((if_neg slash).symm.trans cut)
      exact ⟨⟨free, slash⟩, fun c inside => List.mem_append_left _ inside,
        fun c inside => Or.inl (List.mem_append_right _ (List.mem_cons_of_mem _ inside))⟩
  · have none_ : cutAtLast ':' ref = none := if_neg member
    rw [none_] at cut
    exact whole cut

theorem cutTag_written (colon : ':' ∉ tag) (slash : '/' ∉ tag) : cutTag (path ++ ':' :: tag) = (path, tag) := by
  unfold cutTag
  rw [cutAtLast_marked colon]
  exact if_neg slash

end Tags

-- The registry, the organization and the name in a path.
def readPath (path : List Char) : Option (List Char) × List Char × List Char :=
  let (registry, parts) := cutRegistry (splitAt '/' path)
  (registry, ['/'].intercalate parts.dropLast, parts.getLastD [])

-- The parts that are not empty, with slashes between them.
def pathOf (registry : Option (List Char)) (organization name : List Char) : List Char :=
  ['/'].intercalate ([registry.getD [], organization, name].filter fun part => !part.isEmpty)

section Paths

variable {path first organization name : List Char} {registry : Option (List Char)} {pieces parts : List (List Char)}

theorem cutRegistry_parts (cut : cutRegistry pieces = (registry, parts)) :
    pieces = registry.toList ++ parts ∧ (∀ first ∈ registry, looksLikeRegistry first = true) ∧ (pieces ≠ [] → parts ≠ []) := by
  unfold cutRegistry at cut
  split at cut
  · rename_i first second rest
    by_cases looks : looksLikeRegistry first = true
    · obtain ⟨rfl, rfl⟩ := Prod.mk.inj ((if_pos looks).symm.trans cut)
      refine ⟨rfl, fun part member => ?_, fun _ => List.cons_ne_nil _ _⟩
      obtain rfl := Option.some.inj member
      exact looks
    · obtain ⟨rfl, rfl⟩ := Prod.mk.inj ((if_neg looks).symm.trans cut)
      exact ⟨rfl, nofun, id⟩
  · obtain ⟨rfl, rfl⟩ := Prod.mk.inj cut
    exact ⟨rfl, nofun, id⟩

theorem registry_filled (looks : looksLikeRegistry first = true) : first ≠ [] := by
  rintro rfl
  exact absurd looks (by decide)

-- A path of a name alone, and one of a registry and a name.
theorem readPath_name (free : '/' ∉ name) : readPath name = (none, [], name) := by
  unfold readPath
  rw [splitAt_absent free]
  rfl

theorem readPath_registry (looks : looksLikeRegistry first = true) (whole : '/' ∉ first) (free : '/' ∉ name) :
    readPath (first ++ '/' :: name) = (some first, [], name) := by
  unfold readPath
  have cut : cutRegistry [first, name] = (some first, [name]) := if_pos looks
  rw [splitAt_append, splitAt_absent whole, splitAt_absent free, List.singleton_append, cut]
  rfl

-- What is read of a path is what its pieces hold.
theorem readPath_parts (read : readPath path = (registry, organization, name)) :
    ∃ front, splitAt '/' path = registry.toList ++ (front ++ [name]) ∧ organization = ['/'].intercalate front ∧
      ∀ first ∈ registry, looksLikeRegistry first = true := by
  cases cut : cutRegistry (splitAt '/' path) with
  | mk found parts =>
    obtain ⟨shape, looks, filled⟩ := cutRegistry_parts cut
    unfold readPath at read
    rw [cut] at read
    obtain ⟨rfl, rest⟩ := Prod.mk.inj read
    obtain ⟨rfl, rfl⟩ := Prod.mk.inj rest
    have some_ : parts ≠ [] := by
      obtain ⟨first, others, pieces⟩ := splitAt_filled '/' path
      exact filled (pieces ▸ List.cons_ne_nil _ _)
    refine ⟨parts.dropLast, ?_, rfl, looks⟩
    rw [List.getLastD_eq_getLast?, List.getLast?_eq_some_getLast some_, Option.getD_some, List.dropLast_append_getLast, shape]

-- A path that is written of what was read is read as the same.
theorem readPath_written (read : readPath path = (registry, organization, name)) (named : name ≠ []) :
    readPath (pathOf registry organization name) = (registry, organization, name) := by
  obtain ⟨front, shape, joined, looks⟩ := readPath_parts read
  have free : ∀ piece ∈ splitAt '/' path, '/' ∉ piece := fun piece member => pieces_free member
  rw [shape] at free
  have whole : '/' ∉ name := free name (by simp)
  have kept : (!name.isEmpty) = true := by simpa using named
  by_cases empty : organization = []
  · rw [empty]
    cases registry with
    | none =>
      have written : pathOf none [] name = name := by simp [pathOf, kept]
      rw [written, readPath_name whole]
    | some first =>
      have looked := looks first rfl
      have written : pathOf (some first) [] name = first ++ '/' :: name := by simp [pathOf, kept, registry_filled looked]
      rw [written, readPath_registry looked (free first (by simp)) whole]
  · have some_ : front ≠ [] := by
      rintro rfl
      exact empty joined
    -- nothing is left out, so the path is the one that was read
    have same : pathOf registry organization name = path := by
      rw [← joined_splitAt '/' path, shape]
      cases registry with
      | none =>
        rw [Option.toList_none, List.nil_append, joined_last some_, ← joined]
        simp [pathOf, kept, empty]
      | some first =>
        have later : front ++ [name] ≠ [] := List.append_ne_nil_of_right_ne_nil _ (List.cons_ne_nil _ _)
        obtain ⟨second, rest, listed⟩ := List.exists_cons_of_ne_nil later
        rw [Option.toList_some, List.singleton_append, listed, List.intercalate_cons_cons, ← listed, joined_last some_, ← joined]
        simp [pathOf, kept, empty, registry_filled (looks first rfl)]
    rw [same, read]

theorem pathOf_chars (read : readPath path = (registry, organization, name)) :
    ∀ c ∈ pathOf registry organization name, c = '/' ∨ c ∈ path := by
  obtain ⟨front, shape, joined, -⟩ := readPath_parts read
  have inside : ∀ piece ∈ registry.toList ++ (front ++ [name]), ∀ c ∈ piece, c ∈ path := by
    rw [← shape]
    exact fun piece member => pieces_sub member
  intro c member
  rcases mem_joined member with slash | ⟨part, listed, held⟩
  · exact Or.inl slash
  · have part_ := (List.mem_filter.mp listed).1
    simp only [List.mem_cons, List.not_mem_nil, or_false] at part_
    rcases part_ with rfl | rfl | rfl
    · cases registry with
      | none => cases held
      | some first => exact Or.inr (inside first (by simp) c held)
    · rw [joined] at held
      rcases mem_joined held with slash | ⟨piece, before, within_⟩
      · exact Or.inl slash
      · exact Or.inr (inside piece (by simp [before]) c within_)
    · exact Or.inr (inside part (by simp) c held)

-- The name is missing behind a final slash, and only there.
theorem name_missing (read : readPath path = (registry, organization, name)) (filled : path ≠ []) :
    name = [] ↔ path.getLast? = some '/' := by
  obtain ⟨front, shape, -, -⟩ := readPath_parts read
  have free : '/' ∉ name := by
    have member : name ∈ splitAt '/' path := shape ▸ by simp
    exact pieces_free member
  have joined := joined_splitAt '/' path
  rw [shape, ← List.append_assoc] at joined
  by_cases alone : registry.toList ++ front = []
  · rw [alone, List.nil_append, List.intercalate_singleton] at joined
    subst joined
    refine ⟨fun none_ => absurd none_ filled, fun last => absurd (List.mem_of_getLast? last) free⟩
  · rw [joined_last alone] at joined
    rw [← joined]
    constructor
    · rintro rfl
      exact List.getLast?_concat
    · intro last
      by_cases named : name = []
      · exact named
      · rw [List.append_cons, List.getLast?_append_of_ne_nil _ named] at last
        exact absurd (List.mem_of_getLast? last) free

end Paths

-- The image with the given parts.
def imageOf (registry : Option (List Char)) (organization name tag : List Char) : Image where
  name := .text (String.ofList name)
  tag := String.ofList tag
  registry := registry.elim .null fun part => .text (String.ofList part)
  organization := if organization.isEmpty then .null else .text (String.ofList organization)

-- How a reference is read.
structure Reads (ref path tag : List Char) (registry : Option (List Char)) (organization name : List Char) : Prop where
  solid : ∀ c ∈ ref, Text.isBlank c = false
  cut : cutTag ref = (path, tag)
  placed : path ≠ []
  tagged : tag ≠ []
  parts : readPath path = (registry, organization, name)

section Written

variable {ref path tag organization name : List Char} {registry : Option (List Char)} {image : Image}

theorem ofChars_iff : ofChars ref = some image ↔ ∃ path tag registry organization name,
    Reads ref path tag registry organization name ∧ image = imageOf registry organization name tag := by
  cases cut : cutTag ref with
  | mk path tag =>
    cases parts : readPath path with
    | mk registry rest =>
      obtain ⟨organization, name⟩ := rest
      have made : ofChars ref = if ref.isEmpty || ref.any Text.isBlank then none
          else if path.isEmpty || tag.isEmpty then none else some (imageOf registry organization name tag) := by
        unfold readPath at parts
        obtain ⟨rfl, rest⟩ := Prod.mk.inj parts
        obtain ⟨rfl, rfl⟩ := Prod.mk.inj rest
        unfold ofChars
        rw [cut]
        rfl
      have filled : path ≠ [] → ref ≠ [] := by
        rintro some_ rfl
        exact some_ (Prod.mk.inj cut).1.symm
      rw [made]
      constructor
      · intro read
        split at read
        · cases read
        · rename_i solid
          split at read
          · cases read
          · rename_i given
            simp only [Bool.or_eq_true, List.isEmpty_iff, List.any_eq_true, not_or, not_exists, not_and,
              Bool.not_eq_true] at solid given
            exact ⟨path, tag, registry, organization, name, ⟨solid.2, cut, given.1, given.2, parts⟩,
              (Option.some.inj read).symm⟩
      · rintro ⟨_, _, _, _, _, ⟨solid, same, some_, marked, read⟩, rfl⟩
        obtain ⟨rfl, rfl⟩ := Prod.mk.inj (cut.symm.trans same)
        obtain ⟨rfl, rest⟩ := Prod.mk.inj (parts.symm.trans read)
        obtain ⟨rfl, rfl⟩ := Prod.mk.inj rest
        have bare : ref.any Text.isBlank = false := List.any_eq_false.mpr fun c member => by rw [solid c member]; decide
        rw [bare, Bool.or_false, List.isEmpty_eq_false_iff.mpr (filled some_), List.isEmpty_eq_false_iff.mpr some_,
          List.isEmpty_eq_false_iff.mpr marked]
        rfl

theorem texts_needed (parts : List (List Char)) :
    (parts.map fun part => Value.text (String.ofList part)).mapM Value.needText = .ok (parts.map String.ofList) := by
  induction parts with
  | nil => rfl
  | cons part parts more =>
    rw [List.map_cons, List.mapM_cons, more]
    rfl

-- A value that is a text, or not given in place of an empty one.
theorem given_cons {v : Value} {part : List Char} {values : List Value} {parts : List (List Char)}
    (shows : v = .text (String.ofList part) ∨ part = [] ∧ v = .null)
    (rest : values.filter Value.isGiven = (parts.filter fun part => !part.isEmpty).map fun part => .text (String.ofList part)) :
    (v :: values).filter Value.isGiven =
      ((part :: parts).filter fun part => !part.isEmpty).map fun part => .text (String.ofList part) := by
  have given : v.isGiven = !part.isEmpty := by
    rcases shows with rfl | ⟨rfl, rfl⟩
    · change (!(String.ofList part).isEmpty) = !part.isEmpty
      cases part <;> simp
    · rfl
  rw [List.filter_cons, List.filter_cons, given, rest]
  by_cases empty : part = []
  · rw [empty]
    rfl
  · have same : v = .text (String.ofList part) := shows.resolve_right fun ⟨none_, _⟩ => empty none_
    rw [List.isEmpty_eq_false_iff.mpr empty, same]
    rfl

theorem text_joined {parts : List (List Char)}
    (given : [image.registry, image.organization, image.name].filter Value.isGiven =
      parts.map fun part => .text (String.ofList part)) :
    image.text = .ok (String.ofList (['/'].intercalate parts ++ ':' :: image.tag.toList)) := by
  unfold text
  simp only [given, texts_needed]
  refine congrArg Except.ok ?_
  rw [← String.toList_inj, String.toList_append, String.toList_append, String.toList_intercalate, List.map_map,
    String.toList_ofList]
  simp [Function.comp_def]

theorem imageOf_text : (imageOf registry organization name tag).text =
    .ok (String.ofList (pathOf registry organization name ++ ':' :: tag)) := by
  have registered : (imageOf registry organization name tag).registry = .text (String.ofList (registry.getD [])) ∨
      registry.getD [] = [] ∧ (imageOf registry organization name tag).registry = .null := by
    cases registry with
    | none => exact Or.inr ⟨rfl, rfl⟩
    | some part => exact Or.inl rfl
  have organized : (imageOf registry organization name tag).organization = .text (String.ofList organization) ∨
      organization = [] ∧ (imageOf registry organization name tag).organization = .null := by
    cases organization with
    | nil => exact Or.inr ⟨rfl, rfl⟩
    | cons c rest => exact Or.inl rfl
  have joined := text_joined (given_cons registered (given_cons organized (@given_cons _ name [] [] (Or.inl rfl) rfl)))
  have tagged : (imageOf registry organization name tag).tag.toList = tag := String.toList_ofList
  rwa [tagged] at joined

-- What is written of an image with a name is read as the same parts.
theorem Reads.written (reads : Reads ref path tag registry organization name) (named : name ≠ []) :
    Reads (pathOf registry organization name ++ ':' :: tag) (pathOf registry organization name) tag registry organization name := by
  obtain ⟨⟨colon, slash⟩, paths, tags⟩ := cutTag_parts reads.cut
  have read := readPath_written reads.parts named
  refine ⟨fun c member => ?_, cutTag_written colon slash, ?_, reads.tagged, read⟩
  · have fixed : ∀ c ∈ ['/', ':'] ++ "latest".toList, Text.isBlank c = false := List.all_iff_forall_prop.mp (by decide)
    rcases List.mem_append.mp member with inside | behind
    · rcases pathOf_chars reads.parts c inside with rfl | held
      · exact fixed _ (by decide)
      · exact reads.solid c (paths c held)
    · rcases List.mem_cons.mp behind with rfl | held
      · exact fixed _ (by decide)
      · rcases tags c held with there | latest
        · exact reads.solid c there
        · exact fixed c (List.mem_append_right _ latest)
  · intro empty
    rw [empty] at read
    exact named (Prod.mk.inj (Prod.mk.inj read).2).2.symm

end Written

theorem strip_solid {s : List Char} (solid : ∀ c ∈ s, Text.isBlank c = false) : strip s = s := by
  have kept : ∀ t : List Char, (∀ c ∈ t, Text.isBlank c = false) → t.dropWhile Text.isBlank = t := by
    intro t bare
    cases t with
    | nil => rfl
    | cons c t => exact List.dropWhile_cons_of_neg (by rw [bare c (List.mem_cons_self ..)]; decide)
  unfold strip stripRight stripLeft
  rw [kept s solid, kept s.reverse fun c member => solid c (List.mem_reverse.mp member), List.reverse_reverse]

-- A reference that is read with a name is written as a text that is read as the same image. It has a tag, and
-- it has a name unless its path ends in a slash.
theorem reference_survives {ref : String} {image : Image} (read : parse ref = .ok image) :
    image.tag ≠ "" ∧
      (image.name = .text "" ↔ (cutTag (Text.strip ref).toList).1.getLast? = some '/') ∧
      (image.name ≠ .text "" → ∃ text, image.text = .ok text ∧ parse text = .ok image) := by
  have found : ofChars (Text.strip ref).toList = some image := by
    cases same : ofChars (Text.strip ref).toList with
    | none =>
      simp only [parse, same] at read
      cases read
    | some other =>
      simp only [parse, same] at read
      rw [Except.ok.inj read]
  obtain ⟨path, tag, registry, organization, name, reads, rfl⟩ := ofChars_iff.mp found
  have nameless : (imageOf registry organization name tag).name = .text "" ↔ name = [] := by
    unfold imageOf
    simp
  refine ⟨?_, ?_, fun named => ⟨_, imageOf_text, ?_⟩⟩
  · unfold imageOf
    simpa using reads.tagged
  · rw [nameless, reads.cut]
    exact name_missing reads.parts reads.placed
  · have written := reads.written (mt nameless.mpr named)
    have whole := ofChars_iff.mpr ⟨_, _, _, _, _, written, rfl⟩
    simp only [parse, Text.strip, String.toList_ofList, strip_solid written.solid, whole]

end Toolwrap.Image
