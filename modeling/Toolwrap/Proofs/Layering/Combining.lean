import Mathlib.Data.List.Basic
import Toolwrap.Docker.Layers

-- What becomes of the layers of an environment when they are combined: in each place of the wrapper
-- the texts that are not empty, on lines of their own, and everything else one behind the other. So
-- it does not matter how layers are grouped, and a layer that adds nothing may be there or not.

namespace Toolwrap.Layering

open Shell Wrapper Docker

section Lines

variable {before behind inner others : List String}

theorem unlines_front (filled : inner ≠ []) (also : others ≠ [])
    (same : Text.unlines inner = Text.unlines others) :
    Text.unlines (before ++ inner) = Text.unlines (before ++ others) := by
  by_cases first : before = []
  · rw [first, List.nil_append, List.nil_append, same]
  · unfold Text.unlines at same ⊢
    rw [String.intercalate_append_of_ne_nil first filled,
      String.intercalate_append_of_ne_nil first also, same]

-- Lines that are put together stand in a text as they would line by line.
theorem unlines_nested (filled : inner ≠ []) :
    Text.unlines (before ++ Text.unlines inner :: behind) = Text.unlines (before ++ (inner ++ behind)) := by
  refine unlines_front (List.cons_ne_nil _ _) (List.append_ne_nil_of_left_ne_nil filled _) ?_
  unfold Text.unlines
  by_cases last : behind = []
  · rw [last, List.append_nil, String.intercalate_singleton]
  · rw [String.intercalate_cons_of_ne_nil last, String.intercalate_append_of_ne_nil filled last]

theorem unlines_filled {s : String} (filled : s ≠ "") : Text.unlines (s :: others) ≠ "" := by
  unfold Text.unlines
  cases others with
  | nil => rwa [String.intercalate_singleton]
  | cons t others =>
    rw [String.intercalate_cons_cons]
    simp [filled]

end Lines

section Sections

variable {parts before behind : List String}

theorem joinSections_kept (parts : List String) : joinSections parts = Text.unlines (parts.filter (· ≠ "")) := by
  have same : (fun s : String => !s.isEmpty) = fun s => decide (s ≠ "") := by
    funext s
    rw [Bool.eq_iff_iff]
    simp
  unfold joinSections
  rw [same]

theorem joinSections_single (s : String) : joinSections [s] = s := by
  rw [joinSections_kept]
  by_cases empty : s = ""
  · rw [empty]
    rfl
  · rw [List.filter_cons_of_pos (by simpa using empty)]
    exact String.intercalate_singleton

-- A join of sections counts as its sections do. It is split off whether any of them is there, since
-- a join of none is empty and is left out itself.
theorem joinSections_nested :
    joinSections (before ++ joinSections parts :: behind) = joinSections (before ++ (parts ++ behind)) := by
  simp only [joinSections_kept, List.filter_append]
  cases kept : parts.filter (· ≠ "") with
  | nil => rfl
  | cons s rest =>
    have listed : s ∈ parts.filter (· ≠ "") := by
      rw [kept]
      exact List.mem_cons_self ..
    have filled : s ≠ "" := by simpa using (List.mem_filter.mp listed).2
    rw [List.filter_cons_of_pos (by simpa using unlines_filled filled)]
    exact unlines_nested (List.cons_ne_nil _ _)

end Sections

-- The places of a wrapper into which a layer puts text.
inductive Slot where
  | preParse | parsers | postParse

def Slot.text : Slot → Layer → String
  | preParse, layer => layer.preParse
  | parsers, layer => layer.parsers
  | postParse, layer => layer.postParse

section Combining

variable {a b c : Layer}

theorem same_layer (texts : ∀ slot : Slot, slot.text a = slot.text b) (params : a.extraParams = b.extraParams)
    (inputs : a.inputs = b.inputs) : a = b := by
  cases a
  cases b
  have first := texts .preParse
  have second := texts .parsers
  have third := texts .postParse
  simp only [Slot.text] at first second third params inputs
  rw [first, second, third, params, inputs]

theorem combine_text (slot : Slot) (a b : Layer) : slot.text (a.combine b) = joinSections [slot.text a, slot.text b] := by
  cases slot <;> rfl

theorem combine_assoc (a b c : Layer) : (a.combine b).combine c = a.combine (b.combine c) := by
  refine same_layer (fun slot => ?_) String.append_assoc (List.append_assoc ..)
  simp only [combine_text]
  have left := @joinSections_nested [slot.text a, slot.text b] [] [slot.text c]
  have right := @joinSections_nested [slot.text b, slot.text c] [slot.text a] []
  exact left.trans right.symm

theorem empty_combine (a : Layer) : Layer.empty.combine a = a := by
  refine same_layer (fun slot => ?_) String.empty_append (List.nil_append _)
  rw [combine_text]
  cases slot <;> exact joinSections_single _

theorem combine_empty (a : Layer) : a.combine .empty = a := by
  refine same_layer (fun slot => ?_) String.append_empty (List.append_nil _)
  rw [combine_text]
  have silent : slot.text .empty = joinSections [] := by cases slot <;> rfl
  rw [silent, ← List.singleton_append, joinSections_nested]
  exact joinSections_single _

instance : Std.Associative Layer.combine := ⟨combine_assoc⟩

end Combining

-- What layers are combined into, from any layer on.
section Folded

theorem folded_text (slot : Slot) (first : Layer) (layers : List Layer) :
    slot.text (layers.foldl Layer.combine first) = joinSections (slot.text first :: layers.map slot.text) := by
  induction layers generalizing first with
  | nil => exact (joinSections_single _).symm
  | cons layer layers more =>
    rw [List.foldl_cons, more, combine_text]
    exact @joinSections_nested _ [] _

theorem folded_params (first : Layer) (layers : List Layer) :
    (layers.foldl Layer.combine first).extraParams = first.extraParams ++ String.join (layers.map (·.extraParams)) := by
  induction layers generalizing first with
  | nil => exact String.append_empty.symm
  | cons layer layers more =>
    rw [List.foldl_cons, more, List.map_cons, String.join_cons, ← String.append_assoc]
    rfl

theorem folded_inputs (first : Layer) (layers : List Layer) :
    (layers.foldl Layer.combine first).inputs = first.inputs ++ layers.flatMap (·.inputs) := by
  induction layers generalizing first with
  | nil => exact (List.append_nil _).symm
  | cons layer layers more =>
    rw [List.foldl_cons, more, List.flatMap_cons, ← List.append_assoc]
    rfl

theorem combined_text (slot : Slot) (layers : List Layer) :
    slot.text (.combineAll layers) = joinSections (layers.map slot.text) := by
  unfold Layer.combineAll
  rw [folded_text]
  cases slot <;> rfl

theorem combined_append (front back : List Layer) :
    Layer.combineAll (front ++ back) = (Layer.combineAll front).combine (.combineAll back) := by
  have later := @List.foldl_assoc _ Layer.combine _ back (Layer.combineAll front) .empty
  rw [combine_empty] at later
  unfold Layer.combineAll at later ⊢
  rw [List.foldl_append, later]

-- A layer that is off may stand as the empty one, or may be left out.
theorem folded_present (first : Layer) (layers : List (Option Layer)) :
    (layers.map (·.getD .empty)).foldl Layer.combine first = (layers.filterMap id).foldl Layer.combine first := by
  induction layers generalizing first with
  | nil => rfl
  | cons layer layers more =>
    cases layer with
    | none =>
      rw [List.map_cons, List.foldl_cons, Option.getD_none, combine_empty, more]
      rfl
    | some layer => exact more _

end Folded

-- The layers of a container that may be empty: nothing else than that they are off makes them so.
section Silent

theorem commented_filled {s : String} {script : Script} : Script.render (.comment s :: script) ≠ "" := by
  unfold Script.render
  rw [scriptLines, Command.lines]
  refine unlines_filled ?_
  split <;> simp [Line.text]

variable (d : Docker) (c : Component) (image : String) (inputs : List Argument)

theorem volumesLayer_empty : d.volumesLayer inputs = .empty ↔ inputs = [] := by
  constructor
  · intro silent
    exact congrArg Layer.inputs silent
  · rintro rfl
    rfl

theorem chownLayer_empty : d.chownLayer c image = .empty ↔
    d.chown = false ∨ ∀ a ∈ c.arguments, ¬ (a.body.isFile = true ∧ a.isOutput = true) := by
  have off : (!d.chown || (c.arguments.filter fun a => a.body.isFile && a.isOutput).isEmpty) = true ↔
      d.chown = false ∨ ∀ a ∈ c.arguments, ¬ (a.body.isFile = true ∧ a.isOutput = true) := by
    simp [List.filter_eq_nil_iff]
  rw [← off]
  unfold Docker.chownLayer
  dsimp only
  split
  · rename_i holds
    exact iff_of_true rfl holds
  · rename_i fails
    refine iff_of_false (fun silent => ?_) fails
    exact commented_filled (congrArg Layer.postParse silent)

end Silent

-- Layers are a monoid, and a list of them comes to its texts place by place. The list may be cut
-- anywhere, and a layer that is off may be left out of it.
theorem layers_combined :
    (∀ (slot : Slot) (layers : List Layer),
      slot.text (.combineAll layers) = "\n".intercalate ((layers.map slot.text).filter (· ≠ ""))) ∧
    (∀ layers : List Layer,
      (Layer.combineAll layers).extraParams = String.join (layers.map (·.extraParams)) ∧
        (Layer.combineAll layers).inputs = layers.flatMap (·.inputs)) ∧
    (∀ a b c : Layer, (a.combine b).combine c = a.combine (b.combine c)) ∧
    (∀ a : Layer, Layer.empty.combine a = a ∧ a.combine .empty = a) ∧
    (∀ front back : List Layer,
      Layer.combineAll (front ++ back) = (Layer.combineAll front).combine (.combineAll back)) ∧
    (∀ layers : List (Option Layer),
      Layer.combineAll (layers.map (·.getD .empty)) = Layer.combineAll (layers.filterMap id)) ∧
    (∀ (d : Docker) (c : Component) (image : String) (inputs : List Argument),
      (d.volumesLayer inputs = .empty ↔ inputs = []) ∧
        (d.chownLayer c image = .empty ↔
          d.chown = false ∨ ∀ a ∈ c.arguments, ¬ (a.body.isFile = true ∧ a.isOutput = true))) := by
  refine ⟨fun slot layers => ?_, fun layers => ⟨?_, ?_⟩, combine_assoc, fun a => ⟨empty_combine a, combine_empty a⟩,
    combined_append, folded_present .empty, fun d c image inputs =>
      ⟨volumesLayer_empty d inputs, chownLayer_empty d c image⟩⟩
  · rw [combined_text, joinSections_kept]
    rfl
  · exact (folded_params .empty layers).trans String.empty_append
  · exact (folded_inputs .empty layers).trans (List.nil_append _)

end Toolwrap.Layering
