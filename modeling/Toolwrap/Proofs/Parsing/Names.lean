import Toolwrap.Docker.Basic
import Toolwrap.Proofs.Parsing.Tokens

-- Which names a description can have: the words of two small grammars, each with at most one line
-- feed behind it. The variables of arguments follow from their names.

namespace Toolwrap.Parsing

section Grammar

variable {c : Char} {text word rest : List Char} {more : Char → Bool} {kind : List Char → Prop}

-- A character of names, and then characters of another kind.
def Begun (more : Char → Bool) (text : List Char) : Prop :=
  ∃ c rest, text = c :: rest ∧ Argument.isNameChar c = true ∧ ∀ d ∈ rest, more d = true

def isStemChar (c : Char) : Bool := Argument.isNameChar c || c == '-'

-- The names of arguments: up to two dashes, and then what they are for.
def IsArgumentName (text : List Char) : Prop :=
  ∃ n ≤ 2, ∃ stem, Begun isStemChar stem ∧ text = List.replicate n '-' ++ stem

def IsComponentName (text : List Char) : Prop := Begun Component.isNameChar text

-- A text of one kind, as it is or with one line feed behind it.
def Ended (kind : List Char → Prop) (text : List Char) : Prop :=
  ∃ word, kind word ∧ (text = word ∨ text = word ++ ['\n'])

theorem Ended.closed (ended : Ended kind text) (closed : '\n' ∉ text) : kind text := by
  obtain ⟨word, fits, rfl | rfl⟩ := ended
  · exact fits
  · exact absurd (List.mem_append_right _ (List.mem_singleton_self _)) closed

-- What a name may be is said of its characters without the line feed at its end.
theorem begun_ended (begins : Argument.isNameChar c = true)
    (all : (if rest.getLast? = some '\n' then rest.dropLast else rest).all more = true) :
    Ended (Begun more) (c :: rest) := by
  rw [List.all_eq_true] at all
  by_cases last : rest.getLast? = some '\n'
  · rw [if_pos last] at all
    refine ⟨c :: rest.dropLast, ⟨c, _, rfl, begins, all⟩, Or.inr ?_⟩
    rw [List.cons_append, List.dropLast_append_getLast? _ last]
  · rw [if_neg last] at all
    exact ⟨c :: rest, ⟨c, rest, rfl, begins, all⟩, Or.inl rfl⟩

theorem stem_ended (stem : Argument.isStem text = true) : Ended (Begun isStemChar) text := by
  cases text with
  | nil => cases stem
  | cons c rest =>
    obtain ⟨begins, all⟩ := (Bool.and_eq_true _ _).mp stem
    exact begun_ended begins all

theorem dashed_ended {n : Nat} (few : n ≤ 2) (ended : Ended (Begun isStemChar) text) :
    Ended IsArgumentName (List.replicate n '-' ++ text) := by
  obtain ⟨stem, begun, rfl | rfl⟩ := ended
  · exact ⟨_, ⟨n, few, text, begun, rfl⟩, Or.inl rfl⟩
  · exact ⟨_, ⟨n, few, stem, begun, rfl⟩, Or.inr (List.append_assoc ..).symm⟩

theorem spelling_ended (spelled : Argument.isSpelling text = true) : Ended IsArgumentName text := by
  unfold Argument.isSpelling at spelled
  split at spelled
  · exact dashed_ended (Nat.le_refl 2) (stem_ended spelled)
  · exact dashed_ended (Nat.le_succ 1) (stem_ended spelled)
  · exact dashed_ended (Nat.zero_le 2) (stem_ended spelled)

theorem componentName_ended (named : Component.isName text = true) : Ended IsComponentName text := by
  cases text with
  | nil => cases named
  | cons c rest =>
    obtain ⟨begins, all⟩ := (Bool.and_eq_true _ _).mp named
    exact begun_ended begins all

end Grammar

section Variables

variable {text : List Char}

-- The characters of the variables of arguments.
def isVariableChar (c : Char) : Bool := ('A' ≤ c && c ≤ 'Z') || ('0' ≤ c && c ≤ '9') || c == '_'

def IsPlainName (text : List Char) : Prop := text ≠ [] ∧ ∀ c ∈ text, Argument.isNameChar c = true

def IsVariable (text : List Char) : Prop :=
  ∃ rest, text = "BW_PAR_".toList ++ rest ∧ rest ≠ [] ∧ ∀ c ∈ rest, isVariableChar c = true

theorem upper_variable {c : Char} (named : Argument.isNameChar c = true) :
    isVariableChar c.toUpper = true := by
  have all : ∀ n < 128, (!Argument.isNameChar (Char.ofNat n) ||
      isVariableChar (Char.ofNat n).toUpper) = true := by decide
  have found := @ascii_holds c (fun c => !Argument.isNameChar c || isVariableChar c.toUpper)
    all (nameChar_ascii named)
  simpa [named] using found

-- The dashes in front of a name are dropped, and the others become characters of names.
theorem plainChars_append {behind : List Char} (named : IsArgumentName text) :
    IsPlainName (Argument.plainChars text) ∧
      Argument.plainChars (text ++ behind) =
        Argument.plainChars text ++ behind.map fun c => if c == '-' then '_' else c := by
  obtain ⟨n, -, stem, ⟨c, rest, rfl, begins, all⟩, rfl⟩ := named
  have other : c ≠ '-' := by
    rintro rfl
    cases begins
  have dropped : ∀ behind, (List.replicate n '-' ++ c :: rest ++ behind).dropWhile (· == '-') =
      c :: rest ++ behind := by
    intro behind
    induction n with
    | zero => simp [other]
    | succ n shorter => simpa [List.replicate_succ] using shorter
  have whole := dropped []
  rw [List.append_nil, List.append_nil] at whole
  refine ⟨⟨?_, fun d member => ?_⟩, ?_⟩
  · rw [Argument.plainChars, whole]
    exact List.cons_ne_nil _ _
  · rw [Argument.plainChars, whole] at member
    obtain ⟨e, listed, rfl⟩ := List.mem_map.mp member
    by_cases dash : (e == '-') = true
    · rw [if_pos dash]
      decide
    · rw [if_neg dash]
      rcases List.mem_cons.mp listed with rfl | later
      · exact begins
      · simpa [isStemChar, dash] using all e later
  · rw [Argument.plainChars, Argument.plainChars, dropped, whole, List.map_append]

end Variables

theorem plainName_ended (ended : Ended IsArgumentName text) :
    Ended IsPlainName (Argument.plainChars text) := by
  obtain ⟨word, named, rfl | rfl⟩ := ended
  · exact ⟨_, (@plainChars_append text [] named).1, Or.inl rfl⟩
  · obtain ⟨plain, shape⟩ := @plainChars_append word ['\n'] named
    exact ⟨_, plain, Or.inr shape⟩

theorem variable_ended (ended : Ended IsPlainName text) :
    Ended IsVariable ("BW_PAR_".toList ++ text.map Char.toUpper) := by
  have capitals : ∀ {word}, IsPlainName word → IsVariable ("BW_PAR_".toList ++ word.map Char.toUpper) := by
    intro word plain
    refine ⟨_, rfl, by simpa using plain.1, fun c member => ?_⟩
    obtain ⟨d, listed, rfl⟩ := List.mem_map.mp member
    exact upper_variable (plain.2 d listed)
  obtain ⟨word, plain, rfl | rfl⟩ := ended
  · exact ⟨_, capitals plain, Or.inl rfl⟩
  · refine ⟨_, capitals plain, Or.inr ?_⟩
    rw [List.map_append, List.append_assoc]
    rfl

-- An argument whose names and variables are words of their grammars.
structure Named (a : Argument) : Prop where
  spellings : ∀ spelling ∈ a.spellings, Ended IsArgumentName spelling.toList
  plain : Ended IsPlainName a.plainName.toList
  variable_ : Ended IsVariable a.envName.toList

section Reading

variable {a : Argument} {kind : Argument.Kind} {fields : Fields} {name spelling : String}
  {alternatives : List String}

-- A check of each member of a list passes for all of them.
theorem all_checked {α : Type} {check : α → Checked Unit} {l : List α} {u : PUnit}
    (ok : (forIn l PUnit.unit fun x _ => do
      check x
      pure (ForInStep.yield PUnit.unit) : Checked PUnit) = .ok u) : ∀ x ∈ l, check x = .ok () := by
  induction l with
  | nil => exact nofun
  | cons x l others =>
    rw [List.forIn_cons] at ok
    obtain ⟨step, first, rest⟩ := Checked.bind_ok ok
    obtain ⟨⟨⟩, checked, stepped⟩ := Checked.bind_ok first
    obtain rfl := Except.ok.inj stepped
    intro y member
    rcases List.mem_cons.mp member with rfl | later
    · exact checked
    · exact others rest y later

theorem mapM_checked {α β : Type} {f : α → Checked β} {l : List α} {m : List β} (ok : l.mapM f = .ok m) :
    ∀ b ∈ m, ∃ a ∈ l, f a = .ok b := by
  induction l generalizing m with
  | nil =>
    obtain rfl := Except.ok.inj ok
    exact nofun
  | cons a l others =>
    rw [List.mapM_cons] at ok
    obtain ⟨b, first, ok⟩ := Checked.bind_ok ok
    obtain ⟨rest, later, ok⟩ := Checked.bind_ok ok
    obtain rfl := Except.ok.inj ok
    intro c member
    rcases List.mem_cons.mp member with rfl | behind
    · exact ⟨a, List.mem_cons_self .., first⟩
    · obtain ⟨d, listed, found⟩ := others later c behind
      exact ⟨d, List.mem_cons_of_mem _ listed, found⟩

theorem checkSpelling_spelled (ok : Argument.checkSpelling spelling = .ok ()) :
    Argument.isSpelling spelling.toList = true := by
  unfold Argument.checkSpelling at ok
  split at ok
  · cases ok
  · split at ok
    · assumption
    · cases ok

theorem checkNames_spelled (ok : Argument.checkNames name alternatives = .ok ()) :
    ∀ spelling ∈ name :: alternatives, Argument.isSpelling spelling.toList = true := by
  unfold Argument.checkNames at ok
  obtain ⟨_, looped, _⟩ := Checked.bind_ok ok
  exact fun spelling member => checkSpelling_spelled (all_checked looped spelling member)

theorem fields_spelled (read : Argument.ofFields kind fields = .ok a) :
    ∀ spelling ∈ a.spellings, Argument.isSpelling spelling.toList = true := by
  unfold Argument.ofFields at read
  obtain ⟨_, _, read⟩ := Checked.bind_ok read
  obtain ⟨name, _, read⟩ := Checked.bind_ok read
  obtain ⟨⟨⟩, checked, read⟩ := Checked.bind_ok read
  obtain ⟨_, _, read⟩ := Checked.bind_ok read
  obtain ⟨_, _, read⟩ := Checked.bind_ok read
  obtain rfl := Except.ok.inj read
  exact checkNames_spelled checked

theorem value_spelled {v : Value} (read : Argument.ofValue v = .ok a) :
    ∀ spelling ∈ a.spellings, Argument.isSpelling spelling.toList = true := by
  unfold Argument.ofValue at read
  split at read
  · unfold Argument.ofMapping at read
    dsimp only at read
    split at read
    · cases read
    · split at read
      · cases read
      · obtain ⟨_, _, read⟩ := Checked.bind_ok read
        exact fields_spelled read
  · cases read

theorem spelled_named (spelled : ∀ spelling ∈ a.spellings, Argument.isSpelling spelling.toList = true) :
    Named a := by
  have plain : Ended IsPlainName (Argument.plainChars a.name.toList) :=
    plainName_ended (spelling_ended (spelled a.name (List.mem_cons_self ..)))
  refine ⟨fun spelling member => spelling_ended (spelled spelling member), ?_, ?_⟩
  · rwa [Argument.plainName, String.toList_ofList]
  · have shape : a.envName.toList =
        "BW_PAR_".toList ++ (Argument.plainChars a.name.toList).map Char.toUpper := by
      simp [Argument.envName]
    rw [shape]
    exact variable_ended plain

theorem volumes_spelled {d : Docker} {A : List Argument} (read : d.volumeArguments = .ok A) :
    ∀ a ∈ A, ∀ spelling ∈ a.spellings, Argument.isSpelling spelling.toList = true := by
  intro a member
  obtain ⟨v, _, found⟩ := mapM_checked read a member
  exact fields_spelled found

theorem readName_named {v : Value} (read : Component.readName v = .ok name) :
    Component.isName name.toList = true := by
  unfold Component.readName at read
  split at read
  · split at read
    · obtain rfl := Except.ok.inj read
      assumption
    · cases read
  · cases read

theorem component_parts {v : Value} {base : Path} {origin : Option Path} {c : Component}
    (read : Component.ofValue v base origin = .ok c) :
    Component.isName c.name.toList = true ∧ ∃ specs, readArguments specs = .ok c.arguments := by
  unfold Component.ofValue at read
  split at read
  · unfold Component.ofMapping at read
    obtain ⟨_, _, read⟩ := Checked.bind_ok read
    dsimp only at read
    split at read
    · cases read
    · obtain ⟨resources, _, read⟩ := Checked.bind_ok read
      obtain ⟨requirements, _, read⟩ := Checked.bind_ok read
      obtain ⟨arguments, checked, read⟩ := Checked.bind_ok read
      obtain ⟨defaults, _, read⟩ := Checked.bind_ok read
      obtain ⟨platforms, _, read⟩ := Checked.bind_ok read
      obtain ⟨name, named, read⟩ := Checked.bind_ok read
      split at read
      · cases read
      · split at read
        · cases read
        · obtain ⟨_, _, read⟩ := Checked.bind_ok read
          obtain rfl := Except.ok.inj read
          exact ⟨readName_named named, _, checked⟩
  · cases read

end Reading

-- The names of arguments, of the arguments that take the directories of volumes, and of components
-- are words of their grammars, each with at most one line feed behind it.
theorem accepted_names (v : Value) (base : Path) (origin : Option Path) (d : Docker) :
    (∀ a, Argument.ofValue v = .ok a → Named a) ∧
      (∀ A, d.volumeArguments = .ok A → ∀ a ∈ A, Named a) ∧
      ∀ c, Component.ofValue v base origin = .ok c → Ended IsComponentName c.name.toList :=
  ⟨fun _ read => spelled_named (value_spelled read),
    fun _ read a member => spelled_named (volumes_spelled read a member),
    fun _ read => componentName_ended (component_parts read).1⟩

theorem argumentName_closed {text : List Char} (named : IsArgumentName text) : '\n' ∉ text := by
  obtain ⟨n, _, stem, ⟨c, rest, rfl, begins, all⟩, rfl⟩ := named
  intro member
  rcases List.mem_append.mp member with dash | inside
  · exact absurd (List.eq_of_mem_replicate dash) (by decide)
  · rcases List.mem_cons.mp inside with rfl | later
    · cases begins
    · cases all _ later

-- A name that ends in a line feed is read, and is no word of the grammar.
theorem feed_accepted : ∃ a, Argument.ofValue (.map [(.text "name", .text "--size\n")]) = .ok a ∧
    ¬IsArgumentName a.name.toList :=
  ⟨_, rfl, fun named => argumentName_closed named (by decide)⟩

-- Arguments of a description are told apart by a wrapper if none of their names ends in a line feed.
theorem read_accepted {specs : Value} {A : List Argument} (read : readArguments specs = .ok A)
    (closed : ∀ a ∈ A, ∀ spelling ∈ a.spellings, '\n' ∉ spelling.toList) : Accepted A := by
  unfold readArguments at read
  obtain ⟨given, _, read⟩ := Checked.bind_ok read
  obtain ⟨arguments, made, read⟩ := Checked.bind_ok read
  obtain ⟨⟨⟩, checked, read⟩ := Checked.bind_ok read
  obtain rfl := Except.ok.inj read
  refine ⟨checked, fun a member spelling listed => ⟨?_, closed a member spelling listed⟩⟩
  obtain ⟨v, _, found⟩ := mapM_checked made a member
  exact value_spelled found spelling listed

end Toolwrap.Parsing
