import Toolwrap.Argument.Read
import Toolwrap.Proofs.Running.Patterns
import Toolwrap.Proofs.Running.Variables
import Toolwrap.Wrapper.Parsing
-- The command line of a wrapper, read from left to right: what each token means, what is
-- stored for it, and where reading ends.

namespace Toolwrap.Parsing

open Wrapper

-- What becomes of a value where one may be there already.
inductive Rule where
  | once
  | joined (separator : String)
  | last

def Rule.store : Rule → Option String → String → Option String
  | .once, none, value => some value
  | .once, some _, _ => none
  | .joined _, none, value => some value
  | .joined separator, some before, value => some (before ++ separator ++ value)
  | .last, _, value => some value

-- What a spelling is for: a flag stores a text of its own, anything else takes a value.
inductive Target where
  | flag (x text : String)
  | value (x : String) (rule : Rule)

def ruleOf (a : Argument) : Rule := if a.multiple then .joined a.separatorText else .once

def targetOf (a : Argument) : Target :=
  match a.body.stored? with
  | some stored => .flag a.envName (truthText stored)
  | none => .value a.envName (ruleOf a)

-- A spelling without a dash names a positional argument, and is no option.
def isOption (spelling : String) (a : Argument) : Bool :=
  passing spelling != .positional && a.spellings.contains spelling

def target? (A : List Argument) (spelling : String) : Option Target :=
  match A.find? (isOption spelling) with
  | some a => some (targetOf a)
  | none => (metaFlags.lookup spelling).map fun x => .value x .last

-- The text in front of the first equals sign, and everything behind it.
def attached? (token : String) : Option (String × String) :=
  match token.toList.dropWhile (· != '=') with
  | [] => none
  | _ :: behind => some (String.ofList (token.toList.takeWhile (· != '=')), String.ofList behind)

inductive Token where
  | help
  | version
  | flag (x text : String)
  | value (x : String) (rule : Rule)
  | attached (x : String) (rule : Rule) (value : String)
  | terminator
  | unknown
  | positional

-- What a token is that names no option.
def otherToken (token : String) : Token :=
  match token.toList with
  | ['-', '-'] => .terminator
  | '-' :: _ :: _ => .unknown
  | _ => .positional

def attachedToken (A : List Argument) (token : String) : Token :=
  match attached? token with
  | none => otherToken token
  | some (front, value) =>
    match target? A front with
    | some (.value x rule) => .attached x rule value
    | _ => otherToken token

def tokenOf (A : List Argument) (token : String) : Token :=
  if token = "-h" ∨ token = "--help" then .help
  else if token = "--version" then .version
  else
    match target? A token with
    | some (.flag x text) => .flag x text
    | some (.value x rule) => .value x rule
    | none => attachedToken A token

-- What was stored so far: the values of variables, and the positional arguments in order.
structure Stored where
  values : String → Option String
  positionals : List String

def Stored.set (stored : Stored) (x value : String) : Stored :=
  { stored with values := fun y => if y = x then some value else stored.values y }

def Stored.give (stored : Stored) (x : String) (rule : Rule) (value : String) : Option Stored :=
  (rule.store (stored.values x) value).map (stored.set x)

def Stored.add (stored : Stored) (more : List String) : Stored :=
  { stored with positionals := stored.positionals ++ more }

inductive Outcome where
  | stored (stored : Stored)
  | exits (code : Nat)

def read (A : List Argument) : List String → Stored → Outcome
  | [], stored => .stored stored
  | token :: rest, stored =>
    match tokenOf A token with
    | .help => .exits 0
    | .version => .exits 0
    | .flag x text => read A rest (stored.set x text)
    | .value x rule =>
      match rest with
      | [] => .exits 1
      | value :: rest =>
        match stored.give x rule value with
        | none => .exits 1
        | some stored => read A rest stored
    | .attached x rule value =>
      match stored.give x rule value with
      | none => .exits 1
      | some stored => read A rest stored
    | .terminator => .stored (stored.add rest)
    | .unknown => .exits 1
    | .positional => read A rest (stored.add [token])

-- What is stored before anything is read: nothing of the arguments, and the variables
-- around them as they are.
def start (A : List Argument) (around : String → Option String) : Stored where
  values x := if x ∈ A.map Argument.envName then none else around x
  positionals := []

-- Spellings that are names as a whole, the variables that they lead to, and the patterns
-- that they make.

open Shell Running

-- The grammar of names without the line feed that it lets through at the end.
def IsWhole (spelling : String) : Prop :=
  Argument.isSpelling spelling.toList = true ∧ '\n' ∉ spelling.toList

section Characters

variable {c : Char} {text : List Char}

theorem nameChar_ascii (named : Argument.isNameChar c = true) : c.toNat < 128 := by
  simp only [Argument.isNameChar, Bool.or_eq_true, Bool.and_eq_true, decide_eq_true_eq,
    beq_iff_eq, Char.le_def, UInt32.le_iff_toNat_le] at named
  have z : 'z'.val.toNat = 122 := rfl
  have upper : 'Z'.val.toNat = 90 := rfl
  have nine : '9'.val.toNat = 57 := rfl
  change c.val.toNat < 128
  rcases named with ((small | capital) | digit) | rfl
  · omega
  · omega
  · omega
  · decide

-- What is true of all ASCII characters can be looked up.
theorem ascii_holds {p : Char → Bool} (all : ∀ n < 128, p (Char.ofNat n) = true)
    (small : c.toNat < 128) : p c = true := by
  have found := all c.toNat small
  rwa [Char.ofNat_toNat] at found

theorem nameChar_tame (named : Argument.isNameChar c = true ∨ c = '-') :
    isTame c = true ∧ c ≠ '\\' ∧ c ≠ '=' := by
  rcases named with named | rfl
  · have all : ∀ n < 128, (!Argument.isNameChar (Char.ofNat n) || (isTame (Char.ofNat n) &&
        Char.ofNat n != '\\' && Char.ofNat n != '=')) = true := by decide
    have found := @ascii_holds c (fun c => !Argument.isNameChar c || (isTame c && c != '\\' && c != '='))
      all (nameChar_ascii named)
    simpa [named, and_assoc] using found
  · decide

-- What stands in the name of a variable may stand in a spelling.
theorem named_nameChar (named : isNameChar c = true) : Argument.isNameChar c = true := by
  delta isNameChar Char.isAlphanum Char.isAlpha Char.isUpper Char.isLower Char.isDigit at named
  simp only [Bool.or_eq_true, Bool.and_eq_true, decide_eq_true_eq, beq_iff_eq, ge_iff_le] at named
  simp only [Argument.isNameChar, Bool.or_eq_true, Bool.and_eq_true, decide_eq_true_eq,
    beq_iff_eq, Char.le_def]
  rcases named with ((capital | small) | digit) | rfl
  · exact Or.inl (Or.inl (Or.inr capital))
  · exact Or.inl (Or.inl (Or.inl small))
  · exact Or.inl (Or.inr digit)
  · exact Or.inr rfl

theorem nameChar_upper (named : Argument.isNameChar c = true) :
    isNameChar c.toUpper = true := by
  have all : ∀ n < 128, (!Argument.isNameChar (Char.ofNat n) ||
      isNameChar (Char.ofNat n).toUpper) = true := by decide
  have found := @ascii_holds c (fun c => !Argument.isNameChar c || isNameChar c.toUpper)
    all (nameChar_ascii named)
  simpa [named] using found

theorem stem_chars (stem : Argument.isStem text = true) (closed : '\n' ∉ text) :
    text ≠ [] ∧ ∀ c ∈ text, Argument.isNameChar c = true ∨ c = '-' := by
  cases text with
  | nil => cases stem
  | cons c rest =>
    have open_ : rest.getLast? ≠ some '\n' :=
      fun last => closed (List.mem_cons_of_mem _ (List.mem_of_mem_getLast? last))
    simp only [Argument.isStem, Bool.and_eq_true, if_neg open_, List.all_eq_true, Bool.or_eq_true,
      beq_iff_eq] at stem
    refine ⟨List.cons_ne_nil _ _, fun d member => ?_⟩
    rcases List.mem_cons.mp member with rfl | later
    · exact Or.inl stem.1
    · exact stem.2 d later

end Characters

section Spellings

variable {spelling : String} (whole : IsWhole spelling)

include whole

theorem spelling_chars :
    spelling.toList ≠ [] ∧ ∀ c ∈ spelling.toList, Argument.isNameChar c = true ∨ c = '-' := by
  obtain ⟨named, closed⟩ := whole
  unfold Argument.isSpelling at named
  split at named
  · rename_i stem shape
    rw [shape] at closed ⊢
    have inner := stem_chars named (fun found => closed (by simp [found]))
    refine ⟨List.cons_ne_nil _ _, fun c member => ?_⟩
    rcases List.mem_cons.mp member with rfl | later
    · exact Or.inr rfl
    · rcases List.mem_cons.mp later with rfl | last
      · exact Or.inr rfl
      · exact inner.2 c last
  · rename_i stem _ shape
    rw [shape] at closed ⊢
    have inner := stem_chars named (fun found => closed (by simp [found]))
    refine ⟨List.cons_ne_nil _ _, fun c member => ?_⟩
    rcases List.mem_cons.mp member with rfl | later
    · exact Or.inr rfl
    · exact inner.2 c later
  · exact stem_chars named closed

end Spellings

-- The variables of arguments are variables and nothing else.
section Names

variable {a : Argument} (whole : IsWhole a.name)

theorem prefixed_own {rest : List Char} (named : ∀ c ∈ rest, isNameChar c = true) :
    isOwn ("BW_" ++ String.ofList rest) = true := by
  have shape : ("BW_" ++ String.ofList rest).toList = ['B', 'W', '_'] ++ rest := by simp
  have front : ∀ y ∈ "_" :: "OPTIND" :: Session.facts, y.toList.take 3 ≠ ['B', 'W', '_'] := by decide
  rw [isOwn, Bool.and_eq_true]
  constructor
  · rw [isName, shape, List.cons_append, Bool.and_eq_true, List.all_eq_true]
    refine ⟨by decide, fun c member => ?_⟩
    have fixed : ∀ d ∈ ['W', '_'], isNameChar d = true :=
      List.all_iff_forall_prop.mp (by decide)
    rcases List.mem_append.mp member with inside | behind
    · exact fixed c inside
    · exact named c behind
  · rw [List.contains_eq_mem, Bool.not_eq_true', decide_eq_false_iff_not]
    intro listed
    refine front _ listed ?_
    rw [shape]
    rfl

include whole

theorem plainChars_named : ∀ c ∈ (Argument.plainChars a.name.toList).map Char.toUpper,
    isNameChar c = true := by
  intro c member
  obtain ⟨d, found, rfl⟩ := List.mem_map.mp member
  obtain ⟨e, kept, rfl⟩ := List.mem_map.mp found
  have listed : e ∈ a.name.toList := (List.dropWhile_sublist _).mem kept
  rcases (spelling_chars whole).2 e listed with named | rfl
  · by_cases dash : (e == '-') = true
    · rw [if_pos dash]
      decide
    · rw [if_neg dash]
      exact nameChar_upper named
  · decide

theorem envName_own : isOwn a.envName = true := by
  have shape : a.envName = "BW_" ++ String.ofList ("PAR_".toList ++
      (Argument.plainChars a.name.toList).map Char.toUpper) := by
    rw [Argument.envName, ← String.toList_inj]
    simp
  rw [shape]
  refine prefixed_own fun c member => ?_
  have fixed : ∀ d ∈ "PAR_".toList, isNameChar d = true :=
    List.all_iff_forall_prop.mp (by decide)
  rcases List.mem_append.mp member with inside | behind
  · exact fixed c inside
  · exact plainChars_named whole c behind

omit whole in
theorem envName_apart {x : String} (other : x.toList.take 7 ≠ "BW_PAR_".toList) : a.envName ≠ x := by
  rintro rfl
  refine other ?_
  rw [Argument.envName, String.toList_append]
  exact List.take_left' rfl

end Names

end Toolwrap.Parsing
