import Toolwrap.Proofs.Running.Numerals

-- How arithmetic expressions are read, token by token: operands, operators by how tightly they
-- bind, and what is assigned.

namespace Toolwrap.Running

open Shell
open Shell.Arithmetic (Cursor Expr Token)

section Steps

variable {α β : Type} {a : α} {c d : Cursor} {x : Arithmetic.Reader α} {f : α → Arithmetic.Reader β}

theorem reader_bind (ran : x c = (a, d)) : (x >>= f) c = f a d := by
  simp only [bind, StateT.bind, ran]

theorem reader_get : (get : Arithmetic.Reader Cursor) c = (c, c) := rfl

theorem reader_modify {change : Cursor → Cursor} : (modify change : Arithmetic.Reader Unit) c = ((), change c) := rfl

theorem reader_pure : (pure a : Arithmetic.Reader α) c = (a, c) := rfl

end Steps

-- Going on leads from one place to another.
def Goes (c d : Cursor) : Prop := Arithmetic.advance c = ((), d)

section Tokens

variable {rest shown : List Char} {token before next : Token}

theorem goes_to {s after : List Char} (skipped : rest.dropWhile Arithmetic.isBlank = s)
    (found : Arithmetic.nextToken token before s = .ok (next, after)) (more : next ≠ .finish) :
    Goes ⟨false, rest, token, before, shown, none⟩ ⟨false, after, next, token, s, none⟩ := by
  unfold Goes Arithmetic.advance
  rw [reader_bind reader_get]
  simp only [Option.isSome_none, Bool.false_eq_true, if_false, skipped, found]
  cases next with
  | finish => exact absurd rfl more
  | _ => rfl

theorem goes_out (blank : rest.dropWhile Arithmetic.isBlank = []) :
    Goes ⟨false, rest, token, before, shown, none⟩ ⟨false, [], .finish, token, shown, none⟩ := by
  unfold Goes Arithmetic.advance
  rw [reader_bind reader_get]
  simp only [Option.isSome_none, Bool.false_eq_true, if_false, blank, Arithmetic.nextToken]
  rfl

-- Behind a number stands no character of a number.
def Parted (after : List Char) : Prop :=
  ∀ c, after.head? = some c → (c.isAlphanum || c ∈ ['#', '@', '_']) = false

theorem skip_numeral {ds after : List Char} (numeral : Numeral ds) :
    (' ' :: (ds ++ after)).dropWhile Arithmetic.isBlank = ds ++ after := by
  obtain ⟨filled, digits⟩ := numeral
  cases ds with
  | nil => exact absurd rfl filled
  | cons c ds =>
    have solid := digit_solid (digits c (List.mem_cons_self ..))
    rw [List.cons_append, List.dropWhile_cons_of_pos (by rfl), List.dropWhile_cons_of_neg (by simp [solid])]

theorem goes_number {n : Nat} {after : List Char} (small : n < 2 ^ 63) (parted : Parted after) :
    Goes ⟨false, ' ' :: ((toString n).toList ++ after), token, before, shown, none⟩
      ⟨false, after, .number n, token, (toString n).toList ++ after, none⟩ := by
  have found := nextToken_numeral (toString_numeral n) token before after parted (toString_front n)
  rw [toString_value, wrap_small (by omega) (by omega)] at found
  exact goes_to (skip_numeral (toString_numeral n)) found nofun

end Tokens

section Operands

variable {c d : Cursor} {k : Nat}

-- What stands behind an operand that is no power.
def isApart (t : Token) : Bool :=
  match t with
  | .mark m => m != "**"
  | .step _ _ => false
  | _ => true

theorem raised_atom {e : Expr} (alone : Arithmetic.signed (k + 2) c = (e, d)) (apart : isApart d.token = true) :
    Arithmetic.raised (k + 3) c = (e, d) := by
  have other : (d.token != .mark "**") = true := by
    rw [bne_iff_ne]
    intro same
    rw [same] at apart
    cases apart
  rw [Arithmetic.raised, reader_bind alone, reader_bind reader_get, other]
  rfl

theorem number_raised {n : Int} (here : c.token = .number n) (goes : Goes c d) (apart : isApart d.token = true) :
    Arithmetic.raised (k + 3) c = (.number n, d) := by
  refine raised_atom ?_ apart
  rw [Arithmetic.signed, reader_bind reader_get]
  simp only [here]
  rw [Arithmetic.operand, reader_bind reader_get]
  simp only [here]
  rw [reader_bind goes]
  rfl

theorem name_raised {x : Arithmetic.Target} (here : c.token = .name x) (goes : Goes c d)
    (apart : isApart d.token = true) : Arithmetic.raised (k + 3) c = (.name x, d) := by
  refine raised_atom ?_ apart
  rw [Arithmetic.signed, reader_bind reader_get]
  simp only [here]
  rw [Arithmetic.operand, reader_bind reader_get]
  simp only [here]
  rw [reader_bind goes, reader_bind reader_get]
  cases shape : d.token with
  | step by_ afterwards =>
    rw [shape] at apart
    cases apart
  | _ => rfl

end Operands

section Levels

open Shell.Arithmetic (Binary)

abbrev Level := List (String × Binary)

variable {c d f : Cursor} {k : Nat} {e left right : Expr} {ops : Level} {tighter looser : List Level} {m : String}

-- The operation of a level that a token stands for.
def Level.operation? (ops : Level) (t : Token) : Option Binary :=
  match t with
  | .mark m => ops.lookup m
  | _ => none

theorem joined_over (ended : ops.operation? c.token = none) :
    Arithmetic.joined (k + 1) ops tighter left c = (left, c) := by
  rw [Arithmetic.joined, reader_bind reader_get]
  cases shape : c.token with
  | mark m =>
    rw [shape] at ended
    have none_ : ops.lookup m = none := ended
    simp only [none_]
    rfl
  | _ => rfl

theorem joined_goes (op : Binary) (here : ops.operation? c.token = some op) (goes : Goes c d)
    (read : Arithmetic.level k tighter d = (right, f)) :
    Arithmetic.joined (k + 1) ops tighter left c =
      Arithmetic.joined k ops tighter
        (.binary op left right (String.ofList (c.rest.dropWhile Arithmetic.isBlank)))
        { f with before := .number 0 } := by
  rw [Arithmetic.joined, reader_bind reader_get]
  cases shape : c.token with
  | mark m =>
    rw [shape] at here
    have found : ops.lookup m = some op := here
    simp only [found]
    rw [reader_bind reader_get, reader_bind goes, reader_bind read]
    rfl
  | _ =>
    rw [shape] at here
    cases here

theorem level_goes (first : Arithmetic.level k tighter c = (e, d)) :
    Arithmetic.level (k + 1) (ops :: tighter) c = Arithmetic.joined k ops tighter e d := by
  rw [Arithmetic.level, reader_bind first]

-- Levels whose operations do not follow leave what was read as it is.
theorem level_passes (first : Arithmetic.level (k + 1) tighter c = (e, d))
    (ended : ∀ ops ∈ looser, Level.operation? ops d.token = none) :
    Arithmetic.level (k + 1 + looser.length) (looser ++ tighter) c = (e, d) := by
  induction looser with
  | nil => exact first
  | cons ops looser passes =>
    have inner := passes fun ops member => ended ops (List.mem_cons_of_mem _ member)
    rw [List.cons_append, List.length_cons, ← Nat.add_assoc, level_goes inner, Nat.add_right_comm]
    exact joined_over (ended ops (List.mem_cons_self ..))

theorem level_raised (alone : Arithmetic.raised k c = (e, d)) : Arithmetic.level (k + 1) [] c = (e, d) := by
  rw [Arithmetic.level]
  exact alone

end Levels

section Whole

open Shell.Arithmetic (Binary)

def sumLevel : Level := [("+", .add), ("-", .sub)]

def productLevel : Level := [("*", .mul), ("/", .div), ("%", .mod)]

def looserLevels : List Level := Arithmetic.levels.take 8

variable {c d f g : Cursor} {k : Nat} {e value : Expr}

-- What follows an expression that is read to its end.
def isOver (t : Token) : Bool := t == .finish || t == .mark ")"

theorem chosen_over (read : Arithmetic.level (k + 40 + 1) [sumLevel, productLevel] c = (e, d))
    (ended : ∀ ops ∈ looserLevels, Level.operation? ops d.token = none) (other : d.token ≠ .mark "?") :
    Arithmetic.chosen (k + 50) c = (e, d) := by
  have all : Arithmetic.levels = looserLevels ++ [sumLevel, productLevel] := rfl
  have count : looserLevels.length = 8 := rfl
  have passed := level_passes read ended
  rw [← all, count] at passed
  rw [Arithmetic.chosen, reader_bind passed, reader_bind reader_get, if_pos (bne_iff_ne.mpr other)]
  rfl

theorem assigned_over (read : Arithmetic.chosen k c = (e, d)) (ended : isOver d.token = true) :
    Arithmetic.assigned (k + 1) c = (e, d) := by
  rw [Arithmetic.assigned, reader_bind read, reader_bind reader_get]
  cases shape : d.token with
  | assigning op =>
    rw [shape] at ended
    cases ended
  | _ => rfl

theorem assigned_goes {x y : Arithmetic.Target} {op : Option Binary} (read : Arithmetic.chosen k c = (.name x, d))
    (here : d.token = .assigning op) (before : d.before = .name y) (goes : Goes d f)
    (given : Arithmetic.assigned k f = (value, g)) :
    Arithmetic.assigned (k + 1) c = (.assign x op value (String.ofList g.shown), g) := by
  rw [Arithmetic.assigned, reader_bind read, reader_bind reader_get]
  simp only [here, before]
  rw [reader_bind goes, reader_bind given]
  rfl

theorem listed_over (read : Arithmetic.assigned (k + 1) c = (e, d)) (ended : isOver d.token = true) :
    Arithmetic.listed (k + 2) c = (e, d) := by
  have other : (d.token == .mark ",") = false := by
    rw [beq_eq_false_iff_ne]
    intro same
    rw [same] at ended
    cases ended
  rw [Arithmetic.listed, reader_bind read, Arithmetic.commas, reader_bind reader_get, other]
  rfl

theorem read_whole {text : List Char} (filled : text.all Arithmetic.isBlank = false)
    (goes : Goes ⟨false, text, .finish, .finish, text, none⟩ c)
    (read : ∀ k, Arithmetic.listed (k + 60) c = (e, d)) (ended : d.token = .finish) (clean : d.fault = none) :
    Arithmetic.read false (String.ofList text) = ⟨e, none⟩ := by
  unfold Arithmetic.read
  simp only [String.toList_ofList, filled, Bool.and_false, Bool.false_eq_true, if_false]
  have ran : (do
      Arithmetic.advance
      let e ← Arithmetic.listed (30 * text.length + 60)
      if ((← get).token != .finish && (← get).fault.isNone) = true then
        return .binary .comma e (← Arithmetic.stopHere "syntax error in expression") ""
      return e : Arithmetic.Reader Expr) ⟨false, text, .finish, .finish, text, none⟩ = (e, d) := by
    rw [reader_bind goes, reader_bind (read _), reader_bind reader_get, reader_bind reader_get, ended]
    rfl
  simp only [StateT.run, ran, clean]

end Whole

section Based

variable {ds rest : List Char} (numeral : Numeral ds)

include numeral

-- A numeral with its base in front may begin with zeros.
theorem numberOf_based :
    Arithmetic.numberOf ('1' :: '0' :: '#' :: ds) = .ok (Arithmetic.wrap (numeralValue ds)) := by
  have absent : ds.contains '#' = false := by
    rw [List.contains_eq_mem, decide_eq_false_iff_not]
    exact fun member => digit_ne (numeral.digits _ member) rfl rfl
  have first : (ds.head? == some '#') = false := by
    rw [beq_eq_false_iff_ne]
    intro same
    exact digit_ne (numeral.digits _ (List.mem_of_head? same)) rfl rfl
  have filled : ds.isEmpty = false := List.isEmpty_eq_false_iff.mpr numeral.filled
  have base : Arithmetic.digitsIn 10 ['1', '0'] = .ok 10 := by
    have ten : Numeral ['1', '0'] := ⟨List.cons_ne_nil _ _, List.all_iff_forall_prop.mp (by decide)⟩
    have value : numeralValue ['1', '0'] = 10 := by decide
    rw [digitsIn_numeral ten, value, wrap_small (by decide) (by decide)]
    rfl
  unfold Arithmetic.numberOf
  change (do
    let b ← Arithmetic.digitsIn 10 ['1', '0']
    if b < 2 || 64 < b then .error "invalid arithmetic base"
    else if ds.isEmpty || ds.head? == some '#' then .error "invalid integer constant"
    else if ds.contains '#' then .error "invalid number"
    else Arithmetic.digitsIn b.toNat ds) = _
  rw [base, filled, first, absent]
  exact digitsIn_numeral numeral

theorem nextToken_based (token before : Token)
    (ended : Parted rest) :
    Arithmetic.nextToken token before ('1' :: '0' :: '#' :: ds ++ rest) =
      .ok (.number (Arithmetic.wrap (numeralValue ds)), rest) := by
  have text : ('1' :: '0' :: '#' :: ds ++ rest).takeWhile (fun c => c.isAlphanum || c ∈ ['#', '@', '_']) =
      '1' :: '0' :: '#' :: ds := by
    rw [List.takeWhile_append_of_pos]
    · cases rest with
      | nil => simp
      | cons c rest =>
        rw [List.takeWhile_cons_of_neg, List.append_nil]
        rw [ended c rfl]
        decide
    · intro c member
      simp only [List.mem_cons] at member
      rcases member with rfl | rfl | rfl | member
      · rfl
      · rfl
      · rfl
      · simp [Char.isAlphanum, numeral.digits c member]
  have number := numberOf_based numeral
  rw [List.cons_append] at text ⊢
  unfold Arithmetic.nextToken
  simp only [show Char.isDigit '1' = true from rfl, if_true]
  rw [text, number]
  simp

end Based

end Toolwrap.Running
