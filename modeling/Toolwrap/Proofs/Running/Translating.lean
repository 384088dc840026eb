import Toolwrap.Proofs.Running.Programs
import Toolwrap.Shell.Utility.Columns

-- The program `tr` with a text of the first 128 characters, whose bytes are those
-- characters: it gives letters their small forms, or takes blanks away.

namespace Toolwrap.Running

open Shell

def isAscii (c : Char) : Bool := c.toNat < 128

section Bytes

variable {c : Char} {cs : List Char}

theorem ascii_below (ascii : isAscii c = true) : c.toNat < 128 := of_decide_eq_true ascii

theorem ascii_firm (ascii : isAscii c = true) : Text.looseByte? c = none := by
  have below := ascii_below ascii
  have none_ : ¬ (Text.looseBase + 0x80 ≤ c.toNat ∧ c.toNat < Text.looseBase + 0x100) := by
    unfold Text.looseBase
    omega
  unfold Text.looseByte?
  simp only [Bool.and_eq_true, decide_eq_true_eq, if_neg none_]

theorem bytes_ascii (ascii : ∀ c ∈ cs, isAscii c = true) : Text.bytes cs = cs.map Char.toNat := by
  induction cs with
  | nil => rfl
  | cons c cs same =>
    have first := ascii c (List.mem_cons_self ..)
    have one : Text.bytesOf c = [c.toNat] := by
      unfold Text.bytesOf
      rw [ascii_firm first]
      exact if_pos (ascii_below first)
    unfold Text.bytes at same ⊢
    rw [List.flatMap_cons, one, same fun d member => ascii d (List.mem_cons_of_mem _ member)]
    rfl

theorem ofBytes_ascii (ascii : ∀ c ∈ cs, isAscii c = true) : Text.ofBytes (cs.map Char.toNat) = cs := by
  unfold Text.ofBytes
  induction cs with
  | nil => rfl
  | cons c cs same =>
    have below := ascii_below (ascii c (List.mem_cons_self ..))
    have first : ∀ rest, Text.firstOf c.toNat rest = (c, 1) := by
      intro rest
      unfold Text.firstOf
      rw [if_pos below, Char.ofNat_toNat]
    rw [List.map_cons, Text.ofBytesFrom, first]
    simp only [Nat.sub_self, same fun d member => ascii d (List.mem_cons_of_mem _ member)]

theorem ascii_not_loose (ascii : ∀ c ∈ cs, isAscii c = true) : cs.any Text.isLoose = false := by
  rw [List.any_eq_false]
  intro c member
  rw [Text.isLoose, ascii_firm (ascii c member)]
  simp

-- What holds of the first 128 characters one by one holds of all of them.
theorem ascii_all {P : Char → Prop} (each : ∀ b < 128, P (Char.ofNat b)) (ascii : isAscii c = true) : P c := by
  have one := each c.toNat (ascii_below ascii)
  rwa [Char.ofNat_toNat] at one

end Bytes

section Sets

theorem class_upper : Utility.classBytes "upper" = (List.range 26).map (65 + ·) := by decide

theorem class_lower : Utility.classBytes "lower" = (List.range 26).map (97 + ·) := by decide

theorem class_space : Utility.classBytes "space" = [9, 10, 11, 12, 13, 32] := by decide

-- A named class alone, between its brackets.
theorem set_class {name : List Nat} {text : String} (fuel : Nat) (plain : ∀ b ∈ name, (b != 58) = true)
    (named : String.ofList (Text.ofBytes name) = text) (known : Utility.setClasses.contains text = true) :
    Utility.setItems (fuel + 2) (91 :: 58 :: (name ++ [58, 93])) =
      .ok [.bytes (Utility.classBytes text)] := by
  have front : (name ++ [58, 93]).takeWhile (· != 58) = name := by
    rw [List.takeWhile_append_of_pos plain]
    simp
  rw [Utility.setItems]
  simp only [front, List.drop_left, named, known, Bool.not_true, Bool.false_eq_true, if_false]
  rw [Utility.setItems]
  · rfl
  · simp

theorem nothing_read (fuel : Nat) : Utility.setItems fuel [] = .ok [] := by
  cases fuel with
  | zero => rw [Utility.setItems]
  | succ fuel =>
    rw [Utility.setItems]
    rintro ⟨⟩

theorem class_read {name shown : String} (filled : shown.utf8ByteSize ≠ 0)
    (text : Text.bytes shown.toList = 91 :: 58 :: (Text.bytes name.toList ++ [58, 93]))
    (plain : ∀ b ∈ Text.bytes name.toList, (b != 58) = true)
    (named : String.ofList (Text.ofBytes (Text.bytes name.toList)) = name)
    (known : Utility.setClasses.contains name = true) :
    Utility.setItems (2 * shown.utf8ByteSize + 1) (Text.bytes shown.toList) =
      .ok [.bytes (Utility.classBytes name)] := by
  obtain ⟨n, more⟩ := Nat.exists_eq_succ_of_ne_zero filled
  rw [text, more]
  exact set_class (2 * n + 1) plain named known

end Sets

section Calls

variable {E : Engine}

def trOptions : Utility.Options := {
  short := "cCdst"
  long := [("complement", "c"), ("delete", "d"), ("squeeze-repeats", "s"), ("truncate-set1", "t")], inFront := true }

-- A call with two sets, and one that takes the members of a set away.
def smallCall : Utility.Call := { operands := ["[:upper:]", "[:lower:]"] }

def blankCall : Utility.Call := { options := [("d", none)], operands := ["[:space:]"] }

theorem small_read : trOptions.read smallCall.operands = .ok smallCall := rfl

theorem blank_read : trOptions.read ("-d" :: blankCall.operands) = .ok blankCall := rfl

def uppers : List Nat := Utility.setBytes 0 [.bytes (Utility.classBytes "upper")]

def lowers : List Nat := Utility.setBytes uppers.length [.bytes (Utility.classBytes "lower")]

def spaces : List Nat := Utility.setBytes 0 [.bytes (Utility.classBytes "space")]

-- Which byte stands in the second set for one of the first.
def smallBytes : List (Nat × Nat) :=
  (uppers.zipIdx.map fun (b, i) => (b, match lowers[i]? with
    | some t => t
    | none => lowers.getLastD b)).reverse

theorem small_translates : Utility.translate E ["[:upper:]", "[:lower:]"] = (do
    let input := Text.bytes (← Run.takeInput).toList
    Utility.out (String.ofList (Text.ofBytes (input.map fun b => (smallBytes.lookup b).getD b)))
    return 0) := by
  have read := small_read
  unfold trOptions smallCall at read
  have known : ∀ key, ({ operands := ["[:upper:]", "[:lower:]"] } : Utility.Call).has key = false := fun _ => rfl
  have upper : Utility.setItems (2 * "[:upper:]".utf8ByteSize + 1) (Text.bytes "[:upper:]".toList) =
      .ok [.bytes (Utility.classBytes "upper")] :=
    class_read (by decide) (by decide) (by decide) (by decide) (by decide)
  have lower : Utility.setItems (2 * "[:lower:]".utf8ByteSize + 1) (Text.bytes "[:lower:]".toList) =
      .ok [.bytes (Utility.classBytes "lower")] :=
    class_read (by decide) (by decide) (by decide) (by decide) (by decide)
  have filled : lowers.isEmpty = false := by
    unfold lowers uppers
    rw [class_upper, class_lower]
    rfl
  unfold lowers uppers at filled
  unfold Utility.translate Utility.withCall
  simp only [read, known, Bool.or_self, Bool.false_eq_true, if_false, List.headD_cons, upper, lower,
    Bool.not_false, filled, Bool.and_false, List.isEmpty_cons, Bool.true_and, Bool.false_and]
  rfl

theorem blank_translates : Utility.translate E ["-d", "[:space:]"] = (do
    let input := Text.bytes (← Run.takeInput).toList
    Utility.out (String.ofList (Text.ofBytes (input.filter fun b => !spaces.contains b)))
    return 0) := by
  have read := blank_read
  unfold trOptions blankCall at read
  have deletes : ({ options := [("d", none)], operands := ["[:space:]"] } : Utility.Call).has "d" = true := rfl
  have alone : ∀ key ∈ ["s", "c", "C", "t", "help", "version"],
      ({ options := [("d", none)], operands := ["[:space:]"] } : Utility.Call).has key = false := by
    decide
  simp only [List.forall_mem_cons] at alone
  obtain ⟨squeezes, c, C, t, help, version, _⟩ := alone
  have space : Utility.setItems (2 * "[:space:]".utf8ByteSize + 1) (Text.bytes "[:space:]".toList) =
      .ok [.bytes (Utility.classBytes "space")] :=
    class_read (by decide) (by decide) (by decide) (by decide) (by decide)
  have nothing : Utility.setItems (2 * ([].headD "" : String).utf8ByteSize + 1)
      (Text.bytes ([].headD "" : String).toList) = .ok [] := nothing_read _
  unfold Utility.translate Utility.withCall
  simp only [read, deletes, squeezes, c, C, t, help, version, Bool.or_self, Bool.false_eq_true, if_false, space,
    nothing, Bool.not_true, Bool.false_and, Bool.true_or, if_true]
  rfl

end Calls

-- The small form of a capital letter.
def small (c : Char) : Char := if 'A' ≤ c && c ≤ 'Z' then Char.ofNat (c.toNat + 32) else c

-- The blanks among the first 128 characters, but for the separators of information.
def isSpace (c : Char) : Bool := [9, 10, 11, 12, 13, 32].contains c.toNat

section Characters

variable {c : Char} {cs : List Char}

theorem small_ascii (ascii : isAscii c = true) : isAscii (small c) = true :=
  ascii_all (P := fun c => isAscii (small c) = true) (by decide) ascii

theorem small_byte (ascii : isAscii c = true) : (smallBytes.lookup c.toNat).getD c.toNat = (small c).toNat := by
  have shape : smallBytes = ((List.range 26).map fun i => (65 + i, 97 + i)).reverse := by
    unfold smallBytes lowers uppers
    rw [class_upper, class_lower]
    decide
  rw [shape]
  exact ascii_all (P := fun c =>
    ((((List.range 26).map fun i => (65 + i, 97 + i)).reverse).lookup c.toNat).getD c.toNat = (small c).toNat)
    (by decide) ascii

theorem small_bytes (ascii : ∀ c ∈ cs, isAscii c = true) :
    Text.ofBytes ((Text.bytes cs).map fun b => (smallBytes.lookup b).getD b) = cs.map small := by
  have each : cs.map ((fun b => (smallBytes.lookup b).getD b) ∘ Char.toNat) = (cs.map small).map Char.toNat := by
    rw [List.map_map]
    exact List.map_congr_left fun c member => small_byte (ascii c member)
  rw [bytes_ascii ascii, List.map_map, each]
  refine ofBytes_ascii fun c member => ?_
  obtain ⟨d, listed, rfl⟩ := List.mem_map.mp member
  exact small_ascii (ascii d listed)

theorem unspaced_bytes (ascii : ∀ c ∈ cs, isAscii c = true) :
    Text.ofBytes ((Text.bytes cs).filter fun b => !spaces.contains b) = cs.filter (!isSpace ·) := by
  have shape : spaces = [9, 10, 11, 12, 13, 32] := by
    unfold spaces
    rw [class_space]
    rfl
  have filtered : (cs.map Char.toNat).filter (fun b => !spaces.contains b) =
      (cs.filter (!isSpace ·)).map Char.toNat := by
    rw [List.filter_map, shape]
    rfl
  rw [bytes_ascii ascii, filtered]
  exact ofBytes_ascii fun c member => ascii c (List.mem_filter.mp member).1

end Characters

section Running

variable {E : Engine} {s : Session} {n : Nat}

-- What is left of the session when its input is taken and another text is printed.
def passed (s : Session) (n : Nat) (text : String) : Session :=
  { (s.setTextOf n "").write (s.channel 1) text with status := 0 }

-- A program that prints what becomes of its input.
theorem passed_gives {work : Run Nat} (change : String → String)
    (works : work = (do
      let input ← Run.takeInput
      Utility.out (change input)
      return 0)) (led : s.channel 0 = .text n) :
    Gives (do Run.setStatus (← work)) s () (passed s n (change (s.textOf n))) := by
  intro m
  have there : (leaving s m).channel 0 = .text n := led
  have taken : Run.takeInput (leaving s m) = .ok (s.textOf n) (leaving (s.setTextOf n "") m) := by
    unfold Run.takeInput Run.takeInputOf
    rw [bind_ok get_ok, there]
    exact bind_ok set_ok
  have printed : Utility.out (change (s.textOf n)) (leaving (s.setTextOf n "") m) =
      .ok () (leaving ((s.setTextOf n "").write (s.channel 1) (change (s.textOf n))) m) := by
    unfold Utility.out Run.print
    rw [modify_ok, write_leaving]
    rfl
  have ran : work (leaving s m) =
      .ok 0 (leaving ((s.setTextOf n "").write (s.channel 1) (change (s.textOf n))) m) := by
    rw [works, bind_ok taken, bind_ok printed]
    rfl
  rw [bind_ok ran]
  rfl

variable (led : s.channel 0 = .text n) (ascii : ∀ c ∈ (s.textOf n).toList, isAscii c = true)
include led ascii

theorem small_gives :
    Gives (do Run.setStatus (← Utility.translate E ["[:upper:]", "[:lower:]"])) s ()
      (passed s n (String.ofList ((s.textOf n).toList.map small))) := by
  have ran := passed_gives (fun text => String.ofList (Text.ofBytes ((Text.bytes text.toList).map
    fun b => (smallBytes.lookup b).getD b))) (@small_translates E) led
  rwa [small_bytes ascii] at ran

theorem unspaced_gives :
    Gives (do Run.setStatus (← Utility.translate E ["-d", "[:space:]"])) s ()
      (passed s n (String.ofList ((s.textOf n).toList.filter (!isSpace ·)))) := by
  have ran := passed_gives (fun text => String.ofList (Text.ofBytes ((Text.bytes text.toList).filter
    fun b => !spaces.contains b))) (@blank_translates E) led
  rwa [unspaced_bytes ascii] at ran

end Running

end Toolwrap.Running
