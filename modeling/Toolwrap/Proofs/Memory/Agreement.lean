import Toolwrap.Proofs.Memory.Bytes

-- The function and the reader of amounts agree: what is read of a text is what the function
-- prints, and what is not read is refused. None of the numbers on the way leaves the range of
-- 64 bits, or is negative.

namespace Toolwrap.Memory

open Shell Running

section Body

variable {E deeper : Engine} {c : Session} {marks : String → Bool} {status n k : Nat} {x : String} {suffix : List Char}
  {a : Amount} (runs : E.script = runScript deeper) (serves : Serves c marks x) (plain : ∀ d ∈ x.toList, isPlain d = true)
  (stated : States (matchedText x).toList a suffix) (few : a.whole.length + 1 < 2 ^ 63)
  (short : a.fraction.length < 2 ^ 63) (enough : a.fraction.length < E.rounds)

def total (a : Amount) : Nat := carried a.unit.bytes a.fraction

theorem total_small (digits : ∀ c ∈ a.fraction, isDigit c = true) : total a ≤ maxBytes := by
  have less := carried_lt (bytes_pos a.unit) digits
  have least := bytes_le a.unit
  have bound : maxBytes = 9223372036854775807 := rfl
  rw [total]
  omega

-- An amount is too large where more whole units are asked for than fit beside its fraction.
theorem limit_less (digits : ∀ c ∈ a.fraction, isDigit c = true) :
    (maxBytes - total a) / a.unit.bytes < digitsValue a.whole ↔ maxBytes < a.floorBytes := by
  have fits := @fits_iff a.unit (digitsValue a.whole) (total a) (total_small digits)
  rw [floorBytes_eq, ← Nat.not_le, ← Nat.not_le]
  exact not_congr fits.symm

include runs serves plain stated enough short

-- Up to the comparison: the amount is matched, taken apart and counted.
theorem counted_comesTo :
    ∃ i, ComesTo (runScript E ((memoryLines n).take 14)) (within c marks [] status)
      (.ok () (within (searched c (matchedText x)) marks ((partsOf (matchedText x) a).counting (total a) (.text i)) 0)) := by
  let d := searched c (matchedText x)
  have reaches : Serves d marks x := serves.searched (matchedText x)
  have met := @amount_comesTo E deeper c marks status n x suffix a runs serves plain stated
  have parted := @number_comesTo E d marks 0 n (matchedText x) suffix a reaches.declarable reaches.quiet reaches.inside stated
  have bared := @zeros_comesTo E d marks 0 n (matchedText x) a reaches.declarable reaches.quiet reaches.inside
  obtain ⟨i, looped⟩ := @fractionLoop_comesTo E d marks (partsOf (matchedText x) a) a.fraction reaches.quiet (n + 28) enough
    short rfl stated.fraction
  have calm : Quiet (within d marks ((partsOf (matchedText x) a).counting 0 .declared) 0) := reaches.quiet
  exact ⟨i, script_append met (script_append parted (script_append bared
    (script_one calm (located_comesTo (n + 27) looped))))⟩

include few

-- An amount of more bytes than can be stated is refused.
theorem tooLarge_comesTo (large : maxBytes < a.floorBytes) :
    ∃ u, ComesTo (runScript E (memoryLines n)) (within c marks [] status) (.error (.returned 1) u) ∧ Quiet u := by
  let d := searched c (matchedText x)
  have reaches : Serves d marks x := serves.searched (matchedText x)
  obtain ⟨i, counted⟩ := @counted_comesTo E deeper c marks status n x suffix a runs serves plain stated short enough
  have compared := @compared_comesTo E deeper d marks 0 (n + 30) (total a) x (matchedText x) a (.text i) runs reaches
    stated.whole few (total_small stated.fraction)
  rw [decide_eq_true ((limit_less stated.fraction).mpr large)] at compared
  let held := (partsOf (matchedText x) a).counting (total a) (.text i)
  let t := within { d with givesWay := false } marks held 0
  have calm : Quiet t := reaches.quiet
  have stood : Ordinarily t "BW_META_FUNCTIONALITY_NAME" := within_outside rfl reaches.named
  have message : Spells E t tooLarge
      ("Memory value '" ++ (x ++ "' is too large: at most 9223372036854775807 bytes are supported.")) :=
    spells_cons (spells_text _) (spells_cons (argument_spells E calm reaches.args) (spells_text _))
  obtain ⟨u, refused, quietly⟩ :=
    refusal_comesTo runs calm reaches.inside stood reaches.heard reaches.reports message (n + 31)
  have conditional : ComesTo ((Command.ifThen _ (refusal tooLarge (n + 31)) []).run E)
      (within d marks held 0) (.error (.returned 1) u) := if_holds compared rfl refused
  exact ⟨u, script_append counted (script_stops reaches.quiet (located_comesTo _ conditional)), quietly⟩

-- Any other amount is printed as its number of bytes.
theorem fitting_comesTo (leads : c.channel 1 = .text k) (own : c.shared ≤ k) (fits : a.floorBytes ≤ maxBytes) :
    ∃ held, ComesTo (runScript E (memoryLines n)) (within c marks [] status)
      (.ok () (within (printed { searched c (matchedText x) with givesWay := false } k
        (toString a.floorBytes ++ "\n")) marks held 0)) := by
  let d := searched c (matchedText x)
  have reaches : Serves d marks x := serves.searched (matchedText x)
  obtain ⟨i, counted⟩ := @counted_comesTo E deeper c marks status n x suffix a runs serves plain stated short enough
  have compared := @compared_comesTo E deeper d marks 0 (n + 30) (total a) x (matchedText x) a (.text i) runs reaches
    stated.whole few (total_small stated.fraction)
  have below : ¬ (maxBytes - total a) / a.unit.bytes < digitsValue a.whole := mt (limit_less stated.fraction).mp (Nat.not_lt.mpr fits)
  rw [decide_eq_false below] at compared
  let held := (partsOf (matchedText x) a).counting (total a) (.text i)
  let e : Session := { d with givesWay := false }
  have conditional : ComesTo ((Command.ifThen _ (refusal tooLarge (n + 31)) []).run E)
      (within d marks held 0) (.ok () (within e marks held 0)) := if_skips compared Nat.one_ne_zero
  rw [floorBytes_eq] at fits ⊢
  have reckons := @bytes_reckons E e marks 0 (total a) (matchedText x) a (.text i) reaches.quiet stated.whole fits
  have alike : (within e marks held 0).separators = d.separators :=
    separators_like (by unfold Session.value?; rw [within_absent rfl]; rfl)
  have uncut : ∀ d ∈ (within e marks held 0).separators.chars, d.isDigit = false := alike ▸ reaches.uncut
  have shown := @number_printed E e marks held 0 k _ bytesParts reaches.quiet uncut leads own reckons
  have calm : Quiet (within e marks held 0) := reaches.quiet
  exact ⟨held, script_append counted (script_cons reaches.quiet (located_comesTo _ conditional)
    (script_one calm (located_comesTo _ shown)))⟩

end Body

-- Everything that the function looks at and that is not its own.
def usedNames : List String :=
  memoryNames ++ Integers.lessNames ++ ["BASH_REMATCH", "BW_META_FUNCTIONALITY_NAME"]

-- A session in which the function may be called, with its output in a kept text.
structure Callable (s : Session) (k : Nat) : Prop where
  quiet : Quiet s
  filled : s.scopes ≠ []
  output : s.channel 1 = .text k
  own : s.shared ≤ k
  kept : k < s.texts.length
  heard : s.channel 2 ≠ .closed
  hosts : Hosts s "tr"
  uncut : ∀ d ∈ s.separators.chars, d.isDigit = false
  plain : ∀ z ∈ usedNames, Ordinarily s z
  reports : Provides s Wrapper.Functions.reporting
  compares : Provides s Wrapper.Functions.integerLess
  converts : Provides s Wrapper.Functions.memoryAsBytes

theorem Callable.serves {s : Session} {k : Nat} (callable : Callable s k) (f : Function) (x : String) :
    Serves (opened s "bw_memory_as_bytes" f [x] s.line) (marksOf s) x where
  quiet := callable.quiet
  inside := rfl
  args := rfl
  declarable :=
    ⟨fun z listed => callable.plain z (List.mem_append_left _ (List.mem_append_left _ listed)), fun _ _ => rfl⟩
  filled := callable.filled
  room := callable.own.trans (Nat.le_of_lt callable.kept)
  hosts := hosts_like callable.hosts rfl rfl rfl
  matchable := callable.plain _ (by decide)
  named := callable.plain _ (by decide)
  heard := callable.heard
  reports := error_provided callable.reports
  uncut := by
    rw [@separators_like s (opened s "bw_memory_as_bytes" f [x] s.line) rfl]
    exact callable.uncut
  comparable := fun z listed => callable.plain z (List.mem_append_left _ (List.mem_append_right _ listed))
  compares := Integers.less_provided callable.compares

-- The function succeeds and prints a number, or it fails.
def Prints (E : Engine) (s : Session) (f : Function) (k : Nat) (x : String) (n : Nat) : Prop :=
  ∃ t, callFunction E "bw_memory_as_bytes" f [x] s = .ok () t ∧ t.status = 0 ∧
    t.textOf k = s.textOf k ++ (toString n ++ "\n")

def Refuses (E : Engine) (s : Session) (f : Function) (x : String) : Prop :=
  ∃ t, callFunction E "bw_memory_as_bytes" f [x] s = .ok () t ∧ t.status ≠ 0

section Called

variable {E deeper : Engine} {s : Session} {f : Function} {k line : Nat} {x suffix : String} {a : Amount}
  (runs : E.script = runScript deeper) (callable : Callable s k) (body : f.body = memoryBody line)
  (plain : ∀ d ∈ x.toList, isPlain d = true)

include runs callable body

-- A body that gives one back makes the function fail.
theorem refused {u : Session} (quietly : Quiet u)
    (ran : ComesTo (runScript deeper (memoryLines line)) (within (opened s "bw_memory_as_bytes" f [x] s.line) (marksOf s) [] s.status)
      (.error (.returned 1) u)) : Refuses E s f x := by
  have calm : Quiet (calling s "bw_memory_as_bytes" f [x] s.line) := callable.quiet
  have whole : ComesTo (E.script [f.body]) (calling s "bw_memory_as_bytes" f [x] s.line) (.error (.returned 1) u) := by
    rw [runs, body]
    exact script_one calm (located_comesTo line (group_comesTo ran))
  obtain ⟨n, ended⟩ := call_ends_returned callable.quiet quietly whole
  exact ⟨_, ended, Nat.one_ne_zero⟩

-- A body that prints a number to the output and ends makes the function succeed.
theorem succeeded {n : Nat} {m : String} {held : Held}
    (ran : ComesTo (runScript deeper (memoryLines line)) (within (opened s "bw_memory_as_bytes" f [x] s.line) (marksOf s) [] s.status)
      (.ok () (within (printed { searched (opened s "bw_memory_as_bytes" f [x] s.line) m with givesWay := false } k (toString n ++ "\n"))
        (marksOf s) held 0))) : Prints E s f k x n := by
  let t := within (printed { searched (opened s "bw_memory_as_bytes" f [x] s.line) m with givesWay := false } k (toString n ++ "\n")) (marksOf s) held 0
  have calm : Quiet (calling s "bw_memory_as_bytes" f [x] s.line) := callable.quiet
  have quietly : Quiet t := callable.quiet
  have whole : ComesTo (E.script [f.body]) (calling s "bw_memory_as_bytes" f [x] s.line) (.ok () t) := by
    rw [runs, body]
    exact script_one calm (located_comesTo line (group_comesTo ran))
  obtain ⟨i, ended⟩ := call_ends_ok callable.quiet quietly whole
  refine ⟨_, ended, rfl, ?_⟩
  have inside := callable.kept
  have longer : k < (s.texts ++ [m, "", ""]).length := by
    rw [List.length_append]
    omega
  change ((s.texts ++ [m, "", ""]).set k ((s.texts ++ [m, "", ""]).getD k "" ++ (toString n ++ "\n"))).getD k "" =
    s.texts.getD k "" ++ (toString n ++ "\n")
  simp only [List.getD_eq_getElem?_getD, List.getElem?_set_self longer, List.getElem?_append_left inside,
    Option.getD_some]

end Called

-- What is computed for an amount, from the texts that its sums spell: the shell reads each of
-- them as a sum of this value, and no number on the way to it is negative or beyond 64 bits.
structure Computed (a : Amount) : Prop where
  steps : ∀ front d behind, a.fraction = front ++ d :: behind →
    Exactly (counted a.unit (carried a.unit.bytes behind)) (stepText d) (carried a.unit.bytes (d :: behind))
  limit : Exactly (counted a.unit (total a)) limitText ((maxBytes - total a) / a.unit.bytes)
  bytes : a.floorBytes ≤ maxBytes → Exactly (counted a.unit (total a)) (bytesText (wholeText a)) a.floorBytes

theorem computed {s suffix : List Char} {a : Amount} (stated : States s a suffix) : Computed a where
  steps front d behind shape := by
    refine step_exactly fun c member => stated.fraction c ?_
    rw [shape]
    exact List.mem_append_right _ member
  limit := limit_exactly (total_small stated.fraction)
  bytes fits := by
    have numeral := wholeText_numeral stated.whole
    rw [floorBytes_eq, ← wholeText_value] at fits ⊢
    have exactly := @bytes_exactly a.unit (total a) _ numeral fits
    rwa [String.ofList_toList] at exactly

-- No numeral of the text is longer than the reader takes. Blanks are left out before numerals
-- are read, and do not part them.
def Short (x : String) : Prop :=
  ∀ run, run <:+: (normalised x).toList → (∀ c ∈ run, isDigit c = true) → run.length ≤ maxDigits

theorem numerals_short {x : String} {suffix : List Char} {a : Amount} (short : Short x)
    (stated : States (normalised x).toList a suffix) : a.whole.length ≤ maxDigits ∧ a.fraction.length ≤ maxDigits := by
  have shape := stated.parts
  unfold Amount.numberText at shape
  cases written : a.fraction with
  | nil =>
    rw [written] at shape
    exact ⟨short _ ⟨[], suffix, shape.symm⟩ stated.whole, Nat.zero_le _⟩
  | cons d ds =>
    rw [← written]
    have filled : a.fraction.isEmpty = false := by rw [written]; rfl
    rw [filled] at shape
    refine ⟨short _ ⟨[], '.' :: a.fraction ++ suffix, ?_⟩ stated.whole,
      short _ ⟨a.whole ++ ['.'], suffix, ?_⟩ stated.fraction⟩
    · rw [shape]
      simp
    · rw [shape]
      simp

section Agreement

variable {E : Engine} {s : Session} {f : Function} {k rounds m n : Nat} {x : String}

-- One call has one outcome.
theorem prints_one (one : Prints E s f k x m) (other : Prints E s f k x n) : m = n := by
  obtain ⟨t, ended, -, text⟩ := one
  obtain ⟨u, same, -, shown⟩ := other
  rw [ended] at same
  obtain ⟨-, rfl⟩ := EStateM.Result.ok.inj same
  rw [text] at shown
  have numerals : (toString m).toList = (toString n).toList := by
    simpa using congrArg String.toList shown
  rw [← toString_value m, numerals, toString_value]

theorem prints_not_refuses (prints : Prints E s f k x n) : ¬ Refuses E s f x := by
  rintro ⟨t, ended, failed⟩
  obtain ⟨u, same, succeeded, -⟩ := prints
  rw [ended] at same
  obtain ⟨-, rfl⟩ := EStateM.Result.ok.inj same
  exact failed succeeded

-- What comes of a text: the number that is read of it is printed, and what is refused by the
-- reader is refused by the function.
theorem call_outcome (callable : Callable s k) (plain : ∀ c ∈ x.toList, isPlain c = true) (short : Short x)
    (enough : maxDigits < rounds) (depth : Nat) {line : Nat} (body : f.body = memoryBody line) :
    (∃ n, parse x = .ok n ∧ Prints (engine rounds (depth + 2)) s f k x n) ∨
      (∃ refusal, parse x = .error refusal) ∧ Refuses (engine rounds (depth + 2)) s f x := by
  let deeper := engine rounds (depth + 1)
  have serves := callable.serves f x
  cases read : Amount.ofChars? (normalised x).toList with
  | none =>
    obtain ⟨u, ran, quietly⟩ := @malformed_comesTo deeper _ _ _ s.status line x rfl serves plain read
    refine Or.inr ⟨⟨.malformed x, ?_⟩, refused rfl callable body quietly ran⟩
    rw [parse, read]
  | some a =>
    obtain ⟨suffix, stated⟩ := ofChars_states.mp read
    obtain ⟨whole, fraction⟩ := numerals_short short stated
    obtain ⟨suffix, matched⟩ := ofChars_states.mp ((matched_amount plain).trans read)
    have bound : maxDigits = 4300 := rfl
    have few : a.whole.length + 1 < 2 ^ 63 := by omega
    have little : a.fraction.length < 2 ^ 63 := by omega
    have counted : a.fraction.length < deeper.rounds := Nat.lt_of_le_of_lt fraction enough
    have parsed : parse x = if maxBytes < a.floorBytes then .error (.tooLarge x) else .ok a.floorBytes := by
      rw [parse, read]
      simp only [Nat.not_lt.mpr whole, Nat.not_lt.mpr fraction, if_false]
    by_cases large : maxBytes < a.floorBytes
    · obtain ⟨u, ran, quietly⟩ :=
        @tooLarge_comesTo deeper _ _ _ s.status line x suffix a rfl serves plain matched few little counted large
      rw [if_pos large] at parsed
      exact Or.inr ⟨⟨_, parsed⟩, refused rfl callable body quietly ran⟩
    · obtain ⟨held, ran⟩ := @fitting_comesTo deeper _ _ _ s.status line k x suffix a rfl serves plain matched few little
        counted callable.output callable.own (Nat.not_lt.mp large)
      rw [if_neg large] at parsed
      exact Or.inl ⟨_, parsed, succeeded rfl callable body ran⟩

-- The function prints exactly the number that is read of a text, and fails exactly where none is
-- read; and all sums on the way are those of numbers that 64 bits hold.
theorem memory_parsers_agree (callable : Callable s k) (plain : ∀ c ∈ x.toList, isPlain c = true) (short : Short x)
    (enough : maxDigits < rounds) (depth : Nat) :
    ∃ f, s.functions.lookup "bw_memory_as_bytes" = some f ∧
      (∀ n, Prints (engine rounds (depth + 2)) s f k x n ↔ parse x = .ok n) ∧
      (Refuses (engine rounds (depth + 2)) s f x ↔ ∃ refusal, parse x = .error refusal) ∧
      ∀ a, Amount.ofChars? (normalised x).toList = some a → Computed a := by
  obtain ⟨f, line, found, body⟩ := memory_provided callable.converts
  refine ⟨f, found, ?_, ?_, fun a read => ?_⟩
  · intro n
    rcases call_outcome callable plain short enough depth body with ⟨m, parsed, prints⟩ | ⟨⟨refusal, parsed⟩, refuses⟩
    · rw [parsed, Except.ok.injEq]
      exact ⟨prints_one prints, fun same => same ▸ prints⟩
    · rw [parsed]
      exact ⟨fun prints => absurd refuses (prints_not_refuses prints), nofun⟩
  · rcases call_outcome callable plain short enough depth body with ⟨m, parsed, prints⟩ | ⟨failed, refuses⟩
    · rw [parsed]
      exact ⟨fun refuses => absurd refuses (prints_not_refuses prints), nofun⟩
    · exact ⟨fun _ => failed, fun _ => refuses⟩
  · obtain ⟨suffix, stated⟩ := ofChars_states.mp read
    exact computed stated

end Agreement

-- A program with the functions that are read from their texts, and nothing else.
def desk : Session where
  tree := ⟨[(["bin"], .directory)]⟩
  here := []
  texts := ["", "", ""]
  descriptors := [(0, .text 0), (1, .text 1), (2, .text 2)]
  functions := [
    ("bw_error", { body := .located 2 (.group [.located 3 errorEcho]), file := "wrapper" }),
    ("bw_warning", { body := .located 5 (.group [.located 6 warningEcho]), file := "wrapper" }),
    ("bw_integer_less", { body := Integers.lessBody 5, file := "wrapper" }),
    ("bw_memory_as_bytes", { body := memoryBody 4, file := "wrapper" })]

theorem desk_hosts : Hosts desk "tr" := by
  have found : desk.program "tr" = .ok ("/bin/tr", .host "tr") := ok_of_toOption (by decide +kernel)
  exact hosts_found found

theorem desk_callable : Callable desk 1 where
  quiet := ⟨rfl, by decide, rfl, rfl, rfl, rfl, rfl, by decide, by decide⟩
  filled := List.cons_ne_nil _ _
  output := rfl
  own := Nat.zero_le _
  kept := by decide
  heard := nofun
  hosts := desk_hosts
  uncut := List.all_iff_forall_prop.mp (by decide)
  plain _ _ := nofun
  reports := by
    refine provides_listed [(2, "bw_error", .located 2 (.group [.located 3 errorEcho])),
      (5, "bw_warning", .located 5 (.group [.located 6 warningEcho]))] reporting_read fun f listed => ?_
    simp only [List.mem_cons, List.not_mem_nil, or_false] at listed
    rcases listed with rfl | rfl <;> exact ⟨_, rfl, rfl⟩
  compares := by
    refine provides_listed [(5, "bw_integer_less", Integers.lessBody 5)] Integers.less_read fun f listed => ?_
    obtain rfl := List.mem_singleton.mp listed
    exact ⟨_, rfl, rfl⟩
  converts := by
    refine provides_listed [(4, "bw_memory_as_bytes", memoryBody 4)] memory_read fun f listed => ?_
    obtain rfl := List.mem_singleton.mp listed
    exact ⟨_, rfl, rfl⟩

-- A text of few characters has no long numeral.
theorem few_short {x : String} (few : (normalised x).toList.length ≤ maxDigits) : Short x :=
  fun _ part _ => part.length_le.trans few

theorem memory_parsers_agree_at_kilobytes : ∃ f, desk.functions.lookup "bw_memory_as_bytes" = some f ∧
    Prints (engine 4301 2) desk f 1 "1.5 kB" 1536 ∧ Refuses (engine 4301 2) desk f "8192PB" := by
  have half : parse "1.5 kB" = .ok 1536 := by decide
  have much : ∃ refusal, parse "8192PB" = .error refusal := ⟨.tooLarge "8192PB", by decide⟩
  obtain ⟨f, found, prints, -⟩ := @memory_parsers_agree desk 1 4301 "1.5 kB" desk_callable
    (List.all_iff_forall_prop.mp (by decide))
    (few_short (by decide)) (by decide) 0
  obtain ⟨g, same, -, refuses, -⟩ := @memory_parsers_agree desk 1 4301 "8192PB" desk_callable
    (List.all_iff_forall_prop.mp (by decide))
    (few_short (by decide)) (by decide) 0
  rw [found] at same
  obtain rfl := Option.some.inj same
  exact ⟨f, found, (prints _).mpr half, refuses.mpr much⟩

end Toolwrap.Memory
