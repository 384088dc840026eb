import Toolwrap.Proofs.Running.Elements
import Toolwrap.Proofs.Running.Pieces

-- A line of the input whose pieces between slashes become the values of an array, and an array
-- that a function declares.

namespace Toolwrap.Running

open Shell

def lineOf (text : List Char) : List Char := text.takeWhile (· != '\n')

def behindLine (text : List Char) : List Char := (text.dropWhile (· != '\n')).drop 1

section Taking

variable {text piece : List Char} {rest : List Marked}

theorem takeUntil_raw (c : Char) (text : List Char) : Builtin.takeUntil true (some '\n') none (c :: text) =
    Builtin.takeUntil.step true (some '\n') none c text := by
  by_cases slash : c = '\\'
  · subst slash
    unfold Builtin.takeUntil
    rfl
  · rw [Builtin.takeUntil]
    · exact slash
    · exact (Option.some_ne_none _).symm

theorem takeUntil_line (solid : '\x00' ∉ text) (fed : '\n' ∈ text) :
    Builtin.takeUntil true (some '\n') none text = ⟨(lineOf text).map (·, false), false, behindLine text⟩ := by
  induction text with
  | nil => cases fed
  | cons c text more =>
    rw [takeUntil_raw, Builtin.takeUntil.step]
    by_cases feed : c = '\n'
    · subst feed
      rfl
    · have later := (List.mem_cons.mp fed).resolve_left (Ne.symm feed)
      have filled : c ≠ '\x00' := fun zero => solid (zero ▸ List.mem_cons_self ..)
      have goes : (c != '\n') = true := bne_iff_ne.mpr feed
      have apart : (some c == some '\n') = false := beq_eq_false_iff_ne.mpr fun same => feed (Option.some.inj same)
      rw [apart, Option.map_none, more (fun member => solid (List.mem_cons_of_mem _ member)) later]
      simp only [Bool.false_eq_true, if_false, beq_iff_eq, filled]
      unfold lineOf behindLine
      rw [List.takeWhile_cons_of_pos (p := (· != '\n')) goes, List.dropWhile_cons_of_pos (p := (· != '\n')) goes,
        List.map_cons]

def slashes : Separators := ⟨['/']⟩

theorem slashes_blank (s : List Marked) : s.dropWhile (Builtin.isBlankMark slashes) = s := by
  cases s with
  | nil => rfl
  | cons c s =>
    refine List.dropWhile_cons_of_neg ?_
    unfold Builtin.isBlankMark slashes Separators.isBlank
    by_cases slash : c.1 = '/'
    · rw [slash]
      simp
    · simp [slash]

theorem slashes_free (free : '/' ∉ piece) :
    ∀ c ∈ piece.map fun c => ((c, false) : Marked), (!Builtin.isSeparator slashes c) = true := by
  intro c member
  obtain ⟨d, inside, rfl⟩ := List.mem_map.mp member
  have other : d ≠ '/' := by
    rintro rfl
    exact free inside
  unfold Builtin.isSeparator slashes
  simp [other]

theorem nextField_whole (free : '/' ∉ piece) :
    Builtin.nextField slashes (piece.map (·, false)) = (piece.map (·, false), []) := by
  unfold Builtin.nextField
  simp only [slashes_blank]
  rw [List.takeWhile_eq_self_iff.mpr (slashes_free free), List.drop_length]

theorem nextField_mark (free : '/' ∉ piece) :
    Builtin.nextField slashes (piece.map (·, false) ++ ('/', false) :: rest) = (piece.map (·, false), rest) := by
  unfold Builtin.nextField
  simp only [slashes_blank]
  rw [List.takeWhile_append_of_pos (slashes_free free), List.takeWhile_cons_of_neg (by decide), List.append_nil,
    List.drop_left]
  rfl

-- The fields of a line are its pieces between slashes, without one at the end that is empty.
theorem fields_pieces {fuel : Nat} (enough : text.length < fuel) : ∃ last, (last = [] ∨ last = [""]) ∧
    (Text.Chars.splitAt '/' text).map String.ofList =
      (Builtin.allFields slashes fuel (text.map (·, false))).map plainText ++ last := by
  have plain : ∀ piece : List Char, plainText (piece.map (·, false)) = String.ofList piece := by
    intro piece
    unfold plainText
    simp [Function.comp_def]
  induction text using @pieces_induction '/' generalizing fuel with
  | last piece free =>
    rw [splitAt_absent free, List.map_singleton]
    obtain ⟨fuel, rfl⟩ := Nat.exists_eq_add_one_of_ne_zero (Nat.ne_of_gt (Nat.zero_lt_of_lt enough))
    rw [Builtin.allFields, slashes_blank]
    cases piece with
    | nil => exact ⟨[""], Or.inr rfl, rfl⟩
    | cons c piece =>
      refine ⟨[], Or.inl rfl, ?_⟩
      have ended : Builtin.allFields slashes fuel [] = [] := by cases fuel <;> rfl
      rw [nextField_whole free]
      simp only [List.map_cons, List.isEmpty_cons, Bool.false_eq_true, if_false, ended, List.map_nil, List.append_nil]
      exact congrArg (fun f => [f]) (plain (c :: piece)).symm
  | next piece rest free more =>
    rw [List.length_append, List.length_cons] at enough
    obtain ⟨fuel, rfl⟩ := Nat.exists_eq_add_one_of_ne_zero (Nat.ne_of_gt (Nat.zero_lt_of_lt enough))
    obtain ⟨last, shape, pieces⟩ := @more fuel (by omega)
    refine ⟨last, shape, ?_⟩
    have filled : (piece.map (fun c => ((c, false) : Marked)) ++ ('/', false) :: rest.map (·, false)).isEmpty = false := by
      rw [Bool.eq_false_iff, ne_eq, List.isEmpty_iff]
      simp
    rw [splitAt_append, splitAt_absent free, List.map_append, List.map_cons, pieces, Builtin.allFields, slashes_blank]
    rw [List.map_append, List.map_cons, nextField_mark free, filled]
    simp only [List.map_nil, List.map_cons, List.cons_append, List.nil_append, Bool.false_eq_true, if_false, plain]

end Taking

section Reading

variable {E : Engine} {s : Session} {x text : String} {n : Nat}

def fieldsOf (text : List Char) : List String :=
  (Builtin.allFields slashes ((lineOf text).length + 1) ((lineOf text).map (·, false))).map plainText

theorem readItems_comesTo (quiet : Quiet s) (own : isOwn x = true) (tame : x.toList.all isTame = true)
    (plain : Ordinarily s x) (apart : s.separators = slashes) (leads : s.channel 0 = .text n) (held : s.textOf n = text)
    (solid : '\x00' ∉ text.toList) (fed : '\n' ∈ text.toList) :
    ComesTo ((say ["read", "-r", "-a", x]).run E) s (.ok ()
      { listing (s.setTextOf n (String.ofList (behindLine text.toList))) x (fieldsOf text.toList) with status := 0 }) := by
  have reads : Reads E s (["read", "-r", "-a", x].map bare) ["read", "-r", "-a", x] :=
    reads_bare "read" (by decide) (by decide) (reads_bare "-r" (by decide) (by decide)
      (reads_bare "-a" (by decide) (by decide) (reads_bare x tame (mt String.toList_eq_nil_iff.mpr (own_filled own)) reads_nil)))
  refine builtin_ok Builtin.read quiet reads (by decide) rfl (by decide) (fun m => ⟨m, ?_⟩) quiet rfl (Or.inl rfl)
  have optioned : Builtin.optionsOf "ers".toList "adintpuN".toList ["-r", "-a", x] =
      .ok ([('r', none), ('a', some x)], []) := by
    delta Builtin.optionsOf
    rfl
  have full : (leaving s m).isPlain = false := quiet.not_plain
  have led : (leaving s m).channel 0 = .text n := leads
  have input : (leaving s m).input (.text n) = text := held
  let t := s.setTextOf n (String.ofList (behindLine text.toList))
  have self : (leaving t m).resolved x = x := resolved_self (s := leaving t m) plain
  have free : Yields (Arithmetic.needFree x) t () := needFree_yields (s := t) own plain
  have parted : (leaving s m).separators = slashes := apart
  have ran : Builtin.read.go [('r', none), ('a', some x)] [] (leaving s m) =
      .ok () (leaving { listing t x (fieldsOf text.toList) with status := 0 } m) := by
    have fd : (Builtin.descriptorOf [('r', none), ('a', some x)]).getD 0 = 0 := rfl
    have exact_ : Builtin.value? [('r', none), ('a', some x)] 'N' = none := rfl
    have most : Builtin.value? [('r', none), ('a', some x)] 'n' = none := rfl
    have mark : Builtin.value? [('r', none), ('a', some x)] 'd' = none := rfl
    have array : Builtin.value? [('r', none), ('a', some x)] 'a' = some x := rfl
    have raw : Builtin.has [('r', none), ('a', some x)] 'r' = true := rfl
    have opened : (Channel.text n == Channel.closed) = false := rfl
    unfold Builtin.read.go
    rw [bind_ok get_ok]
    simp only [fd, exact_, most, mark, array, raw, led, opened, input, Option.bind_none, Option.isSome_none, Option.or_none,
      Bool.false_eq_true, if_false, takeUntil_line solid fed, parted]
    have stored : (modify fun u => u.setContent (u.resolved x) (numberedItems (fieldsOf text.toList)) : Run PUnit) (leaving t m) =
        .ok () (leaving (listing t x (fieldsOf text.toList)) m) := by
      rw [modify_ok, self]
      rfl
    unfold fieldsOf at stored
    rw [List.length_map]
    refine (bind_ok set_ok).trans ((bind_ok (free m)).trans ((bind_ok stored).trans ?_))
    rfl
  unfold Builtin.read Builtin.withOptions
  rw [bind_ok get_ok, optioned]
  simp only [full]
  have asked : (["-r", "-a", x].head? == some "--help") = false := rfl
  rw [asked]
  refine (bind_ok get_ok).trans ?_
  rw [full]
  exact ran

end Reading

section Declaring

variable {E : Engine} {s : Session} {x y : String} {v : Variable}

-- A session whose running function has an array of its own, without values yet.
def ownItems (s : Session) (x : String) : Variable :=
  { content := numberedItems [], exported := ((s.find? x).map (·.exported)).getD false }

def arrayed (s : Session) (x : String) : Session :=
  { s with scopes := (s.scopes.headD []).put x (ownItems s x) :: s.scopes.tail }

theorem arrayed_put : s.putLocal x (ownItems s x) = arrayed s x := by
  unfold arrayed Session.putLocal
  cases shape : s.scopes <;> rfl

theorem arrayed_find : (arrayed s x).find? y = if y = x then some (ownItems s x) else s.find? y := by
  unfold arrayed Session.find?
  cases scopes : s.scopes with
  | nil => by_cases same : y = x <;> simp [lookup_put, same]
  | cons scope rest => by_cases same : y = x <;> simp [List.findSome?_cons, lookup_put, same]

-- What is put under another name leaves the names of the running function as they are.
theorem head_put (other : y ≠ x) : ((s.put x v).scopes.headD []).lookup y = (s.scopes.headD []).lookup y := by
  unfold Session.put
  cases shape : s.scopes with
  | nil => simp [Scope.putIn, lookup_first, other]
  | cons scope rest =>
    cases rest with
    | nil => simp [Scope.putIn, lookup_put, other]
    | cons next others =>
      rw [Scope.putIn]
      · split <;> simp [lookup_put, other]
      · simp

theorem arrayed_lists : Lists (arrayed s x) x [] := ⟨ownItems s x, by rw [arrayed_find, if_pos rfl], rfl⟩

theorem arrayed_ordinarily (plain : Ordinarily s y) : Ordinarily (arrayed s x) y := by
  intro v found
  rw [arrayed_find] at found
  split at found
  · obtain rfl := Option.some.inj found
    exact ⟨rfl, rfl, rfl, rfl⟩
  · exact plain v found

theorem declareItems_comesTo (quiet : Quiet s) (own : isOwn x = true) (tame : x.toList.all isTame = true)
    (plain : Ordinarily s x) (inside : s.isInFunction = true) (fresh : (s.scopes.headD []).lookup x = none) :
    ComesTo ((say ["declare", "-a", x]).run E) s (.ok () { arrayed s x with status := 0 }) := by
  have reads : Reads E s (["declare", "-a", x].map bare) ["declare", "-a", x] :=
    reads_bare "declare" (by decide) (by decide) (reads_bare "-a" (by decide) (by decide)
      (reads_bare x tame (mt String.toList_eq_nil_iff.mpr (own_filled own)) reads_nil))
  refine builtin_ok (Builtin.declareAs "declare" false) quiet reads (by decide) rfl (by decide) (fun m => ⟨m, ?_⟩)
    quiet rfl (Or.inl rfl)
  have full : (leaving s m).isPlain = false := quiet.not_plain
  have self : (leaving s m).resolved x = x := resolved_self (s := leaving s m) plain
  have marked : Builtin.Marks.read Builtin.declareLetters {} ["-a", x] = .ok ({ on := ['a'] }, [x]) := by
    rw [Builtin.Marks.read]
    exact @marks_none (x, none) own { on := ['a'] } []
  have old : Builtin.localVariable (leaving s m) x =
      { content := .declared, exported := ((s.find? x).map (·.exported)).getD false } := by
    have none_ : ((leaving s m).scopes.headD []).lookup x = none := fresh
    unfold Builtin.localVariable
    rw [none_]
    rfl
  have free : (((leaving s m).find? x).map (·.fixed)).getD false = false := by
    cases found : (leaving s m).find? x with
    | none => rfl
    | some v => exact (plain v found).free
  have put : (leaving s m).putLocal x (ownItems s x) = leaving (arrayed s x) m := by
    rw [← arrayed_put]
    unfold Session.putLocal
    cases shape : s.scopes with
    | nil => simp only [leaving, shape]
    | cons scope rest => simp only [leaving, shape]
  have declared : Builtin.declareOne "declare" { on := ['a'] } true (Builtin.binding x) (leaving s m) =
      .ok true (leaving (arrayed s x) m) := by
    unfold Builtin.declareOne
    rw [bind_ok get_ok, binding_name own]
    simp only [own_no_element own, own_isName own, Bool.not_true, Bool.false_eq_true, if_false, self, old, if_true, ite_self,
      free, Bool.and_false, Bool.or_self, Bool.false_and]
    exact (bind_ok (modify_ok _)).trans (congrArg (fun u => (.ok true u : Ending Bool)) put)
  have zero : Run.setStatus 0 (leaving (arrayed s x) m) = .ok () (leaving { arrayed s x with status := 0 } m) := rfl
  have running : (leaving s m).isInFunction = true := inside
  unfold Builtin.declareAs
  rw [bind_ok get_ok, full, marked]
  simp only [Bool.false_eq_true, if_false, Bool.false_and, running]
  unfold Builtin.declareAll
  refine (bind_ok (forIn_word (k := 0) (t := leaving (arrayed s x) m) ?_)).trans zero
  exact (bind_ok declared).trans rfl

end Declaring

end Toolwrap.Running
