import Toolwrap.Proofs.Running.Builtins

-- The variables of a running function: what they hold is listed in the order in which
-- they were declared, on top of a session that is the same below them.

namespace Toolwrap.Running

open Shell

abbrev Held := List (String × Content)

-- The scope of the running function. A mark says which of the names are exported.
def localsOf (marks : String → Bool) (held : Held) : Scope :=
  held.map fun d => (d.1, { content := d.2, exported := marks d.1 })

def within (c : Session) (marks : String → Bool) (held : Held) (status : Nat) : Session :=
  { c with scopes := localsOf marks held :: c.scopes, status }

-- The session in which the body of a function is run, but for its scope, and the marks of what
-- is around it.
def opened (s : Session) (name : String) (f : Function) (args : List String) (line : Nat) : Session :=
  { calling s name f args line with scopes := s.scopes }

def marksOf (s : Session) (x : String) : Bool := ((s.find? x).map (·.exported)).getD false

def kept : Held → String → Content → Held
  | [], x, k => [(x, k)]
  | (y, j) :: held, x, k => if y = x then (x, k) :: held else (y, j) :: kept held x k

section Looking

variable {c : Session} {marks : String → Bool} {held : Held} {status : Nat} {x value : String}
  {k : Content}

theorem locals_lookup : (localsOf marks held).lookup x =
    (held.lookup x).map fun k => { content := k, exported := marks x } := by
  induction held with
  | nil => rfl
  | cons d held found =>
    obtain ⟨y, j⟩ := d
    unfold localsOf at found ⊢
    rw [List.map_cons, lookup_first, lookup_first, found]
    by_cases same : x = y
    · subst same
      simp
    · simp [same]

theorem locals_put : (localsOf marks held).put x { content := k, exported := marks x } =
    localsOf marks (kept held x k) := by
  induction held with
  | nil => rfl
  | cons d held put =>
    obtain ⟨y, j⟩ := d
    unfold localsOf at put ⊢
    rw [List.map_cons, Scope.put, kept]
    by_cases same : y = x
    · simp [same]
    · simp [same, put]

theorem kept_new (fresh : held.lookup x = none) : kept held x k = held ++ [(x, k)] := by
  induction held with
  | nil => rfl
  | cons d held new =>
    obtain ⟨y, j⟩ := d
    rw [lookup_first] at fresh
    by_cases same : x = y
    · rw [if_pos same] at fresh
      cases fresh
    · rw [if_neg same] at fresh
      rw [kept, if_neg (Ne.symm same), new fresh]
      rfl

theorem kept_twice (j : Content) : kept (kept held x j) x k = kept held x k := by
  induction held with
  | nil => simp [kept]
  | cons d held again =>
    obtain ⟨y, i⟩ := d
    by_cases same : y = x <;> simp [kept, same, again]

theorem within_find : (within c marks held status).find? x =
    match held.lookup x with
    | some k => some { content := k, exported := marks x }
    | none => c.find? x := by
  unfold Session.find? within
  rw [List.findSome?_cons, locals_lookup]
  cases held.lookup x <;> rfl

theorem within_held (there : held.lookup x = some k) :
    (within c marks held status).find? x = some { content := k, exported := marks x } := by
  rw [within_find, there]

theorem within_absent (absent : held.lookup x = none) :
    (within c marks held status).find? x = c.find? x := by
  rw [within_find, absent]

theorem within_ordinarily (there : held.lookup x = some k) :
    Ordinarily (within c marks held status) x := by
  intro v found
  rw [within_held there] at found
  obtain rfl := Option.some.inj found
  exact ⟨rfl, rfl, rfl, rfl⟩

theorem within_outside (absent : held.lookup x = none) (plain : Ordinarily c x) :
    Ordinarily (within c marks held status) x := by
  intro v found
  rw [within_absent absent] at found
  exact plain v found

theorem within_stands (own : isOwn x = true) (there : held.lookup x = some (.text value)) :
    Stands (within c marks held status) x (some value) := by
  have plain : Ordinarily (within c marks held status) x := within_ordinarily there
  have stands := stands_own own plain
  rwa [Session.value?, within_held there] at stands

theorem within_put (there : held.lookup x = some k) (content : Content) :
    (within c marks held status).put x { content, exported := marks x } =
      within c marks (kept held x content) status := by
  have isSome : ((localsOf marks held).lookup x).isSome = true := by
    rw [locals_lookup, there]
    rfl
  unfold Session.put within
  cases scopes : c.scopes with
  | nil => simp only [Scope.putIn, locals_put]
  | cons scope rest => simp only [Scope.putIn, isSome, if_true, locals_put]

-- What the function has not declared changes below its variables.
theorem within_put_outside {v : Variable} (absent : held.lookup x = none) (filled : c.scopes ≠ []) :
    (within c marks held status).put x v = within (c.put x v) marks held status := by
  have isNone : ((localsOf marks held).lookup x).isSome = false := by
    rw [locals_lookup, absent]
    rfl
  unfold Session.put within
  cases scopes : c.scopes with
  | nil => exact absurd scopes filled
  | cons scope rest => simp only [Scope.putIn, isNone, Bool.false_eq_true, if_false]

theorem within_given (there : held.lookup x = some k) :
    given (within c marks held status) x value = within c marks (kept held x (.text value)) status := by
  unfold given Session.variableD
  rw [within_held there]
  exact within_put there (.text value)

theorem within_flat (there : held.lookup x = some k) (flat : k.isArray = false) :
    Flat (within c marks held status) x := by
  intro v found
  rw [within_held there] at found
  obtain rfl := Option.some.inj found
  exact flat

theorem within_store (own : isOwn x = true) (there : held.lookup x = some k) (flat : k.isArray = false) :
    Gives (Assign.store (.whole x) false value) (within c marks held status) ()
      (within c marks (kept held x (.text value)) status) := by
  have plain : Ordinarily (within c marks held status) x := within_ordinarily there
  rw [← within_given there]
  exact store_gives own plain (within_flat there flat)

theorem assign_within {E : Engine} {word : Word} (quiet : Quiet c) (own : isOwn x = true)
    (there : held.lookup x = some k) (flat : k.isArray = false)
    (read : Yields (Word.valueText E word) (within c marks held status) value) :
    ComesTo ((assign x word).run E) (within c marks held status)
      (.ok () (within c marks (kept held x (.text value)) 0)) := by
  have assigned := assign_comesTo (s := within c marks held status) quiet own
    (within_ordinarily there) (within_flat there flat) read
  rw [within_given there] at assigned
  exact assigned

end Looking

section Declaring

-- A declaration: a name, perhaps with a value behind it.
abbrev Declared := String × Option String

def Declared.text (d : Declared) : String :=
  match d.2 with
  | some v => d.1 ++ "=" ++ v
  | none => d.1

def Declared.entry (d : Declared) : String × Content :=
  (d.1, match d.2 with | some v => .text v | none => .declared)

variable {x : String} {d : Declared}

theorem own_chars (own : isOwn x = true) : ∀ c ∈ x.toList, c ≠ '=' ∧ c ≠ '+' ∧ c ≠ '[' := by
  intro c member
  have named := isName_chars (own_isName own) c member
  refine ⟨?_, ?_, ?_⟩ <;> rintro rfl <;> exact absurd named (by decide)

theorem own_filled (own : isOwn x = true) : x.toList ≠ [] := by
  intro empty
  have named := own_isName own
  rw [isName, empty] at named
  cases named

theorem own_first (own : isOwn x = true) {rest : List Char} {text : String}
    (front : text.toList = x.toList ++ rest) :
    ∃ c cs, text.toList = c :: cs ∧ c ≠ '-' ∧ c ≠ '+' := by
  obtain ⟨c, cs, shape⟩ := List.exists_cons_of_ne_nil (own_filled own)
  refine ⟨c, cs ++ rest, by rw [front, shape]; rfl, ?_, ?_⟩
  · rintro rfl
    exact own_dashless own cs shape
  · rintro rfl
    exact (own_chars own '+' (by rw [shape]; exact List.mem_cons_self ..)).2.1 rfl

theorem binding_name (own : isOwn x = true) : Builtin.binding x = ⟨x, false, none⟩ := by
  have free : ∀ c ∈ x.toList, (c != '=') = true :=
    fun c member => bne_iff_ne.mpr (own_chars own c member).1
  unfold Builtin.binding
  simp only [List.takeWhile_eq_self_iff.mpr free, List.drop_length]

theorem binding_value (own : isOwn x = true) (v : String) :
    Builtin.binding (x ++ "=" ++ v) = ⟨x, false, some v⟩ := by
  have free : ∀ c ∈ x.toList, (c != '=') = true :=
    fun c member => bne_iff_ne.mpr (own_chars own c member).1
  have shape : (x ++ "=" ++ v).toList = x.toList ++ '=' :: v.toList := by simp
  have front : (x ++ "=" ++ v).toList.takeWhile (· != '=') = x.toList := by
    rw [shape, List.takeWhile_append_of_pos free]
    simp
  unfold Builtin.binding
  simp only [front]
  rw [shape, List.drop_left]
  split
  · rename_i value reversed
    obtain ⟨rfl⟩ := reversed
    split
    · rename_i rest backwards
      have last : '+' ∈ x.toList := by
        rw [← List.mem_reverse, backwards]
        exact List.mem_cons_self ..
      exact absurd rfl (own_chars own '+' last).2.1
    · simp
  · rename_i other
    exact absurd rfl (other v.toList)

theorem binding_declared (own : isOwn d.1 = true) : Builtin.binding d.text = ⟨d.1, false, d.2⟩ := by
  obtain ⟨x, value⟩ := d
  cases value with
  | none => exact binding_name own
  | some v => exact binding_value own v

theorem marks_none (own : isOwn d.1 = true) (found : Builtin.Marks) (words : List String) :
    Builtin.Marks.read Builtin.declareLetters found (d.text :: words) = .ok (found, d.text :: words) := by
  have front : ∃ rest, d.text.toList = d.1.toList ++ rest := by
    obtain ⟨x, value⟩ := d
    cases value with
    | none => exact ⟨[], by simp [Declared.text]⟩
    | some v => exact ⟨'=' :: v.toList, by simp [Declared.text]⟩
  obtain ⟨rest, front⟩ := front
  obtain ⟨c, cs, shape, dash, plus⟩ := own_first own front
  rw [Builtin.Marks.read, shape]
  split
  · rename_i same
    exact absurd (List.cons.inj same).1 dash
  · rename_i same
    exact absurd (List.cons.inj same).1 dash
  · rename_i same
    exact absurd (List.cons.inj same).1 plus
  · rfl

variable {E : Engine} {c : Session} {marks : String → Bool} {held : Held} {status : Nat}

theorem change_none {v : Variable} : Builtin.Marks.change {} v = v := by
  obtain ⟨content, exported, fixed, integer, casing, reference⟩ := v
  cases content <;> rfl

-- What a declaration finds: nothing of the function itself has the name yet.
structure Declares (c : Session) (marks : String → Bool) (held : Held) (d : Declared) : Prop where
  own : isOwn d.1 = true
  fresh : held.lookup d.1 = none
  plain : Ordinarily c d.1
  inherits : marks d.1 = ((c.find? d.1).map (·.exported)).getD false

theorem declareOne_gives (declares : Declares c marks held d) :
    Gives (Builtin.declareOne "local" {} true (Builtin.binding d.text)) (within c marks held status)
      true (within c marks (held ++ [d.entry]) status) := by
  obtain ⟨own, fresh, plain, inherits⟩ := declares
  obtain ⟨x, value⟩ := d
  have declared : held ++ [(x, Content.declared)] = kept held x .declared := (kept_new fresh).symm
  have there : (held ++ [(x, Content.declared)]).lookup x = some .declared := by
    rw [List.lookup_append, fresh, List.lookup_cons_self]
    rfl
  intro m
  have self : (leaving (within c marks held status) m).resolved x = x :=
    resolved_self (s := leaving (within c marks held status) m)
      (@within_outside c marks held status x fresh plain)
  have old : Builtin.localVariable (leaving (within c marks held status) m) x =
      { content := .declared, exported := marks x } := by
    have none_ : (localsOf marks held).lookup x = none := by rw [locals_lookup, fresh]; rfl
    have outer : (leaving (within c marks held status) m).find? x = c.find? x :=
      @within_absent c marks held status x fresh
    unfold Builtin.localVariable
    rw [outer, ← inherits]
    simp only [leaving, within, List.headD_cons, none_]
  have free : (((leaving (within c marks held status) m).find? x).map (·.fixed)).getD false = false := by
    cases found : (leaving (within c marks held status) m).find? x with
    | none => rfl
    | some v => exact (@within_outside c marks held status x fresh plain v found).free
  have put : (leaving (within c marks held status) m).putLocal x
      { content := .declared, exported := marks x } =
        leaving (within c marks (held ++ [(x, .declared)]) status) m := by
    rw [declared]
    unfold Session.putLocal
    simp only [leaving, within, locals_put]
  unfold Builtin.declareOne
  rw [bind_ok get_ok, binding_declared own]
  simp only [own_no_element own, own_isName own, Bool.not_true, Bool.false_eq_true, if_false]
  simp only [List.contains_nil, Bool.or_self, Bool.false_eq_true, if_false, if_true, self, old, free,
    Bool.and_false, change_none, Option.isSome_none, Bool.false_and]
  rw [bind_ok (modify_ok _), put]
  cases value with
  | none => rfl
  | some v =>
    have filled : kept (held ++ [(x, Content.declared)]) x (.text v) = held ++ [(x, .text v)] := by
      rw [declared, kept_twice, kept_new fresh]
    have stored := @within_store c marks _ status x v _ own there rfl m
    rw [filled] at stored
    exact (bind_ok stored).trans rfl

theorem declares_more {e : Declared} (declares : Declares c marks held e) (other : e.1 ≠ d.1) :
    Declares c marks (held ++ [d.entry]) e := by
  refine { declares with fresh := ?_ }
  rw [List.lookup_append, declares.fresh, show [d.entry].lookup e.1 = none from ?_]
  · rfl
  · unfold Declared.entry
    rw [lookup_first, if_neg other]
    rfl

theorem declareAll_gives {ds : List Declared} (declares : ∀ d ∈ ds, Declares c marks held d)
    (distinct : (ds.map (·.1)).Nodup) :
    Gives (Builtin.declareAll "local" {} true (ds.map Declared.text)) (within c marks held status) ()
      (within c marks (held ++ ds.map Declared.entry) 0) := by
  have looped : ∀ (ds : List Declared) (held : Held), (∀ d ∈ ds, Declares c marks held d) →
      (ds.map (·.1)).Nodup → ∀ m, (forIn (ds.map Declared.text) 0 fun word (r : Nat) => do
        let ok ← Builtin.declareOne "local" {} true (Builtin.binding word)
        if !ok then pure (.yield 1) else pure (.yield r) : Run Nat)
          (leaving (within c marks held status) m) =
        .ok 0 (leaving (within c marks (held ++ ds.map Declared.entry) status) m) := by
    intro ds
    induction ds with
    | nil =>
      intro held _ _ m
      simp only [List.map_nil, List.append_nil]
      rfl
    | cons d ds more =>
      intro held declares distinct m
      rw [List.map_cons, List.nodup_cons] at distinct
      obtain ⟨apart, distinct⟩ := distinct
      have later : ∀ e ∈ ds, Declares c marks (held ++ [d.entry]) e := by
        intro e member
        refine declares_more (declares e (List.mem_cons_of_mem _ member)) ?_
        intro same
        exact apart (List.mem_map.mpr ⟨e, member, same⟩)
      have rest := more (held ++ [d.entry]) later distinct m
      rw [List.append_assoc] at rest
      rw [List.map_cons, List.forIn_cons, bind_assoc,
        bind_ok (declareOne_gives (declares d (List.mem_cons_self ..)) m)]
      exact rest
  intro m
  unfold Builtin.declareAll
  exact (bind_ok (looped ds held declares distinct m)).trans rfl

-- Variables are declared one behind the other, and each text is the value of its own.
theorem local_comesTo {words : List Word} {ds : List Declared} (quiet : Quiet c)
    (inside : c.isInFunction = true) (filled : ds ≠ [])
    (reads : Reads E (within c marks held status) words ("local" :: ds.map Declared.text))
    (declares : ∀ d ∈ ds, Declares c marks held d) (distinct : (ds.map (·.1)).Nodup) :
    ComesTo ((run words).run E) (within c marks held status)
      (.ok () (within c marks (held ++ ds.map Declared.entry) 0)) := by
  refine builtin_ok (Builtin.declareAs "local" true) quiet reads (by decide) rfl (by decide) ?_ quiet
    rfl (Or.inl rfl)
  obtain ⟨d, rest, rfl⟩ := List.exists_cons_of_ne_nil filled
  have declared := @declareAll_gives c marks held status (d :: rest) declares distinct
  intro m
  have full : (leaving (within c marks held status) m).isPlain = false :=
    Quiet.not_plain (s := leaving (within c marks held status) m) quiet
  have running : (leaving (within c marks held status) m).isInFunction = true := inside
  refine ⟨m, ?_⟩
  unfold Builtin.declareAs
  rw [bind_ok get_ok, full, List.map_cons, marks_none (declares d (List.mem_cons_self ..)).own {}]
  simp only [Bool.false_eq_true, if_false, running, Bool.not_true, Bool.and_false, List.contains_nil,
    List.isEmpty_cons, Bool.not_false, Bool.and_true]
  exact declared m

end Declaring

section Returning

variable {E : Engine} {s : Session}

-- A function gives a status back, or the last one if it names none.
theorem return_comesTo {words : List Word} {args : List String} {code : Option Nat} (quiet : Quiet s)
    (inside : s.isInFunction = true) (reads : Reads E s words ("return" :: args))
    (coded : Yields (Builtin.codeOf? "return" args) s code) :
    ComesTo ((run words).run E) s (.error (.returned (code.getD s.status)) s) := by
  refine builtin_error Builtin.return_ quiet reads (by decide) rfl (by decide) ?_ rfl
  intro m
  have running : (leaving s m).frames.isEmpty = false := by
    cases frames : s.frames with
    | nil =>
      rw [Session.isInFunction, frames] at inside
      cases inside
    | cons frame rest => simp only [leaving, frames, List.isEmpty_cons]
  refine ⟨m, ?_⟩
  unfold Builtin.return_
  rw [bind_ok get_ok, bind_ok (coded m), running]
  rfl

end Returning

end Toolwrap.Running
