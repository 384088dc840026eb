import Toolwrap.Proofs.Running.Commands
import Toolwrap.Shell.Phrases

-- Variables that are nothing but variables: what is looked up under their names, and
-- what assignments make of them.

namespace Toolwrap.Running

open Shell

-- Names that stand for nothing but a variable.
def isOwn (x : String) : Bool := isName x && !("_" :: "OPTIND" :: Session.facts).contains x

theorem own_other {x y : String} (own : isOwn x = true)
    (listed : y ∈ "_" :: "OPTIND" :: Session.facts) : x ≠ y := by
  rintro rfl
  rw [isOwn, Bool.and_eq_true, List.contains_eq_mem, Bool.not_eq_true', decide_eq_false_iff_not]
    at own
  exact own.2 listed

theorem own_isName {x : String} (own : isOwn x = true) : isName x = true := by
  rw [isOwn, Bool.and_eq_true] at own
  exact own.1

-- The mark of a parameter that is not a variable is no name.
theorem own_ne {x y : String} (own : isOwn x = true) (mark : isName y = false) : x ≠ y := by
  rintro rfl
  rw [own_isName own] at mark
  cases mark

theorem fact_none {x : String} (own : isOwn x = true) (s : Session) : s.fact? x = none := by
  have other : ∀ y ∈ Session.facts, x ≠ y := fun y listed =>
    own_other own (List.mem_cons_of_mem _ (List.mem_cons_of_mem _ listed))
  unfold Session.fact?
  split
  · rfl
  · split <;> first | rfl | exact absurd rfl (other _ (by decide))

theorem own_not_digits {x : String} (own : isOwn x = true) : x.toList.all Char.isDigit = false := by
  have named := own_isName own
  unfold isName at named
  cases shape : x.toList with
  | nil =>
    rw [shape] at named
    cases named
  | cons c rest =>
    rw [shape] at named
    rw [Bool.and_eq_true] at named
    rw [List.all_cons, Bool.and_eq_false_iff]
    exact Or.inl (isDigit_of_isNameStart named.1)

theorem special_own {x : String} (own : isOwn x = true) (s : Session) :
    s.special? x = (s.contentOf x).value? := by
  unfold Session.special?
  split
  · exact absurd rfl (own_ne own (by decide))
  · exact absurd rfl (own_ne own (by decide))
  · exact absurd rfl (own_ne own (by decide))
  · exact absurd rfl (own_ne own (by decide))
  · exact absurd rfl (own_ne own (by decide))
  · exact absurd rfl (own_other own (by decide))
  · rw [own_not_digits own]
    rfl

-- A variable with no marks that change what it is given or where its name leads.
structure Ordinary (v : Variable) : Prop where
  free : v.fixed = false
  literal : v.integer = false
  uncased : v.casing = none
  direct : v.reference = false

-- Whatever stands under a name is ordinary.
def Ordinarily (s : Session) (x : String) : Prop := ∀ v, s.find? x = some v → Ordinary v

-- Where every variable of a session is ordinary, any name leads to an ordinary one.
theorem ordinarily_all {s : Session}
    (all : ∀ d ∈ s.scopes.flatten, d.2.fixed = false ∧ d.2.integer = false ∧ d.2.casing = none ∧ d.2.reference = false)
    (x : String) : Ordinarily s x := by
  intro v found
  obtain ⟨scope, listed, inside⟩ := List.exists_of_findSome?_eq_some found
  obtain ⟨d, member, rfl⟩ : ∃ d ∈ scope, d.2 = v := by
    obtain ⟨front, behind, shape, -⟩ := List.lookup_eq_some_iff.mp inside
    exact ⟨(x, v), by rw [shape]; simp, rfl⟩
  obtain ⟨free, literal, uncased, direct⟩ := all d (List.mem_flatten.mpr ⟨scope, listed, member⟩)
  exact ⟨free, literal, uncased, direct⟩

section Looking

variable {s : Session} {x : String}

theorem resolved_self (plain : Ordinarily s x) : s.resolved x = x := by
  unfold Session.resolved
  rw [Session.resolved.go]
  split
  · rename_i y found
    have direct := (plain _ found).direct
    cases direct
  · rfl

theorem contentOf_own (own : isOwn x = true) (plain : Ordinarily s x) :
    s.contentOf x = ((s.find? x).map (·.content)).getD .declared := by
  unfold Session.contentOf
  rw [resolved_self plain]
  simp only [fact_none own]
  cases s.find? x <;> rfl

theorem special_value (own : isOwn x = true) (plain : Ordinarily s x) :
    s.special? x = s.value? x := by
  rw [special_own own, contentOf_own own plain, Session.value?]
  cases s.find? x <;> rfl

theorem needFree_yields (own : isOwn x = true) (plain : Ordinarily s x) :
    Yields (Arithmetic.needFree x) s () := by
  intro m
  have same : (leaving s m).resolved x = x := resolved_self (s := leaving s m) plain
  unfold Arithmetic.needFree
  rw [bind_ok get_ok, same]
  have free : (((leaving s m).find? x).map (·.fixed)).getD
      (Session.fixedFacts.contains x && !(leaving s m).isPlain) = false := by
    cases found : (leaving s m).find? x with
    | none =>
      have unlisted : Session.fixedFacts.contains x = false := by
        have facts : ∀ y ∈ Session.fixedFacts, y ∈ "_" :: "OPTIND" :: Session.facts := by decide
        rw [List.contains_eq_mem, decide_eq_false_iff_not]
        exact fun listed => own_other own (facts x listed) rfl
      rw [unlisted]
      rfl
    | some v => exact (plain v found).free
  simp only [free, Bool.false_eq_true, if_false]
  rfl

end Looking

section Putting

variable {x y : String} {v w : Variable}

theorem lookup_first {α : Type} (rest : List (String × α)) (a : α) :
    ((x, a) :: rest).lookup y = if y = x then some a else rest.lookup y := by
  rw [List.lookup_cons]
  by_cases same : y = x
  · rw [same, beq_self_eq_true, if_pos rfl]
  · rw [beq_eq_false_iff_ne.mpr same, if_neg same]

theorem lookup_without {κ α : Type} [DecidableEq κ] (entries : List (κ × α)) (x y : κ) :
    (entries.filter fun e => e.1 != x).lookup y = if y = x then none else entries.lookup y := by
  induction entries with
  | nil => simp
  | cons entry entries found =>
    obtain ⟨z, a⟩ := entry
    by_cases here : z = x
    · rw [List.filter_cons_of_neg (by simp [here]), found, List.lookup_cons, here]
      by_cases same : y = x
      · rw [if_pos same, if_pos same]
      · rw [beq_eq_false_iff_ne.mpr same]
    · rw [List.filter_cons_of_pos (by simpa using here), List.lookup_cons, List.lookup_cons, found]
      by_cases same : y = z
      · rw [same, beq_self_eq_true]
        exact (if_neg here).symm
      · rw [beq_eq_false_iff_ne.mpr same]

theorem lookup_put (scope : Scope) :
    (Scope.put scope x v).lookup y = if y = x then some v else scope.lookup y := by
  induction scope with
  | nil => simp [Scope.put, lookup_first]
  | cons entry scope found =>
    obtain ⟨z, old⟩ := entry
    rw [Scope.put]
    by_cases here : z = x
    · subst here
      simp only [if_true, lookup_first]
      by_cases same : y = z <;> simp [same]
    · rw [if_neg here, lookup_first, lookup_first, found]
      by_cases same : y = z
      · subst same
        simp [here]
      · simp [same]

theorem putIn_filled {scopes : List Scope} : Scope.putIn x v scopes ≠ [] := by
  unfold Scope.putIn
  split
  · exact List.cons_ne_nil _ _
  · exact List.cons_ne_nil _ _
  · split <;> exact List.cons_ne_nil _ _

theorem findSome_putIn (scopes : List Scope) :
    (Scope.putIn x v scopes).findSome? (·.lookup y) =
      if y = x then some v else scopes.findSome? (·.lookup y) := by
  induction scopes with
  | nil => by_cases same : y = x <;> simp [Scope.putIn, lookup_first, same]
  | cons scope rest found =>
    cases rest with
    | nil => by_cases same : y = x <;> simp [Scope.putIn, lookup_put, same]
    | cons next others =>
      rw [Scope.putIn]
      · split
        · rw [List.findSome?_cons, lookup_put]
          by_cases same : y = x
          · simp [same]
          · simp only [same, if_false]
            rw [← List.findSome?_cons]
        · rename_i absent
          rw [Bool.not_eq_true, Option.isSome_eq_false_iff, Option.isNone_iff_eq_none] at absent
          rw [List.findSome?_cons, found]
          by_cases same : y = x
          · subst same
            simp [absent]
          · simp only [same, if_false]
            rw [← List.findSome?_cons]
      · simp

theorem find_put (s : Session) : (s.put x v).find? y = if y = x then some v else s.find? y :=
  findSome_putIn s.scopes

theorem value_put (s : Session) :
    (s.put x v).value? y = if y = x then v.content.value? else s.value? y := by
  rw [Session.value?, find_put]
  split <;> rfl

theorem put_put_scope (scope : Scope) : (Scope.put scope x v).put x w = scope.put x w := by
  induction scope with
  | nil => simp [Scope.put]
  | cons entry scope again =>
    obtain ⟨z, old⟩ := entry
    by_cases here : z = x <;> simp [Scope.put, here, again]

theorem putIn_putIn (scopes : List Scope) :
    Scope.putIn x w (Scope.putIn x v scopes) = Scope.putIn x w scopes := by
  induction scopes with
  | nil => simp [Scope.putIn, Scope.put]
  | cons scope rest again =>
    cases rest with
    | nil => simp [Scope.putIn, put_put_scope]
    | cons next others =>
      have filled : ∃ first more, Scope.putIn x v (next :: others) = first :: more := by
        cases others with
        | nil => exact ⟨_, _, rfl⟩
        | cons third last =>
          rw [Scope.putIn]
          split <;> exact ⟨_, _, rfl⟩
          simp
      cases there : (scope.lookup x).isSome with
      | true =>
        have kept : ((Scope.put scope x v).lookup x).isSome = true := by simp [lookup_put]
        simp [Scope.putIn, there, kept, put_put_scope]
      | false =>
        obtain ⟨first, more, shape⟩ := filled
        have outer : ∀ u, Scope.putIn x u (scope :: next :: others) =
            scope :: Scope.putIn x u (next :: others) := by
          intro u
          simp [Scope.putIn, there]
        rw [outer v, outer w, shape]
        rw [shape] at again
        have deeper : Scope.putIn x w (scope :: first :: more) =
            scope :: Scope.putIn x w (first :: more) := by
          simp [Scope.putIn, there]
        rw [deeper, again]

theorem put_put (s : Session) : (s.put x v).put x w = s.put x w := by
  unfold Session.put
  rw [putIn_putIn]

end Putting

-- Nothing under a name is an array.
def Flat (s : Session) (x : String) : Prop := ∀ v, s.find? x = some v → v.content.isArray = false

-- A session in which a variable holds a text.
def given (s : Session) (x value : String) : Session :=
  s.put x { s.variableD x with content := .text value }

section Giving

variable {s : Session} {x y value : String}

theorem variableD_ordinary (plain : Ordinarily s x) : Ordinary (s.variableD x) := by
  unfold Session.variableD
  cases found : s.find? x with
  | none => exact ⟨rfl, rfl, rfl, rfl⟩
  | some v => exact plain v found

theorem given_ordinarily (plain : Ordinarily s y) : Ordinarily (given s x value) y := by
  intro v found
  rw [given, find_put] at found
  split at found
  · rename_i same
    subst same
    obtain rfl := Option.some.inj found
    obtain ⟨free, literal, uncased, direct⟩ := variableD_ordinary plain
    exact ⟨free, literal, uncased, direct⟩
  · exact plain v found

theorem given_flat (flat : Flat s y) : Flat (given s x value) y := by
  intro v found
  rw [given, find_put] at found
  split at found
  · obtain rfl := Option.some.inj found
    rfl
  · exact flat v found

theorem given_value : (given s x value).value? y = if y = x then some value else s.value? y := by
  rw [given, value_put]
  rfl

theorem setText_flat (flat : Flat s x) : s.setText x value = given s x value := by
  have plain : (s.variableD x).content.isArray = false := by
    unfold Session.variableD
    cases found : s.find? x with
    | none => rfl
    | some v => exact flat v found
  unfold Session.setText
  split
  · rename_i items shape
    rw [shape] at plain
    cases plain
  · rename_i entries shape
    rw [shape] at plain
    cases plain
  · rfl

theorem settled_ordinary {v : Variable} (plain : Ordinary v) (old value : String) :
    Assign.settled v false old value s = .ok value s := by
  unfold Assign.settled
  rw [plain.literal]
  simp only [Bool.false_eq_true, if_false, plain.uncased]
  rfl

-- What has a name of its own and no marks is given what the assignment says.
theorem store_spot {t : Session} (spot : Arithmetic.Spot) (own : isOwn spot.name = true)
    (plain : Ordinarily s spot.name) (put : ∀ m, spot.store (leaving s m) value = leaving t m) :
    Gives (Assign.store spot false value) s () t := by
  intro m
  have same : (leaving s m).resolved spot.name = spot.name :=
    resolved_self (s := leaving s m) plain
  have ordinary : Ordinary ((leaving s m).variableD spot.name) :=
    variableD_ordinary (s := leaving s m) plain
  have named : (spot.name == "OPTIND") = false :=
    beq_eq_false_iff_ne.mpr (own_other own (by decide))
  unfold Assign.store
  rw [bind_ok (needFree_yields own plain m), bind_ok get_ok]
  simp only [same]
  rw [bind_ok (settled_ordinary ordinary _ _), bind_ok (modify_ok _), put, named]
  rfl

theorem store_gives (own : isOwn x = true) (plain : Ordinarily s x) (flat : Flat s x) :
    Gives (Assign.store (.whole x) false value) s () (given s x value) := by
  refine store_spot (.whole x) own plain ?_
  intro m
  rw [Arithmetic.Spot.store, resolved_self (s := leaving s m) plain,
    setText_flat (s := leaving s m) flat]
  rfl

end Giving

section Assigning

variable {E : Engine} {s : Session} {x value : String} {word : Word}

theorem assign_gives (quiet : Quiet s) (own : isOwn x = true) (plain : Ordinarily s x)
    (flat : Flat s x) (read : Yields (Word.valueText E word) s value) :
    Gives (Assign.apply E (.value x [] false word)) s () (given s x value) := by
  unfold Assign.apply
  exact Gives.bind read (Gives.bind (quiet.trace E _) (store_gives own plain flat))

-- An assignment alone leaves the status zero.
theorem alone_comesTo {t : Session} {a : Assign} (quiet : Quiet s)
    (applied : Gives (Assign.apply E a) s () t) (quietly : Quiet t)
    (same : t.processes = s.processes) :
    ComesTo ((Command.simple [a] [] []).run E) s (.ok () { t with status := 0 }) := by
  refine assigns_comesTo (t := t) 0 quiet ?_ quietly same (Or.inl rfl)
  intro m none_
  refine ⟨m, by rw [none_]; rfl, ?_⟩
  exact bind_ok (applied m)

-- An assignment gives a variable the text that its word stands for.
theorem assign_comesTo (quiet : Quiet s) (own : isOwn x = true) (plain : Ordinarily s x)
    (flat : Flat s x) (read : Yields (Word.valueText E word) s value) :
    ComesTo ((assign x word).run E) s (.ok () { given s x value with status := 0 }) :=
  alone_comesTo quiet (assign_gives quiet own plain flat read) quiet rfl

end Assigning

end Toolwrap.Running
