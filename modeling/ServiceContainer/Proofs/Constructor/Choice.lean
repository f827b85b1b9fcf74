import ServiceContainer.Proofs.Stateful

/-! Which constructor is chosen, for every list of them and every way to bind them. Constructors
are tried by descending arity, those of one arity in their declared order; the first arity at which
one can be bound decides. Main statement: a choice ends with exactly that. -/
namespace ServiceContainer.Constructor
open Stateful
variable {σ β : Type}

def reaches (a b : Constructor) : Bool := decide (b.arity ≤ a.arity)

theorem reaches_trans (a b c : Constructor) (first : reaches a b = true)
    (second : reaches b c = true) : reaches a c = true :=
  decide_eq_true (Nat.le_trans (of_decide_eq_true second) (of_decide_eq_true first))

theorem reaches_total (a b : Constructor) : (reaches a b || reaches b a) = true := by
  rw [Bool.or_eq_true, reaches, reaches, decide_eq_true_eq, decide_eq_true_eq]
  exact Nat.le_total ..

/-- By descending arity, and in the declared order where the arities are the same. -/
def inOrder (constructors : List Constructor) : List Constructor :=
  constructors.mergeSort reaches

theorem inOrder_perm (constructors : List Constructor) :
    (inOrder constructors).Perm constructors := List.mergeSort_perm _ _

theorem inOrder_descending (constructors : List Constructor) :
    (inOrder constructors).Pairwise fun a b => b.arity ≤ a.arity :=
  (List.pairwise_mergeSort reaches_trans reaches_total constructors).imp of_decide_eq_true

theorem inOrder_filter (constructors : List Constructor) (arity : Nat) :
    (inOrder constructors).filter (·.arity == arity) =
      constructors.filter (·.arity == arity) := by
  have level : (constructors.filter (·.arity == arity)).Pairwise
      fun a b => reaches a b = true := by
    rw [List.pairwise_filter]
    refine List.pairwise_of_forall fun a b first second => ?_
    rw [beq_iff_eq] at first second
    exact decide_eq_true (Nat.le_of_eq (second.trans first.symm))
  have kept : (constructors.filter (·.arity == arity)).Sublist (inOrder constructors) :=
    List.sublist_mergeSort reaches_trans reaches_total level List.filter_sublist
  have among := kept.filter (·.arity == arity)
  rw [List.filter_filter] at among
  simp only [Bool.and_self] at among
  exact (among.eq_of_length ((inOrder_perm constructors).filter _).length_eq.symm).symm

theorem filter_lt_succ {constructors : List Constructor}
    (descending : constructors.Pairwise fun a b => b.arity ≤ a.arity) (arity : Nat) :
    constructors.filter (·.arity < arity + 1) =
      constructors.filter (·.arity == arity) ++ constructors.filter (·.arity < arity) := by
  induction descending with
  | nil => rfl
  | @cons constructor rest smaller _ ih =>
    rcases Nat.lt_trichotomy constructor.arity arity with below | same | above
    · have none : (constructor :: rest).filter (·.arity == arity) = [] := by
        rw [List.filter_eq_nil_iff]
        intro other member
        rw [beq_iff_eq]
        rcases List.mem_cons.1 member with rfl | member
        · exact Nat.ne_of_lt below
        · exact Nat.ne_of_lt (Nat.lt_of_le_of_lt (smaller other member) below)
      rw [none, List.nil_append]
      refine List.filter_congr fun other member => ?_
      have least : other.arity < arity := by
        rcases List.mem_cons.1 member with rfl | member
        · exact below
        · exact Nat.lt_of_le_of_lt (smaller other member) below
      rw [decide_eq_true (Nat.lt_succ_of_lt least), decide_eq_true least]
    · rw [List.filter_cons_of_pos (by simp [same]), List.filter_cons_of_pos (by simp [same]),
        List.filter_cons_of_neg (by simp [same]), ih, List.cons_append]
    · rw [List.filter_cons_of_neg (by simp; omega), List.filter_cons_of_neg (by simp; omega),
        List.filter_cons_of_neg (by simp; omega), ih]

/-- The constructors below an arity are, in order, those of the next arity and those below that. -/
theorem inOrder_below (constructors : List Constructor) (arity : Nat) :
    (inOrder constructors).filter (·.arity < arity + 1) =
      constructors.filter (·.arity == arity) ++
        (inOrder constructors).filter (·.arity < arity) := by
  rw [filter_lt_succ (inOrder_descending constructors), inOrder_filter]

theorem arity_le_greatestArity {constructors : List Constructor} {constructor : Constructor}
    (member : constructor ∈ constructors) : constructor.arity ≤ greatestArity constructors := by
  have grows (others : List Constructor) (least : Nat) :
      least ≤ others.foldl (fun greatest other => max greatest other.arity) least ∧
        ∀ other ∈ others,
          other.arity ≤ others.foldl (fun greatest other => max greatest other.arity) least := by
    induction others generalizing least with
    | nil => exact ⟨Nat.le_refl _, fun _ none => nomatch none⟩
    | cons first rest ih =>
      obtain ⟨above, each⟩ := ih (max least first.arity)
      refine ⟨Nat.le_trans (Nat.le_max_left ..) above, fun other member => ?_⟩
      rcases List.mem_cons.1 member with rfl | member
      · exact Nat.le_trans (Nat.le_max_right ..) above
      · exact each other member
  exact (grows constructors 0).2 constructor member

/-- Constructors tried one after another, each with the outcome of its binding. -/
inductive Tries (bind : Constructor → ExceptT Failure (StateM σ) (Binding β)) :
    σ → List (Constructor × Binding β) → σ → Prop where
  | nil {state : σ} : Tries bind state [] state
  | cons {constructor : Constructor} {binding : Binding β} {tried : List (Constructor × Binding β)}
      {state between later : σ} (first : (bind constructor).run state = (.ok binding, between))
      (rest : Tries bind between tried later) :
      Tries bind state ((constructor, binding) :: tried) later

def bindable (tried : List (Constructor × Binding β)) : List (Constructor × β) :=
  tried.filterMap fun
    | (constructor, .bound result) => some (constructor, result)
    | (_, .missing _) => none

def firstMissing (tried : List (Constructor × Binding β)) : Option String :=
  tried.findSome? fun
    | (_, .bound _) => none
    | (_, .missing parameter) => some parameter

theorem bindable_append (tried others : List (Constructor × Binding β)) :
    bindable (tried ++ others) = bindable tried ++ bindable others := List.filterMap_append

theorem firstMissing_append (tried others : List (Constructor × Binding β)) :
    firstMissing (tried ++ others) = (firstMissing tried).or (firstMissing others) :=
  List.findSome?_append

theorem tried_of_bindable {tried : List (Constructor × Binding β)} {found : Constructor × β}
    (member : found ∈ bindable tried) : found.1 ∈ tried.map (·.1) := by
  obtain ⟨⟨constructor, binding⟩, attempt, outcome⟩ := List.mem_filterMap.1 member
  cases binding with
  | missing parameter => cases outcome
  | bound result =>
    cases outcome
    exact List.mem_map_of_mem attempt

variable {bind : Constructor → ExceptT Failure (StateM σ) (Binding β)}

namespace Tries

theorem append {state between later : σ} {tried others : List (Constructor × Binding β)}
    (first : Tries bind state tried between) (second : Tries bind between others later) :
    Tries bind state (tried ++ others) later := by
  induction first with
  | nil => exact second
  | cons step _ ih => exact .cons step (ih second)

theorem of_append {state later : σ} {tried others : List (Constructor × Binding β)}
    (h : Tries bind state (tried ++ others) later) :
    ∃ between, Tries bind state tried between ∧ Tries bind between others later := by
  induction tried generalizing state with
  | nil => exact ⟨state, .nil, h⟩
  | cons attempt tried ih =>
    cases h with
    | cons first rest =>
      obtain ⟨between, before, after⟩ := ih rest
      exact ⟨between, .cons first before, after⟩

theorem unique {state first second : σ} {tried others : List (Constructor × Binding β)}
    (h : Tries bind state tried first) (h' : Tries bind state others second)
    (same : tried.map (·.1) = others.map (·.1)) : tried = others ∧ first = second := by
  induction h generalizing others second with
  | nil =>
    cases h' with
    | nil => exact ⟨rfl, rfl⟩
    | cons => cases same
  | cons step _ ih =>
    cases h' with
    | nil => cases same
    | cons step' rest' =>
      obtain ⟨rfl, names⟩ := List.cons.inj same
      cases step.symm.trans step'
      obtain ⟨rfl, rfl⟩ := ih rest' names
      exact ⟨rfl, rfl⟩

end Tries

/-- All of the constructors could be tried, or one of them failed when those before it had been
tried. -/
theorem tries_or_fails (bind : Constructor → ExceptT Failure (StateM σ) (Binding β))
    (constructors : List Constructor) (state : σ) :
    (∃ tried later, tried.map (·.1) = constructors ∧ Tries bind state tried later) ∨
    ∃ tried constructor after between failure later,
      constructors = tried.map (·.1) ++ constructor :: after ∧ Tries bind state tried between ∧
        (bind constructor).run between = (.error failure, later) := by
  induction constructors generalizing state with
  | nil => exact .inl ⟨[], state, rfl, .nil⟩
  | cons constructor rest ih =>
    cases first : (bind constructor).run state with
    | mk outcome between =>
    cases outcome with
    | error failure => exact .inr ⟨[], constructor, rest, state, failure, between, rfl, .nil, first⟩
    | ok binding =>
      rcases ih between with ⟨tried, later, names, others⟩ |
        ⟨tried, other, after, last, failure, later, order, others, failed⟩
      · exact .inl ⟨(constructor, binding) :: tried, later, congrArg (constructor :: ·) names,
          .cons first others⟩
      · exact .inr ⟨(constructor, binding) :: tried, other, after, last, failure, later,
          congrArg (constructor :: ·) order, .cons first others, failed⟩

theorem run_bindEach {state later : σ} {tried : List (Constructor × Binding β)}
    (h : Tries bind state tried later) (missing : Option String) :
    (bindEach bind missing (tried.map (·.1))).run state =
      (.ok (bindable tried, missing.or (firstMissing tried)), later) := by
  induction h generalizing missing with
  | nil => rw [firstMissing, List.findSome?_nil, Option.or_none]; rfl
  | @cons constructor binding tried state between later first rest ih =>
    rw [List.map_cons, bindEach, run_bind, first]
    cases binding with
    | bound result =>
      dsimp only
      rw [run_bind, ih]
      rfl
    | missing parameter =>
      dsimp only
      rw [ih]
      cases missing <;> rfl

theorem run_bindEach_fails {state between later : σ} {tried : List (Constructor × Binding β)}
    {constructor : Constructor} {failure : Failure} (h : Tries bind state tried between)
    (failed : (bind constructor).run between = (.error failure, later))
    (after : List Constructor) (missing : Option String) :
    (bindEach bind missing (tried.map (·.1) ++ constructor :: after)).run state =
      (.error failure, later) := by
  induction h generalizing missing with
  | nil => rw [List.map_nil, List.nil_append, bindEach, run_bind, failed]
  | @cons other binding tried state between' later' first rest ih =>
    rw [List.map_cons, List.cons_append, bindEach, run_bind, first]
    cases binding with
    | bound result =>
      dsimp only
      rw [run_bind, ih failed]
    | missing parameter => exact ih failed _

/-- The constructors that were tried, each with its outcome, and the rest of the order. None was
tried that has fewer parameters than one that could be bound. -/
structure Attempts (bind : Constructor → ExceptT Failure (StateM σ) (Binding β))
    (constructors : List Constructor) (state : σ) (tried : List (Constructor × Binding β))
    (rest : List Constructor) (later : σ) : Prop where
  order : inOrder constructors = tried.map (·.1) ++ rest
  tries : Tries bind state tried later
  level : ∀ found ∈ bindable tried, ∀ constructor ∈ tried.map (·.1),
    found.1.arity ≤ constructor.arity

def alone (implementation : String) (constructor : Constructor) :
    Except Failure (Binding β) → Except Failure (Constructor × β)
  | .ok (.bound result) => .ok (constructor, result)
  | .ok (.missing parameter) => .error (.unresolvableConstructor implementation parameter)
  | .error failure => .error failure

/-- What attempts come to that go no further. -/
inductive Concludes (implementation : String)
    (bind : Constructor → ExceptT Failure (StateM σ) (Binding β))
    (tried : List (Constructor × Binding β)) (rest : List Constructor) (state : σ) :
    Except Failure (Constructor × β) → σ → Prop where
  /-- A binding fails before a constructor with more parameters could be bound. -/
  | failed {constructor : Constructor} {after : List Constructor} {failure : Failure} {later : σ}
      (next : rest = constructor :: after)
      (level : ∀ found ∈ bindable tried, found.1.arity = constructor.arity)
      (fails : (bind constructor).run state = (.error failure, later)) :
      Concludes implementation bind tried rest state (.error failure) later
  /-- The bindable constructors of the arity have one signature; the first of them is chosen. -/
  | chosen {arity : Nat} {choice : Constructor × β} {others : List (Constructor × β)}
      (below : ∀ constructor ∈ rest, constructor.arity < arity)
      (found : bindable tried = choice :: others)
      (level : ∀ found ∈ bindable tried, found.1.arity = arity)
      (agree : ∀ other ∈ others, other.1.sameSignature choice.1 = true) :
      Concludes implementation bind tried rest state (.ok choice) state
  | ambiguous {arity : Nat} {choice : Constructor × β} {others : List (Constructor × β)}
      (below : ∀ constructor ∈ rest, constructor.arity < arity)
      (found : bindable tried = choice :: others)
      (level : ∀ found ∈ bindable tried, found.1.arity = arity)
      (differ : ∃ other ∈ others, other.1.sameSignature choice.1 = false) :
      Concludes implementation bind tried rest state
        (.error (.ambiguousConstructor implementation arity (bindable tried).length)) state
  /-- Every constructor was tried, and the first of them names what it is missing. -/
  | unresolvable (all : rest = []) (none : bindable tried = []) :
      Concludes implementation bind tried rest state
        (.error (.unresolvableConstructor implementation
          ((firstMissing tried).getD noConstructors))) state

/-- How a choice among the constructors ends. -/
inductive Selects (implementation : String) (constructors : List Constructor)
    (bind : Constructor → ExceptT Failure (StateM σ) (Binding β)) (state : σ) :
    Except Failure (Constructor × β) → σ → Prop where
  /-- The first preferred constructor is the only one tried. -/
  | preferred {constructor : Constructor} {outcome : Except Failure (Binding β)} {later : σ}
      (first : constructors.find? (·.preferred) = some constructor)
      (tries : (bind constructor).run state = (outcome, later)) :
      Selects implementation constructors bind state (alone implementation constructor outcome)
        later
  | plain {tried : List (Constructor × Binding β)} {rest : List Constructor} {between later : σ}
      {result : Except Failure (Constructor × β)}
      (none : constructors.find? (·.preferred) = none)
      (attempts : Attempts bind constructors state tried rest between)
      (ends : Concludes implementation bind tried rest between result later) :
      Selects implementation constructors bind state result later

/-- The attempts go no further: the next constructor has fewer parameters than one that could be
bound, or it fails. -/
def Stops (bind : Constructor → ExceptT Failure (StateM σ) (Binding β))
    (tried : List (Constructor × Binding β)) (rest : List Constructor) (state : σ) : Prop :=
  ∀ constructor ∈ rest.head?, (∃ found ∈ bindable tried, constructor.arity < found.1.arity) ∨
    ∃ failure later, (bind constructor).run state = (.error failure, later)

namespace Attempts
variable {constructors rest rest' : List Constructor} {state later later' : σ}
  {tried tried' : List (Constructor × Binding β)}

theorem not_extended (h : Attempts bind constructors state tried rest later)
    (stops : Stops bind tried rest later)
    (h' : Attempts bind constructors state tried' rest' later') {more : List Constructor}
    (names : tried'.map (·.1) = tried.map (·.1) ++ more) (left : rest = more ++ rest') :
    tried = tried' ∧ later = later' ∧ more = [] := by
  obtain ⟨before, after, rfl, same, rfl⟩ := List.map_eq_append_iff.1 names
  obtain ⟨between, first, others⟩ := h'.tries.of_append
  obtain ⟨rfl, rfl⟩ := first.unique h.tries same
  cases others with
  | nil => exact ⟨(List.append_nil _).symm, rfl, rfl⟩
  | @cons constructor binding _ _ last _ step _ =>
    rcases stops constructor (by rw [left]; rfl) with ⟨found, member, fewer⟩ | ⟨_, _, failed⟩
    · have least := h'.level found (by
        rw [bindable_append]
        exact List.mem_append_left _ member) constructor (by simp)
      exact absurd fewer (Nat.not_lt.2 least)
    · cases failed.symm.trans step

theorem unique (h : Attempts bind constructors state tried rest later)
    (stops : Stops bind tried rest later)
    (h' : Attempts bind constructors state tried' rest' later')
    (stops' : Stops bind tried' rest' later') : tried = tried' ∧ rest = rest' ∧ later = later' := by
  rcases List.append_eq_append_iff.1 (h.order.symm.trans h'.order) with
    ⟨more, names, left⟩ | ⟨more, names, left⟩
  · obtain ⟨rfl, rfl, rfl⟩ := h.not_extended stops h' names left
    exact ⟨rfl, left, rfl⟩
  · obtain ⟨rfl, rfl, rfl⟩ := h'.not_extended stops' h names left
    exact ⟨rfl, left.symm, rfl⟩

end Attempts

namespace Concludes
variable {implementation : String} {rest : List Constructor} {state later later' : σ}
  {tried : List (Constructor × Binding β)} {result result' : Except Failure (Constructor × β)}

theorem stops (h : Concludes implementation bind tried rest state result later) :
    Stops bind tried rest state := by
  intro next member
  obtain ⟨after, rfl⟩ := List.head?_eq_some_iff.1 member
  cases h with
  | failed same _ fails =>
    cases same
    exact .inr ⟨_, _, fails⟩
  | chosen below found level _ | ambiguous below found level _ =>
    have first := found ▸ List.mem_cons_self
    exact .inl ⟨_, first, level _ first ▸ below next List.mem_cons_self⟩
  | unresolvable all _ => cases all

theorem unique (h : Concludes implementation bind tried rest state result later)
    (h' : Concludes implementation bind tried rest state result' later') :
    result = result' ∧ later = later' := by
  cases h <;> cases h' <;> grind

end Concludes

theorem Selects.unique {implementation : String} {constructors : List Constructor}
    {state later later' : σ} {result result' : Except Failure (Constructor × β)}
    (h : Selects implementation constructors bind state result later)
    (h' : Selects implementation constructors bind state result' later') :
    result = result' ∧ later = later' := by
  cases h with
  | preferred first tries =>
    cases h' with
    | preferred first' tries' =>
      cases first.symm.trans first'
      cases tries.symm.trans tries'
      exact ⟨rfl, rfl⟩
    | plain none => cases first.symm.trans none
  | plain none attempts ends =>
    cases h' with
    | preferred first => cases first.symm.trans none
    | plain _ attempts' ends' =>
      obtain ⟨rfl, rfl, rfl⟩ := attempts.unique ends.stops attempts' ends'.stops
      exact ends.unique ends'

/-- The choice among the bindable constructors of one arity concludes the attempts, if there are
any. -/
theorem concludes_of_settle (bind : Constructor → ExceptT Failure (StateM σ) (Binding β))
    (implementation : String) (state : σ) {arity : Nat} {rest : List Constructor}
    {tried : List (Constructor × Binding β)}
    (below : ∀ constructor ∈ rest, constructor.arity < arity)
    (level : ∀ found ∈ bindable tried, found.1.arity = arity) :
    (settle implementation arity (bindable tried) = .ok none ∧ bindable tried = []) ∨
    (∃ choice, settle implementation arity (bindable tried) = .ok (some choice) ∧
      Concludes implementation bind tried rest state (.ok choice) state) ∨
    ∃ failure, settle implementation arity (bindable tried) = .error failure ∧
      Concludes implementation bind tried rest state (.error failure) state := by
  cases found : bindable tried with
  | nil => exact .inl ⟨rfl, rfl⟩
  | cons choice others =>
    rw [settle]
    split
    next differ =>
      obtain ⟨other, member, different⟩ := List.any_eq_true.1 differ
      rw [Bool.not_eq_true'] at different
      refine .inr (.inr ⟨_, rfl, ?_⟩)
      rw [← List.length_cons, ← found]
      exact .ambiguous below found level ⟨other, member, different⟩
    next agree =>
      refine .inr (.inl ⟨choice, rfl, .chosen below found level fun other member => ?_⟩)
      cases same : other.1.sameSignature choice.1 with
      | true => rfl
      | false =>
        exact absurd (List.any_eq_true.2 ⟨other, member, by rw [same]; rfl⟩) agree

/-- When none of greater arity could be bound, attempts go through the constructors of an arity. -/
theorem attempts_of_level {constructors rest : List Constructor} {state later : σ} {arity : Nat}
    {tried others : List (Constructor × Binding β)}
    (order : inOrder constructors = (tried ++ others).map (·.1) ++ rest)
    (tries : Tries bind state (tried ++ others) later) (none : bindable tried = [])
    (above : ∀ attempt ∈ tried, arity < attempt.1.arity)
    (here : ∀ constructor ∈ others.map (·.1), constructor.arity = arity) :
    Attempts bind constructors state (tried ++ others) rest later ∧
      (∀ found ∈ bindable (tried ++ others), found.1.arity = arity) ∧
      ∀ attempt ∈ tried ++ others, arity ≤ attempt.1.arity := by
  have level : ∀ found ∈ bindable (tried ++ others), found.1.arity = arity := by
    intro found member
    rw [bindable_append, none, List.nil_append] at member
    exact here _ (tried_of_bindable member)
  have reached : ∀ attempt ∈ tried ++ others, arity ≤ attempt.1.arity := by
    intro attempt member
    rcases List.mem_append.1 member with member | member
    · exact Nat.le_of_lt (above attempt member)
    · exact Nat.le_of_eq (here _ (List.mem_map_of_mem member)).symm
  refine ⟨⟨order, tries, fun found member constructor among => ?_⟩, level, reached⟩
  obtain ⟨attempt, member', rfl⟩ := List.mem_map.1 among
  exact level found member ▸ reached attempt member'

/-- The constructors of an arity and more have been tried and none could be bound: the search among
those below goes on from there. -/
theorem selects_of_selectBelow {implementation : String} {constructors : List Constructor}
    {state between later : σ} {tried : List (Constructor × Binding β)}
    {result : Except Failure (Constructor × β)} (plain : constructors.find? (·.preferred) = none)
    (bound : Nat)
    (order : inOrder constructors =
      tried.map (·.1) ++ (inOrder constructors).filter (·.arity < bound))
    (tries : Tries bind state tried between) (none : bindable tried = [])
    (above : ∀ attempt ∈ tried, bound ≤ attempt.1.arity)
    (h : (selectBelow implementation constructors bind (firstMissing tried) bound).run between =
      (result, later)) :
    Selects implementation constructors bind state result later := by
  induction bound generalizing tried between with
  | zero =>
    rw [selectBelow] at h
    cases h
    have all : (inOrder constructors).filter (·.arity < 0) = [] :=
      List.filter_eq_nil_iff.2 fun constructor _ fewer => Nat.not_lt_zero _ (of_decide_eq_true fewer)
    exact .plain plain ⟨order, tries, by simp [none]⟩ (.unresolvable all none)
  | succ arity ih =>
    rw [inOrder_below] at order
    rw [selectBelow, selectAt, bind_assoc, run_bind] at h
    have here : ∀ constructor ∈ constructors.filter (·.arity == arity), constructor.arity = arity :=
      fun constructor member => beq_iff_eq.1 (List.mem_filter.1 member).2
    have below : ∀ constructor ∈ (inOrder constructors).filter (·.arity < arity),
        constructor.arity < arity :=
      fun constructor member => of_decide_eq_true (List.mem_filter.1 member).2
    rcases tries_or_fails bind (constructors.filter (·.arity == arity)) between with
      ⟨others, last, names, rest⟩ |
      ⟨others, constructor, after, last, failure, final, names, rest, fails⟩
    · have all := tries.append rest
      rw [← names, ← List.append_assoc, ← List.map_append] at order
      obtain ⟨attempts, level, reached⟩ := attempts_of_level order all none above (names ▸ here)
      have outcome := run_bindEach rest (firstMissing tried)
      have fresh : bindable others = bindable (tried ++ others) := by
        rw [bindable_append, none, List.nil_append]
      rw [names, fresh, ← firstMissing_append] at outcome
      rw [outcome] at h
      dsimp only at h
      rcases concludes_of_settle bind implementation last below level with
        ⟨settled, empty⟩ | ⟨choice, settled, ends⟩ | ⟨failure, settled, ends⟩
      · rw [settled] at h
        exact ih order all empty reached h
      · rw [settled] at h
        cases h
        exact .plain plain attempts ends
      · rw [settled] at h
        cases h
        exact .plain plain attempts ends
    · rw [names, run_bindEach_fails rest fails] at h
      cases h
      rw [names, List.append_assoc, ← List.append_assoc, ← List.map_append, List.cons_append]
        at order
      rw [names] at here
      obtain ⟨attempts, level, -⟩ := attempts_of_level order (tries.append rest) none above
        fun other member => here other (List.mem_append_left _ member)
      have next := here constructor (List.mem_append_right _ List.mem_cons_self)
      exact .plain plain attempts (.failed rfl (next ▸ level) fails)

theorem selects_of_run {implementation : String} {constructors : List Constructor}
    {state later : σ} {result : Except Failure (Constructor × β)}
    (h : (select implementation constructors bind).run state = (result, later)) :
    Selects implementation constructors bind state result later := by
  unfold select at h
  cases first : constructors.find? (·.preferred) with
  | some constructor =>
    rw [first] at h
    dsimp only at h
    rw [run_bind] at h
    cases tries : (bind constructor).run state with
    | mk outcome last =>
    rw [tries] at h
    cases outcome with
    | error failure =>
      cases h
      exact .preferred first tries
    | ok binding =>
      cases binding with
      | bound found =>
        cases h
        exact .preferred first tries
      | missing parameter =>
        cases h
        exact .preferred first tries
  | none =>
    rw [first] at h
    refine selects_of_selectBelow first (greatestArity constructors + 1) ?_ .nil rfl
      (fun _ none => nomatch none) h
    refine (List.filter_eq_self.2 fun constructor member => decide_eq_true ?_).symm
    exact Nat.lt_succ_of_le
      (arity_le_greatestArity ((inOrder_perm constructors).mem_iff.1 member))

/-- A choice ends in one way, and this is it. -/
theorem run_select_iff (implementation : String) (constructors : List Constructor)
    (bind : Constructor → ExceptT Failure (StateM σ) (Binding β)) (state : σ)
    (result : Except Failure (Constructor × β)) (later : σ) :
    (select implementation constructors bind).run state = (result, later) ↔
      Selects implementation constructors bind state result later := by
  refine ⟨selects_of_run, fun h => ?_⟩
  obtain ⟨same, same'⟩ := (selects_of_run rfl).unique h
  exact Prod.ext same same'

end ServiceContainer.Constructor
