import ServiceContainer.Proofs.World

/-! What operations do to scopes. Scopes change their caches, their bags and their states, but never
the provider and the root that they belong to. Main statements: for each operation, what it leaves
of the engines, the scopes, the stack and the journal. -/
namespace ServiceContainer

/-- What never changes in a scope. -/
def Scope.shape (scope : Scope) : EngineId × Option ScopeId := (scope.engine, scope.root)

namespace World

def shapes (world : World) : List (EngineId × Option ScopeId) := world.scopes.map Scope.shape

def Hosts (world : World) (scope : ScopeId) (engine : EngineId) : Prop :=
  (world.shapes[scope]?).map (·.1) = some engine

def IsRootOf (world : World) (scope : ScopeId) (engine : EngineId) : Prop :=
  world.shapes[scope]? = some (engine, none)

def begin (world : World) (site : Site) (owner : ScopeId) : World :=
  (world.enter (world.scope owner).engine site owner).reserve site owner

def finish (world : World) (site : Site) (owner : ScopeId) (value : Value) : World :=
  (world.complete (world.scope owner).engine site owner value).leave (world.scope owner).engine
    site.key

section Scopes
variable {world : World} {scope other : ScopeId} {engine : EngineId}

theorem shapes_getElem? (world : World) (scope : ScopeId) :
    world.shapes[scope]? = (world.scopes[scope]?).map Scope.shape :=
  List.getElem?_map ..

theorem scope_of_some {found : Scope} (listed : world.scopes[scope]? = some found) :
    world.scope scope = found := by
  simp [World.scope, List.getD, listed]

theorem scope_of_none (absent : world.scopes[scope]? = none) :
    world.scope scope = { state := .disposed } := by
  simp [World.scope, List.getD, absent]

theorem Hosts.listed (hosted : world.Hosts scope engine) :
    world.scopes[scope]? = some (world.scope scope) ∧ (world.scope scope).engine = engine := by
  rw [Hosts, shapes_getElem?] at hosted
  cases listed : world.scopes[scope]? with
  | none => simp [listed] at hosted
  | some found =>
    rw [scope_of_some listed]
    simp only [listed, Option.map_some, Option.some.injEq] at hosted
    exact ⟨rfl, hosted⟩

theorem Hosts.of_listed {found : Scope} (listed : world.scopes[scope]? = some found) :
    world.Hosts scope found.engine := by
  rw [Hosts, shapes_getElem?, listed]
  rfl

theorem Hosts.of_state (state : (world.scope scope).state ≠ .disposed) :
    world.Hosts scope (world.scope scope).engine := by
  cases listed : world.scopes[scope]? with
  | none => simp [scope_of_none listed] at state
  | some found =>
    rw [scope_of_some listed]
    exact .of_listed listed

theorem IsRootOf.hosts (root : world.IsRootOf scope engine) : world.Hosts scope engine := by
  rw [Hosts, show world.shapes[scope]? = some (engine, none) from root]
  rfl

theorem IsRootOf.root_eq_none (root : world.IsRootOf scope engine) :
    (world.scope scope).root = none := by
  have shaped : world.shapes[scope]? = some (world.scope scope).shape := by
    rw [shapes_getElem?, root.hosts.listed.1]
    rfl
  exact congrArg Prod.snd (Option.some.inj (shaped.symm.trans root))

theorem shape_of_shapes {later : World} (same : later.shapes = world.shapes) (scope : ScopeId) :
    (later.scope scope).shape = (world.scope scope).shape := by
  have listed := congrArg (·[scope]?) same
  simp only [shapes_getElem?] at listed
  cases before : world.scopes[scope]? <;> cases after : later.scopes[scope]? <;>
    simp only [before, after, Option.map_some, Option.map_none] at listed
  · rw [scope_of_none before, scope_of_none after]
  · cases listed
  · cases listed
  · rw [scope_of_some before, scope_of_some after]
    exact Option.some.inj listed

theorem rootOf_of_shapes {later : World} (same : later.shapes = world.shapes) (scope : ScopeId) :
    later.rootOf scope = world.rootOf scope := by
  have roots : (later.scope scope).root = (world.scope scope).root :=
    congrArg Prod.snd (shape_of_shapes same scope)
  rw [rootOf, rootOf, roots]

theorem scope_updateScope_of_ne (world : World) (change : Scope → Scope) (apart : other ≠ scope) :
    (world.updateScope scope change).scope other = world.scope other := by
  have same : (world.updateScope scope change).scopes[other]? = world.scopes[other]? := by
    simp [updateScope, Ne.symm apart]
  rw [World.scope, World.scope, List.getD, List.getD, same]

/-- What a change of scopes leaves alone can be read of any scope as before. -/
theorem read_updateScope (world : World) (read : Scope → α) {change : Scope → Scope}
    (kept : ∀ found, read (change found) = read found) :
    read ((world.updateScope scope change).scope other) = read (world.scope other) := by
  simp only [World.scope, updateScope, List.getD, List.getElem?_modify]
  by_cases here : scope = other
  · cases world.scopes[other]? <;> simp [here, kept]
  · simp [here]

theorem scope_updateScope_self (change : Scope → Scope) (hosted : world.Hosts scope engine) :
    (world.updateScope scope change).scope scope = change (world.scope scope) := by
  apply scope_of_some
  simp [updateScope, hosted.listed.1]

theorem scope_updateScope (world : World) (id : ScopeId) (change : Scope → Scope) (other : ScopeId) :
    (world.updateScope id change).scope other =
      if other = id ∧ id < world.scopes.length then change (world.scope other)
      else world.scope other := by
  by_cases here : other = id
  · subst here
    by_cases inside : other < world.scopes.length
    · rw [if_pos ⟨rfl, inside⟩]
      exact scope_updateScope_self change (.of_listed (List.getElem?_eq_getElem inside))
    · rw [if_neg fun both => inside both.2]
      have absent : (world.updateScope other change).scopes[other]? = none := by
        simpa [updateScope] using inside
      rw [scope_of_none absent, scope_of_none (by simpa using inside)]
  · rw [if_neg fun both => here both.1, scope_updateScope_of_ne world change here]

theorem shapes_updateScope (world : World) (scope : ScopeId) {change : Scope → Scope}
    (kept : ∀ found, (change found).shape = found.shape) :
    (world.updateScope scope change).shapes = world.shapes := by
  apply List.ext_getElem?
  intro place
  rw [shapes_getElem?, shapes_getElem?, updateScope, List.getElem?_modify]
  by_cases here : scope = place <;> simp [here, Function.comp_def, kept]

end Scopes

section Changes
variable (world : World) (site : Site) (owner : ScopeId)

theorem notify_eq (id : EngineId) (world : World) (notice : Notice) :
    ∃ events metrics,
      notify id world notice = { world with journal := events ++ world.journal, metrics } ∧
        ∀ event ∈ events, event = .notified id notice := by
  have counted : ∀ (observers : List Observer) (world : World),
      ∃ metrics, observers.foldl (count · notice) world = { world with metrics } := by
    intro observers
    induction observers with
    | nil => exact fun world => ⟨_, rfl⟩
    | cons observer rest ih =>
      intro world
      obtain ⟨metrics, rest⟩ := ih (world.count notice observer)
      rw [List.foldl_cons, rest]
      cases observer <;> exact ⟨_, rfl⟩
  unfold notify
  dsimp only
  split
  · exact ⟨[], world.metrics, rfl, by simp⟩
  · obtain ⟨metrics, told⟩ :=
      counted (world.engine id).observers (world.record (.notified id notice))
    exact ⟨[.notified id notice], metrics, told, by simp⟩

theorem sent_eq (id : EngineId) (notices : List Notice) (world : World) :
    ∃ events metrics,
      notices.foldl (notify id) world = { world with journal := events ++ world.journal, metrics } ∧
        ∀ event ∈ events, ∃ notice, event = .notified id notice := by
  induction notices generalizing world with
  | nil => exact ⟨[], world.metrics, rfl, by simp⟩
  | cons notice rest ih =>
    obtain ⟨first, _, told, notified⟩ := notify_eq id world notice
    obtain ⟨others, metrics, sent, all⟩ := ih (notify id world notice)
    refine ⟨others ++ first, metrics, ?_, ?_⟩
    · rw [List.foldl_cons, sent, told, List.append_assoc]
    · intro event member
      obtain later | now := List.mem_append.1 member
      · exact all event later
      · exact ⟨notice, notified event now⟩

theorem reads_journal {world later : World} {read : Event → Option α} {events : List Event}
    (same : later.journal = events ++ world.journal)
    (silent : ∀ event ∈ events, read event = none) :
    later.journal.filterMap read = world.journal.filterMap read := by
  rw [same, List.filterMap_append, List.filterMap_eq_nil_iff.2 silent, List.nil_append]

@[simp] theorem engines_record (event : Event) : (world.record event).engines = world.engines := rfl
@[simp] theorem shapes_record (event : Event) : (world.record event).shapes = world.shapes := rfl
@[simp] theorem stack_record (event : Event) : (world.record event).stack = world.stack := rfl
@[simp] theorem journal_record (event : Event) :
    (world.record event).journal = event :: world.journal := rfl

@[simp] theorem engines_enter (engine : EngineId) :
    (world.enter engine site owner).engines = world.engines := rfl
@[simp] theorem shapes_enter (engine : EngineId) :
    (world.enter engine site owner).shapes = world.shapes := rfl
@[simp] theorem stack_enter (engine : EngineId) :
    (world.enter engine site owner).stack = world.stack ++ [⟨engine, site.key, owner⟩] := rfl
@[simp] theorem journal_enter (engine : EngineId) :
    (world.enter engine site owner).journal =
      .entered engine site.key site.location owner :: world.journal := rfl

@[simp] theorem engines_leave (engine : EngineId) (key : CacheKey) :
    (world.leave engine key).engines = world.engines := rfl
@[simp] theorem shapes_leave (engine : EngineId) (key : CacheKey) :
    (world.leave engine key).shapes = world.shapes := rfl
@[simp] theorem stack_leave (engine : EngineId) (key : CacheKey) :
    (world.leave engine key).stack = world.stack.dropLast := rfl
@[simp] theorem journal_leave (engine : EngineId) (key : CacheKey) :
    (world.leave engine key).journal = .left engine key :: world.journal := rfl

theorem reserve_eq : world.reserve site owner =
    { world with scopes := (world.reserve site owner).scopes } := by
  rw [reserve]
  split <;> rfl

@[simp] theorem engines_reserve : (world.reserve site owner).engines = world.engines := by
  rw [reserve_eq]
@[simp] theorem stack_reserve : (world.reserve site owner).stack = world.stack := by
  rw [reserve_eq]
@[simp] theorem journal_reserve : (world.reserve site owner).journal = world.journal := by
  rw [reserve_eq]

@[simp] theorem shapes_reserve : (world.reserve site owner).shapes = world.shapes := by
  rw [reserve]
  split
  · rfl
  · refine shapes_updateScope world owner fun found => ?_
    split <;> rfl

theorem keep_eq (value : Value) : world.keep site owner value =
    { world with scopes := (world.keep site owner value).scopes } := by
  rw [keep]
  split <;> rfl

@[simp] theorem engines_keep (value : Value) :
    (world.keep site owner value).engines = world.engines := by
  rw [keep_eq]
@[simp] theorem stack_keep (value : Value) : (world.keep site owner value).stack = world.stack := by
  rw [keep_eq]
@[simp] theorem journal_keep (value : Value) :
    (world.keep site owner value).journal = world.journal := by
  rw [keep_eq]

@[simp] theorem shapes_keep (value : Value) :
    (world.keep site owner value).shapes = world.shapes := by
  rw [keep]
  split
  · rfl
  · refine shapes_updateScope world owner fun found => ?_
    split <;> rfl

@[simp] theorem engines_complete (engine : EngineId) (value : Value) :
    (world.complete engine site owner value).engines = world.engines := engines_keep ..
@[simp] theorem shapes_complete (engine : EngineId) (value : Value) :
    (world.complete engine site owner value).shapes = world.shapes := shapes_keep ..
@[simp] theorem stack_complete (engine : EngineId) (value : Value) :
    (world.complete engine site owner value).stack = world.stack := stack_keep ..
@[simp] theorem journal_complete (engine : EngineId) (value : Value) :
    (world.complete engine site owner value).journal =
      .completed engine site.key owner value :: world.journal := journal_keep ..

@[simp] theorem engines_begin : (world.begin site owner).engines = world.engines :=
  engines_reserve ..
@[simp] theorem shapes_begin : (world.begin site owner).shapes = world.shapes := shapes_reserve ..
@[simp] theorem stack_begin :
    (world.begin site owner).stack = world.stack ++ [world.frame site owner] := stack_reserve ..
@[simp] theorem journal_begin : (world.begin site owner).journal =
    .entered (world.scope owner).engine site.key site.location owner :: world.journal :=
  journal_reserve ..

@[simp] theorem engines_finish (value : Value) :
    (world.finish site owner value).engines = world.engines := engines_complete ..
@[simp] theorem shapes_finish (value : Value) :
    (world.finish site owner value).shapes = world.shapes := shapes_complete ..
@[simp] theorem stack_finish (value : Value) :
    (world.finish site owner value).stack = world.stack.dropLast := by
  rw [finish, stack_leave, stack_complete]
@[simp] theorem journal_finish (value : Value) : (world.finish site owner value).journal =
    .left (world.scope owner).engine site.key ::
      .completed (world.scope owner).engine site.key owner value :: world.journal := by
  rw [finish, journal_leave, journal_complete]

@[simp] theorem journal_entrust (disposable : Disposable) (value : Value) :
    (world.entrust site owner disposable value).journal =
      .entrusted (world.frame site owner) ⟨world.nextTicket, disposable⟩ value
        (decide ((world.scope owner).state = .open)) :: world.journal := by
  simp only [entrust]
  split <;> rename_i state <;> simp [state, updateScope]

@[simp] theorem nextTicket_entrust (disposable : Disposable) (value : Value) :
    (world.entrust site owner disposable value).nextTicket = world.nextTicket + 1 := by
  simp only [entrust]
  split <;> rfl

@[simp] theorem engines_entrust (disposable : Disposable) (value : Value) :
    (world.entrust site owner disposable value).engines = world.engines := by
  simp only [entrust]
  split <;> rfl

@[simp] theorem factories_entrust (disposable : Disposable) (value : Value) :
    (world.entrust site owner disposable value).factories = world.factories := by
  simp only [entrust]
  split <;> rfl

@[simp] theorem stack_entrust (disposable : Disposable) (value : Value) :
    (world.entrust site owner disposable value).stack = world.stack := by
  simp only [entrust]
  split <;> rfl

@[simp] theorem shapes_entrust (disposable : Disposable) (value : Value) :
    (world.entrust site owner disposable value).shapes = world.shapes := by
  simp only [entrust]
  split
  · exact shapes_updateScope _ owner fun _ => rfl
  · rfl

@[simp] theorem shapes_drain (scope : ScopeId) : (world.drain scope).shapes = world.shapes :=
  shapes_updateScope world scope fun _ => rfl

@[simp] theorem shapes_close (scope : ScopeId) : (world.close scope).shapes = world.shapes :=
  shapes_updateScope world scope fun _ => rfl

theorem books_reserve (other : ScopeId) :
    ((world.reserve site owner).scope other).state = (world.scope other).state ∧
      ((world.reserve site owner).scope other).bag = (world.scope other).bag := by
  rw [reserve]
  split
  · exact ⟨rfl, rfl⟩
  · refine Prod.mk.inj (world.read_updateScope (fun scope => (scope.state, scope.bag))
      fun found => ?_)
    split <;> rfl

theorem books_keep (other : ScopeId) (value : Value) :
    ((world.keep site owner value).scope other).state = (world.scope other).state ∧
      ((world.keep site owner value).scope other).bag = (world.scope other).bag := by
  rw [keep]
  split
  · exact ⟨rfl, rfl⟩
  · refine Prod.mk.inj (world.read_updateScope (fun scope => (scope.state, scope.bag))
      fun found => ?_)
    split <;> rfl

@[simp] theorem state_keep (other : ScopeId) (value : Value) :
    ((world.keep site owner value).scope other).state = (world.scope other).state :=
  (books_keep ..).1

@[simp] theorem state_begin (other : ScopeId) :
    ((world.begin site owner).scope other).state = (world.scope other).state :=
  (books_reserve ..).1

@[simp] theorem bag_begin (other : ScopeId) :
    ((world.begin site owner).scope other).bag = (world.scope other).bag :=
  (books_reserve ..).2

@[simp] theorem nextTicket_begin : (world.begin site owner).nextTicket = world.nextTicket := by
  rw [begin, reserve_eq]
  rfl

@[simp] theorem factories_begin : (world.begin site owner).factories = world.factories := by
  rw [begin, reserve_eq]
  rfl

@[simp] theorem state_finish (other : ScopeId) (value : Value) :
    ((world.finish site owner value).scope other).state = (world.scope other).state :=
  (books_keep ..).1

@[simp] theorem bag_finish (other : ScopeId) (value : Value) :
    ((world.finish site owner value).scope other).bag = (world.scope other).bag :=
  (books_keep ..).2

@[simp] theorem nextTicket_finish (value : Value) :
    (world.finish site owner value).nextTicket = world.nextTicket := by
  rw [finish, complete, keep_eq]
  rfl

@[simp] theorem factories_finish (value : Value) :
    (world.finish site owner value).factories = world.factories := by
  rw [finish, complete, keep_eq]
  rfl

@[simp] theorem state_entrust (other : ScopeId) (disposable : Disposable) (value : Value) :
    ((world.entrust site owner disposable value).scope other).state =
      (world.scope other).state := by
  simp only [entrust]
  split
  · exact read_updateScope _ Scope.state fun _ => rfl
  · rfl

theorem bag_entrust (other : ScopeId) (disposable : Disposable) (value : Value) :
    ((world.entrust site owner disposable value).scope other).bag =
      if other = owner ∧ (world.scope owner).state = .open then
        (world.scope other).bag ++ [⟨world.nextTicket, disposable⟩]
      else (world.scope other).bag := by
  simp only [entrust]
  by_cases opened : (world.scope owner).state = .open
  · have hosted : world.Hosts owner (world.scope owner).engine := .of_state (by simp [opened])
    have inside : ({ world with nextTicket := world.nextTicket + 1 } : World).Hosts owner
      (world.scope owner).engine := hosted
    rw [if_pos opened]
    by_cases here : other = owner
    · subst here
      rw [if_pos ⟨rfl, opened⟩]
      exact congrArg Scope.bag (scope_updateScope_self _ inside)
    · rw [if_neg fun both => here both.1]
      exact congrArg Scope.bag (scope_updateScope_of_ne _ _ here)
  · rw [if_neg opened, if_neg fun both => opened both.2]
    rfl

end Changes

theorem engine_withEngine (world : World) (id other : EngineId) (engine : Engine) :
    (world.withEngine id engine).engine other =
      if other = id ∧ world.engines[id]? ≠ none then { engine with outbox := [] }
      else world.engine other := by
  rw [withEngine, World.engine, engines_sent]
  simp only [updateEngine, World.engine, List.getD, List.getElem?_modify]
  by_cases here : other = id
  · subst here
    cases world.engines[other]? <;> simp
  · simp [here, Ne.symm here]

theorem scopes_notify (id : EngineId) (world : World) (notice : Notice) :
    (notify id world notice).scopes = world.scopes := by
  obtain ⟨events, metrics, told, _⟩ := notify_eq id world notice
  rw [told]

theorem scopes_withEngine {world : World} (id : EngineId) (engine : Engine) :
    (world.withEngine id engine).scopes = world.scopes := by
  obtain ⟨events, metrics, sent, _⟩ := sent_eq id engine.outbox
    (world.updateEngine id fun _ => { engine with outbox := [] })
  rw [withEngine, sent]
  rfl

theorem scope_of_scopes {world later : World} (same : later.scopes = world.scopes)
    (scope : ScopeId) : later.scope scope = world.scope scope := by
  rw [World.scope, World.scope, same]

theorem ownerFor_of_scopes {world later : World} (same : later.scopes = world.scopes)
    (location : CacheLocation) (scope : ScopeId) :
    later.ownerFor location scope = world.ownerFor location scope := by
  cases location with
  | root => rw [ownerFor, ownerFor, rootOf, rootOf, scope_of_scopes same]
  | scope | nowhere => rfl

/-- Nothing has happened but that observers were told. -/
structure Notified (world : World) (id : EngineId) (later : World) : Prop where
  scopes : later.scopes = world.scopes
  stack : later.stack = world.stack
  journal : ∃ events, later.journal = events ++ world.journal ∧
    ∀ event ∈ events, ∃ notice, event = .notified id notice

namespace Notified
variable {world later : World} {id : EngineId}

theorem refl (world : World) (id : EngineId) : world.Notified id world :=
  ⟨rfl, rfl, [], rfl, by simp⟩

theorem trans {last : World} (first : world.Notified id later)
    (second : later.Notified id last) : world.Notified id last := by
  obtain ⟨events, before, told⟩ := first.journal
  obtain ⟨more, after, also⟩ := second.journal
  refine ⟨second.scopes.trans first.scopes, second.stack.trans first.stack, more ++ events, ?_, ?_⟩
  · rw [after, before, List.append_assoc]
  · exact fun event member => (List.mem_append.1 member).elim (also event) (told event)

theorem notify (id : EngineId) (world : World) (notice : Notice) :
    world.Notified id (notify id world notice) := by
  obtain ⟨events, metrics, told, notified⟩ := notify_eq id world notice
  rw [told]
  exact ⟨rfl, rfl, events, rfl, fun event member => ⟨notice, notified event member⟩⟩

theorem withEngine (world : World) (id : EngineId) (engine : Engine) :
    world.Notified id (world.withEngine id engine) := by
  obtain ⟨events, metrics, sent, notified⟩ := sent_eq id engine.outbox
    (world.updateEngine id fun _ => { engine with outbox := [] })
  rw [World.withEngine, sent]
  exact ⟨rfl, rfl, events, rfl, notified⟩

theorem suffix (notified : world.Notified id later) :
    world.journal <:+ later.journal := by
  obtain ⟨events, grown, _⟩ := notified.journal
  exact ⟨events, grown.symm⟩

end Notified

end World
end ServiceContainer
