import ServiceContainer.Proofs.Disposal

/-! The stack of constructions. The journal tells which constructions are underway at any time: each
begins at one event and ends with the event that takes it off the stack. Main statement: the stack
always holds the constructions underway, the outermost first, and is left by every request as the
request found it. -/
namespace ServiceContainer

/-- A construction, with the number of events before it began. -/
structure Construction where
  frame : Frame
  begun : Nat

namespace Event

def nest (begun : Nat) (underway : List Construction) : Event → List Construction
  | .entered engine key _ owner => underway ++ [⟨⟨engine, key, owner⟩, begun⟩]
  | .left _ _ => underway.dropLast
  | _ => underway

def nests : Event → Bool
  | .entered _ _ _ _ | .completed _ _ _ _ | .left _ _ | .obtained _ _ _ _ => true
  | _ => false

theorem nest_of_idle {event : Event} (idle : event.nests = false) (begun : Nat)
    (underway : List Construction) : event.nest begun underway = underway := by
  cases event <;> first | rfl | cases idle

end Event

/-- The constructions that have begun and not ended, the outermost first, from a journal with the
latest event first. -/
def underway : List Event → List Construction
  | [] => []
  | event :: earlier => event.nest earlier.length (underway earlier)

section Underway
variable {journal : List Event}

theorem underway_append_idle {events : List Event} (idle : ∀ event ∈ events, event.nests = false) :
    underway (events ++ journal) = underway journal := by
  induction events with
  | nil => rfl
  | cons event rest ih =>
    rw [List.cons_append, underway, Event.nest_of_idle (idle event List.mem_cons_self)]
    exact ih fun other member => idle other (List.mem_cons_of_mem _ member)

theorem begun_lt_of_underway (journal : List Event) :
    (underway journal).Pairwise (·.begun < ·.begun) ∧
      ∀ construction ∈ underway journal, construction.begun < journal.length := by
  induction journal with
  | nil => exact ⟨.nil, fun _ member => by cases member⟩
  | cons event earlier ih =>
    obtain ⟨ordered, before⟩ := ih
    have waits : ∀ construction ∈ underway earlier,
        construction.begun < (event :: earlier).length := fun construction member =>
      Nat.lt_succ_of_lt (before construction member)
    cases event with
    | entered engine key location owner =>
      refine ⟨List.pairwise_append.2 ⟨ordered, List.pairwise_singleton _ _, ?_⟩, ?_⟩
      · intro outer listed inner new
        rw [List.mem_singleton.1 new]
        exact before outer listed
      · intro construction member
        obtain old | new := List.mem_append.1 member
        · exact waits construction old
        · rw [List.mem_singleton.1 new]
          exact Nat.lt_succ_self _
    | left engine key =>
      exact ⟨ordered.sublist (List.dropLast_sublist _), fun construction member =>
        waits construction (List.dropLast_subset _ member)⟩
    | _ => exact ⟨ordered, waits⟩

/-- What is underway later was underway before, or has begun since. -/
theorem underway_of_later {events : List Event} {construction : Construction}
    (later : construction ∈ underway (events ++ journal)) :
    construction ∈ underway journal ∨ journal.length ≤ construction.begun := by
  induction events with
  | nil => exact .inl later
  | cons event rest ih =>
    rw [List.cons_append, underway] at later
    cases event with
    | entered engine key location owner =>
      obtain old | new := List.mem_append.1 later
      · exact ih old
      · rw [List.mem_singleton.1 new]
        exact .inr (by simp)
    | left engine key => exact ih (List.dropLast_subset _ later)
    | _ => exact ih later

theorem entered_of_underway {construction : Construction}
    (member : construction ∈ underway journal) :
    ∃ location, .entered construction.frame.engine construction.frame.key location
      construction.frame.owner ∈ journal := by
  induction journal with
  | nil => cases member
  | cons event earlier ih =>
    have before : construction ∈ underway earlier → ∃ location,
        .entered construction.frame.engine construction.frame.key location
          construction.frame.owner ∈ event :: earlier := by
      intro old
      obtain ⟨location, entered⟩ := ih old
      exact ⟨location, List.mem_cons_of_mem _ entered⟩
    cases event with
    | entered engine key location owner =>
      obtain old | new := List.mem_append.1 member
      · exact before old
      · rw [List.mem_singleton.1 new]
        exact ⟨location, List.mem_cons_self⟩
    | left engine key => exact before (List.dropLast_subset _ member)
    | _ => exact before member

end Underway

namespace World
variable {world later : World}

theorem Step.nests (step : world.Step later) :
    (later.stack = world.stack ∧ ∃ events, later.journal = events ++ world.journal ∧
      ∀ event ∈ events, event.nests = false) ∨
    (∃ site owner, later = world.begin site owner) ∨
    (∃ site owner value, world.Making site owner ∧ later = world.finish site owner value) ∨
    (∃ outer frame, world.stack = outer ++ [frame] ∧
      later = world.leave frame.engine frame.key) ∨
    ∃ site owner value, (value ∈ world.made (· == world.frame site owner) ∨
        world.cached (world.frame site owner) = some (some value)) ∧
      later = world.record (.obtained (world.scope owner).engine site.key owner value) := by
  have quiet : ∀ events : List Event, later.stack = world.stack →
      later.journal = events ++ world.journal → (∀ event ∈ events, event.nests = false) →
      later.stack = world.stack ∧ ∃ events, later.journal = events ++ world.journal ∧
        ∀ event ∈ events, event.nests = false :=
    fun events stack journal idle => ⟨stack, events, journal, idle⟩
  have notified : ∀ {id : EngineId} {events : List Event},
      (∀ event ∈ events, ∃ notice, event = .notified id notice) →
      ∀ event ∈ events, event.nests = false := by
    intro id events all event member
    obtain ⟨notice, rfl⟩ := all event member
    rfl
  cases step with
  | say _ | cleanUp _ | drain _ | close _ _ =>
    exact .inl (quiet [_] rfl rfl (by simp [Event.nests]))
  | notify id notice =>
    obtain ⟨events, metrics, told, all⟩ := notify_eq id world notice
    rw [told] at quiet ⊢
    exact .inl (quiet events rfl rfl (notified fun event member => ⟨notice, all event member⟩))
  | @engine id engine _ _ =>
    obtain ⟨events, metrics, sent, all⟩ := sent_eq id engine.outbox
      (world.updateEngine id fun _ => { engine with outbox := [] })
    rw [withEngine, sent] at quiet ⊢
    exact .inl (quiet events rfl rfl (notified all))
  | build _ | spawn _ | keepBooks _ _ _ => exact .inl (quiet [] rfl rfl (by simp))
  | @entrust site owner disposable value _ _ =>
    exact .inl (quiet [_] (by simp) (world.journal_entrust site owner disposable value)
      (by simp [Event.nests]))
  | @refuse site owner disposable value _ _ =>
    have journal := congrArg (Event.disposed world.nextTicket :: ·)
      (world.journal_entrust site owner disposable value)
    exact .inl (quiet [_, _] (by simp [World.refuse]) journal (by simp [Event.nests]))
  | enter _ _ _ _ _ => exact .inr (.inl ⟨_, _, rfl⟩)
  | complete making => exact .inr (.inr (.inl ⟨_, _, _, making, rfl⟩))
  | leave innermost => exact .inr (.inr (.inr (.inl ⟨_, _, innermost, rfl⟩)))
  | obtain had => exact .inr (.inr (.inr (.inr ⟨_, _, _, had, rfl⟩)))

/-- The stack holds what the journal says is underway. -/
theorem Step.nested (step : world.Step later)
    (nested : world.stack = (underway world.journal).map (·.frame)) :
    later.stack = (underway later.journal).map (·.frame) := by
  obtain ⟨stack, events, journal, idle⟩ | ⟨site, owner, rfl⟩ | ⟨site, owner, value, _, rfl⟩ |
    ⟨outer, frame, _, rfl⟩ | ⟨site, owner, value, _, rfl⟩ := step.nests
  · rw [stack, nested, journal, underway_append_idle idle]
  · rw [stack_begin, journal_begin, nested]
    simp [underway, Event.nest, World.frame]
  · rw [stack_finish, journal_finish, nested]
    simp [underway, Event.nest]
  · rw [stack_leave, journal_leave, nested]
    simp [underway, Event.nest]
  · exact nested

theorem Steps.nested (steps : world.Steps later)
    (nested : world.stack = (underway world.journal).map (·.frame)) :
    later.stack = (underway later.journal).map (·.frame) := by
  induction steps with
  | refl => exact nested
  | tail _ step ih => exact step.nested ih

theorem Reachable.nested (reached : world.Reachable) :
    world.stack = (underway world.journal).map (·.frame) := by
  obtain ⟨metrics, steps, _⟩ := reached.steps
  exact steps.nested rfl

end World

namespace Run
variable {handler : Handler} {world last : World} {site : Site} {owner scope : ScopeId}

theorem cycle?_append {outer inner : List Frame} {frame : Frame} {engine : EngineId}
    {key : CacheKey} (here : frame.makes engine key = true)
    (free : ∀ other ∈ outer, other.makes engine key = false) :
    cycle? (outer ++ frame :: inner) engine key =
      some (((frame :: inner).filter (·.engine == engine)).map (·.key.name) ++ [key.name]) := by
  have passed : (outer ++ frame :: inner).dropWhile (!·.makes engine key) = frame :: inner := by
    rw [List.dropWhile_append_of_pos fun other listed => by simp [free other listed]]
    exact List.dropWhile_cons_of_neg (by simp [here])
  rw [cycle?, passed]

theorem cycle?_eq_none_of_free {stack : List Frame} {engine : EngineId} {key : CacheKey}
    (free : ∀ frame ∈ stack, frame.makes engine key = false) : cycle? stack engine key = none := by
  have passed : stack.dropWhile (!·.makes engine key) = [] :=
    List.dropWhile_eq_nil_iff.2 fun frame listed => by simp [free frame listed]
  rw [cycle?, passed]

theorem produced_of_provide (lacks : world.Lacks site owner) {kind : SiteKind}
    (constructs : kind.constructs = true) {produce : Run Produced} {result : Except Failure Value}
    (h : (provide handler (world.scope owner).engine kind site owner produce).run world =
      some (result, last)) :
    ∃ outcome between, produce.run (world.begin site owner) = some (outcome, between) := by
  rw [run_provide lacks.missing lacks.opened, made, constructs, if_pos rfl, run_guarded,
    lacks.free] at h
  obtain ⟨⟨outcome, later⟩, ran, _⟩ := Option.map_eq_some_iff.1 h
  have making : ∀ {result : Except Failure Value} {later : World},
      (making handler site owner produce).run
        (world.enter (world.scope owner).engine site owner) = some (result, later) →
      ∃ outcome between, produce.run (world.begin site owner) = some (outcome, between) := by
    intro result later h
    rw [run_making] at h
    obtain ⟨produced, between, ended, _⟩ | ⟨failure, ended, _⟩ := bind_eq_some h
    · exact ⟨_, between, ended⟩
    · exact ⟨_, later, ended⟩
  obtain ⟨value, between, made, _⟩ | ⟨failure, made, _⟩ := bind_eq_some ran
  · exact making made
  · exact making made

theorem stack_of_capture (answers : ∀ request, Leads (handler request)) (formed : world.WellFormed)
    (making : world.Making site owner) {produced : Produced} {result : Except Failure Value}
    (h : (capture handler site owner produced).run world = some (result, last)) :
    last.stack = world.stack := by
  obtain reached | ⟨disposable, _, _, _, rfl⟩ := reaches_capture answers formed (fun _ => making) h
  · exact reached.stack
  · exact world.stack_entrust site owner disposable produced.value

/-- A construction that is due stands on the stack, innermost, while its user code runs and until its
owner has been given what that returned. -/
theorem bracketed_of_interpret (answers : ∀ request, Leads (handler request))
    (formed : world.WellFormed) {callSite : CallSite} (offered : world.Offers scope callSite)
    (constructs : callSite.kind.constructs = true)
    (owned : world.ownerFor callSite.site.location scope = owner)
    (lacks : world.Lacks callSite.site owner) {result : Except Failure Value}
    (h : (interpret handler callSite scope).run world = some (result, last)) :
    ∃ outcome between,
      (producer handler callSite owner).run (world.begin callSite.site owner) =
        some (outcome, between) ∧
      world.Steps between ∧ between.stack = world.stack ++ [world.frame callSite.site owner] ∧
      ∀ produced, outcome = .ok produced → ∃ captured taken,
        (capture handler callSite.site owner produced).run between = some (captured, taken) ∧
        taken.stack = world.stack ++ [world.frame callSite.site owner] ∧
        taken.journal <:+ last.journal := by
  obtain ⟨mine, engine, begins⟩ := begins_of_lacks formed offered constructs owned lacks
  have within := begins.wellFormed formed
  obtain ⟨later, provided, grown, _⟩ := provided_of_interpret constructs owned engine h
  obtain ⟨outcome, between, ended⟩ := produced_of_provide lacks constructs provided
  have reached := leads_producer answers callSite owner _ within
    (begins.extends.offers formed.toHoused mine) _ _ ended
  have innermost : between.stack = world.stack ++ [world.frame callSite.site owner] :=
    reached.stack.trans (world.stack_begin callSite.site owner)
  refine ⟨outcome, between, ended, (Relation.ReflTransGen.single begins).trans reached.steps,
    innermost, ?_⟩
  rintro produced rfl
  obtain ⟨captured, taken, ran, inside⟩ := captured_of_provide lacks constructs ended provided
  have making := World.making_of_begin begins mine.hosts reached
  exact ⟨captured, taken, ran,
    (stack_of_capture answers (reached.wellFormed within) making ran).trans innermost,
    inside.trans grown⟩

end Run

namespace World

theorem Regular.warrants {world : World} (regular : world.Regular)
    (nested : world.stack = (underway world.journal).map (·.frame)) {frame : Frame}
    (listed : frame ∈ world.stack) : ∃ location callSite,
      world.Warrants frame.engine frame.key location frame.owner callSite := by
  rw [nested] at listed
  obtain ⟨construction, member, rfl⟩ := List.mem_map.1 listed
  obtain ⟨location, entered⟩ := entered_of_underway member
  obtain ⟨callSite, warrants⟩ := regular.planned _ _ _ _ entered
  exact ⟨location, callSite, warrants⟩

/-- The stack has no two constructions of the same key, so a cycle begins at the only one of its
key. -/
theorem Regular.cycle?_eq {world : World} (regular : world.Regular) {outer inner : List Frame}
    {frame : Frame} (split : world.stack = outer ++ frame :: inner) {engine : EngineId}
    {key : CacheKey} (here : frame.makes engine key = true) :
    Run.cycle? world.stack engine key =
      some (((frame :: inner).filter (·.engine == engine)).map (·.key.name) ++ [key.name]) := by
  rw [split]
  refine Run.cycle?_append here fun other listed => ?_
  have apart := regular.apart
  rw [split, List.pairwise_append] at apart
  have differs := apart.2.2 other listed frame List.mem_cons_self
  obtain ⟨engines, keys⟩ := Frame.makes_iff.1 here
  rw [Bool.eq_false_iff] at differs ⊢
  intro makes
  obtain ⟨same, equal⟩ := Frame.makes_iff.1 makes
  exact differs (Frame.makes_iff.2 ⟨same.trans engines.symm, BEq.trans equal (BEq.symm keys)⟩)

section Sample

def relaying (service next : TypeInfo) : Descriptor :=
  ⟨.plain service, .transient, .produced service.name fun scope => do
    match ← Program.request (.resolve scope (.plain next)) with
    | .error failure => pure (.error failure)
    | .ok _ => pure (.ok { value := .object ⟨service, none, service.name⟩ })⟩

def echoing : Blueprint where
  registry := ⟨[
    relaying kept closer,
    relaying closer kept,
    ⟨.plain user, .transient, .produced user.name fun _ =>
      pure (.ok { value := .object ⟨user, none, user.name⟩ })⟩]⟩

def echoes (world : World) : Bool :=
  match Container.perform 4 (.resolve 0 (.plain kept)) world with
  | some (.error (.circular path), failed) =>
    path == [kept.name, closer.name, kept.name] &&
      match Container.perform 4 (.resolve 0 (.plain user)) failed with
      | some (.ok (some _), _) => true
      | _ => false
  | _ => false

end Sample

/-- At any time of any run, the stack holds the constructions underway, the outermost first, each for
a graph of its provider that user code takes part in, and no two of one provider for one key. Such a
graph stands innermost on the stack from before its user code runs until its owner has been given the
instance, and everything that can be asked, or is delivered for a graph, leaves the stack as it was,
whether it succeeds or fails. The guard refuses a construction if and only if the stack has one of the
same provider for the same key; the cycle that it tells is what the provider has on the stack from
there on. -/
theorem Reachable.stack_disciplined {before world : World} (reached : before.Reachable)
    (steps : before.Steps world) :
    before.stack = [] ∧
    world.stack.Pairwise (fun outer inner => outer.makes inner.engine inner.key = false) ∧
    world.stack = (underway world.journal).map (·.frame) ∧
    (∀ frame ∈ world.stack, ∃ location callSite,
      world.Warrants frame.engine frame.key location frame.owner callSite) ∧
    (∀ fuel callSite plan scope owner result last,
      world.Offers scope callSite → plan.Follows callSite →
      (Run.follow (Container.perform fuel) scope plan).run world = some (result, last) →
      last.stack = world.stack ∧
      (callSite.kind.constructs = true → world.ownerFor callSite.site.location scope = owner →
        world.Lacks callSite.site owner →
        ∃ outcome between,
          (Run.producer (Container.perform fuel) callSite owner).run
            (world.begin callSite.site owner) = some (outcome, between) ∧
          before.Steps between ∧
          between.stack = world.stack ++ [world.frame callSite.site owner] ∧
          ∀ produced, outcome = .ok produced → ∃ captured taken,
            (Run.capture (Container.perform fuel) callSite.site owner produced).run between =
              some (captured, taken) ∧
            taken.stack = world.stack ++ [world.frame callSite.site owner] ∧
            taken.journal <:+ last.journal)) ∧
    (∀ fuel request reply last, Container.perform fuel request world = some (reply, last) →
      last.stack = world.stack) ∧
    ∀ engine site owner construction,
      ((∀ frame ∈ world.stack, frame.makes engine site.key = false) →
        (Run.guarded engine site owner construction).run world =
          (construction.run (world.enter engine site owner)).map
            fun ended => (ended.1, ended.2.leave engine site.key)) ∧
      ∀ outer frame inner, world.stack = outer ++ frame :: inner →
        frame.makes engine site.key = true →
        (Run.guarded engine site owner construction).run world =
          some (.error (.circular (((frame :: inner).filter (·.engine == engine)).map (·.key.name) ++
            [site.key.name])), world) := by
  have regular := reached.regular.steps steps
  have nested := steps.nested reached.nested
  obtain ⟨_, _, idle⟩ := reached.steps
  refine ⟨idle, regular.apart, nested, ?_, ?_, ?_, ?_⟩
  · exact fun frame listed => regular.warrants nested listed
  · intro fuel callSite plan scope owner result last offered follows followed
    have answers := Container.leads_perform fuel
    rw [Run.follow_eq (regular.formed.engine_sound _).memo offered.holds follows] at followed
    have reaches := Run.reaches_interpret answers callSite scope world regular.formed offered _ _
      followed
    refine ⟨reaches.stack, fun constructs owned lacks => ?_⟩
    obtain ⟨outcome, between, ended, ran, rest⟩ := Run.bracketed_of_interpret answers
      regular.formed offered constructs owned lacks followed
    exact ⟨outcome, between, ended, steps.trans ran, rest⟩
  · intro fuel request reply last performed
    exact (Container.leads_perform fuel request world regular.formed reply last performed).stack
  · intro engine site owner construction
    refine ⟨fun free => ?_, fun outer frame inner split here => ?_⟩
    · rw [Run.run_guarded, Run.cycle?_eq_none_of_free free]
    · rw [Run.run_guarded, regular.cycle?_eq split here]

/-- Two factories that resolve each other fail with their cycle, and a third one is then resolved as if
nothing had happened. -/
theorem stack_disciplined_echo :
    ∃ world failed last value,
      Container.serve 4 echoing {} [] (resolving [kept]) {} = .ok (some ((), world)) ∧
      Container.perform 4 (.resolve 0 (.plain kept)) world =
        some (.error (.circular [kept.name, closer.name, kept.name]), failed) ∧
      failed.stack = world.stack ∧
      Container.perform 4 (.resolve 0 (.plain user)) failed = some (.ok (some value), last) ∧
      last.stack = world.stack := by
  obtain ⟨world, served, shown⟩ := exists_of_served
    (Container.serve 4 echoing {} [] (resolving [kept]) {}) echoes (by decide +kernel)
  have reached := Container.reachable_of_serve (.start []) served
  unfold echoes at shown
  split at shown
  · rename_i path failed refused
    obtain ⟨named, shown⟩ := Bool.and_eq_true_iff.1 shown
    cases eq_of_beq named
    split at shown
    · rename_i value last resolved
      obtain ⟨_, _, _, _, _, requests, _⟩ := reached.stack_disciplined .refl
      have unchanged := requests _ _ _ _ refused
      have steps := (Container.leads_perform 4 _ world reached.wellFormed _ _ refused).steps
      obtain ⟨_, _, _, _, _, requests, _⟩ := reached.stack_disciplined steps
      exact ⟨world, failed, last, value, served, refused, unchanged, resolved,
        (requests _ _ _ _ resolved).trans unchanged⟩
    · cases shown
  · cases shown

end World
end ServiceContainer
