import ServiceContainer.Proofs.Disposal
import ServiceContainer.Proofs.Engine.Factories
import ServiceContainer.Proofs.Invocations

/-! Where the instance of a graph comes from. Main statements: the owner hands out the instance that it
keeps, and otherwise one is made for it by the graph; what an owner has handed out it keeps until it is
disposed; and a request for what is kept is answered with it. -/
namespace ServiceContainer

theorem Engine.Settled.fluent {host : Host} {engine : Engine} (settled : engine.Settled host)
    (spoken : engine.memo.Spoken host) : Fluent host engine.blueprint engine.options engine :=
  ⟨rfl, rfl, settled.sound, settled.recalls, spoken⟩

namespace World
variable {world : World}

/-- An owner that is not disposed still has what it has handed out of an entry that keeps its
instances. -/
theorem Regular.cached_of_handed (regular : world.Regular) {cell : Frame} (keeps : world.Keeps cell)
    (lasting : (world.scope cell.owner).state ≠ .disposed) {value : Value}
    (handed : value ∈ world.handed (· == cell)) : world.cached cell = some (some value) := by
  have once := regular.once cell keeps
  have here := regular.gone_eq_false lasting
  obtain ⟨_, late⟩ := once.agrees.fresh here
  have timely : value ∈ (cell.history world.journal).timely := by
    obtain timely | belated := (cell.mem_made world.journal).1 (once.used value handed)
    · exact timely
    · rw [late] at belated
      cases belated
  refine (once.agrees.holds value).2 ?_
  rw [History.current, here, if_neg Bool.false_ne_true]
  exact eq_singleton_of_mem timely once.agrees.few.1

/-- All that it has handed out of such an entry is one instance. -/
theorem Regular.handed_unique (regular : world.Regular) {cell : Frame} (keeps : world.Keeps cell)
    (lasting : (world.scope cell.owner).state ≠ .disposed) {value other : Value}
    (handed : value ∈ world.handed (· == cell)) (again : other ∈ world.handed (· == cell)) :
    value = other :=
  Option.some.inj (Option.some.inj ((regular.cached_of_handed keeps lasting handed).symm.trans
    (regular.cached_of_handed keeps lasting again)))

end World

namespace Run
variable {handler : Handler} {world last : World} {site : Site} {owner scope : ScopeId}
  {value : Value}

theorem run_provide_kept (located : site.location ≠ .nowhere)
    (held : world.cached (world.frame site owner) = some (some value))
    (opened : site.location = .root → (world.scope owner).state = .open) (kind : SiteKind)
    (produce : Run Produced) :
    (provide handler (world.scope owner).engine kind site owner produce).run world =
      some (.ok value, world) := by
  have found : (cached handler (world.scope owner).engine kind site owner produce).run world =
      some (.ok value, world) := by
    rw [cached, run_look, ← world.cached_frame site owner, held]
    rfl
  unfold provide
  cases place : site.location with
  | nowhere => exact absurd place located
  | scope => exact found
  | root => exact (run_bind_ok (by rw [run_ensureOpen, if_pos (opened place)])).trans found

theorem opened_of_provide {kind : SiteKind} {produce : Run Produced}
    (h : (provide handler (world.scope owner).engine kind site owner produce).run world =
      some (.ok value, last)) (place : site.location = .root) : (world.scope owner).state = .open := by
  unfold provide at h
  rw [place] at h
  obtain ⟨_, _, checked, _⟩ | ⟨_, _, failed⟩ := bind_eq_some h
  · exact (ensureOpen_eq_some checked).2
  · cases failed

theorem of_capture {produced : Produced}
    (h : (capture handler site owner produced).run world = some (.ok value, last)) :
    value = produced.value ∧ world.journal <:+ last.journal := by
  cases comes : produced.disposable with
  | none =>
    unfold capture at h
    rw [comes] at h
    cases h
    exact ⟨rfl, List.suffix_rfl⟩
  | some disposable =>
    rw [run_capture comes] at h
    split at h
    · cases h
      rw [World.journal_entrust]
      exact ⟨rfl, List.suffix_cons ..⟩
    · split at h
      · obtain ⟨_, _, failed⟩ := Option.map_eq_some_iff.1 h
        cases failed
      · cases h

/-- How an owner comes to hand out an instance of its own: it keeps one, or one is made for it, from the
world in which the construction has begun. -/
inductive Supplies (makes : World → Produced → World → Prop) (site : Site) (owner : ScopeId)
    (world : World) : Value → World → Prop where
  | kept {value : Value} (located : site.location ≠ .nowhere)
      (held : world.cached (world.frame site owner) = some (some value)) :
      Supplies makes site owner world value
        (world.record (.obtained (world.scope owner).engine site.key owner value))
  | made {produced : Produced} {between last : World} {events : List Event}
      (missing : site.location ≠ .nowhere →
        ∀ value, world.cached (world.frame site owner) ≠ some (some value))
      (produces : makes (world.begin site owner) produced between)
      (ended : last.journal =
        .obtained (world.scope owner).engine site.key owner produced.value ::
          .left (world.scope owner).engine site.key ::
          .completed (world.scope owner).engine site.key owner produced.value ::
            (events ++ between.journal)) :
      Supplies makes site owner world produced.value last

theorem Supplies.mono {makes enacts : World → Produced → World → Prop}
    (supplies : Supplies makes site owner world value last)
    (weaker : ∀ before produced after, makes before produced after → enacts before produced after) :
    Supplies enacts site owner world value last := by
  cases supplies with
  | kept located held => exact .kept located held
  | made missing produces ended => exact .made missing (weaker _ _ _ produces) ended

theorem supplies_of_interpret {callSite : CallSite} (constructs : callSite.kind.constructs = true)
    (owned : world.ownerFor callSite.site.location scope = owner)
    (engine : (world.scope owner).engine = (world.scope scope).engine)
    (h : (interpret handler callSite scope).run world = some (.ok value, last)) :
    Supplies (fun before produced after =>
        (producer handler callSite owner).run before = some (.ok produced, after))
      callSite.site owner world value last := by
  obtain ⟨later, provided, _, recorded⟩ := provided_of_interpret constructs owned engine h
  obtain rfl := recorded value rfl
  have opened := opened_of_provide provided
  by_cases kept : callSite.site.location ≠ .nowhere ∧
      ∃ value, world.cached (world.frame callSite.site owner) = some (some value)
  · obtain ⟨located, _, held⟩ := kept
    cases provided.symm.trans (run_provide_kept located held opened _ _)
    exact .kept located held
  · have missing : callSite.site.location ≠ .nowhere →
        ∀ value, world.cached (world.frame callSite.site owner) ≠ some (some value) :=
      fun located other held => kept ⟨located, other, held⟩
    rw [run_provide missing opened, made, constructs, if_pos rfl, run_guarded] at provided
    cases free : cycle? world.stack (world.scope owner).engine callSite.site.key with
    | some path =>
      rw [free] at provided
      cases provided
    | none =>
      rw [free] at provided
      obtain ⟨⟨_, inner⟩, ran, ended⟩ := Option.map_eq_some_iff.1 provided
      cases ended
      obtain ⟨_, between, making, rest⟩ | ⟨_, _, failed⟩ := bind_eq_some ran
      · cases rest
        rw [run_making] at making
        obtain ⟨produced, after, produces, captured⟩ | ⟨_, _, failed⟩ := bind_eq_some making
        · obtain ⟨rfl, events, grown⟩ := of_capture captured
          exact .made missing produces (by
            rw [World.journal_record, World.journal_leave, World.journal_complete, ← grown])
        · cases failed
      · cases failed

theorem run_supply_kept {id : EngineId} (located : site.location ≠ .nowhere)
    (mine : (world.scope owner).engine = id)
    (held : world.cached ⟨id, site.key, owner⟩ = some (some value))
    (opened : site.location = .root → (world.scope owner).state = .open) (kind : SiteKind)
    (produce : Run Produced) :
    ∃ last, (supply handler id kind site owner produce).run world = some (.ok value, last) := by
  subst mine
  have provided : (provide handler (world.scope owner).engine kind site owner produce).run world =
      some (.ok value, world) := run_provide_kept located held opened kind produce
  cases constructs : kind.constructs with
  | true => exact ⟨_, (run_bind_ok provided).trans (by rw [constructs]; rfl)⟩
  | false => exact ⟨_, (run_bind_ok provided).trans (by rw [constructs]; rfl)⟩

theorem run_bind_same {first : Run α} {next : α → Run α}
    (same : ∀ value later, (next value).run later = some (.ok value, later)) :
    (first >>= next).run world = first.run world := by
  have congruent : (first >>= next).run world = (first >>= pure).run world :=
    run_bind_congr rfl fun value later _ => same value later
  rw [congruent, bind_pure]

/-- What is not kept and no user code takes part in, is supplied as it is produced. -/
theorem run_supply_unkept {id : EngineId} {kind : SiteKind} (unkept : site.location = .nowhere)
    (quiet : kind.constructs = false) (produce : Run Produced) :
    (supply handler id kind site owner produce).run world =
      (produce >>= capture handler site owner).run world := by
  have keeps : ∀ (value : Value) (later : World), later.keep site owner value = later :=
    fun value later => if_pos unkept
  have making : (making handler site owner produce).run world =
      (produce >>= capture handler site owner).run world := by
    rw [run_making, World.reserve, if_pos unkept]
  have provided : (provide handler id kind site owner produce).run world =
      (produce >>= capture handler site owner).run world := by
    unfold provide
    rw [unkept]
    dsimp only
    rw [made, quiet, if_neg Bool.false_ne_true]
    refine (run_bind_same fun value later => ?_).trans making
    change some (Except.ok value, later.keep site owner value) = _
    rw [keeps]
  rw [supply]
  refine (run_bind_same fun value later => ?_).trans provided
  rw [quiet]
  rfl

theorem run_interpret_collect (service element : ServiceType) (items : List CallSite) :
    (interpret handler (.collect (Blueprint.collectionSite service element) items) scope).run world =
      (Value.list <$> interpretAll handler items scope).run world := by
  rw [interpret, run_deliver rfl rfl, run_supply_unkept rfl rfl, map_eq_pure_bind, bind_assoc]
  exact run_bind_congr rfl fun _ _ _ => rfl

section Requests
variable {id : EngineId} {host : Host} {service : ServiceType} {callSite : CallSite}
  (formed : world.WellFormed) (settled : (world.engine id).Settled host)
  (describes : host.Describes (world.engine id).blueprint)
  (spoken : (world.engine id).memo.Spoken host) (speaks : host.Speaks service)
  (grants : (world.engine id).Grants callSite (world.isRoot scope))
  (mine : (world.scope scope).engine = id) (opened : (world.scope scope).state = .open)
  (owned : world.ownerFor callSite.site.location scope = owner)
include formed settled describes spoken speaks grants mine opened owned

/-- A request for what is realized is answered with what its owner supplies, if that depends on nothing
but the scopes. -/
theorem exists_of_supplied {realization : Nat}
    (realized : ((Engine.realize service).run (world.engine id)).1 = .ok (some realization))
    (known : ((Engine.realize service).run (world.engine id)).2.memo.lookup ⟨service, 0⟩ =
      some (some callSite))
    (supplied : ∀ before : World, before.scopes = world.scopes → ∃ last,
      (supply handler id callSite.kind callSite.site owner (producer handler callSite owner)).run
        before = some (.ok value, last)) :
    ∃ last, (resolve handler scope service).run world = some (.ok (some value), last) := by
  have hosted : world.Hosts scope (world.scope scope).engine := .of_state (by simp [opened])
  rw [mine] at hosted
  have asked := run_onEngine id (Engine.realize service) world
  rw [realized] at asked
  generalize world.withEngine id ((Engine.realize service).run (world.engine id)).2 = later at asked
  obtain ⟨_, told⟩ := World.move_of_asked formed asked
  obtain ⟨_, after⟩ := engine_of_onEngine (formed.placed _ _ hosted) asked
  have fluent := settled.fluent spoken
  obtain ⟨⟨fluently, grown⟩, _⟩ := fluent.realize describes speaks _ _ rfl
  obtain ⟨_, graph, recorded⟩ := graph_of_realize formed (formed.placed _ _ hosted) asked
  rw [after] at recorded
  cases known.symm.trans recorded
  have granted : (later.engine id).Grants callSite (later.isRoot scope) := by
    rw [after, World.isRoot, World.scope_of_scopes told.scopes]
    exact fun checks => grants (grown.options ▸ checks)
  have same := World.scope_of_scopes told.scopes scope
  have seeks : later.Seeks id realization callSite owner scope :=
    ⟨graph, same ▸ mine, (World.ownerFor_of_scopes told.scopes _ _).trans owned⟩
  have invoked : (invoke handler id realization scope).run later = _ :=
    run_invoke_owned (after ▸ settled.ask (.realize service)) (after ▸ fluently.spoken) seeks granted
      (same ▸ opened)
  obtain ⟨last, ended⟩ := exists_of_watched fun before scopes =>
    supplied before (scopes.trans told.scopes)
  refine ⟨last, (run_resolve_realized asked opened mine).trans ?_⟩
  rw [map_eq_pure_bind]
  exact run_bind_ok (invoked.trans ended)

theorem exists_of_resolve_kept
    (known : (world.engine id).memo.lookup ⟨service, 0⟩ = some (some callSite))
    (located : callSite.site.location ≠ .nowhere)
    (held : world.cached ⟨id, callSite.site.key, owner⟩ = some (some value))
    (lasting : (world.scope owner).state = .open) :
    ∃ last, (resolve handler scope service).run world = some (.ok (some value), last) := by
  obtain ⟨realization, realized⟩ := settled.exists_realization spoken known grants.judged
  have asks : (world.engine id).Asked ((Engine.realize service).run (world.engine id)).2 :=
    .realize service
  have still := (asks.evolves settled.sound).2.memo _ _ known
  refine exists_of_supplied formed settled describes spoken speaks grants mine opened owned realized
    still fun before scopes => ?_
  have engine : (world.scope owner).engine = id := by
    by_contra other
    rw [World.cached, if_neg other] at held
    cases held
  have same := World.scope_of_scopes scopes owner
  exact run_supply_kept located (by rw [same, engine]) (by rw [World.cached, same]; exact held)
    (fun _ => same ▸ lasting) _ _

end Requests
end Run
end ServiceContainer
