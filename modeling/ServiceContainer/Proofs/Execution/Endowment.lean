import ServiceContainer.Proofs.Execution.Unfolding

/-! Graphs made for one owner. What the root of a provider asks for, and all that is needed for it,
belongs to the root, whatever its lifetime. Main statement: to interpret a graph for the root is to
make every part of it for the root. -/
namespace ServiceContainer

def OwnService.value (engine : EngineId) (root : ScopeId) : OwnService → Value
  | .scope => .scope root
  | .scopeFactory => .scopeFactory root
  | .activatorFactory => .activatorFactory engine

namespace Run

def supply (handler : Handler) (engine : EngineId) (kind : SiteKind) (site : Site)
    (owner : ScopeId) (produce : Run Produced) : Run Value := do
  let value ← provide handler engine kind site owner produce
  if kind.constructs then record (.obtained engine site.key owner value)
  pure value

mutual
/-- Walks a graph, children first; the owner of all that is made on the way is the same, and it is
what user code and the container's own services are given. -/
def endow (handler : Handler) (engine : EngineId) (owner : ScopeId) : CallSite → Run Value
  | .constant site value => supply handler engine .constant site owner (pure { value })
  | .fallback site value => supply handler engine .constant site owner (pure { value })
  | .factory site factory =>
    supply handler engine .factory site owner (body handler (factory owner))
  | .construct site activate cast parameters =>
    supply handler engine .constructor site owner do
      construct handler site activate cast (← endowAll handler engine owner parameters)
  | .collect site items =>
    supply handler engine .enumerable site owner do
      pure { value := .list (← endowAll handler engine owner items) }
  | .own site service =>
    supply handler engine (CallSite.own site service).kind site owner
      (pure { value := service.value engine owner })
def endowAll (handler : Handler) (engine : EngineId) (owner : ScopeId) :
    List CallSite → Run (List Value)
  | [] => pure []
  | callSite :: rest => do
    let value ← endow handler engine owner callSite
    let others ← endowAll handler engine owner rest
    pure (value :: others)
end

section Congruence
variable {handler : Handler} {world : World} {engine : EngineId} {kind : SiteKind} {site : Site}
  {owner scope : ScopeId}

/-- What a value is produced in: entries may have been opened, and constructions begun. -/
structure Alike (world later : World) : Prop where
  engines : later.engines = world.engines
  shapes : later.shapes = world.shapes

theorem made_congr {one other : Run Produced}
    (same : ∀ later : World, Alike world later → one.run later = other.run later) :
    (made handler engine kind site owner one).run world =
      (made handler engine kind site owner other).run world := by
  have making : ∀ before : World, Alike world before →
      (making handler site owner one).run before = (making handler site owner other).run before := by
    intro before alike
    rw [run_making, run_making]
    refine run_bind_congr (same _ ⟨?_, ?_⟩) fun _ _ _ => rfl
    · rw [World.engines_reserve, alike.engines]
    · rw [World.shapes_reserve, alike.shapes]
  unfold made
  split
  · rw [run_guarded, run_guarded]
    cases cycle? world.stack engine site.key with
    | some path => rfl
    | none =>
      refine congrArg (Option.map _) (run_bind_congr (making _ ⟨?_, ?_⟩) fun _ _ _ => rfl)
      · exact World.engines_enter ..
      · exact World.shapes_enter ..
  · exact run_bind_congr (making world ⟨rfl, rfl⟩) fun _ _ _ => rfl

theorem provide_congr {one other : Run Produced}
    (same : ∀ later : World, Alike world later → one.run later = other.run later) :
    (provide handler engine kind site owner one).run world =
      (provide handler engine kind site owner other).run world := by
  have cached : (cached handler engine kind site owner one).run world =
      (cached handler engine kind site owner other).run world := by
    unfold cached
    rw [run_look, run_look]
    split
    · rfl
    · exact made_congr same
  unfold provide
  split
  · exact made_congr same
  · exact cached
  · refine run_bind_congr rfl fun _ later checked => ?_
    rw [(ensureOpen_eq_some checked).1]
    exact cached

theorem supply_congr {one other : Run Produced}
    (same : ∀ later : World, Alike world later → one.run later = other.run later) :
    (supply handler engine kind site owner one).run world =
      (supply handler engine kind site owner other).run world :=
  run_bind_congr (provide_congr same) fun _ _ _ => rfl

/-- What is delivered to a scope is supplied by its owner. -/
theorem run_deliver {produce : ScopeId → Run Produced} (hosted : (world.scope scope).engine = engine)
    (owned : world.ownerFor site.location scope = owner) :
    (deliver handler kind site scope produce).run world =
      (supply handler engine kind site owner (produce owner)).run world := by
  subst hosted owned
  rfl

end Congruence

section Roots
variable {confined : Bool} {handler : Handler} {engine : EngineId} {root : ScopeId}
  {blueprint : Blueprint} {memo : Memo}

theorem ownerFor_root {world : World} (rooted : world.IsRootOf root engine)
    (location : CacheLocation) : world.ownerFor location root = root := by
  cases location with
  | root =>
    change world.rootOf root = root
    rw [World.rootOf, rooted.root_eq_none]
    rfl
  | scope | nowhere => rfl

theorem run_deliver_root {world : World} (rooted : world.IsRootOf root engine) {kind : SiteKind}
    {site : Site} {produce : ScopeId → Run Produced} {other : Run Produced}
    (same : ∀ later : World, Alike world later → (produce root).run later = other.run later) :
    (deliver handler kind site root produce).run world =
      (supply handler engine kind site root other).run world :=
  (run_deliver rooted.hosts.listed.2 (ownerFor_root rooted _)).trans (supply_congr same)

theorem isRootOf_of_alike {world later : World} (rooted : world.IsRootOf root engine)
    (alike : Alike world later) : later.IsRootOf root engine := by
  rw [World.IsRootOf, alike.shapes]
  exact rooted

mutual
theorem run_interpret_root (answers : handler.Unfolds confined) (lawful : Memo.Sound blueprint memo) :
    ∀ (callSite : CallSite) (world : World), memo.Holds callSite → world.Sound →
      world.IsRootOf root engine →
        (interpret handler callSite root).run world =
          (endow handler engine root callSite).run world
  | .constant site value, world, held, sound, rooted
  | .fallback site value, world, held, sound, rooted => by
    rw [interpret, endow]
    exact run_deliver_root rooted fun _ _ => rfl
  | .factory site factory, world, held, sound, rooted => by
    rw [interpret, endow]
    exact run_deliver_root rooted fun _ _ => rfl
  | .construct site activate cast parameters, world, held, sound, rooted => by
    rw [interpret, endow]
    refine run_deliver_root rooted fun later alike => run_bind_congr ?_ fun _ _ _ => rfl
    exact run_interpretAll_root answers lawful parameters later (held.child lawful)
      (fun id engine listed => sound id engine (alike.engines ▸ listed))
      (isRootOf_of_alike rooted alike)
  | .collect site items, world, held, sound, rooted => by
    rw [interpret, endow]
    refine run_deliver_root rooted fun later alike => run_bind_congr ?_ fun _ _ _ => rfl
    exact run_interpretAll_root answers lawful items later (held.child lawful)
      (fun id engine listed => sound id engine (alike.engines ▸ listed))
      (isRootOf_of_alike rooted alike)
  | .own site service, world, held, sound, rooted => by
    rw [interpret, endow]
    refine run_deliver_root rooted fun later alike => ?_
    have still := isRootOf_of_alike rooted alike
    cases service with
    | scope => rfl
    | scopeFactory =>
      have above : later.rootOf root = root := ownerFor_root still .root
      change some (Except.ok ({ value := .scopeFactory (later.rootOf root) } : Produced), later) = _
      rw [above]
      rfl
    | activatorFactory =>
      change some (Except.ok
        ({ value := .activatorFactory (later.scope root).engine } : Produced), later) = _
      rw [still.hosts.listed.2]
      rfl
theorem run_interpretAll_root (answers : handler.Unfolds confined)
    (lawful : Memo.Sound blueprint memo) :
    ∀ (callSites : List CallSite) (world : World), (∀ callSite ∈ callSites, memo.Holds callSite) →
      world.Sound → world.IsRootOf root engine →
        (interpretAll handler callSites root).run world =
          (endowAll handler engine root callSites).run world
  | [], world, held, sound, rooted => by rw [interpretAll, endowAll]
  | callSite :: rest, world, held, sound, rooted => by
    rw [interpretAll, endowAll]
    have first := held callSite List.mem_cons_self
    refine run_bind_congr (run_interpret_root answers lawful callSite world first sound rooted) ?_
    intro value later ran
    have course := unfolds_interpret answers lawful callSite root world first sound _ later ran
    refine run_bind_congr ?_ fun _ _ _ => rfl
    refine run_interpretAll_root answers lawful rest later
      (fun other member => held other (List.mem_cons_of_mem _ member)) (course.sound sound) ?_
    exact getElem?_mono course.shapes rooted
end

/-- What a root supplies for a graph is made for the root, and so is all that the graph needs. -/
theorem run_supply_root (answers : handler.Unfolds confined) (lawful : Memo.Sound blueprint memo)
    {callSite : CallSite} {world : World} (held : memo.Holds callSite) (sound : world.Sound)
    (rooted : world.IsRootOf root engine) :
    (supply handler engine callSite.kind callSite.site root (producer handler callSite root)).run
        world = (endow handler engine root callSite).run world := by
  rw [← run_interpret_root answers lawful callSite world held sound rooted, interpret_eq]
  exact (run_deliver rooted.hosts.listed.2 (ownerFor_root rooted _)).symm

end Roots
end Run
end ServiceContainer
