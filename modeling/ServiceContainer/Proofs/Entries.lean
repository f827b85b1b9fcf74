import ServiceContainer.Proofs.Effects
import ServiceContainer.Proofs.Execution.Runs

/-! Cache entries over whole runs. An entry is filled by a construction that may run user code,
which may dispose the owner and empty the entry meanwhile. Main statement: an entry that is to be
kept gets at most one instance before its owner is disposed and at most one after that; what was
made since it was last emptied is what it holds. -/
namespace ServiceContainer
namespace World

def Building (world : World) (cell : Frame) : Prop := ∃ frame ∈ world.stack, (frame == cell) = true

def Places (world : World) (cell : Frame) (allowed : CacheLocation → Prop) : Prop :=
  ∀ engine key location owner, .entered engine key location owner ∈ world.journal →
    ((⟨engine, key, owner⟩ : Frame) == cell) = true → allowed location

def Keeps (world : World) (cell : Frame) : Prop := world.Places cell (· ≠ .nowhere)

structure Once (world : World) (cell : Frame) : Prop where
  agrees : (cell.history world.journal).Agrees (world.cached cell) (world.Building cell)
  used : ∀ value ∈ world.handed (· == cell), value ∈ world.made (· == cell)
  /-- A root makes nothing once it has been disposed. -/
  prompt : world.Places cell (· = .root) → (cell.history world.journal).Prompt

theorem Places.of_suffix {world later : World} {cell : Frame} {allowed : CacheLocation → Prop}
    (places : later.Places cell allowed) (grown : world.journal <:+ later.journal) :
    world.Places cell allowed :=
  fun engine key location owner entered => places engine key location owner (grown.subset entered)

/-- An entry to which nothing happens is as before. -/
theorem Once.transfer {world later : World} {cell : Frame} (once : world.Once cell)
    (grown : world.journal <:+ later.journal)
    (history : cell.history later.journal = cell.history world.journal)
    (cached : later.cached cell = world.cached cell)
    (building : later.Building cell → world.Building cell)
    (used : ∀ value ∈ later.handed (· == cell), value ∈ later.made (· == cell)) :
    later.Once cell := by
  obtain ⟨agrees, _, prompt⟩ := once
  rw [← history] at agrees prompt
  rw [← cached] at agrees
  exact ⟨agrees.mono building, used, fun places => prompt (places.of_suffix grown)⟩

theorem Aside.once {world later : World} {cell : Frame} (aside : world.Aside later)
    (once : world.Once cell) : later.Once cell := by
  obtain ⟨events, same, _⟩ := aside.journal
  have grown : world.journal <:+ later.journal := ⟨events, same.symm⟩
  refine once.transfer grown aside.history (aside.cached cell) ?_ ?_
  · rw [Building, aside.stack]
    exact id
  · rw [aside.made, aside.handed]
    exact once.used

section Congruence
variable {world : World} {cell other : Frame}

theorem among_congr (same : (cell == other) = true) :
    ((· == cell) : Frame → Bool) = (· == other) := by
  funext frame
  exact BEq.congr_right same

theorem Building.congr (same : (cell == other) = true) (building : world.Building cell) :
    world.Building other := by
  obtain ⟨frame, listed, here⟩ := building
  exact ⟨frame, listed, BEq.trans here same⟩

theorem Places.congr {allowed : CacheLocation → Prop} (same : (cell == other) = true)
    (places : world.Places cell allowed) : world.Places other allowed :=
  fun engine key location owner entered here =>
    places engine key location owner entered (BEq.trans here (BEq.symm same))

theorem Once.congr (same : (cell == other) = true) (once : world.Once cell) : world.Once other := by
  obtain ⟨agrees, used, prompt⟩ := once
  rw [Frame.history_congr _ _ same] at agrees prompt
  rw [cached_congr same] at agrees
  rw [among_congr same] at used
  have back : world.Building other → world.Building cell := fun building =>
    building.congr (BEq.symm same)
  exact ⟨agrees.mono back, used, fun places => prompt (places.congr (BEq.symm same))⟩

end Congruence

namespace Once
variable {world : World} {cell : Frame} {site : Site} {owner : ScopeId}

theorem enter (once : world.Once cell) (hosted : world.Hosts owner (world.scope owner).engine)
    (missing : site.location ≠ .nowhere →
      ∀ value, world.cached (world.frame site owner) ≠ some (some value))
    (prompt : site.location = .root →
      ((world.frame site owner).history world.journal).gone = false)
    (keeps : (world.begin site owner).Keeps cell) : (world.begin site owner).Once cell := by
  have grown : world.journal <:+ (world.begin site owner).journal := by
    rw [journal_begin]
    exact List.suffix_cons ..
  have used : ∀ value ∈ (world.begin site owner).handed (· == cell),
      value ∈ (world.begin site owner).made (· == cell) := by
    rw [World.handed, World.made, journal_begin, List.filterMap_cons_none rfl,
      List.filterMap_cons_none rfl]
    exact once.used
  by_cases same : (world.frame site owner == cell) = true
  · have entered : .entered (world.scope owner).engine site.key site.location owner ∈
        (world.begin site owner).journal := by
      rw [journal_begin]
      exact List.mem_cons_self
    have kept : site.location ≠ .nowhere := keeps _ _ _ _ entered same
    have once := once.congr (BEq.symm same)
    have history : (world.frame site owner).history (world.begin site owner).journal =
        { (world.frame site owner).history world.journal with
          belated := ((world.frame site owner).history world.journal).gone } := by
      rw [journal_begin]
      exact if_pos BEq.rfl
    rw [among_congr (BEq.symm same)] at used
    refine congr same ⟨?_, used, fun places => ?_⟩
    · rw [history, cached_begin hosted kept]
      exact once.agrees.begin (missing kept)
    · have top : site.location = .root := places _ _ _ _ entered BEq.rfl
      rw [history]
      exact ⟨prompt top, (once.prompt (places.of_suffix grown)).2⟩
  · have apart : (world.frame site owner == cell) = false := Bool.not_eq_true _ ▸ same
    refine once.transfer grown ?_ (cached_begin_of_ne hosted apart) ?_ used
    · rw [journal_begin]
      exact if_neg same
    · rintro ⟨frame, listed, here⟩
      rw [stack_begin] at listed
      obtain old | new := List.mem_append.1 listed
      · exact ⟨frame, old, here⟩
      · rw [List.mem_singleton.1 new] at here
        exact absurd here same

theorem complete (once : world.Once cell) (hosted : world.Hosts owner (world.scope owner).engine)
    {outer : List Frame} (innermost : world.stack = outer ++ [world.frame site owner])
    (apart : ∀ frame ∈ outer, (frame == world.frame site owner) = false) {value : Value}
    (begun : .entered (world.scope owner).engine site.key site.location owner ∈ world.journal)
    (keeps : world.Keeps cell) : (world.finish site owner value).Once cell := by
  have grown : world.journal <:+ (world.finish site owner value).journal := by
    rw [journal_finish]
    exact (List.suffix_cons ..).trans (List.suffix_cons ..)
  have stack : (world.finish site owner value).stack = outer := by
    rw [stack_finish, innermost, List.dropLast_concat]
  have handed : (world.finish site owner value).handed (· == cell) = world.handed (· == cell) := by
    rw [World.handed, journal_finish]
    rfl
  by_cases same : (world.frame site owner == cell) = true
  · have kept : site.location ≠ .nowhere := keeps _ _ _ _ begun same
    have history : (world.frame site owner).history (world.finish site owner value).journal =
        ((world.frame site owner).history world.journal).finish value := by
      rw [journal_finish]
      exact if_pos BEq.rfl
    have building : world.Building (world.frame site owner) := by
      refine ⟨world.frame site owner, ?_, BEq.rfl⟩
      rw [innermost]
      simp
    have finished : ¬(world.finish site owner value).Building (world.frame site owner) := by
      rintro ⟨frame, listed, again⟩
      rw [stack] at listed
      rw [apart frame listed] at again
      cases again
    have used : ∀ other ∈ (world.finish site owner value).handed (· == cell),
        other ∈ (world.finish site owner value).made (· == cell) := by
      intro other listed
      have counted : (Event.completed (world.scope owner).engine site.key owner value).made?
          (· == cell) = some value := if_pos same
      rw [handed] at listed
      rw [World.made, journal_finish, List.filterMap_cons_none rfl,
        List.filterMap_cons_some counted]
      exact List.mem_cons_of_mem _ (once.used other listed)
    have once := once.congr (BEq.symm same)
    rw [among_congr (BEq.symm same)] at used
    refine congr same ⟨?_, used, fun places => ?_⟩
    · rw [history, cached_finish hosted kept]
      exact ((once.agrees.mono fun _ => building).finish value).mono finished
    · obtain ⟨timely, none⟩ := once.prompt (places.of_suffix grown)
      rw [history, History.finish, if_neg (by simp [timely])]
      exact ⟨timely, none⟩
  · have elsewhere : (world.frame site owner == cell) = false := Bool.not_eq_true _ ▸ same
    refine once.transfer grown ?_ (cached_finish_of_ne hosted elsewhere value) ?_ ?_
    · rw [journal_finish]
      exact if_neg same
    · rintro ⟨frame, listed, here⟩
      rw [stack] at listed
      refine ⟨frame, ?_, here⟩
      rw [innermost]
      exact List.mem_append_left _ listed
    · have counted : (Event.completed (world.scope owner).engine site.key owner value).made?
          (· == cell) = none := if_neg same
      rw [handed, World.made, journal_finish, List.filterMap_cons_none rfl,
        List.filterMap_cons_none counted]
      exact once.used

theorem leave (once : world.Once cell) (engine : EngineId) (key : CacheKey) :
    (world.leave engine key).Once cell := by
  refine once.transfer (List.suffix_cons ..) rfl rfl ?_ once.used
  rintro ⟨frame, listed, here⟩
  exact ⟨frame, List.dropLast_subset _ listed, here⟩

theorem obtain (once : world.Once cell) {value : Value}
    (had : value ∈ world.made (· == world.frame site owner) ∨
      world.cached (world.frame site owner) = some (some value)) :
    (world.record (.obtained (world.scope owner).engine site.key owner value)).Once cell := by
  refine once.transfer (List.suffix_cons ..) rfl rfl id ?_
  intro other listed
  change other ∈ List.filterMap (Event.handed? (· == cell))
    (.obtained (world.scope owner).engine site.key owner value :: world.journal) at listed
  by_cases same : (world.frame site owner == cell) = true
  · have counted : (Event.obtained (world.scope owner).engine site.key owner value).handed?
        (· == cell) = some value := if_pos same
    rw [List.filterMap_cons_some counted] at listed
    obtain rfl | earlier := List.mem_cons.1 listed
    · obtain made | kept := had
      · rwa [among_congr same] at made
      · rw [cached_congr same] at kept
        exact (cell.mem_made world.journal).2 (once.agrees.mem_of_held kept)
    · exact once.used other earlier
  · have counted : (Event.obtained (world.scope owner).engine site.key owner value).handed?
        (· == cell) = none := if_neg same
    rw [List.filterMap_cons_none counted] at listed
    exact once.used other listed

theorem close (once : world.Once cell) {scope : ScopeId} {engine : EngineId}
    (hosted : world.Hosts scope engine)
    (lasting : cell.owner = scope → (cell.history world.journal).gone = false) :
    (world.close scope).Once cell := by
  by_cases here : cell.owner = scope
  · have history : cell.history (world.close scope).journal =
        { cell.history world.journal with gone := true } := if_pos here.symm
    have emptied : (world.close scope).cached cell = none :=
      (cached_close hosted).trans (if_pos here)
    have grown : world.journal <:+ (world.close scope).journal := List.suffix_cons ..
    refine ⟨?_, once.used, fun places => ?_⟩
    · rw [history, emptied]
      exact once.agrees.dispose (lasting here)
    · rw [history]
      exact once.prompt (places.of_suffix grown)
  · refine once.transfer (List.suffix_cons ..) (if_neg (Ne.symm here)) ?_ id once.used
    rw [cached_close hosted, if_neg here]

end Once

/-- The provider holds the graph that a construction was for, and the owner was one for it. -/
structure Warrants (world : World) (engine : EngineId) (key : CacheKey) (location : CacheLocation)
    (owner : ScopeId) (callSite : CallSite) : Prop where
  holds : (world.engine engine).memo.Holds callSite
  constructs : callSite.kind.constructs = true
  keyed : callSite.site.key = key
  located : callSite.site.location = location
  rooted : location = .root → world.IsRootOf owner engine
  hosts : world.Hosts owner engine
  clear : world.Clear engine owner callSite

theorem Warrants.mono {world later : World} {engine : EngineId} {key : CacheKey}
    {location : CacheLocation} {owner : ScopeId} {callSite : CallSite}
    (warrants : world.Warrants engine key location owner callSite) (formed : world.WellFormed)
    (grows : world.Extends later) : later.Warrants engine key location owner callSite where
  holds := warrants.holds.mono (grows.memo engine)
  constructs := warrants.constructs
  keyed := warrants.keyed
  located := warrants.located
  rooted top := grows.isRootOf (warrants.rooted top)
  hosts := grows.hosts warrants.hosts
  clear := grows.clear formed.toHoused warrants.hosts warrants.clear

/-- The journal only tells of constructions that were due, and the world agrees with it. -/
structure Regular (world : World) : Prop where
  formed : world.WellFormed
  /-- No construction runs inside itself. -/
  apart : world.stack.Pairwise fun outer inner => outer.makes inner.engine inner.key = false
  ended : ∀ scope, .closed scope ∈ world.journal →
    world.Hosts scope (world.scope scope).engine ∧ (world.scope scope).state = .disposed
  planned : ∀ engine key location owner, .entered engine key location owner ∈ world.journal →
    ∃ callSite, world.Warrants engine key location owner callSite
  begun : ∀ engine key owner value, .completed engine key owner value ∈ world.journal →
    ∃ location, .entered engine key location owner ∈ world.journal
  /-- What is to be disposed was made by a construction. -/
  entrusted : ∀ maker tracked value accepted,
    .entrusted maker tracked value accepted ∈ world.journal →
      ∃ location, .entered maker.engine maker.key location maker.owner ∈ world.journal
  once : ∀ cell, world.Keeps cell → world.Once cell

section Regularity
variable {world later : World}

theorem Regular.gone_eq_false (regular : world.Regular) {cell : Frame}
    (lasting : (world.scope cell.owner).state ≠ .disposed) :
    (cell.history world.journal).gone = false := by
  by_contra gone
  have closed := (cell.gone_iff world.journal).1 (by simpa using gone)
  exact lasting (regular.ended _ closed).2

theorem Regular.step_once (regular : world.Regular) (step : world.Step later) {cell : Frame}
    (keeps : later.Keeps cell) : later.Once cell := by
  have before : world.Keeps cell := keeps.of_suffix step.extends.journal
  have once := regular.once cell before
  cases step using Step.casesAside with
  | aside _ aside => exact aside.once once
  | @close scope disposing _ =>
    refine once.close (.of_state (by simp [disposing])) fun here => regular.gone_eq_false ?_
    simp [here, disposing]
  | @enter callSite owner offered constructs _ missing rooted =>
    refine once.enter offered.hosts missing (fun top => regular.gone_eq_false ?_) keeps
    simp [World.frame, (rooted top).2]
  | @complete site owner value making =>
    obtain ⟨⟨outer, innermost⟩, hosted, begun⟩ := making
    refine once.complete hosted innermost (fun frame listed => ?_) begun before
    have apart := regular.apart
    rw [innermost, List.pairwise_append] at apart
    have other := apart.2.2 frame listed _ List.mem_cons_self
    rw [Bool.eq_false_iff] at other ⊢
    intro same
    obtain ⟨engines, keys, _⟩ := Frame.beq_iff.1 same
    refine other ?_
    simp [Frame.makes, engines, keys]
  | leave innermost => exact once.leave _ _
  | handOut had => exact once.obtain had

theorem Regular.step (regular : world.Regular) (step : world.Step later) : later.Regular where
  formed := step.wellFormed regular.formed
  apart := by
    obtain same | same | ⟨frame, same, apart⟩ := step.stack
    · rw [same]
      exact regular.apart
    · rw [same]
      exact regular.apart.sublist (List.dropLast_sublist _)
    · rw [same, List.pairwise_append]
      refine ⟨regular.apart, List.pairwise_singleton _ _, fun outer listed inner new => ?_⟩
      rw [List.mem_singleton.1 new]
      exact apart outer listed
  ended scope closed := by
    have kept : ∀ {engine : EngineId}, world.Hosts scope engine →
        later.Hosts scope (later.scope scope).engine := by
      intro engine hosted
      have hosts := step.extends.hosts hosted
      rwa [hosts.listed.2]
    obtain old | idle | due := step.due closed
    · obtain ⟨hosted, disposed⟩ := regular.ended scope old
      exact ⟨kept hosted, step.disposed hosted disposed⟩
    · cases idle
    · cases due with
      | closed hosted disposed => exact ⟨kept hosted, disposed⟩
  planned engine key location owner entered := by
    obtain old | idle | due := step.due entered
    · obtain ⟨callSite, warrants⟩ := regular.planned engine key location owner old
      exact ⟨callSite, warrants.mono regular.formed step.extends⟩
    · cases idle
    · cases due with
      | @entered callSite owner offered constructs rooted =>
        have warrants : world.Warrants (world.scope owner).engine callSite.site.key
            callSite.site.location owner callSite :=
          ⟨offered.holds, constructs, rfl, rfl, rooted, offered.hosts, offered.clear⟩
        exact ⟨callSite, warrants.mono regular.formed step.extends⟩
  begun engine key owner value completed := by
    obtain old | idle | due := step.due completed
    · obtain ⟨location, entered⟩ := regular.begun engine key owner value old
      exact ⟨location, step.extends.journal.subset entered⟩
    · cases idle
    · cases due with
      | completed begun => exact ⟨_, step.extends.journal.subset begun⟩
  entrusted maker tracked value accepted entrusted := by
    have grown := step.extends.journal
    obtain old | ⟨location, entered⟩ := step.entrusted entrusted
    · obtain ⟨location, entered⟩ := regular.entrusted maker tracked value accepted old
      exact ⟨location, grown.subset entered⟩
    · exact ⟨location, grown.subset entered⟩
  once cell keeps := regular.step_once step keeps

theorem regular_start (metrics : List Metrics) : Regular { metrics } where
  formed := wellFormed_start metrics
  apart := List.Pairwise.nil
  ended scope closed := by cases closed
  planned engine key location owner entered := by cases entered
  begun engine key owner value completed := by cases completed
  entrusted maker tracked value accepted entrusted := by cases entrusted
  once cell _ := by
    have empty : World.cached { metrics } cell = none := by
      simp [World.cached, World.scope, Table.lookup]
    have idle : World.Building { metrics } cell → False := by
      rintro ⟨frame, listed, _⟩
      cases listed
    refine ⟨?_, (fun value handed => by cases handed), fun _ => ⟨rfl, rfl⟩⟩
    rw [empty]
    exact History.Agrees.start.mono idle

theorem Regular.steps (regular : world.Regular) (steps : world.Steps later) : later.Regular := by
  induction steps with
  | refl => exact regular
  | tail _ step ih => exact ih.step step

theorem Reachable.regular (reached : world.Reachable) : world.Regular := by
  obtain ⟨metrics, steps, _⟩ := reached.steps
  exact (regular_start metrics).steps steps

end Regularity
end World
end ServiceContainer
