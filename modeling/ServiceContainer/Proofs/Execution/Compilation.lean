import ServiceContainer.Execution.Interpreter
import ServiceContainer.Proofs.CallSite.Memo

/-! Compiled code does what the interpreter does. The compiler reuses the code of a node that
answers the same request, which is sound as the memo holds one graph for each request. Main
statement: to run the code of a held graph is to interpret the graph, in every state. -/
namespace ServiceContainer

/-- The graph is the memo's answer to some request, or stands in for one without an answer. -/
def Memo.Holds (memo : Memo) (callSite : CallSite) : Prop :=
  (∃ key, memo.lookup key = some (some callSite)) ∨
    ∃ service value, callSite = Blueprint.fallbackCallSite service value ∧
      memo.lookup ⟨service, 0⟩ = some none

namespace Memo
variable {blueprint : Blueprint} {memo later : Memo} {callSite : CallSite}

theorem Holds.mono (held : memo.Holds callSite) (grows : memo.Grows later) :
    later.Holds callSite := by
  obtain ⟨key, known⟩ | ⟨service, value, same, unanswered⟩ := held
  · exact .inl ⟨key, grows _ _ known⟩
  · exact .inr ⟨service, value, same, grows _ _ unanswered⟩

theorem Sound.assembles (sound : Sound blueprint memo) {key : CacheKey}
    (known : memo.lookup key = some (some callSite)) :
    ∃ target, blueprint.registry.Lists target ∧ blueprint.Assembles memo.Records target callSite ∧
      (target.key == key) = true ∧ memo.lookup target.key = some (some callSite) := by
  obtain ⟨target, lists, same, yields⟩ := sound key _ known
  exact ⟨target, lists, Blueprint.assembles_of_plan yields, same,
    (memo.lookup_congr same).trans known⟩

theorem Holds.answers (held : memo.Holds callSite) (sound : Sound blueprint memo)
    {key : CacheKey} (asked : callSite.answers? = some key) :
    memo.lookup key = some (some callSite) := by
  obtain ⟨_, known⟩ | ⟨service, value, rfl, _⟩ := held
  · obtain ⟨target, _, assembled, _, recorded⟩ := sound.assembles known
    cases assembled.answers?_eq.symm.trans asked
    exact recorded
  · cases asked

theorem Holds.child (held : memo.Holds callSite) (sound : Sound blueprint memo) :
    ∀ child ∈ callSite.children, memo.Holds child := by
  intro child member
  obtain ⟨_, known⟩ | ⟨service, value, rfl, _⟩ := held
  · obtain ⟨target, _, assembled, _, _⟩ := sound.assembles known
    obtain ⟨asked, recorded⟩ | fallback := assembled.child child member
    · exact .inl ⟨asked.key, recorded⟩
    · exact .inr fallback
  · cases member

/-- What user code takes no part in is not kept. -/
theorem Holds.unkept (held : memo.Holds callSite) (sound : Sound blueprint memo)
    (quiet : callSite.kind.constructs = false) : callSite.site.location = .nowhere := by
  obtain ⟨_, known⟩ | ⟨service, value, rfl, _⟩ := held
  · obtain ⟨target, _, assembled, _, _⟩ := sound.assembles known
    cases assembled with
    | own _ _ | collect _ _ _ | fixed _ _ _ => rfl
    | produced _ _ _ | constructed _ _ _ _ _ | opened _ _ _ _ _ => cases quiet
  · rfl

end Memo

namespace Code

mutual
/-- The code of a graph, every node being compiled anew. -/
def unshared : CallSite → Code
  | .constant _ value => .constant value
  | .fallback _ value => .constant value
  | .factory site body => .factory site body
  | .construct site activate cast parameters =>
    .construct site activate cast (unsharedAll parameters)
  | .collect site items => .collect site (unsharedAll items)
  | .own site service => .own site service
def unsharedAll : List CallSite → List Code
  | [] => []
  | callSite :: rest => unshared callSite :: unsharedAll rest
end

/-- All finished code is the code of the memo's answer to the same request. -/
def Compiled.Agrees (memo : Memo) (finished : Compiled) : Prop :=
  ∀ key code, finished.lookup key = some code →
    ∃ callSite, memo.lookup key = some (some callSite) ∧ code = unshared callSite

variable {blueprint : Blueprint} {memo : Memo}

theorem once_eq (sound : Memo.Sound blueprint memo) {callSite : CallSite}
    (held : memo.Holds callSite) {compile : StateM Compiled Code}
    (compiles : ∀ finished, Compiled.Agrees memo finished →
      ∃ later, compile.run finished = (unshared callSite, later) ∧ Compiled.Agrees memo later)
    (finished : Compiled) (agrees : Compiled.Agrees memo finished) :
    ∃ later, (once callSite.answers? compile).run finished = (unshared callSite, later) ∧
      Compiled.Agrees memo later := by
  unfold once
  cases asked : callSite.answers? with
  | none => exact compiles finished agrees
  | some key =>
    have known := held.answers sound asked
    cases reused : finished.lookup key with
    | some code =>
      obtain ⟨other, answer, rfl⟩ := agrees key code reused
      cases known.symm.trans answer
      refine ⟨finished, ?_, agrees⟩
      simp only [StateT.run_bind, StateT.run_get, pure_bind, reused]
      rfl
    | none =>
      obtain ⟨later, compiled, agreed⟩ := compiles finished agrees
      refine ⟨later.insert key (unshared callSite), ?_, ?_⟩
      · simp only [StateT.run_bind, StateT.run_get, pure_bind, reused, compiled]
        rfl
      · intro other code found
        rw [Table.lookup_insert] at found
        split at found
        · rename_i same
          cases found
          exact ⟨callSite, (memo.lookup_congr same).symm.trans known, rfl⟩
        · exact agreed other code found

mutual
theorem compileNode_eq (sound : Memo.Sound blueprint memo) :
    ∀ callSite, memo.Holds callSite → ∀ finished, Compiled.Agrees memo finished →
      ∃ later, (compileNode callSite).run finished = (unshared callSite, later) ∧
        Compiled.Agrees memo later
  | .constant site value, held, finished, agrees =>
    once_eq sound held (fun finished agrees => ⟨finished, rfl, agrees⟩) finished agrees
  | .fallback site value, _, finished, agrees => ⟨finished, rfl, agrees⟩
  | .factory site body, held, finished, agrees =>
    once_eq sound held (fun finished agrees => ⟨finished, rfl, agrees⟩) finished agrees
  | .own site service, held, finished, agrees =>
    once_eq sound held (fun finished agrees => ⟨finished, rfl, agrees⟩) finished agrees
  | .construct site activate cast parameters, held, finished, agrees => by
    refine once_eq sound held (fun finished agrees => ?_) finished agrees
    obtain ⟨later, compiled, agreed⟩ :=
      compileAll_eq sound parameters (held.child sound) finished agrees
    refine ⟨later, ?_, agreed⟩
    change (match (compileAll parameters).run finished with
      | (codes, later) => (Code.construct site activate cast codes, later)) = _
    rw [compiled]
    rfl
  | .collect site items, held, finished, agrees => by
    refine once_eq sound held (fun finished agrees => ?_) finished agrees
    obtain ⟨later, compiled, agreed⟩ :=
      compileAll_eq sound items (held.child sound) finished agrees
    refine ⟨later, ?_, agreed⟩
    change (match (compileAll items).run finished with
      | (codes, later) => (Code.collect site codes, later)) = _
    rw [compiled]
    rfl
theorem compileAll_eq (sound : Memo.Sound blueprint memo) :
    ∀ callSites, (∀ callSite ∈ callSites, memo.Holds callSite) →
      ∀ finished, Compiled.Agrees memo finished →
        ∃ later, (compileAll callSites).run finished = (unsharedAll callSites, later) ∧
          Compiled.Agrees memo later
  | [], _, finished, agrees => ⟨finished, rfl, agrees⟩
  | callSite :: rest, held, finished, agrees => by
    obtain ⟨between, first, agreed⟩ :=
      compileNode_eq sound callSite (held callSite List.mem_cons_self) finished agrees
    obtain ⟨later, others, agreed⟩ := compileAll_eq sound rest
      (fun other member => held other (List.mem_cons_of_mem _ member)) between agreed
    refine ⟨later, ?_, agreed⟩
    change (match (compileNode callSite).run finished with
      | (code, between) => match (compileAll rest).run between with
        | (codes, later) => (code :: codes, later)) = _
    rw [first]
    dsimp only
    rw [others]
    rfl
end

/-- Sharing does not show in the code. -/
theorem ofCallSite_eq (sound : Memo.Sound blueprint memo) {callSite : CallSite}
    (held : memo.Holds callSite) : ofCallSite callSite = unshared callSite := by
  obtain ⟨later, compiled, _⟩ := compileNode_eq sound callSite held {} (by
    intro key code found
    cases found)
  exact congrArg Prod.fst compiled

end Code

namespace Run
variable {blueprint : Blueprint} {memo : Memo}

theorem deliver_constant (handler : Handler) {site : Site} (unkept : site.location = .nowhere)
    (scope : ScopeId) (value : Value) :
    deliver handler .constant site scope (fun _ => pure { value }) = pure value := by
  have stays (world : World) : world.reserve site scope = world := if_pos unkept
  have forgets (world : World) : world.keep site scope value = world := if_pos unkept
  unfold deliver provide made making
  rw [unkept]
  funext world
  change some (Except.ok value, (world.reserve site scope).keep site scope value) = _
  rw [stays, forgets]
  rfl

mutual
theorem execute_unshared (sound : Memo.Sound blueprint memo) (handler : Handler) :
    ∀ callSite, memo.Holds callSite → ∀ scope,
      execute handler (Code.unshared callSite) scope = interpret handler callSite scope
  | .constant site value, held, scope =>
    (deliver_constant handler (held.unkept sound rfl) scope value).symm
  | .fallback site value, held, scope =>
    (deliver_constant handler (held.unkept sound rfl) scope value).symm
  | .factory site body, _, scope => rfl
  | .own site service, _, scope => rfl
  | .construct site activate cast parameters, held, scope => by
    simp only [Code.unshared, execute, interpret,
      executeAll_unshared sound handler parameters (held.child sound)]
  | .collect site items, held, scope => by
    simp only [Code.unshared, execute, interpret,
      executeAll_unshared sound handler items (held.child sound)]
theorem executeAll_unshared (sound : Memo.Sound blueprint memo) (handler : Handler) :
    ∀ callSites, (∀ callSite ∈ callSites, memo.Holds callSite) → ∀ scope,
      executeAll handler (Code.unsharedAll callSites) scope = interpretAll handler callSites scope
  | [], _, scope => rfl
  | callSite :: rest, held, scope => by
    simp only [Code.unsharedAll, executeAll, interpretAll,
      execute_unshared sound handler callSite (held callSite List.mem_cons_self),
      executeAll_unshared sound handler rest
        (fun other member => held other (List.mem_cons_of_mem _ member))]
end

/-- The code of a held graph does what the graph says. -/
theorem execute_ofCallSite (sound : Memo.Sound blueprint memo) (handler : Handler)
    {callSite : CallSite} (held : memo.Holds callSite) (scope : ScopeId) :
    execute handler (Code.ofCallSite callSite) scope = interpret handler callSite scope := by
  rw [Code.ofCallSite_eq sound held, execute_unshared sound handler callSite held]

end Run
end ServiceContainer
