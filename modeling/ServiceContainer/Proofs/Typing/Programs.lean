import ServiceContainer.Proofs.Typing.Values

/-! Typed user code. A program is typed if it goes on well with every reply that its requests may be
expected to get, and ends with a good result. Main statements: typed requests of services make typed
programs; a constructor body that takes its arguments in the declared order never lacks one, and never
gets one of a wrong type. -/
namespace ServiceContainer

def Honestly (good : α → Prop) : Except Failure α → Prop
  | .ok value => good value
  | .error failure => failure.Honest

theorem Honestly.mono {good other : α → Prop} {result : Except Failure α}
    (holds : Honestly good result) (weaker : ∀ value, good value → other value) :
    Honestly other result := by
  cases result with
  | ok value => exact weaker value holds
  | error failure => exact holds

/-- Which providers there are, what activators resolve, and what instance factories make, as far as
this is known. -/
structure Known where
  provides : EngineId → Prop := fun _ => False
  activates : Activator → ServiceType → Prop := fun _ _ => False
  makes : FactoryId → TypeInfo → Prop := fun _ _ => False

structure Known.Within (known more : Known) : Prop where
  provides : ∀ engine, known.provides engine → more.provides engine
  activates : ∀ activator service, known.activates activator service →
    more.activates activator service
  makes : ∀ factory type, known.makes factory type → more.makes factory type

namespace Known

instance : LE Known := ⟨Known.Within⟩

theorem le_refl (known : Known) : known ≤ known :=
  ⟨fun _ knows => knows, fun _ _ knows => knows, fun _ _ knows => knows⟩

theorem le_trans {known more most : Known} (first : known ≤ more) (second : more ≤ most) :
    known ≤ most :=
  ⟨fun engine knows => second.provides engine (first.provides engine knows),
    fun activator service knows => second.activates _ _ (first.activates activator service knows),
    fun factory type knows => second.makes _ _ (first.makes factory type knows)⟩

def learn (known : Known) : (request : Request) → request.Reply → Known
  | .inspect _, some view =>
    { known with provides := fun engine => known.provides engine ∨ engine = view.engine }
  | .activator _ service, .ok (some made) =>
    { known with activates := fun activator other =>
        known.activates activator other ∨ activator = made ∧ other = service }
  | .prepare _ implementation _, .ok made =>
    { known with makes := fun factory type =>
        known.makes factory type ∨ factory = made ∧ type = implementation }
  | _, _ => known

theorem le_learn (known : Known) (request : Request) (reply : request.Reply) :
    known ≤ known.learn request reply := by
  unfold learn
  split
  · exact ⟨fun _ => .inl, fun _ _ knows => knows, fun _ _ knows => knows⟩
  · exact ⟨fun _ knows => knows, fun _ _ => .inl, fun _ _ knows => knows⟩
  · exact ⟨fun _ knows => knows, fun _ _ knows => knows, fun _ _ => .inl⟩
  · exact le_refl known

theorem learn_mono {known more : Known} (grown : known ≤ more) (request : Request)
    (reply : request.Reply) : known.learn request reply ≤ more.learn request reply := by
  unfold learn
  split
  · exact ⟨fun _ => Or.imp_left (grown.provides _), grown.activates, grown.makes⟩
  · exact ⟨grown.provides, fun _ _ => Or.imp_left (grown.activates _ _), grown.makes⟩
  · exact ⟨grown.provides, grown.activates, fun _ _ => Or.imp_left (grown.makes _ _)⟩
  · exact grown

end Known

variable [Interfaces]

namespace Request

/-- Only known providers are asked for activators and instance factories, and the arguments that a
caller supplies are what they are supplied as. -/
def Proper (known : Known) : Request → Prop
  | .activator engine _ => known.provides engine
  | .prepare engine _ _ => known.provides engine
  | .create _ _ arguments => ∀ argument ∈ arguments, argument.value.Fits argument.service
  | _ => True

theorem Proper.mono {known more : Known} {request : Request} (proper : request.Proper known)
    (grown : known ≤ more) : request.Proper more := by
  cases request with
  | activator engine service => exact grown.provides engine proper
  | prepare engine implementation supplied => exact grown.provides engine proper
  | _ => exact proper

def Expects (known : Known) : (request : Request) → request.Reply → Prop
  | .resolve _ service, reply => Honestly (fun found => ∀ value ∈ found, value.Fits service) reply
  | .dispose _ _, reply => Honestly (fun _ => True) reply
  | .activator _ _, reply => Honestly (fun _ => True) reply
  | .activate used _, reply => Honestly (fun value =>
      ∀ service, known.activates used service → value.Fits service) reply
  | .prepare _ _ _, reply => Honestly (fun _ => True) reply
  | .create factory _ _, reply => Honestly (fun value =>
      ∀ type, known.makes factory type → value.typeId = some type.id) reply
  | _, _ => True

theorem Expects.anti {known more : Known} (grown : known ≤ more) {request : Request}
    {reply : request.Reply} (expected : request.Expects more reply) :
    request.Expects known reply := by
  cases request with
  | activate activator scope =>
    exact expected.mono fun value fits service knows => fits service (grown.activates _ _ knows)
  | create factory scope arguments =>
    exact expected.mono fun value fits type knows => fits type (grown.makes _ _ knows)
  | _ => exact expected

end Request

def Lasting (good : Known → α → Prop) : Prop :=
  ∀ ⦃known more⦄ ⦃value : α⦄, known ≤ more → good known value → good more value

omit [Interfaces] in
theorem lasting_true : Lasting fun (_ : Known) (_ : α) => True := fun _ _ _ _ _ => trivial

omit [Interfaces] in
theorem Lasting.honestly {good : Known → α → Prop} (lasting : Lasting good) :
    Lasting fun known => Honestly (good known) :=
  fun _ _ _ grown holds => holds.mono fun _ fine => lasting grown fine

/-- The requests are proper, and as long as the replies are what is expected, the result is good. -/
inductive Program.Typed {α : Type} (good : Known → α → Prop) : Known → Program α → Prop where
  | done {known : Known} {result : α} (fine : good known result) : Typed good known (.done result)
  | ask {known : Known} {request : Request} {next : request.Reply → Program α}
      (proper : request.Proper known)
      (rest : ∀ reply, request.Expects known reply →
        Typed good (known.learn request reply) (next reply)) :
      Typed good known (.ask request next)

namespace Program.Typed
variable {known more : Known} {good : Known → α → Prop} {program : Program α}

theorem mono (typed : program.Typed good known) (lasting : Lasting good) (grown : known ≤ more) :
    program.Typed good more := by
  induction typed generalizing more with
  | done fine => exact .done (lasting grown fine)
  | @ask known request next proper rest ih =>
    refine .ask (proper.mono grown) fun reply expected => ?_
    exact ih reply (expected.anti grown) (Known.learn_mono grown request reply)

theorem bind {β : Type} {next : α → Program β} {other : Known → β → Prop}
    (typed : program.Typed good known)
    (rest : ∀ more value, known ≤ more → good more value → (next value).Typed other more) :
    (program >>= next).Typed other known := by
  change (program.bind next).Typed other known
  induction typed with
  | done fine => exact rest _ _ (Known.le_refl _) fine
  | @ask known request tail proper after ih =>
    refine .ask proper fun reply expected => ih reply expected fun more value grown => ?_
    exact rest more value (Known.le_trans (known.le_learn request reply) grown)

theorem weaken {other : Known → α → Prop} (typed : program.Typed good known)
    (weaker : ∀ known value, good known value → other known value) : program.Typed other known := by
  induction typed with
  | done fine => exact .done (weaker _ _ fine)
  | ask proper _ ih => exact .ask proper ih

end Program.Typed

namespace Asking
variable {known : Known} {good : Known → α → Prop}

def Typed (good : Known → α → Prop) (known : Known) (asking : Asking α) : Prop :=
  asking.run.Typed (fun known => Honestly (good known)) known

theorem pure_typed {value : α} (fine : good known value) :
    Asking.Typed good known (pure value) := .done fine

theorem bind_typed {β : Type} {asking : Asking α} {next : α → Asking β} {other : Known → β → Prop}
    (typed : Asking.Typed good known asking)
    (rest : ∀ more value, known ≤ more → good more value → Asking.Typed other more (next value)) :
    Asking.Typed other known (asking >>= next) := by
  refine Program.Typed.bind typed fun more result grown holds => ?_
  cases result with
  | ok value => exact rest more value grown holds
  | error failure => exact .done holds

theorem lift_typed {result : Except Failure α} (holds : Honestly (good known) result) :
    Asking.Typed good known (Resolver.lift result) := .done holds

theorem ask_typed {request : Request} {reply : request.Reply → Except Failure α}
    (proper : request.Proper known) (holds : ∀ answer, request.Expects known answer →
      Honestly (good (known.learn request answer)) (reply answer)) :
    Asking.Typed good known (Resolver.ask request reply) :=
  .ask proper fun answer expected => .done (holds answer expected)

end Asking

namespace Failure
omit [Interfaces]

theorem honest_of_flatten {failure : Failure} (simple : failure.flatten = [failure])
    (typed : ∀ type, failure ≠ .typeMismatch type)
    (declared : ∀ implementation message, failure ≠ .activation implementation message) :
    failure.Honest := by
  intro cause member
  rw [simple] at member
  rw [List.mem_singleton.1 member]
  exact ⟨typed, fun implementation position => declared _ _⟩

theorem honest_notFound (service : String) : (Failure.notFound service).Honest :=
  honest_of_flatten rfl (by simp) (by simp)

theorem honest_scopeDisposed : Failure.scopeDisposed.Honest :=
  honest_of_flatten rfl (by simp) (by simp)

/-- The message begins otherwise than that of an argument that was not declared. -/
theorem honest_activation {service message : String} (first : Char)
    (begins : message.toList.head? = some first) (other : first ≠ 'a') :
    (Failure.activation service message).Honest := by
  intro cause member
  obtain rfl : cause = .activation service message := List.mem_singleton.1 member
  refine ⟨by simp, ?_⟩
  rintro _ position ⟨⟩
  rw [String.toList_append, String.toList_append] at begins
  exact other (Option.some.inj begins).symm

end Failure

section Requests
open Resolver Script
variable {known : Known} (scope : ScopeId)

theorem resolveAny_typed (service : ServiceType) :
    Asking.Typed (fun _ found => ∀ value ∈ found, value.Fits service) known
      (resolveAny scope service) :=
  .ask trivial fun _ expected => .done expected

theorem required_typed {service : ServiceType} {name : String} {asking : Asking (Option Value)}
    (typed : Asking.Typed (fun _ found => ∀ value ∈ found, value.Fits service) known asking) :
    Asking.Typed (fun _ value => value.Fits service) known
      (asking >>= fun found => lift (required name found)) := by
  refine Asking.bind_typed typed fun more found _ fits => Asking.lift_typed ?_
  cases found with
  | none => exact Failure.honest_notFound name
  | some value => exact fits value rfl

theorem checked_typed {service : ServiceType} {check : Value → Except Failure Value}
    (accepts : ∀ value : Value, value.Fits service → check value = .ok value) :
    Asking.Typed (fun _ found => ∀ value ∈ found, value.Fits service) known (do
      match ← resolveAny scope service with
      | some value => some <$> lift (check value)
      | none => pure none) := by
  refine Asking.bind_typed (resolveAny_typed scope service) fun more found _ fits => ?_
  cases found with
  | none => exact Asking.pure_typed (by simp)
  | some value =>
    dsimp only
    rw [accepts value (fits value rfl)]
    exact Asking.pure_typed fits

theorem tryGet_typed {type : TypeInfo} (concrete : Interfaces.includes type.id = false) :
    Asking.Typed (fun _ found => ∀ value ∈ found, value.Fits (.plain type)) known
      (tryGet scope type) :=
  checked_typed scope fun _ fits => Value.as_of_isA concrete fits

theorem tryGetInterface_typed {type : TypeInfo} (interface : Interfaces.includes type.id = true) :
    Asking.Typed (fun _ found => ∀ value ∈ found, value.Fits (.plain type)) known
      (tryGetInterface scope type) :=
  checked_typed scope fun _ fits => Value.asInterface_of_isA interface fits

theorem getEach_typed (list : TypeInfo) {service : ServiceType}
    {check : Value → Except Failure Value}
    (accepts : ∀ value : Value, value.Fits service → check value = .ok value) :
    Asking.Typed (fun _ values => ∀ value ∈ values, value.Fits service) known
      (getEach scope list service check) := by
  refine Asking.bind_typed (resolveAny_typed scope _) fun more found _ fits => ?_
  cases found with
  | none => exact Asking.pure_typed (by simp)
  | some value =>
    obtain ⟨items, rfl, members⟩ := fits value rfl
    refine Asking.lift_typed ?_
    have each := Wanted.mapM_eq_ok fun item member => accepts item (members item member)
    change Honestly _ (items.mapM check)
    rw [each]
    exact members

/-- Whatever a script asks for in the way that fits, it gets, or fails honestly. -/
theorem get_typed {wanted : Wanted} (suits : wanted.Suits) :
    Asking.Typed (fun _ found => ∀ value ∈ found, value.Fits wanted.service) known
      (wanted.get scope) := by
  have single : ∀ {service : ServiceType} {asking : Asking Value},
      Asking.Typed (fun _ value => value.Fits service) known asking →
      Asking.Typed (fun _ found => ∀ value ∈ found, value.Fits service) known (some <$> asking) := by
    intro service asking typed
    rw [← bind_pure_comp]
    refine Asking.bind_typed typed fun more value _ fits => Asking.pure_typed ?_
    simpa using fits
  have several : ∀ {service : ServiceType} {asking : Asking (List Value)},
      Asking.Typed (fun _ values => ∀ value ∈ values, value.Fits service) known asking →
      Asking.Typed (fun _ (found : Option Value) => ∀ value ∈ found, value.Fits (.collection service))
        known (asking >>= fun values => pure (some (Value.list values))) := by
    intro service asking typed
    refine Asking.bind_typed typed fun more values _ fits => Asking.pure_typed ?_
    rintro value ⟨⟩
    exact ⟨values, rfl, fits⟩
  cases wanted with
  | concrete made => exact single (required_typed (tryGet_typed scope suits))
  | named type => exact single (required_typed (tryGet_typed scope suits))
  | interface type => exact single (required_typed (tryGetInterface_typed scope suits))
  | generic closed definition arguments =>
    refine single (Asking.bind_typed (resolveAny_typed scope _) fun more found _ fits => ?_)
    cases found with
    | none => exact .done (Failure.honest_notFound closed.name)
    | some value =>
      have isA : value.IsA closed.id := fits value rfl
      dsimp only
      rw [Value.as_of_isA suits isA]
      exact .done isA
  | all list element =>
    cases element with
    | concrete made =>
      exact several (getEach_typed scope list fun _ fits => Value.as_of_isA suits fits)
    | interface type =>
      exact several (getEach_typed scope list fun _ fits => Value.asInterface_of_isA suits fits)
    | _ => exact resolveAny_typed scope _

theorem optional_typed {wanted : Wanted} (suits : wanted.Suits) :
    Asking.Typed (fun _ found => ∀ value ∈ found, value.Fits wanted.service) known
      (wanted.tryGet scope) := by
  cases wanted with
  | concrete made => exact tryGet_typed scope suits
  | named type => exact tryGet_typed scope suits
  | interface type => exact tryGetInterface_typed scope suits
  | generic _ _ _ | all _ _ => exact resolveAny_typed scope _

theorem inspect_typed :
    Asking.Typed (fun known view => known.provides view.engine) known (inspect scope) :=
  Asking.ask_typed trivial fun found _ => by
    cases found with
    | none => exact Failure.honest_scopeDisposed
    | some view => exact .inr rfl

theorem activator_typed (service : ServiceType) :
    Asking.Typed (fun known found => ∀ activator ∈ found, known.activates activator service) known
      (Resolver.activator scope service) := by
  refine Asking.bind_typed (inspect_typed scope) fun more view _ provides => ?_
  refine .ask provides fun found expected => .done ?_
  cases found with
  | error failure => exact expected
  | ok found =>
    rintro activator ⟨⟩
    exact .inr ⟨rfl, rfl⟩

theorem activate_typed {activator : Activator} {service : ServiceType}
    (knows : known.activates activator service) :
    Asking.Typed (fun _ value => value.Fits service) known (Resolver.activate activator scope) :=
  .ask trivial fun _ expected => .done (expected.mono fun _ fits => fits service knows)

theorem prepare_typed (implementation : TypeInfo) (supplied : List ServiceType) :
    Asking.Typed (fun known factory => known.makes factory implementation) known
      (Resolver.prepare scope implementation supplied) := by
  refine Asking.bind_typed (inspect_typed scope) fun more view _ provides => ?_
  refine .ask provides fun found expected => .done ?_
  cases found with
  | error failure => exact expected
  | ok factory => exact .inr ⟨rfl, rfl⟩

theorem create_typed {factory : FactoryId} {type : TypeInfo} {arguments : List Argument}
    (fits : ∀ argument ∈ arguments, argument.value.Fits argument.service)
    (knows : known.makes factory type) :
    Asking.Typed (fun _ value => value.typeId = some type.id) known
      (Resolver.create factory scope arguments) :=
  .ask fits fun _ expected => .done (expected.mono fun _ made => made type knows)

theorem createInstance_typed {type : TypeInfo} {arguments : List Argument}
    (fits : ∀ argument ∈ arguments, argument.value.Fits argument.service) :
    Asking.Typed (fun _ value => value.typeId = some type.id) known
      (Resolver.createInstance scope type arguments) :=
  Asking.bind_typed (prepare_typed scope type _) fun _ _ _ knows => create_typed scope fits knows

end Requests
end ServiceContainer
