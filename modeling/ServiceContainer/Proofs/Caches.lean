import ServiceContainer.Proofs.Step

/-! Cache entries, and what each operation on a world does to them. Main statement: an entry changes
only when a construction for it begins or succeeds, or its owner is disposed. -/
namespace ServiceContainer
namespace World
variable {world : World} {site : Site} {owner : ScopeId} {cell other : Frame}

theorem cached_congr (same : (cell == other) = true) : world.cached cell = world.cached other := by
  obtain ⟨engines, keys, owners⟩ := Frame.beq_iff.1 same
  rw [World.cached, World.cached, engines, owners, Table.lookup_congr _ keys]

theorem cached_updateScope (world : World) (scope : ScopeId) {change : Scope → Scope}
    (kept : ∀ found, (change found).engine = found.engine ∧ (change found).cache = found.cache) :
    (world.updateScope scope change).cached cell = world.cached cell := by
  have engine : ((world.updateScope scope change).scope cell.owner).engine =
      (world.scope cell.owner).engine :=
    world.read_updateScope Scope.engine fun found => (kept found).1
  have cache : ((world.updateScope scope change).scope cell.owner).cache =
      (world.scope cell.owner).cache :=
    world.read_updateScope Scope.cache fun found => (kept found).2
  rw [World.cached, World.cached, engine, cache]

theorem cached_store_of_ne (hosted : world.Hosts owner (world.scope owner).engine)
    {change : Scope → Scope} (engine : ∀ found, (change found).engine = found.engine)
    (others : ∀ found key, (site.key == key) = false →
      (change found).cache.lookup key = found.cache.lookup key)
    (apart : (world.frame site owner == cell) = false) :
    (world.updateScope owner change).cached cell = world.cached cell := by
  unfold World.cached
  by_cases here : cell.owner = owner
  · rw [here, scope_updateScope_self change hosted, engine]
    by_cases mine : (world.scope owner).engine = cell.engine
    · have keys : (site.key == cell.key) = false := by
        rw [Bool.eq_false_iff] at apart ⊢
        exact fun same => apart (Frame.beq_iff.2 ⟨mine, same, here.symm⟩)
      rw [if_pos mine, if_pos mine, others _ _ keys]
    · rw [if_neg mine, if_neg mine]
  · rw [scope_updateScope_of_ne world change here]

theorem cached_store_self (hosted : world.Hosts owner (world.scope owner).engine)
    {change : Scope → Scope} (engine : ∀ found, (change found).engine = found.engine) :
    (world.updateScope owner change).cached (world.frame site owner) =
      (change (world.scope owner)).cache.lookup site.key := by
  have self := scope_updateScope_self change hosted
  rw [World.cached, World.frame, self, engine, if_pos rfl]

theorem cached_reserve_of_ne (hosted : world.Hosts owner (world.scope owner).engine)
    (apart : (world.frame site owner == cell) = false) :
    (world.reserve site owner).cached cell = world.cached cell := by
  rw [reserve]
  split
  · rfl
  · refine cached_store_of_ne hosted (fun found => ?_) (fun found key other => ?_) apart
    · split <;> rfl
    · split
      · rfl
      · exact (Table.lookup_insert ..).trans (by simp [other])

theorem cached_keep_of_ne (hosted : world.Hosts owner (world.scope owner).engine)
    (apart : (world.frame site owner == cell) = false) (value : Value) :
    (world.keep site owner value).cached cell = world.cached cell := by
  rw [keep]
  split
  · rfl
  · refine cached_store_of_ne hosted (fun found => ?_) (fun found key other => ?_) apart
    · split <;> rfl
    · split
      · exact (Table.lookup_insert ..).trans (by simp [other])
      · rfl

theorem cached_reserve (hosted : world.Hosts owner (world.scope owner).engine)
    (kept : site.location ≠ .nowhere) :
    (world.reserve site owner).cached (world.frame site owner) =
      some ((world.cached (world.frame site owner)).getD none) := by
  rw [reserve, if_neg kept, cached_frame, cached_store_self hosted]
  · cases known : (world.scope owner).cache.lookup site.key with
    | some held => simp [Table.contains, known]
    | none =>
      simp only [Table.contains, known, Option.isSome_none, Bool.false_eq_true, if_false,
        Option.getD_none]
      exact (Table.lookup_insert ..).trans (if_pos BEq.rfl)
  · intro found
    split <;> rfl

theorem cached_keep (hosted : world.Hosts owner (world.scope owner).engine)
    (kept : site.location ≠ .nowhere) (value : Value) :
    (world.keep site owner value).cached (world.frame site owner) =
      (world.cached (world.frame site owner)).map fun _ => some value := by
  rw [keep, if_neg kept, cached_frame, cached_store_self hosted]
  · cases known : (world.scope owner).cache.lookup site.key with
    | some held =>
      simp only [Table.contains, known, Option.isSome_some, if_true, Option.map_some]
      exact (Table.lookup_insert ..).trans (if_pos BEq.rfl)
    | none => simp [Table.contains, known]
  · intro found
    split <;> rfl

theorem cached_begin (hosted : world.Hosts owner (world.scope owner).engine)
    (kept : site.location ≠ .nowhere) :
    (world.begin site owner).cached (world.frame site owner) =
      some ((world.cached (world.frame site owner)).getD none) := by
  have inside : (world.enter (world.scope owner).engine site owner).Hosts owner
    (world.scope owner).engine := hosted
  exact cached_reserve inside kept

theorem cached_begin_of_ne (hosted : world.Hosts owner (world.scope owner).engine)
    (apart : (world.frame site owner == cell) = false) :
    (world.begin site owner).cached cell = world.cached cell := by
  have inside : (world.enter (world.scope owner).engine site owner).Hosts owner
    (world.scope owner).engine := hosted
  exact cached_reserve_of_ne inside apart

theorem cached_finish (hosted : world.Hosts owner (world.scope owner).engine)
    (kept : site.location ≠ .nowhere) (value : Value) :
    (world.finish site owner value).cached (world.frame site owner) =
      (world.cached (world.frame site owner)).map fun _ => some value := by
  have inside : (world.record (.completed (world.scope owner).engine site.key owner value)).Hosts
    owner (world.scope owner).engine := hosted
  exact cached_keep inside kept value

theorem cached_finish_of_ne (hosted : world.Hosts owner (world.scope owner).engine)
    (apart : (world.frame site owner == cell) = false) (value : Value) :
    (world.finish site owner value).cached cell = world.cached cell := by
  have inside : (world.record (.completed (world.scope owner).engine site.key owner value)).Hosts
    owner (world.scope owner).engine := hosted
  exact cached_keep_of_ne inside apart value

theorem cached_addScope (world : World) (engine : EngineId) (root : Option ScopeId) :
    (world.addScope engine root).2.cached cell = world.cached cell := by
  have scope : (world.addScope engine root).2.scope cell.owner = world.scope cell.owner ∨
      (world.scope cell.owner).cache = {} ∧
        ((world.addScope engine root).2.scope cell.owner).cache = {} := by
    simp only [World.scope, addScope, List.getD, List.getElem?_append]
    by_cases inside : cell.owner < world.scopes.length
    · simp [inside]
    · refine .inr ⟨by simp [List.getElem?_eq_none (Nat.not_lt.1 inside)], ?_⟩
      rw [if_neg inside]
      cases cell.owner - world.scopes.length <;> simp
  obtain same | ⟨none, empty⟩ := scope
  · rw [World.cached, World.cached, same]
  · rw [World.cached, World.cached, none, empty]
    simp

theorem cached_close {scope : ScopeId} {engine : EngineId} (hosted : world.Hosts scope engine) :
    (world.close scope).cached cell = if cell.owner = scope then none else world.cached cell := by
  change (world.updateScope scope _).cached cell = _
  unfold World.cached
  by_cases here : cell.owner = scope
  · rw [here, scope_updateScope_self _ hosted, if_pos rfl]
    simp
  · rw [scope_updateScope_of_ne world _ here, if_neg here]

end World
end ServiceContainer
