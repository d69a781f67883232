import Mathlib.Data.List.Basic
import Mathlib.Data.List.Nodup

namespace LibSbml

/-!
# Unique spatial ids — `UniqueSpatialIds::check_`

The constraint walks a model's spatial objects in a fixed order, keeping in `mIdMap` the first
object seen with each id; an object whose id is already a key gets one failure, whose message
names that first object. `reset()` clears the map when the walk ends, so that the same
constraint can run again.

* `UniqueSpatialIds.doCheckId`, `doCheck`, `check_` — the constraint as the source has it;
* `SpatialModel.visited` — the order of the walk, and `doCheck_eq` — a run is a fold of
  `doCheckId` over it, then `reset()`;
* `expectedFailures` — what a run owes: for each visited object whose id an earlier object
  already has, one failure naming the earliest of them;
* `Represents` — the map holds, for each id, the first object seen with it;
  `doCheckId_spec` (one object) and `foldl_doCheckId` (a whole walk);
* `check_logs_duplicates` — one run logs exactly the owed failures and leaves the map empty,
  so every later run logs them again;
* `check_passes_iff` — a run logs nothing exactly when the ids set along its walk are pairwise
  distinct;
* `doCheck_isSome_iff` — a run returns exactly when every coordinate component has both
  boundaries: an unset geometry or mapping is tested, an unset boundary is dereferenced.
-/

/-- Modelled from the spec (§4.1): what the constraint reads of a visited object, its
    `getElementName()`, its `getId()` when `isSetId()`, and its `getLine()` (`0` when
    unknown). -/
structure SBase where
  elementName : String
  id : Option String
  line : Nat
  deriving DecidableEq, Repr

/-- Modelled from the spec (§4.1): a `CoordinateComponent` with its two boundaries, `none` where
    `getBoundaryMax()` or `getBoundaryMin()` returns `NULL`. -/
structure CoordinateComponent where
  self : SBase
  boundaryMax : Option SBase
  boundaryMin : Option SBase
  deriving DecidableEq, Repr

/-- Modelled from the spec (§4.1): a `Geometry` with the child lists `doCheck` visits. -/
structure Geometry where
  self : SBase
  adjacentDomains : List SBase
  coordinateComponents : List CoordinateComponent
  domainTypes : List SBase
  domains : List SBase
  geometryDefinitions : List SBase
  sampledFields : List SBase
  deriving DecidableEq, Repr

/-- A model carrying the spatial plugin, as `doCheck` reads it: the plugin's geometry when set,
    and for each compartment the compartment mapping of its spatial plugin when set. -/
structure SpatialModel where
  geometry : Option Geometry
  compartmentMappings : List (Option SBase)
  deriving DecidableEq, Repr

/-- `mIdMap.insert(make_pair(id, &object))`: the map, and whether the pair went in (it does not
    when `id` is already a key). -/
def idMapInsert (m : List (String × SBase)) (id : String) (object : SBase) :
    List (String × SBase) × Bool :=
  match m.lookup id with
  | some _ => (m, false)
  | none => ((id, object) :: m, true)

/-- A `UniqueSpatialIds` constraint: its scratch map `mIdMap`, and the failures it has logged
    through `logFailure`, each an object with its message. -/
structure UniqueSpatialIds where
  mIdMap : List (String × SBase)
  failures : List (SBase × String)
  deriving DecidableEq, Repr

namespace UniqueSpatialIds

/-- The message of `getMessage` when `id` is not in the map. -/
def internalErrorMessage : String :=
  "Internal (but non-fatal) Validator error in " ++
  "UniqueSpatialIds::getMessage().  The SBML object with duplicate id was " ++
  "not found when it came time to construct a descriptive error message."

/-- The message of `getMessage` for `object`, whose `id` the map gives to `previous`. -/
def conflictMessage (object : SBase) (id : String) (previous : SBase) : String :=
  "  The <" ++ object.elementName ++ "> id '" ++ id ++
    "' conflicts with the previously defined <" ++ previous.elementName ++ "> id '" ++ id ++
    "'" ++ (if previous.line ≠ 0 then " at line " ++ toString previous.line else "") ++ "."

/-- `getMessage(id, object)`. -/
def getMessage (s : UniqueSpatialIds) (id : String) (object : SBase) : String :=
  match s.mIdMap.lookup id with
  | none => internalErrorMessage
  | some previous => conflictMessage object id previous

/-- `logIdConflict(id, object)`: `logFailure(object, getMessage(id, object))`. -/
def logIdConflict (s : UniqueSpatialIds) (id : String) (object : SBase) : UniqueSpatialIds :=
  { s with failures := s.failures ++ [(object, s.getMessage id object)] }

/-- `reset()`: `mIdMap.clear()`. -/
def reset (s : UniqueSpatialIds) : UniqueSpatialIds := { s with mIdMap := [] }

/-- `doCheckId(object)`: a set id is inserted, and a conflict logged when it was a key
    already. -/
def doCheckId (s : UniqueSpatialIds) (object : SBase) : UniqueSpatialIds :=
  match object.id with
  | none => s
  | some id =>
    let (m, inserted) := idMapInsert s.mIdMap id object
    let s := { s with mIdMap := m }
    if inserted = false then s.logIdConflict id object else s

/-- The body of the coordinate-component loop: the component, `*cc->getBoundaryMax()` and
    `*cc->getBoundaryMin()`; `none` where a boundary is unset and the source dereferences
    `NULL`. -/
def doCheckCoordinateComponent (s : UniqueSpatialIds) (cc : CoordinateComponent) :
    Option UniqueSpatialIds := do
  let s := s.doCheckId cc.self
  let boundaryMax ← cc.boundaryMax
  let s := s.doCheckId boundaryMax
  let boundaryMin ← cc.boundaryMin
  pure (s.doCheckId boundaryMin)

/-- The geometry half of `doCheck`: the geometry, then each of its lists in turn. -/
def doCheckGeometry (s : UniqueSpatialIds) (g : Geometry) : Option UniqueSpatialIds := do
  let s := s.doCheckId g.self
  let s := g.adjacentDomains.foldl doCheckId s
  let s ← g.coordinateComponents.foldlM doCheckCoordinateComponent s
  let s := g.domainTypes.foldl doCheckId s
  let s := g.domains.foldl doCheckId s
  let s := g.geometryDefinitions.foldl doCheckId s
  pure (g.sampledFields.foldl doCheckId s)

/-- `doCheck(m)`: the geometry when set, then every compartment mapping that is set, then
    `reset()`. -/
def doCheck (s : UniqueSpatialIds) (m : SpatialModel) : Option UniqueSpatialIds := do
  let s ← match m.geometry with
    | some g => s.doCheckGeometry g
    | none => pure s
  let s := m.compartmentMappings.foldl (fun s c => match c with
    | some mapping => s.doCheckId mapping
    | none => s) s
  pure s.reset

/-- `check_(m, m)`. -/
def check_ (s : UniqueSpatialIds) (m : SpatialModel) : Option UniqueSpatialIds := s.doCheck m

end UniqueSpatialIds

/-! ### The order of the walk -/

/-- The objects a coordinate component adds to the walk; `none` when a boundary is unset. -/
def CoordinateComponent.visited (cc : CoordinateComponent) : Option (List SBase) := do
  pure [cc.self, ← cc.boundaryMax, ← cc.boundaryMin]

/-- The objects a geometry adds to the walk, in `doCheck`'s order. -/
def Geometry.visited (g : Geometry) : Option (List SBase) := do
  let ccs ← g.coordinateComponents.mapM CoordinateComponent.visited
  pure (g.self :: g.adjacentDomains ++ ccs.flatten ++ g.domainTypes ++ g.domains ++
    g.geometryDefinitions ++ g.sampledFields)

/-- The objects `doCheck` visits, in order; `none` when it dereferences an unset boundary. -/
def SpatialModel.visited (m : SpatialModel) : Option (List SBase) := do
  let gs ← match m.geometry with
    | some g => g.visited
    | none => pure []
  pure (gs ++ m.compartmentMappings.filterMap id)

/-- Every coordinate component of the geometry has both boundaries set. -/
def SpatialModel.BoundariesSet (m : SpatialModel) : Prop :=
  ∀ g ∈ m.geometry, ∀ cc ∈ g.coordinateComponents, cc.boundaryMax.isSome ∧ cc.boundaryMin.isSome

namespace UniqueSpatialIds

/-- The loop body over one component is the fold over the objects it adds to the walk. -/
theorem doCheckCoordinateComponent_eq (s : UniqueSpatialIds) (cc : CoordinateComponent) :
    s.doCheckCoordinateComponent cc = cc.visited.map (·.foldl doCheckId s) := by
  rcases cc with ⟨o, _ | bmax, _ | bmin⟩ <;> rfl

/-- The coordinate-component loop is the fold over the objects the components add. -/
theorem foldlM_doCheckCoordinateComponent (s : UniqueSpatialIds) (ccs : List CoordinateComponent) :
    ccs.foldlM doCheckCoordinateComponent s =
      (ccs.mapM CoordinateComponent.visited).map (·.flatten.foldl doCheckId s) := by
  induction ccs generalizing s with
  | nil => rfl
  | cons cc ccs ih =>
    rw [List.foldlM_cons, List.mapM_cons, doCheckCoordinateComponent_eq]
    cases cc.visited with
    | none => rfl
    | some os =>
      simp only [ih]
      cases ccs.mapM CoordinateComponent.visited
      · rfl
      · exact congrArg some (List.foldl_append ..).symm

/-- The geometry half of `doCheck` is the fold over the objects the geometry adds. -/
theorem doCheckGeometry_eq (s : UniqueSpatialIds) (g : Geometry) :
    s.doCheckGeometry g = g.visited.map (·.foldl doCheckId s) := by
  simp only [doCheckGeometry, Geometry.visited, foldlM_doCheckCoordinateComponent]
  cases g.coordinateComponents.mapM CoordinateComponent.visited
  · rfl
  · simp [List.foldl_append]

/-- The compartment loop is the fold over the mappings that are set. -/
theorem foldl_compartmentMappings (s : UniqueSpatialIds) (cs : List (Option SBase)) :
    cs.foldl (fun s c => match c with
      | some mapping => s.doCheckId mapping
      | none => s) s = (cs.filterMap id).foldl doCheckId s := by
  induction cs generalizing s with
  | nil => rfl
  | cons c cs ih => cases c <;> simp [ih]

/-- A run is the fold of `doCheckId` over the walk, then `reset()`; it fails exactly where the
    walk meets an unset boundary. -/
theorem doCheck_eq (s : UniqueSpatialIds) (m : SpatialModel) :
    s.doCheck m = m.visited.map fun os => (os.foldl doCheckId s).reset := by
  rcases m with ⟨_ | g, cs⟩
  · simp [doCheck, SpatialModel.visited, foldl_compartmentMappings]
  · simp only [doCheck, SpatialModel.visited, doCheckGeometry_eq, foldl_compartmentMappings]
    cases g.visited
    · rfl
    · simp [List.foldl_append]

/-! ### What a run owes -/

/-- The failure `o` is owed after the objects `seen`: when its id is set and an object of `seen`
    has the same id, one failure naming the earliest of them. -/
def conflictWith (seen : List SBase) (o : SBase) : Option (SBase × String) :=
  o.id.bind fun id => (seen.find? (·.id = some id)).map fun p => (o, conflictMessage o id p)

/-- The failures a run owes a walk `os`: for each position in turn, the failure its object is
    owed after the objects visited before it. -/
def expectedFailures (os : List SBase) : List (SBase × String) :=
  (List.range os.length).filterMap fun i => os[i]?.bind (conflictWith (os.take i))

/-- Extending the walk by one object extends what is owed by that object's failure. -/
theorem expectedFailures_append_singleton (os : List SBase) (o : SBase) :
    expectedFailures (os ++ [o]) = expectedFailures os ++ (conflictWith os o).toList := by
  simp only [expectedFailures, List.length_append, List.length_singleton, List.range_succ,
    List.filterMap_append]
  congr 1
  · refine List.filterMap_congr fun i hi => ?_
    have hi : i < os.length := List.mem_range.1 hi
    rw [List.getElem?_append_left hi, List.take_append_of_le_length hi.le]
  · simp only [List.filterMap_cons, List.filterMap_nil, List.getElem?_concat_length,
      List.take_left, Option.some_bind]
    cases conflictWith os o <;> rfl

/-- The map holds, for each id, the first object of `seen` with that id. -/
def Represents (m : List (String × SBase)) (seen : List SBase) : Prop :=
  ∀ id, m.lookup id = seen.find? (·.id = some id)

/-- The first object with an id, in a walk extended by one object. -/
theorem find?_append_singleton (seen : List SBase) (o : SBase) (id : String) :
    (seen ++ [o]).find? (·.id = some id) =
      (seen.find? (·.id = some id)).or (if o.id = some id then some o else none) := by
  simp [List.find?_append, List.find?_singleton]

/-- One object: `doCheckId` keeps the map the first-occurrence map of the walk so far, and logs
    exactly the failure the object is owed. -/
theorem doCheckId_spec (s : UniqueSpatialIds) (seen : List SBase) (o : SBase)
    (h : Represents s.mIdMap seen) :
    Represents (s.doCheckId o).mIdMap (seen ++ [o]) ∧
      (s.doCheckId o).failures = s.failures ++ (conflictWith seen o).toList := by
  cases ho : o.id with
  | none =>
    refine ⟨fun id' => ?_, by simp [doCheckId, conflictWith, ho]⟩
    simp [doCheckId, ho, find?_append_singleton, h id']
  | some id =>
    cases hl : s.mIdMap.lookup id with
    | some p =>
      -- a key already: the map stays, and the conflict names the map's object
      have hp : seen.find? (·.id = some id) = some p := (h id).symm.trans hl
      refine ⟨fun id' => ?_, ?_⟩
      · simp only [doCheckId, ho, idMapInsert, hl, if_true, logIdConflict, h id',
          find?_append_singleton]
        by_cases hid : id = id'
        · subst hid; simp [hp]
        · cases seen.find? (·.id = some id') <;> simp [hid]
      · simp [doCheckId, ho, idMapInsert, hl, logIdConflict, getMessage, conflictWith, hp]
    | none =>
      -- a new key: the object goes in, and nothing is logged
      have hn : seen.find? (·.id = some id) = none := (h id).symm.trans hl
      refine ⟨fun id' => ?_, by simp [doCheckId, ho, idMapInsert, hl, conflictWith, hn]⟩
      simp only [doCheckId, ho, idMapInsert, hl, find?_append_singleton, List.lookup_cons]
      by_cases hid : id' = id
      · subst hid; simp [hn]
      · simp [List.lookup_cons, beq_false_of_ne hid, Ne.symm hid, h id']

/-- A whole walk from an empty map: the map ends as the first-occurrence map of the walk, and
    exactly the owed failures are logged, in order. -/
theorem foldl_doCheckId (os : List SBase) (F : List (SBase × String)) :
    Represents (os.foldl doCheckId ⟨[], F⟩).mIdMap os ∧
      (os.foldl doCheckId ⟨[], F⟩).failures = F ++ expectedFailures os := by
  induction os using List.reverseRecOn with
  | nil => exact ⟨fun _ => rfl, by simp [expectedFailures]⟩
  | append_singleton os o ih =>
    obtain ⟨h₁, h₂⟩ := doCheckId_spec _ os o ih.1
    rw [List.foldl_append, List.foldl_cons, List.foldl_nil]
    exact ⟨h₁, by rw [h₂, ih.2, expectedFailures_append_singleton, List.append_assoc]⟩

/-- The conflict message is never the internal-error message: they differ in their first
    character. -/
theorem conflictMessage_ne_internalErrorMessage (object : SBase) (id : String) (previous : SBase) :
    conflictMessage object id previous ≠ internalErrorMessage := fun h => by
  have h₀ := congrArg (fun s => s.data.head?) h
  simp [conflictMessage, internalErrorMessage] at h₀

/-- Every owed failure carries a conflict message. -/
theorem expectedFailures_message (os : List SBase) :
    ∀ f ∈ expectedFailures os, f.2 ≠ internalErrorMessage := by
  intro f hf
  obtain ⟨i, -, hi⟩ := List.mem_filterMap.1 hf
  simp only [Option.bind_eq_some, conflictWith, Option.map_eq_some'] at hi
  obtain ⟨o, -, id, -, p, -, rfl⟩ := hi
  exact conflictMessage_ne_internalErrorMessage o id p

end UniqueSpatialIds

/-! ### Runs -/

/-- A component adds its objects to the walk exactly when both boundaries are set. -/
theorem CoordinateComponent.visited_isSome_iff (cc : CoordinateComponent) :
    cc.visited.isSome ↔ cc.boundaryMax.isSome ∧ cc.boundaryMin.isSome := by
  rcases cc with ⟨o, _ | bmax, _ | bmin⟩ <;> simp [CoordinateComponent.visited]

/-- Components give a walk exactly when all their boundaries are set. -/
theorem mapM_visited_isSome_iff (ccs : List CoordinateComponent) :
    (ccs.mapM CoordinateComponent.visited).isSome ↔
      ∀ cc ∈ ccs, cc.boundaryMax.isSome ∧ cc.boundaryMin.isSome := by
  induction ccs with
  | nil => simp only [List.mapM_nil, List.not_mem_nil, false_implies, implies_true, iff_true]; rfl
  | cons cc ccs ih =>
    rw [List.mapM_cons, List.forall_mem_cons, ← ih, ← cc.visited_isSome_iff]
    cases cc.visited <;> cases ccs.mapM CoordinateComponent.visited <;> simp

/-- `doCheck`'s walk exists exactly when every coordinate component has both boundaries: a
    missing geometry or compartment mapping is skipped, a missing boundary is not. -/
theorem SpatialModel.visited_isSome_iff (m : SpatialModel) :
    m.visited.isSome ↔ m.BoundariesSet := by
  rcases m with ⟨_ | g, cs⟩
  · simp [SpatialModel.visited, SpatialModel.BoundariesSet]
  · simp only [SpatialModel.visited, Geometry.visited, SpatialModel.BoundariesSet,
      Option.mem_def, Option.some.injEq, forall_eq', ← mapM_visited_isSome_iff]
    cases g.coordinateComponents.mapM CoordinateComponent.visited <;> simp

/-- With every boundary set, `doCheck` never dereferences `NULL`: the walk exists. -/
theorem SpatialModel.visited_isSome (m : SpatialModel) (h : m.BoundariesSet) :
    m.visited.isSome :=
  (m.visited_isSome_iff).2 h

namespace UniqueSpatialIds

/-- One run from an empty map logs exactly the failures the walk owes, none of them with the
    internal-error message, and leaves the map empty; so from a fresh constraint the `k`-th of
    any number of runs on the same model logs the same failures again. -/
theorem check_logs_duplicates (m : SpatialModel) (h : m.BoundariesSet) :
    ∃ os, m.visited = some os ∧
      (∀ F, check_ ⟨[], F⟩ m = some ⟨[], F ++ expectedFailures os⟩) ∧
      (∀ f ∈ expectedFailures os, f.2 ≠ internalErrorMessage) ∧
      ∀ k, (fun r => r.bind (check_ · m))^[k] (some ⟨[], []⟩) =
        some ⟨[], (List.replicate k (expectedFailures os)).flatten⟩ := by
  obtain ⟨os, hos⟩ := Option.isSome_iff_exists.1 (m.visited_isSome h)
  have hrun : ∀ F, check_ ⟨[], F⟩ m = some ⟨[], F ++ expectedFailures os⟩ := fun F => by
    rw [check_, doCheck_eq, hos, Option.map_some', reset, (foldl_doCheckId os F).2]
  refine ⟨os, hos, hrun, expectedFailures_message os, fun k => ?_⟩
  induction k with
  | zero => rfl
  | succ k ih => simp [Function.iterate_succ_apply', ih, hrun, List.replicate_succ']

/-- A geometry `g` whose domain is also named `g`, with one coordinate component and its two
    boundaries, and two compartments of which one has a mapping. -/
def sampleModel : SpatialModel where
  geometry := some
    { self := ⟨"geometry", some "g", 3⟩
      adjacentDomains := []
      coordinateComponents := [⟨⟨"coordinateComponent", some "x", 0⟩,
        some ⟨"boundaryMax", some "xmax", 0⟩, some ⟨"boundaryMin", some "xmin", 0⟩⟩]
      domainTypes := []
      domains := [⟨"domain", some "g", 0⟩]
      geometryDefinitions := []
      sampledFields := [] }
  compartmentMappings := [some ⟨"compartmentMapping", some "cm", 0⟩, none]

/-- The runs on `sampleModel`. -/
theorem check_logs_duplicates_sampleModel :
    sampleModel.BoundariesSet ∧ ∃ os, sampleModel.visited = some os ∧
      (∀ F, check_ ⟨[], F⟩ sampleModel = some ⟨[], F ++ expectedFailures os⟩) ∧
      (∀ f ∈ expectedFailures os, f.2 ≠ internalErrorMessage) ∧
      ∀ k, (fun r => r.bind (check_ · sampleModel))^[k] (some ⟨[], []⟩) =
        some ⟨[], (List.replicate k (expectedFailures os)).flatten⟩ :=
  have h : sampleModel.BoundariesSet := by simp [SpatialModel.BoundariesSet, sampleModel]
  ⟨h, check_logs_duplicates sampleModel h⟩

example : check_ ⟨[], []⟩ sampleModel = some ⟨[], [(⟨"domain", some "g", 0⟩,
    "  The <domain> id 'g' conflicts with the previously defined <geometry> id 'g' at line 3.")]⟩ := by
  decide

/-! ### When a run logs nothing -/

/-- No failure is owed for `o` exactly when its id, if set, is no earlier object's. -/
theorem conflictWith_eq_none_iff (seen : List SBase) (o : SBase) :
    conflictWith seen o = none ↔ ∀ id ∈ o.id, id ∉ seen.filterMap (·.id) := by
  cases ho : o.id with
  | none => simp [conflictWith, ho]
  | some id => simp [conflictWith, ho, List.find?_eq_none, List.mem_filterMap]

/-- A walk owes nothing exactly when the ids set along it are pairwise distinct. -/
theorem expectedFailures_eq_nil_iff (os : List SBase) :
    expectedFailures os = [] ↔ (os.filterMap (·.id)).Nodup := by
  induction os using List.reverseRecOn with
  | nil => simp [expectedFailures]
  | append_singleton os o ih =>
    have hc : (conflictWith os o).toList = [] ↔ conflictWith os o = none := by
      cases conflictWith os o <;> simp
    rw [expectedFailures_append_singleton, List.append_eq_nil, ih, List.filterMap_append,
      List.nodup_append, hc, conflictWith_eq_none_iff]
    -- an object without an id adds no constraint; one with an id must not repeat an earlier one
    rcases o with ⟨name, _ | id, line⟩ <;> simp [List.Disjoint]
    aesop

/-- **A run logs nothing exactly when the ids are distinct.** With every boundary set, a run from
    an empty map, whatever it had logged before, logs no failure exactly when no two objects of
    its walk (the geometry and its lists, then the compartment mappings) share a set id. -/
theorem check_passes_iff (m : SpatialModel) (h : m.BoundariesSet) :
    ∃ os, m.visited = some os ∧
      ∀ F, check_ ⟨[], F⟩ m = some ⟨[], F⟩ ↔ (os.filterMap (·.id)).Nodup := by
  obtain ⟨os, hos⟩ := Option.isSome_iff_exists.1 (m.visited_isSome h)
  refine ⟨os, hos, fun F => ?_⟩
  rw [check_, doCheck_eq, hos, Option.map_some', reset, (foldl_doCheckId os F).2,
    ← expectedFailures_eq_nil_iff]
  simp

/-- `check_passes_iff` on `sampleModel`, whose geometry and domain share the id `g`. -/
theorem check_passes_iff_sampleModel :
    sampleModel.BoundariesSet ∧ ∃ os, sampleModel.visited = some os ∧
      ∀ F, check_ ⟨[], F⟩ sampleModel = some ⟨[], F⟩ ↔ (os.filterMap (·.id)).Nodup :=
  have h : sampleModel.BoundariesSet := by simp [SpatialModel.BoundariesSet, sampleModel]
  ⟨h, check_passes_iff sampleModel h⟩

/-! ### Unset children -/

/-- A run dereferences `NULL` exactly when some coordinate component lacks a boundary; an unset
    geometry or compartment mapping is tested before use. -/
theorem doCheck_isSome_iff (s : UniqueSpatialIds) (m : SpatialModel) :
    (s.doCheck m).isSome ↔ m.BoundariesSet := by
  rw [doCheck_eq, Option.isSome_map', SpatialModel.visited_isSome_iff]

/-- `sampleModel` with the coordinate component's `boundaryMax` unset, as a best-effort parse
    of an invalid document can leave it. -/
def missingBoundaryModel : SpatialModel where
  geometry := some
    { self := ⟨"geometry", some "g", 3⟩
      adjacentDomains := []
      coordinateComponents := [⟨⟨"coordinateComponent", some "x", 0⟩,
        none, some ⟨"boundaryMin", some "xmin", 0⟩⟩]
      domainTypes := []
      domains := [⟨"domain", some "g", 0⟩]
      geometryDefinitions := []
      sampledFields := [] }
  compartmentMappings := [some ⟨"compartmentMapping", some "cm", 0⟩, none]

/-- On `missingBoundaryModel` the run dereferences the unset `getBoundaryMax()` instead of
    skipping it. -/
theorem check_dereferences_missing_boundary :
    check_ ⟨[], []⟩ missingBoundaryModel = none := by
  decide

end UniqueSpatialIds

end LibSbml
