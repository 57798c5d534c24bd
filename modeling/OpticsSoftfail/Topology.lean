import OpticsSoftfail.Dict

namespace OpticsSoftfail

/-!
# The topology mapping

`configs/topology.yaml` is read by the healer and by the path manager, each in
its own way.  This module holds only what the file can say: any number of
paths, whose `links`, `role` and `capacity` entries may each be missing, and an
optional protection map from a link to the path that protects it.
-/

/-- One entry below `paths`; a missing key is `none`. -/
structure PathSpec where
  links : Option (List String)
  role : Option String
  capacity : Option Int
  deriving Repr, DecidableEq

/-- The whole mapping; a missing (or empty) section is `none`. -/
structure Topology where
  paths : Option (Dict String PathSpec)
  protection : Option (Dict String String)
  deriving Repr, DecidableEq

namespace Topology

/-- `topology.get("paths") or {}`. -/
def pathSpecs (topology : Topology) : Dict String PathSpec :=
  topology.paths.getD Dict.empty

/-- `topology.get("protection") or {}`. -/
def protectionMap (topology : Topology) : Dict String String :=
  topology.protection.getD Dict.empty

/-- The capacity `TopologyState.__init__` gives a path, if the path exists. -/
def capacity? (topology : Topology) (path : String) : Option Int :=
  (topology.pathSpecs.get? path).map fun spec => spec.capacity.getD 1

/-- No path is configured with a negative capacity. -/
def NonnegativeCapacities (topology : Topology) : Prop :=
  ∀ path capacity,
    topology.capacity? path = some capacity → 0 ≤ capacity

/-- The topology committed as `configs/topology.yaml`. -/
def config : Topology where
  paths := some {
    entries := [
      ("P_work_L1", ⟨some ["L1"], some "working", some 1⟩),
      ("P_prot_L2", ⟨some ["L2"], some "protection", some 1⟩),
      ("P_work_L3", ⟨some ["L3"], some "working", some 1⟩)]
    keysNodup := by decide }
  protection := some {
    entries := [("L1", "P_prot_L2"), ("L3", "P_prot_L2")]
    keysNodup := by decide }

theorem config_nonnegativeCapacities :
    config.NonnegativeCapacities := by
  intro path capacity found
  obtain ⟨spec, lookup, rfl⟩ := Option.map_eq_some_iff.mp found
  have member := Dict.get?_eq_some_iff.mp lookup
  simp only [config, pathSpecs, Option.getD_some, List.mem_cons,
    Prod.mk.injEq, List.not_mem_nil, or_false] at member
  rcases member with ⟨_, rfl⟩ | ⟨_, rfl⟩ | ⟨_, rfl⟩ <;> decide

end Topology

end OpticsSoftfail
