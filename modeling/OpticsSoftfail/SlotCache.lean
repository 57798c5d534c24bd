import Mathlib.Data.List.Basic

namespace OpticsSoftfail

/-!
# A cache with one slot

A loader is wrapped by a slot that keeps the item loaded last.  A request that
does not ask for a reload is answered from the slot, whatever key it names.
The slot goes unnoticed when every such request names a key that loads the same
item as the key before it.  A load that fails leaves the slot as it is.
-/

namespace SlotCache

variable {Key Item Failure : Type}

/-- A request to the cache. -/
structure Request (Key : Type) where
  key : Key
  reload : Bool
  deriving Repr, DecidableEq

section Serve

variable (load : Key → Except Failure Item)

/-- What a load leaves in the slot. -/
def keep (slot : Option Item) : Except Failure Item → Option Item
  | .ok item => some item
  | .error _ => slot

/-- The slot after one request, and the answer. -/
def serve
    (slot : Option Item)
    (request : Request Key) : Option Item × Except Failure Item :=
  match slot, request.reload with
  | some item, false => (slot, .ok item)
  | _, _ => (keep slot (load request.key), load request.key)

/-- The answers to a history of requests. -/
def answers :
    Option Item → List (Request Key) → List (Except Failure Item)
  | _, [] => []
  | slot, request :: later =>
      (serve load slot request).2 ::
        answers (serve load slot request).1 later

/-- The answers of the loader itself. -/
def direct (requests : List (Request Key)) :
    List (Except Failure Item) :=
  requests.map fun request => load request.key

/-- The item of the last key that can be loaded, or of the slot. -/
def lastLoaded
    (slot : Option Item)
    (requests : List (Request Key)) : Option Item :=
  requests.foldl (fun kept request => keep kept (load request.key)) slot

/-- A request without reload names the item that was loaded last. -/
def Renews (slot : Option Item) (request : Request Key) : Prop :=
  request.reload = false →
    ∀ item, slot = some item → load request.key = .ok item

variable {load}

/-- The answer is that of the loader exactly for these requests. -/
theorem serve_snd_iff {slot : Option Item} {request : Request Key} :
    (serve load slot request).2 = load request.key ↔
      Renews load slot request := by
  rcases request with ⟨key, reload⟩
  cases reload with
  | true =>
      cases slot <;> simp [serve, Renews]
  | false =>
      cases slot with
      | none =>
          simp [serve, Renews]
      | some item =>
          simp [serve, Renews, eq_comm]

/-- They leave in the slot what the loader returns. -/
theorem serve_fst_of_renews
    {slot : Option Item}
    {request : Request Key}
    (renews : Renews load slot request) :
    (serve load slot request).1 = keep slot (load request.key) := by
  rcases request with ⟨key, reload⟩
  cases reload with
  | true =>
      cases slot <;> rfl
  | false =>
      cases slot with
      | none =>
          rfl
      | some item =>
          rw [renews rfl item rfl]
          rfl

/-- From any slot, the cache is transparent exactly for such histories. -/
theorem answers_eq_direct_iff
    {slot : Option Item}
    {requests : List (Request Key)} :
    answers load slot requests = direct load requests ↔
      ∀ earlier request later,
        requests = earlier ++ request :: later →
          Renews load (lastLoaded load slot earlier) request := by
  induction requests generalizing slot with
  | nil =>
      simp [answers, direct]
  | cons first rest inductionHypothesis =>
      have split :
          (∀ earlier request later,
            first :: rest = earlier ++ request :: later →
              Renews load (lastLoaded load slot earlier) request) ↔
            Renews load slot first ∧
              ∀ earlier request later,
                rest = earlier ++ request :: later →
                  Renews load
                    (lastLoaded load (keep slot (load first.key)) earlier)
                    request := by
        constructor
        · intro renews
          refine ⟨renews [] first rest rfl, ?_⟩
          rintro earlier request later rfl
          exact renews (first :: earlier) request later rfl
        · rintro ⟨renewsFirst, renewsLater⟩ earlier request later shape
          rcases List.cons_eq_append_iff.mp shape with
            ⟨rfl, isFirst⟩ | ⟨others, rfl, isRest⟩
          · rw [(List.cons.inj isFirst).1]
            exact renewsFirst
          · exact renewsLater others request later isRest
      rw [split, answers, direct, List.map_cons, List.cons.injEq,
        serve_snd_iff]
      refine and_congr_right fun renews => ?_
      rw [serve_fst_of_renews renews]
      exact inductionHypothesis

/-- Without reloads a filled slot answers everything. -/
theorem answers_of_forall_not_reload
    {item : Item}
    {requests : List (Request Key)}
    (kept : ∀ request ∈ requests, request.reload = false) :
    answers load (some item) requests =
      requests.map fun _ => Except.ok item := by
  induction requests with
  | nil =>
      rfl
  | cons request later inductionHypothesis =>
      obtain ⟨first, others⟩ := List.forall_mem_cons.mp kept
      rcases request with ⟨key, reload⟩
      subst first
      rw [answers, List.map_cons]
      exact congrArg _ (inductionHypothesis others)

end Serve

end SlotCache

end OpticsSoftfail
