import Mathlib.Data.List.Forall2
import Mathlib.Data.List.Perm.Basic

namespace OpticsSoftfail

/-!
# Partial functions on lists

`mapM` of a function that may have no result: it has one when every element
does, and its elements are those results.  Nothing below mentions the optical
services.
-/

variable {Item Image : Type} {image? : Item → Option Image}
variable {items : List Item} {images : List Image}

theorem forall₂_of_mapM_eq_some
    (mapped : items.mapM image? = some images) :
    List.Forall₂ (fun item image => image? item = some image) items images := by
  induction items generalizing images with
  | nil =>
      rw [List.mapM_nil] at mapped
      obtain rfl := Option.some.inj mapped
      exact List.Forall₂.nil
  | cons item rest inductionHypothesis =>
      rw [List.mapM_cons] at mapped
      obtain ⟨image, isImage, mappedRest⟩ :=
        Option.bind_eq_some_iff.mp mapped
      obtain ⟨others, areImages, isCons⟩ :=
        Option.bind_eq_some_iff.mp mappedRest
      obtain rfl := Option.some.inj isCons
      exact List.Forall₂.cons isImage (inductionHypothesis areImages)

theorem mapM_eq_some_of_forall₂
    (related :
      List.Forall₂ (fun item image => image? item = some image) items images) :
    items.mapM image? = some images := by
  induction related with
  | nil =>
      rfl
  | cons isImage _ inductionHypothesis =>
      rw [List.mapM_cons, isImage, inductionHypothesis]
      rfl

theorem exists_mapM_eq_some
    (each : ∀ item ∈ items, ∃ image, image? item = some image) :
    ∃ images, items.mapM image? = some images := by
  induction items with
  | nil =>
      exact ⟨[], rfl⟩
  | cons item rest inductionHypothesis =>
      obtain ⟨first, others⟩ := List.forall_mem_cons.mp each
      obtain ⟨image, isImage⟩ := first
      obtain ⟨images, areImages⟩ := inductionHypothesis others
      exact ⟨image :: images, mapM_eq_some_of_forall₂
        (List.Forall₂.cons isImage (forall₂_of_mapM_eq_some areImages))⟩

/-- What every image says about its item, read off the whole list. -/
theorem map_eq_of_mapM_eq_some
    {Fact : Type}
    {ofItem : Item → Fact}
    {ofImage : Image → Fact}
    (same : ∀ item image, image? item = some image →
      ofImage image = ofItem item)
    (mapped : items.mapM image? = some images) :
    images.map ofImage = items.map ofItem := by
  have related := (forall₂_of_mapM_eq_some mapped).imp same
  rw [← List.forall₂_eq_eq_eq, List.forall₂_map_left_iff,
    List.forall₂_map_right_iff]
  exact related.flip.imp fun _ _ isSame => isSame

theorem exists_of_mem_of_mapM_eq_some
    (mapped : items.mapM image? = some images)
    {image : Image}
    (member : image ∈ images) :
    ∃ item ∈ items, image? item = some image := by
  have same : images.map some = items.map image? :=
    map_eq_of_mapM_eq_some (fun _ _ isImage => isImage.symm) mapped
  have isImage : some image ∈ items.map image? :=
    same ▸ List.mem_map_of_mem member
  exact List.mem_map.mp isImage

/-- The image at a position is that of the item there. -/
theorem getElem?_of_mapM_eq_some
    (mapped : items.mapM image? = some images)
    (position : Nat) :
    images[position]? = items[position]?.bind image? := by
  have related := forall₂_of_mapM_eq_some mapped
  clear mapped
  induction related generalizing position with
  | nil =>
      rfl
  | cons isImage _ inductionHypothesis =>
      cases position with
      | zero =>
          simp [isImage]
      | succ position =>
          simpa using inductionHypothesis position

/-- What is extracted from the images is extracted from the items. -/
theorem filterMap_eq_of_mapM_eq_some
    {Piece : Type}
    (extract : Image → Option Piece)
    (mapped : items.mapM image? = some images) :
    images.filterMap extract =
      items.filterMap fun item => (image? item).bind extract := by
  have related := forall₂_of_mapM_eq_some mapped
  clear mapped
  induction related with
  | nil =>
      rfl
  | cons isImage _ inductionHypothesis =>
      rw [List.filterMap_cons, List.filterMap_cons, isImage,
        inductionHypothesis]
      rfl

/-- The first items have the first images. -/
theorem take_of_mapM_eq_some
    (mapped : items.mapM image? = some images)
    (count : Nat) :
    (items.take count).mapM image? = some (images.take count) :=
  mapM_eq_some_of_forall₂
    (List.forall₂_take count (forall₂_of_mapM_eq_some mapped))

/-- What is among the results comes from as many items. -/
theorem exists_subperm_of_subperm_filterMap
    (among : images.Subperm (items.filterMap image?)) :
    ∃ chosen,
      chosen.Subperm items ∧
        List.Forall₂ (fun image item => image? item = some image) images
          chosen := by
  obtain ⟨ordered, perm, inOrder⟩ := among
  obtain ⟨front, isFront, rfl⟩ := List.sublist_filterMap_iff.mp inOrder
  have related :
      List.Forall₂ (fun image item => image? item = some image)
        (front.filterMap image?)
        (front.filter fun item => (image? item).isSome) := by
    clear perm isFront inOrder
    induction front with
    | nil =>
        exact List.Forall₂.nil
    | cons item rest inductionHypothesis =>
        cases isImage : image? item with
        | none =>
            simpa [isImage] using inductionHypothesis
        | some image =>
            simpa [isImage] using inductionHypothesis
  obtain ⟨chosen, isRelated, chosenPerm⟩ :=
    List.perm_comp_forall₂ perm.symm related
  refine ⟨chosen, ?_, isRelated⟩
  exact chosenPerm.subperm.trans
    (List.filter_sublist.trans isFront).subperm

/-- Items that are charged to the images at their places are not more. -/
theorem countP_le_of_forall₂
    {charged : Item → Bool}
    {pays : Image → Bool}
    (related :
      List.Forall₂ (fun item image => charged item = true → pays image = true)
        items images) :
    items.countP charged ≤ images.countP pays := by
  induction related with
  | nil =>
      exact Nat.le_refl 0
  | @cons item image rest others pair _ inductionHypothesis =>
      rw [List.countP_cons, List.countP_cons]
      by_cases isCharged : charged item = true
      · rw [if_pos isCharged, if_pos (pair isCharged)]
        exact Nat.succ_le_succ inductionHypothesis
      · rw [if_neg isCharged]
        exact Nat.le_add_right_of_le inductionHypothesis

end OpticsSoftfail
