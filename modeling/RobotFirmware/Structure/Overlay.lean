import Mathlib.Data.List.Basic

/-!
# Overlays

A partial function laid over a function hides it where it is defined. Overlays laid one on the
other show at each place what the last one defined there says. So overlays that share no place may
be laid in any order, and laying one twice shows nothing new.
-/

namespace Overlay

variable {ι α : Type}

/-- A partial function laid over a function. -/
def lay (below : ι → α) (overlay : ι → Option α) : ι → α :=
  fun place => (overlay place).getD (below place)

/-- Overlays that share no place. -/
def Apart (first second : ι → Option α) : Prop :=
  ∀ place, first place = none ∨ second place = none

/-- An overlay shows where it is defined. -/
theorem lay_some {below : ι → α} {overlay : ι → Option α} {place : ι} {value : α}
    (defined : overlay place = some value) : lay below overlay place = value := by
  rw [lay, defined]
  rfl

/-- What lies below shows elsewhere. -/
theorem lay_none {below : ι → α} {overlay : ι → Option α} {place : ι}
    (undefined : overlay place = none) : lay below overlay place = below place := by
  rw [lay, undefined]
  rfl

/-- Overlays that share no place may be laid in either order. -/
theorem lay_comm {first second : ι → Option α} (apart : Apart first second) (below : ι → α) :
    lay (lay below first) second = lay (lay below second) first := by
  funext place
  obtain undefined | undefined := apart place
  · rw [lay_none undefined, lay, lay_none undefined, lay]
  · rw [lay_none undefined, lay, lay, lay_none undefined]

/-- An overlay laid twice is laid once. -/
theorem lay_lay (below : ι → α) (overlay : ι → Option α) :
    lay (lay below overlay) overlay = lay below overlay := by
  funext place
  cases shows : overlay place with
  | some value => rw [lay_some shows, lay_some shows]
  | none => rw [lay_none shows]

/-- Of overlays laid in order, the last one that is defined at a place shows there. -/
theorem foldl_lay (below : ι → α) (overlays : List (ι → Option α)) (place : ι) :
    overlays.foldl lay below place =
      (overlays.reverse.findSome? fun overlay => overlay place).getD (below place) := by
  induction overlays generalizing below with
  | nil => rfl
  | cons overlay overlays ih =>
    rw [List.foldl_cons, ih, List.reverse_cons, List.findSome?_append]
    cases overlays.reverse.findSome? fun overlay => overlay place with
    | some value => rfl
    | none => cases shows : overlay place <;> simp [lay, shows]

/-- Overlays of which no two share a place may be laid in any order. -/
theorem foldl_lay_perm {overlays order : List (ι → Option α)} (apart : overlays.Pairwise Apart)
    (same : overlays.Perm order) (below : ι → α) :
    overlays.foldl lay below = order.foldl lay below := by
  have commutes : overlays.Pairwise fun first second => ∀ below : ι → α,
      lay (lay below first) second = lay (lay below second) first :=
    apart.imp fun apart below => lay_comm apart below
  have all := List.Pairwise.forall_of_forall_of_flip (fun _ _ _ => rfl) commutes
    (commutes.imp fun comm below => (comm below).symm)
  exact same.foldl_eq' (fun first member second member' below => all member member' below) below

end Overlay
