import Mathlib.Data.List.Chain

/-!
# Trails

Something that went down from one holder to the next remembers those it came through,
the first of them first.  To go back is to take the last of them off.
-/

namespace ShopManager.Library

variable {α : Type} {up : α → α → Prop}

/-- From `first` the thing came to the holder through the trail, each time to one that
stands directly below. -/
inductive Trail (up : α → α → Prop) (first : α) : List α → α → Prop
  | start : Trail up first [] first
  | down {trail : List α} {holder lower : α} (h : Trail up first trail holder)
      (hup : up lower holder) : Trail up first (trail ++ [holder]) lower

end ShopManager.Library
