import ShopManager.Library.Execution
import ShopManager.Library.Table

/-!
# Commission schemes

Each process keeps the schemes in use for good, once it has read them.  It reads them from a
cache that all processes share, or from the table where the cache has none.
-/

namespace ShopManager.Mama.Rebeta

open Library Library.Execution

inductive SchemeStatus where
  | normal | cancel
  deriving DecidableEq, Repr

structure AgencyOrderRebetaScheme (ρ : Type) where
  id : Nat
  rebetas : ρ
  isDefault : Bool
  status : SchemeStatus
  deriving DecidableEq, Repr

variable {ρ : Type}

instance : Row (AgencyOrderRebetaScheme ρ) where
  pk := AgencyOrderRebetaScheme.id
  withPk n scheme := { scheme with id := n }

/-- The values of a dictionary from ids to schemes. -/
abbrev SchemeMaps (ρ : Type) := List (AgencyOrderRebetaScheme ρ)

structure DictOrder (ρ : Type) where
  values : SchemeMaps ρ → SchemeMaps ρ
  values_perm : ∀ maps, (values maps).Perm maps

/-- The table, the shared cache and the `_agency_rebeta_schemes_` of each process. -/
structure RebetaDb (ρ : Type) where
  schemes : Table (AgencyOrderRebetaScheme ρ)
  cache : Option (SchemeMaps ρ)
  memos : Nat → Option (SchemeMaps ρ)

namespace RebetaDb

def start (schemes : Table (AgencyOrderRebetaScheme ρ)) : RebetaDb ρ :=
  ⟨schemes, none, fun _ => none⟩

def normal (s : RebetaDb ρ) : SchemeMaps ρ :=
  s.schemes.filter fun scheme => scheme.status = .normal

def cached (s : RebetaDb ρ) : SchemeMaps ρ :=
  match s.cache with
  | some (scheme :: maps) => scheme :: maps
  | _ => s.normal

def getActiveSchemeKeymap (s : RebetaDb ρ) (process : Nat) : SchemeMaps ρ :=
  (s.memos process).getD s.cached

def remembered (s : RebetaDb ρ) (process : Nat) : RebetaDb ρ :=
  match s.memos process with
  | some _ => s
  | none =>
      { s with
        cache := some s.cached
        memos := Function.update s.memos process (some s.cached) }

end RebetaDb

def getDefaultScheme (order : DictOrder ρ) (maps : SchemeMaps ρ) :
    Option (AgencyOrderRebetaScheme ρ) :=
  (order.values maps).find? AgencyOrderRebetaScheme.isDefault

def getRebetaScheme (order : DictOrder ρ) (s : RebetaDb ρ) (process schemeId : Nat) :
    Option (AgencyOrderRebetaScheme ρ) :=
  let maps := s.getActiveSchemeKeymap process
  (maps.find? fun scheme => scheme.id = schemeId).or (getDefaultScheme order maps)

/-! ## Runs -/

/-- Each save drops the shared entry, which also may run out of time. -/
inductive RebetaOp (ρ : Type) where
  | create (scheme : AgencyOrderRebetaScheme ρ)
  | save (scheme : AgencyOrderRebetaScheme ρ)
  | expire
  | lookup (process schemeId : Nat)

def RebetaOp.exec : RebetaOp ρ → RebetaDb ρ → RebetaDb ρ
  | create scheme, s => { s with
      schemes := s.schemes.insert scheme
      cache := none }
  | save scheme, s => { s with
      schemes := s.schemes.save scheme
      cache := none }
  | expire, s => { s with cache := none }
  | lookup process _, s => s.remembered process

def Stored (s : RebetaDb ρ) (schemeId : Nat) : Option (AgencyOrderRebetaScheme ρ) → Prop
  | some scheme => scheme ∈ s.normal ∧ (scheme.id = schemeId ∨
      (scheme.isDefault = true ∧ ∀ other ∈ s.normal, other.id ≠ schemeId))
  | none => ∀ scheme ∈ s.normal, scheme.id ≠ schemeId ∧ scheme.isDefault = false

def TakesEffect (order : DictOrder ρ) (s : RebetaDb ρ) : RebetaOp ρ → Prop
  | .lookup process schemeId => Stored s schemeId (getRebetaScheme order s process schemeId)
  | _ => True

/-- What a process remembers still agrees with the table on the scheme it looks up and,
where that is not in use, on the default schemes. -/
def Fits [DecidableEq ρ] (s : RebetaDb ρ) : RebetaOp ρ → Prop
  | .lookup process schemeId => ∀ maps ∈ s.memos process,
      (maps.find? fun scheme => scheme.id = schemeId) =
          s.normal.find? (fun scheme => scheme.id = schemeId) ∧
        ((s.normal.find? fun scheme => scheme.id = schemeId) = none →
          maps.filter AgencyOrderRebetaScheme.isDefault =
            s.normal.filter AgencyOrderRebetaScheme.isDefault)
  | _ => True

def Coherent (s : RebetaDb ρ) : Prop := ∀ maps, s.cache = some maps → maps = s.normal

theorem Coherent.cached {s : RebetaDb ρ} (h : Coherent s) : s.cached = s.normal := by
  unfold RebetaDb.cached
  split
  · rename_i scheme maps hcache
    exact h _ hcache
  · rfl

theorem coherent_exec {s : RebetaDb ρ} (h : Coherent s) (op : RebetaOp ρ) :
    Coherent (op.exec s) := by
  cases op with
  | create scheme => simp [RebetaOp.exec, Coherent]
  | save scheme => simp [RebetaOp.exec, Coherent]
  | expire => simp [RebetaOp.exec, Coherent]
  | lookup process schemeId =>
    change Coherent (s.remembered process)
    unfold RebetaDb.remembered
    split
    · exact h
    · intro maps hmaps
      obtain rfl : s.cached = maps := Option.some.inj hmaps
      exact h.cached

theorem stored_of_agree {s : RebetaDb ρ} (order : DictOrder ρ) {maps : SchemeMaps ρ}
    {schemeId : Nat}
    (hfind : (maps.find? fun scheme => scheme.id = schemeId) =
      s.normal.find? fun scheme => scheme.id = schemeId)
    (hdefault : (s.normal.find? fun scheme => scheme.id = schemeId) = none →
      maps.filter AgencyOrderRebetaScheme.isDefault =
        s.normal.filter AgencyOrderRebetaScheme.isDefault) :
    Stored s schemeId
      ((maps.find? fun scheme => scheme.id = schemeId).or (getDefaultScheme order maps)) := by
  rw [hfind]
  cases hscheme : s.normal.find? fun scheme => scheme.id = schemeId with
  | some scheme =>
    have hid := List.find?_some hscheme
    exact ⟨List.mem_of_find?_eq_some hscheme, Or.inl (of_decide_eq_true hid)⟩
  | none =>
    have hsame := hdefault hscheme
    have hother : ∀ other ∈ s.normal, other.id ≠ schemeId := by
      simpa using hscheme
    have hmem : ∀ scheme, scheme ∈ order.values maps ↔ scheme ∈ maps :=
      fun scheme => (order.values_perm maps).mem_iff
    rw [Option.none_or]
    cases hfirst : getDefaultScheme order maps with
    | some scheme =>
      have hdef : scheme.isDefault = true := List.find?_some hfirst
      have hmaps := (hmem scheme).1 (List.mem_of_find?_eq_some hfirst)
      have hin := List.mem_filter.2 ⟨hmaps, hdef⟩
      rw [hsame] at hin
      exact ⟨(List.mem_filter.1 hin).1, Or.inr ⟨hdef, hother⟩⟩
    | none =>
      intro scheme hscheme
      refine ⟨hother scheme hscheme, ?_⟩
      by_contra hdef
      rw [Bool.not_eq_false] at hdef
      have hin := List.mem_filter.2 ⟨hscheme, hdef⟩
      rw [← hsame] at hin
      have hnone := List.find?_eq_none.1 hfirst scheme
        ((hmem scheme).2 (List.mem_filter.1 hin).1)
      exact hnone hdef

variable [DecidableEq ρ]

theorem takesEffect_of_fits (order : DictOrder ρ) {s : RebetaDb ρ} (hs : Coherent s)
    (op : RebetaOp ρ) (h : Fits s op) : TakesEffect order s op := by
  cases op with
  | create scheme => trivial
  | save scheme => trivial
  | expire => trivial
  | lookup process schemeId =>
    apply stored_of_agree
    all_goals unfold RebetaDb.getActiveSchemeKeymap
    all_goals cases hmemo : s.memos process
    · rw [Option.getD_none, hs.cached]
    · exact (h _ hmemo).1
    · rw [Option.getD_none, hs.cached]
      exact fun _ => rfl
    · exact (h _ hmemo).2

instance (s : RebetaDb ρ) (op : RebetaOp ρ) : Decidable (Fits s op) := by
  cases op <;> unfold Fits <;> infer_instance

def dictOrder : DictOrder Nat := ⟨id, fun _ => List.Perm.refl _⟩

def sampleSchemes : Table (AgencyOrderRebetaScheme Nat) :=
  (Table.empty.insert ⟨1, 10, false, .normal⟩).insert ⟨2, 5, true, .normal⟩

end ShopManager.Mama.Rebeta
