import ShopManager.Library.Cache
import ShopManager.Library.Execution
import ShopManager.Library.Table

/-!
# The row cache of a model

A manager with a cache reads rows by key from it, and drops a key from it when its row is saved,
deleted or named by a queryset update.
-/

namespace ShopManager.OrmCache

open Library Library.Execution Library.Cache

/-! ## Tables -/

/-- The rows of a model, no two with one key. -/
structure Store (ρ : Type) [Row ρ] where
  rows : List ρ
  nodup : (rows.map Row.pk).Nodup

abbrev Lookup (ρ : Type) := List ρ → ρ → Bool

variable {ρ : Type} [Row ρ]

namespace Store

def get? (store : Store ρ) (pk : Nat) : Option ρ := store.rows.find? fun row => Row.pk row = pk

theorem eq_of_pk {store : Store ρ} {a b : ρ} (ha : a ∈ store.rows) (hb : b ∈ store.rows)
    (h : Row.pk a = Row.pk b) : a = b :=
  List.inj_on_of_nodup_map store.nodup ha hb h

theorem get?_eq_some {store : Store ρ} {pk : Nat} {row : ρ} :
    store.get? pk = some row ↔ row ∈ store.rows ∧ Row.pk row = pk := by
  constructor
  · intro h
    exact ⟨List.mem_of_find?_eq_some h, by simpa using List.find?_some h⟩
  · rintro ⟨hmem, rfl⟩
    obtain ⟨other, hother⟩ : ∃ other, store.get? (Row.pk row) = some other := by
      refine Option.isSome_iff_exists.mp (List.find?_isSome.mpr ⟨row, hmem, ?_⟩)
      exact decide_eq_true rfl
    have hpk : Row.pk other = Row.pk row := by simpa using List.find?_some hother
    rw [hother, eq_of_pk (List.mem_of_find?_eq_some hother) hmem hpk]

/-- A row is updated, or inserted if there is none with its key. -/
def save (store : Store ρ) (row : ρ) : Store ρ where
  rows := row :: store.rows.filter fun other => Row.pk other ≠ Row.pk row
  nodup := by
    rw [List.map_cons, List.nodup_cons]
    refine ⟨?_, store.nodup.sublist (List.filter_sublist.map _)⟩
    rintro hmem
    obtain ⟨other, hother, hpk⟩ := List.mem_map.mp hmem
    exact of_decide_eq_true (List.mem_filter.mp hother).2 hpk

def delete (store : Store ρ) (lookup : Lookup ρ) : Store ρ where
  rows := store.rows.filter fun row => !lookup store.rows row
  nodup := store.nodup.sublist (List.filter_sublist.map _)

def updated (store : Store ρ) (lookup : Lookup ρ) (values : ρ → ρ) : List ρ :=
  store.rows.map fun row => if lookup store.rows row then values row else row

def update (store : Store ρ) (lookup : Lookup ρ) (values : ρ → ρ) : Option (Store ρ) :=
  if h : ((store.updated lookup values).map Row.pk).Nodup then some ⟨_, h⟩ else none

end Store

/-- The keyword arguments of `get`: the spellings of the key, and the conditions on others. -/
structure Kwargs (ρ : Type) where
  pk : Option Nat
  pkExact : Option Nat
  id : Option Nat
  idExact : Option Nat
  others : List (Lookup ρ)

namespace Kwargs

def none : Kwargs ρ where
  pk := .none
  pkExact := .none
  id := .none
  idExact := .none
  others := []

def isEmpty (kwargs : Kwargs ρ) : Bool :=
  kwargs.pk.isNone && kwargs.pkExact.isNone && kwargs.id.isNone && kwargs.idExact.isNone &&
    kwargs.others.isEmpty

def meets (kwargs : Kwargs ρ) (rows : List ρ) (row : ρ) : Bool :=
  kwargs.pk.all (· == Row.pk row) && kwargs.pkExact.all (· == Row.pk row) &&
    kwargs.id.all (· == Row.pk row) && kwargs.idExact.all (· == Row.pk row) &&
    kwargs.others.all fun lookup => lookup rows row

def key (kwargs : Kwargs ρ) : Option Nat :=
  kwargs.pk.or (kwargs.pkExact.or (kwargs.id.or kwargs.idExact))

end Kwargs

/-- A condition of a queryset.  `exact` compares a plain column with a value; the column may be
of a joined table, and `attname` is its name there. -/
inductive Child (ρ : Type) where
  | exact (attname : String) (rhs : Nat) (lookup : Lookup ρ)
  | other (lookup : Lookup ρ)

def Child.lookup : Child ρ → Lookup ρ
  | .exact _ _ lookup => lookup
  | .other lookup => lookup

/-- `pk=value` on the model itself. -/
def Child.pk (value : Nat) : Child ρ := .exact "id" value fun _ row => Row.pk row = value

/-- A queryset: the children of its `where`, which is not negated itself, and whether columns
are deferred. -/
structure Query (ρ : Type) where
  children : List (Child ρ)
  deferred : Bool

def Query.all : Query ρ where
  children := []
  deferred := false

/-- A `get` on a queryset, with positional and keyword arguments. -/
structure Get (ρ : Type) where
  query : Query ρ
  args : List (Lookup ρ)
  kwargs : Kwargs ρ

def Get.byPk (pk : Nat) : Get ρ where
  query := .all
  args := []
  kwargs := { Kwargs.none with pk := some pk }

def Get.meets (get : Get ρ) (rows : List ρ) (row : ρ) : Bool :=
  get.query.children.all (fun child => child.lookup rows row) &&
    get.args.all (fun lookup => lookup rows row) && get.kwargs.meets rows row

inductive Fault where
  | doesNotExist | multipleObjectsReturned
  deriving DecidableEq, Repr

/-- `get` of a plain queryset. -/
def Get.plain (get : Get ρ) (store : Store ρ) : Except Fault ρ :=
  match store.rows.filter (get.meets store.rows) with
  | [] => .error .doesNotExist
  | [row] => .ok row
  | _ => .error .multipleObjectsReturned

structure Cached (ρ : Type) [Row ρ] where
  store : Store ρ
  cache : Nat → Option ρ

/-- `kwargs[child.lhs.target.attname] = child.rhs`; other names are not looked for. -/
def Kwargs.put (kwargs : Kwargs ρ) (attname : String) (rhs : Nat) : Kwargs ρ :=
  if attname = "id" then { kwargs with id := some rhs } else kwargs

/-- The key to ask the cache for, if it is asked at all. -/
def Get.key (get : Get ρ) : Option Nat :=
  if get.query.deferred then none
  else
    match get.query.children with
    | [] => get.kwargs.key
    | [.exact attname rhs _] =>
        if get.kwargs.isEmpty then (get.kwargs.put attname rhs).key else none
    | _ => none

/-- `CachedQuerySet.get`. -/
def Get.run (get : Get ρ) (s : Cached ρ) : Except Fault ρ × Cached ρ :=
  match get.key with
  | none => (get.plain s.store, s)
  | some pk =>
      match s.cache pk with
      | some item => (.ok item, s)
      | none =>
          match get.plain s.store with
          | .error e => (.error e, s)
          | .ok item => (.ok item, { s with cache := remember s.cache pk item })

/-- The cached rows of `from_ids` by their own keys. -/
def cachedDict (s : Cached ρ) (ids : List Nat) : Nat → Option ρ :=
  (ids.filterMap s.cache).foldl (fun dict item => remember dict (Row.pk item) item) fun _ => none

def uncached (s : Cached ρ) (ids : List Nat) : List ρ :=
  s.store.rows.filter fun row =>
    decide (Row.pk row ∈ ids) && (cachedDict s ids (Row.pk row)).isNone

def fromIds (ids : List Nat) (s : Cached ρ) : List ρ × Cached ρ :=
  let rows := uncached s ids
  let dict := rows.foldl (fun dict item => remember dict (Row.pk item) item) (cachedDict s ids)
  (ids.filterMap dict,
    { s with cache := rows.foldl (fun cache item => remember cache (Row.pk item) item) s.cache })

/-- `from_ids` of a manager whose cache is off. -/
def plainFromIds (ids : List Nat) (store : Store ρ) : List ρ :=
  store.rows.filter fun row => Row.pk row ∈ ids

/-- `post_save` drops the key of the row. -/
def save (row : ρ) (s : Cached ρ) : Cached ρ where
  store := s.store.save row
  cache := forget s.cache [Row.pk row]

/-- `post_delete` is sent for every deleted row. -/
def delete (lookup : Lookup ρ) (s : Cached ρ) : Cached ρ where
  store := s.store.delete lookup
  cache := forget s.cache ((s.store.rows.filter (lookup s.store.rows)).map Row.pk)

/-- `CachedQuerySet.update`: `lookup_ids` is a query that runs when it is iterated over, after
the update. -/
def update (lookup : Lookup ρ) (values : ρ → ρ) (s : Cached ρ) : Cached ρ :=
  match s.store.update lookup values with
  | none => s
  | some store =>
      { store := store
        cache := forget s.cache ((store.rows.filter (lookup store.rows)).map Row.pk) }

inductive CacheOp (ρ : Type) where
  | save (row : ρ)
  | delete (lookup : Lookup ρ)
  | update (lookup : Lookup ρ) (values : ρ → ρ)
  | get (call : Get ρ)
  | fromIds (ids : List Nat)

def CacheOp.exec : CacheOp ρ → Cached ρ → Cached ρ
  | .save row, s => OrmCache.save row s
  | .delete lookup, s => OrmCache.delete lookup s
  | .update lookup values, s => OrmCache.update lookup values s
  | .get call, s => (call.run s).2
  | .fromIds ids, s => (OrmCache.fromIds ids s).2

def Cached.start (store : Store ρ) : Cached ρ := { store := store, cache := fun _ => none }

end ShopManager.OrmCache
