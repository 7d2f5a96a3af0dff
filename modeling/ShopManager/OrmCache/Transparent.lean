import ShopManager.OrmCache.Model

/-!
# When the row cache is transparent

A read may be answered by the row that is cached under a key, whatever else it asks for, and an
update drops the keys of the rows that meet its filter after it.
-/

namespace ShopManager.OrmCache

open Library Library.Execution Library.Cache

variable {ρ : Type} [Row ρ]

/-! ## The law -/

def Same (s : Cached ρ) : CacheOp ρ → Prop
  | .get call => (call.run s).1 = call.plain s.store
  | .fromIds ids => ∀ row, row ∈ (fromIds ids s).1 ↔ row ∈ plainFromIds ids s.store
  | _ => True

/-- So does the operation itself, if it is a read, and every read by key that may come next. -/
structure Transparent (s : Cached ρ) (op : CacheOp ρ) : Prop where
  same : Same s op
  next : ∀ pk, Same (op.exec s) (.get (.byPk pk))

variable {store : Store ρ}

theorem plain_eq_ok {call : Get ρ} {row : ρ} :
    call.plain store = .ok row ↔ store.rows.filter (call.meets store.rows) = [row] := by
  unfold Get.plain
  cases store.rows.filter (call.meets store.rows) with
  | nil => simp
  | cons a rest =>
    cases rest with
    | nil => simp
    | cons b rest => simp

theorem plain_eq_ok_iff {call : Get ρ} {row : ρ} (hrow : row ∈ store.rows) :
    call.plain store = .ok row ↔ call.meets store.rows row = true ∧
      ∀ other ∈ store.rows, call.meets store.rows other = true → other = row := by
  rw [plain_eq_ok]
  constructor
  · intro h
    constructor
    · have hmem : row ∈ store.rows.filter (call.meets store.rows) := by
        rw [h]
        exact List.mem_cons_self
      exact (List.mem_filter.mp hmem).2
    · intro other hother hmeets
      have hmem := List.mem_filter.mpr ⟨hother, hmeets⟩
      rw [h] at hmem
      exact List.mem_singleton.mp hmem
  · rintro ⟨hmeets, honly⟩
    have hnodup : (store.rows.filter (call.meets store.rows)).Nodup :=
      (List.Nodup.of_map _ store.nodup).filter _
    refine List.perm_singleton.mp ((List.perm_ext_iff_of_nodup hnodup (by simp)).mpr ?_)
    intro other
    rw [List.mem_filter, List.mem_singleton]
    constructor
    · exact fun h => honly other h.1 h.2
    · rintro rfl
      exact ⟨hrow, hmeets⟩

theorem mem_of_plain {call : Get ρ} {row : ρ}
    (h : call.plain store = .ok row) : row ∈ store.rows := by
  have hmem : row ∈ store.rows.filter (call.meets store.rows) := by
    rw [plain_eq_ok.mp h]
    exact List.mem_cons_self
  exact (List.mem_filter.mp hmem).1

theorem meets_byPk (pk : Nat) (rows : List ρ) (row : ρ) :
    (Get.byPk pk).meets rows row = decide (Row.pk row = pk) := by
  simp [Get.byPk, Get.meets, Query.all, Kwargs.meets, Kwargs.none, eq_comm, beq_eq_decide]

theorem plain_byPk {pk : Nat} {row : ρ} :
    (Get.byPk pk).plain store = .ok row ↔ store.get? pk = some row := by
  rw [Store.get?_eq_some]
  constructor
  · intro h
    have hmem := mem_of_plain h
    refine ⟨hmem, ?_⟩
    have hmeets := ((plain_eq_ok_iff hmem).mp h).1
    rw [meets_byPk] at hmeets
    exact of_decide_eq_true hmeets
  · rintro ⟨hmem, rfl⟩
    refine (plain_eq_ok_iff hmem).mpr ⟨?_, ?_⟩
    · rw [meets_byPk]
      exact decide_eq_true rfl
    · intro other hother hmeets
      rw [meets_byPk] at hmeets
      exact Store.eq_of_pk hother hmem (of_decide_eq_true hmeets)

def Sound (s : Cached ρ) : Prop := Coherent s.cache s.store.get?

theorem sound_start (store : Store ρ) : Sound (.start store) := coherent_empty _

omit [Row ρ] in
@[simp] theorem key_byPk (pk : Nat) : (Get.byPk pk : Get ρ).key = some pk := rfl

variable {s : Cached ρ}

theorem run_cached {call : Get ρ} {pk : Nat} {item : ρ} (hkey : call.key = some pk)
    (hcached : s.cache pk = some item) : call.run s = (.ok item, s) := by
  unfold Get.run
  rw [hkey]
  dsimp only
  rw [hcached]

theorem run_uncached {call : Get ρ} (h : ∀ pk, call.key = some pk → s.cache pk = none) :
    (call.run s).1 = call.plain s.store := by
  unfold Get.run
  cases hkey : call.key with
  | none => rfl
  | some pk =>
    dsimp only
    rw [h pk hkey]
    dsimp only
    cases call.plain s.store with
    | error e => rfl
    | ok item => rfl

theorem same_byPk_iff (s : Cached ρ) : (∀ pk, Same s (.get (.byPk pk))) ↔ Sound s := by
  constructor
  · intro h pk item hcached
    have hsame : ((Get.byPk pk).run s).1 = (Get.byPk pk).plain s.store := h pk
    rw [run_cached (key_byPk pk) hcached] at hsame
    exact plain_byPk.mp hsame.symm
  · intro h pk
    change ((Get.byPk pk).run s).1 = (Get.byPk pk).plain s.store
    cases hcached : s.cache pk with
    | none =>
      refine run_uncached fun pk' hkey => ?_
      rw [key_byPk] at hkey
      rw [← Option.some.inj hkey]
      exact hcached
    | some item =>
      rw [run_cached (key_byPk pk) hcached]
      exact (plain_byPk.mpr (h pk item hcached)).symm

/-- A read that may use the cache: what is cached meets its conditions and is the only row that
does, and what is found for the cache has the key it is cached under. -/
def Get.Fits (call : Get ρ) (s : Cached ρ) : Prop :=
  ∀ pk, call.key = some pk →
    (∀ item, s.cache pk = some item → call.meets s.store.rows item = true ∧
      ∀ other ∈ s.store.rows, call.meets s.store.rows other = true → other = item) ∧
    (s.cache pk = none → ∀ row ∈ s.store.rows, call.meets s.store.rows row = true →
      (∀ other ∈ s.store.rows, call.meets s.store.rows other = true → other = row) →
        Row.pk row = pk)

/-- A cached row that an update takes is still stored as it was, or its key is still named by the
filter. -/
def UpdateFits (lookup : Lookup ρ) (values : ρ → ρ) (s : Cached ρ) : Prop :=
  let rows := s.store.updated lookup values
  (rows.map Row.pk).Nodup → ∀ pk row, s.cache pk = some row → lookup s.store.rows row = true →
    row ∈ rows ∨ ∃ other ∈ rows, Row.pk other = pk ∧ lookup rows other = true

def Fits (s : Cached ρ) : CacheOp ρ → Prop
  | .get call => call.Fits s
  | .update lookup values => UpdateFits lookup values s
  | _ => True

/-! ## Each operation -/

theorem same_get_iff (h : Sound s) (call : Get ρ) :
    Same s (.get call) ↔ ∀ pk item, call.key = some pk → s.cache pk = some item →
      call.meets s.store.rows item = true ∧
        ∀ other ∈ s.store.rows, call.meets s.store.rows other = true → other = item := by
  constructor
  · intro hsame pk item hkey hcached
    have hsame : (call.run s).1 = call.plain s.store := hsame
    rw [run_cached hkey hcached] at hsame
    have hmem := (Store.get?_eq_some.mp (h pk item hcached)).1
    exact (plain_eq_ok_iff hmem).mp hsame.symm
  · intro hfits
    change (call.run s).1 = call.plain s.store
    by_cases hused : ∃ pk item, call.key = some pk ∧ s.cache pk = some item
    · obtain ⟨pk, item, hkey, hcached⟩ := hused
      rw [run_cached hkey hcached]
      have hmem := (Store.get?_eq_some.mp (h pk item hcached)).1
      exact ((plain_eq_ok_iff hmem).mpr (hfits pk item hkey hcached)).symm
    · refine run_uncached fun pk hkey => ?_
      cases hcached : s.cache pk with
      | none => rfl
      | some item => exact absurd ⟨pk, item, hkey, hcached⟩ hused

theorem sound_get_iff (h : Sound s) (call : Get ρ) :
    Sound (CacheOp.exec (.get call) s) ↔ ∀ pk, call.key = some pk → s.cache pk = none →
      ∀ row ∈ s.store.rows, call.meets s.store.rows row = true →
        (∀ other ∈ s.store.rows, call.meets s.store.rows other = true → other = row) →
          Row.pk row = pk := by
  change Sound (call.run s).2 ↔ _
  cases hkey : call.key with
  | none =>
    have hrun : call.run s = (call.plain s.store, s) := by
      unfold Get.run
      rw [hkey]
    rw [hrun]
    exact ⟨fun _ pk hpk => absurd hpk (by simp), fun _ => h⟩
  | some pk =>
    cases hcached : s.cache pk with
    | some item =>
      rw [run_cached hkey hcached]
      refine ⟨fun _ pk' hpk hnone => ?_, fun _ => h⟩
      rw [← Option.some.inj hpk, hcached] at hnone
      exact absurd hnone (by simp)
    | none =>
      cases hplain : call.plain s.store with
      | error e =>
        have hrun : call.run s = (.error e, s) := by
          unfold Get.run
          simp only [hkey, hcached, hplain]
        rw [hrun]
        refine ⟨fun _ pk' _ _ row hrow hmeets honly => ?_, fun _ => h⟩
        rw [(plain_eq_ok_iff hrow).mpr ⟨hmeets, honly⟩] at hplain
        exact absurd hplain (by simp)
      | ok item =>
        have hrun : call.run s = (.ok item, { s with cache := remember s.cache pk item }) := by
          unfold Get.run
          simp only [hkey, hcached, hplain]
        rw [hrun]
        have hmem := mem_of_plain hplain
        have hitem := (plain_eq_ok_iff hmem).mp hplain
        have hsound : Sound { s with cache := remember s.cache pk item } ↔
            s.store.get? pk = some item := coherent_remember_iff h
        change Sound { s with cache := remember s.cache pk item } ↔ _
        rw [hsound, Store.get?_eq_some]
        constructor
        · rintro ⟨_, hpk⟩ pk' hpk' _ row hrow hmeets honly
          rw [hitem.2 row hrow hmeets, hpk]
          exact Option.some.inj hpk'
        · intro hfits
          exact ⟨hmem, hfits pk rfl hcached item hmem hitem.1 hitem.2⟩

theorem get_iff (h : Sound s) (call : Get ρ) :
    Transparent s (.get call) ↔ call.Fits s := by
  constructor
  · rintro ⟨hsame, hnext⟩ pk hkey
    refine ⟨fun item hcached => (same_get_iff h call).mp hsame pk item hkey hcached, ?_⟩
    exact (sound_get_iff h call).mp ((same_byPk_iff _).mp hnext) pk hkey
  · intro hfits
    constructor
    · exact (same_get_iff h call).mpr fun pk item hkey => (hfits pk hkey).1 item
    · exact (same_byPk_iff _).mpr ((sound_get_iff h call).mpr fun pk hkey => (hfits pk hkey).2)

theorem write_iff {op : CacheOp ρ} (hsame : Same s op) :
    Transparent s op ↔ Sound (op.exec s) := by
  constructor
  · rintro ⟨_, hnext⟩
    exact (same_byPk_iff _).mp hnext
  · exact fun hsound => ⟨hsame, (same_byPk_iff _).mpr hsound⟩

theorem sound_save (h : Sound s) (row : ρ) : Sound (save row s) := by
  refine coherent_forget_iff.mpr ?_
  intro pk item hcached hkey
  obtain ⟨hmem, hpk⟩ := Store.get?_eq_some.mp (h pk item hcached)
  refine Store.get?_eq_some.mpr ⟨List.mem_cons_of_mem _ (List.mem_filter.mpr ⟨hmem, ?_⟩), hpk⟩
  refine decide_eq_true ?_
  rw [hpk]
  simpa using hkey

theorem sound_delete (h : Sound s) (lookup : Lookup ρ) :
    Sound (delete lookup s) := by
  refine coherent_forget_iff.mpr ?_
  intro pk item hcached hkey
  obtain ⟨hmem, hpk⟩ := Store.get?_eq_some.mp (h pk item hcached)
  refine Store.get?_eq_some.mpr ⟨List.mem_filter.mpr ⟨hmem, ?_⟩, hpk⟩
  cases hlookup : lookup s.store.rows item with
  | false => rfl
  | true =>
    refine absurd (List.mem_map.mpr ⟨item, List.mem_filter.mpr ⟨hmem, hlookup⟩, hpk⟩) hkey

theorem mem_updated_of_not {lookup : Lookup ρ} {values : ρ → ρ} {row : ρ}
    (hmem : row ∈ store.rows) (h : lookup store.rows row = false) :
    row ∈ store.updated lookup values :=
  List.mem_map.mpr ⟨row, hmem, by rw [h]; rfl⟩

theorem sound_update_iff (h : Sound s) (lookup : Lookup ρ) (values : ρ → ρ) :
    Sound (update lookup values s) ↔ UpdateFits lookup values s := by
  unfold update Store.update UpdateFits
  dsimp only
  by_cases hnodup : ((s.store.updated lookup values).map Row.pk).Nodup
  · rw [dif_pos hnodup]
    refine coherent_forget_iff.trans ?_
    constructor
    · intro hsound _ pk item hcached _
      by_cases hnamed : ∃ other ∈ s.store.updated lookup values,
          Row.pk other = pk ∧ lookup (s.store.updated lookup values) other = true
      · exact Or.inr hnamed
      · refine Or.inl (Store.get?_eq_some.mp (hsound pk item hcached ?_)).1
        intro hmem
        obtain ⟨other, hother, hpk⟩ := List.mem_map.mp hmem
        obtain ⟨hother, hlookup⟩ := List.mem_filter.mp hother
        exact hnamed ⟨other, hother, hpk, hlookup⟩
    · intro hfits pk item hcached hkey
      obtain ⟨hmem, hpk⟩ := Store.get?_eq_some.mp (h pk item hcached)
      refine Store.get?_eq_some.mpr ⟨?_, hpk⟩
      cases hlookup : lookup s.store.rows item with
      | false => exact mem_updated_of_not hmem hlookup
      | true =>
        rcases hfits hnodup pk item hcached hlookup with hstays | ⟨other, hother, hpk', hnamed⟩
        · exact hstays
        · refine absurd (List.mem_map.mpr ⟨other, ?_, hpk'⟩) hkey
          exact List.mem_filter.mpr ⟨hother, hnamed⟩
  · rw [dif_neg hnodup]
    exact ⟨fun _ hnodup' => absurd hnodup' hnodup, fun _ => h⟩

theorem same_fromIds (h : Sound s) (ids : List Nat) : Same s (.fromIds ids) := by
  have hcached : Coherent (cachedDict s ids) s.store.get? := by
    refine Coherent.foldl_remember (coherent_empty _) fun item hitem => ?_
    obtain ⟨pk, _, hpk⟩ := List.mem_filterMap.mp hitem
    have hstored := h pk item hpk
    rw [(Store.get?_eq_some.mp hstored).2]
    exact hstored
  have hrows : ∀ row ∈ uncached s ids, s.store.get? (Row.pk row) = some row := fun row hrow =>
    Store.get?_eq_some.mpr ⟨(List.mem_filter.mp hrow).1, rfl⟩
  have hdict := Coherent.foldl_remember hcached hrows
  intro row
  unfold fromIds plainFromIds
  rw [List.mem_filterMap, List.mem_filter]
  constructor
  · rintro ⟨pk, hpk, hrow⟩
    obtain ⟨hmem, rfl⟩ := Store.get?_eq_some.mp (hdict pk row hrow)
    exact ⟨hmem, decide_eq_true hpk⟩
  · rintro ⟨hmem, hid⟩
    refine ⟨Row.pk row, of_decide_eq_true hid, ?_⟩
    obtain ⟨other, hother⟩ : ∃ other, (uncached s ids).foldl
        (fun dict item => remember dict (Row.pk item) item) (cachedDict s ids) (Row.pk row) =
          some other := by
      refine Option.isSome_iff_exists.mp (foldl_remember_isSome ?_)
      cases hdict : cachedDict s ids (Row.pk row) with
      | some item => exact Or.inl rfl
      | none =>
        refine Or.inr ⟨row, List.mem_filter.mpr ⟨hmem, ?_⟩, rfl⟩
        rw [hid, hdict]
        rfl
    have hstored := hdict _ _ hother
    rw [Store.get?_eq_some.mpr ⟨hmem, rfl⟩] at hstored
    rw [hother, Option.some.inj hstored]

theorem sound_fromIds (h : Sound s) (ids : List Nat) :
    Sound (CacheOp.exec (.fromIds ids) s) :=
  Coherent.foldl_remember h fun _ hrow =>
    Store.get?_eq_some.mpr ⟨(List.mem_filter.mp hrow).1, rfl⟩

theorem transparent_iff_fits (h : Sound s) (op : CacheOp ρ) :
    Transparent s op ↔ Fits s op := by
  cases op with
  | save row =>
    rw [write_iff (show Same s (.save row) from trivial)]
    exact ⟨fun _ => trivial, fun _ => sound_save h row⟩
  | delete lookup =>
    rw [write_iff (show Same s (.delete lookup) from trivial)]
    exact ⟨fun _ => trivial, fun _ => sound_delete h lookup⟩
  | update lookup values =>
    rw [write_iff (show Same s (.update lookup values) from trivial)]
    exact sound_update_iff h lookup values
  | get call => exact get_iff h call
  | fromIds ids =>
    rw [write_iff (same_fromIds h ids)]
    exact ⟨fun _ => trivial, fun _ => sound_fromIds h ids⟩

structure WeiXinUser where
  id : Nat
  isvalid : Bool
  deriving DecidableEq, Repr

instance : Row WeiXinUser where
  pk := WeiXinUser.id
  withPk n user := { user with id := n }

def unchecked : Store WeiXinUser where
  rows := [⟨1, false⟩]
  nodup := by decide

/-- `filter(isvalid=False).update(isvalid=True)`. -/
def validate : CacheOp WeiXinUser :=
  .update (fun _ user => !user.isvalid) fun user => { user with isvalid := true }

end ShopManager.OrmCache
