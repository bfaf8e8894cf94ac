import Datacube.Catalog
import Datacube.Proofs.Schema.Sound
import Datacube.Proofs.Text.Trim
import Datacube.Sample.Coverages

-- What a store holds of the catalog it was loaded from.
namespace Datacube

open Result

namespace Store

variable {α : Type} {s store : Store}

-- One name gets the value, and every other name keeps its own.
theorem lookup_put (name key : String) (value : α) (entries : List (String × α)) :
    (put name value entries).lookup key =
      if key = name then some value else entries.lookup key := by
  have hcons : ∀ (other : String) (v : α) (rest : List (String × α)),
      ((other, v) :: rest).lookup key = if key = other then some v else rest.lookup key := by
    intro other v rest
    by_cases hkey : key = other
    · simp [hkey]
    · simp [List.lookup_cons, hkey, beq_false_of_ne hkey]
  induction entries with
  | nil => exact hcons name value []
  | cons entry rest ih =>
      obtain ⟨other, old⟩ := entry
      unfold put
      split
      · next hname =>
        rw [hcons, hcons, ← hname]
        split <;> rfl
      · next hother =>
        split
        · rw [hcons]
        · rw [hcons, hcons, ih]
          by_cases hkey : key = name
          · rw [if_neg (hkey ▸ hother), if_pos hkey, if_pos hkey]
          · rw [if_neg hkey, if_neg hkey]

theorem read_insert (s : Store) (c : Coverage) (id : String) :
    (s.insert c).read id = if id = c.name then .ok c else s.read id := by
  unfold read insert
  rw [lookup_put]
  by_cases hid : id = c.name
  · rw [if_pos hid, if_pos hid]
  · rw [if_neg hid, if_neg hid]

theorem read_of_forall_ne {id : String} (h : ∀ c, s.read id ≠ .ok c) :
    s.read id = .error (.unknownCoverage id) := by
  unfold read at h ⊢
  split
  · next c hlookup => exact absurd (by rw [hlookup]) (h c)
  · rfl

@[simp] theorem read_insertPoints (s : Store) (key : String) (points : List PointRecord)
    (id : String) : (s.insertPoints key points).read id = s.read id := rfl

theorem pointsOf_insertPoints (s : Store) (key : String) (points : List PointRecord)
    (id : String) :
    (s.insertPoints key points).pointsOf id = if id = key then points else s.pointsOf id := by
  unfold pointsOf insertPoints
  rw [lookup_put]
  split <;> rfl

-- Names that are sorted stay sorted.
theorem pairwise_put {name : String} {value : α} {entries : List (String × α)}
    (h : (entries.map (·.1)).Pairwise (· < ·)) :
    ((put name value entries).map (·.1)).Pairwise (· < ·) := by
  induction entries with
  | nil => simp [put]
  | cons entry rest ih =>
      obtain ⟨other, old⟩ := entry
      obtain ⟨hfirst, hrest⟩ := List.pairwise_cons.mp h
      unfold put
      split
      · next hname => exact List.pairwise_cons.mpr ⟨hname ▸ hfirst, hrest⟩
      · next hother =>
        split
        · next hlt =>
          refine List.pairwise_cons.mpr ⟨fun later hlater => ?_, h⟩
          rcases List.mem_cons.mp hlater with rfl | hlater
          · exact hlt
          · exact String.lt_trans hlt (hfirst later hlater)
        · next hge =>
          refine List.pairwise_cons.mpr ⟨fun later hlater => ?_, ih hrest⟩
          obtain ⟨entry, hentry, rfl⟩ := List.mem_map.mp hlater
          rcases mem_put hentry with rfl | hentry
          · exact Std.lt_of_le_of_ne (String.not_lt.mp hge) (Ne.symm hother)
          · exact hfirst _ (List.mem_map_of_mem hentry)

-- The members that are listed depend on the points under one name only.
theorem pointMembers_congr {c : Coverage} {id requested : String} {cells : List CellExtent}
    (h : s.pointsOf id = store.pointsOf id) :
    s.pointMembers c id requested cells = store.pointMembers c id requested cells := by
  unfold pointMembers
  rw [h]

-- A coverage is there under the name, and what is listed for it is what a store of just these
-- points lists.
def Lists (s : Store) (id : String) (points : List PointRecord) : Prop :=
  ∃ m, s.read id = .ok m ∧ ∀ requested cells, s.coverageData id requested cells =
    .ok (String.join ((empty.insertPoints id points).pointMembers m id requested cells))

theorem lists_of_pointsOf {id : String} {points : List PointRecord} {m : Coverage}
    (hread : s.read id = .ok m) (hpoints : s.pointsOf id = points) : s.Lists id points := by
  refine ⟨m, hread, fun requested cells => ?_⟩
  rw [coverageData, hread, ok_bind]
  have hlone : s.pointsOf id = (empty.insertPoints id points).pointsOf id := by
    rw [pointsOf_insertPoints, if_pos rfl, hpoints]
  rw [pointMembers_congr hlone]
  rfl

end Store

theorem Coverage.name_of_ofDef {d : CoverageDef} {c : Coverage} (h : Coverage.ofDef d = .ok c) :
    c.name = Text.trim d.name := by
  simp only [Coverage.ofDef, throw_bind, ite_throw_eq_ok, bind_eq_ok, pure_eq_ok] at h
  obtain ⟨-, -, -, axes, -, rfl⟩ := h
  rfl

section Definitions

variable {s store : Store} {defs : List CoverageDef}

-- The last definition of a name, blanks around it apart.
def lastNamed (defs : List CoverageDef) (id : String) : Option CoverageDef :=
  defs.reverse.find? (Text.trim ·.name = id)

theorem lastNamed_cons (d : CoverageDef) (id : String) :
    lastNamed (d :: defs) id =
      (lastNamed defs id).or (if Text.trim d.name = id then some d else none) := by
  rw [lastNamed, List.reverse_cons, List.find?_append, List.find?_singleton]
  by_cases hname : Text.trim d.name = id
  · simp [lastNamed, hname]
  · simp [lastNamed, hname]

theorem mem_of_lastNamed {d : CoverageDef} {id : String} (h : lastNamed defs id = some d) :
    d ∈ defs ∧ Text.trim d.name = id :=
  ⟨List.mem_reverse.mp (List.mem_of_find?_eq_some h), by simpa using List.find?_some h⟩

theorem exists_lastNamed {d : CoverageDef} (h : d ∈ defs) :
    ∃ last, lastNamed defs (Text.trim d.name) = some last := by
  have hfound : (lastNamed defs (Text.trim d.name)).isSome := by
    rw [lastNamed, List.find?_isSome]
    exact ⟨d, List.mem_reverse.mpr h, by simp⟩
  exact Option.isSome_iff_exists.mp hfound

theorem Store.ofDef_of_insertDefs (h : s.insertDefs defs = .ok store) :
    ∀ d ∈ defs, ∃ c, Coverage.ofDef d = .ok c := by
  induction defs generalizing s with
  | nil => simp
  | cons d defs ih =>
      simp only [insertDefs, List.foldlM_cons, bind_eq_ok, pure_eq_ok] at h
      obtain ⟨_, ⟨c, hc, rfl⟩, hrest⟩ := h
      simp only [List.mem_cons, forall_eq_or_imp]
      exact ⟨⟨c, hc⟩, ih hrest⟩

-- A later definition takes the place of an earlier one of its name.
theorem Store.read_of_insertDefs (h : s.insertDefs defs = .ok store) (id : String) :
    store.read id = (lastNamed defs id).elim (s.read id) Coverage.ofDef := by
  induction defs generalizing s with
  | nil =>
      obtain rfl := pure_eq_ok.mp h
      rfl
  | cons d defs ih =>
      simp only [insertDefs, List.foldlM_cons, bind_eq_ok, pure_eq_ok] at h
      obtain ⟨_, ⟨c, hc, rfl⟩, hrest⟩ := h
      rw [ih hrest, lastNamed_cons, read_insert, Coverage.name_of_ofDef hc]
      cases lastNamed defs id with
      | some last => rw [Option.some_or, Option.elim_some, Option.elim_some]
      | none =>
          by_cases hname : Text.trim d.name = id
          · simp [hname, hc]
          · simp [hname, Ne.symm hname]

end Definitions

namespace Catalog

variable {c : Catalog} {s store : Store}

section Points

variable {points : List (String × List PointRecord)} {key : String}

theorem addPoints_eq_ok {entry : String × List PointRecord}
    (h : c.addPoints s entry = .ok store) :
    (∃ d ∈ c.coverages, d.name = entry.1) ∧ store = s.insertPoints entry.1 entry.2 := by
  unfold addPoints at h
  split at h
  · next hknown => exact ⟨by simpa using hknown, (Except.ok.inj h).symm⟩
  · cases h

theorem read_of_addPoints (h : points.foldlM c.addPoints s = .ok store) (id : String) :
    store.read id = s.read id := by
  refine foldlM_preserves (P := fun s' : Store => s'.read id = s.read id) ?_ rfl h
  intro entry _ before after hbefore hstep
  obtain ⟨-, rfl⟩ := addPoints_eq_ok hstep
  exact hbefore

theorem pointsOf_of_not_mem (h : points.foldlM c.addPoints s = .ok store)
    (hkey : key ∉ points.map (·.1)) : store.pointsOf key = s.pointsOf key := by
  refine foldlM_preserves (P := fun s' : Store => s'.pointsOf key = s.pointsOf key) ?_ rfl h
  intro entry hentry before after hbefore hstep
  obtain ⟨-, rfl⟩ := addPoints_eq_ok hstep
  have hne : key ≠ entry.1 := fun heq => hkey (heq ▸ List.mem_map_of_mem hentry)
  rw [Store.pointsOf_insertPoints, if_neg hne, hbefore]

-- Every list of points stands under the name of some definition as it is written, and is stored
-- under it.
theorem points_of_addPoints (h : points.foldlM c.addPoints s = .ok store)
    (hkeys : (points.map (·.1)).Nodup) : ∀ entry ∈ points,
    (∃ d ∈ c.coverages, d.name = entry.1) ∧ store.pointsOf entry.1 = entry.2 := by
  induction points generalizing s with
  | nil => simp
  | cons first rest ih =>
      rw [List.foldlM_cons, bind_eq_ok] at h
      obtain ⟨next, hstep, hrest⟩ := h
      obtain ⟨hnew, hkeys⟩ := List.nodup_cons.mp hkeys
      obtain ⟨hknown, rfl⟩ := addPoints_eq_ok hstep
      simp only [List.mem_cons, forall_eq_or_imp]
      refine ⟨⟨hknown, ?_⟩, ih hrest hkeys⟩
      rw [pointsOf_of_not_mem hrest hnew, Store.pointsOf_insertPoints, if_pos rfl]

end Points

theorem pairwise_of_readPoints {v : Json} {points : List (String × List PointRecord)}
    (h : readPoints v = some points) : (points.map (·.1)).Pairwise (· < ·) := by
  simp only [readPoints, Option.bind_eq_bind, Option.bind_eq_some_iff] at h
  obtain ⟨members, -, h⟩ := h
  have hsorted : (([] : List (String × List PointRecord)).map (·.1)).Pairwise (· < ·) :=
    List.Pairwise.nil
  generalize ([] : List (String × List PointRecord)) = before at h hsorted
  induction members generalizing before with
  | nil =>
      obtain rfl := Option.some.inj h
      exact hsorted
  | cons member members ih =>
      rw [List.foldlM_cons] at h
      simp only [Option.bind_eq_bind, Option.bind_eq_some_iff, Option.pure_def,
        Option.some.injEq] at h
      obtain ⟨_, ⟨given, -, rfl⟩, hrest⟩ := h
      exact ih _ hrest (Store.pairwise_put hsorted)

-- A catalog that was read has the names of its points in order, so none of them twice.
theorem nodup_of_parse {env : Environment} {path text : String}
    (h : Catalog.parse env path text = .ok c) : (c.points.map (·.1)).Nodup := by
  have hsorted : (c.points.map (·.1)).Pairwise (· < ·) := by
    unfold Catalog.parse at h
    split at h
    · cases h
    · split at h
      · next catalog hread =>
        obtain rfl := Except.ok.inj h
        obtain ⟨v, -, hv⟩ := Option.bind_eq_some_iff.mp hread
        simp only [ofJson?, Option.bind_eq_bind, Option.bind_eq_some_iff, Option.pure_def,
          Option.some.injEq] at hv
        obtain ⟨members, -, coverages, -, points, hpoints, rfl⟩ := hv
        simp only [Json.withDefault, Option.bind_eq_bind, Option.bind_eq_some_iff] at hpoints
        obtain ⟨field, -, hfield⟩ := hpoints
        split at hfield
        · exact pairwise_of_readPoints hfield
        · obtain rfl := Option.some.inj hfield
          exact List.Pairwise.nil
      · cases h
  refine hsorted.imp fun {a b} hlt heq => ?_
  exact String.lt_irrefl b (heq ▸ hlt)

theorem toStore_eq_ok (h : c.toStore = .ok store) :
    ∃ s, Store.ofDefs c.coverages = .ok s ∧ c.points.foldlM c.addPoints s = .ok store := by
  unfold toStore at h
  split at h
  · cases h
  · next s hs => exact ⟨s, hs, h⟩

-- What is found under a name is what its last definition says.
theorem read_of_toStore (h : c.toStore = .ok store) (id : String) :
    store.read id =
      (lastNamed c.coverages id).elim (.error (.unknownCoverage id)) Coverage.ofDef := by
  obtain ⟨s, hs, hpoints⟩ := toStore_eq_ok h
  rw [read_of_addPoints hpoints, Store.read_of_insertDefs hs]
  rfl

theorem trimmed_of_read {id : String} {m : Coverage} (h : c.toStore = .ok store)
    (hread : store.read id = .ok m) : Text.Trimmed id := by
  rw [read_of_toStore h] at hread
  cases hlast : lastNamed c.coverages id with
  | none => simp [hlast] at hread
  | some d =>
      obtain ⟨-, rfl⟩ := mem_of_lastNamed hlast
      exact Text.trim_trim d.name

theorem lists_iff (h : c.toStore = .ok store) (hkeys : (c.points.map (·.1)).Nodup)
    {entry : String × List PointRecord} (hentry : entry ∈ c.points) :
    store.Lists entry.1 entry.2 ↔ Text.Trimmed entry.1 := by
  constructor
  · rintro ⟨m, hread, -⟩
    exact trimmed_of_read h hread
  · intro htrimmed
    obtain ⟨s, hs, hpoints⟩ := toStore_eq_ok h
    obtain ⟨⟨d, hd, hname⟩, hstored⟩ := points_of_addPoints hpoints hkeys entry hentry
    -- The definition that the points were accepted for has their name, blanks and all.
    have hown : Text.trim d.name = entry.1 := by
      rw [hname]
      exact htrimmed
    obtain ⟨last, hlast⟩ := exists_lastNamed hd
    obtain ⟨m, hm⟩ := Store.ofDef_of_insertDefs hs last (mem_of_lastNamed hlast).1
    refine Store.lists_of_pointsOf (m := m) ?_ hstored
    rw [read_of_toStore h, ← hown, hlast, Option.elim_some, hm]

-- Nothing of the catalog is lost: every definition is found under its name, and every list of
-- points is listed under its own.
structure Kept (c : Catalog) (s : Store) : Prop where
  coverages : ∀ d ∈ c.coverages,
    ∃ m, Coverage.ofDef d = .ok m ∧ s.read (Text.trim d.name) = .ok m
  points : ∀ entry ∈ c.points, s.Lists entry.1 entry.2

-- Definitions of one name say the same, and no name of points has blanks around it.
structure Unambiguous (c : Catalog) : Prop where
  coverages : ∀ d ∈ c.coverages, ∀ e ∈ c.coverages, Text.trim d.name = Text.trim e.name →
    Coverage.ofDef d = Coverage.ofDef e
  points : ∀ entry ∈ c.points, Text.Trimmed entry.1

theorem Kept.unambiguous (h : c.toStore = .ok store) (hkept : c.Kept store) : c.Unambiguous := by
  refine ⟨fun d hd e he hname => ?_, fun entry hentry => ?_⟩
  · obtain ⟨m, hm, hread⟩ := hkept.coverages d hd
    obtain ⟨n, hn, hread'⟩ := hkept.coverages e he
    rw [hm, hn, ← hread, ← hread', hname]
  · obtain ⟨m, hread, -⟩ := hkept.points entry hentry
    exact trimmed_of_read h hread

theorem Unambiguous.kept (h : c.toStore = .ok store) (hkeys : (c.points.map (·.1)).Nodup)
    (hc : c.Unambiguous) : c.Kept store := by
  refine ⟨fun d hd => ?_, fun entry hentry => ?_⟩
  · obtain ⟨s, hs, -⟩ := toStore_eq_ok h
    obtain ⟨m, hm⟩ := Store.ofDef_of_insertDefs hs d hd
    obtain ⟨last, hlast⟩ := exists_lastNamed hd
    obtain ⟨hmem, hname⟩ := mem_of_lastNamed hlast
    refine ⟨m, hm, ?_⟩
    rw [read_of_toStore h, hlast, Option.elim_some, hc.coverages last hmem d hd hname, hm]
  · exact (lists_iff h hkeys hentry).mpr (hc.points entry hentry)

-- A catalog is kept as a whole just if it is unambiguous. In any case its definitions are all
-- valid, the last one of a name is the one that is found, and points whose name has blanks around
-- it are not found.
theorem kept_iff (h : c.toStore = .ok store) (hkeys : (c.points.map (·.1)).Nodup) :
    (c.Kept store ↔ c.Unambiguous) ∧
      (∀ d ∈ c.coverages, ∃ m, Coverage.ofDef d = .ok m ∧ m.name = Text.trim d.name) ∧
      (∀ id, store.read id =
        (lastNamed c.coverages id).elim (.error (.unknownCoverage id)) Coverage.ofDef) ∧
      ∀ entry ∈ c.points, (store.Lists entry.1 entry.2 ↔ Text.Trimmed entry.1) ∧
        (¬Text.Trimmed entry.1 → ∀ requested cells,
          store.coverageData entry.1 requested cells = .error (.unknownCoverage entry.1)) := by
  refine ⟨⟨fun hkept => hkept.unambiguous h, fun hc => hc.kept h hkeys⟩, fun d hd => ?_,
    read_of_toStore h, fun entry hentry => ⟨lists_iff h hkeys hentry, fun hblank _ _ => ?_⟩⟩
  · obtain ⟨s, hs, -⟩ := toStore_eq_ok h
    obtain ⟨m, hm⟩ := Store.ofDef_of_insertDefs hs d hd
    exact ⟨m, hm, Coverage.name_of_ofDef hm⟩
  · have hlost : store.read entry.1 = .error (.unknownCoverage entry.1) :=
      Store.read_of_forall_ne fun m hread => hblank (trimmed_of_read h hread)
    rw [Store.coverageData, hlost]
    rfl

-- A row of cells and a cloud of points, which has any name.
def rowAndCloud (name : String) : Catalog where
  coverages := [Sample.row, { Sample.pointCloud with name := name }]
  points := [(name, Sample.points)]

theorem kept_iff_rowAndCloud :
    ∃ store, (rowAndCloud "cloud").toStore = .ok store ∧ (rowAndCloud "cloud").Kept store := by
  obtain ⟨store, hstore⟩ : ∃ store, (rowAndCloud "cloud").toStore = .ok store := ⟨_, rfl⟩
  refine ⟨store, hstore, (kept_iff hstore (by decide)).1.mpr ⟨fun d hd e he hname => ?_, ?_⟩⟩
  · have hdistinct : ((rowAndCloud "cloud").coverages.map (Text.trim ·.name)).Nodup := by
      decide +kernel
    rw [List.inj_on_of_nodup_map hdistinct hd he hname]
  · simp only [rowAndCloud, List.mem_singleton, forall_eq]
    exact (by decide +kernel : Text.trim "cloud" = "cloud")

-- The cloud has the name of the row, between blanks: the row and the points are gone.
theorem rowAndCloud_not_kept :
    ∃ store m n, (rowAndCloud " tiny ").toStore = .ok store ∧
      Coverage.ofDef Sample.row = .ok m ∧ store.read "tiny" = .ok n ∧
      m.dimension = 1 ∧ n.dimension = 2 ∧ store.coverageData "tiny" "tiny" [] = .ok "" ∧
      store.coverageData " tiny " "tiny" [] = .error (.unknownCoverage " tiny ") ∧
      ¬(rowAndCloud " tiny ").Kept store := by
  refine ⟨_, _, _, rfl, rfl, rfl, rfl, rfl, rfl, rfl, fun hkept => ?_⟩
  obtain ⟨_, hread, -⟩ := hkept.points _ (List.mem_singleton_self _)
  cases hread

end Catalog

end Datacube
