import Datacube.Proofs.Number.Integer
import Datacube.Proofs.Outcome
import Datacube.Sample.Coverages

-- The stored points that are listed for cells. Fewer cells list some of the same points, and each
-- of them as before.
namespace Datacube

open Result

-- Cells between the bounds of others.
structure CellExtent.Within (inner outer : CellExtent) : Prop where
  lo : outer.lo ≤ inner.lo
  hi : inner.hi ≤ outer.hi

namespace Store

-- Each coordinate for which there are cells lies between the doubles next to their bounds.
def PointRecord.Inside (p : PointRecord) (cells : List CellExtent) : Prop :=
  ∀ (i : Nat) (v : Float) (cell : CellExtent), p.position[i]? = some v → cells[i]? = some cell →
    Float.ofInt cell.lo ≤ v ∧ v ≤ Float.ofInt cell.hi

-- What is listed for cells: the stored points inside them in stored order, each with its place
-- among all that are stored.
structure Listed (s : Store) (id : String) (cells : List CellExtent)
    (members : List (PointRecord × Nat)) : Prop where
  sublist : members.Sublist (s.pointsOf id).zipIdx
  mem_iff : ∀ p i, (p, i) ∈ members ↔ (s.pointsOf id)[i]? = some p ∧ PointRecord.Inside p cells

-- The text of these members. It does not tell for which cells they were listed.
def membersText (c : Coverage) (requested : String) (members : List (PointRecord × Nat)) : String :=
  String.join (members.map fun (p, i) =>
    pointMember requested (Crs.escape (Crs.compound c.externalCrsList)) p i)

variable {s : Store} {id requested : String} {c : Coverage} {p : PointRecord}
  {cells inner outer : List CellExtent}

theorem within_eq_true_iff : PointRecord.within p cells = true ↔ PointRecord.Inside p cells := by
  simp only [PointRecord.within, List.all_eq_true, Bool.and_eq_true, decide_eq_true_eq, Prod.forall]
  constructor
  · intro h i v cell hv hcell
    apply h v cell
    exact List.mem_of_getElem? (List.getElem?_zip_eq_some.mpr ⟨hv, hcell⟩)
  · intro h v cell hmem
    obtain ⟨i, hi⟩ := List.mem_iff_getElem?.mp hmem
    obtain ⟨hv, hcell⟩ := List.getElem?_zip_eq_some.mp hi
    exact h i v cell hv hcell

-- Integers in order have doubles in order, so that rounding the bounds does not matter.
theorem PointRecord.Inside.mono (h : PointRecord.Inside p inner)
    (hwithin : List.Forall₂ CellExtent.Within inner outer) : PointRecord.Inside p outer := by
  intro i v cell hv hcell
  obtain ⟨hi, rfl⟩ := List.getElem?_eq_some_iff.mp hcell
  have hi' : i < inner.length := hwithin.length_eq ▸ hi
  have hcells := hwithin.get hi' hi
  obtain ⟨hlo, hhi⟩ := h i v _ hv (List.getElem?_eq_getElem hi')
  exact ⟨Number.float_le_trans (Number.ofInt_mono hcells.lo) hlo,
    Number.float_le_trans hhi (Number.ofInt_mono hcells.hi)⟩

def listed (s : Store) (id : String) (cells : List CellExtent) : List (PointRecord × Nat) :=
  (s.pointsOf id).zipIdx.filter fun (p, _) => PointRecord.within p cells

theorem listed_listed (s : Store) (id : String) (cells : List CellExtent) :
    s.Listed id cells (s.listed id cells) := by
  refine ⟨List.filter_sublist, fun p i => ?_⟩
  rw [listed, List.mem_filter, List.mem_zipIdx_iff_getElem?, within_eq_true_iff]

theorem coverageData_eq_ok (hread : s.read id = .ok c) :
    s.coverageData id requested cells = .ok (membersText c requested (s.listed id cells)) := by
  rw [coverageData, hread, ok_bind]
  rfl

theorem coverageData_eq_error {e : Error} (hread : s.read id = .error e) :
    s.coverageData id requested cells = .error e := by
  rw [coverageData, hread]
  rfl

theorem listed_sublist (hwithin : List.Forall₂ CellExtent.Within inner outer) :
    (s.listed id inner).Sublist (s.listed id outer) := by
  apply List.monotone_filter_right
  intro entry h
  rw [within_eq_true_iff] at h ⊢
  exact h.mono hwithin

-- For narrower cells some of the same points are listed, in the same order and each with the same
-- text. Which ones they are is seen from the points alone.
theorem points_narrowed (s : Store) (id requested : String) (inner outer : List CellExtent)
    (hwithin : List.Forall₂ CellExtent.Within inner outer) :
    (∀ e, s.read id = .error e →
      s.coverageData id requested inner = .error e ∧
        s.coverageData id requested outer = .error e) ∧
    ∀ c, s.read id = .ok c → ∃ few many, few.Sublist many ∧
      s.Listed id inner few ∧ s.Listed id outer many ∧
      s.coverageData id requested inner = .ok (membersText c requested few) ∧
      s.coverageData id requested outer = .ok (membersText c requested many) := by
  constructor
  · intro e hread
    exact ⟨coverageData_eq_error hread, coverageData_eq_error hread⟩
  · intro c hread
    exact ⟨s.listed id inner, s.listed id outer, listed_sublist hwithin, listed_listed s id inner,
      listed_listed s id outer, coverageData_eq_ok hread, coverageData_eq_ok hread⟩

-- A quarter of the plane holds the second of three points, which keeps its number.
theorem points_narrowed_quarter :
    ∃ c inner outer, Sample.store.read "pointcloud" = .ok c ∧
      List.Forall₂ CellExtent.Within inner outer ∧
      (Sample.store.coverageData "pointcloud" "q" inner).toOption =
        some ("<gml:Point gml:id=\"q-p1\" srsName=\"http://www.opengis.net/def/crs/EPSG/0/4326\">" ++
          "<gml:pos>20 80</gml:pos></gml:Point>\n") ∧
      ∃ few many, few.Sublist many ∧ Sample.store.Listed "pointcloud" inner few ∧
        Sample.store.Listed "pointcloud" outer many ∧
        Sample.store.coverageData "pointcloud" "q" inner = .ok (membersText c "q" few) ∧
        Sample.store.coverageData "pointcloud" "q" outer = .ok (membersText c "q" many) := by
  have hwithin : List.Forall₂ CellExtent.Within [⟨0, 50, none⟩, ⟨50, 100, none⟩]
      [⟨0, 100, none⟩, ⟨0, 100, none⟩] :=
    .cons ⟨by decide, by decide⟩ (.cons ⟨by decide, by decide⟩ .nil)
  obtain ⟨c, hread⟩ : ∃ c, Sample.store.read "pointcloud" = .ok c := ⟨_, rfl⟩
  exact ⟨c, _, _, hread, hwithin, by decide +kernel,
    (points_narrowed _ _ "q" _ _ hwithin).2 c hread⟩

end Store

end Datacube
